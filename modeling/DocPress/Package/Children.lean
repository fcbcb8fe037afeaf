import DocPress.Xml

/-!
Changes of what stands in an element. The format lays down in which order elements stand in another one,
and things are added in other orders; so each of them is put in front of those that have to follow it.
-/

namespace DocPress

def insertBefore {α : Type} (marked : α → Bool) (a : α) (items : List α) : List α :=
  items.takeWhile (! marked ·) ++ a :: items.dropWhile (! marked ·)

namespace XmlElement

def withValue (name value : String) : List (String × String) → List (String × String)
  | [] => [(name,value)]
  | attr :: attrs =>
    if attr.1 = name then (name,value) :: attrs else attr :: withValue name value attrs

def setAttr (name value : String) : XmlElement → XmlElement
  | mk own attrs text children => mk own (withValue name value attrs) text children

def dropAttrs (names : List String) : XmlElement → XmlElement
  | mk own attrs text children => mk own (attrs.filter (! names.contains ·.1)) text children

def setChildren (change : List XmlElement → List XmlElement) : XmlElement → XmlElement
  | mk own attrs text children => mk own attrs text (change children)

/-- Puts an element in front of the first child of that name among the successors that comes first of
those that have a child. -/
def insertChild (child : XmlElement) (successors : List String) (children : List XmlElement) :
    List XmlElement :=
  match successors.find? fun name => children.any (·.name = name) with
  | some name => insertBefore (·.name = name) child children
  | none => children ++ [child]

def changeChild (name : String) (change : XmlElement → XmlElement) :
    List XmlElement → List XmlElement
  | [] => []
  | e :: es => if e.name = name then change e :: es else e :: changeChild name change es

def removeChildren (name : String) (children : List XmlElement) : List XmlElement :=
  children.filter (·.name ≠ name)

end XmlElement

open XmlElement

inductive ChildStep where
  | insert (child : XmlElement) (successors : List String)
  | append (child : XmlElement)
  /-- Changes the child of a name. If there is none, an empty one comes first. -/
  | edit (name : String) (successors : List String) (change : XmlElement → XmlElement)
  | adjust (name : String) (change : XmlElement → XmlElement)
  | replace (child : XmlElement) (successors : List String)
  | remove (name : String)

namespace ChildStep

def apply : ChildStep → List XmlElement → List XmlElement
  | insert child successors, children => insertChild child successors children
  | append child, children => children ++ [child]
  | edit name successors change, children =>
    if children.any (·.name = name) then changeChild name change children
    else insertChild (change (mark name)) successors children
  | adjust name change, children => changeChild name change children
  | replace child successors, children =>
    insertChild child successors (removeChildren child.name children)
  | remove name, children => removeChildren name children

def applyAll (steps : List ChildStep) (children : List XmlElement) : List XmlElement :=
  steps.foldl (fun children step => step.apply children) children

end ChildStep

end DocPress
