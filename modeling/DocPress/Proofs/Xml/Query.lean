import DocPress.Xml

/-! Finding things in elements: attributes and children by name, and all elements of a name at any
depth, in the order of the file. -/

namespace DocPress.XmlElement

@[simp] theorem name_mk (name : String) (attrs : List (String × String)) (text : String)
    (children : List XmlElement) : (mk name attrs text children).name = name := rfl

@[simp] theorem children_mk (name : String) (attrs : List (String × String)) (text : String)
    (children : List XmlElement) : (mk name attrs text children).children = children := rfl

@[simp] theorem name_leaf (name : String) (attrs : List (String × String)) :
    (leaf name attrs).name = name := rfl

@[simp] theorem name_mark (name : String) : (mark name).name = name := rfl

@[simp] theorem name_value (name value : String) : (XmlElement.value name value).name = name := rfl

@[simp] theorem children_leaf (name : String) (attrs : List (String × String)) :
    (leaf name attrs).children = [] := rfl

@[simp] theorem children_mark (name : String) : (mark name).children = [] := rfl

@[simp] theorem children_value (name value : String) :
    (XmlElement.value name value).children = [] := rfl

@[simp] theorem name_parent (name : String) (children : List XmlElement) :
    (parent name children).name = name := rfl

@[simp] theorem children_parent (name : String) (children : List XmlElement) :
    (parent name children).children = children := rfl

@[simp] theorem name_ofText (name : String) (attrs : List (String × String)) (text : String) :
    (ofText name attrs text).name = name := rfl

@[simp] theorem text_ofText (name : String) (attrs : List (String × String)) (text : String) :
    (ofText name attrs text).text = text := rfl

def has (e : XmlElement) (name : String) : Bool := e.children.any (·.name = name)

def each (e : XmlElement) (name : String) : List XmlElement := e.children.filter (·.name = name)

def attr? (e : XmlElement) (name : String) : Option String := e.attrs.lookup name

def child? (e : XmlElement) (name : String) : Option XmlElement := e.children.find? (·.name = name)

theorem has_eq (e : XmlElement) (tag : String) : e.has tag = (e.child? tag).isSome := by
  rw [has,child?,List.isSome_find?]

/-- The value that the first element of a name has right within an element. -/
def childValue? (e : XmlElement) (name : String) : Option String :=
  (e.child? name).bind (·.attr? "w:val")

mutual

/-- The elements of a name in an element, which may be one of them itself. -/
def named (tag : String) : XmlElement → List XmlElement
  | mk name attrs text children =>
    (if name = tag then [mk name attrs text children] else []) ++ allNamed tag children

def allNamed (tag : String) : List XmlElement → List XmlElement
  | [] => []
  | e :: es => e.named tag ++ allNamed tag es

end

variable {tag : String}

@[simp] theorem allNamed_nil : allNamed tag [] = [] := by rw [allNamed]

@[simp] theorem allNamed_cons (e : XmlElement) (es : List XmlElement) :
    allNamed tag (e :: es) = e.named tag ++ allNamed tag es := by rw [allNamed]

@[simp] theorem allNamed_append (es fs : List XmlElement) :
    allNamed tag (es ++ fs) = allNamed tag es ++ allNamed tag fs := by
  induction es with
  | nil => simp
  | cons e es ih => simp [ih]

theorem allNamed_eq (es : List XmlElement) : allNamed tag es = es.flatMap (named tag) := by
  induction es with
  | nil => simp
  | cons e es ih => simp [ih]

theorem mem_allNamed {e : XmlElement} {es : List XmlElement} :
    e ∈ allNamed tag es ↔ ∃ own ∈ es, e ∈ own.named tag := by rw [allNamed_eq,List.mem_flatMap]

theorem allNamed_eq_nil {es : List XmlElement} (without : ∀ e ∈ es, e.named tag = []) :
    allNamed tag es = [] := by
  induction es with
  | nil => simp
  | cons e es ih =>
    rw [allNamed_cons,without e List.mem_cons_self,
      ih fun e member => without e (List.mem_cons_of_mem _ member)]
    rfl

@[simp] theorem named_mk (name : String) (attrs : List (String × String)) (text : String)
    (children : List XmlElement) :
    (mk name attrs text children).named tag =
      (if name = tag then [mk name attrs text children] else []) ++ allNamed tag children := by
  rw [named]

@[simp] theorem named_leaf (name : String) (attrs : List (String × String)) :
    (leaf name attrs).named tag = if name = tag then [leaf name attrs] else [] := by simp [leaf]

@[simp] theorem named_mark (name : String) :
    (mark name).named tag = if name = tag then [mark name] else [] := by simp [mark]

@[simp] theorem named_value (name value : String) :
    (XmlElement.value name value).named tag =
      if name = tag then [XmlElement.value name value] else [] := by simp [XmlElement.value]

@[simp] theorem named_parent (name : String) (children : List XmlElement) :
    (parent name children).named tag =
      (if name = tag then [parent name children] else []) ++ allNamed tag children := by
  simp [parent]

@[simp] theorem named_ofText (name : String) (attrs : List (String × String)) (text : String) :
    (ofText name attrs text).named tag = if name = tag then [ofText name attrs text] else [] := by
  simp [ofText]

theorem named_eq_nil {e : XmlElement} :
    e.named tag = [] ↔ e.name ≠ tag ∧ allNamed tag e.children = [] := by
  cases e
  simp

/-- What every element has that may be written for an item, the element has that is written. -/
theorem forall_option {α : Type} {holds : XmlElement → Prop} (item : Option α)
    {toXml : α → XmlElement} (each : ∀ a, holds (toXml a)) :
    ∀ e ∈ (item.map toXml).toList, holds e := by
  cases item with
  | none => simp
  | some a => simpa using each a

theorem forall_ite {holds : XmlElement → Prop} {asked : Bool} {es : List XmlElement}
    (each : ∀ e ∈ es, holds e) : ∀ e ∈ (if asked then es else []), holds e := by
  cases asked with
  | true => exact each
  | false => simp

/-- Elements that may be left out hold what the element holds that is there. -/
theorem allNamed_option {α : Type} (item : Option α) (toXml : α → XmlElement)
    (without : ∀ a, (toXml a).named tag = []) : allNamed tag (item.map toXml).toList = [] := by
  cases item with
  | none => simp
  | some a => simp [without]

end DocPress.XmlElement
