/-!
Elements of XML, and the characters that may stand in them.
-/

namespace DocPress

inductive XmlElement where
  | mk (name : String) (attrs : List (String × String)) (text : String)
    (children : List XmlElement)

namespace XmlElement

instance : Inhabited XmlElement := ⟨mk "" [] "" []⟩

def name : XmlElement → String
  | mk name _ _ _ => name

def attrs : XmlElement → List (String × String)
  | mk _ attrs _ _ => attrs

def text : XmlElement → String
  | mk _ _ text _ => text

def children : XmlElement → List XmlElement
  | mk _ _ _ children => children

def leaf (name : String) (attrs : List (String × String)) : XmlElement := mk name attrs "" []

def mark (name : String) : XmlElement := mk name [] "" []

def value (name value : String) : XmlElement := mk name [("w:val",value)] "" []

def parent (name : String) (children : List XmlElement) : XmlElement := mk name [] "" children

def ofText (name : String) (attrs : List (String × String)) (text : String) : XmlElement :=
  mk name attrs text []

end XmlElement

namespace Xml

def isAllowed (c : Char) : Bool :=
  (0x20 ≤ c.toNat && c.toNat ≠ 0xFFFE && c.toNat ≠ 0xFFFF) || c = '\t' || c = '\n' || c = '\r'

def isText (s : String) : Bool := s.toList.all isAllowed

end Xml

end DocPress
