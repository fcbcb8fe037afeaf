import DocPress.Xml

/-!
Elements written as XML text.
-/

namespace DocPress.XmlElement

def escapeChar (c : Char) : List Char :=
  if c = '&' then "&amp;".toList
  else if c = '<' then "&lt;".toList
  else if c = '>' then "&gt;".toList
  else if c = '"' then "&quot;".toList
  else if c = '\t' then "&#9;".toList
  else if c = '\n' then "&#10;".toList
  else if c = '\r' then "&#13;".toList
  else [c]

def escape (s : String) : List Char := s.toList.flatMap escapeChar

def attrText (attrs : List (String × String)) : List Char :=
  attrs.flatMap fun (name,value) => ' ' :: name.toList ++ "=\"".toList ++ escape value ++ ['"']

mutual

def render : XmlElement → List Char
  | mk name attrs text children =>
    let start := '<' :: name.toList ++ attrText attrs
    if text.isEmpty && children.isEmpty then start ++ "/>".toList
    else start ++ ['>'] ++ escape text ++ renderAll children ++ "</".toList ++ name.toList ++ ['>']

def renderAll : List XmlElement → List Char
  | [] => []
  | e :: es => e.render ++ renderAll es

end

def toFile (root : XmlElement) : List UInt8 :=
  let head := "<?xml version=\"1.0\" encoding=\"UTF-8\" standalone=\"yes\"?>\n"
  (head ++ String.ofList root.render).toUTF8.toList

end DocPress.XmlElement
