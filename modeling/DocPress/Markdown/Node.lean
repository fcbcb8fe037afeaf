/-!
The tree of a Markdown document. Every node has a kind, the properties that some kinds use, and
children; no rule says which kind stands where, so whoever reads a tree has an answer for all.
-/

namespace DocPress

inductive NodeKind where
  | document
  | text
  | emphasis
  | strong
  | delete
  | inlineCode
  | link
  | image
  | paragraph
  | heading
  | blockquote
  | code
  | thematicBreak
  | list
  | listItem
  | table
  | tableRow
  | tableCell
  deriving DecidableEq, Repr

namespace NodeKind

def name : NodeKind → String
  | document => "document"
  | text => "text"
  | emphasis => "emphasis"
  | strong => "strong"
  | delete => "delete"
  | inlineCode => "inline_code"
  | link => "link"
  | image => "image"
  | paragraph => "paragraph"
  | heading => "heading"
  | blockquote => "blockquote"
  | code => "code"
  | thematicBreak => "thematic_break"
  | list => "list"
  | listItem => "list_item"
  | table => "table"
  | tableRow => "table_row"
  | tableCell => "table_cell"

def all : List NodeKind := [document,text,emphasis,strong,delete,inlineCode,link,image,
  paragraph,heading,blockquote,code,thematicBreak,list,listItem,table,tableRow,tableCell]

def ofName? (name : String) : Option NodeKind := all.find? (·.name = name)

end NodeKind

/-- The properties of a node. A kind that does not use one leaves it as it is here. -/
structure NodeProps where
  text : String := ""
  level : Int := 0
  language : String := ""
  url : String := ""
  title : String := ""
  alt : String := ""
  ordered : Bool := false
  start : Int := 1
  /-- The mark of a task; other items have none. -/
  checked : Option Bool := none
  align : String := ""
  deriving DecidableEq, Repr, Inhabited

inductive Node where
  | mk (kind : NodeKind) (props : NodeProps) (children : List Node)

namespace Node

instance : Inhabited Node := ⟨mk .document {} []⟩

def kind : Node → NodeKind
  | mk k _ _ => k

def props : Node → NodeProps
  | mk _ p _ => p

def children : Node → List Node
  | mk _ _ cs => cs

def ofText (text : String) : Node := mk .text { text } []

def ofChildren (kind : NodeKind) (children : List Node) : Node := mk kind {} children

mutual

def plainText : Node → String
  | mk _ p cs => p.text ++ plainTexts cs

def plainTexts : List Node → String
  | [] => ""
  | n :: ns => n.plainText ++ plainTexts ns

end

end Node

end DocPress
