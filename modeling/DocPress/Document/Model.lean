import DocPress.Number.Binary64

/-!
A document that is ready to be written: paragraphs and tables with their looks resolved. Indents and
spacings are twentieths of a point, border widths eighths of a point, sizes of text points.
-/

namespace DocPress

inductive Alignment where
  | left
  | center
  | right
  | justify
  deriving DecidableEq, Repr

namespace Alignment

def name : Alignment → String
  | left => "left"
  | center => "center"
  | right => "right"
  | justify => "both"

def ofName? (name : String) : Option Alignment :=
  [left,center,right,justify].find? (·.name = name)

end Alignment

inductive BorderStyle where
  | single
  | thick
  deriving DecidableEq, Repr

namespace BorderStyle

def name : BorderStyle → String
  | single => "single"
  | thick => "thick"

def ofName? (name : String) : Option BorderStyle := [single,thick].find? (·.name = name)

end BorderStyle

structure Border where
  color : String
  size : Int := 4
  style : BorderStyle := .single
  space : Int := 1
  deriving DecidableEq, Repr

structure Borders where
  top : Option Border := none
  bottom : Option Border := none
  left : Option Border := none
  right : Option Border := none
  deriving DecidableEq, Repr

namespace Borders

def box (b : Border) : Borders := ⟨some b,some b,some b,some b⟩

def isEmpty (b : Borders) : Bool :=
  b.top.isNone && b.bottom.isNone && b.left.isNone && b.right.isNone

end Borders

structure Shading where
  fill : String
  deriving DecidableEq, Repr

structure Indent where
  left : Int := 0
  right : Int := 0
  hanging : Int := 0
  deriving DecidableEq, Repr

structure Spacing where
  before : Int := 0
  after : Int := 0
  deriving DecidableEq, Repr

/-- A paragraph's place in a numbering: a family and a level in it. A start opens a fresh counter
for the family at that number. -/
structure NumberingRef where
  reference : String
  level : Int
  start : Option Int := none
  deriving DecidableEq, Repr

/-- A stretch of text of one look. An empty font or colour and a size of zero leave it to the style
of the paragraph. -/
structure Run where
  text : String := ""
  bold : Bool := false
  italic : Bool := false
  strike : Bool := false
  underline : Bool := false
  font : String := ""
  color : String := ""
  size : Int := 0
  shading : Option Shading := none
  deriving DecidableEq, Repr

structure ImageRun where
  data : List UInt8
  width : Int
  height : Int
  alt : String := ""
  deriving DecidableEq, Repr

inductive InlineLeaf where
  | run (r : Run)
  | image (i : ImageRun)
  deriving DecidableEq, Repr

structure Hyperlink where
  url : String
  children : List InlineLeaf := []
  deriving DecidableEq, Repr

inductive Inline where
  | run (r : Run)
  | image (i : ImageRun)
  | link (h : Hyperlink)
  deriving DecidableEq, Repr

structure Paragraph where
  children : List Inline := []
  headingLevel : Option Int := none
  indent : Option Indent := none
  borders : Option Borders := none
  shading : Option Shading := none
  numbering : Option NumberingRef := none
  alignment : Option Alignment := none
  spacing : Option Spacing := none
  deriving DecidableEq, Repr

namespace InlineLeaf

def text : InlineLeaf → String
  | run r => r.text
  | image _ => ""

def toInline : InlineLeaf → Inline
  | run r => .run r
  | image i => .image i

end InlineLeaf

namespace Inline

/-- What stands in a line apart from links, which yield what they surround. -/
def leaves : Inline → List InlineLeaf
  | run r => [.run r]
  | image i => [.image i]
  | link h => h.children

def text (i : Inline) : String := String.join (i.leaves.map InlineLeaf.text)

end Inline

def Paragraph.text (p : Paragraph) : String := String.join (p.children.map Inline.text)

structure TableCell where
  paragraphs : List Paragraph
  widthPercent : Number.Binary64
  shading : Option Shading := none
  borders : Option Borders := none
  alignment : Alignment := .left
  deriving DecidableEq, Repr

structure TableRow where
  cells : List TableCell
  isHeader : Bool := false
  deriving DecidableEq, Repr

def fullWidth : Number.Binary64 := .ofInt 100

structure Table where
  rows : List TableRow
  widthPercent : Number.Binary64 := fullWidth
  deriving DecidableEq, Repr

inductive Block where
  | paragraph (p : Paragraph)
  | table (t : Table)
  deriving DecidableEq, Repr

structure NumberingLevel where
  level : Int
  format : String
  text : String
  indentLeft : Int
  hanging : Int
  font : String
  color : String
  start : Int := 1
  deriving DecidableEq, Repr

structure NumberingDefinition where
  reference : String
  levels : List NumberingLevel
  deriving DecidableEq, Repr

structure ParagraphStyle where
  id : String
  name : String
  font : Option String
  size : Int
  color : String
  bold : Bool := false
  basedOn : Option String := none
  nextStyle : Option String := none
  spacing : Option Spacing := none
  deriving DecidableEq, Repr

structure DocumentModel where
  blocks : List Block
  numbering : List NumberingDefinition := []
  styles : List ParagraphStyle := []
  title : String := ""
  creator : String := "md2docx"
  deriving DecidableEq, Repr

namespace DocumentModel

def numberingFor? (m : DocumentModel) (reference : String) : Option NumberingDefinition :=
  m.numbering.find? (·.reference = reference)

def style? (m : DocumentModel) (id : String) : Option ParagraphStyle :=
  m.styles.find? (·.id = id)

end DocumentModel

def placeholderColor : String := "888888"

def imagePlaceholder (alt : String) : String :=
  "[Image: " ++ (if alt.isEmpty then "No Alt" else alt) ++ "]"

def bulletReference : String := "bullet"

def orderedReference : String := "ordered"

/-- The deepest level of lists that the families define; deeper lists use it too. -/
def maxListLevel : Int := 2

def listHanging : Int := 360

def listIndent (level : Int) : Int := 720 * (min level maxListLevel + 1)

end DocPress
