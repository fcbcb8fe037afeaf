import DocPress.LogRecord
import DocPress.Style.Config
import DocPress.Text.Blank
import DocPress.Value

/-!
The leaves of a style configuration: what each is called, which values it takes, and where it
stands. Everything that visits all settings goes through this list.
-/

namespace DocPress

inductive LeafKind where
  | font
  | color
  | size
  | flag
  deriving DecidableEq, Repr

namespace LeafKind

abbrev Content : LeafKind → Type
  | font | color => String
  | size => Nat
  | flag => Bool

/-- The largest size of text, in points. -/
def maxSize : Nat := 1638

def isHexDigit (c : Char) : Bool :=
  ('0' ≤ c && c ≤ '9') || ('a' ≤ c && c ≤ 'f') || ('A' ≤ c && c ≤ 'F')

/-- Reads a colour: six digits of base sixteen, perhaps behind a hash, perhaps between blanks. -/
def color? (s : String) : Option String :=
  let cs := Text.trimWhile Text.isBlank s.toList
  let digits := if cs.head? = some '#' then cs.tail else cs
  if digits.length = 6 ∧ digits.all isHexDigit then some (String.ofList (digits.map Char.toUpper))
  else none

def size? (n : Int) : Option Nat :=
  if 0 < n ∧ n ≤ maxSize then some n.toNat else none

/-- Takes a text as a font: the text between its blanks, if there is any. -/
def font? (s : String) : Option String :=
  let name := Text.trim s
  if name.isEmpty then none else some name

def coerce : (kind : LeafKind) → Value → Option kind.Content
  | font, .string s => font? s
  | color, .string s => color? s
  | size, .int n => size? n
  | size, .float x => x.toInt?.bind size?
  | flag, .bool b => some b
  | _, _ => none

def toValue : (kind : LeafKind) → kind.Content → Value
  | font, s => .string s
  | color, s => .string s
  | size, n => .int n
  | flag, b => .bool b

end LeafKind

structure Leaf where
  name : String
  /-- The other spelling of the name, in which configurations are written out. -/
  camelName : String
  kind : LeafKind
  get : StyleConfig → kind.Content
  set : StyleConfig → kind.Content → StyleConfig

structure Section where
  name : String
  camelName : String
  leaves : List Leaf

namespace StyleConfig

def sections : List Section := [
  ⟨"font","font",[
    ⟨"heading","heading",.font,(·.font.heading),fun c v => { c with font.heading := v }⟩,
    ⟨"body","body",.font,(·.font.body),fun c v => { c with font.body := v }⟩,
    ⟨"code","code",.font,(·.font.code),fun c v => { c with font.code := v }⟩]⟩,
  ⟨"sizes","sizes",[
    ⟨"heading1","heading1",.size,(·.sizes.heading1),fun c v => { c with sizes.heading1 := v }⟩,
    ⟨"heading2","heading2",.size,(·.sizes.heading2),fun c v => { c with sizes.heading2 := v }⟩,
    ⟨"heading3","heading3",.size,(·.sizes.heading3),fun c v => { c with sizes.heading3 := v }⟩,
    ⟨"heading4","heading4",.size,(·.sizes.heading4),fun c v => { c with sizes.heading4 := v }⟩,
    ⟨"heading5","heading5",.size,(·.sizes.heading5),fun c v => { c with sizes.heading5 := v }⟩,
    ⟨"heading6","heading6",.size,(·.sizes.heading6),fun c v => { c with sizes.heading6 := v }⟩,
    ⟨"body","body",.size,(·.sizes.body),fun c v => { c with sizes.body := v }⟩,
    ⟨"code","code",.size,(·.sizes.code),fun c v => { c with sizes.code := v }⟩,
    ⟨"table_header","tableHeader",.size,(·.sizes.tableHeader),
      fun c v => { c with sizes.tableHeader := v }⟩,
    ⟨"table_body","tableBody",.size,(·.sizes.tableBody),
      fun c v => { c with sizes.tableBody := v }⟩]⟩,
  ⟨"typography","typography",[
    ⟨"heading1","heading1",.color,(·.typography.heading1),
      fun c v => { c with typography.heading1 := v }⟩,
    ⟨"heading2","heading2",.color,(·.typography.heading2),
      fun c v => { c with typography.heading2 := v }⟩,
    ⟨"heading3","heading3",.color,(·.typography.heading3),
      fun c v => { c with typography.heading3 := v }⟩,
    ⟨"heading4","heading4",.color,(·.typography.heading4),
      fun c v => { c with typography.heading4 := v }⟩,
    ⟨"heading5","heading5",.color,(·.typography.heading5),
      fun c v => { c with typography.heading5 := v }⟩,
    ⟨"heading6","heading6",.color,(·.typography.heading6),
      fun c v => { c with typography.heading6 := v }⟩,
    ⟨"body","body",.color,(·.typography.body),fun c v => { c with typography.body := v }⟩,
    ⟨"link","link",.color,(·.typography.link),fun c v => { c with typography.link := v }⟩]⟩,
  ⟨"code_block","codeBlock",[
    ⟨"background","background",.color,(·.codeBlock.background),
      fun c v => { c with codeBlock.background := v }⟩,
    ⟨"text","text",.color,(·.codeBlock.text),fun c v => { c with codeBlock.text := v }⟩]⟩,
  ⟨"inline_code","inlineCode",[
    ⟨"color","color",.color,(·.inlineCode.color),fun c v => { c with inlineCode.color := v }⟩,
    ⟨"background","background",.color,(·.inlineCode.background),
      fun c v => { c with inlineCode.background := v }⟩]⟩,
  ⟨"list","list",[
    ⟨"marker_color","markerColor",.color,(·.list.markerColor),
      fun c v => { c with list.markerColor := v }⟩]⟩,
  ⟨"table","table",[
    ⟨"header_background","headerBackground",.color,(·.table.headerBackground),
      fun c v => { c with table.headerBackground := v }⟩,
    ⟨"header_text","headerText",.color,(·.table.headerText),
      fun c v => { c with table.headerText := v }⟩,
    ⟨"border_color","borderColor",.color,(·.table.borderColor),
      fun c v => { c with table.borderColor := v }⟩,
    ⟨"bold_header","boldHeader",.flag,(·.table.boldHeader),
      fun c v => { c with table.boldHeader := v }⟩]⟩,
  ⟨"blockquote","blockquote",[
    ⟨"background","background",.color,(·.blockquote.background),
      fun c v => { c with blockquote.background := v }⟩,
    ⟨"border","border",.color,(·.blockquote.border),
      fun c v => { c with blockquote.border := v }⟩,
    ⟨"text_color","textColor",.color,(·.blockquote.textColor),
      fun c v => { c with blockquote.textColor := v }⟩]⟩,
  ⟨"thematic_break","thematicBreak",[
    ⟨"color","color",.color,(·.thematicBreak.color),
      fun c v => { c with thematicBreak.color := v }⟩]⟩]

def toValue (c : StyleConfig) : Value :=
  .object (sections.map fun s =>
    (s.camelName,.object (s.leaves.map fun leaf =>
      (leaf.camelName,leaf.kind.toValue (leaf.get c)))))

end StyleConfig

end DocPress
