import DocPress.Markdown.Outline
import DocPress.Markdown.Span

/-!
From Markdown source to the tree of nodes: the blocks of the source become tokens whose texts have
been read, and the tokens become nodes.
-/

namespace DocPress.Markdown

def task? : List Char → Option (Bool × List Char)
  | '[' :: c :: ']' :: b :: rest =>
    if (c = ' ' || c = 'x' || c = 'X') && Text.isBlank b then
      some (c ≠ ' ',rest.dropWhile Text.isBlank)
    else none
  | _ => none

def paragraphToken (refs : References) (text : List Char) : Token :=
  parentToken "paragraph" (spansOf refs text)

def headingToken (refs : References) (level : Nat) (text : List Char) : Token :=
  .mk "heading" { level := .given level } {} .absent .absent (.tokens (spansOf refs text) "")

def cellToken (refs : References) (align : Option ColumnAlign) (text : Line) : Token :=
  .mk "table_cell"
    { align := match align with
        | some a => .given a.name
        | none => .null }
    {} .absent .absent (.tokens (spansOf refs text) "")

def cellTokens (refs : References) (t : TableText) (row : List Line) : List Token :=
  List.zipWith (cellToken refs) t.columns row

def tableToken (refs : References) (t : TableText) : Token :=
  parentToken "table"
    [parentToken "table_head" (cellTokens refs t t.head),
      parentToken "table_body" (t.rows.map fun row => parentToken "table_row" (cellTokens refs t row))]

/-- The token of an item, which is a task if its first block starts as one. -/
def itemOf (checked : Option Bool) (children : List Token) : Token :=
  match checked with
  | some checked =>
    .mk "task_list_item" { checked } {} .absent .absent (.tokens children "")
  | none => parentToken "list_item" children

mutual

def blockToken (refs : References) : Outline → Token
  | .paragraph text => paragraphToken refs text
  | .heading level text => headingToken refs level text
  | .divider => parentToken "thematic_break" []
  | .blankLine => parentToken "blank_line" []
  | .code text info =>
    .mk "block_code" { info := .given (String.ofList info) } {} (.str (String.ofList text)) .absent
      .absent
  | .html text => rawToken "block_html" text
  | .quote blocks => parentToken "block_quote" (blockTokens refs blocks)
  | .list start items =>
    .mk "list"
      { ordered := start.isSome
        start := match start with
          | some n => .given n
          | none => .absent }
      {} .absent .absent (.tokens (itemTokens refs items) "")
  | .table t => tableToken refs t

def blockTokens (refs : References) : List Outline → List Token
  | [] => []
  | block :: blocks => blockToken refs block :: blockTokens refs blocks

def itemTokens (refs : References) : List (List Outline) → List Token
  | [] => []
  | item :: items => itemToken refs item :: itemTokens refs items

def itemToken (refs : References) : List Outline → Token
  | .paragraph text :: blocks =>
    let (checked,text) := match task? text with
      | some (checked,rest) => (some checked,rest)
      | none => (none,text)
    itemOf checked (paragraphToken refs text :: blockTokens refs blocks)
  | .heading level text :: blocks =>
    let (checked,text) := match task? text with
      | some (checked,rest) => (some checked,rest)
      | none => (none,text)
    itemOf checked (headingToken refs level text :: blockTokens refs blocks)
  | block :: blocks => itemOf none (blockToken refs block :: blockTokens refs blocks)
  | [] => itemOf none []

end

def tokens (source : String) : List Token :=
  let (blocks,refs) := outlineOf source
  blockTokens refs blocks

def parse (source : String) : Node := .ofChildren .document (Token.nodes (tokens source))

end DocPress.Markdown
