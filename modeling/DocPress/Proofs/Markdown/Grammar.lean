import DocPress.Markdown.Token

/-! The grammar of the token trees that a Markdown text becomes: which tokens stand in which place,
and which of their keys hold what. Keys that a token's node does not depend on may hold anything.
Beside it stands what the tokens say, read off the tokens themselves. -/

namespace DocPress.Token

/-- Where a token stands: between blocks, in a line, in a list, in a table, in the body of a table or
in a row of it. -/
inductive Place where
  | block
  | line
  | item
  | section
  | row
  | cell
  deriving DecidableEq, Repr

/-- A token that stands in a place, with all that is below it. -/
inductive Stands : Place → Token → Prop where
  | paragraph {attrs older raw items} (shown : String) (below : ∀ t ∈ items, Stands .line t) :
    Stands .block (mk "paragraph" attrs older raw .absent (.tokens items shown))
  | blockText {attrs older raw items} (shown : String) (below : ∀ t ∈ items, Stands .line t) :
    Stands .block (mk "block_text" attrs older raw .absent (.tokens items shown))
  | heading {attrs older raw items} (shown : String) (below : ∀ t ∈ items, Stands .line t) :
    Stands .block (mk "heading" attrs older raw .absent (.tokens items shown))
  | thematicBreak {attrs older raw text children} :
    Stands .block (mk "thematic_break" attrs older raw text children)
  | blockCode {attrs older text children} (code : String) :
    Stands .block (mk "block_code" attrs older (.str code) text children)
  | blockQuote {attrs older raw text items} (shown : String)
    (below : ∀ t ∈ items, Stands .block t) :
    Stands .block (mk "block_quote" attrs older raw text (.tokens items shown))
  | blockHtml {attrs older text children} (html : String) :
    Stands .block (mk "block_html" attrs older (.str html) text children)
  | blankLine {attrs older raw text children} :
    Stands .block (mk "blank_line" attrs older raw text children)
  | list {attrs older raw text items} (shown : String) (below : ∀ t ∈ items, Stands .item t) :
    Stands .block (mk "list" attrs older raw text (.tokens items shown))
  | listItem {attrs older raw text items} (shown : String) (below : ∀ t ∈ items, Stands .block t) :
    Stands .item (mk "list_item" attrs older raw text (.tokens items shown))
  | taskListItem {attrs older raw text items} (shown : String)
    (below : ∀ t ∈ items, Stands .block t) :
    Stands .item (mk "task_list_item" attrs older raw text (.tokens items shown))
  | table {attrs older raw text items} (shown : String) (below : ∀ t ∈ items, Stands .section t) :
    Stands .block (mk "table" attrs older raw text (.tokens items shown))
  | tableHead {attrs older raw text items} (shown : String) (below : ∀ t ∈ items, Stands .cell t) :
    Stands .section (mk "table_head" attrs older raw text (.tokens items shown))
  | tableBody {attrs older raw text items} (shown : String) (below : ∀ t ∈ items, Stands .row t) :
    Stands .section (mk "table_body" attrs older raw text (.tokens items shown))
  | tableRow {attrs older raw text items} (shown : String) (below : ∀ t ∈ items, Stands .cell t) :
    Stands .row (mk "table_row" attrs older raw text (.tokens items shown))
  | tableCell {attrs older raw text items} (shown : String) (below : ∀ t ∈ items, Stands .line t) :
    Stands .cell (mk "table_cell" attrs older raw text (.tokens items shown))
  | text {attrs older text children} (written : String) :
    Stands .line (mk "text" attrs older (.str written) text children)
  | strong {attrs older raw items} (shown : String) (below : ∀ t ∈ items, Stands .line t) :
    Stands .line (mk "strong" attrs older raw .absent (.tokens items shown))
  | emphasis {attrs older raw items} (shown : String) (below : ∀ t ∈ items, Stands .line t) :
    Stands .line (mk "emphasis" attrs older raw .absent (.tokens items shown))
  | strikethrough {attrs older raw items} (shown : String) (below : ∀ t ∈ items, Stands .line t) :
    Stands .line (mk "strikethrough" attrs older raw .absent (.tokens items shown))
  | codespan {attrs older text children} (code : String) :
    Stands .line (mk "codespan" attrs older (.str code) text children)
  | linebreak {attrs older raw text children} :
    Stands .line (mk "linebreak" attrs older raw text children)
  | softbreak {attrs older raw text children} :
    Stands .line (mk "softbreak" attrs older raw text children)
  | inlineHtml {attrs older text children} (html : String) :
    Stands .line (mk "inline_html" attrs older (.str html) text children)
  | link {attrs older raw items} (shown : String) (below : ∀ t ∈ items, Stands .line t) :
    Stands .line (mk "link" attrs older raw .absent (.tokens items shown))
  | image {attrs older raw text children} :
    Stands .line (mk "image" attrs older raw text children)

mutual

/-- What a token says: the text that it is written with, or what the tokens below it say. -/
def said : Token → String
  | mk "text" _ _ raw _ _ => raw.shown
  | mk "codespan" _ _ raw _ _ => raw.shown
  | mk "inline_html" _ _ raw _ _ => raw.shown
  | mk "linebreak" _ _ _ _ _ => "\n"
  | mk "softbreak" _ _ _ _ _ => " "
  | mk "image" _ _ _ _ _ => ""
  | mk "block_code" _ _ raw _ _ => dropFinalNewline raw.shown
  | mk "block_html" _ _ raw _ _ => Text.trim raw.shown
  | mk "thematic_break" _ _ _ _ _ => ""
  | mk "blank_line" _ _ _ _ _ => ""
  | mk _ _ _ _ _ children => saidBelow children
  | bare _ => ""
  | junk => ""

def saidBelow : Payload → String
  | .tokens items _ => allSaid items
  | _ => ""

def allSaid : List Token → String
  | [] => ""
  | t :: ts => said t ++ allSaid ts

end

end DocPress.Token
