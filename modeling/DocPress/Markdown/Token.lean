import DocPress.Markdown.Node
import DocPress.Text.Blank
import DocPress.Value

/-!
Markdown tokens, and the tree they stand for. A token is a loose record: a key that is absent and a
key that holds nothing differ, and some keys have an older name that is read where the newer one is
absent.
-/

namespace DocPress

inductive Field (α : Type) where
  | absent
  | null
  | given (a : α)
  deriving DecidableEq, Repr

namespace Field

def orElse {α : Type} : Field α → Field α → Field α
  | absent, fallback => fallback
  | field, _ => field

def toOption {α : Type} : Field α → Option α
  | given a => some a
  | _ => none

end Field

structure TokenAttrs where
  level : Field Int := .absent
  info : Field String := .absent
  url : Field String := .absent
  title : Field String := .absent
  alt : Field String := .absent
  start : Field Int := .absent
  align : Field String := .absent
  ordered : Bool := false
  checked : Bool := false
  deriving DecidableEq, Repr

/-- The keys that older tokens hold beside their attributes. -/
structure OlderKeys where
  level : Field Int := .absent
  info : Field String := .absent
  link : Field String := .absent
  src : Field String := .absent
  alt : Field String := .absent
  deriving DecidableEq, Repr

mutual

inductive Token where
  | mk (kind : String) (attrs : TokenAttrs) (older : OlderKeys) (raw text children : Payload)
  | bare (s : String)
  | junk

inductive Payload where
  | absent
  | null
  | str (s : String)
  | int (n : Int)
  | bool (b : Bool)
  /-- A row of tokens, and how it is shown where a text is wanted. -/
  | tokens (items : List Token) (shown : String)
  | other (something : Bool) (shown : String)

end

instance : Inhabited Token := ⟨.junk⟩

instance : Inhabited Payload := ⟨.absent⟩

namespace Payload

def orElse : Payload → Payload → Payload
  | absent, fallback => fallback
  | payload, _ => payload

/-- Is there something in it? Zero, and empty texts and rows, are nothing. -/
def isSomething : Payload → Bool
  | absent => false
  | null => false
  | str s => ! s.isEmpty
  | int n => n != 0
  | bool b => b
  | tokens items _ => ! items.isEmpty
  | other something _ => something

def shown : Payload → String
  | str s => s
  | int n => toString n
  | bool true => "True"
  | bool false => "False"
  | null => "None"
  | tokens _ shown => shown
  | other _ shown => shown
  | absent => ""

def shownOr (p : Payload) (text : Payload) : String := (p.orElse text).shown

def isPresent : Payload → Bool
  | absent => false
  | _ => true

end Payload

namespace Value

def field {α : Type} (read : Value → Option α) (fields : List (String × Value)) (key : String) :
    Field α :=
  match fields.lookup key with
  | none => .absent
  | some v => match read v with
    | some a => .given a
    | none => .null

def string? : Value → Option String
  | string s => some s
  | _ => none

def int? : Value → Option Int
  | int n => some n
  | _ => none

def isSomething : Value → Bool
  | null => false
  | bool b => b
  | int n => n != 0
  | float x => ! x.numericEq (.ofInt 0)
  | string s => ! s.isEmpty
  | array vs => ! vs.isEmpty
  | object fs => ! fs.isEmpty

end Value

def TokenAttrs.ofFields (fields : List (String × Value)) : TokenAttrs where
  level := Value.field Value.int? fields "level"
  info := Value.field Value.string? fields "info"
  url := Value.field Value.string? fields "url"
  title := Value.field Value.string? fields "title"
  alt := Value.field Value.string? fields "alt"
  start := Value.field Value.int? fields "start"
  align := Value.field Value.string? fields "align"
  ordered := ((fields.lookup "ordered").map Value.isSomething).getD false
  checked := ((fields.lookup "checked").map Value.isSomething).getD false

def OlderKeys.ofFields (fields : List (String × Value)) : OlderKeys where
  level := Value.field Value.int? fields "level"
  info := Value.field Value.string? fields "info"
  link := Value.field Value.string? fields "link"
  src := Value.field Value.string? fields "src"
  alt := Value.field Value.string? fields "alt"

namespace Token

mutual

def ofValue : Value → Token
  | .object fields =>
    mk (((fields.lookup "type").bind Value.string?).getD "")
      (.ofFields (((fields.lookup "attrs").bind Value.fields?).getD [])) (.ofFields fields)
      (payloadOf "raw" fields) (payloadOf "text" fields) (payloadOf "children" fields)
  | .string s => bare s
  | _ => junk

def ofValues : List Value → List Token
  | [] => []
  | v :: vs => ofValue v :: ofValues vs

def payloadOf (key : String) : List (String × Value) → Payload
  | [] => .absent
  | (k,v) :: rest => if k = key then payload v else payloadOf key rest

def payload : Value → Payload
  | .null => .null
  | .bool b => .bool b
  | .int n => .int n
  | .string s => .str s
  | .array vs => .tokens (ofValues vs) (Value.array vs).shown
  | v => .other v.isSomething v.shown

end

mutual

def payloadText : Payload → String
  | .str s => s
  | .tokens items _ => rowText items
  | _ => ""

def rowText : List Token → String
  | [] => ""
  | t :: ts => writtenText t ++ rowText ts

def writtenText : Token → String
  | mk _ _ _ raw text children =>
    if raw.isPresent || text.isPresent then raw.shownOr text else payloadText children
  | bare s => s
  | junk => ""

end

def address (url older : Field String) : String := ((url.orElse older).toOption).getD ""

def dropFinalNewline (s : String) : String :=
  let cs := s.toList
  if cs.getLast? = some '\n' then String.ofList cs.dropLast else s

def codeProps (attrs : TokenAttrs) (older : OlderKeys) (raw text : Payload) : NodeProps where
  text := dropFinalNewline (raw.shownOr text)
  language := ((attrs.info.orElse older.info).toOption).getD ""

def linkProps (attrs : TokenAttrs) (older : OlderKeys) : NodeProps where
  url := address attrs.url older.link
  title := attrs.title.toOption.getD ""

/-- The properties of an image. Its children say in words what no key says. -/
def imageProps (attrs : TokenAttrs) (older : OlderKeys) (children : Payload) : NodeProps where
  url := address attrs.url older.src
  title := attrs.title.toOption.getD ""
  alt :=
    let alt := ((attrs.alt.orElse older.alt).toOption).getD ""
    if alt.isEmpty && children.isSomething then payloadText children else alt

def listProps (attrs : TokenAttrs) : NodeProps where
  ordered := attrs.ordered
  start := match attrs.start.toOption with
    | some n => if n = 0 then 1 else n
    | none => 1

def headingLevel (attrs : TokenAttrs) (older : OlderKeys) : Int :=
  ((attrs.level.orElse older.level).toOption).getD 1

def textNode? (p : Payload) : Option Node :=
  if p.isSomething then some (.ofText p.shown) else none

def htmlNode? (raw : Payload) : Option Node :=
  let text := Text.trim raw.shown
  if text.isEmpty then none else some (.ofChildren .paragraph [.ofText text])

/-- What stands below a token: what its children are, or what its text is if those are nothing. -/
def contents (children text : Payload) (nodes textNodes : List Node) : List Node :=
  if children.isSomething then nodes
  else match text with
    | .absent => [.ofText ""]
    | _ => textNodes

mutual

def node? : Token → Option Node
  | mk "heading" attrs older _ text children =>
    some (.mk .heading { level := headingLevel attrs older }
      (contents children text (nodesBelow children) (nodesBelow text)))
  | mk "paragraph" _ _ _ text children =>
    some (.ofChildren .paragraph
      (contents children text (nodesBelow children) (nodesBelow text)))
  | mk "block_text" _ _ _ text children =>
    some (.ofChildren .paragraph
      (contents children text (nodesBelow children) (nodesBelow text)))
  | mk "thematic_break" _ _ _ _ _ => some (.ofChildren .thematicBreak [])
  | mk "block_code" attrs older raw text _ => some (.mk .code (codeProps attrs older raw text) [])
  | mk "block_quote" _ _ _ _ children => some (.ofChildren .blockquote (nodesBelow children))
  | mk "block_html" _ _ raw _ _ => htmlNode? raw
  | mk "blank_line" _ _ _ _ _ => none
  | mk "text" _ _ raw text children =>
    some (.ofText (payloadText ((raw.orElse text).orElse children)))
  | mk "strong" _ _ _ text children =>
    some (.ofChildren .strong (contents children text (nodesBelow children) (nodesBelow text)))
  | mk "emphasis" _ _ _ text children =>
    some (.ofChildren .emphasis (contents children text (nodesBelow children) (nodesBelow text)))
  | mk "strikethrough" _ _ _ text children =>
    some (.ofChildren .delete (contents children text (nodesBelow children) (nodesBelow text)))
  | mk "codespan" _ _ raw text children =>
    some (.mk .inlineCode { text := ((raw.orElse text).orElse children).shown } [])
  | mk "linebreak" _ _ _ _ _ => some (.ofText "\n")
  | mk "softbreak" _ _ _ _ _ => some (.ofText " ")
  | mk "inline_html" _ _ raw _ _ => some (.ofText raw.shown)
  | mk "link" attrs older _ text children =>
    some (.mk .link (linkProps attrs older)
      (contents children text (nodesBelow children) (nodesBelow text)))
  | mk "image" attrs older _ _ children => some (.mk .image (imageProps attrs older children) [])
  | mk "list" attrs _ _ _ children => some (.mk .list (listProps attrs) (rowBelow children))
  | mk "list_item" _ _ _ _ children => some (.ofChildren .listItem (nodesBelow children))
  | mk "task_list_item" attrs _ _ _ children =>
    some (.mk .listItem { checked := some attrs.checked } (nodesBelow children))
  | mk "table" _ _ _ _ children => some (.ofChildren .table (tableRows children))
  | mk _ _ _ raw text _ => textNode? (raw.orElse text)
  | bare _ => none
  | junk => none

def nodes : List Token → List Node
  | [] => []
  | t :: ts => match node? t with
    | some n => n :: nodes ts
    | none => nodes ts

def nodesBelow : Payload → List Node
  | .str s => [.ofText s]
  | .tokens items _ => nodes items
  | _ => []

def rowBelow : Payload → List Node
  | .tokens items _ => nodes items
  | _ => []

def tableRows : Payload → List Node
  | .tokens items _ => sectionRows items
  | _ => []

def sectionRows : List Token → List Node
  | [] => []
  | mk "table_head" _ _ _ _ children :: ts => rowsOf children ++ sectionRows ts
  | mk "table_body" _ _ _ _ children :: ts => rowsOf children ++ sectionRows ts
  | mk "table_row" _ _ _ _ children :: ts => row children :: sectionRows ts
  | _ :: ts => sectionRows ts

/-- The rows of a section: one if it holds cells, else one for each token. -/
def rowsOf : Payload → List Node
  | .tokens [] _ => []
  | .tokens (mk "table_cell" attrs _ _ _ children :: ts) _ =>
    [.ofChildren .tableRow
      (.mk .tableCell { align := attrs.align.toOption.getD "" } (nodesBelow children) :: cells ts)]
  | .tokens (mk _ _ _ _ _ children :: ts) _ => row children :: plainRows ts
  | _ => []

def plainRows : List Token → List Node
  | [] => []
  | mk _ _ _ _ _ children :: ts => row children :: plainRows ts
  | _ :: ts => plainRows ts

def row : Payload → Node
  | .tokens items _ => .ofChildren .tableRow (cells items)
  | _ => .ofChildren .tableRow []

def cells : List Token → List Node
  | [] => []
  | mk _ attrs _ _ _ children :: ts =>
    .mk .tableCell { align := attrs.align.toOption.getD "" } (nodesBelow children) :: cells ts
  | _ :: ts => cells ts

end

end Token

end DocPress
