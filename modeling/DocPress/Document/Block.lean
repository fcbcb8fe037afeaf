import DocPress.Document.Inline
import DocPress.Number.Binary64

/-!
The block nodes of a tree as paragraphs and tables, in the order of the tree. How lists nest travels
down as a value.
-/

namespace DocPress

/-- The innermost list around a block: its level, and whether it counts. -/
structure ListContext where
  level : Int
  ordered : Bool
  deriving DecidableEq, Repr

def checkedGlyph : String := "☑ "

def uncheckedGlyph : String := "☐ "

def listLevel : Option ListContext → Int
  | some ctx => ctx.level + 1
  | none => 0

/-- The number at which a list opens a fresh counter, if it does: an ordered list that no ordered
list surrounds directly. Within an ordered list the word processor starts the level anew. -/
def listStart (ctx : Option ListContext) (ordered : Bool) (start : Int) : Option Int :=
  if ordered && ! (ctx.any (·.ordered)) then some start else none

def headingParagraph (c : StyleConfig) (level : Int) (children : List Inline) : Paragraph where
  children := children
  headingLevel := some level
  borders :=
    if level = 1 then some { bottom := some { color := c.headingColor level,size := 12,space := 4 } }
    else if level = 2 then some { bottom := some { color := "E5E7EB",size := 6,space := 4 } }
    else none
  spacing := some (if level ≤ 2 then ⟨240,120⟩ else ⟨200,100⟩)

def plainParagraph (children : List Inline) : Paragraph where
  children := children
  spacing := some ⟨0,120⟩

def quoteParagraph (c : StyleConfig) (children : List Inline) : Paragraph where
  children := children
  indent := some { left := 720 }
  borders := some { left := some { color := c.blockquote.border,size := 24,space := 12 } }
  shading := some ⟨c.blockquote.background⟩
  spacing := some ⟨0,120⟩

def codeParagraph (c : StyleConfig) (text : String) : Paragraph where
  children := [.run { text,font := c.font.code,color := c.codeBlock.text,size := c.sizes.code }]
  shading := some ⟨c.codeBlock.background⟩
  borders := some (.box { color := "E5E7EB",size := 4 })
  indent := some { left := 200,right := 200 }
  spacing := some ⟨200,200⟩

def ruleParagraph (c : StyleConfig) : Paragraph where
  borders := some { bottom := some { color := c.thematicBreak.color,size := 6,space := 1 } }
  spacing := some ⟨240,240⟩

/-- The first paragraph of a task: it has a mark instead of a number. -/
def taskParagraph (c : StyleConfig) (level : Int) (checked : Bool) (children : List Inline) :
    Paragraph where
  children :=
    .run { text := if checked then checkedGlyph else uncheckedGlyph,font := c.font.body,
           color := c.list.markerColor,size := c.sizes.body } :: children
  indent := some { left := listIndent level }
  spacing := some ⟨0,60⟩

def itemParagraph (level : Int) (ordered : Bool) (start : Option Int) (children : List Inline) :
    Paragraph where
  children := children
  numbering := some
    { reference := if ordered then orderedReference else bulletReference
      level := min level maxListLevel
      start := start }
  spacing := some ⟨0,60⟩

def cellWidth (count : Nat) : Number.Binary64 :=
  if count = 0 then fullWidth else Number.Binary64.ofRatio false 100 count

def headingOverride (c : StyleConfig) (level : Int) : Override where
  color := some (c.headingColor level)
  font := some c.font.heading
  size := some (c.headingSize level)

def cellOverride (c : StyleConfig) (header : Bool) : Override :=
  if header then { color := some c.table.headerText,size := some c.sizes.tableHeader }
  else { color := some c.typography.body,size := some c.sizes.tableBody }

def cellEmphasis (c : StyleConfig) (header : Bool) : Emphasis :=
  { bold := header && c.table.boldHeader }

def cellAlignment (header : Bool) : Alignment := if header then .center else .left

def tableCell (c : StyleConfig) (header : Bool) (width : Number.Binary64)
    (children : List Inline) : TableCell where
  paragraphs := [{ children,alignment := some (cellAlignment header) }]
  widthPercent := width
  shading := if header then some ⟨c.table.headerBackground⟩ else none
  borders := some (.box { color := c.table.borderColor,size := 4 })
  alignment := cellAlignment header

def tableRow (c : StyleConfig) (images : ImageCache) (header : Bool) (row : Node) : TableRow where
  cells := row.children.map fun cell =>
    tableCell c header (cellWidth row.children.length)
      (Node.forestInlines c images (cellEmphasis c header) (cellOverride c header) cell.children)
  isHeader := header

def tableRows (c : StyleConfig) (images : ImageCache) : List Node → List TableRow
  | [] => []
  | header :: rows => tableRow c images true header :: rows.map (tableRow c images false)

namespace Node

mutual

/-- What a block node becomes. A node that is no block becomes nothing. -/
def blocks (c : StyleConfig) (images : ImageCache) (ctx : Option ListContext) :
    Node → List Block
  | mk .document _ cs => forestBlocks c images ctx cs
  | mk .heading p cs =>
    let level := clampHeadingLevel p.level
    [.paragraph (headingParagraph c level
      (forestInlines c images { bold := true } (headingOverride c level) cs))]
  | mk .paragraph _ cs => [.paragraph (plainParagraph (forestInlines c images {} {} cs))]
  | mk .blockquote _ cs => quoteBlocks c images ctx cs
  | mk .code p _ => [.paragraph (codeParagraph c p.text)]
  | mk .thematicBreak _ _ => [.paragraph (ruleParagraph c)]
  | mk .list p cs =>
    listBlocks c images (listLevel ctx) p.ordered (listStart ctx p.ordered p.start) cs
  | mk .table _ cs => if cs.isEmpty then [] else [.table { rows := tableRows c images cs }]
  | mk _ _ _ => []

def forestBlocks (c : StyleConfig) (images : ImageCache) (ctx : Option ListContext) :
    List Node → List Block
  | [] => []
  | n :: ns => n.blocks c images ctx ++ forestBlocks c images ctx ns

/-- What the children of a quote become: paragraphs look quoted, all else keeps its look. -/
def quoteBlocks (c : StyleConfig) (images : ImageCache) (ctx : Option ListContext) :
    List Node → List Block
  | [] => []
  | mk .paragraph _ cs :: ns =>
    .paragraph (quoteParagraph c
      (forestInlines c images {} { color := some c.blockquote.textColor } cs)) ::
      quoteBlocks c images ctx ns
  | n :: ns => n.blocks c images ctx ++ quoteBlocks c images ctx ns

/-- What the children of a list become. A pending start goes to the first numbered item. -/
def listBlocks (c : StyleConfig) (images : ImageCache) (level : Int) (ordered : Bool)
    (start : Option Int) : List Node → List Block
  | [] => []
  | mk .listItem p [] :: items =>
    match p.checked with
    | some checked =>
      .paragraph (taskParagraph c level checked []) ::
        listBlocks c images level ordered start items
    | none =>
      .paragraph (itemParagraph level ordered start []) ::
        listBlocks c images level ordered none items
  | mk .listItem p (mk .paragraph _ cs :: rest) :: items =>
    let children := forestInlines c images {} {} cs
    let restBlocks := forestBlocks c images (some ⟨level,ordered⟩) rest
    match p.checked with
    | some checked =>
      .paragraph (taskParagraph c level checked children) :: restBlocks ++
        listBlocks c images level ordered start items
    | none =>
      .paragraph (itemParagraph level ordered start children) :: restBlocks ++
        listBlocks c images level ordered none items
  | mk .listItem _ cs :: items =>
    forestBlocks c images (some ⟨level,ordered⟩) cs ++
      listBlocks c images level ordered start items
  | n :: items =>
    n.blocks c images (some ⟨level,ordered⟩) ++ listBlocks c images level ordered start items

end

def clampLog (level : Int) (checked : Option Bool) : List LogRecord :=
  if checked.isNone && maxListLevel < level then
    [.debug s!"List level {level} exceeds deepest defined level; clamping to {maxListLevel}"]
  else []

def tableLog (rows : List Node) : List LogRecord :=
  if rows.isEmpty then [.debug "Skipping table without rows"]
  else rows.flatMap fun row => row.children.flatMap fun cell => forestInlineLog cell.children

mutual

def blockLog (ctx : Option ListContext) : Node → List LogRecord
  | mk .document _ cs => forestBlockLog ctx cs
  | mk .heading _ cs => forestInlineLog cs
  | mk .paragraph _ cs => forestInlineLog cs
  | mk .blockquote _ cs => forestBlockLog ctx cs
  | mk .code _ _ => []
  | mk .thematicBreak _ _ => []
  | mk .list p cs => listLog (listLevel ctx) p.ordered cs
  | mk .table _ cs => tableLog cs
  | mk k _ _ => [.warning s!"Unsupported block node {Text.quoted k.name}; skipping"]

def forestBlockLog (ctx : Option ListContext) : List Node → List LogRecord
  | [] => []
  | n :: ns => n.blockLog ctx ++ forestBlockLog ctx ns

def listLog (level : Int) (ordered : Bool) : List Node → List LogRecord
  | [] => []
  | mk .listItem p [] :: items => clampLog level p.checked ++ listLog level ordered items
  | mk .listItem p (mk .paragraph _ cs :: rest) :: items =>
    forestInlineLog cs ++ clampLog level p.checked ++
      forestBlockLog (some ⟨level,ordered⟩) rest ++ listLog level ordered items
  | mk .listItem _ cs :: items =>
    forestBlockLog (some ⟨level,ordered⟩) cs ++ listLog level ordered items
  | n :: items => n.blockLog (some ⟨level,ordered⟩) ++ listLog level ordered items

end

/-- What the blocks of a document become: the children of its root, whatever the root is. -/
def documentBlocks (c : StyleConfig) (images : ImageCache) (doc : Node) : List Block :=
  forestBlocks c images none doc.children

def documentLog (doc : Node) : List LogRecord := forestBlockLog none doc.children

end Node

end DocPress
