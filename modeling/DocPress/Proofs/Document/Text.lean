import DocPress.Document.Block
import DocPress.Proofs.Markdown.Shape
import DocPress.Proofs.Package.Counting

/-! The text of a document is the text of its tree. What a reader sees without its being written in
the tree is put into the tree first (`Node.visible`): the marks of tasks, the words in place of
pictures that are not at hand, and the addresses of links around nothing. Then nothing is lost,
doubled or moved (`documentBlocks_text`). -/

namespace DocPress

def lineText (line : List Inline) : String := String.join (line.map Inline.text)

def paragraphsText (paragraphs : List Paragraph) : String :=
  String.join (paragraphs.map Paragraph.text)

def Block.text (b : Block) : String := paragraphsText b.paragraphs

def blocksText (blocks : List Block) : String := String.join (blocks.map Block.text)

namespace Node

/-! ### What is seen -/

mutual

/-- Is there anything in the line that an inline node becomes? -/
def hasLeaf : Node → Bool
  | mk .emphasis _ cs => haveLeaf cs
  | mk .strong _ cs => haveLeaf cs
  | mk .delete _ cs => haveLeaf cs
  | mk _ _ _ => true

def haveLeaf : List Node → Bool
  | [] => false
  | n :: ns => n.hasLeaf || haveLeaf ns

end

/-- The mark in front of a task. An item that starts with something else than a paragraph has none. -/
def taskMark (checked : Option Bool) (children : List Node) : List Node :=
  match checked,children with
  | none,_ => []
  | some checked,[] => [ofText (if checked then checkedGlyph else uncheckedGlyph)]
  | some checked,mk .paragraph _ _ :: _ =>
    [ofText (if checked then checkedGlyph else uncheckedGlyph)]
  | some _,_ => []

/-- The text that stands for a picture. -/
def pictureText (images : ImageCache) (p : NodeProps) : String :=
  if (images.lookup p.url).isSome then "" else imagePlaceholder p.alt

mutual

/-- A tree with all that is seen of it written out. -/
def visible (images : ImageCache) : Node → Node
  | mk .image p _ => ofText (pictureText images p)
  | mk .link p cs => mk .link p (if haveLeaf cs then visibles images cs else [ofText p.url])
  | mk .listItem p cs => mk .listItem p (taskMark p.checked cs ++ visibles images cs)
  | mk k p cs => mk k p (visibles images cs)

def visibles (images : ImageCache) : List Node → List Node
  | [] => []
  | n :: ns => n.visible images :: visibles images ns

end

theorem visible_listItem (images : ImageCache) (p : NodeProps) (cs : List Node) :
    (mk .listItem p cs).visible images =
      mk .listItem p (taskMark p.checked cs ++ visibles images cs) := by rw [visible]

@[simp] theorem plainText_ofText (text : String) : (ofText text).plainText = text := by
  simp [plainTexts,plainText,ofText]

/-! ### Lines -/

@[simp] theorem lineText_nil : lineText [] = "" := rfl

theorem lineText_append (line more : List Inline) :
    lineText (line ++ more) = lineText line ++ lineText more := by simp [lineText]

theorem leaves_text (line : List Inline) :
    String.join ((line.flatMap Inline.leaves).map InlineLeaf.text) = lineText line := by
  induction line with
  | nil => rfl
  | cons i line ih =>
    rw [List.flatMap_cons,List.map_append,String.join_append,ih]
    simp [lineText,Inline.text]

theorem hyperlink_leaves (c : StyleConfig) (url : String) (e : Emphasis) (inner : List Inline) :
    (hyperlink c url e inner).children ≠ [] := by
  unfold hyperlink
  cases leaves : inner.flatMap Inline.leaves <;> simp

variable (c : StyleConfig) (images : ImageCache)

mutual

/-- The line of a node is empty when the node has no leaf. -/
theorem inlines_leaves (e : Emphasis) (o : Override) : ∀ n : Node,
    (n.inlines c images e o).flatMap Inline.leaves = [] ↔ n.hasLeaf = false
  | mk k p cs => by
    cases k with
    | emphasis | strong | delete =>
      rw [inlines,hasLeaf]
      exact forestInlines_leaves _ _ cs
    | link => simp [inlines,hasLeaf,Inline.leaves,hyperlink_leaves]
    | image => cases found : images.lookup p.url <;> simp [inlines,hasLeaf,found,Inline.leaves]
    | _ => simp [inlines,hasLeaf,Inline.leaves]

theorem forestInlines_leaves (e : Emphasis) (o : Override) : ∀ ns : List Node,
    (forestInlines c images e o ns).flatMap Inline.leaves = [] ↔ haveLeaf ns = false
  | [] => by simp [forestInlines,haveLeaf]
  | n :: ns => by
    rw [forestInlines,List.flatMap_append,List.append_eq_nil_iff,inlines_leaves _ _ n,
      forestInlines_leaves _ _ ns,haveLeaf,Bool.or_eq_false_iff]

end

theorem hyperlink_around {cs : List Node} (url : String) (e : Emphasis) (o : Override)
    (around : haveLeaf cs) : (hyperlink c url e (forestInlines c images e o cs)).children =
      (forestInlines c images e o cs).flatMap Inline.leaves := by
  have some_leaf : (forestInlines c images e o cs).flatMap Inline.leaves ≠ [] := by
    rw [Ne,forestInlines_leaves,around]
    decide
  rw [hyperlink]
  simp [some_leaf]

theorem hyperlink_bare {cs : List Node} (url : String) (e : Emphasis) (o : Override)
    (bare : haveLeaf cs = false) : (hyperlink c url e (forestInlines c images e o cs)).children =
      [.run (textRun c url e (linkOverride c))] := by
  have no_leaf := (forestInlines_leaves c images e o cs).mpr bare
  rw [hyperlink,no_leaf]
  rfl

/-- A link around leaves says what they say, one around nothing its address. -/
theorem hyperlink_text (url : String) (e : Emphasis) (o : Override) (cs : List Node) :
    (Inline.link (hyperlink c url e (forestInlines c images e o cs))).text =
      if haveLeaf cs then lineText (forestInlines c images e o cs) else url := by
  rw [Inline.text,Inline.leaves]
  cases has : haveLeaf cs with
  | true =>
    rw [hyperlink_around c images url e o has]
    exact leaves_text _
  | false =>
    rw [hyperlink_bare c images url e o has]
    simp [InlineLeaf.text,textRun]

mutual

theorem inlines_text (e : Emphasis) (o : Override) : ∀ n : Node, n.isInline →
    lineText (n.inlines c images e o) = (n.visible images).plainText
  | mk k p cs, shape => by
    cases k with
    | text | inlineCode =>
      obtain rfl : cs = [] := by simpa [isInline] using shape
      simp [inlines,visible,visibles,plainText,plainTexts,lineText,Inline.text,Inline.leaves,
        InlineLeaf.text,textRun,codeRun]
    | image =>
      cases found : images.lookup p.url <;>
        simp [inlines,visible,pictureText,found,plainText,plainTexts,ofText,lineText,Inline.text,
          Inline.leaves,InlineLeaf.text,placeholderRun]
    | emphasis | strong | delete =>
      obtain ⟨silent,below⟩ : p.text = "" ∧ areInline cs := by simpa [isInline] using shape
      rw [inlines,forestInlines_text _ _ cs below]
      simp [visible,plainText,silent]
    | link =>
      obtain ⟨silent,below⟩ : p.text = "" ∧ areInline cs := by simpa [isInline] using shape
      have said := hyperlink_text c images p.url e (linkOverride c) cs
      rw [forestInlines_text _ _ cs below] at said
      cases has : haveLeaf cs <;>
        simp [inlines,visible,plainText,plainTexts,silent,lineText,said,has]
    | _ => cases shape

theorem forestInlines_text (e : Emphasis) (o : Override) : ∀ ns : List Node, areInline ns →
    lineText (forestInlines c images e o ns) = plainTexts (visibles images ns)
  | [], _ => by simp [forestInlines,visibles,plainTexts,lineText]
  | n :: ns, shape => by
    obtain ⟨first,rest⟩ : n.isInline ∧ areInline ns := by simpa [areInline] using shape
    rw [forestInlines,lineText_append,inlines_text _ _ n first,forestInlines_text _ _ ns rest,
      visibles,plainTexts]

end

/-! ### Tables -/

theorem cells_text (header : Bool) (width : Number.Binary64) (cells : List Node)
    (shape : cells.all isCell) :
    paragraphsText ((cells.map fun cell => tableCell c header width
      (forestInlines c images (cellEmphasis c header) (cellOverride c header) cell.children)).flatMap
        TableCell.paragraphs) = plainTexts (visibles images cells) := by
  induction cells with
  | nil => rfl
  | cons cell cells ih =>
    obtain ⟨first,rest⟩ : isCell cell ∧ cells.all isCell := by simpa using shape
    obtain ⟨k,p,cs⟩ := cell
    cases k with
    | tableCell =>
      obtain ⟨silent,below⟩ : p.text = "" ∧ areInline cs := by simpa [isCell] using first
      have line := forestInlines_text c images (cellEmphasis c header)
        (cellOverride c header) cs below
      rw [visibles,plainTexts,← ih rest]
      simp [paragraphsText,tableCell,children,Paragraph.text,visible,plainText,silent,← line,lineText]
    | _ => cases first

theorem row_text (header : Bool) (row : Node) (shape : row.isRow) :
    paragraphsText ((tableRow c images header row).cells.flatMap TableCell.paragraphs) =
      (row.visible images).plainText := by
  obtain ⟨k,p,cs⟩ := row
  cases k with
  | tableRow =>
    obtain ⟨silent,below⟩ : p.text = "" ∧ cs.all isCell := by simpa [isRow] using shape
    rw [tableRow,children,cells_text c images header _ cs below]
    simp [visible,plainText,silent]
  | _ => cases shape

theorem rows_text (header : Bool) (rows : List Node) (shape : rows.all isRow) :
    paragraphsText ((rows.map (tableRow c images header)).flatMap
      fun row => row.cells.flatMap TableCell.paragraphs) = plainTexts (visibles images rows) := by
  induction rows with
  | nil => rfl
  | cons row rows ih =>
    obtain ⟨first,rest⟩ : isRow row ∧ rows.all isRow := by simpa using shape
    have said := row_text c images header row first
    rw [visibles,plainTexts,← ih rest,← said]
    simp [paragraphsText]

theorem table_text (rows : List Node) (shape : rows.all isRow) :
    (Block.table { rows := tableRows c images rows }).text = plainTexts (visibles images rows) := by
  cases rows with
  | nil => rfl
  | cons header rows =>
    obtain ⟨first,rest⟩ : isRow header ∧ rows.all isRow := by simpa using shape
    have head := row_text c images true header first
    have tail := rows_text c images false rows rest
    rw [visibles,plainTexts,← head,← tail]
    simp [Block.text,Block.paragraphs,tableRows,paragraphsText]

/-! ### Blocks -/

theorem blocksText_append (blocks more : List Block) :
    blocksText (blocks ++ more) = blocksText blocks ++ blocksText more := by simp [blocksText]

@[simp] theorem blocksText_nil : blocksText [] = "" := rfl

@[simp] theorem blocksText_cons (b : Block) (blocks : List Block) :
    blocksText (b :: blocks) = b.text ++ blocksText blocks := by simp [blocksText]

@[simp] theorem paragraph_text (p : Paragraph) : (Block.paragraph p).text = lineText p.children := by
  simp [Block.text,paragraphsText,Block.paragraphs,Paragraph.text,lineText]

theorem taskParagraph_text (level : Int) (checked : Bool) (line : List Inline) :
    lineText (taskParagraph c level checked line).children =
      (if checked then checkedGlyph else uncheckedGlyph) ++ lineText line := by
  simp [taskParagraph,lineText,Inline.text,Inline.leaves,InlineLeaf.text]

theorem kind_of_areItems {k : NodeKind} {p : NodeProps} {cs items : List Node}
    (shape : areItems (mk k p cs :: items)) : k = .listItem := by
  cases k <;> first | rfl | cases shape

theorem taskMark_of_other {checked : Option Bool} {k : NodeKind} {p : NodeProps}
    {cs rest : List Node} (other : k ≠ .paragraph) : taskMark checked (mk k p cs :: rest) = [] := by
  cases checked with
  | none => rfl
  | some checked => cases k <;> first | rfl | exact absurd rfl other

theorem listBlocks_of_other {level : Int} {ordered : Bool} {start : Option Int} {k : NodeKind}
    {p q : NodeProps} {cs rest items : List Node} (other : k ≠ .paragraph) :
    listBlocks c images level ordered start (mk .listItem p (mk k q cs :: rest) :: items) =
      forestBlocks c images (some ⟨level,ordered⟩) (mk k q cs :: rest) ++
        listBlocks c images level ordered start items := by
  cases k <;> first | exact absurd rfl other | rw [listBlocks] <;> simp

/-- A quote says what its blocks say, be they paragraphs or not. -/
theorem quoted_text {ctx : Option ListContext} {n : Node} {ns : List Node} (first : n.isBlock)
    (first_text : blocksText (n.blocks c images ctx) = (n.visible images).plainText)
    (rest_text : blocksText (quoteBlocks c images ctx ns) = plainTexts (visibles images ns)) :
    blocksText (quoteBlocks c images ctx (n :: ns)) = plainTexts (visibles images (n :: ns)) := by
  obtain ⟨k,p,cs⟩ := n
  by_cases paragraph : k = .paragraph
  · subst paragraph
    obtain ⟨silent,below⟩ : p.text = "" ∧ areInline cs := by simpa [isBlock] using first
    rw [quoteBlocks,blocksText_cons,rest_text,visibles,plainTexts]
    simp [quoteParagraph,forestInlines_text c images _ _ cs below,visible,plainText,silent]
  · rw [quoteBlocks,blocksText_append,first_text,rest_text,visibles,plainTexts]
    intro _ _ same
    exact paragraph (Node.mk.inj same).1

section

variable {level : Int} {ordered : Bool} {start : Option Int} {p : NodeProps} {items : List Node}
  (silent : p.text = "")
  (items_text : ∀ start, blocksText (listBlocks c images level ordered start items) =
    plainTexts (visibles images items))

include silent items_text

theorem emptyItem_text :
    blocksText (listBlocks c images level ordered start (mk .listItem p [] :: items)) =
      plainTexts (visibles images (mk .listItem p [] :: items)) := by
  cases task : p.checked <;>
    simp [listBlocks,task,items_text,itemParagraph,taskParagraph_text,visibles,visible,taskMark,
      plainTexts,plainText,silent]

/-- An item says what its first block and its other blocks say, be the first one taken as the
paragraph of the item or not. -/
theorem item_text {head : Node} {rest : List Node} (first : head.isBlock)
    (head_text : blocksText (head.blocks c images (some ⟨level,ordered⟩)) =
      (head.visible images).plainText)
    (rest_text : blocksText (forestBlocks c images (some ⟨level,ordered⟩) rest) =
      plainTexts (visibles images rest)) :
    blocksText (listBlocks c images level ordered start (mk .listItem p (head :: rest) :: items)) =
      plainTexts (visibles images (mk .listItem p (head :: rest) :: items)) := by
  obtain ⟨k,q,below⟩ := head
  by_cases paragraph : k = .paragraph
  · subst paragraph
    obtain ⟨quiet,line⟩ : q.text = "" ∧ areInline below := by simpa [isBlock] using first
    have line_text := forestInlines_text c images {} {} below line
    cases task : p.checked <;>
      simp [listBlocks,task,blocksText_append,items_text,rest_text,line_text,itemParagraph,
        taskParagraph_text,visibles,visible,taskMark,plainTexts,plainText,silent,quiet,
        String.append_assoc]
  · rw [listBlocks_of_other c images paragraph,forestBlocks,blocksText_append,blocksText_append,
      items_text,rest_text,head_text,visibles,visible_listItem,taskMark_of_other paragraph]
    simp [visibles,plainTexts,plainText,silent]

end

mutual

theorem blocks_text (ctx : Option ListContext) : ∀ n : Node, n.isBlock →
    blocksText (n.blocks c images ctx) = (n.visible images).plainText
  | mk k p cs, shape => by
    cases k with
    | document =>
      obtain ⟨silent,below⟩ : p.text = "" ∧ areBlocks cs := by simpa [isBlock] using shape
      rw [blocks,forestBlocks_text _ cs below]
      simp [visible,plainText,silent]
    | blockquote =>
      obtain ⟨silent,below⟩ : p.text = "" ∧ areBlocks cs := by simpa [isBlock] using shape
      rw [blocks,quoteBlocks_text _ cs below]
      simp [visible,plainText,silent]
    | heading | paragraph =>
      obtain ⟨silent,below⟩ : p.text = "" ∧ areInline cs := by simpa [isBlock] using shape
      simp [blocks,headingParagraph,plainParagraph,forestInlines_text c images _ _ cs below,visible,
        plainText,silent]
    | code =>
      obtain rfl : cs = [] := by simpa [isBlock] using shape
      simp [blocks,codeParagraph,lineText,Inline.text,Inline.leaves,InlineLeaf.text,visible,visibles,
        plainText,plainTexts]
    | thematicBreak =>
      obtain ⟨silent,rfl⟩ : p.text = "" ∧ cs = [] := by simpa [isBlock] using shape
      simp [blocks,ruleParagraph,lineText,visible,visibles,plainText,plainTexts,silent]
    | list =>
      obtain ⟨silent,below⟩ : p.text = "" ∧ areItems cs := by simpa [isBlock] using shape
      rw [blocks,listBlocks_text _ _ _ cs below]
      simp [visible,plainText,silent]
    | table =>
      obtain ⟨silent,below⟩ : p.text = "" ∧ cs.all isRow := by simpa [isBlock] using shape
      have said := table_text c images cs below
      cases cs with
      | nil => simp [blocks,visible,visibles,plainText,plainTexts,silent]
      | cons row rows => simp [blocks,said,visible,plainText,silent]
    | _ => cases shape

theorem forestBlocks_text (ctx : Option ListContext) : ∀ ns : List Node, areBlocks ns →
    blocksText (forestBlocks c images ctx ns) = plainTexts (visibles images ns)
  | [], _ => rfl
  | n :: ns, shape => by
    obtain ⟨first,rest⟩ : n.isBlock ∧ areBlocks ns := by simpa [areBlocks] using shape
    rw [forestBlocks,blocksText_append,blocks_text _ n first,forestBlocks_text _ ns rest,visibles,
      plainTexts]

theorem quoteBlocks_text (ctx : Option ListContext) : ∀ ns : List Node, areBlocks ns →
    blocksText (quoteBlocks c images ctx ns) = plainTexts (visibles images ns)
  | [], _ => rfl
  | n :: ns, shape => by
    obtain ⟨first,rest⟩ : n.isBlock ∧ areBlocks ns := by simpa [areBlocks] using shape
    exact quoted_text c images first (blocks_text ctx n first) (quoteBlocks_text ctx ns rest)

theorem listBlocks_text (level : Int) (ordered : Bool) (start : Option Int) :
    ∀ items : List Node, areItems items →
    blocksText (listBlocks c images level ordered start items) = plainTexts (visibles images items)
  | [], _ => rfl
  | mk k p [] :: items, shape => by
    obtain rfl := kind_of_areItems shape
    obtain ⟨silent,rest⟩ : p.text = "" ∧ areItems items := by
      simpa [areItems,areBlocks] using shape
    exact emptyItem_text c images silent fun start => listBlocks_text level ordered start items rest
  | mk k p (head :: others) :: items, shape => by
    obtain rfl := kind_of_areItems shape
    obtain ⟨⟨silent,first,below⟩,rest⟩ : (p.text = "" ∧ head.isBlock ∧ areBlocks others) ∧
        areItems items := by
      simpa [areItems,areBlocks] using shape
    have items_text := fun start => listBlocks_text level ordered start items rest
    exact item_text c images silent items_text first (blocks_text _ head first)
      (forestBlocks_text _ others below)

end

/-- The text of what a document becomes is the text of the document with all that is seen of it
written out. -/
theorem documentBlocks_text (doc : Node) (shape : doc.isDocument) :
    blocksText (doc.documentBlocks c images) = (doc.visible images).plainText := by
  obtain ⟨k,p,cs⟩ := doc
  cases k with
  | document =>
    obtain ⟨silent,below⟩ : p.text = "" ∧ areBlocks cs := by simpa [isDocument] using shape
    rw [documentBlocks,children,forestBlocks_text c images none cs below]
    simp [visible,plainText,silent]
  | _ => cases shape

/-- A quote, tasks around a picture and a link around nothing, an item without text, and a table. -/
def mixedDocument : Node := mk .document {} [
  mk .blockquote {} [mk .paragraph {} [ofText "quoted "]],
  mk .list { ordered := true } [
    mk .listItem { checked := some true } [
      mk .paragraph {} [mk .image { url := "u", alt := "sun" } [],mk .image { url := "v" } []],
      mk .paragraph {} [mk .link { url := " at v " } [ofChildren .strong []]]],
    mk .listItem {} []],
  mk .table {} [mk .tableRow {} [mk .tableCell {} [mk .inlineCode { text := "cell" } []]]]]

theorem documentBlocks_text_mixed :
    mixedDocument.isDocument ∧
      blocksText (mixedDocument.documentBlocks {} [("v",[0])]) =
        "quoted ☑ [Image: sun] at v cell" := by
  have shape : mixedDocument.isDocument := by decide
  exact ⟨shape,(documentBlocks_text {} [("v",[0])] mixedDocument shape).trans (by decide +kernel)⟩

end Node

end DocPress
