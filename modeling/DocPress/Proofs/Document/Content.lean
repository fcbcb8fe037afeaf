import DocPress.Document.Model

/-! What stands in a document: the paragraphs of a block, and the links and pictures of its lines, in
the order of the file. -/

namespace DocPress

/-- The paragraphs of a block: those of a table row by row and cell by cell. -/
def Block.paragraphs : Block → List Paragraph
  | .paragraph p => [p]
  | .table t => t.rows.flatMap fun row => row.cells.flatMap TableCell.paragraphs

/-! ### Pictures -/

def InlineLeaf.picture? : InlineLeaf → Option ImageRun
  | .image i => some i
  | .run _ => none

/-- The pictures of a line, those within links among them. -/
def linePictures (line : List Inline) : List ImageRun :=
  (line.flatMap Inline.leaves).filterMap InlineLeaf.picture?

def Block.pictures (b : Block) : List ImageRun := b.paragraphs.flatMap (linePictures ·.children)

theorem linePictures_cons_run {r : Run} {line : List Inline} :
    linePictures (.run r :: line) = linePictures line := by
  rw [linePictures,List.flatMap_cons,List.filterMap_append]
  rfl

theorem linePictures_append {first second : List Inline} :
    linePictures (first ++ second) = linePictures first ++ linePictures second := by
  simp [linePictures]

theorem linePictures_flatMap {α : Type} {f : α → List Inline} {items : List α} :
    linePictures (items.flatMap f) = items.flatMap fun a => linePictures (f a) := by
  induction items with
  | nil => rfl
  | cons a items ih => rw [List.flatMap_cons,List.flatMap_cons,linePictures_append,ih]

/-! ### Links -/

def Inline.link? : Inline → Option Hyperlink
  | .link h => some h
  | .run _ => none
  | .image _ => none

/-- What stands in the lines of a document. -/
def Block.lines (b : Block) : List Inline := b.paragraphs.flatMap Paragraph.children

def DocumentModel.lines (m : DocumentModel) : List Inline := m.blocks.flatMap Block.lines

end DocPress
