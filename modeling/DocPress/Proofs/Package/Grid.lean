import Mathlib.Data.List.Forall2
import DocPress.Proofs.Package.Body

/-! Tables as grids. A table is as wide as its longest row, each of its cells stands where it stood, and the
places that it has no cells for are filled with empty ones. Main statement: a file holds for each block of a
document the paragraph or the grid of it, and nothing for a table without cells (`encode_grids`). -/

namespace DocPress

/-! ### What a reader finds of a cell -/

/-- One side of a border: which one it is, and its looks. -/
structure SideView where
  side : String
  style : Option String
  size : Option String
  space : Option String
  color : Option String
  deriving DecidableEq, Repr

namespace XmlElement

/-- The colours of the backgrounds of a cell. -/
def fills (e : XmlElement) : List (Option String) :=
  ((e.each "w:tcPr").flatMap (·.each "w:shd")).map (·.attr? "w:fill")

def sideView (e : XmlElement) : SideView where
  side := e.name
  style := e.attr? "w:val"
  size := e.attr? "w:sz"
  space := e.attr? "w:space"
  color := e.attr? "w:color"

/-- The borders of a cell, side by side. -/
def frames (e : XmlElement) : List (List SideView) :=
  ((e.each "w:tcPr").flatMap (·.each "w:tcBorders")).map (·.children.map sideView)

end XmlElement

open XmlElement

def Border.view (side : String) (b : Border) : SideView :=
  ⟨side,b.style.name,toString b.size,toString b.space,b.color⟩

/-- What is to be found of the borders of a cell. -/
def Borders.sides (b : Borders) : List SideView :=
  (b.top.map (Border.view "w:top")).toList ++ (b.left.map (Border.view "w:left")).toList ++
    (b.bottom.map (Border.view "w:bottom")).toList ++ (b.right.map (Border.view "w:right")).toList

/-- The element is one that is written for the paragraph, and the line of the paragraph is found in it. -/
structure Paragraph.ShownAs (q : Paragraph) (x : XmlElement) : Prop where
  written : ∃ start final, Build.paragraph q start = .ok x final
  line : x.paragraphView? = some q.view

/-- The element is a cell of these paragraphs, with this background and these borders and with nothing
else. Where there are no paragraphs, it has one without anything in it. -/
structure XmlElement.IsCell (x : XmlElement) (paragraphs : List Paragraph) (shading : Option Shading)
    (borders : Option Borders) : Prop where
  name : x.name = "w:tc"
  pieces : ∀ e ∈ x.children, e.name = "w:tcPr" ∨ e.name = "w:p"
  paragraphs : if paragraphs.isEmpty then x.each "w:p" = [.mark "w:p"]
    else List.Forall₂ Paragraph.ShownAs paragraphs (x.each "w:p")
  shading : x.fills = (shading.map fun s => some s.fill).toList
  borders : x.frames = ((borders.filter (! ·.isEmpty)).map Borders.sides).toList

/-- The element is a row of so many cells and nothing else. The cells of the row come first, each in its
place; behind them are empty ones. -/
structure TableRow.ShownAs (columns : Nat) (r : TableRow) (x : XmlElement) : Prop where
  name : x.name = "w:tr"
  width : x.children.map XmlElement.name = List.replicate columns "w:tc"
  cells : ∀ (j : Nat) (c : TableCell), r.cells[j]? = some c →
    ∃ e : XmlElement, x.children[j]? = some e ∧ e.IsCell c.paragraphs c.shading c.borders
  blanks : ∀ (j : Nat) (e : XmlElement), r.cells.length ≤ j → x.children[j]? = some e →
    e.IsCell [] none none

/-- The element is the grid of the table: its rows one after the other, all as wide as the longest one. -/
structure Table.ShownAs (t : Table) (x : XmlElement) : Prop where
  name : x.name = "w:tbl"
  pieces : ∀ e ∈ x.children, e.name ∈ ["w:tblPr","w:tblGrid","w:tr"]
  rows : ∃ longest ∈ t.rows, (∀ r ∈ t.rows, r.cells.length ≤ longest.cells.length) ∧
    List.Forall₂ (TableRow.ShownAs longest.cells.length) t.rows (x.each "w:tr")

/-- The elements are those of the block. There are none for a table without cells. -/
def Block.ShownAs : Block → List XmlElement → Prop
  | .paragraph q, es => ∃ x, es = [x] ∧ q.ShownAs x
  | .table t, es => if t.hasCell then ∃ x, es = [x] ∧ t.ShownAs x else es = []

/-! ### Pieces and places -/

namespace XmlElement

variable {own tag : String} {front back : List XmlElement}

theorem each_first {front : XmlElement} (named : front.name = tag) (other : ∀ e ∈ back, e.name ≠ tag) :
    (parent own (front :: back)).each tag = [front] := by
  have none : back.filter (·.name = tag) = [] :=
    List.filter_eq_nil_iff.mpr fun e member => by simpa using other e member
  rw [each,children_parent,List.filter_cons_of_pos (by simpa using named),none]

theorem each_behind (other : ∀ e ∈ front, e.name ≠ tag) (named : ∀ e ∈ back, e.name = tag) :
    (parent own (front ++ back)).each tag = back := by
  have none : front.filter (·.name = tag) = [] :=
    List.filter_eq_nil_iff.mpr fun e member => by simpa using other e member
  have all : back.filter (·.name = tag) = back :=
    List.filter_eq_self.mpr fun e member => by simpa using named e member
  rw [each,children_parent,List.filter_append,none,all,List.nil_append]

theorem paragraph_named {x : XmlElement} {line : List LineView} (read : x.paragraphView? = some line) :
    x.name = "w:p" := by
  unfold paragraphView? at read
  split at read
  · next named => exact named
  · cases read

end XmlElement

theorem matched_at {α β : Type} {matched : α → β → Prop} {items : List α} {results : List β}
    (all : List.Forall₂ matched items results) {j : Nat} {a : α} (found : items[j]? = some a) :
    ∃ b, results[j]? = some b ∧ matched a b := by
  induction all generalizing j with
  | nil => simp at found
  | cons first _ ih =>
    cases j with
    | zero => exact ⟨_,rfl,Option.some.inj found ▸ first⟩
    | succ j => exact ih (by simpa using found)

/-! ### Cells -/

theorem Borders.toXml_sides (name : String) (b : Borders) :
    (b.toXml name).children.map sideView = b.sides := by
  have side (name : String) : sideView ∘ Border.toXml name = Border.view name := rfl
  simp [Borders.toXml,Borders.sides,Option.toList_map,side]

namespace Build

/-- A background that may stand in a file stands there as it is. -/
theorem shading_same (s : Shading) : Gives (· = s) (shading s) := by
  intro written fine
  unfold shading Measure.xmlText at fine
  split at fine
  · exact (Except.ok.inj fine).symm
  · cases fine

theorem borders_same (b : Borders) : Gives (· = b) (borders b) :=
  .bind fun _ => .bind fun _ => .bind fun _ => .bind fun _ => .pure rfl

theorem option_same {α : Type} {f : α → Except PackageFault α} (same : ∀ a, Gives (· = a) (f a))
    (item : Option α) : Gives (· = item) (item.mapM f) := by
  cases item with
  | none => exact .pure rfl
  | some a =>
    rw [Option.mapM_some]
    intro result worked
    cases written : f a with
    | error fault =>
      rw [written] at worked
      cases worked
    | ok b =>
      rw [written,same a b written] at worked
      exact (Except.ok.inj worked).symm

theorem paragraph_shown (q : Paragraph) : Yields q.ShownAs (paragraph q) :=
  fun _ _ _ ran => ⟨⟨_,_,ran⟩,paragraph_reads q ran⟩

theorem cell_shown (c : TableCell) : Yields (·.IsCell c.paragraphs c.shading c.borders) (cell c) := by
  intro start x final ran
  simp only [cell,bind_ok,pure_ok,check_ok,option_check_ok] at ran
  obtain ⟨width,_,⟨_,rfl⟩,framed,_,⟨frame,rfl⟩,shaded,_,⟨shade,rfl⟩,paragraphs,_,written,rfl,rfl⟩ := ran
  have matched := Yields.matched (fun q _ => paragraph_shown q) written
  have none : paragraphs.isEmpty = c.paragraphs.isEmpty := by
    rw [Bool.eq_iff_iff,List.isEmpty_iff_length_eq_zero,List.isEmpty_iff_length_eq_zero,matched.length_eq]
  have lines : ∀ e ∈ if paragraphs.isEmpty then [emptyParagraph] else paragraphs, e.name = "w:p" := by
    split
    · exact List.forall_mem_singleton.mpr rfl
    · exact Yields.mapM (fun q _ _ _ _ ran => paragraph_named (paragraph_reads q ran)) written
  generalize same : (if paragraphs.isEmpty then [emptyParagraph] else paragraphs) = content at lines ⊢
  have first (front : XmlElement) (named : front.name = "w:tcPr") :
      (parent "w:tc" (front :: content)).each "w:tcPr" = [front] :=
    each_first named fun e member => by simp [lines e member]
  have behind (front : XmlElement) (named : front.name = "w:tcPr") :
      (parent "w:tc" (front :: content)).each "w:p" = content := by
    change (parent "w:tc" ([front] ++ content)).each "w:p" = content
    exact each_behind (by simp [named]) lines
  refine ⟨rfl,?_,?_,?_,?_⟩
  · exact List.forall_mem_cons.mpr ⟨.inl rfl,fun e member => .inr (lines e member)⟩
  · rw [behind _ rfl,← same,none]
    split
    · rfl
    · exact matched
  · rw [fills,first _ rfl,← option_same shading_same _ _ shade]
    cases framed <;> cases shaded <;> rfl
  · rw [frames,first _ rfl,← option_same borders_same _ _ frame]
    cases framed with
    | none => cases shaded <;> rfl
    | some b => cases shaded <;> exact congrArg ([·]) (b.toXml_sides _)

theorem blankCell_isCell (columns : Nat) : (blankCell columns).IsCell [] none none where
  name := rfl
  pieces := by simp [blankCell,emptyParagraph]
  paragraphs := rfl
  shading := rfl
  borders := rfl

/-! ### Rows and tables -/

theorem row_shown {columns : Nat} {r : TableRow} (within : r.cells.length ≤ columns) :
    Yields (r.ShownAs columns) (row columns r) := by
  intro start x final ran
  simp only [row,bind_ok,pure_ok] at ran
  obtain ⟨cells,_,written,rfl,rfl⟩ := ran
  have matched := Yields.matched (fun c _ => cell_shown c) written
  have size := matched.length_eq
  have named : cells.map XmlElement.name = List.replicate cells.length "w:tc" :=
    List.eq_replicate_iff.mpr ⟨by simp,List.forall_mem_map.mpr (Yields.mapM (fun c _ _ _ _ ran =>
      (cell_shown c ran).name) written)⟩
  refine ⟨rfl,?_,fun j c found => ?_,fun j e beyond found => ?_⟩
  · rw [children_parent,List.map_append,named,List.map_replicate]
    change _ ++ List.replicate _ "w:tc" = _
    rw [← List.replicate_add,← size,Nat.add_sub_of_le within]
  · obtain ⟨e,place,shown⟩ := matched_at matched found
    have early : j < cells.length := (List.getElem?_eq_some_iff.mp place).1
    exact ⟨e,(List.getElem?_append_left early).trans place,shown⟩
  · rw [children_parent,List.getElem?_append_right (size ▸ beyond)] at found
    rw [List.eq_of_mem_replicate (List.mem_of_getElem? found)]
    exact blankCell_isCell columns

theorem row_named (columns : Nat) (r : TableRow) : Yields (·.name = "w:tr") (row columns r) :=
  (Yields.any _).bind fun _ _ => .pure rfl

/-- Some row of a table is as long as the table is wide. -/
theorem columnCount_reached {t : Table} (some : columnCount t ≠ 0) :
    ∃ r ∈ t.rows, r.cells.length = columnCount t := by
  have reached (rows : List TableRow) (most : Nat) :
      rows.foldl (fun most r => max most r.cells.length) most = most ∨
        ∃ r ∈ rows, r.cells.length = rows.foldl (fun most r => max most r.cells.length) most := by
    induction rows generalizing most with
    | nil => exact .inl rfl
    | cons r rows ih =>
      rw [List.foldl_cons]
      rcases ih (max most r.cells.length) with kept | ⟨later,member,length⟩
      · rw [kept]
        rcases Nat.le_total r.cells.length most with short | long
        · exact .inl (Nat.max_eq_left short)
        · exact .inr ⟨r,List.mem_cons_self,(Nat.max_eq_right long).symm⟩
      · exact .inr ⟨later,List.mem_cons_of_mem _ member,length⟩
  exact (reached t.rows 0).resolve_left some

theorem table_shown (t : Table) :
    Yields (fun found => (Block.table t).ShownAs found.toList) (table t) := by
  intro start found final ran
  unfold Block.ShownAs
  rw [table_eq] at ran
  dsimp only at ran
  split at ran
  · next empty =>
    obtain ⟨rfl,rfl⟩ := pure_ok.mp ran
    dsimp only
    rw [columnCount_eq_zero.mp empty]
    rfl
  · next some =>
    have cells : t.hasCell = true := by
      rwa [columnCount_eq_zero,Bool.not_eq_false] at some
    simp only [bind_ok,check_ok,pure_ok] at ran
    obtain ⟨width,_,⟨_,rfl⟩,rows,_,written,rfl,rfl⟩ := ran
    dsimp only
    rw [if_pos cells]
    obtain ⟨longest,member,length⟩ := columnCount_reached some
    have named : ∀ e ∈ rows, e.name = "w:tr" := Yields.mapM (fun r _ => row_named _ r) written
    have matched := Yields.matched (fun r inside => row_shown (cells_le_columnCount inside)) written
    refine ⟨_,rfl,rfl,?_,longest,member,fun r inside => length ▸ cells_le_columnCount inside,?_⟩
    · refine List.forall_mem_cons.mpr ⟨by simp,List.forall_mem_cons.mpr ⟨by simp,fun e inside => ?_⟩⟩
      simp [named e inside]
    · change List.Forall₂ _ t.rows ((parent "w:tbl" ([_,_] ++ rows)).each "w:tr")
      rw [each_behind (by simp) named,length]
      exact matched

theorem block_shown (b : Block) : Yields b.ShownAs (block b) := by
  cases b with
  | paragraph q => exact (paragraph_shown q).bind fun x shown => .pure ⟨x,rfl,shown⟩
  | table t => exact (table_shown t).bind fun found shown => .pure shown

end Build

/-- The body of a file holds one stretch for each block of the document, in order: the paragraph, or the
grid of the table. -/
theorem encode_grids {m : DocumentModel} {p : Package} (encoded : (encode m).result = .ok p) :
    ∃ stretches, p.body = stretches.flatten ∧ List.Forall₂ Block.ShownAs m.blocks stretches := by
  obtain ⟨stretches,shown,body⟩ := Build.encoded_body Build.block_shown encoded
  exact ⟨stretches,body,shown⟩

/-- A table whose rows have one, no and two cells, a paragraph, and a table of a row without cells. -/
def raggedDocument : DocumentModel where
  blocks := [
    .table { rows := [
      { cells := [{
          paragraphs := [{ children := [.run { text := "a" }] },{ children := [.run { text := "b" }] }]
          widthPercent := fullWidth
          shading := some ⟨"F3F4F6"⟩ }] },
      { cells := [] },
      { cells := [
        { paragraphs := [], widthPercent := fullWidth, borders := some (.box { color := "D1D5DB" }) },
        { paragraphs := [{ children := [.run { text := "c" }] }], widthPercent := fullWidth }] }] },
    .paragraph { children := [.run { text := "d" }] },
    .table { rows := [{ cells := [] }] }]

theorem encode_grids_ragged :
    ∃ p, (encode raggedDocument).result = .ok p ∧
      ∃ stretches, p.body = stretches.flatten ∧
        List.Forall₂ Block.ShownAs raggedDocument.blocks stretches := by
  obtain ⟨p,encoded⟩ := Build.encoded_of_isOk (m := raggedDocument) (by decide +kernel)
  exact ⟨p,encoded,encode_grids encoded⟩

end DocPress
