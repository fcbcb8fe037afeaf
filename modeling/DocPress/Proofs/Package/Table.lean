import DocPress.Package.Block

/-! Cells and rows as they are in the end. A table is laid out in blank cells that are filled one after the
other; what comes of it is written down here in one piece for a cell, a row and a table (`fillCell_blank`,
`fillRow_blank`, `table_eq`). -/

namespace DocPress.Build

theorem paragraph_eq (p : Paragraph) : paragraph p = do
    let properties ← paragraphProperties p
    let children ← p.children.mapM inline
    return .parent "w:p" (properties.toXml :: children) := rfl

/-- A cell that is filled, whatever was blank before. -/
def cell (c : TableCell) : Build XmlElement := do
  let width ← check (Measure.widthShare c.widthPercent)
  let borders ← (c.borders.filter (! ·.isEmpty)).mapM fun b => check (borders b)
  let shading ← c.shading.mapM fun s => check (shading s)
  let paragraphs ← c.paragraphs.mapM paragraph
  return .parent "w:tc" (
    .parent "w:tcPr" (
      .leaf "w:tcW" [("w:type","pct"),("w:w",toString width)] ::
      (borders.map (Borders.toXml "w:tcBorders")).toList ++ (shading.map Shading.toXml).toList) ::
    (if paragraphs.isEmpty then [emptyParagraph] else paragraphs))

/-- A row of so many columns: its cells, and behind them the cells that stay blank. -/
def row (columns : Nat) (r : TableRow) : Build XmlElement := do
  let cells ← r.cells.mapM cell
  return .parent "w:tr" (cells ++ List.replicate (columns - r.cells.length) (blankCell columns))

theorem applyAll_cellSteps (width : Int) (borders : Option Borders) (shading : Option Shading)
    (own : String) :
    ChildStep.applyAll (cellSteps width borders shading)
        [.leaf "w:tcW" [("w:type","dxa"),("w:w",own)]] =
      .leaf "w:tcW" [("w:type","pct"),("w:w",toString width)] ::
        (borders.map (Borders.toXml "w:tcBorders")).toList ++ (shading.map Shading.toXml).toList := by
  cases borders <;> cases shading <;> rfl

theorem fillCell_blank (c : TableCell) (columns : Nat) :
    fillCell c (blankCell columns) = cell c := by
  unfold fillCell cell
  refine bind_congr fun width => bind_congr fun borders => bind_congr fun shading => ?_
  refine bind_congr fun paragraphs => congrArg pure ?_
  have properties := applyAll_cellSteps width borders shading (toString (columnWidth columns))
  cases paragraphs with
  | nil =>
    exact congrArg (fun es => XmlElement.parent "w:tc" [.parent "w:tcPr" es,emptyParagraph]) properties
  | cons first rest =>
    exact congrArg (fun es => XmlElement.parent "w:tc" (.parent "w:tcPr" es :: first :: rest)) properties

/-- Where there is an element for each item, as many of them stay as they are as are left. -/
theorem fillEach_replicate {α : Type} (fill : α → XmlElement → Build XmlElement) (blank : XmlElement)
    {items : List α} {n : Nat} (room : items.length ≤ n) :
    fillEach fill items (List.replicate n blank) = do
      let xs ← items.mapM (fill · blank)
      return xs ++ List.replicate (n - items.length) blank := by
  induction items generalizing n with
  | nil => simp [fillEach]
  | cons a items ih =>
    cases n with
    | zero => cases room
    | succ n =>
      rw [List.replicate_succ,fillEach,ih (Nat.le_of_succ_le_succ room)]
      simp [List.mapM_cons]

theorem fillRow_blank {columns : Nat} {r : TableRow} (room : r.cells.length ≤ columns) :
    fillRow r (blankRow columns) = row columns r := by
  have filled : (fun c => fillCell c (blankCell columns)) = cell :=
    funext fun c => fillCell_blank c columns
  change (fillEach fillCell r.cells (List.replicate columns (blankCell columns)) >>= _) = _
  rw [fillEach_replicate fillCell _ room,filled,row]
  simp
  rfl

/-- A table has as many columns as its longest row has cells. -/
theorem cells_le_columnCount {t : Table} {r : TableRow} (member : r ∈ t.rows) :
    r.cells.length ≤ columnCount t := by
  have start (rows : List TableRow) (most : Nat) :
      most ≤ rows.foldl (fun most r => max most r.cells.length) most := by
    induction rows generalizing most with
    | nil => exact Nat.le_refl _
    | cons r rows ih => exact Nat.le_trans (Nat.le_max_left ..) (ih _)
  unfold columnCount
  obtain ⟨before,after,rows⟩ := List.append_of_mem member
  rw [rows,List.foldl_append,List.foldl_cons]
  exact Nat.le_trans (Nat.le_max_right ..) (start after _)

theorem mapM_congr {α β : Type} {f g : α → Build β} {items : List α} (same : ∀ a ∈ items, f a = g a) :
    items.mapM f = items.mapM g := by
  induction items with
  | nil => rfl
  | cons a items ih =>
    obtain ⟨first,rest⟩ := List.forall_mem_cons.mp same
    rw [List.mapM_cons,List.mapM_cons,first,ih rest]

/-- Each row has room for its cells, so a table is its rows one after the other. -/
theorem table_eq (t : Table) : table t = do
    let columns := columnCount t
    if columns = 0 then return none
    let width ← check (Measure.widthShare t.widthPercent)
    let rows ← t.rows.mapM (row columns)
    return some (.parent "w:tbl" (
      .parent "w:tblPr" [.leaf "w:tblW" [("w:type","pct"),("w:w",toString width)],tableLook] ::
      .parent "w:tblGrid" (List.replicate columns
        (.leaf "w:gridCol" [("w:w",toString (columnWidth columns))])) ::
      rows)) := by
  have rows : fillEach fillRow t.rows (List.replicate t.rows.length (blankRow (columnCount t))) =
      t.rows.mapM (row (columnCount t)) := by
    rw [fillEach_replicate fillRow _ (Nat.le_refl _),
      mapM_congr fun r member => fillRow_blank (cells_le_columnCount member)]
    simp
  unfold table
  dsimp only
  rw [rows]

end DocPress.Build
