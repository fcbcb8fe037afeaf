import DocPress.Proofs.Package.Aside

/-! Pictures that cannot be used. To write one comes to a report and to what is written for the text in its
place, within links and cells of tables as elsewhere. Main statement: with that text instead of all such
pictures a document becomes the same file, or fails in the same way, and nothing is reported
(`encode_replaced`). -/

namespace DocPress

/-! ### The texts in place of pictures -/

def ImageRun.isUnusable (i : ImageRun) : Bool :=
  match PictureFormat.ofData i.data with
  | .ok _ => false
  | .error fault => fault.isUnusable

/-- The text in place of a picture that cannot be used; all else is itself. -/
def InlineLeaf.replaced : InlineLeaf → InlineLeaf
  | .run r => .run r
  | .image i =>
    if i.isUnusable then .run { text := imagePlaceholder i.alt, italic := true, color := "888888" }
    else .image i

example : (InlineLeaf.image { data := [0], width := 1, height := 1, alt := "a" }).replaced =
    .run { text := "[Image: a]", italic := true, color := "888888" } := by
  decide +kernel

def Inline.replaced : Inline → Inline
  | .run r => .run r
  | .image i => (InlineLeaf.image i).replaced.toInline
  | .link h => .link { h with children := h.children.map InlineLeaf.replaced }

def Paragraph.replaced (p : Paragraph) : Paragraph :=
  { p with children := p.children.map Inline.replaced }

def TableCell.replaced (c : TableCell) : TableCell :=
  { c with paragraphs := c.paragraphs.map Paragraph.replaced }

def TableRow.replaced (r : TableRow) : TableRow := { r with cells := r.cells.map TableCell.replaced }

def Table.replaced (t : Table) : Table := { t with rows := t.rows.map TableRow.replaced }

def Block.replaced : Block → Block
  | .paragraph p => .paragraph p.replaced
  | .table t => .table t.replaced

/-- The document with a text in place of each picture that cannot be used. -/
def DocumentModel.replaced (m : DocumentModel) : DocumentModel :=
  { m with blocks := m.blocks.map Block.replaced }

theorem InlineLeaf.replaced_unusable {i : ImageRun} (unusable : i.isUnusable = true) :
    (InlineLeaf.image i).replaced = .run i.placeholder := if_pos unusable

theorem InlineLeaf.replaced_usable {i : ImageRun} (usable : i.isUnusable = false) :
    (InlineLeaf.image i).replaced = .image i := if_neg (Bool.eq_false_iff.mp usable)

/-- The same state, with nothing reported. -/
def BuildState.hushed (state : BuildState) : BuildState := { state with log := [] }

namespace Build

variable {α β : Type}

/-! ### Steps without their reports -/

theorem hushed_aside : Aside BuildState.hushed := ⟨id,fun _ => [],rfl⟩

/-- Without its reports, a step that has reported something is what comes after the report. -/
theorem report_hushed {record : LogRecord} {x y : Build α} (rest : Follows BuildState.hushed x y) :
    Follows BuildState.hushed (do report record; x) y :=
  fun start => rest { start with log := start.log ++ [record] }

theorem mapM_hushed {f : α → Build β} {swap : α → α}
    (each : ∀ a, Follows BuildState.hushed (f a) (f (swap a))) (items : List α) :
    Follows BuildState.hushed (items.mapM f) ((items.map swap).mapM f) := by
  rw [List.mapM_map]
  exact .mapM fun a _ => each a

/-! ### Lines -/

theorem run_hushed (r : Run) : Follows BuildState.hushed (run r) (run r) := Ignores.follows (.check _)

/-- To write a picture that cannot be used is to report on it and to write the text in its place. -/
theorem picture_unusable {i : ImageRun} (unusable : i.isUnusable = true) :
    ∃ fault, picture i = do
      report (i.unusable fault)
      return (← run i.placeholder,none) := by
  unfold ImageRun.isUnusable at unusable
  unfold picture
  cases read : PictureFormat.ofData i.data with
  | ok format =>
    rw [read] at unusable
    cases unusable
  | error fault =>
    rw [read] at unusable
    exact ⟨fault,if_pos unusable⟩

/-- What follows a picture that cannot be used follows the text in its place. -/
theorem picture_replaced {i : ImageRun} (unusable : i.isUnusable = true)
    {next : XmlElement × Option Nat → Build β} {other : XmlElement → Build β}
    (rest : ∀ x, Follows BuildState.hushed (next (x,none)) (other x)) :
    Follows BuildState.hushed (picture i >>= next) (run i.placeholder >>= other) := by
  obtain ⟨fault,written⟩ := picture_unusable unusable
  rw [written,bind_assoc]
  refine report_hushed ?_
  rw [bind_assoc]
  refine .bind (run_hushed _) fun x => ?_
  rw [pure_bind]
  exact rest x

theorem picture_hushed {i : ImageRun} (usable : i.isUnusable = false) :
    Follows BuildState.hushed (picture i) (picture i) := by
  refine Ignores.follows ?_
  unfold ImageRun.isUnusable at usable
  unfold picture
  split
  · next fault unread =>
    rw [unread] at usable
    rw [if_neg (by simpa using usable)]
    exact .throw _
  · refine .bind (store_ignores hushed_aside _) fun _ => ?_
    refine .bind (relate_ignores hushed_aside _) fun _ => ?_
    refine .look (fun _ => rfl) fun _ => ?_
    exact .bind (.check _) fun _ => .bind (.check _) fun _ => .pure _

theorem leaves_hushed (children : List InlineLeaf) :
    Follows BuildState.hushed (leaves children) (leaves (children.map InlineLeaf.replaced)) := by
  induction children with
  | nil => exact .pure _
  | cons leaf rest ih =>
    rw [List.map_cons]
    cases leaf with
    | run r => exact .bind (run_hushed r) fun _ => .bind ih fun _ => .pure _
    | image i =>
      cases unusable : i.isUnusable with
      | true =>
        rw [InlineLeaf.replaced_unusable unusable]
        refine picture_replaced unusable fun x => .bind ih fun (xs,last) => ?_
        have same : max ((none : Option Nat).getD 0) last = last := Nat.zero_max last
        dsimp only
        rw [same]
        exact .pure _
      | false =>
        rw [InlineLeaf.replaced_usable unusable]
        exact .bind (picture_hushed unusable) fun _ => .bind ih fun _ => .pure _

/-- Nothing is noted when no picture was written. -/
theorem placed_zero : placed 0 = pure () := by
  funext start
  change EStateM.Result.ok () { start with draft.lastPicture := max start.draft.lastPicture 0 } = _
  rw [Nat.max_zero]
  rfl

theorem inline_hushed (i : Inline) : Follows BuildState.hushed (inline i) (inline i.replaced) := by
  have placed_hushed (last : Nat) : Follows BuildState.hushed (placed last) (placed last) :=
    (placed_ignores hushed_aside last).follows
  cases i with
  | run r => exact run_hushed r
  | image i =>
    rw [Inline.replaced]
    cases unusable : i.isUnusable with
    | true =>
      rw [InlineLeaf.replaced_unusable unusable]
      change Follows BuildState.hushed (inline (.image i)) (run i.placeholder)
      rw [← bind_pure (run i.placeholder)]
      refine picture_replaced unusable fun x => ?_
      change Follows BuildState.hushed (placed 0 >>= fun _ => pure x) (pure x)
      rw [placed_zero,pure_bind]
      exact .pure x
    | false =>
      rw [InlineLeaf.replaced_usable unusable]
      refine .bind (picture_hushed unusable) fun _ => ?_
      exact .bind (placed_hushed _) fun _ => .pure _
  | link h =>
    refine .bind (relate_ignores hushed_aside _).follows fun _ => ?_
    exact .bind (leaves_hushed _) fun _ => .bind (placed_hushed _) fun _ => .pure _

/-! ### Blocks -/

theorem paragraph_hushed (p : Paragraph) : Follows BuildState.hushed (paragraph p) (paragraph p.replaced) :=
  .bind (paragraphProperties_ignores hushed_aside p).follows fun _ =>
    .bind (mapM_hushed inline_hushed _) fun _ => .pure _

theorem cell_hushed (c : TableCell) : Follows BuildState.hushed (cell c) (cell c.replaced) := by
  refine .bind (Ignores.follows (.check _)) fun _ => ?_
  refine .bind (Ignores.follows (.option fun _ => .check _)) fun _ => ?_
  refine .bind (Ignores.follows (.option fun _ => .check _)) fun _ => ?_
  exact .bind (mapM_hushed paragraph_hushed _) fun _ => .pure _

theorem row_hushed (columns : Nat) (r : TableRow) :
    Follows BuildState.hushed (row columns r) (row columns r.replaced) := by
  refine .bind (mapM_hushed cell_hushed _) fun cells => ?_
  have same : r.replaced.cells.length = r.cells.length := List.length_map ..
  rw [same]
  exact .pure _

theorem columnCount_replaced (t : Table) : columnCount t.replaced = columnCount t := by
  have same (r : TableRow) : r.replaced.cells.length = r.cells.length := List.length_map ..
  simp only [columnCount,Table.replaced,List.foldl_map,same]

theorem table_hushed (t : Table) : Follows BuildState.hushed (table t) (table t.replaced) := by
  rw [table_eq,table_eq,columnCount_replaced]
  dsimp only
  split
  · exact .pure _
  · refine .bind (Ignores.follows (.check _)) fun _ => ?_
    exact .bind (mapM_hushed (row_hushed _) _) fun _ => .pure _

theorem addBlock_hushed (b : Block) : Follows BuildState.hushed (addBlock b) (addBlock b.replaced) := by
  have written : Follows BuildState.hushed (block b) (block b.replaced) := by
    cases b with
    | paragraph p => exact .bind (paragraph_hushed p) fun _ => .pure _
    | table t => exact .bind (table_hushed t) fun _ => .pure _
  exact .bind written fun _ => (modifyDraft_ignores hushed_aside fun _ _ => rfl).follows

theorem document_hushed (m : DocumentModel) :
    Follows BuildState.hushed (document m) (document m.replaced) := by
  have core : Ignores BuildState.hushed (coreProperties m) :=
    .bind (.check _) fun _ => .bind (.check _) fun _ => .modify fun _ => rfl
  refine .bind core.follows fun _ => ?_
  refine .bind (Ignores.follows (.forM fun s _ => style_ignores hushed_aside s)) fun _ => ?_
  refine .bind (Ignores.follows (.forM fun d _ => family_ignores hushed_aside d)) fun _ => ?_
  have blocks : Follows BuildState.hushed (m.blocks.forM addBlock)
      ((m.blocks.map Block.replaced).forM addBlock) := by
    have same : (m.blocks.map Block.replaced).forM addBlock =
        m.blocks.forM fun b => addBlock b.replaced := List.forM_map
    rw [same]
    exact .forM fun b _ => addBlock_hushed b
  refine .bind blocks fun _ => ?_
  exact Ignores.follows (.look (fun _ => rfl) fun _ => .check _)

end Build

/-- With a text in place of each picture that cannot be used, a document becomes the same file or fails in
the same way; all that is missing are the reports. -/
theorem encode_replaced (m : DocumentModel) : encode m.replaced = { encode m with log := [] } := by
  rw [encode_eq,encode_eq]
  have same : Build.document m.replaced (.new .standard) =
      Build.ended BuildState.hushed (Build.document m (.new .standard)) :=
    Build.document_hushed m (.new .standard)
  rw [same]
  cases Build.document m (.new .standard) <;> rfl

end DocPress
