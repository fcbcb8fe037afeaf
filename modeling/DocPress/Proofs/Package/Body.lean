import DocPress.Proofs.Package.Definition
import DocPress.Proofs.Package.Reading

/-! What a reader finds in the body of a file. Step by step, what is written for a thing is read as
what the thing asks for; so nothing of a document is lost, doubled or moved on the way into the file
(`encode_reads`). -/

namespace DocPress

open XmlElement

theorem found_all {α β : Type} {read : XmlElement → Option β} {view : α → β} {es : List XmlElement}
    {items : List α} (reads : es.map read = items.map fun a => some (view a)) :
    es.filterMap read = items.map view := by
  calc es.filterMap read = (es.map read).filterMap id := by rw [List.filterMap_map,Function.id_comp]
    _ = items.filterMap fun a => some (view a) := by rw [reads,List.filterMap_map,Function.id_comp]
    _ = items.map view := by rw [List.filterMap_eq_map']

namespace Build

theorem run_reads (r : Run) : Yields (fun x => x.runView? = some r.view) (run r) :=
  .check fun _ written => Run.toXml_view written

/-- A picture is a drawing if it can be used, and else its placeholder. -/
theorem picture_reads (i : ImageRun) :
    Yields (fun found => found.1.runView? = some i.view) (picture i) := by
  refine picture_yields (fun x => x.runView? = some i.view) (fun fault unread => ?_)
    fun format read id name relation width height => ?_
  · rw [ImageRun.view,unread]
    exact run_reads i.placeholder
  · rw [ImageRun.view,read]
    rfl

theorem leaves_reads (leaves : List InlineLeaf) :
    Yields (fun found => found.1.map runView? = leaves.map fun leaf => some leaf.view)
      (Build.leaves leaves) := by
  rintro start ⟨xs,last⟩ final ran
  have matched : List.Forall₂ (fun x leaf => x.runView? = some leaf.view) xs leaves :=
    leaves_match _ run_reads picture_reads leaves ran
  change xs.map runView? = leaves.map fun leaf => some leaf.view
  clear ran
  induction matched with
  | nil => rfl
  | cons first _ ih => rw [List.map_cons,List.map_cons,first,ih]

theorem lineView_of_run {x : XmlElement} {v : RunView} (reads : x.runView? = some v) :
    x.lineView? = some (.run (some v)) := by
  have run : x.name = "w:r" := by
    by_contra other
    rw [runView?,if_neg other] at reads
    cases reads
  rw [lineView?,run,if_neg (by decide),if_neg (by decide),reads]

theorem inline_reads (i : Inline) : Yields (fun x => x.lineView? = some i.view) (inline i) := by
  cases i with
  | run r => exact fun _ _ _ ran => lineView_of_run (run_reads r ran)
  | image i =>
    refine (picture_reads i).bind fun pair reads => (Yields.any _).bind fun _ _ => .pure ?_
    exact lineView_of_run reads
  | link h =>
    refine (Yields.any _).bind fun _ _ => (leaves_reads _).bind fun found reads =>
      (Yields.any _).bind fun _ _ => .pure ?_
    simp [lineView?,reads,Inline.view]

theorem paragraph_reads (p : Paragraph) :
    Yields (fun x => x.paragraphView? = some p.view) (paragraph p) := by
  rw [paragraph_eq]
  refine (Yields.any _).bind fun properties _ => ?_
  refine (Yields.readAll fun i _ => inline_reads i).bind fun children reads => .pure ?_
  have front : properties.toXml.lineView? = none := rfl
  simp [paragraphView?,front,found_all reads,Paragraph.view]

theorem cell_reads (c : TableCell) : Yields (fun x => x.cellView? = some c.view) (cell c) := by
  refine (Yields.any _).bind fun _ _ => (Yields.any _).bind fun _ _ => (Yields.any _).bind fun _ _ => ?_
  refine (Yields.readAll fun p _ => paragraph_reads p).bind fun paragraphs reads => .pure ?_
  have same : paragraphs.isEmpty = c.paragraphs.isEmpty := by
    simpa using congrArg List.isEmpty reads
  have front (es : List XmlElement) : (parent "w:tcPr" es).paragraphView? = none := rfl
  have blank : emptyParagraph.paragraphView? = some [] := rfl
  unfold TableCell.view cellView?
  rw [same]
  split
  · simp [front,blank]
  · simp [front,found_all reads]

theorem row_reads (columns : Nat) (r : TableRow) :
    Yields (fun x => x.rowView? = some (r.view columns)) (row columns r) := by
  refine (Yields.readAll fun c _ => cell_reads c).bind fun cells reads => .pure ?_
  have blank : (blankCell columns).cellView? = some [[]] := rfl
  simp [rowView?,found_all reads,blank,TableRow.view]

theorem columnCount_eq_zero {t : Table} : columnCount t = 0 ↔ t.hasCell = false := by
  constructor
  · intro none
    rw [Table.hasCell,List.any_eq_false]
    intro r member
    simp [cells_eq_nil none member]
  · intro without
    rw [Table.hasCell,List.any_eq_false] at without
    unfold columnCount
    generalize t.rows = rows at without
    induction rows with
    | nil => rfl
    | cons r rows ih =>
      obtain ⟨first,rest⟩ := List.forall_mem_cons.mp without
      have empty : r.cells = [] := by simpa using first
      rw [List.foldl_cons,empty]
      exact ih rest

theorem table_reads (t : Table) :
    Yields (fun found => found.toList.map bodyView = (Block.table t).views) (table t) := by
  rw [table_eq,Block.views]
  by_cases none : columnCount t = 0
  · rw [if_pos none,columnCount_eq_zero.mp none]
    exact .pure rfl
  · have cells : t.hasCell = true := by
      rwa [columnCount_eq_zero,Bool.not_eq_false] at none
    rw [if_neg none,cells]
    refine (Yields.any _).bind fun _ _ => ?_
    refine (Yields.readAll fun r _ => row_reads _ r).bind fun rows reads => .pure ?_
    have look (es : List XmlElement) : (parent "w:tblPr" es).rowView? = Option.none := rfl
    have grid (es : List XmlElement) : (parent "w:tblGrid" es).rowView? = Option.none := rfl
    simp [bodyView,look,grid,found_all reads]

theorem block_reads (b : Block) : Yields (fun es => es.map bodyView = b.views) (block b) := by
  cases b with
  | paragraph p =>
    refine (paragraph_reads p).bind fun x reads => .pure ?_
    unfold paragraphView? at reads
    split at reads
    · next named => simpa [bodyView,named,Block.views] using reads
    · cases reads
  | table t => exact (table_reads t).bind fun found reads => .pure reads

/-- The body of a file is what is written for the blocks, one after the other. -/
theorem addBlocks_yield {holds : Block → List XmlElement → Prop} {blocks : List Block}
    (each : ∀ b, Yields (holds b) (block b)) {start final : BuildState} {u : Unit}
    (ran : blocks.forM addBlock start = .ok u final) :
    ∃ ess, List.Forall₂ holds blocks ess ∧ final.draft.body = start.draft.body ++ ess.flatten := by
  induction blocks generalizing start with
  | nil =>
    obtain rfl := forM_nil_ok.mp ran
    exact ⟨[],.nil,by simp⟩
  | cons b blocks ih =>
    obtain ⟨middle,head,tail⟩ := forM_cons_ok.mp ran
    obtain ⟨ess,hold,body⟩ := ih tail
    simp only [addBlock,bind_ok,modifyDraft_ok] at head
    obtain ⟨es,inner,written,rfl⟩ := head
    have same : inner.draft.body = start.draft.body :=
      (congrArg Draft.body (block_keeps b written) :)
    refine ⟨es :: ess,.cons (each b written) hold,?_⟩
    rw [body,List.flatten_cons,← List.append_assoc,same]

theorem encoded_body {holds : Block → List XmlElement → Prop} (each : ∀ b, Yields (holds b) (block b))
    {m : DocumentModel} {p : Package} (encoded : (encode m).result = .ok p) :
    ∃ ess, List.Forall₂ holds m.blocks ess ∧ p.body = ess.flatten := by
  obtain ⟨identified,styled,defined,final,core,styles,families,blocks,rfl⟩ := encoded_parts encoded
  obtain ⟨ess,hold,body⟩ := addBlocks_yield each blocks
  have empty : defined.draft.body = [] := congrArg Prod.fst (front_empty core styles families)
  exact ⟨ess,hold,by rwa [empty,List.nil_append] at body⟩

theorem encoded_body_forall {holds : XmlElement → Prop}
    (each : ∀ b, Yields (∀ e ∈ ·, holds e) (block b)) {m : DocumentModel} {p : Package}
    (encoded : (encode m).result = .ok p) : ∀ e ∈ p.body, holds e := by
  obtain ⟨ess,hold,body⟩ := encoded_body each encoded
  rw [body]
  clear body
  generalize m.blocks = blocks at hold
  induction hold with
  | nil => simp
  | cons first _ ih =>
    rw [List.flatten_cons]
    exact List.forall_mem_append.mpr ⟨first,ih⟩

end Build

/-- A reader finds in the body of a file what the blocks of the document ask for, block by block. -/
theorem encode_reads {m : DocumentModel} {p : Package} (encoded : (encode m).result = .ok p) :
    p.body.map bodyView = m.blocks.flatMap Block.views := by
  obtain ⟨ess,reads,body⟩ := Build.encoded_body Build.block_reads encoded
  rw [body]
  clear body
  generalize m.blocks = blocks at reads ⊢
  induction reads with
  | nil => rfl
  | cons first _ ih => rw [List.flatten_cons,List.flatMap_cons,List.map_append,first,ih]

/-- A paragraph of a broken text, a link around a text and a picture that cannot be used, and a picture
that can; a table whose first row is shorter than its second one; and a table without cells. -/
def readDocument : DocumentModel where
  blocks := [
    .paragraph { children := [.run { text := "a\tb\r\n", bold := true, strike := true },
      .link { url := "u", children := [.run { text := " c", underline := true },
        .image { data := [0], width := 1, height := 1 }] },
      .image { data := [0x47,0x49,0x46,0x38,0x39,0x61,1,0,1,0], width := 1, height := 1 }] },
    .table { rows := [{ cells := [{ widthPercent := fullWidth, paragraphs := [] }] },
      { cells := [
        { widthPercent := fullWidth, paragraphs := [{ children := [.run { text := "d" }] },{}] },
        { widthPercent := fullWidth, paragraphs := [{}] }] }] },
    .table { rows := [{ cells := [] }] }]

theorem encode_readDocument_reads :
    ∃ p, (encode readDocument).result = .ok p ∧ p.body.map bodyView = [
      .paragraph [.run (some { text := "a\tb\n\n", bold := true, strike := true }),
        .link [some { text := " c", underline := true },
          some { text := "[Image: No Alt]", italic := true }],
        .run (some { drawings := 1 })],
      .table [[[[]],[[]]],[[[.run (some { text := "d" })],[]],[[]]]]] := by
  obtain ⟨p,encoded⟩ := Build.encoded_of_isOk (m := readDocument) (by decide +kernel)
  exact ⟨p,encoded,(encode_reads encoded).trans (by decide +kernel)⟩

end DocPress
