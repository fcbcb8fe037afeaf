import DocPress.Proofs.Package.Aside
import DocPress.Proofs.Package.Encodable

/-! The title of a model. It is written first, and no later step looks at it. Main statement: under another
title a model becomes the same file but for the title of it, or fails in the same way, if both titles can be
written at all (`encode_titled`). -/

namespace DocPress

/-- The same document in work, identified otherwise. -/
def BuildState.identified (core : CoreProperties) (state : BuildState) : BuildState :=
  { state with draft := { state.draft with core } }

def Package.titled (title : String) (p : Package) : Package := { p with core := { p.core with title } }

/-- What comes of writing, with another title. -/
def Encoded.titled (title : String) (e : Encoded) : Encoded :=
  { e with result := e.result.map (·.titled title) }

namespace Build

variable {core : CoreProperties}

theorem identified_aside : Aside (BuildState.identified core) := ⟨fun _ => core,id,rfl⟩

theorem run_ignores (r : Run) : Ignores (BuildState.identified core) (run r) := .check _

theorem picture_ignores (i : ImageRun) : Ignores (BuildState.identified core) (picture i) := by
  unfold picture
  split
  · split
    · exact .bind (.modify fun _ => rfl) fun _ => .bind (run_ignores _) fun _ => .pure _
    · exact .throw _
  · refine .bind (store_ignores identified_aside _) fun _ => ?_
    refine .bind (relate_ignores identified_aside _) fun _ => ?_
    refine .look (fun _ => rfl) fun _ => ?_
    exact .bind (.check _) fun _ => .bind (.check _) fun _ => .pure _

theorem leaves_ignores (children : List InlineLeaf) :
    Ignores (BuildState.identified core) (leaves children) := by
  induction children with
  | nil => exact .pure _
  | cons leaf rest ih =>
    cases leaf with
    | run r => exact .bind (run_ignores r) fun _ => .bind ih fun _ => .pure _
    | image i => exact .bind (picture_ignores i) fun _ => .bind ih fun _ => .pure _

theorem inline_ignores (i : Inline) : Ignores (BuildState.identified core) (inline i) := by
  cases i with
  | run r => exact run_ignores r
  | image i =>
    refine .bind (picture_ignores i) fun _ => ?_
    exact .bind (placed_ignores identified_aside _) fun _ => .pure _
  | link h =>
    refine .bind (relate_ignores identified_aside _) fun _ => .bind (leaves_ignores _) fun _ => ?_
    exact .bind (placed_ignores identified_aside _) fun _ => .pure _

theorem paragraph_ignores (p : Paragraph) : Ignores (BuildState.identified core) (paragraph p) :=
  .bind (paragraphProperties_ignores identified_aside p) fun _ =>
    .bind (.mapM fun i _ => inline_ignores i) fun _ => .pure _

theorem cell_ignores (c : TableCell) : Ignores (BuildState.identified core) (cell c) := by
  refine .bind (.check _) fun _ => .bind (.option fun _ => .check _) fun _ => ?_
  refine .bind (.option fun _ => .check _) fun _ => ?_
  exact .bind (.mapM fun p _ => paragraph_ignores p) fun _ => .pure _

theorem table_ignores (t : Table) : Ignores (BuildState.identified core) (table t) := by
  have rows (columns : Nat) : Ignores (BuildState.identified core) (t.rows.mapM (row columns)) :=
    .mapM fun r _ => .bind (.mapM fun c _ => cell_ignores c) fun _ => .pure _
  rw [table_eq]
  dsimp only
  split
  · exact .pure _
  · exact .bind (.check _) fun _ => .bind (rows _) fun _ => .pure _

theorem addBlock_ignores (b : Block) : Ignores (BuildState.identified core) (addBlock b) := by
  have written : Ignores (BuildState.identified core) (block b) := by
    cases b with
    | paragraph p => exact .bind (paragraph_ignores p) fun _ => .pure _
    | table t => exact .bind (table_ignores t) fun _ => .pure _
  exact .bind written fun _ => modifyDraft_ignores identified_aside fun _ _ => rfl

/-- Writes what comes behind the identification. -/
def contents (m : DocumentModel) : Build Unit := do
  m.styles.forM style
  m.numbering.forM family
  m.blocks.forM addBlock
  check (checkRelations (← get).draft.relations)

theorem contents_ignores (m : DocumentModel) : Ignores (BuildState.identified core) (contents m) := by
  refine .bind (.forM fun s _ => style_ignores identified_aside s) fun _ => ?_
  refine .bind (.forM fun d _ => family_ignores identified_aside d) fun _ => ?_
  refine .bind (.forM fun b _ => addBlock_ignores b) fun _ => ?_
  exact .look (fun _ => rfl) fun _ => .check _

/-! ### The title itself -/

theorem property_titular {value : String} (titular : Titular value) : property value = .ok value := by
  unfold property
  rw [if_neg (Nat.not_lt.mpr titular.2)]
  exact if_pos titular.1

theorem property_passes_iff {value : String} : Passes (property value) ↔ Titular value := by
  refine ⟨fun passes => ?_,property_passes⟩
  unfold property at passes
  split at passes
  · obtain ⟨_,same⟩ := passes
    cases same
  · exact ⟨Passes.xmlText_iff.mp passes,Nat.le_of_not_lt ‹_›⟩

/-- Under a title and a creator that may be such, what is written is the contents, identified by them. -/
theorem document_titular {m : DocumentModel} {creator : String} (titular : Titular m.title)
    (signed : property m.creator = .ok creator) : document m (.new .standard) =
      ended (BuildState.identified ⟨m.title,creator,creator⟩) (contents m (.new .standard)) := by
  have core : coreProperties m (.new .standard) =
      .ok () (BuildState.identified ⟨m.title,creator,creator⟩ (.new .standard)) := by
    unfold coreProperties
    rw [property_titular titular,signed]
    rfl
  have rest : document m (.new .standard) =
      contents m (BuildState.identified ⟨m.title,creator,creator⟩ (.new .standard)) :=
    bind_of_ok core
  rw [rest]
  exact contents_ignores m _

theorem document_unsigned {m : DocumentModel} {fault : PackageFault} (titular : Titular m.title)
    (unsigned : property m.creator = .error fault) :
    document m (.new .standard) = .error (.failed fault) (.new .standard) := by
  refine bind_of_error ?_
  unfold coreProperties
  rw [property_titular titular,unsigned]
  rfl

theorem document_untitled {m : DocumentModel} {fault : PackageFault}
    (untitled : property m.title = .error fault) :
    document m (.new .standard) = .error (.failed fault) (.new .standard) := by
  refine bind_of_error ?_
  unfold coreProperties
  rw [untitled]
  rfl

end Build

/-- Under another title that may be one, a model comes to the same, but for the title. -/
theorem encode_titled {m : DocumentModel} {title : String} (titular : Titular title)
    (before : Titular m.title) : encode { m with title } = (encode m).titled title := by
  rw [encode_eq,encode_eq]
  cases signed : Build.property m.creator with
  | ok creator =>
    rw [Build.document_titular before signed,
      Build.document_titular (m := { m with title }) titular signed]
    change Encoded.ofRun (Build.ended _ (Build.contents m (.new .standard))) = _
    cases Build.contents m (.new .standard) <;> rfl
  | error fault =>
    rw [Build.document_unsigned before signed,
      Build.document_unsigned (m := { m with title }) titular signed]
    rfl

/-- A title that may not be one is all that is looked at. -/
theorem encode_untitled {m : DocumentModel} (untitular : ¬ Titular m.title) :
    ∃ fault, encode m = ⟨.error (.failed fault),[]⟩ := by
  cases titled : Build.property m.title with
  | ok title => exact absurd (Build.property_passes_iff.mp ⟨title,titled⟩) untitular
  | error fault =>
    refine ⟨fault,?_⟩
    rw [encode_eq,Build.document_untitled titled]
    rfl

end DocPress
