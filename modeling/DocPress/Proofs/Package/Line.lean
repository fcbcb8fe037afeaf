import Mathlib.Data.List.Forall2
import DocPress.Proofs.Package.Properties
import DocPress.Proofs.Package.Step

/-! What writing a line touches: relations, media, the numbers of pictures and the reports. Families,
counters and all else of the document stay as they are (`inline_keeps`), and only elements of certain
names stand in a line (`inline_lacks`). -/

namespace DocPress

open XmlElement

/-- A document in work but for what the lines of paragraphs may change. -/
def BuildState.beyondLines (state : BuildState) : NumberingTable × Draft :=
  (state.numbering,{ state.draft with relations := [], media := [], lastPicture := 0 })

variable {tag : String}

/-- A run is written when its text and its properties can be, and as nothing else. -/
theorem Run.toXml_ok {r : Run} {x : XmlElement} :
    r.toXml = .ok x ↔ Xml.isText r.text ∧
      ∃ properties, r.properties = .ok properties ∧
        .parent "w:r" (properties.toXml :: textXml [] r.text.toList) = x := by
  unfold Run.toXml Measure.xmlText
  cases Xml.isText r.text with
  | false => simp [bind,Except.bind]
  | true => cases r.properties <;> simp [bind,Except.bind,pure,Except.pure]

theorem Run.toXml_lacks {r : Run} {x : XmlElement} (written : r.toXml = .ok x)
    (other : ∀ own ∈ runNames, own ≠ tag) : x.named tag = [] := by
  obtain ⟨_,properties,_,rfl⟩ := Run.toXml_ok.mp written
  obtain ⟨own,other⟩ := List.forall_mem_cons.mp other
  obtain ⟨text,pieces⟩ := List.forall_mem_append.mp other
  simp [own,properties.toXml_lacks text,textXml_lacks [] r.text.toList pieces]

namespace Build

/-! ### The state -/

theorem relate_keeps (target : RelationTarget) : Keeps BuildState.beyondLines (relate target) := by
  unfold relate
  refine Keeps.get.bind fun state => ?_
  dsimp only
  split
  · exact .pure _
  · exact Keeps.bind (Keeps.modifyDraft fun _ => rfl) fun _ => .pure _

theorem store_keeps (medium : Medium) : Keeps BuildState.beyondLines (store medium) := by
  unfold store
  refine Keeps.get.bind fun state => ?_
  dsimp only
  split
  · exact .pure _
  · exact Keeps.bind (Keeps.modifyDraft fun _ => rfl) fun _ => .pure _

theorem picture_keeps (i : ImageRun) : Keeps BuildState.beyondLines (picture i) := by
  unfold picture
  split
  · split
    · exact Keeps.bind (Keeps.report fun _ _ => rfl) fun _ => (Keeps.check _).bind fun _ => .pure _
    · exact .throw _
  · refine (store_keeps _).bind fun index => (relate_keeps _).bind fun relation => ?_
    exact Keeps.get.bind fun _ => (Keeps.check _).bind fun _ => (Keeps.check _).bind fun _ => .pure _

theorem placed_keeps (last : Nat) : Keeps BuildState.beyondLines (placed last) :=
  .modifyDraft fun _ => rfl

theorem leaves_keeps (leaves : List InlineLeaf) :
    Keeps BuildState.beyondLines (Build.leaves leaves) := by
  induction leaves with
  | nil => exact .pure _
  | cons leaf rest ih =>
    cases leaf with
    | run r => exact (Keeps.check _).bind fun _ => ih.bind fun _ => .pure _
    | image i => exact (picture_keeps i).bind fun _ => ih.bind fun _ => .pure _

/-- Writing what stands in a line changes nothing but relations, media, the last picture and the
reports. -/
theorem inline_keeps (i : Inline) : Keeps BuildState.beyondLines (inline i) := by
  cases i with
  | run r => exact .check _
  | image i => exact (picture_keeps i).bind fun _ => (placed_keeps _).bind fun _ => .pure _
  | link h =>
    exact (relate_keeps _).bind fun _ => (leaves_keeps _).bind fun _ =>
      (placed_keeps _).bind fun _ => .pure _

/-! ### The elements -/

theorem run_lacks (r : Run) (other : ∀ own ∈ runNames, own ≠ tag) :
    Yields (fun x => x.named tag = []) (run r) :=
  .check fun _ written => Run.toXml_lacks written other

/-- The element of a picture is the one of its placeholder if the data cannot be read, and else one around
a drawing. -/
theorem picture_yields (result : XmlElement → Prop) {i : ImageRun}
    (placeholder : ∀ fault, PictureFormat.ofData i.data = .error fault →
      Yields result (run i.placeholder))
    (drawing : ∀ format, PictureFormat.ofData i.data = .ok format → ∀ id name relation width height,
      result (.parent "w:r" [pictureXml id name relation width height])) :
    Yields (fun found => result found.1) (picture i) := by
  unfold picture
  cases read : PictureFormat.ofData i.data with
  | error fault =>
    dsimp only
    split
    · refine (Yields.any _).bind fun _ _ => (placeholder fault read).bind fun _ holds => .pure holds
    · exact .throw _
  | ok format =>
    refine (Yields.any _).bind fun _ _ => (Yields.any _).bind fun _ _ => (Yields.any _).bind fun _ _ => ?_
    refine (Yields.any _).bind fun _ _ => (Yields.any _).bind fun _ _ => .pure ?_
    exact drawing format read _ _ _ _ _

theorem picture_lacks (i : ImageRun) (other : ∀ own ∈ leafNames, own ≠ tag) :
    Yields (fun found => found.1.named tag = []) (picture i) := by
  obtain ⟨text,drawing⟩ := List.forall_mem_append.mp other
  refine picture_yields _ (fun _ _ => run_lacks _ text) fun _ _ id name relation width height => ?_
  simp [pictureXml_lacks _ _ _ _ _ drawing,text "w:r" List.mem_cons_self]

/-- The elements of texts and pictures match them one after the other. -/
theorem leaves_match (matched : XmlElement → InlineLeaf → Prop)
    (texts : ∀ r, Yields (matched · (.run r)) (run r))
    (pictures : ∀ i, Yields (fun found => matched found.1 (.image i)) (picture i))
    (leaves : List InlineLeaf) :
    Yields (fun found => List.Forall₂ matched found.1 leaves) (Build.leaves leaves) := by
  induction leaves with
  | nil => exact .pure .nil
  | cons leaf rest ih =>
    cases leaf with
    | run r => exact (texts r).bind fun x first => ih.bind fun found others => .pure (.cons first others)
    | image i =>
      exact (pictures i).bind fun x first => ih.bind fun found others => .pure (.cons first others)

/-- What holds of the elements of all texts and pictures holds of all elements for a list of them. -/
theorem leaves_all (good : XmlElement → Prop) (texts : ∀ r, Yields good (run r))
    (pictures : ∀ i, Yields (fun found => good found.1) (picture i)) (leaves : List InlineLeaf) :
    Yields (fun found => ∀ x ∈ found.1, good x) (Build.leaves leaves) := by
  rintro start ⟨xs,last⟩ final ran
  have matched : List.Forall₂ (fun x _ => good x) xs leaves := leaves_match _ texts pictures leaves ran
  clear ran
  induction matched with
  | nil => simp
  | cons first _ ih => exact List.forall_mem_cons.mpr ⟨first,ih⟩

theorem leaves_lack (leaves : List InlineLeaf) (other : ∀ own ∈ leafNames, own ≠ tag) :
    Yields (fun found => allNamed tag found.1 = []) (Build.leaves leaves) := by
  have text := (List.forall_mem_append.mp other).1
  intro start found final ran
  exact allNamed_eq_nil (leaves_all _ (run_lacks · text) (picture_lacks · other) leaves ran)

/-- No element of another name stands in a line. -/
theorem inline_lacks (i : Inline) (other : ∀ own ∈ lineNames, own ≠ tag) :
    Yields (fun x => x.named tag = []) (inline i) := by
  obtain ⟨link,other⟩ := List.forall_mem_cons.mp other
  cases i with
  | run r => exact run_lacks r (List.forall_mem_append.mp other).1
  | image i =>
    exact (picture_lacks i other).bind fun pair plain => (Yields.any _).bind fun _ _ => .pure plain
  | link h =>
    refine (Yields.any _).bind fun _ _ => (leaves_lack _ other).bind fun found plain =>
      (Yields.any _).bind fun _ _ => .pure ?_
    simpa [link] using plain

end Build

end DocPress
