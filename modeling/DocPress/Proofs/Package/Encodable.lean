import DocPress.Proofs.Package.Fits
import DocPress.Proofs.Package.StyleSheet

/-! Models with measures and texts within bounds fit. Main statement: a model whose parts are all
writable becomes a file (`encode_ok`). -/

namespace DocPress

structure NumberingLevel.Writable (l : NumberingLevel) : Prop where
  format : Legal l.format
  text : Legal l.text
  font : Legal l.font
  color : Legal l.color

def NumberingDefinition.Writable (d : NumberingDefinition) : Prop := ∀ l ∈ d.levels, l.Writable

/-- A text that a property of a document may have. -/
def Titular (s : String) : Prop := Legal s ∧ s.length ≤ Build.maxPropertyLength

instance (s : String) : Decidable (Titular s) := inferInstanceAs (Decidable (_ ∧ _))

/-- A model whose parts can all be written. The paragraphs count in the families that it defines. -/
structure DocumentModel.Writable (m : DocumentModel) : Prop where
  title : Titular m.title
  creator : Titular m.creator
  styles : ∀ s ∈ m.styles, s.Writable
  numbering : ∀ d ∈ m.numbering, d.Writable
  blocks : ∀ b ∈ m.blocks, b.Writable (m.numbering.map NumberingDefinition.reference)

open DocPress.Measure

theorem NumberingLevel.Writable.passes {l : NumberingLevel} (writable : l.Writable) :
    Passes (Build.checkLevel l) := by
  refine .forM fun s member => ?_
  have legal : Legal s := by
    simp only [List.mem_cons,List.not_mem_nil,or_false] at member
    obtain rfl | rfl | rfl | rfl := member
    · exact writable.format
    · exact writable.text
    · exact writable.font
    · exact writable.color
  exact (xmlText_passes legal).bind fun _ => .pure _

theorem property_passes {value : String} (titular : Titular value) :
    Passes (Build.property value) := by
  unfold Build.property
  rw [if_neg (Nat.not_lt.mpr titular.2)]
  exact xmlText_passes titular.1

/-! ### What is writable fits -/

theorem ImageRun.Writable.fits {i : ImageRun} (writable : i.Writable) : i.Fits := by
  have shown := writable.data
  unfold isShowable at shown
  unfold ImageRun.Fits
  cases read : PictureFormat.ofData i.data with
  | ok format => exact ⟨writable.width.ofPixels,writable.height.ofPixels⟩
  | error fault =>
    rw [read] at shown
    exact ⟨shown,writable.placeholder.passes⟩

theorem InlineLeaf.Writable.fits {leaf : InlineLeaf} (writable : leaf.Writable) : leaf.Fits := by
  cases leaf with
  | run r => exact Run.Writable.passes writable
  | image i => exact ImageRun.Writable.fits writable

theorem Inline.Writable.fits {i : Inline} (writable : i.Writable) : i.Fits := by
  cases i with
  | run r => exact Run.Writable.passes writable
  | image i => exact ImageRun.Writable.fits writable
  | link h => exact ⟨writable.1,fun leaf member => (writable.2 leaf member).fits⟩

variable {known : List String}

theorem NumberingRef.Writable.fits {ref : NumberingRef} (writable : ref.Writable known) :
    ref.Fits (· ∈ known) where
  reference := writable.reference
  level := checkInt32_passes writable.level
  start := fun n asked => checkInt32_passes (writable.start n asked)

theorem Paragraph.Writable.fits {p : Paragraph} (writable : p.Writable known) :
    p.Fits (· ∈ known) where
  heading := fun level member => headingStyle_passes (writable.heading level member)
  numbering := fun ref member => (writable.numbering ref member).fits
  borders := fun b member => (writable.borders b member).passes
  shading := fun s member => shading_passes (writable.shading s member)
  spacing := fun s member => spacing_passes (writable.spacing s member)
  indent := fun i member => indent_passes (writable.indent i member)
  children := fun i member => (writable.children i member).fits

theorem TableCell.Writable.fits {c : TableCell} (writable : c.Writable known) :
    c.Fits (· ∈ known) where
  width := widthShare_passes writable.width (by decide)
  borders := fun b member => (writable.borders b (Option.mem_filter_iff.mp member).1).passes
  shading := fun s member => shading_passes (writable.shading s member)
  paragraphs := fun p member => (writable.paragraphs p member).fits

theorem Block.Writable.fits {b : Block} (writable : b.Writable known) : b.Fits (· ∈ known) := by
  cases b with
  | paragraph p => exact Paragraph.Writable.fits writable
  | table t =>
    refine ⟨fun _ => widthShare_passes (Table.Writable.width writable) (by decide),?_⟩
    exact fun r member c inside => (Table.Writable.cells writable r member c inside).fits

theorem DocumentModel.Writable.fits {m : DocumentModel} (writable : m.Writable) : m.Fits where
  title := property_passes writable.title
  creator := property_passes writable.creator
  styles := StyleSheet.foldlM_apply_passes rfl writable.styles
  numbering := fun d member => .forM fun l inside => (writable.numbering d member l inside).passes
  blocks := fun b member => (writable.blocks b member).fits

/-- A model that is writable in all its parts becomes a file. -/
theorem encode_ok {m : DocumentModel} (writable : m.Writable) :
    ∃ package, (encode m).result = .ok package := encode_ok_iff.mpr writable.fits

end DocPress
