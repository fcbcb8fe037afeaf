import DocPress.Package.Encode
import DocPress.Proofs.Package.Measure

/-! Which parts of a document can be written: those whose texts may stand in XML, whose measures are
not far out, whose pictures can be read or replaced, and whose paragraphs count in families that are
known. What is only worked out for such a part passes. -/

namespace DocPress

theorem none_holds {α : Type} {holds : α → Prop} : ∀ a ∈ (none : Option α), holds a :=
  fun _ absent => absurd absent (Option.not_mem_none _)

theorem some_holds {α : Type} {holds : α → Prop} {a : α} (given : holds a) :
    ∀ b ∈ some a, holds b := by
  rintro _ ⟨⟩
  exact given

def Legal (s : String) : Prop := Xml.isText s = true

instance (s : String) : Decidable (Legal s) := inferInstanceAs (Decidable (_ = true))

theorem Legal.append {s t : String} (first : Legal s) (second : Legal t) : Legal (s ++ t) := by
  unfold Legal Xml.isText at *
  rw [String.toList_append,List.all_append,first,second,Bool.and_self]

theorem imagePlaceholder_legal {alt : String} (legal : Legal alt) : Legal (imagePlaceholder alt) := by
  have shown : Legal (if alt.isEmpty then "No Alt" else alt) := by
    split
    · decide
    · exact legal
  exact (Legal.append (by decide) shown).append (by decide)

/-- A picture that can be shown, or replaced by its words. -/
def isShowable (data : List UInt8) : Bool :=
  match PictureFormat.ofData data with
  | .ok _ => true
  | .error fault => fault.isUnusable

/-- A distance that is not far out. -/
def Near (n : Int) : Prop := 0 ≤ n ∧ n ≤ Measure.farthest

instance (n : Int) : Decidable (Near n) := inferInstanceAs (Decidable (_ ∧ _))

structure Run.Writable (r : Run) : Prop where
  text : Legal r.text
  font : Legal r.font
  size : Near r.size
  color : r.color = "" ∨ isColor r.color
  shading : ∀ s ∈ r.shading, Legal s.fill

structure ImageRun.Writable (i : ImageRun) : Prop where
  data : isShowable i.data
  alt : Legal i.alt
  width : Near i.width
  height : Near i.height

theorem placeholderColor_isColor : isColor placeholderColor := by decide

theorem ImageRun.Writable.placeholder {i : ImageRun} (writable : i.Writable) :
    i.placeholder.Writable where
  text := imagePlaceholder_legal writable.alt
  font := rfl
  size := show Near 0 by decide
  color := .inr placeholderColor_isColor
  shading := none_holds

def InlineLeaf.Writable : InlineLeaf → Prop
  | run r => r.Writable
  | image i => i.Writable

def Inline.Writable : Inline → Prop
  | run r => r.Writable
  | image i => i.Writable
  | link h => Legal h.url ∧ ∀ leaf ∈ h.children, leaf.Writable

def Borders.Writable (b : Borders) : Prop :=
  ∀ side ∈ [b.top,b.left,b.bottom,b.right], ∀ border ∈ side, Legal border.color

def IsInt32 (n : Int) : Prop := -2147483648 ≤ n ∧ n ≤ 2147483647

instance (n : Int) : Decidable (IsInt32 n) := inferInstanceAs (Decidable (_ ∧ _))

structure NumberingRef.Writable (known : List String) (ref : NumberingRef) : Prop where
  reference : ref.reference ∈ known
  level : IsInt32 ref.level
  start : ∀ n ∈ ref.start, IsInt32 n

structure Paragraph.Writable (known : List String) (p : Paragraph) : Prop where
  children : ∀ i ∈ p.children, i.Writable
  heading : ∀ level ∈ p.headingLevel, 1 ≤ level ∧ level ≤ 6
  numbering : ∀ ref ∈ p.numbering, ref.Writable known
  borders : ∀ b ∈ p.borders, b.Writable
  shading : ∀ s ∈ p.shading, Legal s.fill
  spacing : ∀ s ∈ p.spacing, Near s.before ∧ Near s.after
  indent : ∀ i ∈ p.indent, Near i.left ∧ Near i.right ∧ Near i.hanging

structure TableCell.Writable (known : List String) (c : TableCell) : Prop where
  paragraphs : ∀ p ∈ c.paragraphs, p.Writable known
  width : c.widthPercent.AtMost 8
  shading : ∀ s ∈ c.shading, Legal s.fill
  borders : ∀ b ∈ c.borders, b.Writable

structure Table.Writable (known : List String) (t : Table) : Prop where
  cells : ∀ r ∈ t.rows, ∀ c ∈ r.cells, c.Writable known
  width : t.widthPercent.AtMost 8

def Block.Writable (known : List String) : Block → Prop
  | paragraph p => p.Writable known
  | table t => t.Writable known

/-! ### What is only worked out -/

open DocPress.Measure

theorem checkInt32_passes {n : Int} (small : IsInt32 n) : Passes (checkInt32 n) :=
  within_passes small.1 small.2

theorem Near.ofPixels {n : Int} (near : Near n) : Passes (checkDrawn (ofPixels n)) := by
  obtain ⟨above,below⟩ := near
  unfold farthest at below
  refine within_passes ?_ ?_ <;> unfold Measure.ofPixels <;> omega

theorem Near.distance {n : Int} (near : Near n) : Passes (Measure.distance n) :=
  distance_passes near.1 near.2

theorem Near.signedDistance {n : Int} (near : Near n) : Passes (Measure.signedDistance n) :=
  signedDistance_passes (Int.le_trans (by decide) near.1) near.2

theorem shading_passes {s : Shading} (legal : Legal s.fill) :
    Passes (Shading.mk <$> xmlText s.fill) :=
  (xmlText_passes legal).map _

theorem Run.Writable.properties_passes {r : Run} (writable : r.Writable) : Passes r.properties := by
  have color_passes (asked : ¬ r.color.isEmpty) : Passes (Measure.color r.color) := by
    obtain none | some := writable.color
    · exact absurd (by rw [none]; rfl) asked
    · exact ⟨_,color_eq some⟩
  refine Passes.ifAsked (fun _ => xmlText_passes writable.font) fun _ => ?_
  refine Passes.ifAsked (fun _ => fontSize_passes writable.size.1 writable.size.2) fun _ => ?_
  refine Passes.ifAsked color_passes fun _ => ?_
  have shading := Passes.option fun s member => shading_passes (writable.shading s member)
  exact shading.bind fun _ => .pure _

theorem Run.Writable.passes {r : Run} (writable : r.Writable) : Passes r.toXml :=
  (xmlText_passes writable.text).bind fun _ => writable.properties_passes.bind fun _ => .pure _

theorem Borders.Writable.passes {b : Borders} (writable : b.Writable) : Passes (Build.borders b) := by
  have side {side : Option Border} (member : side ∈ [b.top,b.left,b.bottom,b.right]) :
      Passes (side.mapM fun b => xmlText b.color) :=
    .option fun border inside => xmlText_passes (writable side member border inside)
  refine (side ?_).bind fun _ => (side ?_).bind fun _ => (side ?_).bind fun _ =>
    (side ?_).bind fun _ => .pure _ <;> simp

theorem spacing_passes {s : Spacing} (near : Near s.before ∧ Near s.after) :
    Passes (Build.spacing s) :=
  near.1.distance.bind fun _ => near.2.distance.bind fun _ => .pure _

theorem indent_passes {i : Indent} (near : Near i.left ∧ Near i.right ∧ Near i.hanging) :
    Passes (Build.indent i) := by
  have hanging : (i.hanging.natAbs : Int) = i.hanging := Int.natAbs_of_nonneg near.2.2.1
  refine near.1.signedDistance.bind fun _ => near.2.1.signedDistance.bind fun _ =>
    Passes.bind ?_ fun _ => .pure _
  rw [hanging]
  exact near.2.2.distance

theorem headingStyle_passes {level : Int} (inside : 1 ≤ level ∧ level ≤ 6) :
    Passes (Build.headingStyle level) := ⟨_,if_pos inside⟩

end DocPress
