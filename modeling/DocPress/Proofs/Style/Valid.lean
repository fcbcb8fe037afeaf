import DocPress.Style.Resolve
import Mathlib.Data.List.Pairwise

/-! What a resolved configuration holds. A setting takes only values of its kind, and setting one
touches no other, so that whatever is laid over the defaults, each colour is six capital digits of
base sixteen, each size is one that word processors take and each font is a name. -/

namespace DocPress

namespace Text

/-- A capital digit of base sixteen. -/
def isCapitalHex (c : Char) : Bool := "0123456789ABCDEF".toList.contains c

theorem dropWhile_head {p : Char → Bool} {cs : List Char} {c : Char}
    (first : (cs.dropWhile p).head? = some c) : p c = false := by
  have none := List.head?_dropWhile_not p cs
  rw [first] at none
  simpa using none

theorem dropEndWhile_head {p : Char → Bool} {cs : List Char} {c : Char}
    (first : (dropEndWhile p cs).head? = some c) : cs.head? = some c := by
  obtain ⟨dropped,whole⟩ := List.dropWhile_suffix (l := cs.reverse) p
  have split : cs = dropEndWhile p cs ++ dropped.reverse := by
    rw [dropEndWhile,← List.reverse_append,whole,List.reverse_reverse]
  rw [split,List.head?_append,first]
  rfl

/-- What is left between its blanks starts and ends with something else. -/
theorem trim_isTrimmed (s : String) : isTrimmed (trim s) := by
  unfold isTrimmed trim trimWhile
  rw [String.toList_ofList,Bool.and_eq_true,Option.all_eq_true,Option.all_eq_true]
  refine ⟨fun c first => ?_,fun c last => ?_⟩
  · rw [dropWhile_head (dropEndWhile_head first)]
    rfl
  · rw [dropEndWhile,List.getLast?_reverse] at last
    rw [dropWhile_head last]
    rfl

end Text

/-- Six capital digits of base sixteen. -/
def isColor (s : String) : Bool := s.toList.length = 6 ∧ s.toList.all Text.isCapitalHex

/-- What a setting of a kind may hold. -/
def LeafKind.Holds : (kind : LeafKind) → kind.Content → Prop
  | font, name => name ≠ "" ∧ Text.isTrimmed name
  | color, s => isColor s
  | size, n => 0 < n ∧ n ≤ maxSize
  | flag, _ => True

namespace LeafKind

instance : (kind : LeafKind) → (v : kind.Content) → Decidable (kind.Holds v)
  | font, _ => inferInstanceAs (Decidable (_ ∧ _))
  | color, _ => inferInstanceAs (Decidable (_ = true))
  | size, _ => inferInstanceAs (Decidable (_ ∧ _))
  | flag, _ => .isTrue trivial

theorem toUpper_isCapitalHex {c : Char} (digit : isHexDigit c) : Text.isCapitalHex c.toUpper := by
  have ascii : ∀ n < 128, isHexDigit (Char.ofNat n) → Text.isCapitalHex (Char.ofNat n).toUpper := by
    decide
  have small : c.toNat < 128 := by
    simp only [isHexDigit,Bool.or_eq_true,Bool.and_eq_true,decide_eq_true_eq] at digit
    have below (top : Char) (upper : c ≤ top) : c.toNat ≤ top.toNat := upper
    obtain (⟨_,upper⟩ | ⟨_,upper⟩) | ⟨_,upper⟩ := digit
    · exact Nat.lt_of_le_of_lt (below _ upper) (by decide)
    · exact Nat.lt_of_le_of_lt (below _ upper) (by decide)
    · exact Nat.lt_of_le_of_lt (below _ upper) (by decide)
  have same : Char.ofNat c.toNat = c := Char.ofNat_toNat c
  rw [← same] at digit ⊢
  exact ascii _ small digit

theorem font?_holds {s name : String} (taken : font? s = some name) : font.Holds name := by
  unfold font? at taken
  by_cases empty : (Text.trim s).isEmpty
  · simp [empty] at taken
  · obtain rfl : Text.trim s = name := by simpa [empty] using taken
    exact ⟨by simpa using empty,Text.trim_isTrimmed s⟩

theorem color?_holds {s found : String} (taken : color? s = some found) : color.Holds found := by
  obtain ⟨digits,read⟩ : ∃ digits : List Char, color? s =
      if digits.length = 6 ∧ digits.all isHexDigit then
        some (String.ofList (digits.map Char.toUpper))
      else none := ⟨_,rfl⟩
  rw [read] at taken
  by_cases six : digits.length = 6 ∧ digits.all isHexDigit
  · rw [if_pos six] at taken
    obtain rfl := Option.some.inj taken
    have capital : (digits.map Char.toUpper).all Text.isCapitalHex := by
      rw [List.all_map,List.all_eq_true]
      exact fun c member => toUpper_isCapitalHex (List.all_eq_true.mp six.2 c member)
    simp [Holds,isColor,six.1,capital]
  · rw [if_neg six] at taken
    cases taken

theorem size?_holds {n : Int} {found : Nat} (taken : size? n = some found) : size.Holds found := by
  unfold size? at taken
  by_cases inside : 0 < n ∧ n ≤ maxSize
  · rw [if_pos inside] at taken
    obtain rfl := Option.some.inj taken
    show 0 < n.toNat ∧ n.toNat ≤ maxSize
    omega
  · rw [if_neg inside] at taken
    cases taken

theorem coerce_holds {kind : LeafKind} {v : Value} {found : kind.Content}
    (taken : kind.coerce v = some found) : kind.Holds found := by
  unfold coerce at taken
  split at taken
  · exact font?_holds taken
  · exact color?_holds taken
  · exact size?_holds taken
  · obtain ⟨n,_,taken⟩ := Option.bind_eq_some_iff.mp taken
    exact size?_holds taken
  · trivial
  · cases taken

end LeafKind

/-! ### One setting at a time -/

/-- Setting one of the two leaves the other as it is. -/
def Leaf.Independent (a b : Leaf) : Prop :=
  (∀ c v, b.get (a.set c v) = b.get c) ∧ ∀ c v, a.get (b.set c v) = a.get c

namespace StyleConfig

def leaves : List Leaf := sections.flatMap Section.leaves

theorem get_set : ∀ leaf ∈ leaves, ∀ c v, leaf.get (leaf.set c v) = v := by
  unfold leaves sections
  simp only [List.flatMap_cons,List.flatMap_nil,List.cons_append,List.nil_append,List.append_nil]
  repeat' refine List.forall_mem_cons.mpr ⟨fun _ _ => rfl,?_⟩
  exact fun _ absent => absurd absent List.not_mem_nil

theorem leaves_independent : leaves.Pairwise Leaf.Independent := by
  unfold leaves sections
  simp only [List.flatMap_cons,List.flatMap_nil,List.cons_append,List.nil_append,List.append_nil]
  repeat' refine List.Pairwise.cons ?_ ?_
  all_goals first | exact List.Pairwise.nil | skip
  all_goals repeat' refine List.forall_mem_cons.mpr ⟨⟨fun _ _ => rfl,fun _ _ => rfl⟩,?_⟩
  all_goals exact fun _ absent => absurd absent List.not_mem_nil

/-- Every setting holds what it may hold. -/
def Valid (c : StyleConfig) : Prop := ∀ leaf ∈ leaves, leaf.kind.Holds (leaf.get c)

def contents (kind : LeafKind) (c : StyleConfig) : List kind.Content :=
  leaves.filterMap fun leaf => if same : leaf.kind = kind then some (same ▸ leaf.get c) else none

theorem Valid.holds {c : StyleConfig} (valid : c.Valid) (kind : LeafKind) :
    ∀ v ∈ c.contents kind, kind.Holds v := by
  intro v member
  obtain ⟨leaf,inside,found⟩ := List.mem_filterMap.mp member
  split at found
  · rename_i same
    subst same
    obtain rfl := Option.some.inj found
    exact valid leaf inside
  · cases found

theorem contents_color (c : StyleConfig) : c.contents .color = [
    c.typography.heading1,c.typography.heading2,c.typography.heading3,c.typography.heading4,
    c.typography.heading5,c.typography.heading6,c.typography.body,c.typography.link,
    c.codeBlock.background,c.codeBlock.text,c.inlineCode.color,c.inlineCode.background,
    c.list.markerColor,c.table.headerBackground,c.table.headerText,c.table.borderColor,
    c.blockquote.background,c.blockquote.border,c.blockquote.textColor,c.thematicBreak.color] := rfl

theorem contents_size (c : StyleConfig) : c.contents .size = [
    c.sizes.heading1,c.sizes.heading2,c.sizes.heading3,c.sizes.heading4,c.sizes.heading5,
    c.sizes.heading6,c.sizes.body,c.sizes.code,c.sizes.tableHeader,c.sizes.tableBody] := rfl

theorem contents_font (c : StyleConfig) :
    c.contents .font = [c.font.heading,c.font.body,c.font.code] := rfl

theorem headingColor_mem (c : StyleConfig) (level : Int) :
    c.headingColor level ∈ c.contents .color := by
  rw [contents_color]
  unfold headingColor
  split <;> simp

theorem headingSize_mem (c : StyleConfig) (level : Int) :
    c.headingSize level ∈ c.contents .size := by
  rw [contents_size]
  unfold headingSize
  split <;> simp

theorem default_valid : Valid {} := by
  unfold Valid
  decide +kernel

theorem set_valid {c : StyleConfig} {leaf : Leaf} (member : leaf ∈ leaves) {v : leaf.kind.Content}
    (valid : c.Valid) (fine : leaf.kind.Holds v) : (leaf.set c v).Valid := by
  intro other inside
  refine List.Pairwise.forall_of_forall_of_flip
    (R := fun a b => ∀ (c : StyleConfig) (w : a.kind.Content), a.kind.Holds w →
      b.kind.Holds (b.get c) → b.kind.Holds (b.get (a.set c w)))
    ?_ ?_ ?_ member inside c v fine (valid other inside)
  · intro a known c v fine _
    rwa [get_set a known]
  · refine leaves_independent.imp fun {a b} apart c v _ held => ?_
    rwa [apart.1]
  · refine leaves_independent.imp fun {a b} apart c v _ held => ?_
    rwa [apart.2]

theorem leaf_apply_valid {c : StyleConfig} {leaf : Leaf} (member : leaf ∈ leaves)
    (fields : List (String × Value)) (valid : c.Valid) : (leaf.apply fields c).Valid := by
  unfold Leaf.apply
  cases taken : leaf.accepted? fields with
  | none => exact valid
  | some v =>
    obtain ⟨_,_,coerced⟩ := Option.bind_eq_some_iff.mp taken
    exact set_valid member valid (LeafKind.coerce_holds coerced)

theorem section_apply_valid {c : StyleConfig} {s : Section} (member : s ∈ sections)
    (fields : List (String × Value)) (valid : c.Valid) : (s.apply fields c).Valid := by
  unfold Section.apply
  cases (s.given? fields).bind Value.fields? with
  | none => exact valid
  | some settings =>
    refine List.foldlRecOn _ _ valid fun c valid leaf inside => ?_
    exact leaf_apply_valid (List.mem_flatMap.mpr ⟨s,member,inside⟩) settings valid

/-- Laying something over a valid configuration gives a valid one. -/
theorem merge_valid {base : StyleConfig} (valid : base.Valid) (settings : Value) :
    (base.merge settings).Valid := by
  unfold merge
  cases settings.fields? with
  | none => exact valid
  | some fields =>
    exact List.foldlRecOn _ _ valid fun c valid s member => section_apply_valid member fields valid

/-- Every resolved configuration is valid, whatever it is resolved from. -/
theorem resolve_valid (settings : Value) (preset : Option Preset) :
    (resolve settings preset).Valid := by
  refine merge_valid ?_ settings
  cases preset with
  | none => exact default_valid
  | some p => exact merge_valid default_valid p.settings

end StyleConfig

end DocPress
