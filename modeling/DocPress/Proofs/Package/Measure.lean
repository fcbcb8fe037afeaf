import DocPress.Package.Measure
import DocPress.Proofs.Number.Binary64
import DocPress.Proofs.Style.Valid

/-! Which measures, colours and texts can be written. -/

namespace DocPress

/-- Something is worked out without a fault. -/
def Passes {α : Type} (result : Except PackageFault α) : Prop := ∃ a, result = .ok a

namespace Passes

variable {α β : Type}

theorem pure (a : α) : Passes (Pure.pure a) := ⟨a,rfl⟩

theorem bind {x : Except PackageFault α} {next : α → Except PackageFault β} (head : Passes x)
    (tail : ∀ a, Passes (next a)) : Passes (x >>= next) := by
  obtain ⟨a,rfl⟩ := head
  exact tail a

theorem map {x : Except PackageFault α} (f : α → β) (passes : Passes x) : Passes (f <$> x) := by
  obtain ⟨a,rfl⟩ := passes
  exact ⟨f a,rfl⟩

theorem option {f : α → Except PackageFault β} {item : Option α} (each : ∀ a ∈ item, Passes (f a)) :
    Passes (item.mapM f) := by
  cases item with
  | none => exact ⟨none,rfl⟩
  | some a =>
    obtain ⟨b,found⟩ := each a rfl
    exact ⟨some b,by rw [Option.mapM_some,found]; rfl⟩

/-- Something is worked out only where it is asked for. -/
theorem ifAsked {c : Prop} [Decidable c] {x : Except PackageFault α}
    {next : Option α → Except PackageFault β} (asked : ¬ c → Passes x) (rest : ∀ a, Passes (next a)) :
    Passes (if c then Pure.pure none >>= next else some <$> x >>= next) := by
  split
  · exact rest none
  · exact ((asked ‹_›).map some).bind rest

theorem forM {f : α → Except PackageFault Unit} {items : List α} (each : ∀ a ∈ items, Passes (f a)) :
    Passes (items.forM f) := by
  induction items with
  | nil => exact ⟨(),rfl⟩
  | cons a items ih =>
    exact bind (each a List.mem_cons_self) fun _ =>
      ih fun a member => each a (List.mem_cons_of_mem _ member)

end Passes

namespace Measure

open Number

theorem within_passes {least greatest value : Int} (above : least ≤ value)
    (below : value ≤ greatest) : Passes (within least greatest value) := ⟨(),if_pos ⟨above,below⟩⟩

/-- Sizes and distances up to this one are far from all limits. -/
def farthest : Int := 1000000

theorem fontSize_passes {n : Int} (above : 0 ≤ n) (below : n ≤ farthest) : Passes (fontSize n) := by
  unfold farthest at below
  refine Passes.bind (within_passes ?_ ?_) fun _ => .pure _ <;> unfold ofPoints <;> omega

theorem distance_passes {n : Int} (above : 0 ≤ n) (below : n ≤ farthest) : Passes (distance n) := by
  unfold farthest at below
  refine Passes.bind (within_passes ?_ ?_) fun _ => .pure _ <;> unfold ofTwips <;> omega

theorem signedDistance_passes {n : Int} (above : -farthest ≤ n) (below : n ≤ farthest) :
    Passes (signedDistance n) := by
  unfold farthest at above below
  refine Passes.bind (within_passes ?_ ?_) fun _ => .pure _ <;> unfold ofTwips <;> omega

theorem widthShare_passes {percent : Binary64} {k : Nat} (bound : percent.AtMost k)
    (small : k ≤ 900) : Passes (widthShare percent) := by
  have fifty : (Binary64.ofInt 50).AtMost 7 :=
    Binary64.ofInt_atMost (n := 50) (k := 6) (by decide) (by decide)
  obtain ⟨s,m,e,product,_⟩ := Binary64.mul_atMost bound fifty (by omega)
  unfold widthShare
  rw [product]
  exact ⟨_,rfl⟩

theorem xmlText_passes {s : String} (text : Xml.isText s) : Passes (xmlText s) := ⟨s,if_pos text⟩

end Measure

namespace Text

theorem capitalHex_value {c : Char} (digit : isCapitalHex c) : ∃ v < 16, hexDigit? c = some v ∧
    capitalHexDigit v = c ∧ isBlank c = false ∧ c ≠ '-' ∧ c ≠ '+' ∧ c ≠ '_' ∧ c ≠ 'x' ∧ c ≠ 'X' := by
  have table : ("0123456789ABCDEF".toList.all fun c => (hexDigit? c).any fun v => v < 16 ∧
      capitalHexDigit v = c ∧ isBlank c = false ∧ c ≠ '-' ∧ c ≠ '+' ∧ c ≠ '_' ∧ c ≠ 'x' ∧
        c ≠ 'X') = true := by decide +kernel
  have read := List.all_eq_true.mp table c (List.contains_iff_mem.mp digit)
  obtain ⟨v,found,fits⟩ := (Option.any_eq_true _ _).mp read
  obtain ⟨small,rest⟩ := of_decide_eq_true fits
  exact ⟨v,small,found,rest⟩

/-- Two capital digits of base sixteen are read as the number that they are written for. -/
theorem hexNumber?_pair {a b : Char} (first : isCapitalHex a) (second : isCapitalHex b) :
    ∃ n : Int, hexNumber? (String.ofList [a,b]) = some n ∧ 0 ≤ n ∧ n ≤ 255 ∧
      Measure.hexByte n.toNat = [a,b] := by
  obtain ⟨v,v_small,a_value,a_digit,a_solid,a_minus,a_plus,_⟩ := capitalHex_value first
  obtain ⟨w,w_small,b_value,b_digit,b_solid,_,_,b_score,b_mark,b_big⟩ := capitalHex_value second
  refine ⟨((v * 16 + w : Nat) : Int),?_,by omega,by omega,?_⟩
  · have unmarked : dropHexMark [a,b] = [a,b] := by simp [dropHexMark,b_mark,b_big]
    simp [hexNumber?,trimWhile,dropEndWhile,a_solid,b_solid,a_minus,a_plus,unmarked,a_value,b_value,
      hexDigitsFrom?,b_score]
  · have high : (v * 16 + w) / 16 = v := by omega
    have low : (v * 16 + w) % 16 = w := by omega
    rw [Measure.hexByte,Int.toNat_natCast,high,low,a_digit,b_digit]

end Text

namespace Measure

theorem colorPart_pair {a b : Char} (first : Text.isCapitalHex a) (second : Text.isCapitalHex b) :
    ∃ n : Int, colorPart [a,b] = .ok n ∧ 0 ≤ n ∧ n ≤ 255 ∧ hexByte n.toNat = [a,b] := by
  obtain ⟨n,found,fits⟩ := Text.hexNumber?_pair first second
  exact ⟨n,by rw [colorPart,found],fits⟩

theorem isColor_digits {s : String} (valid : isColor s) :
    ∃ a b c d e f, s.toList = [a,b,c,d,e,f] ∧ ∀ digit ∈ s.toList, Text.isCapitalHex digit := by
  obtain ⟨size,digits⟩ : s.toList.length = 6 ∧ ∀ digit ∈ s.toList, Text.isCapitalHex digit := by
    simpa [isColor] using valid
  have spelled : ∀ chars : List Char, chars.length = 6 → ∃ a b c d e f, chars = [a,b,c,d,e,f] := by
    rintro (_ | ⟨a,_ | ⟨b,_ | ⟨c,_ | ⟨d,_ | ⟨e,_ | ⟨f,_ | ⟨g,rest⟩⟩⟩⟩⟩⟩⟩) size
    case cons.cons.cons.cons.cons.cons.nil => exact ⟨a,b,c,d,e,f,rfl⟩
    all_goals simp at size
  obtain ⟨a,b,c,d,e,f,same⟩ := spelled s.toList size
  exact ⟨a,b,c,d,e,f,same,digits⟩

/-- A colour is written as it is. -/
theorem color_eq {s : String} (valid : isColor s) : color s = .ok s := by
  obtain ⟨a,b,c,d,e,f,spelled,digits⟩ := isColor_digits valid
  rw [spelled] at digits
  simp only [List.forall_mem_cons] at digits
  obtain ⟨da,db,dc,dd,de,df,_⟩ := digits
  obtain ⟨red,read_red,red_above,red_below,write_red⟩ := colorPart_pair da db
  obtain ⟨green,read_green,green_above,green_below,write_green⟩ := colorPart_pair dc dd
  obtain ⟨blue,read_blue,blue_above,blue_below,write_blue⟩ := colorPart_pair de df
  have whole : String.ofList [a,b,c,d,e,f] = s := by rw [← spelled,String.ofList_toList]
  unfold color
  simp [spelled,read_red,read_green,read_blue,write_red,write_green,write_blue,bind,Except.bind,
    pure,Except.pure,whole]
  exact ⟨red_above,red_below,green_above,green_below,blue_above,blue_below⟩

theorem color_isText {s : String} (valid : isColor s) : Xml.isText s := by
  obtain ⟨a,b,c,d,e,f,spelled,digits⟩ := isColor_digits valid
  have allowed : "0123456789ABCDEF".toList.all Xml.isAllowed = true := by decide +kernel
  refine List.all_eq_true.mpr fun digit member => ?_
  exact List.all_eq_true.mp allowed digit (List.contains_iff_mem.mp (digits digit member))

end Measure

end DocPress
