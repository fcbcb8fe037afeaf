import Mathlib.Data.List.TakeWhile
import DocPress.Picture.Address
import DocPress.Proofs.Text.Base64

/-! Data that addresses hold in themselves. Main statement: it is read back, and it is read only where all
that follows the header belongs to it (`dataUri_reads`). -/

namespace DocPress
open Text.Base64 (Pads Spells decode?_encode decode?_eq_some encode encode_ne_nil)

variable {url : String} {front behind payload : List Char} {data : List UInt8}

/-- The header ends before the first comma. -/
theorem dataPayload?_of_comma (parts : url.toList = front ++ ',' :: behind) (apart : ',' ∉ front) :
    dataPayload? url = if ";base64".toList <:+ front ∧ behind ≠ [] then some behind else none := by
  have kept : ∀ c ∈ front, decide (c ≠ ',') = true := by
    intro c member
    exact decide_eq_true fun same => apart (same ▸ member)
  have header : (front ++ ',' :: behind).takeWhile (· ≠ ',') = front := by
    rw [List.takeWhile_append_of_pos kept,List.takeWhile_cons_of_neg (by simp),List.append_nil]
  have rest : (front ++ ',' :: behind).drop (front.length + 1) = behind := by
    rw [List.drop_append,List.drop_of_length_le (by omega)]
    simp
  unfold dataPayload?
  dsimp only
  rw [parts,header,rest]
  simp only [Bool.and_eq_true,List.isSuffixOf_iff_suffix,Bool.not_eq_true',List.isEmpty_eq_false_iff,ne_eq]

theorem dataPayload?_of_not_mem (without : ',' ∉ url.toList) : dataPayload? url = none := by
  have whole : url.toList.takeWhile (· ≠ ',') = url.toList := by
    rw [List.takeWhile_eq_self_iff]
    intro c member
    exact decide_eq_true fun same => without (same ▸ member)
  unfold dataPayload?
  dsimp only
  rw [whole]
  simp

theorem dataPayload?_eq_some : dataPayload? url = some payload ↔ ∃ front,
    url.toList = front ++ ',' :: payload ∧ ',' ∉ front ∧ ";base64".toList <:+ front ∧ payload ≠ [] := by
  constructor
  · intro found
    by_cases comma : ',' ∈ url.toList
    · obtain ⟨front,behind,parts,apart⟩ := List.eq_append_cons_of_mem comma
      rw [dataPayload?_of_comma parts apart,Option.ite_none_right_eq_some] at found
      obtain ⟨⟨marked,filled⟩,same⟩ := found
      cases same
      exact ⟨front,parts,apart,marked,filled⟩
    · rw [dataPayload?_of_not_mem comma] at found
      cases found
  · rintro ⟨front,parts,apart,marked,filled⟩
    rw [dataPayload?_of_comma parts apart,if_pos ⟨marked,filled⟩]

theorem decodeDataUri?_eq_some : decodeDataUri? url = some data ↔ ∃ front digits padding,
    url.toList = front ++ ',' :: (digits ++ padding) ∧ ',' ∉ front ∧ ";base64".toList <:+ front ∧
      digits ≠ [] ∧ Pads digits.length padding ∧ Spells digits data := by
  unfold decodeDataUri?
  simp only [Option.bind_eq_some_iff,dataPayload?_eq_some]
  constructor
  · rintro ⟨payload,⟨front,parts,apart,marked,filled⟩,decoded⟩
    obtain ⟨digits,padding,rfl,some,pads,spells⟩ := (decode?_eq_some filled).mp decoded
    exact ⟨front,digits,padding,parts,apart,marked,some,pads,spells⟩
  · rintro ⟨front,digits,padding,parts,apart,marked,some,pads,spells⟩
    have filled : digits ++ padding ≠ [] := List.append_ne_nil_of_left_ne_nil some padding
    refine ⟨digits ++ padding,⟨front,parts,apart,marked,filled⟩,?_⟩
    exact (decode?_eq_some filled).mpr ⟨digits,padding,rfl,some,pads,spells⟩

theorem decodeDataUri?_encode {header : String} (apart : ',' ∉ header.toList)
    (marked : ";base64".toList <:+ header.toList) (filled : data ≠ []) :
    decodeDataUri? (header ++ "," ++ String.ofList (encode data)) = some data := by
  have payload : dataPayload? (header ++ "," ++ String.ofList (encode data)) = some (encode data) :=
    dataPayload?_eq_some.mpr ⟨header.toList,by simp,apart,marked,encode_ne_nil filled⟩
  unfold decodeDataUri?
  rw [payload]
  exact decode?_encode filled

/-- Data is read back from an address whose header says that it is in base 64. And data is read from an address
if and only if this says so before its first comma, and has characters of the alphabet behind it that spell the
data, all of them, and such padding as belongs there. -/
theorem dataUri_reads :
    (∀ (header : String) (data : List UInt8), ',' ∉ header.toList → ";base64".toList <:+ header.toList →
      data ≠ [] → decodeDataUri? (header ++ "," ++ String.ofList (encode data)) = some data) ∧
    ∀ (url : String) (data : List UInt8), decodeDataUri? url = some data ↔ ∃ front digits padding,
      url.toList = front ++ ',' :: (digits ++ padding) ∧ ',' ∉ front ∧ ";base64".toList <:+ front ∧
        digits ≠ [] ∧ Pads digits.length padding ∧ Spells digits data := by
  constructor
  · intro header data apart marked filled
    exact decodeDataUri?_encode apart marked filled
  · intro url data
    exact decodeDataUri?_eq_some

/-- Four bytes are read back, and what they are read from has nothing else in it. -/
theorem dataUri_reads_word :
    decodeDataUri? "data:image/gif;base64,TWFuIQ==" = some [0x4D,0x61,0x6E,0x21] ∧
      ∃ front digits padding, "data:image/gif;base64,TWFuIQ==".toList = front ++ ',' :: (digits ++ padding) ∧
        Spells digits [0x4D,0x61,0x6E,0x21] := by
  have read := dataUri_reads.1 "data:image/gif;base64" [0x4D,0x61,0x6E,0x21] (by decide) (by decide)
    (by decide)
  have address : "data:image/gif;base64" ++ "," ++ String.ofList (encode [0x4D,0x61,0x6E,0x21]) =
      "data:image/gif;base64,TWFuIQ==" := by decide
  rw [address] at read
  obtain ⟨front,digits,padding,parts,-,-,-,-,spells⟩ := (dataUri_reads.2 _ _).mp read
  exact ⟨read,front,digits,padding,parts,spells⟩

/-- A blank among the characters is not passed over. -/
example : decodeDataUri? "data:image/gif;base64,TW FuIQ==" = none := by decide

end DocPress
