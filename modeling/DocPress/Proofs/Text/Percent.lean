import DocPress.Text.Entity
import DocPress.Text.Percent

/-! Percent encoding, read back. Main statement: of a text that is encoded the bytes in UTF-8 are read, if
what stands for itself in it may do so (`percentDecode?_percentEncode`). -/

namespace DocPress.Text

/-- Reads percent encoding: bytes in two digits of base sixteen, and characters that stand for themselves. -/
def percentDecode? (isPlain : Char → Bool) : List Char → Option (List UInt8)
  | [] => some []
  | '%' :: high :: low :: cs => do
    let h ← hexValue? high
    let l ← hexValue? low
    (percentDecode? isPlain cs).map (UInt8.ofNat (h * 16 + l) :: ·)
  | c :: cs => if isPlain c then (percentDecode? isPlain cs).map (UInt8.ofNat c.toNat :: ·) else none

variable {isPlain : Char → Bool} {c : Char} {cs : List Char} {bytes : List UInt8}

theorem hexValue?_capitalHexDigit : ∀ n < 16, hexValue? (capitalHexDigit n) = some n := by
  decide

theorem percentDecode?_percentByte (b : UInt8) (cs : List Char) :
    percentDecode? isPlain (percentByte b ++ cs) = (percentDecode? isPlain cs).map (b :: ·) := by
  have small : b.toNat < 256 := b.toNat_lt
  have whole : UInt8.ofNat (b.toNat / 16 * 16 + b.toNat % 16) = b := by
    rw [Nat.div_add_mod']
    exact UInt8.ofNat_toNat
  have high := hexValue?_capitalHexDigit (b.toNat / 16) (by omega)
  have low := hexValue?_capitalHexDigit (b.toNat % 16) (by omega)
  change percentDecode? isPlain ('%' :: capitalHexDigit (b.toNat / 16) :: capitalHexDigit (b.toNat % 16) :: cs) = _
  rw [percentDecode?,high,low]
  simp only [bind,Option.bind,whole]

theorem percentDecode?_bytes (bytes : List UInt8) (cs : List Char) :
    percentDecode? isPlain (bytes.flatMap percentByte ++ cs) = (percentDecode? isPlain cs).map (bytes ++ ·) := by
  induction bytes with
  | nil => simp
  | cons b bytes ih =>
    rw [List.flatMap_cons,List.append_assoc,percentDecode?_percentByte,ih,Option.map_map]
    rfl

theorem percentDecode?_plain (plain : isPlain c = true) (other : c ≠ '%') :
    percentDecode? isPlain (c :: cs) = (percentDecode? isPlain cs).map (UInt8.ofNat c.toNat :: ·) := by
  rw [percentDecode?,if_pos plain]
  rintro high low rest rfl
  exact absurd rfl other

theorem utf8EncodeChar_ascii (ascii : c.toNat < 0x80) : String.utf8EncodeChar c = [UInt8.ofNat c.toNat] := by
  unfold String.utf8EncodeChar
  dsimp only
  rw [if_pos (by change c.toNat ≤ _; omega)]
  rfl

/-- What is encoded is read as its bytes, if the characters that are left as they are stand for themselves. -/
theorem percentDecode?_percentEncode {safe : List Char}
    (left : ∀ c ∈ cs, isUnreserved c || safe.contains c → isPlain c ∧ c ≠ '%' ∧ c.toNat < 0x80) :
    percentDecode? isPlain (percentEncode safe cs) = some (cs.flatMap String.utf8EncodeChar) := by
  unfold percentEncode
  induction cs with
  | nil => rfl
  | cons c cs ih =>
    obtain ⟨here,later⟩ := List.forall_mem_cons.mp left
    rw [List.flatMap_cons,List.flatMap_cons]
    split
    next asItIs =>
      obtain ⟨plain,other,ascii⟩ := here asItIs
      rw [List.singleton_append,percentDecode?_plain plain other,ih later,utf8EncodeChar_ascii ascii]
      rfl
    next => rw [percentDecode?_bytes,ih later,Option.map_some]

theorem percentDecode?_length (decoded : percentDecode? isPlain cs = some bytes) : bytes.length ≤ cs.length := by
  fun_induction percentDecode? isPlain cs generalizing bytes with
  | case1 =>
    cases decoded
    exact Nat.le_refl _
  | case2 high low cs ih =>
    obtain ⟨h,-,decoded⟩ := Option.bind_eq_some_iff.mp decoded
    obtain ⟨l,-,decoded⟩ := Option.bind_eq_some_iff.mp decoded
    obtain ⟨rest,read,rfl⟩ := Option.map_eq_some_iff.mp decoded
    have := ih read
    simp only [List.length_cons]
    omega
  | case3 c cs _ plain ih =>
    obtain ⟨rest,read,rfl⟩ := Option.map_eq_some_iff.mp decoded
    exact Nat.succ_le_succ (ih read)
  | case4 => cases decoded

end DocPress.Text
