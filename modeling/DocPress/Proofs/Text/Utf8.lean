import DocPress.Text.Utf8

/-! Text in UTF-8. Main statement: what is written is read as it was (`decodeFrom_encode`). -/

namespace DocPress.Text.Utf8

variable {a b c d n start : Nat} {first second : UInt8} {rest next : List UInt8} {ch : Char}

theorem toNat_small (small : n < 256) : (UInt8.ofNat n).toNat = n := by
  rw [UInt8.toNat_ofNat']
  exact Nat.mod_eq_of_lt small

theorem isContinuation_iff : isContinuation first = true ↔ 0x80 ≤ first.toNat ∧ first.toNat < 0xC0 := by
  simp [isContinuation,UInt8.le_iff_toNat_le,UInt8.lt_iff_toNat_lt]

theorem fits_iff : fits first second = true ↔
    (0x80 ≤ second.toNat ∧ second.toNat < 0xC0) ∧ (first.toNat = 0xE0 → 0xA0 ≤ second.toNat) ∧
      (first.toNat = 0xED → second.toNat < 0xA0) ∧ (first.toNat = 0xF0 → 0x90 ≤ second.toNat) ∧
        (first.toNat = 0xF4 → second.toNat < 0x90) := by
  have same (n : UInt8) : first = n ↔ first.toNat = n.toNat := UInt8.toNat_inj.symm
  unfold fits
  rw [Bool.and_eq_true,isContinuation_iff]
  simp only [same,UInt8.le_iff_toNat_le,UInt8.lt_iff_toNat_lt]
  refine and_congr_right fun _ => ?_
  split
  · simp_all
  · split
    · simp_all
    · split
      · simp_all
      · split <;> simp_all

theorem step_one (small : n < 0x80) : step (UInt8.ofNat n) rest = .char (Char.ofNat n) rest := by
  unfold step
  have value := toNat_small (n := n) (by omega)
  rw [if_pos (by rw [UInt8.lt_iff_toNat_lt,value]; exact small),value]

/-- The bytes of a character behind its first one. -/
def tailBytes (values : List Nat) : List UInt8 := values.map fun n => UInt8.ofNat (n + 0x80)

theorem continued_tail {values : List Nat} {value length : Nat} (small : ∀ n ∈ values, n < 64) :
    continued value values.length length (tailBytes values ++ rest) =
      .char (Char.ofNat (values.foldl (fun value n => value * 64 + n) value)) rest := by
  induction values generalizing value length with
  | nil => rfl
  | cons n values ih =>
    obtain ⟨here,later⟩ := List.forall_mem_cons.mp small
    have value := toNat_small (n := n + 0x80) (by omega)
    have inside : isContinuation (UInt8.ofNat (n + 0x80)) = true := by
      rw [isContinuation_iff,value]
      omega
    have bits : tail (UInt8.ofNat (n + 0x80)) = n := by
      unfold tail
      omega
    rw [List.length_cons,tailBytes,List.map_cons,List.cons_append,continued,if_pos inside,bits]
    exact ih later

/-- What may follow the first byte of a character, in the six bits that count. -/
structure Follows (lead b : Nat) : Prop where
  small : b < 64
  short : lead = 0xE0 → 0x20 ≤ b
  plain : lead = 0xED → b < 0x20
  shortest : lead = 0xF0 → 0x10 ≤ b
  last : lead = 0xF4 → b < 0x10

theorem step_many {lead : Nat} {values : List Nat} (low : 0xC2 ≤ lead) (high : lead ≤ 0xF4)
    (follows : Follows lead b) : step (UInt8.ofNat lead) (tailBytes (b :: values) ++ rest) =
      if lead < 0xE0 then continued ((lead - 0xC0) * 64 + b) 0 2 (tailBytes values ++ rest)
      else if lead < 0xF0 then continued ((lead - 0xE0) * 64 + b) 1 2 (tailBytes values ++ rest)
      else continued ((lead - 0xF0) * 64 + b) 2 2 (tailBytes values ++ rest) := by
  have leading := toNat_small (n := lead) (by omega)
  have value := toNat_small (n := b + 0x80) (by have := follows.small; omega)
  have fitting : fits (UInt8.ofNat lead) (UInt8.ofNat (b + 0x80)) = true := by
    rw [fits_iff,leading,value]
    obtain ⟨small,short,plain,shortest,last⟩ := follows
    omega
  have bits : tail (UInt8.ofNat (b + 0x80)) = b := by
    unfold tail
    omega
  have starts : ¬ UInt8.ofNat lead < 0x80 := by
    rw [UInt8.lt_iff_toNat_lt,leading]
    exact Nat.not_lt.mpr (Nat.le_trans (by decide) low)
  have inside : ¬ (UInt8.ofNat lead < 0xC2 || 0xF4 < UInt8.ofNat lead) = true := by
    simp only [Bool.or_eq_true,decide_eq_true_eq,UInt8.lt_iff_toNat_lt,leading]
    exact not_or.mpr ⟨Nat.not_lt.mpr low,Nat.not_lt.mpr high⟩
  unfold step tailBytes
  rw [if_neg starts,if_neg inside,List.map_cons,List.cons_append]
  dsimp only
  rw [if_pos fitting,bits]
  simp only [UInt8.lt_iff_toNat_lt,leading]
  rfl

/-- A character is read from the bytes that it is written as, whatever comes behind. -/
theorem utf8EncodeChar_step (ch : Char) (rest : List UInt8) :
    ∃ first more, String.utf8EncodeChar ch = first :: more ∧ step first (more ++ rest) = .char ch rest := by
  have valid : ch.val.toNat < 0xD800 ∨ 0xDFFF < ch.val.toNat ∧ ch.val.toNat < 0x110000 := ch.valid
  have whole : Char.ofNat ch.val.toNat = ch := Char.ofNat_toNat ch
  have follows {lead b : Nat} (small : b < 64) (edges : (lead = 0xE0 → 0x20 ≤ b) ∧ (lead = 0xED → b < 0x20) ∧
      (lead = 0xF0 → 0x10 ≤ b) ∧ (lead = 0xF4 → b < 0x10)) : Follows lead b :=
    ⟨small,edges.1,edges.2.1,edges.2.2.1,edges.2.2.2⟩
  unfold String.utf8EncodeChar
  generalize ch.val.toNat = v at valid whole ⊢
  dsimp only
  by_cases one : v ≤ 0x7F
  · rw [if_pos one]
    have read := @step_one v rest (by omega)
    exact ⟨_,[],rfl,whole ▸ read⟩
  by_cases two : v ≤ 0x7FF
  · rw [if_neg one,if_pos two]
    refine ⟨_,tailBytes [v % 64],rfl,?_⟩
    have value : (v / 64 % 32 + 0xC0 - 0xC0) * 64 + v % 64 = v := by omega
    rw [step_many (by omega) (by omega) (follows (by omega) (by omega)),if_pos (by omega),value]
    exact congrArg (Step.char · rest) whole
  by_cases three : v ≤ 0xFFFF
  · rw [if_neg one,if_neg two,if_pos three]
    refine ⟨_,tailBytes [v / 64 % 64,v % 64],rfl,?_⟩
    have value : ((v / 4096 % 16 + 0xE0 - 0xE0) * 64 + v / 64 % 64) * 64 + v % 64 = v := by omega
    have small : ∀ n ∈ [v % 64], n < 64 := List.forall_mem_singleton.mpr (by omega)
    rw [step_many (by omega) (by omega) (follows (by omega) (by omega)),if_neg (by omega),if_pos (by omega)]
    refine (continued_tail small).trans ?_
    rw [List.foldl_cons,List.foldl_nil,value,whole]
  · rw [if_neg one,if_neg two,if_neg three]
    refine ⟨_,tailBytes [v / 4096 % 64,v / 64 % 64,v % 64],rfl,?_⟩
    have value : (((v / 262144 % 8 + 0xF0 - 0xF0) * 64 + v / 4096 % 64) * 64 + v / 64 % 64) * 64 + v % 64 = v := by
      omega
    have small : ∀ n ∈ [v / 64 % 64,v % 64], n < 64 :=
      List.forall_mem_cons.mpr ⟨by omega,List.forall_mem_singleton.mpr (by omega)⟩
    rw [step_many (by omega) (by omega) (follows (by omega) (by omega)),if_neg (by omega),if_neg (by omega)]
    refine (continued_tail small).trans ?_
    rw [List.foldl_cons,List.foldl_cons,List.foldl_nil,value,whole]

theorem decodeFrom_char (read : step first rest = .char ch next) : decodeFrom start (first :: rest) =
    (decodeFrom (start + (rest.length + 1 - next.length)) next).map (ch :: ·) := by
  rw [decodeFrom]
  split
  next c next' found =>
    cases found.symm.trans read
    cases decodeFrom (start + (rest.length + 1 - next.length)) next <;> rfl
  next found => cases found.symm.trans read
  next found => cases found.symm.trans read

theorem decodeFrom_encode (cs : List Char) (start : Nat) :
    decodeFrom start (cs.flatMap String.utf8EncodeChar) = .ok cs := by
  induction cs generalizing start with
  | nil =>
    rw [List.flatMap_nil,decodeFrom]
  | cons c cs ih =>
    obtain ⟨first,more,bytes,read⟩ := utf8EncodeChar_step c (cs.flatMap String.utf8EncodeChar)
    rw [List.flatMap_cons,bytes,List.cons_append,decodeFrom_char read,ih]
    rfl

theorem decodeFrom_length {bytes : List UInt8} {cs : List Char} (decoded : decodeFrom start bytes = .ok cs) :
    cs.length ≤ bytes.length := by
  fun_induction decodeFrom start bytes generalizing cs with
  | case1 =>
    cases decoded
    exact Nat.le_refl _
  | case2 start b rest c next read ih =>
    cases later : decodeFrom (start + (rest.length + 1 - next.length)) next with
    | error e =>
      rw [later] at decoded
      cases decoded
    | ok cs =>
      rw [later] at decoded
      cases decoded
      exact Nat.succ_le_succ (Nat.le_trans (ih later) (step_rest read))
  | case3 => cases decoded
  | case4 => cases decoded

end DocPress.Text.Utf8
