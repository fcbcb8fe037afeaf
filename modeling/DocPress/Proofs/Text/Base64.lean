import Mathlib.Data.Nat.Digits.Defs
import DocPress.Text.Base64

/-! What text in base 64 spells. Main statements: bytes are read from characters of the alphabet that spell
them, with the padding that belongs there, and from nothing else (`decode?_eq_some`); and such a text is what
is written for them (`encode_spells`). -/

namespace DocPress.Text.Base64

/-- The characters that stand for the values from zero on. -/
def alphabet : List Char := "ABCDEFGHIJKLMNOPQRSTUVWXYZabcdefghijklmnopqrstuvwxyz0123456789+/".toList

/-- The number that digits of a base spell, the most significant one first. -/
def spelled (base : Nat) (digits : List Nat) : Nat := Nat.ofDigits base digits.reverse

/-- Characters of the alphabet spell bytes: of the bits that the characters have, six each, the bytes have
eight each and leave fewer than eight. -/
structure Spells (digits : List Char) (data : List UInt8) : Prop where
  known : ∀ c ∈ digits, c ∈ alphabet
  length : data.length = digits.length * 6 / 8
  number : spelled 256 (data.map UInt8.toNat) =
    spelled 64 (digits.map (alphabet.idxOf ·)) / 2 ^ (digits.length * 6 % 8)

/-- What may stand behind so many digits: what fills up the last group of four, or any padding if all groups
are full. -/
def Pads (count : Nat) (padding : List Char) : Prop :=
  (∀ c ∈ padding, c = '=') ∧ (count % 4 = 0 ∨ 1 < count % 4 ∧ count % 4 + padding.length = 4)

variable {a b c d : Char} {cs digits padding : List Char} {data other : List UInt8} {v w x y : Nat}
  {values : List Nat}

/-! ### The alphabet -/

theorem alphabet_eq : alphabet = (List.range 64).map digit := by decide +kernel

theorem value?_digit : ∀ n < 64, value? (digit n) = some n := by decide +kernel

theorem between_iff {low high : Char} : (low ≤ c && c ≤ high) = true ↔ low.toNat ≤ c.toNat ∧ c.toNat ≤ high.toNat := by
  rw [Bool.and_eq_true,decide_eq_true_eq,decide_eq_true_eq]
  exact Iff.rfl

/-- Only the digits have a value. -/
theorem digit_of_value? (found : value? c = some v) : v < 64 ∧ digit v = c := by
  have code : Char.ofNat c.toNat = c := Char.ofNat_toNat c
  have capitals : 'A'.toNat = 65 ∧ 'Z'.toNat = 90 := ⟨rfl,rfl⟩
  have smalls : 'a'.toNat = 97 ∧ 'z'.toNat = 122 := ⟨rfl,rfl⟩
  have numerals : '0'.toNat = 48 ∧ '9'.toNat = 57 := ⟨rfl,rfl⟩
  unfold value? at found
  simp only [between_iff,capitals,smalls,numerals] at found
  split_ifs at found with capital small numeral plus slash <;> cases found
  · have position : 65 + (c.toNat - 65) = c.toNat := by omega
    refine ⟨by omega,?_⟩
    rw [digit,if_pos (by omega),position,code]
  · have position : 71 + (c.toNat - 71) = c.toNat := by omega
    refine ⟨by omega,?_⟩
    rw [digit,if_neg (by omega),if_pos (by omega),position,code]
  · refine ⟨by omega,?_⟩
    rw [digit,if_neg (by omega),if_neg (by omega),if_pos (by omega),Nat.add_sub_cancel,code]
  · exact ⟨by omega,plus.symm⟩
  · exact ⟨by omega,slash.symm⟩

theorem digit_idxOf (member : c ∈ alphabet) : alphabet.idxOf c < 64 ∧ digit (alphabet.idxOf c) = c := by
  rw [alphabet_eq] at member ⊢
  have inside := List.idxOf_lt_length_iff.mpr member
  have found := List.getElem_idxOf inside
  rw [List.getElem_map,List.getElem_range] at found
  rw [List.length_map,List.length_range] at inside
  exact ⟨inside,found⟩

theorem value?_idxOf (member : c ∈ alphabet) : value? c = some (alphabet.idxOf c) := by
  obtain ⟨small,same⟩ := digit_idxOf member
  have found := value?_digit (alphabet.idxOf c) small
  rwa [same] at found

theorem value?_eq_some : value? c = some v ↔ c ∈ alphabet ∧ alphabet.idxOf c = v := by
  constructor
  · intro found
    obtain ⟨small,same⟩ := digit_of_value? found
    have member : c ∈ alphabet := by
      rw [alphabet_eq]
      exact List.mem_map.mpr ⟨v,List.mem_range.mpr small,same⟩
    exact ⟨member,Option.some.inj ((value?_idxOf member).symm.trans found)⟩
  · rintro ⟨member,rfl⟩
    exact value?_idxOf member

theorem value?_of_mem (member : c ∈ alphabet) : ∃ v, value? c = some v := ⟨_,value?_idxOf member⟩

theorem value?_lt (found : value? c = some v) : v < 64 := (digit_of_value? found).1

theorem value?_solid (found : value? c = some v) : c ≠ '=' := by
  rintro rfl
  cases found

theorem mapM_value? : digits.mapM value? = some values ↔
    (∀ c ∈ digits, c ∈ alphabet) ∧ digits.map (alphabet.idxOf ·) = values := by
  induction digits generalizing values with
  | nil => simp
  | cons c digits ih =>
    simp only [List.mapM_cons,bind,Option.bind_eq_some_iff,value?_eq_some,ih,pure,List.forall_mem_cons,
      List.map_cons,Option.some.injEq]
    constructor
    · rintro ⟨_,⟨member,rfl⟩,_,⟨members,rfl⟩,same⟩
      exact ⟨⟨member,members⟩,same⟩
    · rintro ⟨⟨member,members⟩,same⟩
      exact ⟨_,⟨member,rfl⟩,_,⟨members,rfl⟩,same⟩

theorem Spells.of_values (values : List Nat) (read : digits.mapM value? = some values)
    (length : data.length = values.length * 6 / 8) (number : spelled 256 (data.map UInt8.toNat) =
      spelled 64 values / 2 ^ (values.length * 6 % 8)) : Spells digits data := by
  obtain ⟨known,rfl⟩ := mapM_value?.mp read
  rw [List.length_map] at length number
  exact ⟨known,length,number⟩

/-! ### Numbers -/

theorem spelled_append (base : Nat) (front back : List Nat) :
    spelled base (front ++ back) = spelled base front * base ^ back.length + spelled base back := by
  unfold spelled
  rw [List.reverse_append,Nat.ofDigits_append,List.length_reverse]
  ring

theorem spelled_inj (long : data.length = other.length)
    (same : spelled 256 (data.map UInt8.toNat) = spelled 256 (other.map UInt8.toNat)) : data = other := by
  have small (bytes : List UInt8) : ∀ n ∈ (bytes.map UInt8.toNat).reverse, n < 256 := by
    intro n member
    obtain ⟨byte,-,rfl⟩ := List.mem_map.mp (List.mem_reverse.mp member)
    exact byte.toNat_lt
  have digits := Nat.ofDigits_inj_of_len_eq (by decide) (by simpa using long) (small data) (small other) same
  exact (List.map_inj_right fun _ _ => UInt8.toNat_inj.mp).mp (List.reverse_inj.mp digits)

theorem Spells.unique (one : Spells digits data) (two : Spells digits other) : data = other :=
  spelled_inj (one.length.trans two.length.symm) (one.number.trans two.number.symm)

/-! ### Groups -/

theorem firstByte_toNat (hv : v < 64) (hw : w < 64) : (firstByte v w).toNat = v * 4 + w / 16 := by
  unfold firstByte
  rw [UInt8.toNat_ofNat']
  omega

theorem secondByte_toNat (hx : x < 64) : (secondByte w x).toNat = w % 16 * 16 + x / 4 := by
  unfold secondByte
  rw [UInt8.toNat_ofNat']
  omega

theorem thirdByte_toNat (hy : y < 64) : (thirdByte x y).toNat = x % 4 * 64 + y := by
  unfold thirdByte
  rw [UInt8.toNat_ofNat']
  omega

theorem Spells.nil : Spells [] [] := ⟨nofun,rfl,rfl⟩

theorem Spells.pair (ha : value? a = some v) (hb : value? b = some w) : Spells [a,b] [firstByte v w] := by
  have hv := value?_lt ha
  have hw := value?_lt hb
  refine .of_values [v,w] (by simp [ha,hb]) (by simp) ?_
  simp [spelled,Nat.ofDigits_cons,firstByte_toNat hv hw]
  omega

theorem Spells.triple (ha : value? a = some v) (hb : value? b = some w) (hc : value? c = some x) :
    Spells [a,b,c] [firstByte v w,secondByte w x] := by
  have hv := value?_lt ha
  have hw := value?_lt hb
  have hx := value?_lt hc
  refine .of_values [v,w,x] (by simp [ha,hb,hc]) (by simp) ?_
  simp [spelled,Nat.ofDigits_cons,firstByte_toNat hv hw,secondByte_toNat hx]
  omega

/-- A full group spells three bytes, whatever follows. -/
theorem Spells.group (ha : value? a = some v) (hb : value? b = some w) (hc : value? c = some x)
    (hd : value? d = some y) (later : Spells digits data) :
    Spells (a :: b :: c :: d :: digits) (firstByte v w :: secondByte w x :: thirdByte x y :: data) := by
  have hv := value?_lt ha
  have hw := value?_lt hb
  have hx := value?_lt hc
  have hy := value?_lt hd
  obtain ⟨known,length,number⟩ := later
  obtain ⟨values,same⟩ : ∃ values, digits.map (alphabet.idxOf ·) = values := ⟨_,rfl⟩
  have read := mapM_value?.mpr ⟨known,same⟩
  rw [← List.length_map (alphabet.idxOf ·),same] at length number
  refine .of_values ([v,w,x,y] ++ values) (by simp [ha,hb,hc,hd,read]) (by simp; omega) ?_
  have left : ([v,w,x,y] ++ values).length * 6 % 8 = values.length * 6 % 8 := by simp; omega
  -- the bits of what follows: those of its bytes, and those that are left
  have bits : 64 ^ values.length = 256 ^ data.length * 2 ^ (values.length * 6 % 8) := by
    rw [show 64 = 2 ^ 6 by rfl,show 256 = 2 ^ 8 by rfl,← Nat.pow_mul,← Nat.pow_mul,← Nat.pow_add]
    congr 1
    omega
  have front : spelled 256 [(firstByte v w).toNat,(secondByte w x).toNat,(thirdByte x y).toNat] =
      spelled 64 [v,w,x,y] := by
    simp [spelled,Nat.ofDigits_cons,firstByte_toNat hv hw,secondByte_toNat hx,thirdByte_toNat hy]
    omega
  have bytes : (firstByte v w :: secondByte w x :: thirdByte x y :: data).map UInt8.toNat =
      [(firstByte v w).toNat,(secondByte w x).toNat,(thirdByte x y).toNat] ++ data.map UInt8.toNat := rfl
  rw [left,bytes,spelled_append,spelled_append,List.length_map,front,bits,← Nat.mul_assoc,Nat.add_comm,number,
    Nat.add_comm (_ * _),Nat.add_mul_div_right _ _ (Nat.two_pow_pos _)]

theorem pads_add_four {count : Nat} : Pads (count + 4) padding ↔ Pads count padding := by
  unfold Pads
  rw [Nat.add_mod_right]

theorem Pads.eq_replicate {count n : Nat} (pads : Pads count padding) (last : count % 4 + n = 4)
    (part : count % 4 ≠ 0) : padding = List.replicate n '=' := by
  obtain ⟨solid,full | ⟨-,long⟩⟩ := pads
  · exact absurd full part
  · exact List.eq_replicate_iff.mpr ⟨by omega,solid⟩

/-! ### Reading -/

theorem decodeGroups_padding (solid : ∀ c ∈ padding, c = '=') : decodeGroups padding = some [] := by
  cases padding with
  | nil => rfl
  | cons c padding =>
    obtain ⟨rfl,solid⟩ := List.forall_mem_cons.mp solid
    exact if_pos (by simpa using solid)

theorem decodeGroups_pair (ha : value? a = some v) (hb : value? b = some w) :
    decodeGroups [a,b,'=','='] = some [firstByte v w] := by
  rw [decodeGroups]
  · simp [ha,hb]
  · exact fun same => value?_solid ha same

theorem decodeGroups_triple (ha : value? a = some v) (hb : value? b = some w) (hc : value? c = some x) :
    decodeGroups [a,b,c,'='] = some [firstByte v w,secondByte w x] := by
  rw [decodeGroups]
  · simp [ha,hb,hc]
  · exact fun same => value?_solid ha same
  · exact fun same => value?_solid hc same

theorem decodeGroups_group (ha : value? a = some v) (hb : value? b = some w) (hc : value? c = some x)
    (hd : value? d = some y) : decodeGroups (a :: b :: c :: d :: cs) =
      (decodeGroups cs).map fun data => firstByte v w :: secondByte w x :: thirdByte x y :: data := by
  rw [decodeGroups]
  · simp only [ha,hb,hc,hd]
    cases decodeGroups cs <;> rfl
  · exact fun same => value?_solid ha same
  · exact fun same => absurd same (value?_solid hc)
  · exact fun same => absurd same (value?_solid hd)

theorem spells_of_decodeGroups (decoded : decodeGroups cs = some data) :
    ∃ digits padding, cs = digits ++ padding ∧ Pads digits.length padding ∧ Spells digits data := by
  fun_induction decodeGroups cs generalizing data with
  | case1 =>
    cases decoded
    exact ⟨[],[],rfl,⟨nofun,.inl rfl⟩,.nil⟩
  | case2 rest padded =>
    cases decoded
    exact ⟨[],'=' :: rest,rfl,⟨by simpa using padded,.inl rfl⟩,.nil⟩
  | case4 a b =>
    simp only [bind,Option.bind_eq_some_iff,pure,Option.some.injEq] at decoded
    obtain ⟨v,ha,w,hb,rfl⟩ := decoded
    exact ⟨[a,b],['=','='],rfl,⟨by simp,by simp⟩,.pair ha hb⟩
  | case5 a b c =>
    simp only [bind,Option.bind_eq_some_iff,pure,Option.some.injEq] at decoded
    obtain ⟨w,hb,x,hc,v,ha,rfl⟩ := decoded
    exact ⟨[a,b,c],['='],rfl,⟨by simp,by simp⟩,.triple ha hb hc⟩
  | case6 a b c d rest _ _ _ ih =>
    simp only [bind,Option.bind_eq_some_iff,pure,Option.some.injEq] at decoded
    obtain ⟨v,ha,w,hb,x,hc,y,hd,data,decoded,rfl⟩ := decoded
    obtain ⟨digits,padding,rfl,pads,spells⟩ := ih decoded
    exact ⟨a :: b :: c :: d :: digits,padding,rfl,pads_add_four.mpr pads,.group ha hb hc hd spells⟩
  | case3 | case7 => cases decoded

/-- Digits of the alphabet are read with the padding that belongs behind them, four at a time. -/
theorem decodeGroups_of_pads : ∀ digits : List Char, (∀ c ∈ digits, c ∈ alphabet) → Pads digits.length padding →
    ∃ data, decodeGroups (digits ++ padding) = some data ∧ Spells digits data
  | [],_,pads => ⟨[],decodeGroups_padding pads.1,.nil⟩
  | [_],_,pads => absurd pads.2 (by simp)
  | [a,b],known,pads => by
    obtain ⟨v,ha⟩ := value?_of_mem (known a (by simp))
    obtain ⟨w,hb⟩ := value?_of_mem (known b (by simp))
    obtain rfl : padding = ['=','='] := pads.eq_replicate (n := 2) rfl (by simp)
    exact ⟨_,decodeGroups_pair ha hb,.pair ha hb⟩
  | [a,b,c],known,pads => by
    obtain ⟨v,ha⟩ := value?_of_mem (known a (by simp))
    obtain ⟨w,hb⟩ := value?_of_mem (known b (by simp))
    obtain ⟨x,hc⟩ := value?_of_mem (known c (by simp))
    obtain rfl : padding = ['='] := pads.eq_replicate (n := 1) rfl (by simp)
    exact ⟨_,decodeGroups_triple ha hb hc,.triple ha hb hc⟩
  | a :: b :: c :: d :: digits,known,pads => by
    simp only [List.forall_mem_cons] at known
    obtain ⟨a_known,b_known,c_known,d_known,known⟩ := known
    obtain ⟨v,ha⟩ := value?_of_mem a_known
    obtain ⟨w,hb⟩ := value?_of_mem b_known
    obtain ⟨x,hc⟩ := value?_of_mem c_known
    obtain ⟨y,hd⟩ := value?_of_mem d_known
    obtain ⟨data,decoded,spells⟩ := decodeGroups_of_pads digits known (pads_add_four.mp pads)
    refine ⟨_,?_,.group ha hb hc hd spells⟩
    simp only [List.cons_append,decodeGroups_group ha hb hc hd,decoded,Option.map_some]

/-- Bytes are read from digits of the alphabet that spell them, with the padding that belongs behind these,
and from no other text. -/
theorem decode?_eq_some (filled : cs ≠ []) : decode? cs = some data ↔
    ∃ digits padding, cs = digits ++ padding ∧ digits ≠ [] ∧ Pads digits.length padding ∧ Spells digits data := by
  unfold decode?
  rw [Option.ite_none_left_eq_some]
  constructor
  · rintro ⟨unpadded,decoded⟩
    obtain ⟨digits,padding,rfl,pads,spells⟩ := spells_of_decodeGroups decoded
    refine ⟨digits,padding,rfl,?_,pads,spells⟩
    rintro rfl
    cases padding with
    | nil => exact filled rfl
    | cons c padding => exact unpadded (congrArg some (pads.1 c List.mem_cons_self))
  · rintro ⟨digits,padding,rfl,some,pads,spells⟩
    obtain ⟨found,decoded,again⟩ := decodeGroups_of_pads digits spells.known pads
    obtain rfl := again.unique spells
    refine ⟨?_,decoded⟩
    cases digits with
    | nil => exact absurd rfl some
    | cons c digits =>
      obtain ⟨v,found⟩ := value?_of_mem (spells.known c List.mem_cons_self)
      exact fun same => value?_solid found (Option.some.inj same)

/-! ### Writing -/

theorem firstByte_of_byte (byte : UInt8) (small : w < 64) (low : w / 16 = byte.toNat % 4) :
    firstByte (byte.toNat / 4) w = byte := by
  have bound := byte.toNat_lt
  rw [← UInt8.toNat_inj,firstByte_toNat (by omega) small]
  omega

theorem secondByte_of_byte (byte : UInt8) (small : x < 64) (high : w % 16 = byte.toNat / 16)
    (low : x / 4 = byte.toNat % 16) : secondByte w x = byte := by
  rw [← UInt8.toNat_inj,secondByte_toNat small]
  omega

theorem thirdByte_of_byte (byte : UInt8) (high : x % 4 = byte.toNat / 64) :
    thirdByte x (byte.toNat % 64) = byte := by
  rw [← UInt8.toNat_inj,thirdByte_toNat (by omega)]
  omega

/-- For bytes a text is written that spells them. -/
theorem encode_spells (data : List UInt8) : ∃ digits padding, encode data = digits ++ padding ∧
    Pads digits.length padding ∧ Spells digits data := by
  fun_induction encode data with
  | case1 => exact ⟨[],[],rfl,⟨nofun,.inl rfl⟩,.nil⟩
  | case2 a =>
    have a_lt := a.toNat_lt
    have spells := Spells.pair (value?_digit (a.toNat / 4) (by omega)) (value?_digit (a.toNat % 4 * 16) (by omega))
    rw [firstByte_of_byte a (by omega) (by omega)] at spells
    exact ⟨_,['=','='],rfl,⟨by simp,by simp⟩,spells⟩
  | case3 a b =>
    have a_lt := a.toNat_lt
    have b_lt := b.toNat_lt
    have spells := Spells.triple (value?_digit (a.toNat / 4) (by omega))
      (value?_digit (a.toNat % 4 * 16 + b.toNat / 16) (by omega)) (value?_digit (b.toNat % 16 * 4) (by omega))
    rw [firstByte_of_byte a (by omega) (by omega),secondByte_of_byte b (by omega) (by omega) (by omega)] at spells
    exact ⟨_,['='],rfl,⟨by simp,by simp⟩,spells⟩
  | case4 a b c rest ih =>
    have a_lt := a.toNat_lt
    have b_lt := b.toNat_lt
    have c_lt := c.toNat_lt
    obtain ⟨digits,padding,written,pads,later⟩ := ih
    have spells := later.group (value?_digit (a.toNat / 4) (by omega))
      (value?_digit (a.toNat % 4 * 16 + b.toNat / 16) (by omega))
      (value?_digit (b.toNat % 16 * 4 + c.toNat / 64) (by omega)) (value?_digit (c.toNat % 64) (by omega))
    rw [firstByte_of_byte a (by omega) (by omega),secondByte_of_byte b (by omega) (by omega) (by omega),
      thirdByte_of_byte c (by omega)] at spells
    exact ⟨_ :: _ :: _ :: _ :: digits,padding,by rw [written]; rfl,pads_add_four.mpr pads,spells⟩

theorem Spells.filled (spells : Spells digits data) (filled : data ≠ []) : digits ≠ [] := by
  rintro rfl
  exact filled (List.length_eq_zero_iff.mp spells.length)

theorem encode_ne_nil (filled : data ≠ []) : encode data ≠ [] := by
  obtain ⟨digits,padding,written,-,spells⟩ := encode_spells data
  rw [written]
  exact List.append_ne_nil_of_left_ne_nil (spells.filled filled) padding

/-- What is written for bytes is read as these bytes. -/
theorem decode?_encode (filled : data ≠ []) : decode? (encode data) = some data := by
  obtain ⟨digits,padding,written,pads,spells⟩ := encode_spells data
  exact (decode?_eq_some (encode_ne_nil filled)).mpr ⟨digits,padding,written,spells.filled filled,pads,spells⟩

end DocPress.Text.Base64
