import DocPress.Text.DecodeError

/-!
Reading UTF-8. The shortest form only, no surrogates, nothing above U+10FFFF; the first byte that
breaks a rule is reported with the rule.
-/

namespace DocPress.Text.Utf8

def isContinuation (b : UInt8) : Bool := 0x80 ≤ b && b < 0xC0

/-- Can the second byte follow the first one? This excludes long forms, surrogates and code points
above the last one. -/
def fits (first second : UInt8) : Bool :=
  isContinuation second &&
    (if first = 0xE0 then 0xA0 ≤ second
     else if first = 0xED then second < 0xA0
     else if first = 0xF0 then 0x90 ≤ second
     else if first = 0xF4 then second < 0x90
     else true)

def tail (b : UInt8) : Nat := b.toNat - 0x80

inductive Step where
  | char (c : Char) (rest : List UInt8)
  | invalid (length : Nat) (reason : String)
  | truncated

/-- How the bytes behind a multi-byte start are read, `count` of them after the second. -/
def continued (value count length : Nat) (bytes : List UInt8) : Step :=
  match count, bytes with
  | 0, rest => .char (Char.ofNat value) rest
  | _ + 1, [] => .truncated
  | n + 1, b :: rest =>
    if isContinuation b then continued (value * 64 + tail b) n (length + 1) rest
    else .invalid length "invalid continuation byte"

def step (b : UInt8) (rest : List UInt8) : Step :=
  if b < 0x80 then .char (Char.ofNat b.toNat) rest
  else if b < 0xC2 || 0xF4 < b then .invalid 1 "invalid start byte"
  else match rest with
    | [] => .truncated
    | second :: more =>
      if fits b second then
        if b < 0xE0 then continued ((b.toNat - 0xC0) * 64 + tail second) 0 2 more
        else if b < 0xF0 then continued ((b.toNat - 0xE0) * 64 + tail second) 1 2 more
        else continued ((b.toNat - 0xF0) * 64 + tail second) 2 2 more
      else .invalid 1 "invalid continuation byte"

theorem continued_rest {value count length : Nat} {bytes rest : List UInt8} {c : Char}
    (h : continued value count length bytes = .char c rest) : rest.length ≤ bytes.length := by
  fun_induction continued value count length bytes with
  | case1 => cases h; exact Nat.le_refl _
  | case2 => cases h
  | case3 value n length b rest' hb ih => exact Nat.le_succ_of_le (ih h)
  | case4 => cases h

theorem step_rest {b : UInt8} {bytes rest : List UInt8} {c : Char}
    (h : step b bytes = .char c rest) : rest.length ≤ bytes.length := by
  unfold step at h
  split at h
  · cases h; exact Nat.le_refl _
  · split at h
    · cases h
    · split at h
      · cases h
      · split at h
        · split at h
          · exact Nat.le_succ_of_le (continued_rest h)
          · split at h <;> exact Nat.le_succ_of_le (continued_rest h)
        · cases h

def decodeFrom (start : Nat) (bytes : List UInt8) : Except DecodeError (List Char) :=
  match bytes with
  | [] => .ok []
  | b :: rest =>
    match h : step b rest with
    | .char c next => do
      let cs ← decodeFrom (start + (rest.length + 1 - next.length)) next
      return c :: cs
    | .invalid length reason => .error ⟨"utf-8",b,start,start + length,reason⟩
    | .truncated => .error ⟨"utf-8",b,start,start + rest.length + 1,"unexpected end of data"⟩
termination_by bytes.length
decreasing_by exact Nat.lt_succ_of_le (step_rest h)

def decode (bytes : List UInt8) : Except DecodeError String :=
  (decodeFrom 0 bytes).map String.ofList

def encode (s : String) : List UInt8 := s.toList.flatMap String.utf8EncodeChar

end DocPress.Text.Utf8
