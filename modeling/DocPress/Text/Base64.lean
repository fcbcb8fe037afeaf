/-!
Base64 text. Writing gives canonical text; reading is strict about the alphabet, but passes over
the bits that a last, short group leaves unused, and over padding behind a complete group.
-/

namespace DocPress.Text.Base64

def digit (n : Nat) : Char :=
  if n < 26 then Char.ofNat (65 + n)
  else if n < 52 then Char.ofNat (71 + n)
  else if n < 62 then Char.ofNat (n - 4)
  else if n = 62 then '+' else '/'

def value? (c : Char) : Option Nat :=
  if 'A' ≤ c && c ≤ 'Z' then some (c.toNat - 65)
  else if 'a' ≤ c && c ≤ 'z' then some (c.toNat - 71)
  else if '0' ≤ c && c ≤ '9' then some (c.toNat + 4)
  else if c = '+' then some 62
  else if c = '/' then some 63
  else none

def encode : List UInt8 → List Char
  | [] => []
  | [a] => [digit (a.toNat / 4),digit (a.toNat % 4 * 16),'=','=']
  | [a,b] =>
    [digit (a.toNat / 4),digit (a.toNat % 4 * 16 + b.toNat / 16),digit (b.toNat % 16 * 4),'=']
  | a :: b :: c :: rest =>
    digit (a.toNat / 4) :: digit (a.toNat % 4 * 16 + b.toNat / 16) ::
      digit (b.toNat % 16 * 4 + c.toNat / 64) :: digit (c.toNat % 64) :: encode rest

def firstByte (a b : Nat) : UInt8 := UInt8.ofNat (a * 4 + b / 16)

def secondByte (b c : Nat) : UInt8 := UInt8.ofNat (b % 16 * 16 + c / 4)

def thirdByte (c d : Nat) : UInt8 := UInt8.ofNat (c % 4 * 64 + d)

/-- Reads groups of four; padding alone may follow the last complete one. -/
def decodeGroups : List Char → Option (List UInt8)
  | [] => some []
  | '=' :: rest => if rest.all (· = '=') then some [] else none
  | [a,b,'=','='] => do
    return [firstByte (← value? a) (← value? b)]
  | [a,b,c,'='] => do
    let bv ← value? b
    let cv ← value? c
    return [firstByte (← value? a) bv,secondByte bv cv]
  | a :: b :: c :: d :: rest => do
    let av ← value? a
    let bv ← value? b
    let cv ← value? c
    let dv ← value? d
    let bytes ← decodeGroups rest
    return firstByte av bv :: secondByte bv cv :: thirdByte cv dv :: bytes
  | _ => none

/-- Reads a text that does not begin with padding. -/
def decode? (cs : List Char) : Option (List UInt8) :=
  if cs.head? = some '=' then none else decodeGroups cs

example : decode? ['Q','R','=','='] = some [65] := by decide
example : decode? ['Q','U','J','D','=','=','=','='] = some [65,66,67] := by decide
example : decode? ['Q','Q','=','=','Q','Q','=','='] = none := by decide

end DocPress.Text.Base64
