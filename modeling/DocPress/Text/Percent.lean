import DocPress.Text.Quoted

/-!
Percent encoding. A character outside a given safe set becomes its bytes in UTF-8, each written as
a percent sign and two capital digits of base sixteen.
-/

namespace DocPress.Text

def isUnreserved (c : Char) : Bool :=
  c.isAlphanum || c = '_' || c = '.' || c = '-' || c = '~'

def capitalHexDigit (n : Nat) : Char :=
  Char.ofNat (if n < 10 then 48 + n else 55 + n)

def percentByte (b : UInt8) : List Char :=
  ['%',capitalHexDigit (b.toNat / 16),capitalHexDigit (b.toNat % 16)]

def percentEncode (safe : List Char) (cs : List Char) : List Char :=
  cs.flatMap fun c =>
    if isUnreserved c || safe.contains c then [c]
    else (String.utf8EncodeChar c).flatMap percentByte

end DocPress.Text
