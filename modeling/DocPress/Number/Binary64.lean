/-!
Floating-point numbers of 64 bits, as exact values: a sign and a whole number of units `2 ^ e`.
Every operation computes the exact rational result and then rounds once, to the nearest number and
to the even one of two.
-/

namespace DocPress.Number

/-- Powers of natural numbers are those of the core library, also beside other instances. -/
scoped instance (priority := 2000) corePower : Pow Nat Nat := instPowNat

/-- The nearest whole number to `num / den`, the even one when two are equally near. -/
def roundQuotient (num den : Nat) : Nat :=
  let q := num / den
  let r := num % den
  if 2 * r < den then q
  else if den < 2 * r then q + 1
  else if q % 2 = 0 then q else q + 1

/-- A number of the binary64 format. A finite one is `mantissa * 2 ^ exponent` with a mantissa below
`2 ^ 53` and an exponent from -1074 to 971; the mantissa is at least `2 ^ 52` unless the exponent
is the least one. -/
inductive Binary64 where
  | finite (negative : Bool) (mantissa : Nat) (exponent : Int)
  | infinite (negative : Bool)
  | nan
  deriving DecidableEq, Repr

namespace Binary64

def scale (num den : Nat) : Int :=
  let guess : Int := num.log2 - den.log2 - 52
  let isLow := num * 2 ^ (-guess).toNat < den * 2 ^ guess.toNat * 2 ^ (52 : Nat)
  max (-1074) (if isLow then guess - 1 else guess)

/-- The mantissa of `num / den` at an exponent. It may have one bit too many by rounding. -/
def mantissaAt (num den : Nat) (e : Int) : Nat :=
  roundQuotient (num * 2 ^ (-e).toNat) (den * 2 ^ e.toNat)

def bounded (negative : Bool) (m : Nat) (e : Int) : Binary64 :=
  if 971 < e then infinite negative else finite negative m e

/-- A number of the format, from a mantissa that may have become `2 ^ 53`. -/
def carried (negative : Bool) (m : Nat) (e : Int) : Binary64 :=
  if m = 2 ^ (53 : Nat) then bounded negative (2 ^ (52 : Nat)) (e + 1) else bounded negative m e

def ofRatio (negative : Bool) (num den : Nat) : Binary64 :=
  if num = 0 then finite negative 0 (-1074)
  else carried negative (mantissaAt num den (scale num den)) (scale num den)

def ofInt (n : Int) : Binary64 := ofRatio (n < 0) n.natAbs 1

def ofDecimal (negative : Bool) (digits : Nat) (exponent : Int) : Binary64 :=
  let size : Int := (Nat.toDigits 10 digits).length
  if digits = 0 then finite negative 0 (-1074)
  else if 400 < exponent + size then infinite negative
  else if exponent + size < -400 then finite negative 0 (-1074)
  else if 0 ≤ exponent then ofRatio negative (digits * 10 ^ exponent.toNat) 1
  else ofRatio negative digits (10 ^ (-exponent).toNat)

def ratio (mantissa : Nat) (exponent : Int) : Nat × Nat :=
  (mantissa * 2 ^ exponent.toNat,2 ^ (-exponent).toNat)

def mul : Binary64 → Binary64 → Binary64
  | nan, _ => nan
  | _, nan => nan
  | infinite s, infinite t => infinite (s != t)
  | infinite s, finite t m _ => if m = 0 then nan else infinite (s != t)
  | finite s m _, infinite t => if m = 0 then nan else infinite (s != t)
  | finite s m e, finite t n f =>
    let (a,b) := ratio m e
    let (c,d) := ratio n f
    ofRatio (s != t) (a * c) (b * d)

def div : Binary64 → Binary64 → Binary64
  | nan, _ => nan
  | _, nan => nan
  | infinite _, infinite _ => nan
  | infinite s, finite t _ _ => infinite (s != t)
  | finite s _ _, infinite t => finite (s != t) 0 (-1074)
  | finite s m e, finite t n f =>
    let (a,b) := ratio m e
    let (c,d) := ratio n f
    if c = 0 then (if a = 0 then nan else infinite (s != t))
    else ofRatio (s != t) (a * d) (b * c)

def round? : Binary64 → Option Int
  | finite s m e =>
    let (a,b) := ratio m e
    let n := roundQuotient a b
    some (if s then -(n : Int) else n)
  | _ => none

def truncate? : Binary64 → Option Int
  | finite s m e =>
    let (a,b) := ratio m e
    some (if s then -((a / b : Nat) : Int) else (a / b : Nat))
  | _ => none

def toInt? : Binary64 → Option Int
  | finite s m e =>
    let (a,b) := ratio m e
    if a % b = 0 then some (if s then -((a / b : Nat) : Int) else (a / b : Nat)) else none
  | _ => none

/-- Are the numbers equal as numbers? Zero has two signs, and no number equals `nan`. -/
def numericEq : Binary64 → Binary64 → Bool
  | finite s m e, finite t n f => (m == 0 && n == 0) || (s == t && m == n && e == f)
  | infinite s, infinite t => s == t
  | _, _ => false

end Binary64

end DocPress.Number
