import DocPress.Number.Binary64

/-!
Numbers in decimal notation: with a fixed count of places, and with the fewest digits that read
back as the same number.
-/

namespace DocPress.Number

attribute [local instance] instPowNat

def decimalDigits (n : Nat) : List Char := Nat.toDigits 10 n

namespace Binary64

private def signText (negative : Bool) : List Char := if negative then ['-'] else []

def fixed (places : Nat) : Binary64 → String
  | nan => "nan"
  | infinite s => String.ofList (signText s ++ ['i','n','f'])
  | finite s m e =>
    let (a,b) := ratio m e
    let n := roundQuotient (a * 10 ^ places) b
    let digits := decimalDigits n
    let digits := List.replicate (places + 1 - digits.length) '0' ++ digits
    let whole := digits.take (digits.length - places)
    let fraction := digits.drop (digits.length - places)
    String.ofList (signText s ++ whole ++ (if places = 0 then [] else '.' :: fraction))

/-- The ends of the interval of ratios that round to a finite number, over a common denominator, and
whether the ends belong to it. -/
def roundingInterval (mantissa : Nat) (exponent : Int) : Nat × Nat × Nat × Bool :=
  let low := if mantissa = 2 ^ (52 : Nat) ∧ -1074 < exponent then 4 * mantissa - 1 else 4 * mantissa - 2
  let high := 4 * mantissa + 2
  (low * 2 ^ exponent.toNat,high * 2 ^ exponent.toNat,4 * 2 ^ (-exponent).toNat,
    mantissa % 2 = 0)

/-- The shortest digits of a positive finite number, with the exponent of ten of the last one: of
all decimals with the fewest digits that round to the number, the nearest to it. -/
def shortestDigits (mantissa : Nat) (exponent : Int) : Nat × Int :=
  let (low,high,den,closed) := roundingInterval mantissa exponent
  let (a,b) := ratio mantissa exponent
  -- The position of the leading digit, from the count of digits of the quotient.
  let lead : Int :=
    if b ≤ a then (decimalDigits (a / b)).length
    else 1 - ((decimalDigits (b / a)).length : Int)
  let inside (n d : Nat) : Bool :=
    -- `n / d` against `low / den` and `high / den`
    if closed then low * d ≤ n * den && n * den ≤ high * d
    else low * d < n * den && n * den < high * d
  let scaled (k : Int) (n : Nat) : Nat × Nat := (n * 10 ^ k.toNat,10 ^ (-k).toNat)
  let candidate (count : Nat) : Option (Nat × Int) :=
    let k : Int := lead - count
    let top := a * 10 ^ (-k).toNat
    let bottom := b * 10 ^ k.toNat
    let nearest := roundQuotient top bottom
    let other := if nearest = top / bottom then nearest + 1 else nearest - 1
    [nearest,other].findSome? fun digits =>
      let (n,d) := scaled k digits
      if inside n d then some (digits,k) else none
  ((List.range 19).findSome? fun count => candidate count).getD (0,0)

def dropZeros : Nat → Nat → Int → Nat × Int
  | 0, digits, exponent => (digits,exponent)
  | fuel + 1, digits, exponent =>
    if digits % 10 = 0 ∧ digits ≠ 0 then dropZeros fuel (digits / 10) (exponent + 1)
    else (digits,exponent)

/-- The shortest text of the number. Numbers from 0.0001 to below ten to the sixteenth are written
in full, with at least one digit behind the point; others with an exponent of at least two digits. -/
def shortest : Binary64 → String
  | nan => "nan"
  | infinite s => String.ofList (signText s ++ ['i','n','f'])
  | finite s m e =>
    if m = 0 then String.ofList (signText s ++ ['0','.','0'])
    else
      let (n,k) := shortestDigits m e
      let (n,k) := dropZeros 20 n k
      let digits := decimalDigits n
      let point : Int := digits.length + k
      let body :=
        if -4 < point ∧ point ≤ 16 then
          if point ≤ 0 then '0' :: '.' :: List.replicate (-point).toNat '0' ++ digits
          else if digits.length ≤ point.toNat then
            digits ++ List.replicate (point.toNat - digits.length) '0' ++ ['.','0']
          else digits.take point.toNat ++ '.' :: digits.drop point.toNat
        else
          let exponent := point - 1
          let power := decimalDigits exponent.natAbs
          let power := if power.length < 2 then '0' :: power else power
          let mark := if exponent < 0 then '-' else '+'
          match digits with
          | [] => []
          | [d] => d :: 'e' :: mark :: power
          | d :: rest => d :: '.' :: rest ++ 'e' :: mark :: power
      String.ofList (signText s ++ body)

end Binary64

end DocPress.Number
