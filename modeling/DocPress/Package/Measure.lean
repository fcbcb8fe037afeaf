import DocPress.Number.Decimal
import DocPress.Package.Fault
import DocPress.Text.HexNumber
import DocPress.Text.Percent
import DocPress.Xml

/-!
Measures as files write them. Lengths are counted in English metric units, of which an inch has
914400; a twentieth of a point has 635 of them, a point 12700 and a pixel 9525.
-/

namespace DocPress.Measure

open Number

def within (least greatest value : Int) : Except PackageFault Unit :=
  if least ≤ value ∧ value ≤ greatest then .ok () else .error (.outOfRange least greatest value)

def checkInt32 (value : Int) : Except PackageFault Unit := within (-2147483648) 2147483647 value

def checkUnsigned64 (value : Int) : Except PackageFault Unit := within 0 18446744073709551615 value

def checkDrawn (value : Int) : Except PackageFault Unit := within 0 27273042316900 value

def ofTwips (n : Int) : Int := n * 635

def ofPoints (n : Int) : Int := n * 12700

def ofPixels (n : Int) : Int := n * 9525

def toTwips (length : Int) : Int := ((Binary64.ofInt length).div (.ofInt 635)).round?.getD 0

def toHalfPoints (length : Int) : Int :=
  (((Binary64.ofInt length).div (.ofInt 12700)).mul (.ofInt 2)).truncate?.getD 0

def fontSize (points : Int) : Except PackageFault Int := do
  checkUnsigned64 (ofPoints points)
  return toHalfPoints (ofPoints points)

def distance (twips : Int) : Except PackageFault Int := do
  checkUnsigned64 (ofTwips twips)
  return toTwips (ofTwips twips)

def signedDistance (twips : Int) : Except PackageFault Int := do
  checkInt32 (ofTwips twips)
  return toTwips (ofTwips twips)

def widthShare (percent : Binary64) : Except PackageFault Int :=
  match percent.mul (.ofInt 50) with
  | .nan => .error .notANumber
  | .infinite _ => .error .infinite
  | x => .ok (x.round?.getD 0)

def hexByte (n : Nat) : List Char :=
  [Text.capitalHexDigit (n / 16),Text.capitalHexDigit (n % 16)]

def colorPart (digits : List Char) : Except PackageFault Int :=
  match Text.hexNumber? (String.ofList digits) with
  | some n => .ok n
  | none => .error (.notHex (String.ofList digits))

/-- A colour from the numbers that its first two characters, the next two and the rest write. -/
def color (s : String) : Except PackageFault String := do
  let cs := s.toList
  let red ← colorPart (cs.take 2)
  let green ← colorPart ((cs.drop 2).take 2)
  let blue ← colorPart (cs.drop 4)
  let parts := [red,green,blue]
  if parts.all fun n => 0 ≤ n && n ≤ 255 then
    return String.ofList (parts.flatMap fun n => hexByte n.toNat)
  else throw .colorRange

def xmlText (s : String) : Except PackageFault String :=
  if Xml.isText s then .ok s else .error .notXml

end DocPress.Measure
