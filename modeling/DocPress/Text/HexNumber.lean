import DocPress.Text.Blank
import DocPress.Text.Digit
import DocPress.Text.Entity

/-!
Whole numbers in base sixteen as people write them: blanks around them, a sign, a mark of the base,
and single underscores between the digits do not matter, nor does the script of the digits.
-/

namespace DocPress.Text

/-- The value of a digit of base sixteen; those below ten may be of any script. -/
def hexDigit? (c : Char) : Option Nat := (hexValue? c) <|> digitValue? c

/-- Reads digits with single underscores between them; `n` is the number so far. -/
def hexDigitsFrom? (n : Nat) : List Char → Option Nat
  | [] => some n
  | ['_'] => none
  | '_' :: c :: cs => do hexDigitsFrom? (n * 16 + (← hexDigit? c)) cs
  | c :: cs => do hexDigitsFrom? (n * 16 + (← hexDigit? c)) cs

def dropHexMark (cs : List Char) : List Char :=
  match cs with
  | z :: x :: rest =>
    if digitValue? z = some 0 && (x = 'x' || x = 'X') then
      match rest with
      | '_' :: digits => digits
      | digits => digits
    else cs
  | _ => cs

def hexNumber? (s : String) : Option Int :=
  let magnitude := fun (cs : List Char) =>
    match dropHexMark cs with
    | c :: cs => do hexDigitsFrom? (← hexDigit? c) cs
    | [] => none
  match trimWhile isBlank s.toList with
  | '-' :: cs => (magnitude cs).map fun n => -(n : Int)
  | '+' :: cs => (magnitude cs).map fun n => (n : Int)
  | cs => (magnitude cs).map fun n => (n : Int)

end DocPress.Text
