import DocPress.Text.Printable

/-!
Quoted text, as messages show it. A text stands between apostrophes, or between double quotes when
it holds an apostrophe and no double quote. A backslash, the quote itself and unprintable
characters are escaped; all else stands as it is.
-/

namespace DocPress.Text

def hexDigits (n : Nat) : List Char := Nat.toDigits 16 n

def paddedHex (width n : Nat) : List Char :=
  let digits := hexDigits n
  List.replicate (width - digits.length) '0' ++ digits

/-- The escape of an unprintable character: the shortest of the three hexadecimal forms. -/
def escapeCode (n : Nat) : List Char :=
  if n < 0x100 then '\\' :: 'x' :: paddedHex 2 n
  else if n < 0x10000 then '\\' :: 'u' :: paddedHex 4 n
  else '\\' :: 'U' :: paddedHex 8 n

def quoteChar (quote c : Char) : List Char :=
  if c = quote || c = '\\' then ['\\',c]
  else if c = '\t' then ['\\','t']
  else if c = '\n' then ['\\','n']
  else if c = '\r' then ['\\','r']
  else if isPrintable c then [c]
  else escapeCode c.toNat

/-- The quote that fits a text: an apostrophe unless only the other one avoids an escape. -/
def chooseQuote (cs : List Char) : Char :=
  if cs.contains '\x27' && ! cs.contains '"' then '"' else '\x27'

def quoted (s : String) : String :=
  let cs := s.toList
  let quote := chooseQuote cs
  String.ofList (quote :: cs.flatMap (quoteChar quote) ++ [quote])

example : quoted "it's" = "\"it's\"" := by decide +kernel
example : quoted "a\nb" = "'a\\nb'" := by decide +kernel

end DocPress.Text
