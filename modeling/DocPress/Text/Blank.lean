/-!
Blank characters and what trimming them leaves. A character is blank when Unicode gives it the
property White_Space, or when it is one of the four information separators of ASCII.
-/

namespace DocPress.Text

/-- The blank characters of Unicode, with the ASCII separators U+001C to U+001F. -/
def isBlank (c : Char) : Bool :=
  let n := c.toNat
  (9 ≤ n && n ≤ 13) || (28 ≤ n && n ≤ 32) || n == 0x85 || n == 0xA0 || n == 0x1680 ||
    (0x2000 ≤ n && n ≤ 0x200A) || n == 0x2028 || n == 0x2029 || n == 0x202F || n == 0x205F ||
    n == 0x3000

def dropEndWhile {α : Type} (p : α → Bool) (cs : List α) : List α :=
  (cs.reverse.dropWhile p).reverse

def trimWhile (p : Char → Bool) (cs : List Char) : List Char :=
  dropEndWhile p (cs.dropWhile p)

def trim (s : String) : String := String.ofList (trimWhile isBlank s.toList)

def isTrimmed (s : String) : Bool :=
  s.toList.head?.all (! isBlank ·) && s.toList.getLast?.all (! isBlank ·)

/-- Splits at one character: `n` occurrences give `n + 1` pieces. -/
def splitAt (sep : Char) : List Char → List (List Char)
  | [] => [[]]
  | c :: cs =>
    if c = sep then [] :: splitAt sep cs
    else match splitAt sep cs with
      | [] => [[c]]
      | piece :: pieces => (c :: piece) :: pieces

def words (cs : List Char) : List (List Char) :=
  match cs with
  | [] => []
  | c :: rest =>
    if isBlank c then words rest
    else match rest with
      | [] => [[c]]
      | d :: _ =>
        if isBlank d then [c] :: words rest
        else match words rest with
          | [] => [[c]]
          | word :: more => (c :: word) :: more

def joinWith (sep : List Char) : List (List Char) → List Char
  | [] => []
  | [piece] => piece
  | piece :: pieces => piece ++ sep ++ joinWith sep pieces

end DocPress.Text
