import DocPress.Value

/-!
Reading values from JSON text. Besides the standard, the names `NaN`, `Infinity` and `-Infinity`
are numbers; a key that comes twice has its last value. The first fault is reported with its
position, counted in characters.
-/

namespace DocPress.Value

inductive Fault where
  | byteOrderMark
  | expectingValue
  | expectingComma
  | expectingColon
  | expectingKey
  | extraData
  | unterminatedString
  | controlCharacter
  | badEscape
  | badCodeEscape
  deriving DecidableEq, Repr

def Fault.message : Fault → String
  | byteOrderMark => "Unexpected UTF-8 BOM (decode using utf-8-sig)"
  | expectingValue => "Expecting value"
  | expectingComma => "Expecting ',' delimiter"
  | expectingColon => "Expecting ':' delimiter"
  | expectingKey => "Expecting property name enclosed in double quotes"
  | extraData => "Extra data"
  | unterminatedString => "Unterminated string starting at"
  | controlCharacter => "Invalid control character at"
  | badEscape => "Invalid \\escape"
  | badCodeEscape => "Invalid \\uXXXX escape"

inductive ReadError where
  | malformed (fault : Fault) (position : Nat)
  | tooManyDigits (count : Nat)
  deriving DecidableEq, Repr

def maxDigits : Nat := 4300

def lineAndColumn (text : List Char) (position : Nat) : Nat × Nat :=
  let before := text.take position
  (before.count '\n' + 1,(before.reverse.takeWhile (· != '\n')).length + 1)

def ReadError.message (text : List Char) : ReadError → String
  | malformed fault position =>
    let (line,column) := lineAndColumn text position
    s!"{fault.message}: line {line} column {column} (char {position})"
  | tooManyDigits count =>
    s!"Exceeds the limit ({maxDigits} digits) for integer string conversion: " ++
      s!"value has {count} digits; use sys.set_int_max_str_digits() to increase the limit"

namespace Reader

structure Cursor where
  rest : List Char
  position : Nat

namespace Cursor

def advance (c : Cursor) (n : Nat) : Cursor := ⟨c.rest.drop n,c.position + n⟩

def skipBlanks (c : Cursor) : Cursor :=
  c.advance (c.rest.takeWhile fun d => d = ' ' || d = '\t' || d = '\n' || d = '\r').length

/-- Moves behind digits and the marks before them, if there are any digits. -/
def pass (c : Cursor) (digits : List Char) (marks : Nat) : Cursor :=
  if digits.isEmpty then c else c.advance (digits.length + marks)

def at? (c : Cursor) (word : List Char) : Bool := word.isPrefixOf c.rest

end Cursor

def fail {α : Type} (fault : Fault) (position : Nat) : Except ReadError (α × Cursor) :=
  .error (.malformed fault position)

def hexValue? (c : Char) : Option Nat :=
  if '0' ≤ c && c ≤ '9' then some (c.toNat - 48)
  else if 'a' ≤ c && c ≤ 'f' then some (c.toNat - 87)
  else if 'A' ≤ c && c ≤ 'F' then some (c.toNat - 55)
  else none

def codeUnit? (cs : List Char) : Option Nat :=
  match cs.take 4 with
  | [a,b,c,d] => do
    return (((← hexValue? a) * 16 + (← hexValue? b)) * 16 + (← hexValue? c)) * 16 + (← hexValue? d)
  | _ => none

def simpleEscape? : Char → Option Char
  | '"' => some '"'
  | '\\' => some '\\'
  | '/' => some '/'
  | 'b' => some '\x08'
  | 'f' => some '\x0c'
  | 'n' => some '\n'
  | 'r' => some '\r'
  | 't' => some '\t'
  | _ => none

/-- The second half of a pair of surrogates, if its escape comes next and does not end the text. -/
def lowSurrogate? (c : Cursor) : Option Nat :=
  if 6 < c.rest.length && c.at? ['\\','u'] then
    (codeUnit? (c.rest.drop 2)).filter fun v => 0xDC00 ≤ v && v < 0xE000
  else none

/-- Half a pair of surrogates is no character. This one stands for it, which no document takes either. -/
def loneSurrogate : Char := '\uffff'

/-- Reads a code escape, whose four digits start at the cursor: its character, or a pair of
surrogates as one. -/
def codeEscape (c : Cursor) : Except ReadError (Char × Cursor) :=
  if c.rest.length ≤ 4 then fail .badCodeEscape (c.position - 1)
  else match codeUnit? c.rest with
    | none => fail .badCodeEscape (c.position - 1)
    | some u =>
      let next := c.advance 4
      if 0xD800 ≤ u && u < 0xDC00 then
        match lowSurrogate? next with
        | some v =>
          .ok (Char.ofNat (0x10000 + (u - 0xD800) * 0x400 + (v - 0xDC00)),next.advance 6)
        | none => .ok (loneSurrogate,next)
      else if 0xDC00 ≤ u && u < 0xE000 then .ok (loneSurrogate,next)
      else .ok (Char.ofNat u,next)

def string (start : Nat) : Nat → List Char → Cursor → Except ReadError (String × Cursor)
  | 0, _, _ => fail .unterminatedString start
  | fuel + 1, done, c =>
    match c.rest with
    | [] => fail .unterminatedString start
    | '"' :: _ => .ok (String.ofList done.reverse,c.advance 1)
    | '\\' :: 'u' :: _ => do
      let (d,next) ← codeEscape (c.advance 2)
      string start fuel (d :: done) next
    | '\\' :: d :: _ =>
      match simpleEscape? d with
      | some e => string start fuel (e :: done) (c.advance 2)
      | none => fail .badEscape c.position
    | ['\\'] => fail .unterminatedString start
    | d :: _ =>
      if d.toNat ≤ 0x1F then fail .controlCharacter c.position
      else string start fuel (d :: done) (c.advance 1)

def number (digits : List Char) : Nat := digits.foldl (fun n d => n * 10 + (d.toNat - 48)) 0

/-- The digits before a point. A zero in front stands alone. -/
def wholeOf (cs : List Char) : List Char :=
  let all := cs.takeWhile Char.isDigit
  if all.head? = some '0' then ['0'] else all

def fractionOf : List Char → List Char
  | '.' :: more => more.takeWhile Char.isDigit
  | _ => []

/-- Digits behind a sign: how many signs there are, whether they are negative, and the digits. -/
def signedDigits : List Char → Nat × Bool × List Char
  | '-' :: more => (1,true,more.takeWhile Char.isDigit)
  | '+' :: more => (1,false,more.takeWhile Char.isDigit)
  | more => (0,false,more.takeWhile Char.isDigit)

/-- A power of ten: how many marks stand before its digits, whether it is negative, and its digits. -/
def powerOf : List Char → Nat × Bool × List Char
  | 'e' :: more | 'E' :: more =>
    let (signs,minus,digits) := signedDigits more
    (signs + 1,minus,digits)
  | _ => (0,false,[])

def unsigned (start : Nat) (negative : Bool) (c : Cursor) : Except ReadError (Value × Cursor) :=
  let whole := wholeOf c.rest
  if whole.isEmpty then fail .expectingValue start
  else
    let next := c.advance whole.length
    let fraction := fractionOf next.rest
    let next := next.pass fraction 1
    let (marks,minus,power) := powerOf next.rest
    let next := next.pass power marks
    if fraction.isEmpty && power.isEmpty then
      if maxDigits < whole.length then .error (.tooManyDigits whole.length)
      else .ok (int (if negative then -(number whole : Int) else number whole),next)
    else
      let exponent : Int := if minus then -(number power : Int) else number power
      .ok (float (.ofDecimal negative (number (whole ++ fraction)) (exponent - fraction.length)),
        next)

def numberValue (c : Cursor) : Except ReadError (Value × Cursor) :=
  match c.rest with
  | '-' :: _ => unsigned c.position true (c.advance 1)
  | _ => unsigned c.position false c

def words : List (List Char × Value) := [
  ("null".toList,null),("true".toList,bool true),("false".toList,bool false),
  ("NaN".toList,float .nan),("Infinity".toList,float (.infinite false)),
  ("-Infinity".toList,float (.infinite true))]

def scalar (c : Cursor) : Except ReadError (Value × Cursor) :=
  match words.find? (c.at? ·.1) with
  | some (word,v) => .ok (v,c.advance word.length)
  | none => numberValue c

mutual

def value : Nat → Cursor → Except ReadError (Value × Cursor)
  | 0, c => fail .expectingValue c.position
  | fuel + 1, c =>
    match c.rest with
    | '"' :: _ => do
      let (s,next) ← string c.position (c.rest.length + 1) [] (c.advance 1)
      return (Value.string s,next)
    | '\x7b' :: _ => do
      let inner := (c.advance 1).skipBlanks
      if inner.at? ['\x7d'] then return (object [],inner.advance 1)
      members fuel [] inner
    | '[' :: _ => do
      let inner := (c.advance 1).skipBlanks
      if inner.at? [']'] then return (array [],inner.advance 1)
      items fuel [] inner
    | _ => scalar c

def members : Nat → List (String × Value) → Cursor → Except ReadError (Value × Cursor)
  | 0, _, c => fail .expectingKey c.position
  | fuel + 1, done, c =>
    if ! c.at? ['"'] then fail .expectingKey c.position
    else do
      let (key,next) ← string c.position (c.rest.length + 1) [] (c.advance 1)
      let next := next.skipBlanks
      if ! next.at? [':'] then fail .expectingColon next.position
      else do
        let (v,next) ← value fuel (next.advance 1).skipBlanks
        let done := insertField key v done
        let next := next.skipBlanks
        if next.at? ['\x7d'] then return (object done,next.advance 1)
        else if next.at? [','] then members fuel done (next.advance 1).skipBlanks
        else fail .expectingComma next.position

def items : Nat → List Value → Cursor → Except ReadError (Value × Cursor)
  | 0, _, c => fail .expectingValue c.position
  | fuel + 1, done, c => do
    let (v,next) ← value fuel c
    let next := next.skipBlanks
    if next.at? [']'] then return (array (v :: done).reverse,next.advance 1)
    else if next.at? [','] then items fuel (v :: done) (next.advance 1).skipBlanks
    else fail .expectingComma next.position

end

end Reader

/-- Reads a value from a text. A value or an item takes a step; with two steps for each character of
the text the steps never run out. -/
def ofJson (text : String) : Except ReadError Value :=
  let cs := text.toList
  if cs.head? = some '\ufeff' then .error (.malformed .byteOrderMark 0)
  else do
    let (v,next) ← Reader.value (2 * cs.length + 1) (Reader.Cursor.mk cs 0).skipBlanks
    let next := next.skipBlanks
    if next.rest.isEmpty then return v
    else .error (.malformed .extraData next.position)

end DocPress.Value
