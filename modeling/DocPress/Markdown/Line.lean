import DocPress.Text.Blank
import DocPress.Text.Digit

/-!
Lines of Markdown source: their indentation, the tabs that stand in it, and the marks that open a
block. A line is held without its end.
-/

namespace DocPress.Markdown

abbrev Line := List Char

def linesOf (text : List Char) : List Line := (Text.splitAt '\n' text).dropLast

def textOf (lines : List Line) : List Char := lines.flatMap (· ++ ['\n'])

def isSpacing (c : Char) : Bool := c = ' ' || c = '\t'

namespace Line

def indent (line : Line) : Nat := (line.takeWhile (· = ' ')).length

def dropIndent : Nat → Line → Line
  | n + 1, ' ' :: line => dropIndent n line
  | _, line => line

def isBlank (line : Line) : Bool :=
  line.all fun c => isSpacing c || c = '\x0b' || c = '\x0c'

def isAllBlank (line : Line) : Bool := line.all Text.isBlank

/-- Replaces a tab that follows at most three spaces at the start, by what those spaces call for. -/
def replaceTab (spaces : Nat → Nat) (line : Line) : Line :=
  let n := indent line
  match line.drop n with
  | '\t' :: rest => if n ≤ 3 then List.replicate (n + spaces n) ' ' ++ rest else line
  | _ => line

def tabToColumn (width : Nat) : Line → Line := replaceTab (width - ·)

def tabToFour : Line → Line := replaceTab fun _ => 4

def body? (maxIndent : Nat) (line : Line) : Option Line :=
  if indent line ≤ maxIndent then some (line.drop (indent line)) else none

def quoted? (maxIndent : Nat) (line : Line) : Option Line :=
  match body? maxIndent line with
  | some ('>' :: rest) => some rest
  | _ => none

/-- The content of a quoted line, once its mark is off: one space goes with the mark. -/
def quoteContent (line : Line) : Line := dropIndent 1 (tabToColumn 3 line)

/-- Is the line code by its indentation: four spaces, or a tab, and more behind them? -/
def isIndentedCode (line : Line) : Bool :=
  let n := indent line
  (4 < line.length && 4 ≤ n) ||
    match line.drop n with
    | '\t' :: _ :: _ => true
    | _ => false

/-- Does the line divide its surroundings? It holds three or more of one mark, and spacing. -/
def isDivider (maxIndent : Nat) (line : Line) : Bool :=
  match body? maxIndent line with
  | some (c :: rest) =>
    (c = '-' || c = '_' || c = '*') &&
      (c :: rest).all (fun d => d = c || isSpacing d) && 3 ≤ (c :: rest).count c
  | _ => false

def underline? (line : Line) : Option Nat :=
  match body? 3 line with
  | some rest =>
    let marks := rest.takeWhile fun c => c = '=' || c = '-'
    if (rest.drop marks.length).all isSpacing then
      marks.getLast?.map fun c => if c = '=' then 1 else 2
    else none
  | none => none

def dropClosingMarks (text : Line) : Line :=
  let kept := Text.dropEndWhile (· = '#') text
  if kept.isEmpty || (kept.length < text.length && kept.getLast?.any Text.isBlank) then
    Text.dropEndWhile Text.isBlank kept
  else text

def heading? (maxIndent : Nat) (line : Line) : Option (Nat × Line) :=
  match body? maxIndent line with
  | some rest =>
    let level := (rest.takeWhile (· = '#')).length
    let text := rest.drop level
    if 1 ≤ level && level ≤ 6 && text.head?.all isSpacing then
      some (level,dropClosingMarks (Text.trimWhile Text.isBlank text))
    else none
  | none => none

end Line

structure Fence where
  indent : Nat
  mark : Char
  length : Nat
  info : Line
  deriving DecidableEq, Repr

namespace Fence

def ofLine? (maxIndent : Nat) (line : Line) : Option Fence :=
  match Line.body? maxIndent line with
  | some (c :: rest) =>
    let marks := (c :: rest).takeWhile (· = c)
    if (c = '\x60' || c = '~') && 3 ≤ marks.length then
      some ⟨Line.indent line,c,marks.length,
        ((c :: rest).drop marks.length).dropWhile isSpacing⟩
    else none
  | _ => none

def isUsable (fence : Fence) : Bool := ! (fence.mark = '\x60' && fence.info.contains '\x60')

def isClosedBy (fence : Fence) (line : Line) : Bool :=
  match Line.body? 3 line with
  | some rest =>
    let marks := rest.takeWhile (· = fence.mark)
    fence.length ≤ marks.length && (rest.drop marks.length).all isSpacing
  | none => false

/-- The lines of the block, and those after it. A block that is not closed runs to the end. -/
def split (fence : Fence) : List Line → List Line × List Line
  | [] => ([],[])
  | line :: rest =>
    if fence.isClosedBy line then ([],rest)
    else
      let (code,after) := fence.split rest
      (line.dropIndent fence.indent :: code,after)

end Fence

structure ItemMark where
  indent : Nat
  number : Option Nat
  width : Nat
  /-- The character that sets the items of one list apart from those of another. -/
  bullet : Char
  text : Line
  deriving DecidableEq, Repr

namespace ItemMark

private def isItemText (text : Line) : Bool := text.head?.all isSpacing

/-- Reads the mark of an item. A number has at most nine digits, of any script. -/
def ofLine? (maxIndent : Nat) (line : Line) : Option ItemMark :=
  let indent := Line.indent line
  match Line.body? maxIndent line with
  | some (c :: rest) =>
    if c = '*' || c = '+' || c = '-' then
      if isItemText rest then some ⟨indent,none,1,c,rest⟩ else none
    else
      let digits := (c :: rest).takeWhile fun d => (Text.digitValue? d).isSome
      match (c :: rest).drop digits.length with
      | d :: text =>
        if (d = '.' || d = ')') && 1 ≤ digits.length && digits.length ≤ 9 && isItemText text then
          some ⟨indent,some (digits.foldl (fun n d => n * 10 + (Text.digitValue? d).getD 0) 0),
            digits.length + 1,d,text⟩
        else none
      | [] => none
  | _ => none

/-- Reads the mark of a further item of the same list. Its number may lack all digits. -/
def next? (mark : ItemMark) (line : Line) : Option ItemMark :=
  let indent := Line.indent line
  match Line.body? (min 3 (mark.indent + mark.width)) line with
  | some body =>
    let digits := if mark.number.isSome then
      body.takeWhile fun d => (Text.digitValue? d).isSome else []
    match body.drop digits.length with
    | c :: text =>
      if c = mark.bullet && digits.length ≤ 9 && isItemText text then
        some { mark with indent,width := digits.length + 1,text }
      else none
    | [] => none
  | none => none

def isBare (mark : ItemMark) : Bool := mark.text.all Text.isBlank

/-- The first line of the item, unless it is bare, and how far its further lines are indented.
Five spaces or more are one space and indented code. -/
def content (mark : ItemMark) : Option Line × Nat :=
  let text := Line.tabToFour (Line.tabToColumn 3 mark.text)
  let blanks := (text.takeWhile Text.isBlank).length
  let start := mark.indent + mark.width
  if text.length = blanks || blanks = 0 then (none,start + 1)
  else
    let space := if 5 ≤ Line.indent text then 1 else blanks
    (some (text.drop space),start + space)

end ItemMark

end DocPress.Markdown
