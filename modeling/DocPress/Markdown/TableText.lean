import DocPress.Markdown.Line

/-!
Tables as they are written: a line of headings, a line of hyphens and colons that says how the
columns are aligned, and lines of cells, with bars between the cells. All lines have bars at their
ends too, or the first two have none.
-/

namespace DocPress.Markdown

inductive ColumnAlign where
  | left
  | center
  | right
  deriving DecidableEq, Repr

def ColumnAlign.name : ColumnAlign → String
  | left => "left"
  | center => "center"
  | right => "right"

/-- The texts of a table. Every row has as many cells as there are columns. -/
structure TableText where
  columns : List (Option ColumnAlign)
  head : List Line
  rows : List (List Line)
  deriving DecidableEq, Repr

namespace TableText

def splitBars (before : Option Char) : List Char → List Line
  | [] => [[]]
  | c :: cs =>
    if c = '|' && before ≠ some '\\' then [] :: splitBars (some c) cs
    else match splitBars (some c) cs with
      | [] => [[c]]
      | cell :: cells => (c :: cell) :: cells

def cellsOf (line : Line) : List Line :=
  (splitBars none (Text.trimWhile Text.isBlank line)).map (Text.trimWhile Text.isBlank)

def alignOf (cell : Line) : Option ColumnAlign :=
  let inner := fun (opened closed : Bool) =>
    let dashes := if closed then (if opened then cell.drop 1 else cell).dropLast else cell.drop 1
    ! dashes.isEmpty && dashes.all (· = '-')
  let opened := cell.head? = some ':'
  let closed := cell.getLast? = some ':'
  if opened && closed && inner true true then some .center
  else if opened && inner true false then some .left
  else if closed && inner false true then some .right
  else none

/-- The pieces of a line at the separators of lines and pages other than the line feed. -/
def splitAtSeparators : Line → List Line
  | [] => [[]]
  | c :: cs =>
    if "\x0b\x0c\x1c\x1d\x1e\u0085\u2028\u2029".toList.contains c then [] :: splitAtSeparators cs
    else match splitAtSeparators cs with
      | [] => [[c]]
      | piece :: pieces => (c :: piece) :: pieces

def betweenBars? (line : Line) : Option Line :=
  match Line.body? 3 line with
  | some ('|' :: rest) =>
    let kept := Text.dropEndWhile isSpacing rest
    if kept.getLast? = some '|' then some kept.dropLast else none
  | _ => none

private def isRuleChar (c : Char) : Bool := c = '-' || c = '|' || c = ' ' || c = ':'

private def barredRule? (line : Line) : Option Line :=
  (betweenBars? line).filter fun rule =>
    ((rule.dropWhile (· = ' ')).head?.any fun c => c = '-' || c = ':') && rule.all isRuleChar

private def openHead? (line : Line) : Option Line :=
  (Line.body? 3 line).filter fun body =>
    (body.head?.any fun c => ! Text.isBlank c) && (body.drop 1).contains '|'

private def openRule? (line : Line) : Option Line :=
  (Line.body? 3 line).filter fun rule =>
    (rule.head?.any fun c => c = '-' || c = ':') &&
      (((rule.dropWhile fun c => c = '-' || c = ':').dropWhile (· = ' ')).head? = some '|') &&
      rule.all isRuleChar

private def ofTexts? (head rule : Line) (rows : List (Option Line)) : Option TableText := do
  let head := cellsOf head
  let columns := (cellsOf rule).map alignOf
  let rows := (← rows.mapM id).map cellsOf
  if head.length = columns.length && rows.all (·.length = columns.length) then
    pure { columns,head,rows }
  else none

/-- What seems to be a table at the start of the lines, if it is one, and what follows it. -/
def ofLines? : List Line → Option (Option TableText × List Line)
  | first :: second :: rest =>
    match (betweenBars? first).filter (! ·.isEmpty), barredRule? second with
    | some head, some rule =>
      let body := rest.takeWhile fun line => (betweenBars? line).isSome
      let rows := (body.flatMap splitAtSeparators).map fun row =>
        (betweenBars? row).filter (! ·.isEmpty)
      some (ofTexts? head rule rows,(rest.drop body.length).dropWhile (·.isEmpty))
    | _, _ =>
      match openHead? first, openRule? second with
      | some head, some rule =>
        let body := rest.takeWhile (·.contains '|')
        let rows := (body.flatMap splitAtSeparators).map some
        some (ofTexts? head rule rows,(rest.drop body.length).dropWhile (·.isEmpty))
      | _, _ => none
  | _ => none

end TableText

end DocPress.Markdown
