import DocPress.Markdown.Html
import DocPress.Markdown.LinkTarget
import DocPress.Markdown.TableText
import DocPress.Text.LineEnd

/-!
The blocks of a Markdown source: its paragraphs, headings, quotes, lists and the like, with their
texts still as they are written. Definitions of link targets are taken out on the way.
-/

namespace DocPress.Markdown

inductive Outline where
  | paragraph (text : List Char)
  | heading (level : Nat) (text : List Char)
  | divider
  | blankLine
  | code (text : List Char) (info : Line)
  | html (text : List Char)
  | quote (blocks : List Outline)
  /-- A list; its number is that of the first item if the list is ordered. -/
  | list (start : Option Nat) (items : List (List Outline))
  | table (t : TableText)

instance : Inhabited Outline := ⟨.divider⟩

/-- Which containers may still be opened. Tables stand at the outermost level only. -/
structure Openings where
  quotes : Bool := true
  lists : Bool := true
  tables : Bool := false

/-- How deep containers may lie in one another; the innermost one holds none of its kind. -/
def maxBlockDepth : Nat := 20

/-- The state of a reader of blocks: the lines that are left, whether the first of them lacks its
start, the blocks so far, the last one first, and the targets of links. -/
structure OutlineState where
  lines : List Line
  midLine : Bool := false
  blocks : List Outline := []
  refs : References := []

namespace OutlineState

def put (st : OutlineState) (block : Outline) (lines : List Line) : OutlineState :=
  { st with lines,midLine := false,blocks := block :: st.blocks }

def addText (st : OutlineState) (text : List Char) : OutlineState :=
  match st.blocks with
  | .paragraph before :: blocks => { st with blocks := .paragraph (before ++ text) :: blocks }
  | blocks => { st with blocks := .paragraph text :: blocks }

def takeText (st : OutlineState) : OutlineState :=
  match st.lines with
  | [] => st
  | line :: lines => { st.addText (line ++ ['\n']) with lines,midLine := false }

def inParagraph (st : OutlineState) : Bool :=
  match st.blocks with
  | .paragraph _ :: _ => true
  | _ => false

def putBeforeLast (st : OutlineState) (block : Outline) : OutlineState :=
  match st.blocks with
  | last :: blocks => { st with blocks := last :: block :: blocks }
  | [] => { st with blocks := [block] }

def putAt (st : OutlineState) (position : Nat) (block : Outline) : OutlineState :=
  let later := st.blocks.length - position
  { st with blocks := st.blocks.take later ++ block :: st.blocks.drop later }

end OutlineState

/-! ### Leaves -/

/-- The rest of indented code: further indented lines, and blanks, which may reach into a line that
is no code. Gives the code and the lines that are left, the first of them perhaps in part. -/
def indentedRest (fuel : Nat) (cs : List Char) : List Char × List Char :=
  match fuel with
  | 0 => ([],cs)
  | fuel + 1 =>
    let line := cs.takeWhile (· ≠ '\n')
    if Line.isIndentedCode line then
      let (code,rest) := indentedRest fuel (cs.drop line.length)
      (line ++ code,rest)
    else match cs with
      | c :: rest =>
        if Text.isBlank c then
          let (code,rest) := indentedRest fuel rest
          (c :: code,rest)
        else ([],cs)
      | [] => ([],[])

def indentedText (text : List Char) : List Char :=
  let shown := (Text.splitAt '\n' text).map fun line => Line.dropIndent 4 (Line.tabToColumn 4 line)
  Text.trimWhile (· = '\n') (Text.joinWith ['\n'] shown)

def takeIndented (st : OutlineState) : OutlineState :=
  let text := textOf st.lines
  let (code,rest) := indentedRest (text.length + 1) text
  let midLine := code.getLast? ≠ some '\n'
  { st.put (.code (indentedText code) []) (linesOf rest) with midLine := midLine }

def takeFenced? (fence : Fence) (st : OutlineState) : Option OutlineState :=
  if fence.isUsable then
    let (code,rest) := fence.split (st.lines.drop 1)
    some (st.put (.code (textOf code) (Text.trimWhile Text.isBlank (unescape fence.info))) rest)
  else none

def takeHtml? (opening : Html.Opening) (after : Line) (st : OutlineState) : Option OutlineState :=
  let take := fun (cut : List Line × List Line) => some (st.put (.html (textOf cut.1)) cut.2)
  match Html.extent opening (textOf (after :: st.lines.drop 1)) with
  | .toMark mark => take (Html.cutAtMark mark after st.lines)
  | .toBlank => take (Html.cutAtBlank st.lines)
  | .tagLine complete =>
    if st.inParagraph then some st.takeText
    else if complete then take (Html.cutAtBlank st.lines)
    else none

def takeDefinition? (st : OutlineState) : Option OutlineState :=
  if st.inParagraph then some st.takeText
  else (definition? st.lines).map fun (label,target,lines) =>
    { st with lines,refs := st.refs.define label target }

/-! ### Quotes -/

def quotedLines : List Line → List Line × List Line
  | [] => ([],[])
  | line :: lines =>
    match Line.quoted? 3 line with
    | some content =>
      let (quoted,rest) := quotedLines lines
      (Line.quoteContent content :: quoted,rest)
    | none => ([],line :: lines)

def endsBlank (quoted : List Line) : Bool :=
  quoted.all Line.isAllBlank || (2 ≤ quoted.length && (quoted.getLast?.any (·.all isSpacing)))

/-- Must every further line of the quote have a mark? So it is when its first line is no text. -/
def needsMarks (content : Line) : Bool :=
  Line.isBlank content || Line.isIndentedCode content || (Fence.ofLine? 3 content).isSome

/-- A block that ends a quote although its line has no mark. -/
def endQuote? (takeList : ItemMark → OutlineState → OutlineState) (line : Line)
    (st : OutlineState) : Option OutlineState :=
  if Line.isBlank line then some (st.put .blankLine (st.lines.dropWhile Line.isBlank))
  else if Line.isDivider 3 line then some (st.put .divider (st.lines.drop 1))
  else match Fence.ofLine? 3 line with
    | some fence => takeFenced? fence st
    | none => match ItemMark.ofLine? 3 line with
      | some mark => some (takeList mark st)
      | none =>
        if Html.interrupts 3 line then
          (Html.opening? 3 line).bind fun (opening,after) => takeHtml? opening after st
        else none

/-! ### Items -/

inductive ItemEnd where
  | next (mark : ItemMark)
  /-- With a block that ends the list and has been read: how many blocks come before the list. -/
  | interrupted (position : Nat)
  | stopped

def itemLines (first : Option Line) (width : Nat) (lines : List Line) : List Line :=
  let cleaned := lines.map fun line =>
    if width ≤ Line.indent line then Line.tabToFour (line.drop width) else line
  match first.toList ++ cleaned with
  | [] => []
  | line :: lines => line :: Text.dropEndWhile Line.isAllBlank lines

def endItem? (takeQuote : Line → OutlineState → OutlineState) (mark : ItemMark) (line : Line)
    (st : OutlineState) : Option (OutlineState × ItemEnd) :=
  let maxIndent := min 3 (mark.indent + mark.width)
  let interrupted := fun (st' : OutlineState) => (st',ItemEnd.interrupted st.blocks.length)
  if Line.isDivider maxIndent line then some (interrupted (st.put .divider (st.lines.drop 1)))
  else match mark.next? line with
    | some next => some ({ st with lines := st.lines.drop 1 },.next next)
    | none => match Fence.ofLine? maxIndent line with
      | some fence => (takeFenced? fence st).map interrupted
      | none => match Line.heading? maxIndent line with
        | some (level,text) =>
          some (interrupted (st.put (.heading level text) (st.lines.drop 1)))
        | none => match Line.quoted? maxIndent line with
          | some content => some (interrupted (takeQuote content st))
          | none =>
            if Html.interrupts maxIndent line then
              (Html.opening? maxIndent line).bind fun (opening,after) =>
                (takeHtml? opening after st).map interrupted
            else (ItemMark.ofLine? maxIndent line).map fun _ => (st,.stopped)

/-- May an item with this mark not interrupt a paragraph? A bare one may not, and of numbered ones
only the first may. -/
def ItemMark.yieldsToText (mark : ItemMark) : Bool :=
  mark.isBare || mark.number.any (· ≠ 1)

/-! ### Blocks -/

/-- Takes the block that starts on the next line. Gives nothing where the line is text. -/
def takeBlock? (takeQuote : Line → OutlineState → OutlineState)
    (takeList : ItemMark → OutlineState → OutlineState) (openings : Openings) (line : Line)
    (st : OutlineState) : Option OutlineState :=
  let rest := st.lines.drop 1
  match Fence.ofLine? 3 line with
  | some fence => takeFenced? fence st
  | none =>
  if Line.isIndentedCode line then
    some (if st.inParagraph then st.takeText else takeIndented st)
  else match Line.heading? 3 line with
  | some (level,text) => some (st.put (.heading level text) rest)
  | none =>
  match Line.underline? line, st.blocks with
  | some level, .paragraph text :: blocks =>
    some { st with lines := rest,blocks := .heading level text :: blocks }
  | underline, _ =>
  if Line.isDivider 3 line then some (st.put .divider rest)
  else match (Line.quoted? 3 line).filter fun _ => openings.quotes with
  | some content => some (takeQuote content st)
  | none =>
  match (ItemMark.ofLine? 3 line).filter fun _ => openings.lists || underline.isSome with
  | some mark => some (takeList mark st)
  | none =>
  if underline.isSome then none
  else if startsDefinition st.lines then takeDefinition? st
  else match Html.opening? 3 line with
  | some (opening,after) => takeHtml? opening after st
  | none =>
  if Line.isBlank line then some (st.put .blankLine (st.lines.dropWhile Line.isBlank))
  else match (TableText.ofLines? st.lines).filter fun _ => openings.tables with
  | some (table?,after) => table?.map fun table => st.put (.table table) after
  | none => none

mutual

def outline : Nat → Nat → Openings → OutlineState → OutlineState
  | 0, _, _, st => st
  | fuel + 1, depth, openings, st =>
    match st.lines with
    | [] => st
    | line :: _ =>
      let taken :=
        if st.midLine then none
        else takeBlock? (takeQuote fuel depth) (takeList fuel depth) openings line st
      outline fuel depth openings (taken.getD st.takeText)

def takeQuote : Nat → Nat → Line → OutlineState → OutlineState
  | 0, _, _, st => st.takeText
  | fuel + 1, depth, content, st =>
    let first := Line.quoteContent content
    let st := { st with lines := st.lines.drop 1 }
    let (further,interrupted,st) :=
      if needsMarks first then
        let (quoted,rest) := quotedLines st.lines
        (quoted,false,{ st with lines := rest })
      else quoteLines fuel depth false st
    let inner := outline fuel (depth + 1) { quotes := depth + 1 < maxBlockDepth }
      { lines := (first :: further).map Line.tabToFour,refs := st.refs }
    let st := { st with refs := inner.refs }
    let block := Outline.quote inner.blocks.reverse
    if interrupted then st.putBeforeLast block else st.put block st.lines

/-- The lines of a quote, also those without a mark that go on with its text; and whether a block
has been read that ends it. -/
def quoteLines : Nat → Nat → Bool → OutlineState → List Line × Bool × OutlineState
  | 0, _, _, st => ([],false,st)
  | fuel + 1, depth, afterBlank, st =>
    match st.lines with
    | [] => ([],false,st)
    | line :: rest =>
      match quotedLines st.lines with
      | ([],_) =>
        if afterBlank then ([],false,st)
        else match endQuote? (takeList fuel depth) line st with
          | some st => ([],true,st)
          | none =>
            let (lines,found) := quoteLines fuel depth false { st with lines := rest }
            (Line.tabToColumn 3 line :: lines,found)
      | (quoted,rest) =>
        let (lines,found) := quoteLines fuel depth (endsBlank quoted) { st with lines := rest }
        (quoted ++ lines,found)

def takeList : Nat → Nat → ItemMark → OutlineState → OutlineState
  | 0, _, _, st => st.takeText
  | fuel + 1, depth, mark, st =>
    if st.inParagraph && mark.yieldsToText then st.takeText
    else
      let (items,ending,st) := takeItems fuel depth mark { st with lines := st.lines.drop 1 }
      let block := Outline.list mark.number items
      match ending with
      | .interrupted position => st.putAt position block
      | _ => st.put block st.lines

def takeItems : Nat → Nat → ItemMark → OutlineState →
    List (List Outline) × ItemEnd × OutlineState
  | 0, _, _, st => ([],.stopped,st)
  | fuel + 1, depth, mark, st =>
    let (first,width) := mark.content
    let (lines,ending,st) := takeItem fuel depth mark [] false st
    let inner := outline fuel (depth + 1) { lists := depth + 1 < maxBlockDepth }
      { lines := itemLines first width lines,refs := st.refs }
    let st := { st with refs := inner.refs }
    let item := inner.blocks.reverse
    match ending with
    | .next mark =>
      let (items,found) := takeItems fuel depth mark st
      (item :: items,found)
    | _ => ([item],ending,st)

def takeItem : Nat → Nat → ItemMark → List Line → Bool → OutlineState →
    List Line × ItemEnd × OutlineState
  | 0, _, _, taken, _, st => (taken,.stopped,st)
  | fuel + 1, depth, mark, taken, afterBlank, st =>
    match st.lines with
    | [] => (taken,.stopped,st)
    | line :: rest =>
      if Line.isBlank line then
        takeItem fuel depth mark (taken ++ [[]]) true { st with lines := rest }
      else
        let shown := Line.tabToColumn 4 line
        let (first,width) := mark.content
        if width ≤ Line.indent shown then
          if afterBlank && first.isNone && taken.all Line.isAllBlank then (taken,.stopped,st)
          else takeItem fuel depth mark (taken ++ [shown]) false { st with lines := rest }
        else match endItem? (takeQuote fuel depth) mark line st with
          | some (st,ending) => (taken,ending,st)
          | none =>
            if afterBlank then (taken,.stopped,st)
            else takeItem fuel depth mark (taken ++ [shown]) false { st with lines := rest }

end

def normalizeLineEnds (source : String) : List Char :=
  let text := Text.unifyLineEnds source.toList
  if text.getLast? = some '\n' then text else text ++ ['\n']

def outlineOf (source : String) : List Outline × References :=
  let text := normalizeLineEnds source
  let st := outline (10 * (text.length + 2)) 0 { tables := true } { lines := linesOf text }
  (st.blocks.reverse,st.refs)

end DocPress.Markdown
