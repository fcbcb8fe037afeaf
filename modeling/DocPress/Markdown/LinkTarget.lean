import DocPress.Markdown.Line
import DocPress.Text.CaseFold
import DocPress.Text.Entity
import DocPress.Text.Percent
import DocPress.Text.Punctuation

/-!
Where a link leads: its address and its title, as they are written in parentheses behind the text of
a link, or in a definition that stands on lines of its own under a label.
-/

namespace DocPress.Markdown

structure LinkTarget where
  url : String
  title : Option String := none
  deriving DecidableEq, Repr

def unescape : List Char → List Char
  | '\\' :: c :: cs =>
    if Text.isAsciiPunctuation c then c :: unescape cs else '\\' :: unescape (c :: cs)
  | c :: cs => c :: unescape cs
  | [] => []

/-- What an address keeps as it is besides letters, digits and the four marks. -/
def addressMarks : List Char := ":/?#@!$&()*+,;=%".toList

def encodeAddress (cs : List Char) : String :=
  String.ofList (Text.percentEncode addressMarks (Text.decodeReferences cs))

namespace LinkTarget

def ofParts (address : List Char) (title : Option (List Char)) : LinkTarget where
  url := encodeAddress (unescape address)
  title := (title.filter (! ·.isEmpty)).map fun t => String.ofList (unescape t)

end LinkTarget

def skipToNextLine (cs : List Char) : List Char :=
  match cs.dropWhile isSpacing with
  | '\n' :: rest => rest.dropWhile isSpacing
  | rest => rest

def splitUnescaped? (isEnd : Char → Bool) : List Char → Option (List Char × Char × List Char)
  | '\\' :: c :: cs =>
    if Text.isAsciiPunctuation c then
      (splitUnescaped? isEnd cs).map fun (kept,rest) => ('\\' :: c :: kept,rest)
    else (splitUnescaped? isEnd (c :: cs)).map fun (kept,rest) => ('\\' :: kept,rest)
  | c :: cs =>
    if isEnd c then some ([],c,cs)
    else (splitUnescaped? isEnd cs).map fun (kept,rest) => (c :: kept,rest)
  | [] => none

def bracketedAddress? (cs : List Char) : Option (List Char × List Char) :=
  match splitUnescaped? (fun c => c = '<' || c = '>' || c = '\n') cs with
  | some (address,'>',rest) => some (address,rest)
  | _ => none

/-- An address without brackets ends at a blank, or at a parenthesis that it does not open. -/
def bareAddress (depth : Nat) : List Char → List Char × List Char
  | '\\' :: c :: cs =>
    if Text.isAsciiPunctuation c then
      let (address,rest) := bareAddress depth cs
      ('\\' :: c :: address,rest)
    else
      let (address,rest) := bareAddress depth (c :: cs)
      ('\\' :: address,rest)
  | c :: cs =>
    if Text.isBlank c || (c = ')' && depth = 0) then ([],c :: cs)
    else
      let depth := if c = '(' then depth + 1 else if c = ')' then depth - 1 else depth
      let (address,rest) := bareAddress depth cs
      (c :: address,rest)
  | [] => ([],[])

def title? (cs : List Char) : Option (List Char × List Char) :=
  let isGap := fun c => isSpacing c || c = '\n'
  let split := fun (ends : List Char) (close : Char) (text : List Char) =>
    match splitUnescaped? (ends.contains ·) text with
    | some (title,c,rest) => if c = close then some (title,rest) else none
    | none => none
  if cs.head?.any isGap then
    match cs.dropWhile isGap with
    | '"' :: text => split ['"'] '"' text
    | '\x27' :: text => split ['\x27'] '\x27' text
    | '(' :: text => split ['(',')'] ')' text
    | _ => none
  else none

private def closed? (address : List Char) (title : Option (List Char)) (cs : List Char) :
    Option (LinkTarget × List Char) :=
  match cs.dropWhile Text.isBlank with
  | ')' :: rest => some (.ofParts address title,rest)
  | _ => none

def inlineTarget? (cs : List Char) : Option (LinkTarget × List Char) :=
  let address := match skipToNextLine cs with
    | '<' :: rest => bracketedAddress? rest
    | rest =>
      let (address,rest) := bareAddress 0 rest
      some (address,rest)
  match address with
  | none => none
  | some (address,rest) =>
    match title? rest with
    | some (title,after) => closed? address (some title) after
    | none => closed? address none rest

/-- A label holds no bracket without a backslash before it, and at most so many characters. -/
def labelWithin? : Nat → List Char → Option (List Char × List Char)
  | _, ']' :: rest => some ([],rest)
  | 0, _ => none
  | n + 1, '\\' :: c :: rest =>
    if c = '\n' then none
    else (labelWithin? n rest).map fun (label,rest) => ('\\' :: c :: label,rest)
  | n + 1, c :: rest =>
    if c = '[' || c = '\\' then none
    else (labelWithin? n rest).map fun (label,rest) => (c :: label,rest)
  | _, [] => none

def label? (cs : List Char) : Option (List Char × List Char) := labelWithin? 500 cs

/-- What labels have in common that name the same target: case and the width of gaps do not
matter. -/
def labelKey (label : List Char) : List Char :=
  Text.foldCase (Text.joinWith [' '] (Text.words label))

abbrev References := List (List Char × LinkTarget)

namespace References

/-- The first definition of a label holds. -/
def define (refs : References) (label : List Char) (target : LinkTarget) : References :=
  if (refs.lookup (labelKey label)).isSome then refs else refs ++ [(labelKey label,target)]

def find? (refs : References) (label : List Char) : Option LinkTarget :=
  refs.lookup (labelKey label)

end References

private def atLineEnd? (cs : List Char) : Option (List Char) :=
  match cs.dropWhile isSpacing with
  | '\n' :: rest => some rest
  | _ => none

private def beforeBlankLine (cs : List Char) : List Char :=
  let lines := Text.splitAt '\n' cs
  Text.joinWith ['\n'] (lines.take 1 ++ (lines.drop 1).takeWhile (! Line.isBlank ·))

private def definedAddress? (cs : List Char) : Option (List Char × List Char) :=
  match skipToNextLine cs with
  | '<' :: rest => bracketedAddress? rest
  | rest =>
    let address := rest.takeWhile (! Text.isBlank ·)
    if address.isEmpty then none else some (address,rest.drop address.length)

/-- A definition at the start of the lines: its label, its target, and what follows it. Where what
looks like a title does not end its line, the target has none. -/
def definition? (lines : List Line) : Option (List Char × LinkTarget × List Line) := do
  let text := textOf lines
  match text.dropWhile (· = ' ') with
  | '[' :: rest =>
    let (label,rest) ← label? rest
    match rest with
    | ':' :: rest =>
      if (labelKey label).isEmpty then none
      else
        let (address,rest) ← definedAddress? rest
        let bounded := beforeBlankLine rest
        let titled := match title? bounded with
          | some (title,after) =>
            (atLineEnd? (rest.drop (bounded.length - after.length))).map (some title,·)
          | none => none
        let (title,rest) ← titled <|> (atLineEnd? rest).map (none,·)
        pure (label,.ofParts address title,linesOf rest)
    | _ => none
  | _ => none

def startsDefinition (lines : List Line) : Bool :=
  match lines with
  | line :: _ =>
    match Line.body? 3 line with
    | some ('[' :: _) =>
      match label? ((textOf lines).dropWhile (· = ' ') |>.drop 1) with
      | some (_,':' :: _) => true
      | _ => false
    | _ => false
  | [] => false

end DocPress.Markdown
