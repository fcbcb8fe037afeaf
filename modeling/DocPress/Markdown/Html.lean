import DocPress.Markdown.Line

/-!
HTML within Markdown: the tags that stand in a line of text, and the blocks that HTML makes of whole
lines. Nothing of it is understood; it is only told where it starts and where it ends.
-/

namespace DocPress.Markdown.Html

def occurs (pattern : List Char) : List Char → Bool
  | [] => pattern.isEmpty
  | c :: cs => pattern.isPrefixOf (c :: cs) || occurs pattern cs

def after? (pattern : List Char) : List Char → Option (List Char)
  | [] => none
  | c :: cs =>
    if pattern.isPrefixOf (c :: cs) then some ((c :: cs).drop pattern.length)
    else after? pattern cs

private def isTagChar (c : Char) : Bool := c.isAlphanum || c = '-'

def tagName? (cs : List Char) : Option (List Char × List Char) :=
  match cs with
  | c :: _ => if c.isAlpha then some (cs.takeWhile isTagChar,cs.dropWhile isTagChar) else none
  | [] => none

private def isAttributeStart (c : Char) : Bool := c.isAlpha || c = '_' || c = ':'

private def isAttributeChar (c : Char) : Bool :=
  c.isAlphanum || c = '_' || c = '.' || c = ':' || c = '-'

private def isBareValueChar (c : Char) : Bool := ! " !\"\x27=<>\x60".toList.contains c

/-- The places where a value without quotes may end, the farthest one first. -/
def bareValueEnds : List Char → List (List Char)
  | [] => []
  | c :: cs =>
    if isBareValueChar c then
      bareValueEnds cs ++
        if cs.head?.all fun d => ! isBareValueChar d || Text.isBlank d then [cs] else []
    else []

def valueEnds (cs : List Char) : List (List Char) :=
  match cs.dropWhile Text.isBlank with
  | '=' :: rest =>
    match rest.dropWhile Text.isBlank with
    | '"' :: value => (after? ['"'] value).toList
    | '\x27' :: value => (after? ['\x27'] value).toList
    | value => bareValueEnds value
  | _ => []

/-- The places where an attribute may end. It has blanks before it and need not have a value. -/
def attributeEnds (cs : List Char) : List (List Char) :=
  match cs with
  | b :: _ =>
    if Text.isBlank b then
      match cs.dropWhile Text.isBlank with
      | c :: rest =>
        if isAttributeStart c then
          let rest := rest.dropWhile isAttributeChar
          valueEnds rest ++ [rest]
        else []
      | [] => []
    else []
  | [] => []

def afterAttributes (finish : List Char → Option (List Char)) :
    Nat → List Char → Option (List Char)
  | 0, cs => finish cs
  | fuel + 1, cs =>
    match (attributeEnds cs).findSome? (afterAttributes finish fuel) with
    | some rest => some rest
    | none => finish cs

private def tagEnd (cs : List Char) : Option (List Char) :=
  match cs.dropWhile Text.isBlank with
  | '>' :: rest => some rest
  | '/' :: '>' :: rest => some rest
  | _ => none

/-- The end of a comment: it holds no two hyphens in a row and no hyphen at its end. -/
private def afterComment (body : Bool) : List Char → Option (List Char)
  | '-' :: '-' :: '>' :: rest => if body then some rest else none
  | '-' :: '-' :: _ => none
  | '\n' :: _ => none
  | _ :: cs => afterComment true cs
  | [] => none

private def afterInLine (pattern : List Char) : List Char → Option (List Char)
  | [] => none
  | c :: cs =>
    if c = '\n' then none
    else if pattern.isPrefixOf cs then some (cs.drop pattern.length)
    else afterInLine pattern cs

def skip? (cs : List Char) : Option (List Char) :=
  match cs with
  | '<' :: '/' :: rest =>
    match tagName? rest with
    | some (_,rest) =>
      match rest.dropWhile Text.isBlank with
      | '>' :: rest => some rest
      | _ => none
    | none => none
  | '<' :: '!' :: '-' :: '-' :: '>' :: _ => none
  | '<' :: '!' :: '-' :: '-' :: '-' :: '>' :: _ => none
  | '<' :: '!' :: '-' :: '-' :: rest => afterComment false rest
  | '<' :: '?' :: '?' :: '>' :: _ => none
  | '<' :: '?' :: rest => afterInLine ['?','>'] rest
  | '<' :: '!' :: '[' :: 'C' :: 'D' :: 'A' :: 'T' :: 'A' :: _ :: rest => after? [']',']','>'] rest
  | '<' :: '!' :: c :: rest => if c.isUpper then afterInLine ['>'] rest else none
  | '<' :: rest =>
    match tagName? rest with
    | some (_,rest) => afterAttributes tagEnd rest.length rest
    | none => none
  | _ => none

private def startsWithTag (start : List Char) (html : List Char) : Bool :=
  start.isPrefixOf (html.map Char.toLower) &&
    match html.drop start.length with
    | c :: _ => c = ' ' || c = '>'
    | [] => false

def opensLink (html : List Char) : Bool := startsWithTag ['<','a'] html

def closesLink (html : List Char) : Bool := startsWithTag ['<','/','a'] html

/-- Tags whose block ends at the next blank line. -/
def blockTags : List String := [
  "address","article","aside","base","basefont","blockquote","body","caption","center",
  "col","colgroup","dd","details","dialog","dir","div","dl","dt","fieldset","figcaption",
  "figure","footer","form","frame","frameset","h1","h2","h3","h4","h5","h6","head",
  "header","hr","html","iframe","legend","li","link","main","menu","menuitem","meta",
  "nav","noframes","ol","optgroup","option","p","param","section","source","summary",
  "table","tbody","td","tfoot","th","thead","title","tr","track","ul"]

/-- Tags whose block ends with their closing tag. -/
def verbatimTags : List String := ["pre","script","style","textarea"]

inductive Opening where
  | until (mark : List Char)
  | openTag (name : List Char)
  | closeTag (name : List Char)
  deriving DecidableEq, Repr

def opening? (maxIndent : Nat) (line : Line) : Option (Opening × Line) :=
  match Line.body? maxIndent line with
  | some ('<' :: '/' :: rest) => (tagName? rest).map fun (name,rest) => (.closeTag name,rest)
  | some ('<' :: '!' :: '-' :: '-' :: rest) => some (.until ['-','-','>'],rest)
  | some ('<' :: '?' :: rest) => some (.until ['?','>'],rest)
  | some ('<' :: '!' :: '[' :: 'C' :: 'D' :: 'A' :: 'T' :: 'A' :: '[' :: rest) =>
    some (.until [']',']','>'],rest)
  | some ('<' :: '!' :: c :: rest) => if c.isUpper then some (.until ['>'],rest) else none
  | some ('<' :: rest) => (tagName? rest).map fun (name,rest) => (.openTag name,rest)
  | _ => none

private def isNamed (names : List String) (name : List Char) : Bool :=
  names.contains (String.ofList name)

def interrupts (maxIndent : Nat) (line : Line) : Bool :=
  match opening? maxIndent line with
  | some (.until _,_) => true
  | some (.openTag name,rest) =>
    isNamed (blockTags ++ verbatimTags) name && rest.head?.all isSpacing
  | some (.closeTag name,rest) =>
    isNamed (blockTags ++ verbatimTags) name && rest.head?.all isSpacing
  | none => false

/-- Cuts after the first line that has the mark; the first line has it only in a part of it. -/
def cutAtMark (mark : List Char) (first : Line) : List Line → List Line × List Line
  | [] => ([],[])
  | line :: rest =>
    if occurs mark first then ([line],rest)
    else match rest with
      | [] => ([line],[])
      | next :: _ =>
        let (html,rest) := cutAtMark mark next rest
        (line :: html,rest)

def cutAtBlank (lines : List Line) : List Line × List Line :=
  (lines.takeWhile (! Line.isBlank ·),lines.dropWhile (! Line.isBlank ·))

inductive Extent where
  | toMark (mark : List Char)
  | toBlank
  /-- To a blank line, unless a paragraph comes before it, or the tag does not end its line. -/
  | tagLine (complete : Bool)

private def lineEnd (cs : List Char) : Option (List Char) :=
  match cs.dropWhile isSpacing with
  | '>' :: rest =>
    match rest.dropWhile isSpacing with
    | [] => some []
    | '\n' :: _ => some []
    | _ => none
  | _ => none

def extent (opening : Opening) (following : List Char) : Extent :=
  match opening with
  | .until mark => .toMark mark
  | .closeTag name =>
    let name := name.map Char.toLower
    if isNamed blockTags name then .toBlank else .tagLine (lineEnd following).isSome
  | .openTag name =>
    let name := name.map Char.toLower
    if isNamed verbatimTags name then .toMark (['<','/'] ++ name ++ ['>'])
    else if isNamed blockTags name then .toBlank
    else .tagLine (afterAttributes lineEnd following.length following).isSome

end DocPress.Markdown.Html
