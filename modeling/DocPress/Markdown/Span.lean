import DocPress.Markdown.Emphasis
import DocPress.Markdown.Html
import DocPress.Markdown.LinkTarget

/-!
The text of a paragraph, a heading or a table cell, and the tokens it holds. At each place the first
construct that fits is taken; a construct that turns out incomplete gives back its first character
as text.
-/

namespace DocPress.Markdown

def escapedRun : List Char → List Char × List Char
  | '\\' :: c :: cs =>
    if Text.isAsciiPunctuation c then
      let (escaped,rest) := escapedRun cs
      (c :: escaped,rest)
    else ([],'\\' :: c :: cs)
  | cs => ([],cs)

def codeUntil (size : Nat) : Nat → List Char → Option (List Char × List Char)
  | 0, _ => none
  | _, [] => none
  | fuel + 1, c :: cs =>
    if c = '\x60' then
      let marks := (c :: cs).takeWhile (· = '\x60')
      let rest := (c :: cs).drop marks.length
      if marks.length = size then some ([],rest)
      else (codeUntil size fuel rest).map fun (code,rest) => (marks ++ code,rest)
    else (codeUntil size fuel cs).map fun (code,rest) => (c :: code,rest)

def codeSpan? (cs : List Char) : Option (List Char × List Char) :=
  let marks := cs.takeWhile (· = '\x60')
  codeUntil marks.length cs.length (cs.drop marks.length)

/-- The code that a code span shows: line ends are spaces, and one space at either end is for
separation unless there is nothing else. -/
def shownCode (code : List Char) : List Char :=
  let code := code.map fun c => if c = '\n' then ' ' else c
  if ! code.all Text.isBlank && code.head? = some ' ' && code.getLast? = some ' ' then
    (code.drop 1).dropLast
  else code

private def isSchemeChar (c : Char) : Bool := c.isAlphanum || c = '.' || c = '+' || c = '-'

private def isMailChar (c : Char) : Bool := c.isAlphanum || ".!#$%&\x27*+/=?^_\x60\x7b|\x7d~-".toList.contains c

def autoAddress? (cs : List Char) : Option (List Char × List Char) :=
  let scheme := cs.takeWhile isSchemeChar
  match cs.drop scheme.length with
  | ':' :: rest =>
    let path := rest.takeWhile fun c => ' ' < c && c ≠ '<' && c ≠ '>'
    match rest.drop path.length with
    | '>' :: rest =>
      if scheme.head?.any Char.isAlpha && 2 ≤ scheme.length && scheme.length ≤ 32 then
        some (scheme ++ ':' :: path,rest)
      else none
    | _ => none
  | _ => none

private def isDomainLabel (label : List Char) : Bool :=
  label.length ≤ 63 && label.head?.any Char.isAlphanum && label.getLast?.any Char.isAlphanum &&
    label.all fun c => c.isAlphanum || c = '-'

def autoMail? (cs : List Char) : Option (List Char × List Char) :=
  let name := cs.takeWhile isMailChar
  match cs.drop name.length with
  | '@' :: rest =>
    let domain := rest.takeWhile fun c => c.isAlphanum || c = '-' || c = '.'
    match rest.drop domain.length with
    | '>' :: rest =>
      if ! name.isEmpty && (Text.splitAt '.' domain).all isDomainLabel then
        some (name ++ '@' :: domain,rest)
      else none
    | _ => none
  | _ => none

/-- An address without brackets around it: it ends before a blank, and not with a mark that ends a
sentence or a quotation. -/
def plainAddress? (cs : List Char) : Option (List Char × List Char) :=
  let found := fun (scheme : List Char) =>
    if scheme.isPrefixOf cs then
      let run := (cs.drop scheme.length).takeWhile fun c => ! Text.isBlank c && c ≠ '<'
      let address := Text.dropEndWhile (".,:;\"\x27)]".toList.contains ·) run
      if 2 ≤ address.length then
        some (scheme ++ address,cs.drop (scheme.length + address.length))
      else none
    else none
  found "https://".toList <|> found "http://".toList

def skipBracketed? (cs : List Char) : Option (List Char) :=
  match cs with
  | '<' :: rest =>
    ((autoAddress? rest).map (·.2)) <|> ((autoMail? rest).map (·.2)) <|> Html.skip? cs
  | _ => none

/-- The text up to the bracket that closes one already open, and what follows it. Brackets in code,
addresses and HTML do not count. -/
def bracketText? : Nat → Nat → List Char → Option (List Char × List Char)
  | 0, _, _ => none
  | _, _, [] => none
  | fuel + 1, depth, c :: cs =>
    let pass := fun (rest : List Char) (depth : Nat) =>
      (bracketText? fuel depth rest).map fun (text,after) =>
        ((c :: cs).take (cs.length + 1 - rest.length) ++ text,after)
    if c = '\\' then
      match cs with
      | d :: rest => if Text.isAsciiPunctuation d then pass rest depth else pass cs depth
      | [] => none
    else if c = '\x60' then
      match codeSpan? (c :: cs) with
      | some (_,rest) => pass rest depth
      | none => pass (cs.dropWhile (· = '\x60')) depth
    else if c = '<' then pass ((skipBracketed? (c :: cs)).getD cs) depth
    else if c = '[' then pass cs (depth + 1)
    else if c = ']' then if depth = 0 then some ([],cs) else pass cs (depth - 1)
    else pass cs depth

private def strikeEndsAt (before : Option Char) (cs : List Char) : Option Nat :=
  let closesAfter := fun (n : Nat) =>
    match cs.drop n with
    | '~' :: '~' :: rest => if rest.head? = some '~' then none else some n
    | _ => none
  let slashes := (cs.takeWhile (· = '\\')).length
  let escaped :=
    if before ≠ some '\\' && slashes % 2 = 1 && (cs.drop slashes).head? = some '~' then
      closesAfter (slashes + 1)
    else none
  match escaped, cs with
  | some n, _ => some n
  | none, c :: _ => if Text.isBlank c || c = '~' then none else closesAfter 1
  | none, [] => none

def struckText? (before : Option Char) : List Char → Option (List Char × List Char)
  | [] => none
  | c :: cs =>
    match strikeEndsAt before (c :: cs) with
    | some n => some ((c :: cs).take n,(c :: cs).drop (n + 2))
    | none => (struckText? (some c) cs).map fun (text,rest) => (c :: text,rest)

mutual

def hasLink : List Token → Bool
  | [] => false
  | t :: ts => isOrHasLink t || hasLink ts

def isOrHasLink : Token → Bool
  | .mk kind _ _ _ _ children => kind = "link" || payloadHasLink children
  | _ => false

def payloadHasLink : Payload → Bool
  | .tokens items _ => hasLink items
  | _ => false

end

inductive LinkScope where
  | everything
  /-- Within the text of a link, addresses stay text. -/
  | linkText
  /-- After an opening HTML link, brackets stay text as well. -/
  | htmlLink
  deriving DecidableEq, Repr

/-- The deepest nesting of texts within a text; what lies deeper stays as it is. -/
def maxTextDepth : Nat := 20

def addressToken (url shown : List Char) : Token :=
  .mk "link" { url := .given (encodeAddress url) } {} .absent .absent (.tokens [textToken shown] "")

def targetToken (kind : String) (target : LinkTarget) (children : List Token) : Token :=
  .mk kind
    { url := .given target.url
      title := match target.title with
        | some title => .given title
        | none => .null }
    {} .absent .absent (.tokens children "")

def rawToken (kind : String) (raw : List Char) : Token :=
  .mk kind {} {} (.str (String.ofList raw)) .absent .absent

/-- The target of a bracketed text that starts here, the text, and what follows the target. The
text after the opening bracket is given. -/
def linkAt? (refs : References) (cs : List Char) : Option (LinkTarget × List Char × List Char) := do
  let (text,rest) ← bracketText? (cs.length + 1) 0 cs
  let own : Option (List Char) :=
    match label? cs with
    | some (label,after) => if after.length = rest.length then some label else none
    | none => none
  let named := fun (label : Option (List Char)) (rest : List Char) =>
    (label.bind refs.find?).map fun target => (target,text,rest)
  match rest with
  | '(' :: after =>
    match inlineTarget? after with
    | some (target,rest) => pure (target,text,rest)
    | none => named own rest
  | '[' :: after =>
    match label? after with
    | some ([],rest) => named own rest
    | some (label,rest) => named (some label) rest
    | none => named own rest
  | _ => named own rest

mutual

def spans : Nat → Nat → References → LinkScope → List Char → List Token
  | 0, _, _, _, cs => [textToken cs]
  | fuel + 1, depth, refs, scope, cs =>
    if maxTextDepth ≤ depth then [textToken cs]
    else tokensOfPieces (pieces fuel depth refs scope none cs)

def pieces : Nat → Nat → References → LinkScope → Option Char → List Char → List Piece
  | 0, _, _, _, _, cs => [.text cs]
  | _, _, _, _, _, [] => []
  | fuel + 1, depth, refs, scope, before, c :: cs =>
    let asText := fun (text rest : List Char) =>
      Piece.text text :: pieces fuel depth refs scope text.getLast? rest
    let asToken := fun (t : Token) (last : Option Char) (rest : List Char) =>
      Piece.token t :: pieces fuel depth refs scope last rest
    match c with
    | '\\' =>
      match cs with
      | '\n' :: rest =>
        asToken (parentToken "linebreak" []) (some '\n') (rest.dropWhile Text.isBlank)
      | _ =>
        let (escaped,rest) := escapedRun (c :: cs)
        if escaped.isEmpty then asText [c] cs
        else asToken (textToken escaped) escaped.getLast? rest
    | '\x60' =>
      match codeSpan? (c :: cs) with
      | some (code,rest) => asToken (rawToken "codespan" (shownCode code)) (some '\x60') rest
      | none =>
        let marks := (c :: cs).takeWhile (· = '\x60')
        asText marks ((c :: cs).drop marks.length)
    | '~' =>
      match cs with
      | '~' :: d :: rest =>
        if Text.isBlank d || d = '~' then asText [c] cs
        else match struckText? (some '~') (d :: rest) with
          | some (text,rest) =>
            asToken (parentToken "strikethrough" (spans fuel (depth + 1) refs scope text)) (some '~')
              rest
          | none => asText [c] cs
      | _ => asText [c] cs
    | '!' =>
      match cs with
      | '[' :: inner =>
        match linkAt? refs inner with
        | some (target,text,rest) =>
          asToken (targetToken "image" target (spans fuel (depth + 1) refs scope text)) (some ')')
            rest
        | none => asText [c] cs
      | _ => asText [c] cs
    | '[' =>
      if scope = .htmlLink then asText [c] cs
      else match linkAt? refs cs with
        | some (target,text,rest) =>
          let children := spans fuel (depth + 1) refs .linkText text
          if hasLink children then asText [c] cs
          else asToken (targetToken "link" target children) (some ')') rest
        | none => asText [c] cs
    | '<' =>
      match autoAddress? cs with
      | some (address,rest) =>
        if scope = .everything then asToken (addressToken address address) (some '>') rest
        else asText (c :: address ++ ['>']) rest
      | none =>
        match autoMail? cs with
        | some (mail,rest) =>
          if scope = .everything then
            asToken (addressToken ("mailto:".toList ++ mail) mail) (some '>') rest
          else asText (c :: mail ++ ['>']) rest
        | none =>
          match Html.skip? (c :: cs) with
          | some rest =>
            let html := (c :: cs).take (cs.length + 1 - rest.length)
            let scope :=
              if Html.opensLink html then .htmlLink
              else if Html.closesLink html then .everything
              else scope
            .token (rawToken "inline_html" html) :: pieces fuel depth refs scope (some '>') rest
          | none => asText [c] cs
    | ' ' =>
      let spaces := (c :: cs).takeWhile (· = ' ')
      match (c :: cs).drop spaces.length with
      | '\n' :: rest =>
        asToken (parentToken (if 2 ≤ spaces.length then "linebreak" else "softbreak") [])
          (some '\n') (rest.dropWhile Text.isBlank)
      | rest => asText spaces rest
    | '\n' => asToken (parentToken "softbreak" []) (some '\n') (cs.dropWhile Text.isBlank)
    | 'h' =>
      match plainAddress? (c :: cs) with
      | some (address,rest) =>
        if scope = .everything then asToken (addressToken address address) address.getLast? rest
        else asText address rest
      | none => asText [c] cs
    | _ =>
      if c = '*' || c = '_' then
        let marks := (c :: cs).takeWhile (· = c)
        let rest := (c :: cs).drop marks.length
        .run (.between c marks.length before rest.head?) :: pieces fuel depth refs scope (some c) rest
      else asText [c] cs

end

def spansOf (refs : References) (text : List Char) : List Token :=
  let trimmed := Text.trimWhile (" \r\n\t\x0c".toList.contains ·) text
  spans (trimmed.length + 2) 0 refs .everything trimmed

end DocPress.Markdown
