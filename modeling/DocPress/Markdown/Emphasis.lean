import DocPress.Markdown.Token
import DocPress.Text.Punctuation

/-!
Emphasis. Runs of asterisks and underscores stand between the other pieces of a line of text; a run
that may close looks back for the nearest one that it matches, and what lies between the two becomes
emphasis or strong emphasis. Marks that match nothing stay as text.
-/

namespace DocPress.Markdown

structure MarkRun where
  mark : Char
  count : Nat
  size : Nat
  opens : Bool
  closes : Bool
  deriving DecidableEq, Repr

inductive Piece where
  | token (t : Token)
  | text (cs : List Char)
  | marks (cs : List Char)
  | run (r : MarkRun)

namespace MarkRun

/-- The run between two characters; the ends of a text count as blanks. An underscore within a word
neither opens nor closes. -/
def between (mark : Char) (size : Nat) (before after : Option Char) : MarkRun :=
  let blankBefore := before.all Text.isBlank
  let blankAfter := after.all Text.isBlank
  let punctuationBefore := before.any Text.isPunctuation
  let punctuationAfter := after.any Text.isPunctuation
  let left := ! blankAfter && (! punctuationAfter || blankBefore || punctuationBefore)
  let right := ! blankBefore && (! punctuationBefore || blankAfter || punctuationAfter)
  { mark
    count := size
    size
    opens := left && (mark = '*' || ! right || punctuationBefore)
    closes := right && (mark = '*' || ! left || punctuationAfter) }

/-- May the second run close what the first one opens? Runs that can do both must not add up to a
multiple of three, unless both are one. -/
def isClosedBy (first second : MarkRun) : Bool :=
  first.opens && first.mark = second.mark &&
    ! ((first.closes || second.opens) && (first.size + second.size) % 3 = 0 &&
      ! (first.size % 3 = 0 && second.size % 3 = 0))

def leftover (r : MarkRun) : Piece := .marks (List.replicate r.count r.mark)

end MarkRun

def textToken (cs : List Char) : Token :=
  .mk "text" {} {} (.str (String.ofList cs)) .absent .absent

def parentToken (kind : String) (children : List Token) : Token :=
  .mk kind {} {} .absent .absent (.tokens children "")

namespace Piece

def toToken : Piece → Token
  | token t => t
  | text cs => textToken cs
  | marks cs => textToken cs
  | run r => textToken (List.replicate r.count r.mark)

def joinTexts : List Piece → List Piece
  | text a :: rest => match joinTexts rest with
    | text b :: rest => text (a ++ b) :: rest
    | rest => text a :: rest
  | piece :: rest => piece :: joinTexts rest
  | [] => []

def joinAll : List Piece → List Piece
  | text a :: rest => joinTo a (joinAll rest)
  | marks a :: rest => joinTo a (joinAll rest)
  | piece :: rest => piece :: joinAll rest
  | [] => []
where
  joinTo (a : List Char) : List Piece → List Piece
    | text b :: rest => text (a ++ b) :: rest
    | rest => if a.isEmpty then rest else text a :: rest

end Piece

structure OpenRun where
  run : MarkRun
  pieces : List Piece

/-- The state of the search for emphasis: the open runs, the latest first, and the pieces before all
of them, the last one first. -/
structure EmphasisState where
  opened : List OpenRun := []
  pieces : List Piece := []

namespace EmphasisState

def push (st : EmphasisState) (pieces : List Piece) : EmphasisState :=
  match st.opened with
  | [] => { st with pieces := pieces ++ st.pieces }
  | o :: os => { st with opened := { o with pieces := pieces ++ o.pieces } :: os }

/-- The latest open run that the given run closes, what came after it, and the runs before it. -/
def match? (r : MarkRun) (after : List Piece) : List OpenRun →
    Option (List Piece × MarkRun × List OpenRun)
  | [] => none
  | o :: os =>
    let between := after ++ o.pieces
    if o.run.isClosedBy r then some (between,o.run,os)
    else match? r (between ++ [o.run.leftover]) os

def close (st : EmphasisState) : Nat → MarkRun → EmphasisState × MarkRun
  | 0, r => (st,r)
  | fuel + 1, r =>
    if ! r.closes || r.count = 0 then (st,r)
    else match match? r [] st.opened with
      | none => (st,r)
      | some (pieces,opening,os) =>
        let used := if 2 ≤ r.count && 2 ≤ opening.count then 2 else 1
        let kind := if used = 2 then "strong" else "emphasis"
        let children := (Piece.joinTexts pieces.reverse).map Piece.toToken
        let node := Piece.token (parentToken kind children)
        let opening := { opening with count := opening.count - used }
        let st := { st with opened := os }
        let st :=
          if opening.count = 0 then st.push [node,opening.leftover]
          else { st with opened := ⟨opening,[node]⟩ :: os }
        st.close fuel { r with count := r.count - used }

def step (st : EmphasisState) : Piece → EmphasisState
  | .run r =>
    let (st,left) := st.close r.count r
    if left.opens && left.count ≠ 0 then { st with opened := ⟨left,[]⟩ :: st.opened }
    else st.push [left.leftover]
  | piece => st.push [piece]

def finish (st : EmphasisState) : List Piece :=
  (st.opened.foldr (fun o pieces => o.pieces ++ o.run.leftover :: pieces) st.pieces).reverse

end EmphasisState

def tokensOfPieces (pieces : List Piece) : List Token :=
  let pieces := (pieces.foldl EmphasisState.step {}).finish
  match (Piece.joinAll pieces).map Piece.toToken with
  | [] => [textToken []]
  | tokens => tokens

end DocPress.Markdown
