/-!
Path names with slashes: a root, and the parts between slashes without empty parts and single dots.
-/

namespace DocPress.Text

def lastDot? (cs : List Char) : Option Nat :=
  let tail := cs.reverse.takeWhile (· != '.')
  if tail.length < cs.length then some (cs.length - tail.length - 1) else none

/-- The extension of a file name with its dot. A name that starts or ends with its only dot has
none. -/
def extensionOf (name : String) : String :=
  let cs := name.toList
  match lastDot? cs with
  | some k => if 0 < k && k + 1 < cs.length then String.ofList (cs.drop k) else ""
  | none => ""

def stemOf (name : String) : String :=
  let cs := name.toList
  match lastDot? cs with
  | some k => if 0 < k && k + 1 < cs.length then String.ofList (cs.take k) else name
  | none => name

/-- A path name: its root, which is empty for a relative one, and its parts. -/
structure PathName where
  root : String
  parts : List String
  deriving DecidableEq, Repr

namespace PathName

def splitSlashes : List Char → List (List Char)
  | [] => [[]]
  | '/' :: cs => [] :: splitSlashes cs
  | c :: cs => match splitSlashes cs with
    | [] => [[c]]
    | piece :: pieces => (c :: piece) :: pieces

/-- Reads a path name. Exactly two slashes in front are a root of their own. -/
def ofString (s : String) : PathName :=
  let cs := s.toList
  let root := match (cs.takeWhile (· == '/')).length with
    | 0 => ""
    | 2 => "//"
    | _ => "/"
  ⟨root,((splitSlashes cs).filter fun piece => ! (piece.isEmpty || piece == ['.'])).map
    String.ofList⟩

/-- Writes a path name; the relative one without parts is a dot. -/
def toString (p : PathName) : String :=
  if p.root.isEmpty && p.parts.isEmpty then "." else p.root ++ "/".intercalate p.parts

def name (p : PathName) : String := p.parts.getLastD ""

def stem (p : PathName) : String := stemOf p.name

def extension (p : PathName) : String := extensionOf p.name

def withExtension (p : PathName) (extension : String) : PathName :=
  { p with parts := p.parts.dropLast ++ [p.stem ++ extension] }

def parent (p : PathName) : PathName := { p with parts := p.parts.dropLast }

end PathName

end DocPress.Text
