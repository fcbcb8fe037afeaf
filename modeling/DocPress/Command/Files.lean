import DocPress.Text.PathName
import DocPress.Text.Quoted

/-!
The files that a run of the program finds: those below its working directory. A path leads to a
place, which may be a file, a directory or nothing yet.
-/

namespace DocPress.Command

open DocPress.Text (PathName)

/-- The names on the way to a place from the working directory, or from the root of all files if
the first of them is a slash. -/
abbrev Place := List String

inductive FileFault where
  | missing
  | alreadyThere
  | notADirectory
  | isADirectory
  | nameTooLong
  deriving DecidableEq, Repr

namespace FileFault

def number : FileFault → Nat
  | missing => 2
  | alreadyThere => 17
  | notADirectory => 20
  | isADirectory => 21
  | nameTooLong => 36

def text : FileFault → String
  | missing => "No such file or directory"
  | alreadyThere => "File exists"
  | notADirectory => "Not a directory"
  | isADirectory => "Is a directory"
  | nameTooLong => "File name too long"

end FileFault

structure FileError where
  fault : FileFault
  path : PathName
  deriving DecidableEq, Repr

def FileError.message (e : FileError) : String :=
  s!"[Errno {e.fault.number}] {e.fault.text}: " ++ Text.quoted e.path.toString

def hasNull (text : String) : Bool := text.toList.contains '\x00'

structure Files where
  contents : List (Place × List UInt8) := []
  /-- Directories besides those that hold files. -/
  directories : List Place := []
  deriving DecidableEq, Repr

namespace Files

def start (p : PathName) : Place := if p.root.isEmpty then [] else ["/"]

/-- The directory of a place; the first one is its own. -/
def above (place : Place) : Place :=
  match place with
  | ["/"] => ["/"]
  | _ => place.dropLast

def ofList (files : List (String × List UInt8)) : Files where
  contents := files.map fun (path,data) =>
    let p := PathName.ofString path
    (start p ++ p.parts,data)

/-- Is there a directory? Every file stands in directories. -/
def isDirectory (files : Files) (place : Place) : Bool :=
  place = [] || place = ["/"] || files.directories.contains place ||
    files.contents.any fun (path,_) => place.isPrefixOf path && place ≠ path

def maxNameLength : Nat := 255

def maxPathLength : Nat := 4095

def walk (files : Files) (place : Place) : List String → Except FileFault Place
  | [] => .ok place
  | name :: names =>
    if files.isDirectory place then
      if maxNameLength < name.utf8ByteSize then .error .nameTooLong
      else if name = ".." then files.walk (above place) names
      else files.walk (place ++ [name]) names
    else if (files.contents.lookup place).isSome then .error .notADirectory
    else .error .missing

def resolve (files : Files) (p : PathName) : Except FileError Place :=
  let fault := if maxPathLength < p.toString.utf8ByteSize then .error .nameTooLong
    else files.walk (start p) p.parts
  fault.mapError fun fault => ⟨fault,p⟩

def read (files : Files) (p : PathName) : Except FileError (List UInt8) := do
  let place ← files.resolve p
  if files.isDirectory place then .error ⟨.isADirectory,p⟩
  else match files.contents.lookup place with
    | some data => .ok data
    | none => .error ⟨.missing,p⟩

/-- Does a path lead to a file? Only a name that is too long leaves that open. -/
def isFile (files : Files) (p : PathName) : Except FileError Bool :=
  if hasNull p.toString then .ok false
  else match files.read p with
    | .ok _ => .ok true
    | .error e => if e.fault = .nameTooLong then .error e else .ok false

def makeDirectory (files : Files) (p : PathName) : Except FileError Files := do
  let place ← files.resolve p
  if files.isDirectory place then .ok files
  else if (files.contents.lookup place).isSome then .error ⟨.alreadyThere,p⟩
  else .ok { files with directories := files.directories ++ [place] }

def change (act : Files → Except FileError Files) : EStateM FileError Files Unit := fun files =>
  match act files with
  | .ok files => .ok () files
  | .error e => .error e files

/-- Makes a directory and those that it stands in. The parts of its path come last one first. What has been
made stays there if another one cannot be made. -/
def makeWay (root : String) : List String → EStateM FileError Files Unit
  | [] => pure ()
  | name :: above =>
    let make := change (·.makeDirectory ⟨root,(name :: above).reverse⟩)
    tryCatch make fun e =>
      if e.fault = .missing then makeWay root above >>= fun _ => make else throw e

def placeOf (files : Files) (p : PathName) : Except FileError Place := do
  let place ← files.resolve p
  if files.isDirectory place then .error ⟨.isADirectory,p⟩ else .ok place

def put (files : Files) (place : Place) (data : List UInt8) : Files :=
  { files with contents := (place,data) :: files.contents }

end Files

end DocPress.Command
