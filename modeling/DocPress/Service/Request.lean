import DocPress.Text.Percent

/-!
What the service is asked for.
-/

namespace DocPress.Service

structure Upload where
  name : String
  data : List UInt8
  deriving DecidableEq, Repr

/-- A file name as the header of a form's part carries it: quotation marks and control characters
are percent encoded, all but the escape. -/
def sentName (name : String) : List Char :=
  name.toList.flatMap fun c =>
    if c = '"' || (c.toNat < 0x20 && c.toNat ≠ 0x1B) then Text.percentByte c.toNat.toUInt8 else [c]

def isForeignPath : List Char → Bool
  | '\\' :: '\\' :: _ => true
  | _ :: ':' :: '\\' :: _ => true
  | _ => false

/-- The name of an upload as it arrives. Of a path with backslashes only the last part does. -/
def Upload.arrivingName (u : Upload) : String :=
  let name := sentName u.name
  String.ofList (if isForeignPath name then (name.reverse.takeWhile (· ≠ '\\')).reverse else name)

structure Request where
  method : String
  path : String
  form : List (String × String) := []
  file : Option Upload := none
  deriving DecidableEq, Repr

/-- A field of the form; an empty one counts as absent. -/
def Request.field? (r : Request) (name : String) : Option String :=
  (r.form.lookup name).filter (! ·.isEmpty)

inductive Route where
  | health
  | styles
  | convertFile
  | convertText
  deriving DecidableEq, Repr

namespace Route

def all : List Route := [health,styles,convertFile,convertText]

def path : Route → String
  | health => "/health"
  | styles => "/styles"
  | convertFile => "/convert"
  | convertText => "/convert/text"

def method : Route → String
  | health | styles => "GET"
  | convertFile | convertText => "POST"

def plainPath (path : String) : String :=
  let bare := path.toList.takeWhile fun c => c ≠ '?' && c ≠ '#'
  String.ofList (bare.reverse.dropWhile (· = '/')).reverse

def ofPath? (path : String) : Option Route :=
  all.find? (·.path = plainPath path)

end Route

end DocPress.Service
