import DocPress.Service.Request
import DocPress.Service.Response
import DocPress.Text.Encoding

/-!
Answering requests. What is wrong with a request is looked for in a fixed order: the path, the
method, the required field, the look, its settings, the text of the file.
-/

namespace DocPress.Service

inductive Fault where
  | fetch (fault : FetchFault)
  /-- What keeps an upload from being read, but neither its bytes nor a name that is none. -/
  | encoding (error : Text.EncodingError)
  | settings (error : Value.ReadError)
  deriving DecidableEq, Repr

structure Outcome where
  result : Except Fault Response
  log : List LogRecord := []

def refuse (reason : Refusal) : Outcome := ⟨.ok (.refusal reason),[]⟩

def version : String := "0.1.0"

def healthFacts : Value := .object [("status",.string "ok"),("version",.string version)]

def styleFacts : Value := .object [
  ("presets",.array (Preset.all.map fun p => .string p.name)),
  ("default",({} : StyleConfig).toValue)]

def readSettings (text : Option String) : Except (Fault ⊕ Refusal) Value :=
  match text with
  | none => .ok .null
  | some text =>
    match Value.ofJson text with
    | .ok settings => .ok settings
    | .error (.malformed fault _) => .error (.inr (.badSettings fault))
    | .error e => .error (.inl (.settings e))

def render (network : Network) (c : Converter) (markdown name : String) : Outcome :=
  let conversion := c.convert network markdown name
  match conversion.result with
  | .ok package => ⟨.ok (.document name package),conversion.log⟩
  | .error (.fetch fault) => ⟨.error (.fetch fault),conversion.log⟩
  | .error (.packaging _) =>
    ⟨.ok (.refusal .failed),
      conversion.log ++ [.error ("Generation failed for " ++ Text.quoted name)]⟩

def withConverter (r : Request) (f : Converter → Outcome) : Outcome :=
  let style := (r.field? "style").getD Preset.standard.name
  match Preset.ofName style with
  | .error _ => refuse (.unknownStyle style)
  | .ok preset =>
    match readSettings (r.field? "config") with
    | .error (.inl fault) => ⟨.error fault,[]⟩
    | .error (.inr reason) => refuse reason
    | .ok settings =>
      let outcome := f (.ofSettings settings preset)
      { outcome with log := Converter.settingsLog settings preset ++ outcome.log }

def convertFile (network : Network) (codecs : Text.Codecs) (r : Request) : Outcome :=
  match r.file with
  | none => refuse (.missingField "file")
  | some file =>
    withConverter r fun c =>
      let encoding := (r.field? "encoding").getD "utf-8"
      match Text.decodeNamed codecs encoding file.data with
      | .error (.unknown _) | .error (.notText _) | .error (.undecodable _) =>
        refuse (.undecodable encoding)
      | .error e => ⟨.error (.encoding e),[]⟩
      | .ok markdown => render network c markdown (downloadName (some file.arrivingName))

def convertText (network : Network) (r : Request) : Outcome :=
  match r.field? "markdown" with
  | none => refuse (.missingField "markdown")
  | some markdown =>
    withConverter r fun c =>
      render network c markdown (downloadName (some ((r.field? "filename").getD defaultOutputName)))

def answer (network : Network) (codecs : Text.Codecs) (r : Request) : Outcome :=
  match Route.ofPath? r.path with
  | none => refuse .unknownPath
  | some route =>
    if route.method ≠ r.method.map Char.toUpper then refuse .wrongMethod
    else match route with
      | .health => ⟨.ok (.facts healthFacts),[]⟩
      | .styles => ⟨.ok (.facts styleFacts),[]⟩
      | .convertFile => convertFile network codecs r
      | .convertText => convertText network r

end DocPress.Service
