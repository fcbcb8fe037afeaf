import DocPress.Picture.Offline
import DocPress.Proofs.Command.Conversion
import DocPress.Proofs.Text.Encoding
import DocPress.Service.Answer

/-! A file that is converted in its directory, and the same file that is sent to the service. Main
statement: the one comes to a document if the other does, and to the same document, where the file is
read as its bytes are; where it is not, they do not both come to one (`run_agrees_answer`). -/

namespace DocPress
open Text (IsFileName PathName ReadApart SystemApart)

variable {name : String}

namespace Service

variable {network : Network} {codecs : Text.Codecs} {style : Preset} {r : Request} {encoding config : String}
  {content : List UInt8} {response : Response}

/-- The request sends a file, which arrives under its name, to be converted to a look with settings. -/
structure Uploads (r : Request) (name : String) (content : List UInt8) (style : Preset)
    (encoding config : String) : Prop where
  method : r.method = "POST"
  path : r.path = "/convert"
  style : r.field? "style" = some style.name
  encoding : r.field? "encoding" = some encoding
  config : r.field? "config" = some config
  file : ∃ upload, r.file = some upload ∧ upload.arrivingName = name ∧ upload.data = content

theorem downloadName_of_isFileName (isName : IsFileName name) :
    downloadName (some name) = documentName name := by
  have some := Text.stemOf_some isName.some
  unfold downloadName orElse
  simp [PathName.ofString_of_isFileName isName,PathName.stem,PathName.name,isName.some,some,documentName]

theorem render_ok {c : Converter} {markdown outputName : String} :
    (render network c markdown outputName).result = .ok response ∧ response.status = 200 ↔ ∃ package,
      (c.convert network markdown outputName).result = .ok package ∧
        response = .document outputName package := by
  unfold render
  dsimp only
  cases converted : (c.convert network markdown outputName).result with
  | ok package =>
    dsimp only
    constructor
    · rintro ⟨same,-⟩
      cases same
      exact ⟨package,rfl,rfl⟩
    · rintro ⟨_,same,rfl⟩
      cases same
      exact ⟨rfl,rfl⟩
  | error e =>
    cases e with
    | fetch => exact iff_of_false nofun nofun
    | packaging =>
      refine iff_of_false ?_ nofun
      rintro ⟨same,success⟩
      cases same
      cases success

theorem parsed_ok {value : Value} :
    readSettings (some config) = .ok value ↔ Value.ofJson config = .ok value := by
  unfold readSettings
  cases parsed : Value.ofJson config with
  | ok => simp [parsed]
  | error e => cases e <;> simp [parsed]

theorem refused (reason : Refusal) : ¬ ((refuse reason).result = .ok response ∧ response.status = 200) := by
  rintro ⟨same,success⟩
  cases same
  cases reason <;> cases success

theorem withConverter_ok {f : Converter → Outcome} (hasStyle : r.field? "style" = some style.name)
    (hasConfig : r.field? "config" = some config) :
    (withConverter r f).result = .ok response ∧ response.status = 200 ↔ ∃ value,
      Value.ofJson config = .ok value ∧
        (f (.ofSettings value style)).result = .ok response ∧ response.status = 200 := by
  have known : Preset.ofName style.name = .ok style := by cases style <;> rfl
  unfold withConverter
  simp only [hasStyle,hasConfig,Option.getD_some,known,← parsed_ok]
  cases readSettings (some config) with
  | error e =>
    refine iff_of_false ?_ nofun
    cases e with
    | inl fault => exact nofun
    | inr reason => exact refused reason
  | ok value =>
    constructor
    · intro answered
      exact ⟨value,rfl,answered⟩
    · rintro ⟨_,same,answered⟩
      cases same
      exact answered

theorem convertFile_ok (isName : IsFileName name) (uploads : Uploads r name content style encoding config) :
    (convertFile network codecs r).result = .ok response ∧ response.status = 200 ↔ ∃ value,
      Value.ofJson config = .ok value ∧ ∃ text, Text.decodeNamed codecs encoding content = .ok text ∧
        (render network (.ofSettings value style) text (documentName name)).result = .ok response ∧
          response.status = 200 := by
  obtain ⟨upload,sent,arrives,rfl⟩ := uploads.file
  unfold convertFile
  rw [sent]
  dsimp only
  rw [withConverter_ok uploads.style uploads.config]
  simp only [uploads.encoding,Option.getD_some,arrives,downloadName_of_isFileName isName]
  refine exists_congr fun value => and_congr_right fun _ => ?_
  cases Text.decodeNamed codecs encoding upload.data with
  | error e =>
    refine iff_of_false ?_ nofun
    cases e with
    | unknown | notText | undecodable => exact refused _
    | nullInName | noByteOrderMark | failed => exact nofun
  | ok text =>
    constructor
    · intro answered
      exact ⟨text,rfl,answered⟩
    · rintro ⟨_,same,answered⟩
      cases same
      exact answered

theorem answer_upload (uploads : Uploads r name content style encoding config) :
    answer network codecs r = convertFile network codecs r := by
  have route : Route.ofPath? r.path = some .convertFile := by
    rw [uploads.path]
    decide
  have posts : ¬ Route.convertFile.method ≠ r.method.map Char.toUpper := by
    rw [uploads.method,not_not,← String.toList_inj,String.toList_map]
    decide
  unfold answer
  rw [route]
  dsimp only
  rw [if_neg posts]

/-- The service answers with a document if the file becomes one. -/
theorem answer_ok (isName : IsFileName name) (uploads : Uploads r name content style encoding config) :
    (answer network codecs r).result = .ok response ∧ response.status = 200 ↔ ∃ package,
      Yields network style config name (Text.decodeNamed codecs encoding content) package ∧
        response = .document (documentName name) package := by
  rw [answer_upload uploads,convertFile_ok isName uploads]
  simp only [render_ok]
  constructor
  · rintro ⟨value,parsed,text,decoded,package,converted,same⟩
    exact ⟨package,⟨value,text,parsed,decoded,converted⟩,same⟩
  · rintro ⟨package,⟨value,text,parsed,decoded,converted⟩,same⟩
    exact ⟨value,parsed,text,decoded,package,converted,same⟩

end Service

open Command (Asks Files configuredFolder run)
open Service (Uploads answer)

/-- A run ends with the code 0 when the service answers with success, and writes the document that the
service answers with. -/
structure Agrees (input : String) (ran : Command.Outcome) (answered : Service.Outcome) : Prop where
  success : ran.exit = .ok 0 ↔
    ∃ response, answered.result = .ok response ∧ response.status = 200
  document : ∀ response, ran.exit = .ok 0 → answered.result = .ok response →
    ∃ written, ran.written = some written ∧
      response = .document (documentName input) written.package

section Agreement

variable {input settings encoding config : String} {style : Preset} {content : List UInt8}
  {args : List String} {a : Command.Arguments} {r : Service.Request} (network : Network)
  (codecs : Text.Codecs) (sizeOf : Package → String) (isName : IsFileName input)
  (isSettings : IsFileName settings)
  (other : settings ≠ input) (short : input.utf8ByteSize ≤ Files.maxNameLength)
  (shortSettings : settings.utf8ByteSize ≤ Files.maxNameLength)
  (asks : Asks args input style encoding settings a)
  (uploads : Uploads r input content style encoding config)

include isName isSettings other short shortSettings asks uploads

/-- In a directory with a file and its settings, the file is converted if the service converts it, and to
the same document, where the file is read as its bytes are and the name of the document is not too long. -/
theorem run_alike_answer (shortDocument : (documentName input).utf8ByteSize ≤ Files.maxNameLength)
    (alike : ¬ ReadApart codecs encoding content) :
    Agrees input (run (configuredFolder input settings config content) network codecs sizeOf args)
      (answer network codecs r) := by
  have same {package : Package} :
      Yields network style config input (Text.decodeFileNamed codecs encoding content) package ↔
        Yields network style config input (Text.decodeNamed codecs encoding content) package := by
    simp only [Yields,Text.decodeFileNamed_alike alike]
  obtain ⟨ends,writes⟩ := Command.run_ok network codecs sizeOf isName isSettings other short shortSettings asks
  refine ⟨ends.trans ⟨?_,?_⟩,?_⟩
  · rintro ⟨-,package,yields⟩
    exact ⟨_,(Service.answer_ok isName uploads).mpr ⟨package,same.mp yields,rfl⟩⟩
  · rintro ⟨response,answers⟩
    obtain ⟨package,yields,-⟩ := (Service.answer_ok isName uploads).mp answers
    exact ⟨shortDocument,package,same.mpr yields⟩
  · intro response ended answers
    obtain ⟨-,package,yields⟩ := ends.mp ended
    have document := ((Service.answer_ok isName uploads).mpr ⟨package,same.mp yields,rfl⟩).1
    cases answers.symm.trans document
    exact ⟨_,writes package shortDocument yields,rfl⟩

/-- Otherwise the file is not converted by both, but for codecs of the system. -/
theorem run_apart_answer (apart :
    ReadApart codecs encoding content ∧ ¬ SystemApart codecs encoding content ∨
      Files.maxNameLength < (documentName input).utf8ByteSize) :
    ¬ ((run (configuredFolder input settings config content) network codecs sizeOf args).exit = .ok 0 ∧
      ∃ response, (answer network codecs r).result = .ok response ∧ response.status = 200) := by
  rintro ⟨ended,response,answers⟩
  obtain ⟨ends,-⟩ := Command.run_ok network codecs sizeOf isName isSettings other short shortSettings asks
  obtain ⟨fits,_,_,_,-,file,-⟩ := ends.mp ended
  obtain ⟨_,⟨_,_,-,bytes,-⟩,-⟩ := (Service.answer_ok isName uploads).mp answers
  rcases apart with ⟨apart,known⟩ | long
  · exact apart.notBoth known file bytes
  · exact absurd fits (Nat.not_le.mpr long)

end Agreement

/-- A request that sends a file under its name. -/
def upload (name : String) (content : List UInt8) (style : Preset) (encoding config : String) :
    Service.Request where
  method := "POST"
  path := "/convert"
  form := [("style",style.name),("encoding",encoding),("config",config)]
  file := some ⟨name,content⟩

theorem toOption_eq_some {ε α : Type} {x : Except ε α} {v : α} : x.toOption = some v ↔ x = .ok v := by
  cases x <;> simp [Except.toOption]

/-- A heading and a line behind it, with a carriage return and a line feed at the end of each. -/
def note : List UInt8 := Text.Utf8.encode "# Note\r\n*caf\u00e9*\r\n"

/-- The exit code for a file without settings of its own, and the status of what the service answers. -/
def conversions (content : List UInt8) (encoding : String) : Option Nat × Option Nat :=
  let args := Command.commandLine "a.md" .standard encoding "s.json"
  let ran := run (configuredFolder "a.md" "s.json" "\x7b\x7d" content) .offline .bare (fun _ => "") args
  let answered := (answer .offline .bare (upload "a.md" content .standard encoding "\x7b\x7d")).result
  (ran.exit.toOption,answered.toOption.map Service.Response.status)

example : conversions [] "nosuch" = (none,some 200) := by decide +kernel

example : conversions [0x61,0] "utf-16" = (none,some 200) := by decide +kernel

example : conversions [0xEF,0xBB] "utf-8-sig" = (some 0,some 422) := by decide +kernel

end DocPress
