import DocPress.Command.Run

/-! An attempt to convert a file, taken apart along its steps: a step ends the attempt, or what it comes to
goes to the step behind it. -/

namespace DocPress.Command
open DocPress.Text (PathName)

section Steps

variable {ε δ α β : Type} {x : Except ε α} {next : α → Except ε β} {f : ε → δ}

theorem bind_ok {b : β} : x >>= next = .ok b ↔ ∃ a, x = .ok a ∧ next a = .ok b := by
  cases x <;> simp [bind,Except.bind]

theorem bind_error {e : ε} : x >>= next = .error e ↔ x = .error e ∨ ∃ a, x = .ok a ∧ next a = .error e := by
  cases x <;> simp [bind,Except.bind]

theorem bind_of_error {e : ε} (stops : x = .error e) : x >>= next = .error e := bind_error.mpr (.inl stops)

theorem bind_of_ok {a : α} (done : x = .ok a) : x >>= next = next a := by
  rw [done]
  rfl

theorem mapError_ok {a : α} : x.mapError f = .ok a ↔ x = .ok a := by
  cases x with
  | ok value => constructor <;> (intro same; cases same; rfl)
  | error e => exact iff_of_false nofun nofun

theorem mapError_error {d : δ} : x.mapError f = .error d ↔ ∃ e, x = .error e ∧ f e = d := by
  cases x with
  | ok value => exact iff_of_false nofun nofun
  | error e =>
    constructor
    · intro same
      cases same
      exact ⟨e,rfl,rfl⟩
    · rintro ⟨_,same,rfl⟩
      cases same
      rfl

end Steps

variable {files : Files} {network : Network} {codecs : Text.Codecs} {c : Converter} {a : Arguments}
  {encoding input : String} {source target : PathName} {s : Surroundings}

/-! ### Settings -/

/-- What ends an attempt whose settings are no value. -/
def Stop.ofReadError (path : String) (text : List Char) : Value.ReadError → Stop
  | .malformed wrong position =>
    .report s!"cannot read style config {path}: {Value.ReadError.message text (.malformed wrong position)}"
  | e => .fault (.settings e)

theorem ofReadError_fault {path : String} {text : List Char} {e : Value.ReadError} {fault : Fault} :
    Stop.ofReadError path text e = .fault fault ↔
      ∃ count, e = .tooManyDigits count ∧ fault = .settings (.tooManyDigits count) := by
  cases e <;> simp [Stop.ofReadError,eq_comm]

variable {config : Option String} {path : String}

theorem readSettings_none (absent : nonEmpty? config = none) : readSettings files config = .ok .null := by
  unfold readSettings
  rw [absent]

theorem readSettings_null (given : nonEmpty? config = some path) (null : hasNull path = true) :
    readSettings files config = .error (.fault .nullInPath) := by
  unfold readSettings
  rw [given]
  dsimp only
  rw [if_pos null]

theorem readSettings_some (given : nonEmpty? config = some path) (plain : hasNull path = false) :
    readSettings files config =
      (files.read (PathName.ofString path)).mapError
        (fun e => .report s!"cannot read style config {path}: {e.message}") >>= fun data =>
      (Text.Utf8.decodeFrom 0 data).mapError (.fault ∘ .settingsText) >>= fun cs =>
      (Value.ofJson (String.ofList (Text.unifyLineEnds cs))).mapError
        (.ofReadError path (Text.unifyLineEnds cs)) := by
  unfold readSettings
  rw [given]
  dsimp only
  rw [if_neg (by simp [plain])]
  cases files.read (PathName.ofString path) with
  | error e => rfl
  | ok data =>
    change _ = (Text.Utf8.decodeFrom 0 data).mapError (Stop.fault ∘ Fault.settingsText) >>= _
    dsimp only
    cases Text.Utf8.decodeFrom 0 data with
    | error e => rfl
    | ok cs =>
      change _ = (Value.ofJson (String.ofList (Text.unifyLineEnds cs))).mapError _
      dsimp only
      cases Value.ofJson (String.ofList (Text.unifyLineEnds cs)) with
      | ok value => rfl
      | error e => cases e <;> rfl

/-! ### Conversion -/

/-- What ends an attempt whose conversion comes to nothing. -/
def Stop.ofConversion : ConversionError → Stop
  | .packaging e => .report e.message
  | .fetch found => .fault (.fetch found)

theorem ofConversion_fault {e : ConversionError} {fault : Fault} :
    Stop.ofConversion e = .fault fault ↔ ∃ found, e = .fetch found ∧ fault = .fetch found := by
  cases e <;> simp [Stop.ofConversion,eq_comm]

/-- What comes of writing a document. -/
def saving (files : Files) (path : PathName) (package : Package) (s : Surroundings := .calm) :
    Except Stop Written :=
  (Attempt.of [] ((write path package s).run files)).result

theorem Attempt.of_result_ok {records : List LogRecord} {came : EStateM.Result Stop Files Written} {w : Written} :
    (Attempt.of records came).result = .ok w ↔ came = .ok w (Attempt.of records came).left := by
  cases came <;> simp [Attempt.of]

theorem Attempt.of_result_error {records : List LogRecord} {came : EStateM.Result Stop Files Written}
    {stop : Stop} :
    (Attempt.of records came).result = .error stop ↔ came = .error stop (Attempt.of records came).left := by
  cases came <;> simp [Attempt.of]

theorem of_result (records : List LogRecord) (package : Package) :
    (Attempt.of records ((write target package s).run files)).result =
      saving files target package s := by
  unfold saving
  cases (write target package s).run files <;> rfl

theorem convertFile_result : (convertFile files network codecs c encoding source target s).result =
    readMarkdown files codecs encoding source >>= fun markdown =>
      (c.convert network markdown target.name).result.mapError .ofConversion >>=
        fun package => saving files target package s := by
  unfold convertFile
  cases readMarkdown files codecs encoding source with
  | error stop => rfl
  | ok markdown =>
    dsimp only [bind,Except.bind]
    cases (c.convert network markdown target.name).result with
    | ok package => exact of_result _ package
    | error e => cases e <;> rfl

theorem attempt_result : (attempt files network codecs a input s).result =
    (files.isFile (PathName.ofString input)).mapError (.fault ∘ .file) >>= fun there =>
      if there then readSettings files a.config >>= fun settings =>
        (convertFile files network codecs (.ofSettings settings a.style) a.encoding
          (PathName.ofString input) (targetOf a (PathName.ofString input)) s).result
      else .error (.report s!"file not found: {(PathName.ofString input).toString}") := by
  unfold attempt
  dsimp only
  cases files.isFile (PathName.ofString input) with
  | error e => rfl
  | ok there =>
    cases there with
    | false => rfl
    | true => cases readSettings files a.config <;> rfl

theorem attempt_of_isFile (there : files.isFile (PathName.ofString input) = .ok true) :
    (attempt files network codecs a input s).result =
      readSettings files a.config >>= fun settings =>
        (convertFile files network codecs (.ofSettings settings a.style) a.encoding
          (PathName.ofString input) (targetOf a (PathName.ofString input)) s).result := by
  rw [attempt_result,there]
  rfl

end DocPress.Command
