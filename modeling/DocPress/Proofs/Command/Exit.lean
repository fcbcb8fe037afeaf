import DocPress.Proofs.Command.Arguments
import DocPress.Proofs.Command.Saving
import DocPress.Proofs.Picture.Fetch

/-! How a run of the program ends: with an exit code and a report, or with a fault that nothing reports.
Main statement: the faults that get out, and that all else is reported (`run_exit`). -/

namespace DocPress.Command
open DocPress.Text (PathName)

variable {files : Files} {network : Network} {codecs : Text.Codecs} {a : Arguments}
  {input path encoding : String} {source target : PathName} {c : Converter} {fault : Fault}
  {s : Surroundings}

/-- The settings at a path bring about a fault that is not reported. -/
inductive SettingsEscape (files : Files) (path : String) : Fault → Prop where
  | nullInPath (null : hasNull path = true) : SettingsEscape files path .nullInPath
  | notText (plain : hasNull path = false) {data : List UInt8} {error : Text.DecodeError}
      (found : files.read (PathName.ofString path) = .ok data)
      (unread : Text.Utf8.decodeFrom 0 data = .error error) :
      SettingsEscape files path (.settingsText error)
  | longNumber (plain : hasNull path = false) {data : List UInt8} {cs : List Char} {count : Nat}
      (found : files.read (PathName.ofString path) = .ok data)
      (decoded : Text.Utf8.decodeFrom 0 data = .ok cs)
      (unread : Value.ofJson (String.ofList (Text.unifyLineEnds cs)) = .error (.tooManyDigits count)) :
      SettingsEscape files path (.settings (.tooManyDigits count))

/-- The conversion of a file brings about a fault that is not reported: of its encoding, but not of
bytes that the encoding does not have; of a picture; or of the path of the document. -/
inductive ConversionEscape (files : Files) (network : Network) (codecs : Text.Codecs) (c : Converter)
    (encoding : String) (source target : PathName) : Fault → Prop where
  | encoding {data : List UInt8} {error : Text.EncodingError} (found : files.read source = .ok data)
      (unread : Text.decodeFileNamed codecs encoding data = .error error)
      (apart : ∀ e, error ≠ .undecodable e) :
      ConversionEscape files network codecs c encoding source target (.encoding error)
  | picture {markdown url : String} {fault : FetchFault}
      (read : readMarkdown files codecs encoding source = .ok markdown)
      (shown : (Markdown.parse markdown).Shows url) (aborts : Aborts network url fault) :
      ConversionEscape files network codecs c encoding source target (.fetch fault)
  | nullInPath {markdown : String} {package : Package}
      (read : readMarkdown files codecs encoding source = .ok markdown)
      (converted : (c.convert network markdown target.name).result = .ok package)
      (null : NullEnds files target) :
      ConversionEscape files network codecs c encoding source target .nullInPath

/-- What is asked for brings about a fault that is not reported. -/
inductive Escapes (files : Files) (network : Network) (codecs : Text.Codecs) (a : Arguments)
    (input : String) : Fault → Prop where
  | input {e : FileError} (plain : hasNull (PathName.ofString input).toString = false)
      (unread : files.read (PathName.ofString input) = .error e)
      (long : e.fault = .nameTooLong) : Escapes files network codecs a input (.file e)
  | settings (there : files.isFile (PathName.ofString input) = .ok true) {path : String} {fault : Fault}
      (given : nonEmpty? a.config = some path) (escape : SettingsEscape files path fault) :
      Escapes files network codecs a input fault
  | conversion (there : files.isFile (PathName.ofString input) = .ok true) {settings : Value}
      {fault : Fault} (read : readSettings files a.config = .ok settings)
      (escape : ConversionEscape files network codecs (.ofSettings settings a.style) a.encoding
        (PathName.ofString input) (targetOf a (PathName.ofString input)) fault) :
      Escapes files network codecs a input fault

theorem isFile_error {e : FileError} : files.isFile source = .error e ↔
    hasNull source.toString = false ∧ files.read source = .error e ∧ e.fault = .nameTooLong := by
  unfold Files.isFile
  cases hasNull source.toString with
  | true => simp
  | false =>
    rw [if_neg (by decide)]
    cases files.read source with
    | ok data => simp
    | error found =>
      dsimp only
      by_cases long : found.fault = .nameTooLong
      · rw [if_pos long]
        constructor
        · intro same
          cases same
          exact ⟨rfl,rfl,long⟩
        · rintro ⟨-,same,-⟩
          cases same
          rfl
      · rw [if_neg long]
        refine ⟨nofun,?_⟩
        rintro ⟨-,same,other⟩
        cases same
        exact absurd other long

theorem settingsEscape_of_fault {config : Option String} (given : nonEmpty? config = some path)
    (ended : readSettings files config = .error (.fault fault)) : SettingsEscape files path fault := by
  cases null : hasNull path with
  | true =>
    cases (readSettings_null given null).symm.trans ended
    exact .nullInPath null
  | false =>
    rw [readSettings_some given null] at ended
    rcases bind_error.mp ended with missing | ⟨data,found,ended⟩
    · obtain ⟨_,-,same⟩ := mapError_error.mp missing
      cases same
    have found := mapError_ok.mp found
    rcases bind_error.mp ended with undecoded | ⟨cs,decoded,ended⟩
    · obtain ⟨error,unread,same⟩ := mapError_error.mp undecoded
      cases same
      exact .notText null found unread
    · obtain ⟨_,unread,same⟩ := mapError_error.mp ended
      obtain ⟨count,rfl,rfl⟩ := ofReadError_fault.mp same
      exact .longNumber null found (mapError_ok.mp decoded) unread

theorem SettingsEscape.ends {config : Option String} (given : nonEmpty? config = some path)
    (escape : SettingsEscape files path fault) : readSettings files config = .error (.fault fault) := by
  cases escape with
  | nullInPath null => exact readSettings_null given null
  | @notText plain data error found unread =>
    rw [readSettings_some given plain,bind_of_ok (mapError_ok.mpr found)]
    exact bind_of_error (mapError_error.mpr ⟨error,unread,rfl⟩)
  | @longNumber plain data cs count found decoded unread =>
    rw [readSettings_some given plain,bind_of_ok (mapError_ok.mpr found),
      bind_of_ok (mapError_ok.mpr decoded)]
    exact mapError_error.mpr ⟨_,unread,ofReadError_fault.mpr ⟨count,rfl,rfl⟩⟩

theorem readSettings_fault {config : Option String} : readSettings files config = .error (.fault fault) ↔
    ∃ path, nonEmpty? config = some path ∧ SettingsEscape files path fault := by
  constructor
  · intro ended
    cases given : nonEmpty? config with
    | none => cases (readSettings_none given).symm.trans ended
    | some path => exact ⟨path,rfl,settingsEscape_of_fault given ended⟩
  · rintro ⟨path,given,escape⟩
    exact escape.ends given

theorem readMarkdown_fault : readMarkdown files codecs encoding source = .error (.fault fault) ↔
    ∃ data error, files.read source = .ok data ∧
      Text.decodeFileNamed codecs encoding data = .error error ∧
        (∀ e, error ≠ .undecodable e) ∧ fault = .encoding error := by
  unfold readMarkdown
  cases files.read source with
  | error e => simp
  | ok data =>
    cases decoded : Text.decodeFileNamed codecs encoding data with
    | ok text => simp [decoded]
    | error e => cases e <;> simp [decoded,eq_comm (a := fault)]

theorem convert_result {markdown name : String} : (c.convert network markdown name).result =
    (resolveImages network (Markdown.parse markdown)).cache.mapError .fetch >>= fun cache =>
      (encode (c.layOut cache (titleOf name) (Markdown.parse markdown))).result.mapError .packaging := by
  unfold Converter.convert
  dsimp only
  generalize Markdown.parse markdown = doc
  generalize resolveImages network doc = images
  obtain ⟨cache,log,requests⟩ := images
  cases cache with
  | error fault => rfl
  | ok cache =>
    have kept : (Except.ok cache : Except FetchFault ImageCache).mapError ConversionError.fetch =
      .ok cache := rfl
    simp only [kept,bind,Except.bind]

theorem convert_fetch {markdown name : String} {fault : FetchFault}
    (ended : (c.convert network markdown name).result = .error (.fetch fault)) :
    ∃ url, (Markdown.parse markdown).Shows url ∧ Aborts network url fault := by
  rw [convert_result] at ended
  rcases bind_error.mp ended with unfetched | ⟨cache,-,unwritten⟩
  · obtain ⟨_,resolved,same⟩ := mapError_error.mp unfetched
    cases same
    exact resolveImages_error resolved
  · obtain ⟨_,-,same⟩ := mapError_error.mp unwritten
    cases same

theorem convert_aborts {markdown name url : String} {fault : FetchFault}
    (shown : (Markdown.parse markdown).Shows url) (aborts : Aborts network url fault) :
    ∃ fault, (c.convert network markdown name).result = .error (.fetch fault) := by
  rw [convert_result]
  cases resolved : (resolveImages network (Markdown.parse markdown)).cache with
  | error fault => exact ⟨fault,rfl⟩
  | ok cache => exact absurd aborts ((resolveImages_ok resolved).1 url fault shown)

theorem convertFile_fault (ended : (convertFile files network codecs c encoding source target s).result =
    .error (.fault fault)) : ConversionEscape files network codecs c encoding source target fault := by
  rw [convertFile_result] at ended
  rcases bind_error.mp ended with unread | ⟨markdown,read,ended⟩
  · obtain ⟨data,error,found,undecoded,apart,rfl⟩ := readMarkdown_fault.mp unread
    exact .encoding found undecoded apart
  rcases bind_error.mp ended with unconverted | ⟨package,converted,unwritten⟩
  · obtain ⟨_,failed,same⟩ := mapError_error.mp unconverted
    obtain ⟨found,rfl,rfl⟩ := ofConversion_fault.mp same
    obtain ⟨url,shown,aborts⟩ := convert_fetch failed
    exact .picture read shown aborts
  · obtain ⟨null,rfl⟩ := saving_fault.mp unwritten
    exact .nullInPath read (mapError_ok.mp converted) null

theorem convertFile_escapes
    (escape : ConversionEscape files network codecs c encoding source target fault) :
    ∃ fault, (convertFile files network codecs c encoding source target s).result =
      .error (.fault fault) := by
  rw [convertFile_result]
  cases escape with
  | @encoding data error found unread apart =>
    exact ⟨_,bind_of_error (readMarkdown_fault.mpr ⟨data,error,found,unread,apart,rfl⟩)⟩
  | @picture markdown url fault read shown aborts =>
    obtain ⟨found,failed⟩ := convert_aborts (c := c) shown aborts
    rw [bind_of_ok read]
    exact ⟨_,bind_of_error (mapError_error.mpr ⟨_,failed,ofConversion_fault.mpr ⟨found,rfl,rfl⟩⟩)⟩
  | @nullInPath markdown package read converted null =>
    rw [bind_of_ok read,bind_of_ok (mapError_ok.mpr converted)]
    exact ⟨_,saving_fault.mpr ⟨null,rfl⟩⟩

theorem attempt_fault (ended : (attempt files network codecs a input s).result = .error (.fault fault)) :
    Escapes files network codecs a input fault := by
  rw [attempt_result] at ended
  rcases bind_error.mp ended with unseen | ⟨there,seen,ended⟩
  · obtain ⟨e,failed,same⟩ := mapError_error.mp unseen
    cases same
    obtain ⟨plain,unread,long⟩ := isFile_error.mp failed
    exact .input plain unread long
  have seen := mapError_ok.mp seen
  cases there with
  | false => cases ended
  | true =>
    rcases bind_error.mp ended with unread | ⟨settings,read,ended⟩
    · obtain ⟨path,given,escape⟩ := readSettings_fault.mp unread
      exact .settings seen given escape
    · exact .conversion seen read (convertFile_fault ended)

theorem attempt_escapes (escape : Escapes files network codecs a input fault) :
    ∃ fault, (attempt files network codecs a input s).result = .error (.fault fault) := by
  cases escape with
  | input plain unread long =>
    rw [attempt_result,isFile_error.mpr ⟨plain,unread,long⟩]
    exact ⟨_,rfl⟩
  | settings there given escape =>
    rw [attempt_of_isFile there]
    exact ⟨_,bind_of_error (readSettings_fault.mpr ⟨_,given,escape⟩)⟩
  | conversion there read escape =>
    rw [attempt_of_isFile there,bind_of_ok read]
    exact convertFile_escapes escape

/-- The last thing that is printed is a line on an error. -/
def Outcome.Reports (o : Outcome) : Prop :=
  ∃ (lines : List String) (text : String),
    o.stderr = String.join (lines.map (· ++ "\n")) ++ s!"Error: {text}\n"

variable {t : Attempt} {verbose : Bool} {sizeOf : Package → String} {w : Written} {text : String}

/-- Something around a run ends it, as it asks for the size of a file or prints a text. -/
def Surroundings.Stops (s : Surroundings) (fault : Fault) : Prop :=
  (∃ place, s.sizing place = some fault) ∨ ∃ text, s.printing text = some fault

/-- What is around a run has ended it. -/
def Outcome.Stopped (o : Outcome) (s : Surroundings) : Prop := ∃ fault, o.exit = .error fault ∧ s.Stops fault

theorem calm_stops : ¬ Surroundings.calm.Stops fault := by
  rintro (⟨place,ended⟩ | ⟨text,ended⟩) <;> cases ended

theorem print_exit (text : String) (o : Outcome) :
    (o.print s text).exit = (s.printing text).elim o.exit .error := by
  unfold Outcome.print
  cases s.printing text <;> rfl

@[simp] theorem print_written (text : String) (o : Outcome) : (o.print s text).written = o.written := by
  unfold Outcome.print
  cases s.printing text <;> rfl

@[simp] theorem print_left (text : String) (o : Outcome) : (o.print s text).left = o.left := by
  unfold Outcome.print
  cases s.printing text <;> rfl

theorem outcome_exit_of_ok (done : t.result = .ok w) : (t.outcome verbose sizeOf s).exit =
    ((s.sizing w.place).or (s.printing s!"Converted: {w.path.toString}\n")).elim (.ok 0) .error := by
  unfold Attempt.outcome
  rw [done]
  dsimp only
  cases s.sizing w.place with
  | some fault => rfl
  | none => exact print_exit _ _

theorem outcome_exit_of_fault (stopped : t.result = .error (.fault fault)) :
    (t.outcome verbose sizeOf s).exit = .error fault := by
  unfold Attempt.outcome
  rw [stopped]

theorem outcome_ok_or_stopped (verbose : Bool) (sizeOf : Package → String) (s : Surroundings)
    (done : t.result = .ok w) :
    (t.outcome verbose sizeOf s).exit = .ok 0 ∨ (t.outcome verbose sizeOf s).Stopped s := by
  unfold Outcome.Stopped
  rw [outcome_exit_of_ok done]
  cases sized : s.sizing w.place with
  | some fault => exact .inr ⟨fault,rfl,.inl ⟨w.place,sized⟩⟩
  | none =>
    cases printed : s.printing s!"Converted: {w.path.toString}\n" with
    | some fault => exact .inr ⟨fault,rfl,.inr ⟨_,printed⟩⟩
    | none => exact .inl rfl

theorem outcome_reports_or_stopped (verbose : Bool) (sizeOf : Package → String) (s : Surroundings)
    (failed : t.result = .error (.report text)) :
    (t.outcome verbose sizeOf s).exit = .ok 1 ∧ (t.outcome verbose sizeOf s).Reports ∨
      (t.outcome verbose sizeOf s).Stopped s := by
  unfold Attempt.outcome
  rw [failed]
  dsimp only
  cases printed : s.printing s!"Error: {text}\n" with
  | some fault => exact .inr ⟨fault,rfl,.inr ⟨_,printed⟩⟩
  | none =>
    let least := if verbose then LogLevel.debug.rank else LogLevel.info.rank
    refine .inl ⟨rfl,(t.records.filter fun r => least ≤ r.level.rank).map LogRecord.line,text,?_⟩
    rw [List.map_map]
    rfl

theorem outcome_exit (t : Attempt) (verbose : Bool) (sizeOf : Package → String) (s : Surroundings) :
    match (t.outcome verbose sizeOf s).exit with
    | .error fault => t.result = .error (.fault fault) ∨ s.Stops fault
    | .ok code => (∀ fault, t.result ≠ .error (.fault fault)) ∧
        (code = 0 ∨ code = 1 ∧ (t.outcome verbose sizeOf s).Reports) := by
  cases result : t.result with
  | ok w =>
    rcases outcome_ok_or_stopped verbose sizeOf s result with ended | ⟨fault,ended,stops⟩ <;> rw [ended]
    · exact ⟨by simp,.inl rfl⟩
    · exact .inr stops
  | error stop =>
    cases stop with
    | fault found =>
      rw [outcome_exit_of_fault result]
      exact .inl rfl
    | report text =>
      rcases outcome_reports_or_stopped verbose sizeOf s result with ⟨ended,reports⟩ | ⟨_,ended,stops⟩ <;>
        rw [ended]
      · exact ⟨by simp,.inr ⟨rfl,reports⟩⟩
      · exact .inr stops

theorem outcome_ok : (t.outcome verbose sizeOf s).exit = .ok 0 ↔ ∃ w, t.result = .ok w ∧
    s.sizing w.place = none ∧ s.printing s!"Converted: {w.path.toString}\n" = none := by
  cases result : t.result with
  | ok w =>
    rw [outcome_exit_of_ok result]
    simp only [Except.ok.injEq,exists_eq_left',← Option.or_eq_none_iff]
    generalize Option.or _ _ = ended
    cases ended <;> simp
  | error stop =>
    cases stop with
    | fault found => simp [outcome_exit_of_fault result]
    | report text =>
      rcases outcome_reports_or_stopped verbose sizeOf s result with ⟨ended,-⟩ | ⟨fault,ended,-⟩ <;> simp [ended]

/-- Where nothing fails around it, a run ends well once it has its document. -/
theorem outcome_done : (t.outcome verbose sizeOf).exit = .ok 0 ↔ ∃ w, t.result = .ok w := by
  rw [outcome_ok]
  exact exists_congr fun w => and_iff_left ⟨rfl,rfl⟩

theorem outcome_written : (t.outcome verbose sizeOf s).written = some w ↔
    t.result = .ok w ∧ s.writing w.place ≠ .swallowed := by
  unfold Attempt.outcome
  cases t.result with
  | ok found =>
    have shown : (if s.writing found.place = .swallowed then none else some found) = some w ↔
        (Except.ok found : Except Stop Written) = .ok w ∧ s.writing w.place ≠ .swallowed := by
      by_cases lost : s.writing found.place = .swallowed <;> grind
    dsimp only
    cases s.sizing found.place with
    | some fault => exact shown
    | none => rwa [print_written]
  | error stop =>
    cases stop with
    | fault found => simp
    | report text =>
      dsimp only
      cases s.printing s!"Error: {text}\n" <;> simp

theorem outcome_left : (t.outcome verbose sizeOf s).left = t.left := by
  unfold Attempt.outcome
  cases t.result with
  | ok w =>
    dsimp only
    cases s.sizing w.place with
    | some fault => rfl
    | none => exact print_left _ _
  | error stop =>
    cases stop with
    | fault found => rfl
    | report text =>
      dsimp only
      cases s.printing s!"Error: {text}\n" <;> rfl

theorem Converts.run {args : List String} (asked : Converts args a input) :
    run files network codecs sizeOf args s =
      (attempt files network codecs a input s).outcome a.verbose sizeOf s := by
  unfold Command.run
  rw [asked.parsed]
  dsimp only
  rw [if_neg (by simp [asked.converting]),asked.named]

/-- A run that has no file to convert. -/
structure Outcome.Idle (o : Outcome) (files : Files) (s : Surroundings) : Prop where
  ends : o.exit = .ok 0 ∨ (o.exit = .ok 2 ∧ ∃ m : Misuse, o.stderr = m.report) ∨ o.Stopped s
  unwritten : o.written = none
  left : o.left = files

theorem print_idle (s : Surroundings) (files : Files) (text : String) :
    (Outcome.print s text { exit := .ok 0,left := files }).Idle files s where
  ends := by
    unfold Outcome.Stopped
    rw [print_exit]
    cases printed : s.printing text with
    | none => exact .inl rfl
    | some fault => exact .inr (.inr ⟨fault,rfl,.inr ⟨text,printed⟩⟩)
  unwritten := print_written _ _
  left := print_left _ _

theorem misuse_idle (files : Files) (s : Surroundings) (m : Misuse) :
    Outcome.Idle { exit := .ok 2,stderr := m.report,left := files } files s :=
  ⟨.inr (.inl ⟨rfl,m,rfl⟩),rfl,rfl⟩

/-- Where no conversion is asked for, a text is printed, or what is wrong with the command line, and that is
all. -/
theorem run_without (files : Files) (network : Network) (codecs : Text.Codecs)
    (sizeOf : Package → String) {args : List String} (s : Surroundings)
    (other : ∀ a input, ¬ Converts args a input) :
    (run files network codecs sizeOf args s).Idle files s := by
  unfold run
  cases parsed : Arguments.parse args with
  | error halt =>
    cases halt with
    | misuse m => exact misuse_idle files s m
    | help => exact print_idle s files _
    | version => exact print_idle s files _
  | ok a =>
    dsimp only
    by_cases listing : a.listStyles = true
    · rw [if_pos listing]
      exact print_idle s files _
    · rw [if_neg listing]
      cases named : nonEmpty? a.input with
      | none => exact misuse_idle files s _
      | some input => exact absurd ⟨parsed,by simpa using listing,named⟩ (other a input)

/-- A run ends with a fault that is not reported if what is asked for has one, or if what is around the run
ends it. Otherwise it ends with the code 0, with 1 and a line on an error, or with 2 and a report on the misuse
of the command line. -/
theorem run_exit (files : Files) (network : Network) (codecs : Text.Codecs) (sizeOf : Package → String)
    (args : List String) (s : Surroundings) :
    match (run files network codecs sizeOf args s).exit with
    | .error fault =>
      (∃ a input, Converts args a input ∧ Escapes files network codecs a input fault) ∨ s.Stops fault
    | .ok code =>
      (∀ a input fault, Converts args a input → ¬ Escapes files network codecs a input fault) ∧
        (code = 0 ∨ code = 1 ∧ (run files network codecs sizeOf args s).Reports ∨
          code = 2 ∧ ∃ m : Misuse, (run files network codecs sizeOf args s).stderr = m.report) := by
  by_cases asks : ∃ a input, Converts args a input
  · obtain ⟨a,input,asked⟩ := asks
    have whole := outcome_exit (attempt files network codecs a input s) a.verbose sizeOf s
    rw [asked.run]
    cases ended : ((attempt files network codecs a input s).outcome a.verbose sizeOf s).exit with
    | error fault =>
      rw [ended] at whole
      exact whole.imp_left fun stopped => ⟨a,input,asked,attempt_fault stopped⟩
    | ok code =>
      rw [ended] at whole
      obtain ⟨calm,ends⟩ := whole
      refine ⟨fun b other fault again escape => ?_,ends.imp_right .inl⟩
      obtain ⟨rfl,rfl⟩ := asked.unique again
      obtain ⟨found,stopped⟩ := attempt_escapes escape
      exact calm found stopped
  · have other (a : Arguments) (input : String) : ¬ Converts args a input :=
      fun asked => asks ⟨a,input,asked⟩
    rcases (run_without files network codecs sizeOf s other).ends with
      shown | ⟨refused,m,report⟩ | ⟨fault,ended,stops⟩
    · rw [shown]
      exact ⟨fun a input _ asked => absurd asked (other a input),.inl rfl⟩
    · rw [refused]
      exact ⟨fun a input _ asked => absurd asked (other a input),.inr (.inr ⟨rfl,m,report⟩)⟩
    · rw [ended]
      exact .inr stops

/-- The name of an encoding that there is none of ends a run without a report. -/
theorem run_unknownEncoding :
    (run { contents := [(["l.md"],[0x78])] } (fun _ => .timeout) .bare (fun _ => "")
      ["l.md","-e","no-such-enc"]).exit.toOption = none := by
  decide +kernel

end DocPress.Command
