import DocPress.Package.Part
import DocPress.Proofs.Command.Conversion
import DocPress.Proofs.Command.Frame

/-! What a run changes among the files, whatever is around it. Main statement: a run that does not convert its
input changes no file unless it has come to writing its document, and none changes another one (`run_changes`). -/

namespace DocPress.Command
open DocPress.Text (PathName)

variable {files : Files} {network : Network} {codecs : Text.Codecs} {sizeOf : Package → String}
  {args : List String} {a : Arguments} {c : Converter} {input encoding : String} {source target : PathName}
  {package : Package} {t : Attempt} {w : Written} {verbose : Bool} {comes more : Package → Prop}
  {s : Surroundings}

/-- The input that is asked for, as it stands in these files, becomes a document. -/
def Becomes (files : Files) (network : Network) (codecs : Text.Codecs) (a : Arguments) (input : String)
    (package : Package) : Prop :=
  let source := PathName.ofString input
  ∃ data text settings, files.read source = .ok data ∧ Text.decodeFileNamed codecs a.encoding data = .ok text ∧
    readSettings files a.config = .ok settings ∧
      ((Converter.ofSettings settings a.style).convert network text (targetOf a source).name).result = .ok package

/-! ### Attempts -/

/-- How an attempt goes: something stops it before anything is done, or it comes to writing a document. -/
inductive Attempt.Goes (s : Surroundings) (files : Files) (target : PathName) (comes : Package → Prop) :
    Attempt → Prop where
  | stops (records : List LogRecord) (stop : Stop) : Goes s files target comes ⟨records,.error stop,files⟩
  | writes (records : List LogRecord) {package : Package} (come : comes package) :
      Goes s files target comes (.of records ((write target package s).run files))

theorem Attempt.Goes.mono (goes : t.Goes s files target comes)
    (more_of : ∀ package, comes package → more package) : t.Goes s files target more := by
  cases goes with
  | stops records stop => exact .stops records stop
  | writes records come => exact .writes records (more_of _ come)

theorem Attempt.Goes.reports (goes : t.Goes s files target comes) (records : List LogRecord) :
    { t with records := records }.Goes s files target comes := by
  cases goes with
  | stops _ stop => exact .stops records stop
  | @writes before package come =>
    have same : { Attempt.of before ((write target package s).run files) with records := records } =
        Attempt.of records ((write target package s).run files) := by
      cases (write target package s).run files <;> rfl
    rw [same]
    exact .writes records come

theorem convertFile_goes : (convertFile files network codecs c encoding source target s).Goes s files target
    fun package => ∃ markdown, readMarkdown files codecs encoding source = .ok markdown ∧
      (c.convert network markdown target.name).result = .ok package := by
  unfold convertFile
  cases read : readMarkdown files codecs encoding source with
  | error stop => exact .stops [] stop
  | ok markdown =>
    dsimp only
    cases converted : (c.convert network markdown target.name).result with
    | ok package => exact .writes _ ⟨markdown,rfl,converted⟩
    | error e => cases e <;> exact .stops _ _

theorem attempt_goes (files : Files) (network : Network) (codecs : Text.Codecs) (a : Arguments) (input : String)
    (s : Surroundings) :
    (attempt files network codecs a input s).Goes s files (targetOf a (PathName.ofString input))
      (Becomes files network codecs a input) := by
  unfold attempt
  dsimp only
  cases there : files.isFile (PathName.ofString input) with
  | error e => exact .stops [] _
  | ok isThere =>
    cases isThere with
    | false => exact .stops [] _
    | true =>
      obtain ⟨-,data,found⟩ := Files.isFile_ok.mp there
      dsimp only
      cases configured : readSettings files a.config with
      | error stop => exact .stops [] stop
      | ok settings =>
        refine (convertFile_goes.mono fun package come => ?_).reports _
        obtain ⟨markdown,read,converted⟩ := come
        obtain ⟨text,decoded,rfl⟩ := (readMarkdown_ok found).mp read
        rw [Converter.convert_unified] at converted
        exact ⟨data,text,settings,found,decoded,configured,converted⟩

theorem Attempt.Goes.keeps {stop : Stop} (goes : t.Goes s files target comes) (stopped : t.result = .error stop) :
    files.Keeps t.left [] ∨ ∃ package e report, comes package ∧ Ends s files t.left target package.toBytes e ∧
      e.report? = some report ∧ stop = .report report := by
  cases goes with
  | stops records stop => exact .inl (.refl files [])
  | @writes records package come =>
    have left := @write_left s target package files
    rw [Attempt.of_result_error.mp stopped] at left
    exact left.imp_right fun ⟨e,report,ended⟩ => ⟨package,e,report,come,ended⟩

theorem Attempt.Goes.stands (goes : t.Goes s files target comes) (done : t.result = .ok w) :
    w.path = target ∧ comes w.package ∧ w.Stands s files t.left := by
  cases goes with
  | stops records stop => cases done
  | @writes records package come =>
    have left := @write_left s target package files
    rw [Attempt.of_result_ok.mp done] at left
    obtain ⟨path,rfl,stands⟩ := left
    exact ⟨path,come,stands⟩

theorem Written.Stands.ends {left : Files} (stands : w.Stands s files left) :
    Ends s files left w.path w.package.toBytes (s.writing w.place) ∧
      (s.writing w.place = .kept ∨ s.writing w.place = .swallowed) := by
  refine ⟨⟨w.place,stands.leads,rfl,stands.leaves⟩,?_⟩
  have unreported := stands.unreported
  revert unreported
  cases s.writing w.place <;> simp [WriteEnd.report?]

/-! ### Runs -/

theorem outcome_stdout (done : t.result = .ok w) (ended : (t.outcome verbose sizeOf s).exit = .ok 0) :
    (t.outcome verbose sizeOf s).stdout = s!"Converted: {w.path.toString}\n" := by
  obtain ⟨found,same,sized,printed⟩ := outcome_ok.mp ended
  cases done.symm.trans same
  unfold Attempt.outcome Outcome.print
  rw [done]
  dsimp only
  rw [sized]
  dsimp only
  rw [printed]

/-- A run that does not end well keeps every file, unless it has come to writing its document. -/
theorem Attempt.Goes.outcome_failed (goes : t.Goes s files target comes)
    (failed : (t.outcome verbose sizeOf s).exit ≠ .ok 0) :
    files.Keeps t.left [] ∨ ∃ package e, comes package ∧ Ends s files t.left target package.toBytes e ∧
      ((∃ length report, e = .brokenOff length report ∧
          ((t.outcome verbose sizeOf s).exit = .ok 1 ∨ (t.outcome verbose sizeOf s).Stopped s)) ∨
        e = .kept ∧ (t.outcome verbose sizeOf s).Stopped s) := by
  cases came : t.result with
  | ok w =>
    obtain ⟨path,come,stands⟩ := goes.stands came
    obtain ⟨ends,held⟩ := stands.ends
    rw [path] at ends
    have stopped := (outcome_ok_or_stopped verbose sizeOf s came).resolve_left failed
    rcases held with kept | swallowed
    · exact .inr ⟨_,_,come,ends,.inr ⟨kept,stopped⟩⟩
    · rw [swallowed] at ends
      obtain ⟨-,-,-,keeps⟩ := ends
      exact .inl keeps
  | error stop =>
    rcases goes.keeps came with keeps | ⟨package,e,report,come,ends,reported,rfl⟩
    · exact .inl keeps
    · have code := (outcome_reports_or_stopped verbose sizeOf s came).imp_left And.left
      cases e with
      | kept => cases reported
      | swallowed => cases reported
      | refused text =>
        obtain ⟨-,-,-,keeps⟩ := ends
        exact .inl keeps
      | brokenOff length text => exact .inr ⟨_,_,come,ends,.inl ⟨length,text,rfl,code⟩⟩

theorem Attempt.Goes.outcome_ended (goes : t.Goes s files target comes)
    (ended : (t.outcome verbose sizeOf s).exit = .ok 0) :
    (t.outcome verbose sizeOf s).stdout = s!"Converted: {target.toString}\n" ∧ ∃ package e, comes package ∧
      Ends s files t.left target package.toBytes e ∧ (e = .kept ∨ e = .swallowed) := by
  obtain ⟨w,came,-⟩ := outcome_ok.mp ended
  obtain ⟨path,come,stands⟩ := goes.stands came
  obtain ⟨ends,held⟩ := stands.ends
  rw [path] at ends
  rw [outcome_stdout came ended,path]
  exact ⟨rfl,_,_,come,ends,held⟩

/-- Files with the ending of documents, and one without. -/
def endingFolder : Files := folder [("a.docx",[0x78]),("b.md",[0x78]),("b.docx",[0x7B,0x7D])]

def endingRun (args : List String) (s : Surroundings := .calm) : Outcome :=
  run endingFolder (fun _ => .timeout) .bare (fun _ => "") args s

/-- What prints nothing but ASCII. -/
def asciiPrinter : Surroundings where
  __ := Surroundings.calm
  printing text := if text.toList.all (·.toNat < 128) then none
    else some (.encoding (.failed "ordinal not in range(128)"))

/-- Four bytes are left where something is written. -/
def fullDisk : Surroundings where
  __ := Surroundings.calm
  writing _ := .brokenOff 4 "[Errno 28] No space left on device"

end DocPress.Command
