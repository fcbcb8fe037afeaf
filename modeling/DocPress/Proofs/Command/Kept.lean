import DocPress.Proofs.Command.Changes
import DocPress.Proofs.Command.Place

/-! What becomes of a file that a run finds. Main statement: without a path for the document it is kept, unless
the document replaces it where its path leads, as the input if it has the ending of documents (`run_keeps`). -/

namespace DocPress.Command
open DocPress.Text (PathName)

variable {files : Files} {network : Network} {codecs : Text.Codecs} {sizeOf : Package → String}
  {args : List String} {a : Arguments} {input : String} {w : Written} {path : PathName} {data : List UInt8}

/-- The command line gives no path for the document. -/
def NoTarget (args : List String) : Prop := ∀ a, Arguments.parse args = .ok a → nonEmpty? a.output = none

instance (args : List String) : Decidable (NoTarget args) :=
  decidable_of_iff (∀ a ∈ (Arguments.parse args).toOption,nonEmpty? a.output = none) <| by
    unfold NoTarget
    cases Arguments.parse args <;> simp [Except.toOption]

/-- The document is written where a path leads. -/
def Outcome.Replaces (o : Outcome) (files : Files) (path : PathName) : Prop :=
  ∃ w, o.written = some w ∧ files.resolve path = .ok w.place

/-! ### The document of a run -/

theorem run_written : (run files network codecs sizeOf args).written = some w ↔
    ∃ a input, Converts args a input ∧ (attempt files network codecs a input).result = .ok w ∧
      w.place ≠ nullDevice := by
  constructor
  · intro done
    by_contra asks
    have other (a : Arguments) (input : String) : ¬ Converts args a input := by
      intro asked
      rw [asked.run,outcome_written] at done
      exact asks ⟨a,input,asked,done.1,mt calm_swallows.mpr done.2⟩
    cases done.symm.trans (run_without files network codecs sizeOf .calm other).unwritten
  · rintro ⟨a,input,asked,done,apart⟩
    rw [asked.run,outcome_written]
    exact ⟨done,mt calm_swallows.mp apart⟩

/-- Where nothing fails around it, a run keeps every file unless it has written a document. -/
theorem run_unwritten (none : (run files network codecs sizeOf args).written = none) :
    files.Keeps (run files network codecs sizeOf args).left [] := by
  by_cases asks : ∃ a input, Converts args a input
  · obtain ⟨a,input,asked⟩ := asks
    have goes := attempt_goes files network codecs a input .calm
    rw [asked.run,outcome_left]
    cases came : (attempt files network codecs a input).result with
    | ok w =>
      have lost : w.place = nullDevice := by
        by_contra apart
        cases none.symm.trans (run_written.mpr ⟨a,input,asked,came,apart⟩)
      have leaves := (goes.stands came).2.2.leaves
      rwa [calm_swallows.mpr lost] at leaves
    | error stop =>
      rcases goes.keeps came with keeps | ⟨package,e,report,-,⟨place,-,rfl,-⟩,reported,-⟩
      · exact keeps
      · cases (calm_report place).symm.trans reported
  · have other (a : Arguments) (input : String) : ¬ Converts args a input := fun asked => asks ⟨a,input,asked⟩
    rw [(run_without files network codecs sizeOf .calm other).left]
    exact .refl files []

theorem left_of_written (done : (run files network codecs sizeOf args).written = some w) :
    let left := (run files network codecs sizeOf args).left
    left.resolve w.path = .ok w.place ∧ files.Gains left w.path w.package.toBytes := by
  obtain ⟨a,input,asked,came,apart⟩ := run_written.mp done
  obtain ⟨-,-,leads,-,leaves⟩ := (attempt_goes files network codecs a input .calm).stands came
  rw [calm_kept apart] at leaves
  rw [asked.run,outcome_left]
  exact ⟨leads,leaves⟩

/-- A document goes beside the file that it is made of. -/
structure Written.Beside (w : Written) (files : Files) (source : PathName) (directory : Place) : Prop where
  found : files.resolve source = .ok (directory ++ [source.name])
  place : w.place = directory ++ [documentName source.name]
  target : files.resolve (source.withExtension documentExtension) = .ok w.place

/-- The name of a document has an ending. -/
theorem documentName_ne {other : String} (short : other.length < 5) (name : String) :
    documentName name ≠ other := by
  intro same
  have length := congrArg String.length same
  unfold documentName at length
  rw [String.length_append] at length
  have ending : documentExtension.length = 5 := by decide
  omega

theorem Written.Beside.apart {source : PathName} {directory : Place} (beside : w.Beside files source directory) :
    w.place ≠ nullDevice := by
  rw [beside.place]
  intro same
  have last : documentName source.name = "null" := by simpa [nullDevice] using congrArg List.getLast? same
  exact documentName_ne (by decide) _ last

theorem attempt_found (done : (attempt files network codecs a input).result = .ok w) :
    ∃ data, files.read (PathName.ofString input) = .ok data := by
  rw [attempt_result,bind_ok] at done
  obtain ⟨there,seen,done⟩ := done
  cases there with
  | false => cases done
  | true => exact (Files.isFile_ok.mp (mapError_ok.mp seen)).2

theorem attempt_beside (default : nonEmpty? a.output = none)
    (done : (attempt files network codecs a input).result = .ok w) :
    ∃ directory, w.Beside files (PathName.ofString input) directory := by
  obtain ⟨data,found⟩ := attempt_found done
  have target : targetOf a (PathName.ofString input) =
      (PathName.ofString input).withExtension documentExtension := by
    unfold targetOf
    rw [default]
  obtain ⟨path,placed⟩ := attempt_placed done
  rw [target] at path placed
  generalize PathName.ofString input = source at found path placed
  obtain ⟨directory,walked,inside,resolved⟩ := Files.resolve_file found
  have init : (source.withExtension documentExtension).parts.dropLast = source.parts.dropLast :=
    List.dropLast_concat
  have way : files.walk (Files.start (source.withExtension documentExtension))
      (source.withExtension documentExtension).parts.dropLast = .ok directory := by rwa [init]
  obtain ⟨made,leads⟩ := Files.placeFor_there way inside placed
  refine ⟨directory,resolved,?_,leads⟩
  have whole := (Files.resolve_ok.mp leads).2
  change files.walk (Files.start source) (source.parts.dropLast ++ [documentName source.name]) = _ at whole
  rw [Files.walk_append,walked] at whole
  obtain ⟨-,-,last⟩ := Files.walk_cons.mp whole
  rw [if_neg (documentName_ne (by decide) _)] at last
  exact (Except.ok.inj last).symm

theorem run_left_read (found : files.read path = .ok data) :
    (run files network codecs sizeOf args).left.read path = .ok
      (match (run files network codecs sizeOf args).written with
        | some w => if files.resolve path = .ok w.place then w.package.toBytes else data
        | none => data) := by
  cases done : (run files network codecs sizeOf args).written with
  | none => exact (run_unwritten done).read found fun _ _ => List.not_mem_nil
  | some w =>
    obtain ⟨leads,gains⟩ := left_of_written done
    dsimp only
    by_cases same : files.resolve path = .ok w.place
    · rw [if_pos same]
      exact gains.read leads same
    · rw [if_neg same]
      refine (gains.keeps leads).read found fun place resolved member => same ?_
      rw [resolved,List.mem_singleton.mp member]

theorem run_replaces (default : NoTarget args) (asked : Converts args a input) :
    (run files network codecs sizeOf args).Replaces files path ↔
      (run files network codecs sizeOf args).exit = .ok 0 ∧
        files.resolve path = files.resolve ((PathName.ofString input).withExtension documentExtension) := by
  unfold Outcome.Replaces
  rw [asked.run,outcome_done]
  simp only [outcome_written]
  constructor
  · rintro ⟨w,⟨done,-⟩,leads⟩
    obtain ⟨directory,beside⟩ := attempt_beside (default a asked.parsed) done
    exact ⟨⟨w,done⟩,leads.trans beside.target.symm⟩
  · rintro ⟨⟨w,done⟩,leads⟩
    obtain ⟨directory,beside⟩ := attempt_beside (default a asked.parsed) done
    exact ⟨w,⟨done,mt calm_swallows.mp beside.apart⟩,leads.trans beside.target⟩

theorem run_replaces_input (default : NoTarget args) (asked : Converts args a input) :
    (run files network codecs sizeOf args).Replaces files (PathName.ofString input) ↔
      (run files network codecs sizeOf args).exit = .ok 0 ∧
        (PathName.ofString input).extension = documentExtension := by
  rw [run_replaces default asked]
  refine and_congr_right fun ended => ?_
  rw [asked.run,outcome_done] at ended
  obtain ⟨w,done⟩ := ended
  obtain ⟨directory,beside⟩ := attempt_beside (default a asked.parsed) done
  rw [beside.found,beside.target,beside.place,Except.ok.injEq,List.append_cancel_left_eq,List.cons.injEq,
    eq_self,and_true]
  exact Text.extensionOf_eq_iff.symm

/-- Without a path for the document a run keeps every file but one that the document is written to. That is
where the path of the input leads once it has the ending of documents. So the input is kept unless it is
converted and has this ending already. -/
theorem run_keeps (network : Network) (codecs : Text.Codecs) (sizeOf : Package → String)
    (default : NoTarget args) (found : files.read path = .ok data) :
    let ran := run files network codecs sizeOf args
    (¬ ran.Replaces files path → ran.left.read path = .ok data) ∧
      (∀ w, ran.written = some w → files.resolve path = .ok w.place →
        ran.left.read path = .ok w.package.toBytes) ∧
      (ran.Replaces files path ↔ ran.exit = .ok 0 ∧ ∃ a input, Converts args a input ∧
        files.resolve path = files.resolve ((PathName.ofString input).withExtension documentExtension)) ∧
      (∀ a input, Converts args a input → path = PathName.ofString input →
        (ran.Replaces files path ↔ ran.exit = .ok 0 ∧ path.extension = documentExtension)) := by
  dsimp only
  have after : (run files network codecs sizeOf args).left.read path = _ := run_left_read found
  refine ⟨fun kept => ?_,fun w done leads => ?_,⟨?_,?_⟩,?_⟩
  · rw [after]
    split
    next w done => rw [if_neg fun leads => kept ⟨w,done,leads⟩]
    next => rfl
  · rw [after,done]
    simp only [if_pos leads]
  · rintro ⟨w,done,leads⟩
    obtain ⟨a,input,asked,-⟩ := run_written.mp done
    obtain ⟨ended,same⟩ := (run_replaces default asked).mp ⟨w,done,leads⟩
    exact ⟨ended,a,input,asked,same⟩
  · rintro ⟨ended,a,input,asked,same⟩
    exact (run_replaces default asked).mpr ⟨ended,same⟩
  · rintro a input asked rfl
    exact run_replaces_input default asked

theorem endingRun_keeps : NoTarget ["b.md"] ∧ endingFolder.read ⟨"",["b.md"]⟩ = .ok [0x78] ∧
    (endingRun ["b.md"]).exit.toOption = some 0 ∧ (endingRun ["b.md"]).left.read ⟨"",["b.md"]⟩ = .ok [0x78] := by
  have default : NoTarget ["b.md"] := by decide +kernel
  have found : endingFolder.read ⟨"",["b.md"]⟩ = .ok [0x78] := by decide +kernel
  have asked : Converts ["b.md"] { input := some "b.md",inputTaken := true } "b.md" :=
    ⟨by decide +kernel,rfl,by decide⟩
  obtain ⟨kept,-,-,replaces⟩ := run_keeps (fun _ => .timeout) .bare (fun _ => "") default found
  refine ⟨default,found,by decide +kernel,kept fun replaced => ?_⟩
  obtain ⟨-,ending⟩ := (replaces _ _ asked (by decide +kernel)).mp replaced
  exact absurd ending (by decide +kernel)

/-- A run that ends well destroys its input where this has the ending of documents, and its settings where
the document has their name. -/
theorem endingRun_destroys :
    NoTarget ["a.docx"] ∧ (endingRun ["a.docx"]).exit.toOption = some 0 ∧
      (endingFolder.read ⟨"",["a.docx"]⟩).toOption = some [0x78] ∧
      ((endingRun ["a.docx"]).left.read ⟨"",["a.docx"]⟩).toOption ≠ some [0x78] ∧
    NoTarget ["b.md","-c","b.docx"] ∧ (endingRun ["b.md","-c","b.docx"]).exit.toOption = some 0 ∧
      (endingFolder.read ⟨"",["b.docx"]⟩).toOption = some [0x7B,0x7D] ∧
      ((endingRun ["b.md","-c","b.docx"]).left.read ⟨"",["b.docx"]⟩).toOption ≠ some [0x7B,0x7D] := by
  decide +kernel

end DocPress.Command
