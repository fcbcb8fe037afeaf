import DocPress.Proofs.Command.Place

/-! Writing a document, step by step. Main statements: when it ends without a report (`saving_fault`), and when a
document is written (`saving_ok`). -/

namespace DocPress.Command
open DocPress.Text (PathName)

variable {files made : Files} {path : PathName} {package : Package} {w : Written} {fault : Fault}
  {s : Surroundings}

theorem write_run : (write path package s).run files =
    if hasNull path.parent.toString then .error (.fault .nullInPath) files
    else match (Files.makeWay path.root path.parent.parts.reverse).run files with
      | .error e left => .error (.report e.message) left
      | .ok _ made =>
        if hasNull path.name then .error (.fault .nullInPath) made
        else match made.placeOf path with
          | .error e => .error (.report e.message) made
          | .ok place => (Written.land s ⟨path,place,package⟩).run made := by
  unfold write reporting
  by_cases above : hasNull path.parent.toString = true
  · rw [if_pos above,if_pos above]
    rfl
  · rw [if_neg above,if_neg above,EStateM.run_bind,EStateM.run_adaptExcept]
    cases (Files.makeWay path.root path.parent.parts.reverse).run files with
    | error e left => rfl
    | ok _ made =>
      dsimp only
      by_cases last : hasNull path.name = true
      · rw [if_pos last,if_pos last]
        rfl
      · rw [if_neg last,if_neg last,EStateM.run_bind,EStateM.run_get]
        dsimp only
        cases made.placeOf path <;> rfl

/-- A null character ends the writing of a document without a report: in the path of its directory, or in its
name once the directory is there. -/
def NullEnds (files : Files) (path : PathName) : Prop :=
  hasNull path.parent.toString = true ∨ hasNull path.name = true ∧
    ∃ made, files.makeDirectories path.root path.parent.parts.reverse = .ok made

theorem land_run : (w.land s).run files =
    match (s.writing w.place).report? with
    | some report => .error (.report report) ((s.writing w.place).put w.place w.package.toBytes files)
    | none => .ok w ((s.writing w.place).put w.place w.package.toBytes files) := by
  unfold Written.land
  rw [EStateM.run_bind]
  cases (s.writing w.place).report? <;> rfl

/-- What comes of a document that is written to its place. -/
def Written.landed (s : Surroundings) (w : Written) : Except Stop Written :=
  match (s.writing w.place).report? with
  | some report => .error (.report report)
  | none => .ok w

theorem landed_ok {landed : Written} :
    Written.landed s w = .ok landed ↔ (s.writing w.place).report? = none ∧ w = landed := by
  unfold Written.landed
  cases (s.writing w.place).report? <;> simp

theorem landed_not_fault : Written.landed s w ≠ .error (.fault fault) := by
  unfold Written.landed
  cases (s.writing w.place).report? <;> simp

theorem saving_eq : saving files path package s =
    if hasNull path.parent.toString then .error (.fault .nullInPath)
    else (files.makeDirectories path.root path.parent.parts.reverse).mapError (.report ·.message) >>= fun made =>
      if hasNull path.name then .error (.fault .nullInPath)
      else (made.placeOf path).mapError (.report ·.message) >>= fun place =>
        Written.landed s ⟨path,place,package⟩ := by
  unfold saving Files.makeDirectories
  rw [write_run]
  split
  · rfl
  · cases (Files.makeWay path.root path.parent.parts.reverse).run files with
    | error e left => rfl
    | ok _ made =>
      change (Attempt.of [] (if hasNull path.name then _ else _)).result = if hasNull path.name then _ else _
      split
      · rfl
      · cases made.placeOf path with
        | error e => rfl
        | ok place =>
          dsimp only
          rw [land_run]
          change _ = Written.landed s ⟨path,place,package⟩
          unfold Written.landed
          cases (s.writing place).report? <;> rfl

theorem saving_fault : saving files path package s = .error (.fault fault) ↔
    NullEnds files path ∧ fault = .nullInPath := by
  rw [saving_eq]
  unfold NullEnds
  by_cases above : hasNull path.parent.toString = true
  · rw [if_pos above,Except.error.injEq,Stop.fault.injEq]
    exact ⟨fun same => ⟨.inl above,same.symm⟩,fun ended => ended.2.symm⟩
  · rw [if_neg above]
    constructor
    · intro ended
      rcases bind_error.mp ended with unmade | ⟨made,done,ended⟩
      · obtain ⟨_,-,same⟩ := mapError_error.mp unmade
        cases same
      · by_cases last : hasNull path.name = true
        · rw [if_pos last] at ended
          cases ended
          exact ⟨.inr ⟨last,made,mapError_ok.mp done⟩,rfl⟩
        · rw [if_neg last] at ended
          rcases bind_error.mp ended with unplaced | ⟨_,-,same⟩
          · obtain ⟨_,-,same⟩ := mapError_error.mp unplaced
            cases same
          · exact absurd same landed_not_fault
    · rintro ⟨null | ⟨last,made,done⟩,rfl⟩
      · exact absurd null above
      · rw [bind_of_ok (mapError_ok.mpr done),if_pos last]

/-- A document is written where its path leads to a place and the writing there is not reported on. -/
theorem saving_ok : saving files path package s = .ok w ↔ hasNull path.parent.toString = false ∧
    hasNull path.name = false ∧ ∃ place, files.placeFor path = .ok place ∧
      (s.writing place).report? = none ∧ w = ⟨path,place,package⟩ := by
  rw [saving_eq]
  unfold Files.placeFor
  cases above : hasNull path.parent.toString with
  | true => simp
  | false =>
    cases last : hasNull path.name with
    | true => simp [bind_ok]
    | false =>
      simp only [Bool.false_eq_true,if_false,true_and,bind_ok,mapError_ok,landed_ok]
      constructor
      · rintro ⟨made,done,place,placed,calm,rfl⟩
        exact ⟨place,⟨made,done,placed⟩,calm,rfl⟩
      · rintro ⟨place,⟨made,done,placed⟩,calm,rfl⟩
        exact ⟨made,done,place,placed,calm,rfl⟩

end DocPress.Command
