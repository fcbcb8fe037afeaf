import DocPress.Proofs.Document.Content
import DocPress.Proofs.Package.Growth

/-! How the paragraphs of a document are told which counter they count in. The counters are given out
one after the other, each family has one that is in use, and a paragraph with a start opens the next
one for its family. Main statements: which counter is in use after any paragraphs
(`current_after_quiet`, `current_after_opening`), and that it changes exactly when a paragraph opens
one (`current_after_eq_iff`). -/

namespace DocPress

def numberings (paragraphs : List Paragraph) : List NumberingRef :=
  paragraphs.flatMap fun p => p.numbering.toList

theorem numberings_flatMap {α : Type} (items : List α) (paragraphs : α → List Paragraph) :
    numberings (items.flatMap paragraphs) = items.flatMap fun a => numberings (paragraphs a) :=
  List.flatMap_assoc

def Block.references (b : Block) : List NumberingRef := numberings b.paragraphs

/-- The references to numberings of a document, in the order of the file. -/
def DocumentModel.references (m : DocumentModel) : List NumberingRef :=
  m.blocks.flatMap Block.references

namespace NumberingRef

def opens (ref : NumberingRef) : Bool := ref.start.isSome

/-- Does the paragraph open a counter for a family? -/
def opensFor (reference : String) (ref : NumberingRef) : Bool :=
  ref.opens && ref.reference == reference

end NumberingRef

def openings (refs : List NumberingRef) : Nat := refs.countP NumberingRef.opens

/-- What there is to know while paragraphs are numbered. -/
structure Counting where
  table : NumberingTable := {}
  counters : List NumberingInstance := []

/-- What a document in work knows of its numberings. -/
def BuildState.counting (state : BuildState) : Counting :=
  ⟨state.numbering,state.draft.numbering.added⟩

namespace Counting

/-- The number of the next counter that is opened. -/
def next (s : Counting) : Nat := firstCounter + s.counters.length

/-- The counter that is in use for a family. -/
def current (s : Counting) (reference : String) : Nat :=
  (s.table.counters.lookup reference).getD 0

/-- The counter that a paragraph opens. -/
def opened (s : Counting) (ref : NumberingRef) : Option NumberingInstance :=
  ref.start.map fun start =>
    { family := (s.table.families.lookup ref.reference).getD 0, restart := some (ref.level,start) }

def step (s : Counting) (ref : NumberingRef) : Counting where
  table := if ref.opens then
      { s.table with counters := (ref.reference,s.next) :: s.table.counters }
    else s.table
  counters := s.counters ++ (s.opened ref).toList

def after (s : Counting) (refs : List NumberingRef) : Counting := refs.foldl step s

def ids (s : Counting) : List NumberingRef → List Nat
  | [] => []
  | ref :: refs => (s.step ref).current ref.reference :: ids (s.step ref) refs

/-- The families that paragraphs refer to are there. -/
def Knows (s : Counting) (refs : List NumberingRef) : Prop :=
  ∀ ref ∈ refs, (s.table.families.lookup ref.reference).isSome

/-- All counters in use have been given out. -/
def Given (s : Counting) : Prop := ∀ reference, s.current reference < s.next

variable {s : Counting} {ref : NumberingRef} {refs : List NumberingRef} {reference : String}

/-! ### One paragraph -/

theorem step_of_quiet (quiet : ref.start = none) : s.step ref = s := by
  simp [step,opened,NumberingRef.opens,quiet]

theorem step_of_opening {start : Int} (opening : ref.start = some start) :
    s.step ref = {
      table := { s.table with counters := (ref.reference,s.next) :: s.table.counters }
      counters := s.counters ++ [{
        family := (s.table.families.lookup ref.reference).getD 0
        restart := some (ref.level,start) }] } := by
  simp [step,opened,NumberingRef.opens,opening]

@[simp] theorem step_families : (s.step ref).table.families = s.table.families := by
  unfold step
  split <;> rfl

@[simp] theorem opened_step (other : NumberingRef) : (s.step ref).opened other = s.opened other := by
  simp [opened]

theorem next_step : (s.step ref).next = s.next + if ref.opens then 1 else 0 := by
  cases given : ref.start <;> simp [step,next,opened,NumberingRef.opens,given,Nat.add_assoc]

theorem current_step_opening (opening : ref.opensFor reference) :
    (s.step ref).current reference = s.next := by
  obtain ⟨opens,same⟩ : ref.opens = true ∧ ref.reference = reference := by
    simpa [NumberingRef.opensFor] using opening
  simp [step,current,opens,same]

theorem current_step_quiet (quiet : ref.opensFor reference = false) :
    (s.step ref).current reference = s.current reference := by
  by_cases opens : ref.opens
  · have other : reference ≠ ref.reference := by
      rintro rfl
      simp [NumberingRef.opensFor,opens] at quiet
    simp [step,current,opens,List.lookup_cons,beq_false_of_ne other]
  · simp [step,current,opens]

theorem Given.step (given : s.Given) : (s.step ref).Given := by
  intro reference
  cases opening : ref.opensFor reference with
  | true =>
    have opens : ref.opens = true := by
      simp only [NumberingRef.opensFor,Bool.and_eq_true] at opening
      exact opening.1
    rw [current_step_opening opening,next_step,if_pos opens]
    exact Nat.lt_succ_self _
  | false =>
    rw [current_step_quiet opening,next_step]
    exact Nat.lt_add_right _ (given reference)

/-! ### Some paragraphs -/

@[simp] theorem after_nil : s.after [] = s := rfl

@[simp] theorem after_cons : s.after (ref :: refs) = (s.step ref).after refs := rfl

theorem after_append (refs more : List NumberingRef) :
    s.after (refs ++ more) = (s.after refs).after more := by simp [after]

@[simp] theorem after_families : (s.after refs).table.families = s.table.families := by
  induction refs generalizing s with
  | nil => rfl
  | cons ref refs ih => rw [after_cons,ih,step_families]

theorem Knows.append {more : List NumberingRef} (known : s.Knows refs)
    (rest : (s.after refs).Knows more) : s.Knows (refs ++ more) := by
  intro ref member
  cases List.mem_append.mp member with
  | inl first => exact known ref first
  | inr second => simpa using rest ref second

theorem counters_after : (s.after refs).counters = s.counters ++ refs.filterMap s.opened := by
  induction refs generalizing s with
  | nil => simp
  | cons ref refs ih =>
    have same : (s.step ref).opened = s.opened := funext opened_step
    rw [after_cons,ih,same]
    cases opened : s.opened ref <;> simp [step,opened]

theorem next_after : (s.after refs).next = s.next + openings refs := by
  induction refs generalizing s with
  | nil => rfl
  | cons ref refs ih =>
    rw [after_cons,ih,next_step,openings,openings,List.countP_cons]
    omega

theorem length_counters_after :
    (s.after refs).counters.length = s.counters.length + openings refs := by
  have next : (s.after refs).next = s.next + openings refs := next_after
  unfold Counting.next at next
  omega

theorem Given.after (given : s.Given) : (s.after refs).Given := by
  induction refs generalizing s with
  | nil => exact given
  | cons ref refs ih => exact ih given.step

/-- The counter of a family stays in use as long as no paragraph opens another one for it. -/
theorem current_after_quiet (quiet : ∀ ref ∈ refs, ref.opensFor reference = false) :
    (s.after refs).current reference = s.current reference := by
  induction refs generalizing s with
  | nil => rfl
  | cons ref refs ih =>
    rw [after_cons,ih fun ref member => quiet ref (List.mem_cons_of_mem _ member),
      current_step_quiet (quiet ref List.mem_cons_self)]

/-- After a paragraph that opens a counter for a family, that counter is the one in use. Its number
says how many have been opened before. -/
theorem current_after_opening {before after : List NumberingRef}
    (opening : ref.opensFor reference) (quiet : ∀ ref ∈ after, ref.opensFor reference = false) :
    (s.after (before ++ ref :: after)).current reference = s.next + openings before := by
  rw [after_append,after_cons,current_after_quiet quiet,current_step_opening opening,next_after]

theorem current_le_after (given : s.Given) :
    s.current reference ≤ (s.after refs).current reference := by
  induction refs generalizing s with
  | nil => exact Nat.le_refl _
  | cons ref refs ih =>
    refine Nat.le_trans ?_ (ih given.step)
    cases opening : ref.opensFor reference with
    | true => exact current_step_opening opening ▸ Nat.le_of_lt (given reference)
    | false => exact Nat.le_of_eq (current_step_quiet opening).symm

/-- What a family counts in once a paragraph has opened a counter for it was not given out before. -/
theorem next_le_current_after (given : s.Given) (member : ref ∈ refs)
    (opening : ref.opensFor reference) : s.next ≤ (s.after refs).current reference := by
  obtain ⟨before,after,rfl⟩ := List.append_of_mem member
  calc
    s.next ≤ (s.after before).next := by
      rw [next_after]
      exact Nat.le_add_right _ _
    _ = ((s.after before).step ref).current reference := (current_step_opening opening).symm
    _ ≤ (s.after (before ++ ref :: after)).current reference := by
      rw [after_append,after_cons]
      exact current_le_after given.after.step

/-- Counters are never used again: the same one is in use exactly when none has been opened. -/
theorem current_after_eq_iff (given : s.Given) :
    (s.after refs).current reference = s.current reference ↔
      ∀ ref ∈ refs, ref.opensFor reference = false := by
  refine ⟨?_,current_after_quiet⟩
  intro same ref member
  cases opening : ref.opensFor reference with
  | false => rfl
  | true =>
    have later := next_le_current_after given member opening
    exact absurd (given reference) (Nat.not_lt.mpr (same ▸ later))

/-! ### Families -/

/-- Families that count apart go on so: a counter that is opened is none of those in use. -/
theorem current_step_ne (given : s.Given) {other : String}
    (apart : s.current reference ≠ s.current other) :
    (s.step ref).current reference ≠ (s.step ref).current other := by
  have differ : reference ≠ other := fun same => apart (by rw [same])
  cases first : ref.opensFor reference with
  | true =>
    have second : ref.opensFor other = false := by
      simp only [NumberingRef.opensFor,Bool.and_eq_true,beq_iff_eq] at first
      simp [NumberingRef.opensFor,first.2,differ]
    rw [current_step_opening first,current_step_quiet second]
    exact (Nat.ne_of_lt (given other)).symm
  | false =>
    rw [current_step_quiet first]
    cases second : ref.opensFor other with
    | true =>
      rw [current_step_opening second]
      exact Nat.ne_of_lt (given reference)
    | false => rwa [current_step_quiet second]

theorem current_after_ne (given : s.Given) {other : String}
    (apart : s.current reference ≠ s.current other) :
    (s.after refs).current reference ≠ (s.after refs).current other := by
  induction refs generalizing s with
  | nil => exact apart
  | cons ref refs ih => exact ih given.step (current_step_ne given apart)

/-- The counter that one family has is in use for no other one later on. -/
theorem current_ne_after (given : s.Given) {other : String}
    (apart : s.current reference ≠ s.current other) :
    s.current reference ≠ (s.after refs).current other := by
  by_cases quiet : ∀ ref ∈ refs, ref.opensFor other = false
  · rwa [current_after_quiet quiet]
  · obtain ⟨ref,member,opening⟩ : ∃ ref ∈ refs, ref.opensFor other = true := by simpa using quiet
    exact Nat.ne_of_lt (Nat.lt_of_lt_of_le (given reference)
      (next_le_current_after given member opening))

/-! ### The counters of the paragraphs -/

@[simp] theorem ids_length : (s.ids refs).length = refs.length := by
  induction refs generalizing s with
  | nil => rfl
  | cons ref refs ih => simp [ids,ih]

theorem ids_append (refs more : List NumberingRef) :
    s.ids (refs ++ more) = s.ids refs ++ (s.after refs).ids more := by
  induction refs generalizing s with
  | nil => rfl
  | cons ref refs ih => simp [ids,ih]

/-- A paragraph counts in the counter that is in use for its family once it is written. -/
theorem ids_getElem? (k : Nat) :
    (s.ids refs)[k]? =
      refs[k]?.map fun ref => (s.after (refs.take (k + 1))).current ref.reference := by
  induction refs generalizing s k with
  | nil => simp [ids]
  | cons ref refs ih =>
    cases k with
    | zero => simp [ids]
    | succ k => simp [ids,ih]

end Counting

end DocPress
