import DocPress.Proofs.Command.Attempt

/-! Where paths lead, also once a file is written. Main statement: a path still leads where it did
(`put_resolve`). -/

namespace DocPress.Command.Files
open DocPress.Text (PathName)

variable {files after : Files} {place reached directory : Place} {name : String}
  {names later : List String} {p : PathName} {data : List UInt8}

/-! ### Ways -/

/-- What is on the way to a place are directories. -/
def Reached (files : Files) (place : Place) : Prop :=
  ∀ way, way <+: place → way ≠ place → files.isDirectory way = true

theorem isDirectory_nil (files : Files) : files.isDirectory [] = true := by simp [isDirectory]

theorem reached_start (files : Files) (p : PathName) : files.Reached (start p) := by
  intro way before other
  unfold start at before other
  split at before
  · exact absurd (List.prefix_nil.mp before) (by simp_all)
  · rcases List.prefix_cons_iff.mp before with rfl | ⟨rest,rfl,none⟩
    · exact files.isDirectory_nil
    · simp_all

theorem Reached.append (onWay : files.Reached place) (inside : files.isDirectory place = true) :
    files.Reached (place ++ [name]) := by
  intro way before other
  rcases List.prefix_concat_iff.mp before with same | before
  · exact absurd same (by simpa using other)
  · by_cases same : way = place
    · rwa [same]
    · exact onWay way before same

theorem above_begins (place : Place) : above place <+: place := by
  unfold above
  split
  · exact List.prefix_rfl
  · exact List.dropLast_prefix place

theorem Reached.above (onWay : files.Reached place) : files.Reached (above place) := by
  intro way before other
  refine onWay way (before.trans (above_begins place)) fun same => other ?_
  exact before.eq_of_length (Nat.le_antisymm before.length_le (same ▸ (above_begins place).length_le))

theorem Reached.above_isDirectory (onWay : files.Reached place) (inside : files.isDirectory place = true) :
    files.isDirectory (Files.above place) = true := by
  by_cases same : Files.above place = place
  · rwa [same]
  · exact onWay _ (above_begins place) same

theorem walk_cons : files.walk place (name :: names) = .ok reached ↔ files.isDirectory place = true ∧
    name.utf8ByteSize ≤ maxNameLength ∧
      files.walk (if name = ".." then above place else place ++ [name]) names = .ok reached := by
  rw [walk]
  by_cases inside : files.isDirectory place = true
  · rw [if_pos inside]
    by_cases long : maxNameLength < name.utf8ByteSize
    · rw [if_pos long]
      exact iff_of_false nofun fun walked => Nat.not_le.mpr long walked.2.1
    · rw [if_neg long,apply_ite (files.walk · names)]
      simp [inside,Nat.not_lt.mp long]
  · rw [if_neg inside]
    refine iff_of_false ?_ fun walked => inside walked.1
    split <;> nofun

theorem walk_append : files.walk place (names ++ later) = files.walk place names >>= (files.walk · later) := by
  induction names generalizing place with
  | nil => rfl
  | cons name names ih =>
    rw [List.cons_append,walk,walk,ih,ih]
    split
    · split
      · rfl
      · split <;> rfl
    · split <;> rfl

theorem walk_reached (onWay : files.Reached place) (walked : files.walk place names = .ok reached) :
    files.Reached reached := by
  induction names generalizing place with
  | nil =>
    cases walked
    exact onWay
  | cons name names ih =>
    obtain ⟨inside,-,walked⟩ := walk_cons.mp walked
    refine ih ?_ walked
    split
    · exact onWay.above
    · exact onWay.append inside

/-- What leads somewhere still does where there are more directories. -/
theorem walk_mono (grows : ∀ way, files.isDirectory way = true → after.isDirectory way = true)
    (walked : files.walk place names = .ok reached) : after.walk place names = .ok reached := by
  induction names generalizing place with
  | nil => exact walked
  | cons name names ih =>
    obtain ⟨inside,short,walked⟩ := walk_cons.mp walked
    exact walk_cons.mpr ⟨grows place inside,short,ih walked⟩

/-! ### Paths -/

theorem resolve_ok : files.resolve p = .ok place ↔
    p.toString.utf8ByteSize ≤ maxPathLength ∧ files.walk (start p) p.parts = .ok place := by
  unfold resolve
  rw [mapError_ok]
  by_cases long : maxPathLength < p.toString.utf8ByteSize
  · rw [if_pos long]
    exact iff_of_false nofun fun resolved => Nat.not_le.mpr long resolved.1
  · simp [long,Nat.not_lt.mp long]

theorem resolve_mono (grows : ∀ way, files.isDirectory way = true → after.isDirectory way = true)
    (resolved : files.resolve p = .ok place) : after.resolve p = .ok place := by
  obtain ⟨short,walked⟩ := resolve_ok.mp resolved
  exact resolve_ok.mpr ⟨short,walk_mono grows walked⟩

theorem resolve_reached (resolved : files.resolve p = .ok place) : files.Reached place :=
  walk_reached (files.reached_start p) (resolve_ok.mp resolved).2

theorem read_ok : files.read p = .ok data ↔ ∃ place, files.resolve p = .ok place ∧
    files.isDirectory place = false ∧ files.contents.lookup place = some data := by
  unfold read
  rw [bind_ok]
  refine exists_congr fun place => and_congr_right fun _ => ?_
  by_cases inside : files.isDirectory place = true
  · simp [inside]
  · rw [if_neg inside]
    cases files.contents.lookup place <;> simp [inside]

theorem isFile_ok : files.isFile p = .ok true ↔
    hasNull p.toString = false ∧ ∃ data, files.read p = .ok data := by
  unfold isFile
  cases hasNull p.toString with
  | true => simp
  | false =>
    rw [if_neg (by decide)]
    cases files.read p with
    | ok data => simp
    | error e =>
      dsimp only
      split <;> simp

/-- A path to a file leads through a directory to a file of its last name. -/
theorem resolve_file (found : files.read p = .ok data) : ∃ directory,
    files.walk (start p) p.parts.dropLast = .ok directory ∧ files.isDirectory directory = true ∧
      files.resolve p = .ok (directory ++ [p.name]) := by
  obtain ⟨place,resolved,file,-⟩ := read_ok.mp found
  have walked := (resolve_ok.mp resolved).2
  have some : p.parts ≠ [] := by
    intro none
    rw [none,walk] at walked
    cases walked
    have inside : files.isDirectory (start p) = true := by
      unfold start
      split <;> simp [isDirectory]
    exact absurd inside (by simp [file])
  have parts : p.parts = p.parts.dropLast ++ [p.name] := by
    unfold PathName.name
    rw [List.getLastD_eq_getLast?,List.getLast?_eq_some_getLast some]
    exact (List.dropLast_concat_getLast some).symm
  rw [parts,walk_append,bind_ok] at walked
  obtain ⟨directory,before,last⟩ := walked
  obtain ⟨inside,-,last⟩ := walk_cons.mp last
  refine ⟨directory,before,inside,?_⟩
  cases last
  rw [resolved]
  -- names that lead up end at directories
  split at file
  · have onWay := walk_reached (files.reached_start p) before
    exact absurd (onWay.above_isDirectory inside) (by simp [file])
  next other => rw [if_neg other]

/-! ### Directories -/

/-- The files once a directory and those that it stands in are there. -/
def makeDirectories (files : Files) (root : String) (names : List String) : Except FileError Files :=
  match (makeWay root names).run files with
  | .ok _ made => .ok made
  | .error e _ => .error e

/-- The place where a new file goes, once the directories on the way are there. -/
def placeFor (files : Files) (p : PathName) : Except FileError Place :=
  files.makeDirectories p.root p.parent.parts.reverse >>= (placeOf · p)

theorem run_tryCatch {ε α : Type} (act : EStateM ε Files α) (instead : ε → EStateM ε Files α) (files : Files) :
    (tryCatch act instead).run files = match act.run files with
      | .ok value made => .ok value made
      | .error e left => (instead e).run left := by
  change EStateM.tryCatch act instead files = _
  delta EStateM.tryCatch EStateM.run
  dsimp only
  cases act files <;> rfl

theorem makeWay_cons (root : String) : (makeWay root (name :: names)).run files =
    match files.makeDirectory ⟨root,(name :: names).reverse⟩ with
    | .ok made => .ok () made
    | .error e =>
      if e.fault = .missing then
        (makeWay root names >>= fun _ => change (·.makeDirectory ⟨root,(name :: names).reverse⟩)).run files
      else .error e files := by
  rw [makeWay,run_tryCatch]
  unfold change EStateM.run
  dsimp only
  cases files.makeDirectory ⟨root,(name :: names).reverse⟩ with
  | ok made => rfl
  | error e =>
    dsimp only
    split <;> rfl

theorem resolve_walked (walked : files.walk (start p) p.parts = .ok place) :
    files.resolve p = .ok place ∨ files.resolve p = .error ⟨.nameTooLong,p⟩ := by
  unfold resolve
  rw [walked]
  dsimp only
  split
  · exact .inr rfl
  · exact .inl rfl

/-- No directory is made where there is one, unless the path is too long for that. -/
theorem makeDirectories_there (root : String) (walked : files.walk (start ⟨root,names⟩) names = .ok directory)
    (inside : files.isDirectory directory = true)
    (made : files.makeDirectories root names.reverse = .ok after) : after = files := by
  unfold makeDirectories at made
  cases backwards : names.reverse with
  | nil =>
    rw [backwards] at made
    cases made
    rfl
  | cons name above =>
    have whole : (name :: above).reverse = names := by rw [← backwards,List.reverse_reverse]
    rw [backwards,makeWay_cons,whole] at made
    rcases resolve_walked (p := ⟨root,names⟩) walked with resolved | long
    · have kept : files.makeDirectory ⟨root,names⟩ = .ok files := by
        unfold makeDirectory
        rw [resolved]
        exact if_pos inside
      rw [kept] at made
      cases made
      rfl
    · have stops : files.makeDirectory ⟨root,names⟩ = .error ⟨.nameTooLong,⟨root,names⟩⟩ := by
        unfold makeDirectory
        rw [long]
        rfl
      rw [stops] at made
      cases made

theorem placeOf_ok : files.placeOf p = .ok place ↔
    files.resolve p = .ok place ∧ files.isDirectory place = false := by
  unfold placeOf
  rw [bind_ok]
  constructor
  · rintro ⟨found,resolved,free⟩
    split at free
    · cases free
    next file =>
      cases free
      exact ⟨resolved,by simpa using file⟩
  · rintro ⟨resolved,file⟩
    exact ⟨place,resolved,if_neg (by simp [file])⟩

theorem placeFor_ok : files.placeFor p = .ok place ↔
    ∃ after, files.makeDirectories p.root p.parent.parts.reverse = .ok after ∧
      after.resolve p = .ok place ∧ after.isDirectory place = false := by
  unfold placeFor
  simp only [bind_ok,placeOf_ok]

theorem placeFor_there (walked : files.walk (start p) p.parts.dropLast = .ok directory)
    (inside : files.isDirectory directory = true) (placed : files.placeFor p = .ok place) :
    files.makeDirectories p.root p.parent.parts.reverse = .ok files ∧ files.resolve p = .ok place := by
  obtain ⟨after,made,resolved,-⟩ := placeFor_ok.mp placed
  obtain rfl := makeDirectories_there p.root walked inside made
  exact ⟨made,resolved⟩

/-! ### A file that is written -/

theorem put_isDirectory (onWay : files.Reached place) (other : Place) :
    (files.put place data).isDirectory other = files.isDirectory other := by
  have added : (files.put place data).isDirectory other =
      ((other.isPrefixOf place && other ≠ place) || files.isDirectory other) := by
    simp only [isDirectory,put,List.any_cons,Bool.or_left_comm]
  rw [added]
  -- what the new file stands in has been on its way, so it was a directory before
  by_cases before : other <+: place ∧ other ≠ place
  · rw [onWay other before.1 before.2,Bool.or_true]
  · rw [← List.isPrefixOf_iff_prefix] at before
    have apart : (other.isPrefixOf place && other ≠ place) = false := by simpa using before
    rw [apart,Bool.false_or]

theorem put_resolve (onWay : files.Reached place) (resolved : files.resolve p = .ok reached) :
    (files.put place data).resolve p = .ok reached :=
  resolve_mono (fun other inside => (put_isDirectory onWay other).trans inside) resolved

end DocPress.Command.Files
