import DocPress.Proofs.Command.Saving

/-! What writing a document leaves alone. The directories that are made for it hold no files, so until data
comes to its place every place holds what it held. Main statement: what the place then holds (`write_left`). -/

namespace DocPress.Command
open DocPress.Text (PathName)

variable {files made after left : Files} {place other : Place} {p path : PathName} {data : List UInt8}
  {changed : List Place} {s : Surroundings}

/-! ### Files in their places -/

namespace Files

variable {ε α β : Type}

/-- The file in a place. What other files stand in is a directory. -/
def at? (files : Files) (place : Place) : Option (List UInt8) :=
  if files.isDirectory place then none else files.contents.lookup place

/-- Files after others: directories are still there, and outside of some places every file is what it was and
there is no other one. -/
structure Keeps (files after : Files) (changed : List Place) : Prop where
  inside : ∀ place, files.isDirectory place = true → after.isDirectory place = true
  holds : ∀ place, place ∉ changed → after.at? place = files.at? place

theorem read_at : files.read p = .ok data ↔ ∃ place, files.resolve p = .ok place ∧ files.at? place = some data := by
  rw [read_ok]
  refine exists_congr fun place => and_congr_right fun _ => ?_
  unfold at?
  cases files.isDirectory place <;> simp

theorem Keeps.refl (files : Files) (changed : List Place) : files.Keeps files changed :=
  ⟨fun _ inside => inside,fun _ _ => rfl⟩

theorem Keeps.trans (first : files.Keeps made []) (later : made.Keeps after changed) :
    files.Keeps after changed where
  inside place there := later.inside place (first.inside place there)
  holds place apart := (later.holds place apart).trans (first.holds place List.not_mem_nil)

/-- A path that leads to a file still does. -/
theorem Keeps.read (kept : files.Keeps after changed) (found : files.read p = .ok data)
    (apart : ∀ place, files.resolve p = .ok place → place ∉ changed) : after.read p = .ok data := by
  obtain ⟨place,resolved,held⟩ := read_at.mp found
  refine read_at.mpr ⟨place,resolve_mono kept.inside resolved,?_⟩
  rw [kept.holds place (apart place resolved)]
  exact held

/-! ### Directories that are made -/

theorem isDirectory_added : ({ files with directories := files.directories ++ [place] } : Files).isDirectory other =
    (files.isDirectory other || other = place) := by
  simp [isDirectory,Bool.or_assoc,Bool.or_comm,Bool.or_left_comm]

/-- A directory is made only where there is nothing. -/
theorem makeDirectory_keeps (done : files.makeDirectory p = .ok made) : files.Keeps made [] := by
  unfold makeDirectory at done
  obtain ⟨place,-,done⟩ := bind_ok.mp done
  by_cases there : files.isDirectory place = true
  · rw [if_pos there] at done
    cases done
    exact .refl files []
  · rw [if_neg there] at done
    split at done
    · cases done
    next nothing =>
      cases done
      have free : files.at? place = none := by
        unfold at?
        rw [if_neg there]
        exact Option.not_isSome_iff_eq_none.mp nothing
      constructor
      · intro other inside
        rw [isDirectory_added,inside,Bool.true_or]
      · intro other _
        by_cases same : other = place
        · rw [same,free]
          exact if_pos (by simp [isDirectory_added])
        · unfold at?
          rw [isDirectory_added]
          simp [same]

/-- The files behind something that is done to them, as far as that has come. -/
def leftBy : EStateM.Result ε Files α → Files
  | .ok _ left => left
  | .error _ left => left

/-- Whatever comes of an act, all files are kept. -/
def Harmless (act : EStateM ε Files α) : Prop := ∀ files : Files, files.Keeps (leftBy (act.run files)) []

theorem Harmless.pure (value : α) : Harmless (Pure.pure value : EStateM ε Files α) := fun files => .refl files []

theorem Harmless.throw (e : ε) : Harmless (throw e : EStateM ε Files α) := fun files => .refl files []

theorem Harmless.bind {act : EStateM ε Files α} {next : α → EStateM ε Files β} (first : Harmless act)
    (later : ∀ value, Harmless (next value)) : Harmless (act >>= next) := by
  intro files
  have kept := first files
  rw [EStateM.run_bind]
  cases came : act.run files with
  | ok value made =>
    rw [came] at kept
    exact kept.trans (later value made)
  | error e left =>
    rw [came] at kept
    exact kept

theorem Harmless.tryCatch {act : EStateM ε Files α} {instead : ε → EStateM ε Files α} (first : Harmless act)
    (later : ∀ e, Harmless (instead e)) : Harmless (tryCatch act instead) := by
  intro files
  have kept := first files
  rw [run_tryCatch]
  cases came : act.run files with
  | ok value made =>
    rw [came] at kept
    exact kept
  | error e left =>
    rw [came] at kept
    exact kept.trans (later e left)

theorem change_makeDirectory_harmless (p : PathName) : Harmless (change (·.makeDirectory p)) := by
  intro files
  unfold change EStateM.run
  dsimp only
  cases done : files.makeDirectory p with
  | ok made => exact makeDirectory_keeps done
  | error e => exact .refl files []

/-- Directories that are made on the way stay where another one fails, but no file changes. -/
theorem makeWay_harmless (root : String) (names : List String) : Harmless (makeWay root names) := by
  induction names with
  | nil => exact .pure ()
  | cons name names ih =>
    have make := change_makeDirectory_harmless ⟨root,(name :: names).reverse⟩
    rw [makeWay]
    refine make.tryCatch fun e => ?_
    split
    · exact ih.bind fun _ => make
    · exact .throw e

/-! ### A file that is written -/

theorem put_keeps (onWay : files.Reached place) : files.Keeps (files.put place data) [place] := by
  constructor
  · intro other inside
    exact (put_isDirectory onWay other).trans inside
  · intro other apart
    have apart : other ≠ place := fun same => apart (List.mem_singleton.mpr same)
    unfold at?
    rw [put_isDirectory onWay]
    unfold put
    rw [List.lookup_cons,beq_false_of_ne apart]

theorem put_at (onWay : files.Reached place) (file : files.isDirectory place = false) :
    (files.put place data).at? place = some data := by
  unfold at?
  rw [put_isDirectory onWay,if_neg (by simp [file])]
  exact List.lookup_cons_self

end Files

/-- Data is where a path leads, and all else is what it was. -/
def Files.Gains (files left : Files) (path : PathName) (data : List UInt8) : Prop :=
  ∃ place, left.resolve path = .ok place ∧ left.read path = .ok data ∧ files.Keeps left [place]

theorem gains_put (placed : files.placeOf path = .ok place) : files.Gains (files.put place data) path data := by
  obtain ⟨resolved,file⟩ := Files.placeOf_ok.mp placed
  have onWay := Files.resolve_reached resolved
  have leads : (files.put place data).resolve path = .ok place := Files.put_resolve onWay resolved
  refine ⟨place,leads,?_,Files.put_keeps onWay⟩
  exact Files.read_at.mpr ⟨place,leads,Files.put_at onWay file⟩

theorem Files.Keeps.gains (kept : files.Keeps made []) (gained : made.Gains left path data) :
    files.Gains left path data := by
  obtain ⟨place,leads,written,later⟩ := gained
  exact ⟨place,leads,written,kept.trans later⟩

theorem Files.Gains.keeps (gained : files.Gains left path data) (leads : left.resolve path = .ok place) :
    files.Keeps left [place] := by
  obtain ⟨_,again,-,kept⟩ := gained
  cases leads.symm.trans again
  exact kept

/-- The data is found by every path that has led to its place. -/
theorem Files.Gains.read (gained : files.Gains left path data) (leads : left.resolve path = .ok place)
    (same : files.resolve p = .ok place) : left.read p = .ok data := by
  have kept := gained.keeps leads
  obtain ⟨_,-,written,-⟩ := gained
  obtain ⟨_,again,held⟩ := Files.read_at.mp written
  cases leads.symm.trans again
  exact Files.read_at.mpr ⟨place,Files.resolve_mono kept.inside same,held⟩

/-- What is left once data has been written where a path leads. -/
def Files.Leaves (files left : Files) (path : PathName) (data : List UInt8) : WriteEnd → Prop
  | .kept => files.Gains left path data
  | .brokenOff length _ => files.Gains left path (data.take length)
  | .swallowed | .refused _ => files.Keeps left []

theorem Files.Keeps.leaves {e : WriteEnd} (kept : files.Keeps made []) (leaves : made.Leaves left path data e) :
    files.Leaves left path data e := by
  cases e with
  | kept => exact kept.gains leaves
  | brokenOff length report => exact kept.gains leaves
  | swallowed => exact kept.trans leaves
  | refused report => exact kept.trans leaves

theorem leaves_put (placed : files.placeOf path = .ok place) (e : WriteEnd) :
    (e.put place data files).resolve path = .ok place ∧ files.Leaves (e.put place data files) path data e := by
  have resolved := (Files.placeOf_ok.mp placed).1
  have onWay := Files.resolve_reached resolved
  cases e with
  | kept => exact ⟨Files.put_resolve onWay resolved,gains_put placed⟩
  | brokenOff length report => exact ⟨Files.put_resolve onWay resolved,gains_put placed⟩
  | swallowed => exact ⟨resolved,.refl files []⟩
  | refused report => exact ⟨resolved,.refl files []⟩

/-- Data has been written where a path leads, and has come to an end there. -/
def Ends (s : Surroundings) (files left : Files) (path : PathName) (data : List UInt8) (e : WriteEnd) : Prop :=
  ∃ place, left.resolve path = .ok place ∧ s.writing place = e ∧ files.Leaves left path data e

/-- A document has been written, and nothing is said against it. -/
structure Written.Stands (w : Written) (s : Surroundings) (files left : Files) : Prop where
  leads : left.resolve w.path = .ok w.place
  unreported : (s.writing w.place).report? = none
  leaves : files.Leaves left w.path w.package.toBytes (s.writing w.place)

/-- Every file is kept, until a document comes to its place and is written there. -/
theorem write_left (path : PathName) (package : Package) (files : Files) :
    match (write path package s).run files with
    | .ok w left => w.path = path ∧ w.package = package ∧ w.Stands s files left
    | .error stop left => files.Keeps left [] ∨
        ∃ e report, Ends s files left path package.toBytes e ∧ e.report? = some report ∧
          stop = .report report := by
  rw [write_run]
  by_cases above : hasNull path.parent.toString = true
  · rw [if_pos above]
    exact .inl (.refl files [])
  · rw [if_neg above]
    have kept := Files.makeWay_harmless path.root path.parent.parts.reverse files
    cases way : (Files.makeWay path.root path.parent.parts.reverse).run files with
    | error e left =>
      rw [way] at kept
      exact .inl kept
    | ok _ made =>
      rw [way] at kept
      dsimp only
      by_cases last : hasNull path.name = true
      · rw [if_pos last]
        exact .inl kept
      · rw [if_neg last]
        cases placed : made.placeOf path with
        | error e => exact .inl kept
        | ok place =>
          obtain ⟨leads,leaves⟩ := @leaves_put made place path package.toBytes placed (s.writing place)
          dsimp only
          rw [land_run]
          cases reported : (s.writing place).report? with
          | none => exact ⟨rfl,rfl,leads,reported,kept.leaves leaves⟩
          | some report => exact .inr ⟨_,report,⟨place,leads,rfl,kept.leaves leaves⟩,reported,rfl⟩

end DocPress.Command
