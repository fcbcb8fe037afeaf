import DocPress.Proofs.Command.Place
import DocPress.Proofs.Text.PathName

/-! A working directory with files in it and nothing else. -/

namespace DocPress.Command
open DocPress.Text (IsFileName PathName)

/-- The files of a directory, by their names. -/
def folder (entries : List (String × List UInt8)) : Files where
  contents := entries.map fun (name,data) => ([name],data)

namespace Files

variable {entries : List (String × List UInt8)} {name : String} {data : List UInt8}

theorem folder_top : (folder entries).isDirectory [] = true := by
  simp [isDirectory]

theorem folder_isDirectory (isName : IsFileName name) : (folder entries).isDirectory [name] = false := by
  have root : name ≠ "/" := by
    rintro rfl
    exact isName.whole (by decide)
  unfold isDirectory
  refine Bool.or_eq_false_iff.mpr ⟨by simp [root,folder],List.any_eq_false.mpr ?_⟩
  -- no file stands below another
  rintro ⟨path,data⟩ member
  obtain ⟨⟨other,_⟩,-,same⟩ := List.mem_map.mp member
  cases same
  simp

theorem folder_lookup : (folder entries).contents.lookup [name] = entries.lookup name := by
  unfold folder
  induction entries with
  | nil => rfl
  | cons entry entries ih =>
    obtain ⟨other,data⟩ := entry
    have same : ([name] == [other]) = (name == other) := by simp
    simp only [List.map_cons,List.lookup_cons,same] at ih ⊢
    rw [ih]

theorem folder_resolve (isName : IsFileName name) (short : name.utf8ByteSize ≤ maxNameLength) :
    (folder entries).resolve ⟨"",[name]⟩ = .ok [name] := by
  have inside : ¬ maxPathLength < name.utf8ByteSize :=
    Nat.not_lt.mpr (Nat.le_trans short (by decide))
  have way : (folder entries).walk (start ⟨"",[name]⟩) [name] = .ok [name] := by
    have top : start ⟨"",[name]⟩ = [] := rfl
    rw [top,walk,if_pos folder_top,if_neg (Nat.not_lt.mpr short),if_neg isName.above,walk]
    rfl
  unfold resolve
  rw [PathName.toString_name]
  dsimp only
  rw [if_neg inside,way]
  rfl

theorem folder_read (isName : IsFileName name) (short : name.utf8ByteSize ≤ maxNameLength)
    (found : entries.lookup name = some data) : (folder entries).read ⟨"",[name]⟩ = .ok data := by
  unfold read
  rw [folder_resolve isName short]
  simp only [bind,Except.bind]
  rw [if_neg (by simp [folder_isDirectory isName]),folder_lookup,found]

theorem placeFor_name (files : Files) : files.placeFor ⟨"",[name]⟩ =
    files.resolve ⟨"",[name]⟩ >>= fun place =>
      if files.isDirectory place then .error ⟨.isADirectory,⟨"",[name]⟩⟩ else .ok place := rfl

theorem folder_placeFor (isName : IsFileName name) (short : name.utf8ByteSize ≤ maxNameLength) :
    (folder entries).placeFor ⟨"",[name]⟩ = .ok [name] := by
  rw [placeFor_name,folder_resolve isName short]
  simp only [bind,Except.bind]
  rw [if_neg (by simp [folder_isDirectory isName])]

/-- There is no place for a file with a name that is too long. -/
theorem folder_placeFor_long (long : maxNameLength < name.utf8ByteSize) {place : Place} :
    (folder entries).placeFor ⟨"",[name]⟩ ≠ .ok place := by
  have way : (folder entries).walk (start ⟨"",[name]⟩) [name] = .error .nameTooLong := by
    have top : start ⟨"",[name]⟩ = [] := rfl
    rw [top,walk,if_pos folder_top,if_pos long]
  have fault : (folder entries).resolve ⟨"",[name]⟩ = .error ⟨.nameTooLong,⟨"",[name]⟩⟩ := by
    unfold resolve
    dsimp only
    rw [way,ite_self]
    rfl
  rw [placeFor_name,fault]
  intro placed
  cases placed

end Files

end DocPress.Command
