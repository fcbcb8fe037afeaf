import DocPress.Text.PathName

/-! Paths that are a mere file name. -/

namespace DocPress.Text

variable {name : String} {cs : List Char}

/-- A text that a file can be called by: one part of a path that leads into a directory. -/
structure IsFileName (name : String) : Prop where
  some : name ≠ ""
  whole : '/' ∉ name.toList
  plain : '\x00' ∉ name.toList
  here : name ≠ "."
  above : name ≠ ".."

namespace PathName

theorem splitSlashes_of_whole (whole : '/' ∉ cs) : splitSlashes cs = [cs] := by
  induction cs with
  | nil => rfl
  | cons c cs ih =>
    rw [List.mem_cons,not_or] at whole
    unfold splitSlashes
    split
    next same => cases same
    next same => exact absurd (List.cons.inj same).1.symm whole.1
    next same =>
      cases same
      rw [ih whole.2]

/-- A text without slashes is a path of one part, unless it is empty or a single dot. -/
theorem ofString_of_whole (some : name ≠ "") (whole : '/' ∉ name.toList) (here : name ≠ ".") :
    ofString name = ⟨"",[name]⟩ := by
  have first : name.toList.takeWhile (· == '/') = [] := by
    cases shape : name.toList with
    | nil => rfl
    | cons c cs =>
      have other : (c == '/') = false := beq_false_of_ne fun same => whole (by simp [shape,same])
      rw [List.takeWhile_cons,other]
      rfl
  have some : name.toList.isEmpty = false := by simpa using some
  have here : (name.toList == ['.']) = false := by
    refine beq_false_of_ne fun same => here ?_
    rw [← String.ofList_toList (s := name),same]
  unfold ofString
  simp [first,splitSlashes_of_whole whole,some,here]

theorem ofString_of_isFileName (isName : IsFileName name) : ofString name = ⟨"",[name]⟩ :=
  ofString_of_whole isName.some isName.whole isName.here

theorem splitSlashes_whole (cs : List Char) : ∀ piece ∈ splitSlashes cs, '/' ∉ piece := by
  fun_induction splitSlashes cs with
  | case1 => simp
  | case2 cs ih => simpa using ih
  | case3 c cs other none ih => simpa using fun same => other same.symm
  | case4 c cs other piece pieces split ih =>
    rw [split] at ih
    obtain ⟨first,rest⟩ := List.forall_mem_cons.mp ih
    refine List.forall_mem_cons.mpr ⟨?_,rest⟩
    rw [List.mem_cons,not_or]
    exact ⟨fun same => other same.symm,first⟩

theorem part_whole {part : String} (member : part ∈ (ofString name).parts) : '/' ∉ part.toList := by
  obtain ⟨piece,found,rfl⟩ := List.mem_map.mp member
  rw [String.toList_ofList]
  exact splitSlashes_whole _ _ (List.mem_filter.mp found).1

theorem name_whole (name : String) : '/' ∉ (ofString name).name.toList := by
  unfold PathName.name
  rw [List.getLastD_eq_getLast?]
  cases last : (ofString name).parts.getLast? with
  | none => simp
  | some part => exact part_whole (List.mem_of_getLast? last)

theorem toString_name (name : String) : (PathName.mk "" [name]).toString = name := by
  unfold toString
  rw [if_neg (by simp)]
  exact String.empty_append

end PathName

/-! ### Extensions -/

theorem lastDot?_append (stem : List Char) {ending : List Char} (plain : '.' ∉ ending) :
    lastDot? (stem ++ '.' :: ending) = some stem.length := by
  have tail : (stem ++ '.' :: ending).reverse.takeWhile (· != '.') = ending.reverse := by
    have free : ∀ c ∈ ending.reverse, (c != '.') = true := fun c member =>
      bne_iff_ne.mpr fun same => plain (same ▸ List.mem_reverse.mp member)
    rw [List.reverse_append,List.reverse_cons,List.append_assoc,List.takeWhile_append_of_pos free]
    simp
  unfold lastDot?
  dsimp only
  rw [tail,List.length_reverse,List.length_append,List.length_cons,if_pos (by omega)]
  congr 1
  omega

theorem stemOf_append {stem ending : String} (some : stem ≠ "") (filled : ending ≠ "")
    (plain : '.' ∉ ending.toList) : stemOf (stem ++ ("." ++ ending)) = stem := by
  have chars : (stem ++ ("." ++ ending)).toList = stem.toList ++ '.' :: ending.toList := by
    rw [String.toList_append,String.toList_append]
    rfl
  have before : 0 < stem.toList.length := List.length_pos_iff.mpr (by simpa using some)
  have behind : 0 < ending.toList.length := List.length_pos_iff.mpr (by simpa using filled)
  unfold stemOf
  dsimp only
  rw [chars,lastDot?_append _ plain]
  dsimp only
  rw [if_pos (by simp [before]; omega),List.take_left,String.ofList_toList]

theorem stemOf_append_extensionOf (name : String) : stemOf name ++ extensionOf name = name := by
  unfold stemOf extensionOf
  dsimp only
  split
  · split
    · rw [← String.ofList_append,List.take_append_drop,String.ofList_toList]
    · exact String.append_empty
  · exact String.append_empty

theorem extensionOf_eq_iff {ending : String} : extensionOf name = ending ↔ name = stemOf name ++ ending := by
  have whole := stemOf_append_extensionOf name
  constructor
  · rintro rfl
    exact whole.symm
  · intro same
    have chars := congrArg String.toList (whole.trans same)
    rw [String.toList_append,String.toList_append,List.append_cancel_left_eq] at chars
    exact String.toList_inj.mp chars

theorem stemOf_prefix (name : String) : (stemOf name).toList <+: name.toList := by
  unfold stemOf
  dsimp only
  split
  · split
    · rw [String.toList_ofList]
      exact List.take_prefix _ _
    · exact List.prefix_rfl
  · exact List.prefix_rfl

theorem stemOf_some (some : name ≠ "") : stemOf name ≠ "" := by
  unfold stemOf
  dsimp only
  split
  next k _ =>
    split
    next inside =>
      rw [Bool.and_eq_true,decide_eq_true_eq,decide_eq_true_eq] at inside
      intro none
      have empty := congrArg String.toList none
      rw [String.toList_ofList,String.toList_empty,List.take_eq_nil_iff] at empty
      rcases empty with none | none
      · omega
      · simp [none] at inside
    next => exact some
  next => exact some

end DocPress.Text
