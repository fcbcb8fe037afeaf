import Mathlib.Data.Nat.Digits.Defs
import DocPress.Proofs.Value.Reader

/-! How many digits the whole numbers of a value have. Main statement: no value that is read has a number that is
too long to be shown (`ofJson_showable`). -/

namespace DocPress.Value

/-- No whole number of a value has more digits than may be shown. -/
inductive Showable : Value → Prop where
  | null : Showable null
  | bool (b : Bool) : Showable (bool b)
  | int (n : Int) (short : n.natAbs.repr.length ≤ maxDigits) : Showable (int n)
  | float (x : Number.Binary64) : Showable (float x)
  | string (s : String) : Showable (string s)
  | array (items : List Value) (all : ∀ v ∈ items, Showable v) : Showable (array items)
  | object (fields : List (String × Value)) (all : ∀ field ∈ fields, Showable field.2) :
      Showable (object fields)

theorem insertField_showable (key : String) {value : Value} {fields : List (String × Value)}
    (shown : value.Showable) (all : ∀ field ∈ fields, Showable field.2) :
    ∀ field ∈ insertField key value fields, Showable field.2 := by
  induction fields with
  | nil => simpa [insertField] using shown
  | cons first fields ih =>
    obtain ⟨first,rest⟩ := List.forall_mem_cons.mp all
    unfold insertField
    split
    · exact List.forall_mem_cons.mpr ⟨shown,rest⟩
    · exact List.forall_mem_cons.mpr ⟨first,ih rest⟩

namespace Reader

variable {α β : Type} {P : α → Prop} {Q : β → Prop} {x : Except ReadError (α × Cursor)} {c : Cursor} {f : Nat}

/-- A reading fails, or what it comes to has a property. -/
inductive Gives (P : α → Prop) : Except ReadError (α × Cursor) → Prop where
  | read {v : α} (holds : P v) (c : Cursor) : Gives P (.ok (v,c))
  | failed (e : ReadError) : Gives P (.error e)

theorem Gives.any (x : Except ReadError (α × Cursor)) : Gives (fun _ => True) x := by
  cases x with
  | ok r => exact .read trivial r.2
  | error e => exact .failed e

theorem Gives.bind {next : α × Cursor → Except ReadError (β × Cursor)} (first : Gives P x)
    (later : ∀ v c, P v → Gives Q (next (v,c))) : Gives Q (x >>= next) := by
  cases first with
  | read holds c => exact later _ c holds
  | failed e => exact .failed e

/-! ### Numbers -/

theorem digit_le {d : Char} (digit : d.isDigit = true) : d.toNat - 48 ≤ 9 := by
  unfold Char.isDigit at digit
  rw [Bool.and_eq_true,decide_eq_true_eq,decide_eq_true_eq] at digit
  have upto : d.val.toNat ≤ 57 := UInt32.le_iff_toNat_le.mp digit.2
  change d.val.toNat - 48 ≤ 9
  omega

theorem number_lt {digits : List Char} (all : ∀ d ∈ digits, d.isDigit = true) :
    number digits < 10 ^ digits.length := by
  have step (digits : List Char) (n : Nat) (all : ∀ d ∈ digits, d.isDigit = true) :
      digits.foldl (fun n d => n * 10 + (d.toNat - 48)) n < (n + 1) * 10 ^ digits.length := by
    induction digits generalizing n with
    | nil => simp
    | cons d digits ih =>
      obtain ⟨digit,rest⟩ := List.forall_mem_cons.mp all
      have small := digit_le digit
      rw [List.foldl_cons,List.length_cons,Nat.pow_succ',← Nat.mul_assoc]
      refine Nat.lt_of_lt_of_le (ih _ rest) (Nat.mul_le_mul_right _ ?_)
      omega
  simpa [number] using step digits 0 all

theorem wholeOf_digits (cs : List Char) : ∀ d ∈ wholeOf cs, d.isDigit = true := by
  unfold wholeOf
  dsimp only
  split
  · simp
  · exact List.all_eq_true.mp List.all_takeWhile

/-- Behind the limit on its digits, a whole number is shown with no more of them. -/
theorem unsigned_showable (start : Nat) (negative : Bool) (c : Cursor) :
    Gives Showable (unsigned start negative c) := by
  unfold unsigned
  dsimp only
  split
  · exact .failed _
  split
  · split
    · exact .failed _
    next short =>
      refine .read (.int _ ?_) _
      have below : number (wholeOf c.rest) < 10 ^ maxDigits :=
        Nat.lt_of_lt_of_le (number_lt (wholeOf_digits c.rest))
          (Nat.pow_le_pow_right (by decide) (Nat.not_lt.mp short))
      refine Nat.repr_length _ _ (by decide) ?_
      cases negative <;> simpa using below
  · exact .read (.float _) _

theorem words_showable : ∀ w ∈ words, Showable w.2 := by
  unfold words
  simp only [List.forall_mem_cons]
  exact ⟨.null,.bool _,.bool _,.float _,.float _,.float _,nofun⟩

theorem scalar_showable (c : Cursor) : Gives Showable (scalar c) := by
  unfold scalar
  cases found : words.find? (c.at? ·.1) with
  | none =>
    dsimp only
    unfold numberValue
    split <;> exact unsigned_showable _ _ _
  | some w => exact .read (words_showable w (List.mem_of_find?_eq_some found)) _

/-! ### Values -/

def GivesValues (f : Nat) : Prop := ∀ c, Gives Showable (value f c)

def GivesMembers (f : Nat) : Prop := ∀ (done : List (String × Value)) (c : Cursor),
  (∀ field ∈ done, Showable field.2) → Gives Showable (members f done c)

def GivesItems (f : Nat) : Prop := ∀ (read : List Value) (c : Cursor),
  (∀ v ∈ read, Showable v) → Gives Showable (items f read c)

theorem givesValues_succ (members : GivesMembers f) (items : GivesItems f) : GivesValues (f + 1) := by
  intro c
  by_cases quote : c.at? ['"'] = true
  · obtain ⟨cs,shape⟩ := at?_single.mp quote
    rw [value_string shape]
    exact (Gives.any _).bind fun s next _ => .read (.string s) next
  by_cases brace : c.at? ['\x7b'] = true
  · obtain ⟨cs,shape⟩ := at?_single.mp brace
    rw [value_object shape]
    split
    · exact .read (.object [] nofun) _
    · exact members [] _ nofun
  by_cases bracket : c.at? ['['] = true
  · obtain ⟨cs,shape⟩ := at?_single.mp bracket
    rw [value_array shape]
    split
    · exact .read (.array [] nofun) _
    · exact items [] _ nofun
  · rw [value_scalar quote brace bracket]
    exact scalar_showable c

theorem givesMembers_succ (values : GivesValues f) (members : GivesMembers f) : GivesMembers (f + 1) := by
  intro done c all
  rw [members_step]
  split
  · exact .failed _
  refine (Gives.any _).bind fun key next _ => ?_
  split
  · exact .failed _
  refine (values _).bind fun v next shown => ?_
  have more := insertField_showable key shown all
  split
  · exact .read (.object _ more) _
  split
  · exact members _ _ more
  · exact .failed _

theorem givesItems_succ (values : GivesValues f) (items : GivesItems f) : GivesItems (f + 1) := by
  intro read c all
  rw [items_step]
  refine (values c).bind fun v next shown => ?_
  have more : ∀ u ∈ v :: read, Showable u := List.forall_mem_cons.mpr ⟨shown,all⟩
  split
  · exact .read (.array _ fun u member => more u (List.mem_reverse.mp member)) _
  split
  · exact items _ _ more
  · exact .failed _

theorem read_showable (f : Nat) : GivesValues f ∧ GivesMembers f ∧ GivesItems f := by
  induction f with
  | zero => exact ⟨fun _ => .failed _,fun _ _ _ => .failed _,fun _ _ _ => .failed _⟩
  | succ f ih =>
    obtain ⟨values,members,items⟩ := ih
    exact ⟨givesValues_succ members items,givesMembers_succ values members,givesItems_succ values items⟩

end Reader

/-- The limit on the digits of numbers that are read keeps every value that is read showable. -/
theorem ofJson_showable {text : String} {v : Value} (read : ofJson text = .ok v) : v.Showable := by
  have shown := (Reader.read_showable (2 * text.toList.length + 1)).1 (Reader.Cursor.mk text.toList 0).skipBlanks
  unfold ofJson at read
  dsimp only at read
  generalize Reader.value _ (Reader.Cursor.mk text.toList 0).skipBlanks = reading at shown read
  split at read
  · cases read
  · cases shown with
    | failed e => cases read
    | @read found holds c =>
      simp only [bind,Except.bind] at read
      split at read
      · cases read
        exact holds
      · cases read

end DocPress.Value
