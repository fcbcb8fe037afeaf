import DocPress.Markdown.Parse

/-! Texts with their line ends unified: where such a text is the one that it comes from, and what does not
tell the two apart. Main statement: reading Markdown does not (`parse_unifyLineEnds`). -/

namespace DocPress.Text

variable {c : Char} {cs front : List Char} {p : Char → Bool} {n : Nat}

theorem unifyLineEnds_nil : unifyLineEnds [] = [] := rfl

theorem unifyLineEnds_cons (plain : c ≠ '\r') : unifyLineEnds (c :: cs) = c :: unifyLineEnds cs := by
  rw [unifyLineEnds]
  · rintro cs rfl
    exact absurd rfl plain
  · exact fun same => absurd same plain

/-- A carriage return becomes a line feed, and takes the line feed behind it along. -/
theorem unifyLineEnds_return (cs : List Char) :
    ∃ rest, (rest = cs ∨ cs = '\n' :: rest) ∧ unifyLineEnds ('\r' :: cs) = '\n' :: unifyLineEnds rest := by
  cases cs with
  | nil => exact ⟨[],.inl rfl,rfl⟩
  | cons d ds =>
    by_cases feed : d = '\n'
    · subst feed
      exact ⟨ds,.inr rfl,rfl⟩
    · refine ⟨d :: ds,.inl rfl,?_⟩
      rw [unifyLineEnds]
      rintro ds same
      exact absurd (List.cons.inj same).1 feed

theorem unifyLineEnds_append (plain : '\r' ∉ front) :
    unifyLineEnds (front ++ cs) = front ++ unifyLineEnds cs := by
  induction front with
  | nil => rfl
  | cons c front ih =>
    rw [List.mem_cons,not_or] at plain
    rw [List.cons_append,unifyLineEnds_cons (Ne.symm plain.1),ih plain.2,List.cons_append]

theorem unifyLineEnds_of_plain (plain : '\r' ∉ cs) : unifyLineEnds cs = cs := by
  have whole : unifyLineEnds (cs ++ []) = cs ++ unifyLineEnds [] := unifyLineEnds_append plain
  rwa [List.append_nil,unifyLineEnds_nil,List.append_nil] at whole

theorem return_notMem (cs : List Char) : '\r' ∉ unifyLineEnds cs := by
  fun_induction unifyLineEnds cs <;> simp_all [eq_comm]

theorem unifyLineEnds_idem (cs : List Char) : unifyLineEnds (unifyLineEnds cs) = unifyLineEnds cs :=
  unifyLineEnds_of_plain (return_notMem cs)

theorem unifyLineEnds_eq_nil : unifyLineEnds cs = [] ↔ cs = [] := by
  cases cs with
  | nil => exact iff_of_true unifyLineEnds_nil rfl
  | cons c cs =>
    by_cases ends : c = '\r'
    · subst ends
      obtain ⟨rest,-,unified⟩ := unifyLineEnds_return cs
      rw [unified]
      exact iff_of_false nofun nofun
    · rw [unifyLineEnds_cons ends]
      exact iff_of_false nofun nofun

/-- Nothing changes before the first carriage return. -/
theorem unifyLineEnds_parted (plain : '\r' ∉ cs.take n) :
    unifyLineEnds cs = cs.take n ++ unifyLineEnds (cs.drop n) := by
  rw [← unifyLineEnds_append plain,List.take_append_drop]

theorem take_unifyLineEnds (plain : '\r' ∉ cs.take n) : (unifyLineEnds cs).take n = cs.take n := by
  rw [unifyLineEnds_parted plain]
  rcases Nat.le_total n cs.length with long | short
  · rw [List.take_left' (List.length_take_of_le long)]
  · rw [List.drop_of_length_le short,unifyLineEnds_nil,List.append_nil,List.take_take,Nat.min_self]

theorem drop_unifyLineEnds (plain : '\r' ∉ cs.take n) :
    (unifyLineEnds cs).drop n = unifyLineEnds (cs.drop n) := by
  rw [unifyLineEnds_parted plain]
  rcases Nat.le_total n cs.length with long | short
  · rw [List.drop_left' (List.length_take_of_le long)]
  · rw [List.drop_of_length_le short,unifyLineEnds_nil,List.append_nil,List.drop_take,Nat.sub_self,
      List.take_zero]

/-- What tells no line end at the front from another, and nothing apart behind other characters. -/
theorem unifyLineEnds_congr {α : Type} {f : List Char → α} (ends : ∀ as bs, f ('\n' :: as) = f ('\r' :: bs))
    (later : ∀ c cs, c ≠ '\r' → f (c :: unifyLineEnds cs) = f (c :: cs)) : f (unifyLineEnds cs) = f cs := by
  cases cs with
  | nil => rfl
  | cons c cs =>
    by_cases carriage : c = '\r'
    · subst carriage
      obtain ⟨rest,-,unified⟩ := unifyLineEnds_return cs
      rw [unified,ends]
    · rw [unifyLineEnds_cons carriage,later c cs carriage]

theorem head?_unifyLineEnds (carriage : c ≠ '\r') (feed : c ≠ '\n') :
    (unifyLineEnds cs).head? = some c ↔ cs.head? = some c := by
  cases cs with
  | nil => rfl
  | cons d cs =>
    by_cases ends : d = '\r'
    · subst ends
      obtain ⟨rest,-,unified⟩ := unifyLineEnds_return cs
      rw [unified,List.head?_cons,List.head?_cons,Option.some_inj,Option.some_inj]
      exact ⟨fun same => absurd same.symm feed,fun same => absurd same.symm carriage⟩
    · rw [unifyLineEnds_cons ends,List.head?_cons,List.head?_cons]

/-- Among the first characters there is a line feed once a carriage return was there. -/
theorem feed_mem_take (carriage : '\r' ∈ cs.take n) : '\n' ∈ (unifyLineEnds cs).take n := by
  induction cs generalizing n with
  | nil => simp at carriage
  | cons c cs ih =>
    cases n with
    | zero => simp at carriage
    | succ n =>
      by_cases ends : c = '\r'
      · subst ends
        obtain ⟨rest,-,unified⟩ := unifyLineEnds_return cs
        rw [unified]
        exact List.mem_cons_self
      · rw [List.take_succ_cons,List.mem_cons] at carriage
        rw [unifyLineEnds_cons ends]
        exact List.mem_cons_of_mem _ (ih (carriage.resolve_left (Ne.symm ends)))

/-- A stretch without line ends stays as it is. -/
theorem takeWhile_unifyLineEnds (carriage : p '\r' = false) (feed : p '\n' = false) :
    (unifyLineEnds cs).takeWhile p = cs.takeWhile p := by
  induction cs with
  | nil => rfl
  | cons c cs ih =>
    by_cases ends : c = '\r'
    · subst ends
      obtain ⟨rest,-,unified⟩ := unifyLineEnds_return cs
      rw [unified,List.takeWhile_cons_of_neg (by simp [feed]),List.takeWhile_cons_of_neg (by simp [carriage])]
    · rw [unifyLineEnds_cons ends,List.takeWhile_cons,List.takeWhile_cons,ih]

/-- Blanks may be skipped before or after line ends are unified. -/
theorem dropWhile_unifyLineEnds (carriage : p '\r' = true) (feed : p '\n' = true) :
    (unifyLineEnds cs).dropWhile p = unifyLineEnds (cs.dropWhile p) := by
  fun_induction unifyLineEnds cs with
  | case1 cs ih => simp [carriage,feed,ih]
  | case2 cs _ ih => simp [carriage,feed,ih]
  | case3 c cs one two ih =>
    have plain : c ≠ '\r' := fun same => two same
    cases skipped : p c with
    | true => simp [skipped,ih]
    | false => simp [skipped,unifyLineEnds_cons plain]
  | case4 => rfl

end DocPress.Text

namespace DocPress.Markdown

theorem normalizeLineEnds_unified (source : String) :
    normalizeLineEnds (String.ofList (Text.unifyLineEnds source.toList)) = normalizeLineEnds source := by
  unfold normalizeLineEnds
  rw [String.toList_ofList,Text.unifyLineEnds_idem]

theorem parse_unifyLineEnds (source : String) :
    parse (String.ofList (Text.unifyLineEnds source.toList)) = parse source := by
  unfold parse tokens outlineOf
  rw [normalizeLineEnds_unified]

end DocPress.Markdown
