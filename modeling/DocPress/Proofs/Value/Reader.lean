import Mathlib.Data.List.Find
import DocPress.Value.Reader
import DocPress.Proofs.Text.LineEnd

/-! Reading values from texts whose line ends are unified. Between the parts of a value all line ends are
blanks, and within them there are none. Main statement: the value is the same (`ofJson_unifyLineEnds`). -/

namespace DocPress.Value.Reader
open DocPress.Text (unifyLineEnds)

variable {α β : Type} {a b : Cursor} {cs word : List Char} {d : Char} {k l m n : Nat}

/-! ### Two texts -/

/-- Cursors in a text and in the same text with unified line ends, with at most so much left of each. -/
structure Together (a b : Cursor) (n m : Nat) : Prop where
  rest : b.rest = unifyLineEnds a.rest
  left : a.rest.length ≤ n
  leftToo : b.rest.length ≤ m

/-- Two readings that both fail, or come to the same and leave the cursors together. -/
inductive Alike (n m : Nat) : Except ReadError (α × Cursor) → Except ReadError (α × Cursor) → Prop where
  | read (v : α) {a b : Cursor} (together : Together a b n m) : Alike n m (.ok (v,a)) (.ok (v,b))
  | failed {e f : ReadError} : Alike n m (.error e) (.error f)

theorem Alike.bind {x y : Except ReadError (α × Cursor)}
    {f g : α × Cursor → Except ReadError (β × Cursor)} (first : Alike k l x y)
    (later : ∀ v a b, Together a b k l → Alike n m (f (v,a)) (g (v,b))) :
    Alike n m (x >>= f) (y >>= g) := by
  cases first with
  | read v together => exact later v _ _ together
  | failed => exact .failed

theorem Alike.mono {x y : Except ReadError (α × Cursor)} (alike : Alike k l x y) (first : k ≤ n)
    (second : l ≤ m) : Alike n m x y := by
  cases alike with
  | read v together =>
    obtain ⟨rest,left,leftToo⟩ := together
    exact .read v ⟨rest,Nat.le_trans left first,Nat.le_trans leftToo second⟩
  | failed => exact .failed

theorem advance_length (a : Cursor) (n : Nat) : (a.advance n).rest.length = a.rest.length - n :=
  List.length_drop

theorem advance_advance (a : Cursor) (n m : Nat) : (a.advance n).advance m = a.advance (n + m) := by
  unfold Cursor.advance
  rw [List.drop_drop,Nat.add_assoc]

theorem drop_stretch (p : Char → Bool) (cs : List Char) :
    cs.drop (cs.takeWhile p).length = cs.dropWhile p := by
  induction cs with
  | nil => rfl
  | cons c cs ih => cases taken : p c <;> simp [taken,ih]

theorem skipBlanks_rest (a : Cursor) : a.skipBlanks.rest =
    a.rest.dropWhile fun d => d = ' ' || d = '\t' || d = '\n' || d = '\r' :=
  drop_stretch _ _

theorem skipBlanks_length_le (a : Cursor) : a.skipBlanks.rest.length ≤ a.rest.length := by
  rw [skipBlanks_rest]
  exact (List.dropWhile_suffix _).length_le

theorem at?_take (found : a.at? word = true) : word = a.rest.take word.length :=
  List.prefix_iff_eq_take.mp (List.isPrefixOf_iff_prefix.mp found)

theorem at?_single : a.at? [d] = true ↔ ∃ cs, a.rest = d :: cs := by
  constructor
  · intro found
    obtain ⟨cs,shape⟩ := List.isPrefixOf_iff_prefix.mp found
    exact ⟨cs,shape.symm⟩
  · rintro ⟨cs,shape⟩
    exact List.isPrefixOf_iff_prefix.mpr ⟨cs,shape.symm⟩

theorem isPrefixOf_unified (carriage : '\r' ∉ word) (feed : '\n' ∉ word) :
    word.isPrefixOf (unifyLineEnds cs) = word.isPrefixOf cs := by
  induction word generalizing cs with
  | nil => rfl
  | cons w word ih =>
    rw [List.mem_cons,not_or] at carriage feed
    cases cs with
    | nil => rfl
    | cons c cs =>
      by_cases ends : c = '\r'
      · subst ends
        obtain ⟨rest,-,unified⟩ := Text.unifyLineEnds_return cs
        rw [unified,List.isPrefixOf,List.isPrefixOf]
        have first : (w == '\n') = false := beq_false_of_ne (Ne.symm feed.1)
        have second : (w == '\r') = false := beq_false_of_ne (Ne.symm carriage.1)
        rw [first,second,Bool.false_and,Bool.false_and]
      · rw [Text.unifyLineEnds_cons ends,List.isPrefixOf,List.isPrefixOf,ih carriage.2 feed.2]

namespace Together

variable (together : Together a b n m)

include together

theorem advance (plain : '\r' ∉ a.rest.take k) : Together (a.advance k) (b.advance k) (n - k) (m - k) where
  rest := by
    unfold Cursor.advance
    rw [together.rest]
    exact Text.drop_unifyLineEnds plain
  left := by
    rw [advance_length]
    exact Nat.sub_le_sub_right together.left k
  leftToo := by
    rw [advance_length]
    exact Nat.sub_le_sub_right together.leftToo k

theorem skipBlanks : Together a.skipBlanks b.skipBlanks n m where
  rest := by
    rw [skipBlanks_rest,skipBlanks_rest,together.rest]
    exact Text.dropWhile_unifyLineEnds (by decide) (by decide)
  left := Nat.le_trans (skipBlanks_length_le a) together.left
  leftToo := Nat.le_trans (skipBlanks_length_le b) together.leftToo

theorem at? (carriage : '\r' ∉ word) (feed : '\n' ∉ word) : b.at? word = a.at? word := by
  unfold Cursor.at?
  rw [together.rest,isPrefixOf_unified carriage feed]

theorem advance_word (found : a.at? word = true) (carriage : '\r' ∉ word) :
    Together (a.advance word.length) (b.advance word.length) (n - word.length) (m - word.length) := by
  refine together.advance ?_
  rwa [← at?_take found]

/-- Behind a character that is no line end, and the blanks after it. -/
theorem behind (found : a.at? [d] = true) (plain : d ≠ '\r') :
    Together (a.advance 1).skipBlanks (b.advance 1).skipBlanks (n - 1) (m - 1) :=
  (together.advance_word found (by simpa using plain.symm)).skipBlanks

theorem filled (some : a.rest ≠ []) : 0 < n ∧ 0 < m := by
  have someToo : b.rest ≠ [] := by
    rw [together.rest,Ne,Text.unifyLineEnds_eq_nil]
    exact some
  have first := List.length_pos_iff.mpr some
  have second := List.length_pos_iff.mpr someToo
  exact ⟨Nat.lt_of_lt_of_le first together.left,Nat.lt_of_lt_of_le second together.leftToo⟩

theorem filled_at (found : a.at? [d] = true) : 0 < n ∧ 0 < m := by
  obtain ⟨cs,shape⟩ := at?_single.mp found
  exact together.filled (by simp [shape])

end Together

/-! ### Strings -/

theorem codeUnit?_none (member : d ∈ cs.take 4) (other : hexValue? d = none) : codeUnit? cs = none := by
  unfold codeUnit?
  split
  next first =>
    rw [first] at member
    simp only [List.mem_cons,List.not_mem_nil,or_false] at member
    rcases member with rfl | rfl | rfl | rfl <;> simp [other]
  next => rfl

theorem codeUnit?_unified : codeUnit? (unifyLineEnds cs) = codeUnit? cs := by
  by_cases carriage : '\r' ∈ cs.take 4
  · rw [codeUnit?_none carriage (by decide),codeUnit?_none (Text.feed_mem_take carriage) (by decide)]
  · unfold codeUnit?
    rw [Text.take_unifyLineEnds carriage]

theorem codeUnit?_plain {u : Nat} (read : codeUnit? cs = some u) : '\r' ∉ cs.take 4 := by
  intro carriage
  cases (codeUnit?_none carriage (by decide)).symm.trans read

theorem length_unified_le (plain : '\r' ∉ cs.take n) : (unifyLineEnds cs).length ≤ n ↔ cs.length ≤ n := by
  rw [← List.drop_eq_nil_iff,← List.drop_eq_nil_iff,Text.drop_unifyLineEnds plain,
    Text.unifyLineEnds_eq_nil]

theorem take_add_plain (first : '\r' ∉ cs.take k) (second : '\r' ∉ (cs.drop k).take l) :
    '\r' ∉ cs.take (k + l) := by
  rw [List.take_add,List.mem_append,not_or]
  exact ⟨first,second⟩

theorem mark_plain (mark : a.at? ['\\','u'] = true) : '\r' ∉ a.rest.take 2 := by
  have first : ['\\','u'] = a.rest.take 2 := at?_take mark
  rw [← first]
  decide

theorem lowSurrogate?_unified (unified : b.rest = unifyLineEnds a.rest) :
    lowSurrogate? b = lowSurrogate? a := by
  unfold lowSurrogate? Cursor.at?
  rw [unified,isPrefixOf_unified (by decide) (by decide)]
  cases mark : ['\\','u'].isPrefixOf a.rest with
  | false => simp only [Bool.and_false,Bool.false_eq_true,if_false]
  | true =>
    rw [Text.drop_unifyLineEnds (mark_plain mark),codeUnit?_unified]
    cases code : codeUnit? (a.rest.drop 2) with
    | none => simp
    | some u =>
      have plain : '\r' ∉ a.rest.take 6 := take_add_plain (mark_plain mark) (codeUnit?_plain code)
      simp only [← Nat.not_le,length_unified_le plain]

theorem lowSurrogate?_plain {v : Nat} (low : lowSurrogate? a = some v) : '\r' ∉ a.rest.take 6 := by
  unfold lowSurrogate? at low
  split at low
  next found =>
    rw [Bool.and_eq_true] at found
    obtain ⟨code,-⟩ := Option.filter_eq_some_iff.mp low
    exact take_add_plain (mark_plain found.2) (codeUnit?_plain code)
  next => cases low

/-- A code escape fails in both texts, or is the same character, as long in both. -/
theorem codeEscape_cases (unified : b.rest = unifyLineEnds a.rest) :
    (∃ e f, codeEscape a = .error e ∧ codeEscape b = .error f) ∨
      ∃ d k, '\r' ∉ a.rest.take k ∧ codeEscape a = .ok (d,a.advance k) ∧
        codeEscape b = .ok (d,b.advance k) := by
  unfold codeEscape
  rw [unified,codeUnit?_unified]
  cases code : codeUnit? a.rest with
  | none =>
    dsimp only
    rw [ite_self,ite_self]
    exact .inl ⟨_,_,rfl,rfl⟩
  | some u =>
    have plain := codeUnit?_plain code
    have next : (b.advance 4).rest = unifyLineEnds (a.advance 4).rest := by
      unfold Cursor.advance
      rw [unified]
      exact Text.drop_unifyLineEnds plain
    simp only [length_unified_le plain,lowSurrogate?_unified next]
    split
    · exact .inl ⟨_,_,rfl,rfl⟩
    · refine .inr ?_
      split
      · cases low : lowSurrogate? (a.advance 4) with
        | none => exact ⟨_,4,plain,rfl,rfl⟩
        | some v =>
          have both := take_add_plain plain (lowSurrogate?_plain low)
          exact ⟨_,4 + 6,both,by rw [advance_advance],by rw [advance_advance]⟩
      · split <;> exact ⟨_,4,plain,rfl,rfl⟩

section String

variable {start f : Nat} {done : List Char} {c : Cursor}

theorem string_end (shape : c.rest = []) :
    string start (f + 1) done c = .error (.malformed .unterminatedString start) := by
  rw [string,shape]
  rfl

theorem string_quote (shape : c.rest = '"' :: cs) :
    string start (f + 1) done c = .ok (String.ofList done.reverse,c.advance 1) := by
  rw [string,shape]
  rfl

theorem string_code {r : Except ReadError (Char × Cursor)} (shape : c.rest = '\\' :: 'u' :: cs)
    (read : codeEscape (c.advance 2) = r) :
    string start (f + 1) done c = r >>= fun r => string start f (r.1 :: done) r.2 := by
  rw [string,shape,← read]
  rfl

theorem string_escape (shape : c.rest = '\\' :: d :: cs) (other : d ≠ 'u') :
    string start (f + 1) done c = match simpleEscape? d with
      | some e => string start f (e :: done) (c.advance 2)
      | none => .error (.malformed .badEscape c.position) := by
  rw [string,shape]
  split
  next same => cases same
  next same => exact absurd (List.cons.inj same).1 (by decide)
  next same =>
    cases same
    exact absurd rfl other
  next same =>
    cases same
    rfl
  next same => cases same
  next escape _ same =>
    cases same
    exact absurd rfl (escape d cs rfl)

theorem string_unknown (shape : c.rest = '\\' :: d :: cs) (other : d ≠ 'u')
    (unknown : simpleEscape? d = none) :
    string start (f + 1) done c = .error (.malformed .badEscape c.position) := by
  rw [string_escape shape other,unknown]

theorem string_simple {e : Char} (shape : c.rest = '\\' :: d :: cs) (other : d ≠ 'u')
    (simple : simpleEscape? d = some e) :
    string start (f + 1) done c = string start f (e :: done) (c.advance 2) := by
  rw [string_escape shape other,simple]

theorem string_lone (shape : c.rest = ['\\']) :
    string start (f + 1) done c = .error (.malformed .unterminatedString start) := by
  rw [string,shape]
  rfl

theorem string_other (shape : c.rest = d :: cs) (quote : d ≠ '"') (escape : d ≠ '\\') :
    string start (f + 1) done c = if d.toNat ≤ 0x1F then .error (.malformed .controlCharacter c.position)
      else string start f (d :: done) (c.advance 1) := by
  rw [string,shape]
  split <;> simp_all [fail]

theorem string_control (shape : c.rest = d :: cs) (quote : d ≠ '"') (escape : d ≠ '\\')
    (control : d.toNat ≤ 0x1F) :
    string start (f + 1) done c = .error (.malformed .controlCharacter c.position) := by
  rw [string_other shape quote escape,if_pos control]

theorem string_plain (shape : c.rest = d :: cs) (quote : d ≠ '"') (escape : d ≠ '\\')
    (plain : ¬ d.toNat ≤ 0x1F) :
    string start (f + 1) done c = string start f (d :: done) (c.advance 1) := by
  rw [string_other shape quote escape,if_neg plain]

variable {other : Nat}

/-- The next step of reading a string does the same in two texts: it fails, it ends the string, or it takes
one character for so many of the text. -/
inductive Moves (start other : Nat) (a b : Cursor) : Prop where
  | fails (first : ∀ f done, ∃ e, string start (f + 1) done a = .error e)
      (second : ∀ f done, ∃ e, string other (f + 1) done b = .error e)
  | ends (plain : '\r' ∉ a.rest.take 1)
      (first : ∀ f done, string start (f + 1) done a = .ok (String.ofList done.reverse,a.advance 1))
      (second : ∀ f done, string other (f + 1) done b = .ok (String.ofList done.reverse,b.advance 1))
  | takes (d : Char) (k : Nat) (read : 0 < k) (some : a.rest ≠ []) (plain : '\r' ∉ a.rest.take k)
      (first : ∀ f done, string start (f + 1) done a = string start f (d :: done) (a.advance k))
      (second : ∀ f done, string other (f + 1) done b = string other f (d :: done) (b.advance k))

theorem escape_moves (unified : b.rest = unifyLineEnds a.rest) (shape : a.rest = '\\' :: cs) :
    Moves start other a b := by
  have head := unified
  rw [shape,Text.unifyLineEnds_cons (by decide)] at head
  have some : a.rest ≠ [] := by simp [shape]
  cases cs with
  | nil => exact .fails (fun _ _ => ⟨_,string_lone shape⟩) (fun _ _ => ⟨_,string_lone head⟩)
  | cons e cs =>
    by_cases ends : e = '\r'
    · subst ends
      obtain ⟨rest,-,same⟩ := Text.unifyLineEnds_return cs
      rw [same] at head
      exact .fails (fun _ _ => ⟨_,string_unknown shape (by decide) rfl⟩)
        (fun _ _ => ⟨_,string_unknown head (by decide) rfl⟩)
    rw [Text.unifyLineEnds_cons ends] at head
    have plain : '\r' ∉ a.rest.take 2 := by simpa [shape] using Ne.symm ends
    by_cases code : e = 'u'
    · subst code
      have behind : (b.advance 2).rest = unifyLineEnds (a.advance 2).rest := by
        unfold Cursor.advance
        rw [unified]
        exact Text.drop_unifyLineEnds plain
      rcases codeEscape_cases behind with ⟨_,_,first,second⟩ | ⟨d,k,follows,first,second⟩
      · exact .fails (fun _ _ => ⟨_,string_code shape first⟩) (fun _ _ => ⟨_,string_code head second⟩)
      · rw [advance_advance] at first second
        exact .takes d (2 + k) (by omega) some (take_add_plain plain follows)
          (fun _ _ => string_code shape first) (fun _ _ => string_code head second)
    · cases simple : simpleEscape? e with
      | none =>
        exact .fails (fun _ _ => ⟨_,string_unknown shape code simple⟩)
          (fun _ _ => ⟨_,string_unknown head code simple⟩)
      | some d =>
        exact .takes d 2 (by decide) some plain (fun _ _ => string_simple shape code simple)
          (fun _ _ => string_simple head code simple)

theorem string_moves (unified : b.rest = unifyLineEnds a.rest) : Moves start other a b := by
  have head := unified
  cases shape : a.rest with
  | nil =>
    rw [shape] at head
    exact .fails (fun _ _ => ⟨_,string_end shape⟩) (fun _ _ => ⟨_,string_end head⟩)
  | cons d cs =>
    rw [shape] at head
    by_cases ends : d = '\r'
    · -- No line end stands in a string as it is.
      subst ends
      obtain ⟨rest,-,same⟩ := Text.unifyLineEnds_return cs
      rw [same] at head
      exact .fails (fun _ _ => ⟨_,string_control shape (by decide) (by decide) (by decide)⟩)
        (fun _ _ => ⟨_,string_control head (by decide) (by decide) (by decide)⟩)
    have plain : '\r' ∉ a.rest.take 1 := by simpa [shape] using Ne.symm ends
    rw [Text.unifyLineEnds_cons ends] at head
    by_cases quote : d = '"'
    · subst quote
      exact .ends plain (fun _ _ => string_quote shape) (fun _ _ => string_quote head)
    by_cases escape : d = '\\'
    · subst escape
      exact escape_moves unified shape
    by_cases control : d.toNat ≤ 0x1F
    · exact .fails (fun _ _ => ⟨_,string_control shape quote escape control⟩)
        (fun _ _ => ⟨_,string_control head quote escape control⟩)
    · exact .takes d 1 (by decide) (by simp [shape]) plain
        (fun _ _ => string_plain shape quote escape control)
        (fun _ _ => string_plain head quote escape control)

theorem string_alike {g : Nat} (together : Together a b n m) (enough : n < f) (enoughToo : m < g) :
    Alike (n - 1) (m - 1) (string start f done a) (string other g done b) := by
  induction f generalizing g done a b n m with
  | zero => omega
  | succ f ih =>
    obtain ⟨g,rfl⟩ := Nat.exists_eq_add_one_of_ne_zero (Nat.ne_zero_of_lt enoughToo)
    have moves : Moves start other a b := string_moves together.rest
    cases moves with
    | fails first second =>
      obtain ⟨_,first⟩ := first f done
      obtain ⟨_,second⟩ := second g done
      rw [first,second]
      exact .failed
    | ends plain first second =>
      rw [first,second]
      exact .read _ (together.advance plain)
    | takes d k read some plain first second =>
      obtain ⟨left,leftToo⟩ := together.filled some
      rw [first,second]
      exact (ih (together.advance plain) (by omega) (by omega)).mono (by omega) (by omega)

end String

/-- A string is read alike from its opening quote on. -/
theorem quoted_alike (together : Together a b n m) (quote : a.at? ['"'] = true) :
    Alike (n - 2) (m - 2) (string a.position (a.rest.length + 1) [] (a.advance 1))
      (string b.position (b.rest.length + 1) [] (b.advance 1)) := by
  have inside : Together (a.advance 1) (b.advance 1) (a.rest.length - 1) (b.rest.length - 1) :=
    Together.advance_word ⟨together.rest,Nat.le_refl _,Nat.le_refl _⟩ quote (by decide)
  have left := together.left
  have leftToo := together.leftToo
  exact (string_alike inside (by omega) (by omega)).mono (by omega) (by omega)

/-! ### Numbers -/

theorem digits_unified : (unifyLineEnds cs).takeWhile Char.isDigit = cs.takeWhile Char.isDigit :=
  Text.takeWhile_unifyLineEnds (by decide) (by decide)

/-- No line end comes before the last of some digits. -/
theorem digits_plain (front cs : List Char) (plain : '\r' ∉ front) :
    '\r' ∉ (front ++ cs).take ((cs.takeWhile Char.isDigit).length + front.length) := by
  have digits : cs.take (cs.takeWhile Char.isDigit).length = cs.takeWhile Char.isDigit :=
    (List.prefix_iff_eq_take.mp (List.takeWhile_prefix _)).symm
  rw [Nat.add_comm,List.take_length_add_append,digits,List.mem_append,not_or]
  refine ⟨plain,fun member => ?_⟩
  exact absurd (List.all_eq_true.mp List.all_takeWhile _ member) (by decide)

theorem wholeOf_unified : wholeOf (unifyLineEnds cs) = wholeOf cs := by
  unfold wholeOf
  rw [digits_unified]

theorem wholeOf_plain (cs : List Char) : '\r' ∉ cs.take (wholeOf cs).length := by
  have digits := digits_plain [] cs (by simp)
  unfold wholeOf
  dsimp only
  split
  next zero =>
    cases cs with
    | nil => cases zero
    | cons c cs =>
      intro carriage
      cases List.mem_singleton.mp carriage
      cases zero
  next => exact digits

theorem fractionOf_unified : fractionOf (unifyLineEnds cs) = fractionOf cs := by
  refine Text.unifyLineEnds_congr (fun _ _ => rfl) fun c cs _ => ?_
  by_cases point : c = '.'
  · subst point
    exact digits_unified
  · unfold fractionOf
    split <;> split <;> simp_all

theorem fractionOf_plain (some : fractionOf cs ≠ []) : '\r' ∉ cs.take ((fractionOf cs).length + 1) := by
  unfold fractionOf at some ⊢
  split at some
  next more => exact digits_plain ['.'] more (by decide)
  next => exact absurd rfl some

theorem signedDigits_unified : signedDigits (unifyLineEnds cs) = signedDigits cs := by
  refine Text.unifyLineEnds_congr (fun _ _ => rfl) fun c cs ends => ?_
  have digits : (c :: unifyLineEnds cs).takeWhile Char.isDigit = (c :: cs).takeWhile Char.isDigit := by
    rw [← Text.unifyLineEnds_cons ends,digits_unified]
  by_cases minus : c = '-'
  · subst minus
    rw [signedDigits,signedDigits,digits_unified]
  by_cases plus : c = '+'
  · subst plus
    rw [signedDigits,signedDigits,digits_unified]
  · unfold signedDigits
    simp [minus,plus,digits]

theorem signedDigits_plain (front cs : List Char) (plain : '\r' ∉ front) : '\r' ∉ (front ++ cs).take
    ((signedDigits cs).2.2.length + ((signedDigits cs).1 + front.length)) := by
  have signed {sign : Char} (mark : sign ≠ '\r') (more : List Char) :=
    digits_plain (front ++ [sign]) more (by simpa using ⟨plain,mark.symm⟩)
  simp only [List.append_assoc,List.length_append,List.length_singleton,List.singleton_append] at signed
  unfold signedDigits
  split
  · rw [Nat.add_comm 1]
    exact signed (by decide) _
  · rw [Nat.add_comm 1]
    exact signed (by decide) _
  · rw [Nat.zero_add]
    exact digits_plain _ _ plain

theorem powerOf_unified : powerOf (unifyLineEnds cs) = powerOf cs := by
  refine Text.unifyLineEnds_congr (fun _ _ => rfl) fun c cs _ => ?_
  by_cases small : c = 'e'
  · subst small
    rw [powerOf,powerOf,signedDigits_unified]
  by_cases capital : c = 'E'
  · subst capital
    rw [powerOf,powerOf,signedDigits_unified]
  · unfold powerOf
    simp [small,capital]

theorem powerOf_plain (cs : List Char) : '\r' ∉ cs.take ((powerOf cs).2.2.length + (powerOf cs).1) := by
  unfold powerOf
  split
  next more => exact signedDigits_plain ['e'] more (by decide)
  next more => exact signedDigits_plain ['E'] more (by decide)
  next => simp

theorem Together.pass {marks : Nat} (together : Together a b n m)
    (plain : cs ≠ [] → '\r' ∉ a.rest.take (cs.length + marks)) :
    Together (a.pass cs marks) (b.pass cs marks) n m := by
  unfold Cursor.pass
  by_cases none : cs = []
  · rw [if_pos (by simpa using none),if_pos (by simpa using none)]
    exact together
  · rw [if_neg (by simpa using none),if_neg (by simpa using none)]
    obtain ⟨rest,left,leftToo⟩ := together.advance (plain none)
    exact ⟨rest,by omega,by omega⟩

theorem unsigned_alike {start other : Nat} {negative : Bool} (together : Together a b n m) :
    Alike (n - 1) (m - 1) (unsigned start negative a) (unsigned other negative b) := by
  have whole : wholeOf b.rest = wholeOf a.rest := by rw [together.rest,wholeOf_unified]
  unfold unsigned
  rw [whole]
  dsimp only
  by_cases none : (wholeOf a.rest).isEmpty = true
  · rw [if_pos none,if_pos none]
    exact .failed
  rw [if_neg none,if_neg none]
  have digits : 0 < (wholeOf a.rest).length := List.length_pos_iff.mpr (by simpa using none)
  have first := together.advance (wholeOf_plain a.rest)
  rw [show fractionOf (b.advance (wholeOf a.rest).length).rest =
    fractionOf (a.advance (wholeOf a.rest).length).rest by rw [first.rest,fractionOf_unified]]
  have second := first.pass fractionOf_plain
  generalize (a.advance (wholeOf a.rest).length).pass _ 1 = a' at second ⊢
  generalize (b.advance (wholeOf a.rest).length).pass _ 1 = b' at second ⊢
  rw [show powerOf b'.rest = powerOf a'.rest by rw [second.rest,powerOf_unified]]
  obtain ⟨rest,left,leftToo⟩ := second.pass fun _ => powerOf_plain a'.rest
  have third : Together (a'.pass (powerOf a'.rest).2.2 (powerOf a'.rest).1)
      (b'.pass (powerOf a'.rest).2.2 (powerOf a'.rest).1) (n - 1) (m - 1) :=
    ⟨rest,by omega,by omega⟩
  split
  · split
    · exact .failed
    · exact .read _ third
  · exact .read _ third

theorem numberValue_signed {c : Cursor} (shape : c.rest = '-' :: cs) :
    numberValue c = unsigned c.position true (c.advance 1) := by
  rw [numberValue,shape]
  rfl

theorem numberValue_unsigned {c : Cursor} (shape : ∀ cs, c.rest ≠ '-' :: cs) :
    numberValue c = unsigned c.position false c := by
  unfold numberValue
  split
  next cs found => exact absurd found (shape cs)
  next => rfl

theorem numberValue_alike (together : Together a b n m) :
    Alike (n - 1) (m - 1) (numberValue a) (numberValue b) := by
  have same : b.at? ['-'] = a.at? ['-'] := together.at? (by decide) (by decide)
  by_cases signed : a.at? ['-'] = true
  · obtain ⟨as,first⟩ := at?_single.mp signed
    obtain ⟨bs,second⟩ := at?_single.mp (same.trans signed)
    have next : Together (a.advance 1) (b.advance 1) (n - 1) (m - 1) :=
      together.advance_word signed (by decide)
    rw [numberValue_signed first,numberValue_signed second]
    exact (unsigned_alike next).mono (by omega) (by omega)
  · have first (cs : List Char) (shape : a.rest = '-' :: cs) : False := signed (at?_single.mpr ⟨cs,shape⟩)
    have second (cs : List Char) (shape : b.rest = '-' :: cs) : False :=
      signed (same.symm.trans (at?_single.mpr ⟨cs,shape⟩))
    rw [numberValue_unsigned first,numberValue_unsigned second]
    exact unsigned_alike together

/-! ### Values -/

theorem words_plain : ∀ w ∈ words, '\r' ∉ w.1 ∧ '\n' ∉ w.1 ∧ w.1 ≠ [] := by decide

theorem scalar_alike (together : Together a b n m) : Alike (n - 1) (m - 1) (scalar a) (scalar b) := by
  have same : words.find? (b.at? ·.1) = words.find? (a.at? ·.1) :=
    List.find?_congr fun w member => together.at? (words_plain w member).1 (words_plain w member).2.1
  unfold scalar
  rw [same]
  cases found : words.find? (a.at? ·.1) with
  | none => exact numberValue_alike together
  | some w =>
    obtain ⟨carriage,-,some⟩ := words_plain w (List.mem_of_find?_eq_some found)
    have size := List.length_pos_iff.mpr some
    have here := List.find?_some found
    obtain ⟨rest,left,leftToo⟩ := together.advance_word here carriage
    exact .read w.2 ⟨rest,by omega,by omega⟩

section Equations

variable {f : Nat} {c : Cursor} {done : List (String × Value)} {read : List Value}

theorem value_string (shape : c.rest = '"' :: cs) : value (f + 1) c =
    string c.position (c.rest.length + 1) [] (c.advance 1) >>= fun r => .ok (.string r.1,r.2) := by
  rw [value,shape]
  rfl

theorem value_object (shape : c.rest = '\x7b' :: cs) : value (f + 1) c =
    if (c.advance 1).skipBlanks.at? ['\x7d'] then .ok (object [],(c.advance 1).skipBlanks.advance 1)
    else members f [] (c.advance 1).skipBlanks := by
  rw [value,shape]
  rfl

theorem value_array (shape : c.rest = '[' :: cs) : value (f + 1) c =
    if (c.advance 1).skipBlanks.at? [']'] then .ok (array [],(c.advance 1).skipBlanks.advance 1)
    else items f [] (c.advance 1).skipBlanks := by
  rw [value,shape]
  rfl

theorem value_scalar (quote : ¬ c.at? ['"'] = true) (brace : ¬ c.at? ['\x7b'] = true)
    (bracket : ¬ c.at? ['['] = true) : value (f + 1) c = scalar c := by
  rw [value]
  split
  next shape => exact absurd (at?_single.mpr ⟨_,shape⟩) quote
  next shape => exact absurd (at?_single.mpr ⟨_,shape⟩) brace
  next shape => exact absurd (at?_single.mpr ⟨_,shape⟩) bracket
  next => rfl

theorem members_step : members (f + 1) done c =
    if ! c.at? ['"'] then .error (.malformed .expectingKey c.position)
    else string c.position (c.rest.length + 1) [] (c.advance 1) >>= fun key =>
      if ! key.2.skipBlanks.at? [':'] then .error (.malformed .expectingColon key.2.skipBlanks.position)
      else value f (key.2.skipBlanks.advance 1).skipBlanks >>= fun v =>
        if v.2.skipBlanks.at? ['\x7d'] then .ok (object (insertField key.1 v.1 done),v.2.skipBlanks.advance 1)
        else if v.2.skipBlanks.at? [','] then
          members f (insertField key.1 v.1 done) (v.2.skipBlanks.advance 1).skipBlanks
        else .error (.malformed .expectingComma v.2.skipBlanks.position) := by
  rw [members]
  rfl

theorem items_step : items (f + 1) read c = value f c >>= fun v =>
    if v.2.skipBlanks.at? [']'] then .ok (array (v.1 :: read).reverse,v.2.skipBlanks.advance 1)
    else if v.2.skipBlanks.at? [','] then items f (v.1 :: read) (v.2.skipBlanks.advance 1).skipBlanks
    else .error (.malformed .expectingComma v.2.skipBlanks.position) := by
  rw [items]
  rfl

end Equations

/-- With enough steps, values are read alike. -/
def ValuesAlike (f : Nat) : Prop := ∀ {g n m : Nat} {a b : Cursor}, Together a b n m →
  2 * n + 1 ≤ f → 2 * m + 1 ≤ g → Alike (n - 1) (m - 1) (value f a) (value g b)

def MembersAlike (f : Nat) : Prop := ∀ {g n m : Nat} {a b : Cursor} {done : List (String × Value)},
  Together a b n m → 2 * n + 1 ≤ f → 2 * m + 1 ≤ g →
    Alike (n - 1) (m - 1) (members f done a) (members g done b)

def ItemsAlike (f : Nat) : Prop := ∀ {g n m : Nat} {a b : Cursor} {read : List Value},
  Together a b n m → 2 * n + 2 ≤ f → 2 * m + 2 ≤ g →
    Alike (n - 1) (m - 1) (items f read a) (items g read b)

variable {f : Nat}

theorem values_alike (members : MembersAlike f) (items : ItemsAlike f) : ValuesAlike (f + 1) := by
  intro g n m a b together enough enoughToo
  obtain ⟨g,rfl⟩ := Nat.exists_eq_add_one_of_ne_zero (Nat.ne_zero_of_lt enoughToo)
  -- The first characters are the same, or both line ends.
  have quotes : b.at? ['"'] = a.at? ['"'] := together.at? (by decide) (by decide)
  have braces : b.at? ['\x7b'] = a.at? ['\x7b'] := together.at? (by decide) (by decide)
  have brackets : b.at? ['['] = a.at? ['['] := together.at? (by decide) (by decide)
  by_cases quote : a.at? ['"'] = true
  · obtain ⟨as,first⟩ := at?_single.mp quote
    obtain ⟨bs,second⟩ := at?_single.mp (quotes.trans quote)
    rw [value_string first,value_string second]
    refine (quoted_alike together quote).bind fun s c d same => ?_
    exact (Alike.read _ same).mono (by omega) (by omega)
  by_cases brace : a.at? ['\x7b'] = true
  · obtain ⟨as,first⟩ := at?_single.mp brace
    obtain ⟨bs,second⟩ := at?_single.mp (braces.trans brace)
    have inside := together.behind brace (by decide)
    have filled := together.filled_at brace
    rw [value_object first,value_object second,inside.at? (by decide) (by decide)]
    cases closed : (a.advance 1).skipBlanks.at? ['\x7d'] with
    | true => exact (Alike.read _ (inside.advance_word closed (by decide))).mono (by omega) (by omega)
    | false => exact (members inside (by omega) (by omega)).mono (by omega) (by omega)
  by_cases bracket : a.at? ['['] = true
  · obtain ⟨as,first⟩ := at?_single.mp bracket
    obtain ⟨bs,second⟩ := at?_single.mp (brackets.trans bracket)
    have inside := together.behind bracket (by decide)
    have filled := together.filled_at bracket
    rw [value_array first,value_array second,inside.at? (by decide) (by decide)]
    cases closed : (a.advance 1).skipBlanks.at? [']'] with
    | true => exact (Alike.read _ (inside.advance_word closed (by decide))).mono (by omega) (by omega)
    | false => exact (items inside (by omega) (by omega)).mono (by omega) (by omega)
  · rw [value_scalar quote brace bracket,
      value_scalar (by rwa [quotes]) (by rwa [braces]) (by rwa [brackets])]
    exact scalar_alike together

theorem members_alike (values : ValuesAlike f) (members : MembersAlike f) : MembersAlike (f + 1) := by
  intro g n m a b done together enough enoughToo
  obtain ⟨g,rfl⟩ := Nat.exists_eq_add_one_of_ne_zero (Nat.ne_zero_of_lt enoughToo)
  rw [members_step,members_step,together.at? (by decide) (by decide)]
  cases quote : a.at? ['"'] with
  | false => exact .failed
  | true =>
    have filled := together.filled_at quote
    refine (quoted_alike together quote).bind fun key a' b' same => ?_
    have before := same.skipBlanks
    dsimp only
    rw [before.at? (by decide) (by decide)]
    cases colon : a'.skipBlanks.at? [':'] with
    | false => exact .failed
    | true =>
      refine (values (before.behind colon (by decide)) (by omega) (by omega)).bind fun v c d same => ?_
      have ends := same.skipBlanks
      dsimp only
      rw [ends.at? (by decide) (by decide),ends.at? (by decide) (by decide)]
      cases brace : c.skipBlanks.at? ['\x7d'] with
      | true => exact (Alike.read _ (ends.advance_word brace (by decide))).mono (by omega) (by omega)
      | false =>
        cases comma : c.skipBlanks.at? [','] with
        | false => exact .failed
        | true =>
          have filled := ends.filled_at comma
          exact (members (ends.behind comma (by decide)) (by omega) (by omega)).mono (by omega) (by omega)

theorem items_alike (values : ValuesAlike f) (items : ItemsAlike f) : ItemsAlike (f + 1) := by
  intro g n m a b read together enough enoughToo
  obtain ⟨g,rfl⟩ := Nat.exists_eq_add_one_of_ne_zero (Nat.ne_zero_of_lt enoughToo)
  rw [items_step,items_step]
  refine (values together (by omega) (by omega)).bind fun v c d same => ?_
  have ends := same.skipBlanks
  dsimp only
  rw [ends.at? (by decide) (by decide),ends.at? (by decide) (by decide)]
  cases bracket : c.skipBlanks.at? [']'] with
  | true => exact (Alike.read _ (ends.advance_word bracket (by decide))).mono (by omega) (by omega)
  | false =>
    cases comma : c.skipBlanks.at? [','] with
    | false => exact .failed
    | true =>
      have filled := ends.filled_at comma
      have next := ends.behind comma (by decide)
      exact (items next (by omega) (by omega)).mono (by omega) (by omega)

theorem read_alike (f : Nat) : ValuesAlike f ∧ MembersAlike f ∧ ItemsAlike f := by
  induction f with
  | zero => exact ⟨fun _ enough => by omega,fun _ enough => by omega,fun _ enough => by omega⟩
  | succ f ih =>
    obtain ⟨values,members,items⟩ := ih
    exact ⟨values_alike members items,members_alike values members,items_alike values items⟩

end DocPress.Value.Reader

namespace DocPress.Value
open Reader

/-- The value of a text does not depend on what its lines end with. -/
theorem ofJson_unifyLineEnds (cs : List Char) (v : Value) :
    ofJson (String.ofList (Text.unifyLineEnds cs)) = .ok v ↔ ofJson (String.ofList cs) = .ok v := by
  have start : Together (Cursor.mk cs 0) (Cursor.mk (Text.unifyLineEnds cs) 0) cs.length
    (Text.unifyLineEnds cs).length := ⟨rfl,Nat.le_refl _,Nat.le_refl _⟩
  have read := (read_alike _).1 start.skipBlanks (Nat.le_refl _) (Nat.le_refl _)
  unfold ofJson
  simp only [String.toList_ofList,Text.head?_unifyLineEnds (c := '\ufeff') (by decide) (by decide)]
  by_cases mark : cs.head? = some '\ufeff'
  · rw [if_pos mark,if_pos mark]
  rw [if_neg mark,if_neg mark]
  generalize Reader.value _ (Cursor.mk cs 0).skipBlanks = first at read ⊢
  generalize Reader.value _ (Cursor.mk (Text.unifyLineEnds cs) 0).skipBlanks = second at read ⊢
  cases read with
  | failed => exact ⟨nofun,nofun⟩
  | @read v a b together =>
    have same : b.skipBlanks.rest.isEmpty = a.skipBlanks.rest.isEmpty := by
      rw [Bool.eq_iff_iff,List.isEmpty_iff,List.isEmpty_iff,together.skipBlanks.rest,
        Text.unifyLineEnds_eq_nil]
    simp only [bind,Except.bind,same]
    split
    · rfl
    · exact ⟨nofun,nofun⟩

end DocPress.Value
