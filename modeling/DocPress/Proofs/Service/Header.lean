import DocPress.Proofs.Text.Percent
import DocPress.Proofs.Text.Utf8

/-! Reading the header that says what an answer is to be taken for. It has a kind and, behind semicolons,
parameters with a name and a value each. A value is a word or a text in quotes, where a backslash stands
before a character that is to be taken as it is; behind a name with a star it is percent encoded, with a
character set and a language in front (RFC 5987). Main statement: a value that is read is shorter than what
it is read from (`parameters?_shorter`). -/

namespace DocPress.Service.Header

def isBlank (c : Char) : Bool := c = ' ' || c = '\t'

/-- A character that words have. -/
def isWordChar (c : Char) : Bool :=
  c.isAlphanum || ['!','#','$','%','&','\x27','*','+','-','.','^','_','\x60','|','~'].contains c

/-- A character that stands for itself in quotes: none that ends or escapes, and no control but the tab. -/
def isQuotable (c : Char) : Bool :=
  c = '\t' || (0x20 ≤ c.toNat && c.toNat ≠ 0x7F && c ≠ '"' && c ≠ '\\')

/-- A character that stands for itself in a percent encoded value. -/
def isAttributeChar (c : Char) : Bool :=
  c.isAlphanum || ['!','#','$','&','+','-','.','^','_','\x60','|','~'].contains c

/-- A character of a percent encoded value, or of what stands before it. -/
def isExtendedChar (c : Char) : Bool := isAttributeChar c || c = '%' || c = '\x27'

/-- Takes the characters of a class in front, of which there must be one. -/
def take? (isOf : Char → Bool) (cs : List Char) : Option (List Char × List Char) :=
  let word := cs.takeWhile isOf
  if word.isEmpty then none else some (word,cs.dropWhile isOf)

/-- Reads a text in quotes behind the first of them, and takes the last one off. -/
def quoted? : List Char → Option (List Char × List Char)
  | [] => none
  | '"' :: cs => some ([],cs)
  | '\\' :: c :: cs => (quoted? cs).map fun (text,rest) => (c :: text,rest)
  | c :: cs => if isQuotable c then (quoted? cs).map fun (text,rest) => (c :: text,rest) else none

/-- Reads a percent encoded text with its character set, which is to be UTF-8, and its language. -/
def extended? (cs : List Char) : Option (List Char) :=
  match cs.dropWhile (· ≠ '\x27') with
  | [] => none
  | _ :: behind =>
    match behind.dropWhile (· ≠ '\x27') with
    | [] => none
    | _ :: value =>
      if (cs.takeWhile (· ≠ '\x27')).map Char.toLower = ['u','t','f','-','8'] then
        (Text.percentDecode? isAttributeChar value).bind fun bytes => (Text.Utf8.decodeFrom 0 bytes).toOption
      else none

def value? (isExtended : Bool) (cs : List Char) : Option (List Char × List Char) :=
  if isExtended then
    (take? isExtendedChar cs).bind fun (raw,rest) => (extended? raw).map fun text => (text,rest)
  else match cs with
    | '"' :: cs => quoted? cs
    | cs => take? isWordChar cs

/-- Reads a parameter; letters of any case mean the same in its name. -/
def parameter? (cs : List Char) : Option ((String × String) × List Char) :=
  (take? isWordChar cs).bind fun (name,rest) =>
    match rest.dropWhile isBlank with
    | '=' :: rest => (value? (name.getLast? = some '*') (rest.dropWhile isBlank)).map fun (text,rest) =>
        ((String.ofList (name.map Char.toLower),String.ofList text),rest)
    | _ => none

variable {isOf : Char → Bool} {isExtended : Bool} {cs word text rest : List Char} {p : String × String}
  {ps : List (String × String)}

theorem dropWhile_length (isOf : Char → Bool) (cs : List Char) : (cs.dropWhile isOf).length ≤ cs.length :=
  (List.dropWhile_suffix isOf).length_le

theorem take?_length (taken : take? isOf cs = some (word,rest)) : word.length + rest.length = cs.length := by
  unfold take? at taken
  dsimp only at taken
  split at taken
  · cases taken
  · cases taken
    rw [← List.length_append,List.takeWhile_append_dropWhile]

/-- A text in quotes is what stands there, or it is shorter by its backslashes. -/
theorem quoted?_read (read : quoted? cs = some (text,rest)) :
    (cs = text ++ '"' :: rest ∧ ∀ c ∈ text, isQuotable c) ∨ text.length + rest.length + 1 < cs.length := by
  fun_induction quoted? cs generalizing text with
  | case1 => cases read
  | case2 cs =>
    cases read
    exact .inl ⟨rfl,by simp⟩
  | case3 c cs ih =>
    obtain ⟨⟨later,rest⟩,found,same⟩ := Option.map_eq_some_iff.mp read
    cases same
    rcases ih found with ⟨rfl,-⟩ | shorter
    · refine .inr ?_
      simp
      omega
    · refine .inr ?_
      simp only [List.length_cons]
      omega
  | case4 c cs other escape quotable ih =>
    obtain ⟨⟨later,rest⟩,found,same⟩ := Option.map_eq_some_iff.mp read
    cases same
    rcases ih found with ⟨rfl,plain⟩ | shorter
    · exact .inl ⟨rfl,List.forall_mem_cons.mpr ⟨quotable,plain⟩⟩
    · refine .inr ?_
      simp only [List.length_cons]
      omega
  | case5 => cases read

theorem quoted?_length (read : quoted? cs = some (text,rest)) : text.length + rest.length < cs.length := by
  rcases quoted?_read read with ⟨rfl,-⟩ | shorter
  · simp
  · omega

theorem extended?_length (read : extended? cs = some text) : text.length ≤ cs.length := by
  unfold extended? at read
  split at read
  · cases read
  next behind first =>
    split at read
    · cases read
    next value second =>
      split at read
      · obtain ⟨bytes,decoded,meant⟩ := Option.bind_eq_some_iff.mp read
        have short := dropWhile_length (· ≠ '\x27') cs
        have shorter := dropWhile_length (· ≠ '\x27') behind
        have fewer := Text.percentDecode?_length decoded
        rw [first] at short
        rw [second] at shorter
        cases found : Text.Utf8.decodeFrom 0 bytes with
        | error e =>
          rw [found] at meant
          cases meant
        | ok cs =>
          rw [found] at meant
          cases meant
          have fewest := Text.Utf8.decodeFrom_length found
          simp only [List.length_cons] at short shorter
          omega
      · cases read

theorem value?_length (read : value? isExtended cs = some (text,rest)) :
    text.length + rest.length ≤ cs.length := by
  unfold value? at read
  split at read
  · obtain ⟨⟨raw,behind⟩,taken,read⟩ := Option.bind_eq_some_iff.mp read
    obtain ⟨meant,found,same⟩ := Option.map_eq_some_iff.mp read
    cases same
    have whole := take?_length taken
    have short := extended?_length found
    omega
  · split at read
    · have shorter := quoted?_length read
      simp only [List.length_cons]
      omega
    · exact Nat.le_of_eq (take?_length read)

theorem parameter?_length (read : parameter? cs = some (p,rest)) :
    p.2.toList.length + rest.length ≤ cs.length := by
  obtain ⟨⟨name,behind⟩,taken,read⟩ := Option.bind_eq_some_iff.mp read
  dsimp only at read
  split at read
  next following equals =>
    obtain ⟨⟨text,left⟩,found,same⟩ := Option.map_eq_some_iff.mp read
    cases same
    have whole := take?_length taken
    have short := dropWhile_length isBlank behind
    have shorter := dropWhile_length isBlank following
    have shortest := value?_length found
    rw [equals,List.length_cons] at short
    rw [String.toList_ofList]
    dsimp only
    omega
  next => cases read

/-- Reads the next parameter and the semicolon before it. -/
def next? (cs : List Char) : Option ((String × String) × List Char) :=
  match cs.dropWhile isBlank with
  | ';' :: cs => parameter? (cs.dropWhile isBlank)
  | _ => none

theorem next?_length (read : next? cs = some (p,rest)) : p.2.toList.length + rest.length < cs.length := by
  unfold next? at read
  split at read
  next behind semicolon =>
    have short := dropWhile_length isBlank cs
    have shorter := dropWhile_length isBlank behind
    have shortest := parameter?_length read
    rw [semicolon,List.length_cons] at short
    omega
  next => cases read

/-- Reads parameters to the end. -/
def parameters? (cs : List Char) : Option (List (String × String)) :=
  if (cs.dropWhile isBlank).isEmpty then some []
  else match _ : next? cs with
    | none => none
    | some (p,rest) => (parameters? rest).map (p :: ·)
termination_by cs.length
decreasing_by exact Nat.lt_of_le_of_lt (Nat.le_add_left _ _) (next?_length ‹_›)

theorem parameters?_shorter (read : parameters? cs = some ps) : ∀ p ∈ ps, p.2.toList.length < cs.length := by
  fun_induction parameters? cs generalizing ps with
  | case1 =>
    cases read
    simp
  | case2 => cases read
  | case3 cs _ p rest found ih =>
    obtain ⟨others,later,rfl⟩ := Option.map_eq_some_iff.mp read
    have shorter := next?_length found
    refine List.forall_mem_cons.mpr ⟨by omega,fun q member => ?_⟩
    have := ih later q member
    omega

/-- A header that is read. -/
structure Disposition where
  kind : String
  parameters : List (String × String)
  deriving DecidableEq, Repr

namespace Disposition

def read? (header : String) : Option Disposition :=
  (take? isWordChar header.toList).bind fun (kind,rest) =>
    (parameters? rest).map fun parameters => ⟨String.ofList (kind.map Char.toLower),parameters⟩

/-- The name of the file, which no two parameters may give; the percent encoded one counts first. -/
def fileName? (d : Disposition) : Option String :=
  if (d.parameters.map Prod.fst).Nodup then
    (d.parameters.lookup "filename*").or (d.parameters.lookup "filename")
  else none

theorem fileName?_mem {d : Disposition} {name : String} (named : d.fileName? = some name) :
    ∃ key, (key,name) ∈ d.parameters := by
  obtain ⟨-,found⟩ := Option.ite_none_right_eq_some.mp named
  have listed {key : String} (given : d.parameters.lookup key = some name) : (key,name) ∈ d.parameters := by
    obtain ⟨front,behind,same,-⟩ := List.lookup_eq_some_iff.mp given
    rw [same]
    exact List.mem_append_right _ List.mem_cons_self
  rcases Option.or_eq_some_iff.mp found with given | ⟨-,given⟩
  · exact ⟨_,listed given⟩
  · exact ⟨_,listed given⟩

end Disposition

end DocPress.Service.Header
