import DocPress.Text.Encoding

/-! The bytes of a file and the same bytes sent as such, read under the name of an encoding. Main statement:
what makes the difference (`reads_alike_iff`). -/

namespace DocPress.Text

namespace Encoding

variable {e : Encoding} {codec text : String} {data : List UInt8}

/-- The file has no mark of the byte order, though its encoding has such marks and it is long enough. -/
structure Unmarked (e : Encoding) (data : List UInt8) : Prop where
  marks : e.byteOrderMarks ≠ []
  unmarked : ∀ mark ∈ e.byteOrderMarks, ¬ mark <+: data ∧ mark.length ≤ data.length

/-- The file ends within the mark of UTF-8. -/
inductive PartMark : Encoding → List UInt8 → Prop where
  | one : PartMark .utf8Marked [0xEF]
  | two : PartMark .utf8Marked [0xEF,0xBB]

theorem PartMark.filled (part : PartMark e data) : data ≠ [] := by
  cases part <;> exact nofun

theorem Unmarked.filled (unmarked : Unmarked e data) : data ≠ [] := by
  rintro rfl
  obtain ⟨mark,member⟩ := List.exists_mem_of_ne_nil _ unmarked.marks
  obtain ⟨other,long⟩ := unmarked.unmarked mark member
  have none : mark = [] := List.eq_nil_of_length_eq_zero (Nat.le_zero.mp long)
  exact other (none ▸ List.nil_prefix)

theorem decode_nil : e.decode [] = .ok "" := by
  cases e with
  | utf8 | utf8Marked => simp [decode,undecodable,Utf8.decodeFrom]
  | utf16 | utf16Little | utf16Big => simp [decode,undecodable,decodeUnits]
  | _ => rfl

theorem decodeMarked_ok (marks : e.byteOrderMarks ≠ []) : decodeMarked e codec data = .ok text ↔
    e.decode data = .ok text ∧ ¬ Unmarked e data := by
  have marked : (e.byteOrderMarks.any fun mark => mark.isPrefixOf data || data.length < mark.length) = true ↔
      ¬ Unmarked e data := by
    rw [List.any_eq_true]
    constructor
    · rintro ⟨mark,member,found⟩ without
      obtain ⟨other,long⟩ := without.unmarked mark member
      simp [List.isPrefixOf_iff_prefix,other,Nat.not_lt.mpr long] at found
    · intro some
      refine Classical.byContradiction fun none => ?_
      refine some ⟨marks,fun mark member => ?_⟩
      have other := fun found => none ⟨mark,member,found⟩
      simpa [List.isPrefixOf_iff_prefix,not_or] using other
  unfold decodeMarked
  cases e.decode data with
  | error error => exact ⟨nofun,nofun⟩
  | ok found =>
    rw [← marked]
    simp only [bind,Except.bind]
    split
    next yes => simp [yes,pure,Except.pure]
    next no => simp [no,throw,throwThe,MonadExceptOf.throw]

theorem decodeMarked_alike_iff (marks : e.byteOrderMarks ≠ []) :
    (∀ text, decodeMarked e codec data = .ok text ↔ e.decode data = .ok text) ↔
      ¬ (Unmarked e data ∧ ∃ text, e.decode data = .ok text) := by
  simp only [decodeMarked_ok marks]
  constructor
  · rintro same ⟨unmarked,text,read⟩
    exact ((same text).mpr read).2 unmarked
  · intro marked text
    exact ⟨And.left,fun read => ⟨read,fun unmarked => marked ⟨unmarked,text,read⟩⟩⟩

theorem decode_partMark (part : PartMark e data) : e.decode data ≠ .ok text := by
  intro read
  have failed : (e.decode data).toOption = none := by
    cases part <;> decide +kernel
  rw [read] at failed
  cases failed

/-- Where the bytes of a file are read otherwise than the same bytes as such. -/
theorem decodeFile_alike_iff : (∀ text, e.decodeFile data = .ok text ↔ e.decode data = .ok text) ↔
    ¬ PartMark e data ∧ ¬ (Unmarked e data ∧ ∃ text, e.decode data = .ok text) := by
  fun_cases decodeFile e data with
  | case1 => exact iff_of_false (fun same => decode_partMark .one ((same "").mp rfl)) fun found => found.1 .one
  | case2 => exact iff_of_false (fun same => decode_partMark .two ((same "").mp rfl)) fun found => found.1 .two
  | case3 =>
    rw [decodeMarked_alike_iff (by decide)]
    exact (and_iff_right nofun).symm
  | case4 =>
    rw [decodeMarked_alike_iff (by decide)]
    exact (and_iff_right nofun).symm
  | case5 e data one two utf16 utf32 =>
    refine iff_of_true (fun _ => Iff.rfl) ⟨fun part => ?_,fun found => found.1.marks ?_⟩
    · cases part with
      | one => exact one rfl rfl
      | two => exact two rfl rfl
    · cases e with
      | utf16 => exact absurd rfl utf16
      | utf32 => exact absurd rfl utf32
      | _ => rfl

theorem decodeFile_unmarked (unmarked : Unmarked e data) : e.decodeFile data ≠ .ok text := by
  have marks := unmarked.marks
  intro read
  have marked : ∃ codec, e.decodeFile data = decodeMarked e codec data := by
    cases e with
    | utf16 | utf32 => exact ⟨_,by rw [decodeFile]⟩
    | _ => exact absurd rfl marks
  obtain ⟨codec,same⟩ := marked
  exact ((decodeMarked_ok marks).mp (same.symm.trans read)).2 unmarked

end Encoding

variable {codecs : Codecs} {codec : Codec} {name text : String} {data : List UInt8}

/-- The codec reads a file otherwise than its bytes, which it is not asked for if there are none. -/
def Codec.ReadsApart (codec : Codec) (data : List UInt8) : Prop :=
  ¬ ∀ text, codec.decodeFile data = .ok text ↔
    data = [] ∧ text = "" ∨ data ≠ [] ∧ codec.decode data = .ok text

theorem Encoding.codec_readsApart {e : Encoding} : e.codec.ReadsApart data ↔
    e.PartMark data ∨ e.Unmarked data ∧ ∃ text, e.decode data = .ok text := by
  have bytes (text : String) :
      (data = [] ∧ text = "" ∨ data ≠ [] ∧ e.codec.decode data = .ok text) ↔ e.decode data = .ok text := by
    cases data with
    | nil => simp [Encoding.decode_nil,eq_comm]
    | cons => simp [Encoding.codec]
  have file : e.codec.decodeFile = e.decodeFile := rfl
  unfold Codec.ReadsApart
  simp only [bytes,file]
  rw [Encoding.decodeFile_alike_iff,← not_or,Classical.not_not]

namespace Codecs

/-- The system has a codec of its own under the name. -/
structure Adds (codecs : Codecs) (name : String) (codec : Codec) : Prop where
  unknown : ∃ other, Encoding.ofName name = .error (.unknown other)
  found : codecs.other? (Encoding.normalizeName name) = some codec

theorem find_ok : codecs.find name = .ok codec ↔
    (∃ e, Encoding.ofName name = .ok e ∧ codec = e.codec) ∨ codecs.Adds name codec := by
  unfold find
  cases known : Encoding.ofName name with
  | ok e =>
    constructor
    · intro same
      cases same
      exact .inl ⟨e,rfl,rfl⟩
    · rintro (⟨_,same,rfl⟩ | ⟨⟨_,unknown⟩,-⟩)
      · cases same
        rfl
      · cases known.symm.trans unknown
  | error error =>
    cases error with
    | unknown other =>
      dsimp only
      cases added : codecs.other? (Encoding.normalizeName name) with
      | none =>
        refine iff_of_false nofun ?_
        rintro (⟨_,same,-⟩ | ⟨-,found⟩)
        · cases same
        · cases added.symm.trans found
      | some found =>
        constructor
        · intro same
          cases same
          exact .inr ⟨⟨other,known⟩,added⟩
        · rintro (⟨_,same,-⟩ | ⟨-,again⟩)
          · cases same
          · cases added.symm.trans again
            rfl
    | _ =>
      refine iff_of_false nofun ?_
      rintro (⟨_,same,-⟩ | ⟨⟨_,unknown⟩,-⟩)
      · cases same
      · cases known.symm.trans unknown

theorem find_of_known {e : Encoding} (known : Encoding.ofName name = .ok e) :
    codecs.find name = .ok e.codec := find_ok.mpr (.inl ⟨e,known,rfl⟩)

theorem localeName_unknown {e : Encoding} : Encoding.ofName localeName ≠ .ok e := by
  have unknown : (Encoding.ofName localeName).toOption = none := by decide +kernel
  intro known
  rw [known] at unknown
  cases unknown

/-- There is no codec under the name that stands for the encoding of the system. -/
theorem find_localeName : codecs.find localeName ≠ .ok codec := by
  intro found
  rcases find_ok.mp found with ⟨e,known,-⟩ | ⟨-,added⟩
  · exact localeName_unknown known
  · have key : Encoding.normalizeName localeName = localeName := by decide +kernel
    rw [key,codecs.reserved] at added
    cases added

theorem fileName_of_other (other : name ≠ localeName) : codecs.fileName name = name := if_neg other

theorem fileName_of_known {e : Encoding} (known : Encoding.ofName name = .ok e) :
    codecs.fileName name = name := by
  refine fileName_of_other ?_
  rintro rfl
  exact localeName_unknown known

end Codecs

theorem decodeNamed_ok (plain : name.toList.contains '\x00' = false) :
    decodeNamed codecs name data = .ok text ↔ data = [] ∧ text = "" ∨
      data ≠ [] ∧ ∃ codec, codecs.find name = .ok codec ∧ codec.decode data = .ok text := by
  unfold decodeNamed
  rw [if_neg (by simpa using plain)]
  cases data with
  | nil => simp [eq_comm]
  | cons => cases found : codecs.find name <;> simp [bind,Except.bind]

theorem decodeFileNamed_ok (plain : name.toList.contains '\x00' = false) :
    decodeFileNamed codecs name data = .ok text ↔
      ∃ codec, codecs.find (codecs.fileName name) = .ok codec ∧ codec.decodeFile data = .ok text := by
  unfold decodeFileNamed
  rw [if_neg (by simpa using plain)]
  cases found : codecs.find (codecs.fileName name) <;> simp [bind,Except.bind]

/-- The file is read otherwise than its bytes are: they are none and the name is that of no encoding; the
name is that for the encoding of the system, which only a file can have; they end within the mark of UTF-8;
they lack the mark of their byte order; or a codec of the system makes the difference. -/
inductive ReadApart (codecs : Codecs) (name : String) (data : List UInt8) : Prop where
  | nameless (none : data = []) {error : EncodingError}
      (unknown : codecs.find (codecs.fileName name) = .error error)
  | locale (same : name = localeName) (some : data ≠ []) {text : String}
      (read : decodeFileNamed codecs name data = .ok text)
  | partMark {e : Encoding} (found : Encoding.ofName name = .ok e) (part : e.PartMark data)
  | unmarked {e : Encoding} (found : Encoding.ofName name = .ok e) (unmarked : e.Unmarked data)
      {text : String} (read : e.decode data = .ok text)
  | other {codec : Codec} (found : codecs.Adds (codecs.fileName name) codec)
      (named : name = localeName → data = []) (apart : codec.ReadsApart data)

/-- Where a codec is found and asked for its bytes too, it makes the difference. -/
theorem readApart_of_found (found : codecs.find (codecs.fileName name) = .ok codec)
    (asked : name = localeName → data = []) : ReadApart codecs name data ↔ codec.ReadsApart data := by
  have known_of {e : Encoding} (known : Encoding.ofName name = .ok e) : codec = e.codec := by
    rw [Codecs.fileName_of_known known,Codecs.find_of_known known] at found
    cases found
    rfl
  constructor
  · intro apart
    cases apart with
    | nameless _ unknown => cases found.symm.trans unknown
    | locale same some => exact absurd (asked same) some
    | partMark known part =>
      rw [known_of known]
      exact Encoding.codec_readsApart.mpr (.inl part)
    | unmarked known unmarked read =>
      rw [known_of known]
      exact Encoding.codec_readsApart.mpr (.inr ⟨unmarked,_,read⟩)
    | other added _ apart =>
      cases found.symm.trans (Codecs.find_ok.mpr (.inr added))
      exact apart
  · intro apart
    rcases Codecs.find_ok.mp found with ⟨e,known,rfl⟩ | added
    · have plain : name ≠ localeName := by
        intro same
        rw [asked same] at apart
        rcases Encoding.codec_readsApart.mp apart with part | ⟨unmarked,-⟩
        · exact part.filled rfl
        · exact unmarked.filled rfl
      rw [Codecs.fileName_of_other plain] at known
      rcases Encoding.codec_readsApart.mp apart with part | ⟨unmarked,text,read⟩
      · exact .partMark known part
      · exact .unmarked known unmarked read
    · exact .other added asked apart

/-- Under the name of an encoding, the marks of its bytes make the difference. -/
theorem readApart_of_known {e : Encoding} (known : Encoding.ofName name = .ok e) :
    ReadApart codecs name data ↔
      e.PartMark data ∨ e.Unmarked data ∧ ∃ text, e.decode data = .ok text := by
  have found : codecs.find (codecs.fileName name) = .ok e.codec := by
    rw [Codecs.fileName_of_known known]
    exact Codecs.find_of_known known
  rw [readApart_of_found found,Encoding.codec_readsApart]
  rintro rfl
  exact absurd known Codecs.localeName_unknown

/-- Where no codec is found, all depends on whether there is something to read. -/
theorem readApart_of_unfound {error : EncodingError}
    (unfound : codecs.find (codecs.fileName name) = .error error) :
    ReadApart codecs name data ↔ data = [] := by
  have none_known {e : Encoding} (known : Encoding.ofName name = .ok e) : False := by
    rw [Codecs.fileName_of_known known,Codecs.find_of_known known] at unfound
    cases unfound
  constructor
  · intro apart
    cases apart with
    | nameless none => exact none
    | locale same some read =>
      unfold decodeFileNamed at read
      rw [unfound] at read
      split at read <;> cases read
    | partMark known => exact (none_known known).elim
    | unmarked known => exact (none_known known).elim
    | other added => cases unfound.symm.trans (Codecs.find_ok.mpr (.inr added))
  · exact fun none => .nameless none unfound

/-- The encoding of the system is never asked for mere bytes. -/
theorem readApart_of_locale (some : data ≠ []) :
    ReadApart codecs localeName data ↔ ∃ text, decodeFileNamed codecs localeName data = .ok text := by
  constructor
  · intro apart
    cases apart with
    | nameless none => exact absurd none some
    | locale _ _ read => exact ⟨_,read⟩
    | partMark known => exact absurd known Codecs.localeName_unknown
    | unmarked known => exact absurd known Codecs.localeName_unknown
    | other _ asked => exact absurd (asked rfl) some
  · rintro ⟨text,read⟩
    exact .locale rfl some read

/-- A file and its bytes are read alike but for these cases. -/
theorem reads_alike_iff (plain : name.toList.contains '\x00' = false) :
    (∀ text, decodeFileNamed codecs name data = .ok text ↔ decodeNamed codecs name data = .ok text) ↔
      ¬ ReadApart codecs name data := by
  by_cases asked : name = localeName → data = []
  · simp only [decodeFileNamed_ok plain,decodeNamed_ok plain]
    -- the codec of the bytes is that of the file, or there are none to read
    have shared : data ≠ [] → codecs.find name = codecs.find (codecs.fileName name) := fun some => by
      rw [Codecs.fileName_of_other fun same => some (asked same)]
    cases found : codecs.find (codecs.fileName name) with
    | error error =>
      rw [readApart_of_unfound found]
      by_cases none : data = []
      · simp [none]
      · simp [none,shared none,found]
    | ok codec =>
      rw [readApart_of_found found asked,Codec.ReadsApart,Classical.not_not]
      by_cases none : data = []
      · simp [none]
      · simp [none,shared none,found]
  · obtain ⟨rfl,some⟩ := Classical.not_imp.mp asked
    rw [readApart_of_locale some]
    simp [decodeNamed_ok plain,some,Codecs.find_localeName]

theorem decodeFileNamed_alike (alike : ¬ ReadApart codecs name data) (text : String) :
    decodeFileNamed codecs name data = .ok text ↔ decodeNamed codecs name data = .ok text := by
  cases plain : name.toList.contains '\x00' with
  | false => exact (reads_alike_iff plain).mpr alike text
  | true =>
    unfold decodeFileNamed decodeNamed
    rw [if_pos plain,if_pos plain]

/-- A codec of the system makes the difference. -/
def SystemApart (codecs : Codecs) (name : String) (data : List UInt8) : Prop :=
  ∃ codec, codecs.Adds (codecs.fileName name) codec ∧ (name = localeName → data = []) ∧
    codec.ReadsApart data

/-- In no other case are both read. -/
theorem ReadApart.notBoth (apart : ReadApart codecs name data)
    (known : ¬ SystemApart codecs name data) {first second : String}
    (file : decodeFileNamed codecs name data = .ok first)
    (bytes : decodeNamed codecs name data = .ok second) : False := by
  cases plain : name.toList.contains '\x00' with
  | true =>
    unfold decodeNamed at bytes
    rw [if_pos plain] at bytes
    cases bytes
  | false =>
    obtain ⟨codec,found,read⟩ := (decodeFileNamed_ok plain).mp file
    have asked := (decodeNamed_ok plain).mp bytes
    cases apart with
    | nameless _ unknown => cases found.symm.trans unknown
    | locale same some =>
      obtain ⟨none,-⟩ | ⟨-,_,named,-⟩ := asked
      · exact some none
      · exact Codecs.find_localeName (same ▸ named)
    | partMark isKnown part =>
      obtain ⟨none,-⟩ | ⟨-,_,named,decoded⟩ := asked
      · exact part.filled none
      · cases (Codecs.find_of_known isKnown).symm.trans named
        exact Encoding.decode_partMark part decoded
    | unmarked isKnown unmarked =>
      rw [Codecs.fileName_of_known isKnown] at found
      cases (Codecs.find_of_known isKnown).symm.trans found
      exact Encoding.decodeFile_unmarked unmarked read
    | other added asked differs => exact known ⟨_,added,asked,differs⟩

end DocPress.Text
