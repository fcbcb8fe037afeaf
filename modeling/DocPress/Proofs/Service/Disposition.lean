import DocPress.Proofs.Service.DownloadName
import DocPress.Proofs.Service.Header
import Mathlib.Data.List.TakeWhile

/-! The header that gives a download its name, read back. Main statement: it gives exactly that name, and says
nothing else, unless the name is in ASCII and has a character that does not stand for itself in quotes
(`contentDisposition_fileName`). -/

namespace DocPress.Service
open Header

variable {name : String} {cs text rest : List Char} {d : Disposition} {ps : List (String × String)}

/-! ### Reading what is written -/

theorem take?_all {isOf : Char → Bool} (some : cs ≠ []) (all : ∀ c ∈ cs, isOf c) :
    take? isOf cs = .some (cs,[]) := by
  unfold take?
  rw [List.takeWhile_eq_self_iff.mpr all,List.dropWhile_eq_nil_iff.mpr all]
  simp [some]

theorem quoted?_plain (plain : ∀ c ∈ text, isQuotable c) :
    quoted? (text ++ '"' :: rest) = some (text,rest) := by
  induction text with
  | nil => rfl
  | cons c text ih =>
    obtain ⟨here,later⟩ := List.forall_mem_cons.mp plain
    rw [List.cons_append,quoted?,if_pos here,ih later]
    · rfl
    · rintro rfl
      exact absurd here (by decide)
    · rintro _ _ rfl
      exact absurd here (by decide)

theorem parameters?_nil : parameters? [] = some [] := by
  rw [parameters?]
  rfl

theorem parameters?_cons {p : String × String} (read : next? cs = some (p,rest)) :
    parameters? cs = (parameters? rest).map (p :: ·) := by
  have more : (cs.dropWhile Header.isBlank).isEmpty = false := by
    by_contra none
    rw [Bool.not_eq_false,List.isEmpty_iff] at none
    rw [next?,none] at read
    cases read
  rw [parameters?,if_neg (by simp [more])]
  split
  next unread => cases unread.symm.trans read
  next found =>
    cases found.symm.trans read
    rfl

theorem parameters?_unread {c : Char} (solid : Header.isBlank c = false) (unread : next? (c :: cs) = none) :
    parameters? (c :: cs) = none := by
  rw [parameters?,if_neg (by simp [solid])]
  split
  next => rfl
  next found => cases found.symm.trans unread

theorem parameters?_quoted : parameters? ("; filename=\"".toList ++ cs) = (quoted? cs).bind fun (text,rest) =>
    (parameters? rest).map (("filename",String.ofList text) :: ·) := by
  have next : next? ("; filename=\"".toList ++ cs) =
      (quoted? cs).map fun (text,rest) => (("filename",String.ofList text),rest) := rfl
  cases read : quoted? cs with
  | none =>
    rw [read] at next
    exact parameters?_unread (by decide) next
  | some pair =>
    rw [read] at next
    exact parameters?_cons next

theorem parameters?_encoded (all : ∀ c ∈ cs, isExtendedChar c) {bytes : List UInt8}
    (decoded : Text.percentDecode? isAttributeChar cs = some bytes)
    (meant : Text.Utf8.decodeFrom 0 bytes = .ok text) :
    parameters? ("; filename*=UTF-8\x27\x27".toList ++ cs) = some [("filename*",String.ofList text)] := by
  have raw : take? isExtendedChar ("UTF-8\x27\x27".toList ++ cs) = some ("UTF-8\x27\x27".toList ++ cs,[]) := by
    refine take?_all (by simp) fun c member => ?_
    rcases List.mem_append.mp member with inFront | behind
    · have front : "UTF-8\x27\x27".toList.all isExtendedChar = true := by decide
      exact List.all_eq_true.mp front c inFront
    · exact all c behind
  have value : extended? ("UTF-8\x27\x27".toList ++ cs) = some text := by
    change (Text.percentDecode? isAttributeChar cs).bind
      (fun bytes => (Text.Utf8.decodeFrom 0 bytes).toOption) = _
    rw [decoded,Option.bind_some,meant]
    rfl
  have next : next? ("; filename*=UTF-8\x27\x27".toList ++ cs) = some (("filename*",String.ofList text),[]) := by
    change ((take? isExtendedChar ("UTF-8\x27\x27".toList ++ cs)).bind fun (raw,rest) =>
      (extended? raw).map fun text => (text,rest)).map (fun (text,rest) =>
        (("filename*",String.ofList text),rest)) = _
    rw [raw,Option.bind_some]
    dsimp only
    rw [value]
    rfl
  rw [parameters?_cons next,parameters?_nil]
  rfl

/-! ### Names in ASCII -/

/-- All characters of the name may stand in quotes as they are. -/
def Plain (name : String) : Prop := ∀ c ∈ name.toList, isQuotable c

theorem contentDisposition_ascii (ascii : isAscii name = true) : (contentDisposition name).toList =
    "attachment".toList ++ ("; filename=\"".toList ++ (name.toList ++ ['"'])) := by
  unfold contentDisposition
  rw [if_pos ascii,String.toList_append,String.toList_append,List.append_assoc]
  rfl

theorem read?_ascii (ascii : isAscii name = true) : Disposition.read? (contentDisposition name) =
    (quoted? (name.toList ++ ['"'])).bind fun (text,rest) =>
      (parameters? rest).map fun ps => ⟨"attachment",("filename",String.ofList text) :: ps⟩ := by
  unfold Disposition.read?
  rw [contentDisposition_ascii ascii]
  change (parameters? ("; filename=\"".toList ++ (name.toList ++ ['"']))).map (Disposition.mk "attachment") = _
  rw [parameters?_quoted]
  cases quoted? (name.toList ++ ['"']) with
  | none => rfl
  | some pair => exact Option.map_map _ _ _

theorem read?_plain (ascii : isAscii name = true) (plain : Plain name) :
    Disposition.read? (contentDisposition name) = some ⟨"attachment",[("filename",name)]⟩ := by
  rw [read?_ascii ascii,quoted?_plain plain,Option.bind_some]
  dsimp only
  rw [parameters?_nil,String.ofList_toList]
  rfl

/-- A value that is cut off or unescaped is shorter than the name, and so is one behind it. -/
theorem plain_of_fileName (ascii : isAscii name = true)
    (read : Disposition.read? (contentDisposition name) = some d) (named : d.fileName? = some name) :
    Plain name := by
  rw [read?_ascii ascii] at read
  obtain ⟨⟨text,rest⟩,found,read⟩ := Option.bind_eq_some_iff.mp read
  obtain ⟨ps,others,rfl⟩ := Option.map_eq_some_iff.mp read
  obtain ⟨key,member⟩ := Disposition.fileName?_mem named
  have inside := quoted?_length found
  rw [List.length_append,List.length_singleton] at inside
  rcases List.mem_cons.mp member with same | later
  · have whole : name.toList = text := by rw [(Prod.mk.inj same).2,String.toList_ofList]
    rcases quoted?_read found with ⟨-,plain⟩ | shorter
    · unfold Plain
      rwa [whole]
    · rw [List.length_append,List.length_singleton,whole] at shorter
      omega
  · have shorter := parameters?_shorter others _ later
    dsimp only at shorter
    omega

/-! ### Other names -/

theorem contentDisposition_encoded (other : isAscii name = false) : (contentDisposition name).toList =
    "attachment".toList ++ ("; filename*=UTF-8\x27\x27".toList ++ Text.percentEncode ['/'] name.toList) := by
  unfold contentDisposition
  rw [if_neg (by simp [other]),String.toList_append,
    String.toList_ofList (l := Text.percentEncode ['/'] name.toList)]
  rfl

theorem isAlphanum_ascii {c : Char} (letter : c.isAlphanum = true) : c.toNat < 0x80 := by
  have below {last : Char} (inside : c.val ≤ last.val) (small : last.toNat < 0x80) : c.toNat < 0x80 :=
    Nat.lt_of_le_of_lt inside small
  rcases (Bool.or_eq_true _ _).mp letter with alpha | digit
  · rcases (Bool.or_eq_true _ _).mp alpha with upper | lower
    · exact below (of_decide_eq_true upper).2 (by decide)
    · exact below (of_decide_eq_true (Bool.and_eq_true_iff.mp lower).2) (by decide)
  · exact below (of_decide_eq_true (Bool.and_eq_true_iff.mp digit).2) (by decide)

theorem unreserved_plain {c : Char} (unreserved : Text.isUnreserved c = true) :
    isAttributeChar c ∧ c ≠ '%' ∧ c.toNat < 0x80 := by
  by_cases letter : c.isAlphanum
  · refine ⟨by simp [isAttributeChar,letter],?_,isAlphanum_ascii letter⟩
    rintro rfl
    exact absurd letter (by decide)
  · have marks : c = '_' ∨ c = '.' ∨ c = '-' ∨ c = '~' := by
      simpa [Text.isUnreserved,letter,or_assoc] using unreserved
    rcases marks with rfl | rfl | rfl | rfl <;> decide

theorem percentByte_extended (b : UInt8) : ∀ c ∈ Text.percentByte b, isExtendedChar c := by
  have digit : ∀ n < 16, isExtendedChar (Text.capitalHexDigit n) := by decide
  have small : b.toNat < 256 := b.toNat_lt
  unfold Text.percentByte
  simp only [List.forall_mem_cons]
  exact ⟨by decide,digit _ (by omega),digit _ (by omega),by simp⟩

theorem percentEncode_extended (whole : '/' ∉ cs) : ∀ c ∈ Text.percentEncode ['/'] cs, isExtendedChar c := by
  intro c member
  obtain ⟨d,inside,member⟩ := List.mem_flatMap.mp member
  split at member
  next asItIs =>
    obtain rfl := List.mem_singleton.mp member
    rcases (Bool.or_eq_true _ _).mp asItIs with unreserved | slash
    · simp [isExtendedChar,(unreserved_plain unreserved).1]
    · exact absurd ((by simpa using slash : c = '/') ▸ inside) whole
  next =>
    obtain ⟨b,-,member⟩ := List.mem_flatMap.mp member
    exact percentByte_extended b c member

theorem read?_encoded (other : isAscii name = false) (whole : '/' ∉ name.toList) :
    Disposition.read? (contentDisposition name) = some ⟨"attachment",[("filename*",name)]⟩ := by
  have decoded : Text.percentDecode? isAttributeChar (Text.percentEncode ['/'] name.toList) =
      some (name.toList.flatMap String.utf8EncodeChar) := by
    refine Text.percentDecode?_percentEncode fun c member left => ?_
    rcases (Bool.or_eq_true _ _).mp left with unreserved | slash
    · exact unreserved_plain unreserved
    · exact absurd ((by simpa using slash : c = '/') ▸ member) whole
  have read := parameters?_encoded (percentEncode_extended whole) decoded (Text.Utf8.decodeFrom_encode _ 0)
  unfold Disposition.read?
  rw [contentDisposition_encoded other]
  change (parameters? ("; filename*=UTF-8\x27\x27".toList ++ Text.percentEncode ['/'] name.toList)).map
    (Disposition.mk "attachment") = _
  rw [read,String.ofList_toList]
  rfl

/-! ### Names of downloads -/

def BreaksLine (s : String) : Prop := '\r' ∈ s.toList ∨ '\n' ∈ s.toList

instance (s : String) : Decidable (BreaksLine s) :=
  inferInstanceAs (Decidable ('\r' ∈ s.toList ∨ '\n' ∈ s.toList))

def IsKept (name : String) : Prop := isAscii name = true → Plain name

theorem read?_kept (kept : IsKept name) (whole : '/' ∉ name.toList) :
    Disposition.read? (contentDisposition name) =
      some ⟨"attachment",[(if isAscii name then "filename" else "filename*",name)]⟩ := by
  by_cases ascii : isAscii name = true
  · rw [if_pos ascii]
    exact read?_plain ascii (kept ascii)
  · rw [if_neg ascii]
    exact read?_encoded (Bool.not_eq_true _ ▸ ascii) whole

theorem contentDisposition_breaksLine (whole : '/' ∉ name.toList) :
    BreaksLine (contentDisposition name) ↔ isAscii name = true ∧ BreaksLine name := by
  by_cases ascii : isAscii name = true
  · unfold BreaksLine
    simp [contentDisposition_ascii ascii,ascii]
  · have free {c : Char} (front : c ∉ "attachment".toList ++ "; filename*=UTF-8\x27\x27".toList)
        (other : isExtendedChar c = false) : c ∉ (contentDisposition name).toList := by
      rw [contentDisposition_encoded (Bool.not_eq_true _ ▸ ascii),← List.append_assoc,List.mem_append,not_or]
      refine ⟨front,fun behind => ?_⟩
      have extended := percentEncode_extended whole c behind
      rw [other] at extended
      cases extended
    refine iff_of_false ?_ fun breaks => ascii breaks.1
    rintro (carriage | feed)
    · exact free (by decide) (by decide) carriage
    · exact free (by decide) (by decide) feed

theorem fileName?_only (name : String) :
    Disposition.fileName? ⟨"attachment",[(if isAscii name then "filename" else "filename*",name)]⟩ =
      some name := by
  split
  · rfl
  · rfl

/-- Of the header of a download its name is read, and nothing else, exactly if the name is not in ASCII or has
only characters that stand for themselves in quotes. A line ends in the header exactly if one ends in a name
in ASCII. -/
theorem contentDisposition_fileName (given : Option String) :
    let name := downloadName given
    let header := contentDisposition name
    ((∃ d, Disposition.read? header = some d ∧ d.fileName? = some name) ↔ IsKept name) ∧
      (Disposition.read? header =
        some ⟨"attachment",[(if isAscii name then "filename" else "filename*",name)]⟩ ↔ IsKept name) ∧
      (BreaksLine header ↔ isAscii name = true ∧ BreaksLine name) := by
  obtain ⟨stem,isStem,same⟩ := downloadName_stem given
  have whole : '/' ∉ (downloadName given).toList := same ▸ isStem.ending_whole
  dsimp only
  generalize downloadName given = name at whole ⊢
  refine ⟨⟨?_,?_⟩,⟨?_,?_⟩,contentDisposition_breaksLine whole⟩
  · rintro ⟨_,read,named⟩ ascii
    exact plain_of_fileName ascii read named
  · exact fun kept => ⟨_,read?_kept kept whole,fileName?_only name⟩
  · exact fun read ascii => plain_of_fileName ascii read (fileName?_only name)
  · exact fun kept => read?_kept kept whole

-- behind a backslash a quote is read as one
example : Disposition.read? "attachment; filename=\"a\\\"b.docx\"" =
    some ⟨"attachment",[("filename","a\"b.docx")]⟩ := by decide +kernel

/-- A quote in the name ends the value, and what is behind it can be another parameter; a line feed is written
as it is. -/
theorem contentDisposition_addsParameter :
    downloadName (some "a\"; x=\"b.md") = "a\"; x=\"b.docx" ∧
    Disposition.read? (contentDisposition (downloadName (some "a\"; x=\"b.md"))) =
      some ⟨"attachment",[("filename","a"),("x","b.docx")]⟩ ∧
    BreaksLine (contentDisposition (downloadName (some "a\nb.md"))) := by
  decide +kernel

end DocPress.Service
