import DocPress.Proofs.Package.Title
import DocPress.Proofs.Service.Agreement
import DocPress.Proofs.Service.DownloadName

/-! One text under two names. Main statement: a name gives a document its title and does nothing else, in
a conversion and in what the service answers, unless the title is none that a document may have
(`name_is_title`). -/

namespace DocPress
open Text (IsFileName PathName)

/-! ### The title that a name makes -/

theorem titleOf_documentName {name : String} (isName : IsFileName name) :
    titleOf (documentName name) = Text.stemOf name :=
  IsDocumentStem.titleOf ⟨Text.stemOf_some isName.some,
    fun member => isName.whole ((Text.stemOf_prefix name).subset member)⟩

/-! ### Conversions -/

variable {network : Network} {c : Converter} {markdown first second : String}

namespace Converter

theorem convert_requests : (c.convert network markdown first).requests =
    (c.convert network markdown second).requests := by
  unfold convert
  dsimp only
  generalize resolveImages network (Markdown.parse markdown) = images
  obtain ⟨cache,_,_⟩ := images
  cases cache <;> rfl

theorem convert_unfetched {name : String} {fault : FetchFault}
    (stopped : (resolveImages network (Markdown.parse markdown)).cache = .error fault) :
    (c.convert network markdown name).result = .error (.fetch fault) := by
  rw [Command.convert_result,stopped]
  rfl

theorem convert_fetched {name : String} {cache : ImageCache}
    (fetched : (resolveImages network (Markdown.parse markdown)).cache = .ok cache) :
    (c.convert network markdown name).result =
      (encode (c.layOut cache (titleOf name) (Markdown.parse markdown))).result.mapError .packaging := by
  rw [Command.convert_result,fetched]
  exact Command.bind_of_ok rfl

theorem encode_layOut_untitled (images : ImageCache) (doc : Node) {title : String}
    (untitular : ¬ Titular title) :
    ∃ fault, encode (c.layOut images title doc) = ⟨.error (.failed fault),[]⟩ :=
  encode_untitled (m := c.layOut images title doc) untitular

theorem encode_layOut_titled {images : ImageCache} {doc : Node} {before title : String}
    (former : Titular before) (titular : Titular title) :
    encode (c.layOut images title doc) = (encode (c.layOut images before doc)).titled title :=
  encode_titled (m := c.layOut images before doc) titular former

/-- If both names make titles, the documents differ in the title, and no conversion fails alone. -/
theorem convert_titled (before : Titular (titleOf first)) (titular : Titular (titleOf second)) :
    (c.convert network markdown second).result =
      (c.convert network markdown first).result.map (·.titled (titleOf second)) := by
  cases fetched : (resolveImages network (Markdown.parse markdown)).cache with
  | error fault =>
    rw [convert_unfetched fetched,convert_unfetched fetched]
    rfl
  | ok cache =>
    rw [convert_fetched fetched,convert_fetched fetched,encode_layOut_titled before titular]
    unfold Encoded.titled
    cases (encode (c.layOut cache (titleOf first) (Markdown.parse markdown))).result <;> rfl

theorem convert_untitled {name : String} (untitular : ¬ Titular (titleOf name)) {cache : ImageCache}
    (fetched : (resolveImages network (Markdown.parse markdown)).cache = .ok cache) :
    ∃ e, (c.convert network markdown name).result = .error (.packaging e) := by
  obtain ⟨fault,stopped⟩ := encode_layOut_untitled (c := c) cache (Markdown.parse markdown) untitular
  rw [convert_fetched fetched,stopped]
  exact ⟨_,rfl⟩

theorem titular_of_converted {name : String} {p : Package}
    (converted : (c.convert network markdown name).result = .ok p) : Titular (titleOf name) := by
  by_contra untitular
  cases fetched : (resolveImages network (Markdown.parse markdown)).cache with
  | error fault =>
    rw [convert_unfetched fetched] at converted
    cases converted
  | ok cache =>
    obtain ⟨e,stopped⟩ := convert_untitled (c := c) untitular fetched
    rw [stopped] at converted
    cases converted

end Converter

/-! ### Answers -/

namespace Service

/-- What the service answers instead to the same request under another name: a document of that name, if
the name makes a title, and the same answer where there is no document. -/
def Response.renamed (name : String) : Response → Response
  | .document _ p =>
    if Titular (titleOf name) then .document name (p.titled (titleOf name)) else .refusal .failed
  | response => response

theorem Response.renamed_titled {name former : String} {p : Package} (titular : Titular (titleOf name)) :
    (document former p).renamed name = .document name (p.titled (titleOf name)) := by
  simp [renamed,titular]

theorem Response.renamed_untitled {name former : String} {p : Package}
    (untitular : ¬ Titular (titleOf name)) : (document former p).renamed name = .refusal .failed := by
  simp [renamed,untitular]

/-- The name that the document gets. -/
def Request.outputName (r : Request) : String :=
  downloadName (match Route.ofPath? r.path with
    | some .convertFile => r.file.map Upload.arrivingName
    | _ => some ((r.field? "filename").getD defaultOutputName))

/-- The requests ask for the same, but perhaps under another name. -/
structure Request.Alike (r s : Request) : Prop where
  method : r.method = s.method
  path : r.path = s.path
  fields : ∀ name, name ≠ "filename" → r.field? name = s.field? name
  file : r.file.map Upload.data = s.file.map Upload.data

theorem render_renamed (before : Titular (titleOf first)) :
    (render network c markdown second).result =
      (render network c markdown first).result.map (·.renamed second) := by
  unfold render
  dsimp only
  cases fetched : (resolveImages network (Markdown.parse markdown)).cache with
  | error fault =>
    rw [Converter.convert_unfetched fetched,Converter.convert_unfetched fetched]
    rfl
  | ok cache =>
    by_cases titular : Titular (titleOf second)
    · rw [Converter.convert_titled before titular,Converter.convert_fetched fetched]
      cases (encode (c.layOut cache (titleOf first) (Markdown.parse markdown))).result with
      | ok p => exact congrArg Except.ok (Response.renamed_titled titular).symm
      | error e => rfl
    · obtain ⟨e,stopped⟩ := Converter.convert_untitled (c := c) titular fetched
      rw [stopped,Converter.convert_fetched fetched]
      cases (encode (c.layOut cache (titleOf first) (Markdown.parse markdown))).result with
      | ok p => exact congrArg Except.ok (Response.renamed_untitled titular).symm
      | error e => rfl

variable {codecs : Text.Codecs} {r s : Request} {name : String}

theorem withConverter_renamed {f g : Converter → Outcome} (alike : r.Alike s)
    (each : ∀ c, (f c).result = (g c).result.map (·.renamed name)) :
    (withConverter s f).result = (withConverter r g).result.map (·.renamed name) := by
  unfold withConverter
  rw [alike.fields "style" (by decide),alike.fields "config" (by decide)]
  dsimp only
  cases Preset.ofName ((s.field? "style").getD Preset.standard.name) with
  | error e => rfl
  | ok preset =>
    cases readSettings (s.field? "config") with
    | error e => cases e <;> rfl
    | ok settings => exact each _

theorem convertFile_renamed (alike : r.Alike s)
    (before : Titular (titleOf (downloadName (r.file.map Upload.arrivingName)))) :
    (convertFile network codecs s).result = (convertFile network codecs r).result.map
      (·.renamed (downloadName (s.file.map Upload.arrivingName))) := by
  have data := alike.file
  unfold convertFile
  cases sent : s.file with
  | none =>
    rw [sent,Option.map_none,Option.map_eq_none_iff] at data
    rw [data]
    rfl
  | some file =>
    rw [sent,Option.map_some] at data
    obtain ⟨former,held,same⟩ := Option.map_eq_some_iff.mp data
    rw [held] at before ⊢
    refine withConverter_renamed alike fun c => ?_
    rw [alike.fields "encoding" (by decide),same]
    dsimp only
    cases Text.decodeNamed codecs ((s.field? "encoding").getD "utf-8") file.data with
    | error e => cases e <;> rfl
    | ok markdown => exact render_renamed before

theorem convertText_renamed (alike : r.Alike s)
    (before : Titular (titleOf (downloadName (some ((r.field? "filename").getD defaultOutputName))))) :
    (convertText network s).result = (convertText network r).result.map
      (·.renamed (downloadName (some ((s.field? "filename").getD defaultOutputName)))) := by
  unfold convertText
  rw [alike.fields "markdown" (by decide)]
  cases s.field? "markdown" with
  | none => rfl
  | some markdown => exact withConverter_renamed alike fun c => render_renamed before

/-- Two requests that ask for the same are answered alike, but for the name and the title; only a name that
makes no title fails where another one makes a document. -/
theorem answer_renamed (alike : r.Alike s) (before : Titular (titleOf r.outputName)) :
    (answer network codecs s).result =
      (answer network codecs r).result.map (·.renamed s.outputName) := by
  unfold Request.outputName at before ⊢
  unfold answer
  rw [alike.path,alike.method]
  rw [alike.path] at before
  cases routed : Route.ofPath? s.path with
  | none => rfl
  | some route =>
    rw [routed] at before
    dsimp only
    split
    · rfl
    · cases route with
      | health | styles => rfl
      | convertFile => exact convertFile_renamed alike before
      | convertText => exact convertText_renamed alike before

/-- A name gives a document its title and does nothing else, neither to a conversion nor to what the service
answers, as long as both names make titles. A name that makes none yields no document. -/
theorem name_is_title (network : Network) (codecs : Text.Codecs) :
    (∀ (c : Converter) (markdown first second : String),
      let a := c.convert network markdown first
      let b := c.convert network markdown second
      a.requests = b.requests ∧ ((∃ p, a.result = .ok p) → Titular (titleOf first)) ∧
        (Titular (titleOf first) → Titular (titleOf second) →
          b.result = a.result.map (·.titled (titleOf second)))) ∧
    ∀ r s : Request, r.Alike s → Titular (titleOf r.outputName) →
      (answer network codecs s).result =
        (answer network codecs r).result.map (·.renamed s.outputName) := by
  refine ⟨fun c markdown first second => ⟨Converter.convert_requests,?_,Converter.convert_titled⟩,?_⟩
  · rintro ⟨p,converted⟩
    exact Converter.titular_of_converted converted
  · exact fun r s alike before => answer_renamed alike before

/-- A request for the document of a line, under a name. -/
def lineRequest (filename : String) : Request where
  method := "POST"
  path := "/convert/text"
  form := [("markdown","a\n"),("filename",filename)]

theorem lineRequest_alike (first second : String) : (lineRequest first).Alike (lineRequest second) where
  method := rfl
  path := rfl
  fields := fun name other => by
    unfold Request.field? lineRequest
    rw [List.lookup_cons,List.lookup_cons,List.lookup_cons,List.lookup_cons,beq_false_of_ne other]
  file := rfl

/-- The look of a request that asks for none. -/
def plainLook : Converter := .ofSettings .null .standard

theorem answer_lineRequest {filename : String} (named : filename ≠ "") :
    (answer network codecs (lineRequest filename)).result =
      (render network plainLook "a\n" (downloadName (some filename))).result := by
  have route : Route.ofPath? (lineRequest filename).path = some .convertText := by
    change Route.ofPath? "/convert/text" = _
    decide
  have posts : ¬ Route.convertText.method ≠ (lineRequest filename).method.map Char.toUpper := by
    change ¬ "POST" ≠ "POST".map Char.toUpper
    rw [not_not,← String.toList_inj,String.toList_map]
    decide
  have filter : Option.filter (! ·.isEmpty) (some filename) = some filename := by simp [named]
  have field : (lineRequest filename).field? "filename" = some filename := filter
  unfold answer
  rw [route]
  dsimp only
  rw [if_neg posts]
  unfold convertText
  rw [field]
  rfl

theorem line_document : ∃ p, (plainLook.convert .offline "a\n" "a.docx").result = .ok p ∧
    (answer .offline .bare (lineRequest "a")).result = .ok (.document "a.docx" p) := by
  have made : (plainLook.convert .offline "a\n" "a.docx").result.isOk := by decide +kernel
  cases converted : (plainLook.convert .offline "a\n" "a.docx").result with
  | error e =>
    rw [converted] at made
    cases made
  | ok p =>
    refine ⟨p,rfl,?_⟩
    rw [answer_lineRequest (by decide)]
    exact (render_ok.mpr ⟨p,converted,rfl⟩).1

/-- The line under two names: the documents have their titles, and are the same but for them. -/
theorem line_renamed : ∃ p, (plainLook.convert .offline "a\n" "a.docx").result = .ok p ∧
    (plainLook.convert .offline "a\n" "x/B.DOCX").result = .ok (p.titled "B") ∧
    (answer .offline .bare (lineRequest "a")).result = .ok (.document "a.docx" p) ∧
    (answer .offline .bare (lineRequest "b.md")).result = .ok (.document "b.docx" (p.titled "b")) := by
  obtain ⟨p,converted,answered⟩ := line_document
  obtain ⟨converts,answers⟩ := name_is_title .offline .bare
  have other := (converts plainLook "a\n" "a.docx" "x/B.DOCX").2.2 (by decide) (by decide)
  have renamed := answers (lineRequest "a") (lineRequest "b.md") (lineRequest_alike _ _) (by decide)
  rw [converted] at other
  rw [answered] at renamed
  exact ⟨p,converted,other,answered,renamed⟩

/-- A file name of so many letters. -/
def letters (n : Nat) : String := String.ofList (List.replicate n 'a')

theorem letters_isFileName {n : Nat} (some : n ≠ 0) : IsFileName (letters n) := by
  have chars : (letters n).toList = List.replicate n 'a' := String.toList_ofList
  have other {c : Char} (differs : c ≠ 'a') : c ∉ (letters n).toList := by
    rw [chars]
    exact fun member => differs (List.eq_of_mem_replicate member)
  refine ⟨?_,other (by decide),other (by decide),?_,?_⟩
  · intro same
    rw [same] at chars
    exact some (List.replicate_eq_nil_iff 'a' |>.mp chars.symm)
  · intro same
    exact other (c := '.') (by decide) (by simp [same])
  · intro same
    exact other (c := '.') (by decide) (by simp [same])

theorem titleOf_letters {n : Nat} (some : n ≠ 0) : titleOf (documentName (letters n)) = letters n := by
  rw [titleOf_documentName (letters_isFileName some)]
  unfold Text.stemOf Text.lastDot?
  simp [letters]

/-- Under a name of too many letters the line becomes no document, neither in a conversion nor by the
service, though it does under another name. -/
theorem manyLetters_fail :
    (∃ p, (plainLook.convert .offline "a\n" "a.docx").result = .ok p) ∧
    (¬ ∃ p, (plainLook.convert .offline "a\n" (documentName (letters 256))).result = .ok p) ∧
    (∃ p, (answer .offline .bare (lineRequest "a")).result = .ok (.document "a.docx" p)) ∧
    (answer .offline .bare (lineRequest (letters 256))).result = .ok (.refusal .failed) := by
  obtain ⟨p,converted,answered⟩ := line_document
  have long : ¬ Titular (titleOf (documentName (letters 256))) := by
    rw [titleOf_letters (by decide)]
    rintro ⟨-,short⟩
    unfold letters at short
    rw [String.length_ofList,List.length_replicate] at short
    exact absurd short (by decide)
  have isName : IsFileName (letters 256) := letters_isFileName (by decide)
  refine ⟨⟨p,converted⟩,?_,⟨p,answered⟩,?_⟩
  · rintro ⟨q,written⟩
    exact long (Converter.titular_of_converted written)
  · have rendered := (render_ok.mpr ⟨p,converted,rfl⟩).1
    have before : Titular (titleOf "a.docx") := by decide
    rw [answer_lineRequest isName.some,downloadName_of_isFileName isName,render_renamed before,rendered]
    exact congrArg Except.ok (Response.renamed_untitled long)

end Service

end DocPress
