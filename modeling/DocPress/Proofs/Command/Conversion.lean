import DocPress.Proofs.Command.Exit
import DocPress.Proofs.Command.Files
import DocPress.Proofs.Text.Utf8
import DocPress.Proofs.Value.Reader

/-! A file that is converted in its directory, with settings beside it. Main statement: when it is, and to
which document (`run_ok`). -/

namespace DocPress
open Text (IsFileName PathName)

/-- The name of the document that a file of a name becomes. -/
def documentName (name : String) : String := Text.stemOf name ++ documentExtension

variable {name : String}

theorem documentName_isFileName (isName : IsFileName name) : IsFileName (documentName name) := by
  have chars : (documentName name).toList = (Text.stemOf name).toList ++ ['.','d','o','c','x'] := by
    unfold documentName documentExtension
    rw [String.toList_append]
    rfl
  have absent {c : Char} (other : c ∉ name.toList) (ending : c ∉ ['.','d','o','c','x']) :
      c ∉ (documentName name).toList := by
    rw [chars,List.mem_append,not_or]
    exact ⟨fun member => other ((Text.stemOf_prefix name).subset member),ending⟩
  have long : 5 ≤ (documentName name).toList.length := by
    rw [chars,List.length_append]
    exact Nat.le_add_left _ _
  refine ⟨?_,absent isName.whole (by decide),absent isName.plain (by decide),?_,?_⟩ <;>
  · intro same
    rw [same] at long
    exact absurd long (by decide)

/-- The text of a file, once it is read, becomes a document under settings. -/
def Yields (network : Network) (style : Preset) (config name : String)
    (read : Except Text.EncodingError String) (package : Package) : Prop :=
  ∃ settings text, Value.ofJson config = .ok settings ∧ read = .ok text ∧
    ((Converter.ofSettings settings style).convert network text (documentName name)).result = .ok package

theorem Converter.convert_unified (c : Converter) (network : Network) (text outputName : String) :
    c.convert network (String.ofList (Text.unifyLineEnds text.toList)) outputName =
      c.convert network text outputName := by
  unfold convert
  rw [Markdown.parse_unifyLineEnds]

namespace Command

variable {files : Files} {network : Network} {codecs : Text.Codecs} {a : Arguments}
  {style : Preset} {source : PathName} {input settings config encoding : String} {content : List UInt8}
  {s : Surroundings}

theorem readSettings_ok (isName : IsFileName settings)
    (found : files.read ⟨"",[settings]⟩ = .ok (Text.Utf8.encode config)) (value : Value) :
    readSettings files (some settings) = .ok value ↔ Value.ofJson config = .ok value := by
  have given : nonEmpty? (some settings) = some settings := by simp [nonEmpty?,isName.some]
  have plain : hasNull settings = false := by simpa [hasNull] using isName.plain
  have decoded : Text.Utf8.decodeFrom 0 (Text.Utf8.encode config) = .ok config.toList :=
    Text.Utf8.decodeFrom_encode _ 0
  have same := Value.ofJson_unifyLineEnds config.toList value
  rw [String.ofList_toList] at same
  rw [readSettings_some given plain,PathName.ofString_of_isFileName isName]
  simp only [bind_ok,mapError_ok,found,decoded,Except.ok.injEq,exists_eq_left']
  exact same

theorem readMarkdown_ok (found : files.read source = .ok content) {markdown : String} :
    readMarkdown files codecs encoding source = .ok markdown ↔ ∃ text,
      Text.decodeFileNamed codecs encoding content = .ok text ∧
        markdown = String.ofList (Text.unifyLineEnds text.toList) := by
  unfold readMarkdown
  rw [found]
  cases read : Text.decodeFileNamed codecs encoding content with
  | ok text => simp [read,eq_comm]
  | error e => cases e <;> simp [read]

theorem targetOf_name (plain : a.output = none) :
    targetOf a ⟨"",[input]⟩ = ⟨"",[documentName input]⟩ := by
  unfold targetOf
  rw [plain]
  rfl

theorem calm_swallows {place : Place} :
    Surroundings.calm.writing place = .swallowed ↔ place = nullDevice := by
  change (if place = nullDevice then WriteEnd.swallowed else .kept) = .swallowed ↔ _
  split <;> simp [*]

theorem calm_kept {place : Place} (apart : place ≠ nullDevice) : Surroundings.calm.writing place = .kept :=
  if_neg apart

@[simp] theorem calm_report (place : Place) : (Surroundings.calm.writing place).report? = none := by
  change WriteEnd.report? (if place = nullDevice then _ else _) = none
  split <;> rfl

theorem saving_name {name : String} {package : Package} {written : Written}
    (plain : '\x00' ∉ name.toList) (free : files.placeFor ⟨"",[name]⟩ = .ok [name]) :
    saving files ⟨"",[name]⟩ package = .ok written ↔ written = ⟨⟨"",[name]⟩,[name],package⟩ := by
  have above : (PathName.mk "" [name]).parent = ⟨"",[]⟩ := rfl
  have here : hasNull (PathName.mk "" []).toString = false := by decide
  have last : hasNull (PathName.mk "" [name]).name = false := by
    change hasNull name = false
    simpa [hasNull] using plain
  rw [saving_ok,free,above]
  simp [here,last]

theorem convertFile_ok {c : Converter} {name : String} {written : Written}
    (found : files.read source = .ok content) (plain : '\x00' ∉ name.toList)
    (free : files.placeFor ⟨"",[name]⟩ = .ok [name]) :
    (convertFile files network codecs c encoding source ⟨"",[name]⟩).result = .ok written ↔ ∃ text package,
      Text.decodeFileNamed codecs encoding content = .ok text ∧
        (c.convert network text name).result = .ok package ∧ written = ⟨⟨"",[name]⟩,[name],package⟩ := by
  have name_eq : (PathName.mk "" [name]).name = name := rfl
  rw [convertFile_result]
  simp only [bind_ok,mapError_ok,readMarkdown_ok found,saving_name plain free,name_eq]
  constructor
  · rintro ⟨_,⟨text,decoded,rfl⟩,package,converted,same⟩
    rw [Converter.convert_unified] at converted
    exact ⟨text,package,decoded,converted,same⟩
  · rintro ⟨text,package,decoded,converted,same⟩
    refine ⟨_,⟨text,decoded,rfl⟩,package,?_,same⟩
    rw [Converter.convert_unified]
    exact converted

/-- The run writes a document if the file becomes one. -/
theorem attempt_ok {args : List String} (network : Network) (codecs : Text.Codecs)
    (isName : IsFileName input) (isSettings : IsFileName settings)
    (asks : Asks args input style encoding settings a) (found : files.read ⟨"",[input]⟩ = .ok content)
    (configured : files.read ⟨"",[settings]⟩ = .ok (Text.Utf8.encode config))
    (free : files.placeFor ⟨"",[documentName input]⟩ = .ok [documentName input]) (written : Written) :
    (attempt files network codecs a input).result = .ok written ↔ ∃ package,
      Yields network style config input (Text.decodeFileNamed codecs encoding content) package ∧
        written = ⟨⟨"",[documentName input]⟩,[documentName input],package⟩ := by
  have path := PathName.ofString_of_isFileName isName
  have there : files.isFile (PathName.ofString input) = .ok true := by
    rw [path,Files.isFile_ok,PathName.toString_name]
    exact ⟨by simpa [hasNull] using isName.plain,content,found⟩
  have plain := (documentName_isFileName isName).plain
  rw [attempt_of_isFile there,path,asks.config,asks.style,asks.encoding,targetOf_name asks.output]
  simp only [bind_ok,readSettings_ok isSettings configured,convertFile_ok found plain free]
  constructor
  · rintro ⟨value,parsed,text,package,decoded,converted,same⟩
    exact ⟨package,⟨value,text,parsed,decoded,converted⟩,same⟩
  · rintro ⟨package,⟨value,text,parsed,decoded,converted⟩,same⟩
    exact ⟨value,parsed,text,package,decoded,converted,same⟩

/-- A document is written only where there is a place for it. -/
theorem convertFile_placed {c : Converter} {target : PathName} {written : Written}
    (done : (convertFile files network codecs c encoding source target s).result = .ok written) :
    written.path = target ∧ files.placeFor target = .ok written.place := by
  rw [convertFile_result] at done
  obtain ⟨markdown,-,done⟩ := bind_ok.mp done
  obtain ⟨package,-,done⟩ := bind_ok.mp done
  obtain ⟨-,-,place,free,-,rfl⟩ := saving_ok.mp done
  exact ⟨rfl,free⟩

theorem attempt_placed {written : Written}
    (done : (attempt files network codecs a input s).result = .ok written) :
    let target := targetOf a (PathName.ofString input)
    written.path = target ∧ files.placeFor target = .ok written.place := by
  rw [attempt_result] at done
  obtain ⟨there,-,done⟩ := bind_ok.mp done
  cases there with
  | false => cases done
  | true =>
    obtain ⟨settings,-,done⟩ := bind_ok.mp done
    exact convertFile_placed done

/-- A directory that holds a file, settings in UTF-8, and nothing else. -/
def configuredFolder (input settings config : String) (content : List UInt8) : Files :=
  folder [(input,content),(settings,Text.Utf8.encode config)]

variable {args : List String}

/-- The run ends well if the file becomes a document whose name is not too long, and writes this document. -/
theorem run_ok (network : Network) (codecs : Text.Codecs) (sizeOf : Package → String)
    (isName : IsFileName input) (isSettings : IsFileName settings) (other : settings ≠ input)
    (short : input.utf8ByteSize ≤ Files.maxNameLength)
    (shortSettings : settings.utf8ByteSize ≤ Files.maxNameLength)
    (asks : Asks args input style encoding settings a) :
    let ran := run (configuredFolder input settings config content) network codecs sizeOf args
    let fits := (documentName input).utf8ByteSize ≤ Files.maxNameLength
    let yields := Yields network style config input (Text.decodeFileNamed codecs encoding content)
    (ran.exit = .ok 0 ↔ fits ∧ ∃ package, yields package) ∧ ∀ package, fits → yields package →
      ran.written = some ⟨⟨"",[documentName input]⟩,[documentName input],package⟩ := by
  dsimp only
  have found : (configuredFolder input settings config content).read ⟨"",[input]⟩ = .ok content :=
    Files.folder_read isName short (by simp)
  have configured : (configuredFolder input settings config content).read ⟨"",[settings]⟩ =
      .ok (Text.Utf8.encode config) := by
    have apart : (settings == input) = false := beq_false_of_ne other
    exact Files.folder_read isSettings shortSettings (by simp [List.lookup_cons,apart])
  rw [asks.converts.run,outcome_done]
  rcases Nat.lt_or_ge Files.maxNameLength (documentName input).utf8ByteSize with long | fits
  · have unfit := Nat.not_le.mpr long
    refine ⟨iff_of_false ?_ fun found => unfit found.1,fun _ fits => absurd fits unfit⟩
    rintro ⟨written,result⟩
    obtain ⟨-,free⟩ := attempt_placed result
    rw [PathName.ofString_of_isFileName isName,targetOf_name asks.output] at free
    exact Files.folder_placeFor_long long free
  · have free : (configuredFolder input settings config content).placeFor ⟨"",[documentName input]⟩ =
        .ok [documentName input] :=
      Files.folder_placeFor (documentName_isFileName isName) fits
    have writes := attempt_ok network codecs isName isSettings asks found configured free
    refine ⟨⟨?_,?_⟩,fun package _ yields => outcome_written.mpr
      ⟨(writes _).mpr ⟨package,yields,rfl⟩,mt calm_swallows.mp (by simp [nullDevice])⟩⟩
    · rintro ⟨written,result⟩
      obtain ⟨package,yields,-⟩ := (writes _).mp result
      exact ⟨fits,package,yields⟩
    · rintro ⟨-,package,yields⟩
      exact ⟨_,(writes _).mpr ⟨package,yields,rfl⟩⟩

end Command

end DocPress
