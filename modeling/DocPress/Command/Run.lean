import DocPress.Command.Arguments
import DocPress.Command.Files
import DocPress.Converter
import DocPress.Package.Part
import DocPress.Text.Encoding
import DocPress.Text.LineEnd
import DocPress.Value.Reader

/-!
A run of the program: from the words of its command line, and the files that it finds, to what it
prints and the files that it leaves behind, with the one that it writes. What becomes of the data that it
writes, and of the text that it prints, lies with what is around it.
-/

namespace DocPress.Command

open DocPress.Text (PathName)

/-- What ends a run without any report. -/
inductive Fault where
  | encoding (error : Text.EncodingError)
  | settingsText (error : Text.DecodeError)
  | settings (error : Value.ReadError)
  | fetch (fault : FetchFault)
  /-- A path that cannot even be looked for. -/
  | file (error : FileError)
  | nullInPath
  deriving DecidableEq, Repr

def Fault.message : Fault → String
  | encoding error => error.message
  | settingsText error => error.message
  | settings error => error.message []
  | fetch fault => fault.message
  | file error => error.message
  | nullInPath => "embedded null byte"

inductive Stop where
  | report (text : String)
  | fault (f : Fault)
  deriving DecidableEq, Repr

/-- What becomes of data that is written to a place. -/
inductive WriteEnd where
  | kept
  | swallowed
  | refused (report : String)
  /-- A beginning of it is kept, of so many bytes. -/
  | brokenOff (length : Nat) (report : String)
  deriving DecidableEq, Repr

namespace WriteEnd

def put (e : WriteEnd) (place : Place) (data : List UInt8) (files : Files) : Files :=
  match e with
  | kept => files.put place data
  | brokenOff length _ => files.put place (data.take length)
  | swallowed | refused _ => files

def report? : WriteEnd → Option String
  | refused report | brokenOff _ report => some report
  | kept | swallowed => none

end WriteEnd

def nullDevice : Place := ["/","dev","null"]

structure Surroundings where
  writing : Place → WriteEnd
  /-- What ends a run that asks for the size of the file in a place. -/
  sizing : Place → Option Fault
  /-- What ends a run that prints a text. -/
  printing : String → Option Fault

def Surroundings.calm : Surroundings where
  writing place := if place = nullDevice then .swallowed else .kept
  sizing _ := none
  printing _ := none

structure Written where
  path : PathName
  place : Place
  package : Package

/-- An attempt to convert a file: what it reports on the way, what comes of it, and the files behind it. -/
structure Attempt where
  records : List LogRecord
  result : Except Stop Written
  left : Files

def Attempt.of (records : List LogRecord) : EStateM.Result Stop Files Written → Attempt
  | .ok written left => ⟨records,.ok written,left⟩
  | .error stop left => ⟨records,.error stop,left⟩

def nonEmpty? (text : Option String) : Option String := text.filter (! ·.isEmpty)

/-- Reads the settings of a file. Line ends count as one character each. -/
def readSettings (files : Files) (path : Option String) : Except Stop Value :=
  match nonEmpty? path with
  | none => .ok .null
  | some path =>
    let failure (text : String) : Stop :=
      .report s!"cannot read style config {path}: {text}"
    if hasNull path then .error (.fault .nullInPath)
    else match files.read (PathName.ofString path) with
      | .error e => .error (failure e.message)
      | .ok data =>
        match Text.Utf8.decodeFrom 0 data with
        | .error e => .error (.fault (.settingsText e))
        | .ok cs =>
          let text := Text.unifyLineEnds cs
          match Value.ofJson (String.ofList text) with
          | .ok settings => .ok settings
          | .error (.malformed fault position) =>
            .error (failure (Value.ReadError.message text (.malformed fault position)))
          | .error e => .error (.fault (.settings e))

def readMarkdown (files : Files) (codecs : Text.Codecs) (encoding : String) (path : PathName) :
    Except Stop String :=
  match files.read path with
  | .error e => .error (.report e.message)
  | .ok data =>
    match Text.decodeFileNamed codecs encoding data with
    | .ok text => .ok (String.ofList (Text.unifyLineEnds text.toList))
    | .error (.undecodable e) => .error (.report e.message)
    | .error e => .error (.fault (.encoding e))

def reporting {α : Type} (act : EStateM FileError Files α) : EStateM Stop Files α :=
  act.adaptExcept fun e => .report e.message

def Written.land (s : Surroundings) (w : Written) : EStateM Stop Files Written := do
  modify ((s.writing w.place).put w.place w.package.toBytes)
  match (s.writing w.place).report? with
  | some report => throw (.report report)
  | none => return w

def write (path : PathName) (package : Package) (s : Surroundings := .calm) :
    EStateM Stop Files Written := do
  if hasNull path.parent.toString then throw (.fault .nullInPath)
  reporting (Files.makeWay path.root path.parent.parts.reverse)
  if hasNull path.name then throw (.fault .nullInPath)
  match (← get).placeOf path with
  | .error e => throw (.report e.message)
  | .ok place => Written.land s ⟨path,place,package⟩

def convertFile (files : Files) (network : Network) (codecs : Text.Codecs) (c : Converter)
    (encoding : String) (source target : PathName) (s : Surroundings := .calm) : Attempt :=
  match readMarkdown files codecs encoding source with
  | .error stop => ⟨[],.error stop,files⟩
  | .ok markdown =>
    let conversion := c.convert network markdown target.name
    .of conversion.log <| match conversion.result with
      | .ok package => (write target package s).run files
      | .error (.packaging e) => .error (.report e.message) files
      | .error (.fetch f) => .error (.fault (.fetch f)) files

def planRecords (a : Arguments) (source target : PathName) : List LogRecord := [
  .debug s!"Input:  {source.toString}",
  .debug s!"Output: {target.toString}",
  .debug s!"Style:  {a.style.name}"]

/-- The path of the document: the one that is asked for, or that of the input with the ending of
documents. -/
def targetOf (a : Arguments) (source : PathName) : PathName :=
  match nonEmpty? a.output with
  | some path => PathName.ofString path
  | none => source.withExtension documentExtension

def attempt (files : Files) (network : Network) (codecs : Text.Codecs) (a : Arguments)
    (input : String) (s : Surroundings := .calm) : Attempt :=
  let source := PathName.ofString input
  match files.isFile source with
  | .error e => ⟨[],.error (.fault (.file e)),files⟩
  | .ok false => ⟨[],.error (.report s!"file not found: {source.toString}"),files⟩
  | .ok true =>
    match readSettings files a.config with
    | .error stop => ⟨[],.error stop,files⟩
    | .ok settings =>
      let target := targetOf a source
      let conversion := convertFile files network codecs (.ofSettings settings a.style) a.encoding
        source target s
      { conversion with
        records := planRecords a source target ++ Converter.settingsLog settings a.style ++
          conversion.records }

/-- What a run leaves behind: its exit code unless a fault ends it, what it prints, the document that it
writes, and the files. -/
structure Outcome where
  exit : Except Fault Nat
  stdout : String := ""
  stderr : String := ""
  written : Option Written := none
  left : Files

def shownLines (verbose : Bool) (records : List LogRecord) : String :=
  let least := if verbose then LogLevel.debug.rank else LogLevel.info.rank
  String.join ((records.filter fun r => least ≤ r.level.rank).map fun r => r.line ++ "\n")

def sizeRecord (size : String) : LogRecord := .debug s!"{size} bytes written"

def Outcome.print (s : Surroundings) (text : String) (o : Outcome) : Outcome :=
  match s.printing text with
  | none => { o with stdout := text }
  | some fault => { o with exit := .error fault }

/-- The end of an attempt. The size of a document that is written is for its reports only. -/
def Attempt.outcome (verbose : Bool) (sizeOf : Package → String) (t : Attempt)
    (s : Surroundings := .calm) : Outcome :=
  match t.result with
  | .ok w =>
    let written := if s.writing w.place = .swallowed then none else some w
    match s.sizing w.place with
    | some fault =>
      { exit := .error fault,stderr := shownLines verbose t.records,written,left := t.left }
    | none =>
      .print s s!"Converted: {w.path.toString}\n" {
        exit := .ok 0
        stderr := shownLines verbose (t.records ++ [sizeRecord (sizeOf w.package)])
        written
        left := t.left }
  | .error (.report text) =>
    let lines := shownLines verbose t.records
    let report := s!"Error: {text}\n"
    match s.printing report with
    | some fault => { exit := .error fault,stderr := lines,left := t.left }
    | none => { exit := .ok 1,stderr := lines ++ report,left := t.left }
  | .error (.fault f) => { exit := .error f,stderr := shownLines verbose t.records,left := t.left }

def run (files : Files) (network : Network) (codecs : Text.Codecs) (sizeOf : Package → String)
    (args : List String) (s : Surroundings := .calm) : Outcome :=
  match Arguments.parse args with
  | .error .help => .print s helpText { exit := .ok 0,left := files }
  | .error .version => .print s versionText { exit := .ok 0,left := files }
  | .error (.misuse m) => { exit := .ok 2,stderr := m.report,left := files }
  | .ok a =>
    if a.listStyles then .print s styleList { exit := .ok 0,left := files }
    else match nonEmpty? a.input with
      | none => { exit := .ok 2,stderr := Misuse.missingInput.report,left := files }
      | some input => (attempt files network codecs a input s).outcome a.verbose sizeOf s

end DocPress.Command
