import DocPress.Command.Usage
import DocPress.Text.Digit

/-!
Reading the words of a command line. Long options may be cut short as long as one is meant; short
ones may be written together. Behind a lone pair of dashes nothing is an option any more.
-/

namespace DocPress.Command

inductive Word where
  | plain (text : String)
  | divider
  | option (s : Switch)
  | attached (s : Switch) (isShort equals : Bool) (value : List Char)
  | unknown (text : String)
  deriving DecidableEq, Repr

namespace Word

/-- The word as it was written; of options only what is left over is ever shown. -/
def text : Word → String
  | plain text | unknown text => text
  | divider => "--"
  | option s => s.label
  | attached s _ _ _ => s.label

def isNegativeNumber (cs : List Char) : Bool :=
  let isDigit (c : Char) := (Text.digitValue? c).isSome
  match cs with
  | '-' :: rest =>
    let whole := rest.takeWhile isDigit
    match rest.drop whole.length with
    | [] => ! whole.isEmpty
    | '.' :: places => ! places.isEmpty && places.all isDigit
    | _ => false
  | _ => false

def readings (cs : List Char) : List (String × Word) :=
  match cs with
  | '-' :: '-' :: _ =>
    let start := cs.takeWhile (· ≠ '=')
    let found := Switch.table.filter fun entry => start.isPrefixOf entry.1.toList
    found.map fun (spelling,s) => (spelling,
      if start.length < cs.length then .attached s false true (cs.drop (start.length + 1))
      else .option s)
  | '-' :: c :: rest =>
    let short := String.ofList ['-',c]
    (Switch.table.filter (·.1 = short)).map fun (spelling,s) =>
      (spelling,.attached s true false rest)
  | _ => []

def assigned? (cs : List Char) : Option Word :=
  let name := cs.takeWhile (· ≠ '=')
  match cs.drop name.length, Switch.ofSpelling? (String.ofList name) with
  | '=' :: value, some s => some (.attached s (name.length = 2) true value)
  | _, _ => none

def ofString (text : String) : Except Misuse Word :=
  let cs := text.toList
  match cs with
  | '-' :: _ :: _ =>
    match Switch.ofSpelling? text, assigned? cs, readings cs with
    | some s, _, _ => .ok (.option s)
    | none, some word, _ => .ok word
    | none, none, [(_,word)] => .ok word
    | none, none, [] =>
      .ok (if isNegativeNumber cs || cs.contains ' ' then .plain text else .unknown text)
    | none, none, several => .error (.ambiguous text (several.map (·.1)))
  | _ => .ok (.plain text)

def ofStrings : List String → Except Misuse (List Word)
  | [] => .ok []
  | "--" :: rest => .ok (.divider :: rest.map .plain)
  | text :: rest => do
    let word ← ofString text
    let words ← ofStrings rest
    return word :: words

end Word

structure Arguments where
  input : Option String := none
  /-- Has the place of the input been filled, if only by a divider? -/
  inputTaken : Bool := false
  output : Option String := none
  style : Preset := .standard
  config : Option String := none
  encoding : String := "utf-8"
  listStyles : Bool := false
  verbose : Bool := false
  unknownWords : List String := []
  deriving DecidableEq, Repr

inductive Halt where
  | help
  | version
  | misuse (m : Misuse)
  deriving DecidableEq, Repr

structure Cluster where
  flags : List Switch
  last : Option Word
  deriving DecidableEq, Repr

def readCluster (s : Switch) : List Char → Except Misuse Cluster
  | [] => .error (.unwantedValue s "")
  | c :: cs =>
    if c = '-' then .error (.unwantedValue s (String.ofList (c :: cs)))
    else match Switch.ofSpelling? (String.ofList ['-',c]) with
      | none => .ok ⟨[s],some (.unknown (String.ofList ('-' :: c :: cs)))⟩
      | some next =>
        match cs with
        | [] => .ok ⟨[s],some (.option next)⟩
        | '=' :: value =>
          if next.takesValue then .ok ⟨[s],some (.attached next true true value)⟩
          else .error (.unwantedValue next (String.ofList value))
        | _ =>
          if next.takesValue then .ok ⟨[s],some (.attached next true false cs)⟩
          else do
            let cluster ← readCluster next cs
            return { cluster with flags := s :: cluster.flags }

namespace Arguments

def flag (a : Arguments) (s : Switch) : Except Halt Arguments :=
  match s with
  | .help => .error .help
  | .version => .error .version
  | .listStyles => .ok { a with listStyles := true }
  | .verbose => .ok { a with verbose := true }
  | _ => .error (.misuse (.missingValue s))

def give (a : Arguments) (s : Switch) (value : String) : Except Halt Arguments :=
  match s with
  | .output => .ok { a with output := some value }
  | .config => .ok { a with config := some value }
  | .encoding => .ok { a with encoding := value }
  | .style =>
    match Preset.ofName value with
    | .ok preset => .ok { a with style := preset }
    | .error _ => .error (.misuse (.unknownStyle value))
  | _ => .error (.misuse (.unwantedValue s value))

def flags (a : Arguments) (switches : List Switch) : Except Halt Arguments :=
  switches.foldlM flag a

def setAside (a : Arguments) (text : String) : Arguments :=
  { a with unknownWords := a.unknownWords ++ [text] }

/-- Takes the last of some options that are written in one word. The words behind are those that
follow; a value may be among them. -/
def takeLast (a : Arguments) (switches : List Switch) (last : Option Word) (words : List Word) :
    Except Halt (Arguments × Nat) :=
  match last with
  | some (.option s) =>
    if s.takesValue then
      match words with
      | .plain value :: _ => do
        let a ← a.flags switches
        let a ← a.give s value
        return (a,1)
      | _ => .error (.misuse (.missingValue s))
    else do
      let a ← a.flags (switches ++ [s])
      return (a,0)
  | some (.attached s _ _ value) => do
    let a ← a.flags switches
    let a ← a.give s (String.ofList value)
    return (a,0)
  | some word => do
    let a ← a.flags switches
    return (a.setAside word.text,0)
  | none => do
    let a ← a.flags switches
    return (a,0)

def takeOption (a : Arguments) (word : Word) (words : List Word) :
    Except Halt (Arguments × Nat) :=
  match word with
  | .attached s isShort equals value =>
    if s.takesValue then a.takeLast [] (some word) words
    else if ! isShort || equals then
      .error (.misuse (.unwantedValue s (String.ofList value)))
    else match readCluster s value with
      | .error m => .error (.misuse m)
      | .ok cluster => a.takeLast cluster.flags cluster.last words
  | _ => a.takeLast [] (some word) words

def takeWords (a : Arguments) : List Word → Except Halt Arguments
  | [] => .ok a
  | .plain text :: words =>
    if a.inputTaken then (a.setAside text).takeWords words
    else
      let a := { a with input := some text,inputTaken := true }
      match words with
      | .divider :: words => a.takeWords words
      | words => a.takeWords words
  | .divider :: words =>
    if a.inputTaken then (a.setAside "--").takeWords words
    else
      let a := { a with inputTaken := true }
      match words with
      | .plain text :: words => { a with input := some text }.takeWords words
      | words => a.takeWords words
  | word :: words => do
    let (a,used) ← a.takeOption word words
    a.takeWords (words.drop used)
termination_by words => words.length

def parse (args : List String) : Except Halt Arguments :=
  match Word.ofStrings args with
  | .error m => .error (.misuse m)
  | .ok words => do
    let a ← takeWords {} words
    if a.unknownWords.isEmpty then .ok a
    else .error (.misuse (.unknownWords a.unknownWords))

end Arguments

end DocPress.Command
