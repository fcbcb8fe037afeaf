import DocPress.Style.Preset

/-!
The options of the command line, its help texts, and what is said when it is misused.
-/

namespace DocPress.Command

inductive Switch where
  | help
  | output
  | style
  | config
  | encoding
  | listStyles
  | verbose
  | version
  deriving DecidableEq, Repr

namespace Switch

def all : List Switch := [help,output,style,config,encoding,listStyles,verbose,version]

def spellings : Switch → List String
  | help => ["-h","--help"]
  | output => ["-o","--output"]
  | style => ["-s","--style"]
  | config => ["-c","--config"]
  | encoding => ["-e","--encoding"]
  | listStyles => ["--list-styles"]
  | verbose => ["-v","--verbose"]
  | version => ["--version"]

def takesValue : Switch → Bool
  | output | style | config | encoding => true
  | help | listStyles | verbose | version => false

def label (s : Switch) : String := "/".intercalate s.spellings

def table : List (String × Switch) := all.flatMap fun s => s.spellings.map fun text => (text,s)

def ofSpelling? (text : String) : Option Switch := table.lookup text

end Switch

inductive Misuse where
  | ambiguous (text : String) (spellings : List String)
  | missingValue (s : Switch)
  | unwantedValue (s : Switch) (value : String)
  | unknownStyle (name : String)
  | unknownWords (words : List String)
  | missingInput
  deriving DecidableEq, Repr

def programName : String := "md2docx"

def programVersion : String := "0.1.0"

def styleChoices : String :=
  "\x7b" ++ ",".intercalate (Preset.all.map Preset.name) ++ "\x7d"

def usage : String :=
  "usage: md2docx [-h] [-o OUTPUT] [-s " ++ styleChoices ++ "]\n" ++
  "               [-c CONFIG] [-e ENCODING] [--list-styles] [-v] [--version]\n" ++
  "               [input]\n"

def helpText : String :=
  usage ++ "\n" ++
  "Convert Markdown files to styled DOCX documents.\n" ++
  "\n" ++
  "positional arguments:\n" ++
  "  input                 Path to the Markdown file to convert.\n" ++
  "\n" ++
  "options:\n" ++
  "  -h, --help            show this help message and exit\n" ++
  "  -o OUTPUT, --output OUTPUT\n" ++
  "                        Output DOCX file path. Defaults to <input>.docx.\n" ++
  "  -s " ++ styleChoices ++ ", --style " ++ styleChoices ++ "\n" ++
  "                        Style preset (default: default).\n" ++
  "  -c CONFIG, --config CONFIG\n" ++
  "                        JSON file with style overrides (any subset of fields).\n" ++
  "  -e ENCODING, --encoding ENCODING\n" ++
  "                        Input file encoding (default: utf-8).\n" ++
  "  --list-styles         List available style presets and exit.\n" ++
  "  -v, --verbose         Log progress and diagnostics to stderr.\n" ++
  "  --version             show program's version number and exit\n"

def versionText : String := programName ++ " " ++ programVersion ++ "\n"

def styleList : String :=
  "Available style presets:\n" ++
    String.join (Preset.all.map fun p => "  - " ++ p.name ++ "\n")

def Misuse.message : Misuse → String
  | ambiguous text spellings =>
    s!"ambiguous option: {text} could match " ++ ", ".intercalate spellings
  | missingValue s => s!"argument {s.label}: expected one argument"
  | unwantedValue s value =>
    s!"argument {s.label}: ignored explicit argument {Text.quoted value}"
  | unknownStyle name =>
    s!"argument {Switch.style.label}: invalid choice: {Text.quoted name} (choose from " ++
      ", ".intercalate (Preset.all.map fun p => Text.quoted p.name) ++ ")"
  | unknownWords words => "unrecognized arguments: " ++ " ".intercalate words
  | missingInput => "the following argument is required: input"

def Misuse.report (m : Misuse) : String :=
  usage ++ programName ++ ": error: " ++ m.message ++ "\n"

end DocPress.Command
