import DocPress.Command.Run
import DocPress.Package.Part
import DocPress.Picture.Offline

/-!
The program: it looks at the files that its command line names, runs, prints, and writes the
document. It has no connection, so of the pictures only those that addresses hold in themselves
come into the document.
-/

namespace DocPress.Main

open DocPress.Command

def wayTo (p : Text.PathName) : Place × List Place :=
  p.parts.foldl (fun (place,seen) name =>
    (if name = ".." then Files.above place else place ++ [name],seen ++ [place]))
    (Files.start p,[])

def namedPaths (args : List String) : List String :=
  match Arguments.parse args with
  | .ok a => a.input.toList ++ a.config.toList ++ a.output.toList
  | .error _ => []

def look (files : Files) (path : String) : IO Files := do
  let (place,seen) := wayTo (Text.PathName.ofString path)
  try
    let data ← IO.FS.readBinFile path
    return { contents := files.contents ++ [(place,data.toList)]
             directories := files.directories ++ seen }
  catch
    | .noFileOrDirectory _ _ _ => return files
    | _ => return { files with directories := files.directories ++ seen ++ [place] }

def pathOf : Place → String
  | "/" :: names => "/" ++ "/".intercalate names
  | names => "/".intercalate names

/-- Makes the directories that a run has made, also if nothing comes of it, and writes its document. -/
def carryOut (files : Files) (outcome : Outcome) : IO Unit := do
  for place in outcome.left.directories do
    unless files.isDirectory place do IO.FS.createDirAll (pathOf place)
  outcome.written.forM fun w => IO.FS.writeBinFile w.path.toString ⟨w.package.toBytes.toArray⟩

end DocPress.Main

def main (args : List String) : IO UInt32 := do
  let files ← (DocPress.Main.namedPaths args).foldlM DocPress.Main.look {}
  let size (p : DocPress.Package) := toString p.toBytes.length
  let outcome := DocPress.Command.run files .offline .bare size args
  DocPress.Main.carryOut files outcome
  IO.print outcome.stdout
  IO.eprint outcome.stderr
  match outcome.exit with
  | .ok code => return code.toUInt32
  | .error fault =>
    IO.eprintln fault.message
    return 1
