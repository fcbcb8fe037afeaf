import DocPress.Document.Assembly
import DocPress.Document.Block
import DocPress.Markdown.Parse
import DocPress.Package.Encode
import DocPress.Picture.Fetch
import DocPress.Style.Resolve
import DocPress.Text.PathName

/-!
Converting Markdown to a document in one go: reading it, fetching its pictures, laying it out in a
look, and writing the package.
-/

namespace DocPress

def documentExtension : String := ".docx"

def hasDocumentExtension (name : String) : Bool :=
  let ending := documentExtension.toList
  (name.toList.drop (name.length - ending.length)).map Char.toLower = ending

/-- The title of a document: the last part of its path, without the ending of documents. -/
def titleOf (outputName : String) : String :=
  let name := (Text.PathName.ofString outputName).name
  if hasDocumentExtension name then
    String.ofList (name.toList.take (name.length - documentExtension.length))
  else name

def defaultOutputName : String := "document.docx"

inductive ConversionError where
  | fetch (fault : FetchFault)
  | packaging (error : PackagingError)
  deriving DecidableEq, Repr

structure Conversion where
  result : Except ConversionError Package
  log : List LogRecord
  requests : List String

structure Converter where
  preset : Preset
  config : StyleConfig
  deriving DecidableEq, Repr

namespace Converter

def ofSettings (settings : Value) (preset : Preset) : Converter where
  preset := preset
  config := .resolve settings (some preset)

def settingsLog (settings : Value) (preset : Preset) : List LogRecord :=
  StyleConfig.resolveLog settings (some preset)

def layOut (c : Converter) (images : ImageCache) (title : String) (doc : Node) : DocumentModel :=
  assemble (doc.documentBlocks c.config images) c.config title

def assembledRecord (model : DocumentModel) (outputName : String) : LogRecord :=
  .debug <| s!"Assembled {model.blocks.length} top-level blocks for " ++ Text.quoted outputName

/-- Converts Markdown to the document of a name. All pictures are fetched before anything is laid
out. -/
def convert (c : Converter) (network : Network) (markdown outputName : String) : Conversion :=
  let doc := Markdown.parse markdown
  let images := resolveImages network doc
  match images.cache with
  | .error fault => ⟨.error (.fetch fault),images.log,images.requests⟩
  | .ok cache =>
    let model := c.layOut cache (titleOf outputName) doc
    let encoded := encode model
    { result := encoded.result.mapError .packaging
      log := images.log ++ doc.documentLog ++ [assembledRecord model outputName] ++ encoded.log
      requests := images.requests }

end Converter

end DocPress
