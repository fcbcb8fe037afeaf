import DocPress.Archive.Stored
import DocPress.Package.Encode
import DocPress.Package.Markup

/-!
The parts of a package: their names, the relations between them, and the file that holds them all.
-/

namespace DocPress

def documentFolder : String := "word/"

/-- The name of a picture's part below that folder; pictures are counted from one. -/
def Medium.partName (index : Nat) (m : Medium) : String :=
  s!"media/image{index + 1}." ++ m.format.extension

structure Relation where
  id : String
  kind : String
  target : String
  isExternal : Bool
  deriving DecidableEq, Repr

namespace Package

def pictureTarget (p : Package) (index : Nat) : String :=
  match p.media[index]? with
  | some m => m.partName index
  | none => ""

def relationRows (p : Package) : List Relation :=
  p.relations.mapIdx fun i target =>
    let id := Build.relationName (firstRelation + i)
    match target with
    | .link url => ⟨id,"hyperlink",url,true⟩
    | .picture index => ⟨id,"image",p.pictureTarget index,false⟩

def pictureParts (p : Package) : List (String × List UInt8) :=
  p.media.mapIdx fun i m => (documentFolder ++ m.partName i,m.data)

def numberingPart (p : Package) : List XmlElement := p.numbering.map NumberingEntry.toXml

end Package

namespace Part

def schemas : String := "http://schemas.openxmlformats.org/"

def vocabularies : List (String × String) := [
  ("xmlns:w",schemas ++ "wordprocessingml/2006/main"),
  ("xmlns:r",schemas ++ "officeDocument/2006/relationships"),
  ("xmlns:wp",schemas ++ "drawingml/2006/wordprocessingDrawing"),
  ("xmlns:a",schemas ++ "drawingml/2006/main"),
  ("xmlns:pic",schemas ++ "drawingml/2006/picture")]

def root (name : String) (children : List XmlElement) : XmlElement :=
  .mk name vocabularies "" children

/-- The size of a page and of its margins, in twentieths of a point. -/
def page : XmlElement := .parent "w:sectPr" [
  .leaf "w:pgSz" [("w:w","12240"),("w:h","15840")],
  .leaf "w:pgMar" [("w:top","1440"),("w:right","1800"),("w:bottom","1440"),
    ("w:left","1800"),("w:header","720"),("w:footer","720"),("w:gutter","0")]]

def relation (r : Relation) : XmlElement :=
  .leaf "Relationship" ([("Id",r.id),
    ("Type",schemas ++ "officeDocument/2006/relationships/" ++ r.kind),("Target",r.target)] ++
    (if r.isExternal then [("TargetMode","External")] else []))

def relations (rs : List XmlElement) : XmlElement :=
  .mk "Relationships" [("xmlns",schemas ++ "package/2006/relationships")] "" rs

/-- The relation to what identifies the document, which is not one of its format's own. -/
def coreRelation : XmlElement :=
  .leaf "Relationship" [("Id","rId2"),
    ("Type",schemas ++ "package/2006/relationships/metadata/core-properties"),
    ("Target","docProps/core.xml")]

def core (c : CoreProperties) : XmlElement :=
  .mk "cp:coreProperties" [
    ("xmlns:cp",schemas ++ "package/2006/metadata/core-properties"),
    ("xmlns:dc","http://purl.org/dc/elements/1.1/")] "" [
    .ofText "dc:title" [] c.title,
    .ofText "dc:creator" [] c.creator,
    .ofText "cp:lastModifiedBy" [] c.lastModifiedBy]

def mediaTypes : XmlElement :=
  let main := "application/vnd.openxmlformats-officedocument.wordprocessingml."
  let byEnding (ending type : String) : XmlElement :=
    .leaf "Default" [("Extension",ending),("ContentType",type)]
  let byName (name type : String) : XmlElement :=
    .leaf "Override" [("PartName",name),("ContentType",type)]
  .mk "Types" [("xmlns",schemas ++ "package/2006/content-types")] "" [
    byEnding "rels" "application/vnd.openxmlformats-package.relationships+xml",
    byEnding "xml" "application/xml",
    byEnding "png" "image/png",
    byEnding "gif" "image/gif",
    byEnding "jpg" "image/jpeg",
    byEnding "bmp" "image/bmp",
    byEnding "tiff" "image/tiff",
    byName "/word/document.xml" (main ++ "document.main+xml"),
    byName "/word/styles.xml" (main ++ "styles+xml"),
    byName "/word/numbering.xml" (main ++ "numbering+xml"),
    byName "/docProps/core.xml" "application/vnd.openxmlformats-package.core-properties+xml"]

end Part

namespace Package

def entries (p : Package) : List Archive.Entry :=
  let own : List Relation := [
    ⟨"rId1","styles","styles.xml",false⟩,
    ⟨"rId2","numbering","numbering.xml",false⟩]
  let main : Relation := ⟨"rId1","officeDocument",documentFolder ++ "document.xml",false⟩
  [⟨"[Content_Types].xml",Part.mediaTypes.toFile⟩,
    ⟨"_rels/.rels",(Part.relations [Part.relation main,Part.coreRelation]).toFile⟩,
    ⟨"docProps/core.xml",(Part.core p.core).toFile⟩,
    ⟨documentFolder ++ "document.xml",
      (Part.root "w:document" [.parent "w:body" (p.body ++ [Part.page])]).toFile⟩,
    ⟨documentFolder ++ "styles.xml",(Part.root "w:styles" p.styles).toFile⟩,
    ⟨documentFolder ++ "numbering.xml",(Part.root "w:numbering" p.numberingPart).toFile⟩,
    ⟨documentFolder ++ "_rels/document.xml.rels",
      (Part.relations ((own ++ p.relationRows).map Part.relation)).toFile⟩] ++
  p.pictureParts.map fun (name,data) => ⟨name,data⟩

def toBytes (p : Package) : List UInt8 := Archive.toBytes p.entries

end Package

end DocPress
