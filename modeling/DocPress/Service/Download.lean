import DocPress.Converter
import DocPress.Text.Percent

/-!
Documents as downloads: the name of one, and the header that carries it.
-/

namespace DocPress.Service

def defaultStem : String := "document"

def orElse (s fallback : String) : String := if s.isEmpty then fallback else s

/-- The name of the document that is made of a file: the last part of the file's path, with the
ending of documents in place of its own. -/
def downloadName (name : Option String) : String :=
  let path := Text.PathName.ofString (orElse (name.getD "") defaultStem)
  orElse path.stem defaultStem ++ documentExtension

def isAscii (s : String) : Bool := s.toList.all fun c => c.toNat < 0x80

/-- The header that gives a download its name. A name in ASCII stands in quotes as it is; another
one is percent encoded. -/
def contentDisposition (filename : String) : String :=
  if isAscii filename then "attachment; filename=\"" ++ filename ++ "\""
  else "attachment; filename*=UTF-8''" ++
    String.ofList (Text.percentEncode ['/'] filename.toList)

end DocPress.Service
