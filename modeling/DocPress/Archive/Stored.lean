import DocPress.Archive.Checksum

/-!
Archives of files that are stored as they are: a record before each file, and a directory of all
files at the end.
-/

namespace DocPress.Archive

structure Entry where
  name : String
  data : List UInt8
  deriving DecidableEq, Repr

def littleEndian : Nat → Nat → List UInt8
  | 0, _ => []
  | width + 1, n => UInt8.ofNat (n % 256) :: littleEndian width (n / 256)

namespace Entry

/-- What both records of a file say: how it is stored, when it was changed, its checksum and sizes,
and how long its name is. The time is the earliest one that can be written. -/
def facts (e : Entry) : List UInt8 :=
  littleEndian 2 20 ++ littleEndian 2 0x800 ++ littleEndian 2 0 ++ littleEndian 2 0 ++
    littleEndian 2 0x21 ++ littleEndian 4 (checksum e.data).toNat ++
    littleEndian 4 e.data.length ++ littleEndian 4 e.data.length ++
    littleEndian 2 e.name.utf8ByteSize ++ littleEndian 2 0

def localRecord (e : Entry) : List UInt8 :=
  littleEndian 4 0x04034B50 ++ e.facts ++ e.name.toUTF8.toList ++ e.data

def listed (e : Entry) (offset : Nat) : List UInt8 :=
  littleEndian 4 0x02014B50 ++ littleEndian 2 20 ++ e.facts ++ littleEndian 2 0 ++
    littleEndian 2 0 ++ littleEndian 2 0 ++ littleEndian 4 0 ++ littleEndian 4 offset ++
    e.name.toUTF8.toList

end Entry

def records (offset : Nat) : List Entry → List UInt8 × List UInt8
  | [] => ([],[])
  | e :: es =>
    let file := e.localRecord
    let (files,directory) := records (offset + file.length) es
    (file ++ files,e.listed offset ++ directory)

def toBytes (entries : List Entry) : List UInt8 :=
  let (files,directory) := records 0 entries
  files ++ directory ++ littleEndian 4 0x06054B50 ++ littleEndian 2 0 ++ littleEndian 2 0 ++
    littleEndian 2 entries.length ++ littleEndian 2 entries.length ++
    littleEndian 4 directory.length ++ littleEndian 4 files.length ++ littleEndian 2 0

end DocPress.Archive
