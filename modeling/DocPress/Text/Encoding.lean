import DocPress.Text.Blank
import DocPress.Text.CodePage
import DocPress.Text.Utf8

/-!
Named text encodings. A name is found without regard to case and to the marks between its words. A
system may know encodings of more names; for a file, there is a name for the encoding of the system.
-/

namespace DocPress.Text

inductive Encoding where
  | utf8
  /-- UTF-8 with an optional byte order mark. -/
  | utf8Marked
  | ascii
  | latin1
  | page (page : CodePage)
  | utf16
  | utf16Little
  | utf16Big
  | utf32
  | utf32Little
  | utf32Big
  deriving DecidableEq, Repr

inductive EncodingError where
  | nullInName
  | unknown (name : String)
  | undecodable (error : DecodeError)
  | notText (name : String)
  | noByteOrderMark (codec : String)
  | failed (message : String)
  deriving DecidableEq, Repr

namespace EncodingError

def message : EncodingError → String
  | nullInName => "embedded null character"
  | unknown name => "unknown encoding: " ++ name
  | undecodable error => error.message
  | notText name =>
    s!"'{name}' is not a text encoding; use codecs.open() to handle arbitrary codecs"
  | noByteOrderMark codec => s!"{codec} stream does not start with BOM"
  | failed message => message

end EncodingError

namespace Encoding

/-- The name in lower case with one underscore for each stretch of other marks. -/
def normalizeName (name : String) : String :=
  let isMark (c : Char) := ! (c.isAlphanum || c = '.')
  let marked := name.toList.map fun c => if isMark c then ' ' else c.toLower
  String.ofList (joinWith ['_'] (words marked))

def names : List (Encoding × List String) := [
  (utf8,["utf_8","utf8","u8","utf","utf8_ucs2","utf8_ucs4","cp65001"]),
  (utf8Marked,["utf_8_sig"]),
  (ascii,["ascii","us_ascii","646","ansi_x3.4_1968","ansi_x3_4_1968","ansi_x3.4_1986",
    "cp367","csascii","ibm367","iso646_us","iso_646.irv_1991","iso_ir_6","us"]),
  (latin1,["latin_1","latin1","latin","iso_8859_1","iso8859_1","iso8859","8859","l1",
    "cp819","csisolatin1","ibm819","iso_8859_1_1987","iso_ir_100"]),
  (utf16,["utf_16","utf16","u16"]),
  (utf16Little,["utf_16_le","utf_16le","unicodelittleunmarked"]),
  (utf16Big,["utf_16_be","utf_16be","unicodebigunmarked"]),
  (utf32,["utf_32","utf32","u32"]),
  (utf32Little,["utf_32_le","utf_32le"]),
  (utf32Big,["utf_32_be","utf_32be"])] ++ CodePage.all.map fun p => (page p,p.names)

def transformations : List (List String) := [
  ["base64_codec","base64","base_64"],["bz2_codec","bz2"],["hex_codec","hex"],
  ["quopri_codec","quopri","quoted_printable","quotedprintable"],["rot_13","rot13"],
  ["uu_codec","uu"],["zlib_codec","zip","zlib"]]

/-- Is something of these names called so? A dot may stand for an underscore, but not in the first. -/
def isCalled (names : List String) (key : String) : Bool :=
  names.contains key || names.tail.contains (key.map fun c => if c = '.' then '_' else c)

def ofName (name : String) : Except EncodingError Encoding :=
  let key := normalizeName name
  match names.find? fun entry => isCalled entry.2 key with
  | some (encoding,_) => .ok encoding
  | none =>
    .error (if transformations.any (isCalled · key) then .notText name else .unknown name)

def decodeAscii (position : Nat) : List UInt8 → Except DecodeError (List Char)
  | [] => .ok []
  | b :: rest =>
    if b < 0x80 then return Char.ofNat b.toNat :: (← decodeAscii (position + 1) rest)
    else .error ⟨"ascii",b,position,position + 1,"ordinal not in range(128)"⟩

def decodePage (page : CodePage) (position : Nat) :
    List UInt8 → Except DecodeError (List Char)
  | [] => .ok []
  | b :: rest =>
    match page.char? b with
    | some c => return c :: (← decodePage page (position + 1) rest)
    | none => .error ⟨"charmap",b,position,position + 1,"character maps to <undefined>"⟩

def decodeUnits (big : Bool) (position : Nat) (bytes : List UInt8) :
    Except DecodeError (List Char) :=
  let codec := if big then "utf-16-be" else "utf-16-le"
  let unit (a b : UInt8) := if big then a.toNat * 256 + b.toNat else b.toNat * 256 + a.toNat
  match bytes with
  | [] => .ok []
  | [a] => .error ⟨codec,a,position,position + 1,"truncated data"⟩
  | [a,b] =>
    let u := unit a b
    if 0xDC00 ≤ u && u < 0xE000 then
      .error ⟨codec,a,position,position + 2,"illegal encoding"⟩
    else if 0xD800 ≤ u && u < 0xDC00 then
      .error ⟨codec,a,position,position + 2,"unexpected end of data"⟩
    else .ok [Char.ofNat u]
  | [a,b,c] =>
    let u := unit a b
    if 0xDC00 ≤ u && u < 0xE000 then
      .error ⟨codec,a,position,position + 2,"illegal encoding"⟩
    else if 0xD800 ≤ u && u < 0xDC00 then
      .error ⟨codec,a,position,position + 3,"unexpected end of data"⟩
    else .error ⟨codec,c,position + 2,position + 3,"truncated data"⟩
  | a :: b :: c :: d :: rest =>
    let u := unit a b
    if 0xDC00 ≤ u && u < 0xE000 then
      .error ⟨codec,a,position,position + 2,"illegal encoding"⟩
    else if 0xD800 ≤ u && u < 0xDC00 then
      let v := unit c d
      if 0xDC00 ≤ v && v < 0xE000 then do
        let cs ← decodeUnits big (position + 4) rest
        return Char.ofNat (0x10000 + (u - 0xD800) * 0x400 + (v - 0xDC00)) :: cs
      else .error ⟨codec,a,position,position + 2,"illegal UTF-16 surrogate"⟩
    else do
      let cs ← decodeUnits big (position + 2) (c :: d :: rest)
      return Char.ofNat u :: cs
termination_by bytes.length

def decodeWords (big : Bool) (position : Nat) :
    List UInt8 → Except DecodeError (List Char)
  | [] => .ok []
  | a :: b :: c :: d :: rest =>
    let word := (if big then [a,b,c,d] else [d,c,b,a]).foldl (fun n b => n * 256 + b.toNat) 0
    let failure (reason : String) : DecodeError := ⟨wordCodec big,a,position,position + 4,reason⟩
    if 0xD800 ≤ word && word < 0xE000 then
      .error (failure "code point in surrogate code point range(0xd800, 0xe000)")
    else if word < 0x110000 then
      return Char.ofNat word :: (← decodeWords big (position + 4) rest)
    else .error (failure "code point not in range(0x110000)")
  | a :: rest =>
    .error ⟨wordCodec big,a,position,position + 1 + rest.length,"truncated data"⟩
where
  wordCodec (big : Bool) : String := if big then "utf-32-be" else "utf-32-le"

def undecodable (text : Except DecodeError (List Char)) : Except EncodingError String :=
  match text with
  | .ok cs => .ok (String.ofList cs)
  | .error error => .error (.undecodable error)

/-- Reads bytes under an encoding. Without a mark of the byte order, the low byte is the first. -/
def decode : Encoding → List UInt8 → Except EncodingError String
  | utf8, bytes => undecodable (Utf8.decodeFrom 0 bytes)
  | utf8Marked, 0xEF :: 0xBB :: 0xBF :: bytes => undecodable (Utf8.decodeFrom 0 bytes)
  | utf8Marked, bytes => undecodable (Utf8.decodeFrom 0 bytes)
  | ascii, bytes => undecodable (decodeAscii 0 bytes)
  | latin1, bytes => .ok (String.ofList (bytes.map fun b => Char.ofNat b.toNat))
  | page p, bytes => undecodable (decodePage p 0 bytes)
  | utf16, 0xFF :: 0xFE :: bytes => undecodable (decodeUnits false 2 bytes)
  | utf16, 0xFE :: 0xFF :: bytes => undecodable (decodeUnits true 2 bytes)
  | utf16, bytes => undecodable (decodeUnits false 0 bytes)
  | utf16Little, bytes => undecodable (decodeUnits false 0 bytes)
  | utf16Big, bytes => undecodable (decodeUnits true 0 bytes)
  | utf32, 0xFF :: 0xFE :: 0 :: 0 :: bytes => undecodable (decodeWords false 4 bytes)
  | utf32, 0 :: 0 :: 0xFE :: 0xFF :: bytes => undecodable (decodeWords true 4 bytes)
  | utf32, bytes => undecodable (decodeWords false 0 bytes)
  | utf32Little, bytes => undecodable (decodeWords false 0 bytes)
  | utf32Big, bytes => undecodable (decodeWords true 0 bytes)

def byteOrderMarks : Encoding → List (List UInt8)
  | utf16 => [[0xFF,0xFE],[0xFE,0xFF]]
  | utf32 => [[0xFF,0xFE,0,0],[0,0,0xFE,0xFF]]
  | _ => []

/-- Reads the bytes of a file, which must start with a mark if it is not too short for one. -/
def decodeMarked (encoding : Encoding) (codec : String) (bytes : List UInt8) :
    Except EncodingError String := do
  let text ← encoding.decode bytes
  if encoding.byteOrderMarks.any fun mark => mark.isPrefixOf bytes || bytes.length < mark.length then
    return text
  else throw (.noByteOrderMark codec)

/-- Reads the bytes of a file. Unlike a mere string of bytes, a file in UTF-16 or UTF-32 must have a
mark, and one that ends within the mark of UTF-8 is empty. -/
def decodeFile : Encoding → List UInt8 → Except EncodingError String
  | utf8Marked, [0xEF] => .ok ""
  | utf8Marked, [0xEF,0xBB] => .ok ""
  | utf16, bytes => decodeMarked utf16 "UTF-16" bytes
  | utf32, bytes => decodeMarked utf32 "UTF-32" bytes
  | encoding, bytes => encoding.decode bytes

end Encoding

structure Codec where
  decode : List UInt8 → Except EncodingError String
  decodeFile : List UInt8 → Except EncodingError String

def Encoding.codec (encoding : Encoding) : Codec := ⟨encoding.decode,encoding.decodeFile⟩

/-- The name that stands for the encoding of the system, if it is that of a file. -/
def localeName : String := "locale"

structure Codecs where
  locale : String := "UTF-8"
  other? : String → Option Codec := fun _ => none
  reserved : other? localeName = none := by rfl

namespace Codecs

def bare : Codecs := {}

def find (codecs : Codecs) (name : String) : Except EncodingError Codec :=
  match Encoding.ofName name with
  | .ok encoding => .ok encoding.codec
  | .error (.unknown _) =>
    match codecs.other? (Encoding.normalizeName name) with
    | some codec => .ok codec
    | none => .error (.unknown name)
  | .error error => .error error

def fileName (codecs : Codecs) (name : String) : String :=
  if name = localeName then codecs.locale else name

end Codecs

/-- Reads bytes under the encoding of a name. Where there are none, no encoding is looked for. -/
def decodeNamed (codecs : Codecs) (name : String) (bytes : List UInt8) :
    Except EncodingError String :=
  if name.toList.contains '\x00' then .error .nullInName
  else if bytes.isEmpty then .ok ""
  else do (← codecs.find name).decode bytes

def decodeFileNamed (codecs : Codecs) (name : String) (bytes : List UInt8) :
    Except EncodingError String :=
  if name.toList.contains '\x00' then .error .nullInName
  else do (← codecs.find (codecs.fileName name)).decodeFile bytes

end DocPress.Text
