import DocPress.Picture.Fault
import DocPress.Text.Utf8

/-!
Which format a picture has. Its first bytes tell, and then as much of its structure is read as says
how large the picture is and how densely its dots lie.
-/

namespace DocPress

inductive PictureFormat where
  | png
  | jpeg
  | gif
  | tiff
  | bmp
  deriving DecidableEq, Repr

namespace PictureFormat

def extension : PictureFormat → String
  | png => "png"
  | jpeg => "jpg"
  | gif => "gif"
  | tiff => "tiff"
  | bmp => "bmp"

private abbrev Reading := Except PictureFault

def bytesAt (data : Array UInt8) (position count : Nat) : Reading (List UInt8) :=
  if count = 0 then .ok []
  else if position + count ≤ data.size then .ok (data.extract position (position + count)).toList
  else .error .truncated

def bigAt (data : Array UInt8) (position count : Nat) : Reading Nat := do
  return (← bytesAt data position count).foldl (fun n b => n * 256 + b.toNat) 0

def littleAt (data : Array UInt8) (position count : Nat) : Reading Nat := do
  return (← bytesAt data position count).foldr (fun b n => n * 256 + b.toNat) 0

def textAt (data : Array UInt8) (position count : Nat) : Reading String := do
  let bytes ← bytesAt data position count
  match Text.Utf8.decode bytes with
  | .ok s => return s
  | .error e => throw (.notText e bytes)

/-! ### Chunks -/

/-- Walks over chunks until the last one; tells whether the header chunk was among them. -/
def walkChunks (data : Array UInt8) : Nat → Nat → Reading Bool
  | 0, _ => .error .truncated
  | fuel + 1, position => do
    let length ← bigAt data position 4
    let name ← textAt data (position + 4) 4
    if name = "IHDR" then
      let _ ← bigAt data (position + 8) 8
    else if name = "pHYs" then
      let _ ← bigAt data (position + 8) 9
    if name = "IEND" then return false
    let later ← walkChunks data fuel (position + 12 + length)
    return name = "IHDR" || later

def readPng (data : Array UInt8) : Reading PictureFormat := do
  if ← walkChunks data (data.size + 1) 8 then return png else throw .noHeader

/-! ### Directories of tagged values -/

inductive TagValue where
  | quotient (num den : Nat)
  | text
  deriving DecidableEq, Repr

def entryAt (data : Array UInt8) (read : Nat → Nat → Reading Nat) (position : Nat) :
    Reading (Nat × TagValue) := do
  let kind ← read (position + 2) 2
  let tag ← read position 2
  let count ← read (position + 4) 4
  let value ← read (position + 8) 4
  match kind with
  | 2 =>
    if count = 0 then throw .negativeLength
    let _ ← textAt data value (count - 1)
    return (tag,.text)
  | 3 => if count = 1 then return (tag,.quotient (← read (position + 8) 2) 1) else return (tag,.text)
  | 4 => if count = 1 then return (tag,.quotient value 1) else return (tag,.text)
  | 5 =>
    if count = 1 then
      let num ← read value 4
      let den ← read (value + 4) 4
      if den = 0 then throw .zeroDivisor
      return (tag,.quotient num den)
    else return (tag,.text)
  | _ => return (tag,.text)

def entriesAt (data : Array UInt8) (read : Nat → Nat → Reading Nat) :
    Nat → Nat → Reading (List (Nat × TagValue))
  | 0, _ => .ok []
  | count + 1, position => do
    let entry ← entryAt data read position
    return entry :: (← entriesAt data read count (position + 12))

/-- Checks that a density can be worked out. A unit of one stands for no length at all. -/
def checkDensity (entries : List (Nat × TagValue)) (tag : Nat) : Reading Unit :=
  let find := fun (tag : Nat) => entries.reverse.lookup tag
  let isUnit := fun (n : Nat) (unit : TagValue) => match unit with
    | .quotient num den => num == n * den
    | .text => false
  let unit := (find 0x128).getD (.quotient 2 1)
  match find tag with
  | some .text =>
    if isUnit 1 unit then .ok () else .error (.textResolution (isUnit 2 unit))
  | _ => .ok ()

def readTiff (data : Array UInt8) : Reading PictureFormat := do
  let isBig := data.extract 0 2 = #[0x4D,0x4D]
  let read := fun (position count : Nat) =>
    if isBig then bigAt data position count else littleAt data position count
  let start ← read 4 4
  let count ← read start 2
  let entries ← entriesAt data read count (start + 2)
  checkDensity entries 0x11A
  checkDensity entries 0x11B
  return tiff

/-! ### Markers -/

def isFrameStart (code : UInt8) : Bool :=
  0xC0 ≤ code && code ≤ 0xCF && code ≠ 0xC4 && code ≠ 0xC8 && code ≠ 0xCC

def isStandalone (code : UInt8) : Bool :=
  code = 0x01 || (0xD0 ≤ code && code ≤ 0xD9)

def nextMarker (data : Array UInt8) : Nat → Bool → Nat → Reading (UInt8 × Nat)
  | 0, _, _ => .error .noFurtherMarker
  | fuel + 1, afterFill, position =>
    match data[position]? with
    | none => .error .noFurtherMarker
    | some b =>
      if b = 0xFF then nextMarker data fuel true (position + 1)
      else if afterFill && b ≠ 0 then .ok (b,position + 1)
      else nextMarker data fuel false (position + 1)

def segmentLength (data : Array UInt8) (code : UInt8) (position : Nat) : Reading Nat := do
  if code = 0xE0 then
    let length ← bigAt data position 2
    let _ ← bigAt data (position + 9) 5
    return length
  else if code = 0xE1 then
    let length ← bigAt data position 2
    if data.extract (position + 2) (position + 8) = #[0x45,0x78,0x69,0x66,0,0] then
      let stop := if length < 8 then data.size else position + length
      let _ ← readTiff (data.extract (position + 8) stop)
    return length
  else if isFrameStart code then
    let length ← bigAt data position 2
    let _ ← bigAt data (position + 3) 4
    return length
  else if isStandalone code then return 0
  else bigAt data position 2

def markers (data : Array UInt8) : Nat → Nat → Reading (List UInt8)
  | 0, _ => .error .noFurtherMarker
  | fuel + 1, position => do
    let (code,behind) ← nextMarker data (data.size + 1) false position
    let length ← segmentLength data code behind
    if code = 0xD9 || code = 0xDA then return [code]
    return code :: (← markers data fuel (behind + length))

def readJpeg (data : Array UInt8) (code : UInt8) (name : String) : Reading PictureFormat := do
  let codes ← markers data (data.size + 1) 0
  if ! codes.any isFrameStart then throw (.noMarker "start of frame (SOFn)")
  if ! codes.contains code then throw (.noMarker name)
  return jpeg

/-! ### Signatures -/

def readGif (data : Array UInt8) : Reading PictureFormat :=
  if data.size < 10 then .error .noSize else .ok gif

def readBmp (data : Array UInt8) : Reading PictureFormat := do
  let _ ← littleAt data 0x12 8
  let _ ← littleAt data 0x26 8
  return bmp

/-- What the first bytes of a picture may be: where they stand, and how to read what they announce. -/
def signatures : List (Nat × List UInt8 × (Array UInt8 → Reading PictureFormat)) := [
  (0,[0x89,0x50,0x4E,0x47,0x0D,0x0A,0x1A,0x0A],readPng),
  (6,"JFIF".toUTF8.toList,fun data => readJpeg data 0xE0 "APP0"),
  (6,"Exif".toUTF8.toList,fun data => readJpeg data 0xE1 "APP1"),
  (0,"GIF87a".toUTF8.toList,readGif),
  (0,"GIF89a".toUTF8.toList,readGif),
  (0,[0x4D,0x4D,0,0x2A],readTiff),
  (0,[0x49,0x49,0x2A,0],readTiff),
  (0,"BM".toUTF8.toList,readBmp)]

def ofData (bytes : List UInt8) : Except PictureFault PictureFormat :=
  let data := bytes.toArray
  match signatures.find? fun (start,signature,_) =>
      (data.extract start (start + signature.length)).toList = signature with
  | some (_,_,read) => read data
  | none => .error .unrecognized

end PictureFormat

end DocPress
