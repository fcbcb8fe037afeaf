import DocPress.Text.DecodeError

/-!
What can be wrong with a picture. Some faults make it unusable and another thing is shown in its
place; the others end the whole conversion.
-/

namespace DocPress

namespace Text

def quoteByte (quote : Char) (b : UInt8) : List Char :=
  let c := Char.ofNat b.toNat
  if c = quote || c = '\\' then ['\\',c]
  else if c = '\t' then ['\\','t']
  else if c = '\n' then ['\\','n']
  else if c = '\r' then ['\\','r']
  else if 0x20 ≤ b && b < 0x7F then [c]
  else '\\' :: 'x' :: paddedHex 2 b.toNat

def quotedBytes (bytes : List UInt8) : String :=
  let quote := chooseQuote (bytes.map fun b => Char.ofNat b.toNat)
  String.ofList ('b' :: quote :: bytes.flatMap (quoteByte quote) ++ [quote])

end Text

inductive PictureFault where
  | unrecognized
  | truncated
  | noHeader
  | noSize
  | noMarker (name : String)
  | noFurtherMarker
  | notText (e : Text.DecodeError) (bytes : List UInt8)
  | negativeLength
  | zeroDivisor
  /-- A text where there should be a number of dots. -/
  | textResolution (perInch : Bool)
  deriving DecidableEq, Repr

namespace PictureFault

/-- Does the fault only make the picture unusable? -/
def isUnusable : PictureFault → Bool
  | unrecognized | truncated | noHeader => true
  | _ => false

def className : PictureFault → String
  | unrecognized => "UnrecognizedImageError"
  | truncated => "UnexpectedEndOfFileError"
  | noHeader => "InvalidImageStreamError"
  | noSize => "error"
  | noMarker _ => "KeyError"
  | noFurtherMarker => "Exception"
  | notText _ _ => "UnicodeDecodeError"
  | negativeLength => "error"
  | zeroDivisor => "ZeroDivisionError"
  | textResolution _ => "TypeError"

def detail : PictureFault → Option String
  | unrecognized => none
  | truncated => none
  | noHeader => some "no IHDR chunk in PNG image"
  | noSize => some "unpack requires a buffer of 4 bytes"
  | noMarker name => some s!"no {name} marker in image"
  | noFurtherMarker => some "unexpected end of file"
  | notText e _ => some e.message
  | negativeLength => some "bad char in struct format"
  | zeroDivisor => some "division by zero"
  | textResolution true => some "type str doesn't define __round__ method"
  | textResolution false => some "can't multiply sequence by non-int of type 'float'"

def message (f : PictureFault) : String :=
  let text := f.detail.getD ""
  match f with
  | noMarker _ => Text.quoted text
  | _ => text

/-- The fault within a report: its class, and what is said about it in parentheses. -/
def shown (f : PictureFault) : String :=
  match f with
  | notText e bytes =>
    s!"{f.className}({Text.quoted e.codec}, {Text.quotedBytes bytes}, {e.start}, {e.stop}, " ++
      s!"{Text.quoted e.reason})"
  | _ => f.className ++ "(" ++ (f.detail.map Text.quoted).getD "" ++ ")"

end PictureFault

end DocPress
