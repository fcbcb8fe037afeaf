import DocPress.Picture.Fault

/-!
Why a document cannot be written.
-/

namespace DocPress

inductive PackageFault where
  | notXml
  | longProperty (value : String)
  | outOfRange (least greatest value : Int)
  | notHex (text : String)
  /-- A colour with a part that does not fit in a byte. -/
  | colorRange
  | unknownStyle (name : String)
  /-- A style name that cannot be looked for, since it holds a quotation mark. -/
  | quotedStyleName
  | wrongStyleKind (kind property : String)
  | unknownHeading (level : Int)
  | notANumber
  | infinite
  | picture (fault : PictureFault)
  deriving DecidableEq, Repr

namespace PackageFault

def shown : PackageFault → String
  | notXml =>
    let text := "All strings must be XML compatible: Unicode or ASCII, no NULL bytes or control characters"
    s!"ValueError({Text.quoted text})"
  | longProperty value =>
    let text := s!"exceeded 255 char limit for property, got:\n\n'{value}'"
    s!"ValueError({Text.quoted text})"
  | outOfRange least greatest value =>
    let text := s!"value must be in range {least} to {greatest} inclusive, got {value}"
    s!"ValueError({Text.quoted text})"
  | notHex part =>
    let text := s!"invalid literal for int() with base 16: {Text.quoted part}"
    s!"ValueError({Text.quoted text})"
  | colorRange => "ValueError('RGBColor() takes three integer values 0-255')"
  | unknownStyle name =>
    let text := s!"no style with name '{name}'"
    s!"KeyError({Text.quoted text})"
  | quotedStyleName => "XPathEvalError('Invalid predicate')"
  | wrongStyleKind kind property =>
    let text := s!"'{kind}' object has no attribute '{property}'"
    s!"AttributeError({Text.quoted text})"
  | unknownHeading level =>
    let text := s!"Heading{level}"
    s!"KeyError({Text.quoted text})"
  | notANumber => "ValueError('cannot convert float NaN to integer')"
  | infinite => "OverflowError('cannot convert float infinity to integer')"
  | picture fault => fault.shown

end PackageFault

inductive PackagingError where
  | unknownNumbering (reference : String)
  | failed (fault : PackageFault)
  deriving DecidableEq, Repr

def PackagingError.message : PackagingError → String
  | unknownNumbering reference => s!"Unknown numbering reference {Text.quoted reference}"
  | failed fault => s!"Failed to encode DOCX: {fault.shown}"

end DocPress
