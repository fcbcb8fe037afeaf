/-!
The look of a document, grouped by what it applies to. Colours are six capital digits of base
sixteen, sizes are points.
-/

namespace DocPress

structure FontConfig where
  heading : String := "Calibri"
  body : String := "Calibri"
  code : String := "Courier New"
  deriving DecidableEq, Repr

structure SizeConfig where
  heading1 : Nat := 24
  heading2 : Nat := 20
  heading3 : Nat := 16
  heading4 : Nat := 14
  heading5 : Nat := 12
  heading6 : Nat := 11
  body : Nat := 11
  code : Nat := 10
  tableHeader : Nat := 11
  tableBody : Nat := 10
  deriving DecidableEq, Repr

structure TypographyConfig where
  heading1 : String := "111827"
  heading2 : String := "1F2937"
  heading3 : String := "374151"
  heading4 : String := "374151"
  heading5 : String := "4B5563"
  heading6 : String := "4B5563"
  body : String := "334155"
  link : String := "2563EB"
  deriving DecidableEq, Repr

structure CodeBlockConfig where
  background : String := "F3F4F6"
  text : String := "1F2937"
  deriving DecidableEq, Repr

structure InlineCodeConfig where
  color : String := "DB2777"
  background : String := "F3F4F6"
  deriving DecidableEq, Repr

structure ListConfig where
  markerColor : String := "64748B"
  deriving DecidableEq, Repr

structure TableConfig where
  headerBackground : String := "F1F5F9"
  headerText : String := "0F172A"
  borderColor : String := "CBD5E1"
  boldHeader : Bool := true
  deriving DecidableEq, Repr

structure BlockquoteConfig where
  background : String := "F8FAFC"
  border : String := "3B82F6"
  textColor : String := "475569"
  deriving DecidableEq, Repr

structure ThematicBreakConfig where
  color : String := "CBD5E1"
  deriving DecidableEq, Repr

/-- The complete look of a document. The values that stand here are the defaults. -/
structure StyleConfig where
  font : FontConfig := {}
  sizes : SizeConfig := {}
  typography : TypographyConfig := {}
  codeBlock : CodeBlockConfig := {}
  inlineCode : InlineCodeConfig := {}
  list : ListConfig := {}
  table : TableConfig := {}
  blockquote : BlockquoteConfig := {}
  thematicBreak : ThematicBreakConfig := {}
  deriving DecidableEq, Repr

def clampHeadingLevel (level : Int) : Int := max 1 (min 6 level)

namespace StyleConfig

def headingColor (c : StyleConfig) (level : Int) : String :=
  match clampHeadingLevel level with
  | 1 => c.typography.heading1
  | 2 => c.typography.heading2
  | 3 => c.typography.heading3
  | 4 => c.typography.heading4
  | 5 => c.typography.heading5
  | _ => c.typography.heading6

def headingSize (c : StyleConfig) (level : Int) : Nat :=
  match clampHeadingLevel level with
  | 1 => c.sizes.heading1
  | 2 => c.sizes.heading2
  | 3 => c.sizes.heading3
  | 4 => c.sizes.heading4
  | 5 => c.sizes.heading5
  | _ => c.sizes.heading6

end StyleConfig

end DocPress
