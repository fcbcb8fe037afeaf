import DocPress.Document.Model
import DocPress.Package.Children
import DocPress.Package.Measure

/-!
The properties of text and of paragraphs as files hold them. They are put in one after the other, each
in front of what has to follow it in the order that the format lays down.
-/

namespace DocPress

open XmlElement

/-! ### Places -/

/-- What may stand in the properties of a paragraph, in order. -/
def paragraphSequence : List String := [
  "w:pStyle","w:keepNext","w:keepLines","w:pageBreakBefore","w:framePr","w:widowControl","w:numPr",
  "w:suppressLineNumbers","w:pBdr","w:shd","w:tabs","w:suppressAutoHyphens","w:kinsoku","w:wordWrap",
  "w:overflowPunct","w:topLinePunct","w:autoSpaceDE","w:autoSpaceDN","w:bidi","w:adjustRightInd",
  "w:snapToGrid","w:spacing","w:ind","w:contextualSpacing","w:mirrorIndents","w:suppressOverlap","w:jc",
  "w:textDirection","w:textAlignment","w:textboxTightWrap","w:outlineLvl","w:divId","w:cnfStyle",
  "w:rPr","w:sectPr","w:pPrChange"]

def afterShading : List String := [
  "w:tabs","w:suppressAutoHyphens","w:kinsoku","w:wordWrap","w:overflowPunct","w:topLinePunct",
  "w:autoSpaceDE","w:autoSpaceDN","w:bidi","w:adjustRightInd","w:snapToGrid","w:spacing","w:ind",
  "w:contextualSpacing","w:mirrorIndents","w:suppressOverlap","w:jc","w:textDirection",
  "w:textAlignment","w:textboxTightWrap","w:outlineLvl","w:divId","w:cnfStyle","w:rPr","w:sectPr",
  "w:pPrChange"]

def afterBorders : List String := "w:shd" :: afterShading

def textSequence : List String := [
  "w:rStyle","w:rFonts","w:b","w:bCs","w:i","w:iCs","w:caps","w:smallCaps","w:strike","w:dstrike",
  "w:outline","w:shadow","w:emboss","w:imprint","w:noProof","w:snapToGrid","w:vanish","w:webHidden",
  "w:color","w:spacing","w:w","w:kern","w:position","w:sz","w:szCs","w:highlight","w:u","w:effect",
  "w:bdr","w:shd","w:fitText","w:vertAlign","w:rtl","w:cs","w:em","w:lang","w:eastAsianLayout",
  "w:specVanish","w:oMath"]

/-! ### Texts -/

def Shading.toXml (s : Shading) : XmlElement :=
  .leaf "w:shd" [("w:val","clear"),("w:color","auto"),("w:fill",s.fill)]

/-- A flag: its bare element sets it, and a zero takes it away. -/
def setFlag (flag : Bool) : XmlElement → XmlElement :=
  if flag then dropAttrs ["w:val"] else setAttr "w:val" "0"

/-- Sets a flag or, if nothing is said of it, takes its element away. -/
def flagStep (name : String) (successors : List String) : Option Bool → ChildStep
  | some flag => .edit name successors (setFlag flag)
  | none => .remove name

def fontSteps (font : String) : List ChildStep := [
  .edit "w:rFonts" (textSequence.drop 2) (setAttr "w:ascii" font),
  .edit "w:rFonts" (textSequence.drop 2) (setAttr "w:hAnsi" font)]

def sizeStep (halfPoints : Int) : ChildStep :=
  .edit "w:sz" (textSequence.drop 24) (setAttr "w:val" (toString halfPoints))

def colorStep (color : String) : ChildStep :=
  .replace (.value "w:color" color) (textSequence.drop 19)

def underlineStep (underline : Bool) : ChildStep :=
  if underline then .replace (.value "w:u" "single") (textSequence.drop 27) else .remove "w:u"

structure TextProperties where
  font : Option String := none
  bold : Option Bool := none
  italic : Option Bool := none
  strike : Bool := false
  color : Option String := none
  /-- In half points. -/
  size : Option Int := none
  underline : Bool := false
  shading : Option Shading := none
  deriving DecidableEq, Repr

namespace TextProperties

def steps (p : TextProperties) : List ChildStep :=
  [flagStep "w:b" (textSequence.drop 3) p.bold,flagStep "w:i" (textSequence.drop 5) p.italic,
    underlineStep p.underline] ++
  (if p.strike then [flagStep "w:strike" (textSequence.drop 9) (some true)] else []) ++
  p.font.toList.flatMap fontSteps ++
  (p.size.map sizeStep).toList ++
  (p.color.map colorStep).toList ++
  (p.shading.map fun s => .append s.toXml).toList

def toXml (p : TextProperties) : XmlElement := .parent "w:rPr" (ChildStep.applyAll p.steps [])

end TextProperties

/-! ### Paragraphs -/

/-- The properties of a paragraph that a document may set; distances are twentieths of a point. -/
structure ParagraphProperties where
  style : Option String := none
  /-- A level of a numbering, and the number of the numbering. -/
  numbering : Option (Int × Nat) := none
  borders : Option Borders := none
  shading : Option Shading := none
  spacing : Option Spacing := none
  indent : Option Indent := none
  alignment : Option Alignment := none
  deriving DecidableEq, Repr

def Border.toXml (name : String) (b : Border) : XmlElement :=
  .leaf name [("w:val",b.style.name),("w:sz",toString b.size),("w:space",toString b.space),
    ("w:color",b.color)]

def Borders.toXml (name : String) (b : Borders) : XmlElement :=
  .parent name (
    (b.top.map (Border.toXml "w:top")).toList ++ (b.left.map (Border.toXml "w:left")).toList ++
    (b.bottom.map (Border.toXml "w:bottom")).toList ++
    (b.right.map (Border.toXml "w:right")).toList)

def numberingSteps (level : Int) (id : Nat) : List ChildStep := [
  .edit "w:ilvl" ["w:numId","w:numberingChange","w:ins"] (setAttr "w:val" (toString level)),
  .edit "w:numId" ["w:numberingChange","w:ins"] (setAttr "w:val" (toString id))]

def Spacing.steps (s : Spacing) : List ChildStep := [
  .edit "w:spacing" (paragraphSequence.drop 22) (setAttr "w:before" (toString s.before)),
  .edit "w:spacing" (paragraphSequence.drop 22) (setAttr "w:after" (toString s.after))]

/-- Sets how far the first line hangs; what is negative moves it in. -/
def setHanging (distance : Int) (e : XmlElement) : XmlElement :=
  let bare := e.dropAttrs ["w:firstLine","w:hanging"]
  if 0 < distance then bare.setAttr "w:hanging" (toString distance)
  else bare.setAttr "w:firstLine" (toString (-distance))

def Indent.steps (i : Indent) : List ChildStep :=
  let edit := ChildStep.edit "w:ind" (paragraphSequence.drop 23)
  [edit (setAttr "w:left" (toString i.left))] ++
  (if i.right = 0 then [] else [edit (setAttr "w:right" (toString i.right))]) ++
  (if i.hanging = 0 then [] else [edit (setHanging i.hanging)])

namespace ParagraphProperties

def steps (p : ParagraphProperties) : List ChildStep :=
  (p.style.map fun id =>
    .edit "w:pStyle" (paragraphSequence.drop 1) (setAttr "w:val" id)).toList ++
  (p.numbering.map fun (level,id) => .edit "w:numPr" (paragraphSequence.drop 7)
    (setChildren (ChildStep.applyAll (numberingSteps level id)))).toList ++
  ((p.borders.filter (! ·.isEmpty)).map fun b =>
    .insert (b.toXml "w:pBdr") afterBorders).toList ++
  (p.shading.map fun s => .insert s.toXml afterShading).toList ++
  p.spacing.toList.flatMap Spacing.steps ++
  p.indent.toList.flatMap Indent.steps ++
  (p.alignment.map fun a =>
    .edit "w:jc" (paragraphSequence.drop 27) (setAttr "w:val" a.name)).toList

def toXml (p : ParagraphProperties) : XmlElement :=
  .parent "w:pPr" (ChildStep.applyAll p.steps [])

end ParagraphProperties

end DocPress
