import DocPress.Package.Properties

/-!
The styles of a document. A new document has those of a template; the styles of a model change them
or add to them.
-/

namespace DocPress

inductive StyleKind where
  | paragraph
  | character
  | table
  | list
  deriving DecidableEq, Repr

/-- A style that the template has and that stays as it is in what is looked at. -/
structure PlainStyle where
  name : String
  id : String
  kind : StyleKind
  deriving DecidableEq, Repr

structure StyleEntry where
  name : String
  id : String
  isDefault : Bool := false
  isCustom : Bool := false
  basedOn : Option String := none
  next : Option String := none
  link : Option String := none
  priority : Option Nat := none
  isSemiHidden : Bool := false
  showsWhenUsed : Bool := false
  isQuick : Bool := false
  revision : Option String := none
  paragraph : Option (List XmlElement) := none
  text : Option (List XmlElement) := none

def StyleEntry.toXml (s : StyleEntry) : XmlElement :=
  .mk "w:style"
    ([("w:type","paragraph")] ++ (if s.isDefault then [("w:default","1")] else []) ++
      (if s.isCustom then [("w:customStyle","1")] else []) ++ [("w:styleId",s.id)]) ""
    ([.value "w:name" s.name] ++
      (s.basedOn.map (XmlElement.value "w:basedOn")).toList ++
      (s.next.map (XmlElement.value "w:next")).toList ++
      (s.link.map (XmlElement.value "w:link")).toList ++
      (s.priority.map fun n => .value "w:uiPriority" (toString n)).toList ++
      (if s.isSemiHidden then [.mark "w:semiHidden"] else []) ++
      (if s.showsWhenUsed then [.mark "w:unhideWhenUsed"] else []) ++
      (if s.isQuick then [.mark "w:qFormat"] else []) ++
      (s.revision.map (XmlElement.value "w:rsid")).toList ++
      (s.paragraph.map (XmlElement.parent "w:pPr")).toList ++
      (s.text.map (XmlElement.parent "w:rPr")).toList)

structure StyleSheet where
  entries : List StyleEntry

namespace StyleSheet

/-! ### The template -/

def themeFonts : XmlElement := .leaf "w:rFonts" [("w:asciiTheme","majorHAnsi"),
  ("w:eastAsiaTheme","majorEastAsia"),("w:hAnsiTheme","majorHAnsi"),("w:cstheme","majorBidi")]

def accent (value : String) (shade : Option String) : XmlElement :=
  .leaf "w:color" ([("w:val",value),("w:themeColor","accent1")] ++
    (shade.map fun s => ("w:themeShade",s)).toList)

def headingText (level : Nat) : List XmlElement :=
  let bold : List XmlElement := [.mark "w:b",.mark "w:bCs"]
  let italic : List XmlElement := [.mark "w:i",.mark "w:iCs"]
  let size (halfPoints : String) : List XmlElement :=
    [.value "w:sz" halfPoints,.value "w:szCs" halfPoints]
  let blue := accent "4F81BD" none
  let dark := accent "243F60" (some "7F")
  themeFonts :: match level with
    | 1 => bold ++ accent "365F91" (some "BF") :: size "28"
    | 2 => bold ++ blue :: size "26"
    | 3 => bold ++ [blue]
    | 4 => bold ++ italic ++ [blue]
    | 5 => [dark]
    | _ => italic ++ [dark]

def headingEntry (level : Nat) : StyleEntry where
  name := s!"heading {level}"
  id := s!"Heading{level}"
  basedOn := some "Normal"
  next := some "Normal"
  link := some s!"Heading{level}Char"
  priority := some 9
  isSemiHidden := 4 ≤ level
  showsWhenUsed := 2 ≤ level
  isQuick := true
  revision := some "00FC693F"
  paragraph := some [.mark "w:keepNext",.mark "w:keepLines",
    .leaf "w:spacing" [("w:before",if level = 1 then "480" else "200"),("w:after","0")],
    .value "w:outlineLvl" (toString (level - 1))]
  text := some (headingText level)

def normalEntry : StyleEntry where
  name := "Normal"
  id := "Normal"
  isDefault := true
  isQuick := true
  revision := some "00FC693F"

def squeeze (name : String) : String := String.ofList (name.toList.filter (· ≠ ' '))

def tableStyleNames : List String := [
  "Light Shading","Light List","Light Grid","Medium Shading 1","Medium Shading 2",
  "Medium List 1","Medium List 2","Medium Grid 1","Medium Grid 2","Medium Grid 3","Dark List",
  "Colorful Shading","Colorful List","Colorful Grid"]

def plainStyles : List PlainStyle :=
  let named := fun (kind : StyleKind) (names : List String) =>
    names.map fun name => PlainStyle.mk name (squeeze name) kind
  [⟨"header","Header",.paragraph⟩,⟨"footer","Footer",.paragraph⟩,
    ⟨"caption","Caption",.paragraph⟩,⟨"macro","MacroText",.paragraph⟩] ++
  [7,8,9].map (fun n => ⟨s!"heading {n}",s!"Heading{n}",.paragraph⟩) ++
  named .paragraph [
    "No Spacing","Title","Subtitle","List Paragraph","Body Text","Body Text 2","Body Text 3",
    "List","List 2","List 3","List Bullet","List Bullet 2","List Bullet 3","List Number",
    "List Number 2","List Number 3","List Continue","List Continue 2","List Continue 3",
    "Quote","Intense Quote","TOC Heading"] ++
  named .character [
    "Header Char","Footer Char","Heading 1 Char","Heading 2 Char","Heading 3 Char",
    "Heading 4 Char","Heading 5 Char","Heading 6 Char","Heading 7 Char","Heading 8 Char",
    "Heading 9 Char","Title Char","Subtitle Char","Body Text Char","Body Text 2 Char",
    "Body Text 3 Char","Macro Text Char","Quote Char","Intense Quote Char","Strong",
    "Emphasis","Subtle Emphasis","Intense Emphasis","Subtle Reference","Intense Reference",
    "Book Title","Default Paragraph Font"] ++
  [⟨"Normal Table","TableNormal",.table⟩,⟨"Table Grid","TableGrid",.table⟩,
    ⟨"No List","NoList",.list⟩] ++
  tableStyleNames.flatMap fun name =>
    ⟨name,squeeze name,.table⟩ :: [1,2,3,4,5,6].map fun n =>
      ⟨s!"{name} Accent {n}",s!"{squeeze name}-Accent{n}",.table⟩

def template : StyleSheet := ⟨normalEntry :: [1,2,3,4,5,6].map headingEntry⟩

/-! ### Finding styles -/

def storedName (name : String) : String :=
  if name = "Caption" then "caption"
  else if name = "Header" then "header"
  else if name = "Footer" then "footer"
  else if ([1,2,3,4,5,6,7,8,9].map fun n : Nat => s!"Heading {n}").contains name then
    "h" ++ String.ofList (name.toList.drop 1)
  else name

def identifier (name : String) : String :=
  if (["caption","header","footer"] ++
      [1,2,3,4,5,6,7,8,9].map fun n : Nat => s!"heading {n}").contains name then
    squeeze (String.ofList ((name.toList.take 1).map Char.toUpper ++ name.toList.drop 1))
  else squeeze name

inductive Found where
  | entry (id : String) (index : Nat)
  | plain (s : PlainStyle)

def Found.id : Found → String
  | entry id _ => id
  | plain s => s.id

/-- The style with a stored name, or else the one with the identifier. -/
def find? (sheet : StyleSheet) (name : String) : Option Found :=
  let entry := fun (index : Nat) => (sheet.entries[index]?).map fun e => Found.entry e.id index
  let stored := storedName name
  (((sheet.entries.findIdx? (·.name = stored)).bind entry) <|>
    ((plainStyles.find? (·.name = stored)).map .plain)) <|>
  (((sheet.entries.findIdx? (·.id = name)).bind entry) <|>
    ((plainStyles.find? (·.id = name)).map .plain))

def get (sheet : StyleSheet) (name : String) : Except PackageFault (Option Found) := do
  let _ ← Measure.xmlText name
  if name.toList.contains '"' then throw .quotedStyleName
  return sheet.find? name

/-- The name on screen of the styles that models refer to by identifier. -/
def shownName? (id : String) : Option String :=
  if id = "Normal" then some "Normal"
  else ([1,2,3,4,5,6].find? fun n : Nat => s!"Heading{n}" = id).map fun n => s!"Heading {n}"

def reference (sheet : StyleSheet) (id : String) : Except PackageFault String := do
  let name := (shownName? id).getD id
  match ← sheet.get name with
  | some found => return found.id
  | none => throw (.unknownStyle name)

/-! ### Changing styles -/

def checkKind (kind : StyleKind) (style : ParagraphStyle) : Except PackageFault Unit :=
  match kind with
  | .list => .error (.wrongStyleKind "_NumberingStyle" "font")
  | .character =>
    if style.spacing.isSome then .error (.wrongStyleKind "CharacterStyle" "paragraph_format")
    else .ok ()
  | _ => .ok ()

structure StyleValues where
  font : Option String
  size : Int
  color : String
  basedOn : Option String
  next : Option String
  spacing : Option Spacing

/-- Sets the text properties of a style. Fonts of a theme give way. -/
def StyleValues.textSteps (v : StyleValues) (bold : Bool) : List ChildStep :=
  (match v.font with
    | some font => fontSteps font
    | none => [.remove "w:rFonts"]) ++
  [sizeStep v.size,colorStep v.color,flagStep "w:b" (textSequence.drop 3) (some bold),
    .adjust "w:rFonts"
      (XmlElement.dropAttrs ["w:asciiTheme","w:hAnsiTheme","w:eastAsiaTheme","w:cstheme"])]

def values (sheet : StyleSheet) (kind : StyleKind) (style : ParagraphStyle) :
    Except PackageFault StyleValues := do
  if kind = .list then checkKind kind style
  let font ← style.font.mapM Measure.xmlText
  let size ← Measure.fontSize style.size
  let color ← Measure.color style.color
  let basedOn ← (style.basedOn.filter (! ·.isEmpty)).mapM sheet.reference
  let next ← (style.nextStyle.filter (! ·.isEmpty)).mapM sheet.reference
  checkKind kind style
  let spacing ← style.spacing.mapM fun s => do
    return Spacing.mk (← Measure.distance s.before) (← Measure.distance s.after)
  return { font,size,color,basedOn,next,spacing }

/-- An entry with the values set. A style that follows itself has no following style. -/
def update (entry : StyleEntry) (v : StyleValues) (bold : Bool) : StyleEntry :=
  { entry with
    text := some (ChildStep.applyAll (v.textSteps bold) (entry.text.getD []))
    basedOn := v.basedOn <|> entry.basedOn
    next := match v.next with
      | some id => if id = entry.id then none else some id
      | none => entry.next
    paragraph := match v.spacing with
      | some s => some (ChildStep.applyAll s.steps (entry.paragraph.getD []))
      | none => entry.paragraph }

def apply (sheet : StyleSheet) (style : ParagraphStyle) : Except PackageFault StyleSheet := do
  let name := (shownName? style.id).getD style.name
  match ← sheet.get name with
  | some (.plain found) =>
    let _ ← sheet.values found.kind style
    return sheet
  | some (.entry _ index) =>
    let v ← sheet.values .paragraph style
    return ⟨sheet.entries.modify index (update · v style.bold)⟩
  | none =>
    let stored := storedName name
    let entry : StyleEntry := { name := stored,id := identifier stored,isCustom := true }
    let sheet : StyleSheet := ⟨sheet.entries ++ [entry]⟩
    let v ← sheet.values .paragraph style
    return ⟨sheet.entries.modify (sheet.entries.length - 1) (update · v style.bold)⟩

end StyleSheet

end DocPress
