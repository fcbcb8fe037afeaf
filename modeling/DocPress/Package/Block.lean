import DocPress.Package.Line

/-!
The paragraphs and tables of a document, and the counters of its numbered lists.
-/

namespace DocPress

namespace Build

/-- The counter that a paragraph counts in. One that starts anew opens a counter for its family. -/
def counter (ref : NumberingRef) : Build Nat := do
  let table := (← get).numbering
  match table.families.lookup ref.reference with
  | none => throw (.unknownNumbering ref.reference)
  | some family =>
    match ref.start with
    | none => return (table.counters.lookup ref.reference).getD 0
    | some start =>
      let id ← openCounter { family,restart := some (ref.level,start) }
      check (Measure.checkInt32 ref.level)
      check (Measure.checkInt32 start)
      modify fun st =>
        { st with numbering.counters := (ref.reference,id) :: st.numbering.counters }
      return id

def headingStyle (level : Int) : Except PackageFault String :=
  if 1 ≤ level ∧ level ≤ 6 then .ok s!"Heading{level}" else .error (.unknownHeading level)

def borders (b : Borders) : Except PackageFault Borders := do
  let side := fun (side : Option Border) => side.mapM fun b => Measure.xmlText b.color
  let _ ← side b.top
  let _ ← side b.left
  let _ ← side b.bottom
  let _ ← side b.right
  return b

def shading (s : Shading) : Except PackageFault Shading := Shading.mk <$> Measure.xmlText s.fill

def spacing (s : Spacing) : Except PackageFault Spacing := do
  return ⟨← Measure.distance s.before,← Measure.distance s.after⟩

/-- An indent in the units of files. Only the first line may reach out or in without limits of its
own sign. -/
def indent (i : Indent) : Except PackageFault Indent := do
  let left ← Measure.signedDistance i.left
  let right ← Measure.signedDistance i.right
  let reach ← Measure.distance i.hanging.natAbs
  return ⟨left,right,if 0 ≤ i.hanging then reach else -reach⟩

def paragraphProperties (p : Paragraph) : Build ParagraphProperties := do
  let style ← p.headingLevel.mapM fun level => check (headingStyle level)
  let numbering ← p.numbering.mapM fun ref => do
    let id ← counter ref
    check (Measure.checkInt32 ref.level)
    return (ref.level,id)
  let borders ← p.borders.mapM fun b => check (borders b)
  let shading ← p.shading.mapM fun s => check (shading s)
  let spacing ← p.spacing.mapM fun s => check (spacing s)
  let indent ← p.indent.mapM fun i => check (indent i)
  return { style,numbering,borders,shading,spacing,indent,alignment := p.alignment }

def emptyParagraph : XmlElement := .mark "w:p"

def paragraph (p : Paragraph) : Build XmlElement := do
  let properties ← paragraphProperties p
  let children ← p.children.mapM inline
  return emptyParagraph.setChildren (· ++ properties.toXml :: children)

/-- The width of the page between its margins, in metric units. -/
def pageWidth : Nat := 5486400

/-- The width of each of some columns, in twentieths of a point. -/
def columnWidth (columns : Nat) : Int := Measure.toTwips (pageWidth / columns)

def blankCell (columns : Nat) : XmlElement :=
  .parent "w:tc" [
    .parent "w:tcPr" [.leaf "w:tcW" [("w:type","dxa"),("w:w",toString (columnWidth columns))]],
    emptyParagraph]

def blankRow (columns : Nat) : XmlElement :=
  .parent "w:tr" (List.replicate columns (blankCell columns))

def afterCellWidth : List String := [
  "w:gridSpan","w:hMerge","w:vMerge","w:tcBorders","w:shd","w:noWrap","w:tcMar","w:textDirection",
  "w:tcFitText","w:vAlign","w:hideMark","w:headers","w:cellIns","w:cellDel","w:cellMerge",
  "w:tcPrChange"]

def cellSteps (width : Int) (borders : Option Borders) (shading : Option Shading) :
    List ChildStep :=
  [.edit "w:tcW" afterCellWidth (XmlElement.setAttr "w:type" "pct"),
    .edit "w:tcW" afterCellWidth (XmlElement.setAttr "w:w" (toString width))] ++
  (borders.map fun b => .append (b.toXml "w:tcBorders")).toList ++
  (shading.map fun s => .append s.toXml).toList

/-- Puts paragraphs into a cell: the first one takes the place of the empty one that is there, and the
others come behind it. -/
def placeParagraphs (paragraphs children : List XmlElement) : List XmlElement :=
  match paragraphs with
  | [] => children
  | first :: rest => XmlElement.changeChild "w:p" (fun _ => first) children ++ rest

def fillCell (c : TableCell) (blank : XmlElement) : Build XmlElement := do
  let width ← check (Measure.widthShare c.widthPercent)
  let borders ← (c.borders.filter (! ·.isEmpty)).mapM fun b => check (borders b)
  let shading ← c.shading.mapM fun s => check (shading s)
  let paragraphs ← c.paragraphs.mapM paragraph
  let properties := XmlElement.setChildren (ChildStep.applyAll (cellSteps width borders shading))
  return blank.setChildren fun children =>
    placeParagraphs paragraphs (XmlElement.changeChild "w:tcPr" properties children)

/-- Fills elements with items, as far as there are both; the other elements stay as they are. -/
def fillEach {α : Type} (fill : α → XmlElement → Build XmlElement) :
    List α → List XmlElement → Build (List XmlElement)
  | a :: items, blank :: blanks => do
    let x ← fill a blank
    let xs ← fillEach fill items blanks
    return x :: xs
  | _, blanks => return blanks

def fillRow (r : TableRow) (blank : XmlElement) : Build XmlElement := do
  let cells ← fillEach fillCell r.cells blank.children
  return blank.setChildren fun _ => cells

def columnCount (t : Table) : Nat := t.rows.foldl (fun n r => max n r.cells.length) 0

def tableLook : XmlElement :=
  .leaf "w:tblLook" [("w:firstColumn","1"),("w:firstRow","1"),("w:lastColumn","0"),
    ("w:lastRow","0"),("w:noHBand","0"),("w:noVBand","1"),("w:val","04A0")]

/-- Writes a table: lays out a grid of blank cells and fills it. One without cells is left out. -/
def table (t : Table) : Build (Option XmlElement) := do
  let columns := columnCount t
  if columns = 0 then return none
  let width ← check (Measure.widthShare t.widthPercent)
  let rows ← fillEach fillRow t.rows (List.replicate t.rows.length (blankRow columns))
  return some (.parent "w:tbl" (
    .parent "w:tblPr" [.leaf "w:tblW" [("w:type","pct"),("w:w",toString width)],tableLook] ::
    .parent "w:tblGrid" (List.replicate columns
      (.leaf "w:gridCol" [("w:w",toString (columnWidth columns))])) ::
    rows))

def block : Block → Build (List XmlElement)
  | .paragraph p => return [← paragraph p]
  | .table t => return (← table t).toList

end Build

end DocPress
