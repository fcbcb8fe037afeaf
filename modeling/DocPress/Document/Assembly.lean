import DocPress.Document.Model
import DocPress.Style.Config

/-!
Blocks as a whole document: with the two numbering families and the named styles that a style
configuration asks for.
-/

namespace DocPress

def listLevels : List Int := [0,1,2]

def bulletGlyph (level : Int) : String :=
  if level = 0 then "•" else if level = 1 then "◦" else "▪"

def orderedFormat (level : Int) : String :=
  if level = 0 then "decimal" else if level = 1 then "lowerLetter" else "lowerRoman"

private def numberingLevel (c : StyleConfig) (level : Int) (format text : String) :
    NumberingLevel where
  level := level
  format := format
  text := text
  indentLeft := listIndent level
  hanging := listHanging
  font := c.font.body
  color := c.list.markerColor

def bulletDefinition (c : StyleConfig) : NumberingDefinition :=
  ⟨bulletReference,listLevels.map fun level => numberingLevel c level "bullet" (bulletGlyph level)⟩

def orderedDefinition (c : StyleConfig) : NumberingDefinition :=
  ⟨orderedReference,listLevels.map fun level =>
    numberingLevel c level (orderedFormat level) s!"%{level + 1}."⟩

def buildNumbering (c : StyleConfig) : List NumberingDefinition :=
  [bulletDefinition c,orderedDefinition c]

def normalStyle (c : StyleConfig) : ParagraphStyle where
  id := "Normal"
  name := "Normal"
  font := some c.font.body
  size := c.sizes.body
  color := c.typography.body
  spacing := some ⟨0,120⟩

def headingStyle (c : StyleConfig) (level : Int) : ParagraphStyle where
  id := s!"Heading{level}"
  name := s!"Heading {level}"
  font := some c.font.heading
  size := c.headingSize level
  color := c.headingColor level
  bold := true
  basedOn := some "Normal"
  nextStyle := some "Normal"

def buildStyles (c : StyleConfig) : List ParagraphStyle :=
  normalStyle c :: [1,2,3,4,5,6].map (headingStyle c)

def assemble (blocks : List Block) (c : StyleConfig) (title : String) : DocumentModel where
  blocks := blocks
  numbering := buildNumbering c
  styles := buildStyles c
  title := title

end DocPress
