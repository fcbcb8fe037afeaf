import DocPress.Package.Draft

/-!
What stands in the lines of a document: texts, pictures and links.
-/

namespace DocPress

def Run.properties (r : Run) : Except PackageFault TextProperties := do
  let font ← if r.font.isEmpty then pure none else some <$> Measure.xmlText r.font
  let size ← if r.size = 0 then pure none else some <$> Measure.fontSize r.size
  let color ← if r.color.isEmpty then pure none else some <$> Measure.color r.color
  let shading ← r.shading.mapM fun s => Shading.mk <$> Measure.xmlText s.fill
  return {
    font := font
    bold := if r.bold then some true else none
    italic := if r.italic then some true else none
    strike := r.strike
    color := color
    size := size
    underline := r.underline
    shading := shading }

/-- The element of a stretch of text. Blanks at its ends are marked, so that they are kept. -/
def stretchXml (cs : List Char) : XmlElement :=
  let blankEnd := cs.head?.any Text.isBlank || cs.getLast?.any Text.isBlank
  .ofText "w:t" (if blankEnd then [("xml:space","preserve")] else []) (String.ofList cs)

def stretches (cs : List Char) : List XmlElement := if cs.isEmpty then [] else [stretchXml cs]

/-- The elements of a text: tabs and line ends have elements of their own. `before` is the stretch
so far. -/
def textXml (before : List Char) : List Char → List XmlElement
  | [] => stretches before
  | c :: cs =>
    if c = '\t' then stretches before ++ .mark "w:tab" :: textXml [] cs
    else if c = '\n' || c = '\r' then stretches before ++ .mark "w:br" :: textXml [] cs
    else textXml (before ++ [c]) cs

def Run.toXml (r : Run) : Except PackageFault XmlElement := do
  let text ← Measure.xmlText r.text
  let properties ← r.properties
  return .parent "w:r" (properties.toXml :: textXml [] text.toList)

def pictureXml (id : Nat) (name relation : String) (width height : Int) : XmlElement :=
  let size := [("cx",toString width),("cy",toString height)]
  .parent "w:drawing" [.parent "wp:inline" [
    .leaf "wp:extent" size,
    .leaf "wp:docPr" [("id",toString id),("name",s!"Picture {id}")],
    .parent "wp:cNvGraphicFramePr" [.leaf "a:graphicFrameLocks" [("noChangeAspect","1")]],
    .parent "a:graphic" [
      .mk "a:graphicData" [("uri","http://schemas.openxmlformats.org/drawingml/2006/picture")] "" [
        .parent "pic:pic" [
          .parent "pic:nvPicPr" [
            .leaf "pic:cNvPr" [("id","0"),("name",name)],
            .mark "pic:cNvPicPr"],
          .parent "pic:blipFill" [
            .leaf "a:blip" [("r:embed",relation)],
            .parent "a:stretch" [.mark "a:fillRect"]],
          .parent "pic:spPr" [
            .parent "a:xfrm" [.leaf "a:off" [("x","0"),("y","0")],.leaf "a:ext" size],
            .leaf "a:prstGeom" [("prst","rect")]]]]]]]

def ImageRun.placeholder (i : ImageRun) : Run where
  text := imagePlaceholder i.alt
  italic := true
  color := placeholderColor

def ImageRun.unusable (i : ImageRun) (fault : PictureFault) : LogRecord :=
  let alt := if i.alt.isEmpty then "image" else i.alt
  .warning s!"Unusable image data for {Text.quoted alt} ({fault.shown}); using placeholder"

namespace Build

def run (r : Run) : Build XmlElement := check r.toXml

/-- Writes a picture, and gives its number in the document. A picture that cannot be used leaves a
report and the text in its place. -/
def picture (i : ImageRun) : Build (XmlElement × Option Nat) := do
  match PictureFormat.ofData i.data with
  | .error fault =>
    if fault.isUnusable then
      report (i.unusable fault)
      return (← run i.placeholder,none)
    else throw (.failed (.picture fault))
  | .ok format =>
    let index ← store ⟨i.data,format⟩
    let relation ← relate (.picture index)
    let id := (← get).draft.lastPicture + 1
    let width := Measure.ofPixels i.width
    let height := Measure.ofPixels i.height
    check (Measure.checkDrawn width)
    check (Measure.checkDrawn height)
    let name := s!"image.{format.extension}"
    return (.parent "w:r" [pictureXml id name (relationName relation) width height],some id)

def leaves : List InlineLeaf → Build (List XmlElement × Nat)
  | [] => return ([],0)
  | .run r :: rest => do
    let x ← run r
    let (xs,last) ← leaves rest
    return (x :: xs,last)
  | .image i :: rest => do
    let (x,id) ← picture i
    let (xs,last) ← leaves rest
    return (x :: xs,max (id.getD 0) last)

def placed (last : Nat) : Build Unit :=
  modifyDraft fun d => { d with lastPicture := max d.lastPicture last }

/-- Writes a link. Its pictures stand in the document only when it is complete, so that they share
one number. -/
def link (h : Hyperlink) : Build XmlElement := do
  let relation ← relate (.link h.url)
  let (children,last) ← leaves h.children
  placed last
  return .mk "w:hyperlink" [("r:id",relationName relation)] "" children

def inline : Inline → Build XmlElement
  | .run r => run r
  | .image i => do
    let (x,id) ← picture i
    placed (id.getD 0)
    return x
  | .link h => link h

end Build

end DocPress
