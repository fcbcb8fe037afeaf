import DocPress.Package.Block
import DocPress.Proofs.Xml.Query

/-! What the elements that are written are called. Nothing of another name stands in the properties of
texts and paragraphs or in pictures, and a table, a row or a cell adds nothing of another name to what
is written in it (`tableXml_named`, `rowXml_named`, `cellXml_named`). -/

namespace DocPress

open XmlElement

/-- The order in the properties of a paragraph, of what a document may set. -/
def paragraphOrder : List String :=
  ["w:pStyle","w:numPr","w:pBdr","w:shd","w:spacing","w:ind","w:jc"]

def textOrder : List String :=
  ["w:rFonts","w:b","w:i","w:strike","w:color","w:sz","w:u","w:shd"]

def textNames : List String := "w:rPr" :: textOrder

def runNames : List String := "w:r" :: textNames ++ ["w:t","w:tab","w:br"]

def pictureNames : List String :=
  ["w:drawing","wp:inline","wp:extent","wp:docPr","wp:cNvGraphicFramePr","a:graphicFrameLocks",
    "a:graphic","a:graphicData","pic:pic","pic:nvPicPr","pic:cNvPr","pic:cNvPicPr","pic:blipFill",
    "a:blip","a:stretch","a:fillRect","pic:spPr","a:xfrm","a:off","a:ext","a:prstGeom"]

def leafNames : List String := runNames ++ pictureNames

def lineNames : List String := "w:hyperlink" :: leafNames

/-- What the properties of a paragraph are called. -/
def propertyNames : List String :=
  ["w:pPr","w:pStyle","w:numPr","w:ilvl","w:numId","w:pBdr","w:top","w:left","w:bottom","w:right",
    "w:shd","w:spacing","w:ind","w:jc"]

/-- What the elements of a table are called, those of its paragraphs apart. -/
def tableNames : List String :=
  ["w:tbl","w:tblPr","w:tblW","w:tblLook","w:tblGrid","w:gridCol","w:tr","w:tc","w:tcPr","w:tcW",
    "w:tcBorders","w:top","w:left","w:bottom","w:right","w:shd","w:p"]

variable {tag : String}

theorem Shading.toXml_lacks (s : Shading) (other : "w:shd" ≠ tag) : s.toXml.named tag = [] := by
  simp [Shading.toXml,other]

theorem Borders.toXml_lacks (name : String) (b : Borders)
    (other : ∀ own ∈ [name,"w:top","w:left","w:bottom","w:right"], own ≠ tag) :
    (b.toXml name).named tag = [] := by
  have side (name : String) (b : Border) (other : name ≠ tag) :
      (Border.toXml name b).named tag = [] := by simp [Border.toXml,other]
  simp only [List.forall_mem_cons] at other
  simp [Borders.toXml,allNamed_option,side,other]

theorem textXml_lacks (before after : List Char)
    (other : ∀ own ∈ ["w:t","w:tab","w:br"], own ≠ tag) :
    allNamed tag (textXml before after) = [] := by
  simp only [List.forall_mem_cons] at other
  have stretch (cs : List Char) : allNamed tag (stretches cs) = [] := by
    unfold stretches stretchXml
    split <;> simp [other]
  induction after generalizing before with
  | nil => exact stretch before
  | cons c after ih =>
    unfold textXml
    split
    · simp [stretch,ih,other]
    · split
      · simp [stretch,ih,other]
      · exact ih _

theorem pictureXml_lacks (id : Nat) (name relation : String) (width height : Int)
    (other : ∀ own ∈ pictureNames, own ≠ tag) :
    (pictureXml id name relation width height).named tag = [] := by
  simp only [pictureNames,List.forall_mem_cons] at other
  simp [pictureXml,other]

/-! ### Places -/

/-- Those of some places that are taken. -/
def taken (places : List (Bool × String)) : List String := (places.filter Prod.fst).map Prod.snd

theorem taken_sublist (places : List (Bool × String)) :
    (taken places).Sublist (places.map Prod.snd) := List.filter_sublist.map _

theorem taken_cons (asked : Bool) (own : String) (places : List (Bool × String)) :
    taken ((asked,own) :: places) = (if asked then [own] else []) ++ taken places := by
  cases asked <;> rfl

theorem names_option {α : Type} {own : String} (item : Option α) (toXml : α → XmlElement)
    (named : ∀ a, (toXml a).name = own) :
    (item.map toXml).toList.map name = if item.isSome then [own] else [] := by
  cases item <;> simp [named]

theorem Borders.toXml_names (own : String) (b : Borders) :
    (b.toXml own).children.map name = taken [(b.top.isSome,"w:top"),(b.left.isSome,"w:left"),
      (b.bottom.isSome,"w:bottom"),(b.right.isSome,"w:right")] := by
  have names (tag : String) (side : Option Border) := names_option side (Border.toXml tag) fun _ => rfl
  simp only [Borders.toXml,children_parent,List.map_append,names,taken_cons]
  simp [taken]

/-! ### Tables -/

namespace Build

theorem cellXml_named (width : List (String × String)) (borders : Option Borders)
    (shading : Option Shading) (paragraphs : List XmlElement) (other : ∀ own ∈ tableNames, own ≠ tag) :
    (parent "w:tc" (
      .parent "w:tcPr" (.leaf "w:tcW" width :: (borders.map (Borders.toXml "w:tcBorders")).toList ++
        (shading.map Shading.toXml).toList) ::
      (if paragraphs.isEmpty then [emptyParagraph] else paragraphs))).named tag =
    allNamed tag paragraphs := by
  simp only [tableNames,List.forall_mem_cons] at other
  have border (b : Borders) : (b.toXml "w:tcBorders").named tag = [] :=
    b.toXml_lacks _ (by simp [other])
  have shade (s : Shading) : s.toXml.named tag = [] := s.toXml_lacks (by simp [other])
  cases paragraphs <;> simp [allNamed_option,border,shade,other,emptyParagraph]

theorem rowXml_named (cells : List XmlElement) (missing columns : Nat)
    (other : ∀ own ∈ tableNames, own ≠ tag) :
    (parent "w:tr" (cells ++ List.replicate missing (blankCell columns))).named tag =
      allNamed tag cells := by
  simp only [tableNames,List.forall_mem_cons] at other
  have blank : allNamed tag (List.replicate missing (blankCell columns)) = [] := by
    refine allNamed_eq_nil fun e member => ?_
    rw [List.eq_of_mem_replicate member]
    simp [blankCell,emptyParagraph,other]
  simp [blank,other]

theorem tableXml_named (width column : List (String × String)) (columns : Nat)
    (rows : List XmlElement) (other : ∀ own ∈ tableNames, own ≠ tag) :
    (parent "w:tbl" (
      .parent "w:tblPr" [.leaf "w:tblW" width,tableLook] ::
      .parent "w:tblGrid" (List.replicate columns (.leaf "w:gridCol" column)) ::
      rows)).named tag = allNamed tag rows := by
  simp only [tableNames,List.forall_mem_cons] at other
  have grid : allNamed tag (List.replicate columns (.leaf "w:gridCol" column)) = [] := by
    refine allNamed_eq_nil fun e member => ?_
    rw [List.eq_of_mem_replicate member]
    simp [other]
  simp [grid,tableLook,other]

end Build

end DocPress
