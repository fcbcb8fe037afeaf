import Mathlib.Data.List.Forall2
import DocPress.Proofs.Document.Encodable
import DocPress.Proofs.Package.Fits

/-! A tree in two looks. It says the same in both, and wherever the first can be written so can the
second, but for the names of fonts, which a configuration takes as they are. Main statement: a tree that
becomes a file in the default look does so in another exactly if all fonts may stand in XML
(`encode_restyled_iff`). -/

namespace DocPress

/-! ### Fonts -/

def InlineLeaf.fonts : InlineLeaf → List String
  | run r => [r.font]
  | image _ => []

def Paragraph.fonts (p : Paragraph) : List String :=
  p.children.flatMap fun i => i.leaves.flatMap InlineLeaf.fonts

def Block.fonts (b : Block) : List String := b.paragraphs.flatMap Paragraph.fonts

/-- All fonts that a document names, in its styles, its numberings and its texts. -/
def DocumentModel.fonts (m : DocumentModel) : List String :=
  m.styles.filterMap ParagraphStyle.font ++
    (m.numbering.flatMap fun d => d.levels.map NumberingLevel.font) ++ m.blocks.flatMap Block.fonts

theorem Run.Fits.font {r : Run} (fits : r.Fits) : Legal r.font := by
  obtain ⟨_,_,fits⟩ := Passes.bind_iff.mp fits
  obtain ⟨properties,passed,_⟩ := Passes.bind_iff.mp fits
  unfold Run.properties at passed
  dsimp only at passed
  split at passed
  next none =>
    rw [String.isEmpty_iff.mp none]
    decide
  next some =>
    obtain ⟨font,named,_⟩ := Passes.bind_iff.mp ⟨_,passed⟩
    cases text : Measure.xmlText r.font with
    | error fault =>
      rw [text] at named
      cases named
    | ok name => exact Passes.xmlText_iff.mp ⟨name,text⟩

theorem Inline.Fits.fonts {i : Inline} (fits : i.Fits) :
    ∀ name ∈ i.leaves.flatMap InlineLeaf.fonts, Legal name := by
  have leaf {l : InlineLeaf} (fits : l.Fits) : ∀ name ∈ l.fonts, Legal name := by
    cases l with
    | run r => exact List.forall_mem_singleton.mpr (Run.Fits.font fits)
    | image i => exact List.forall_mem_nil _
  refine List.forall_mem_flatMap.mpr fun l member => leaf ?_
  cases i with
  | run r => exact (List.mem_singleton.mp member) ▸ fits
  | image i => exact (List.mem_singleton.mp member) ▸ fits
  | link h => exact fits.2 l member

theorem Block.Fits.fonts {known : String → Prop} {b : Block} (fits : b.Fits known) :
    ∀ name ∈ b.fonts, Legal name := by
  have paragraph {p : Paragraph} (fits : p.Fits known) : ∀ name ∈ p.fonts, Legal name :=
    List.forall_mem_flatMap.mpr fun i member => (fits.children i member).fonts
  refine List.forall_mem_flatMap.mpr fun p member => paragraph ?_
  cases b with
  | paragraph q => exact (List.mem_singleton.mp member) ▸ fits
  | table t =>
    obtain ⟨r,row,member⟩ := List.mem_flatMap.mp member
    obtain ⟨c,cell,member⟩ := List.mem_flatMap.mp member
    exact (fits.cells r row c cell).paragraphs p member

theorem StyleSheet.values_font {sheet : StyleSheet} {kind : StyleKind} {style : ParagraphStyle}
    (passes : Passes (sheet.values kind style)) : ∀ name ∈ style.font, Legal name := by
  have named : ∃ font, style.font.mapM Measure.xmlText = .ok font := by
    unfold values at passes
    dsimp only at passes
    split at passes
    next list =>
      obtain ⟨_,_,passes⟩ := Passes.bind_iff.mp passes
      obtain ⟨font,named,_⟩ := Passes.bind_iff.mp passes
      exact ⟨font,named⟩
    next other =>
      obtain ⟨font,named,_⟩ := Passes.bind_iff.mp passes
      exact ⟨font,named⟩
  intro name asked
  rw [asked,Option.mapM_some] at named
  cases text : Measure.xmlText name with
  | error fault =>
    rw [text] at named
    obtain ⟨_,⟨⟩⟩ := named
  | ok name => exact Passes.xmlText_iff.mp ⟨_,text⟩

theorem StyleSheet.apply_font {sheet : StyleSheet} {style : ParagraphStyle}
    (passes : Passes (sheet.apply style)) : ∀ name ∈ style.font, Legal name := by
  obtain ⟨found,_,passes⟩ := Passes.bind_iff.mp passes
  split at passes
  · obtain ⟨v,worked,_⟩ := Passes.bind_iff.mp passes
    exact values_font ⟨v,worked⟩
  · obtain ⟨v,worked,_⟩ := Passes.bind_iff.mp passes
    exact values_font ⟨v,worked⟩
  · obtain ⟨v,worked,_⟩ := Passes.bind_iff.mp passes
    exact values_font ⟨v,worked⟩

theorem StyleSheet.foldlM_apply_fonts {sheet : StyleSheet} {styles : List ParagraphStyle}
    (passes : Passes (styles.foldlM StyleSheet.apply sheet)) :
    ∀ name ∈ styles.filterMap ParagraphStyle.font, Legal name := by
  induction styles generalizing sheet with
  | nil => simp
  | cons style styles ih =>
    obtain ⟨next,applied,rest⟩ := Passes.bind_iff.mp passes
    intro name member
    obtain ⟨s,inside,named⟩ := List.mem_filterMap.mp member
    rcases List.mem_cons.mp inside with rfl | inside
    · exact apply_font ⟨next,applied⟩ name named
    · exact ih rest name (List.mem_filterMap.mpr ⟨s,inside,named⟩)

theorem checkLevel_font {l : NumberingLevel} (passes : Passes (Build.checkLevel l)) :
    Legal l.font := by
  obtain ⟨_,text,_⟩ := Passes.bind_iff.mp (Passes.forM_iff.mp passes l.font (by simp))
  exact Passes.xmlText_iff.mp ⟨_,text⟩

theorem DocumentModel.Fits.fonts {m : DocumentModel} (fits : m.Fits) :
    ∀ name ∈ m.fonts, Legal name := by
  refine List.forall_mem_append.mpr ⟨List.forall_mem_append.mpr ⟨?_,?_⟩,?_⟩
  · exact StyleSheet.foldlM_apply_fonts fits.styles
  · refine List.forall_mem_flatMap.mpr fun d member => List.forall_mem_map.mpr fun l inside => ?_
    exact checkLevel_font (Passes.forM_iff.mp (fits.numbering d member) l inside)
  · exact List.forall_mem_flatMap.mpr fun b member => (fits.blocks b member).fonts

/-! ### The same in another look -/

/-- The second text says what the first one says, and its look is one that can be written, whatever its
font. -/
structure Run.Restyles (r s : Run) : Prop where
  text : s.text = r.text
  size : Near s.size
  color : s.color = "" ∨ isColor s.color
  shading : ∀ shade ∈ s.shading, Legal shade.fill

inductive InlineLeaf.Restyles : InlineLeaf → InlineLeaf → Prop where
  | run {r s : Run} (restyles : r.Restyles s) : Restyles (.run r) (.run s)
  | image (i : ImageRun) : Restyles (.image i) (.image i)

inductive Inline.Restyles : Inline → Inline → Prop where
  | run {r s : Run} (restyles : r.Restyles s) : Restyles (.run r) (.run s)
  | image (i : ImageRun) : Restyles (.image i) (.image i)
  | link {url : String} {first second : List InlineLeaf}
      (children : List.Forall₂ InlineLeaf.Restyles first second) :
      Restyles (.link ⟨url,first⟩) (.link ⟨url,second⟩)

structure Paragraph.Restyles (p q : Paragraph) : Prop where
  children : List.Forall₂ Inline.Restyles p.children q.children
  headingLevel : q.headingLevel = p.headingLevel
  numbering : q.numbering = p.numbering
  spacing : q.spacing = p.spacing
  indent : q.indent = p.indent
  borders : ∀ b ∈ q.borders, b.Writable
  shading : ∀ s ∈ q.shading, Legal s.fill

structure TableCell.Restyles (c d : TableCell) : Prop where
  paragraphs : List.Forall₂ Paragraph.Restyles c.paragraphs d.paragraphs
  width : d.widthPercent = c.widthPercent
  borders : ∀ b ∈ d.borders, b.Writable
  shading : ∀ s ∈ d.shading, Legal s.fill

def TableRow.Restyles (r s : TableRow) : Prop := List.Forall₂ TableCell.Restyles r.cells s.cells

structure Table.Restyles (t u : Table) : Prop where
  rows : List.Forall₂ TableRow.Restyles t.rows u.rows
  width : u.widthPercent = t.widthPercent

inductive Block.Restyles : Block → Block → Prop where
  | paragraph {p q : Paragraph} (restyles : p.Restyles q) : Restyles (.paragraph p) (.paragraph q)
  | table {t u : Table} (restyles : t.Restyles u) : Restyles (.table t) (.table u)

/-- What holds of all of a row holds of all of a related one, if it passes from each to the other. -/
theorem forall₂_transfer {α β : Type} {related : α → β → Prop} {first : α → Prop} {second : β → Prop}
    {as : List α} {bs : List β} (rows : List.Forall₂ related as bs)
    (each : ∀ a, ∀ b ∈ bs, related a b → first a → second b) (all : ∀ a ∈ as, first a) :
    ∀ b ∈ bs, second b := by
  induction rows with
  | nil => exact List.forall_mem_nil _
  | cons head tail ih =>
    obtain ⟨now,later⟩ := List.forall_mem_cons.mp all
    refine List.forall_mem_cons.mpr ⟨each _ _ List.mem_cons_self head now,ih ?_ later⟩
    exact fun a b member => each a b (List.mem_cons_of_mem _ member)

theorem Run.Restyles.fits {r s : Run} (restyles : r.Restyles s) (fits : r.Fits)
    (font : Legal s.font) : s.Fits := by
  obtain ⟨text,legal,_⟩ := Passes.bind_iff.mp fits
  have writable : s.Writable := {
    text := restyles.text ▸ Passes.xmlText_iff.mp ⟨text,legal⟩
    font := font
    size := restyles.size
    color := restyles.color
    shading := restyles.shading }
  exact writable.passes

theorem InlineLeaf.Restyles.fits {l m : InlineLeaf} (restyles : l.Restyles m) (fits : l.Fits)
    (fonts : ∀ name ∈ m.fonts, Legal name) : m.Fits := by
  cases restyles with
  | run restyles => exact Run.Restyles.fits restyles fits (fonts _ (by simp [InlineLeaf.fonts]))
  | image i => exact fits

theorem Inline.Restyles.fits {i j : Inline} (restyles : i.Restyles j) (fits : i.Fits)
    (fonts : ∀ name ∈ j.leaves.flatMap InlineLeaf.fonts, Legal name) : j.Fits := by
  cases restyles with
  | run restyles =>
    exact Run.Restyles.fits restyles fits (fonts _ (by simp [Inline.leaves,InlineLeaf.fonts]))
  | image i => exact fits
  | link children =>
    refine ⟨fits.1,forall₂_transfer children (fun l m member restyles fits => ?_) fits.2⟩
    exact restyles.fits fits fun name inside => fonts name (List.mem_flatMap.mpr ⟨m,member,inside⟩)

theorem Paragraph.Restyles.fits {known : String → Prop} {p q : Paragraph} (restyles : p.Restyles q)
    (fits : p.Fits known) (fonts : ∀ name ∈ q.fonts, Legal name) : q.Fits known where
  heading := restyles.headingLevel ▸ fits.heading
  numbering := restyles.numbering ▸ fits.numbering
  spacing := restyles.spacing ▸ fits.spacing
  indent := restyles.indent ▸ fits.indent
  borders := fun b member => (restyles.borders b member).passes
  shading := fun s member => shading_passes (restyles.shading s member)
  children := forall₂_transfer restyles.children (fun _ j member restyles fits => restyles.fits fits
    fun name inside => fonts name (List.mem_flatMap.mpr ⟨j,member,inside⟩)) fits.children

theorem TableCell.Restyles.fits {known : String → Prop} {c d : TableCell} (restyles : c.Restyles d)
    (fits : c.Fits known) (fonts : ∀ name ∈ d.paragraphs.flatMap Paragraph.fonts, Legal name) :
    d.Fits known where
  width := restyles.width ▸ fits.width
  borders := fun b member => (restyles.borders b (Option.mem_filter_iff.mp member).1).passes
  shading := fun s member => shading_passes (restyles.shading s member)
  paragraphs := forall₂_transfer restyles.paragraphs (fun _ q member restyles fits =>
    restyles.fits fits fun name inside => fonts name (List.mem_flatMap.mpr ⟨q,member,inside⟩))
    fits.paragraphs

theorem Table.Restyles.columnCount {t u : Table} (restyles : t.Restyles u) :
    Build.columnCount u = Build.columnCount t := by
  unfold Build.columnCount
  have rows := restyles.rows
  generalize t.rows = first at rows
  generalize u.rows = second at rows
  generalize 0 = most
  induction rows generalizing most with
  | nil => rfl
  | cons head tail ih => rw [List.foldl_cons,List.foldl_cons,ih,List.Forall₂.length_eq head]

theorem Table.Restyles.fits {known : String → Prop} {t u : Table} (restyles : t.Restyles u)
    (fits : t.Fits known) (fonts : ∀ name ∈ (Block.table u).fonts, Legal name) : u.Fits known where
  width := by
    rw [restyles.columnCount,restyles.width]
    exact fits.width
  cells := by
    refine forall₂_transfer restyles.rows (fun r s row restyles fits => ?_) fits.cells
    refine forall₂_transfer restyles (fun c d cell restyles fits => ?_) fits
    refine restyles.fits fits fun name inside => fonts name ?_
    obtain ⟨p,member,inside⟩ := List.mem_flatMap.mp inside
    have paragraph : p ∈ (Block.table u).paragraphs :=
      List.mem_flatMap.mpr ⟨s,row,List.mem_flatMap.mpr ⟨d,cell,member⟩⟩
    exact List.mem_flatMap.mpr ⟨p,paragraph,inside⟩

theorem Block.Restyles.fits {known : String → Prop} {b c : Block} (restyles : b.Restyles c)
    (fits : b.Fits known) (fonts : ∀ name ∈ c.fonts, Legal name) : c.Fits known := by
  cases restyles with
  | paragraph restyles =>
    exact Paragraph.Restyles.fits restyles fits fun name member =>
      fonts name (by simpa [Block.fonts,Block.paragraphs] using member)
  | table restyles => exact Table.Restyles.fits restyles fits fonts

/-! ### Trees -/

theorem forall₂_map {α β γ : Type} {related : β → γ → Prop} {f : α → β} {g : α → γ} {items : List α}
    (each : ∀ a ∈ items, related (f a) (g a)) :
    List.Forall₂ related (items.map f) (items.map g) := by
  rw [List.forall₂_map_left_iff,List.forall₂_map_right_iff]
  exact List.forall₂_same.mpr each

theorem forall₂_flatMap {α β γ : Type} {related : β → γ → Prop} {f : α → List β} {g : α → List γ}
    {items : List α} (each : ∀ a ∈ items, List.Forall₂ related (f a) (g a)) :
    List.Forall₂ related (items.flatMap f) (items.flatMap g) :=
  List.rel_flatten (forall₂_map each)

/-- What is asked for can be written, whatever the font. -/
structure Override.InRange (o : Override) : Prop where
  color : ∀ s ∈ o.color, isColor s
  size : ∀ n ∈ o.size, Near n

theorem forall₂_leaves {first second : List Inline}
    (restyled : List.Forall₂ Inline.Restyles first second) :
    List.Forall₂ InlineLeaf.Restyles (first.flatMap Inline.leaves) (second.flatMap Inline.leaves) := by
  refine List.rel_flatMap restyled fun i j restyles => ?_
  cases restyles with
  | run restyles => exact .cons (.run restyles) .nil
  | image i => exact .cons (.image i) .nil
  | link children => exact children

section

variable {d c : StyleConfig} (valid : c.Valid) {images : ImageCache}

include valid

theorem textRun_restyles {text : String} {e f : Emphasis} {o asked : Override} (range : asked.InRange) :
    (textRun d text e o).Restyles (textRun c text f asked) where
  text := rfl
  size := sizeOr_holds range.size (valid.size (by simp [StyleConfig.contents_size]))
  color := .inr (textOr_holds range.color (valid.color (by simp [StyleConfig.contents_color])))
  shading := none_holds

theorem codeRun_restyles {text : String} : (codeRun d text).Restyles (codeRun c text) where
  text := rfl
  size := valid.size (by simp [StyleConfig.contents_size])
  color := .inr (valid.color (by simp [StyleConfig.contents_color,codeRun]))
  shading := some_holds (valid.fill (by simp [StyleConfig.contents_color]))

theorem placeholderRun_restyles {alt : String} :
    (placeholderRun d alt).Restyles (placeholderRun c alt) where
  text := rfl
  size := valid.size (by simp [StyleConfig.contents_size])
  color := .inr placeholderColor_isColor
  shading := none_holds

theorem linkOverride_inRange : (linkOverride c).InRange where
  color := some_holds (valid.color (by simp [StyleConfig.contents_color]))
  size := none_holds

theorem hyperlink_restyles {url : String} {e f : Emphasis} {first second : List Inline}
    (restyled : List.Forall₂ Inline.Restyles first second) :
    Inline.Restyles (.link (hyperlink d url e first)) (.link (hyperlink c url f second)) := by
  have leaves := forall₂_leaves restyled
  unfold hyperlink
  generalize first.flatMap Inline.leaves = before at leaves
  generalize second.flatMap Inline.leaves = after at leaves
  cases leaves with
  | nil => exact .link (.cons (.run (textRun_restyles valid (linkOverride_inRange valid))) .nil)
  | cons head tail => exact .link (.cons head tail)

theorem inlines_restyled (n : Node) {e f : Emphasis} {o asked : Override} (range : asked.InRange) :
    List.Forall₂ Inline.Restyles (n.inlines d images e o) (n.inlines c images f asked) := by
  induction n using Node.induct generalizing e f o asked with
  | step k p cs ih =>
    have forest {e f : Emphasis} {o asked : Override} (range : asked.InRange) :
        List.Forall₂ Inline.Restyles (Node.forestInlines d images e o cs)
          (Node.forestInlines c images f asked cs) := by
      rw [Node.forestInlines_eq,Node.forestInlines_eq]
      exact forall₂_flatMap fun n member => ih n member range
    cases k with
    | text => exact .cons (.run (textRun_restyles valid range)) .nil
    | emphasis | strong | delete => exact forest range
    | inlineCode => exact .cons (.run (codeRun_restyles valid)) .nil
    | link =>
      exact .cons (hyperlink_restyles valid (forest (linkOverride_inRange valid))) .nil
    | image =>
      rw [Node.inlines,Node.inlines]
      cases images.lookup p.url with
      | none => exact .cons (.run (placeholderRun_restyles valid)) .nil
      | some data => exact .cons (.image _) .nil
    | _ => exact .cons (.run ⟨rfl,show Near 0 by decide,.inl rfl,none_holds⟩) .nil

theorem line_restyled (ns : List Node) {e f : Emphasis} {o asked : Override} (range : asked.InRange) :
    List.Forall₂ Inline.Restyles (Node.forestInlines d images e o ns)
      (Node.forestInlines c images f asked ns) := by
  rw [Node.forestInlines_eq,Node.forestInlines_eq]
  exact forall₂_flatMap fun n _ => inlines_restyled valid n range

end

section

variable {d c : StyleConfig} (valid : c.Valid) {first second : List Inline}
  (line : List.Forall₂ Inline.Restyles first second)

include valid in
theorem ruleParagraph_restyles : (ruleParagraph d).Restyles (ruleParagraph c) where
  children := .nil
  headingLevel := rfl
  numbering := rfl
  spacing := rfl
  indent := rfl
  borders := some_holds (bottom_writable (valid.fill (by simp [StyleConfig.contents_color])))
  shading := none_holds

include valid in
theorem codeParagraph_restyles {text : String} :
    (codeParagraph d text).Restyles (codeParagraph c text) where
  children := .cons (.run {
    text := rfl
    size := valid.size (by simp [StyleConfig.contents_size])
    color := .inr (valid.color (by simp [StyleConfig.contents_color]))
    shading := none_holds }) .nil
  headingLevel := rfl
  numbering := rfl
  spacing := rfl
  indent := rfl
  borders := some_holds (box_writable (show Legal "E5E7EB" by decide))
  shading := some_holds (valid.fill (by simp [StyleConfig.contents_color]))

include line

theorem plainParagraph_restyles : (plainParagraph first).Restyles (plainParagraph second) where
  children := line
  headingLevel := rfl
  numbering := rfl
  spacing := rfl
  indent := rfl
  borders := none_holds
  shading := none_holds

include valid

theorem headingParagraph_restyles (level : Int) :
    (headingParagraph d level first).Restyles (headingParagraph c level second) where
  children := line
  headingLevel := rfl
  numbering := rfl
  spacing := rfl
  indent := rfl
  borders := by
    unfold headingParagraph
    dsimp only
    split
    · exact some_holds (bottom_writable (valid.fill (c.headingColor_mem _)))
    · split
      · exact some_holds (bottom_writable (show Legal "E5E7EB" by decide))
      · exact none_holds
  shading := none_holds

theorem quoteParagraph_restyles : (quoteParagraph d first).Restyles (quoteParagraph c second) where
  children := line
  headingLevel := rfl
  numbering := rfl
  spacing := rfl
  indent := rfl
  borders := some_holds (left_writable (valid.fill (by simp [StyleConfig.contents_color])))
  shading := some_holds (valid.fill (by simp [StyleConfig.contents_color]))

theorem itemLine_restyles {level : Int} {ordered : Bool} {start : Option Int} {checked : Option Bool} :
    (Node.itemLine d level ordered start checked first).Restyles
      (Node.itemLine c level ordered start checked second) := by
  cases checked with
  | none => exact ⟨line,rfl,rfl,rfl,rfl,none_holds,none_holds⟩
  | some checked =>
    have mark : Inline.Restyles
        (.run { text := if checked then checkedGlyph else uncheckedGlyph, font := d.font.body,
                color := d.list.markerColor, size := d.sizes.body })
        (.run { text := if checked then checkedGlyph else uncheckedGlyph, font := c.font.body,
                color := c.list.markerColor, size := c.sizes.body }) := .run {
      text := rfl
      size := valid.size (by simp [StyleConfig.contents_size])
      color := .inr (valid.color (by simp [StyleConfig.contents_color]))
      shading := none_holds }
    exact ⟨.cons mark line,rfl,rfl,rfl,rfl,none_holds,none_holds⟩

end

section

variable {d c : StyleConfig} (valid : c.Valid) {images : ImageCache}

include valid

theorem tableRow_restyles (header : Bool) (row : Node) :
    (tableRow d images header row).Restyles (tableRow c images header row) := by
  refine forall₂_map fun cell _ => ?_
  have range : (cellOverride c header).InRange := by
    cases header with
    | true => exact ⟨some_holds (valid.color (by simp [StyleConfig.contents_color])),
        some_holds (valid.size (by simp [StyleConfig.contents_size]))⟩
    | false => exact ⟨some_holds (valid.color (by simp [StyleConfig.contents_color])),
        some_holds (valid.size (by simp [StyleConfig.contents_size]))⟩
  exact {
    paragraphs := .cons ⟨line_restyled valid cell.children range,rfl,rfl,rfl,rfl,none_holds,
      none_holds⟩ .nil
    width := rfl
    borders := some_holds (box_writable (valid.fill (by simp [StyleConfig.contents_color])))
    shading := by
      cases header with
      | true => exact some_holds (valid.fill (by simp [StyleConfig.contents_color]))
      | false => exact none_holds }

theorem tableRows_restyled (rows : List Node) :
    List.Forall₂ TableRow.Restyles (tableRows d images rows) (tableRows c images rows) := by
  cases rows with
  | nil => exact .nil
  | cons header rows =>
    exact .cons (tableRow_restyles valid true header)
      (forall₂_map fun row _ => tableRow_restyles valid false row)

end

/-- What a node becomes, be it a block, a child of a quote or a child of a list, is the same in the
second look. -/
structure Node.Restyled (d c : StyleConfig) (images : ImageCache) (n : Node) : Prop where
  blocks : ∀ ctx, List.Forall₂ Block.Restyles (n.blocks d images ctx) (n.blocks c images ctx)
  quoted : ∀ ctx, List.Forall₂ Block.Restyles (n.quotedBlocks d images ctx)
    (n.quotedBlocks c images ctx)
  item : ∀ level ordered start, List.Forall₂ Block.Restyles (n.itemBlocks d images level ordered start)
    (n.itemBlocks c images level ordered start)

section

variable {d c : StyleConfig} {images : ImageCache}

theorem listBlocks_restyled {items : List Node} (each : ∀ item ∈ items, item.Restyled d c images)
    {level : Int} {ordered : Bool} {start : Option Int} :
    List.Forall₂ Block.Restyles (Node.listBlocks d images level ordered start items)
      (Node.listBlocks c images level ordered start items) := by
  induction items generalizing start with
  | nil => exact .nil
  | cons item items ih =>
    obtain ⟨head,rest⟩ := List.forall_mem_cons.mp each
    rw [Node.listBlocks_cons,Node.listBlocks_cons]
    exact List.rel_append (head.item level ordered start) (ih rest)

variable (valid : c.Valid)

include valid

theorem blocks_restyled {k : NodeKind} {p : NodeProps} {cs : List Node}
    (each : ∀ n ∈ cs, n.Restyled d c images) (ctx : Option ListContext) :
    List.Forall₂ Block.Restyles ((Node.mk k p cs).blocks d images ctx)
      ((Node.mk k p cs).blocks c images ctx) := by
  have plain : Override.InRange {} := ⟨none_holds,none_holds⟩
  cases k with
  | document =>
    rw [Node.blocks,Node.blocks,Node.forestBlocks_eq,Node.forestBlocks_eq]
    exact forall₂_flatMap fun n member => (each n member).blocks ctx
  | heading =>
    have range : (headingOverride c (clampHeadingLevel p.level)).InRange :=
      ⟨some_holds (valid.color (c.headingColor_mem _)),some_holds (valid.size (c.headingSize_mem _))⟩
    rw [Node.blocks,Node.blocks]
    exact .cons (.paragraph (headingParagraph_restyles valid (line_restyled valid cs range) _)) .nil
  | paragraph =>
    rw [Node.blocks,Node.blocks]
    exact .cons (.paragraph (plainParagraph_restyles (line_restyled valid cs plain))) .nil
  | blockquote =>
    rw [Node.blocks,Node.blocks,Node.quoteBlocks_eq,Node.quoteBlocks_eq]
    exact forall₂_flatMap fun n member => (each n member).quoted ctx
  | code =>
    rw [Node.blocks,Node.blocks]
    exact .cons (.paragraph (codeParagraph_restyles valid)) .nil
  | thematicBreak =>
    rw [Node.blocks,Node.blocks]
    exact .cons (.paragraph (ruleParagraph_restyles valid)) .nil
  | list =>
    rw [Node.blocks,Node.blocks]
    exact listBlocks_restyled each
  | table =>
    rw [Node.blocks,Node.blocks]
    split
    · exact .nil
    · exact .cons (.table ⟨tableRows_restyled valid cs,rfl⟩) .nil
  | _ => exact .nil

theorem itemBlocks_restyled {k : NodeKind} {p : NodeProps} {cs : List Node}
    (each : ∀ n ∈ cs, n.Restyled d c images) (level : Int) (ordered : Bool) (start : Option Int) :
    List.Forall₂ Block.Restyles ((Node.mk k p cs).itemBlocks d images level ordered start)
      ((Node.mk k p cs).itemBlocks c images level ordered start) := by
  have inside {ns : List Node} (each : ∀ n ∈ ns, n.Restyled d c images) :
      List.Forall₂ Block.Restyles (ns.flatMap (Node.blocks d images (some ⟨level,ordered⟩)))
        (ns.flatMap (Node.blocks c images (some ⟨level,ordered⟩))) :=
    forall₂_flatMap fun n member => (each n member).blocks _
  have whole := blocks_restyled valid (k := k) (p := p) each (some ⟨level,ordered⟩)
  cases k with
  | listItem =>
    cases cs with
    | nil => exact .cons (.paragraph (itemLine_restyles valid .nil)) .nil
    | cons head rest =>
      obtain ⟨k,q,line⟩ := head
      cases k with
      | paragraph =>
        exact .cons (.paragraph (itemLine_restyles valid (line_restyled valid line
          ⟨none_holds,none_holds⟩))) (inside (List.forall_mem_cons.mp each).2)
      | _ => exact inside each
  | _ => exact whole

/-- A tree says the same in every look, and what a valid configuration adds can be written. -/
theorem node_restyled (n : Node) : n.Restyled d c images := by
  induction n using Node.induct with
  | step k p cs ih =>
    refine ⟨blocks_restyled valid ih,fun ctx => ?_,itemBlocks_restyled valid ih⟩
    have whole := blocks_restyled valid (k := k) (p := p) ih ctx
    cases k with
    | paragraph =>
      have range : Override.InRange { color := some c.blockquote.textColor } :=
        ⟨some_holds (valid.color (by simp [StyleConfig.contents_color])),none_holds⟩
      exact .cons (.paragraph (quoteParagraph_restyles valid (line_restyled valid cs range))) .nil
    | _ => exact whole

end

/-! ### Documents -/

/-- A tree that becomes a file in some look does so in another if its fonts may stand in XML. -/
theorem fits_restyled {d c : StyleConfig} (valid : c.Valid) {doc : Node} {images : ImageCache}
    {title : String} (fits : (assemble (doc.documentBlocks d images) d title).Fits)
    (fonts : ∀ name ∈ (assemble (doc.documentBlocks c images) c title).fonts, Legal name) :
    (assemble (doc.documentBlocks c images) c title).Fits := by
  obtain ⟨fronts,blocks⟩ := List.forall_mem_append.mp fonts
  obtain ⟨styles,_⟩ := List.forall_mem_append.mp fronts
  have body : Legal c.font.body := styles _ (by simp [assemble,buildStyles,normalStyle])
  have heading : Legal c.font.heading := styles _ (by simp [assemble,buildStyles,headingStyle])
  have restyled : List.Forall₂ Block.Restyles (doc.documentBlocks d images)
      (doc.documentBlocks c images) := by
    rw [Node.documentBlocks,Node.documentBlocks,Node.forestBlocks_eq,Node.forestBlocks_eq]
    exact forall₂_flatMap fun n _ => (node_restyled valid n).blocks none
  exact {
    title := fits.title
    creator := fits.creator
    styles := StyleSheet.foldlM_apply_passes rfl (styles_writable valid body heading)
    numbering := fun d member =>
      .forM fun l inside => (numberings_writable valid body d member l inside).passes
    blocks := forall₂_transfer restyled (fun _ b member restyles fits => restyles.fits fits
      fun name inside => blocks name (List.mem_flatMap.mpr ⟨b,member,inside⟩)) fits.blocks }

/-- Settings make a conversion fail only by the name of a font: a tree that becomes a file in the default
look does so under any settings exactly if all fonts that the document names may stand in XML. -/
theorem encode_restyled_iff (doc : Node) (images : ImageCache) (title : String) (settings : Value)
    (preset : Option Preset)
    (encoded : ∃ package, (encode (assemble (doc.documentBlocks {} images) {} title)).result =
      .ok package) :
    (∃ package, (encode (assemble (doc.documentBlocks (StyleConfig.resolve settings preset) images)
      (StyleConfig.resolve settings preset) title)).result = .ok package) ↔
    ∀ name ∈ (assemble (doc.documentBlocks (StyleConfig.resolve settings preset) images)
      (StyleConfig.resolve settings preset) title).fonts, Legal name := by
  have valid := StyleConfig.resolve_valid settings preset
  rw [encode_ok_iff] at encoded ⊢
  exact ⟨DocumentModel.Fits.fonts,fits_restyled valid encoded⟩

/-- A heading, a task, a quote with a link and a table; no code. -/
def uncodedDocument : Node := .mk .document {} [
  .mk .heading { level := 1 } [.ofText "a"],
  .mk .list {} [.mk .listItem { checked := some true } [.mk .paragraph {} [.ofText "b"]]],
  .mk .blockquote {} [.mk .paragraph {} [.mk .link { url := "v" } [.ofText "c"]]],
  .mk .table {} [.mk .tableRow {} [.mk .tableCell {} [.ofText "d"]]]]

/-- A control character in the name of the font for code does not matter where there is no code. -/
theorem encode_restyled_uncoded :
    (∃ package, (encode (assemble (uncodedDocument.documentBlocks {} []) {} "")).result =
      .ok package) ∧
    ∃ package, (encode (assemble (uncodedDocument.documentBlocks (StyleConfig.resolve
        (.object [("font",.object [("code",.string "A\x01"),("body",.string "Arial")])])
        (some .academic)) [])
      (StyleConfig.resolve
        (.object [("font",.object [("code",.string "A\x01"),("body",.string "Arial")])])
        (some .academic)) "")).result = .ok package := by
  have encoded := Build.encoded_of_isOk
    (m := assemble (uncodedDocument.documentBlocks {} []) {} "") (by decide +kernel)
  exact ⟨encoded,(encode_restyled_iff uncodedDocument [] "" _ _ encoded).mpr (by decide +kernel)⟩

/-- A control character in the name of the font for other text makes every conversion fail. -/
theorem encode_controlFont :
    (∃ package, (encode (assemble (uncodedDocument.documentBlocks {} []) {} "")).result =
      .ok package) ∧
    (encode (assemble (uncodedDocument.documentBlocks (StyleConfig.resolve
        (.object [("font",.object [("body",.string "A\x01")])]) none) [])
      (StyleConfig.resolve (.object [("font",.object [("body",.string "A\x01")])]) none)
      "")).result.isOk = false :=
  ⟨Build.encoded_of_isOk (by decide +kernel),by decide +kernel⟩

end DocPress
