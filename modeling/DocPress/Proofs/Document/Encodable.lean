import DocPress.Proofs.Document.Writable

/-! Every tree becomes a file, whatever stands where in it (`encode_document_ok`): no level, no number
and no measure of what it becomes is out of range, and nothing that its paragraphs refer to is
missing. -/

namespace DocPress

/-! ### Blocks -/

/-- The level of the list around a block, if any, is one. -/
def Above (ctx : Option ListContext) : Prop := ∀ around ∈ ctx, 0 ≤ around.level

theorem listLevel_above {ctx : Option ListContext} (above : Above ctx) : 0 ≤ listLevel ctx := by
  cases ctx with
  | none => decide
  | some around =>
    have level := above around rfl
    change 0 ≤ around.level + 1
    omega

section

variable {c : StyleConfig} {images : ImageCache} (style : c.Writable)
  (readable : ∀ entry ∈ images, isShowable entry.2)

/-- What a node becomes can be written, be it a block, a child of a quote or a child of a list. -/
structure Node.Writes (c : StyleConfig) (images : ImageCache) (n : Node) : Prop where
  blocks : ∀ ctx, Above ctx → ∀ b ∈ n.blocks c images ctx, b.Writable families
  quoted : ∀ ctx, Above ctx → ∀ b ∈ n.quotedBlocks c images ctx, b.Writable families
  item : ∀ level ordered start, 0 ≤ level → (∀ n ∈ start, IsInt32 n) →
    ∀ b ∈ n.itemBlocks c images level ordered start, b.Writable families

omit style readable in
theorem listBlocks_writable {items : List Node} (writes : ∀ item ∈ items, item.Writes c images)
    {level : Int} {ordered : Bool} {start : Option Int} (above : 0 ≤ level)
    (small : ∀ n ∈ start, IsInt32 n) :
    ∀ b ∈ Node.listBlocks c images level ordered start items, b.Writable families := by
  induction items generalizing start with
  | nil => simp [Node.listBlocks]
  | cons item items ih =>
    obtain ⟨first,rest⟩ := List.forall_mem_cons.mp writes
    rw [Node.listBlocks_cons]
    refine List.forall_mem_append.mpr ⟨first.item level ordered start above small,ih rest ?_⟩
    split
    · exact none_holds
    · exact small

include style readable

theorem blocks_writable {k : NodeKind} {p : NodeProps} {cs : List Node}
    (clean : (Node.mk k p cs).isWritable) (writes : ∀ n ∈ cs, n.Writes c images)
    {ctx : Option ListContext} (above : Above ctx) :
    ∀ b ∈ (Node.mk k p cs).blocks c images ctx, b.Writable families := by
  obtain ⟨⟨text,_,_,start⟩,below⟩ := (Node.isWritable_mk k p cs).mp clean
  cases k with
  | document =>
    rw [Node.blocks,Node.forestBlocks_eq]
    exact List.forall_mem_flatMap.mpr fun n member => (writes n member).blocks ctx above
  | heading =>
    have asked : (headingOverride c (clampHeadingLevel p.level)).Writable := {
      color := some_holds (style.color (c.headingColor_mem _))
      font := some_holds (style.fonts _ (by simp [StyleConfig.contents_font]))
      size := some_holds (style.size (c.headingSize_mem _)) }
    rw [Node.blocks]
    exact List.forall_mem_singleton.mpr
      (headingParagraph_writable style (line_writable style readable below asked) _)
  | paragraph =>
    rw [Node.blocks]
    exact List.forall_mem_singleton.mpr
      (plainParagraph_writable (line_writable style readable below emptyOverride_writable))
  | blockquote =>
    rw [Node.blocks,Node.quoteBlocks_eq]
    exact List.forall_mem_flatMap.mpr fun n member => (writes n member).quoted ctx above
  | code =>
    rw [Node.blocks]
    exact List.forall_mem_singleton.mpr (codeParagraph_writable style text)
  | thematicBreak =>
    rw [Node.blocks]
    exact List.forall_mem_singleton.mpr (ruleParagraph_writable style)
  | list =>
    rw [Node.blocks]
    refine listBlocks_writable writes (listLevel_above above) ?_
    unfold listStart
    split
    · exact some_holds (start rfl)
    · exact none_holds
  | table =>
    rw [Node.blocks]
    split
    · simp
    · exact List.forall_mem_singleton.mpr (table_writable style readable below)
  | _ => simp [Node.blocks]

theorem quotedBlocks_writable {n : Node} (clean : n.isWritable) {ctx : Option ListContext}
    (blocks : ∀ b ∈ n.blocks c images ctx, b.Writable families) :
    ∀ b ∈ n.quotedBlocks c images ctx, b.Writable families := by
  obtain ⟨k,p,cs⟩ := n
  obtain ⟨_,below⟩ := (Node.isWritable_mk k p cs).mp clean
  cases k with
  | paragraph =>
    have asked : Override.Writable { color := some c.blockquote.textColor } := {
      color := some_holds (style.color (by simp [StyleConfig.contents_color]))
      font := none_holds
      size := none_holds }
    exact List.forall_mem_singleton.mpr
      (quoteParagraph_writable style (line_writable style readable below asked))
  | _ => exact blocks

theorem itemBlocks_writable {k : NodeKind} {p : NodeProps} {cs : List Node}
    (clean : (Node.mk k p cs).isWritable) (writes : ∀ n ∈ cs, n.Writes c images) {level : Int}
    {ordered : Bool} {start : Option Int} (above : 0 ≤ level) (small : ∀ n ∈ start, IsInt32 n)
    (blocks : ∀ b ∈ (Node.mk k p cs).blocks c images (some ⟨level,ordered⟩), b.Writable families) :
    ∀ b ∈ (Node.mk k p cs).itemBlocks c images level ordered start, b.Writable families := by
  obtain ⟨_,below⟩ := (Node.isWritable_mk k p cs).mp clean
  have inside {ns : List Node} (writes : ∀ n ∈ ns, n.Writes c images) :
      ∀ b ∈ ns.flatMap (Node.blocks c images (some ⟨level,ordered⟩)), b.Writable families :=
    List.forall_mem_flatMap.mpr fun n member =>
      (writes n member).blocks _ (some_holds above)
  cases k with
  | listItem =>
    cases cs with
    | nil => exact List.forall_mem_singleton.mpr (itemLine_writable style (by simp) above small)
    | cons head rest =>
      obtain ⟨k,q,line⟩ := head
      cases k with
      | paragraph =>
        obtain ⟨_,line_clean⟩ := (Node.isWritable_mk _ q line).mp (below _ List.mem_cons_self)
        refine List.forall_mem_cons.mpr ⟨?_,inside (List.forall_mem_cons.mp writes).2⟩
        exact itemLine_writable style
          (line_writable style readable line_clean emptyOverride_writable) above small
      | _ => exact inside writes
  | _ => exact blocks

/-- Whatever a tree that says only what can be written becomes can be written. -/
theorem node_writes {n : Node} (clean : n.isWritable) : n.Writes c images := by
  induction n using Node.induct with
  | step k p cs ih =>
    obtain ⟨_,below⟩ := (Node.isWritable_mk k p cs).mp clean
    have writes (n : Node) (member : n ∈ cs) : n.Writes c images := ih n member (below n member)
    have blocks (ctx : Option ListContext) (above : Above ctx) :=
      blocks_writable style readable clean writes above
    refine ⟨blocks,?_,?_⟩
    · exact fun ctx above => quotedBlocks_writable style readable clean (blocks ctx above)
    · refine fun level ordered start above small =>
        itemBlocks_writable style readable clean writes above small (blocks _ ?_)
      exact some_holds above

end

/-! ### Documents -/

section

variable {c : StyleConfig} (valid : c.Valid) (body : Legal c.font.body)

include valid body

theorem markers_writable {level : NumberingLevel} (format : Legal level.format)
    (text : Legal level.text) (font : level.font = c.font.body)
    (color : level.color = c.list.markerColor) : level.Writable where
  format := format
  text := text
  font := font ▸ body
  color := color ▸ valid.fill (by simp [StyleConfig.contents_color])

theorem numberings_writable : ∀ d ∈ buildNumbering c, d.Writable := by
  have marks : ∀ level ∈ listLevels, Legal (bulletGlyph level) ∧ Legal (orderedFormat level) ∧
      Legal s!"%{level + 1}." := by decide +kernel
  refine List.forall_mem_cons.mpr ⟨List.forall_mem_map.mpr ?_,
    List.forall_mem_singleton.mpr (List.forall_mem_map.mpr ?_)⟩
  · intro level member
    exact markers_writable valid body (show Legal "bullet" by decide) (marks level member).1 rfl rfl
  · intro level member
    exact markers_writable valid body (marks level member).2.1 (marks level member).2.2 rfl rfl

theorem styles_writable (heading : Legal c.font.heading) : ∀ s ∈ buildStyles c, s.Writable := by
  have shown : ∀ level ∈ ([1,2,3,4,5,6] : List Int),
      (StyleSheet.shownName? s!"Heading{level}").getD s!"Heading {level}" ∈
        StyleSheet.shownNames := by decide +kernel
  refine List.forall_mem_cons.mpr ⟨?_,List.forall_mem_map.mpr fun level member => ?_⟩
  · exact {
      known := show (StyleSheet.shownName? "Normal").getD "Normal" ∈ StyleSheet.shownNames by decide
      font := some_holds body
      size := valid.size (by simp [StyleConfig.contents_size])
      color := valid.color (by simp [StyleConfig.contents_color,normalStyle])
      basedOn := none_holds
      nextStyle := none_holds
      spacing := some_holds (by decide) }
  · have normal : ∀ id ∈ some "Normal", StyleSheet.IsShown id := some_holds (by decide)
    exact {
      known := shown level member
      font := some_holds heading
      size := valid.size (c.headingSize_mem level)
      color := valid.color (c.headingColor_mem level)
      basedOn := normal
      nextStyle := normal
      spacing := none_holds }

omit valid body

theorem buildNumbering_writable (style : c.Writable) : ∀ d ∈ buildNumbering c, d.Writable :=
  numberings_writable style.valid (style.fonts _ (by simp [StyleConfig.contents_font]))

theorem buildStyles_writable (style : c.Writable) : ∀ s ∈ buildStyles c, s.Writable :=
  styles_writable style.valid (style.fonts _ (by simp [StyleConfig.contents_font]))
    (style.fonts _ (by simp [StyleConfig.contents_font]))

end

/-- A tree becomes a file, whatever its nodes are and wherever they stand. -/
theorem encode_document_ok (doc : Node) (settings : Value) (preset : Option Preset)
    (images : ImageCache) (title : String) (clean : doc.isWritable)
    (fonts : ∀ name ∈ (StyleConfig.resolve settings preset).contents .font, Legal name)
    (readable : ∀ entry ∈ images, isShowable entry.2) (titular : Titular title) :
    ∃ package, (encode (assemble
      (doc.documentBlocks (StyleConfig.resolve settings preset) images)
      (StyleConfig.resolve settings preset) title)).result = .ok package := by
  have style : (StyleConfig.resolve settings preset).Writable :=
    ⟨StyleConfig.resolve_valid settings preset,fonts⟩
  obtain ⟨k,p,cs⟩ := doc
  obtain ⟨_,below⟩ := (Node.isWritable_mk k p cs).mp clean
  refine encode_ok ⟨titular,show Titular "md2docx" by decide,buildStyles_writable style,
    buildNumbering_writable style,?_⟩
  rw [assemble,Node.documentBlocks,Node.forestBlocks_eq]
  exact List.forall_mem_flatMap.mpr fun n member =>
    (node_writes style readable (below n member)).blocks none none_holds

/-- A heading of level 99 around a row of a table, counted lists five levels down from the number -7,
a picture that cannot be read and one that is not at hand, and an item outside any list. -/
def strayDocument : Node := .mk .document {} [
  .mk .heading { level := 99 } [.mk .tableRow {} [],.ofText "deep"],
  .mk .list { ordered := true,start := -7 } [.mk .list { ordered := true } [.mk .list {} [
    .mk .list { ordered := true,start := 2147483647 } [.mk .list {} [.mk .listItem {} [
      .mk .paragraph {} [.mk .image { url := "v" } [],.mk .image { url := "w" } []]]]]]]],
  .mk .listItem {} [],
  .mk .table {} [.mk .tableRow {} [.mk .text { text := "cell" } [.ofText "in it"]]]]

theorem encode_document_ok_stray : strayDocument.isWritable ∧ ∃ package, (encode (assemble
    (strayDocument.documentBlocks (StyleConfig.resolve (.object [("sizes",.int 3)]) none) [("v",[0])])
    (StyleConfig.resolve (.object [("sizes",.int 3)]) none) "Title")).result = .ok package := by
  have clean : strayDocument.isWritable := by decide
  refine ⟨clean,encode_document_ok strayDocument _ none [("v",[0])] "Title" clean ?_ ?_ ?_⟩
  · decide +kernel
  · decide +kernel
  · decide

end DocPress
