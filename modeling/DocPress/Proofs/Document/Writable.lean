import DocPress.Document.Assembly
import DocPress.Proofs.Document.Walk
import DocPress.Proofs.Package.Encodable

/-! The lines, paragraphs and tables that a tree becomes can be written, under any valid configuration:
headings have levels that have styles, items count in the two families, and all measures stay small.
What is asked of a tree is only that its texts may stand in XML and that its lists start at numbers of
32 bits. -/

namespace DocPress

/-! ### What is asked for -/

/-- The texts may stand in XML, and a list starts at a number of 32 bits. -/
def NodeProps.isWritable (kind : NodeKind) (p : NodeProps) : Bool :=
  Xml.isText p.text && Xml.isText p.alt && Xml.isText p.url &&
    (kind ≠ .list || decide (IsInt32 p.start))

namespace Node

mutual

/-- Does the tree say only what can be written? -/
def isWritable : Node → Bool
  | mk k p cs => p.isWritable k && areWritable cs

def areWritable : List Node → Bool
  | [] => true
  | n :: ns => n.isWritable && areWritable ns

end

theorem areWritable_iff (ns : List Node) : areWritable ns ↔ ∀ n ∈ ns, n.isWritable := by
  induction ns with
  | nil => simp [areWritable]
  | cons n ns ih => rw [areWritable,Bool.and_eq_true,ih,List.forall_mem_cons]

theorem isWritable_mk (k : NodeKind) (p : NodeProps) (cs : List Node) :
    (mk k p cs).isWritable ↔ (Legal p.text ∧ Legal p.alt ∧ Legal p.url ∧
      (k = .list → IsInt32 p.start)) ∧ ∀ n ∈ cs, n.isWritable := by
  rw [isWritable,Bool.and_eq_true,areWritable_iff]
  refine and_congr_left fun _ => ?_
  by_cases list : k = .list <;> simp [NodeProps.isWritable,Legal,list,and_assoc]

end Node

/-- The configuration is valid and its fonts may stand in XML. -/
structure StyleConfig.Writable (c : StyleConfig) : Prop where
  valid : c.Valid
  fonts : ∀ name ∈ c.contents .font, Legal name

namespace StyleConfig.Valid

variable {c : StyleConfig} (valid : c.Valid)

include valid

theorem color {s : String} (member : s ∈ c.contents .color) : isColor s := valid.holds .color s member

theorem fill {s : String} (member : s ∈ c.contents .color) : Legal s :=
  Measure.color_isText (valid.color member)

theorem size {n : Nat} (member : n ∈ c.contents .size) : Near n := by
  obtain ⟨above,below⟩ : 0 < n ∧ n ≤ LeafKind.maxSize := valid.holds .size n member
  unfold LeafKind.maxSize at below
  exact ⟨by omega,by unfold Measure.farthest; omega⟩

end StyleConfig.Valid

namespace StyleConfig.Writable

variable {c : StyleConfig} (style : c.Writable)

include style

theorem color {s : String} (member : s ∈ c.contents .color) : isColor s := style.valid.color member

theorem fill {s : String} (member : s ∈ c.contents .color) : Legal s := style.valid.fill member

theorem size {n : Nat} (member : n ∈ c.contents .size) : Near n := style.valid.size member

end StyleConfig.Writable

/-! ### Lines -/

structure Override.Writable (o : Override) : Prop where
  color : ∀ s ∈ o.color, isColor s
  font : ∀ name ∈ o.font, Legal name
  size : ∀ n ∈ o.size, Near n

theorem textOr_holds {holds : String → Prop} {text : Option String} {fallback : String}
    (given : ∀ s ∈ text, holds s) (otherwise : holds fallback) : holds (textOr text fallback) := by
  unfold textOr
  split
  · rename_i s
    split
    · exact otherwise
    · exact given s rfl
  · exact otherwise

theorem sizeOr_holds {holds : Int → Prop} {size : Option Int} {fallback : Int}
    (given : ∀ n ∈ size, holds n) (otherwise : holds fallback) : holds (sizeOr size fallback) := by
  unfold sizeOr
  split
  · rename_i n
    split
    · exact otherwise
    · exact given n rfl
  · exact otherwise

theorem Inline.Writable.leaves {i : Inline} (writable : i.Writable) :
    ∀ leaf ∈ i.leaves, leaf.Writable := by
  cases i with
  | run r => exact List.forall_mem_singleton.mpr writable
  | image i => exact List.forall_mem_singleton.mpr writable
  | link h => exact writable.2

section

variable {c : StyleConfig} {images : ImageCache} (style : c.Writable)
  (readable : ∀ entry ∈ images, isShowable entry.2)

include style

theorem textRun_writable {text : String} {e : Emphasis} {o : Override} (legal : Legal text)
    (asked : o.Writable) : (textRun c text e o).Writable where
  text := legal
  font := textOr_holds asked.font (style.fonts _ (by simp [StyleConfig.contents_font]))
  size := sizeOr_holds asked.size (style.size (by simp [StyleConfig.contents_size]))
  color := .inr (textOr_holds asked.color (style.color (by simp [StyleConfig.contents_color])))
  shading := none_holds

theorem codeRun_writable {text : String} (legal : Legal text) : (codeRun c text).Writable where
  text := legal
  font := style.fonts _ (by simp [StyleConfig.contents_font,codeRun])
  size := style.size (by simp [StyleConfig.contents_size])
  color := .inr (style.color (by simp [StyleConfig.contents_color,codeRun]))
  shading := some_holds (style.fill (by simp [StyleConfig.contents_color]))

theorem placeholderRun_writable {alt : String} (legal : Legal alt) :
    (placeholderRun c alt).Writable where
  text := imagePlaceholder_legal legal
  font := style.fonts _ (by simp [StyleConfig.contents_font,placeholderRun])
  size := style.size (by simp [StyleConfig.contents_size])
  color := .inr placeholderColor_isColor
  shading := none_holds

theorem linkOverride_writable : (linkOverride c).Writable where
  color := some_holds (style.color (by simp [StyleConfig.contents_color]))
  font := none_holds
  size := none_holds

theorem hyperlink_writable {url : String} {e : Emphasis} {inner : List Inline} (legal : Legal url)
    (writable : ∀ i ∈ inner, i.Writable) : Inline.Writable (.link (hyperlink c url e inner)) := by
  refine ⟨legal,fun leaf member => ?_⟩
  unfold hyperlink at member
  dsimp only at member
  split at member
  · rw [List.mem_singleton.mp member]
    exact textRun_writable style legal (linkOverride_writable style)
  · obtain ⟨i,inside,member⟩ := List.mem_flatMap.mp member
    exact (writable i inside).leaves leaf member

omit style in
theorem emptyRun_writable : Run.Writable {} where
  text := rfl
  font := rfl
  size := show Near 0 by decide
  color := .inl rfl
  shading := none_holds

omit style in
theorem emptyOverride_writable : Override.Writable {} := ⟨none_holds,none_holds,none_holds⟩

include readable

omit style in
theorem lookup_showable {url : String} {data : List UInt8} (found : images.lookup url = some data) :
    isShowable data := by
  obtain ⟨before,after,split,_⟩ := List.lookup_eq_some_iff.mp found
  exact readable (url,data) (by simp [split])

theorem inlines_writable {n : Node} (clean : n.isWritable) {e : Emphasis} {o : Override}
    (asked : o.Writable) : ∀ i ∈ n.inlines c images e o, i.Writable := by
  induction n using Node.induct generalizing e o with
  | step k p cs ih =>
    obtain ⟨⟨text,alt,url,_⟩,below⟩ := (Node.isWritable_mk k p cs).mp clean
    have forest (e : Emphasis) {o : Override} (asked : o.Writable) :
        ∀ i ∈ Node.forestInlines c images e o cs, i.Writable := by
      rw [Node.forestInlines_eq]
      exact List.forall_mem_flatMap.mpr fun n member => ih n member (below n member) asked
    cases k with
    | text => exact List.forall_mem_singleton.mpr (textRun_writable style text asked)
    | emphasis | strong | delete => exact forest _ asked
    | inlineCode => exact List.forall_mem_singleton.mpr (codeRun_writable style text)
    | link =>
      have inner := forest e (linkOverride_writable style)
      exact List.forall_mem_singleton.mpr (hyperlink_writable style url inner)
    | image =>
      rw [Node.inlines]
      split
      · rename_i data found
        exact List.forall_mem_singleton.mpr
          ⟨lookup_showable readable found,alt,show Near 400 by decide,show Near 300 by decide⟩
      · exact List.forall_mem_singleton.mpr (placeholderRun_writable style alt)
    | _ => exact List.forall_mem_singleton.mpr emptyRun_writable

theorem line_writable {ns : List Node} (clean : ∀ n ∈ ns, n.isWritable) {e : Emphasis} {o : Override}
    (asked : o.Writable) : ∀ i ∈ Node.forestInlines c images e o ns, i.Writable := by
  rw [Node.forestInlines_eq]
  exact List.forall_mem_flatMap.mpr fun n member =>
    inlines_writable style readable (clean n member) asked

end

/-! ### Paragraphs -/

theorem bottom_writable {b : Border} (legal : Legal b.color) :
    Borders.Writable { bottom := some b } := by simpa [Borders.Writable] using legal

theorem left_writable {b : Border} (legal : Legal b.color) :
    Borders.Writable { left := some b } := by simpa [Borders.Writable] using legal

theorem box_writable {b : Border} (legal : Legal b.color) : (Borders.box b).Writable := by
  simpa [Borders.Writable,Borders.box] using legal

theorem clampHeadingLevel_inside (level : Int) :
    1 ≤ clampHeadingLevel level ∧ clampHeadingLevel level ≤ 6 := by
  unfold clampHeadingLevel
  omega

theorem listIndent_near {level : Int} (above : 0 ≤ level) : Near (listIndent level) := by
  unfold Near listIndent maxListLevel Measure.farthest
  omega

/-- The families that lists count in. -/
def families : List String := [bulletReference,orderedReference]

section

variable {c : StyleConfig} (style : c.Writable) {known : List String} {line : List Inline}
  (writable : ∀ i ∈ line, i.Writable)

include style in
theorem ruleParagraph_writable : (ruleParagraph c).Writable known where
  children := by simp [ruleParagraph]
  heading := none_holds
  numbering := none_holds
  borders := some_holds (bottom_writable (style.fill (by simp [StyleConfig.contents_color])))
  shading := none_holds
  spacing := some_holds (by decide)
  indent := none_holds

include style in
theorem codeParagraph_writable {text : String} (legal : Legal text) :
    (codeParagraph c text).Writable known where
  children := List.forall_mem_singleton.mpr {
    text := legal
    font := style.fonts _ (by simp [StyleConfig.contents_font])
    size := style.size (by simp [StyleConfig.contents_size])
    color := .inr (style.color (by simp [StyleConfig.contents_color]))
    shading := none_holds }
  heading := none_holds
  numbering := none_holds
  borders := some_holds (box_writable (show Legal "E5E7EB" by decide))
  shading := some_holds (style.fill (by simp [StyleConfig.contents_color]))
  spacing := some_holds (by decide)
  indent := some_holds (by decide)

include writable

theorem plainParagraph_writable : (plainParagraph line).Writable known where
  children := writable
  heading := none_holds
  numbering := none_holds
  borders := none_holds
  shading := none_holds
  spacing := some_holds (by decide)
  indent := none_holds

theorem itemParagraph_writable {level : Int} {ordered : Bool} {start : Option Int}
    (above : 0 ≤ level) (small : ∀ n ∈ start, IsInt32 n) :
    (itemParagraph level ordered start line).Writable families where
  children := writable
  heading := none_holds
  numbering := by
    refine some_holds ⟨by cases ordered <;> simp [families],?_,small⟩
    unfold IsInt32 maxListLevel
    dsimp only
    omega
  borders := none_holds
  shading := none_holds
  spacing := some_holds (by decide)
  indent := none_holds

include style

theorem headingParagraph_writable (level : Int) :
    (headingParagraph c (clampHeadingLevel level) line).Writable known where
  children := writable
  heading := some_holds (clampHeadingLevel_inside level)
  numbering := none_holds
  borders := by
    unfold headingParagraph
    dsimp only
    split
    · exact some_holds (bottom_writable (style.fill (c.headingColor_mem _)))
    · split
      · exact some_holds (bottom_writable (show Legal "E5E7EB" by decide))
      · exact none_holds
  shading := none_holds
  spacing := by
    refine some_holds ?_
    split <;> decide
  indent := none_holds

theorem quoteParagraph_writable : (quoteParagraph c line).Writable known where
  children := writable
  heading := none_holds
  numbering := none_holds
  borders := some_holds (left_writable (style.fill (by simp [StyleConfig.contents_color])))
  shading := some_holds (style.fill (by simp [StyleConfig.contents_color]))
  spacing := some_holds (by decide)
  indent := some_holds (by decide)

omit writable in
theorem checkbox_writable (checked : Bool) : Run.Writable {
    text := if checked then checkedGlyph else uncheckedGlyph
    font := c.font.body
    color := c.list.markerColor
    size := c.sizes.body } where
  text := show Legal (if checked then checkedGlyph else uncheckedGlyph) by cases checked <;> decide
  font := style.fonts _ (by simp [StyleConfig.contents_font])
  size := style.size (by simp [StyleConfig.contents_size])
  color := .inr (style.color (by simp [StyleConfig.contents_color]))
  shading := none_holds

theorem taskParagraph_writable {level : Int} {checked : Bool} (above : 0 ≤ level) :
    (taskParagraph c level checked line).Writable known where
  children := List.forall_mem_cons.mpr ⟨checkbox_writable style checked,writable⟩
  heading := none_holds
  numbering := none_holds
  borders := none_holds
  shading := none_holds
  spacing := some_holds (by decide)
  indent := some_holds ⟨listIndent_near above,show Near 0 by decide,show Near 0 by decide⟩

theorem itemLine_writable {level : Int} {ordered : Bool} {start : Option Int} {checked : Option Bool}
    (above : 0 ≤ level) (small : ∀ n ∈ start, IsInt32 n) :
    (Node.itemLine c level ordered start checked line).Writable families := by
  cases checked with
  | none => exact itemParagraph_writable writable above small
  | some checked => exact taskParagraph_writable style writable above

end

/-! ### Tables -/

theorem fullWidth_atMost : fullWidth.AtMost 8 := Number.Binary64.ofInt_atMost (by decide) (by decide)

theorem cellWidth_atMost (count : Nat) : (cellWidth count).AtMost 8 := by
  unfold cellWidth
  split
  · exact fullWidth_atMost
  · exact Number.Binary64.ofRatio_atMost (by omega) (by decide)

section

variable {c : StyleConfig} {images : ImageCache} (style : c.Writable)
  (readable : ∀ entry ∈ images, isShowable entry.2) {known : List String}

include style readable

theorem tableRow_writable {header : Bool} {row : Node} (clean : row.isWritable) :
    ∀ cell ∈ (tableRow c images header row).cells, cell.Writable known := by
  obtain ⟨k,p,cs⟩ := row
  obtain ⟨_,cells_clean⟩ := (Node.isWritable_mk k p cs).mp clean
  refine List.forall_mem_map.mpr fun cell member => ?_
  obtain ⟨k,q,below⟩ := cell
  obtain ⟨_,below_clean⟩ := (Node.isWritable_mk k q below).mp (cells_clean _ member)
  have asked : (cellOverride c header).Writable := by
    cases header with
    | true => exact ⟨some_holds (style.color (by simp [StyleConfig.contents_color])),none_holds,
        some_holds (style.size (by simp [StyleConfig.contents_size]))⟩
    | false => exact ⟨some_holds (style.color (by simp [StyleConfig.contents_color])),none_holds,
        some_holds (style.size (by simp [StyleConfig.contents_size]))⟩
  have line := line_writable style readable below_clean (e := cellEmphasis c header) asked
  exact {
    paragraphs := List.forall_mem_singleton.mpr
      ⟨line,none_holds,none_holds,none_holds,none_holds,none_holds,none_holds⟩
    width := cellWidth_atMost _
    shading := by
      cases header with
      | true => exact some_holds (style.fill (by simp [StyleConfig.contents_color]))
      | false => exact none_holds
    borders := some_holds (box_writable (style.fill (by simp [StyleConfig.contents_color]))) }

theorem table_writable {rows : List Node} (clean : ∀ row ∈ rows, row.isWritable) :
    Table.Writable known { rows := tableRows c images rows } where
  width := fullWidth_atMost
  cells := by
    cases rows with
    | nil => simp [tableRows]
    | cons header rows =>
      obtain ⟨first,rest⟩ := List.forall_mem_cons.mp clean
      refine List.forall_mem_cons.mpr ⟨tableRow_writable style readable first,?_⟩
      exact List.forall_mem_map.mpr fun row member =>
        tableRow_writable style readable (rest row member)

end

end DocPress
