import DocPress.Proofs.Package.Body
import DocPress.Proofs.Package.Styles

/-! The order of the elements within an element. The format lays down for some elements in which order
others may stand in them, each at most once; a reader refuses a file that breaks it. Whichever properties
a thing has or lacks, each of them has been put into its place. Main statement: all that is written keeps
to the order (`encode_childOrder`). -/

namespace DocPress

namespace XmlElement

/-- What stands in an element of one of the names, at any depth, stands in the order given for the name,
and nothing twice. -/
def Follows (order : List (String × List String)) (e : XmlElement) : Prop :=
  ∀ rule ∈ order, ∀ d ∈ e.named rule.1, (d.children.map name).Sublist rule.2

variable {order : List (String × List String)} {own : String} {children : List XmlElement}

theorem follows_mk {attrs : List (String × String)} {text : String} :
    (mk own attrs text children).Follows order ↔
      (∀ rule ∈ order, own = rule.1 → (children.map name).Sublist rule.2) ∧
        ∀ e ∈ children, e.Follows order := by
  unfold Follows
  constructor
  · intro follows
    refine ⟨fun rule member same => ?_,fun e inside rule member d found => ?_⟩
    · refine follows rule member (mk own attrs text children) ?_
      rw [named_mk,if_pos same]
      exact List.mem_append_left _ (List.mem_singleton_self _)
    · refine follows rule member d ?_
      rw [named_mk]
      exact List.mem_append_right _ (mem_allNamed.mpr ⟨e,inside,found⟩)
  · rintro ⟨here,below⟩ rule member d found
    rw [named_mk,List.mem_append] at found
    obtain found | found := found
    · split at found
      · next same =>
        rw [List.mem_singleton.mp found]
        exact here rule member same
      · cases found
    · obtain ⟨e,inside,found⟩ := mem_allNamed.mp found
      exact below e inside rule member d found

theorem follows_childless {attrs : List (String × String)} {text : String} :
    (mk own attrs text []).Follows order := by
  rw [follows_mk]
  simp

@[simp] theorem follows_leaf (attrs : List (String × String)) : (leaf own attrs).Follows order :=
  follows_childless

@[simp] theorem follows_mark : (mark own).Follows order := follows_childless

@[simp] theorem follows_value (value : String) : (XmlElement.value own value).Follows order :=
  follows_childless

@[simp] theorem follows_ofText (attrs : List (String × String)) (text : String) :
    (ofText own attrs text).Follows order := follows_childless

theorem follows_of_empty {e : XmlElement} (empty : e.children = []) : e.Follows order := by
  cases e with
  | mk own attrs text children =>
    obtain rfl : children = [] := empty
    exact follows_childless

theorem follows_of_lacking (lacking : ∀ rule ∈ order, allNamed rule.1 children = []) :
    ∀ e ∈ children, e.Follows order := by
  intro e inside rule member d found
  have present : d ∈ allNamed rule.1 children := mem_allNamed.mpr ⟨e,inside,found⟩
  rw [lacking rule member] at present
  cases present

/-- An element for which there is one rule. -/
theorem follows_ruled {names : List String} (ruled : order.filter (·.1 = own) = [(own,names)])
    {attrs : List (String × String)} {text : String} (sorted : (children.map name).Sublist names)
    (below : ∀ e ∈ children, e.Follows order) : (mk own attrs text children).Follows order := by
  refine follows_mk.mpr ⟨fun rule member same => ?_,below⟩
  have found : rule ∈ order.filter (·.1 = own) := List.mem_filter.mpr ⟨member,by simp [same]⟩
  rw [ruled,List.mem_singleton] at found
  rwa [found]

/-- An element for which there is no rule. -/
theorem follows_free (free : own ∉ order.map Prod.fst) {attrs : List (String × String)}
    {text : String} (below : ∀ e ∈ children, e.Follows order) :
    (mk own attrs text children).Follows order := by
  refine follows_mk.mpr ⟨fun rule member same => ?_,below⟩
  exact absurd (List.mem_map.mpr ⟨rule,member,same.symm⟩) free

end XmlElement

open XmlElement

/-! ### The order -/

def sideOrder : List String := ["w:top","w:left","w:bottom","w:right"]

/-- The order in an element by its name, for these orders of the properties of paragraphs and texts. -/
def childOrder (inParagraph inText : List String) : List (String × List String) := [
  ("w:pPr",inParagraph),
  ("w:rPr",inText),
  ("w:tcPr",["w:tcW","w:tcBorders","w:shd"]),
  ("w:pBdr",sideOrder),
  ("w:tcBorders",sideOrder),
  ("w:lvl",["w:start","w:numFmt","w:lvlText","w:lvlJc","w:pPr","w:rPr"])]

/-- The order in what is written for a document. -/
abbrev bodyOrder : List (String × List String) := childOrder paragraphOrder textOrder

/-- The order in the styles of a document, some of which are the template's. -/
abbrev styleOrder : List (String × List String) :=
  childOrder templateParagraphOrder templateTextOrder

example : ∀ rule ∈ bodyOrder ++ styleOrder, rule.2.Nodup := by decide

variable {order : List (String × List String)}

/-! ### Properties -/

theorem follows_leaves {α : Type} (item : Option α) {own : String}
    (attrs : α → List (String × String)) :
    ∀ e ∈ (item.map fun a => leaf own (attrs a)).toList, e.Follows order :=
  forall_option item fun _ => follows_leaf _

theorem Borders.toXml_follows (b : Borders) {own : String}
    (known : own = "w:pBdr" ∨ own = "w:tcBorders") : (b.toXml own).Follows bodyOrder := by
  have ruled : bodyOrder.filter (·.1 = own) = [(own,sideOrder)] := by
    obtain rfl | rfl := known <;> rfl
  have side (tag : String) (side : Option Border) :
      ∀ e ∈ (side.map (Border.toXml tag)).toList, e.Follows bodyOrder :=
    forall_option side fun b => follows_leaf _
  refine follows_ruled ruled ?_ ?_
  · exact b.toXml_names own ▸ taken_sublist _
  · simp only [List.forall_mem_append]
    exact ⟨⟨⟨side _ _,side _ _⟩,side _ _⟩,side _ _⟩

theorem TextProperties.toXml_follows (p : TextProperties) : p.toXml.Follows bodyOrder :=
  follows_ruled rfl p.toXml_sorted fun e member => follows_of_empty (p.toXml_children e member).1

theorem ParagraphProperties.toXml_follows (p : ParagraphProperties) : p.toXml.Follows bodyOrder := by
  refine follows_ruled rfl p.toXml_sorted fun e member => ?_
  obtain ⟨empty,_⟩ | ⟨level,id,rfl⟩ | ⟨b,rfl⟩ := p.toXml_children e member
  · exact follows_of_empty empty
  · exact follows_free (by decide) (by simp)
  · exact b.toXml_follows (.inl rfl)

/-! ### What is written -/

theorem Run.toXml_follows {r : Run} {x : XmlElement} (written : r.toXml = .ok x) :
    x.Follows bodyOrder := by
  obtain ⟨_,properties,worked,rfl⟩ := Run.toXml_ok.mp written
  have free : ∀ rule ∈ bodyOrder, ∀ own ∈ ["w:t","w:tab","w:br"], own ≠ rule.1 := by decide
  refine follows_free (by decide) (List.forall_mem_cons.mpr ⟨properties.toXml_follows,?_⟩)
  exact follows_of_lacking fun rule member => textXml_lacks _ _ (free rule member)

theorem pictureXml_follows (id : Nat) (name relation : String) (width height : Int) :
    (pictureXml id name relation width height).Follows bodyOrder := by
  have free : ∀ rule ∈ bodyOrder, ∀ own ∈ pictureNames, own ≠ rule.1 := by decide
  refine List.forall_mem_singleton.mp (follows_of_lacking fun rule member => ?_)
  simpa using pictureXml_lacks _ _ _ _ _ (free rule member)

namespace Build

theorem run_follows (r : Run) : Yields (·.Follows bodyOrder) (run r) :=
  .check fun _ written => Run.toXml_follows written

theorem picture_follows (i : ImageRun) : Yields (·.1.Follows bodyOrder) (picture i) := by
  refine picture_yields _ (fun _ _ => run_follows _) fun _ _ id name relation width height => ?_
  exact follows_free (by decide) (by simp [pictureXml_follows])

theorem inline_follows (i : Inline) : Yields (·.Follows bodyOrder) (inline i) := by
  cases i with
  | run r => exact run_follows r
  | image i =>
    refine (picture_follows i).bind fun _ follows => ?_
    exact (Yields.any _).bind fun _ _ => .pure follows
  | link h =>
    refine (Yields.any _).bind fun _ _ => ?_
    refine (leaves_all _ run_follows picture_follows _).bind fun found follow => ?_
    exact (Yields.any _).bind fun _ _ => .pure (follows_free (by decide) follow)

theorem paragraph_follows (p : Paragraph) : Yields (·.Follows bodyOrder) (paragraph p) := by
  rw [paragraph_eq]
  refine (Yields.any _).bind fun properties _ => ?_
  refine (Yields.mapM fun i _ => inline_follows i).bind fun children line => .pure ?_
  exact follows_free (by decide) (List.forall_mem_cons.mpr ⟨properties.toXml_follows,line⟩)

theorem cell_follows (c : TableCell) : Yields (·.Follows bodyOrder) (cell c) := by
  refine (Yields.any _).bind fun width _ => (Yields.any _).bind fun borders _ =>
    (Yields.any _).bind fun shading _ => ?_
  refine (Yields.mapM fun p _ => paragraph_follows p).bind fun paragraphs each => .pure ?_
  have side := names_option borders (Borders.toXml "w:tcBorders") fun _ => rfl
  have shade := names_option shading Shading.toXml fun _ => rfl
  have places : (leaf "w:tcW" [("w:type","pct"),("w:w",toString width)] ::
      (borders.map (Borders.toXml "w:tcBorders")).toList ++ (shading.map Shading.toXml).toList).map
        name =
      taken [(true,"w:tcW"),(borders.isSome,"w:tcBorders"),(shading.isSome,"w:shd")] := by
    simp only [List.map_cons,List.map_append,side,shade,taken_cons,name_leaf]
    simp [taken]
  refine follows_free (by decide) (List.forall_mem_cons.mpr ⟨?_,?_⟩)
  · refine follows_ruled rfl (places ▸ taken_sublist _) ?_
    simp only [List.forall_mem_append,List.forall_mem_cons]
    exact ⟨⟨follows_leaf _,forall_option _ fun b => b.toXml_follows (.inr rfl)⟩,follows_leaves _ _⟩
  · split
    · exact List.forall_mem_singleton.mpr follows_mark
    · exact each

theorem row_follows (columns : Nat) (r : TableRow) : Yields (·.Follows bodyOrder) (row columns r) := by
  refine (Yields.mapM fun c _ => cell_follows c).bind fun cells each => .pure ?_
  have blank : (blankCell columns).Follows bodyOrder := by
    refine follows_free (by decide) (List.forall_mem_cons.mpr ⟨?_,?_⟩)
    · exact follows_ruled rfl (by simp) (by simp)
    · exact List.forall_mem_singleton.mpr follows_mark
  refine follows_free (by decide) (List.forall_mem_append.mpr ⟨each,fun e member => ?_⟩)
  rwa [List.eq_of_mem_replicate member]

theorem table_follows (t : Table) :
    Yields (fun found => ∀ x ∈ found.toList, x.Follows bodyOrder) (table t) := by
  rw [table_eq]
  dsimp only
  split
  · exact .pure (by simp)
  · refine (Yields.any _).bind fun _ _ => ?_
    refine (Yields.mapM fun r _ => row_follows _ r).bind fun rows each => .pure ?_
    refine List.forall_mem_singleton.mpr (follows_free (by decide) ?_)
    refine List.forall_mem_cons.mpr ⟨?_,List.forall_mem_cons.mpr ⟨?_,each⟩⟩
    · exact follows_free (by decide) (by simp [tableLook])
    · refine follows_free (by decide) fun e member => ?_
      rw [List.eq_of_mem_replicate member]
      exact follows_leaf _

theorem block_follows (b : Block) : Yields (∀ x ∈ ·, x.Follows bodyOrder) (block b) := by
  cases b with
  | paragraph p =>
    exact (paragraph_follows p).bind fun x follows => .pure (List.forall_mem_singleton.mpr follows)
  | table t => exact (table_follows t).bind fun found follow => .pure follow

end Build

theorem NumberingLevel.toXml_follows (l : NumberingLevel) : l.toXml.Follows bodyOrder := by
  refine follows_ruled rfl (List.Sublist.refl _) ?_
  simp only [List.forall_mem_cons]
  have indented : ["w:ind"].Sublist paragraphOrder := by decide
  have shown : ["w:rFonts","w:color"].Sublist textOrder := by decide
  refine ⟨follows_value _,follows_value _,follows_value _,follows_value _,?_,?_,by simp⟩
  · exact follows_ruled rfl indented (by simp)
  · exact follows_ruled rfl shown (by simp)

theorem NumberingDefinition.toXml_follows (id : Nat) (d : NumberingDefinition) :
    (NumberingEntry.family id d.content).toXml.Follows bodyOrder := by
  refine follows_free (by decide) (List.forall_mem_cons.mpr ⟨follows_value _,fun e member => ?_⟩)
  obtain ⟨l,_,rfl⟩ := List.mem_map.mp member
  exact l.toXml_follows

theorem NumberingInstance.toXml_follows (id : Nat) (n : NumberingInstance) :
    (n.toXml id).Follows bodyOrder := by
  refine follows_free (by decide) (List.forall_mem_cons.mpr ⟨follows_value _,?_⟩)
  exact forall_option _ fun _ => follows_free (by decide) (by simp)

/-- Properties that a style may have, when they are in order. -/
theorem properties_follow {sequence names : List String} {own : String}
    {item : Option (List XmlElement)} (ruled : styleOrder.filter (·.1 = own) = [(own,names)])
    (short : sequence.filter (names.contains ·) = names)
    (sorted : ∀ es ∈ item, Ordered sequence es ∧ ∀ e ∈ es, e.IsBare names) :
    ∀ e ∈ (item.map (parent own)).toList, e.Follows styleOrder := by
  cases item with
  | none => simp
  | some es =>
    obtain ⟨ordered,bare⟩ := sorted es rfl
    refine List.forall_mem_singleton.mpr (follows_ruled ruled ?_ fun e member => ?_)
    · exact short ▸ ordered.of_names fun e member => (bare e member).2
    · exact follows_of_empty (bare e member).1

/-- A style whose properties are in order is written in order. -/
theorem StyleEntry.Sorted.toXml_follows {s : StyleEntry} (sorted : s.Sorted) :
    s.toXml.Follows styleOrder := by
  have text : ∀ e ∈ (s.text.map (parent "w:rPr")).toList, e.Follows styleOrder :=
    properties_follow rfl (by decide) sorted.text
  have properties : ∀ e ∈ (s.paragraph.map (parent "w:pPr")).toList, e.Follows styleOrder :=
    properties_follow rfl (by decide) sorted.paragraph
  have mark (asked : Bool) (own : String) : ∀ e ∈ (if asked then [XmlElement.mark own] else []),
      e.Follows styleOrder := forall_ite (by simp)
  refine follows_free (by decide) ?_
  simp only [List.forall_mem_append]
  exact ⟨⟨⟨⟨⟨⟨⟨⟨⟨⟨by simp,follows_leaves _ _⟩,follows_leaves _ _⟩,follows_leaves _ _⟩,
    follows_leaves _ _⟩,mark _ _⟩,mark _ _⟩,mark _ _⟩,follows_leaves _ _⟩,properties⟩,text⟩

/-- All that is written keeps to the order, whatever a document sets and leaves out: its body and its
numberings, with nothing but what has a place there, and its styles. -/
theorem encode_childOrder {m : DocumentModel} {p : Package} (encoded : (encode m).result = .ok p) :
    (∀ e ∈ p.body ++ p.families ++ p.counters, e.Follows bodyOrder) ∧
      ∀ e ∈ p.styles, e.Follows styleOrder := by
  have body := Build.encoded_body_forall Build.block_follows encoded
  obtain ⟨sheet,_,sorted,styles⟩ := Build.encoded_styles encoded
  rw [Build.encodeFrom_families encoded,Build.encodeFrom_counters encoded,styles]
  simp only [List.forall_mem_append]
  refine ⟨⟨⟨body,fun e member => ?_⟩,fun e member => ?_⟩,fun e member => ?_⟩
  · obtain ⟨i,_,rfl⟩ := List.mem_mapIdx.mp member
    exact NumberingDefinition.toXml_follows _ _
  · obtain ⟨i,_,rfl⟩ := List.mem_mapIdx.mp member
    exact NumberingInstance.toXml_follows _ _
  · obtain ⟨s,there,rfl⟩ := List.mem_map.mp member
    exact (sorted s there).toXml_follows

def fullBorders : Borders := .box { color := "112233" }

/-- A document that sets all that can be set. -/
def laidOutDocument : DocumentModel where
  numbering := [{
    reference := "n"
    levels := [⟨0,"bullet","-",720,360,"Arial","445566",1⟩] }]
  styles := [{
    id := "Heading1", name := "Heading 1", font := some "Arial", size := 16, color := "112233"
    bold := true, basedOn := some "Normal", nextStyle := some "Normal", spacing := some ⟨240,120⟩ }]
  blocks := [
    .paragraph {
      headingLevel := some 1, numbering := some ⟨"n",0,some 3⟩, borders := some fullBorders
      shading := some ⟨"EEEEEE"⟩, spacing := some ⟨10,20⟩, indent := some ⟨720,0,360⟩
      alignment := some .center
      children := [.link ⟨"u",[.run {
        text := "a", bold := true, italic := true, strike := true, underline := true
        font := "Arial", color := "112233", size := 11, shading := some ⟨"EEEEEE"⟩ }]⟩] },
    .table { rows := [{ cells := [{
      paragraphs := [{}], widthPercent := fullWidth, shading := some ⟨"EEEEEE"⟩
      borders := some fullBorders }] }] }]

theorem encode_laidOutDocument_childOrder :
    ∃ p, (encode laidOutDocument).result = .ok p ∧
      (∀ e ∈ p.body ++ p.families ++ p.counters, e.Follows bodyOrder) ∧
      ∀ e ∈ p.styles, e.Follows styleOrder := by
  obtain ⟨p,encoded⟩ := Build.encoded_of_isOk (m := laidOutDocument) (by decide +kernel)
  exact ⟨p,encoded,encode_childOrder encoded⟩

end DocPress
