import Mathlib.Data.List.Forall2
import DocPress.Document.Assembly
import DocPress.Proofs.Document.Content
import DocPress.Proofs.Package.Body
import DocPress.Proofs.Package.Styles

/-! Which texts of a file are shown bold: those that say so, and those that say nothing in a paragraph whose
style says so. A text that is not bold says nothing. Main statement: in the file of an assembled document
the bold texts are shown bold, and so are all texts of headings (`assembled_showsBold`). -/

namespace DocPress

open XmlElement

/-! ### Reading flags -/

namespace XmlElement

/-- Does a flag set what it is about? A zero takes it away. -/
def isSet (flag : XmlElement) : Bool := flag.attr? "w:val" ≠ some "0"

/-- What the properties of a text say of its being bold. -/
def bold? (e : XmlElement) : Option Bool :=
  ((e.child? "w:rPr").bind (·.child? "w:b")).map isSet

end XmlElement

theorem setFlag_isSet (set : Bool) (e : XmlElement) : (setFlag set e).isSet = set := by
  cases set with
  | true => simp [setFlag,isSet,dropAttrs_attr? (List.mem_singleton_self "w:val") e]
  | false => simp [setFlag,isSet]

/-- The style of a paragraph: the one that it names, or the one that all others go back to. -/
def XmlElement.styleName (paragraph : XmlElement) : String :=
  ((paragraph.child? "w:pPr").bind (·.childValue? "w:pStyle")).getD "Normal"

/-- What a style says of texts being bold. -/
def Package.styleBold? (p : Package) (id : String) : Option Bool :=
  (p.styles.find? (·.attr? "w:styleId" = some id)).bind XmlElement.bold?

/-- Is a text shown bold? What it says itself comes before what the style of its paragraph says. -/
def Package.showsBold (p : Package) (paragraph text : XmlElement) : Bool :=
  (text.bold?.or (p.styleBold? paragraph.styleName)).getD false

/-! ### Styles -/

theorem StyleEntry.toXml_id (s : StyleEntry) : s.toXml.attr? "w:styleId" = some s.id := by
  unfold StyleEntry.toXml
  cases s.isDefault <;> cases s.isCustom <;> rfl

theorem child?_append {own tag text : String} {attrs : List (String × String)}
    {front back : List XmlElement} (other : ∀ e ∈ front, e.name ≠ tag) :
    (mk own attrs text (front ++ back)).child? tag = back.find? (·.name = tag) := by
  have none : front.find? (·.name = tag) = none :=
    List.find?_eq_none.mpr fun e member => by simpa using other e member
  rw [child?,children_mk,List.find?_append,none,Option.none_or]

theorem StyleEntry.toXml_text (s : StyleEntry) :
    s.toXml.child? "w:rPr" = s.text.map (parent "w:rPr") := by
  have leaf {α : Type} (item : Option α) {own : String} (attrs : α → List (String × String))
      (other : own ≠ "w:rPr") :
      ∀ e ∈ (item.map fun a => leaf own (attrs a)).toList, e.name ≠ "w:rPr" :=
    forall_option item fun _ => other
  have mark (asked : Bool) {own : String} (other : own ≠ "w:rPr") :
      ∀ e ∈ (if asked then [XmlElement.mark own] else []), e.name ≠ "w:rPr" :=
    forall_ite (List.forall_mem_singleton.mpr other)
  have properties : ∀ e ∈ (s.paragraph.map (parent "w:pPr")).toList, e.name ≠ "w:rPr" :=
    forall_option _ fun _ => show "w:pPr" ≠ "w:rPr" from by decide
  rw [StyleEntry.toXml,child?_append]
  · cases s.text <;> rfl
  · simp only [List.forall_mem_append]
    exact ⟨⟨⟨⟨⟨⟨⟨⟨⟨by simp,leaf _ _ (by decide)⟩,leaf _ _ (by decide)⟩,leaf _ _ (by decide)⟩,
      leaf _ _ (by decide)⟩,mark _ (by decide)⟩,mark _ (by decide)⟩,mark _ (by decide)⟩,
      leaf _ _ (by decide)⟩,properties⟩

/-- What the text properties of a style say of texts being bold. -/
def StyleEntry.bold? (s : StyleEntry) : Option Bool :=
  (s.text.bind (·.find? (·.name = "w:b"))).map isSet

theorem StyleEntry.toXml_bold (s : StyleEntry) : s.toXml.bold? = s.bold? := by
  rw [XmlElement.bold?,StyleEntry.toXml_text,StyleEntry.bold?]
  cases s.text <;> rfl

namespace StyleSheet

variable {sheet : StyleSheet}

/-- What the styles of a sheet say of texts being bold, by their identifiers. -/
def bolds (sheet : StyleSheet) : List (String × Option Bool) :=
  sheet.entries.map fun e => (e.id,e.bold?)

theorem bolds_lookup (id : String) :
    ((sheet.entries.map StyleEntry.toXml).find? (·.attr? "w:styleId" = some id)).bind bold? =
      (sheet.bolds.lookup id).join := by
  unfold bolds
  induction sheet.entries with
  | nil => rfl
  | cons e entries ih =>
    rw [List.map_cons,List.map_cons,List.find?_cons,List.lookup_cons,StyleEntry.toXml_id]
    by_cases same : e.id = id
    · simp [same,e.toXml_bold]
    · have other : (id == e.id) = false := beq_false_of_ne (Ne.symm same)
      simp only [Option.some_inj,same,decide_false,other]
      exact ih

/-- A style that is changed says of texts being bold what it is told. -/
theorem update_bold {entry : StyleEntry} (sorted : entry.Sorted) (v : StyleValues) (bold : Bool) :
    (update entry v bold).bold? = some bold := by
  have before : Ordered textSequence (entry.text.getD []) := by
    cases own : entry.text with
    | none => exact .nil
    | some es => exact (sorted.text es own).1
  have flag : (ChildStep.applyAll (v.textSteps bold) (entry.text.getD [])).find? (·.name = "w:b") =
      some (setFlag bold (((entry.text.getD []).find? (·.name = "w:b")).getD (.mark "w:b"))) := by
    rw [(ChildStep.applyAll_ordered textSequence_nodup before
      (.of_gentle (textSteps_gentle v bold))).2]
    cases font : v.font <;> simp [StyleValues.textSteps,font,fontSteps]
  rw [StyleEntry.bold?,update,Option.bind_some,flag,Option.map_some,setFlag_isSet]

/-- The name on screen under which a style of a model is looked for. -/
def sought (style : ParagraphStyle) : String := (shownName? style.id).getD style.name

/-- A style goes to its place, and there it says whether texts are bold. -/
theorem apply_bolds {next : StyleSheet} {style : ParagraphStyle} {index : Nat}
    (labelled : sheet.IsLabelled) (sorted : ∀ e ∈ sheet.entries, e.Sorted)
    (known : sought style ∈ shownNames) (place : place? (sought style) = some index)
    (applied : sheet.apply style = .ok next) :
    next.IsLabelled ∧ next.bolds = sheet.bolds.modify index fun e => (e.1,some style.bold) := by
  obtain ⟨id,own,same,found⟩ := get_place labelled known
  obtain rfl : index = own := Option.some_inj.mp (place.symm.trans same)
  obtain ⟨found?,there,applied⟩ := bind_ok applied
  obtain rfl := Except.ok.inj (found.symm.trans there)
  obtain ⟨v,_,changed⟩ := bind_ok applied
  obtain rfl := Except.ok.inj changed
  refine ⟨update_labels.trans labelled,List.ext_getElem? fun i => ?_⟩
  simp only [bolds,List.getElem?_map,List.getElem?_modify]
  cases there : sheet.entries[i]? with
  | none => rfl
  | some e =>
    split
    · have bold := update_bold (sorted e (List.mem_of_getElem? there)) v style.bold
      exact congrArg (fun flag => some (e.id,flag)) bold
    · rfl

/-- Styles by their names on screen, one after the other, say whether texts are bold. -/
def mark (bolds : List (String × Option Bool)) (style : String × Bool) :
    List (String × Option Bool) :=
  bolds.modify ((place? style.1).getD 0) fun e => (e.1,some style.2)

theorem foldlM_bolds {styles : List ParagraphStyle} {final : StyleSheet}
    (labelled : sheet.IsLabelled) (sorted : ∀ e ∈ sheet.entries, e.Sorted)
    (known : ∀ s ∈ styles, sought s ∈ shownNames)
    (folded : styles.foldlM apply sheet = .ok final) :
    final.bolds = (styles.map fun s => (sought s,s.bold)).foldl mark sheet.bolds := by
  induction styles generalizing sheet with
  | nil => rw [Except.ok.inj folded]; rfl
  | cons s styles ih =>
    obtain ⟨first,rest⟩ := List.forall_mem_cons.mp known
    obtain ⟨id,index,place,_⟩ := get_place labelled first
    rw [List.foldlM_cons] at folded
    cases applied : sheet.apply s with
    | error fault =>
      rw [applied] at folded
      cases folded
    | ok next =>
      rw [applied] at folded
      obtain ⟨kept,marked⟩ := apply_bolds labelled sorted first place applied
      rw [ih kept (apply_sorted sorted applied) rest folded,marked,List.map_cons,List.foldl_cons,mark,place,
        Option.getD_some]

theorem buildStyles_sought (c : StyleConfig) :
    (buildStyles c).map (fun s => (sought s,s.bold)) =
      [("Normal",false),("Heading 1",true),("Heading 2",true),("Heading 3",true),("Heading 4",true),
        ("Heading 5",true),("Heading 6",true)] := by
  rfl

end StyleSheet

namespace Build

variable {blocks : List Block} {c : StyleConfig} {title : String} {p : Package}

theorem assembled_bold (encoded : (encode (assemble blocks c title)).result = .ok p) (id : String) :
    p.styleBold? id = (List.lookup id [("Normal",some false),("Heading1",some true),
      ("Heading2",some true),("Heading3",some true),("Heading4",some true),("Heading5",some true),
      ("Heading6",some true)]).join := by
  obtain ⟨sheet,folded,_,styles⟩ := encoded_styles encoded
  have known : ∀ s ∈ buildStyles c, StyleSheet.sought s ∈ StyleSheet.shownNames := by
    have names : ∀ style ∈ (buildStyles c).map fun s => (StyleSheet.sought s,s.bold),
        style.1 ∈ StyleSheet.shownNames := by
      rw [StyleSheet.buildStyles_sought]
      decide
    exact fun s member => names _ (List.mem_map_of_mem member)
  rw [Package.styleBold?,styles,StyleSheet.bolds_lookup,
    StyleSheet.foldlM_bolds rfl StyleSheet.template_sorted known folded,
    StyleSheet.buildStyles_sought]
  congr 2

end Build

/-! ### Texts -/

/-- Is it a bold text? -/
def InlineLeaf.isBold : InlineLeaf → Bool
  | .run r => r.bold
  | .image _ => false

/-- What stands in the line of a paragraph, within links and outside. -/
def Paragraph.leaves (q : Paragraph) : List InlineLeaf := q.children.flatMap Inline.leaves

namespace XmlElement

/-- The element says of a bold text that it is bold, and nothing of anything else. -/
def Marks (e : XmlElement) (leaf : InlineLeaf) : Prop :=
  e.bold? = if leaf.isBold then some true else none

end XmlElement

theorem Run.properties_bold (r : Run) :
    Gives (fun p => p.bold = if r.bold then some true else none) r.properties := by
  unfold Run.properties
  exact Gives.ifAsked fun _ => Gives.ifAsked fun _ => Gives.ifAsked fun _ => .bind fun _ => .pure rfl

namespace Build

theorem run_marks (r : Run) :
    Yields (fun x => x.named "w:r" = [x] ∧ x.Marks (.run r)) (run r) := by
  refine .check fun x written => ?_
  obtain ⟨_,properties,worked,rfl⟩ := Run.toXml_ok.mp written
  have plain : properties.toXml.named "w:r" = [] := properties.toXml_lacks (by decide)
  have pieces : allNamed "w:r" (textXml [] r.text.toList) = [] := textXml_lacks _ _ (by decide)
  refine ⟨by simp [plain,pieces],?_⟩
  have first : (parent "w:r" (properties.toXml :: textXml [] r.text.toList)).child? "w:rPr" =
      some properties.toXml := rfl
  rw [Marks,bold?,first,Option.bind_some,properties.toXml_bold,r.properties_bold _ worked]
  change _ = if r.bold then _ else _
  cases r.bold <;> rfl

theorem picture_marks (i : ImageRun) :
    Yields (fun found => found.1.named "w:r" = [found.1] ∧ found.1.Marks (.image i)) (picture i) := by
  refine picture_yields (fun x => x.named "w:r" = [x] ∧ x.Marks (.image i))
    (fun _ _ => run_marks i.placeholder) fun _ _ id name relation width height => ?_
  have drawing : (pictureXml id name relation width height).named "w:r" = [] :=
    pictureXml_lacks _ _ _ _ _ (by decide)
  exact ⟨by simp [drawing],rfl⟩

theorem leaves_mark (leaves : List InlineLeaf) :
    Yields (fun found => List.Forall₂ Marks (allNamed "w:r" found.1) leaves)
      (Build.leaves leaves) := by
  rintro start ⟨xs,last⟩ final ran
  have matched : List.Forall₂ (fun x leaf => x.named "w:r" = [x] ∧ x.Marks leaf) xs leaves :=
    leaves_match _ run_marks picture_marks leaves ran
  change List.Forall₂ Marks (allNamed "w:r" xs) leaves
  clear ran
  induction matched with
  | nil => simp
  | cons first _ ih =>
    rw [allNamed_cons,first.1]
    exact .cons first.2 ih

theorem inline_marks (i : Inline) :
    Yields (fun x => List.Forall₂ Marks (x.named "w:r") i.leaves) (inline i) := by
  cases i with
  | run r =>
    refine fun _ _ _ ran => ?_
    obtain ⟨own,marks⟩ := run_marks r ran
    rw [own]
    exact .cons marks .nil
  | image i =>
    refine (picture_marks i).bind fun x ⟨own,marks⟩ => (Yields.any _).bind fun _ _ => .pure ?_
    rw [own]
    exact .cons marks .nil
  | link h =>
    refine (Yields.any _).bind fun _ _ => (leaves_mark _).bind fun found marks =>
      (Yields.any _).bind fun _ _ => .pure ?_
    simpa [Inline.leaves] using marks

/-! ### Paragraphs -/

theorem headingStyle_ok {level : Int} {name : String} (styled : headingStyle level = .ok name) :
    (1 ≤ level ∧ level ≤ 6) ∧ name = s!"Heading{level}" := by
  unfold headingStyle at styled
  split at styled
  · next within => exact ⟨within,(Except.ok.inj styled).symm⟩
  · cases styled

end Build

/-- The paragraphs among some elements, at any depth. One without properties only fills a cell. -/
def paragraphsIn (es : List XmlElement) : List XmlElement :=
  (allNamed "w:p" es).filter (·.has "w:pPr")

theorem paragraphsIn_append (es fs : List XmlElement) :
    paragraphsIn (es ++ fs) = paragraphsIn es ++ paragraphsIn fs := by
  simp [paragraphsIn]

theorem paragraphsIn_flatMap (es : List XmlElement) :
    es.flatMap (fun e => paragraphsIn [e]) = paragraphsIn es := by
  induction es with
  | nil => rfl
  | cons e es ih => rw [List.flatMap_cons,ih,← paragraphsIn_append,List.singleton_append]

/-- The element is written for the paragraph: it has the style of its heading level, and its texts are
marked as bold where they are. -/
structure Styled (x : XmlElement) (q : Paragraph) : Prop where
  style : x.styleName = (q.headingLevel.map fun level => s!"Heading{level}").getD "Normal"
  level : ∀ level ∈ q.headingLevel, 1 ≤ level ∧ level ≤ 6
  texts : List.Forall₂ Marks (x.named "w:r") q.leaves

namespace Build

theorem paragraphProperties_style (q : Paragraph) :
    Yields (fun properties => properties.style = (q.headingLevel.map fun level => s!"Heading{level}") ∧
      ∀ level ∈ q.headingLevel, 1 ≤ level ∧ level ≤ 6) (paragraphProperties q) := by
  intro start properties final ran
  simp only [paragraphProperties,bind_ok,pure_ok,option_check_ok] at ran
  obtain ⟨style,_,⟨styled,rfl⟩,_,_,_,_,_,⟨_,rfl⟩,_,_,⟨_,rfl⟩,_,_,⟨_,rfl⟩,_,_,⟨_,rfl⟩,rfl,rfl⟩ := ran
  cases level : q.headingLevel with
  | none =>
    rw [level,Option.mapM_none] at styled
    exact ⟨(Except.ok.inj styled).symm,by simp⟩
  | some asked =>
    rw [level,Option.mapM_some] at styled
    cases named : headingStyle asked with
    | error fault =>
      rw [named] at styled
      cases styled
    | ok name =>
      rw [named] at styled
      obtain ⟨within,rfl⟩ := headingStyle_ok named
      exact ⟨(Except.ok.inj styled).symm,by simpa using within⟩

theorem paragraph_styled (q : Paragraph) :
    Yields (fun x => List.Forall₂ Styled (paragraphsIn [x]) [q]) (paragraph q) := by
  intro start x final ran
  simp only [paragraph_eq,bind_ok,pure_ok] at ran
  obtain ⟨properties,_,front,children,_,line,rfl,rfl⟩ := ran
  obtain ⟨style,level⟩ := paragraphProperties_style q front
  have marks := Yields.matchAll (fun i _ => inline_marks i) line
  have text : allNamed "w:r" children = children.flatMap (named "w:r") := allNamed_eq children
  have none_within : allNamed "w:p" children = [] :=
    allNamed_eq_nil (Yields.mapM (fun i _ => inline_lacks i (by decide)) line)
  have properties_text : properties.toXml.named "w:r" = [] := properties.toXml_lacks (by decide)
  have properties_plain : properties.toXml.named "w:p" = [] := properties.toXml_lacks (by decide)
  have front : properties.toXml.name = "w:pPr" := rfl
  have whole : paragraphsIn [parent "w:p" (properties.toXml :: children)] =
      [parent "w:p" (properties.toXml :: children)] := by
    simp [paragraphsIn,has,none_within,properties_plain,front]
  rw [whole]
  refine .cons ⟨?_,level,?_⟩ .nil
  · rw [← style,← properties.toXml_style]
    rfl
  · simpa [properties_text,text,Paragraph.leaves] using marks

theorem Yields.paragraphs {α : Type} {asked : α → List Paragraph} {f : α → Build XmlElement}
    {items : List α}
    (each : ∀ a ∈ items, Yields (fun x => List.Forall₂ Styled (paragraphsIn [x]) (asked a)) (f a)) :
    Yields (fun es => List.Forall₂ Styled (paragraphsIn es) (items.flatMap asked)) (items.mapM f) := by
  intro start es final ran
  rw [← paragraphsIn_flatMap]
  exact Yields.matchAll each ran

theorem cell_styled (c : TableCell) :
    Yields (fun x => List.Forall₂ Styled (paragraphsIn [x]) c.paragraphs) (cell c) := by
  intro start x final ran
  simp only [cell,bind_ok,pure_ok,check_ok,option_check_ok] at ran
  obtain ⟨width,_,⟨_,rfl⟩,borders,_,⟨_,rfl⟩,shading,_,⟨_,rfl⟩,paragraphs,_,written,rfl,rfl⟩ := ran
  have matched := Yields.paragraphs (fun q _ => paragraph_styled q) written
  rw [List.flatMap_singleton'] at matched
  have border (b : Borders) : (b.toXml "w:tcBorders").named "w:p" = [] := b.toXml_lacks _ (by decide)
  have shade (s : Shading) : s.toXml.named "w:p" = [] := s.toXml_lacks (by decide)
  have content : paragraphsIn (if paragraphs.isEmpty then [emptyParagraph] else paragraphs) =
      paragraphsIn paragraphs := by
    cases paragraphs <;> rfl
  rw [← content] at matched
  simpa [paragraphsIn,allNamed_option,border,shade] using matched

theorem row_styled (columns : Nat) (r : TableRow) :
    Yields (fun x => List.Forall₂ Styled (paragraphsIn [x]) (r.cells.flatMap TableCell.paragraphs))
      (row columns r) := by
  refine (Yields.paragraphs fun c _ => cell_styled c).bind fun cells matched => .pure ?_
  have blank (missing : Nat) : paragraphsIn (List.replicate missing (blankCell columns)) = [] := by
    rw [paragraphsIn,List.filter_eq_nil_iff]
    intro e found
    obtain ⟨own,member,found⟩ := mem_allNamed.mp found
    rw [List.eq_of_mem_replicate member] at found
    have empty : e = emptyParagraph := by simpa [blankCell,emptyParagraph] using found
    rw [empty]
    decide
  have whole (missing : Nat) :
      paragraphsIn (cells ++ List.replicate missing (blankCell columns)) = paragraphsIn cells := by
    rw [paragraphsIn_append,blank,List.append_nil]
  rw [← whole (columns - r.cells.length)] at matched
  simpa [paragraphsIn] using matched

theorem table_styled (t : Table) :
    Yields (fun found => List.Forall₂ Styled (paragraphsIn found.toList) (Block.table t).paragraphs)
      (table t) := by
  rw [table_eq]
  dsimp only
  split
  · next empty =>
    refine .pure ?_
    have none : (Block.table t).paragraphs = [] := by
      refine List.flatMap_eq_nil_iff.mpr fun r member => ?_
      rw [cells_eq_nil empty member,List.flatMap_nil]
    rw [none]
    exact .nil
  · refine (Yields.any _).bind fun _ _ => ?_
    refine (Yields.paragraphs fun r _ => row_styled _ r).bind fun rows matched => .pure ?_
    have grid (columns : Nat) (attrs : List (String × String)) :
        allNamed "w:p" (List.replicate columns (.leaf "w:gridCol" attrs)) = [] := by
      refine allNamed_eq_nil fun e member => ?_
      rw [List.eq_of_mem_replicate member]
      simp
    simpa [paragraphsIn,grid,tableLook,Block.paragraphs] using matched

theorem block_styled (b : Block) :
    Yields (fun es => List.Forall₂ Styled (paragraphsIn es) b.paragraphs) (block b) := by
  cases b with
  | paragraph q => exact (paragraph_styled q).bind fun x styled => .pure styled
  | table t => exact (table_styled t).bind fun found styled => .pure styled

theorem encoded_styled {m : DocumentModel} {p : Package} (encoded : (encode m).result = .ok p) :
    List.Forall₂ Styled (paragraphsIn p.body) (m.blocks.flatMap Block.paragraphs) := by
  obtain ⟨ess,matched,body⟩ := encoded_body block_styled encoded
  rw [body]
  clear body
  generalize m.blocks = blocks at matched ⊢
  induction matched with
  | nil => exact .nil
  | cons first _ ih =>
    rw [List.flatten_cons,paragraphsIn_append]
    exact List.rel_append first ih

end Build

/-- The texts of an assembled document are shown bold where they are marked as bold, and everywhere in
headings. -/
theorem assembled_showsBold {blocks : List Block} {c : StyleConfig} {title : String} {p : Package}
    (encoded : (encode (assemble blocks c title)).result = .ok p) :
    List.Forall₂ (fun x q => List.Forall₂
        (fun y leaf => p.showsBold x y = (leaf.isBold || q.headingLevel.isSome)) (x.named "w:r") q.leaves)
      (paragraphsIn p.body) (blocks.flatMap Block.paragraphs) := by
  refine (Build.encoded_styled encoded).imp fun x q styled => ?_
  have style : p.styleBold? x.styleName = some q.headingLevel.isSome := by
    rw [styled.style,Build.assembled_bold encoded]
    cases heading : q.headingLevel with
    | none => rfl
    | some level =>
      have within := styled.level level heading
      obtain rfl | rfl | rfl | rfl | rfl | rfl : level = 1 ∨ level = 2 ∨ level = 3 ∨ level = 4 ∨
        level = 5 ∨ level = 6 := by omega
      all_goals rfl
  refine styled.texts.imp fun y leaf marks => ?_
  rw [Package.showsBold,style,marks]
  cases leaf.isBold <;> rfl

end DocPress
