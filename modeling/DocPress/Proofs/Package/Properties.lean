import DocPress.Proofs.Package.Element
import DocPress.Proofs.Xml.Children

/-! The properties of texts and of paragraphs once all steps are taken that put them in. Each step stands
where the format has its place, so the properties are in order, none of them twice; and what stands in
them is what was asked for. -/

namespace DocPress

open XmlElement ChildStep

/-- An element of one of the names with nothing in it. -/
def XmlElement.IsBare (names : List String) (e : XmlElement) : Prop :=
  e.children = [] ∧ e.name ∈ names

theorem textSequence_nodup : textSequence.Nodup := by decide

theorem paragraphSequence_nodup : paragraphSequence.Nodup := by decide

/-! ### Steps -/

namespace ChildStep

variable {order successors : List String} {own : String}

theorem edit_gentle {change : XmlElement → XmlElement} (place : (own :: successors) <:+ order)
    (kept : ∀ e, (change e).name = e.name) : (edit own successors change).Gentle order :=
  ⟨⟨place,kept⟩,rfl⟩

theorem replace_gentle {child : XmlElement} (place : (child.name :: successors) <:+ order) :
    (replace child successors).Gentle order := ⟨place,rfl⟩

theorem remove_gentle : (remove own).Gentle order := ⟨trivial,rfl⟩

theorem forall_toList {α : Type} {holds : ChildStep → Prop} (item : Option α) {toStep : α → ChildStep}
    (each : ∀ a, holds (toStep a)) : ∀ step ∈ (item.map toStep).toList, holds step := by
  cases item <;> simp [each]

theorem forall_flatMap {α : Type} {holds : ChildStep → Prop} (items : List α)
    {toSteps : α → List ChildStep} (each : ∀ a, ∀ step ∈ toSteps a, holds step) :
    ∀ step ∈ items.flatMap toSteps, holds step := by
  intro step member
  obtain ⟨a,_,inside⟩ := List.mem_flatMap.mp member
  exact each a step inside

end ChildStep

/-- Setting attributes leaves an element bare. -/
theorem edit_preserves_bare {names successors : List String} {own : String} (known : own ∈ names)
    {change : XmlElement → XmlElement} (name : ∀ e, (change e).name = e.name)
    (children : ∀ e, (change e).children = e.children) :
    (ChildStep.edit own successors change).Preserves (IsBare names) := by
  refine ⟨⟨(children _).trans rfl,by rwa [name]⟩,fun e _ bare => ?_⟩
  unfold IsBare
  rwa [name,children]

theorem setFlag_name (flag : Bool) (e : XmlElement) : (setFlag flag e).name = e.name := by
  cases flag <;> simp [setFlag]

theorem setFlag_children (flag : Bool) (e : XmlElement) : (setFlag flag e).children = e.children := by
  cases flag <;> simp [setFlag]

@[simp] theorem setFlag_mark (own : String) : setFlag true (mark own) = mark own := rfl

@[simp] theorem flagStep_name (own : String) (successors : List String) (flag : Option Bool) :
    (flagStep own successors flag).name = own := by cases flag <;> rfl

@[simp] theorem made_spacing {tag : String} (other : ¬ "w:spacing" = tag) (spacing : Option Spacing)
    (found : Option XmlElement) : made tag (spacing.toList.flatMap Spacing.steps) found = found :=
  made_flatMap_of_other fun _ => by simp [Spacing.steps,other]

@[simp] theorem made_indent {tag : String} (other : ¬ "w:ind" = tag) (indent : Option Indent)
    (found : Option XmlElement) : made tag (indent.toList.flatMap Indent.steps) found = found := by
  refine made_flatMap_of_other fun i => ?_
  simp only [Indent.steps,List.forall_mem_append,List.forall_mem_singleton]
  exact ⟨⟨other,by split <;> simp [other]⟩,by split <;> simp [other]⟩

@[simp] theorem Borders.toXml_name (own : String) (b : Borders) : (b.toXml own).name = own := rfl

@[simp] theorem flagStep_act (own : String) (successors : List String) (flag : Option Bool)
    (found : Option XmlElement) : (flagStep own successors flag).act found =
      flag.map fun set => setFlag set (found.getD (mark own)) := by cases flag <;> rfl

@[simp] theorem made_fonts {tag : String} (other : ¬ "w:rFonts" = tag) (font : Option String)
    (found : Option XmlElement) : made tag (font.toList.flatMap fontSteps) found = found :=
  made_flatMap_of_other fun _ => by simp [fontSteps,other]

@[simp] theorem sizeStep_name (halfPoints : Int) : (sizeStep halfPoints).name = "w:sz" := rfl

@[simp] theorem colorStep_name (color : String) : (colorStep color).name = "w:color" := rfl

@[simp] theorem underlineStep_act (underline : Bool) (found : Option XmlElement) :
    (underlineStep underline).act found = if underline then some (.value "w:u" "single") else none := by
  cases underline <;> rfl

@[simp] theorem Shading.toXml_name (s : Shading) : s.toXml.name = "w:shd" := rfl

@[simp] theorem underlineStep_name (underline : Bool) : (underlineStep underline).name = "w:u" := by
  cases underline <;> rfl

theorem flagStep_gentle {order successors : List String} {own : String}
    (place : (own :: successors) <:+ order) (flag : Option Bool) :
    (flagStep own successors flag).Gentle order := by
  cases flag with
  | none => exact remove_gentle
  | some flag => exact edit_gentle place (setFlag_name flag)

theorem underlineStep_gentle (underline : Bool) : (underlineStep underline).Gentle textSequence := by
  cases underline with
  | true => exact replace_gentle (by decide)
  | false => exact remove_gentle

theorem fontSteps_gentle (font : String) : ∀ step ∈ fontSteps font, step.Gentle textSequence := by
  simp only [fontSteps,List.forall_mem_cons]
  exact ⟨edit_gentle (by decide) (by simp),edit_gentle (by decide) (by simp),by simp⟩

theorem sizeStep_gentle (halfPoints : Int) : (sizeStep halfPoints).Gentle textSequence :=
  edit_gentle (by decide) (by simp)

theorem colorStep_gentle (color : String) : (colorStep color).Gentle textSequence :=
  replace_gentle (show ("w:color" :: textSequence.drop 19) <:+ textSequence by decide)

theorem Spacing.steps_gentle (s : Spacing) : ∀ step ∈ s.steps, step.Gentle paragraphSequence := by
  simp only [steps,List.forall_mem_cons]
  exact ⟨edit_gentle (by decide) (by simp),edit_gentle (by decide) (by simp),by simp⟩

theorem setHanging_name (distance : Int) (e : XmlElement) : (setHanging distance e).name = e.name := by
  unfold setHanging
  split <;> simp

theorem setHanging_children (distance : Int) (e : XmlElement) :
    (setHanging distance e).children = e.children := by
  unfold setHanging
  split <;> simp

theorem Indent.steps_gentle (i : Indent) : ∀ step ∈ i.steps, step.Gentle paragraphSequence := by
  have place : ("w:ind" :: paragraphSequence.drop 23) <:+ paragraphSequence := by decide
  simp only [steps,List.forall_mem_append,List.forall_mem_singleton]
  refine ⟨⟨edit_gentle place (by simp),?_⟩,?_⟩
  · split
    · simp
    · exact List.forall_mem_singleton.mpr (edit_gentle place (by simp))
  · split
    · simp
    · exact List.forall_mem_singleton.mpr (edit_gentle place (setHanging_name _))

/-! ### Texts -/

namespace TextProperties

/-- The background is put behind everything else; no other step could be in its way. -/
theorem steps_orderly (p : TextProperties) : Orderly textSequence p.steps [] := by
  refine Orderly.append_option p.shading ["w:b","w:i","w:u","w:strike","w:rFonts","w:sz","w:color"]
    (Orderly.of_gentle ?_) ?_ (fun _ => show "w:shd" ∈ textSequence by decide) fun _ => ?_
  · simp only [List.forall_mem_append,List.forall_mem_cons]
    refine ⟨⟨⟨⟨⟨flagStep_gentle (by decide) _,flagStep_gentle (by decide) _,
      underlineStep_gentle _,by simp⟩,?_⟩,forall_flatMap _ fontSteps_gentle⟩,
      forall_toList _ sizeStep_gentle⟩,forall_toList _ colorStep_gentle⟩
    split
    · exact List.forall_mem_singleton.mpr (flagStep_gentle (by decide) _)
    · simp
  · simp only [List.forall_mem_append,List.forall_mem_cons]
    refine ⟨⟨⟨⟨⟨by simp,by simp,by simp,by simp⟩,?_⟩,forall_flatMap _ fun _ => ?_⟩,
      forall_toList _ fun _ => ?_⟩,forall_toList _ fun _ => ?_⟩
    · split <;> simp
    · simp [fontSteps,ChildStep.name]
    · simp [sizeStep,ChildStep.name]
    · simp [colorStep,ChildStep.name]
  · change ∀ n ∈ textSequence.dropWhile (· ≠ "w:shd"), _
    decide

theorem toXml_ordered (p : TextProperties) : Ordered textSequence p.toXml.children :=
  (applyAll_ordered textSequence_nodup .nil p.steps_orderly).1

theorem toXml_child? (p : TextProperties) (tag : String) :
    p.toXml.child? tag = made tag p.steps none :=
  (applyAll_ordered textSequence_nodup .nil p.steps_orderly).2 tag

/-- Only these stand in the properties of a text, and nothing in them. -/
theorem toXml_children (p : TextProperties) : ∀ e ∈ p.toXml.children, e.IsBare textOrder := by
  have flag {own : String} (known : own ∈ textOrder) {successors : List String} (set : Option Bool) :
      (flagStep own successors set).Preserves (IsBare textOrder) := by
    cases set with
    | none => trivial
    | some set => exact edit_preserves_bare known (setFlag_name set) (setFlag_children set)
  have set {own : String} (known : own ∈ textOrder) {successors : List String} {name value : String} :
      (ChildStep.edit own successors (setAttr name value)).Preserves (IsBare textOrder) :=
    edit_preserves_bare known (by simp) (by simp)
  refine applyAll_forall (by simp) ?_
  simp only [steps,List.forall_mem_append,List.forall_mem_cons]
  refine ⟨⟨⟨⟨⟨⟨flag (by decide) _,flag (by decide) _,?_,by simp⟩,?_⟩,forall_flatMap _ fun _ => ?_⟩,
    forall_toList _ fun _ => set (by decide)⟩,forall_toList _ fun _ => ?_⟩,forall_toList _ fun _ => ?_⟩
  · cases p.underline with
    | true => exact ⟨rfl,show "w:u" ∈ textOrder by decide⟩
    | false => trivial
  · split
    · exact List.forall_mem_singleton.mpr (flag (by decide) _)
    · simp
  · simp only [fontSteps,List.forall_mem_cons]
    exact ⟨set (by decide),set (by decide),by simp⟩
  · exact ⟨rfl,show "w:color" ∈ textOrder by decide⟩
  · exact ⟨rfl,show "w:shd" ∈ textOrder by decide⟩

/-- The properties of a text are in order, none of them twice. -/
theorem toXml_sorted (p : TextProperties) : Ordered textOrder p.toXml.children := by
  have short : textSequence.filter (textOrder.contains ·) = textOrder := by decide
  exact short ▸ p.toXml_ordered.of_names fun e member => (p.toXml_children e member).2

theorem toXml_lacks (p : TextProperties) {tag : String} (other : ∀ own ∈ textNames, own ≠ tag) :
    p.toXml.named tag = [] := by
  obtain ⟨own,other⟩ := List.forall_mem_cons.mp other
  have inside : allNamed tag p.toXml.children = [] := by
    refine allNamed_eq_nil fun e member => ?_
    obtain ⟨empty,known⟩ := p.toXml_children e member
    exact named_eq_nil.mpr ⟨other _ known,by rw [empty]; rfl⟩
  exact named_eq_nil.mpr ⟨own,inside⟩

/-! What is found of flags -/

theorem toXml_bold (p : TextProperties) :
    p.toXml.child? "w:b" = p.bold.map fun set => setFlag set (mark "w:b") := by
  rw [toXml_child?]
  simp [steps]

theorem toXml_italic (p : TextProperties) :
    p.toXml.child? "w:i" = p.italic.map fun set => setFlag set (mark "w:i") := by
  rw [toXml_child?]
  simp [steps]

theorem toXml_strike (p : TextProperties) :
    p.toXml.child? "w:strike" = if p.strike then some (mark "w:strike") else none := by
  rw [toXml_child?]
  simp [steps]

theorem toXml_underline (p : TextProperties) :
    p.toXml.child? "w:u" = if p.underline then some (.value "w:u" "single") else none := by
  rw [toXml_child?]
  simp [steps]

end TextProperties

/-! ### Paragraphs -/

/-- The element of a paragraph's place in a numbering. -/
def numberingXml (level : Int) (id : Nat) : XmlElement :=
  .parent "w:numPr" [.value "w:ilvl" (toString level),.value "w:numId" (toString id)]

namespace ParagraphProperties

/-- Borders and background are put in front of what may follow them, and so is all else, which is changed
where it is there already. -/
theorem steps_orderly (p : ParagraphProperties) : Orderly paragraphSequence p.steps [] := by
  have edited {own : String} {successors : List String} {change : XmlElement → XmlElement}
      (name : ∀ e, (change e).name = e.name)
      (place : (own :: successors) <:+ paragraphSequence := by decide) :
      (ChildStep.edit own successors change).Gentle paragraphSequence := edit_gentle place name
  unfold steps
  refine Orderly.append_gentle ?_ (forall_toList _ fun _ => edited (by simp))
  refine Orderly.append_gentle ?_ (forall_flatMap _ Indent.steps_gentle)
  refine Orderly.append_gentle ?_ (forall_flatMap _ Spacing.steps_gentle)
  refine Orderly.append_option p.shading ["w:pStyle","w:numPr","w:pBdr"] ?_ ?_
    (fun _ => show ("w:shd" :: afterShading) <:+ paragraphSequence by decide) fun _ => ?_
  · refine Orderly.append_option _ ["w:pStyle","w:numPr"] (.of_gentle ?_) ?_
      (fun _ => show ("w:pBdr" :: afterBorders) <:+ paragraphSequence by decide) fun _ => ?_
    · exact List.forall_mem_append.mpr ⟨forall_toList _ fun _ => edited (by simp),
        forall_toList _ fun _ => edited (by simp)⟩
    · exact List.forall_mem_append.mpr ⟨forall_toList _ fun _ => by simp,
        forall_toList _ fun _ => by simp⟩
    · simp [clear,Borders.toXml]
  · simp only [List.forall_mem_append]
    exact ⟨⟨forall_toList _ fun _ => by simp,forall_toList _ fun _ => by simp⟩,
      forall_toList _ fun _ => by simp [Borders.toXml]⟩
  · simp [clear]

theorem toXml_ordered (p : ParagraphProperties) : Ordered paragraphSequence p.toXml.children :=
  (applyAll_ordered paragraphSequence_nodup .nil p.steps_orderly).1

theorem toXml_child? (p : ParagraphProperties) (tag : String) :
    p.toXml.child? tag = made tag p.steps none :=
  (applyAll_ordered paragraphSequence_nodup .nil p.steps_orderly).2 tag

/-- Only these stand in the properties of a paragraph. -/
def IsPart (e : XmlElement) : Prop :=
  e.IsBare ["w:pStyle","w:shd","w:spacing","w:ind","w:jc"] ∨
    (∃ level id, e = numberingXml level id) ∨ ∃ b : Borders, e = b.toXml "w:pBdr"

theorem numbering_mark (level : Int) (id : Nat) :
    (mark "w:numPr").setChildren (applyAll (numberingSteps level id)) = numberingXml level id := by
  rfl

theorem numbering_again (level other : Int) (id before : Nat) :
    (numberingXml other before).setChildren (applyAll (numberingSteps level id)) = numberingXml level id := by
  rfl

theorem toXml_children (p : ParagraphProperties) : ∀ e ∈ p.toXml.children, IsPart e := by
  have set {own : String} {successors : List String} {change : XmlElement → XmlElement}
      (known : own ∈ ["w:pStyle","w:shd","w:spacing","w:ind","w:jc"])
      (name : ∀ e, (change e).name = e.name) (children : ∀ e, (change e).children = e.children) :
      (ChildStep.edit own successors change).Preserves IsPart := by
    have bare : (ChildStep.edit own successors change).Preserves
        (IsBare ["w:pStyle","w:shd","w:spacing","w:ind","w:jc"]) :=
      edit_preserves_bare known name children
    refine ⟨.inl bare.1,fun e same part => ?_⟩
    obtain plain | ⟨level,id,rfl⟩ | ⟨b,rfl⟩ := part
    · exact .inl (bare.2 e same plain)
    · exact absurd (same ▸ known : "w:numPr" ∈ _) (by decide)
    · exact absurd (same ▸ known : "w:pBdr" ∈ _) (by decide)
  refine applyAll_forall (by simp) ?_
  simp only [steps,List.forall_mem_append]
  refine ⟨⟨⟨⟨⟨⟨forall_toList _ fun _ => set (by decide) (by simp) (by simp),
    forall_toList _ fun ref => ?_⟩,forall_toList _ fun b => .inr (.inr ⟨b,rfl⟩)⟩,
    forall_toList _ fun s => .inl ⟨rfl,by simp⟩⟩,forall_flatMap _ fun s => ?_⟩,
    forall_flatMap _ fun i => ?_⟩,forall_toList _ fun _ => set (by decide) (by simp) (by simp)⟩
  · refine ⟨.inr (.inl ⟨_,_,numbering_mark _ _⟩),fun e same part => ?_⟩
    obtain ⟨_,known⟩ | ⟨level,id,rfl⟩ | ⟨b,rfl⟩ := part
    · exact absurd (same ▸ known) (by decide)
    · exact .inr (.inl ⟨_,_,numbering_again ..⟩)
    · exact absurd same (show "w:pBdr" ≠ "w:numPr" by decide)
  · simp only [Spacing.steps,List.forall_mem_cons]
    exact ⟨set (by decide) (by simp) (by simp),set (by decide) (by simp) (by simp),by simp⟩
  · simp only [Indent.steps,List.forall_mem_append,List.forall_mem_singleton]
    refine ⟨⟨set (by decide) (by simp) (by simp),?_⟩,?_⟩
    · split
      · simp
      · exact List.forall_mem_singleton.mpr (set (by decide) (by simp) (by simp))
    · split
      · simp
      · exact List.forall_mem_singleton.mpr
          (set (by decide) (setHanging_name _) (setHanging_children _))

theorem IsPart.known {e : XmlElement} (part : IsPart e) : e.name ∈ paragraphOrder := by
  obtain ⟨_,known⟩ | ⟨level,id,rfl⟩ | ⟨b,rfl⟩ := part
  · have short : ["w:pStyle","w:shd","w:spacing","w:ind","w:jc"] ⊆ paragraphOrder := by decide
    exact short known
  · exact show "w:numPr" ∈ paragraphOrder by decide
  · exact show "w:pBdr" ∈ paragraphOrder by decide

/-- The properties of a paragraph are in order, none of them twice. -/
theorem toXml_sorted (p : ParagraphProperties) : Ordered paragraphOrder p.toXml.children := by
  have short : paragraphSequence.filter (paragraphOrder.contains ·) = paragraphOrder := by decide
  exact short ▸ p.toXml_ordered.of_names fun e member => (p.toXml_children e member).known

theorem IsPart.lacks {e : XmlElement} (part : IsPart e) {tag : String}
    (other : ∀ own ∈ propertyNames, own ≠ tag) : e.named tag = [] := by
  obtain ⟨empty,known⟩ | ⟨level,id,rfl⟩ | ⟨b,rfl⟩ := part
  · have short : ["w:pStyle","w:shd","w:spacing","w:ind","w:jc"] ⊆ propertyNames := by decide
    exact named_eq_nil.mpr ⟨other _ (short known),by rw [empty]; rfl⟩
  · simp only [propertyNames,List.forall_mem_cons] at other
    simp [numberingXml,other]
  · simp only [propertyNames,List.forall_mem_cons] at other
    exact b.toXml_lacks "w:pBdr" (by simp [other])

theorem toXml_lacks (p : ParagraphProperties) {tag : String}
    (other : ∀ own ∈ propertyNames, own ≠ tag) : p.toXml.named tag = [] := by
  refine named_eq_nil.mpr ⟨other "w:pPr" List.mem_cons_self,allNamed_eq_nil fun e member => ?_⟩
  exact (p.toXml_children e member).lacks other

theorem toXml_style (p : ParagraphProperties) : p.toXml.childValue? "w:pStyle" = p.style := by
  have found : p.toXml.child? "w:pStyle" = p.style.map (XmlElement.value "w:pStyle") := by
    rw [toXml_child?]
    cases style : p.style <;> simp [steps,style,act]
    rfl
  rw [childValue?,found]
  cases p.style <;> rfl

/-- A paragraph is marked where it is numbered, and as it is numbered. -/
theorem toXml_numPr (p : ParagraphProperties) :
    p.toXml.named "w:numPr" = (p.numbering.map fun (level,id) => numberingXml level id).toList := by
  have found : p.toXml.child? "w:numPr" = p.numbering.map fun (level,id) => numberingXml level id := by
    rw [toXml_child?]
    cases numbering : p.numbering <;> simp [steps,numbering,act,numbering_mark]
  have inside : allNamed "w:numPr" p.toXml.children = (p.toXml.child? "w:numPr").toList := by
    refine p.toXml_ordered.allNamed_eq paragraphSequence_nodup (fun e member same => ?_)
      fun e member other => ?_
    · obtain ⟨_,known⟩ | ⟨level,id,rfl⟩ | ⟨b,rfl⟩ := p.toXml_children e member
      · exact absurd (same ▸ known) (by decide)
      · simp [numberingXml]
      · exact absurd same (show "w:pBdr" ≠ "w:numPr" by decide)
    · obtain ⟨empty,_⟩ | ⟨level,id,rfl⟩ | ⟨b,rfl⟩ := p.toXml_children e member
      · exact named_eq_nil.mpr ⟨other,by rw [empty]; rfl⟩
      · exact absurd rfl other
      · exact b.toXml_lacks "w:pBdr" (by decide)
  rw [← found,← inside]
  simp [toXml]

end ParagraphProperties

end DocPress
