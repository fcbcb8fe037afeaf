import DocPress.Proofs.Package.Fits
import DocPress.Proofs.Package.Properties
import DocPress.Proofs.Package.StyleSheet

/-! The styles of a file. Those of the template have their properties in order; a style of a model is put
into them one property after the other, and they stay in order. Main statements: one style
(`apply_sorted`) and the styles of a file (`encoded_styles`). -/

namespace DocPress

open XmlElement ChildStep

/-- The order in the properties of the paragraphs of a style. Some of them only the template sets. -/
def templateParagraphOrder : List String :=
  ["w:pStyle","w:keepNext","w:keepLines","w:numPr","w:pBdr","w:shd","w:spacing","w:ind","w:jc",
    "w:outlineLvl"]

def templateTextOrder : List String :=
  ["w:rFonts","w:b","w:bCs","w:i","w:iCs","w:strike","w:color","w:sz","w:szCs","w:u","w:shd"]

/-- What stands in the properties of a style is in order, each thing once and with nothing in it. -/
structure StyleEntry.Sorted (s : StyleEntry) : Prop where
  text : ∀ es ∈ s.text, Ordered textSequence es ∧ ∀ e ∈ es, e.IsBare templateTextOrder
  paragraph : ∀ es ∈ s.paragraph,
    Ordered paragraphSequence es ∧ ∀ e ∈ es, e.IsBare templateParagraphOrder

/-! ### Steps -/

theorem ChildStep.adjust_gentle {order : List String} {own : String}
    {change : XmlElement → XmlElement} (kept : ∀ e, (change e).name = e.name) :
    (adjust own change).Gentle order := ⟨kept,rfl⟩

namespace StyleSheet

variable {sheet : StyleSheet} {entry : StyleEntry}

theorem textSteps_gentle (v : StyleValues) (bold : Bool) :
    ∀ step ∈ v.textSteps bold, step.Gentle textSequence := by
  simp only [StyleValues.textSteps,List.forall_mem_append,List.forall_mem_cons]
  refine ⟨?_,sizeStep_gentle _,colorStep_gentle _,flagStep_gentle (by decide) _,
    adjust_gentle (dropAttrs_name _),by simp⟩
  split
  · exact fontSteps_gentle _
  · exact List.forall_mem_singleton.mpr remove_gentle

theorem textSteps_preserve (v : StyleValues) (bold : Bool) :
    ∀ step ∈ v.textSteps bold, step.Preserves (IsBare templateTextOrder) := by
  have set {own : String} (known : own ∈ templateTextOrder) {successors : List String}
      {name value : String} :
      (ChildStep.edit own successors (setAttr name value)).Preserves (IsBare templateTextOrder) :=
    edit_preserves_bare known (by simp) (by simp)
  simp only [StyleValues.textSteps,List.forall_mem_append,List.forall_mem_cons]
  refine ⟨?_,set (by decide),⟨rfl,show "w:color" ∈ templateTextOrder by decide⟩,
    edit_preserves_bare (by decide) (setFlag_name bold) (setFlag_children bold),
    fun e _ bare => ?_,by simp⟩
  · split
    · simp only [fontSteps,List.forall_mem_cons]
      exact ⟨set (by decide),set (by decide),by simp⟩
    · exact List.forall_mem_singleton.mpr trivial
  · exact ⟨(dropAttrs_children _ e).trans bare.1,by rw [dropAttrs_name]; exact bare.2⟩

theorem spacing_preserve (s : Spacing) :
    ∀ step ∈ s.steps, step.Preserves (IsBare templateParagraphOrder) := by
  have set {name value : String} {successors : List String} :
      (ChildStep.edit "w:spacing" successors (setAttr name value)).Preserves
        (IsBare templateParagraphOrder) := edit_preserves_bare (by decide) (by simp) (by simp)
  simp only [Spacing.steps,List.forall_mem_cons]
  exact ⟨set,set,by simp⟩

/-! ### Styles -/

theorem update_sorted (sorted : entry.Sorted) (v : StyleValues) (bold : Bool) :
    (update entry v bold).Sorted where
  text := by
    rintro _ ⟨⟩
    have before : Ordered textSequence (entry.text.getD []) ∧
        ∀ e ∈ entry.text.getD [], e.IsBare templateTextOrder := by
      cases own : entry.text with
      | none => exact ⟨.nil,by simp⟩
      | some es => exact sorted.text es own
    exact ⟨(applyAll_ordered textSequence_nodup before.1 (.of_gentle (textSteps_gentle v bold))).1,
      applyAll_forall before.2 (textSteps_preserve v bold)⟩
  paragraph := by
    have before : Ordered paragraphSequence (entry.paragraph.getD []) ∧
        ∀ e ∈ entry.paragraph.getD [], e.IsBare templateParagraphOrder := by
      cases own : entry.paragraph with
      | none => exact ⟨.nil,by simp⟩
      | some es => exact sorted.paragraph es own
    unfold update
    dsimp only
    split
    · next s _ =>
      rintro _ ⟨⟩
      exact ⟨(applyAll_ordered paragraphSequence_nodup before.1 (.of_gentle s.steps_gentle)).1,
        applyAll_forall before.2 (spacing_preserve s)⟩
    · exact sorted.paragraph

theorem bind_ok {α β : Type} {x : Except PackageFault α} {next : α → Except PackageFault β} {b : β}
    (ran : x >>= next = .ok b) : ∃ a, x = .ok a ∧ next a = .ok b := by
  cases x with
  | error fault => cases ran
  | ok a => exact ⟨a,rfl,ran⟩

/-- What a style of a model may do: nothing, or change a style that is there or a new and empty one. -/
theorem apply_cases {style : ParagraphStyle} {next : StyleSheet}
    (applied : sheet.apply style = .ok next) :
    next = sheet ∨ ∃ added index v, (∀ e ∈ added, e.paragraph = none ∧ e.text = none) ∧
      next.entries = (sheet.entries ++ added).modify index (update · v style.bold) := by
  obtain ⟨found?,_,applied⟩ := bind_ok applied
  match found? with
  | some (.plain found) =>
    obtain ⟨_,_,same⟩ := bind_ok applied
    exact .inl (Except.ok.inj same).symm
  | some (.entry _ index) =>
    obtain ⟨v,_,same⟩ := bind_ok applied
    obtain rfl := Except.ok.inj same
    exact .inr ⟨[],index,v,by simp,by simp⟩
  | none =>
    obtain ⟨v,_,same⟩ := bind_ok applied
    obtain rfl := Except.ok.inj same
    exact .inr ⟨_,_,v,List.forall_mem_singleton.mpr ⟨rfl,rfl⟩,rfl⟩

/-- A style of a model leaves all styles in order. -/
theorem apply_sorted {style : ParagraphStyle} {next : StyleSheet}
    (sorted : ∀ e ∈ sheet.entries, e.Sorted) (applied : sheet.apply style = .ok next) :
    ∀ e ∈ next.entries, e.Sorted := by
  obtain rfl | ⟨added,index,v,bare,changed⟩ := apply_cases applied
  · exact sorted
  · have all : ∀ e ∈ sheet.entries ++ added, e.Sorted := by
      refine List.forall_mem_append.mpr ⟨sorted,fun e member => ?_⟩
      obtain ⟨paragraph,text⟩ := bare e member
      exact ⟨by simp [text],by simp [paragraph]⟩
    rw [changed]
    intro e member
    obtain ⟨i,inside,rfl⟩ := List.mem_iff_getElem.mp member
    rw [List.getElem_modify]
    split
    · exact update_sorted (all _ (List.getElem_mem _)) v style.bold
    · exact all _ (List.getElem_mem _)

theorem headingText_sorted (level : Nat) : Ordered textSequence (headingText level) ∧
    ∀ e ∈ headingText level, e.IsBare templateTextOrder := by
  unfold headingText Ordered
  dsimp only
  split <;> exact ⟨by decide,by simp [IsBare,themeFonts,accent,templateTextOrder]⟩

theorem headingEntry_sorted (level : Nat) : (headingEntry level).Sorted where
  text := by
    rintro _ ⟨⟩
    exact headingText_sorted level
  paragraph := by
    rintro _ ⟨⟩
    exact ⟨show ["w:keepNext","w:keepLines","w:spacing","w:outlineLvl"].Sublist paragraphSequence by
      decide,by simp [IsBare,templateParagraphOrder]⟩

theorem template_sorted : ∀ e ∈ template.entries, e.Sorted := by
  have normal : normalEntry.Sorted := ⟨nofun,nofun⟩
  refine List.forall_mem_cons.mpr ⟨normal,fun e member => ?_⟩
  obtain ⟨level,_,rfl⟩ := List.mem_map.mp member
  exact headingEntry_sorted level

theorem foldlM_sorted {styles : List ParagraphStyle} {final : StyleSheet}
    (sorted : ∀ e ∈ sheet.entries, e.Sorted) (folded : styles.foldlM apply sheet = .ok final) :
    ∀ e ∈ final.entries, e.Sorted := by
  induction styles generalizing sheet with
  | nil =>
    obtain rfl := Except.ok.inj folded
    exact sorted
  | cons style styles ih =>
    rw [List.foldlM_cons] at folded
    cases applied : sheet.apply style with
    | error fault =>
      rw [applied] at folded
      cases folded
    | ok next =>
      rw [applied] at folded
      exact ih (apply_sorted sorted applied) folded

end StyleSheet

namespace Build

/-- The styles of a file are those of the template after all styles of the model. -/
theorem encoded_styles {m : DocumentModel} {p : Package} (encoded : (encode m).result = .ok p) :
    ∃ sheet, m.styles.foldlM StyleSheet.apply .template = .ok sheet ∧
      (∀ e ∈ sheet.entries, e.Sorted) ∧ p.styles = sheet.entries.map StyleEntry.toXml := by
  obtain ⟨identified,styled,defined,final,core,styles,families,blocks,rfl⟩ := encoded_parts encoded
  obtain ⟨sheet,folded,rfl⟩ := styles_ok.mp styles
  rw [(core_fresh core).1] at folded
  have defined_same := Keeps.forM (fun d _ => family_keeps d) families
  have body : Keeps (·.draft.styles) (m.blocks.forM addBlock) := by
    refine .forM fun b _ start u final ran => ?_
    simp only [addBlock,bind_ok,modifyDraft_ok] at ran
    obtain ⟨_,_,written,rfl⟩ := ran
    exact (congrArg Draft.styles (block_keeps b written) :)
  have same : final.draft.styles = sheet :=
    (body blocks).trans (congrArg Draft.styles defined_same :)
  refine ⟨sheet,folded,StyleSheet.foldlM_sorted StyleSheet.template_sorted folded,?_⟩
  rw [← same]
  rfl

end Build

end DocPress
