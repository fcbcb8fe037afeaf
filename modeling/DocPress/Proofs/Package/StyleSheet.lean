import DocPress.Proofs.Package.Writable

/-! Which styles can be applied: those that go by the names of the template. Applying one changes
neither the names nor the identifiers of a sheet, so that the next one is found again. -/

namespace DocPress

/-- The names on screen of the styles that can be changed. -/
def StyleSheet.shownNames : List String :=
  ["Normal","Heading 1","Heading 2","Heading 3","Heading 4","Heading 5","Heading 6"]

/-- The style on screen that an identifier leads to is one of the template's. -/
def StyleSheet.IsShown (id : String) : Prop := (shownName? id).getD id ∈ shownNames

instance (id : String) : Decidable (StyleSheet.IsShown id) := inferInstanceAs (Decidable (_ ∈ _))

structure ParagraphStyle.Writable (s : ParagraphStyle) : Prop where
  known : (StyleSheet.shownName? s.id).getD s.name ∈ StyleSheet.shownNames
  font : ∀ name ∈ s.font, Legal name
  size : Near s.size
  color : isColor s.color
  basedOn : ∀ id ∈ s.basedOn, StyleSheet.IsShown id
  nextStyle : ∀ id ∈ s.nextStyle, StyleSheet.IsShown id
  spacing : ∀ spacing ∈ s.spacing, Near spacing.before ∧ Near spacing.after

namespace StyleSheet

variable {sheet : StyleSheet} {style : ParagraphStyle}

def labels (sheet : StyleSheet) : List (String × String) := sheet.entries.map fun e => (e.name,e.id)

def IsLabelled (sheet : StyleSheet) : Prop := sheet.labels = template.labels

/-- The place of a style in the template, by its name on screen. -/
def place? (name : String) : Option Nat := template.labels.findIdx? (·.1 = storedName name)

theorem find?_place (labelled : sheet.IsLabelled) {name : String} {index : Nat}
    (place : place? name = some index) : ∃ id, sheet.find? name = some (.entry id index) := by
  rw [place?,← labelled,labels,List.findIdx?_map] at place
  obtain ⟨bound,_⟩ := List.findIdx?_eq_some_iff_getElem.mp place
  refine ⟨(sheet.entries[index]).id,?_⟩
  have found : sheet.entries.findIdx? (fun e => decide (e.name = storedName name)) =
      some index := place
  simp [find?,found,bound]

/-- A style that goes by a name of the template is at the place that it has there. -/
theorem get_place (labelled : sheet.IsLabelled) {name : String} (known : name ∈ shownNames) :
    ∃ id index, place? name = some index ∧ sheet.get name = .ok (some (.entry id index)) := by
  have plain : ∀ name ∈ shownNames, Legal name ∧ name.toList.contains '"' = false := by decide
  have inside : ∀ name ∈ shownNames, (place? name).isSome := by decide +kernel
  obtain ⟨legal,unquoted⟩ := plain name known
  obtain ⟨index,place⟩ := Option.isSome_iff_exists.mp (inside name known)
  obtain ⟨id,found⟩ := find?_place labelled place
  obtain ⟨_,text⟩ := Measure.xmlText_passes legal
  refine ⟨id,index,place,?_⟩
  unfold get
  rw [text,unquoted,found]
  rfl

theorem reference_passes (labelled : sheet.IsLabelled) {id : String} (shown : IsShown id) :
    Passes (sheet.reference id) := by
  obtain ⟨id,index,_,found⟩ := get_place labelled shown
  unfold reference
  dsimp only
  rw [found]
  exact ⟨id,rfl⟩

theorem values_passes (labelled : sheet.IsLabelled) (writable : style.Writable) :
    Passes (sheet.values .paragraph style) := by
  have shown {other : Option String} (each : ∀ id ∈ other, IsShown id) :
      Passes ((other.filter (! ·.isEmpty)).mapM sheet.reference) :=
    .option fun id member => reference_passes labelled (each id (Option.mem_filter_iff.mp member).1)
  unfold values
  rw [if_neg (by decide)]
  refine (Passes.option fun name member => Measure.xmlText_passes (writable.font name member)).bind
    fun _ => ?_
  refine (Measure.fontSize_passes writable.size.1 writable.size.2).bind fun _ => ?_
  refine Passes.bind ⟨_,Measure.color_eq writable.color⟩ fun _ => ?_
  refine (shown writable.basedOn).bind fun _ => (shown writable.nextStyle).bind fun _ => ?_
  refine Passes.bind ⟨(),rfl⟩ fun _ => ?_
  have spacing := Passes.option fun s member => spacing_passes (writable.spacing s member)
  exact spacing.bind fun _ => .pure _

theorem update_labels {v : StyleValues} {bold : Bool} {index : Nat} :
    labels ⟨sheet.entries.modify index (update · v bold)⟩ = sheet.labels := by
  refine List.ext_getElem? fun i => ?_
  simp only [labels,List.getElem?_map,List.getElem?_modify]
  cases sheet.entries[i]? with
  | none => rfl
  | some e => split <;> rfl

/-- A writable style can be applied, and then the next one can. -/
theorem apply_labelled (labelled : sheet.IsLabelled) (writable : style.Writable) :
    ∃ next, sheet.apply style = .ok next ∧ next.IsLabelled := by
  obtain ⟨id,index,_,found⟩ := get_place labelled writable.known
  obtain ⟨v,worked⟩ := values_passes labelled writable
  refine ⟨⟨sheet.entries.modify index (update · v style.bold)⟩,?_,update_labels.trans labelled⟩
  unfold apply
  dsimp only
  rw [found]
  change sheet.values .paragraph style >>= _ = _
  rw [worked]
  rfl

theorem foldlM_apply_passes (labelled : sheet.IsLabelled) {styles : List ParagraphStyle}
    (writable : ∀ s ∈ styles, s.Writable) : Passes (styles.foldlM apply sheet) := by
  induction styles generalizing sheet with
  | nil => exact .pure _
  | cons style styles ih =>
    obtain ⟨first,rest⟩ := List.forall_mem_cons.mp writable
    obtain ⟨next,applied,labelled⟩ := apply_labelled labelled first
    rw [List.foldlM_cons,applied]
    exact ih labelled rest

end StyleSheet

end DocPress
