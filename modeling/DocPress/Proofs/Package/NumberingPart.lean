import Mathlib
import DocPress.Package.Part
import DocPress.Proofs.Package.Definition

/-! The numbering part of a file and what the body refers to in it. A new document has families and
counters of its own in that part, and writing starts from these; all that is assumed of them is which
numbers they have, and that the counters count those families. -/

namespace DocPress

open XmlElement

/-- The value of a child of an element is an attribute of another element. -/
def XmlElement.PointsTo (e : XmlElement) (child : String) (target : XmlElement) (name : String) :
    Prop :=
  ∃ id, e.childValue? child = some id ∧ target.attr? name = some id

def Counts (counter family : XmlElement) : Prop :=
  counter.PointsTo "w:abstractNumId" family "w:abstractNumId"

/-- A numbering part in which everything can be told apart and everything that is pointed to is
there. -/
structure NumberingPart.Sound (part : List XmlElement) : Prop where
  families_distinct :
    ((part.filter (·.name = "w:abstractNum")).map (·.attr? "w:abstractNumId")).Nodup
  counters_distinct : ((part.filter (·.name = "w:num")).map (·.attr? "w:numId")).Nodup
  families_first : part.Pairwise fun before after =>
    ¬ (before.name = "w:num" ∧ after.name = "w:abstractNum")
  counts : ∀ c ∈ part, c.name = "w:num" → ∃ f ∈ part, f.name = "w:abstractNum" ∧ Counts c f

/-- The last paragraph up to the k-th that opens a counter for a family. -/
structure LatestOpening (refs : List NumberingRef) (k : Nat) (reference : String) (j : Nat)
    (opener : NumberingRef) : Prop where
  inside : j ≤ k
  found : refs[j]? = some opener
  opens : opener.opensFor reference
  last : ∀ l other, j < l → l ≤ k → refs[l]? = some other → other.opensFor reference = false

def overrides (restart : Option (Int × Int)) : List XmlElement :=
  (restart.map fun (level,start) => .mk "w:lvlOverride" [("w:ilvl",toString level)] ""
    [.value "w:startOverride" (toString start)]).toList

/-- Which counter is the one for the k-th paragraph of a document, when it counts in the family of
the definition at a place, and what that counter starts anew: it is the one of the latest opening,
with the level and the start of the paragraph that opened it, or else the one of the definition
itself. -/
inductive CounterFor (m : DocumentModel) (k : Nat) (reference : String) (definition : Nat) :
    (place : Nat) → (restart : Option (Int × Int)) → Prop
  | opened {j : Nat} {opener : NumberingRef} {start : Int}
      (latest : LatestOpening m.references k reference j opener)
      (starts : opener.start = some start) :
      CounterFor m k reference definition
        (m.numbering.length + openings (m.references.take j)) (some (opener.level,start))
  | defined
      (quiet : ∀ j other, j ≤ k → m.references[j]? = some other → other.opensFor reference = false) :
      CounterFor m k reference definition definition none

/-! ### The elements -/

theorem NumberingInstance.toXml_id (id : Nat) (n : NumberingInstance) :
    (n.toXml id).attr? "w:numId" = some (toString id) := rfl

theorem NumberingInstance.toXml_family (id : Nat) (n : NumberingInstance) :
    (n.toXml id).childValue? "w:abstractNumId" = some (toString n.family) := rfl

theorem NumberingInstance.toXml_overrides (id : Nat) (n : NumberingInstance) :
    (n.toXml id).named "w:lvlOverride" = overrides n.restart := by
  cases found : n.restart <;> simp [NumberingInstance.toXml,found,overrides]

namespace NumberingEntry

@[simp] theorem family_name (id : Nat) (content : List XmlElement) :
    (family id content).toXml.name = "w:abstractNum" := rfl

@[simp] theorem family_id (id : Nat) (content : List XmlElement) :
    (family id content).toXml.attr? "w:abstractNumId" = some (toString id) := rfl

@[simp] theorem counter_name (id : Nat) (n : NumberingInstance) :
    (counter id n).toXml.name = "w:num" := rfl

@[simp] theorem counter_id (id : Nat) (n : NumberingInstance) :
    (counter id n).toXml.attr? "w:numId" = some (toString id) := rfl

@[simp] theorem cleanup_name (id : Nat) : (cleanup id).toXml.name = "w:numIdMacAtCleanup" := rfl

/-- What the families of a part say of their numbers is what these are. -/
theorem families_ids (part : NumberingPart) :
    ((part.map toXml).filter (·.name = "w:abstractNum")).map (·.attr? "w:abstractNumId") =
      (part.filterMap familyId?).map fun id => some (toString id) := by
  induction part with
  | nil => rfl
  | cons e part ih => cases e <;> simpa [List.filterMap_cons,familyId?] using ih

theorem counters_ids (part : NumberingPart) :
    ((part.map toXml).filter (·.name = "w:num")).map (·.attr? "w:numId") =
      (part.filterMap counterId?).map fun id => some (toString id) := by
  induction part with
  | nil => rfl
  | cons e part ih => cases e <;> simpa [List.filterMap_cons,counterId?] using ih

end NumberingEntry

/-! ### Numbers -/

/-- Numbers that differ are written differently. -/
theorem shown_distinct {ids : List Nat} (distinct : ids.Nodup) :
    (ids.map fun id => some (toString id)).Nodup :=
  distinct.map fun _ _ same => Nat.repr_inj.mp (Option.some.inj same)

/-- The last entry of a list that is marked, if there is one. -/
theorem split_at_last {α : Type} (marked : α → Bool) (items : List α) :
    (∀ a ∈ items, marked a = false) ∨
      ∃ before a after, items = before ++ a :: after ∧ marked a = true ∧
        ∀ b ∈ after, marked b = false := by
  induction items with
  | nil => exact .inl fun _ absent => absurd absent List.not_mem_nil
  | cons a items ih =>
    obtain quiet | ⟨before,b,after,rfl,found,quiet⟩ := ih
    · cases own : marked a with
      | true => exact .inr ⟨[],a,items,rfl,own,quiet⟩
      | false => exact .inl (List.forall_mem_cons.mpr ⟨own,quiet⟩)
    · exact .inr ⟨a :: before,b,after,rfl,found,quiet⟩

/-- A counter opened after some paragraphs stands behind those opened before. -/
theorem Counting.counters_opened {s : Counting} {before after : List NumberingRef}
    {opener : NumberingRef} {start : Int} (starts : opener.start = some start) :
    (s.after (before ++ opener :: after)).counters[s.counters.length + openings before]? =
      some {
        family := (s.table.families.lookup opener.reference).getD 0
        restart := some (opener.level,start) } := by
  have split : (s.after (before ++ opener :: after)).counters =
      (s.after before).counters ++ (opener :: after).filterMap s.opened := by
    simp [counters_after]
  rw [split,← length_counters_after,List.getElem?_append_right (Nat.le_refl _)]
  simp [opened,starts]

/-- A family that is known was written for the last definition of its name. -/
theorem Counting.Knows.place {definitions : List NumberingDefinition} {refs : List NumberingRef}
    (known : (Counting.ofDefinitions definitions).Knows refs) {ref : NumberingRef}
    (member : ref ∈ refs) :
    ∃ i, IsLastDefinition definitions ref.reference i ∧
      (Counting.ofDefinitions definitions).table.families.lookup ref.reference =
        some (firstFamily + i) ∧
      (Counting.ofDefinitions definitions).table.counters.lookup ref.reference =
        some (firstCounter + i) := by
  obtain ⟨absent,_⟩ | place := Counting.lookup_ofDefinitions definitions ref.reference
  · have there := known ref member
    rw [absent] at there
    cases there
  · exact place

/-- Each counter counts a family of the definitions. -/
theorem counters_family {definitions : List NumberingDefinition} {refs : List NumberingRef}
    (known : (Counting.ofDefinitions definitions).Knows refs) :
    ∀ c ∈ ((Counting.ofDefinitions definitions).after refs).counters,
      ∃ i < definitions.length, c.family = firstFamily + i := by
  intro c member
  rw [Counting.counters_after] at member
  obtain own | opened := List.mem_append.mp member
  · obtain ⟨i,inside,rfl⟩ := List.mem_mapIdx.mp own
    exact ⟨i,inside,rfl⟩
  · obtain ⟨ref,there,opens⟩ := List.mem_filterMap.mp opened
    obtain ⟨start,_,rfl⟩ := Option.map_eq_some_iff.mp opens
    obtain ⟨i,place,family,_⟩ := known.place there
    exact ⟨i,place.inside,by rw [family]; rfl⟩

/-- The opening at which the paragraphs up to the k-th are cut, with none behind it, is the latest. -/
theorem LatestOpening.of_split {refs before after : List NumberingRef} {k : Nat}
    {reference : String} {opener : NumberingRef}
    (split : refs.take (k + 1) = before ++ opener :: after) (opens : opener.opensFor reference)
    (quiet : ∀ b ∈ after, b.opensFor reference = false) :
    LatestOpening refs k reference before.length opener := by
  have upTo : ∀ l ≤ k, refs[l]? = (before ++ opener :: after)[l]? := fun l within => by
    rw [← split,List.getElem?_take_of_lt (by omega)]
  have inside : before.length ≤ k := by
    have lengths := congrArg List.length split
    simp only [List.length_append,List.length_cons,List.length_take] at lengths
    omega
  refine ⟨inside,?_,opens,fun l other later within there => ?_⟩
  · rw [upTo _ inside]
    simp
  · rw [upTo l within,List.getElem?_append_right (by omega)] at there
    obtain ⟨n,rest⟩ : ∃ n, l - before.length = n + 1 := ⟨l - before.length - 1,by omega⟩
    rw [rest,List.getElem?_cons_succ] at there
    exact quiet other (List.mem_of_getElem? there)

/-- The counter in use for a paragraph, among the counters of the whole document. -/
theorem counter_of_paragraph {m : DocumentModel} (k : Nat) {ref : NumberingRef} {i : Nat}
    (place : IsLastDefinition m.numbering ref.reference i)
    (family : (Counting.ofDefinitions m.numbering).table.families.lookup ref.reference =
      some (firstFamily + i))
    (counter : (Counting.ofDefinitions m.numbering).table.counters.lookup ref.reference =
      some (firstCounter + i)) :
    ∃ n restart,
      ((Counting.ofDefinitions m.numbering).after m.references).counters[n]? =
        some { family := firstFamily + i, restart } ∧
      ((Counting.ofDefinitions m.numbering).after (m.references.take (k + 1))).current
        ref.reference = firstCounter + n ∧
      CounterFor m k ref.reference i n restart := by
  obtain quiet | ⟨before,opener,after,split,opens,quiet⟩ :=
    split_at_last (NumberingRef.opensFor ref.reference) (m.references.take (k + 1))
  · refine ⟨i,none,?_,?_,.defined fun j other inside there => ?_⟩
    · rw [Counting.counters_after,List.getElem?_append_left (by
        simpa [Counting.ofDefinitions] using place.inside)]
      simp [Counting.ofDefinitions,place.inside]
    · rw [Counting.current_after_quiet quiet,Counting.current,counter]
      rfl
    · refine quiet other (List.mem_of_getElem? (i := j) ?_)
      rw [List.getElem?_take_of_lt (by omega),there]
  · have same : opener.reference = ref.reference := by
      simp only [NumberingRef.opensFor,Bool.and_eq_true,beq_iff_eq] at opens
      exact opens.2
    obtain ⟨start,starts⟩ : ∃ start, opener.start = some start := by
      simp only [NumberingRef.opensFor,NumberingRef.opens,Bool.and_eq_true] at opens
      exact Option.isSome_iff_exists.mp opens.1
    have whole : m.references = before ++ opener :: (after ++ m.references.drop (k + 1)) := by
      rw [← List.cons_append,← List.append_assoc,← split,List.take_append_drop]
    have latest := LatestOpening.of_split split opens quiet
    have front : m.references.take before.length = before := by
      rw [whole,List.take_left]
    refine ⟨m.numbering.length + openings before,some (opener.level,start),?_,?_,?_⟩
    · have opened := @Counting.counters_opened (Counting.ofDefinitions m.numbering) before
        (after ++ m.references.drop (k + 1)) opener start starts
      rw [← whole,same,family] at opened
      simpa [Counting.ofDefinitions] using opened
    · rw [split,Counting.current_after_opening opens quiet,Counting.next_ofDefinitions,
        Nat.add_assoc]
    · rw [← front]
      exact .opened latest starts

/-! ### The part -/

section

open NumberingTemplate

variable {t : NumberingTemplate} {definitions : List NumberingDefinition}
  {counters : List NumberingInstance}

/-- A counter of a part that has grown counts a family that is there, if those that have been added count
families that have been added. -/
theorem grown_family_below
    (counted : ∀ c ∈ counters, ∃ i < definitions.length, c.family = firstFamily + i) {id : Nat}
    {n : NumberingInstance} (member : .counter id n ∈ t.grown definitions counters) :
    n.family < firstFamily + definitions.length := by
  obtain families | rest := List.mem_append.mp member
  · obtain ⟨_,_,other⟩ := mem_families families
    cases other
  obtain here | last := List.mem_append.mp rest
  · obtain own | added := List.mem_append.mp here
    · obtain ⟨c,inside,same⟩ := List.mem_map.mp own
      cases same
      exact Nat.lt_add_right _ (t.counts c inside)
    · obtain ⟨i,inside,same⟩ := List.mem_mapIdx.mp added
      cases same
      obtain ⟨j,bound,family⟩ := counted _ (List.getElem_mem inside)
      rw [family]
      exact Nat.add_lt_add_left bound _
  · obtain ⟨_,other⟩ := mem_last last
    cases other

/-- A part that has grown is sound when each counter that has been added counts one of the families. -/
theorem sound_part (counted : ∀ c ∈ counters, ∃ i < definitions.length, c.family = firstFamily + i) :
    NumberingPart.Sound ((t.grown definitions counters).map NumberingEntry.toXml) := by
  refine ⟨?_,?_,?_,?_⟩
  · rw [NumberingEntry.families_ids]
    exact shown_distinct ((t.grown_familyIds_perm definitions counters).nodup_iff.mpr List.nodup_range)
  · rw [NumberingEntry.counters_ids]
    exact shown_distinct ((t.grown_counterIds_perm definitions counters).nodup_iff.mpr
      List.nodup_range')
  · rw [List.pairwise_map]
    refine List.pairwise_append.mpr ⟨?_,?_,?_⟩
    · refine List.pairwise_of_forall_mem_list fun e member _ _ both => ?_
      obtain ⟨_,_,rfl⟩ := mem_families member
      exact absurd both.1 (by simp)
    · refine List.pairwise_of_forall_mem_list fun _ _ e member both => ?_
      obtain here | last := List.mem_append.mp member
      · obtain ⟨_,_,rfl⟩ := mem_counters here
        exact absurd both.2 (by simp)
      · obtain ⟨_,rfl⟩ := mem_last last
        exact absurd both.2 (by simp)
    · intro e member _ _ both
      obtain ⟨_,_,rfl⟩ := mem_families member
      exact absurd both.1 (by simp)
  · intro c member named
    obtain ⟨e,inside,rfl⟩ := List.mem_map.mp member
    cases e with
    | family => exact absurd named (show "w:abstractNum" ≠ "w:num" by decide)
    | cleanup => exact absurd named (show "w:numIdMacAtCleanup" ≠ "w:num" by decide)
    | counter id n =>
      have below := List.mem_range.mpr (grown_family_below counted inside)
      obtain ⟨f,there,same⟩ :=
        List.mem_filterMap.mp ((t.grown_familyIds_perm definitions counters).mem_iff.mpr below)
      cases f <;> cases same
      exact ⟨_,List.mem_map_of_mem there,rfl,_,NumberingInstance.toXml_family _ _,rfl⟩

end

/-- What a file adds to the families of a new document stands in its numbering part. -/
theorem Package.mem_numberingPart_of_families {p : Package} {e : XmlElement}
    (member : e ∈ p.families) : e ∈ p.numberingPart :=
  (List.filter_sublist.map NumberingEntry.toXml).subset member

theorem Package.mem_numberingPart_of_counters {p : Package} {e : XmlElement}
    (member : e ∈ p.counters) : e ∈ p.numberingPart :=
  (List.filter_sublist.map NumberingEntry.toXml).subset member

/-- The numberings of a file. Its numbering part is sound, whatever a new document has in that part;
each numbered paragraph is marked, in the order of the file; and the mark of each points to the
counter that is the one for it, which counts the family of the last definition of its name. -/
theorem encode_numberings_consistent (t : NumberingTemplate) {m : DocumentModel} {p : Package}
    (encoded : (encodeFrom t m).result = .ok p) :
    NumberingPart.Sound p.numberingPart ∧
    (p.families =
      m.numbering.mapIdx fun i d => (NumberingEntry.family (firstFamily + i) d.content).toXml) ∧
    p.counters.length = m.numbering.length + openings m.references ∧
    (allNamed "w:numPr" p.body).length = m.references.length ∧
    ∀ k ref, m.references[k]? = some ref →
      ∃ mark definition family place counter restart,
        (allNamed "w:numPr" p.body)[k]? = some mark ∧
        mark.childValue? "w:ilvl" = some (toString ref.level) ∧
        IsLastDefinition m.numbering ref.reference definition ∧
        p.families[definition]? = some family ∧ family ∈ p.numberingPart ∧
        p.counters[place]? = some counter ∧ counter ∈ p.numberingPart ∧
        mark.PointsTo "w:numId" counter "w:numId" ∧
        Counts counter family ∧
        counter.named "w:lvlOverride" = overrides restart ∧
        CounterFor m k ref.reference definition place restart := by
  obtain ⟨known,marks,part⟩ := Build.encodeFrom_numbering encoded
  have sound : NumberingPart.Sound p.numberingPart := by
    rw [Package.numberingPart,part]
    exact sound_part (counters_family known)
  have families := Build.encodeFrom_families encoded
  have counters := Build.encodeFrom_counters encoded
  refine ⟨sound,families,?_,?_,?_⟩
  · rw [counters,List.length_mapIdx,Counting.length_counters_after]
    simp [Counting.ofDefinitions]
  · rw [marks]
    simp [Counting.marks]
  · intro k ref found
    obtain ⟨i,definition,family,counter⟩ := known.place (List.mem_of_getElem? found)
    obtain ⟨n,restart,there,current,chosen⟩ := counter_of_paragraph k definition family counter
    have mark : (allNamed "w:numPr" p.body)[k]? = some (markXml ref (firstCounter + n)) := by
      rw [marks,Counting.marks_getElem? found,current]
    have shared : p.families[i]? = some (NumberingEntry.family (firstFamily + i)
        (m.numbering.get ⟨i,definition.inside⟩).content).toXml := by
      simp [families,definition.inside]
    have own : p.counters[n]? = some (NumberingInstance.toXml (firstCounter + n)
        { family := firstFamily + i, restart }) := by
      simp [counters,there]
    exact ⟨_,i,_,n,_,restart,mark,rfl,definition,shared,
      Package.mem_numberingPart_of_families (List.mem_of_getElem? shared),own,
      Package.mem_numberingPart_of_counters (List.mem_of_getElem? own),
      ⟨_,rfl,NumberingInstance.toXml_id _ _⟩,⟨_,NumberingInstance.toXml_family _ _,rfl⟩,
      NumberingInstance.toXml_overrides _ _,chosen⟩

/-- A paragraph before a table that opens counters in its cells, and one behind it. -/
def crossedLists : DocumentModel where
  numbering := [⟨"a",[]⟩,⟨"b",[]⟩,⟨"a",[]⟩]
  blocks := [
    .paragraph { numbering := some ⟨"a",0,none⟩ },
    .table { rows := [{ cells := [
      { widthPercent := fullWidth, paragraphs := [{ numbering := some ⟨"b",1,some 4⟩ }] },
      { widthPercent := fullWidth, paragraphs := [{ numbering := some ⟨"a",2,some 7⟩ }] }] }] },
    .paragraph { numbering := some ⟨"a",0,none⟩ }]

theorem encode_crossedLists_consistent :
    ∃ p, (encode crossedLists).result = .ok p ∧ NumberingPart.Sound p.numberingPart ∧
      p.counters.length = 5 := by
  obtain ⟨p,encoded⟩ := Build.encoded_of_isOk (m := crossedLists) (by decide +kernel)
  obtain ⟨sound,_,size,_⟩ := encode_numberings_consistent .standard encoded
  exact ⟨p,encoded,sound,size.trans (by decide)⟩

end DocPress
