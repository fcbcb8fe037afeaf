import Mathlib.Data.List.Induction
import DocPress.Proofs.Package.Numbering

/-! A whole document as far as its numberings go. The definitions of a model come first: each adds a
family and the first counter of it. Main statement: the body, the families and the counters of a file
in terms of the definitions and of the references of the model (`encode_numbering`). -/

namespace DocPress

open XmlElement

/-- What is known of the numberings once these definitions are written. Later ones come first. -/
def Counting.ofDefinitions (definitions : List NumberingDefinition) : Counting where
  table := {
    families := (definitions.mapIdx fun i d => (d.reference,firstFamily + i)).reverse
    counters := (definitions.mapIdx fun i d => (d.reference,firstCounter + i)).reverse }
  counters := definitions.mapIdx fun i _ => { family := firstFamily + i }

/-- The place of the last definition of a name. -/
structure IsLastDefinition (definitions : List NumberingDefinition) (reference : String) (i : Nat) :
    Prop where
  found : (definitions[i]?).map NumberingDefinition.reference = some reference
  last : ∀ j, i < j → (definitions[j]?).map NumberingDefinition.reference ≠ some reference

theorem IsLastDefinition.inside {definitions : List NumberingDefinition} {reference : String}
    {i : Nat} (place : IsLastDefinition definitions reference i) : i < definitions.length := by
  obtain ⟨d,found,_⟩ := Option.map_eq_some_iff.mp place.found
  exact (List.getElem?_eq_some_iff.mp found).1

namespace Counting

theorem ofDefinitions_append (definitions : List NumberingDefinition) (d : NumberingDefinition) :
    ofDefinitions (definitions ++ [d]) = {
      table := {
        families := (d.reference,firstFamily + definitions.length) ::
          (ofDefinitions definitions).table.families
        counters := (d.reference,firstCounter + definitions.length) ::
          (ofDefinitions definitions).table.counters }
      counters := (ofDefinitions definitions).counters ++
        [{ family := firstFamily + definitions.length }] } := by
  simp [ofDefinitions,List.mapIdx_append]

theorem next_ofDefinitions (definitions : List NumberingDefinition) :
    (ofDefinitions definitions).next = firstCounter + definitions.length := by
  simp [next,ofDefinitions]

/-- A name stands for the last definition that has it. -/
theorem lookup_ofDefinitions (definitions : List NumberingDefinition) (reference : String) :
    ((ofDefinitions definitions).table.families.lookup reference = none ∧
        (ofDefinitions definitions).table.counters.lookup reference = none) ∨
      ∃ i, IsLastDefinition definitions reference i ∧
        (ofDefinitions definitions).table.families.lookup reference = some (firstFamily + i) ∧
        (ofDefinitions definitions).table.counters.lookup reference = some (firstCounter + i) := by
  induction definitions using List.reverseRecOn with
  | nil => exact .inl ⟨rfl,rfl⟩
  | append_singleton definitions d ih =>
    rw [ofDefinitions_append]
    by_cases same : reference = d.reference
    · refine .inr ⟨definitions.length,⟨by simp [same],fun j later => ?_⟩,by simp [same],
        by simp [same]⟩
      rw [List.getElem?_eq_none (by simpa [Nat.succ_le_iff] using later)]
      simp
    · have other : (reference == d.reference) = false := beq_false_of_ne same
      obtain ⟨family,counter⟩ | ⟨i,place,family,counter⟩ := ih
      · refine .inl ⟨?_,?_⟩
        · simpa [List.lookup_cons,other] using family
        · simpa [List.lookup_cons,other] using counter
      · refine .inr ⟨i,⟨?_,fun j later => ?_⟩,?_,?_⟩
        · rw [List.getElem?_append_left place.inside]
          exact place.found
        · by_cases inside : j < definitions.length
          · rw [List.getElem?_append_left inside]
            exact place.last j later
          · rw [List.getElem?_append_right (Nat.le_of_not_lt inside)]
            cases j - definitions.length <;> simp [Ne.symm same]
        · simpa [List.lookup_cons,other] using family
        · simpa [List.lookup_cons,other] using counter

/-- The counters in use after the definitions are counters of theirs. -/
theorem given_ofDefinitions (definitions : List NumberingDefinition) :
    (ofDefinitions definitions).Given := by
  intro reference
  rw [next_ofDefinitions,current]
  obtain ⟨_,counter⟩ | ⟨i,place,_,counter⟩ := lookup_ofDefinitions definitions reference
  · rw [counter]
    exact Nat.lt_add_right _ (by decide)
  · rw [counter]
    exact Nat.add_lt_add_left place.inside _

end Counting

/-- What a document in work has to do with numberings. -/
def BuildState.numberings (state : BuildState) : NumberingTable × NumberingPart :=
  (state.numbering,state.draft.numbering)

/-- The parts of a document in work that its blocks fill. -/
def BuildState.filled (state : BuildState) : List XmlElement × List RelationTarget × List Medium :=
  (state.draft.body,state.draft.relations,state.draft.media)

/-- A document in work but for its numbering part. -/
def BuildState.beyondFamilies (state : BuildState) : Draft := { state.draft with numbering := [] }

/-- What is known of a document in work when these definitions are written and nothing counts yet. -/
structure BuildState.Defined (t : NumberingTemplate) (definitions : List NumberingDefinition)
    (state : BuildState) : Prop where
  counted : state.counting = Counting.ofDefinitions definitions
  grown : state.Grown t definitions

theorem BuildState.Defined.of_numberings {t : NumberingTemplate}
    {definitions : List NumberingDefinition} {start final : BuildState}
    (defined : start.Defined t definitions) (same : final.numberings = start.numberings) :
    final.Defined t definitions := by
  have table : final.numbering = start.numbering := congrArg Prod.fst same
  have part : final.draft.numbering = start.draft.numbering := congrArg Prod.snd same
  have counting : final.counting = start.counting := by
    rw [BuildState.counting,table,part]
    rfl
  refine ⟨counting.trans defined.counted,?_⟩
  rw [BuildState.Grown,part,counting]
  exact defined.grown

namespace Build

variable {t : NumberingTemplate}

theorem new_defined (t : NumberingTemplate) : (BuildState.new t).Defined t [] := by
  have counting : (BuildState.new t).counting = Counting.ofDefinitions [] :=
    congrArg (Counting.mk {}) ((congrArg NumberingPart.added t.part_eq).trans (t.added_grown [] []))
  refine ⟨counting,?_⟩
  rw [BuildState.Grown,counting]
  exact t.part_eq

theorem coreProperties_keeps (m : DocumentModel) : Keeps BuildState.numberings (coreProperties m) :=
  (Keeps.check _).bind fun _ => (Keeps.check _).bind fun _ => .modifyDraft fun _ => rfl

theorem style_keeps (s : ParagraphStyle) : Keeps BuildState.numberings (style s) :=
  Keeps.get.bind fun _ => (Keeps.check _).bind fun _ => .modifyDraft fun _ => rfl

/-- A definition changes nothing but numberings. -/
theorem family_keeps (d : NumberingDefinition) : Keeps BuildState.beyondFamilies (family d) := by
  refine Keeps.get.bind fun _ => (Keeps.check _).bind fun _ => ?_
  refine Keeps.bind (.modifyDraft fun _ => rfl) fun _ => ?_
  refine Keeps.bind (Keeps.get.bind fun _ => ?_) fun _ => .modify fun _ => rfl
  exact Keeps.bind (.modifyDraft fun _ => rfl) fun _ => .pure _

/-- A family that is added gets the next number, and nothing counts in it yet. -/
theorem addFamily_grown {d : NumberingDefinition} {done : List NumberingDefinition}
    {start final : BuildState} {u : Unit} (grown : start.Grown t done)
    (ran : modifyDraft (fun draft => { draft with
      numbering := draft.numbering.addFamily (firstFamily + done.length) d }) start = .ok u final) :
    final.counting = start.counting ∧ final.Grown t (done ++ [d]) := by
  obtain rfl := modifyDraft_ok.mp ran
  have part : start.draft.numbering.addFamily (firstFamily + done.length) d =
      t.grown (done ++ [d]) start.counting.counters := by
    rw [grown,NumberingTemplate.addFamily_grown]
  have counters : NumberingPart.added
      (start.draft.numbering.addFamily (firstFamily + done.length) d) = start.counting.counters := by
    rw [part,NumberingTemplate.added_grown]
  exact ⟨congrArg (Counting.mk start.numbering) counters,
    part.trans (congrArg (t.grown (done ++ [d])) counters.symm)⟩

/-- A definition adds a family and its first counter, which its name stands for from then on. -/
theorem family_written {d : NumberingDefinition} {done : List NumberingDefinition}
    {start final : BuildState} {u : Unit} (before : start.Defined t done)
    (ran : family d start = .ok u final) : final.Defined t (done ++ [d]) := by
  simp only [family,bind_ok,get_ok,check_ok,modify_ok] at ran
  obtain ⟨_,_,⟨rfl,rfl⟩,_,_,⟨_,rfl⟩,_,joined,add,_,counted,opened,rfl⟩ := ran
  have next : start.draft.numbering.nextFamily = firstFamily + done.length := by
    rw [before.grown,NumberingTemplate.nextFamily_grown]
  rw [next] at add opened
  obtain ⟨same,grown⟩ := addFamily_grown before.grown add
  obtain ⟨rfl,after,more⟩ := openCounter_grown grown opened
  have known : joined.counting = Counting.ofDefinitions done := same.trans before.counted
  have own : joined.numbering = (Counting.ofDefinitions done).table := congrArg Counting.table known
  rw [own,known] at after
  have table : counted.numbering = (Counting.ofDefinitions done).table := congrArg Counting.table after
  refine ⟨?_,more⟩
  rw [Counting.ofDefinitions_append,next,known,Counting.next_ofDefinitions,table]
  exact congrArg (fun counting => Counting.mk _ counting.counters) after

theorem families_written {definitions done : List NumberingDefinition} {start final : BuildState}
    {u : Unit} (before : start.Defined t done) (ran : definitions.forM family start = .ok u final) :
    final.Defined t (done ++ definitions) := by
  induction definitions generalizing start done with
  | nil =>
    obtain rfl := forM_nil_ok.mp ran
    rwa [List.append_nil]
  | cons d definitions ih =>
    obtain ⟨middle,head,tail⟩ := forM_cons_ok.mp ran
    rw [List.append_cons]
    exact ih (family_written before head) tail

theorem front_written {m : DocumentModel} {identified styled defined : BuildState}
    (core : coreProperties m (.new t) = .ok () identified)
    (styles : m.styles.forM style identified = .ok () styled)
    (families : m.numbering.forM family styled = .ok () defined) :
    defined.Defined t m.numbering := by
  have before : identified.Defined t [] :=
    (new_defined t).of_numberings (coreProperties_keeps m core)
  have between : styled.Defined t [] :=
    before.of_numberings (Keeps.forM (fun s _ => style_keeps s) styles)
  have written := families_written between families
  rwa [List.nil_append] at written

/-- Before its blocks are written, a document has no body, no relations and no media. -/
theorem front_empty {m : DocumentModel} {identified styled defined : BuildState}
    (core : coreProperties m (.new t) = .ok () identified)
    (styles : m.styles.forM style identified = .ok () styled)
    (families : m.numbering.forM family styled = .ok () defined) : defined.filled = ([],[],[]) := by
  have core_keeps : Keeps BuildState.filled (coreProperties m) :=
    (Keeps.check _).bind fun _ => (Keeps.check _).bind fun _ => .modifyDraft fun _ => rfl
  have style_keeps (s : ParagraphStyle) : Keeps BuildState.filled (style s) :=
    Keeps.get.bind fun _ => (Keeps.check _).bind fun _ => .modifyDraft fun _ => rfl
  have kept := Keeps.forM (fun d _ => family_keeps d) families
  calc defined.filled = styled.filled :=
        (congrArg (fun d : Draft => (d.body,d.relations,d.media)) kept :)
    _ = identified.filled := Keeps.forM (fun s _ => style_keeps s) styles
    _ = ([],[],[]) := core_keeps core

variable {definitions : List NumberingDefinition}

theorem block_written {b : Block} {start final : BuildState} {u : Unit}
    (grown : start.Grown t definitions) (ran : addBlock b start = .ok u final) :
    Numbered t definitions b.references start final ∧
    allNamed "w:numPr" final.draft.body =
      allNamed "w:numPr" start.draft.body ++ start.counting.marks b.references := by
  simp only [addBlock,bind_ok,modifyDraft_ok] at ran
  obtain ⟨elements,inner,head,rfl⟩ := ran
  obtain ⟨marks,numbered⟩ := block_numbers b grown head
  have body : inner.draft.body = start.draft.body := (congrArg Draft.body (block_keeps b head) :)
  refine ⟨⟨numbered.known,numbered.counted,numbered.grown⟩,?_⟩
  rw [← marks,← body]
  exact allNamed_append ..

theorem blocks_written {blocks : List Block} {start final : BuildState} {u : Unit}
    (grown : start.Grown t definitions) (ran : blocks.forM addBlock start = .ok u final) :
    Numbered t definitions (blocks.flatMap Block.references) start final ∧
    allNamed "w:numPr" final.draft.body = allNamed "w:numPr" start.draft.body ++
      start.counting.marks (blocks.flatMap Block.references) := by
  induction blocks generalizing start with
  | nil =>
    obtain rfl := forM_nil_ok.mp ran
    exact ⟨.none grown,(List.append_nil _).symm⟩
  | cons b blocks ih =>
    obtain ⟨middle,head,tail⟩ := forM_cons_ok.mp ran
    obtain ⟨numbered,marks⟩ := block_written grown head
    obtain ⟨others,rest⟩ := ih numbered.grown tail
    refine ⟨numbered.append others,?_⟩
    rw [rest,marks,numbered.counted,List.flatMap_cons,Counting.marks_append,List.append_assoc]

/-- A file that is written is written part by part: what identifies it, the styles, the definitions and
the blocks. -/
theorem encodedFrom_parts {m : DocumentModel} {p : Package}
    (encoded : (encodeFrom t m).result = .ok p) :
    ∃ identified styled defined final, coreProperties m (.new t) = .ok () identified ∧
      m.styles.forM style identified = .ok () styled ∧
      m.numbering.forM family styled = .ok () defined ∧
      m.blocks.forM addBlock defined = .ok () final ∧ final.draft.toPackage = p := by
  rw [encodeFrom_eq] at encoded
  cases ran : Build.document m (.new t) with
  | error e final =>
    rw [ran] at encoded
    cases encoded
  | ok u final =>
    rw [ran] at encoded
    simp only [document,bind_ok,get_ok,check_ok] at ran
    obtain ⟨_,identified,core,_,styled,styles,_,defined,families,_,_,blocks,_,_,⟨rfl,rfl⟩,_,rfl⟩ := ran
    exact ⟨identified,styled,defined,_,core,styles,families,blocks,Except.ok.inj encoded⟩

theorem encoded_parts {m : DocumentModel} {p : Package} (encoded : (encode m).result = .ok p) :
    ∃ identified styled defined final, coreProperties m (.new .standard) = .ok () identified ∧
      m.styles.forM style identified = .ok () styled ∧
      m.numbering.forM family styled = .ok () defined ∧
      m.blocks.forM addBlock defined = .ok () final ∧ final.draft.toPackage = p :=
  encodedFrom_parts encoded

theorem encoded_of_isOk {m : DocumentModel} (fine : (encode m).result.isOk) :
    ∃ p, (encode m).result = .ok p := by
  cases result : (encode m).result with
  | ok p => exact ⟨p,rfl⟩
  | error e =>
    rw [result] at fine
    cases fine

/-- The numberings of a file: its body marks the paragraphs one after the other, and its numbering part is
that of a new document with the definitions, one counter for each of them, and then one for each paragraph
that opens one. -/
theorem encodeFrom_numbering {m : DocumentModel} {p : Package}
    (encoded : (encodeFrom t m).result = .ok p) :
    (Counting.ofDefinitions m.numbering).Knows m.references ∧
    allNamed "w:numPr" p.body = (Counting.ofDefinitions m.numbering).marks m.references ∧
    p.numbering =
      t.grown m.numbering ((Counting.ofDefinitions m.numbering).after m.references).counters := by
  obtain ⟨first,second,third,final,core,styles,families,blocks,rfl⟩ := encodedFrom_parts encoded
  have defined := front_written core styles families
  obtain ⟨numbered,marks⟩ := blocks_written defined.grown blocks
  rw [defined.counted] at marks
  refine ⟨defined.counted ▸ numbered.known,?_,?_⟩
  · have empty : third.draft.body = [] := congrArg Prod.fst (front_empty core styles families)
    rwa [empty] at marks
  · have counted := numbered.counted
    rw [defined.counted] at counted
    exact numbered.grown.trans (congrArg (t.grown m.numbering ·.counters) counted)

/-- What a file adds to the families of a new document. -/
theorem encodeFrom_families {m : DocumentModel} {p : Package}
    (encoded : (encodeFrom t m).result = .ok p) : p.families =
      m.numbering.mapIdx fun i d => (NumberingEntry.family (firstFamily + i) d.content).toXml := by
  obtain ⟨_,_,part⟩ := encodeFrom_numbering encoded
  rw [Package.families,part,NumberingTemplate.grown_addedFamilies,NumberingTemplate.map_addedFamilies]

theorem encodeFrom_counters {m : DocumentModel} {p : Package}
    (encoded : (encodeFrom t m).result = .ok p) :
    p.counters = ((Counting.ofDefinitions m.numbering).after m.references).counters.mapIdx
      fun i n => n.toXml (firstCounter + i) := by
  obtain ⟨_,_,part⟩ := encodeFrom_numbering encoded
  rw [Package.counters,part,NumberingTemplate.grown_addedCounters,NumberingTemplate.map_addedCounters]
  rfl

/-- What the body and the counters of a file have to do with numberings. -/
theorem encode_numbering {m : DocumentModel} {p : Package} (encoded : (encode m).result = .ok p) :
    allNamed "w:numPr" p.body = (Counting.ofDefinitions m.numbering).marks m.references ∧
    p.counters = ((Counting.ofDefinitions m.numbering).after m.references).counters.mapIdx
      fun i n => n.toXml (firstCounter + i) :=
  ⟨(encodeFrom_numbering encoded).2.1,encodeFrom_counters encoded⟩

end Build

end DocPress
