import DocPress.Proofs.Package.Counting
import DocPress.Proofs.Package.Line
import DocPress.Proofs.Package.Table

/-! What a document says about numberings, in the elements of its body and in its numbering part. A
body refers to a numbering once for each numbered paragraph, in the same order, with the counters that
`Counting` tells; and all counters of the file are those of the definitions and then one for each
paragraph that opens one. -/

namespace DocPress

open XmlElement

/-- The element that puts a paragraph on a level of a numbering. -/
def markXml (ref : NumberingRef) (id : Nat) : XmlElement := numberingXml ref.level id

def Counting.marks (s : Counting) (refs : List NumberingRef) : List XmlElement :=
  List.zipWith markXml refs (s.ids refs)

theorem Counting.marks_append (s : Counting) (refs more : List NumberingRef) :
    s.marks (refs ++ more) = s.marks refs ++ (s.after refs).marks more := by
  unfold marks
  rw [Counting.ids_append,List.zipWith_append (by simp)]

theorem Counting.marks_getElem? {s : Counting} {refs : List NumberingRef} {k : Nat}
    {ref : NumberingRef} (found : refs[k]? = some ref) :
    (s.marks refs)[k]? =
      some (markXml ref ((s.after (refs.take (k + 1))).current ref.reference)) := by
  simp [marks,List.getElem?_zipWith,found,ids_getElem?]

/-- A document in work but for what paragraphs and tables may change. -/
def BuildState.beyondParagraphs (state : BuildState) : Draft :=
  { state.beyondLines.2 with numbering := [] }

/-- The numbering part of a document in work is that of a new one, grown by definitions and by counters. -/
def BuildState.Grown (t : NumberingTemplate) (definitions : List NumberingDefinition)
    (state : BuildState) : Prop :=
  state.draft.numbering = t.grown definitions state.counting.counters

/-- What changes while paragraphs are written that refer to numberings: they count, and the numbering part
grows by the counters that they open. -/
structure Numbered (t : NumberingTemplate) (definitions : List NumberingDefinition)
    (refs : List NumberingRef) (start final : BuildState) : Prop where
  known : start.counting.Knows refs
  counted : final.counting = start.counting.after refs
  grown : final.Grown t definitions

variable {t : NumberingTemplate} {definitions : List NumberingDefinition}

namespace Numbered

variable {refs more : List NumberingRef} {start middle final : BuildState}

theorem none (grown : start.Grown t definitions) : Numbered t definitions [] start start :=
  ⟨fun _ absent => absurd absent List.not_mem_nil,rfl,grown⟩

theorem append (first : Numbered t definitions refs start middle)
    (second : Numbered t definitions more middle final) :
    Numbered t definitions (refs ++ more) start final where
  known := first.known.append (first.counted ▸ second.known)
  counted := by rw [second.counted,first.counted,Counting.after_append]
  grown := second.grown

/-- What keeps all that lines keep does not count. -/
theorem quiet (grown : start.Grown t definitions) (same : final.beyondLines = start.beyondLines) :
    Numbered t definitions [] start final := by
  have table : final.numbering = start.numbering := congrArg Prod.fst same
  have part : final.draft.numbering = start.draft.numbering := (congrArg (·.2.numbering) same :)
  have counting : final.counting = start.counting := by
    rw [BuildState.counting,table,part]
    rfl
  refine ⟨(none grown).known,counting,?_⟩
  rw [BuildState.Grown,part,counting]
  exact grown

end Numbered

namespace Build

/-! ### What paragraphs and tables keep -/

theorem inline_keeps_beyondParagraphs (i : Inline) : Keeps BuildState.beyondParagraphs (inline i) :=
  (inline_keeps i).seen fun observed => { observed.2 with numbering := [] }

section

variable {γ : Type} {observe : BuildState → γ}
  (blind : ∀ state numbering part,
    observe { state with numbering, draft.numbering := part } = observe state)

include blind

theorem counter_keeps (ref : NumberingRef) : Keeps observe (counter ref) := by
  refine Keeps.get.bind fun state => ?_
  dsimp only
  split
  · exact .throw _
  · split
    · exact .pure _
    · refine Keeps.bind (Keeps.get.bind fun _ => ?_) fun _ => ?_
      · exact Keeps.bind (.modifyDraft fun state => blind state _ _) fun _ => .pure _
      · exact (Keeps.check _).bind fun _ => (Keeps.check _).bind fun _ =>
          Keeps.bind (.modify fun state => blind state _ state.draft.numbering) fun _ => .pure _

/-- To work out the properties of a paragraph changes nothing but numberings. -/
theorem paragraphProperties_keeps (p : Paragraph) : Keeps observe (paragraphProperties p) := by
  refine (Keeps.option fun _ => .check _).bind fun _ => ?_
  refine (Keeps.option fun ref => (counter_keeps blind ref).bind fun _ =>
    (Keeps.check _).bind fun _ => .pure _).bind fun _ => ?_
  refine (Keeps.option fun _ => .check _).bind fun _ => (Keeps.option fun _ => .check _).bind fun _ => ?_
  exact (Keeps.option fun _ => .check _).bind fun _ => (Keeps.option fun _ => .check _).bind fun _ =>
    .pure _

end

theorem paragraph_keeps (p : Paragraph) : Keeps BuildState.beyondParagraphs (paragraph p) :=
  (paragraphProperties_keeps (fun _ _ _ => rfl) p).bind fun _ =>
    Keeps.bind (.mapM fun i _ => inline_keeps_beyondParagraphs i) fun _ => .pure _

theorem cell_keeps (c : TableCell) : Keeps BuildState.beyondParagraphs (cell c) :=
  (Keeps.check _).bind fun _ => Keeps.bind (.option fun _ => .check _) fun _ =>
    Keeps.bind (.option fun _ => .check _) fun _ =>
      Keeps.bind (.mapM fun p _ => paragraph_keeps p) fun _ => .pure _

/-- Writing a block changes nothing but numberings and what lines change. -/
theorem block_keeps (b : Block) : Keeps BuildState.beyondParagraphs (block b) := by
  cases b with
  | paragraph p => exact (paragraph_keeps p).bind fun _ => .pure _
  | table t =>
    refine Keeps.bind ?_ fun _ => .pure _
    rw [table_eq]
    dsimp only
    split
    · exact .pure _
    · exact (Keeps.check _).bind fun _ => Keeps.bind (.mapM fun r _ =>
        Keeps.bind (.mapM fun c _ => cell_keeps c) fun _ => .pure _) fun _ => .pure _

/-! ### What they count -/

/-- A step that writes elements with the given numbered paragraphs in them: it marks them with their
counters, and opens those that they ask for. -/
def Numbers {α : Type} (t : NumberingTemplate) (definitions : List NumberingDefinition)
    (refs : List NumberingRef) (elements : α → List XmlElement) (x : Build α) : Prop :=
  ∀ ⦃start a final⦄, start.Grown t definitions → x start = .ok a final →
    allNamed "w:numPr" (elements a) = start.counting.marks refs ∧
      Numbered t definitions refs start final

theorem Numbers.mapM {α β : Type} {items : List α} {f : α → Build β} {refs : α → List NumberingRef}
    {elements : β → List XmlElement} (each : ∀ a ∈ items, Numbers t definitions (refs a) elements (f a)) :
    Numbers t definitions (items.flatMap refs) (fun results => results.flatMap elements) (items.mapM f) := by
  induction items with
  | nil =>
    intro start results final grown ran
    obtain ⟨rfl,rfl⟩ := mapM_nil_ok.mp ran
    exact ⟨rfl,.none grown⟩
  | cons a items ih =>
    intro start results final grown ran
    obtain ⟨first,middle,rest,head,tail,rfl⟩ := mapM_cons_ok.mp ran
    obtain ⟨marks,numbered⟩ := each a List.mem_cons_self grown head
    obtain ⟨others,further⟩ :=
      ih (fun a member => each a (List.mem_cons_of_mem _ member)) numbered.grown tail
    refine ⟨?_,numbered.append further⟩
    dsimp only at others ⊢
    rw [List.flatMap_cons,List.flatMap_cons,allNamed_append,marks,others,numbered.counted,
      Counting.marks_append]

/-- A counter that is opened gets the next number, and is the last one that has been added. -/
theorem openCounter_grown {n : NumberingInstance} {start final : BuildState} {id : Nat}
    (grown : start.Grown t definitions) (ran : openCounter n start = .ok id final) :
    id = start.counting.next ∧
      final.counting = ⟨start.numbering,start.counting.counters ++ [n]⟩ ∧
      final.Grown t definitions := by
  obtain ⟨rfl,rfl⟩ := openCounter_ok.mp ran
  have next : start.draft.numbering.nextCounter = start.counting.next := by
    rw [grown,NumberingTemplate.nextCounter_grown]
    rfl
  have part : start.draft.numbering.addCounter start.counting.next n =
      t.grown definitions (start.counting.counters ++ [n]) := by
    rw [grown,Counting.next,NumberingTemplate.addCounter_grown]
  have counters : NumberingPart.added (start.draft.numbering.addCounter start.counting.next n) =
      start.counting.counters ++ [n] := by
    rw [part,NumberingTemplate.added_grown]
  rw [next]
  have counting : BuildState.counting
      { start with draft.numbering := start.draft.numbering.addCounter start.counting.next n } =
        ⟨start.numbering,start.counting.counters ++ [n]⟩ := by
    rw [BuildState.counting,counters]
  refine ⟨rfl,counting,?_⟩
  rw [BuildState.Grown,counting]
  exact part

/-- A paragraph counts in the counter in use for its family, after opening one if it has a start. -/
theorem counter_ok {ref : NumberingRef} {start final : BuildState} {id : Nat}
    (grown : start.Grown t definitions) (ran : counter ref start = .ok id final) :
    id = (start.counting.step ref).current ref.reference ∧
      Numbered t definitions [ref] start final := by
  unfold counter at ran
  obtain ⟨state,_,read,ran⟩ := bind_ok.mp ran
  obtain ⟨rfl,rfl⟩ := get_ok.mp read
  dsimp only at ran
  cases found : start.numbering.families.lookup ref.reference with
  | none =>
    simp only [found] at ran
    exact absurd ran throw_ok
  | some family =>
    have known : start.counting.Knows [ref] := by
      intro other member
      rw [List.mem_singleton.mp member]
      exact Option.isSome_of_mem found
    cases opening : ref.start with
    | none =>
      simp only [found,opening] at ran
      obtain ⟨rfl,rfl⟩ := pure_ok.mp ran
      have same := Counting.step_of_quiet (s := start.counting) opening
      exact ⟨by rw [same]; rfl,known,same.symm,grown⟩
    | some first =>
      simp only [found,opening,bind_ok,check_ok,modify_ok,pure_ok] at ran
      obtain ⟨_,middle,opened,_,_,⟨_,rfl⟩,_,_,⟨_,rfl⟩,_,_,rfl,rfl,rfl⟩ := ran
      obtain ⟨rfl,after,more⟩ := openCounter_grown grown opened
      have table : middle.numbering = start.counting.table := congrArg Counting.table after
      have same : ((start.counting.table.families.lookup ref.reference).getD 0) = family :=
        congrArg (Option.getD · 0) found
      have counting : (⟨{ middle.numbering with
          counters := (ref.reference,start.counting.next) :: middle.numbering.counters },
            middle.counting.counters⟩ : Counting) = start.counting.step ref := by
        rw [Counting.step_of_opening opening,table,after,same]
      have opens : ref.opensFor ref.reference := by
        simp [NumberingRef.opensFor,NumberingRef.opens,opening]
      exact ⟨(Counting.current_step_opening opens).symm,known,counting,more⟩

theorem paragraphProperties_numbers (p : Paragraph) :
    Numbers t definitions p.numbering.toList (fun properties => [properties.toXml]) (paragraphProperties p) := by
  intro start properties final grown ran
  simp only [paragraphProperties,bind_ok,pure_ok,option_check_ok] at ran
  obtain ⟨style,_,⟨_,rfl⟩,numbering,_,ran,borders,_,⟨_,rfl⟩,shading,_,⟨_,rfl⟩,spacing,_,⟨_,rfl⟩,
    indent,_,⟨_,rfl⟩,rfl,rfl⟩ := ran
  simp only [allNamed_cons,allNamed_nil,List.append_nil,ParagraphProperties.toXml_numPr]
  cases asked : p.numbering with
  | none =>
    rw [asked] at ran
    obtain ⟨rfl,rfl⟩ := option_none_ok.mp ran
    exact ⟨rfl,.none grown⟩
  | some ref =>
    rw [asked] at ran
    obtain ⟨_,numbered,rfl⟩ := option_some_ok.mp ran
    simp only [bind_ok,check_ok,pure_ok] at numbered
    obtain ⟨id,_,counted,_,_,⟨_,rfl⟩,rfl,rfl⟩ := numbered
    obtain ⟨rfl,numbered⟩ := counter_ok grown counted
    exact ⟨rfl,numbered⟩

theorem paragraph_numbers (p : Paragraph) :
    Numbers t definitions p.numbering.toList (fun x => [x]) (paragraph p) := by
  intro start x final grown ran
  simp only [paragraph_eq,bind_ok,pure_ok] at ran
  obtain ⟨properties,middle,front,children,_,line,rfl,rfl⟩ := ran
  obtain ⟨marks,numbered⟩ := paragraphProperties_numbers p grown front
  have quiet := Numbered.quiet numbered.grown (Keeps.mapM (fun i _ => inline_keeps i) line)
  have plain : allNamed "w:numPr" children = [] :=
    allNamed_eq_nil (Yields.mapM (fun i _ => inline_lacks i (by decide)) line)
  refine ⟨by simpa [plain] using marks,?_⟩
  simpa using numbered.append quiet

theorem cell_numbers (c : TableCell) :
    Numbers t definitions (numberings c.paragraphs) (fun x => [x]) (cell c) := by
  intro start x final grown ran
  simp only [cell,bind_ok,pure_ok,check_ok,option_check_ok] at ran
  obtain ⟨width,_,⟨_,rfl⟩,borders,_,⟨_,rfl⟩,shading,_,⟨_,rfl⟩,paragraphs,_,written,rfl,rfl⟩ := ran
  obtain ⟨marks,numbered⟩ := Numbers.mapM (fun p _ => paragraph_numbers p) grown written
  refine ⟨?_,numbered⟩
  rw [allNamed_cons,cellXml_named _ _ _ _ (by decide)]
  simpa [numberings] using marks

theorem row_numbers (columns : Nat) (r : TableRow) :
    Numbers t definitions (numberings (r.cells.flatMap TableCell.paragraphs)) (fun x => [x]) (row columns r) := by
  intro start x final grown ran
  simp only [row,bind_ok,pure_ok] at ran
  obtain ⟨cells,_,written,rfl,rfl⟩ := ran
  obtain ⟨marks,numbered⟩ := Numbers.mapM (fun c _ => cell_numbers c) grown written
  rw [numberings_flatMap]
  refine ⟨?_,numbered⟩
  rw [allNamed_cons,rowXml_named _ _ _ (by decide)]
  simpa using marks

/-- A table without columns has no cell at all. -/
theorem cells_eq_nil {t : Table} (empty : columnCount t = 0) {r : TableRow} (member : r ∈ t.rows) :
    r.cells = [] := by
  have bound := cells_le_columnCount member
  exact List.length_eq_zero_iff.mp (by omega)

theorem table_numbers (own : Table) :
    Numbers t definitions (Block.table own).references Option.toList (table own) := by
  intro start x final grown ran
  rw [Block.references,Block.paragraphs,numberings_flatMap]
  rw [table_eq] at ran
  dsimp only at ran
  split at ran
  · next empty =>
    obtain ⟨rfl,rfl⟩ := pure_ok.mp ran
    have none : (own.rows.flatMap fun r => numberings (r.cells.flatMap TableCell.paragraphs)) = [] := by
      refine List.flatMap_eq_nil_iff.mpr fun r member => ?_
      rw [cells_eq_nil empty member]
      rfl
    rw [none]
    exact ⟨rfl,.none grown⟩
  · simp only [bind_ok,check_ok,pure_ok] at ran
    obtain ⟨width,_,⟨_,rfl⟩,rows,_,written,rfl,rfl⟩ := ran
    obtain ⟨marks,numbered⟩ := Numbers.mapM (fun r _ => row_numbers _ r) grown written
    refine ⟨?_,numbered⟩
    dsimp only [Option.toList]
    rw [allNamed_cons,tableXml_named _ _ _ _ (by decide)]
    simpa using marks

theorem block_numbers (b : Block) : Numbers t definitions b.references id (block b) := by
  cases b with
  | paragraph p =>
    intro start x final grown ran
    simp only [block,bind_ok,pure_ok] at ran
    obtain ⟨x,_,ran,rfl,rfl⟩ := ran
    simpa [Block.references,Block.paragraphs,numberings] using paragraph_numbers p grown ran
  | table t =>
    intro start x final grown ran
    simp only [block,bind_ok,pure_ok] at ran
    obtain ⟨x,_,ran,rfl,rfl⟩ := ran
    exact table_numbers t grown ran

end Build

end DocPress
