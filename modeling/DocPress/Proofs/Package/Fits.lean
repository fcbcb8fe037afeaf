import DocPress.Proofs.Package.Definition
import DocPress.Proofs.Package.Writable

/-! Exactly which models become a file. A step of writing needs something of what it writes, and the
needs of a model are those of its parts, whatever is written before them: main statement
(`encode_ok_iff`). -/

namespace DocPress

namespace Passes

variable {α β : Type}

theorem bind_iff {x : Except PackageFault α} {next : α → Except PackageFault β} :
    Passes (x >>= next) ↔ ∃ a, x = .ok a ∧ Passes (next a) := by
  cases x with
  | error fault => exact iff_of_false nofun nofun
  | ok a =>
    refine ⟨fun passes => ⟨a,rfl,passes⟩,?_⟩
    rintro ⟨_,⟨⟩,passes⟩
    exact passes

theorem forM_iff {f : α → Except PackageFault Unit} {items : List α} :
    Passes (items.forM f) ↔ ∀ a ∈ items, Passes (f a) := by
  refine ⟨?_,.forM⟩
  induction items with
  | nil => simp
  | cons a items ih =>
    intro passes
    obtain ⟨_,first,rest⟩ := bind_iff.mp passes
    exact List.forall_mem_cons.mpr ⟨⟨_,first⟩,ih rest⟩

theorem xmlText_iff {s : String} : Passes (Measure.xmlText s) ↔ Legal s := by
  refine ⟨fun ⟨_,passed⟩ => ?_,Measure.xmlText_passes⟩
  unfold Measure.xmlText at passed
  split at passed
  · assumption
  · cases passed

end Passes

/-! ### What is needed -/

def RelationTarget.Fits : RelationTarget → Prop
  | link url => Legal url
  | picture _ => True

def Run.Fits (r : Run) : Prop := Passes r.toXml

def ImageRun.Fits (i : ImageRun) : Prop :=
  match PictureFormat.ofData i.data with
  | .ok _ =>
    Passes (Measure.checkDrawn (Measure.ofPixels i.width)) ∧
      Passes (Measure.checkDrawn (Measure.ofPixels i.height))
  | .error fault => fault.isUnusable = true ∧ i.placeholder.Fits

def InlineLeaf.Fits : InlineLeaf → Prop
  | run r => r.Fits
  | image i => i.Fits

def Inline.Fits : Inline → Prop
  | run r => r.Fits
  | image i => i.Fits
  | link h => Legal h.url ∧ ∀ leaf ∈ h.children, leaf.Fits

structure NumberingRef.Fits (known : String → Prop) (ref : NumberingRef) : Prop where
  reference : known ref.reference
  level : Passes (Measure.checkInt32 ref.level)
  start : ∀ n ∈ ref.start, Passes (Measure.checkInt32 n)

structure Paragraph.Fits (known : String → Prop) (p : Paragraph) : Prop where
  heading : ∀ level ∈ p.headingLevel, Passes (Build.headingStyle level)
  numbering : ∀ ref ∈ p.numbering, ref.Fits known
  borders : ∀ b ∈ p.borders, Passes (Build.borders b)
  shading : ∀ s ∈ p.shading, Passes (Build.shading s)
  spacing : ∀ s ∈ p.spacing, Passes (Build.spacing s)
  indent : ∀ i ∈ p.indent, Passes (Build.indent i)
  children : ∀ i ∈ p.children, i.Fits

structure TableCell.Fits (known : String → Prop) (c : TableCell) : Prop where
  width : Passes (Measure.widthShare c.widthPercent)
  borders : ∀ b ∈ c.borders.filter (! ·.isEmpty), Passes (Build.borders b)
  shading : ∀ s ∈ c.shading, Passes (Build.shading s)
  paragraphs : ∀ p ∈ c.paragraphs, p.Fits known

/-- A table without any cell is left out, however wide it should be. -/
structure Table.Fits (known : String → Prop) (t : Table) : Prop where
  width : Build.columnCount t ≠ 0 → Passes (Measure.widthShare t.widthPercent)
  cells : ∀ r ∈ t.rows, ∀ c ∈ r.cells, c.Fits known

def Block.Fits (known : String → Prop) : Block → Prop
  | paragraph p => p.Fits known
  | table t => t.Fits known

/-- All parts of a model can be written, and its paragraphs count in the families that it defines. -/
structure DocumentModel.Fits (m : DocumentModel) : Prop where
  title : Passes (Build.property m.title)
  creator : Passes (Build.property m.creator)
  styles : Passes (m.styles.foldlM StyleSheet.apply .template)
  numbering : ∀ d ∈ m.numbering, Passes (d.levels.forM Build.checkLevel)
  blocks : ∀ b ∈ m.blocks, b.Fits (· ∈ m.numbering.map NumberingDefinition.reference)

namespace Build

variable {α β : Type}

/-! ### Steps that need something -/

/-- If the demand is met, the step ends well from a good state in a good state; and if it has ended
well in a good state, the state before was good and the demand is met. -/
structure Needs (good : BuildState → Prop) (demand : Prop) (x : Build α) : Prop where
  enough : demand → Succeeds good x
  forced : ∀ ⦃start a final⦄, x start = .ok a final → good final → good start ∧ demand

namespace Needs

variable {good : BuildState → Prop} {demand other : Prop}

theorem congr {x : Build α} (needs : Needs good demand x) (same : demand ↔ other) :
    Needs good other x := ⟨fun met => needs.enough (same.mpr met),
  fun _ _ _ ran done => (needs.forced ran done).imp_right same.mp⟩

theorem pure (value : α) : Needs good True (Pure.pure value : Build α) := by
  refine ⟨fun _ => .pure value,fun start a final ran done => ⟨?_,trivial⟩⟩
  rwa [(pure_ok.mp ran).2]

theorem bind {x : Build α} {next : α → Build β} (head : Needs good demand x)
    (tail : ∀ a, Needs good other (next a)) : Needs good (demand ∧ other) (x >>= next) := by
  refine ⟨fun met => (head.enough met.1).bind fun a => (tail a).enough met.2,?_⟩
  intro start b final ran done
  obtain ⟨a,middle,first,second⟩ := bind_ok.mp ran
  obtain ⟨between,later⟩ := (tail a).forced second done
  obtain ⟨before,now⟩ := head.forced first between
  exact ⟨before,now,later⟩

theorem finish {x : Build α} {value : α → β} (head : Needs good demand x) :
    Needs good demand (x >>= fun a => Pure.pure (value a)) :=
  (head.bind fun _ => .pure _).congr (and_iff_left trivial)

theorem look {next : BuildState → Build α} (each : ∀ state, Needs good demand (next state)) :
    Needs good demand (MonadState.get >>= next) := by
  refine ⟨fun met => .look fun state _ => (each state).enough met,?_⟩
  intro start a final ran done
  obtain ⟨state,_,read,ran⟩ := bind_ok.mp ran
  obtain ⟨rfl,rfl⟩ := get_ok.mp read
  exact (each _).forced ran done

theorem throw (e : PackagingError) : Needs good False (MonadExcept.throw e : Build α) :=
  ⟨False.elim,fun _ _ _ ran => absurd ran throw_ok⟩

theorem check (result : Except PackageFault α) : Needs good (Passes result) (check result) := by
  refine ⟨.check,fun start a final ran done => ?_⟩
  obtain ⟨passed,rfl⟩ := check_ok.mp ran
  exact ⟨done,a,passed⟩

theorem modify {change : BuildState → BuildState} (same : ∀ state, good (change state) ↔ good state) :
    Needs good True (modify change : Build Unit) := by
  refine ⟨fun _ => .modify fun state => (same state).mpr,fun start u final ran done => ?_⟩
  rw [← modify_ok.mp ran] at done
  exact ⟨(same start).mp done,trivial⟩

theorem mapM {f : α → Build β} {items : List α} {demand : α → Prop}
    (each : ∀ a, Needs good (demand a) (f a)) : Needs good (∀ a ∈ items, demand a) (items.mapM f) := by
  induction items with
  | nil => exact (Needs.pure []).congr (by simp)
  | cons a items ih =>
    rw [List.mapM_cons]
    exact ((each a).bind fun _ => ih.finish).congr (by simp)

theorem forM {f : α → Build Unit} {items : List α} {demand : α → Prop}
    (each : ∀ a, Needs good (demand a) (f a)) : Needs good (∀ a ∈ items, demand a) (items.forM f) := by
  induction items with
  | nil => exact (Needs.pure ()).congr (by simp)
  | cons a items ih => exact ((each a).bind fun _ => ih).congr (by simp)

theorem option {f : α → Build β} {item : Option α} {demand : α → Prop}
    (each : ∀ a, Needs good (demand a) (f a)) : Needs good (∀ a ∈ item, demand a) (item.mapM f) := by
  cases item with
  | none => exact (Needs.pure none).congr (by simp)
  | some a =>
    rw [Option.mapM_some,map_eq_pure_bind]
    exact (each a).finish.congr (by simp)

end Needs

end Build

/-- Exactly these families are known, and the links so far may stand in XML. -/
structure BuildState.Exact (known : String → Prop) (state : BuildState) : Prop where
  families : ∀ reference, (state.numbering.families.lookup reference).isSome ↔ known reference
  links : ∀ target ∈ state.draft.relations, target.Fits

namespace Build

variable {known : String → Prop}

/-! ### Lines -/

theorem exact_iff {state : BuildState} : state.Exact known ↔
    (∀ reference, (state.numbering.families.lookup reference).isSome ↔ known reference) ∧
      ∀ target ∈ state.draft.relations, target.Fits :=
  ⟨fun exact => ⟨exact.families,exact.links⟩,fun ⟨families,links⟩ => ⟨families,links⟩⟩

theorem modifyDraft_needs {change : Draft → Draft}
    (same : ∀ draft, (change draft).relations = draft.relations) :
    Needs (BuildState.Exact known) True (modifyDraft change) :=
  .modify fun state => by simp [exact_iff,same]

theorem report_needs {record : LogRecord} :
    Needs (BuildState.Exact known) True (report record) := .modify fun state => by simp [exact_iff]

theorem relate_runs (target : RelationTarget) (start : BuildState) :
    ∃ id final, relate target start = .ok id final ∧ final.numbering = start.numbering ∧
      ∀ other, other ∈ final.draft.relations ↔ other ∈ start.draft.relations ∨ other = target := by
  cases found : start.draft.relations.findIdx? (· = target) with
  | some i =>
    obtain ⟨inside,same,_⟩ := List.findIdx?_eq_some_iff_getElem.mp found
    have held : target ∈ start.draft.relations := of_decide_eq_true same ▸ List.getElem_mem inside
    refine ⟨firstRelation + i,start,?_,rfl,fun other => ?_⟩
    · refine bind_ok.mpr ⟨start,start,get_ok.mpr ⟨rfl,rfl⟩,?_⟩
      simp only [found]
      exact pure_ok.mpr ⟨rfl,rfl⟩
    · exact ⟨.inl,fun either => either.elim id fun same => same ▸ held⟩
  | none =>
    refine ⟨firstRelation + start.draft.relations.length,
      { start with draft.relations := start.draft.relations ++ [target] },?_,rfl,by simp⟩
    refine bind_ok.mpr ⟨start,start,get_ok.mpr ⟨rfl,rfl⟩,?_⟩
    simp only [found]
    exact bind_ok.mpr ⟨(),_,modifyDraft_ok.mpr rfl,pure_ok.mpr ⟨rfl,rfl⟩⟩

/-- The target of a relation is to fit even where the relation is an old one. -/
theorem relate_needs (target : RelationTarget) :
    Needs (BuildState.Exact known) target.Fits (relate target) := by
  constructor
  · intro fits start exact
    obtain ⟨id,final,ran,table,relations⟩ := relate_runs target start
    refine ⟨id,final,ran,table ▸ exact.families,fun other member => ?_⟩
    rcases (relations other).mp member with old | rfl
    · exact exact.links other old
    · exact fits
  · intro start id final ran exact
    obtain ⟨_,other,runs,table,relations⟩ := relate_runs target start
    cases runs.symm.trans ran
    refine ⟨⟨table ▸ exact.families,fun other member => ?_⟩,?_⟩
    · exact exact.links other ((relations other).mpr (.inl member))
    · exact exact.links target ((relations target).mpr (.inr rfl))

theorem store_needs (medium : Medium) : Needs (BuildState.Exact known) True (store medium) := by
  refine .look fun state => ?_
  dsimp only
  split
  · exact .pure _
  · refine Needs.finish ?_
    exact modifyDraft_needs fun _ => rfl

theorem openCounter_needs (counter : NumberingInstance) :
    Needs (BuildState.Exact known) True (openCounter counter) := by
  refine .look fun _ => Needs.finish ?_
  exact modifyDraft_needs fun _ => rfl

theorem run_needs (r : Run) : Needs (BuildState.Exact known) r.Fits (run r) := .check _

theorem placed_needs (last : Nat) : Needs (BuildState.Exact known) True (placed last) :=
  modifyDraft_needs fun _ => rfl

theorem picture_needs (i : ImageRun) : Needs (BuildState.Exact known) i.Fits (picture i) := by
  have relates (index : Nat) : Needs (BuildState.Exact known) True (relate (.picture index)) :=
    (relate_needs (.picture index)).congr Iff.rfl
  unfold picture ImageRun.Fits
  cases PictureFormat.ofData i.data with
  | error fault =>
    dsimp only
    cases fault.isUnusable with
    | true =>
      refine Needs.congr (Needs.bind report_needs fun _ => Needs.finish (run_needs i.placeholder)) ?_
      simp
    | false => exact (Needs.throw _).congr (by simp)
  | ok format =>
    refine Needs.congr (Needs.bind (store_needs _) fun index => Needs.bind (relates index) fun _ =>
      .look fun _ => Needs.bind (Needs.check _) fun _ => Needs.finish (Needs.check _)) ?_
    simp

theorem leaves_need (leaves : List InlineLeaf) :
    Needs (BuildState.Exact known) (∀ leaf ∈ leaves, leaf.Fits) (Build.leaves leaves) := by
  induction leaves with
  | nil => exact (Needs.pure _).congr (by simp)
  | cons leaf rest ih =>
    rw [List.forall_mem_cons]
    cases leaf with
    | run r => exact Needs.bind (run_needs r) fun _ => Needs.finish ih
    | image i => exact Needs.bind (picture_needs i) fun _ => Needs.finish ih

theorem inline_needs (i : Inline) : Needs (BuildState.Exact known) i.Fits (inline i) := by
  cases i with
  | run r => exact run_needs r
  | image i =>
    refine Needs.congr (Needs.bind (picture_needs i) fun _ => Needs.finish (placed_needs _)) ?_
    simp [Inline.Fits]
  | link h =>
    refine Needs.congr (Needs.bind (relate_needs (.link h.url)) fun _ =>
      Needs.bind (leaves_need h.children) fun _ => Needs.finish (placed_needs _)) ?_
    simp [Inline.Fits,RelationTarget.Fits]

/-! ### Paragraphs and tables -/

/-- What a paragraph with a start does once its family has been found. -/
theorem opening_needs (ref : NumberingRef) (family : Nat) (n : Int) :
    Needs (BuildState.Exact known)
      (Passes (Measure.checkInt32 ref.level) ∧ Passes (Measure.checkInt32 n)) (do
        let id ← openCounter { family, restart := some (ref.level,n) }
        check (Measure.checkInt32 ref.level)
        check (Measure.checkInt32 n)
        modify fun st =>
          { st with numbering.counters := (ref.reference,id) :: st.numbering.counters }
        return id) := by
  refine Needs.congr (Needs.bind (openCounter_needs _) fun id => Needs.bind (.check _) fun _ =>
    Needs.bind (.check _) fun _ => Needs.finish (.modify fun _ => ?_)) ?_
  · simp [exact_iff]
  · simp

theorem counter_needs (ref : NumberingRef) :
    Needs (BuildState.Exact known)
      (known ref.reference ∧ ∀ n ∈ ref.start, Passes (Measure.checkInt32 ref.level) ∧
        Passes (Measure.checkInt32 n)) (counter ref) := by
  constructor
  · rintro ⟨member,fits⟩
    refine .look fun state exact => ?_
    obtain ⟨family,found⟩ := Option.isSome_iff_exists.mp ((exact.families _).mpr member)
    dsimp only
    rw [found]
    dsimp only
    cases opening : ref.start with
    | none => exact .pure _
    | some n => exact (opening_needs ref family n).enough (fits n opening)
  · intro start id final ran exact
    unfold counter at ran
    obtain ⟨state,_,read,ran⟩ := bind_ok.mp ran
    obtain ⟨rfl,rfl⟩ := get_ok.mp read
    dsimp only at ran
    cases found : start.numbering.families.lookup ref.reference with
    | none =>
      rw [found] at ran
      exact absurd ran throw_ok
    | some family =>
      rw [found] at ran
      dsimp only at ran
      cases opening : ref.start with
      | none =>
        rw [opening] at ran
        obtain ⟨rfl,rfl⟩ := pure_ok.mp ran
        exact ⟨exact,(exact.families _).mp (Option.isSome_of_mem found),by simp⟩
      | some n =>
        rw [opening] at ran
        obtain ⟨before,fits⟩ := (opening_needs ref family n).forced ran exact
        refine ⟨before,(before.families _).mp (Option.isSome_of_mem found),?_⟩
        rintro _ ⟨⟩
        exact fits

theorem numbering_needs (ref : NumberingRef) :
    Needs (BuildState.Exact known) (ref.Fits known) (do
      let id ← counter ref
      check (Measure.checkInt32 ref.level)
      return (ref.level,id)) := by
  refine Needs.congr (Needs.bind (counter_needs ref) fun _ => Needs.finish (.check _)) ⟨?_,?_⟩
  · rintro ⟨⟨member,starts⟩,level⟩
    exact ⟨member,level,fun n asked => (starts n asked).2⟩
  · rintro ⟨member,level,starts⟩
    exact ⟨⟨member,fun n asked => ⟨level,starts n asked⟩⟩,level⟩

theorem paragraphProperties_need (p : Paragraph) :
    Needs (BuildState.Exact known)
      ((∀ level ∈ p.headingLevel, Passes (headingStyle level)) ∧
        (∀ ref ∈ p.numbering, ref.Fits known) ∧ (∀ b ∈ p.borders, Passes (borders b)) ∧
        (∀ s ∈ p.shading, Passes (shading s)) ∧ (∀ s ∈ p.spacing, Passes (spacing s)) ∧
        ∀ i ∈ p.indent, Passes (indent i)) (paragraphProperties p) :=
  Needs.bind (.option fun _ => .check _) fun _ => Needs.bind (.option numbering_needs) fun _ =>
    Needs.bind (.option fun _ => .check _) fun _ => Needs.bind (.option fun _ => .check _) fun _ =>
    Needs.bind (.option fun _ => .check _) fun _ => Needs.finish (.option fun _ => .check _)

theorem paragraph_needs (p : Paragraph) :
    Needs (BuildState.Exact known) (p.Fits known) (paragraph p) := by
  refine Needs.congr (Needs.bind (paragraphProperties_need p) fun _ =>
    Needs.finish (.mapM inline_needs)) ⟨?_,?_⟩
  · rintro ⟨⟨heading,numbering,borders,shading,spacing,indent⟩,children⟩
    exact ⟨heading,numbering,borders,shading,spacing,indent,children⟩
  · rintro ⟨heading,numbering,borders,shading,spacing,indent,children⟩
    exact ⟨⟨heading,numbering,borders,shading,spacing,indent⟩,children⟩

theorem cell_needs (c : TableCell) : Needs (BuildState.Exact known) (c.Fits known) (cell c) := by
  refine Needs.congr (Needs.bind (.check _) fun _ => Needs.bind (.option fun _ => .check _) fun _ =>
    Needs.bind (.option fun _ => .check _) fun _ => Needs.finish (.mapM paragraph_needs)) ⟨?_,?_⟩
  · rintro ⟨width,borders,shading,paragraphs⟩
    exact ⟨width,borders,shading,paragraphs⟩
  · rintro ⟨width,borders,shading,paragraphs⟩
    exact ⟨width,borders,shading,paragraphs⟩

theorem table_needs (t : Table) : Needs (BuildState.Exact known) (t.Fits known) (table t) := by
  have row_needs (r : TableRow) : Needs (BuildState.Exact known) (∀ c ∈ r.cells, c.Fits known)
      (row (columnCount t) r) := Needs.finish (.mapM cell_needs)
  rw [table_eq]
  dsimp only
  split
  next none =>
    refine (Needs.pure _).congr ⟨fun _ => ⟨fun some => absurd none some,?_⟩,fun _ => trivial⟩
    intro r member c inside
    have size : r.cells.length ≤ 0 := none ▸ cells_le_columnCount member
    rw [List.eq_nil_of_length_eq_zero (Nat.le_zero.mp size)] at inside
    exact absurd inside List.not_mem_nil
  next some =>
    refine Needs.congr (Needs.bind (.check _) fun _ => Needs.finish (.mapM row_needs)) ⟨?_,?_⟩
    · exact fun ⟨width,cells⟩ => ⟨fun _ => width,cells⟩
    · exact fun ⟨width,cells⟩ => ⟨width some,cells⟩

theorem block_needs (b : Block) : Needs (BuildState.Exact known) (b.Fits known) (block b) := by
  cases b with
  | paragraph p => exact Needs.finish (paragraph_needs p)
  | table t => exact Needs.finish (table_needs t)

theorem addBlock_needs (b : Block) : Needs (BuildState.Exact known) (b.Fits known) (addBlock b) := by
  refine Needs.congr (Needs.bind (block_needs b) fun _ => ?_) (and_iff_left trivial)
  exact modifyDraft_needs fun _ => rfl

/-! ### Documents -/

theorem names_ofDefinitions (definitions : List NumberingDefinition) (reference : String) :
    ((Counting.ofDefinitions definitions).table.families.lookup reference).isSome ↔
      reference ∈ definitions.map NumberingDefinition.reference := by
  induction definitions using List.reverseRecOn with
  | nil => simp [Counting.ofDefinitions]
  | append_singleton definitions d ih =>
    rw [Counting.ofDefinitions_append,List.lookup_cons,List.map_append,List.mem_append,← ih]
    by_cases same : reference = d.reference
    · simp [same]
    · have other : (reference == d.reference) = false := beq_false_of_ne same
      simp [same,other]

theorem styles_ok {styles : List ParagraphStyle} {start final : BuildState} {u : Unit} :
    styles.forM style start = .ok u final ↔
      ∃ sheet, styles.foldlM StyleSheet.apply start.draft.styles = .ok sheet ∧
        { start with draft.styles := sheet } = final := by
  induction styles generalizing start with
  | nil =>
    rw [forM_nil_ok]
    constructor
    · rintro rfl
      exact ⟨_,rfl,rfl⟩
    · rintro ⟨_,⟨⟩,same⟩
      exact same
  | cons s styles ih =>
    rw [forM_cons_ok,List.foldlM_cons]
    simp only [style,bind_ok,get_ok,check_ok,modifyDraft_ok]
    constructor
    · rintro ⟨middle,⟨_,_,⟨rfl,rfl⟩,next,_,⟨applied,rfl⟩,rfl⟩,rest⟩
      obtain ⟨sheet,folded,rfl⟩ := ih.mp rest
      exact ⟨sheet,by rw [applied]; exact folded,rfl⟩
    · rintro ⟨sheet,folded,rfl⟩
      cases applied : start.draft.styles.apply s with
      | error fault =>
        rw [applied] at folded
        cases folded
      | ok next =>
        rw [applied] at folded
        exact ⟨{ start with draft.styles := next },
          ⟨start,start,⟨rfl,rfl⟩,next,start,⟨applied,rfl⟩,rfl⟩,ih.mpr ⟨sheet,folded,rfl⟩⟩

theorem families_need {definitions : List NumberingDefinition} :
    Needs (fun _ => True) (∀ d ∈ definitions, Passes (d.levels.forM checkLevel))
      (definitions.forM family) := by
  refine .forM fun d => .look fun _ => ?_
  refine Needs.congr (Needs.bind (.check _) fun _ => Needs.bind (.modify fun _ => Iff.rfl) fun _ =>
    Needs.bind (.look fun _ => Needs.finish (.modify fun _ => Iff.rfl)) fun _ =>
    .modify fun _ => Iff.rfl) ?_
  simp

theorem checkRelations_passes_iff {relations : List RelationTarget} :
    Passes (checkRelations relations) ↔ ∀ target ∈ relations, target.Fits := by
  refine Passes.forM_iff.trans (forall₂_congr fun target _ => ?_)
  cases target with
  | link url =>
    constructor
    · intro passes
      obtain ⟨text,passed,_⟩ := Passes.bind_iff.mp passes
      exact Passes.xmlText_iff.mp ⟨text,passed⟩
    · exact fun legal => (Measure.xmlText_passes legal).bind fun _ => .pure _
  | picture index => exact iff_of_true (.pure _) trivial

theorem coreProperties_needs (m : DocumentModel) : Needs (fun _ => True)
    (Passes (property m.title) ∧ Passes (property m.creator)) (coreProperties m) := by
  refine Needs.congr (Needs.bind (.check _) fun _ => Needs.bind (.check _) fun _ =>
    .modify fun _ => Iff.rfl) ?_
  simp

theorem core_fresh {m : DocumentModel} {identified : BuildState}
    (core : coreProperties m (.new .standard) = .ok () identified) :
    identified.draft.styles = .template ∧ identified.draft.relations = [] := by
  have kept : Keeps (fun state => (state.draft.styles,state.draft.relations)) (coreProperties m) :=
    (Keeps.check _).bind fun _ => (Keeps.check _).bind fun _ => .modifyDraft fun _ => rfl
  exact ⟨congrArg Prod.fst (kept core),congrArg Prod.snd (kept core)⟩

/-- Once the front parts of a document are written, the names of its definitions are known. -/
theorem front_known {m : DocumentModel} {identified styled defined : BuildState}
    (core : coreProperties m (.new .standard) = .ok () identified)
    (styles : m.styles.forM style identified = .ok () styled)
    (families : m.numbering.forM family styled = .ok () defined) (reference : String) :
    (defined.numbering.families.lookup reference).isSome ↔
      reference ∈ m.numbering.map NumberingDefinition.reference := by
  have counting : defined.counting = Counting.ofDefinitions m.numbering :=
    (front_written core styles families).counted
  rw [← names_ofDefinitions,← counting]
  rfl

theorem document_ok_iff {m : DocumentModel} : (∃ final, document m (.new .standard) = .ok () final) ↔ m.Fits := by
  constructor
  · rintro ⟨final,ran⟩
    simp only [document,bind_ok,get_ok,check_ok] at ran
    obtain ⟨_,identified,core,_,styled,styles,_,defined,families,_,_,blocks,_,_,⟨rfl,rfl⟩,checked,rfl⟩
      := ran
    obtain ⟨_,title,creator⟩ := (coreProperties_needs m).forced core trivial
    obtain ⟨sheet,applied,_⟩ := styles_ok.mp styles
    rw [(core_fresh core).1] at applied
    obtain ⟨_,levels⟩ := families_need.forced families trivial
    -- what is known in the end was known before the blocks, for they add nothing to it
    have done : BuildState.Exact (fun reference => (_ : Bool) = true) _ :=
      ⟨fun _ => Iff.rfl,checkRelations_passes_iff.mp ⟨_,checked⟩⟩
    obtain ⟨before,fits⟩ := (Needs.forM addBlock_needs).forced blocks done
    have known := funext fun reference =>
      propext ((before.families reference).symm.trans (front_known core styles families reference))
    exact ⟨title,creator,⟨sheet,applied⟩,levels,known ▸ fits⟩
  · intro fits
    have titled : Passes (property m.title) ∧ Passes (property m.creator) := ⟨fits.title,fits.creator⟩
    obtain ⟨_,identified,core,_⟩ : ∃ u final, coreProperties m (.new .standard) = .ok u final ∧ True :=
      (coreProperties_needs m).enough titled trivial
    obtain ⟨template,bare⟩ := core_fresh core
    obtain ⟨sheet,applied⟩ := fits.styles
    rw [← template] at applied
    obtain ⟨styled,styles,bare⟩ : ∃ styled, m.styles.forM style identified = .ok () styled ∧
        styled.draft.relations = [] := ⟨_,styles_ok.mpr ⟨sheet,applied,rfl⟩,bare⟩
    obtain ⟨_,defined,families,_⟩ : ∃ u final, m.numbering.forM family styled = .ok u final ∧ True :=
      families_need.enough fits.numbering trivial
    have kept := Keeps.forM (fun d _ => family_keeps d) families
    have bare : defined.draft.relations = [] := (congrArg Draft.relations kept).trans bare
    have ready : defined.Exact (· ∈ m.numbering.map NumberingDefinition.reference) :=
      ⟨front_known core styles families,by simp [bare]⟩
    obtain ⟨_,final,blocks,done⟩ := (Needs.forM addBlock_needs).enough fits.blocks ready
    obtain ⟨_,checked⟩ := checkRelations_passes_iff.mpr done.links
    refine ⟨final,?_⟩
    simp only [document,bind_ok,get_ok,check_ok]
    exact ⟨_,identified,core,_,styled,styles,_,defined,families,_,final,blocks,final,final,⟨rfl,rfl⟩,
      checked,rfl⟩

end Build

/-- A model becomes a file exactly if all its parts can be written. -/
theorem encode_ok_iff {m : DocumentModel} : (∃ package, (encode m).result = .ok package) ↔ m.Fits := by
  rw [← Build.document_ok_iff,encode_eq]
  cases Build.document m (.new .standard) <;> simp [Encoded.ofRun]

end DocPress
