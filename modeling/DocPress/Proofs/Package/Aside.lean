import DocPress.Proofs.Package.Step
import DocPress.Proofs.Package.Table

/-! Changes of what lies aside: what identifies a document, and what has been reported. The steps that
enter something into the tables of a document, and those that work out properties, neither see nor undo such
a change. -/

namespace DocPress.Build

/-- The change is one of what identifies the document and of what has been reported, and of nothing
else. -/
def Aside (change : BuildState → BuildState) : Prop :=
  ∃ (core : CoreProperties → CoreProperties) (log : List LogRecord → List LogRecord),
    change = fun state => { state with
      draft := { state.draft with core := core state.draft.core }
      log := log state.log }

variable {change : BuildState → BuildState} {α : Type}

/-- What follows a look at the state does not look aside. -/
theorem look_ignores (aside : Aside change) {next : BuildState → Build α}
    (blind : ∀ state core log, next { state with draft := { state.draft with core }, log } = next state)
    (each : ∀ state, Ignores change (next state)) : Ignores change (get >>= next) := by
  obtain ⟨core,log,rfl⟩ := aside
  exact .look (fun state => blind state _ _) each

theorem modify_ignores (aside : Aside change) {f : BuildState → BuildState}
    (apart : ∀ state core log, f { state with draft := { state.draft with core }, log } =
      { f state with draft := { (f state).draft with core }, log }) :
    Ignores change (modify f : Build Unit) := by
  obtain ⟨core,log,rfl⟩ := aside
  refine .modify fun state => ?_
  have same := apart state state.draft.core state.log
  have kept : (f state).draft.core = state.draft.core := congrArg (·.draft.core) same
  have unreported : (f state).log = state.log := congrArg (·.log) same
  dsimp only
  rw [apart,kept,unreported]

theorem modifyDraft_ignores (aside : Aside change) {f : Draft → Draft}
    (apart : ∀ (draft : Draft) core, f { draft with core } = { f draft with core }) :
    Ignores change (modifyDraft f) :=
  modify_ignores aside fun state core log =>
    congrArg (fun draft => { state with draft, log }) (apart state.draft core)

theorem relate_ignores (aside : Aside change) (target : RelationTarget) :
    Ignores change (relate target) := by
  refine look_ignores aside (fun _ _ _ => rfl) fun state => ?_
  dsimp only
  split
  · exact .pure _
  · exact .bind (modifyDraft_ignores aside fun _ _ => rfl) fun _ => .pure _

theorem store_ignores (aside : Aside change) (medium : Medium) : Ignores change (store medium) := by
  refine look_ignores aside (fun _ _ _ => rfl) fun state => ?_
  dsimp only
  split
  · exact .pure _
  · exact .bind (modifyDraft_ignores aside fun _ _ => rfl) fun _ => .pure _

theorem openCounter_ignores (aside : Aside change) (counter : NumberingInstance) :
    Ignores change (openCounter counter) :=
  look_ignores aside (fun _ _ _ => rfl) fun _ =>
    .bind (modifyDraft_ignores aside fun _ _ => rfl) fun _ => .pure _

theorem placed_ignores (aside : Aside change) (last : Nat) : Ignores change (placed last) :=
  modifyDraft_ignores aside fun _ _ => rfl

theorem counter_ignores (aside : Aside change) (ref : NumberingRef) : Ignores change (counter ref) := by
  refine look_ignores aside (fun _ _ _ => rfl) fun state => ?_
  dsimp only
  split
  · exact .throw _
  · split
    · exact .pure _
    · refine .bind (openCounter_ignores aside _) fun _ => .bind (.check _) fun _ => ?_
      refine .bind (.check _) fun _ => .bind ?_ fun _ => .pure _
      exact modify_ignores aside fun _ _ _ => rfl

theorem paragraphProperties_ignores (aside : Aside change) (p : Paragraph) :
    Ignores change (paragraphProperties p) := by
  refine .bind (.option fun _ => .check _) fun _ => ?_
  refine .bind (.option fun ref => .bind (counter_ignores aside ref) fun _ => .bind (.check _) fun _ =>
    .pure _) fun _ => ?_
  refine .bind (.option fun _ => .check _) fun _ => .bind (.option fun _ => .check _) fun _ => ?_
  refine .bind (.option fun _ => .check _) fun _ => .bind (.option fun _ => .check _) fun _ => ?_
  exact .pure _

theorem style_ignores (aside : Aside change) (s : ParagraphStyle) : Ignores change (style s) :=
  look_ignores aside (fun _ _ _ => rfl) fun _ =>
    .bind (.check _) fun _ => modifyDraft_ignores aside fun _ _ => rfl

theorem family_ignores (aside : Aside change) (d : NumberingDefinition) : Ignores change (family d) := by
  refine look_ignores aside (fun _ _ _ => rfl) fun _ => .bind (.check _) fun _ => ?_
  refine .bind (modifyDraft_ignores aside fun _ _ => rfl) fun _ => ?_
  exact .bind (openCounter_ignores aside _) fun _ => modify_ignores aside fun _ _ _ => rfl

end DocPress.Build
