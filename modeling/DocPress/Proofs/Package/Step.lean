import Mathlib.Data.List.Forall2
import DocPress.Package.Encode

/-! What it means that a step of writing ends well, taken apart along the step. A step that ends well
has run all its parts; what every part keeps, the step keeps, and when no part can fail the step
ends well. Nothing here looks into the elements that are written. -/

namespace DocPress

namespace Build

variable {α β γ : Type} {start final : BuildState} {a : α} {b : β}

/-! ### Runs that end well -/

theorem bind_ok {x : Build α} {next : α → Build β} :
    (x >>= next) start = .ok b final ↔
      ∃ a middle, x start = .ok a middle ∧ next a middle = .ok b final := by
  change EStateM.bind x next start = _ ↔ _
  unfold EStateM.bind
  cases x start with
  | ok value middle =>
    constructor
    · intro ran
      exact ⟨value,middle,rfl,ran⟩
    · rintro ⟨_,_,same,ran⟩
      cases same
      exact ran
  | error e middle => simp

theorem bind_of_ok {x : Build α} {next : α → Build β} {middle : BuildState}
    (ran : x start = .ok a middle) : (x >>= next) start = next a middle := by
  change EStateM.bind x next start = _
  unfold EStateM.bind
  rw [ran]

theorem bind_of_error {x : Build α} {next : α → Build β} {e : PackagingError}
    (stopped : x start = .error e final) : (x >>= next) start = .error e final := by
  change EStateM.bind x next start = _
  unfold EStateM.bind
  rw [stopped]

theorem pure_ok {value : α} :
    (pure value : Build α) start = .ok a final ↔ value = a ∧ start = final := by
  change EStateM.Result.ok value start = _ ↔ _
  rw [EStateM.Result.ok.injEq]

theorem throw_ok {e : PackagingError} : ¬ (throw e : Build α) start = .ok a final := by
  change ¬ EStateM.Result.error e start = _
  nofun

theorem get_ok {state : BuildState} :
    (get : Build BuildState) start = .ok state final ↔ start = state ∧ start = final := by
  change EStateM.Result.ok start start = _ ↔ _
  rw [EStateM.Result.ok.injEq]

theorem modify_ok {change : BuildState → BuildState} {u : Unit} :
    (modify change : Build Unit) start = .ok u final ↔ change start = final := by
  change EStateM.Result.ok u (change start) = _ ↔ _
  rw [EStateM.Result.ok.injEq]
  exact and_iff_right rfl

theorem check_ok {result : Except PackageFault α} :
    check result start = .ok a final ↔ result = .ok a ∧ start = final := by
  cases result with
  | ok value => simp only [check,pure_ok,Except.ok.injEq]
  | error fault => simp [check,throw_ok]

theorem modifyDraft_ok {change : Draft → Draft} {u : Unit} :
    modifyDraft change start = .ok u final ↔
      { start with draft := change start.draft } = final := modify_ok

theorem openCounter_ok {counter : NumberingInstance} {id : Nat} :
    openCounter counter start = .ok id final ↔
      start.draft.numbering.nextCounter = id ∧
        { start with draft.numbering := start.draft.numbering.addCounter id counter } = final := by
  simp only [openCounter,bind_ok,get_ok,modifyDraft_ok,pure_ok]
  constructor
  · rintro ⟨_,_,⟨rfl,rfl⟩,_,_,rfl,rfl,rfl⟩
    exact ⟨rfl,rfl⟩
  · rintro ⟨rfl,rfl⟩
    exact ⟨_,_,⟨rfl,rfl⟩,(),_,rfl,rfl,rfl⟩

theorem mapM_nil_ok {f : α → Build β} {results : List β} :
    ([] : List α).mapM f start = .ok results final ↔ [] = results ∧ start = final := by
  rw [List.mapM_nil,pure_ok]

theorem mapM_cons_ok {f : α → Build β} {items : List α} {results : List β} :
    (a :: items).mapM f start = .ok results final ↔
      ∃ first middle rest, f a start = .ok first middle ∧
        items.mapM f middle = .ok rest final ∧ first :: rest = results := by
  simp only [List.mapM_cons,bind_ok,pure_ok]
  constructor
  · rintro ⟨first,middle,head,rest,_,tail,same,rfl⟩
    exact ⟨first,middle,rest,head,tail,same⟩
  · rintro ⟨first,middle,rest,head,tail,same⟩
    exact ⟨first,middle,head,rest,final,tail,same,rfl⟩

theorem forM_nil_ok {f : α → Build Unit} {u : Unit} :
    ([] : List α).forM f start = .ok u final ↔ start = final := by
  change (pure () : Build Unit) start = _ ↔ _
  rw [pure_ok]
  exact ⟨fun ran => ran.2,fun same => ⟨rfl,same⟩⟩

theorem forM_cons_ok {f : α → Build Unit} {items : List α} {u : Unit} :
    (a :: items).forM f start = .ok u final ↔
      ∃ middle, f a start = .ok () middle ∧ items.forM f middle = .ok u final := by
  change (f a >>= fun _ => items.forM f) start = _ ↔ _
  rw [bind_ok]
  exact ⟨fun ⟨_,middle,head,tail⟩ => ⟨middle,head,tail⟩,
    fun ⟨middle,head,tail⟩ => ⟨(),middle,head,tail⟩⟩

theorem option_none_ok {f : α → Build β} {result : Option β} :
    (none : Option α).mapM f start = .ok result final ↔ none = result ∧ start = final := by
  rw [Option.mapM_none,pure_ok]

theorem option_some_ok {f : α → Build β} {result : Option β} :
    (some a).mapM f start = .ok result final ↔ ∃ b, f a start = .ok b final ∧ some b = result := by
  rw [Option.mapM_some,map_eq_pure_bind,bind_ok]
  constructor
  · rintro ⟨b,_,ran,same⟩
    obtain ⟨wrapped,rfl⟩ := pure_ok.mp same
    exact ⟨b,ran,wrapped⟩
  · rintro ⟨b,ran,same⟩
    exact ⟨b,final,ran,pure_ok.mpr ⟨same,rfl⟩⟩

theorem option_check_ok {f : α → Except PackageFault β} {item : Option α} {result : Option β} :
    item.mapM (fun a => check (f a)) start = .ok result final ↔
      item.mapM f = .ok result ∧ start = final := by
  cases item with
  | none =>
    rw [option_none_ok,Option.mapM_none]
    exact and_congr_left fun _ => ⟨congrArg Except.ok,Except.ok.inj⟩
  | some a =>
    rw [option_some_ok,Option.mapM_some]
    cases f a with
    | ok b =>
      simp only [check_ok,Functor.map,Except.map,Except.ok.injEq]
      constructor
      · rintro ⟨_,⟨rfl,same⟩,wrapped⟩
        exact ⟨wrapped,same⟩
      · rintro ⟨wrapped,same⟩
        exact ⟨b,⟨rfl,same⟩,wrapped⟩
    | error fault => simp [check_ok,Functor.map,Except.map]

/-! ### What a step keeps -/

/-- A step that ends well leaves what is observed as it was. -/
def Keeps (observe : BuildState → γ) (x : Build α) : Prop :=
  ∀ ⦃start a final⦄, x start = .ok a final → observe final = observe start

namespace Keeps

variable {observe : BuildState → γ}

/-- What keeps a thing keeps all that can be seen of it. -/
theorem seen {δ : Type} {x : Build α} (kept : Keeps observe x) (view : γ → δ) :
    Keeps (fun state => view (observe state)) x := fun _ _ _ ran => congrArg view (kept ran)

theorem pure (value : α) : Keeps observe (Pure.pure value : Build α) := by
  intro start a final ran
  rw [(pure_ok.mp ran).2]

theorem bind {x : Build α} {next : α → Build β} (head : Keeps observe x)
    (tail : ∀ a, Keeps observe (next a)) : Keeps observe (x >>= next) := by
  intro start b final ran
  obtain ⟨a,middle,first,second⟩ := bind_ok.mp ran
  exact (tail a second).trans (head first)

theorem get : Keeps observe (MonadState.get : Build BuildState) := by
  intro start a final ran
  rw [(get_ok.mp ran).2]

theorem throw (e : PackagingError) : Keeps observe (MonadExcept.throw e : Build α) :=
  fun _ _ _ ran => absurd ran throw_ok

theorem check (result : Except PackageFault α) : Keeps observe (check result) := by
  intro start a final ran
  rw [(check_ok.mp ran).2]

theorem modify {change : BuildState → BuildState}
    (same : ∀ state, observe (change state) = observe state) :
    Keeps observe (modify change : Build Unit) := by
  intro start u final ran
  rw [← modify_ok.mp ran,same]

theorem modifyDraft {change : Draft → Draft}
    (same : ∀ state, observe { state with draft := change state.draft } = observe state) :
    Keeps observe (modifyDraft change) := modify same

theorem report {record : LogRecord}
    (same : ∀ state log, observe { state with log } = observe state) :
    Keeps observe (report record) := modify fun state => same state _

theorem mapM {f : α → Build β} {items : List α} (each : ∀ a ∈ items, Keeps observe (f a)) :
    Keeps observe (items.mapM f) := by
  induction items with
  | nil =>
    intro start results final ran
    rw [(mapM_nil_ok.mp ran).2]
  | cons a items ih =>
    intro start results final ran
    obtain ⟨first,middle,rest,head,tail,_⟩ := mapM_cons_ok.mp ran
    have kept := ih (fun a member => each a (List.mem_cons_of_mem _ member)) tail
    exact kept.trans (each a List.mem_cons_self head)

theorem option {f : α → Build β} {item : Option α} (each : ∀ a, Keeps observe (f a)) :
    Keeps observe (item.mapM f) := by
  intro start result final ran
  cases item with
  | none => rw [(option_none_ok.mp ran).2]
  | some a =>
    obtain ⟨b,inner,_⟩ := option_some_ok.mp ran
    exact each a inner

theorem forM {f : α → Build Unit} {items : List α} (each : ∀ a ∈ items, Keeps observe (f a)) :
    Keeps observe (items.forM f) := by
  induction items with
  | nil =>
    intro start u final ran
    rw [forM_nil_ok.mp ran]
  | cons a items ih =>
    intro start u final ran
    obtain ⟨middle,head,tail⟩ := forM_cons_ok.mp ran
    have kept := ih (fun a member => each a (List.mem_cons_of_mem _ member)) tail
    exact kept.trans (each a List.mem_cons_self head)

end Keeps

/-! ### What a step gives -/

/-- A step that ends well gives a result of this kind. -/
def Yields (result : α → Prop) (x : Build α) : Prop :=
  ∀ ⦃start a final⦄, x start = .ok a final → result a

namespace Yields

variable {result : α → Prop} {other : β → Prop}

theorem any (x : Build α) : Yields (fun _ => True) x := fun _ _ _ _ => trivial

theorem pure {value : α} (holds : result value) : Yields result (Pure.pure value : Build α) := by
  intro start a final ran
  rw [← (pure_ok.mp ran).1]
  exact holds

theorem bind {x : Build α} {next : α → Build β} (head : Yields result x)
    (tail : ∀ a, result a → Yields other (next a)) : Yields other (x >>= next) := by
  intro start b final ran
  obtain ⟨a,middle,first,second⟩ := bind_ok.mp ran
  exact tail a (head first) second

theorem throw (e : PackagingError) : Yields result (MonadExcept.throw e : Build α) :=
  fun _ _ _ ran => absurd ran throw_ok

theorem check {value : Except PackageFault α} (holds : ∀ a, value = .ok a → result a) :
    Yields result (check value) :=
  fun _ a _ ran => holds a (check_ok.mp ran).1

theorem mapM {f : α → Build β} {items : List α} (each : ∀ a ∈ items, Yields other (f a)) :
    Yields (fun results => ∀ b ∈ results, other b) (items.mapM f) := by
  induction items with
  | nil =>
    intro start results final ran
    rw [← (mapM_nil_ok.mp ran).1]
    simp
  | cons a items ih =>
    intro start results final ran
    obtain ⟨first,middle,rest,head,tail,rfl⟩ := mapM_cons_ok.mp ran
    have rest_holds := ih (fun a member => each a (List.mem_cons_of_mem _ member)) tail
    exact List.forall_mem_cons.mpr ⟨each a List.mem_cons_self head,rest_holds⟩

/-- What comes of the items one after the other matches them, if what comes of each of them does. -/
theorem matched {matched : α → β → Prop} {f : α → Build β} {items : List α}
    (each : ∀ a ∈ items, Yields (matched a) (f a)) :
    Yields (List.Forall₂ matched items) (items.mapM f) := by
  induction items with
  | nil =>
    intro start results final ran
    rw [← (mapM_nil_ok.mp ran).1]
    exact .nil
  | cons a items ih =>
    intro start results final ran
    obtain ⟨first,middle,rest,head,tail,rfl⟩ := mapM_cons_ok.mp ran
    have others := ih (fun a member => each a (List.mem_cons_of_mem _ member)) tail
    exact .cons (each a List.mem_cons_self head) others

/-- When each result is read as what its item asks for, so are all of them. -/
theorem readAll {read : β → γ} {view : α → γ} {f : α → Build β} {items : List α}
    (each : ∀ a ∈ items, Yields (fun b => read b = view a) (f a)) :
    Yields (fun results => results.map read = items.map view) (items.mapM f) := by
  intro start results final ran
  rw [← List.forall₂_eq_eq_eq,List.forall₂_map_left_iff,List.forall₂_map_right_iff]
  exact (matched each ran).flip

/-- What is found in the results one after the other matches what the items ask for one after the
other. -/
theorem matchAll {δ : Type} {matched : γ → δ → Prop} {found : β → List γ} {asked : α → List δ}
    {f : α → Build β} {items : List α}
    (each : ∀ a ∈ items, Yields (fun b => List.Forall₂ matched (found b) (asked a)) (f a)) :
    Yields (fun results => List.Forall₂ matched (results.flatMap found) (items.flatMap asked))
      (items.mapM f) := by
  intro start results final ran
  exact List.rel_flatMap (Yields.matched each ran).flip fun _ _ alike => alike

end Yields

/-! ### Steps that cannot fail -/

/-- From a good state the step ends well, in a good state. -/
def Succeeds (good : BuildState → Prop) (x : Build α) : Prop :=
  ∀ ⦃start⦄, good start → ∃ a final, x start = .ok a final ∧ good final

namespace Succeeds

variable {good : BuildState → Prop}

theorem pure (value : α) : Succeeds good (Pure.pure value : Build α) :=
  fun start ready => ⟨value,start,pure_ok.mpr ⟨rfl,rfl⟩,ready⟩

theorem bind {x : Build α} {next : α → Build β} (head : Succeeds good x)
    (tail : ∀ a, Succeeds good (next a)) : Succeeds good (x >>= next) := by
  intro start ready
  obtain ⟨a,middle,first,between⟩ := head ready
  obtain ⟨b,final,second,done⟩ := tail a between
  exact ⟨b,final,bind_ok.mpr ⟨a,middle,first,second⟩,done⟩

/-- What follows a look at the state may rely on the state being good. -/
theorem look {next : BuildState → Build α} (each : ∀ state, good state → Succeeds good (next state)) :
    Succeeds good (MonadState.get >>= next) := by
  intro start ready
  obtain ⟨a,final,ran,done⟩ := each start ready ready
  exact ⟨a,final,bind_ok.mpr ⟨start,start,get_ok.mpr ⟨rfl,rfl⟩,ran⟩,done⟩

theorem check {result : Except PackageFault α} (passes : ∃ a, result = .ok a) :
    Succeeds good (check result) := by
  obtain ⟨a,passed⟩ := passes
  exact fun start ready => ⟨a,start,check_ok.mpr ⟨passed,rfl⟩,ready⟩

theorem modify {change : BuildState → BuildState} (kept : ∀ state, good state → good (change state)) :
    Succeeds good (modify change : Build Unit) :=
  fun start ready => ⟨(),change start,modify_ok.mpr rfl,kept start ready⟩

end Succeeds

/-! ### Steps that look away -/

/-- A run whose last state is changed. -/
def ended (change : BuildState → BuildState) :
    EStateM.Result PackagingError BuildState α → EStateM.Result PackagingError BuildState α
  | .ok a state => .ok a (change state)
  | .error e state => .error e (change state)

/-- The second step, begun after a change of the state, ends as the first one does but for the same
change, be it well or not. -/
def Follows (change : BuildState → BuildState) (x y : Build α) : Prop :=
  ∀ start, y (change start) = ended change (x start)

namespace Follows

variable {change : BuildState → BuildState}

theorem pure (value : α) : Follows change (Pure.pure value) (Pure.pure value) := fun _ => rfl

theorem bind {x y : Build α} {next other : α → Build β} (head : Follows change x y)
    (tail : ∀ a, Follows change (next a) (other a)) : Follows change (x >>= next) (y >>= other) := by
  intro start
  change EStateM.bind y other (_ : BuildState) = ended _ (EStateM.bind x next start)
  unfold EStateM.bind
  rw [head start]
  cases x start with
  | ok a middle => exact tail a middle
  | error e middle => rfl

theorem mapM {f g : α → Build β} {items : List α} (each : ∀ a ∈ items, Follows change (f a) (g a)) :
    Follows change (items.mapM f) (items.mapM g) := by
  induction items with
  | nil => exact .pure []
  | cons a items ih =>
    rw [List.mapM_cons,List.mapM_cons]
    refine .bind (each a List.mem_cons_self) fun _ => .bind ?_ fun _ => .pure _
    exact ih fun a member => each a (List.mem_cons_of_mem _ member)

theorem forM {f g : α → Build Unit} {items : List α}
    (each : ∀ a ∈ items, Follows change (f a) (g a)) :
    Follows change (items.forM f) (items.forM g) := by
  induction items with
  | nil => exact .pure ()
  | cons a items ih =>
    refine .bind (each a List.mem_cons_self) fun _ => ?_
    exact ih fun a member => each a (List.mem_cons_of_mem _ member)

end Follows

/-- A change of the state before the step comes to the same change behind it, whether the step ends well
or not: it neither sees nor undoes the change. -/
def Ignores (change : BuildState → BuildState) (x : Build α) : Prop :=
  ∀ start, x (change start) = ended change (x start)

namespace Ignores

variable {change : BuildState → BuildState}

theorem pure (value : α) : Ignores change (Pure.pure value : Build α) := fun _ => rfl

theorem throw (e : PackagingError) : Ignores change (MonadExcept.throw e : Build α) := fun _ => rfl

theorem check (result : Except PackageFault α) : Ignores change (check result) := by
  cases result with
  | ok value => exact .pure value
  | error fault => exact .throw _

theorem modify {f : BuildState → BuildState} (apart : ∀ state, f (change state) = change (f state)) :
    Ignores change (modify f : Build Unit) :=
  fun start => congrArg (EStateM.Result.ok ()) (apart start)

theorem bind {x : Build α} {next : α → Build β} (head : Ignores change x)
    (tail : ∀ a, Ignores change (next a)) : Ignores change (x >>= next) := Follows.bind head tail

/-- What follows a look at the state looks at what is not changed. -/
theorem look {next : BuildState → Build α} (same : ∀ state, next (change state) = next state)
    (each : ∀ state, Ignores change (next state)) : Ignores change (MonadState.get >>= next) := by
  intro start
  have unseen : next (change start) (change start) = next start (change start) :=
    congrFun (same start) _
  exact unseen.trans (each start start)

theorem mapM {f : α → Build β} {items : List α} (each : ∀ a ∈ items, Ignores change (f a)) :
    Ignores change (items.mapM f) := Follows.mapM each

theorem forM {f : α → Build Unit} {items : List α} (each : ∀ a ∈ items, Ignores change (f a)) :
    Ignores change (items.forM f) := Follows.forM each

theorem option {f : α → Build β} {item : Option α} (each : ∀ a, Ignores change (f a)) :
    Ignores change (item.mapM f) := by
  cases item with
  | none => exact .pure none
  | some a =>
    rw [Option.mapM_some,map_eq_pure_bind]
    exact .bind (each a) fun _ => .pure _

theorem follows {x : Build α} (ignores : Ignores change x) : Follows change x x := ignores

end Ignores

end Build

/-- What comes of writing, by how the steps of writing end. -/
def Encoded.ofRun : EStateM.Result PackagingError BuildState Unit → Encoded
  | .ok _ final => ⟨.ok final.draft.toPackage,final.log⟩
  | .error e final => ⟨.error e,final.log⟩

/-- What the steps of writing find at the start: a new document, and nothing reported yet. -/
def BuildState.new (t : NumberingTemplate) : BuildState := { draft := { numbering := t.part } }

/-- Steps that follow a fresh start find nothing of what was there but the reports. -/
theorem Build.renewed {α : Type} (t : NumberingTemplate) (x : Build α) (start : BuildState) :
    (do renew t; x) start = x { BuildState.new t with log := start.log } := rfl

theorem encodeFrom_eq (t : NumberingTemplate) (m : DocumentModel) :
    encodeFrom t m = .ofRun (Build.document m (.new t)) := by
  have fresh : (do Build.renew t; Build.document m) (Packager.held {}) = Build.document m (.new t) :=
    Build.renewed _ _ _
  unfold encodeFrom Packager.encodeFrom EStateM.run
  rw [fresh]
  cases Build.document m (.new t) <;> rfl

theorem encode_eq (m : DocumentModel) : encode m = .ofRun (Build.document m (.new .standard)) :=
  encodeFrom_eq .standard m

end DocPress
