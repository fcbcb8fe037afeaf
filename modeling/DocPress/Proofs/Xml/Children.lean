import DocPress.Package.Children
import DocPress.Proofs.Xml.Query

/-! Children that are put in one after the other. If each step puts an element in front of all that has to
follow it, children in order stay in order, with none of them doubled, and what a name stands for in
the end is what the steps of that name have made of it. Main statement: a run of steps, by what one
step does (`applyAll_ordered`). -/

namespace DocPress

open XmlElement

/-- Children stand in an order, at most one of each name. -/
def Ordered (order : List String) (children : List XmlElement) : Prop :=
  (children.map name).Sublist order

namespace ChildStep

/-- The name of the child that a step is about. -/
def name : ChildStep → String
  | insert child _ => child.name
  | append child => child.name
  | edit name _ _ => name
  | adjust name _ => name
  | replace child _ => child.name
  | remove name => name

/-- What a step makes of the child of its name, which may be missing. -/
def act : ChildStep → Option XmlElement → Option XmlElement
  | insert child _, _ => some child
  | append child, _ => some child
  | edit name _ change, found => some (change (found.getD (mark name)))
  | adjust _ change, found => found.map change
  | replace child _, _ => some child
  | remove _, _ => none

/-- What the steps about a name make of its child. -/
def made (tag : String) (steps : List ChildStep) (found : Option XmlElement) : Option XmlElement :=
  steps.foldl (fun found step => if step.name = tag then step.act found else found) found

section

variable (child : XmlElement) (own : String) (successors : List String)
  (change : XmlElement → XmlElement)

@[simp] theorem name_insert : (insert child successors).name = child.name := rfl

@[simp] theorem name_append : (append child).name = child.name := rfl

@[simp] theorem name_edit : (edit own successors change).name = own := rfl

@[simp] theorem name_adjust : (adjust own change).name = own := rfl

@[simp] theorem name_replace : (replace child successors).name = child.name := rfl

@[simp] theorem name_remove : (remove own).name = own := rfl

end

/-- A step knows all that has to follow its child, and leaves the child its name. -/
def Stands (order : List String) : ChildStep → Prop
  | insert child successors => (child.name :: successors) <:+ order
  | append child => child.name ∈ order
  | edit name successors change =>
    (name :: successors) <:+ order ∧ ∀ e, (change e).name = e.name
  | adjust _ change => ∀ e, (change e).name = e.name
  | replace child successors => (child.name :: successors) <:+ order
  | remove _ => True

/-- The names that no child may have yet when a step is taken. -/
def clear (order : List String) : ChildStep → List String
  | insert child _ => [child.name]
  | append child => order.dropWhile (· ≠ child.name)
  | _ => []

/-- A step keeps to the order whatever stands there. -/
def Gentle (order : List String) (step : ChildStep) : Prop :=
  step.Stands order ∧ step.clear order = []

/-- Steps that may be taken one after the other on children. -/
structure Orderly (order : List String) (steps : List ChildStep) (children : List XmlElement) :
    Prop where
  stands : ∀ step ∈ steps, step.Stands order
  free : ∀ step ∈ steps, ∀ n ∈ step.clear order, n ∉ children.map XmlElement.name
  apart : steps.Pairwise fun earlier later => earlier.name ∉ later.clear order

end ChildStep

/-! ### One child -/

namespace XmlElement

variable {order successors : List String} {children front back : List XmlElement}
  {child : XmlElement} {own tag : String} {change : XmlElement → XmlElement}

@[simp] theorem setAttr_name (name value : String) (e : XmlElement) :
    (e.setAttr name value).name = e.name := by cases e; rfl

@[simp] theorem dropAttrs_name (names : List String) (e : XmlElement) :
    (e.dropAttrs names).name = e.name := by cases e; rfl

@[simp] theorem setChildren_name (change : List XmlElement → List XmlElement) (e : XmlElement) :
    (e.setChildren change).name = e.name := by cases e; rfl

@[simp] theorem setAttr_children (name value : String) (e : XmlElement) :
    (e.setAttr name value).children = e.children := by cases e; rfl

@[simp] theorem dropAttrs_children (names : List String) (e : XmlElement) :
    (e.dropAttrs names).children = e.children := by cases e; rfl

@[simp] theorem setAttr_attr? (name value : String) (e : XmlElement) :
    (e.setAttr name value).attr? name = some value := by
  cases e with
  | mk own attrs text children =>
    change (withValue name value attrs).lookup name = some value
    induction attrs with
    | nil => simp [withValue]
    | cons attr attrs ih =>
      unfold withValue
      split
      · simp
      · next other => rw [List.lookup_cons,beq_false_of_ne (Ne.symm other),ih]

theorem dropAttrs_attr? {names : List String} {name : String} (dropped : name ∈ names)
    (e : XmlElement) : (e.dropAttrs names).attr? name = none := by
  cases e with
  | mk own attrs text children =>
    refine List.lookup_eq_none_iff.mpr fun attr member => ?_
    obtain ⟨_,kept⟩ := List.mem_filter.mp member
    simp only [Bool.not_eq_true',List.contains_eq_mem,decide_eq_false_iff_not] at kept
    simpa using fun same : name = attr.1 => kept (same ▸ dropped)

theorem find?_eq_none_of_absent (absent : tag ∉ children.map name) :
    children.find? (·.name = tag) = none := by
  refine List.find?_eq_none.mpr fun e member same => absent ?_
  exact List.mem_map.mpr ⟨e,member,of_decide_eq_true same⟩

theorem mem_names : own ∈ children.map name ↔ (children.find? (·.name = own)).isSome := by
  simp

theorem any_name : children.any (·.name = tag) = true ↔ tag ∈ children.map name := by
  simp

/-- A child goes between those in front of its place and those that have to follow it. -/
theorem insertChild_between (apart : ∀ n ∈ front.map name, n ∉ successors)
    (following : (back.map name).Sublist successors) (nodup : successors.Nodup) :
    insertChild child successors (front ++ back) = front ++ child :: back := by
  unfold insertChild
  cases back with
  | nil =>
    have none : successors.find? (fun n => (front ++ []).any (·.name = n)) = none := by
      refine List.find?_eq_none.mpr fun n member found => apart n ?_ member
      rwa [List.append_nil,any_name] at found
    rw [none,List.append_nil]
  | cons first rest =>
    obtain ⟨before,after,rfl,inside,others⟩ := List.cons_sublist_iff.mp following
    obtain ⟨passed,rest',rfl,fresh⟩ := List.eq_append_cons_of_mem inside
    have found : (passed ++ first.name :: rest' ++ after).find?
        (fun n => (front ++ first :: rest).any (·.name = n)) = some first.name := by
      refine List.find?_eq_some_iff_append.mpr ⟨by simp,passed,rest' ++ after,by simp,?_⟩
      intro n member
      rw [Bool.not_eq_true',← Bool.not_eq_true,any_name,List.map_append,List.mem_append]
      rintro (here | behind)
      · exact apart n here (by simp [member])
      · obtain rfl | behind := List.mem_cons.mp behind
        · exact fresh member
        · have doubled := (List.nodup_append.mp nodup).2.2 n (by simp [member])
          exact doubled n (others.subset behind) rfl
    have before_all : ∀ e ∈ front, (! decide (e.name = first.name)) = true := by
      intro e member
      have other := apart e.name (List.mem_map_of_mem member)
      have same : e.name ≠ first.name := fun same => other (by simp [same])
      simp [same]
    rw [found]
    dsimp only
    rw [insertBefore,List.takeWhile_append_of_pos before_all,List.dropWhile_append_of_pos before_all]
    simp

theorem mem_insertChild {e : XmlElement} (member : e ∈ insertChild child successors children) :
    e = child ∨ e ∈ children := by
  unfold insertChild insertBefore at member
  split at member
  · obtain before | member := List.mem_append.mp member
    · exact .inr (List.takeWhile_subset _ before)
    · exact (List.mem_cons.mp member).imp_right fun after => List.dropWhile_subset _ after
  · simpa [or_comm] using member

theorem mem_changeChild {e : XmlElement} (member : e ∈ changeChild own change children) :
    e ∈ children ∨ ∃ before ∈ children, before.name = own ∧ change before = e := by
  induction children with
  | nil => cases member
  | cons first rest ih =>
    unfold changeChild at member
    split at member
    · next here =>
      obtain rfl | later := List.mem_cons.mp member
      · exact .inr ⟨first,List.mem_cons_self,here,rfl⟩
      · exact .inl (List.mem_cons_of_mem _ later)
    · obtain rfl | later := List.mem_cons.mp member
      · exact .inl List.mem_cons_self
      · obtain there | ⟨before,there,same⟩ := ih later
        · exact .inl (List.mem_cons_of_mem _ there)
        · exact .inr ⟨before,List.mem_cons_of_mem _ there,same⟩

@[simp] theorem changeChild_names (kept : ∀ e, (change e).name = e.name) :
    (changeChild own change children).map name = children.map name := by
  induction children with
  | nil => rfl
  | cons e es ih =>
    unfold changeChild
    split
    · simp [kept]
    · simp [ih]

theorem changeChild_find? (kept : ∀ e, (change e).name = e.name) :
    (changeChild own change children).find? (·.name = tag) =
      if tag = own then (children.find? (·.name = tag)).map change
      else children.find? (·.name = tag) := by
  induction children with
  | nil => simp [changeChild]
  | cons e es ih =>
    unfold changeChild
    split
    · next here =>
      by_cases same : tag = own
      · simp [kept,here,same]
      · simp [kept,here,same,Ne.symm same]
    · next elsewhere =>
      by_cases same : e.name = tag
      · have other : tag ≠ own := fun own_name => elsewhere (same.trans own_name)
        simp [same,other]
      · simp only [List.find?_cons,same,decide_false,ih]

theorem removeChildren_find? :
    (removeChildren own children).find? (·.name = tag) =
      if tag = own then none else children.find? (·.name = tag) := by
  rw [removeChildren,List.find?_filter]
  split
  · next same =>
    subst same
    exact List.find?_eq_none.mpr fun e _ => by simp
  · next other =>
    congr 1
    funext e
    by_cases same : e.name = tag
    · simp [same,other]
    · simp [same]

end XmlElement

namespace Ordered

variable {order successors : List String} {children : List XmlElement} {child : XmlElement}
  {own tag : String}

theorem nil : Ordered order [] := List.nil_sublist order

/-- Children in an order, around the place of one that is missing. -/
theorem split (ordered : Ordered order children) (place : (own :: successors) <:+ order)
    (absent : own ∉ children.map name) :
    ∃ front back before, children = front ++ back ∧ order = before ++ own :: successors ∧
      (front.map name).Sublist before ∧ (back.map name).Sublist successors := by
  obtain ⟨before,rfl⟩ := place
  obtain ⟨fronts,backs,names,inside,behind⟩ := List.sublist_append_iff.mp ordered
  obtain ⟨front,back,rfl,rfl,rfl⟩ := List.map_eq_append_iff.mp names
  refine ⟨front,back,before,rfl,rfl,inside,?_⟩
  refine (List.sublist_cons_iff.mp behind).resolve_right ?_
  rintro ⟨rest,same,_⟩
  exact absent (by simp [same])

/-- Where only some of the names stand, they are in the order of these names. -/
theorem of_names {names : List String} (ordered : Ordered order children)
    (known : ∀ e ∈ children, e.name ∈ names) :
    Ordered (order.filter (names.contains ·)) children := by
  have all : (children.map name).filter (names.contains ·) = children.map name := by
    refine List.filter_eq_self.mpr fun n member => ?_
    obtain ⟨e,there,rfl⟩ := List.mem_map.mp member
    exact List.contains_iff_mem.mpr (known e there)
  rw [Ordered,← all]
  exact ordered.filter _

/-- What stands in an order holds each element of a name that stands in it once. -/
theorem allNamed_eq (nodup : order.Nodup) (ordered : Ordered order children)
    (own : ∀ e ∈ children, e.name = tag → e.named tag = [e])
    (other : ∀ e ∈ children, e.name ≠ tag → e.named tag = []) :
    allNamed tag children = (children.find? (·.name = tag)).toList := by
  have once : (children.map name).Nodup := nodup.sublist ordered
  clear ordered
  induction children with
  | nil => rfl
  | cons e es ih =>
    obtain ⟨fresh,later⟩ := List.nodup_cons.mp once
    rw [allNamed_cons]
    by_cases same : e.name = tag
    · rw [own e List.mem_cons_self same,allNamed_eq_nil fun e' member =>
        other e' (List.mem_cons_of_mem _ member) fun again =>
          fresh (List.mem_map.mpr ⟨e',member,again.trans same.symm⟩)]
      simp [same]
    · rw [other e List.mem_cons_self same,ih (fun e member => own e (List.mem_cons_of_mem _ member))
        (fun e member => other e (List.mem_cons_of_mem _ member)) later]
      simp [same]

/-- A child that is missing is put into its place, and nothing else changes. -/
theorem insertChild (nodup : order.Nodup) (ordered : Ordered order children)
    (place : (child.name :: successors) <:+ order) (absent : child.name ∉ children.map name) :
    Ordered order (insertChild child successors children) ∧
      ∀ tag, (XmlElement.insertChild child successors children).find? (·.name = tag) =
        if tag = child.name then some child else children.find? (·.name = tag) := by
  obtain ⟨front,back,before,rfl,rfl,inside,behind⟩ := ordered.split place absent
  obtain ⟨_,after_nodup,disjoint⟩ := List.nodup_append.mp nodup
  have apart : ∀ n ∈ front.map name, n ∉ successors := fun n here there =>
    disjoint n (inside.subset here) n (List.mem_cons_of_mem _ there) rfl
  rw [insertChild_between apart behind (List.nodup_cons.mp after_nodup).2]
  refine ⟨?_,fun tag => ?_⟩
  · rw [Ordered,List.map_append,List.map_cons]
    exact inside.append (behind.cons_cons _)
  · rw [List.find?_append,List.find?_append,List.find?_cons]
    by_cases same : tag = child.name
    · have first : tag ∉ front.map name := fun here =>
        disjoint tag (inside.subset here) tag (by simp [same]) rfl
      rw [find?_eq_none_of_absent first]
      simp [same]
    · simp [same,Ne.symm same]

theorem append (ordered : Ordered order children) (known : child.name ∈ order)
    (free : ∀ n ∈ order.dropWhile (· ≠ child.name), n ∉ children.map name) :
    Ordered order (children ++ [child]) ∧
      ∀ tag, (children ++ [child]).find? (·.name = tag) =
        if tag = child.name then some child else children.find? (·.name = tag) := by
  obtain ⟨before,after,rfl,fresh⟩ := List.eq_append_cons_of_mem known
  have rest : (before ++ child.name :: after).dropWhile (· ≠ child.name) = child.name :: after := by
    rw [List.dropWhile_append_of_pos fun n member => by
      simpa using fun same : n = child.name => fresh (same ▸ member)]
    simp
  rw [rest] at free
  obtain ⟨fronts,backs,names,inside,behind⟩ := List.sublist_append_iff.mp ordered
  have none_behind : backs = [] := List.eq_nil_iff_forall_not_mem.mpr fun n member =>
    free n (behind.subset member) (by simp [names,member])
  rw [none_behind,List.append_nil] at names
  refine ⟨?_,fun tag => ?_⟩
  · rw [Ordered,List.map_append,names]
    exact inside.append (List.cons_sublist_cons.mpr (List.nil_sublist _))
  · rw [List.find?_append]
    by_cases same : tag = child.name
    · rw [find?_eq_none_of_absent (same ▸ free child.name List.mem_cons_self)]
      simp [same]
    · simp [same,Ne.symm same]

end Ordered

namespace ChildStep

variable {order : List String} {children : List XmlElement} {step : ChildStep}
  {steps : List ChildStep}

/-! ### One step -/

/-- A step keeps the order, and changes nothing but the child of its name. -/
theorem apply_ordered (nodup : order.Nodup) (ordered : Ordered order children)
    (stands : step.Stands order) (free : ∀ n ∈ step.clear order, n ∉ children.map XmlElement.name) :
    Ordered order (step.apply children) ∧
      ∀ tag, (step.apply children).find? (·.name = tag) =
        if tag = step.name then step.act (children.find? (·.name = tag))
        else children.find? (·.name = tag) := by
  have removed (own : String) : Ordered order (removeChildren own children) :=
    (List.filter_sublist.map _).trans ordered
  cases step with
  | insert child successors =>
    exact ordered.insertChild nodup stands (free child.name (List.mem_singleton_self _))
  | append child => exact ordered.append stands free
  | edit own successors change =>
    obtain ⟨place,kept⟩ := stands
    by_cases there : children.any (·.name = own) = true
    · rw [apply,if_pos there]
      refine ⟨by rwa [Ordered,changeChild_names kept],fun tag => ?_⟩
      rw [changeChild_find? kept]
      obtain ⟨e,found⟩ := Option.isSome_iff_exists.mp (mem_names.mp (any_name.mp there))
      by_cases same : tag = own
      · simp [same,name,act,found]
      · simp [name,same]
    · rw [apply,if_neg there]
      have absent : own ∉ children.map XmlElement.name := by rwa [any_name] at there
      have label : (change (mark own)).name = own := kept _
      have put := ordered.insertChild nodup (label.symm ▸ place) (label.symm ▸ absent)
      refine ⟨put.1,fun tag => ?_⟩
      rw [put.2,label]
      by_cases same : tag = own
      · rw [same,find?_eq_none_of_absent absent]
        simp [name,act]
      · simp [name,same]
  | adjust own change =>
    refine ⟨?_,fun tag => changeChild_find? stands⟩
    rwa [apply,Ordered,changeChild_names stands]
  | replace child successors =>
    have absent : child.name ∉ (removeChildren child.name children).map XmlElement.name := by
      simp [removeChildren]
    have put := (removed child.name).insertChild nodup stands absent
    refine ⟨put.1,fun tag => ?_⟩
    rw [apply,put.2,removeChildren_find?]
    split
    · next same => simp [name,act,same]
    · next other => simp [name,other]
  | remove own =>
    refine ⟨removed own,fun tag => ?_⟩
    rw [apply,removeChildren_find?]
    rfl

/-! ### Runs of steps -/

theorem applyAll_cons : applyAll (step :: steps) children = applyAll steps (step.apply children) :=
  rfl

/-- What is left of a run of steps once the first one is taken. -/
theorem Orderly.tail (nodup : order.Nodup) (ordered : Ordered order children)
    (orderly : Orderly order (step :: steps) children) :
    Orderly order steps (step.apply children) := by
  obtain ⟨stands,others⟩ := List.forall_mem_cons.mp orderly.stands
  obtain ⟨free,rest⟩ := List.forall_mem_cons.mp orderly.free
  obtain ⟨apart,later⟩ := List.pairwise_cons.mp orderly.apart
  refine ⟨others,fun s member n there => ?_,later⟩
  have other : n ≠ step.name := fun same => apart s member (same ▸ there)
  rw [mem_names,(apply_ordered nodup ordered stands free).2,if_neg other,← mem_names]
  exact rest s member n there

@[simp] theorem made_nil {tag : String} {found : Option XmlElement} : made tag [] found = found :=
  rfl

@[simp] theorem made_cons {tag : String} {found : Option XmlElement} :
    made tag (step :: steps) found =
      made tag steps (if step.name = tag then step.act found else found) := rfl

@[simp] theorem made_append {tag : String} {more : List ChildStep} {found : Option XmlElement} :
    made tag (steps ++ more) found = made tag more (made tag steps found) := by
  simp [made]

@[simp] theorem made_ite {asked : Prop} [Decidable asked] {tag : String} {more : List ChildStep}
    {found : Option XmlElement} : made tag (if asked then steps else more) found =
      if asked then made tag steps found else made tag more found := by
  split <;> rfl

theorem made_of_other {tag : String} {found : Option XmlElement}
    (other : ∀ step ∈ steps, step.name ≠ tag) : made tag steps found = found := by
  induction steps with
  | nil => rfl
  | cons step steps ih =>
    obtain ⟨first,rest⟩ := List.forall_mem_cons.mp other
    rw [made_cons,if_neg first,ih rest]

@[simp] theorem made_option_of_other {α : Type} {item : Option α} {toStep : α → ChildStep}
    {tag : String} {found : Option XmlElement} (other : ∀ a, ¬ (toStep a).name = tag) :
    made tag (item.map toStep).toList found = found := by
  cases item <;> simp [other]

theorem made_flatMap_of_other {α : Type} {items : List α} {toSteps : α → List ChildStep}
    {tag : String} {found : Option XmlElement} (other : ∀ a, ∀ step ∈ toSteps a, step.name ≠ tag) :
    made tag (items.flatMap toSteps) found = found := by
  refine made_of_other fun step member => ?_
  obtain ⟨a,_,inside⟩ := List.mem_flatMap.mp member
  exact other a step inside

/-- Steps keep the order, and a name stands for what the steps of that name have made of its child. -/
theorem applyAll_ordered (nodup : order.Nodup) (ordered : Ordered order children)
    (orderly : Orderly order steps children) :
    Ordered order (applyAll steps children) ∧
      ∀ tag, (applyAll steps children).find? (·.name = tag) =
        made tag steps (children.find? (·.name = tag)) := by
  induction steps generalizing children with
  | nil => exact ⟨ordered,fun _ => rfl⟩
  | cons step steps ih =>
    have first := apply_ordered nodup ordered (orderly.stands step List.mem_cons_self)
      (orderly.free step List.mem_cons_self)
    obtain ⟨kept,found⟩ := ih first.1 (orderly.tail nodup ordered)
    refine ⟨kept,fun tag => ?_⟩
    rw [applyAll_cons,found,first.2,made_cons]
    by_cases own : tag = step.name
    · simp [own]
    · simp [own,Ne.symm own]

namespace Orderly

/-- Steps that put nothing in whose place may be taken already. -/
theorem of_gentle (gentle : ∀ step ∈ steps, step.Gentle order) :
    Orderly order steps children where
  stands := fun step member => (gentle step member).1
  free := fun step member n there => by simp [(gentle step member).2] at there
  apart := List.pairwise_of_forall_mem_list fun _ _ later member there => by
    simp [(gentle later member).2] at there

theorem append {more : List ChildStep} (first : Orderly order steps children)
    (second : Orderly order more children)
    (apart : ∀ later ∈ more, ∀ n ∈ later.clear order, n ∉ steps.map name) :
    Orderly order (steps ++ more) children where
  stands := List.forall_mem_append.mpr ⟨first.stands,second.stands⟩
  free := List.forall_mem_append.mpr ⟨first.free,second.free⟩
  apart := List.pairwise_append.mpr ⟨first.apart,second.apart,fun earlier member later there hit =>
    apart later there earlier.name hit (List.mem_map_of_mem member)⟩

theorem append_gentle {more : List ChildStep} (first : Orderly order steps children)
    (gentle : ∀ step ∈ more, step.Gentle order) :
    Orderly order (steps ++ more) children :=
  first.append (of_gentle gentle) fun later member n there => by
    simp [(gentle later member).2] at there

/-- A step that there may be puts in what none of the steps before it is about. -/
theorem append_option {α : Type} (item : Option α) {toStep : α → ChildStep} (known : List String)
    (first : Orderly order steps []) (names : ∀ step ∈ steps, step.name ∈ known)
    (stands : ∀ a, (toStep a).Stands order)
    (fresh : ∀ a, ∀ n ∈ (toStep a).clear order, n ∉ known) :
    Orderly order (steps ++ (item.map toStep).toList) [] := by
  cases item with
  | none => simpa using first
  | some a =>
    have one : Orderly order [toStep a] [] := by
      refine ⟨List.forall_mem_singleton.mpr (stands a),fun _ _ _ _ => List.not_mem_nil,?_⟩
      exact List.pairwise_singleton _ _
    refine first.append one fun later member n there hit => ?_
    rw [List.mem_singleton.mp member] at there
    obtain ⟨earlier,before,rfl⟩ := List.mem_map.mp hit
    exact fresh a _ there (names earlier before)

end Orderly

/-- A step keeps what is true of each child. -/
def Preserves (holds : XmlElement → Prop) : ChildStep → Prop
  | insert child _ => holds child
  | append child => holds child
  | edit own _ change => holds (change (mark own)) ∧ ∀ e, e.name = own → holds e → holds (change e)
  | adjust own change => ∀ e, e.name = own → holds e → holds (change e)
  | replace child _ => holds child
  | remove _ => True

theorem apply_forall {holds : XmlElement → Prop} (each : ∀ e ∈ children, holds e)
    (preserves : step.Preserves holds) : ∀ e ∈ step.apply children, holds e := by
  have inserted {child : XmlElement} {successors : List String} {children : List XmlElement}
      (own : holds child) (each : ∀ e ∈ children, holds e) :
      ∀ e ∈ insertChild child successors children, holds e := by
    intro e member
    obtain rfl | old := mem_insertChild member
    · exact own
    · exact each e old
  have changed {own : String} {change : XmlElement → XmlElement}
      (kept : ∀ e, e.name = own → holds e → holds (change e)) :
      ∀ e ∈ changeChild own change children, holds e := by
    intro e member
    obtain old | ⟨before,there,named,rfl⟩ := mem_changeChild member
    · exact each e old
    · exact kept before named (each before there)
  cases step with
  | insert child successors => exact inserted preserves each
  | append child =>
    exact List.forall_mem_append.mpr ⟨each,List.forall_mem_singleton.mpr preserves⟩
  | edit own successors change =>
    by_cases there : children.any (·.name = own) = true
    · rw [apply,if_pos there]
      exact changed preserves.2
    · rw [apply,if_neg there]
      exact inserted preserves.1 each
  | adjust own change => exact changed preserves
  | replace child successors =>
    exact inserted preserves fun e member => each e (List.mem_filter.mp member).1
  | remove own => exact fun e member => each e (List.mem_filter.mp member).1

theorem applyAll_forall {holds : XmlElement → Prop} (each : ∀ e ∈ children, holds e)
    (preserve : ∀ step ∈ steps, step.Preserves holds) :
    ∀ e ∈ applyAll steps children, holds e := by
  induction steps generalizing children with
  | nil => exact each
  | cons step steps ih =>
    obtain ⟨first,rest⟩ := List.forall_mem_cons.mp preserve
    exact ih (apply_forall each first) rest

end ChildStep

end DocPress
