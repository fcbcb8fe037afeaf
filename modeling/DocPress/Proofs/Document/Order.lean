import Mathlib.Data.List.Lex
import DocPress.Proofs.Document.Reached

/-! The order of the counted items of a tree. Main statements: they come in the order of the ways to
them (`documentItems_sorted`), so that an item that does not stand in a list comes before or behind all
of the list at once (`own_lt_iff`, `lt_own_iff`). -/

namespace DocPress

section

variable {way first middle last : List Nat}

theorem lt_of_extends (above : way <+: middle) (differ : way ≠ middle) : way < middle := by
  obtain ⟨rest,rfl⟩ := above
  induction way with
  | nil =>
    cases rest with
    | nil => exact absurd rfl differ
    | cons i rest => exact List.nil_lt_cons i rest
  | cons i way ih =>
    refine List.cons_lt_cons_iff.mpr (.inr ⟨rfl,ih fun same => differ ?_⟩)
    rw [List.cons_append,← same]

theorem append_lt_append_iff : way ++ first < way ++ last ↔ first < last := by
  induction way with
  | nil => rfl
  | cons i way ih => simpa [List.cons_lt_cons_iff] using ih

/-- What comes between two ways out of a node leads out of the node. -/
theorem prefix_between (lower : way ++ first < middle) (upper : middle < way ++ last) :
    ∃ rest, middle = way ++ rest ∧ first < rest ∧ rest < last := by
  induction way generalizing middle with
  | nil => exact ⟨middle,rfl,lower,upper⟩
  | cons i way ih =>
    cases middle with
    | nil => exact absurd lower (List.not_lt_nil _)
    | cons j middle =>
      rw [List.cons_append,List.cons_lt_cons_iff] at lower upper
      obtain ⟨rfl,lower,upper⟩ : i = j ∧ way ++ first < middle ∧ middle < way ++ last := by
        rcases lower with less | ⟨rfl,lower⟩ <;> rcases upper with more | ⟨same,upper⟩ <;> grind
      obtain ⟨rest,rfl,bounds⟩ := ih lower upper
      exact ⟨rest,rfl,bounds⟩

end

/-- The way to the item itself. -/
def CountedItem.spot (e : CountedItem) : List Nat := e.list ++ [e.place]

namespace Node

variable {ctx : Option ListContext} {level : Int} {ordered : Bool} {start : Option Int}
  {path : List Nat} {i : Nat} {doc : Node}

/-! ### Order -/

def Sorted (items : List CountedItem) : Prop := items.Pairwise fun e f => e.spot < f.spot

theorem Below.spot {e : CountedItem} (below : Below (path ++ [i]) e) :
    ∃ rest, e.spot = path ++ i :: rest ∧ rest ≠ [] := by
  obtain ⟨rest,same⟩ := below
  exact ⟨rest ++ [e.place],by simp [CountedItem.spot,← same],by simp⟩

theorem spot_lt {e f : CountedItem} {j : Nat} {left right : List Nat} (less : i < j)
    (first : e.spot = path ++ i :: left) (second : f.spot = path ++ j :: right) :
    e.spot < f.spot := by
  rw [first,second]
  exact append_lt_append_iff.mpr (List.cons_lt_cons_iff.mpr (.inl less))

theorem forestItems_from {ns : List Node} :
    ∀ e ∈ forestItems ctx path i ns, ∃ j rest, i ≤ j ∧ e.spot = path ++ j :: rest := by
  intro e member
  obtain ⟨j,above,_,below⟩ := forestItems_below (fun n _ => n.countedItems_below.1) e member
  obtain ⟨rest,spot,_⟩ := below.spot
  exact ⟨j,rest,above,spot⟩

theorem listItems_from {items : List Node} :
    ∀ e ∈ listItems level ordered start path i items,
      ∃ j rest, i ≤ j ∧ e.spot = path ++ j :: rest := by
  induction items generalizing start i with
  | nil => simp [listItems]
  | cons n items ih =>
    rw [listItems_cons]
    refine List.forall_mem_append.mpr ⟨List.forall_mem_append.mpr ⟨?_,?_⟩,?_⟩
    · intro e member
      obtain ⟨_,rfl⟩ := mem_ownItem.mp member
      exact ⟨i,[],Nat.le_refl i,rfl⟩
    · intro e member
      obtain ⟨rest,spot,_⟩ := (n.countedItems_below.2 _ _ e member).spot
      exact ⟨i,rest,Nat.le_refl i,spot⟩
    · intro e member
      obtain ⟨j,rest,above,spot⟩ := ih e member
      exact ⟨j,rest,Nat.le_of_succ_le above,spot⟩

theorem forestItems_sorted {ns : List Node}
    (each : ∀ n ∈ ns, ∀ ctx path, Sorted (n.countedItems ctx path)) :
    Sorted (forestItems ctx path i ns) := by
  induction ns generalizing i with
  | nil => exact .nil
  | cons n ns ih =>
    obtain ⟨first,rest⟩ := List.forall_mem_cons.mp each
    rw [forestItems]
    refine List.pairwise_append.mpr ⟨first ctx _,ih rest,fun e here f behind => ?_⟩
    obtain ⟨_,e_spot,_⟩ := (n.countedItems_below.1 ctx _ e here).spot
    obtain ⟨_,_,later,f_spot⟩ := forestItems_from f behind
    exact spot_lt later e_spot f_spot

theorem listItems_sorted {items : List Node}
    (each : ∀ n ∈ items, ∀ ctx path, Sorted (n.childItems ctx path)) :
    Sorted (listItems level ordered start path i items) := by
  induction items generalizing start i with
  | nil => simp [listItems,Sorted]
  | cons n items ih =>
    obtain ⟨first,rest⟩ := List.forall_mem_cons.mp each
    have front : Sorted (n.ownItem level ordered start path i ++
        n.childItems (some ⟨level,ordered⟩) (path ++ [i])) := by
      unfold ownItem
      split
      · refine List.pairwise_cons.mpr ⟨fun e below => ?_,first _ _⟩
        obtain ⟨more,spot,differ⟩ := (n.countedItems_below.2 _ _ e below).spot
        rw [spot]
        exact append_lt_append_iff.mpr (List.cons_lt_cons_iff.mpr
          (.inr ⟨rfl,lt_of_extends List.nil_prefix differ.symm⟩))
      · exact first _ _
    rw [listItems_cons]
    refine List.pairwise_append.mpr ⟨front,ih rest,fun e here f behind => ?_⟩
    obtain ⟨_,_,later,f_spot⟩ := listItems_from f behind
    have e_spot : ∃ more, e.spot = path ++ i :: more := by
      cases List.mem_append.mp here with
      | inl own =>
        obtain ⟨_,rfl⟩ := mem_ownItem.mp own
        exact ⟨[],rfl⟩
      | inr below =>
        obtain ⟨more,spot,_⟩ := (n.countedItems_below.2 _ _ e below).spot
        exact ⟨more,spot⟩
    obtain ⟨_,e_spot⟩ := e_spot
    exact spot_lt later e_spot f_spot

theorem countedItems_sorted (n : Node) :
    (∀ ctx path, Sorted (n.countedItems ctx path)) ∧
      ∀ ctx path, Sorted (n.childItems ctx path) := by
  induction n using Node.induct with
  | step k p cs ih =>
    have each (ctx : Option ListContext) (path : List Nat) :
        Sorted ((mk k p cs).countedItems ctx path) := by
      cases k with
      | document | blockquote =>
        rw [countedItems]
        exact forestItems_sorted fun n inside => (ih n inside).1
      | list =>
        rw [countedItems]
        exact listItems_sorted fun n inside => (ih n inside).2
      | _ => exact .nil
    refine ⟨each,fun ctx path => ?_⟩
    cases k with
    | listItem => exact forestItems_sorted fun n inside => (ih n inside).1
    | _ => exact each ctx path

/-- The counted items of a document come in the order of the ways to them. -/
theorem documentItems_sorted (doc : Node) : Sorted doc.documentItems :=
  forestItems_sorted fun n _ => n.countedItems_sorted.1

theorem Sorted.places {items : List CountedItem} (sorted : Sorted items) {j k : Nat}
    {e f : CountedItem} (first : items[j]? = some e) (second : items[k]? = some f) :
    j < k ↔ e.spot < f.spot := by
  obtain ⟨j_inside,rfl⟩ := List.getElem?_eq_some_iff.mp first
  obtain ⟨k_inside,rfl⟩ := List.getElem?_eq_some_iff.mp second
  have ascends := List.pairwise_iff_getElem.mp sorted
  obtain less | rfl | more := Nat.lt_trichotomy j k
  · exact ⟨fun _ => ascends j k _ _ less,fun _ => less⟩
  · exact ⟨fun self => absurd self (Nat.lt_irrefl j),fun self => absurd self (lt_irrefl _)⟩
  · exact ⟨fun less => absurd less (Nat.lt_asymm more),
      fun less => absurd less (lt_asymm (ascends k j _ _ more))⟩

theorem spot_own_inj {e : CountedItem} {way : List Nat} {place : Nat}
    (spot : e.spot = way ++ [place]) : e.list = way := (List.append_inj' spot rfl).1

/-- Between a node and a way out of it come the items of the node and those below its children. -/
theorem below_within {e : CountedItem} {way last : List Nat} (lower : way < e.spot)
    (upper : e.spot < way ++ last) : Below way e := by
  obtain ⟨rest,spot,_⟩ := prefix_between ((List.append_nil way).symm ▸ lower) upper
  exact (List.prefix_concat_iff.mp ⟨rest,spot.symm⟩).resolve_left (ne_of_lt lower)

/-- An item that does not stand in a list comes behind an item of it when it comes behind the list. -/
theorem own_lt_iff {e x : CountedItem} (outside : ¬ Below e.list x) :
    e.spot < x.spot ↔ e.list < x.spot := by
  have inside : e.list < e.spot := lt_of_extends (List.prefix_append _ _) (by simp [CountedItem.spot])
  refine ⟨lt_trans inside,fun behind => ?_⟩
  obtain earlier | same | later := lt_trichotomy e.spot x.spot
  · exact earlier
  · exact absurd (spot_own_inj same.symm ▸ List.prefix_rfl) outside
  · exact absurd (below_within behind later) outside

theorem lt_own_iff {f x : CountedItem} (outside : ¬ Below f.list x) :
    x.spot < f.spot ↔ x.spot ≤ f.list := by
  have inside : f.list < f.spot := lt_of_extends (List.prefix_append _ _) (by simp [CountedItem.spot])
  refine ⟨fun before => not_lt.mp fun behind => ?_,fun before => lt_of_le_of_lt before inside⟩
  exact outside (below_within behind before)

end Node

end DocPress
