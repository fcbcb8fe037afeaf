import Mathlib
import DocPress.Document.Assembly
import DocPress.Proofs.Document.Reached
import DocPress.Proofs.Package.Definition

/-! Whether the items of an ordered list all count in one counter. They do unless a list within them
opens a counter for ordered lists in between: the counter of a family that is in use is the one opened
last, and a list never goes back to its own. -/

namespace DocPress

open XmlElement

/-- The counters that the numbered paragraphs of a file count in, in the order of the file. -/
def Package.numIds (p : Package) : List (Option String) :=
  (allNamed "w:numPr" p.body).map (·.childValue? "w:numId")

def CountedItem.opens (e : CountedItem) : Bool := e.ref.opensFor orderedReference

theorem itemRef_opens (level : Int) (ordered : Bool) (start : Option Int) :
    (itemRef level ordered start).opensFor orderedReference = (ordered && start.isSome) := by
  cases ordered <;> simp [itemRef,NumberingRef.opensFor,NumberingRef.opens,orderedReference,
    bulletReference]

theorem split_behind {α : Type} {front rest before after : List α} {a : α}
    (split : front ++ rest = before ++ a :: after) (absent : a ∉ front) :
    ∃ between, before = front ++ between ∧ rest = between ++ a :: after := by
  induction front generalizing before with
  | nil => exact ⟨before,rfl,split⟩
  | cons b front ih =>
    cases before with
    | nil => exact absurd (List.mem_cons.mpr (.inl (List.cons.inj split).1.symm)) absent
    | cons d before =>
      obtain ⟨rfl,tail⟩ := List.cons.inj split
      obtain ⟨between,rfl,rest⟩ := ih tail fun member => absent (List.mem_cons_of_mem _ member)
      exact ⟨between,rfl,rest⟩

theorem split_before {α : Type} {items back before after : List α} {a : α}
    (split : items ++ back = before ++ a :: after) (absent : a ∉ back) :
    ∃ between, after = between ++ back ∧ items = before ++ a :: between := by
  obtain ⟨left,rfl,right⟩ | ⟨left,rfl,right⟩ := List.append_eq_append_iff.mp split
  · exact absurd (by simp [right]) absent
  · cases left with
    | nil => exact absurd (by rw [← List.nil_append back,← right]; simp) absent
    | cons b between =>
      obtain ⟨rfl,rfl⟩ := List.cons.inj right
      exact ⟨between,rfl,rfl⟩

namespace Node

mutual

/-- Does a block in a list, ordered or not, open a counter for ordered lists? An ordered list does
with its first counted item, unless it stands in an ordered list itself. -/
def reopens (ordered : Bool) : Node → Bool
  | mk .document _ cs => forestReopens ordered cs
  | mk .blockquote _ cs => forestReopens ordered cs
  | mk .list p cs => (p.ordered && ! ordered && cs.any isCounted) || listReopens p.ordered cs
  | mk _ _ _ => false

def forestReopens (ordered : Bool) : List Node → Bool
  | [] => false
  | n :: ns => n.reopens ordered || forestReopens ordered ns

def listReopens (ordered : Bool) : List Node → Bool
  | [] => false
  | mk .listItem _ cs :: items => forestReopens ordered cs || listReopens ordered items
  | n :: items => n.reopens ordered || listReopens ordered items

end

/-- Does something below a child of a list open a counter for ordered lists? -/
def childReopens (ordered : Bool) : Node → Bool
  | mk .listItem _ cs => forestReopens ordered cs
  | n => n.reopens ordered

theorem forestReopens_eq (ordered : Bool) (ns : List Node) :
    forestReopens ordered ns = ns.any (reopens ordered) := by
  induction ns with
  | nil => rw [forestReopens,List.any_nil]
  | cons n ns ih => rw [forestReopens,ih,List.any_cons]

theorem listReopens_eq (ordered : Bool) (items : List Node) :
    listReopens ordered items = items.any (childReopens ordered) := by
  induction items with
  | nil => rw [listReopens,List.any_nil]
  | cons n items ih =>
    obtain ⟨k,p,cs⟩ := n
    rw [List.any_cons,← ih]
    cases k <;> rw [listReopens] <;> simp [childReopens]

/-! ### Which items open counters -/

variable {level : Int} {ordered : Bool} {start : Option Int} {path : List Nat} {i : Nat}

theorem ownItem_opens (n : Node) : (n.ownItem level ordered start path i).any CountedItem.opens =
    (n.isCounted && ordered && start.isSome) := by
  unfold ownItem
  cases n.isCounted <;> simp [CountedItem.opens,itemRef_opens]

structure Opens (n : Node) : Prop where
  block : ∀ level ordered path,
    (n.countedItems (some ⟨level,ordered⟩) path).any CountedItem.opens = n.reopens ordered
  child : ∀ level ordered path,
    (n.childItems (some ⟨level,ordered⟩) path).any CountedItem.opens = n.childReopens ordered

theorem forestItems_opens {ns : List Node} (opens : ∀ n ∈ ns, n.Opens) :
    (forestItems (some ⟨level,ordered⟩) path i ns).any CountedItem.opens =
      ns.any (reopens ordered) := by
  induction ns generalizing i with
  | nil => simp [forestItems]
  | cons n ns ih =>
    obtain ⟨first,rest⟩ := List.forall_mem_cons.mp opens
    rw [forestItems,List.any_append,first.block,ih rest,List.any_cons]

/-- The pending start of an ordered list opens a counter when the list has an item that counts. -/
theorem listItems_opens {items : List Node} (opens : ∀ n ∈ items, n.Opens) :
    (listItems level ordered start path i items).any CountedItem.opens =
      ((ordered && start.isSome && items.any isCounted) || items.any (childReopens ordered)) := by
  induction items generalizing start i with
  | nil => simp [listItems]
  | cons n items ih =>
    obtain ⟨first,rest⟩ := List.forall_mem_cons.mp opens
    rw [listItems_cons,List.any_append,List.any_append,ownItem_opens,first.child,ih rest,
      List.any_cons,List.any_cons]
    cases n.isCounted <;> cases ordered <;> cases start <;> simp [Bool.or_left_comm]

theorem opens (n : Node) : n.Opens := by
  induction n using Node.induct with
  | step k p cs ih =>
    have block (level : Int) (ordered : Bool) (path : List Nat) :
        ((mk k p cs).countedItems (some ⟨level,ordered⟩) path).any CountedItem.opens =
          (mk k p cs).reopens ordered := by
      cases k with
      | document | blockquote => rw [countedItems,reopens,forestReopens_eq,forestItems_opens ih]
      | list =>
        rw [countedItems,reopens,listReopens_eq,listItems_opens ih]
        cases p.ordered <;> cases ordered <;> simp [listStart]
      | _ => rfl
    refine ⟨block,fun level ordered path => ?_⟩
    cases k with
    | listItem => rw [childItems,childReopens,forestReopens_eq,forestItems_opens ih]
    | _ => exact block level ordered path

/-! ### The items of a list among those below it -/

theorem own_notMem_childItems {n : Node} {ctx : Option ListContext} {e : CountedItem}
    (own : e.list = path) : e ∉ n.childItems ctx (path ++ [i]) :=
  fun member => not_below_own own (n.countedItems_below.2 ctx _ e member)

theorem mem_listItems_own {items : List Node} {e : CountedItem} (own : e.list = path) :
    e ∈ listItems level ordered start path i items ↔
      ∃ front n rest, items = front ++ n :: rest ∧ n.isCounted = true ∧
        e = ⟨path,i + front.length,itemRef level ordered (pending start front)⟩ := by
  rw [mem_listItems]
  constructor
  · rintro ⟨front,n,rest,rfl,⟨counted,rfl⟩ | inner⟩
    · exact ⟨front,n,rest,rfl,counted,rfl⟩
    · exact absurd inner (own_notMem_childItems own)
  · rintro ⟨front,n,rest,rfl,counted,rfl⟩
    exact ⟨front,n,rest,rfl,.inl ⟨counted,rfl⟩⟩

/-- An item of the list itself stands between what the children before it and behind it give. -/
theorem listItems_own {items : List Node} {before after : List CountedItem} {e : CountedItem}
    (split : listItems level ordered start path i items = before ++ e :: after)
    (own : e.list = path) :
    ∃ first n rest, items = first ++ n :: rest ∧ n.isCounted ∧
      before = listItems level ordered start path i first ∧
      e.ref = itemRef level ordered (pending start first) ∧
      after = n.childItems (some ⟨level,ordered⟩) (path ++ [i + first.length]) ++
        listItems level ordered none path (i + first.length + 1) rest := by
  induction items generalizing start i before with
  | nil => simp [listItems] at split
  | cons n items ih =>
    -- either the first child is the item, or the item comes behind all that the first child gives
    by_cases here : n.isCounted ∧ before = []
    · obtain ⟨counted,rfl⟩ := here
      simp only [listItems_cons,ownItem,counted,if_true,List.cons_append,
        List.nil_append,List.cons.injEq] at split
      obtain ⟨rfl,rfl⟩ := split
      exact ⟨[],n,items,rfl,counted,by rw [listItems],by simp [pending],by simp⟩
    · have later : ∃ between, before = (n.ownItem level ordered start path i ++
            n.childItems (some ⟨level,ordered⟩) (path ++ [i])) ++ between ∧
          listItems level ordered (if n.isCounted then none else start) path (i + 1) items =
            between ++ e :: after := by
        rw [listItems_cons,List.append_assoc] at split
        cases counted : n.isCounted with
        | true =>
          simp only [ownItem,counted,if_true,List.cons_append,List.nil_append] at split ⊢
          cases before with
          | nil => exact absurd ⟨counted,rfl⟩ here
          | cons b before =>
            obtain ⟨rfl,tail⟩ := List.cons.inj split
            obtain ⟨between,rfl,others⟩ := split_behind tail (own_notMem_childItems own)
            exact ⟨between,rfl,others⟩
        | false =>
          simp only [ownItem,counted,Bool.false_eq_true,if_false,List.nil_append] at split ⊢
          obtain ⟨between,rfl,others⟩ := split_behind split (own_notMem_childItems own)
          exact ⟨between,rfl,others⟩
      obtain ⟨between,rfl,tail⟩ := later
      obtain ⟨first,m,rest,rfl,counted,rfl,ref,behind⟩ := ih tail
      refine ⟨n :: first,m,rest,rfl,counted,by rw [listItems_cons],?_,?_⟩
      · rw [ref,pending_cons]
      · rw [behind,List.length_cons,Nat.add_assoc i 1,Nat.add_comm 1]

/-! ### The list and its counters -/

/-- Nothing between two items of a list opens a counter for ordered lists. -/
def Steady (path : List Nat) (items : List CountedItem) : Prop :=
  ∀ before e between f after, items = before ++ e :: (between ++ f :: after) → e.list = path →
    f.list = path → ∀ x ∈ between ++ [f], x.opens = false

/-- No child of an ordered list that stands in front of a counted item, and not in front of the first
one, opens a counter for ordered lists. -/
def Unbroken (items : List Node) : Prop :=
  ∀ before n between m after, items = before ++ n :: (between ++ m :: after) → n.isCounted →
    m.isCounted → ∀ d ∈ n :: between, d.childReopens true = false

theorem unbroken_of_quiet {items : List Node} (quiet : ∀ d ∈ items, d.childReopens true = false) :
    Unbroken items := by
  rintro before n between m after rfl _ _ d member
  refine quiet d (List.mem_append_right _ ?_)
  rw [← List.cons_append]
  exact List.mem_append_left _ member

theorem childItems_quiet {n : Node} :
    (∀ e ∈ n.childItems (some ⟨level,ordered⟩) path, e.opens = false) ↔
      n.childReopens ordered = false := by
  rw [← n.opens.child level ordered path,List.any_eq_false]
  simp

theorem listItems_quiet {items : List Node} :
    (∀ e ∈ listItems level ordered none path i items, e.opens = false) ↔
      ∀ d ∈ items, d.childReopens ordered = false := by
  have quiet : (listItems level ordered none path i items).any CountedItem.opens = false ↔
      items.any (childReopens ordered) = false := by
    rw [listItems_opens fun n _ => n.opens,Option.isSome_none,Bool.and_false,Bool.false_and,
      Bool.false_or]
  simpa [List.any_eq_false] using quiet

/-- An ordered list is steady when its children leave it unbroken. -/
theorem listItems_steady {items : List Node} :
    Steady path (listItems level true start path 0 items) ↔ Unbroken items := by
  constructor
  · rintro steady before n between m after rfl n_counted m_counted
    have quiet := steady (listItems level true start path 0 before) ⟨path,_,_⟩
      (n.childItems (some ⟨level,true⟩) (path ++ [before.length]) ++
        listItems level true none path (before.length + 1) between) ⟨path,_,_⟩ _ (by
        rw [listItems_append,listItems_cons,listItems_append,listItems_cons]
        simp only [ownItem,n_counted,m_counted,if_true,Nat.zero_add,List.append_assoc,
          List.singleton_append]
        rfl) rfl rfl
    obtain ⟨inner,_⟩ := List.forall_mem_append.mp quiet
    obtain ⟨n_quiet,others_quiet⟩ := List.forall_mem_append.mp inner
    exact List.forall_mem_cons.mpr ⟨childItems_quiet.mp n_quiet,listItems_quiet.mp others_quiet⟩
  · intro unbroken before e between f after split e_own f_own
    obtain ⟨first,n,rest,rfl,n_counted,rfl,_,behind⟩ := listItems_own split e_own
    obtain ⟨middle,rfl,tail⟩ := split_behind behind.symm (own_notMem_childItems f_own)
    obtain ⟨others,m,last,rfl,m_counted,rfl,ref,_⟩ := listItems_own tail f_own
    have quiet := unbroken first n others m last rfl n_counted m_counted
    obtain ⟨n_quiet,others_quiet⟩ := List.forall_mem_cons.mp quiet
    refine List.forall_mem_append.mpr ⟨List.forall_mem_append.mpr ⟨?_,?_⟩,?_⟩
    · exact childItems_quiet.mpr n_quiet
    · exact listItems_quiet.mpr others_quiet
    · refine List.forall_mem_singleton.mpr ?_
      rw [CountedItem.opens,ref,itemRef_opens,pending]
      split <;> rfl

theorem own_notMem_outside {items : List CountedItem} {e : CountedItem}
    (outside : ∀ e ∈ items, ¬ Below path e) (own : e.list = path) : e ∉ items :=
  fun member => outside e member (own ▸ List.prefix_rfl)

/-- Only what stands in the list counts for it. -/
theorem Segment.steady {doc : Node} {items : List CountedItem} (segment : Segment doc path items) :
    Steady path doc.documentItems ↔ Steady path items := by
  obtain ⟨left,right,whole,outside⟩ := segment
  obtain ⟨left_out,right_out⟩ := List.forall_mem_append.mp outside
  constructor
  · rintro steady before e between f after rfl e_own f_own
    exact steady (left ++ before) e between f (after ++ right) (by rw [whole]; simp) e_own f_own
  · intro steady before e between f after split e_own f_own
    rw [whole,List.append_assoc] at split
    obtain ⟨front,rfl,inner⟩ := split_behind split (own_notMem_outside left_out e_own)
    rw [← List.cons_append,← List.append_assoc] at inner
    obtain ⟨back,rfl,here⟩ := split_before inner (own_notMem_outside right_out f_own)
    exact steady front e between f back (by rw [here]; simp) e_own f_own

theorem Reached.mem_own {doc : Node} {p : NodeProps} {cs : List Node} {ctx : Option ListContext}
    (reached : doc.Reached path (mk .list p cs) ctx) {e : CountedItem} (own : e.list = path) :
    e ∈ doc.documentItems ↔ e ∈ listItems (listLevel ctx) p.ordered
      (listStart ctx p.ordered p.start) path 0 cs := by
  obtain ⟨left,right,whole,outside⟩ := reached.segment
  obtain ⟨left_out,right_out⟩ := List.forall_mem_append.mp outside
  rw [countedItems] at whole
  simp [whole,own_notMem_outside left_out own,own_notMem_outside right_out own]

theorem Reached.own_ref {doc : Node} {p : NodeProps} {cs : List Node} {ctx : Option ListContext}
    (reached : doc.Reached path (mk .list p cs) ctx) (ordered : p.ordered = true) {e : CountedItem}
    (member : e ∈ doc.documentItems) (own : e.list = path) :
    e.ref.reference = orderedReference ∧ e.ref.level = min (listLevel ctx) maxListLevel := by
  obtain ⟨_,_,_,_,_,rfl⟩ := (mem_listItems_own own).mp ((reached.mem_own own).mp member)
  exact ⟨by rw [itemRef,ordered]; rfl,rfl⟩

def OneCounter (p : Package) (path : List Nat) (items : List CountedItem) : Prop :=
  ∀ (j k : Nat) (e f : CountedItem), items[j]? = some e → e.list = path → items[k]? = some f →
    f.list = path → p.numIds[j]? = p.numIds[k]?

section

variable {doc : Node} {c : StyleConfig} {images : ImageCache} {title : String} {package : Package}
  (encoded : (encode (assemble (doc.documentBlocks c images) c title)).result = .ok package)

include encoded

/-- Each counted item has its numbered paragraph, and that its level and its counter. -/
theorem marks_at {k : Nat} {e : CountedItem} (found : doc.documentItems[k]? = some e) :
    (allNamed "w:numPr" package.body)[k]? = some (markXml e.ref
      (((Counting.ofDefinitions (buildNumbering c)).after
        ((doc.documentItems.take (k + 1)).map CountedItem.ref)).current e.ref.reference)) := by
  obtain ⟨marks,_⟩ := Build.encode_numbering encoded
  have refs : (assemble (doc.documentBlocks c images) c title).references =
      doc.documentItems.map CountedItem.ref := documentBlocks_references doc
  have there : (doc.documentItems.map CountedItem.ref)[k]? = some e.ref := by simp [found]
  rw [marks,refs,Counting.marks_getElem? there,List.map_take]
  rfl

theorem marks_length : (allNamed "w:numPr" package.body).length = doc.documentItems.length := by
  obtain ⟨marks,_⟩ := Build.encode_numbering encoded
  have refs : (assemble (doc.documentBlocks c images) c title).references =
      doc.documentItems.map CountedItem.ref := documentBlocks_references doc
  simp [marks,refs,Counting.marks]

theorem numIds_at {before after : List CountedItem} {e : CountedItem}
    (split : doc.documentItems = before ++ e :: after) :
    package.numIds[before.length]? = some (some (toString
      (((Counting.ofDefinitions (buildNumbering c)).after
        ((before ++ [e]).map CountedItem.ref)).current e.ref.reference))) := by
  have found : doc.documentItems[before.length]? = some e := by simp [split]
  have taken : doc.documentItems.take (before.length + 1) = before ++ [e] := by
    simp [split,List.take_append]
  rw [Package.numIds,List.getElem?_map,marks_at encoded found,taken]
  rfl

theorem numIds_length : package.numIds.length = doc.documentItems.length :=
  (List.length_map _).trans (marks_length encoded)

/-- Two items count in one counter when the counter of the earlier one is in use for the later one. -/
theorem numIds_eq_iff_current {before between after : List CountedItem} {e f : CountedItem}
    (split : doc.documentItems = before ++ e :: (between ++ f :: after)) :
    package.numIds[before.length]? = package.numIds[(before ++ e :: between).length]? ↔
      ((Counting.ofDefinitions (buildNumbering c)).after
          ((before ++ [e]).map CountedItem.ref)).current e.ref.reference =
        (((Counting.ofDefinitions (buildNumbering c)).after
          ((before ++ [e]).map CountedItem.ref)).after
          ((between ++ [f]).map CountedItem.ref)).current f.ref.reference := by
  have later : doc.documentItems = (before ++ e :: between) ++ f :: after := by rw [split]; simp
  have parts : ((before ++ e :: between) ++ [f]).map CountedItem.ref =
      (before ++ [e]).map CountedItem.ref ++ (between ++ [f]).map CountedItem.ref := by simp
  rw [numIds_at encoded split,numIds_at encoded later,parts,Counting.after_append,Option.some_inj,
    Option.some_inj]
  exact Nat.repr_inj

/-- Two items of ordered lists count in one counter exactly when none is opened in between. -/
theorem numIds_eq_iff {before between after : List CountedItem} {e f : CountedItem}
    (split : doc.documentItems = before ++ e :: (between ++ f :: after))
    (e_ref : e.ref.reference = orderedReference) (f_ref : f.ref.reference = orderedReference) :
    package.numIds[before.length]? = package.numIds[(before ++ e :: between).length]? ↔
      ∀ x ∈ between ++ [f], x.opens = false := by
  have given : ((Counting.ofDefinitions (buildNumbering c)).after
      ((before ++ [e]).map CountedItem.ref)).Given := (Counting.given_ofDefinitions _).after
  rw [numIds_eq_iff_current encoded split,e_ref,f_ref]
  exact eq_comm.trans ((Counting.current_after_eq_iff given).trans List.forall_mem_map)

theorem oneCounter_iff (path : List Nat)
    (ordered : ∀ e ∈ doc.documentItems, e.list = path → e.ref.reference = orderedReference) :
    OneCounter package path doc.documentItems ↔ Steady path doc.documentItems := by
  constructor
  · intro one before e between f after split e_own f_own
    have later : doc.documentItems = (before ++ e :: between) ++ f :: after := by rw [split]; simp
    refine (numIds_eq_iff encoded split (ordered e (by simp [split]) e_own)
      (ordered f (by simp [split]) f_own)).mp ?_
    exact one _ _ e f (by simp [split]) e_own (by simp [later]) f_own
  · intro steady
    have apart (j k : Nat) (less : j < k) (e f : CountedItem)
        (first : doc.documentItems[j]? = some e) (e_own : e.list = path)
        (second : doc.documentItems[k]? = some f) (f_own : f.list = path) :
        package.numIds[j]? = package.numIds[k]? := by
      obtain ⟨before,between,after,split,rfl,rfl⟩ := split_at_places less first second
      exact (numIds_eq_iff encoded split (ordered e (List.mem_of_getElem? first) e_own)
        (ordered f (List.mem_of_getElem? second) f_own)).mpr
          (steady _ e between f after split e_own f_own)
    intro j k e f first e_own second f_own
    obtain less | rfl | more := Nat.lt_trichotomy j k
    · exact apart j k less e f first e_own second f_own
    · rfl
    · exact (apart k j more f e second f_own first e_own).symm

/-- Each counted item of a tree has its paragraph in the file, and those of an ordered list count in
one counter exactly when the list is unbroken. -/
theorem orderedList_oneCounter_iff {path : List Nat} {p : NodeProps} {cs : List Node}
    {ctx : Option ListContext} (reached : doc.Reached path (mk .list p cs) ctx)
    (ordered : p.ordered = true) :
    package.numIds.length = doc.documentItems.length ∧
      (OneCounter package path doc.documentItems ↔ Unbroken cs) := by
  have segment := reached.segment
  rw [countedItems,ordered] at segment
  refine ⟨numIds_length encoded,?_⟩
  rw [oneCounter_iff encoded path fun e member own => (reached.own_ref ordered member own).1,
    segment.steady,listItems_steady]

end

def nestedList : Node := mk .document {} [mk .list { ordered := true } [
  mk .listItem {} [mk .paragraph {} [],mk .list { ordered := true } [mk .listItem {} []]],
  mk .listItem {} []]]

/-- An ordered list with a bullet list in its first item, and an ordered list in that one. -/
def crossedList : Node := mk .document {} [mk .list { ordered := true } [
  mk .listItem {} [mk .paragraph {} [],mk .list {} [
    mk .listItem {} [mk .paragraph {} [],mk .list { ordered := true } [mk .listItem {} []]]]],
  mk .listItem {} []]]

theorem nestedList_oneCounter :
    ∃ package, (encode (assemble (nestedList.documentBlocks {} []) {} "")).result = .ok package ∧
      OneCounter package [0] nestedList.documentItems := by
  obtain ⟨package,encoded⟩ := Build.encoded_of_isOk
    (m := assemble (nestedList.documentBlocks {} []) {} "") (by decide +kernel)
  refine ⟨package,encoded,(orderedList_oneCounter_iff encoded (.root rfl) rfl).2.mpr ?_⟩
  exact unbroken_of_quiet (by decide)

theorem crossedList_not_oneCounter :
    ∃ package, (encode (assemble (crossedList.documentBlocks {} []) {} "")).result = .ok package ∧
      (∃ cs, crossedList.Reached [0] (mk .list { ordered := true } cs) none) ∧
      package.numIds = [some "12",some "10",some "13",some "13"] ∧
      ¬ OneCounter package [0] crossedList.documentItems := by
  obtain ⟨package,encoded⟩ := Build.encoded_of_isOk
    (m := assemble (crossedList.documentBlocks {} []) {} "") (by decide +kernel)
  have counters : package.numIds = [some "12",some "10",some "13",some "13"] := by
    have computed : (encode (assemble (crossedList.documentBlocks {} []) {} "")).result.toOption.map
        Package.numIds = some [some "12",some "10",some "13",some "13"] := by decide +kernel
    rw [encoded] at computed
    exact Option.some.inj computed
  refine ⟨package,encoded,⟨_,.root rfl⟩,counters,fun one => ?_⟩
  have same := one 0 3 _ _ rfl rfl rfl rfl
  rw [counters] at same
  simp at same

end Node

end DocPress
