import DocPress.Proofs.Document.CountedItem

/-! What of a tree is reached while it becomes a document, and where the counted items of it stand.
Main statements: those of a node that is reached stand together, and no others lie below the way to it
(`Reached.segment`); each of them is an item of a list that is reached (`documentItems_listed`). -/

namespace DocPress

theorem split_at_place {α : Type} {items : List α} {i : Nat} {a : α} (found : items[i]? = some a) :
    ∃ before after, items = before ++ a :: after ∧ before.length = i := by
  obtain ⟨inside,rfl⟩ := List.getElem?_eq_some_iff.mp found
  refine ⟨items.take i,items.drop (i + 1),?_,List.length_take_of_le (Nat.le_of_lt inside)⟩
  rw [List.getElem_cons_drop inside,List.take_append_drop]

theorem split_at_places {α : Type} {items : List α} {j k : Nat} {a b : α} (less : j < k)
    (first : items[j]? = some a) (second : items[k]? = some b) :
    ∃ before between after, items = before ++ a :: (between ++ b :: after) ∧
      before.length = j ∧ (before ++ a :: between).length = k := by
  obtain ⟨before,rest,rfl,rfl⟩ := split_at_place first
  obtain ⟨n,rfl⟩ : ∃ n, k = before.length + 1 + n := ⟨k - (before.length + 1),by omega⟩
  have behind : rest[n]? = some b := by
    rw [List.getElem?_append_right (by omega)] at second
    rw [← second,show before.length + 1 + n - before.length = n + 1 by omega]
    rfl
  obtain ⟨between,after,rfl,rfl⟩ := split_at_place behind
  refine ⟨before,between,after,rfl,rfl,?_⟩
  simp only [List.length_append,List.length_cons]
  omega

namespace Node

/-! ### Items before and after a node -/

variable {ctx : Option ListContext} {level : Int} {ordered : Bool} {start : Option Int}
  {path : List Nat} {i : Nat}

theorem forestItems_append (ns ms : List Node) :
    forestItems ctx path i (ns ++ ms) =
      forestItems ctx path i ns ++ forestItems ctx path (i + ns.length) ms := by
  induction ns generalizing i with
  | nil => simp [forestItems]
  | cons n ns ih =>
    rw [List.cons_append,forestItems,ih,forestItems,List.length_cons,List.append_assoc,
      Nat.add_assoc,Nat.add_comm 1]

/-- What is left of a pending start behind some children of a list. -/
def pending (start : Option Int) (items : List Node) : Option Int :=
  if items.any isCounted then none else start

theorem pending_cons (n : Node) (items : List Node) :
    pending start (n :: items) = pending (if n.isCounted then none else start) items := by
  unfold pending
  cases counted : n.isCounted <;> simp [counted]

theorem listItems_append (items more : List Node) :
    listItems level ordered start path i (items ++ more) =
      listItems level ordered start path i items ++
        listItems level ordered (pending start items) path (i + items.length) more := by
  induction items generalizing start i with
  | nil => simp [listItems,pending]
  | cons n items ih =>
    rw [List.cons_append,listItems_cons,listItems_cons,ih,pending_cons,List.length_cons,
      Nat.add_assoc i 1,Nat.add_comm 1,List.append_assoc _ (listItems ..)]

/-! ### What is among the items -/

theorem mem_forestItems {ns : List Node} {e : CountedItem} :
    e ∈ forestItems ctx path i ns ↔
      ∃ front n rest, ns = front ++ n :: rest ∧
        e ∈ n.countedItems ctx (path ++ [i + front.length]) := by
  constructor
  · intro member
    induction ns generalizing i with
    | nil => simp [forestItems] at member
    | cons n ns ih =>
      rw [forestItems] at member
      obtain here | later := List.mem_append.mp member
      · exact ⟨[],n,ns,rfl,here⟩
      · obtain ⟨front,m,rest,rfl,found⟩ := ih later
        refine ⟨n :: front,m,rest,rfl,?_⟩
        rwa [List.length_cons,Nat.add_comm front.length,← Nat.add_assoc]
  · rintro ⟨front,n,rest,rfl,found⟩
    rw [forestItems_append,forestItems]
    exact List.mem_append_right _ (List.mem_append_left _ found)

/-- What a list gives is its counted children, with what is left of its start, and what stands below
its children. -/
theorem mem_listItems {items : List Node} {e : CountedItem} :
    e ∈ listItems level ordered start path i items ↔
      ∃ front n rest, items = front ++ n :: rest ∧
        ((n.isCounted = true ∧
            e = ⟨path,i + front.length,itemRef level ordered (pending start front)⟩) ∨
          e ∈ n.childItems (some ⟨level,ordered⟩) (path ++ [i + front.length])) := by
  constructor
  · intro member
    induction items generalizing start i with
    | nil => simp [listItems] at member
    | cons n items ih =>
      rw [listItems_cons] at member
      obtain here | later := List.mem_append.mp member
      · exact ⟨[],n,items,rfl,(List.mem_append.mp here).imp_left mem_ownItem.mp⟩
      · obtain ⟨front,m,rest,rfl,found⟩ := ih later
        refine ⟨n :: front,m,rest,rfl,?_⟩
        rwa [pending_cons,List.length_cons,Nat.add_comm front.length,← Nat.add_assoc]
  · rintro ⟨front,n,rest,rfl,found⟩
    rw [listItems_append,listItems_cons]
    refine List.mem_append_right _ (List.mem_append_left _ ?_)
    exact List.mem_append.mpr (found.imp_left mem_ownItem.mpr)

/-- All items in a node lie at least as deep as a list would that stood in its place. -/
theorem countedItems_deep (n : Node) : (∀ ctx path, ∀ e ∈ n.countedItems ctx path,
    min (listLevel ctx) maxListLevel ≤ e.ref.level) ∧
    ∀ ctx path, ∀ e ∈ n.childItems ctx path, min (listLevel ctx) maxListLevel ≤ e.ref.level := by
  induction n using Node.induct with
  | step k p cs ih =>
    have forest (ctx : Option ListContext) (path : List Nat) :
        ∀ e ∈ forestItems ctx path 0 cs, min (listLevel ctx) maxListLevel ≤ e.ref.level := by
      intro e member
      obtain ⟨_,n,_,rfl,found⟩ := mem_forestItems.mp member
      exact (ih n (by simp)).1 ctx _ e found
    have each (ctx : Option ListContext) (path : List Nat) :
        ∀ e ∈ (mk k p cs).countedItems ctx path, min (listLevel ctx) maxListLevel ≤ e.ref.level := by
      intro e member
      cases k with
      | document | blockquote => exact forest ctx path e (by rwa [countedItems] at member)
      | list =>
        rw [countedItems] at member
        obtain ⟨_,n,_,rfl,⟨_,rfl⟩ | found⟩ := mem_listItems.mp member
        · exact Int.le_refl _
        · have deeper := (ih n (by simp)).2 _ _ e found
          simp only [listLevel] at deeper ⊢
          omega
      | _ => cases member
    refine ⟨each,fun ctx path e member => ?_⟩
    cases k with
    | listItem => exact forest ctx path e member
    | _ => exact each ctx path e member

/-! ### The ways to the lists -/

/-- The list of the item lies below this way. -/
def Below (path : List Nat) (e : CountedItem) : Prop := path <+: e.list

theorem Below.above {e : CountedItem} {more : List Nat} (below : Below (path ++ more) e) :
    Below path e := (List.prefix_append path more).trans below

/-- The ways through different children lead to different lists. -/
theorem Below.same_child {e : CountedItem} {i j : Nat} (first : Below (path ++ [i]) e)
    (second : Below (path ++ [j]) e) : i = j := by
  have same := List.prefix_of_prefix_length_le first second (by simp)
  simpa using same

theorem forestItems_below {ns : List Node}
    (each : ∀ n ∈ ns, ∀ ctx path, ∀ e ∈ n.countedItems ctx path, Below path e) :
    ∀ e ∈ forestItems ctx path i ns, ∃ j, i ≤ j ∧ j < i + ns.length ∧ Below (path ++ [j]) e := by
  induction ns generalizing i with
  | nil => simp [forestItems]
  | cons n ns ih =>
    obtain ⟨first,rest⟩ := List.forall_mem_cons.mp each
    rw [forestItems,List.length_cons]
    refine List.forall_mem_append.mpr ⟨fun e member => ?_,fun e member => ?_⟩
    · exact ⟨i,by omega,by omega,first ctx _ e member⟩
    · obtain ⟨j,above,under,below⟩ := ih rest e member
      exact ⟨j,by omega,by omega,below⟩

theorem childItems_below {k : NodeKind} {p : NodeProps} {cs : List Node}
    (each : ∀ ctx path, ∀ e ∈ (mk k p cs).countedItems ctx path, Below path e)
    (inside : ∀ n ∈ cs, ∀ ctx path, ∀ e ∈ n.countedItems ctx path, Below path e) :
    ∀ e ∈ (mk k p cs).childItems ctx path, Below path e := by
  intro e member
  cases k with
  | listItem =>
    obtain ⟨_,_,_,below⟩ := forestItems_below inside e member
    exact below.above
  | _ => exact each ctx path e member

/-- An item in some children of a list is an item of the list or lies below one of them. -/
theorem listItems_below {items : List Node}
    (each : ∀ n ∈ items, ∀ ctx path, ∀ e ∈ n.childItems ctx path, Below path e) :
    ∀ e ∈ listItems level ordered start path i items,
      ∃ j, i ≤ j ∧ j < i + items.length ∧ (e.list = path ∨ Below (path ++ [j]) e) := by
  induction items generalizing start i with
  | nil => simp [listItems]
  | cons n items ih =>
    obtain ⟨first,rest⟩ := List.forall_mem_cons.mp each
    rw [listItems_cons,List.length_cons]
    refine List.forall_mem_append.mpr ⟨List.forall_mem_append.mpr ⟨fun e member => ?_,?_⟩,?_⟩
    · obtain ⟨_,rfl⟩ := mem_ownItem.mp member
      exact ⟨i,by omega,by omega,.inl rfl⟩
    · exact fun e member => ⟨i,by omega,by omega,.inr (first _ _ e member)⟩
    · intro e member
      obtain ⟨j,above,under,place⟩ := ih rest e member
      exact ⟨j,by omega,by omega,place⟩

/-- The way to the list of an item leads through the node that the item is in. -/
theorem countedItems_below (n : Node) :
    (∀ ctx path, ∀ e ∈ n.countedItems ctx path, Below path e) ∧
      ∀ ctx path, ∀ e ∈ n.childItems ctx path, Below path e := by
  induction n using Node.induct with
  | step k p cs ih =>
    have each (ctx : Option ListContext) (path : List Nat) :
        ∀ e ∈ (mk k p cs).countedItems ctx path, Below path e := by
      intro e member
      cases k with
      | document | blockquote =>
        rw [countedItems] at member
        obtain ⟨_,_,_,below⟩ := forestItems_below (fun n inside => (ih n inside).1) e member
        exact below.above
      | list =>
        rw [countedItems] at member
        obtain ⟨_,_,_,own | below⟩ := listItems_below (fun n inside => (ih n inside).2) e member
        · exact own ▸ List.prefix_rfl
        · exact below.above
      | _ => cases member
    exact ⟨each,fun _ _ => childItems_below each fun n inside => (ih n inside).1⟩

/-! ### What is reached -/

/-- A node that becomes a block or passes blocks on, with the way to it and the list around it. -/
inductive Reached (doc : Node) : List Nat → Node → Option ListContext → Prop
  | root {i : Nat} {n : Node} (found : doc.children[i]? = some n) : Reached doc [i] n none
  | document {path : List Nat} {p : NodeProps} {cs : List Node} {ctx : Option ListContext} {i : Nat}
      {n : Node} (parent : Reached doc path (mk .document p cs) ctx) (found : cs[i]? = some n) :
      Reached doc (path ++ [i]) n ctx
  | blockquote {path : List Nat} {p : NodeProps} {cs : List Node} {ctx : Option ListContext} {i : Nat}
      {n : Node} (parent : Reached doc path (mk .blockquote p cs) ctx) (found : cs[i]? = some n) :
      Reached doc (path ++ [i]) n ctx
  | list {path : List Nat} {p : NodeProps} {cs : List Node} {ctx : Option ListContext} {i : Nat}
      {n : Node} (parent : Reached doc path (mk .list p cs) ctx) (found : cs[i]? = some n)
      (other : n.kind ≠ .listItem) :
      Reached doc (path ++ [i]) n (some ⟨listLevel ctx,p.ordered⟩)
  | item {path : List Nat} {p q : NodeProps} {cs below : List Node} {ctx : Option ListContext}
      {i j : Nat} {n : Node} (parent : Reached doc path (mk .list p cs) ctx)
      (found : cs[i]? = some (mk .listItem q below)) (inside : below[j]? = some n) :
      Reached doc (path ++ [i] ++ [j]) n (some ⟨listLevel ctx,p.ordered⟩)

/-- Some items of a document that stand together. No others lie below the way. -/
def Segment (doc : Node) (path : List Nat) (items : List CountedItem) : Prop :=
  ∃ before after, doc.documentItems = before ++ items ++ after ∧
    ∀ e ∈ before ++ after, ¬ Below path e

variable {doc : Node}

theorem Segment.narrow {items inner before after : List CountedItem} {more : List Nat}
    (segment : Segment doc path items) (split : items = before ++ inner ++ after)
    (apart : ∀ e ∈ before ++ after, ¬ Below (path ++ more) e) :
    Segment doc (path ++ more) inner := by
  obtain ⟨left,right,whole,outside⟩ := segment
  refine ⟨left ++ before,after ++ right,by rw [whole,split]; simp only [List.append_assoc],?_⟩
  intro e member
  simp only [List.mem_append] at member
  obtain (far | near) | near | far := member
  · exact fun below => outside e (List.mem_append_left _ far) below.above
  · exact apart e (List.mem_append_left _ near)
  · exact apart e (List.mem_append_right _ near)
  · exact fun below => outside e (List.mem_append_right _ far) below.above

theorem Segment.forest {ns : List Node} {j : Nat} {n : Node}
    (segment : Segment doc path (forestItems ctx path 0 ns)) (found : ns[j]? = some n) :
    Segment doc (path ++ [j]) (n.countedItems ctx (path ++ [j])) := by
  obtain ⟨before,after,rfl,rfl⟩ := split_at_place found
  rw [forestItems_append,forestItems,Nat.zero_add,← List.append_assoc] at segment
  refine segment.narrow rfl fun e member below => ?_
  obtain first | second := List.mem_append.mp member
  · obtain ⟨i,_,under,other⟩ := forestItems_below (fun n _ => n.countedItems_below.1) e first
    have := below.same_child other
    omega
  · obtain ⟨i,above,_,other⟩ := forestItems_below (fun n _ => n.countedItems_below.1) e second
    have := below.same_child other
    omega

theorem not_below_own {e : CountedItem} {j : Nat} (own : e.list = path) : ¬ Below (path ++ [j]) e := by
  intro below
  have longer := below.length_le
  rw [own,List.length_append] at longer
  exact Nat.not_succ_le_self _ longer

theorem Segment.child {items : List Node} {j : Nat} {n : Node}
    (segment : Segment doc path (listItems level ordered start path 0 items))
    (found : items[j]? = some n) :
    Segment doc (path ++ [j]) (n.childItems (some ⟨level,ordered⟩) (path ++ [j])) := by
  obtain ⟨before,after,rfl,rfl⟩ := split_at_place found
  rw [listItems_append,listItems_cons,Nat.zero_add,← List.append_assoc,
    ← List.append_assoc] at segment
  refine segment.narrow rfl fun e member below => ?_
  obtain (first | own) | last : (e ∈ _ ∨ e ∈ _) ∨ e ∈ _ := by
    simpa only [List.mem_append] using member
  · obtain ⟨i,_,under,own | other⟩ := listItems_below (fun n _ => n.countedItems_below.2) e first
    · exact not_below_own own below
    · have := below.same_child other
      omega
  · exact not_below_own (by rw [(mem_ownItem.mp own).2]) below
  · obtain ⟨i,above,_,own | other⟩ := listItems_below (fun n _ => n.countedItems_below.2) e last
    · exact not_below_own own below
    · have := below.same_child other
      omega

/-- The counted items of a node that is reached stand together. -/
theorem Reached.segment {n : Node} (reached : doc.Reached path n ctx) :
    Segment doc path (n.countedItems ctx path) := by
  induction reached with
  | root found =>
    have whole : Segment doc [] (forestItems none [] 0 doc.children) :=
      ⟨[],[],by simp [documentItems],by simp⟩
    exact whole.forest found
  | document parent found ih | blockquote parent found ih =>
    rw [countedItems] at ih
    exact ih.forest found
  | @list _ _ _ _ i n parent found other ih =>
    rw [countedItems] at ih
    have segment := ih.child found
    obtain ⟨k,p,cs⟩ := n
    cases k with
    | listItem => exact absurd rfl other
    | _ => exact segment
  | item parent found inside ih =>
    rw [countedItems] at ih
    exact (ih.child found).forest inside

/-- What stands below a list that is reached lies at least as deep as its items. -/
theorem Reached.deep {n : Node} {e : CountedItem} (reached : doc.Reached path n ctx) (member : e ∈ doc.documentItems)
    (below : Below path e) : min (listLevel ctx) maxListLevel ≤ e.ref.level := by
  obtain ⟨before,after,whole,outside⟩ := reached.segment
  rw [whole] at member
  obtain (first | inside) | last : (e ∈ before ∨ e ∈ n.countedItems ctx path) ∨ e ∈ after := by
    simpa only [List.mem_append] using member
  · exact absurd below (outside e (List.mem_append_left _ first))
  · exact n.countedItems_deep.1 ctx path e inside
  · exact absurd below (outside e (List.mem_append_right _ last))

/-- An item that counts of a list that is reached. -/
def Listed (doc : Node) (e : CountedItem) : Prop :=
  ∃ p cs ctx n start, doc.Reached e.list (mk .list p cs) ctx ∧ cs[e.place]? = some n ∧
    n.isCounted = true ∧ e.ref = itemRef (listLevel ctx) p.ordered start

/-- The items in what is reached, and in a child of a list that is, are items of lists that are. -/
theorem countedItems_listed (n : Node) :
    (∀ ctx path, doc.Reached path n ctx → ∀ e ∈ n.countedItems ctx path, doc.Listed e) ∧
      ∀ p cs ctx path i, doc.Reached path (mk .list p cs) ctx → cs[i]? = some n →
        ∀ e ∈ n.childItems (some ⟨listLevel ctx,p.ordered⟩) (path ++ [i]), doc.Listed e := by
  induction n using Node.induct with
  | step k p cs ih =>
    have each (ctx : Option ListContext) (path : List Nat) (reached : doc.Reached path (mk k p cs) ctx) :
        ∀ e ∈ (mk k p cs).countedItems ctx path, doc.Listed e := by
      intro e member
      cases k with
      | document =>
        rw [countedItems] at member
        obtain ⟨front,n,rest,rfl,found⟩ := mem_forestItems.mp member
        exact (ih n (by simp)).1 _ _ (.document reached (by simp)) e found
      | blockquote =>
        rw [countedItems] at member
        obtain ⟨front,n,rest,rfl,found⟩ := mem_forestItems.mp member
        exact (ih n (by simp)).1 _ _ (.blockquote reached (by simp)) e found
      | list =>
        rw [countedItems] at member
        obtain ⟨front,n,rest,rfl,⟨counted,rfl⟩ | found⟩ := mem_listItems.mp member
        · exact ⟨p,_,ctx,n,_,reached,by simp,counted,rfl⟩
        · exact (ih n (by simp)).2 p _ ctx path _ reached (by simp) e found
      | _ => cases member
    refine ⟨each,fun q ds ctx path i parent child e member => ?_⟩
    cases k with
    | listItem =>
      obtain ⟨front,n,rest,rfl,found⟩ := mem_forestItems.mp member
      exact (ih n (by simp)).1 _ _ (.item parent child (by simp)) e found
    | _ => exact each _ _ (.list parent child (by simp [kind])) e member

/-- Every counted item of a document is one of a list that is reached. -/
theorem documentItems_listed (doc : Node) : ∀ e ∈ doc.documentItems, doc.Listed e := by
  intro e member
  obtain ⟨front,n,rest,split,found⟩ := mem_forestItems.mp member
  exact (countedItems_listed n).1 none _ (.root (by simp [split])) e found

end Node

end DocPress
