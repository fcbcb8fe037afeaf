import DocPress.Proofs.Document.Walk
import DocPress.Proofs.Package.Counting

/-! The items of a tree that count, in the order of the document, each with the way to the list that
it is an item of. Main statements: the paragraphs that a document numbers are its counted items, one
for one (`documentBlocks_references`), and the items of what is reached in a document stand together
(`Reached.segment`). -/

namespace DocPress

/-- An item that counts: the way to its list as the places of the nodes on it, its own place in the
list, and how its paragraph is numbered. -/
structure CountedItem where
  list : List Nat
  place : Nat
  ref : NumberingRef
  deriving DecidableEq, Repr

/-- How the paragraph of an item is numbered. -/
def itemRef (level : Int) (ordered : Bool) (start : Option Int) : NumberingRef where
  reference := if ordered then orderedReference else bulletReference
  level := min level maxListLevel
  start := start

namespace Node

mutual

def countedItems (ctx : Option ListContext) (path : List Nat) : Node → List CountedItem
  | mk .document _ cs => forestItems ctx path 0 cs
  | mk .blockquote _ cs => forestItems ctx path 0 cs
  | mk .list p cs =>
    listItems (listLevel ctx) p.ordered (listStart ctx p.ordered p.start) path 0 cs
  | mk _ _ _ => []

/-- The counted items in some blocks, the first of which is the `i`-th of its parent. -/
def forestItems (ctx : Option ListContext) (path : List Nat) (i : Nat) :
    List Node → List CountedItem
  | [] => []
  | n :: ns => n.countedItems ctx (path ++ [i]) ++ forestItems ctx path (i + 1) ns

def listItems (level : Int) (ordered : Bool) (start : Option Int) (path : List Nat) (i : Nat) :
    List Node → List CountedItem
  | [] => []
  | mk .listItem p cs :: items =>
    (if (mk .listItem p cs).isCounted then [⟨path,i,itemRef level ordered start⟩] else []) ++
      forestItems (some ⟨level,ordered⟩) (path ++ [i]) 0 cs ++
      listItems level ordered (if (mk .listItem p cs).isCounted then none else start) path (i + 1)
        items
  | n :: items =>
    n.countedItems (some ⟨level,ordered⟩) (path ++ [i]) ++
      listItems level ordered start path (i + 1) items

end

def documentItems (doc : Node) : List CountedItem := forestItems none [] 0 doc.children

/-- The counted items in what stands below a child of a list. -/
def childItems (ctx : Option ListContext) (path : List Nat) : Node → List CountedItem
  | mk .listItem _ cs => forestItems ctx path 0 cs
  | n => n.countedItems ctx path

/-- The child of a list itself, if it is an item that counts. -/
def ownItem (level : Int) (ordered : Bool) (start : Option Int) (path : List Nat) (i : Nat)
    (n : Node) : List CountedItem :=
  if n.isCounted then [⟨path,i,itemRef level ordered start⟩] else []

theorem mem_ownItem {level : Int} {ordered : Bool} {start : Option Int} {path : List Nat} {i : Nat}
    {n : Node} {e : CountedItem} :
    e ∈ n.ownItem level ordered start path i ↔
      n.isCounted = true ∧ e = ⟨path,i,itemRef level ordered start⟩ := by
  unfold ownItem
  split <;> simp [*]

theorem listItems_cons (level : Int) (ordered : Bool) (start : Option Int) (path : List Nat) (i : Nat)
    (n : Node) (items : List Node) :
    listItems level ordered start path i (n :: items) =
      n.ownItem level ordered start path i ++ n.childItems (some ⟨level,ordered⟩) (path ++ [i]) ++
        listItems level ordered (if n.isCounted then none else start) path (i + 1) items := by
  obtain ⟨k,p,cs⟩ := n
  cases k <;> rw [listItems] <;> simp [ownItem,childItems,isCounted]

/-! ### The paragraphs of the items -/

theorem references_of_unnumbered {b : Block} (unnumbered : ∀ p ∈ b.paragraphs, p.numbering = none) :
    b.references = [] :=
  List.flatMap_eq_nil_iff.mpr fun p member => by rw [unnumbered p member]; rfl

variable (c : StyleConfig) (images : ImageCache)

theorem itemLine_references (level : Int) (ordered : Bool) (start : Option Int)
    (checked : Option Bool) (line : List Inline) :
    (Block.paragraph (itemLine c level ordered start checked line)).references =
      if checked.isNone then [itemRef level ordered start] else [] := by
  cases checked <;> rfl

theorem tableRow_unnumbered (header : Bool) (row : Node) :
    ∀ cell ∈ (tableRow c images header row).cells, ∀ p ∈ cell.paragraphs, p.numbering = none := by
  refine List.forall_mem_map.mpr fun cell _ => ?_
  exact List.forall_mem_singleton.mpr rfl

theorem table_references (rows : List Node) :
    (Block.table { rows := tableRows c images rows }).references = [] := by
  refine references_of_unnumbered fun p member => ?_
  obtain ⟨row,there,member⟩ := List.mem_flatMap.mp member
  obtain ⟨cell,inside,here⟩ := List.mem_flatMap.mp member
  cases rows with
  | nil => cases there
  | cons header rows =>
    obtain rfl | rest := List.mem_cons.mp there
    · exact tableRow_unnumbered c images true header cell inside p here
    · obtain ⟨row,_,rfl⟩ := List.mem_map.mp rest
      exact tableRow_unnumbered c images false row cell inside p here

/-- The references of what a node becomes are those of its counted items, be it a block, a child of a
quote or a child of a list. -/
structure Counts (n : Node) : Prop where
  blocks : ∀ ctx path, (n.blocks c images ctx).flatMap Block.references =
    (n.countedItems ctx path).map CountedItem.ref
  quoted : ∀ ctx path, (n.quotedBlocks c images ctx).flatMap Block.references =
    (n.countedItems ctx path).map CountedItem.ref
  item : ∀ level ordered start path i,
    (n.itemBlocks c images level ordered start).flatMap Block.references =
      (n.ownItem level ordered start path i ++
        n.childItems (some ⟨level,ordered⟩) (path ++ [i])).map CountedItem.ref

variable {c images}

theorem forest_counts {ns : List Node} (counts : ∀ n ∈ ns, n.Counts c images)
    (ctx : Option ListContext) (path : List Nat) (i : Nat) :
    (ns.flatMap (blocks c images ctx)).flatMap Block.references =
      (forestItems ctx path i ns).map CountedItem.ref := by
  induction ns generalizing i with
  | nil => rfl
  | cons n ns ih =>
    obtain ⟨first,rest⟩ := List.forall_mem_cons.mp counts
    rw [List.flatMap_cons,List.flatMap_append,first.blocks ctx (path ++ [i]),ih rest (i + 1),
      forestItems,List.map_append]

theorem quote_counts {ns : List Node} (counts : ∀ n ∈ ns, n.Counts c images)
    (ctx : Option ListContext) (path : List Nat) (i : Nat) :
    (ns.flatMap (quotedBlocks c images ctx)).flatMap Block.references =
      (forestItems ctx path i ns).map CountedItem.ref := by
  induction ns generalizing i with
  | nil => rfl
  | cons n ns ih =>
    obtain ⟨first,rest⟩ := List.forall_mem_cons.mp counts
    rw [List.flatMap_cons,List.flatMap_append,first.quoted ctx (path ++ [i]),ih rest (i + 1),
      forestItems,List.map_append]

theorem list_counts {items : List Node} (counts : ∀ n ∈ items, n.Counts c images) (level : Int)
    (ordered : Bool) (start : Option Int) (path : List Nat) (i : Nat) :
    (listBlocks c images level ordered start items).flatMap Block.references =
      (listItems level ordered start path i items).map CountedItem.ref := by
  induction items generalizing start i with
  | nil => simp [listBlocks,listItems]
  | cons n items ih =>
    obtain ⟨first,rest⟩ := List.forall_mem_cons.mp counts
    rw [listBlocks_cons,List.flatMap_append,first.item level ordered start path i,ih rest _ (i + 1),
      listItems_cons,← List.map_append]

theorem blocks_count {k : NodeKind} {p : NodeProps} {cs : List Node}
    (counts : ∀ n ∈ cs, n.Counts c images) (ctx : Option ListContext) (path : List Nat) :
    ((mk k p cs).blocks c images ctx).flatMap Block.references =
      ((mk k p cs).countedItems ctx path).map CountedItem.ref := by
  cases k with
  | document =>
    rw [blocks,forestBlocks_eq,countedItems]
    exact forest_counts counts ctx path 0
  | blockquote =>
    rw [blocks,quoteBlocks_eq,countedItems]
    exact quote_counts counts ctx path 0
  | list =>
    rw [blocks,countedItems]
    exact list_counts counts _ _ _ path 0
  | table =>
    rw [blocks]
    split
    · rfl
    · rw [List.flatMap_singleton,table_references]
      rfl
  | heading | paragraph | code | thematicBreak => rfl
  | _ => simp [blocks,countedItems]

theorem itemBlocks_count {k : NodeKind} {p : NodeProps} {cs : List Node}
    (counts : ∀ n ∈ cs, n.Counts c images) (level : Int) (ordered : Bool) (start : Option Int)
    (path : List Nat) (i : Nat) :
    ((mk k p cs).itemBlocks c images level ordered start).flatMap Block.references =
      ((mk k p cs).ownItem level ordered start path i ++
        (mk k p cs).childItems (some ⟨level,ordered⟩) (path ++ [i])).map CountedItem.ref := by
  have inner := blocks_count (k := k) (p := p) counts (some ⟨level,ordered⟩) (path ++ [i])
  cases k with
  | listItem =>
    cases cs with
    | nil =>
      cases task : p.checked <;>
        simp [itemBlocks,itemLine_references,ownItem,childItems,forestItems,isCounted,task]
    | cons head rest =>
      have below := forest_counts counts (some ⟨level,ordered⟩) (path ++ [i]) 0
      obtain ⟨k,q,line⟩ := head
      cases k with
      | paragraph =>
        have others := forest_counts (List.forall_mem_cons.mp counts).2 (some ⟨level,ordered⟩)
          (path ++ [i]) 1
        cases task : p.checked <;>
          simp [itemBlocks,itemLine_references,ownItem,childItems,forestItems,countedItems,isCounted,
            task,others]
      | _ => exact below
  | _ => exact inner

theorem counts (n : Node) : n.Counts c images := by
  induction n using Node.induct with
  | step k p cs ih =>
    have blocks := blocks_count (k := k) (p := p) ih
    refine ⟨blocks,?_,itemBlocks_count ih⟩
    cases k with
    | paragraph => exact fun _ _ => rfl
    | _ => exact blocks

/-- The paragraphs that a document numbers are those of its counted items, in the same order. -/
theorem documentBlocks_references (doc : Node) :
    (doc.documentBlocks c images).flatMap Block.references =
      doc.documentItems.map CountedItem.ref := by
  rw [documentBlocks,forestBlocks_eq]
  exact forest_counts (fun n _ => counts n) none [] 0

end Node

end DocPress
