import DocPress.Document.Block

/-! The walk through a tree as it goes on from a node to the nodes right below it. What a row of nodes
becomes is what each of them becomes, one after the other; in a list each item starts where the items
before it leave off. -/

namespace DocPress.Node

mutual

/-- What every node has when its children do, every node has. -/
theorem induct {motive : Node → Prop}
    (step : ∀ k p cs, (∀ n ∈ cs, motive n) → motive (mk k p cs)) : ∀ n, motive n
  | mk k p cs => step k p cs (inductIn step cs)

theorem inductIn {motive : Node → Prop}
    (step : ∀ k p cs, (∀ n ∈ cs, motive n) → motive (mk k p cs)) :
    ∀ ns : List Node, ∀ n ∈ ns, motive n
  | [] => by simp
  | n :: ns => List.forall_mem_cons.mpr ⟨induct step n,inductIn step ns⟩

end

variable (c : StyleConfig) (images : ImageCache)

theorem forestInlines_eq (e : Emphasis) (o : Override) (ns : List Node) :
    forestInlines c images e o ns = ns.flatMap (inlines c images e o) := by
  induction ns with
  | nil => rw [forestInlines,List.flatMap_nil]
  | cons n ns ih => rw [forestInlines,ih,List.flatMap_cons]

theorem forestBlocks_eq (ctx : Option ListContext) (ns : List Node) :
    forestBlocks c images ctx ns = ns.flatMap (blocks c images ctx) := by
  induction ns with
  | nil => rw [forestBlocks,List.flatMap_nil]
  | cons n ns ih => rw [forestBlocks,ih,List.flatMap_cons]

/-- What a child of a quote becomes. -/
def quotedBlocks (ctx : Option ListContext) : Node → List Block
  | mk .paragraph _ cs =>
    [.paragraph (quoteParagraph c
      (forestInlines c images {} { color := some c.blockquote.textColor } cs))]
  | n => n.blocks c images ctx

theorem quoteBlocks_eq (ctx : Option ListContext) (ns : List Node) :
    quoteBlocks c images ctx ns = ns.flatMap (quotedBlocks c images ctx) := by
  induction ns with
  | nil => rw [quoteBlocks,List.flatMap_nil]
  | cons n ns ih =>
    obtain ⟨k,p,cs⟩ := n
    rw [List.flatMap_cons,← ih]
    cases k <;> rw [quoteBlocks] <;> simp [quotedBlocks]

/-- Is the node an item that the list counts? -/
def isCounted : Node → Bool
  | mk .listItem p [] => p.checked.isNone
  | mk .listItem p (mk .paragraph _ _ :: _) => p.checked.isNone
  | _ => false

/-- What an item with a line of its own becomes, as far as that line. -/
def itemLine (level : Int) (ordered : Bool) (start : Option Int) (checked : Option Bool)
    (line : List Inline) : Paragraph :=
  match checked with
  | some checked => taskParagraph c level checked line
  | none => itemParagraph level ordered start line

/-- What a child of a list becomes; `start` is what the children before it leave pending. -/
def itemBlocks (level : Int) (ordered : Bool) (start : Option Int) : Node → List Block
  | mk .listItem p [] => [.paragraph (itemLine c level ordered start p.checked [])]
  | mk .listItem p (mk .paragraph _ cs :: rest) =>
    .paragraph (itemLine c level ordered start p.checked (forestInlines c images {} {} cs)) ::
      rest.flatMap (blocks c images (some ⟨level,ordered⟩))
  | mk .listItem _ cs => cs.flatMap (blocks c images (some ⟨level,ordered⟩))
  | n => n.blocks c images (some ⟨level,ordered⟩)

theorem listBlocks_cons (level : Int) (ordered : Bool) (start : Option Int) (item : Node)
    (items : List Node) :
    listBlocks c images level ordered start (item :: items) =
      itemBlocks c images level ordered start item ++
        listBlocks c images level ordered (if item.isCounted then none else start) items := by
  obtain ⟨k,p,cs⟩ := item
  cases k with
  | listItem =>
    cases cs with
    | nil => cases task : p.checked <;> simp [listBlocks,itemBlocks,isCounted,itemLine,task]
    | cons head rest =>
      obtain ⟨k,q,below⟩ := head
      cases k with
      | paragraph =>
        cases task : p.checked <;>
          simp [listBlocks,itemBlocks,isCounted,itemLine,task,forestBlocks_eq]
      | _ => rw [listBlocks] <;> simp [itemBlocks,isCounted,forestBlocks_eq]
  | _ => rw [listBlocks] <;> simp [itemBlocks,isCounted]

end DocPress.Node
