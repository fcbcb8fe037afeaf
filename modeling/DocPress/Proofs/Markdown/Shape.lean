import DocPress.Markdown.Node

/-! The shape of trees in which every node stands where it means something: inline nodes in lines,
blocks in blocks, items in lists, rows in tables and cells in rows. Only texts and code say something
themselves. -/

namespace DocPress.Node

mutual

/-- A node that stands in a line, with all that is below it. -/
def isInline : Node → Bool
  | mk .text _ cs => cs.isEmpty
  | mk .inlineCode _ cs => cs.isEmpty
  | mk .image p cs => p.text.isEmpty && cs.isEmpty
  | mk .emphasis p cs => p.text.isEmpty && areInline cs
  | mk .strong p cs => p.text.isEmpty && areInline cs
  | mk .delete p cs => p.text.isEmpty && areInline cs
  | mk .link p cs => p.text.isEmpty && areInline cs
  | mk _ _ _ => false

def areInline : List Node → Bool
  | [] => true
  | n :: ns => n.isInline && areInline ns

end

def isCell : Node → Bool
  | mk .tableCell p cs => p.text.isEmpty && areInline cs
  | mk _ _ _ => false

def isRow : Node → Bool
  | mk .tableRow p cs => p.text.isEmpty && cs.all isCell
  | mk _ _ _ => false

mutual

/-- A block with all that is below it. -/
def isBlock : Node → Bool
  | mk .document p cs => p.text.isEmpty && areBlocks cs
  | mk .blockquote p cs => p.text.isEmpty && areBlocks cs
  | mk .heading p cs => p.text.isEmpty && areInline cs
  | mk .paragraph p cs => p.text.isEmpty && areInline cs
  | mk .code _ cs => cs.isEmpty
  | mk .thematicBreak p cs => p.text.isEmpty && cs.isEmpty
  | mk .list p cs => p.text.isEmpty && areItems cs
  | mk .table p cs => p.text.isEmpty && cs.all isRow
  | mk _ _ _ => false

def areBlocks : List Node → Bool
  | [] => true
  | n :: ns => n.isBlock && areBlocks ns

def areItems : List Node → Bool
  | [] => true
  | mk .listItem p cs :: items => p.text.isEmpty && areBlocks cs && areItems items
  | mk _ _ _ :: _ => false

end

def isDocument : Node → Bool
  | mk .document p cs => p.text.isEmpty && areBlocks cs
  | mk _ _ _ => false

theorem areInline_iff {ns : List Node} : areInline ns ↔ ∀ n ∈ ns, n.isInline := by
  induction ns with
  | nil => simp [areInline]
  | cons n ns ih => rw [areInline,Bool.and_eq_true,ih,List.forall_mem_cons]

theorem areBlocks_iff {ns : List Node} : areBlocks ns ↔ ∀ n ∈ ns, n.isBlock := by
  induction ns with
  | nil => simp [areBlocks]
  | cons n ns ih => rw [areBlocks,Bool.and_eq_true,ih,List.forall_mem_cons]

def isItem : Node → Bool
  | mk .listItem p cs => p.text.isEmpty && areBlocks cs
  | mk _ _ _ => false

theorem areItems_iff {ns : List Node} : areItems ns ↔ ∀ n ∈ ns, n.isItem := by
  induction ns with
  | nil => simp [areItems]
  | cons n ns ih =>
    obtain ⟨k,p,cs⟩ := n
    rw [List.forall_mem_cons,← ih]
    cases k <;> simp [areItems,isItem]

end DocPress.Node
