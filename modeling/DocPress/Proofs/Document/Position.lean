import Mathlib.Data.List.Basic
import DocPress.Proofs.Document.Reached

/-! A tree read as the row of its positions, each node before what is below it. What the tree becomes
is what each position gives by itself (`Node.blocks_positions`): a position knows the way down to it,
and with the way the lists around it, so that nothing travels from one position to the next. -/

namespace DocPress

/-- A step down: out of which node, and to which of its children. -/
structure Step where
  parent : Node
  place : Nat

/-- A node with the way down to it. The last step comes first. -/
structure Position where
  node : Node
  way : List Step

namespace Node

mutual

/-- A node and all that is below it, each node before what is below it. -/
def positions (way : List Step) : Node → List Position
  | mk k p cs => ⟨mk k p cs,way⟩ :: positionsIn (mk k p cs) way 0 cs

def positionsIn (parent : Node) (way : List Step) (i : Nat) : List Node → List Position
  | [] => []
  | n :: ns => n.positions (⟨parent,i⟩ :: way) ++ positionsIn parent way (i + 1) ns

end

/-- An item that is empty or starts with a paragraph: it has a line of its own. -/
def hasLine : Node → Bool
  | mk .listItem _ [] => true
  | mk .listItem _ (mk .paragraph _ _ :: _) => true
  | _ => false

end Node

namespace Step

def isList (s : Step) : Bool := s.parent.kind = .list

/-- Do documents, quotes, lists and items lead down here? An item leads on only out of its list. -/
def allLead : List Step → Bool
  | [] => true
  | s :: way =>
    (match s.parent.kind with
      | .document | .blockquote | .list => true
      | .listItem => way.head?.any isList
      | _ => false) && allLead way

/-- How many lists the way leads through, those of the surroundings among them. -/
def depth (ctx : Option ListContext) (way : List Step) : Int := way.countP isList + listLevel ctx

/-- Is the innermost list on the way, or else that of the surroundings, an ordered one? -/
def inOrdered (ctx : Option ListContext) (way : List Step) : Bool :=
  match way.find? isList with
  | some s => s.parent.props.ordered
  | none => ctx.any (·.ordered)

/-- The number with which the item that a list has at a place opens a counter. -/
def opening? (ctx : Option ListContext) (list : Node) (place : Nat) (way : List Step) : Option Int :=
  if list.props.ordered && ! inOrdered ctx way && ! (list.children.take place).any Node.isCounted then
    some list.props.start
  else none

end Step

namespace Position

variable (ctx : Option ListContext)

/-- The reference of a position to a numbering: that of an item which counts. -/
def numbering? (pos : Position) : Option NumberingRef :=
  match pos.way with
  | [] => none
  | s :: way =>
    if Step.allLead (s :: way) && s.isList && pos.node.isCounted then
      some (itemRef (Step.depth ctx way) s.parent.props.ordered (Step.opening? ctx s.parent s.place way))
    else none

/-- What a position gives by itself, without what is below it. -/
def blocks (c : StyleConfig) (images : ImageCache) (pos : Position) : List Block :=
  if Step.allLead pos.way then
    match pos.node,pos.way with
    | .mk .document _ _,_ => []
    | .mk .blockquote _ _,_ => []
    | .mk .list _ _,_ => []
    | .mk .listItem p cs,s :: way =>
      if s.isList && (Node.mk .listItem p cs).hasLine then
        [.paragraph (Node.itemLine c (Step.depth ctx way) s.parent.props.ordered
          (Step.opening? ctx s.parent s.place way) p.checked
          (Node.forestInlines c images {} {} (cs.head?.elim [] Node.children)))]
      else []
    | .mk .paragraph p cs,⟨.mk .blockquote _ _,_⟩ :: _ =>
      (Node.mk .paragraph p cs).quotedBlocks c images none
    -- the line of the item already holds the paragraph
    | .mk .paragraph _ _,⟨.mk .listItem _ _,0⟩ :: _ => []
    | n,_ => n.blocks c images none
  else []

end Position

namespace Step

variable {ctx : Option ListContext} {way : List Step}

def contextAt (ctx : Option ListContext) : List Step → Option ListContext
  | [] => ctx
  | s :: way =>
    if s.isList then some ⟨depth ctx way,s.parent.props.ordered⟩ else contextAt ctx way

theorem listLevel_contextAt : listLevel (contextAt ctx way) = depth ctx way := by
  induction way with
  | nil => simp [contextAt,depth]
  | cons s way ih =>
    cases list : s.isList with
    | true =>
      simp [contextAt,list,listLevel,depth]
      omega
    | false =>
      simp only [contextAt,list,Bool.false_eq_true,if_false,ih]
      simp [depth,list]

theorem contextAt_ordered : (contextAt ctx way).any (·.ordered) = inOrdered ctx way := by
  induction way with
  | nil => rfl
  | cons s way ih =>
    unfold inOrdered contextAt
    cases list : s.isList with
    | true => simp [list]
    | false => simpa [list,inOrdered] using ih

theorem opening?_eq (p : NodeProps) (cs : List Node) (place : Nat) :
    opening? ctx (.mk .list p cs) place way =
      Node.pending (listStart (contextAt ctx way) p.ordered p.start) (cs.take place) := by
  unfold opening? listStart Node.pending
  rw [contextAt_ordered]
  cases ordered : p.ordered <;> cases around : inOrdered ctx way <;>
    cases counted : (cs.take place).any Node.isCounted <;>
    simp [Node.props,Node.children,ordered,counted]

end Step

namespace Node

variable {ctx : Option ListContext} {way : List Step} {c : StyleConfig} {images : ImageCache}

theorem positionsIn_eq (parent : Node) (way : List Step) (i : Nat) (ns : List Node) :
    positionsIn parent way i ns =
      (ns.zipIdx i).flatMap fun x => x.1.positions (⟨parent,x.2⟩ :: way) := by
  induction ns generalizing i with
  | nil => rw [positionsIn,List.zipIdx_nil,List.flatMap_nil]
  | cons n ns ih => rw [positionsIn,ih,List.zipIdx_cons,List.flatMap_cons]

theorem positionsIn_flatMap {α : Type} {parent : Node} {f : Position → List α}
    {g : Node → Nat → List α} {ns : List Node} {i : Nat}
    (each : ∀ n ∈ ns, ∀ j, (n.positions (⟨parent,j⟩ :: way)).flatMap f = g n j) :
    (positionsIn parent way i ns).flatMap f = (ns.zipIdx i).flatMap fun x => g x.1 x.2 := by
  rw [positionsIn_eq,List.flatMap_assoc]
  apply List.flatMap_congr
  intro x member
  exact each x.1 (List.fst_mem_of_mem_zipIdx member) x.2

theorem listBlocks_eq {level : Int} {ordered : Bool} {start : Option Int} (front items : List Node) :
    listBlocks c images level ordered (pending start front) items =
      (items.zipIdx front.length).flatMap fun x =>
        x.1.itemBlocks c images level ordered (pending start ((front ++ items).take x.2)) := by
  induction items generalizing front with
  | nil => rw [listBlocks,List.zipIdx_nil,List.flatMap_nil]
  | cons n items ih =>
    have next := ih (front ++ [n])
    have left : pending start (front ++ [n]) =
        if n.isCounted then none else pending start front := by
      unfold pending
      rw [List.any_append]
      cases counted : n.isCounted <;> cases front.any isCounted <;> simp [counted]
    rw [left,List.length_append,List.length_singleton,List.append_assoc,List.singleton_append] at next
    rw [listBlocks_cons,next,List.zipIdx_cons,List.flatMap_cons,List.take_left]

def becomes (c : StyleConfig) (images : ImageCache) (ctx : Option ListContext) (n : Node) :
    List Step → List Block
  | [] => n.blocks c images ctx
  | s :: way =>
    if s.isList then
      n.itemBlocks c images (Step.depth ctx way) s.parent.props.ordered
        (Step.opening? ctx s.parent s.place way)
    else if s.parent.kind = .blockquote then n.quotedBlocks c images (Step.contextAt ctx way)
    else if s.parent.kind = .listItem ∧ s.place = 0 ∧ n.kind = .paragraph then []
    else n.blocks c images (Step.contextAt ctx way)

theorem itemBlocks_of_other {k : NodeKind} {p : NodeProps} {cs : List Node} {level : Int}
    {ordered : Bool} {start : Option Int} (item : k ≠ .listItem) :
    (mk k p cs).itemBlocks c images level ordered start =
      (mk k p cs).blocks c images (some ⟨level,ordered⟩) := by
  cases k with
  | listItem => exact absurd rfl item
  | _ => rfl

theorem quotedBlocks_of_other {k : NodeKind} {p : NodeProps} {cs : List Node}
    (paragraph : k ≠ .paragraph) :
    (mk k p cs).quotedBlocks c images ctx = (mk k p cs).blocks c images ctx := by
  cases k with
  | paragraph => exact absurd rfl paragraph
  | _ => rfl

/-- Only items and paragraphs become something else in some places than in others. -/
theorem becomes_plain {k : NodeKind} {p : NodeProps} {cs : List Node} (item : k ≠ .listItem)
    (paragraph : k ≠ .paragraph) :
    (mk k p cs).becomes c images ctx way = (mk k p cs).blocks c images (Step.contextAt ctx way) := by
  cases way with
  | nil => rfl
  | cons s way =>
    have later : ¬ (s.parent.kind = .listItem ∧ s.place = 0 ∧ (mk k p cs).kind = .paragraph) :=
      fun first => paragraph first.2.2
    rw [becomes,Step.contextAt,itemBlocks_of_other item,quotedBlocks_of_other paragraph,
      if_neg later,ite_self]
    split <;> rfl

/-- What the positions in a node give together is what the node becomes, where the way leads to it. -/
def Gives (c : StyleConfig) (images : ImageCache) (ctx : Option ListContext) (n : Node) : Prop :=
  ∀ way, (n.positions way).flatMap (Position.blocks ctx c images) =
    if Step.allLead way then n.becomes c images ctx way else []

theorem children_give {k : NodeKind} {p : NodeProps} {cs : List Node}
    (each : ∀ n ∈ cs, n.Gives c images ctx) :
    (positionsIn (mk k p cs) way 0 cs).flatMap (Position.blocks ctx c images) =
      if Step.allLead (⟨mk k p cs,0⟩ :: way) then
        cs.zipIdx.flatMap fun x => x.1.becomes c images ctx (⟨mk k p cs,x.2⟩ :: way)
      else [] := by
  have gives : ∀ n ∈ cs, ∀ j, (n.positions (⟨mk k p cs,j⟩ :: way)).flatMap
      (Position.blocks ctx c images) = if Step.allLead (⟨mk k p cs,0⟩ :: way) then
        n.becomes c images ctx (⟨mk k p cs,j⟩ :: way) else [] := fun n member j => each n member _
  rw [positionsIn_flatMap gives]
  split
  · rfl
  · simp

theorem zipIdx_flatMap {α : Type} (ns : List Node) (i : Nat) (f : Node → List α) :
    ((ns.zipIdx i).flatMap fun x => f x.1) = ns.flatMap f := by
  rw [← List.flatMap_map,List.zipIdx_map_fst]

/-- Below a node that passes blocks on, nothing depends on the place. -/
theorem becomes_below {parent n : Node} {j : Nat}
    (passes : parent.kind = .document ∨ parent.kind = .listItem ∧ ¬ (j = 0 ∧ n.kind = .paragraph)) :
    n.becomes c images ctx (⟨parent,j⟩ :: way) = n.blocks c images (Step.contextAt ctx way) := by
  rcases passes with document | ⟨item,later⟩
  · simp [becomes,Step.isList,document]
  · simp [becomes,Step.isList,item,later]

theorem behind_first {parent : Node} (item : parent.kind = .listItem) (ns : List Node) :
    ((ns.zipIdx 1).flatMap fun x => x.1.becomes c images ctx (⟨parent,x.2⟩ :: way)) =
      ns.flatMap (blocks c images (Step.contextAt ctx way)) := by
  rw [← zipIdx_flatMap ns 1]
  refine List.flatMap_congr fun x member => becomes_below (.inr ⟨item,fun first => ?_⟩)
  have behind := List.le_snd_of_mem_zipIdx member
  omega

/-- An item gives its line, and then its other children give what they become. -/
theorem listItem_gives {p : NodeProps} {cs : List Node} {s : Step} (list : s.isList)
    (leads : Step.allLead (s :: way)) :
    Position.blocks ctx c images ⟨mk .listItem p cs,s :: way⟩ ++
      (cs.zipIdx.flatMap fun x => x.1.becomes c images ctx (⟨mk .listItem p cs,x.2⟩ :: s :: way)) =
        (mk .listItem p cs).becomes c images ctx (s :: way) := by
  have around : Step.contextAt ctx (s :: way) =
      some ⟨Step.depth ctx way,s.parent.props.ordered⟩ := by rw [Step.contextAt,if_pos list]
  rw [Position.blocks,if_pos leads,becomes,if_pos list]
  cases cs with
  | nil => simp [list,hasLine,itemBlocks,forestInlines]
  | cons head rest =>
    rw [List.zipIdx_cons,List.flatMap_cons,behind_first rfl,around]
    obtain ⟨k,q,line⟩ := head
    by_cases paragraph : k = .paragraph
    · subst paragraph
      have taken : (mk .paragraph q line).becomes c images ctx
          (⟨mk .listItem p (mk .paragraph q line :: rest),0⟩ :: s :: way) = [] := by
        simp [becomes,Step.isList,kind]
      simp [list,taken,hasLine,itemBlocks,children]
    · have whole : (mk k q line).becomes c images ctx
          (⟨mk .listItem p (mk k q line :: rest),0⟩ :: s :: way) =
            (mk k q line).blocks c images (Step.contextAt ctx (s :: way)) :=
        becomes_below (.inr ⟨rfl,fun first => paragraph first.2⟩)
      rw [whole,around]
      have without : (mk .listItem p (mk k q line :: rest)).hasLine = false := by
        cases k with
        | paragraph => exact absurd rfl paragraph
        | _ => rfl
      cases k with
      | paragraph => exact absurd rfl paragraph
      | _ => simp [without,itemBlocks]

theorem paragraph_gives {p : NodeProps} {cs : List Node} (leads : Step.allLead way) :
    Position.blocks ctx c images ⟨mk .paragraph p cs,way⟩ =
      (mk .paragraph p cs).becomes c images ctx way := by
  rw [Position.blocks,if_pos leads]
  cases way with
  | nil => rfl
  | cons s way =>
    obtain ⟨⟨k,q,items⟩,place⟩ := s
    cases k with
    | listItem => cases place <;> rfl
    | _ => rfl

theorem gives (n : Node) : n.Gives c images ctx := by
  induction n using Node.induct with
  | step k p cs ih =>
    intro way
    rw [positions,List.flatMap_cons,children_give ih]
    cases leads : Step.allLead way with
    | false =>
      have below : Step.allLead (⟨mk k p cs,0⟩ :: way) = false := by
        rw [Step.allLead,leads,Bool.and_false]
      simp [Position.blocks,leads,below]
    | true =>
      have lead : Step.allLead (⟨mk k p cs,0⟩ :: way) = (match k with
          | .document | .blockquote | .list => true
          | .listItem => way.head?.any Step.isList
          | _ => false) := by
        rw [Step.allLead,leads,Bool.and_true]
        rfl
      cases k with
      | document =>
        have below (x : Node × Nat) : x.1.becomes c images ctx (⟨mk .document p cs,x.2⟩ :: way) =
            x.1.blocks c images (Step.contextAt ctx way) := becomes_below (.inl rfl)
        rw [becomes_plain (by decide) (by decide),blocks,forestBlocks_eq,lead]
        simp only [below,zipIdx_flatMap]
        simp [Position.blocks]
      | blockquote =>
        rw [becomes_plain (by decide) (by decide),blocks,quoteBlocks_eq,lead]
        have below (x : Node × Nat) : x.1.becomes c images ctx (⟨mk .blockquote p cs,x.2⟩ :: way) =
            x.1.quotedBlocks c images (Step.contextAt ctx way) := by
          simp [becomes,Step.isList,kind]
        simp only [below,zipIdx_flatMap]
        simp [Position.blocks]
      | list =>
        have walk := @listBlocks_eq c images (Step.depth ctx way) p.ordered
          (listStart (Step.contextAt ctx way) p.ordered p.start) [] cs
        have below (x : Node × Nat) : x.1.becomes c images ctx (⟨mk .list p cs,x.2⟩ :: way) =
            x.1.itemBlocks c images (Step.depth ctx way) p.ordered
              (pending (listStart (Step.contextAt ctx way) p.ordered p.start) (cs.take x.2)) := by
          rw [← Step.opening?_eq]
          rfl
        rw [becomes_plain (by decide) (by decide),blocks,Step.listLevel_contextAt,lead]
        simp only [below]
        simpa [Position.blocks,pending] using walk.symm
      | listItem =>
        rw [lead]
        cases way with
        | nil => simp [Position.blocks,becomes,blocks,leads]
        | cons s way =>
          cases list : s.isList with
          | true => simpa [list] using listItem_gives list leads
          | false => simp [Position.blocks,becomes,blocks,quotedBlocks,list,leads]
      | paragraph =>
        rw [paragraph_gives leads,lead]
        simp
      | _ =>
        rw [becomes_plain (by decide) (by decide),lead]
        simp [leads,Position.blocks,blocks]

theorem blocks_positions (n : Node) :
    n.blocks c images ctx = (n.positions []).flatMap (Position.blocks ctx c images) := (n.gives []).symm

end Node

end DocPress
