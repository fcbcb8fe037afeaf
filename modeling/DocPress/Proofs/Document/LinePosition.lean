import DocPress.Proofs.Document.Position
import DocPress.Proofs.Document.Text

/-! A line read as the row of its positions. Texts, code and pictures give one leaf each, and so does a
link around nothing; what a leaf looks like is told by the way down to it. Main statement: the leaves of
a line are those of its positions, and it means nothing how often and in which order marks of emphasis
stand around the same nodes (`line_positions`). -/

namespace DocPress

namespace NodeKind

def isMark : NodeKind → Bool
  | emphasis | strong | delete => true
  | _ => false

/-- Does a node of the kind hold a part of the line that it stands in? -/
def leadsOn (k : NodeKind) : Bool := k.isMark || k = link

end NodeKind

/-- All positions of a row of nodes, in order. -/
def rowPositions (ns : List Node) : List Position := ns.flatMap (Node.positions [])

namespace Step

def isOf (k : NodeKind) (s : Step) : Bool := s.parent.kind = k

/-- Do only marks and links lead down here? -/
def inLine (way : List Step) : Bool := way.all fun s => s.parent.kind.leadsOn

/-- A text at the end of a way: its marks add to the emphasis of the surroundings, and a link on it
takes the place of what they ask for besides. -/
def run (c : StyleConfig) (e : Emphasis) (o : Override) (way : List Step) (text : String) : Run :=
  let linked := way.any (isOf .link)
  { text
    bold := e.bold || way.any (isOf .strong)
    italic := e.italic || way.any (isOf .emphasis)
    strike := e.strike || way.any (isOf .delete)
    underline := linked || o.underline
    font := if linked then c.font.body else textOr o.font c.font.body
    color :=
      if linked then textOr (some c.typography.link) c.typography.body
      else textOr o.color c.typography.body
    size := if linked then c.sizes.body else sizeOr o.size c.sizes.body }

end Step

/-- What a position gives by itself. A link around nothing but marks gives its address, on whose way it
lies itself; what cannot stand in a line gives an empty text. -/
def Position.leaf? (c : StyleConfig) (images : ImageCache) (e : Emphasis) (o : Override)
    (pos : Position) : Option InlineLeaf :=
  if Step.inLine pos.way then
    match pos.node with
    | .mk .text p _ => some (.run (Step.run c e o pos.way p.text))
    | .mk .inlineCode p _ => some (.run (codeRun c p.text))
    | .mk .image p _ =>
      match images.lookup p.url with
      | some data => some (.image ⟨data,imageWidth,imageHeight,p.alt⟩)
      | none => some (.run (placeholderRun c p.alt))
    | .mk .link p cs =>
      if (rowPositions cs).all (·.node.kind.isMark) then
        some (.run (Step.run c e o (⟨pos.node,0⟩ :: pos.way) p.url))
      else none
    | .mk .emphasis _ _ => none
    | .mk .strong _ _ => none
    | .mk .delete _ _ => none
    | _ => some (.run {})
  else none

namespace Step

variable {c : StyleConfig} {e : Emphasis} {o : Override} {way : List Step} {p : NodeProps}
  {cs : List Node} {i : Nat}

/-! ### What a way asks for -/

def marks (e : Emphasis) (way : List Step) : Emphasis where
  bold := e.bold || way.any (isOf .strong)
  italic := e.italic || way.any (isOf .emphasis)
  strike := e.strike || way.any (isOf .delete)

def override (c : StyleConfig) (o : Override) (way : List Step) : Override :=
  if way.any (isOf .link) then linkOverride c else o

theorem run_eq (text : String) :
    run c e o way text = textRun c text (marks e way) (override c o way) := by
  unfold run override textRun
  cases way.any (isOf .link) with
  | true => rfl
  | false => rfl

theorem marks_nil : marks e [] = e := by simp [marks]

theorem override_nil : override c o [] = o := rfl

theorem marks_emphasis :
    marks e (⟨.mk .emphasis p cs,i⟩ :: way) = (marks e way).merge { italic := true } := by
  simp [marks,Emphasis.merge,isOf,Node.kind]

theorem marks_strong :
    marks e (⟨.mk .strong p cs,i⟩ :: way) = (marks e way).merge { bold := true } := by
  simp [marks,Emphasis.merge,isOf,Node.kind]

theorem marks_delete :
    marks e (⟨.mk .delete p cs,i⟩ :: way) = (marks e way).merge { strike := true } := by
  simp [marks,Emphasis.merge,isOf,Node.kind]

theorem marks_link : marks e (⟨.mk .link p cs,i⟩ :: way) = marks e way := by
  simp [marks,isOf,Node.kind]

theorem override_link : override c o (⟨.mk .link p cs,i⟩ :: way) = linkOverride c := by
  simp [override,isOf,Node.kind]

theorem override_mark {k : NodeKind} (mark : k.isMark) :
    override c o (⟨.mk k p cs,i⟩ :: way) = override c o way := by
  have other : isOf .link ⟨.mk k p cs,i⟩ = false := by
    cases k with
    | link => cases mark
    | _ => rfl
  rw [override,List.any_cons,other,Bool.false_or]
  rfl

theorem inLine_cons {k : NodeKind} :
    inLine (⟨.mk k p cs,i⟩ :: way) = (k.leadsOn && inLine way) := by
  rw [inLine,List.all_cons]
  rfl

end Step

namespace Node

variable {c : StyleConfig} {images : ImageCache} {e : Emphasis} {o : Override} {way : List Step}

/-! ### Leaves -/

theorem positionsIn_filterMap {α : Type} {parent : Node} {f : Position → Option α}
    {g : Node → List α} {ns : List Node}
    (each : ∀ n ∈ ns, ∀ j, (n.positions (⟨parent,j⟩ :: way)).filterMap f = g n) :
    (positionsIn parent way 0 ns).filterMap f = ns.flatMap g := by
  rw [positionsIn_eq,List.filterMap_flatMap,← zipIdx_flatMap ns 0]
  apply List.flatMap_congr
  intro x member
  exact each x.1 (List.fst_mem_of_mem_zipIdx member) x.2

theorem haveLeaf_eq (ns : List Node) : haveLeaf ns = ns.any hasLeaf := by
  induction ns with
  | nil => rw [haveLeaf,List.any_nil]
  | cons n ns ih => rw [haveLeaf,ih,List.any_cons]

theorem positionsIn_any {parent : Node} {f : Position → Bool} {g : Node → Bool} {ns : List Node}
    {i : Nat} (each : ∀ n ∈ ns, ∀ j, g n = (n.positions (⟨parent,j⟩ :: way)).any f) :
    (positionsIn parent way i ns).any f = ns.any g := by
  induction ns generalizing i with
  | nil => rw [positionsIn,List.any_nil,List.any_nil]
  | cons n ns ih =>
    obtain ⟨first,rest⟩ := List.forall_mem_cons.mp each
    rw [positionsIn,List.any_append,← first i,ih rest,List.any_cons]

/-- There is a leaf in a node if there is anything but marks. -/
theorem hasLeaf_positions (n : Node) : ∀ way,
    n.hasLeaf = (n.positions way).any fun pos => ! pos.node.kind.isMark := by
  induction n using Node.induct with
  | step k p cs ih =>
    intro way
    have below := @positionsIn_any way (mk k p cs) _ hasLeaf cs 0 fun n member j => ih n member _
    rw [positions,List.any_cons,below]
    cases k with
    | emphasis | strong | delete => exact haveLeaf_eq cs
    | _ => rfl

theorem haveLeaf_positions (ns : List Node) :
    haveLeaf ns = ! (rowPositions ns).all (·.node.kind.isMark) := by
  have node : hasLeaf = fun n => ! (n.positions []).all (·.node.kind.isMark) := by
    funext n
    rw [hasLeaf_positions n [],List.not_all_eq_any_not]
  rw [haveLeaf_eq,node,rowPositions,List.all_flatMap,List.not_all_eq_any_not]

/-- The leaves that a node becomes at the end of a way that stays in the line. -/
def leavesAt (c : StyleConfig) (images : ImageCache) (e : Emphasis) (o : Override) (way : List Step)
    (n : Node) : List InlineLeaf :=
  if Step.inLine way then
    (n.inlines c images (Step.marks e way) (Step.override c o way)).flatMap Inline.leaves
  else []

theorem below_leaves {k : NodeKind} {p : NodeProps} {cs : List Node}
    (each : ∀ n ∈ cs, ∀ way, (n.positions way).filterMap (Position.leaf? c images e o) =
      n.leavesAt c images e o way) :
    (positionsIn (mk k p cs) way 0 cs).filterMap (Position.leaf? c images e o) =
      if k.leadsOn && Step.inLine way then
        (forestInlines c images (Step.marks e (⟨mk k p cs,0⟩ :: way))
          (Step.override c o (⟨mk k p cs,0⟩ :: way)) cs).flatMap Inline.leaves
      else [] := by
  -- what a way asks for does not depend on the places of its steps
  have row := @positionsIn_filterMap way _ (mk k p cs) (Position.leaf? c images e o)
    (leavesAt c images e o (⟨mk k p cs,0⟩ :: way)) cs fun n member j => each n member _
  rw [row,forestInlines_eq,List.flatMap_assoc]
  unfold leavesAt
  rw [Step.inLine_cons]
  split
  · rfl
  · simp

theorem leaf?_link {p : NodeProps} {cs : List Node} (stays : Step.inLine way) :
    Position.leaf? c images e o ⟨mk .link p cs,way⟩ =
      if haveLeaf cs then none
      else some (.run (textRun c p.url (Step.marks e way) (linkOverride c))) := by
  have address : Step.run c e o (⟨mk .link p cs,0⟩ :: way) p.url =
      textRun c p.url (Step.marks e way) (linkOverride c) := by
    rw [Step.run_eq,Step.marks_link,Step.override_link]
  rw [Position.leaf?,if_pos stays,haveLeaf_positions]
  cases bare : (rowPositions cs).all (·.node.kind.isMark) <;> simp [bare,address]

theorem positions_leaves (n : Node) : ∀ way,
    (n.positions way).filterMap (Position.leaf? c images e o) = n.leavesAt c images e o way := by
  -- by the tree, for all ways: a mark or a link puts one more step before what is below it
  induction n using Node.induct with
  | step k p cs ih =>
    intro way
    have below := @below_leaves c images e o way k p cs ih
    rw [positions,List.filterMap_cons,below,leavesAt]
    cases stays : Step.inLine way with
    | false => simp [Position.leaf?,stays]
    | true =>
      cases k with
      | emphasis | strong | delete =>
        rw [Step.override_mark rfl]
        simp [Position.leaf?,stays,inlines,NodeKind.leadsOn,NodeKind.isMark,Step.marks_emphasis,
          Step.marks_strong,Step.marks_delete]
      | link =>
        rw [Step.marks_link,Step.override_link,leaf?_link stays,if_pos rfl,inlines,
          List.flatMap_singleton,Inline.leaves]
        -- the link's own position gives a leaf just where nothing below it does
        cases has : haveLeaf cs with
        | true =>
          rw [hyperlink_around _ _ _ _ _ has]
          rfl
        | false =>
          have no_leaf := (forestInlines_leaves c images (Step.marks e way) (linkOverride c) cs).mpr has
          rw [hyperlink_bare _ _ _ _ _ has,no_leaf]
          rfl
      | image =>
        cases found : images.lookup p.url <;>
          simp [Position.leaf?,stays,inlines,NodeKind.leadsOn,NodeKind.isMark,found,Inline.leaves]
      | text =>
        simp [Position.leaf?,stays,inlines,NodeKind.leadsOn,NodeKind.isMark,Inline.leaves,Step.run_eq]
      | _ =>
        simp [Position.leaf?,stays,inlines,NodeKind.leadsOn,NodeKind.isMark,Inline.leaves]

theorem row_leaves (ns : List Node) :
    (forestInlines c images e o ns).flatMap Inline.leaves =
      (rowPositions ns).filterMap (Position.leaf? c images e o) := by
  have node (n : Node) : (n.positions []).filterMap (Position.leaf? c images e o) =
      (n.inlines c images e o).flatMap Inline.leaves := by
    rw [positions_leaves,leavesAt,Step.marks_nil,Step.override_nil]
    rfl
  rw [forestInlines_eq,List.flatMap_assoc,rowPositions,List.filterMap_flatMap]
  simp only [node]

/-! ### Positions in the line -/

theorem positions_inLine (n : Node) : ∀ way, Step.inLine way →
    (∀ pos ∈ n.positions way, pos.node.kind.leadsOn ∨ pos.node.children = []) →
    ∀ pos ∈ n.positions way, Step.inLine pos.way := by
  induction n using Node.induct with
  | step k p cs ih =>
    intro way stays plain pos member
    rw [positions,positionsIn_eq] at plain member
    obtain ⟨own,below⟩ := List.forall_mem_cons.mp plain
    rcases List.mem_cons.mp member with rfl | member
    · exact stays
    · obtain ⟨x,inside,found⟩ := List.mem_flatMap.mp member
      have child := List.fst_mem_of_mem_zipIdx inside
      have leads : k.leadsOn := own.resolve_right (List.ne_nil_of_mem child)
      apply ih x.1 child _ ?_ ?_ pos found
      · rw [Step.inLine_cons,leads,stays]
        rfl
      · intro q there
        exact below q (List.mem_flatMap.mpr ⟨x,inside,there⟩)

theorem row_inLine {ns : List Node}
    (plain : ∀ pos ∈ rowPositions ns, pos.node.kind.leadsOn ∨ pos.node.children = []) :
    ∀ pos ∈ rowPositions ns, Step.inLine pos.way := by
  intro pos member
  obtain ⟨n,inside,found⟩ := List.mem_flatMap.mp member
  apply n.positions_inLine [] rfl ?_ pos found
  intro q there
  exact plain q (List.mem_flatMap.mpr ⟨n,inside,there⟩)

/-! ### Marks around the same nodes -/

/-- Nodes within marks, the outermost mark first. -/
def marked (marks : List (NodeKind × NodeProps)) (ns : List Node) : List Node :=
  marks.foldr (fun m inner => [mk m.1 m.2 inner]) ns

/-- Rows that differ in the marks around the same nodes only, and there in their order and in how often
each stands. -/
inductive Remarked : List Node → List Node → Prop
  | same (ns : List Node) : Remarked ns ns
  | marks {left right : List (NodeKind × NodeProps)} {ns ms : List Node}
    (left_marks : ∀ m ∈ left, m.1.isMark) (right_marks : ∀ m ∈ right, m.1.isMark)
    (kinds : ∀ k, k ∈ left.map Prod.fst ↔ k ∈ right.map Prod.fst) (inside : Remarked ns ms) :
    Remarked (marked left ns) (marked right ms)
  | around (k : NodeKind) (p : NodeProps) {ns ms : List Node} (inside : Remarked ns ms) :
    Remarked [mk k p ns] [mk k p ms]
  | append {ns ms more others : List Node} (first : Remarked ns ms) (rest : Remarked more others) :
    Remarked (ns ++ more) (ms ++ others)

def hasMark (k : NodeKind) (marks : List (NodeKind × NodeProps)) : Bool := marks.any (·.1 = k)

theorem hasMark_iff {k : NodeKind} {marks : List (NodeKind × NodeProps)} :
    hasMark k marks ↔ k ∈ marks.map Prod.fst := by simp [hasMark]

def worn (e : Emphasis) (marks : List (NodeKind × NodeProps)) : Emphasis where
  bold := e.bold || hasMark .strong marks
  italic := e.italic || hasMark .emphasis marks
  strike := e.strike || hasMark .delete marks

theorem marked_inlines (marks : List (NodeKind × NodeProps)) (each : ∀ m ∈ marks, m.1.isMark)
    (ns : List Node) : ∀ e, forestInlines c images e o (marked marks ns) =
      forestInlines c images (worn e marks) o ns := by
  induction marks with
  | nil =>
    intro e
    simp [marked,worn,hasMark]
  | cons m marks ih =>
    intro e
    obtain ⟨mark,rest⟩ := List.forall_mem_cons.mp each
    obtain ⟨k,p⟩ := m
    have inner := ih rest
    change forestInlines c images e o [mk k p (marked marks ns)] = _
    rw [forestInlines,forestInlines,List.append_nil]
    cases k with
    | emphasis | strong | delete =>
      rw [inlines,inner]
      simp [worn,hasMark,Emphasis.merge]
    | _ => cases mark

theorem remarked_inlines {ns ms : List Node} (alike : Remarked ns ms) : ∀ e o,
    forestInlines c images e o ns = forestInlines c images e o ms := by
  induction alike with
  | same ns =>
    intro e o
    rfl
  | @marks left right _ _ left_marks right_marks kinds inside ih =>
    intro e o
    have same (k : NodeKind) : hasMark k left = hasMark k right := by
      rw [Bool.eq_iff_iff,hasMark_iff,hasMark_iff]
      exact kinds k
    rw [marked_inlines _ left_marks,marked_inlines _ right_marks,ih,worn,worn]
    simp only [same]
  | around k p inside ih =>
    intro e o
    rw [forestInlines,forestInlines,forestInlines,forestInlines]
    cases k with
    | emphasis | strong | delete | link => rw [inlines,inlines,ih]
    | _ => rfl
  | append first rest first_ih rest_ih =>
    intro e o
    simp only [forestInlines_eq,List.flatMap_append] at first_ih rest_ih ⊢
    rw [first_ih,rest_ih]

/-- A line shows the leaves of its positions, in order: all of its texts, code, pictures and addresses
of links around nothing, if only marks and links hold other nodes. Marks may stand around nodes in any
order, and more than once. -/
theorem line_positions (c : StyleConfig) (images : ImageCache) (e : Emphasis) (o : Override)
    (ns : List Node) :
    (forestInlines c images e o ns).flatMap Inline.leaves =
      (rowPositions ns).filterMap (Position.leaf? c images e o) ∧
    ((∀ pos ∈ rowPositions ns, pos.node.kind.leadsOn ∨ pos.node.children = []) →
      ∀ pos ∈ rowPositions ns, Step.inLine pos.way) ∧
    ∀ ms, Remarked ns ms → forestInlines c images e o ms = forestInlines c images e o ns := by
  refine ⟨row_leaves ns,row_inLine,?_⟩
  intro ms alike
  exact (remarked_inlines alike e o).symm

/-- A link around nothing beside a picture. -/
def struckNodes : List Node :=
  [mk .delete {} [mk .link { url := "v" } [mk .strong {} []],mk .image { url := "p" } []]]

/-- They stand in a link, and this one in strong emphasis beside a text. -/
def nestedLine : List Node :=
  [mk .strong {} [mk .emphasis {} [ofText "a",mk .link { url := "u" } struckNodes]],
    mk .inlineCode { text := "c" } []]

/-- The same nodes in marks the other way around, some of which stand twice. -/
def turnedLine : List Node :=
  [mk .emphasis {} [mk .strong {} [mk .emphasis {} [ofText "a",
    mk .link { url := "u" } [mk .delete {} struckNodes]]]],
    mk .inlineCode { text := "c" } []]

theorem nestedLine_turned : Remarked nestedLine turnedLine := by
  have struck : Remarked struckNodes [mk .delete {} struckNodes] := by
    apply @Remarked.marks [(.delete,{})] [(.delete,{}),(.delete,{})] _ _ ?_ ?_ ?_ (.same _)
    · simp [NodeKind.isMark]
    · simp [NodeKind.isMark]
    · simp
  have inside := Remarked.append (.same [ofText "a"]) (.around .link { url := "u" } struck)
  have marks := @Remarked.marks [(.strong,{}),(.emphasis,{})] [(.emphasis,{}),(.strong,{}),(.emphasis,{})]
    _ _ (by simp [NodeKind.isMark]) (by simp [NodeKind.isMark]) (by simp) inside
  exact .append marks (.same _)

theorem line_positions_nested :
    (∀ pos ∈ rowPositions nestedLine,
      pos.node.kind.leadsOn ∨ pos.node.children = []) ∧
    (∀ pos ∈ rowPositions nestedLine, Step.inLine pos.way) ∧
    Remarked nestedLine turnedLine ∧
    forestInlines {} [] {} {} turnedLine = forestInlines {} [] {} {} nestedLine ∧
    ((forestInlines {} [] {} {} nestedLine).flatMap Inline.leaves).map InlineLeaf.text =
      ["a","v","[Image: No Alt]","c"] := by
  obtain ⟨leaves,inLine,turned⟩ := line_positions {} [] {} {} nestedLine
  have plain : ∀ pos ∈ rowPositions nestedLine,
      pos.node.kind.leadsOn ∨ pos.node.children = [] := by decide
  refine ⟨plain,inLine plain,nestedLine_turned,turned _ nestedLine_turned,?_⟩
  rw [leaves]
  decide +kernel

end Node

end DocPress
