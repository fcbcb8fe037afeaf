import DocPress.Proofs.Document.Content
import DocPress.Proofs.Document.LinePosition

/-! The links of a line. A link in a link is dissolved, so the links that a line has are the outermost
ones, and each of them holds all leaves that stand anywhere in it. Main statement: the line is what its
outermost links and the leaves outside of links become, and these share out all positions among them
(`line_links`). -/

namespace DocPress

namespace Step

def linked (way : List Step) : Bool := way.any (isOf .link)

/-- Does the way stay in the line, but out of links? -/
def isFree (way : List Step) : Bool := inLine way && ! linked way

end Step

namespace Position

/-- The positions that stand for one thing in the line: those in an outermost link, the link among them,
or one outside of links. -/
def span (pos : Position) : List Position :=
  if Step.linked pos.way then []
  else if pos.node.kind = .link then pos.node.positions pos.way
  else [pos]

def isOutermostLink (pos : Position) : Bool := pos.node.kind = .link && Step.isFree pos.way

/-- What an outermost link becomes: it leads to its own address and holds the leaves in it. -/
def link (c : StyleConfig) (images : ImageCache) (e : Emphasis) (o : Override) (pos : Position) :
    Hyperlink :=
  ⟨pos.node.props.url,pos.span.filterMap (leaf? c images e o)⟩

/-- What the line has for a position: an outermost link, or a leaf outside of links. -/
def inline? (c : StyleConfig) (images : ImageCache) (e : Emphasis) (o : Override) (pos : Position) :
    Option Inline :=
  if pos.isOutermostLink then some (.link (pos.link c images e o))
  else if Step.linked pos.way then none
  else (pos.leaf? c images e o).map InlineLeaf.toInline

end Position

namespace Node

variable {c : StyleConfig} {images : ImageCache} {e : Emphasis} {o : Override} {way : List Step}
  {k : NodeKind} {p : NodeProps} {cs : List Node} {i : Nat}

theorem linked_cons :
    Step.linked (⟨mk k p cs,i⟩ :: way) = (decide (k = .link) || Step.linked way) := by
  rw [Step.linked,List.any_cons]
  rfl

theorem isFree_cons :
    Step.isFree (⟨mk k p cs,i⟩ :: way) = (k.isMark && Step.isFree way) := by
  rw [Step.isFree,Step.isFree,Step.inLine_cons,linked_cons,NodeKind.leadsOn]
  by_cases link : k = .link
  · subst link
    simp [NodeKind.isMark]
  · simp [link,Bool.and_assoc]

/-! ### Positions -/

theorem positions_span (n : Node) : ∀ way, (n.positions way).flatMap Position.span =
    if Step.linked way then [] else n.positions way := by
  induction n using Node.induct with
  | step k p cs ih =>
    intro way
    have below : (positionsIn (mk k p cs) way 0 cs).flatMap Position.span =
        if decide (k = .link) || Step.linked way then [] else positionsIn (mk k p cs) way 0 cs := by
      have each (m : Node) (member : m ∈ cs) (j : Nat) := ih m member (⟨mk k p cs,j⟩ :: way)
      rw [positionsIn_flatMap each]
      simp only [linked_cons]
      split
      · simp
      · rw [positionsIn_eq]
    rw [positions,List.flatMap_cons,below,Position.span]
    -- a link outside of links takes all positions below it, and leaves them no spans
    cases linked : Step.linked way with
    | true => simp
    | false =>
      by_cases link : k = .link
      · subst link
        simp [kind,positions]
      · simp [kind,link]

/-- The positions of a row are shared out: none is in two spans, and none is left out. -/
theorem row_span (ns : List Node) : (rowPositions ns).flatMap Position.span = rowPositions ns := by
  rw [rowPositions,List.flatMap_assoc]
  apply List.flatMap_congr
  intro n member
  rw [positions_span]
  rfl

/-! ### Links -/

theorem outermost_link (free : Step.isFree way) :
    Position.link c images e o ⟨mk .link p cs,way⟩ =
      hyperlink c p.url (Step.marks e way)
        (forestInlines c images (Step.marks e way) (linkOverride c) cs) := by
  obtain ⟨stays,unlinked⟩ : Step.inLine way ∧ Step.linked way = false := by
    simpa [Step.isFree] using free
  have span : Position.span ⟨mk .link p cs,way⟩ = (mk .link p cs).positions way := by
    rw [Position.span,unlinked]
    rfl
  have inside : ((mk .link p cs).positions way).filterMap (Position.leaf? c images e o) =
      (hyperlink c p.url (Step.marks e way)
        (forestInlines c images (Step.marks e way) (linkOverride c) cs)).children := by
    rw [positions_leaves,leavesAt,if_pos stays,inlines,List.flatMap_singleton]
    rfl
  rw [Position.link,span,inside]
  rfl

theorem inline?_of_bound {pos : Position} (bound : Step.isFree pos.way = false) :
    pos.inline? c images e o = none := by
  rw [Position.inline?,Position.isOutermostLink,bound,Bool.and_false,if_neg Bool.false_ne_true]
  cases linked : Step.linked pos.way with
  | true => rfl
  | false =>
    have apart : Step.inLine pos.way = false := by simpa [Step.isFree,linked] using bound
    simp [Position.leaf?,apart]

/-- Out of links a position that is none gives the line its leaf. -/
theorem inline?_of_free (free : Step.isFree way) (other : k ≠ .link) :
    Position.inline? c images e o ⟨mk k p cs,way⟩ =
      (Position.leaf? c images e o ⟨mk k p cs,way⟩).map InlineLeaf.toInline := by
  have unlinked : Step.linked way = false := by
    rw [Step.isFree,Bool.and_eq_true] at free
    simpa using free.2
  simp [Position.inline?,Position.isOutermostLink,kind,other,unlinked]

/-- The part of the line that a node becomes at the end of a way out of links. -/
def inlinesAt (c : StyleConfig) (images : ImageCache) (e : Emphasis) (o : Override) (way : List Step)
    (n : Node) : List Inline :=
  if Step.isFree way then n.inlines c images (Step.marks e way) o else []

theorem below_inlines (each : ∀ n ∈ cs, ∀ way, (n.positions way).filterMap
      (Position.inline? c images e o) = n.inlinesAt c images e o way) :
    (positionsIn (mk k p cs) way 0 cs).filterMap (Position.inline? c images e o) =
      if k.isMark && Step.isFree way then
        forestInlines c images (Step.marks e (⟨mk k p cs,0⟩ :: way)) o cs
      else [] := by
  have row := @positionsIn_filterMap way _ (mk k p cs) (Position.inline? c images e o)
    (inlinesAt c images e o (⟨mk k p cs,0⟩ :: way)) cs fun n member j => each n member _
  rw [row,forestInlines_eq]
  unfold inlinesAt
  rw [isFree_cons]
  split
  · rfl
  · simp

theorem positions_inlines (n : Node) : ∀ way,
    (n.positions way).filterMap (Position.inline? c images e o) = n.inlinesAt c images e o way := by
  induction n using Node.induct with
  | step k p cs ih =>
    intro way
    have below := @below_inlines c images e o way k p cs ih
    rw [positions,List.filterMap_cons,below,inlinesAt]
    cases free : Step.isFree way with
    | false => simp [@inline?_of_bound c images e o ⟨mk k p cs,way⟩ free]
    | true =>
      obtain ⟨stays,unlinked⟩ : Step.inLine way ∧ Step.linked way = false := by
        simpa [Step.isFree] using free
      cases k with
      | link =>
        -- nothing below it is free, so the positions there give the line nothing more
        have here : Position.inline? c images e o ⟨mk .link p cs,way⟩ =
            some (.link (Position.link c images e o ⟨mk .link p cs,way⟩)) := by
          simp [Position.inline?,Position.isOutermostLink,kind,free]
        rw [here,outermost_link free]
        simp [inlines,NodeKind.isMark]
      | emphasis | strong | delete =>
        rw [inline?_of_free free (by decide)]
        simp [Position.leaf?,inlines,NodeKind.isMark,Step.marks_emphasis,Step.marks_strong,
          Step.marks_delete]
      | image =>
        rw [inline?_of_free free (by decide)]
        cases found : images.lookup p.url <;>
          simp [Position.leaf?,stays,inlines,NodeKind.isMark,found,InlineLeaf.toInline]
      | text =>
        have plain : Step.run c e o way p.text = textRun c p.text (Step.marks e way) o := by
          rw [Step.run_eq,Step.override,← Step.linked,unlinked]
          rfl
        rw [inline?_of_free free (by decide)]
        simp [Position.leaf?,stays,inlines,NodeKind.isMark,InlineLeaf.toInline,plain]
      | _ =>
        rw [inline?_of_free free (by decide)]
        simp [Position.leaf?,stays,inlines,NodeKind.isMark,InlineLeaf.toInline]

theorem row_inlines (ns : List Node) : forestInlines c images e o ns =
    (rowPositions ns).filterMap (Position.inline? c images e o) := by
  have node (n : Node) : (n.positions []).filterMap (Position.inline? c images e o) =
      n.inlines c images e o := by
    rw [positions_inlines,inlinesAt,Step.marks_nil]
    rfl
  rw [forestInlines_eq,rowPositions,List.filterMap_flatMap]
  simp only [node]

/-- Of what a position gives the line only that of an outermost link is a link. -/
theorem link?_inline? (pos : Position) : (pos.inline? c images e o).bind Inline.link? =
    (Option.guard Position.isOutermostLink pos).map (Position.link c images e o) := by
  rw [Position.inline?,Option.guard]
  split
  · rfl
  · split
    · rfl
    · cases pos.leaf? c images e o with
      | none => rfl
      | some leaf => cases leaf <;> rfl

theorem row_links (ns : List Node) : (forestInlines c images e o ns).filterMap Inline.link? =
    ((rowPositions ns).filter Position.isOutermostLink).map (Position.link c images e o) := by
  rw [row_inlines,List.filterMap_filterMap,← List.filterMap_eq_filter,List.map_filterMap]
  simp only [link?_inline?]

theorem outermost_link_children {pos : Position} (outermost : pos.isOutermostLink) :
    (pos.link c images e o).children ≠ [] := by
  obtain ⟨⟨k,p,cs⟩,way⟩ := pos
  obtain ⟨here,free⟩ := Bool.and_eq_true_iff.mp outermost
  obtain rfl : k = .link := of_decide_eq_true here
  rw [outermost_link free]
  exact hyperlink_leaves c p.url (Step.marks e way) _

/-- A line is what its positions give it: its links are those of its outermost links, each with its own
address and with all the leaves in it, and what stands outside of links stands in no link. Every position
belongs to one of them, and every link holds something. -/
theorem line_links (c : StyleConfig) (images : ImageCache) (e : Emphasis) (o : Override)
    (ns : List Node) :
    forestInlines c images e o ns = (rowPositions ns).filterMap (Position.inline? c images e o) ∧
    (forestInlines c images e o ns).filterMap Inline.link? =
      ((rowPositions ns).filter Position.isOutermostLink).map (Position.link c images e o) ∧
    (rowPositions ns).flatMap Position.span = rowPositions ns ∧
    ∀ h, Inline.link h ∈ forestInlines c images e o ns → h.children ≠ [] := by
  refine ⟨row_inlines ns,row_links ns,row_span ns,?_⟩
  intro h member
  have linked : h ∈ (forestInlines c images e o ns).filterMap Inline.link? :=
    List.mem_filterMap.mpr ⟨_,member,rfl⟩
  rw [row_links] at linked
  obtain ⟨pos,outermost,rfl⟩ := List.mem_map.mp linked
  exact outermost_link_children (List.mem_filter.mp outermost).2

/-- Links in a link, one of them around nothing, and a link around nothing beside them. -/
def linkedLine : List Node :=
  [ofText "a",
    mk .emphasis {} [mk .link { url := "u" } [ofText "b",
      mk .strong {} [mk .link { url := "v" } [mk .inlineCode { text := "c" } [],
        mk .link { url := "w" } []]]]],
    ofText "d",mk .link { url := "x" } []]

theorem line_links_nested :
    (∃ h, Inline.link h ∈ forestInlines {} [] {} {} linkedLine ∧ h.url = "u" ∧ h.children ≠ []) ∧
    ((forestInlines {} [] {} {} linkedLine).filterMap Inline.link?).map
      (fun h => (h.url,h.children.map InlineLeaf.text)) = [("u",["b","c","w"]),("x",["x"])] := by
  obtain ⟨_,links,_,held⟩ := line_links {} [] {} {} linkedLine
  constructor
  · have member : Inline.link _ ∈ forestInlines {} [] {} {} linkedLine := .tail _ (.head _)
    exact ⟨_,member,rfl,held _ member⟩
  · rw [links]
    decide +kernel

end Node

end DocPress
