import DocPress.Proofs.Document.LinkSpan
import DocPress.Proofs.Markdown.Conversion

/-! What is seen of a link. A link around nothing shows its address. But a token without children and
without a text puts an empty text into its link, which is something, so that such a link shows nothing
at all. Main statement: a link is seen if and only if something that stands in it is (`link_seen_iff`). -/

namespace DocPress

def InlineLeaf.isSeen : InlineLeaf → Bool
  | .run r => ! r.text.isEmpty
  | .image _ => true

theorem placeholderRun_seen (c : StyleConfig) (alt : String) :
    (InlineLeaf.run (placeholderRun c alt)).isSeen := by
  simp [InlineLeaf.isSeen,placeholderRun,imagePlaceholder]

def Hyperlink.isSeen (h : Hyperlink) : Bool := h.children.any InlineLeaf.isSeen

/-- Is there nothing to see where the node itself gives a leaf? What cannot stand in a line shows
nothing there. -/
def Node.isBlank : Node → Bool
  | mk .text p _ => p.text.isEmpty
  | mk .inlineCode p _ => p.text.isEmpty
  | mk .link p _ => p.url.isEmpty
  | mk .image _ _ => false
  | mk k _ _ => ! k.isMark

namespace Position

/-- Does the position give a line a leaf? -/
def isLeaf (pos : Position) : Bool :=
  Step.inLine pos.way &&
  match pos.node with
  | .mk .link _ cs => (rowPositions cs).all (·.node.kind.isMark)
  | .mk k _ _ => ! k.isMark

def isSeen (pos : Position) : Bool := pos.isLeaf && ! pos.node.isBlank

variable {c : StyleConfig} {images : ImageCache} {e : Emphasis} {o : Override}

theorem leaf?_isSome (pos : Position) : (pos.leaf? c images e o).isSome = pos.isLeaf := by
  obtain ⟨⟨k,p,cs⟩,way⟩ := pos
  rw [leaf?,isLeaf]
  cases Step.inLine way with
  | false => rfl
  | true =>
    cases k with
    | image => cases found : images.lookup p.url <;> simp [found,NodeKind.isMark]
    | link => cases bare : (rowPositions cs).all (·.node.kind.isMark) <;> simp [bare]
    | _ => rfl

theorem leaf?_seen (pos : Position) :
    (pos.leaf? c images e o).any InlineLeaf.isSeen = pos.isSeen := by
  obtain ⟨⟨k,p,cs⟩,way⟩ := pos
  rw [leaf?,isSeen,isLeaf]
  cases Step.inLine way with
  | false => rfl
  | true =>
    cases k with
    | image =>
      have words := placeholderRun_seen c p.alt
      cases found : images.lookup p.url with
      | none => simp [found,words,NodeKind.isMark,Node.isBlank]
      | some data => simp [found,InlineLeaf.isSeen,NodeKind.isMark,Node.isBlank]
    | link =>
      cases bare : (rowPositions cs).all (·.node.kind.isMark) <;>
        simp [bare,InlineLeaf.isSeen,Step.run,Node.isBlank]
    | _ => rfl

end Position

namespace Node

variable {c : StyleConfig} {images : ImageCache} {e : Emphasis} {o : Override} {n : Node}
  {h : Hyperlink}

theorem link_children (built : n.inlines c images e o = [.link h]) :
    h.children = (n.positions []).filterMap (Position.leaf? c images e o) := by
  rw [positions_leaves,leavesAt,Step.marks_nil,Step.override_nil,built]
  exact (List.append_nil _).symm

theorem link_isSeen (built : n.inlines c images e o = [.link h]) :
    h.isSeen ↔ ∃ pos ∈ n.positions [], pos.isSeen := by
  have each (pos : Position) := @Position.leaf?_seen c images e o pos
  rw [Hyperlink.isSeen,link_children built,List.any_eq_true]
  constructor
  · rintro ⟨leaf,member,seen⟩
    obtain ⟨pos,there,gives⟩ := List.mem_filterMap.mp member
    refine ⟨pos,there,?_⟩
    rw [← each pos,gives]
    exact seen
  · rintro ⟨pos,there,seen⟩
    rw [← each pos,Option.any_eq_true] at seen
    obtain ⟨leaf,gives,seen⟩ := seen
    exact ⟨leaf,List.mem_filterMap.mpr ⟨pos,there,gives⟩,seen⟩

/-- A link holds a leaf, and only blank nodes give one that is not seen. -/
theorem link_seen_of_plain (built : n.inlines c images e o = [.link h]) (some_leaf : h.children ≠ [])
    (plain : ∀ pos ∈ n.positions [], ¬ pos.node.isBlank) : h.isSeen := by
  rw [link_children built] at some_leaf
  obtain ⟨leaf,member⟩ := List.exists_mem_of_ne_nil _ some_leaf
  obtain ⟨pos,there,gives⟩ := List.mem_filterMap.mp member
  have stands : pos.isLeaf := by
    rw [← @Position.leaf?_isSome c images e o pos,gives]
    rfl
  refine (link_isSeen built).mpr ⟨pos,there,?_⟩
  rw [Position.isSeen,stands,Bool.true_and,Bool.not_eq_true',← Bool.not_eq_true]
  exact plain pos there

theorem link_inlines (p : NodeProps) (cs : List Node) : (mk .link p cs).inlines c images e o =
    [.link (hyperlink c p.url e (forestInlines c images e (linkOverride c) cs))] := by rw [inlines]

end Node

namespace Token

open Node

/-- What a token is read for: its children if they are something, else its text, and the empty text if it
has none. -/
def inner (text children : Payload) : Payload :=
  if children.isSomething then children else text.orElse (.str "")

theorem contents_eq (text children : Payload) :
    contents children text (nodesBelow children) (nodesBelow text) =
      nodesBelow (inner text children) := by
  unfold contents inner
  split
  · rfl
  · cases text <;> simp [Payload.orElse,nodesBelow]

theorem wordless_link {c : StyleConfig} {images : ImageCache} {e : Emphasis} {url : String}
    {children : Payload} (nothing : children.isSomething = false) :
    hyperlink c url e (forestInlines c images e (linkOverride c) (nodesBelow (inner .absent children))) =
      ⟨url,[.run (textRun c "" e (linkOverride c))]⟩ := by
  rw [inner,nothing]
  rfl

/-- A link is seen if and only if something in it is. It is, if there is no blank node in it. One without
leaves shows its address, but one whose token has neither children nor a text shows an empty text. -/
theorem link_seen_iff (before after : List Token) (attrs : TokenAttrs) (older : OlderKeys)
    (raw text children : Payload) :
    ∃ n, nodes (before ++ mk "link" attrs older raw text children :: after) =
        nodes before ++ n :: nodes after ∧
      n.children = nodesBelow (inner text children) ∧
      ∀ c images e o, ∃ h, n.inlines c images e o = [.link h] ∧
        h.url = address attrs.url older.link ∧
        (h.isSeen ↔ ∃ pos ∈ n.positions [], pos.isSeen) ∧
        ((∀ pos ∈ n.positions [], ¬ pos.node.isBlank) → h.isSeen) ∧
        (haveLeaf n.children = false → h.children = [.run (textRun c h.url e (linkOverride c))]) ∧
        (children.isSomething = false → text = .absent →
          h.children = [.run (textRun c "" e (linkOverride c))]) := by
  have node : (mk "link" attrs older raw text children).node? =
      some (.mk .link (linkProps attrs older) (nodesBelow (inner text children))) := by
    rw [node?,contents_eq]
  refine ⟨.mk .link (linkProps attrs older) (nodesBelow (inner text children)),?_,rfl,?_⟩
  · rw [nodes_eq,nodes_eq,nodes_eq,List.flatMap_append,List.flatMap_cons,node]
    rfl
  · intro c images e o
    have built := @link_inlines c images e o (linkProps attrs older) (nodesBelow (inner text children))
    refine ⟨_,built,rfl,link_isSeen built,?_,hyperlink_bare c images _ e _,?_⟩
    · exact link_seen_of_plain built (hyperlink_leaves c _ e _)
    · -- the empty text in place of the missing one is a leaf, so the address is not shown
      rintro nothing rfl
      rw [wordless_link nothing]

def linkAround (children : Payload) : Token :=
  mk "link" { url := .given "u" } {} .absent .absent children

/-- Links around nothing, in all spellings. -/
def wordlessLinks : List Token := [.absent,.null,.tokens [] "[]",.str ""].map linkAround

/-- None of them is seen, although each has an address. -/
theorem wordlessLinks_unseen :
    ((forestInlines {} [] {} {} (nodes wordlessLinks)).filterMap Inline.link?).map
      (fun h => (h.url,h.children.map InlineLeaf.text,h.isSeen)) =
        List.replicate 4 ("u",[""],false) := by decide +kernel

/-- Strong emphasis of nothing. -/
def strongBlank : Payload :=
  .tokens [mk "strong" {} {} .absent .absent
    (.tokens [mk "blank_line" {} {} .absent .absent .absent] "")] ""

theorem link_seen_iff_marked :
    (∃ h, forestInlines {} [] {} {} (nodes [linkAround strongBlank]) = [.link h] ∧
      h.isSeen ∧ h.children.map InlineLeaf.text = ["u"]) ∧
    ∃ h, forestInlines {} [] {} {} (nodes [linkAround .null]) = [.link h] ∧
      h.url = "u" ∧ h.children.map InlineLeaf.text = [""] := by
  constructor
  · obtain ⟨n,row,_,line⟩ := link_seen_iff [] [] { url := .given "u" } {} .absent .absent strongBlank
    obtain ⟨h,built,url,_,seen,bare,_⟩ := line {} [] {} {}
    have row : nodes [linkAround strongBlank] = [n] := row
    have known : n = .mk .link { url := "u" } [.mk .strong {} []] := (List.cons.inj row).1.symm
    refine ⟨h,?_,?_,?_⟩
    · rw [row,forestInlines,built]
      rfl
    · apply seen
      rw [known]
      decide
    · rw [bare (by rw [known]; decide),url]
      rfl
  · obtain ⟨n,row,_,line⟩ := link_seen_iff [] [] { url := .given "u" } {} .absent .absent .null
    obtain ⟨h,built,url,_,_,_,wordless⟩ := line {} [] {} {}
    have row : nodes [linkAround .null] = [n] := row
    refine ⟨h,?_,url,?_⟩
    · rw [row,forestInlines,built]
      rfl
    · rw [wordless rfl rfl]
      rfl

end Token

end DocPress
