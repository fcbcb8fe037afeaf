import DocPress.Proofs.Document.Position
import DocPress.Proofs.Picture.Fetch

/-! The pictures that a document draws. They are those that the tree shows, in the way in which the tree
is asked for their addresses before anything is laid out. Main statement: what a tree becomes depends on
a cache only through the addresses that the tree is found to show (`documentBlocks_collected`). -/

namespace DocPress

/-- The address that an empty link shows is no picture. -/
theorem linePictures_hyperlink {c : StyleConfig} {url : String} {e : Emphasis} {inner : List Inline} :
    linePictures [.link (hyperlink c url e inner)] = linePictures inner := by
  unfold linePictures hyperlink
  cases inside : inner.flatMap Inline.leaves <;> simp [Inline.leaves,InlineLeaf.picture?]

namespace Node

variable {c : StyleConfig} {images other : ImageCache} {n : Node} {k : NodeKind} {p : NodeProps}
  {cs : List Node}

theorem Within.trans {m l : Node} (inner : l.Within m) (outer : m.Within n) : l.Within n := by
  induction outer with
  | top => exact inner
  | child member _ ih => exact .child member ih

/-- Two caches have the same for every picture of the tree. -/
def SeenAlike (images other : ImageCache) (n : Node) : Prop :=
  ∀ p cs, (mk .image p cs).Within n → images.lookup p.url = other.lookup p.url

/-- The picture is one that the cache has for a picture of the tree. -/
def Draws (images : ImageCache) (n : Node) (i : ImageRun) : Prop :=
  ∃ p cs, (mk .image p cs).Within n ∧ images.lookup p.url = some i.data

theorem SeenAlike.within {m : Node} (alike : n.SeenAlike images other) (within : m.Within n) :
    m.SeenAlike images other := fun p cs picture => alike p cs (picture.trans within)

theorem Draws.around {m : Node} {i : ImageRun} (draws : m.Draws images i) (within : m.Within n) :
    n.Draws images i := by
  obtain ⟨p,cs,picture,found⟩ := draws
  exact ⟨p,cs,picture.trans within,found⟩

/-! ### Lines -/

/-- A line is the same with both caches, and its pictures are of the tree. -/
structure LineDrawn (images : ImageCache) (n : Node) (first second : List Inline) : Prop where
  same : first = second
  draws : ∀ i ∈ linePictures first, n.Draws images i

theorem LineDrawn.flatMap {f g : Node → List Inline} {ns : List Node}
    (each : ∀ m ∈ ns, m.Within n ∧ m.LineDrawn images (f m) (g m)) :
    n.LineDrawn images (ns.flatMap f) (ns.flatMap g) where
  same := List.flatMap_congr fun m member => (each m member).2.same
  draws := by
    rw [linePictures_flatMap]
    refine List.forall_mem_flatMap.mpr fun m member i drawn => ?_
    exact ((each m member).2.draws i drawn).around (each m member).1

theorem LineDrawn.run {r : Run} : n.LineDrawn images [.run r] [.run r] :=
  ⟨rfl,by rw [linePictures_cons_run]; exact List.forall_mem_nil _⟩

theorem inlines_drawn (alike : n.SeenAlike images other) {e : Emphasis} {o : Override} :
    n.LineDrawn images (n.inlines c images e o) (n.inlines c other e o) := by
  induction n using Node.induct generalizing e o with
  | step k p cs ih =>
    have forest {e : Emphasis} {o : Override} : (mk k p cs).LineDrawn images
        (forestInlines c images e o cs) (forestInlines c other e o cs) := by
      rw [forestInlines_eq,forestInlines_eq]
      refine .flatMap fun m member => ?_
      have within : m.Within (mk k p cs) := .child member .top
      exact ⟨within,ih m member (alike.within within)⟩
    cases k with
    | emphasis | strong | delete => exact forest
    | link =>
      have inner := @forest e (linkOverride c)
      rw [inlines,inlines,← inner.same]
      exact ⟨rfl,by rw [linePictures_hyperlink]; exact inner.draws⟩
    | image =>
      rw [inlines,inlines,← alike p cs .top]
      cases found : images.lookup p.url with
      | none => exact .run
      | some data =>
        refine ⟨rfl,fun i drawn => ⟨p,cs,.top,?_⟩⟩
        obtain rfl : i = _ := by simpa [linePictures,Inline.leaves,InlineLeaf.picture?] using drawn
        exact found
    | _ => exact .run

/-- What holds of a node holds of a line of nodes inside a tree. -/
theorem line_drawn (alike : n.SeenAlike images other) {l : List Node} (inside : ∀ m ∈ l, m.Within n)
    {e : Emphasis} {o : Override} :
    n.LineDrawn images (forestInlines c images e o l) (forestInlines c other e o l) := by
  rw [forestInlines_eq,forestInlines_eq]
  exact .flatMap fun m member => ⟨inside m member,inlines_drawn (alike.within (inside m member))⟩

/-! ### Blocks -/

/-- Blocks are the same with both caches, and their pictures are of the tree. -/
structure Drawn (images : ImageCache) (n : Node) (first second : List Block) : Prop where
  same : first = second
  draws : ∀ b ∈ first, ∀ i ∈ b.pictures, n.Draws images i

theorem Drawn.nil : n.Drawn images [] [] := ⟨rfl,List.forall_mem_nil _⟩

theorem Drawn.flatMap {α : Type} {f g : α → List Block} {items : List α}
    (each : ∀ a ∈ items, n.Drawn images (f a) (g a)) :
    n.Drawn images (items.flatMap f) (items.flatMap g) where
  same := List.flatMap_congr fun a member => (each a member).same
  draws := List.forall_mem_flatMap.mpr fun a member => (each a member).draws

theorem Drawn.around {m : Node} {first second : List Block} (drawn : m.Drawn images first second)
    (within : m.Within n) : n.Drawn images first second :=
  ⟨drawn.same,fun b member i picture => (drawn.draws b member i picture).around within⟩

/-- A paragraph that is built around a line has the pictures of the line. -/
theorem Drawn.paragraph {first second : List Inline} (line : n.LineDrawn images first second)
    (build : List Inline → Paragraph)
    (pictures : linePictures (build first).children = linePictures first) :
    n.Drawn images [.paragraph (build first)] [.paragraph (build second)] where
  same := by rw [line.same]
  draws := by
    refine List.forall_mem_singleton.mpr fun i drawn => line.draws i ?_
    rw [← pictures]
    simpa [Block.pictures,Block.paragraphs] using drawn

/-- A paragraph without a line of the tree has no pictures. -/
theorem Drawn.bare {q : Paragraph} (bare : linePictures q.children = []) :
    n.Drawn images [.paragraph q] [.paragraph q] where
  same := rfl
  draws := by
    refine List.forall_mem_singleton.mpr fun i drawn => ?_
    simp [Block.pictures,Block.paragraphs,bare] at drawn

theorem itemLine_drawn {first second : List Inline} (line : n.LineDrawn images first second)
    {level : Int} {ordered : Bool} {start : Option Int} {checked : Option Bool} :
    n.Drawn images [.paragraph (itemLine c level ordered start checked first)]
      [.paragraph (itemLine c level ordered start checked second)] := by
  refine .paragraph line (itemLine c level ordered start checked) ?_
  cases checked with
  | none => rfl
  | some checked => exact linePictures_cons_run

theorem tableRow_drawn (header : Bool) {row : Node} (alike : n.SeenAlike images other)
    (inside : row.Within n) :
    tableRow c images header row = tableRow c other header row ∧
      ∀ cell ∈ (tableRow c images header row).cells, ∀ q ∈ cell.paragraphs,
        ∀ i ∈ linePictures q.children, n.Draws images i := by
  have line (cell : Node) (member : cell ∈ row.children) {e : Emphasis} {o : Override} :
      n.LineDrawn images (forestInlines c images e o cell.children)
        (forestInlines c other e o cell.children) := by
    refine line_drawn alike fun m below => ?_
    obtain ⟨k,q,ds⟩ := cell
    obtain ⟨l,r,cells⟩ := row
    exact (Within.child member (.child below .top)).trans inside
  constructor
  · unfold tableRow
    congr 1
    exact List.map_congr_left fun cell member => by rw [(line cell member).same]
  · refine List.forall_mem_map.mpr fun cell member => List.forall_mem_singleton.mpr ?_
    exact (line cell member).draws

theorem table_drawn (alike : (mk k p cs).SeenAlike images other) :
    (mk k p cs).Drawn images [.table { rows := tableRows c images cs }]
      [.table { rows := tableRows c other cs }] := by
  have drawn (header : Bool) (row : Node) (member : row ∈ cs) :=
    tableRow_drawn (c := c) header alike (.child member .top)
  have rows : tableRows c images cs = tableRows c other cs ∧
      ∀ r ∈ tableRows c images cs, ∀ cell ∈ r.cells, ∀ q ∈ cell.paragraphs,
        ∀ i ∈ linePictures q.children, (mk k p cs).Draws images i := by
    cases cs with
    | nil => exact ⟨rfl,List.forall_mem_nil _⟩
    | cons head rest =>
      obtain ⟨first,later⟩ := List.forall_mem_cons.mp (drawn false)
      obtain ⟨same,draws⟩ := drawn true head List.mem_cons_self
      refine ⟨?_,List.forall_mem_cons.mpr ⟨draws,?_⟩⟩
      · rw [tableRows,tableRows,same,List.map_congr_left fun row member => (later row member).1]
      · exact List.forall_mem_map.mpr fun row member => (later row member).2
  refine ⟨by rw [rows.1],List.forall_mem_singleton.mpr ?_⟩
  simp only [Block.pictures,Block.paragraphs,List.forall_mem_flatMap]
  exact rows.2

/-! ### Positions -/

mutual

theorem within_of_mem_positions {pos : Position} {way : List Step} :
    ∀ n : Node, pos ∈ n.positions way → pos.node.Within n
  | mk k p cs, member => by
    rcases List.mem_cons.mp (by rwa [positions] at member) with rfl | below
    · exact .top
    · obtain ⟨m,child,within⟩ := within_of_mem_positionsIn cs below
      exact .child child within

theorem within_of_mem_positionsIn {pos : Position} {parent : Node} {way : List Step} {i : Nat} :
    ∀ ns : List Node, pos ∈ positionsIn parent way i ns → ∃ n ∈ ns, pos.node.Within n
  | [], member => by simp [positionsIn] at member
  | n :: ns, member => by
    rcases List.mem_append.mp (by rwa [positionsIn] at member) with here | later
    · exact ⟨n,List.mem_cons_self,within_of_mem_positions n here⟩
    · obtain ⟨m,child,within⟩ := within_of_mem_positionsIn ns later
      exact ⟨m,List.mem_cons_of_mem _ child,within⟩

end

/-- What a node becomes by itself, where it holds no other blocks. -/
theorem blocks_drawn (alike : (mk k p cs).SeenAlike images other) (document : k ≠ .document)
    (quote : k ≠ .blockquote) (list : k ≠ .list) {ctx : Option ListContext} :
    (mk k p cs).Drawn images ((mk k p cs).blocks c images ctx) ((mk k p cs).blocks c other ctx) := by
  have line {e : Emphasis} {o : Override} := line_drawn (c := c) (e := e) (o := o) alike
    (l := cs) fun m member => .child member .top
  cases k with
  | document => exact absurd rfl document
  | blockquote => exact absurd rfl quote
  | list => exact absurd rfl list
  | heading =>
    rw [blocks,blocks]
    exact .paragraph line (headingParagraph c _) rfl
  | paragraph =>
    rw [blocks,blocks]
    exact .paragraph line plainParagraph rfl
  | code =>
    rw [blocks,blocks]
    exact .bare linePictures_cons_run
  | thematicBreak =>
    rw [blocks,blocks]
    exact .bare rfl
  | table =>
    rw [blocks,blocks]
    split
    · exact .nil
    · exact table_drawn alike
  | _ => exact .nil

/-- The line of an item is that of the paragraph that the item starts with. -/
theorem listItem_drawn (alike : (mk .listItem p cs).SeenAlike images other) {way : List Step}
    {ctx : Option ListContext} :
    (mk .listItem p cs).Drawn images (Position.blocks ctx c images ⟨mk .listItem p cs,way⟩)
      (Position.blocks ctx c other ⟨mk .listItem p cs,way⟩) := by
  unfold Position.blocks
  split
  · cases way with
    | nil => exact .nil
    | cons s way =>
      dsimp only
      split
      · refine itemLine_drawn (line_drawn alike fun m member => ?_)
        cases cs with
        | nil => simp at member
        | cons head rest =>
          obtain ⟨k,q,line⟩ := head
          exact .child List.mem_cons_self (.child member .top)
      · exact .nil
  · exact .nil

/-- A paragraph stands by itself, in a quote, or in the line of an item. -/
theorem paragraph_drawn (alike : (mk .paragraph p cs).SeenAlike images other) {way : List Step}
    {ctx : Option ListContext} :
    (mk .paragraph p cs).Drawn images (Position.blocks ctx c images ⟨mk .paragraph p cs,way⟩)
      (Position.blocks ctx c other ⟨mk .paragraph p cs,way⟩) := by
  have line {o : Override} := line_drawn (c := c) (e := {}) (o := o) alike
    (l := cs) fun m member => .child member .top
  have plain := Drawn.paragraph (line (o := {})) plainParagraph rfl
  unfold Position.blocks
  split
  · cases way with
    | nil => exact plain
    | cons s way =>
      obtain ⟨⟨k,q,ds⟩,place⟩ := s
      cases k with
      | blockquote => exact .paragraph line (quoteParagraph c) rfl
      | listItem =>
        cases place with
        | zero => exact .nil
        | succ => exact plain
      | _ => exact plain
  · exact .nil

theorem position_drawn {pos : Position} {ctx : Option ListContext}
    (alike : pos.node.SeenAlike images other) :
    pos.node.Drawn images (Position.blocks ctx c images pos) (Position.blocks ctx c other pos) := by
  obtain ⟨⟨k,p,cs⟩,way⟩ := pos
  cases k with
  | listItem => exact listItem_drawn alike
  | paragraph => exact paragraph_drawn alike
  | document | blockquote | list =>
    unfold Position.blocks
    split <;> exact .nil
  | _ =>
    unfold Position.blocks
    split
    · exact blocks_drawn alike (by decide) (by decide) (by decide)
    · exact .nil

theorem node_drawn {ctx : Option ListContext} (alike : n.SeenAlike images other) :
    n.Drawn images (n.blocks c images ctx) (n.blocks c other ctx) := by
  rw [blocks_positions,blocks_positions]
  refine .flatMap fun pos member => ?_
  have within := within_of_mem_positions n member
  exact (position_drawn (alike.within within)).around within

/-- What a tree becomes does not depend on what a cache has for addresses that the tree is not found to
show, and a picture in it has the data of an address that is found. -/
theorem documentBlocks_collected (c : StyleConfig) (doc : Node) {images other : ImageCache}
    (unnamed : images.lookup "" = none) (otherUnnamed : other.lookup "" = none)
    (agree : ∀ url ∈ doc.imageUrls, images.lookup url = other.lookup url) :
    doc.documentBlocks c images = doc.documentBlocks c other ∧
      ∀ b ∈ doc.documentBlocks c images, ∀ i ∈ b.pictures,
        ∃ url ∈ doc.imageUrls, images.lookup url = some i.data := by
  have collected {p : NodeProps} {cs : List Node} (picture : (mk .image p cs).Within doc)
      (named : p.url ≠ "") : p.url ∈ doc.imageUrls := mem_imageUrls.mpr ⟨named,p,cs,picture,rfl⟩
  have alike : doc.SeenAlike images other := by
    intro p cs picture
    by_cases named : p.url = ""
    · rw [named,unnamed,otherUnnamed]
    · exact agree _ (collected picture named)
  have drawn : doc.Drawn images (doc.documentBlocks c images) (doc.documentBlocks c other) := by
    rw [documentBlocks,documentBlocks,forestBlocks_eq,forestBlocks_eq]
    refine .flatMap fun n member => ?_
    have within : n.Within doc := by
      obtain ⟨k,p,cs⟩ := doc
      exact .child member .top
    exact (node_drawn (alike.within within)).around within
  refine ⟨drawn.same,fun b member i picture => ?_⟩
  obtain ⟨p,cs,within,found⟩ := drawn.draws b member i picture
  refine ⟨p.url,collected within fun nameless => ?_,found⟩
  rw [nameless,unnamed] at found
  cases found

/-- Pictures in a linked heading, in a cell, in the line of a task and in a quote, and one that no
address names. -/
def illustratedDocument : Node := .mk .document {} [
  .mk .heading { level := 1 } [.mk .link { url := "v" } [.mk .image { url := "a" } []]],
  .mk .table {} [.mk .tableRow {} [.mk .tableCell {} [.mk .strong {} [.mk .image { url := "b" } []]]]],
  .mk .list {} [.mk .listItem { checked := some true } [.mk .paragraph {} [.mk .image { url := "c" } []]]],
  .mk .blockquote {} [.mk .paragraph {} [.mk .image { url := "" } [],.mk .image { url := "a" } []]]]

/-- Two caches that differ in data nobody asks for, in order, and in what a second entry says. -/
theorem documentBlocks_collected_illustrated :
    illustratedDocument.documentBlocks {} [("d",[4]),("a",[1]),("c",[3])] =
        illustratedDocument.documentBlocks {} [("c",[3]),("a",[1]),("a",[2])] ∧
      ∀ b ∈ illustratedDocument.documentBlocks {} [("d",[4]),("a",[1]),("c",[3])], ∀ i ∈ b.pictures,
        ∃ url ∈ illustratedDocument.imageUrls,
          List.lookup url [("d",[4]),("a",[1]),("c",[3])] = some i.data :=
  documentBlocks_collected {} illustratedDocument (by decide) (by decide) (by decide +kernel)

end Node

end DocPress
