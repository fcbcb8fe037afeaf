import DocPress.Proofs.Document.Numbered
import DocPress.Proofs.Package.Bold

/-! Which texts a reader is shown as bold. The text of a heading is, by the style of the heading, also
where the document says that it is not: code and what stands in place of a picture take no look from
their surroundings. Main statement: what is shown is what the document says exactly if no heading holds
a thing of that sort (`documentBlocks_showsFlags_iff`). -/

namespace DocPress

/-- Is it a picture, or a bold text? -/
def InlineLeaf.isStrong : InlineLeaf → Bool
  | .run r => r.bold
  | .image _ => true

namespace Node

mutual

/-- Does what an inline node becomes take the look of its surroundings, as far as it is text? Code and
the text in place of a picture do not, nor does the empty text for what cannot stand in a line. -/
def takesLook (images : ImageCache) : Node → Bool
  | mk .text _ _ => true
  | mk .emphasis _ cs => allTakeLook images cs
  | mk .strong _ cs => allTakeLook images cs
  | mk .delete _ cs => allTakeLook images cs
  | mk .link _ cs => allTakeLook images cs
  | mk .image p _ => (images.lookup p.url).isSome
  | mk _ _ _ => false

def allTakeLook (images : ImageCache) : List Node → Bool
  | [] => true
  | n :: ns => n.takesLook images && allTakeLook images ns

end

variable {c : StyleConfig} {images : ImageCache} {e : Emphasis} {o : Override} {ctx : Option ListContext}

theorem allTakeLook_eq (ns : List Node) : allTakeLook images ns = ns.all (takesLook images) := by
  induction ns with
  | nil => rw [allTakeLook,List.all_nil]
  | cons n ns ih => rw [allTakeLook,ih,List.all_cons]

theorem forestInlines_strong {ns : List Node}
    (each : ∀ n ∈ ns, ((n.inlines c images e o).flatMap Inline.leaves).all InlineLeaf.isStrong =
      n.takesLook images) :
    ((forestInlines c images e o ns).flatMap Inline.leaves).all InlineLeaf.isStrong =
      ns.all (takesLook images) := by
  rw [forestInlines_eq]
  induction ns with
  | nil => rfl
  | cons n ns ih =>
    obtain ⟨first,rest⟩ := List.forall_mem_cons.mp each
    rw [List.flatMap_cons,List.flatMap_append,List.all_append,first,ih rest,List.all_cons]

/-- In bold surroundings all texts of a node are bold exactly if the node takes their look. -/
theorem inlines_strong (n : Node) : ∀ e : Emphasis, e.bold = true → ∀ o,
    ((n.inlines c images e o).flatMap Inline.leaves).all InlineLeaf.isStrong = n.takesLook images := by
  induction n using Node.induct with
  | step k p cs ih =>
    intro e bold o
    have inner (f : Emphasis) (strong : f.bold = true) (a : Override) :
        ((forestInlines c images f a cs).flatMap Inline.leaves).all InlineLeaf.isStrong =
          allTakeLook images cs := by
      rw [allTakeLook_eq]
      exact forestInlines_strong fun n member => ih n member f strong a
    cases k with
    | emphasis | strong | delete => exact inner _ (by simp [Emphasis.merge,bold]) o
    | link =>
      rw [inlines,takesLook,← inner e bold (linkOverride c)]
      have shown : InlineLeaf.isStrong (.run (textRun c p.url e (linkOverride c))) = true := bold
      rw [List.flatMap_singleton,Inline.leaves,hyperlink]
      dsimp only
      split
      · next empty => rw [List.isEmpty_iff.mp empty,List.all_cons,shown,List.all_nil]; rfl
      · rfl
    | image =>
      rw [inlines,takesLook]
      cases images.lookup p.url <;> rfl
    | text => exact Bool.and_eq_true_iff.mpr ⟨bold,rfl⟩
    | _ => rfl

/-! ### Headings -/

def headingsOf (blocks : List Block) : List Paragraph :=
  (blocks.flatMap Block.paragraphs).filter (·.headingLevel.isSome)

theorem headingsOf_flatMap {α : Type} (items : List α) (blocks : α → List Block) :
    headingsOf (items.flatMap blocks) = items.flatMap fun a => headingsOf (blocks a) := by
  induction items with
  | nil => rfl
  | cons a items ih =>
    rw [List.flatMap_cons,List.flatMap_cons,← ih]
    simp [headingsOf]

theorem table_noHeading (rows : List Node) :
    headingsOf [.table { rows := tableRows c images rows }] = [] := by
  have row (header : Bool) (row : Node) : ∀ cell ∈ (tableRow c images header row).cells,
      ∀ q ∈ cell.paragraphs, ¬ q.headingLevel.isSome := by
    intro cell member q inside
    obtain ⟨n,_,rfl⟩ := List.mem_map.mp member
    rw [List.mem_singleton.mp inside]
    simp
  rw [headingsOf,List.flatMap_singleton,List.filter_eq_nil_iff]
  intro q member
  obtain ⟨r,there,member⟩ := List.mem_flatMap.mp member
  obtain ⟨cell,inside,here⟩ := List.mem_flatMap.mp member
  cases rows with
  | nil => cases there
  | cons header rows =>
    obtain rfl | rest := List.mem_cons.mp there
    · exact row true header cell inside q here
    · obtain ⟨n,_,rfl⟩ := List.mem_map.mp rest
      exact row false n cell inside q here

end Node

namespace Position

variable {c : StyleConfig} {images : ImageCache} {ctx : Option ListContext}

/-- Does the position become a heading? -/
def isHeading (pos : Position) : Bool := Step.allLead pos.way && pos.node.kind = .heading

open Node in
/-- A position that becomes a heading gives it by itself, and no other one gives a heading. -/
theorem headings (pos : Position) :
    headingsOf (pos.blocks ctx c images) =
      if pos.isHeading then
        [headingParagraph c (clampHeadingLevel pos.node.props.level)
          (forestInlines c images { bold := true }
            (headingOverride c (clampHeadingLevel pos.node.props.level)) pos.node.children)]
      else [] := by
  obtain ⟨⟨k,p,cs⟩,way⟩ := pos
  cases leads : Step.allLead way with
  | false => cases way <;> simp [blocks,isHeading,leads,headingsOf]
  | true =>
    cases k with
    | listItem =>
      cases way with
      | nil => rfl
      | cons s way =>
        have plain : isHeading ⟨.mk .listItem p cs,s :: way⟩ = false := by simp [isHeading,Node.kind]
        rw [plain]
        cases list : s.isList <;> cases line : (Node.mk .listItem p cs).hasLine
        · simp [blocks,leads,list,headingsOf]
        · simp [blocks,leads,list,headingsOf]
        · simp [blocks,leads,list,line,headingsOf]
        · rw [blocks_listItem leads list line]
          cases p.checked <;> rfl
    | table =>
      have plain : isHeading ⟨.mk .table p cs,way⟩ = false := by simp [isHeading,Node.kind]
      have whole : blocks ctx c images ⟨.mk .table p cs,way⟩ =
          (Node.mk .table p cs).blocks c images none := by rw [blocks,if_pos leads]
      rw [plain,whole,Node.blocks]
      split
      · rfl
      · exact table_noHeading cs
    | paragraph =>
      have plain : isHeading ⟨.mk .paragraph p cs,way⟩ = false := by simp [isHeading,Node.kind]
      rw [plain,if_neg Bool.false_ne_true,Node.paragraph_gives leads]
      cases way with
      | nil => rfl
      | cons s way =>
        rw [Node.becomes]
        split_ifs <;> rfl
    | heading =>
      have heading : isHeading ⟨.mk .heading p cs,way⟩ = true := by simp [isHeading,Node.kind,leads]
      rw [heading,if_pos rfl,blocks,if_pos leads]
      rfl
    | _ => cases way <;> simp [blocks,isHeading,leads,Node.blocks,Node.kind] <;> rfl

end Position

/-! ### Shown and said -/

/-- Every text of the paragraphs is shown bold exactly if the document says that it is. -/
def Package.ShowsFlags (p : Package) (paragraphs : List Paragraph) : Prop :=
  List.Forall₂ (fun x q => List.Forall₂
      (fun y leaf => ∀ r, leaf = .run r → p.showsBold x y = r.bold) (x.named "w:r") q.leaves)
    (paragraphsIn p.body) paragraphs

theorem forall₂_iff_forall {α β : Type} {known asked : α → β → Prop} {holds : β → Prop} {as : List α}
    {bs : List β} (given : List.Forall₂ known as bs) (each : ∀ a b, known a b → (asked a b ↔ holds b)) :
    List.Forall₂ asked as bs ↔ ∀ b ∈ bs, holds b := by
  induction given with
  | nil => simp
  | cons first _ ih => rw [List.forall₂_cons,ih,List.forall_mem_cons,each _ _ first]

theorem assembled_showsFlags_iff {blocks : List Block} {c : StyleConfig} {title : String} {p : Package}
    (encoded : (encode (assemble blocks c title)).result = .ok p) :
    p.ShowsFlags (blocks.flatMap Block.paragraphs) ↔
      ∀ q ∈ Node.headingsOf blocks, q.leaves.all InlineLeaf.isStrong := by
  have text (x y : XmlElement) (q : Paragraph) (leaf : InlineLeaf)
      (shown : p.showsBold x y = (leaf.isBold || q.headingLevel.isSome)) :
      (∀ r, leaf = .run r → p.showsBold x y = r.bold) ↔
        (q.headingLevel.isSome → leaf.isStrong) := by
    cases leaf with
    | run r =>
      rw [shown]
      cases bold : r.bold <;> simp [InlineLeaf.isBold,InlineLeaf.isStrong,bold]
    | image i => simp [InlineLeaf.isStrong]
  have paragraph (x : XmlElement) (q : Paragraph) (shown : List.Forall₂
      (fun y leaf => p.showsBold x y = (leaf.isBold || q.headingLevel.isSome)) (x.named "w:r") q.leaves) :
      List.Forall₂ (fun y leaf => ∀ r, leaf = .run r → p.showsBold x y = r.bold) (x.named "w:r")
        q.leaves ↔ ∀ leaf ∈ q.leaves, q.headingLevel.isSome → leaf.isStrong :=
    forall₂_iff_forall shown fun y leaf => text x y q leaf
  refine (forall₂_iff_forall (assembled_showsBold encoded) paragraph).trans ?_
  simp only [Node.headingsOf,List.mem_filter,List.all_eq_true,and_imp]
  exact ⟨fun all q member heading leaf inside => all q member leaf inside heading,
    fun all q member leaf inside heading => all q member heading leaf inside⟩

namespace Node

variable {c : StyleConfig} {images : ImageCache}

/-- The headings that a tree becomes hold nothing but bold texts and pictures exactly if what stands in
them takes their look. -/
theorem documentBlocks_headings (doc : Node) :
    (∀ q ∈ headingsOf (doc.documentBlocks c images), q.leaves.all InlineLeaf.isStrong) ↔
      ∀ n ∈ doc.children, ∀ pos ∈ n.positions [], pos.isHeading →
        pos.node.children.all (takesLook images) := by
  have whole : doc.documentBlocks c images = doc.children.flatMap fun n =>
      (n.positions []).flatMap (Position.blocks none c images) := by
    rw [documentBlocks,forestBlocks_eq]
    exact List.flatMap_congr fun n _ => n.blocks_positions
  have heading (pos : Position) : (∀ q ∈ headingsOf (pos.blocks none c images),
      q.leaves.all InlineLeaf.isStrong) ↔ (pos.isHeading → pos.node.children.all (takesLook images)) := by
    rw [Position.headings]
    split
    · next is =>
      have line : ((forestInlines c images { bold := true }
          (headingOverride c (clampHeadingLevel pos.node.props.level)) pos.node.children).flatMap
            Inline.leaves).all InlineLeaf.isStrong = pos.node.children.all (takesLook images) :=
        forestInlines_strong fun n _ => n.inlines_strong _ rfl _
      rw [List.forall_mem_singleton,← line]
      exact ⟨fun strong _ => strong,fun strong => strong is⟩
    · next other => simp [other]
  rw [whole,headingsOf_flatMap]
  simp only [List.forall_mem_flatMap,headingsOf_flatMap,heading]

/-- In the file of a tree every text is shown bold where the document says so or a heading has it, and
so only there where the document says so exactly if all that stands in headings takes their look. -/
theorem documentBlocks_showsFlags_iff {doc : Node} {title : String} {p : Package}
    (encoded : (encode (assemble (doc.documentBlocks c images) c title)).result = .ok p) :
    List.Forall₂ (fun x q => List.Forall₂
        (fun y leaf => p.showsBold x y = (leaf.isBold || q.headingLevel.isSome)) (x.named "w:r") q.leaves)
      (paragraphsIn p.body) ((doc.documentBlocks c images).flatMap Block.paragraphs) ∧
    (p.ShowsFlags ((doc.documentBlocks c images).flatMap Block.paragraphs) ↔
      ∀ n ∈ doc.children, ∀ pos ∈ n.positions [], pos.isHeading →
        pos.node.children.all (takesLook images)) :=
  ⟨assembled_showsBold encoded,(assembled_showsFlags_iff encoded).trans doc.documentBlocks_headings⟩

/-- Headings of letters, one of them with a link around a picture and one of them in a quote, and code
outside of headings. -/
def letteredHeadings : Node := mk .document {} [
  mk .heading { level := 1 } [ofText "a",mk .link { url := "u" } [mk .image { url := "v" } []]],
  mk .blockquote {} [mk .heading { level := 2 } [mk .emphasis {} [ofText "b"]]],
  mk .paragraph {} [mk .inlineCode { text := "c" } []]]

theorem letteredHeadings_showFlags :
    ∃ p, (encode (assemble (letteredHeadings.documentBlocks {} [("v",[0])]) {} "")).result = .ok p ∧
      p.ShowsFlags ((letteredHeadings.documentBlocks {} [("v",[0])]).flatMap Block.paragraphs) := by
  obtain ⟨p,encoded⟩ := Build.encoded_of_isOk
    (m := assemble (letteredHeadings.documentBlocks {} [("v",[0])]) {} "") (by decide +kernel)
  exact ⟨p,encoded,(documentBlocks_showsFlags_iff encoded).2.mpr (by decide +kernel)⟩

/-- A heading that holds code. -/
def codedHeading : Node :=
  mk .document {} [mk .heading { level := 1 } [mk .inlineCode { text := "c" } []]]

/-- Code in a heading is shown bold, while the document says that it is not. -/
theorem codedHeading_shownBold :
    ∃ p, (encode (assemble (codedHeading.documentBlocks {} []) {} "")).result = .ok p ∧
      ((codedHeading.documentBlocks {} []).flatMap Block.paragraphs).map
        (·.leaves.map InlineLeaf.isBold) = [[false]] ∧
      (paragraphsIn p.body).map (fun x => (x.named "w:r").map (p.showsBold x)) = [[true]] := by
  have computed : (encode (assemble (codedHeading.documentBlocks {} []) {} "")).result.toOption.map
      (fun p => (paragraphsIn p.body).map fun x => (x.named "w:r").map (p.showsBold x)) =
      some [[true]] := by decide +kernel
  obtain ⟨p,encoded⟩ := Build.encoded_of_isOk
    (m := assemble (codedHeading.documentBlocks {} []) {} "") (by decide +kernel)
  rw [encoded] at computed
  exact ⟨p,encoded,by decide +kernel,Option.some_inj.mp computed⟩

end Node

end DocPress
