import DocPress.Document.Assembly
import DocPress.Proofs.Document.Position

/-! How the items of lists are numbered and indented. The references of a tree to numberings are those
of its positions, which are told from the way down to each (`Node.blocks_numbered`): how many lists it
leads through, and what kind the innermost one has. -/

namespace DocPress

namespace Node

theorem isCounted_eq (n : Node) : n.isCounted = (n.hasLine && n.props.checked.isNone) := by
  obtain ⟨k,p,cs⟩ := n
  cases k with
  | listItem =>
    cases cs with
    | nil => rfl
    | cons head rest =>
      obtain ⟨k,q,line⟩ := head
      cases k <;> rfl
  | _ => rfl

end Node

namespace Position

variable {ctx : Option ListContext} {c : StyleConfig} {images : ImageCache}

theorem blocks_listItem {p : NodeProps} {cs : List Node} {s : Step} {way : List Step}
    (leads : Step.allLead (s :: way)) (list : s.isList) (line : (Node.mk .listItem p cs).hasLine) :
    blocks ctx c images ⟨.mk .listItem p cs,s :: way⟩ =
      [.paragraph (Node.itemLine c (Step.depth ctx way) s.parent.props.ordered
        (Step.opening? ctx s.parent s.place way) p.checked
        (Node.forestInlines c images {} {} (cs.head?.elim [] Node.children)))] := by
  rw [blocks,if_pos leads]
  simp only [list,line,Bool.and_self,if_true]

theorem references (pos : Position) :
    (pos.blocks ctx c images).flatMap Block.references = (pos.numbering? ctx).toList := by
  obtain ⟨⟨k,p,cs⟩,way⟩ := pos
  cases leads : Step.allLead way with
  | false => cases way <;> simp [blocks,numbering?,leads]
  | true =>
    cases k with
    | listItem =>
      cases way with
      | nil => simp [blocks,numbering?,leads,Node.blocks]
      | cons s way =>
        have counted := Node.isCounted_eq (.mk .listItem p cs)
        cases list : s.isList <;> cases line : (Node.mk .listItem p cs).hasLine
        · simp [blocks,numbering?,leads,list]
        · simp [blocks,numbering?,leads,list]
        · simp [blocks,numbering?,leads,list,line,counted]
        · rw [blocks_listItem leads list line,List.flatMap_singleton,Node.itemLine_references]
          cases task : p.checked <;>
            simp [numbering?,leads,list,counted,line,Node.props,task]
    | table =>
      have rows : ((Node.mk .table p cs).blocks c images none).flatMap Block.references = [] := by
        rw [Node.blocks]
        split
        · rfl
        · rw [List.flatMap_singleton,Node.table_references]
      have whole : blocks ctx c images ⟨.mk .table p cs,way⟩ =
          (Node.mk .table p cs).blocks c images none := by rw [blocks,if_pos leads]
      rw [whole,rows]
      cases way <;> simp [numbering?,Node.isCounted]
    | paragraph =>
      have plain : (blocks ctx c images ⟨.mk .paragraph p cs,way⟩).flatMap Block.references = [] := by
        rw [Node.paragraph_gives leads]
        cases way with
        | nil => rfl
        | cons s way =>
          rw [Node.becomes]
          split_ifs <;> rfl
      rw [plain]
      cases way <;> simp [numbering?,Node.isCounted]
    | _ =>
      cases way <;> simp [blocks,numbering?,leads,Node.isCounted,Node.blocks] <;> rfl

/-- A task of a list with a line of its own. -/
def isTask (pos : Position) : Bool :=
  Step.allLead pos.way && pos.way.head?.any Step.isList && pos.node.hasLine &&
    pos.node.props.checked.isSome

def depth (ctx : Option ListContext) (pos : Position) : Int := Step.depth ctx pos.way.tail

theorem depth_nonneg (above : ∀ x ∈ ctx, 0 ≤ x.level) (way : List Step) : 0 ≤ Step.depth ctx way := by
  have surroundings : 0 ≤ listLevel ctx := by
    cases ctx with
    | none => exact Int.le_refl 0
    | some x => exact Int.add_nonneg (above x rfl) (by decide)
  exact Int.add_nonneg (Int.natCast_nonneg _) surroundings

/-- The families give each level the indent of the items of that level. -/
theorem levels_indent {d : Int} (nonneg : 0 ≤ d) :
    ∀ definition ∈ buildNumbering c,
      (definition.levels.find? (·.level = min d maxListLevel)).map NumberingLevel.indentLeft =
        some (listIndent d) := by
  have clamped : min d maxListLevel = 0 ∧ d = 0 ∨ min d maxListLevel = 1 ∧ d = 1 ∨
      min d maxListLevel = 2 ∧ 2 ≤ d := by
    unfold maxListLevel
    omega
  have deepest : 2 ≤ d → listIndent d = listIndent 2 := by
    intro deep
    unfold listIndent maxListLevel
    omega
  intro definition member
  obtain rfl | rfl : definition = bulletDefinition c ∨ definition = orderedDefinition c := by
    simpa [buildNumbering] using member
  all_goals
    rcases clamped with ⟨level,rfl⟩ | ⟨level,rfl⟩ | ⟨level,deep⟩
    · rw [level]
      rfl
    · rw [level]
      rfl
    · rw [level,deepest deep]
      rfl

theorem task_blocks (above : ∀ x ∈ ctx, 0 ≤ x.level) {pos : Position} (task : pos.isTask) :
    ∃ paragraph indent, pos.blocks ctx c images = [.paragraph paragraph] ∧
      paragraph.numbering = none ∧ paragraph.indent = some indent ∧
      ∀ definition ∈ buildNumbering c,
        (definition.levels.find? (·.level = min (pos.depth ctx) maxListLevel)).map
          NumberingLevel.indentLeft = some indent.left := by
  obtain ⟨⟨k,p,cs⟩,way⟩ := pos
  obtain ⟨⟨⟨leads,list⟩,line⟩,checked⟩ : ((Step.allLead way ∧ way.head?.any Step.isList) ∧
      (Node.mk k p cs).hasLine) ∧ p.checked.isSome := by
    simpa only [isTask,Node.props,Bool.and_eq_true] using task
  cases k with
  | listItem =>
    cases way with
    | nil => cases list
    | cons s way =>
      obtain ⟨mark,marked⟩ := Option.isSome_iff_exists.mp checked
      rw [blocks_listItem leads list line,marked]
      exact ⟨_,_,rfl,rfl,rfl,levels_indent (depth_nonneg above way)⟩
  | _ => cases line

end Position

namespace Node

variable {ctx : Option ListContext} (c : StyleConfig) (images : ImageCache)

/-- What a tree becomes is what its positions give, each by itself. The paragraphs that refer to a
numbering are those of the items that count, one for one, each with the reference that its way tells;
and each task has a paragraph that refers to none, indented as the numberings indent its level. -/
theorem blocks_numbered (above : ∀ x ∈ ctx, 0 ≤ x.level) (n : Node) :
    n.blocks c images ctx = (n.positions []).flatMap (Position.blocks ctx c images) ∧
    (n.blocks c images ctx).flatMap Block.references =
      (n.positions []).filterMap (Position.numbering? ctx) ∧
    ∀ pos ∈ n.positions [], pos.isTask →
      ∃ paragraph indent, pos.blocks ctx c images = [.paragraph paragraph] ∧
        paragraph.numbering = none ∧ paragraph.indent = some indent ∧
        ∀ definition ∈ buildNumbering c,
          (definition.levels.find? (·.level = min (pos.depth ctx) maxListLevel)).map
            NumberingLevel.indentLeft = some indent.left := by
  have whole := @blocks_positions ctx c images n
  refine ⟨whole,?_,fun pos _ task => Position.task_blocks above task⟩
  rw [whole,List.flatMap_assoc]
  simp only [Position.references,List.filterMap_eq_flatMap_toList]

/-- An ordered list in a quote: a task, a block that is no item, an item without a line, one with a
quoted list in it, and one with a list of a task and of a list. The item behind the list leads
nowhere. -/
def mixedLists : Node := mk .blockquote {} [
  mk .list { ordered := true, start := 3 } [
    mk .listItem { checked := some false } [mk .paragraph {} []],
    mk .code {} [],
    mk .listItem {} [mk .code {} []],
    mk .listItem {} [mk .paragraph {} [],
      mk .blockquote {} [mk .list { ordered := true, start := 7 } [mk .listItem {} []]]],
    mk .listItem {} [mk .list {} [
      mk .listItem { checked := some true } [],
      mk .listItem {} [mk .list { ordered := true, start := 5 } [mk .listItem {} []]]]]],
  mk .listItem {} [mk .list {} [mk .listItem {} []]]]

theorem blocks_numbered_mixed :
    let ctx : Option ListContext := some ⟨0,false⟩
    (∀ x ∈ ctx, 0 ≤ x.level) ∧
      (mixedLists.blocks {} [] ctx).flatMap Block.references =
        [⟨"ordered",1,some 3⟩,⟨"ordered",2,none⟩,⟨"ordered",2,some 5⟩] ∧
      ((mixedLists.positions []).filter Position.isTask).map (Position.depth ctx) = [1,2] ∧
      ∀ pos ∈ mixedLists.positions [], pos.isTask →
        ∃ paragraph indent, pos.blocks ctx {} [] = [.paragraph paragraph] ∧
          paragraph.numbering = none ∧ paragraph.indent = some indent ∧
          ∀ definition ∈ buildNumbering {},
            (definition.levels.find? (·.level = min (pos.depth ctx) maxListLevel)).map
              NumberingLevel.indentLeft = some indent.left := by
  intro ctx
  have above : ∀ x ∈ ctx, 0 ≤ x.level := by decide
  obtain ⟨_,references,tasks⟩ := blocks_numbered {} [] above mixedLists
  exact ⟨above,references.trans (by decide +kernel),by decide +kernel,tasks⟩

end Node

end DocPress
