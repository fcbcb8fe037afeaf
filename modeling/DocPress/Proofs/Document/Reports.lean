import DocPress.Document.Block
import DocPress.Proofs.Markdown.Conversion

/-! What is reported on a document. A warning is about a node that stands where it means nothing, so
there is none where all stand in their place, as they do in what a row of tokens becomes. -/

namespace DocPress

namespace Node

mutual

theorem inlineLog_eq_nil : ∀ n : Node, n.isInline → n.inlineLog = []
  | mk k p cs, shape => by
    cases k with
    | text | inlineCode | image => rw [inlineLog]
    | emphasis | strong | delete | link =>
      obtain ⟨-,below⟩ : p.text = "" ∧ areInline cs := by simpa [isInline] using shape
      rw [inlineLog,forestInlineLog_eq_nil cs below]
    | _ => cases shape

theorem forestInlineLog_eq_nil : ∀ ns : List Node, areInline ns → forestInlineLog ns = []
  | [], _ => rfl
  | n :: ns, shape => by
    obtain ⟨first,rest⟩ : n.isInline ∧ areInline ns := by simpa [areInline] using shape
    rw [forestInlineLog,inlineLog_eq_nil n first,forestInlineLog_eq_nil ns rest,List.append_nil]

end

def Quiet (log : List LogRecord) : Prop := ∀ r ∈ log, r.level ≠ .warning

theorem Quiet.nil : Quiet [] := by simp [Quiet]

theorem Quiet.append {log more : List LogRecord} (first : Quiet log) (rest : Quiet more) :
    Quiet (log ++ more) := fun r at_r => (List.mem_append.mp at_r).elim (first r) (rest r)

theorem clampLog_quiet (level : Int) (checked : Option Bool) : Quiet (clampLog level checked) := by
  unfold clampLog
  split
  · simp [Quiet,LogRecord.debug]
  · exact .nil

theorem cellsLog_eq_nil (cells : List Node) (shape : cells.all isCell) :
    cells.flatMap (fun cell => forestInlineLog cell.children) = [] := by
  rw [List.flatMap_eq_nil_iff]
  intro cell at_cell
  have stands := List.all_eq_true.mp shape cell at_cell
  obtain ⟨k,p,cs⟩ := cell
  cases k with
  | tableCell =>
    obtain ⟨-,below⟩ : p.text = "" ∧ areInline cs := by simpa [isCell] using stands
    exact forestInlineLog_eq_nil cs below
  | _ => cases stands

theorem tableLog_quiet (rows : List Node) (shape : rows.all isRow) : Quiet (tableLog rows) := by
  unfold tableLog
  split
  · simp [Quiet,LogRecord.debug]
  · have silent : (rows.flatMap fun row => row.children.flatMap fun cell =>
        forestInlineLog cell.children) = [] := by
      rw [List.flatMap_eq_nil_iff]
      intro row at_row
      have stands := List.all_eq_true.mp shape row at_row
      obtain ⟨k,p,cs⟩ := row
      cases k with
      | tableRow =>
        obtain ⟨-,below⟩ : p.text = "" ∧ cs.all isCell := by simpa [isRow] using stands
        exact cellsLog_eq_nil cs below
      | _ => cases stands
    exact silent ▸ .nil

/-- The reports on an item are those on its children, its first paragraph or not, and one on its
level. -/
theorem mem_listLog_item {level : Int} {ordered : Bool} {p : NodeProps} {cs items : List Node}
    {r : LogRecord} (at_r : r ∈ listLog level ordered (mk .listItem p cs :: items)) :
    r ∈ clampLog level p.checked ∨ r ∈ forestBlockLog (some ⟨level,ordered⟩) cs ∨
      r ∈ listLog level ordered items := by
  cases cs with
  | nil =>
    rw [listLog,List.mem_append] at at_r
    exact at_r.imp_right .inr
  | cons head rest =>
    obtain ⟨k,q,below⟩ := head
    cases k with
    | paragraph =>
      simp only [listLog,List.mem_append] at at_r
      simp only [forestBlockLog,blockLog,List.mem_append]
      rcases at_r with ((line | clamp) | rest) | later
      · exact .inr (.inl (.inl line))
      · exact .inl clamp
      · exact .inr (.inl (.inr rest))
      · exact .inr (.inr later)
    | _ =>
      rw [listLog,List.mem_append] at at_r
      · exact .inr at_r
      all_goals simp

mutual

theorem blockLog_quiet (ctx : Option ListContext) : ∀ n : Node, n.isBlock → Quiet (n.blockLog ctx)
  | mk k p cs, shape => by
    cases k with
    | document | blockquote =>
      obtain ⟨-,below⟩ : p.text = "" ∧ areBlocks cs := by simpa [isBlock] using shape
      rw [blockLog]
      exact forestBlockLog_quiet ctx cs below
    | heading | paragraph =>
      obtain ⟨-,below⟩ : p.text = "" ∧ areInline cs := by simpa [isBlock] using shape
      rw [blockLog,forestInlineLog_eq_nil cs below]
      exact .nil
    | code | thematicBreak =>
      rw [blockLog]
      exact .nil
    | list =>
      obtain ⟨-,below⟩ : p.text = "" ∧ areItems cs := by simpa [isBlock] using shape
      rw [blockLog]
      exact listLog_quiet _ _ cs below
    | table =>
      obtain ⟨-,below⟩ : p.text = "" ∧ cs.all isRow := by simpa [isBlock] using shape
      rw [blockLog]
      exact tableLog_quiet cs below
    | _ => cases shape

theorem forestBlockLog_quiet (ctx : Option ListContext) :
    ∀ ns : List Node, areBlocks ns → Quiet (forestBlockLog ctx ns)
  | [], _ => .nil
  | n :: ns, shape => by
    obtain ⟨first,rest⟩ : n.isBlock ∧ areBlocks ns := by simpa [areBlocks] using shape
    rw [forestBlockLog]
    exact (blockLog_quiet ctx n first).append (forestBlockLog_quiet ctx ns rest)

theorem listLog_quiet (level : Int) (ordered : Bool) :
    ∀ items : List Node, areItems items → Quiet (listLog level ordered items)
  | [], _ => .nil
  | mk k p cs :: items, shape => by
    cases k with
    | listItem =>
      obtain ⟨⟨-,below⟩,rest⟩ : (p.text = "" ∧ areBlocks cs) ∧ areItems items := by
        simpa [areItems] using shape
      intro r at_r
      rcases mem_listLog_item at_r with clamp | inside | later
      · exact clampLog_quiet level p.checked r clamp
      · exact forestBlockLog_quiet _ cs below r inside
      · exact listLog_quiet level ordered items rest r later
    | _ => cases shape

end

end Node

namespace Token

open Node

/-- A row of block tokens becomes a document in which every node stands where it means something, on
which there is no warning, and which says what the tokens say. -/
theorem document_of_stands (tokens : List Token) (stands : ∀ t ∈ tokens, Stands .block t) :
    let doc := Node.ofChildren .document (nodes tokens)
    doc.isDocument ∧ (∀ r ∈ doc.documentLog, r.level ≠ .warning) ∧
      doc.plainText = allSaid tokens := by
  have fits := Fits.row fun t at_t => (stands t at_t).converts
  rw [← show nodes tokens = tokens.flatMap (nodesAt .block) from nodes_eq tokens] at fits
  have blocks : areBlocks (nodes tokens) := areBlocks_iff.mpr fits.shape
  refine ⟨blocks,forestBlockLog_quiet none _ blocks,?_⟩
  rw [ofChildren,plainText,fits.said,String.empty_append]

/-- A heading over a broken line, a quoted list with a task that holds code, HTML around blanks, and a
table with a picture in a link. -/
def mixedTokens : List Token :=
  let around (kind : String) (items : List Token) : Token :=
    mk kind {} {} .absent .absent (.tokens items "")
  let written (kind text : String) : Token := mk kind {} {} (.str text) .absent .absent
  [around "heading" [written "text" "a",around "softbreak" [],written "codespan" "b",
      around "linebreak" []],
    around "block_quote" [around "list" [
      around "list_item" [],
      mk "task_list_item" { checked := true } {} .absent .absent
        (.tokens [around "block_text" [],written "block_code" "c\n\n"] "")]],
    around "blank_line" [],
    written "block_html" " <d> ",
    around "thematic_break" [],
    around "table" [
      around "table_head" [around "table_cell" [around "link" [around "image" [written "text" "e"]]]],
      around "table_body" [around "table_row" [around "table_cell" [written "inline_html" "<f>"]]]]]

theorem document_of_mixedTokens :
    (∀ t ∈ mixedTokens, Stands .block t) ∧
      let doc := Node.ofChildren .document (nodes mixedTokens)
      doc.isDocument ∧ (∀ r ∈ doc.documentLog, r.level ≠ .warning) ∧
        doc.plainText = "a b\nc\n<d><f>" := by
  have stands : ∀ t ∈ mixedTokens, Stands .block t := by
    -- every token fits one rule of the grammar only
    repeat' first
      | exact List.forall_mem_nil _
      | refine List.forall_mem_cons.mpr ⟨?_,?_⟩
      | constructor
  obtain ⟨shape,quiet,said⟩ := document_of_stands mixedTokens stands
  exact ⟨stands,shape,quiet,said.trans (by decide +kernel)⟩

end Token

end DocPress
