import DocPress.Proofs.Markdown.Grammar
import DocPress.Proofs.Markdown.Shape

/-! The tree of a row of tokens. Where the tokens stand as the grammar asks, every node stands where
it means something, and the tree says what the tokens say. Each token is taken on its own: in every
place a row of tokens becomes what each of them becomes there, one after the other. -/

namespace DocPress

namespace Node

theorem plainTexts_append (ns more : List Node) :
    plainTexts (ns ++ more) = plainTexts ns ++ plainTexts more := by
  induction ns with
  | nil => simp [plainTexts]
  | cons n ns ih => rw [List.cons_append,plainTexts,ih,plainTexts,String.append_assoc]

theorem plainTexts_singleton (n : Node) : plainTexts [n] = n.plainText := by
  simp [plainTexts]

end Node

namespace Token

open Node

def nodesAt : Place → Token → List Node
  | .block,t | .line,t | .item,t => t.node?.toList
  | .section,t => sectionRows [t]
  | .row,t => plainRows [t]
  | .cell,t => cells [t]

def Place.isFor : Place → Node → Bool
  | .block => isBlock
  | .line => isInline
  | .item => isItem
  | .section | .row => isRow
  | .cell => isCell

/-! ### Rows of tokens -/

theorem nodes_eq (ts : List Token) : nodes ts = ts.flatMap fun t => t.node?.toList := by
  induction ts with
  | nil => rw [nodes,List.flatMap_nil]
  | cons t ts ih =>
    rw [nodes,List.flatMap_cons,ih]
    cases t.node? <;> rfl

theorem sectionRows_cons (t : Token) (ts : List Token) :
    sectionRows (t :: ts) = sectionRows [t] ++ sectionRows ts := by
  rw [sectionRows.eq_def (t :: ts)]
  split
  case h_1 same => cases same
  all_goals
    rename_i same
    obtain ⟨rfl,rfl⟩ := List.cons_eq_cons.mp same
    simp [sectionRows]

theorem sectionRows_eq (ts : List Token) : sectionRows ts = ts.flatMap (nodesAt .section) := by
  induction ts with
  | nil => rw [sectionRows,List.flatMap_nil]
  | cons t ts ih => rw [sectionRows_cons,List.flatMap_cons,ih,nodesAt]

theorem plainRows_eq (ts : List Token) : plainRows ts = ts.flatMap (nodesAt .row) := by
  induction ts with
  | nil => rw [plainRows,List.flatMap_nil]
  | cons t ts ih => cases t <;> simp [nodesAt,plainRows,ih]

theorem cells_eq (ts : List Token) : cells ts = ts.flatMap (nodesAt .cell) := by
  induction ts with
  | nil => rw [cells,List.flatMap_nil]
  | cons t ts ih => cases t <;> simp [nodesAt,cells,ih]

/-! ### Nodes in their place -/

/-- Nodes that all stand where they may, and what they say. -/
structure Fits (p : Place) (ns : List Node) (text : String) : Prop where
  shape : ∀ n ∈ ns, p.isFor n
  said : plainTexts ns = text

/-- A token becomes nodes of its place that say what it says. -/
abbrev Converts (p : Place) (t : Token) : Prop := Fits p (nodesAt p t) t.said

theorem Fits.one {p : Place} {n : Node} {text : String} (shape : p.isFor n)
    (said : n.plainText = text) : Fits p [n] text :=
  ⟨by simpa using shape,by rw [plainTexts_singleton,said]⟩

theorem Fits.none {p : Place} : Fits p [] "" := ⟨by simp,rfl⟩

theorem Fits.row {p : Place} {ts : List Token} (each : ∀ t ∈ ts, Converts p t) :
    Fits p (ts.flatMap (nodesAt p)) (allSaid ts) := by
  induction ts with
  | nil => exact .none
  | cons t ts ih =>
    obtain ⟨first,rest⟩ := List.forall_mem_cons.mp each
    rw [List.flatMap_cons,allSaid]
    refine ⟨?_,by rw [plainTexts_append,first.said,(ih rest).said]⟩
    intro n at_n
    rcases List.mem_append.mp at_n with here | later
    · exact first.shape n here
    · exact (ih rest).shape n later

section

variable {items : List Token} {shown : String}

/-- A line without tokens still holds an empty text. -/
theorem Fits.line (each : ∀ t ∈ items, Converts .line t) :
    Fits .line (contents (.tokens items shown) .absent (nodesBelow (.tokens items shown))
      (nodesBelow .absent)) (allSaid items) := by
  cases items with
  | nil => exact .one rfl rfl
  | cons t ts =>
    rw [contents,nodesBelow,nodes_eq]
    exact .row each

theorem Fits.around {p q : Place} {k : NodeKind} {props : NodeProps} {ns : List Node} {text : String}
    (below : Fits p ns text) (silent : props.text = "")
    (holds : (∀ n ∈ ns, p.isFor n) → q.isFor (.mk k props ns)) : Fits q [.mk k props ns] text :=
  .one (holds below.shape) (by rw [plainText,silent,below.said,String.empty_append])

end

/-- The cells right below a table head are one row, and none if there are none. -/
theorem rowsOf_cells {items : List Token} (shown : String) (below : ∀ t ∈ items, Stands .cell t) :
    rowsOf (.tokens items shown) =
      if items.isEmpty then [] else [.ofChildren .tableRow (cells items)] := by
  cases items with
  | nil => rw [rowsOf,List.isEmpty_nil,if_pos rfl]
  | cons t ts =>
    obtain ⟨shown⟩ := below t List.mem_cons_self
    rw [rowsOf,cells,List.isEmpty_cons,if_neg Bool.false_ne_true]

theorem rowsOf_rows {items : List Token} (shown : String) (below : ∀ t ∈ items, Stands .row t) :
    rowsOf (.tokens items shown) = plainRows items := by
  cases items with
  | nil => rw [rowsOf,plainRows]
  | cons t ts =>
    obtain ⟨shown⟩ := below t List.mem_cons_self
    simp [rowsOf,plainRows]

/-- A token in its place becomes nodes of that place, which say what it says. -/
theorem Stands.converts {p : Place} {t : Token} (stands : Stands p t) : Converts p t := by
  induction stands with
  | paragraph shown below ih | blockText shown below ih | heading shown below ih
  | strong shown below ih | emphasis shown below ih | strikethrough shown below ih
  | link shown below ih =>
    exact (Fits.line ih).around rfl areInline_iff.mpr
  | thematicBreak | linebreak | softbreak | image => exact .one rfl rfl
  | blockCode written | text written | codespan written | inlineHtml written =>
    exact .one rfl String.append_empty
  | blockHtml html =>
    rw [Converts,nodesAt,node?,htmlNode?,said,Payload.shown]
    by_cases blank : (Text.trim html).isEmpty
    · rw [if_pos blank,String.isEmpty_iff.mp blank]
      exact .none
    · rw [if_neg blank]
      exact .one rfl (by simp [ofChildren,plainText,plainTexts,ofText])
  | blankLine => exact .none
  | blockQuote shown below ih | listItem shown below ih | taskListItem shown below ih =>
    rw [Converts,nodesAt,node?,nodesBelow,nodes_eq]
    exact (Fits.row ih).around rfl areBlocks_iff.mpr
  | list shown below ih =>
    rw [Converts,nodesAt,node?,rowBelow,nodes_eq]
    exact (Fits.row ih).around rfl areItems_iff.mpr
  | table shown below ih =>
    rw [Converts,nodesAt,node?,tableRows,sectionRows_eq]
    exact (Fits.row ih).around rfl List.all_eq_true.mpr
  | tableHead shown below ih =>
    rw [Converts,nodesAt,sectionRows,sectionRows,List.append_nil,rowsOf_cells shown below,cells_eq]
    split
    case isTrue none =>
      rw [List.isEmpty_iff.mp none]
      exact .none
    case isFalse => exact (Fits.row ih).around rfl List.all_eq_true.mpr
  | tableBody shown below ih =>
    rw [Converts,nodesAt,sectionRows,sectionRows,List.append_nil,rowsOf_rows shown below,
      plainRows_eq]
    have rows := Fits.row ih
    exact ⟨rows.shape,rows.said⟩
  | tableRow shown below ih =>
    rw [Converts,nodesAt,plainRows,plainRows,row,cells_eq]
    exact (Fits.row ih).around rfl List.all_eq_true.mpr
  | tableCell shown below ih =>
    rw [Converts,nodesAt,cells,cells,nodesBelow,nodes_eq]
    exact (Fits.row ih).around rfl areInline_iff.mpr

end Token

end DocPress
