import DocPress.Proofs.Package.Line

/-! What a reader finds in the elements of a body, and what a document asks a reader to find there. The
two are told apart: the first looks at elements only, the second at the document only. Where an
element is written for a run of text, they agree (`Run.toXml_view`). -/

namespace DocPress

/-- What a reader finds in a run: its text, whether each of its flags is there, and how many drawings
stand in it. -/
structure RunView where
  text : String := ""
  bold : Bool := false
  italic : Bool := false
  strike : Bool := false
  underline : Bool := false
  drawings : Nat := 0
  deriving DecidableEq, Repr

/-- What a reader finds in a line. Where a run is looked for and something else stands, there is
none. -/
inductive LineView where
  | run (r : Option RunView)
  | link (runs : List (Option RunView))
  deriving DecidableEq, Repr

/-- What a reader finds in a body: the lines of paragraphs, and those of the paragraphs in the cells of
the rows of tables. -/
inductive BodyView where
  | paragraph (line : List LineView)
  | table (rows : List (List (List (List LineView))))
  | other
  deriving DecidableEq, Repr

namespace XmlElement

/-! ### Elements -/

/-- The text that a piece of a run stands for. -/
def pieceText (e : XmlElement) : String :=
  if e.name = "w:t" then e.text
  else if e.name = "w:tab" then "\t"
  else if e.name = "w:br" then "\n"
  else ""

def runView (e : XmlElement) : RunView :=
  let flag (name : String) := (e.each "w:rPr").any (·.has name)
  { text := String.join (e.children.map pieceText)
    bold := flag "w:b"
    italic := flag "w:i"
    strike := flag "w:strike"
    underline := flag "w:u"
    drawings := (e.each "w:drawing").length }

def runView? (e : XmlElement) : Option RunView :=
  if e.name = "w:r" then some e.runView else none

/-- What is found in an element of a paragraph, unless it holds the properties of the paragraph. -/
def lineView? (e : XmlElement) : Option LineView :=
  if e.name = "w:pPr" then none
  else if e.name = "w:hyperlink" then some (.link (e.children.map runView?))
  else some (.run e.runView?)

def paragraphView? (e : XmlElement) : Option (List LineView) :=
  if e.name = "w:p" then some (e.children.filterMap lineView?) else none

def cellView? (e : XmlElement) : Option (List (List LineView)) :=
  if e.name = "w:tc" then some (e.children.filterMap paragraphView?) else none

def rowView? (e : XmlElement) : Option (List (List (List LineView))) :=
  if e.name = "w:tr" then some (e.children.filterMap cellView?) else none

def bodyView (e : XmlElement) : BodyView :=
  if e.name = "w:p" then .paragraph (e.children.filterMap lineView?)
  else if e.name = "w:tbl" then .table (e.children.filterMap rowView?)
  else .other

end XmlElement

/-! ### Documents -/

/-- The text with its carriage returns read as newlines. -/
def asRead (text : String) : String :=
  String.ofList (text.toList.map fun c => if c = '\r' then '\n' else c)

def Run.view (r : Run) : RunView where
  text := asRead r.text
  bold := r.bold
  italic := r.italic
  strike := r.strike
  underline := r.underline

/-- What is to be found of a picture: a drawing if its data can be read, and else its placeholder. -/
def ImageRun.view (i : ImageRun) : RunView :=
  match PictureFormat.ofData i.data with
  | .ok _ => { drawings := 1 }
  | .error _ => { text := asRead (imagePlaceholder i.alt), italic := true }

def InlineLeaf.view : InlineLeaf → RunView
  | .run r => r.view
  | .image i => i.view

def Inline.view : Inline → LineView
  | .run r => .run (some r.view)
  | .image i => .run (some i.view)
  | .link h => .link (h.children.map fun leaf => some leaf.view)

def Paragraph.view (p : Paragraph) : List LineView := p.children.map Inline.view

/-- What is to be found of a cell. A cell has a paragraph, be it an empty one. -/
def TableCell.view (c : TableCell) : List (List LineView) :=
  if c.paragraphs.isEmpty then [[]] else c.paragraphs.map Paragraph.view

def TableRow.view (columns : Nat) (r : TableRow) : List (List (List LineView)) :=
  r.cells.map TableCell.view ++ List.replicate (columns - r.cells.length) [[]]

def Table.hasCell (t : Table) : Bool := t.rows.any (! ·.cells.isEmpty)

/-- What is to be found of a block. Nothing is to be found of a table without cells. -/
def Block.views : Block → List BodyView
  | .paragraph p => [.paragraph p.view]
  | .table t =>
    if t.hasCell then [.table (t.rows.map (TableRow.view (Build.columnCount t)))] else []

/-! ### Runs -/

open XmlElement

theorem stretches_text (cs : List Char) :
    String.join ((stretches cs).map pieceText) = String.ofList cs := by
  unfold stretches
  split
  · next empty =>
    rw [List.isEmpty_iff.mp empty]
    rfl
  · simp [stretchXml,pieceText]

/-- The elements of a text read back to the text: the stretch so far and what comes after it. -/
theorem textXml_text (before cs : List Char) :
    String.join ((textXml before cs).map pieceText) =
      String.ofList before ++ String.ofList (cs.map fun c => if c = '\r' then '\n' else c) := by
  induction cs generalizing before with
  | nil => simp [textXml,stretches_text]
  | cons c cs ih =>
    unfold textXml
    split
    · next tab =>
      subst tab
      simp [ih,stretches_text,pieceText]
    · split
      · next newline =>
        have read : (if c = '\r' then '\n' else c) = '\n' := by
          rcases Bool.or_eq_true_iff.mp newline with lf | cr
          · simp [of_decide_eq_true lf]
          · simp [of_decide_eq_true cr]
        simp [ih,stretches_text,pieceText,read]
      · next other =>
        have read : (if c = '\r' then '\n' else c) = c := by simp_all
        rw [ih,List.map_cons,read,String.ofList_append,String.append_assoc,← String.ofList_append,
          List.singleton_append]

theorem textXml_name {before cs : List Char} {e : XmlElement} (member : e ∈ textXml before cs) :
    e.name = "w:t" ∨ e.name = "w:tab" ∨ e.name = "w:br" := by
  have stretch {cs : List Char} (member : e ∈ stretches cs) : e.name = "w:t" := by
    unfold stretches at member
    split at member
    · cases member
    · rw [List.mem_singleton.mp member]
      rfl
  induction cs generalizing before with
  | nil => exact .inl (stretch member)
  | cons c cs ih =>
    unfold textXml at member
    split at member
    · rcases List.mem_append.mp member with here | later
      · exact .inl (stretch here)
      · rcases List.mem_cons.mp later with rfl | later
        · exact .inr (.inl rfl)
        · exact ih later
    · split at member
      · rcases List.mem_append.mp member with here | later
        · exact .inl (stretch here)
        · rcases List.mem_cons.mp later with rfl | later
          · exact .inr (.inr rfl)
          · exact ih later
      · exact ih member

/-- Whatever is worked out is of this kind. -/
def Gives {α : Type} (result : α → Prop) (x : Except PackageFault α) : Prop :=
  ∀ a, x = .ok a → result a

namespace Gives

variable {α β : Type} {result : β → Prop}

theorem pure {b : β} (holds : result b) : Gives result (Pure.pure b) := by
  intro a same
  rwa [← Except.ok.inj same]

theorem bind {x : Except PackageFault α} {next : α → Except PackageFault β}
    (tail : ∀ a, Gives result (next a)) : Gives result (x >>= next) := by
  cases x with
  | error fault => nofun
  | ok a => exact tail a

theorem ifAsked {c : Prop} [Decidable c] {x : Except PackageFault α}
    {next : Option α → Except PackageFault β} (rest : ∀ a, Gives result (next a)) :
    Gives result (if c then Pure.pure none >>= next else some <$> x >>= next) := by
  split
  · exact rest none
  · exact bind rest

end Gives

theorem Run.properties_flags (r : Run) :
    Gives (fun p => p.bold.isSome = r.bold ∧ p.italic.isSome = r.italic ∧ p.strike = r.strike ∧
      p.underline = r.underline) r.properties := by
  unfold Run.properties
  refine Gives.ifAsked fun _ => Gives.ifAsked fun _ => Gives.ifAsked fun _ => .bind fun _ => ?_
  refine .pure ⟨?_,?_,rfl,rfl⟩
  · cases r.bold <;> rfl
  · cases r.italic <;> rfl

theorem Run.toXml_view {r : Run} {x : XmlElement} (written : r.toXml = .ok x) :
    x.runView? = some r.view := by
  obtain ⟨_,properties,worked,rfl⟩ := Run.toXml_ok.mp written
  obtain ⟨bold,italic,strike,underline⟩ := r.properties_flags _ worked
  have without (tag : String) (text : "w:t" ≠ tag) (tab : "w:tab" ≠ tag) (newline : "w:br" ≠ tag) :
      (textXml [] r.text.toList).filter (·.name = tag) = [] := by
    rw [List.filter_eq_nil_iff]
    intro e member
    rcases textXml_name member with name | name | name <;> simp [name,text,tab,newline]
  have front : properties.toXml.name = "w:rPr" := rfl
  have text : String.join ((properties.toXml :: textXml [] r.text.toList).map pieceText) =
      asRead r.text := by
    simp [pieceText,front,textXml_text,asRead]
  have drawings : ((properties.toXml :: textXml [] r.text.toList).filter
      (·.name = "w:drawing")) = [] := by
    rw [List.filter_cons_of_neg (by simp [front]),without] <;> decide
  have own : ((properties.toXml :: textXml [] r.text.toList).filter
      (·.name = "w:rPr")) = [properties.toXml] := by
    rw [List.filter_cons_of_pos (by simp [front]),without] <;> decide
  have flag (set : Bool) (e : XmlElement) : (if set then some e else none).isSome = set := by
    cases set <;> rfl
  simp only [runView?,name_parent,if_true,runView,each,children_parent,text,own,drawings]
  simp [Run.view,has_eq,properties.toXml_bold,properties.toXml_italic,properties.toXml_strike,
    properties.toXml_underline,bold,italic,strike,underline,flag]

end DocPress
