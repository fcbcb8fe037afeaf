import Mathlib.Algebra.Order.BigOperators.Group.List
import Mathlib.Algebra.Order.Group.Nat
import DocPress.Proofs.Markdown.Conversion

/-! The words of an image. An image without words of its own takes them from the tokens in it, and each of
those says there what its node says in a line, with one exception: a break between two lines is not
written, so that the words on its two sides run together. Main statement: an image is told as its
tokens are if and only if there is no break among them (`image_alt_iff`). -/

namespace DocPress

namespace Node

mutual

/-- What a node says to somebody who sees no pictures: its texts, and the words of its images. -/
def words : Node → String
  | mk .image p _ => p.alt
  | mk _ p cs => p.text ++ allWords cs

def allWords : List Node → String
  | [] => ""
  | n :: ns => n.words ++ allWords ns

end

theorem allWords_append (ns more : List Node) : allWords (ns ++ more) = allWords ns ++ allWords more := by
  induction ns with
  | nil => simp [allWords]
  | cons n ns ih => rw [List.cons_append,allWords,ih,allWords,String.append_assoc]

end Node

namespace Token

open Node

/-! ### Tokens of a line -/

def writtenKinds : List String := ["text","codespan","inline_html"]

def breakKinds : List String := ["linebreak","softbreak"]

/-- The tokens that stand around other tokens of the line. -/
def markKinds : List String := ["strong","emphasis","strikethrough","link"]

/-- A token of a line with the keys that it has in the tree of a text: what is written out has a text of its
own, a break has nothing, and all others have what stands in them. -/
inductive Spelled : Token → Prop where
  | written {kind attrs older text children} (known : kind ∈ writtenKinds) (s : String) :
    Spelled (mk kind attrs older (.str s) text children)
  | lineBreak {kind attrs older} (known : kind ∈ breakKinds) :
    Spelled (mk kind attrs older .absent .absent .absent)
  | image {attrs older children} : Spelled (mk "image" attrs older .absent .absent children)
  | marked {kind attrs older items} (known : kind ∈ markKinds) (shown : String)
    (below : ∀ t ∈ items, Spelled t) :
    Spelled (mk kind attrs older .absent .absent (.tokens items shown))

mutual

/-- What a line is made of when all marks are taken off, from left to right. -/
def leaves : Token → List Token
  | mk kind attrs older raw text children =>
    if kind ∈ markKinds then leavesBelow children else [mk kind attrs older raw text children]
  | t => [t]

def leavesBelow : Payload → List Token
  | .tokens items _ => rowLeaves items
  | _ => []

def rowLeaves : List Token → List Token
  | [] => []
  | t :: ts => leaves t ++ rowLeaves ts

end

/-- The words that an image has in a key of its own. -/
def ownAlt (attrs : TokenAttrs) (older : OlderKeys) : String :=
  ((attrs.alt.orElse older.alt).toOption).getD ""

def isBreak : Token → Bool
  | mk kind _ _ _ _ _ => kind ∈ breakKinds
  | _ => false

/-- Is it an image with words of its own? -/
def isTitled : Token → Bool
  | mk "image" attrs older _ _ _ => ! (ownAlt attrs older).isEmpty
  | _ => false

/-- What the node of a token says. -/
def told (t : Token) : String := allWords t.node?.toList

/-- What a token says within an image: nothing if it is a break, what stands in it if it is an image,
and else what its node says. -/
def heard : Token → String
  | mk "image" _ _ _ _ children => payloadText children
  | t => if t.isBreak then "" else t.told

/-! ### Token by token -/

theorem kinds_apart :
    (∀ kind ∈ writtenKinds, kind ∉ markKinds ∧ kind ∉ breakKinds ∧ kind ≠ "image") ∧
    (∀ kind ∈ breakKinds, kind ∉ markKinds ∧ kind ≠ "image") ∧ "image" ∉ markKinds := by decide

theorem leaves_of_other {kind : String} {attrs : TokenAttrs} {older : OlderKeys}
    {raw text children : Payload} (other : kind ∉ markKinds) :
    (mk kind attrs older raw text children).leaves = [mk kind attrs older raw text children] := by
  rw [leaves,if_neg other]

theorem heard_of_other {kind : String} {attrs : TokenAttrs} {older : OlderKeys}
    {raw text children : Payload} (other : kind ≠ "image") :
    (mk kind attrs older raw text children).heard =
      if kind ∈ breakKinds then "" else (mk kind attrs older raw text children).told := by
  unfold heard
  split
  next same => exact absurd (Token.mk.inj same).1 other
  next => simp [isBreak]

theorem told_written {kind : String} {attrs : TokenAttrs} {older : OlderKeys} {text children : Payload}
    (known : kind ∈ writtenKinds) (s : String) :
    (mk kind attrs older (.str s) text children).told = s := by
  simp only [writtenKinds,List.mem_cons,List.not_mem_nil,or_false] at known
  rcases known with rfl | rfl | rfl <;>
    simp [told,node?,ofText,Payload.orElse,Payload.shown,payloadText,allWords,words]

theorem told_lineBreak {kind : String} {attrs : TokenAttrs} {older : OlderKeys}
    {raw text children : Payload} (known : kind ∈ breakKinds) :
    (mk kind attrs older raw text children).told ∈ ["\n"," "] := by
  simp only [breakKinds,List.mem_cons,List.not_mem_nil,or_false] at known
  rcases known with rfl | rfl <;> simp [told,node?,ofText,allWords,words]

theorem told_image {attrs : TokenAttrs} {older : OlderKeys} {raw text children : Payload} :
    (mk "image" attrs older raw text children).told = (imageProps attrs older children).alt := by
  simp [told,node?,allWords,words]

/-- An image without words of its own says what stands in it. -/
theorem imageProps_alt {attrs : TokenAttrs} {older : OlderKeys} (children : Payload)
    (untitled : ownAlt attrs older = "") :
    (imageProps attrs older children).alt = payloadText children := by
  have own : (imageProps attrs older children).alt =
      if (ownAlt attrs older).isEmpty && children.isSomething then payloadText children
      else ownAlt attrs older := rfl
  rw [own,untitled]
  cases children with
  | tokens items shown => cases items <;> simp [Payload.isSomething,payloadText,rowText]
  | str s => by_cases empty : s = "" <;> simp [Payload.isSomething,payloadText,empty]
  | _ => simp [payloadText]

theorem told_marked {kind : String} {attrs : TokenAttrs} {older : OlderKeys} {raw : Payload}
    {items : List Token} {shown : String} (known : kind ∈ markKinds) :
    (mk kind attrs older raw .absent (.tokens items shown)).told = allWords (nodes items) := by
  have below : allWords (contents (.tokens items shown) .absent (nodesBelow (.tokens items shown))
      (nodesBelow .absent)) = allWords (nodes items) := by
    cases items with
    | nil => simp [contents,Payload.isSomething,nodes,ofText,allWords,words]
    | cons t ts => simp [contents,Payload.isSomething,nodesBelow]
  simp only [markKinds,List.mem_cons,List.not_mem_nil,or_false] at known
  rcases known with rfl | rfl | rfl | rfl <;>
    simp [told,node?,ofChildren,linkProps,allWords,words,below]

/-! ### Rows of tokens -/

theorem rowText_leaves {items : List Token}
    (each : ∀ t ∈ items, t.writtenText = String.join (t.leaves.map heard)) :
    rowText items = String.join ((rowLeaves items).map heard) := by
  induction items with
  | nil => rfl
  | cons t ts ih =>
    obtain ⟨first,rest⟩ := List.forall_mem_cons.mp each
    rw [rowText,rowLeaves,first,ih rest,List.map_append,String.join_append]

theorem allWords_leaves {items : List Token}
    (each : ∀ t ∈ items, t.told = String.join (t.leaves.map told)) :
    allWords (nodes items) = String.join ((rowLeaves items).map told) := by
  induction items with
  | nil => rfl
  | cons t ts ih =>
    obtain ⟨first,rest⟩ := List.forall_mem_cons.mp each
    have row : allWords (nodes (t :: ts)) = t.told ++ allWords (nodes ts) := by
      rw [nodes_eq,List.flatMap_cons,allWords_append,← nodes_eq,told]
    rw [row,rowLeaves,first,ih rest,List.map_append,String.join_append]

/-- Once all marks are taken off, a token is written and told leaf by leaf. -/
theorem Spelled.leafwise {t : Token} (spelled : Spelled t) :
    t.writtenText = String.join (t.leaves.map heard) ∧ t.told = String.join (t.leaves.map told) := by
  obtain ⟨written_apart,break_apart,image_apart⟩ := kinds_apart
  induction spelled with
  | written known s =>
    obtain ⟨unmarked,unbroken,other⟩ := written_apart _ known
    rw [leaves_of_other unmarked]
    simp [heard_of_other other,unbroken,told_written known,writtenText,Payload.isPresent,
      Payload.shownOr,Payload.orElse,Payload.shown]
  | lineBreak known =>
    obtain ⟨unmarked,other⟩ := break_apart _ known
    rw [leaves_of_other unmarked]
    simp [heard_of_other other,known,writtenText,Payload.isPresent,payloadText]
  | image =>
    rw [leaves_of_other image_apart]
    simp [heard,writtenText,Payload.isPresent]
  | marked known shown below ih =>
    rw [leaves,if_pos known,leavesBelow]
    constructor
    · rw [← rowText_leaves fun t member => (ih t member).1]
      simp [writtenText,Payload.isPresent,payloadText]
    · rw [← allWords_leaves fun t member => (ih t member).2,told_marked known]

/-- Unless it is an image with words of its own, a token is heard as it is told, or it is a break. -/
theorem heard_eq {t : Token} (untitled : ¬ t.isTitled) : t.heard = if t.isBreak then "" else t.told := by
  unfold heard
  split
  next attrs older _ _ children =>
    have none : ownAlt attrs older = "" := by simpa [isTitled] using untitled
    rw [told_image,imageProps_alt children none]
    rfl
  next => rfl

theorem told_of_break {t : Token} (gap : t.isBreak) : 0 < t.told.length := by
  cases t with
  | mk kind attrs older raw text children =>
    have known : kind ∈ breakKinds := by simpa [isBreak] using gap
    have said : (mk kind attrs older raw text children).told ∈ ["\n"," "] := told_lineBreak known
    simp only [List.mem_cons,List.not_mem_nil,or_false] at said
    rcases said with same | same <;> rw [same] <;> decide
  | bare | junk => cases gap

/-- Texts of which each is another one or shorter come together to the same text only if all are the
same. -/
theorem join_eq_iff {α : Type} {l : List α} {f g : α → String}
    (each : ∀ a ∈ l, f a = g a ∨ (f a).length < (g a).length) :
    String.join (l.map f) = String.join (l.map g) ↔ ∀ a ∈ l, f a = g a := by
  constructor
  · intro same
    by_contra other
    obtain ⟨a,member,unlike⟩ : ∃ a ∈ l, f a ≠ g a := by simpa using other
    have shorter : (l.map fun a => (f a).length).sum < (l.map fun a => (g a).length).sum := by
      refine List.sum_lt_sum _ _ (fun b inside => ?_) ⟨a,member,(each a member).resolve_left unlike⟩
      rcases each b inside with equal | less
      · rw [equal]
      · exact less.le
    have lengths := congrArg String.length same
    rw [String.length_join,String.length_join,List.map_map,List.map_map] at lengths
    exact shorter.ne lengths
  · intro all
    rw [List.map_congr_left all]

/-- An image without words of its own says what the tokens in it say, one after the other, but for the
breaks among them: these say nothing. So it is told as its tokens are, where no image among them has words of
its own, if and only if there is no break. -/
theorem image_alt_iff {attrs : TokenAttrs} {older : OlderKeys} {raw text : Payload} {items : List Token}
    {shown : String} (untitled : ownAlt attrs older = "") (spelled : ∀ t ∈ items, Spelled t) :
    ∃ p, node? (mk "image" attrs older raw text (.tokens items shown)) = some (.mk .image p []) ∧
      p.alt = String.join ((rowLeaves items).map heard) ∧
      allWords (nodes items) = String.join ((rowLeaves items).map told) ∧
      ((∀ t ∈ rowLeaves items, ¬ t.isTitled) →
        (∀ t ∈ rowLeaves items, t.heard = if t.isBreak then "" else t.told) ∧
        (p.alt = allWords (nodes items) ↔ ∀ t ∈ rowLeaves items, ¬ t.isBreak)) := by
  have read : rowText items = String.join ((rowLeaves items).map heard) :=
    rowText_leaves fun t member => (spelled t member).leafwise.1
  have said : allWords (nodes items) = String.join ((rowLeaves items).map told) :=
    allWords_leaves fun t member => (spelled t member).leafwise.2
  have alt : (imageProps attrs older (.tokens items shown)).alt = rowText items := by
    rw [imageProps_alt _ untitled,payloadText]
  refine ⟨imageProps attrs older (.tokens items shown),by rw [node?],alt.trans read,said,?_⟩
  intro plain
  have each : ∀ t ∈ rowLeaves items, t.heard = if t.isBreak then "" else t.told := fun t member =>
    heard_eq (plain t member)
  refine ⟨each,?_⟩
  rw [alt,read,said,join_eq_iff]
  · refine forall₂_congr fun t member => ?_
    rw [each t member]
    cases gap : t.isBreak with
    | true =>
      have something : "" ≠ t.told := fun same => by
        have := told_of_break gap
        rw [← same] at this
        cases this
      simpa using something
    | false => simp
  · intro t member
    rw [each t member]
    cases gap : t.isBreak with
    | true => exact .inr (told_of_break gap)
    | false => exact .inl rfl

def letters (s : String) : Token := mk "text" {} {} (.str s) .absent .absent

/-- The break at the end of a line of text. -/
def lineEnd : Token := mk "softbreak" {} {} .absent .absent .absent

def pictured (items : List Token) : Token :=
  mk "image" { url := .given "u" } {} .absent .absent (.tokens items "")

/-- Two words on two lines are told with a blank between them, but as the words of an image they are
one. -/
theorem brokenAlt_runsTogether :
    (∀ t ∈ [letters "a",lineEnd,letters "b"], Spelled t) ∧
      (pictured [letters "a",lineEnd,letters "b"]).node?.map (·.props.alt) = some "ab" ∧
      allWords (nodes [letters "a",lineEnd,letters "b"]) = "a b" := by
  refine ⟨?_,by decide +kernel,by decide +kernel⟩
  simp only [List.forall_mem_cons]
  exact ⟨.written (by decide) _,.lineBreak (by decide),.written (by decide) _,nofun⟩

/-- A text, a break and code in strong emphasis, and an image with a break of its own. -/
def markedRow : List Token := [
  letters "a",
  mk "strong" {} {} .absent .absent
    (.tokens [lineEnd,mk "codespan" {} {} (.str "b") .absent .absent] ""),
  pictured [letters "c",lineEnd,letters "d"]]

/-- The break in the strong emphasis is lost, and the one in the inner image has been lost before. -/
theorem image_alt_iff_marked :
    (ownAlt { url := .given "u" } {} = "" ∧ ∀ t ∈ markedRow, Spelled t) ∧
      ∃ p, node? (pictured markedRow) = some (.mk .image p []) ∧ p.alt = "abcd" ∧
        allWords (nodes markedRow) = "a bcd" ∧ p.alt ≠ allWords (nodes markedRow) := by
  have spelled : ∀ t ∈ markedRow, Spelled t := by
    simp only [markedRow,List.forall_mem_cons]
    refine ⟨.written (by decide) _,.marked (by decide) _ ?_,.image,nofun⟩
    simp only [List.forall_mem_cons]
    exact ⟨.lineBreak (by decide),.written (by decide) _,nofun⟩
  obtain ⟨p,node,alt,said,plain⟩ :=
    @image_alt_iff { url := .given "u" } {} .absent .absent markedRow "" rfl spelled
  obtain ⟨_,same⟩ := plain (by decide +kernel)
  refine ⟨⟨rfl,spelled⟩,p,node,alt.trans (by decide +kernel),said.trans (by decide +kernel),?_⟩
  rw [Ne,same]
  decide +kernel

end Token

end DocPress
