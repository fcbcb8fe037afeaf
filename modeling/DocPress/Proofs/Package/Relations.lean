import Mathlib
import DocPress.Package.Part
import DocPress.Proofs.Document.Content
import DocPress.Proofs.Package.Body

/-! The relations of a file and what names them. Relations and media are tables in which an item is
looked for before it is added, so that they only grow and hold nothing twice; and a step of writing that
adds to them writes the element that names what it adds. Main statement: links and pictures have the
relations that they need, shared where they are the same, and there are no others
(`encode_resolves`). -/

namespace DocPress

open XmlElement

/-! ### Tables -/

/-- An item is looked for in a table by its key: what has the key already stands for it, and else it is
added at the end. -/
structure Entered {α κ : Type} (key : α → κ) (item : α) (before after : List α) (place : Nat) :
    Prop where
  kept : before <+: after
  found : (after[place]?).map key = some (key item)
  distinct : (before.map key).Nodup → (after.map key).Nodup
  fresh : ∀ i, before.length ≤ i → i < after.length → i = place

namespace Entered

variable {α κ : Type} [DecidableEq κ] {key : α → κ} {item : α} {table : List α} {place : Nat}

theorem known (found : table.findIdx? (fun a => key a = key item) = some place) :
    Entered key item table table place where
  kept := List.prefix_rfl
  found := by
    obtain ⟨inside,same,_⟩ := List.findIdx?_eq_some_iff_getElem.mp found
    rw [List.getElem?_eq_getElem inside,Option.map_some,of_decide_eq_true same]
  distinct := id
  fresh := by omega

theorem added (absent : table.findIdx? (fun a => key a = key item) = none) :
    Entered key item table (table ++ [item]) table.length where
  kept := List.prefix_append ..
  found := by simp
  distinct := by
    intro distinct
    have other : key item ∉ table.map key := by
      simpa using List.findIdx?_eq_none_iff.mp absent
    rw [List.map_append,List.nodup_append]
    refine ⟨distinct,by simp,?_⟩
    rintro _ member _ own rfl
    rw [List.map_singleton,List.mem_singleton] at own
    exact other (own ▸ member)
  fresh := by
    intro i old inside
    rw [List.length_append,List.length_singleton] at inside
    omega

end Entered

theorem getElem?_kept {α : Type} {before after : List α} (kept : before <+: after) {i : Nat}
    {a : α} (found : before[i]? = some a) : after[i]? = some a := by
  obtain ⟨more,rfl⟩ := kept
  rwa [List.getElem?_append_left (List.getElem?_eq_some_iff.mp found).1]

/-! ### Elements and relations -/

def ImageRun.isReadable (i : ImageRun) : Bool := (PictureFormat.ofData i.data).isOk

/-- The pictures of a line that a document holds, and does not put a text in place of. -/
def heldPictures (line : List Inline) : List ImageRun :=
  (linePictures line).filter ImageRun.isReadable

theorem heldPictures_image (i : ImageRun) :
    heldPictures [.image i] = if i.isReadable then [i] else [] := by
  cases readable : i.isReadable <;>
    simp [heldPictures,linePictures,Inline.leaves,InlineLeaf.picture?,readable]

/-- What stands within a link is no link. -/
theorem links_within (leaves : List InlineLeaf) :
    (leaves.map InlineLeaf.toInline).filterMap Inline.link? = [] := by
  rw [List.filterMap_map,List.filterMap_eq_nil_iff]
  rintro (r | i) _ <;> rfl

/-- A link shows the pictures within it. -/
theorem heldPictures_link (h : Hyperlink) :
    heldPictures [.link h] = heldPictures (h.children.map InlineLeaf.toInline) := by
  have single : (fun leaf : InlineLeaf => leaf.toInline.leaves) = fun leaf => [leaf] := by
    funext leaf
    cases leaf <;> rfl
  have same : (h.children.map InlineLeaf.toInline).flatMap Inline.leaves = h.children := by
    rw [List.flatMap_map,single,List.flatMap_singleton']
  simp [heldPictures,linePictures,same,Inline.leaves]

theorem pictureXml_blip (id : Nat) (name relation : String) (width height : Int) :
    (pictureXml id name relation width height).named "a:blip" =
      [.leaf "a:blip" [("r:embed",relation)]] := by simp [pictureXml]

namespace XmlElement

/-- The element names the relation at a place. -/
def Names (e : XmlElement) (key : String) (place : Nat) : Prop :=
  e.attr? key = some (Build.relationName (firstRelation + place))

/-- Some link or picture among the elements names the relation at a place. -/
def Use (es : List XmlElement) (place : Nat) : Prop :=
  (∃ e ∈ allNamed "w:hyperlink" es, e.Names "r:id" place) ∨
    ∃ e ∈ allNamed "a:blip" es, e.Names "r:embed" place

theorem Use.append {es fs : List XmlElement} {place : Nat} (used : Use es place ∨ Use fs place) :
    Use (es ++ fs) place := by
  unfold Use
  rw [allNamed_append,allNamed_append]
  obtain (⟨e,member,names⟩ | ⟨e,member,names⟩) | ⟨e,member,names⟩ | ⟨e,member,names⟩ := used
  · exact .inl ⟨e,List.mem_append_left _ member,names⟩
  · exact .inr ⟨e,List.mem_append_left _ member,names⟩
  · exact .inl ⟨e,List.mem_append_right _ member,names⟩
  · exact .inr ⟨e,List.mem_append_right _ member,names⟩

end XmlElement

namespace Draft

/-- The element of a link names the relation to the link's address. -/
def LeadsTo (d : Draft) (e : XmlElement) (h : Hyperlink) : Prop :=
  ∃ place, e.Names "r:id" place ∧ d.relations[place]? = some (.link h.url)

/-- The element of a picture names the relation to the picture's data. -/
def Shows (d : Draft) (e : XmlElement) (i : ImageRun) : Prop :=
  ∃ place index, e.Names "r:embed" place ∧ d.relations[place]? = some (.picture index) ∧
    (d.media[index]?).map Medium.data = some i.data

/-- No target has two relations, and no data are held twice. -/
structure Distinct (d : Draft) : Prop where
  relations : d.relations.Nodup
  media : (d.media.map Medium.data).Nodup

/-- Relations and media are added, and nothing of them is taken away. -/
structure Extends (start final : Draft) : Prop where
  relations : start.relations <+: final.relations
  media : start.media <+: final.media
  distinct : start.Distinct → final.Distinct

variable {start middle final : Draft} {e : XmlElement}

theorem Extends.of_eq (relations : final.relations = start.relations)
    (media : final.media = start.media) : Extends start final where
  relations := relations ▸ List.prefix_rfl
  media := media ▸ List.prefix_rfl
  distinct := fun distinct =>
    ⟨relations ▸ distinct.relations,media ▸ distinct.media⟩

theorem Extends.trans (first : Extends start middle) (second : Extends middle final) :
    Extends start final where
  relations := first.relations.trans second.relations
  media := first.media.trans second.media
  distinct := second.distinct ∘ first.distinct

theorem Extends.of_related {target : RelationTarget} {place : Nat}
    (entered : Entered id target start.relations final.relations place)
    (media : final.media = start.media) : Extends start final where
  relations := entered.kept
  media := media ▸ List.prefix_rfl
  distinct := fun distinct => by
    have relations := entered.distinct (by simpa using distinct.relations)
    exact ⟨by simpa using relations,media ▸ distinct.media⟩

theorem Extends.of_stored {medium : Medium} {index : Nat}
    (entered : Entered Medium.data medium start.media final.media index)
    (relations : final.relations = start.relations) : Extends start final where
  relations := relations ▸ List.prefix_rfl
  media := entered.kept
  distinct := fun distinct => ⟨relations ▸ distinct.relations,entered.distinct distinct.media⟩

theorem LeadsTo.later {h : Hyperlink} (leads : start.LeadsTo e h) (later : Extends start final) :
    final.LeadsTo e h := by
  obtain ⟨place,names,found⟩ := leads
  exact ⟨place,names,getElem?_kept later.relations found⟩

theorem Shows.later {i : ImageRun} (shows : start.Shows e i) (later : Extends start final) :
    final.Shows e i := by
  obtain ⟨place,index,names,related,held⟩ := shows
  obtain ⟨medium,found,data⟩ := Option.map_eq_some_iff.mp held
  refine ⟨place,index,names,getElem?_kept later.relations related,?_⟩
  rw [getElem?_kept later.media found,Option.map_some,data]

end Draft

open Draft in
/-- What changes while lines are written: each link and each picture that is held names its relation,
and no relation is added that none of them names. -/
structure Related (lines : List Inline) (es : List XmlElement) (start final : Draft) : Prop where
  later : Extends start final
  links : List.Forall₂ final.LeadsTo (allNamed "w:hyperlink" es) (lines.filterMap Inline.link?)
  pictures : List.Forall₂ final.Shows (allNamed "a:blip" es) (heldPictures lines)
  used : ∀ place, start.relations.length ≤ place → place < final.relations.length → Use es place

namespace Related

variable {lines more : List Inline} {es fs : List XmlElement} {start middle final : Draft}

theorem append (first : Related lines es start middle) (second : Related more fs middle final) :
    Related (lines ++ more) (es ++ fs) start final where
  later := first.later.trans second.later
  links := by
    rw [allNamed_append,List.filterMap_append]
    exact List.rel_append (first.links.imp fun _ _ leads => leads.later second.later) second.links
  pictures := by
    rw [allNamed_append,heldPictures,linePictures_append,List.filter_append]
    exact List.rel_append (first.pictures.imp fun _ _ shows => shows.later second.later) second.pictures
  used := by
    intro place old inside
    by_cases early : place < middle.relations.length
    · exact .append (.inl (first.used place old early))
    · exact .append (.inr (second.used place (Nat.le_of_not_lt early) inside))

/-- What adds no relations and no media, for lines without links and pictures. -/
theorem quiet (relations : final.relations = start.relations) (media : final.media = start.media)
    (no_link : lines.filterMap Inline.link? = []) (no_picture : heldPictures lines = [])
    (link : allNamed "w:hyperlink" es = []) (picture : allNamed "a:blip" es = []) :
    Related lines es start final where
  later := .of_eq relations media
  links := by
    rw [link,no_link]
    exact .nil
  pictures := by
    rw [picture,no_picture]
    exact .nil
  used := by
    intro place old inside
    rw [relations] at inside
    omega

/-- What comes before or after is of no account if it adds no relations and no media. -/
theorem still_then (relations : middle.relations = start.relations)
    (media : middle.media = start.media) (related : Related lines es middle final) :
    Related lines es start final := by
  have before : Related [] [] start middle := .quiet relations media rfl rfl rfl rfl
  exact before.append related

theorem then_still (related : Related lines es start middle) (relations : final.relations = middle.relations)
    (media : final.media = middle.media) : Related lines es start final := by
  have after : Related [] [] middle final := .quiet relations media rfl rfl rfl rfl
  simpa using related.append after

/-- Elements around what is written are of no account if they are neither links nor pictures. -/
theorem around (related : Related lines es start final)
    (same : ∀ tag ∈ ["w:hyperlink","a:blip"], allNamed tag fs = allNamed tag es) :
    Related lines fs start final := by
  have link := same "w:hyperlink" (by decide)
  have picture := same "a:blip" (by decide)
  refine ⟨related.later,link ▸ related.links,picture ▸ related.pictures,fun place old inside => ?_⟩
  unfold Use
  rw [link,picture]
  exact related.used place old inside

end Related

namespace Build

/-- A step that writes lines as elements. -/
def Relates {α : Type} (lines : List Inline) (elements : α → List XmlElement) (x : Build α) : Prop :=
  ∀ ⦃start a final⦄, x start = .ok a final →
    Related lines (elements a) start.draft final.draft

theorem Relates.mapM {α β : Type} {items : List α} {f : α → Build β} {lines : α → List Inline}
    {elements : β → List XmlElement} (each : ∀ a ∈ items, Relates (lines a) elements (f a)) :
    Relates (items.flatMap lines) (fun results => results.flatMap elements) (items.mapM f) := by
  induction items with
  | nil =>
    intro start results final ran
    obtain ⟨rfl,rfl⟩ := mapM_nil_ok.mp ran
    exact .quiet rfl rfl rfl rfl rfl rfl
  | cons a items ih =>
    intro start results final ran
    obtain ⟨first,middle,rest,head,tail,rfl⟩ := mapM_cons_ok.mp ran
    have others := ih (fun a member => each a (List.mem_cons_of_mem _ member)) tail
    exact (each a List.mem_cons_self head).append others

theorem relate_ok {target : RelationTarget} {start final : BuildState} {n : Nat}
    (ran : relate target start = .ok n final) :
    ∃ place, n = firstRelation + place ∧
      Entered id target start.draft.relations final.draft.relations place ∧
      final.draft.media = start.draft.media := by
  unfold relate at ran
  obtain ⟨state,_,read,ran⟩ := bind_ok.mp ran
  obtain ⟨rfl,rfl⟩ := get_ok.mp read
  cases found : start.draft.relations.findIdx? (· = target) with
  | some place =>
    simp only [found,pure_ok] at ran
    obtain ⟨rfl,rfl⟩ := ran
    exact ⟨place,rfl,.known found,rfl⟩
  | none =>
    simp only [found,bind_ok,modifyDraft_ok,pure_ok] at ran
    obtain ⟨_,_,rfl,rfl,rfl⟩ := ran
    exact ⟨_,rfl,.added found,rfl⟩

theorem store_ok {medium : Medium} {start final : BuildState} {index : Nat}
    (ran : store medium start = .ok index final) :
    Entered Medium.data medium start.draft.media final.draft.media index ∧
      final.draft.relations = start.draft.relations := by
  unfold store at ran
  obtain ⟨state,_,read,ran⟩ := bind_ok.mp ran
  obtain ⟨rfl,rfl⟩ := get_ok.mp read
  cases found : start.draft.media.findIdx? (·.data = medium.data) with
  | some place =>
    simp only [found,pure_ok] at ran
    obtain ⟨rfl,rfl⟩ := ran
    exact ⟨.known found,rfl⟩
  | none =>
    simp only [found,bind_ok,modifyDraft_ok,pure_ok] at ran
    obtain ⟨_,_,rfl,rfl,rfl⟩ := ran
    exact ⟨.added found,rfl⟩

theorem run_relates (r : Run) : Relates [.run r] (fun x => [x]) (run r) := by
  intro start x final ran
  obtain ⟨written,rfl⟩ := check_ok.mp ran
  have lacks (tag : String) (other : ∀ own ∈ runNames, own ≠ tag) : allNamed tag [x] = [] := by
    simpa using Run.toXml_lacks written other
  exact .quiet rfl rfl rfl rfl (lacks _ (by decide)) (lacks _ (by decide))

/-- A picture that can be read is held and related to; another one leaves nothing behind. -/
theorem picture_relates (i : ImageRun) :
    Relates [.image i] (fun found => [found.1]) (picture i) := by
  intro start found final ran
  unfold picture at ran
  cases read : PictureFormat.ofData i.data with
  | error fault =>
    have unheld : heldPictures [.image i] = [] := by
      simp [heldPictures_image,ImageRun.isReadable,read,Except.isOk,Except.toBool]
    simp only [read] at ran
    split at ran
    · simp only [bind_ok,pure_ok] at ran
      obtain ⟨_,_,reported,x,_,written,rfl,rfl⟩ := ran
      obtain rfl := modify_ok.mp reported
      have related := run_relates i.placeholder written
      exact ⟨related.later,related.links,unheld ▸ related.pictures,related.used⟩
    · exact absurd ran throw_ok
  | ok format =>
    have held : heldPictures [.image i] = [i] := by
      simp [heldPictures_image,ImageRun.isReadable,read,Except.isOk,Except.toBool]
    simp only [read,bind_ok,check_ok,pure_ok,get_ok] at ran
    obtain ⟨index,stored,storing,relation,related,relating,_,_,⟨rfl,rfl⟩,_,_,⟨_,rfl⟩,_,_,⟨_,rfl⟩,rfl,
      rfl⟩ := ran
    obtain ⟨entered,same⟩ := store_ok storing
    obtain ⟨place,rfl,added,media⟩ := relate_ok relating
    have blip (id : Nat) (name : String) (width height : Int) :
        allNamed "a:blip" [parent "w:r" [pictureXml id name (relationName (firstRelation + place))
          width height]] =
        [.leaf "a:blip" [("r:embed",relationName (firstRelation + place))]] := by
      simp [pictureXml_blip]
    refine ⟨(Draft.Extends.of_stored entered same).trans (.of_related added media),?_,?_,?_⟩
    · have other (id : Nat) (name relation : String) (width height : Int) :
          (pictureXml id name relation width height).named "w:hyperlink" = [] :=
        pictureXml_lacks _ _ _ _ _ (by decide)
      simp [other,Inline.link?]
    · rw [held,blip]
      refine .cons ⟨place,index,rfl,?_,?_⟩ .nil
      · simpa using added.found
      · rw [media]
        exact entered.found
    · intro other old inside
      rw [← same] at old
      obtain rfl := added.fresh other old inside
      rw [Use,blip]
      exact .inr ⟨_,List.mem_singleton_self _,rfl⟩

theorem leaves_relates (leaves : List InlineLeaf) :
    Relates (leaves.map InlineLeaf.toInline) Prod.fst (Build.leaves leaves) := by
  induction leaves with
  | nil =>
    intro start found final ran
    obtain ⟨rfl,rfl⟩ := pure_ok.mp ran
    exact .quiet rfl rfl rfl rfl rfl rfl
  | cons leaf rest ih =>
    intro start found final ran
    cases leaf with
    | run r =>
      simp only [Build.leaves,bind_ok,pure_ok] at ran
      obtain ⟨x,_,head,others,_,tail,rfl,rfl⟩ := ran
      exact (run_relates r head).append (ih tail)
    | image i =>
      simp only [Build.leaves,bind_ok,pure_ok] at ran
      obtain ⟨x,_,head,others,_,tail,rfl,rfl⟩ := ran
      exact (picture_relates i head).append (ih tail)

theorem link_relates (h : Hyperlink) : Relates [.link h] (fun x => [x]) (link h) := by
  intro start x final ran
  simp only [link,bind_ok,pure_ok] at ran
  obtain ⟨relation,named,naming,found,filled,filling,_,_,placing,rfl,rfl⟩ := ran
  obtain ⟨place,rfl,added,media⟩ := relate_ok naming
  obtain rfl := modifyDraft_ok.mp placing
  have inner : Related (h.children.map InlineLeaf.toInline) found.1 named.draft
      { filled.draft with lastPicture := max filled.draft.lastPicture found.2 } :=
    (leaves_relates h.children filling).then_still rfl rfl
  have no_link : allNamed "w:hyperlink" found.1 = [] := by
    have links := inner.links
    rw [links_within] at links
    exact List.forall₂_nil_right_iff.mp links
  set x : XmlElement := .mk "w:hyperlink" [("r:id",relationName (firstRelation + place))] "" found.1
  have link : allNamed "w:hyperlink" [x] = [x] := by simp [x,no_link]
  have picture : allNamed "a:blip" [x] = allNamed "a:blip" found.1 := by simp [x]
  refine ⟨(Draft.Extends.of_related added media).trans inner.later,?_,?_,?_⟩
  · rw [link]
    exact .cons ⟨place,rfl,getElem?_kept inner.later.relations (by simpa using added.found)⟩ .nil
  · rw [picture,heldPictures_link]
    exact inner.pictures
  · intro other old inside
    unfold Use
    rw [link,picture]
    by_cases early : other < named.draft.relations.length
    · obtain rfl := added.fresh other old early
      exact .inl ⟨x,List.mem_singleton_self x,rfl⟩
    · obtain ⟨e,member,_⟩ | used := inner.used other (Nat.le_of_not_lt early) inside
      · rw [no_link] at member
        cases member
      · exact .inr used

theorem inline_relates (i : Inline) : Relates [i] (fun x => [x]) (inline i) := by
  cases i with
  | run r => exact run_relates r
  | image i =>
    intro start x final ran
    simp only [inline,bind_ok,pure_ok] at ran
    obtain ⟨found,_,written,_,_,placing,rfl,rfl⟩ := ran
    obtain rfl := modifyDraft_ok.mp placing
    exact (picture_relates i written).then_still rfl rfl
  | link h => exact link_relates h

/-! ### Paragraphs and tables -/

theorem paragraph_relates (p : Paragraph) : Relates p.children (fun x => [x]) (paragraph p) := by
  intro start x final ran
  simp only [paragraph_eq,bind_ok,pure_ok] at ran
  obtain ⟨properties,middle,front,children,_,line,rfl,rfl⟩ := ran
  have same : middle.filled = start.filled :=
    paragraphProperties_keeps (fun _ _ _ => rfl) p front
  have related := Relates.mapM (fun i _ => inline_relates i) line
  simp only [List.flatMap_singleton'] at related
  refine .around (related.still_then (congrArg (·.2.1) same) (congrArg (·.2.2) same)) ?_
  have lacks (tag : String) (other : ∀ own ∈ propertyNames, own ≠ tag) :=
    properties.toXml_lacks other
  simp [lacks "w:hyperlink" (by decide),lacks "a:blip" (by decide)]

theorem cell_relates (c : TableCell) :
    Relates (c.paragraphs.flatMap Paragraph.children) (fun x => [x]) (cell c) := by
  intro start x final ran
  simp only [cell,bind_ok,pure_ok,check_ok,option_check_ok] at ran
  obtain ⟨width,_,⟨_,rfl⟩,borders,_,⟨_,rfl⟩,shading,_,⟨_,rfl⟩,paragraphs,_,written,rfl,rfl⟩ := ran
  have related := Relates.mapM (fun p _ => paragraph_relates p) written
  simp only [List.flatMap_singleton'] at related
  refine related.around ?_
  simp only [allNamed_cons,allNamed_nil,List.append_nil,List.forall_mem_cons]
  exact ⟨cellXml_named _ _ _ _ (by decide),cellXml_named _ _ _ _ (by decide),by simp⟩

theorem row_relates (columns : Nat) (r : TableRow) :
    Relates (r.cells.flatMap fun c => c.paragraphs.flatMap Paragraph.children) (fun x => [x])
      (row columns r) := by
  intro start x final ran
  simp only [row,bind_ok,pure_ok] at ran
  obtain ⟨cells,_,written,rfl,rfl⟩ := ran
  have related := Relates.mapM (fun c _ => cell_relates c) written
  simp only [List.flatMap_singleton'] at related
  refine related.around ?_
  simp only [allNamed_cons,allNamed_nil,List.append_nil,List.forall_mem_cons]
  exact ⟨rowXml_named _ _ _ (by decide),rowXml_named _ _ _ (by decide),by simp⟩

theorem table_relates (t : Table) : Relates (Block.table t).lines Option.toList (table t) := by
  intro start x final ran
  simp only [Block.lines,Block.paragraphs,List.flatMap_assoc]
  rw [table_eq] at ran
  dsimp only at ran
  split at ran
  · next empty =>
    obtain ⟨rfl,rfl⟩ := pure_ok.mp ran
    have none : (t.rows.flatMap fun r => r.cells.flatMap fun c =>
        c.paragraphs.flatMap Paragraph.children) = [] := by
      refine List.flatMap_eq_nil_iff.mpr fun r member => ?_
      rw [cells_eq_nil empty member]
      rfl
    rw [none]
    exact .quiet rfl rfl rfl rfl rfl rfl
  · simp only [bind_ok,check_ok,pure_ok] at ran
    obtain ⟨width,_,⟨_,rfl⟩,rows,_,written,rfl,rfl⟩ := ran
    have related := Relates.mapM (fun r _ => row_relates _ r) written
    simp only [List.flatMap_singleton'] at related
    refine related.around ?_
    simp only [Option.toList,allNamed_cons,allNamed_nil,List.append_nil,List.forall_mem_cons]
    exact ⟨tableXml_named _ _ _ _ (by decide),tableXml_named _ _ _ _ (by decide),by simp⟩

theorem block_relates (b : Block) : Relates b.lines id (block b) := by
  cases b with
  | paragraph p =>
    intro start x final ran
    simp only [block,bind_ok,pure_ok] at ran
    obtain ⟨x,_,ran,rfl,rfl⟩ := ran
    simpa [Block.lines,Block.paragraphs] using paragraph_relates p ran
  | table t =>
    intro start x final ran
    simp only [block,bind_ok,pure_ok] at ran
    obtain ⟨x,_,ran,rfl,rfl⟩ := ran
    exact table_relates t ran

/-! ### Documents -/

theorem addBlock_relates {b : Block} {lines : List Inline} {initial : Draft} {start final : BuildState}
    {u : Unit} (before : Related lines start.draft.body initial start.draft)
    (ran : addBlock b start = .ok u final) :
    Related (lines ++ b.lines) final.draft.body initial final.draft := by
  simp only [addBlock,bind_ok,modifyDraft_ok] at ran
  obtain ⟨elements,inner,head,rfl⟩ := ran
  have body : inner.draft.body = start.draft.body :=
    (congrArg Draft.body (block_keeps b head) :)
  rw [← body] at before
  exact (before.append (block_relates b head)).then_still rfl rfl

/-- Block by block, the body names relations of the document and all of those that are added. -/
theorem addBlocks_relates {blocks : List Block} {lines : List Inline} {initial : Draft}
    {start final : BuildState} {u : Unit}
    (before : Related lines start.draft.body initial start.draft)
    (ran : blocks.forM addBlock start = .ok u final) :
    Related (lines ++ blocks.flatMap Block.lines) final.draft.body initial final.draft := by
  induction blocks generalizing start lines with
  | nil =>
    obtain rfl := forM_nil_ok.mp ran
    simpa using before
  | cons b blocks ih =>
    obtain ⟨middle,head,tail⟩ := forM_cons_ok.mp ran
    rw [List.flatMap_cons,← List.append_assoc]
    exact ih (addBlock_relates before head) tail

theorem encoded_related {m : DocumentModel} {p : Package} (encoded : (encode m).result = .ok p) :
    ∃ d : Draft, d.toPackage = p ∧ Related m.lines p.body {} d := by
  obtain ⟨identified,styled,defined,final,core,styles,families,blocks,rfl⟩ := encoded_parts encoded
  have empty := front_empty core styles families
  have relations : defined.draft.relations = [] := congrArg (·.2.1) empty
  have media : defined.draft.media = [] := congrArg (·.2.2) empty
  have body : defined.draft.body = [] := congrArg Prod.fst empty
  have before : Related [] defined.draft.body {} defined.draft := by
    rw [body]
    exact .quiet relations media rfl rfl rfl rfl
  exact ⟨final.draft,rfl,addBlocks_relates before blocks⟩

end Build

/-! ### Files -/

theorem Build.relationName_inj {a b : Nat} : relationName a = relationName b ↔ a = b := by
  simp [relationName,Nat.repr_inj]

/-- Two pictures whose places differ have parts of different names, of whatever formats they are. -/
theorem Medium.partName_inj {a b : Nat} {m n : Medium} (same : m.partName a = n.partName b) :
    a = b := by
  have digits (c : Nat) : '.' ∉ Nat.toDigits 10 c := fun member =>
    absurd (Nat.isDigit_of_mem_toDigits (by decide) (by decide) member) (by decide)
  have ending (f : PictureFormat) : '.' ∉ f.extension.toList := by cases f <;> decide
  have dot : (toString ".").toList = ['.'] := rfl
  have chars : Nat.toDigits 10 (a + 1) ++ '.' :: m.format.extension.toList =
      Nat.toDigits 10 (b + 1) ++ '.' :: n.format.extension.toList := by
    simpa [partName,dot] using congrArg String.toList same
  have number := ((List.append_cons_inj_of_notMem (digits _) (ending _)).mp chars).1
  exact Nat.succ.inj (Nat.repr_injective (congrArg String.ofList number))

namespace Package

variable {p : Package}

/-- The element of a link leads to the link's address, by a relation to what is outside the file. -/
def LeadsTo (p : Package) (e : XmlElement) (h : Hyperlink) : Prop :=
  ∃ r ∈ p.relationRows, e.attr? "r:id" = some r.id ∧
    r.kind = "hyperlink" ∧ r.isExternal = true ∧ r.target = h.url

/-- The element of a picture shows the picture's data, by a relation to a part of the file. -/
def Shows (p : Package) (e : XmlElement) (i : ImageRun) : Prop :=
  ∃ r ∈ p.relationRows, e.attr? "r:embed" = some r.id ∧
    r.kind = "image" ∧ r.isExternal = false ∧ (documentFolder ++ r.target,i.data) ∈ p.pictureParts

/-- Some link or picture of the body names the relation. -/
def Uses (p : Package) (r : Relation) : Prop :=
  (∃ e ∈ allNamed "w:hyperlink" p.body, e.attr? "r:id" = some r.id) ∨
    ∃ e ∈ allNamed "a:blip" p.body, e.attr? "r:embed" = some r.id

theorem link_row {place : Nat} {url : String} (found : p.relations[place]? = some (.link url)) :
    ⟨Build.relationName (firstRelation + place),"hyperlink",url,true⟩ ∈ p.relationRows :=
  List.mem_of_getElem? (i := place) (by simp [relationRows,List.getElem?_mapIdx,found])

theorem picture_row {place index : Nat} (found : p.relations[place]? = some (.picture index)) :
    ⟨Build.relationName (firstRelation + place),"image",p.pictureTarget index,false⟩ ∈
      p.relationRows :=
  List.mem_of_getElem? (i := place) (by simp [relationRows,List.getElem?_mapIdx,found])

theorem picture_part {index : Nat} {data : List UInt8}
    (held : (p.media[index]?).map Medium.data = some data) :
    (documentFolder ++ p.pictureTarget index,data) ∈ p.pictureParts := by
  obtain ⟨m,found,rfl⟩ := Option.map_eq_some_iff.mp held
  exact List.mem_of_getElem? (i := index)
    (by simp [pictureParts,pictureTarget,List.getElem?_mapIdx,found])

theorem relationRows_id {r : Relation} (member : r ∈ p.relationRows) :
    ∃ place < p.relations.length, r.id = Build.relationName (firstRelation + place) := by
  obtain ⟨place,inside,rfl⟩ := List.mem_mapIdx.mp member
  refine ⟨place,inside,?_⟩
  split <;> rfl

theorem relationRows_distinct (p : Package) : (p.relationRows.map Relation.id).Nodup := by
  have ids : p.relationRows.map Relation.id =
      (List.range p.relations.length).map fun place => Build.relationName (firstRelation + place) := by
    refine List.ext_getElem (by simp [relationRows]) fun i _ _ => ?_
    simp only [relationRows,List.getElem_map,List.getElem_mapIdx,List.getElem_range]
    split <;> rfl
  rw [ids]
  refine List.nodup_range.map fun i j same => ?_
  exact Nat.add_left_cancel (Build.relationName_inj.mp same)

theorem pictureParts_distinct (p : Package) : (p.pictureParts.map Prod.fst).Nodup := by
  refine List.pairwise_iff_getElem.mpr fun i j _ _ before same => ?_
  simp only [pictureParts,List.getElem_map,List.getElem_mapIdx] at same
  have place := Medium.partName_inj ((String.append_right_inj _).mp same)
  omega

/-- A file with these links and these pictures, all of them with the relation that they need. -/
structure Resolves (p : Package) (links : List Hyperlink) (pictures : List ImageRun) : Prop where
  /-- An identifier belongs to one relation only. -/
  distinct : (p.relationRows.map Relation.id).Nodup
  /-- None of the identifiers belongs to a relation of a new document. -/
  added : ∀ r ∈ p.relationRows, ∀ n < firstRelation, r.id ≠ Build.relationName n
  /-- The name of a picture's part belongs to one part only. -/
  parts : (p.pictureParts.map Prod.fst).Nodup
  leads : List.Forall₂ p.LeadsTo (allNamed "w:hyperlink" p.body) links
  shows : List.Forall₂ p.Shows (allNamed "a:blip" p.body) pictures
  /-- Links share a relation exactly when they share an address. -/
  links_alike : ∀ e h, (e,h) ∈ (allNamed "w:hyperlink" p.body).zip links →
    ∀ f k, (f,k) ∈ (allNamed "w:hyperlink" p.body).zip links →
    (e.attr? "r:id" = f.attr? "r:id" ↔ h.url = k.url)
  /-- Pictures share a relation exactly when they share their data. -/
  pictures_alike : ∀ e i, (e,i) ∈ (allNamed "a:blip" p.body).zip pictures →
    ∀ f j, (f,j) ∈ (allNamed "a:blip" p.body).zip pictures →
    (e.attr? "r:embed" = f.attr? "r:embed" ↔ i.data = j.data)
  used : ∀ r ∈ p.relationRows, p.Uses r

end Package

namespace Draft

variable {d : Draft} {e f : XmlElement}

theorem LeadsTo.alike {h k : Hyperlink} (distinct : d.Distinct) (leads : d.LeadsTo e h)
    (other : d.LeadsTo f k) : e.attr? "r:id" = f.attr? "r:id" ↔ h.url = k.url := by
  obtain ⟨place,names,found⟩ := leads
  obtain ⟨second,other_names,other_found⟩ := other
  rw [names,other_names,Option.some_inj,Build.relationName_inj,Nat.add_left_cancel_iff]
  have inside := (List.getElem?_eq_some_iff.mp found).1
  rw [← List.getElem?_inj inside distinct.relations,found,other_found]
  simp

theorem Shows.alike {i j : ImageRun} (distinct : d.Distinct) (shows : d.Shows e i)
    (other : d.Shows f j) : e.attr? "r:embed" = f.attr? "r:embed" ↔ i.data = j.data := by
  obtain ⟨place,index,names,found,held⟩ := shows
  obtain ⟨second,other_index,other_names,other_found,other_held⟩ := other
  rw [names,other_names,Option.some_inj,Build.relationName_inj,Nat.add_left_cancel_iff]
  have inside := (List.getElem?_eq_some_iff.mp found).1
  rw [← List.getElem?_inj inside distinct.relations,found,other_found]
  rw [← List.getElem?_map] at held other_held
  have held_inside := (List.getElem?_eq_some_iff.mp held).1
  calc some (RelationTarget.picture index) = some (.picture other_index) ↔ index = other_index := by simp
    _ ↔ (d.media.map Medium.data)[index]? = (d.media.map Medium.data)[other_index]? :=
      (List.getElem?_inj held_inside distinct.media).symm
    _ ↔ i.data = j.data := by rw [held,other_held,Option.some_inj]

theorem LeadsTo.package {h : Hyperlink} (leads : d.LeadsTo e h) : d.toPackage.LeadsTo e h := by
  obtain ⟨place,names,found⟩ := leads
  exact ⟨_,Package.link_row found,names,rfl,rfl,rfl⟩

theorem Shows.package {i : ImageRun} (shows : d.Shows e i) : d.toPackage.Shows e i := by
  obtain ⟨place,index,names,found,held⟩ := shows
  exact ⟨_,Package.picture_row found,names,rfl,rfl,Package.picture_part held⟩

end Draft

/-- What every file says of its links and pictures. Each link leads to its address and each picture that
can be read shows its data, by relations of the file that are shared only where address or data are the
same; and there is no other relation than theirs. -/
theorem encode_resolves {m : DocumentModel} {p : Package} (encoded : (encode m).result = .ok p) :
    p.Resolves (m.lines.filterMap Inline.link?) (heldPictures m.lines) := by
  obtain ⟨d,rfl,related⟩ := Build.encoded_related encoded
  have distinct : d.Distinct := related.later.distinct ⟨List.nodup_nil,List.nodup_nil⟩
  obtain ⟨_,leads⟩ := List.forall₂_iff_zip.mp related.links
  obtain ⟨_,shows⟩ := List.forall₂_iff_zip.mp related.pictures
  exact {
    distinct := Package.relationRows_distinct _
    added := by
      intro r member n own
      obtain ⟨place,_,named⟩ := Package.relationRows_id member
      rw [named,ne_eq,Build.relationName_inj]
      omega
    parts := Package.pictureParts_distinct _
    leads := related.links.imp fun _ _ => Draft.LeadsTo.package
    shows := related.pictures.imp fun _ _ => Draft.Shows.package
    links_alike := fun _ _ here _ _ there => (leads here).alike distinct (leads there)
    pictures_alike := fun _ _ here _ _ there => (shows here).alike distinct (shows there)
    used := by
      intro r member
      obtain ⟨place,inside,named⟩ := Package.relationRows_id member
      rw [Package.Uses,named]
      exact related.used place (Nat.zero_le _) inside }

/-- Two links to one address around a picture and a text, one of them in a cell; the picture once more,
and with other data; and a picture that cannot be read. -/
def relatedDocument : DocumentModel :=
  let gif (last : UInt8) : List UInt8 := [0x47,0x49,0x46,0x38,0x39,0x61,1,0,1,0,last]
  { blocks := [
    .paragraph { children := [
      .link { url := "u", children := [.image { data := gif 0, width := 1, height := 1 }] },
      .image { data := gif 0, width := 2, height := 2 },
      .image { data := [0], width := 1, height := 1 }] },
    .table { rows := [{ cells := [{ widthPercent := fullWidth, paragraphs := [{ children := [
      .link { url := "u", children := [.run { text := "a" }] },
      .link { url := "v" },
      .image { data := gif 1, width := 1, height := 1 }] }] }] }] }] }

theorem encode_relatedDocument :
    ∃ p, (encode relatedDocument).result = .ok p ∧
      p.Resolves (relatedDocument.lines.filterMap Inline.link?) (heldPictures relatedDocument.lines) ∧
      (relatedDocument.lines.filterMap Inline.link?).map Hyperlink.url = ["u","u","v"] ∧
      (heldPictures relatedDocument.lines).map ImageRun.width = [1,2,1] := by
  obtain ⟨p,encoded⟩ := Build.encoded_of_isOk (m := relatedDocument) (by decide +kernel)
  exact ⟨p,encoded,encode_resolves encoded,by decide +kernel,by decide +kernel⟩

end DocPress
