import DocPress.Proofs.Document.ListCounter
import DocPress.Proofs.Document.Order

/-! Whether two ordered lists run into one counter. A list that stands in no ordered list opens its
own; one that does relies on the word processor, which starts a level anew behind a paragraph of a
shallower one. Main statement: where items of two lists count in one counter on one level, the level
starts anew in between exactly when an item of an ordered list on a shallower level stands between the
lists (`orderedLists_apart`). -/

namespace DocPress

open XmlElement

/-- The levels of the numbered paragraphs of a file, in the order of the file. -/
def Package.ilvls (p : Package) : List (Option String) :=
  (allNamed "w:numPr" p.body).map (·.childValue? "w:ilvl")

/-- One numbered paragraph counts where another one does, on a shallower level. -/
def Package.Restarts (p : Package) (i k : Nat) : Prop :=
  p.numIds[i]? = p.numIds[k]? ∧ ∃ shallow level : Int,
    p.ilvls[i]? = some (some (toString shallow)) ∧ p.ilvls[k]? = some (some (toString level)) ∧
      shallow < level

namespace Node

/-- An item of a list and a later one of another list count in one counter on one level. -/
structure Meet (p : Package) (items : List CountedItem) (first second : List Nat) (j k : Nat) :
    Prop where
  less : j < k
  earlier : items[j]?.map CountedItem.list = some first
  later : items[k]?.map CountedItem.list = some second
  counter : p.numIds[j]? = p.numIds[k]?
  level : p.ilvls[j]? = p.ilvls[k]?

/-- A counted item of an ordered list on a shallower level stands between two lists: behind the first
one, and before the second one or around it, as the order of the ways has it. -/
def Parted (doc : Node) (first second : List Nat) (level : Int) : Prop :=
  ∃ outer p cs ctx m n, doc.Reached outer (mk .list p cs) ctx ∧ p.ordered = true ∧
    cs[m]? = some n ∧ n.isCounted = true ∧ min (listLevel ctx) maxListLevel < level ∧
    first < outer ++ [m] ∧ outer ++ [m] ≤ second

variable {level : Int} {path : List Nat} {i : Nat} {doc : Node}

/-! ### What stands before and between lists -/

/-- What a list opens a counter with is an item of it that comes before all others. -/
theorem listItems_opener {items : List Node} {s : Int} {f : CountedItem} (own : f.list = path)
    (member : f ∈ listItems level true (some s) path i items) :
    ∃ h ∈ listItems level true (some s) path i items,
      h.list = path ∧ h.opens = true ∧ h.place ≤ f.place := by
  obtain ⟨front,n,rest,rfl,counted,rfl⟩ := (mem_listItems_own own).mp member
  cases earlier : front.find? isCounted with
  | none =>
    refine ⟨_,member,rfl,?_,Nat.le_refl _⟩
    have fresh : front.any isCounted = false := by
      simpa [List.any_eq_false] using List.find?_eq_none.mp earlier
    simp [CountedItem.opens,itemRef_opens,pending,fresh]
  | some m =>
    obtain ⟨m_counted,before,after,rfl,others⟩ := List.find?_eq_some_iff_append.mp earlier
    have fresh : before.any isCounted = false := by simpa [List.any_eq_false] using others
    refine ⟨⟨path,i + before.length,itemRef level true (pending (some s) before)⟩,
      (mem_listItems_own rfl).mpr ⟨before,m,after ++ n :: rest,by simp,m_counted,rfl⟩,rfl,?_,?_⟩
    · simp [CountedItem.opens,itemRef_opens,pending,fresh]
    · simp

theorem itemRef_reference (level : Int) (ordered : Bool) (start : Option Int) :
    (itemRef level ordered start).reference = orderedReference ↔ ordered = true := by
  cases ordered <;> simp [itemRef,orderedReference,bulletReference]

theorem parted_iff {α β : List Nat} :
    Parted doc α β level ↔ ∃ x ∈ doc.documentItems, x.ref.reference = orderedReference ∧
      x.ref.level < level ∧ α < x.spot ∧ x.spot ≤ β := by
  constructor
  · rintro ⟨outer,p,cs,ctx,m,n,reached,ordered,found,counted,shallower,behind,before⟩
    obtain ⟨front,rest,rfl,rfl⟩ := split_at_place found
    refine ⟨⟨outer,front.length,itemRef (listLevel ctx) true
      (pending (listStart ctx true p.start) front)⟩,?_,rfl,shallower,behind,before⟩
    refine (reached.mem_own rfl).mpr ((mem_listItems_own rfl).mpr ⟨front,n,rest,rfl,counted,?_⟩)
    rw [ordered,Nat.zero_add]
  · rintro ⟨x,member,x_ref,shallower,behind,before⟩
    obtain ⟨p,cs,ctx,n,start,reached,found,counted,ref⟩ := doc.documentItems_listed x member
    rw [ref] at x_ref shallower
    exact ⟨x.list,p,cs,ctx,x.place,n,reached,(itemRef_reference ..).mp x_ref,found,counted,shallower,
      behind,before⟩

/-- A list that stands in no ordered list opens its counter behind the items of any list that does not
stand in it. -/
theorem Reached.opener {β : List Nat} {q : NodeProps} {ds : List Node} {within : Option ListContext}
    (reached : doc.Reached β (mk .list q ds) within) (ordered : q.ordered = true)
    (free : within.any (·.ordered) = false) {e f : CountedItem} (outside : ¬ Below β e)
    (f_own : f.list = β) (member : f ∈ doc.documentItems) (less : e.spot < f.spot) :
    ∃ h ∈ doc.documentItems, h.opens = true ∧ e.spot < h.spot ∧ h.spot ≤ f.spot := by
  have inside := (reached.mem_own f_own).mp member
  have fresh : listStart within q.ordered q.start = some q.start := by simp [listStart,ordered,free]
  rw [fresh,ordered] at inside
  obtain ⟨h,there,h_own,opens,place⟩ := listItems_opener f_own inside
  have h_member : h ∈ doc.documentItems := (reached.mem_own h_own).mpr (by rwa [fresh,ordered])
  have h_spot : h.spot = β ++ [h.place] := by rw [CountedItem.spot,h_own]
  have f_spot : f.spot = β ++ [f.place] := by rw [CountedItem.spot,f_own]
  have upto : h.spot ≤ f.spot := by
    obtain less | same := Nat.lt_or_eq_of_le place
    · exact le_of_lt (spot_lt less h_spot f_spot)
    · exact le_of_eq (by rw [h_spot,f_spot,same])
  refine ⟨h,h_member,opens,?_,upto⟩
  rw [lt_own_iff (f_own ▸ outside),f_own] at less
  rwa [lt_own_iff (h_own ▸ outside),h_own]

/-! ### Counters and levels -/

section

variable {c : StyleConfig} {images : ImageCache} {title : String} {package : Package}
  (encoded : (encode (assemble (doc.documentBlocks c images) c title)).result = .ok package)

include encoded

theorem ilvls_at {k : Nat} {e : CountedItem} (found : doc.documentItems[k]? = some e) :
    package.ilvls[k]? = some (some (toString e.ref.level)) := by
  rw [Package.ilvls,List.getElem?_map,marks_at encoded found]
  rfl

theorem ilvls_length : package.ilvls.length = doc.documentItems.length :=
  (List.length_map _).trans (marks_length encoded)

theorem numIds_eq_iff_quiet {j k : Nat} (less : j < k) {e f : CountedItem}
    (first : doc.documentItems[j]? = some e) (e_ref : e.ref.reference = orderedReference)
    (second : doc.documentItems[k]? = some f) (f_ref : f.ref.reference = orderedReference) :
    package.numIds[j]? = package.numIds[k]? ↔
      ∀ i x, j < i → i ≤ k → doc.documentItems[i]? = some x → x.opens = false := by
  obtain ⟨before,between,after,split,rfl,rfl⟩ := split_at_places less first second
  have size : (before ++ e :: between).length = before.length + 1 + between.length := by
    simp only [List.length_append,List.length_cons]
    omega
  have row (m : Nat) (upto : m ≤ between.length) :
      doc.documentItems[before.length + 1 + m]? = (between ++ [f])[m]? := by
    rw [split,List.getElem?_append_right (by omega),
      show before.length + 1 + m - before.length = m + 1 by omega,List.getElem?_cons_succ,
      ← List.singleton_append,← List.append_assoc,List.getElem?_append_left (by simp; omega)]
  rw [numIds_eq_iff encoded split e_ref f_ref,size]
  constructor
  · intro quiet i x behind upto found
    obtain ⟨m,rfl⟩ : ∃ m, i = before.length + 1 + m := ⟨i - (before.length + 1),by omega⟩
    rw [row m (by omega)] at found
    exact quiet x (List.mem_of_getElem? found)
  · intro quiet x member
    obtain ⟨m,inside,rfl⟩ := List.mem_iff_getElem.mp member
    have upto : m ≤ between.length := by simpa [Nat.lt_succ_iff] using inside
    refine quiet (before.length + 1 + m) _ (by omega) (by omega) ?_
    rw [row m upto,List.getElem?_eq_getElem inside]

/-- What counts where a later item of an ordered list does is an item of an ordered list. -/
theorem ordered_of_numIds_eq {i k : Nat} (less : i < k) {x f : CountedItem}
    (first : doc.documentItems[i]? = some x) (second : doc.documentItems[k]? = some f)
    (f_ref : f.ref.reference = orderedReference)
    (same : package.numIds[i]? = package.numIds[k]?) : x.ref.reference = orderedReference := by
  obtain ⟨_,_,_,_,start,_,_,_,ref⟩ := doc.documentItems_listed x (List.mem_of_getElem? first)
  rw [ref,itemRef_reference]
  by_contra bullet
  have x_ref : x.ref.reference = bulletReference := by rw [ref,itemRef,if_neg bullet]
  obtain ⟨before,between,after,split,rfl,rfl⟩ := split_at_places less first second
  have given := Counting.given_ofDefinitions (buildNumbering c)
  have families : (Counting.ofDefinitions (buildNumbering c)).current bulletReference ≠
      (Counting.ofDefinitions (buildNumbering c)).current orderedReference := by
    change firstCounter ≠ firstCounter + 1
    exact Nat.ne_of_lt (Nat.lt_succ_self _)
  rw [numIds_eq_iff_current encoded split,x_ref,f_ref] at same
  exact Counting.current_ne_after given.after (Counting.current_after_ne given families) same

/-- A level starts anew between two items of ordered lists where an item of an ordered list on a
shallower one stands between them. -/
theorem restarts_iff {j k : Nat} (less : j < k) {e f : CountedItem}
    (e_at : doc.documentItems[j]? = some e) (e_ref : e.ref.reference = orderedReference)
    (f_at : doc.documentItems[k]? = some f) (f_ref : f.ref.reference = orderedReference)
    (same : package.numIds[j]? = package.numIds[k]?) :
    (∃ i, j < i ∧ i < k ∧ package.Restarts i k) ↔
      ∃ x ∈ doc.documentItems, x.ref.reference = orderedReference ∧ x.ref.level < f.ref.level ∧
        e.spot < x.spot ∧ x.spot < f.spot := by
  have sorted := doc.documentItems_sorted
  constructor
  · rintro ⟨i,behind,before,counter,shallow,level,x_ilvl,f_ilvl,shallower⟩
    have inside : i < doc.documentItems.length :=
      Nat.lt_trans before (List.getElem?_eq_some_iff.mp f_at).1
    obtain ⟨x,x_at⟩ : ∃ x, doc.documentItems[i]? = some x := ⟨_,List.getElem?_eq_getElem inside⟩
    have x_ref := ordered_of_numIds_eq encoded before x_at f_at f_ref counter
    rw [ilvls_at encoded x_at,Option.some_inj,Option.some_inj] at x_ilvl
    rw [ilvls_at encoded f_at,Option.some_inj,Option.some_inj] at f_ilvl
    rw [← Int.repr_inj.mp x_ilvl,← Int.repr_inj.mp f_ilvl] at shallower
    exact ⟨x,List.mem_of_getElem? x_at,x_ref,shallower,(sorted.places e_at x_at).mp behind,
      (sorted.places x_at f_at).mp before⟩
  · rintro ⟨x,member,x_ref,shallower,above,under⟩
    obtain ⟨i,x_at⟩ := List.mem_iff_getElem?.mp member
    have behind : j < i := (sorted.places e_at x_at).mpr above
    have before : i < k := (sorted.places x_at f_at).mpr under
    have quiet := (numIds_eq_iff_quiet encoded less e_at e_ref f_at f_ref).mp same
    have counter : package.numIds[i]? = package.numIds[k]? :=
      (numIds_eq_iff_quiet encoded before x_at x_ref f_at f_ref).mpr fun n y more upto =>
        quiet n y (Nat.lt_trans behind more) upto
    exact ⟨i,behind,before,counter,_,_,ilvls_at encoded x_at,ilvls_at encoded f_at,shallower⟩

/-- A list that stands in no ordered list does not count where a list does that is not within it. -/
theorem Reached.numIds_ne {β : List Nat} {q : NodeProps} {ds : List Node}
    {within : Option ListContext} (reached : doc.Reached β (mk .list q ds) within)
    (ordered : q.ordered = true) (free : within.any (·.ordered) = false) {j k : Nat} (less : j < k)
    {e f : CountedItem} (e_at : doc.documentItems[j]? = some e)
    (e_ref : e.ref.reference = orderedReference) (outside : ¬ Below β e)
    (f_at : doc.documentItems[k]? = some f) (f_own : f.list = β) :
    package.numIds[j]? ≠ package.numIds[k]? := by
  intro same
  have sorted := doc.documentItems_sorted
  have f_member := List.mem_of_getElem? f_at
  obtain ⟨f_ref,_⟩ := reached.own_ref ordered f_member f_own
  have quiet := (numIds_eq_iff_quiet encoded less e_at e_ref f_at f_ref).mp same
  obtain ⟨h,member,opens,above,upto⟩ :=
    reached.opener ordered free outside f_own f_member ((sorted.places e_at f_at).mp less)
  obtain ⟨i,h_at⟩ := List.mem_iff_getElem?.mp member
  have behind : j < i := (sorted.places e_at h_at).mpr above
  have before : i ≤ k := Nat.not_lt.mp fun more =>
    absurd ((sorted.places f_at h_at).mp more) (not_lt.mpr upto)
  exact absurd opens (by simp [quiet i h behind before h_at])

/-- Where items of two ordered lists count in one counter on one level, the later list stands in an
ordered list or around the other one, and the level starts anew in between exactly when an item of an
ordered list on a shallower level stands between the lists. -/
theorem orderedLists_apart {α β : List Nat} {p q : NodeProps} {cs ds : List Node}
    {around within : Option ListContext} (first : doc.Reached α (mk .list p cs) around)
    (p_ordered : p.ordered = true) (second : doc.Reached β (mk .list q ds) within)
    (q_ordered : q.ordered = true) :
    package.numIds.length = doc.documentItems.length ∧
      package.ilvls.length = doc.documentItems.length ∧
      ∀ j k, Meet package doc.documentItems α β j k →
        (within.any (·.ordered) = true ∨ β <+: α) ∧
          ((∃ i, j < i ∧ i < k ∧ package.Restarts i k) ↔
            Parted doc α β (min (listLevel within) maxListLevel)) := by
  refine ⟨numIds_length encoded,ilvls_length encoded,?_⟩
  rintro j k ⟨less,earlier,later,same_id,same_level⟩
  obtain ⟨e,e_at,rfl⟩ := Option.map_eq_some_iff.mp earlier
  obtain ⟨f,f_at,rfl⟩ := Option.map_eq_some_iff.mp later
  obtain ⟨e_ref,e_level⟩ := first.own_ref p_ordered (List.mem_of_getElem? e_at) rfl
  obtain ⟨f_ref,f_level⟩ := second.own_ref q_ordered (List.mem_of_getElem? f_at) rfl
  have level : e.ref.level = f.ref.level := by
    rw [ilvls_at encoded e_at,ilvls_at encoded f_at,Option.some_inj,Option.some_inj] at same_level
    exact Int.repr_inj.mp same_level
  constructor
  · by_contra outside
    obtain ⟨free,apart⟩ := not_or.mp outside
    exact second.numIds_ne encoded q_ordered (Bool.eq_false_of_not_eq_true free) less e_at e_ref
      apart f_at rfl same_id
  · rw [restarts_iff encoded less e_at e_ref f_at f_ref same_id,parted_iff,← f_level]
    -- what is on a shallower level stands in neither of the lists
    refine exists_congr fun x => and_congr_right fun member => and_congr_right fun _ =>
      and_congr_right fun shallower => ?_
    have e_outside : ¬ Below e.list x := fun below =>
      absurd (first.deep member below) (by rw [← e_level,level]; exact Int.not_le.mpr shallower)
    have f_outside : ¬ Below f.list x := fun below =>
      absurd (second.deep member below) (by rw [← f_level]; exact Int.not_le.mpr shallower)
    rw [own_lt_iff e_outside,lt_own_iff f_outside]

end

/-- Two ordered lists of a tree, an item of one and a later one of the other of which count in one
counter on one level with no start anew in between. -/
def RunTogether (doc : Node) (first second : List Nat) : Prop :=
  (∃ p cs around q ds within, doc.Reached first (mk .list p cs) around ∧ p.ordered = true ∧
    doc.Reached second (mk .list q ds) within ∧ q.ordered = true) ∧ first ≠ second ∧
  ∃ package, (encode (assemble (doc.documentBlocks {} []) {} "")).result = .ok package ∧
    ∃ j k, Meet package doc.documentItems first second j k ∧
      ¬ ∃ i, j < i ∧ i < k ∧ package.Restarts i k

/-- A list of one item, which has a line and these nodes below it. -/
def oneItem (ordered : Bool) (below : List Node) : Node :=
  mk .list { ordered := ordered } [mk .listItem {} (mk .paragraph {} [] :: below)]

/-- Two ordered lists in one item of another one. -/
def twinLists : Node :=
  mk .document {} [oneItem true [oneItem true [],mk .paragraph {} [],oneItem true []]]

/-- Two ordered lists with an ordered list in the first item of each, the second of which has no
line. -/
def lateLists : Node := mk .document {} [oneItem true [oneItem true []],mk .paragraph {} [],
  mk .list { ordered := true } [mk .listItem {} [mk .code {} [],oneItem true []]]]

theorem runTogether_of_next {doc : Node} {α β : List Nat} {p q : NodeProps} {cs ds : List Node}
    {around within : Option ListContext} (first : doc.Reached α (mk .list p cs) around)
    (p_ordered : p.ordered = true) (second : doc.Reached β (mk .list q ds) within)
    (q_ordered : q.ordered = true) (differ : α ≠ β) (j : Nat)
    (items : doc.documentItems[j]?.map CountedItem.list = some α ∧
      doc.documentItems[j + 1]?.map CountedItem.list = some β)
    (counters : (encode (assemble (doc.documentBlocks {} []) {} "")).result.toOption.any fun p =>
      p.numIds[j]? == p.numIds[j + 1]? && p.ilvls[j]? == p.ilvls[j + 1]?) :
    RunTogether doc α β := by
  refine ⟨⟨p,cs,around,q,ds,within,first,p_ordered,second,q_ordered⟩,differ,?_⟩
  cases result : (encode (assemble (doc.documentBlocks {} []) {} "")).result with
  | error e =>
    rw [result] at counters
    cases counters
  | ok package =>
    obtain ⟨same_id,same_level⟩ : package.numIds[j]? = package.numIds[j + 1]? ∧
        package.ilvls[j]? = package.ilvls[j + 1]? := by simpa [result,Except.toOption] using counters
    refine ⟨package,rfl,j,j + 1,⟨Nat.lt_succ_self j,items.1,items.2,same_id,same_level⟩,?_⟩
    rintro ⟨i,behind,before,_⟩
    omega

/-- Two lists in ordered lists run into one counter where both stand in one item, and where the list around the
later one has no line before it. Their level is not started anew there. -/
theorem orderedLists_runTogether :
    RunTogether twinLists [0,0,1] [0,0,3] ∧ RunTogether lateLists [0,0,1] [2,0,1] := by
  constructor <;>
  · exact runTogether_of_next (.item (.root rfl) rfl rfl) rfl (.item (.root rfl) rfl rfl) rfl
      (by decide) 1 (by decide) (by decide +kernel)

def partedLists : Node := mk .document {} [mk .list { ordered := true } [
  mk .listItem {} [mk .paragraph {} [],oneItem true []],
  mk .listItem {} [mk .paragraph {} [],oneItem true []]]]

theorem partedLists_parted : Parted partedLists [0,0,1] [0,1,1] 1 :=
  ⟨[0],_,_,_,1,_,.root rfl,rfl,rfl,rfl,by decide,by decide,by decide⟩

theorem partedLists_apart :
    ∃ package, (encode (assemble (partedLists.documentBlocks {} []) {} "")).result = .ok package ∧
      package.numIds = [some "12",some "12",some "12",some "12"] ∧
      package.ilvls = [some "0",some "1",some "0",some "1"] ∧
      Meet package partedLists.documentItems [0,0,1] [0,1,1] 1 3 ∧
      ∃ i, 1 < i ∧ i < 3 ∧ package.Restarts i 3 := by
  obtain ⟨package,encoded⟩ := Build.encoded_of_isOk
    (m := assemble (partedLists.documentBlocks {} []) {} "") (by decide +kernel)
  have counters : package.numIds = [some "12",some "12",some "12",some "12"] ∧
      package.ilvls = [some "0",some "1",some "0",some "1"] := by
    have computed : (encode (assemble (partedLists.documentBlocks {} []) {} "")).result.toOption.map
        (fun p => (p.numIds,p.ilvls)) = some ([some "12",some "12",some "12",some "12"],
          [some "0",some "1",some "0",some "1"]) := by decide +kernel
    rw [encoded] at computed
    exact Prod.mk.inj (Option.some.inj computed)
  have meet : Meet package partedLists.documentItems [0,0,1] [0,1,1] 1 3 :=
    ⟨by decide,by decide,by decide,by rw [counters.1]; rfl,by rw [counters.2]; rfl⟩
  have outer : partedLists.Reached [0] _ _ := .root rfl
  have first : partedLists.Reached [0,0,1] _ _ := .item outer rfl rfl
  have second : partedLists.Reached [0,1,1] _ _ := .item outer rfl rfl
  obtain ⟨_,_,apart⟩ := orderedLists_apart encoded first rfl second rfl
  exact ⟨package,encoded,counters.1,counters.2,meet,(apart 1 3 meet).2.mpr partedLists_parted⟩

end Node

end DocPress
