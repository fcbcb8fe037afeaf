import DocPress.Markdown.Token
import DocPress.Proofs.Document.ListApart
import DocPress.Proofs.Markdown.Conversion
import DocPress.Proofs.Package.NumberingPart

/-! The number that an ordered list starts at. It goes with the first counted item of the list and
starts the counter that this item opens; whether a later item still counts there depends on what stands
in between. Main statement: for a list that no list surrounds, the paragraph of an item points to a
counter that starts at the number of the token, unless that is zero or a list in between has opened
another one (`orderedList_start_iff`). -/

namespace DocPress

open XmlElement

/-- The k-th numbered paragraph of a file points to a counter that starts its level at a number. -/
def Package.StartsAt (p : Package) (k : Nat) (start : Int) : Prop :=
  ∃ mark counter, ∃ level : Int, (allNamed "w:numPr" p.body)[k]? = some mark ∧
    mark.childValue? "w:ilvl" = some (toString level) ∧ counter ∈ p.counters ∧
    mark.PointsTo "w:numId" counter "w:numId" ∧
    counter.named "w:lvlOverride" = overrides (some (level,start))

theorem overrides_inj {first second : Option (Int × Int)} :
    overrides first = overrides second ↔ first = second := by
  refine ⟨fun same => ?_,congrArg overrides⟩
  cases first with
  | none => cases second <;> simp_all [overrides]
  | some a =>
    cases second with
    | none => simp [overrides] at same
    | some b =>
      have parts : toString a.1 = toString b.1 ∧ toString a.2 = toString b.2 := by
        simpa [overrides,XmlElement.value] using same
      exact congrArg some (Prod.ext (Int.repr_inj.mp parts.1) (Int.repr_inj.mp parts.2))

namespace Node

/-! ### Levels -/

variable {level : Int} {ordered : Bool} {start : Option Int} {path : List Nat} {i : Nat}

/-- What opens a counter behind the first item of a list, up to the end of some children, lies below
that list. -/
theorem inner_opener_deep {n : Node} {items : List Node} {way : List Nat} {e : CountedItem}
    (member : e ∈ n.childItems (some ⟨level,ordered⟩) way ++
      listItems level ordered none path i items) (opens : e.opens = true) :
    min (level + 1) maxListLevel ≤ e.ref.level := by
  have below (m : Node) (way : List Nat) (found : e ∈ m.childItems (some ⟨level,ordered⟩) way) :
      min (level + 1) maxListLevel ≤ e.ref.level := m.countedItems_deep.2 _ way e found
  rcases List.mem_append.mp member with first | others
  · exact below n way first
  · obtain ⟨front,m,_,rfl,⟨_,rfl⟩ | found⟩ := mem_listItems.mp others
    · simp [CountedItem.opens,itemRef_opens,pending] at opens
    · exact below m _ found

theorem pending_of_uncounted {items : List Node} (uncounted : ∀ n ∈ items, n.isCounted = false) :
    pending start items = start := by
  have none_counted : items.any isCounted = false := by simpa [List.any_eq_false] using uncounted
  simp [pending,none_counted]

/-- The first counted item of a list, and what stands between it and the end of some children. -/
theorem listItems_first {first others : List Node} {n : Node}
    (uncounted : ∀ m ∈ first, m.isCounted = false) (counted : n.isCounted = true) :
    listItems level ordered start path i (first ++ n :: others) =
      listItems level ordered start path i first ++
        ⟨path,i + first.length,itemRef level ordered start⟩ ::
          (n.childItems (some ⟨level,ordered⟩) (path ++ [i + first.length]) ++
            listItems level ordered none path (i + first.length + 1) others) := by
  rw [listItems_append,listItems_cons,pending_of_uncounted uncounted,ownItem,if_pos counted,
    if_pos counted]
  rfl

/-- A document up to an item of a list that no list surrounds: what stands before the list, and what
the children before the item give. -/
theorem Reached.split_at_item {doc : Node} {p : NodeProps} {before after : List Node} {item : Node}
    (reached : doc.Reached path (mk .list p (before ++ item :: after)) none)
    (ordered : p.ordered = true) (counted : item.isCounted = true) :
    ∃ left behind, doc.documentItems = left ++ listItems 0 true (some p.start) path 0 before ++
      ⟨path,0 + before.length,itemRef 0 true (pending (some p.start) before)⟩ :: behind := by
  obtain ⟨left,right,whole,_⟩ := reached.segment
  have start : listStart none p.ordered p.start = some p.start := by simp [listStart,ordered]
  rw [countedItems,start,ordered,listItems_append,listItems_cons,ownItem,if_pos counted] at whole
  simp only [List.append_assoc,List.cons_append,List.nil_append] at whole
  exact ⟨left,_,whole.trans (List.append_assoc ..).symm⟩

/-! ### Counters -/

section

variable {doc : Node} {c : StyleConfig} {images : ImageCache} {title : String} {package : Package}
  (encoded : (encode (assemble (doc.documentBlocks c images) c title)).result = .ok package)

include encoded

/-- The counter that an item opens comes behind those of the families and those opened before. -/
theorem counter_opened {before after : List CountedItem} {opener : CountedItem} {start : Int}
    (split : doc.documentItems = before ++ opener :: after) (starts : opener.ref.start = some start) :
    ∃ counter : NumberingInstance, counter.restart = some (opener.ref.level,start) ∧
      package.counters[(buildNumbering c).length + openings (before.map CountedItem.ref)]? =
        some (counter.toXml
          (firstCounter + ((buildNumbering c).length + openings (before.map CountedItem.ref)))) := by
  obtain ⟨_,counters⟩ := Build.encode_numbering encoded
  have refs : (assemble (doc.documentBlocks c images) c title).references =
      before.map CountedItem.ref ++ opener.ref :: after.map CountedItem.ref := by
    rw [← List.map_cons,← List.map_append,← split]
    exact documentBlocks_references doc
  rw [refs] at counters
  let given := Counting.ofDefinitions (buildNumbering c)
  have opened := @Counting.counters_opened given (before.map CountedItem.ref)
    (after.map CountedItem.ref) opener.ref start starts
  refine ⟨⟨(given.table.families.lookup opener.ref.reference).getD 0,
    some (opener.ref.level,start)⟩,rfl,?_⟩
  rw [counters,List.getElem?_mapIdx]
  exact congrArg (Option.map _) opened

/-- An item of an ordered list counts in the counter that was opened last. -/
theorem mark_opened {before between after : List CountedItem} {opener e : CountedItem}
    (split : doc.documentItems = before ++ opener :: (between ++ after))
    (last : (opener :: between).getLast? = some e) (opens : opener.opens = true)
    (e_ref : e.ref.reference = orderedReference) (quiet : ∀ x ∈ between, x.opens = false) :
    (allNamed "w:numPr" package.body)[before.length + between.length]? = some (markXml e.ref
      (firstCounter + ((buildNumbering c).length + openings (before.map CountedItem.ref)))) := by
  have found : doc.documentItems[before.length + between.length]? = some e := by
    rw [split,List.getElem?_append_right (by omega),Nat.add_sub_cancel_left,← List.cons_append,
      List.getElem?_append_left (by simp)]
    rw [List.getLast?_eq_getElem?] at last
    exact last
  have taken : doc.documentItems.take (before.length + between.length + 1) =
      before ++ opener :: between := by
    rw [split,Nat.add_assoc,List.take_length_add_append,← List.cons_append]
    exact congrArg (before ++ ·) (List.take_left' rfl)
  rw [marks_at encoded found,taken,e_ref,List.map_append,List.map_cons,
    Counting.current_after_opening opens (List.forall_mem_map.mpr quiet),
    Counting.next_ofDefinitions,Nat.add_assoc]

/-- The counter of an item of an ordered list starts anew what the item that has opened it asks for. -/
theorem startsAt_iff {before between after : List CountedItem} {opener e : CountedItem} {start n : Int}
    (split : doc.documentItems = before ++ opener :: (between ++ after))
    (last : (opener :: between).getLast? = some e) (opens : opener.opens = true)
    (starts : opener.ref.start = some start) (e_ref : e.ref.reference = orderedReference)
    (quiet : ∀ x ∈ between, x.opens = false) :
    package.StartsAt (before.length + between.length) n ↔
      opener.ref.level = e.ref.level ∧ start = n := by
  have marked := mark_opened encoded split last opens e_ref quiet
  obtain ⟨opened,restarts,written⟩ := counter_opened encoded split starts
  let place := (buildNumbering c).length + openings (before.map CountedItem.ref)
  constructor
  · rintro ⟨mark,counter,level,mark_at,ilvl,member,⟨id,points,named⟩,restart⟩
    obtain rfl := Option.some.inj (marked.symm.trans mark_at)
    obtain rfl := Option.some.inj points
    -- the numbers of the counters tell them apart
    obtain ⟨_,counters⟩ := Build.encode_numbering encoded
    obtain ⟨i,inside,rfl⟩ := List.mem_iff_getElem.mp member
    obtain rfl : i = place := by
      simp only [counters,List.getElem_mapIdx,NumberingInstance.toXml_id,Option.some_inj] at named
      have := Nat.repr_inj.mp named
      omega
    rw [Option.some.inj ((List.getElem?_eq_getElem inside).symm.trans written),
      NumberingInstance.toXml_overrides,overrides_inj,restarts] at restart
    have own : toString e.ref.level = toString level := Option.some.inj ilvl
    obtain ⟨same_level,same_start⟩ := Prod.mk.inj (Option.some.inj restart)
    exact ⟨same_level.trans (Int.repr_inj.mp own).symm,same_start⟩
  · rintro ⟨level,rfl⟩
    refine ⟨_,_,e.ref.level,marked,rfl,List.mem_of_getElem? written,?_,?_⟩
    · exact ⟨toString (firstCounter + place),rfl,NumberingInstance.toXml_id _ _⟩
    · rw [NumberingInstance.toXml_overrides,restarts,level]

/-- Where the first item of an ordered list opens its counter, another item of the list counts there
unless something in between opens another one. -/
theorem later_startsAt_iff {left between after : List CountedItem} {first e : CountedItem}
    {start n : Int} (split : doc.documentItems = left ++ first :: (between ++ e :: after))
    (first_ref : first.ref = itemRef 0 true (some start)) (e_ref : e.ref = itemRef 0 true none)
    (deep : ∀ x ∈ between, x.opens = true → 1 ≤ x.ref.level) :
    package.StartsAt (left.length + (between.length + 1)) n ↔
      start = n ∧ ∀ x ∈ between, x.opens = false := by
  have e_quiet : e.opens = false := by rw [CountedItem.opens,e_ref,itemRef_opens]; rfl
  have e_reference : e.ref.reference = orderedReference := by rw [e_ref]; rfl
  obtain quiet | ⟨inner,opener,rest,rfl,opens,quiet⟩ := split_at_last CountedItem.opens between
  · have first_opens : first.opens = true := by rw [CountedItem.opens,first_ref,itemRef_opens]; rfl
    have counts : package.StartsAt (left.length + (between ++ [e]).length) n ↔
        first.ref.level = e.ref.level ∧ start = n :=
      startsAt_iff encoded
        (show doc.documentItems = left ++ first :: ((between ++ [e]) ++ after) by simp [split])
        (@List.getLast?_concat _ (first :: between) e) first_opens (by rw [first_ref]; rfl) e_reference
        (List.forall_mem_append.mpr ⟨quiet,List.forall_mem_singleton.mpr e_quiet⟩)
    rw [List.length_append,List.length_singleton] at counts
    rw [counts,first_ref,e_ref]
    exact ⟨fun same => ⟨same.2,quiet⟩,fun same => ⟨rfl,same.1⟩⟩
  · obtain ⟨opened,starts⟩ : ∃ opened, opener.ref.start = some opened := by
      simp only [CountedItem.opens,NumberingRef.opensFor,NumberingRef.opens,
        Bool.and_eq_true] at opens
      exact Option.isSome_iff_exists.mp opens.1
    have counts : package.StartsAt ((left ++ first :: inner).length + (rest ++ [e]).length) n ↔
        opener.ref.level = e.ref.level ∧ opened = n :=
      startsAt_iff encoded (show doc.documentItems =
          (left ++ first :: inner) ++ opener :: ((rest ++ [e]) ++ after) by simp [split])
        (@List.getLast?_concat _ (opener :: rest) e) opens starts e_reference
        (List.forall_mem_append.mpr ⟨quiet,List.forall_mem_singleton.mpr e_quiet⟩)
    have place : (left ++ first :: inner).length + (rest ++ [e]).length =
        left.length + ((inner ++ opener :: rest).length + 1) := by
      simp only [List.length_append,List.length_cons,List.length_nil]
      omega
    have below := deep opener (by simp) opens
    rw [place] at counts
    rw [counts,e_ref]
    constructor
    · rintro ⟨level,_⟩
      rw [level] at below
      exact absurd below (by decide)
    · rintro ⟨_,all⟩
      exact absurd opens (by simp [all opener])

theorem first_startsAt_iff {path : List Nat} {before : List Node} {left behind : List CountedItem}
    {start n : Int} (uncounted : ∀ m ∈ before, m.isCounted = false)
    (split : doc.documentItems = (left ++ listItems 0 true (some start) path 0 before) ++
      ⟨path,0 + before.length,itemRef 0 true (pending (some start) before)⟩ :: behind) :
    package.StartsAt (left ++ listItems 0 true (some start) path 0 before).length n ↔ start = n := by
  rw [pending_of_uncounted uncounted] at split
  let ahead := left ++ listItems 0 true (some start) path 0 before
  let e : CountedItem := ⟨path,0 + before.length,itemRef 0 true (some start)⟩
  have opens : e.opens = true := (itemRef_opens 0 true (some start)).trans rfl
  have counts : package.StartsAt (ahead.length + ([] : List CountedItem).length) n ↔
      e.ref.level = e.ref.level ∧ start = n :=
    startsAt_iff encoded (show doc.documentItems = ahead ++ e :: ([] ++ behind) from split) rfl opens
      rfl rfl (List.forall_mem_nil _)
  exact counts.trans (and_iff_right rfl)

theorem next_startsAt_iff {path : List Nat} {first others : List Node} {d : Node}
    {left behind : List CountedItem} {start n : Int} (uncounted : ∀ m ∈ first, m.isCounted = false)
    (counted : d.isCounted = true)
    (split : doc.documentItems = (left ++ listItems 0 true (some start) path 0 (first ++ d :: others)) ++
      ⟨path,0 + (first ++ d :: others).length,
        itemRef 0 true (pending (some start) (first ++ d :: others))⟩ :: behind) :
    package.StartsAt (left ++ listItems 0 true (some start) path 0 (first ++ d :: others)).length n ↔
      start = n ∧ ∀ m ∈ d :: others, m.childReopens true = false := by
  have used : pending (some start) (first ++ d :: others) = none := by simp [pending,counted]
  rw [used,listItems_first uncounted counted] at split
  rw [listItems_first uncounted counted]
  let inner := d.childItems (some ⟨0,true⟩) (path ++ [0 + first.length]) ++
    listItems 0 true none path (0 + first.length + 1) others
  let ahead := left ++ listItems 0 true (some start) path 0 first
  have whole : doc.documentItems = ahead ++ ⟨path,0 + first.length,itemRef 0 true (some start)⟩ ::
      (inner ++ ⟨path,0 + (first ++ d :: others).length,itemRef 0 true none⟩ :: behind) := by
    simp only [split,ahead,inner,List.append_assoc,List.cons_append]
  have counts : package.StartsAt (ahead.length + (inner.length + 1)) n ↔
      start = n ∧ ∀ x ∈ inner, x.opens = false :=
    later_startsAt_iff encoded whole rfl rfl fun x member opens => inner_opener_deep member opens
  have quiet : (∀ x ∈ inner, x.opens = false) ↔
      ∀ m ∈ d :: others, m.childReopens true = false := by
    rw [List.forall_mem_append,List.forall_mem_cons,childItems_quiet,listItems_quiet]
  rw [← quiet,← counts]
  simp [ahead,inner,Nat.add_assoc]

/-- An item of an ordered list that no list surrounds counts from the start of the list, unless
something between the first counted item and it opens another counter. -/
theorem Reached.item_startsAt_iff {path : List Nat} {p : NodeProps} {before after : List Node}
    {item : Node} (reached : doc.Reached path (mk .list p (before ++ item :: after)) none)
    (ordered : p.ordered = true) (counted : item.isCounted = true) :
    ∃ k e, doc.documentItems[k]? = some e ∧ e.list = path ∧ e.place = before.length ∧
      ∀ n, package.StartsAt k n ↔ p.start = n ∧
        ∀ d ∈ before.dropWhile (! ·.isCounted), d.childReopens true = false := by
  obtain ⟨left,behind,split⟩ := reached.split_at_item ordered counted
  have found : doc.documentItems[(left ++ listItems 0 true (some p.start) path 0 before).length]? =
      some ⟨path,0 + before.length,itemRef 0 true (pending (some p.start) before)⟩ := by simp [split]
  refine ⟨_,_,found,rfl,Nat.zero_add _,fun n => ?_⟩
  cases earlier : before.find? isCounted with
  | none =>
    have uncounted : ∀ m ∈ before, m.isCounted = false := by
      simpa using List.find?_eq_none.mp earlier
    rw [first_startsAt_iff encoded uncounted split,
      List.dropWhile_eq_nil_iff.mpr (by simpa using uncounted)]
    simp
  | some d =>
    obtain ⟨d_counted,first,others,rfl,uncounted⟩ := List.find?_eq_some_iff_append.mp earlier
    rw [next_startsAt_iff encoded (by simpa using uncounted) d_counted split,
      List.dropWhile_append_of_pos (by simpa using uncounted),
      List.dropWhile_cons_of_neg (by simp [d_counted])]

end

end Node

namespace Token

open Node

/-- A token stands among some blocks, or among those of a quote among them; with the way to its
node. -/
inductive StandsAt (t : Token) : List Token → List Nat → Prop
  | here {before after : List Token} : StandsAt t (before ++ t :: after) [(nodes before).length]
  | quoted {before after items : List Token} {attrs : TokenAttrs} {older : OlderKeys}
      {raw text : Payload} {shown : String} {path : List Nat} (inside : StandsAt t items path) :
      StandsAt t (before ++ mk "block_quote" attrs older raw text (.tokens items shown) :: after)
        ((nodes before).length :: path)

theorem nodes_getElem? {before after : List Token} {t : Token} {n : Node} (becomes : t.node? = some n) :
    (nodes (before ++ t :: after))[(nodes before).length]? = some n := by
  simp [nodes_eq,becomes]

variable {tokens : List Token} {path : List Nat}

/-- What a token becomes is reached with no list around it, where the blocks around it are. -/
theorem StandsAt.reached_below {doc : Node} {way : List Nat} {t : Token} {n : Node}
    (stands : t.StandsAt tokens path) (becomes : t.node? = some n)
    (around : ∀ i m, (nodes tokens)[i]? = some m → doc.Reached (way ++ [i]) m none) :
    doc.Reached (way ++ path) n none := by
  induction stands generalizing way with
  | here => exact around _ _ (nodes_getElem? becomes)
  | @quoted before _ _ _ _ _ _ _ path inside ih =>
    have quote := around _ _ (nodes_getElem? (by rw [node?]))
    rw [show way ++ (nodes before).length :: path = way ++ [(nodes before).length] ++ path by simp]
    exact ih fun i m found => .blockquote quote (by rwa [nodesBelow])

theorem StandsAt.reached {t : Token} {n : Node} (stands : t.StandsAt tokens path)
    (becomes : t.node? = some n) : (Node.ofChildren .document (nodes tokens)).Reached path n none := by
  have below : (Node.ofChildren .document (nodes tokens)).Reached ([] ++ path) n none :=
    stands.reached_below becomes fun _ _ found => .root found
  rwa [List.nil_append] at below

theorem listProps_start (attrs : TokenAttrs) :
    (listProps attrs).start = attrs.start.toOption.getD 1 ↔ attrs.start.toOption.getD 1 ≠ 0 := by
  unfold listProps
  cases attrs.start.toOption with
  | none => simp
  | some n => by_cases zero : n = 0 <;> simp [zero]

/-- The paragraph of an item of an ordered list that no list surrounds points to a counter that starts
where the token says, if that is not zero and nothing between the first item that counts and this one
opens another counter. -/
theorem orderedList_start_iff {c : StyleConfig} {images : ImageCache} {title : String}
    {package : Package} {attrs : TokenAttrs} {older : OlderKeys} {raw text children : Payload}
    {before after : List Node} {item : Node}
    (encoded : (encode (assemble ((Node.ofChildren .document (nodes tokens)).documentBlocks c images)
      c title)).result = .ok package)
    (stands : (mk "list" attrs older raw text children).StandsAt tokens path)
    (ordered : attrs.ordered = true) (items : rowBelow children = before ++ item :: after)
    (counted : item.isCounted = true) :
    ∃ k e, (Node.ofChildren .document (nodes tokens)).documentItems[k]? = some e ∧ e.list = path ∧
      e.place = before.length ∧
      (package.StartsAt k (attrs.start.toOption.getD 1) ↔ attrs.start.toOption.getD 1 ≠ 0 ∧
        ∀ d ∈ before.dropWhile (! ·.isCounted), d.childReopens true = false) := by
  have becomes : (mk "list" attrs older raw text children).node? =
      some (.mk .list (listProps attrs) (before ++ item :: after)) := by rw [node?,items]
  obtain ⟨k,e,found,own,place,starts⟩ :=
    (stands.reached becomes).item_startsAt_iff encoded ordered counted
  exact ⟨k,e,found,own,place,by rw [starts,listProps_start]⟩

/-- A token with these tokens below it, and no text of its own. -/
def holding (kind : String) (items : List Token) : Token :=
  mk kind {} {} .absent .absent (.tokens items "")

/-- A task, an item without a line, one that holds a bullet list, and one with a line. -/
def mixedItems : List Token :=
  [holding "task_list_item" [holding "block_text" []],holding "list_item" [],
    holding "list_item" [holding "list" [holding "list_item" []]],
    holding "list_item" [holding "block_text" []]]

def sevenList : Token :=
  mk "list" { ordered := true, start := .given 7 } {} .absent .absent (.tokens mixedItems "")

def quotedList : List Token := [holding "block_quote" [sevenList]]

theorem quotedList_start :
    ∃ package k e, (encode (assemble ((Node.ofChildren .document (nodes quotedList)).documentBlocks
        {} []) {} "")).result = .ok package ∧
      (Node.ofChildren .document (nodes quotedList)).documentItems[k]? = some e ∧
      e.list = [0,0] ∧ e.place = 3 ∧ package.StartsAt k 7 := by
  obtain ⟨package,encoded⟩ := Build.encoded_of_isOk
    (m := assemble ((Node.ofChildren .document (nodes quotedList)).documentBlocks {} []) {} "")
    (by decide +kernel)
  have within : sevenList.StandsAt [sevenList] [0] := @StandsAt.here _ [] []
  have stands : sevenList.StandsAt quotedList [0,0] :=
    @StandsAt.quoted _ [] [] _ {} {} .absent .absent "" _ within
  have items : rowBelow (.tokens mixedItems "") = [_,_,_] ++ _ :: [] := rfl
  obtain ⟨k,e,found,own,place,starts⟩ := orderedList_start_iff encoded stands rfl items (by decide)
  exact ⟨package,k,e,encoded,found,own,place,starts.mpr (by decide)⟩

/-- The paragraph of an item of an ordered list, which is all there is, does not point to a counter
that starts where the token says. -/
def StartsElsewhere (attrs : TokenAttrs) (items : List Token) (place : Nat) : Prop :=
  let doc := Node.ofChildren .document (nodes [mk "list" attrs {} .absent .absent (.tokens items "")])
  ∃ package k e, (encode (assemble (doc.documentBlocks {} []) {} "")).result = .ok package ∧
    doc.documentItems[k]? = some e ∧ e.list = [0] ∧ e.place = place ∧
    ¬ package.StartsAt k (attrs.start.toOption.getD 1)

theorem startsElsewhere_of {attrs : TokenAttrs} {items : List Token} {before after : List Node}
    {item : Node} (ordered : attrs.ordered = true) (split : nodes items = before ++ item :: after)
    (counted : item.isCounted = true)
    (fine : (encode (assemble ((Node.ofChildren .document (nodes [mk "list" attrs {} .absent .absent
      (.tokens items "")])).documentBlocks {} []) {} "")).result.isOk)
    (breaks : attrs.start.toOption.getD 1 = 0 ∨
      ∃ d ∈ before.dropWhile (! ·.isCounted), d.childReopens true = true) :
    StartsElsewhere attrs items before.length := by
  obtain ⟨package,encoded⟩ := Build.encoded_of_isOk fine
  have becomes : (mk "list" attrs {} .absent .absent (.tokens items "")).node? =
      some (.mk .list (listProps attrs) (before ++ item :: after)) := by rw [node?,rowBelow,split]
  obtain ⟨k,e,found,own,place,starts⟩ :=
    ((@StandsAt.here _ [] []).reached becomes).item_startsAt_iff encoded ordered counted
  refine ⟨package,k,e,encoded,found,own,place,fun there => ?_⟩
  obtain ⟨same,quiet⟩ := (starts _).mp there
  rcases breaks with zero | ⟨d,member,reopens⟩
  · exact (listProps_start attrs).mp same zero
  · exact absurd reopens (by simp [quiet d member])

/-- A list from zero starts at one, and behind an item without a line a list in a list opens another
counter for the item after it. -/
theorem orderedList_startsElsewhere :
    StartsElsewhere { ordered := true, start := .given 0 }
      [holding "list_item" [holding "block_text" []]] 0 ∧
    StartsElsewhere { ordered := true, start := .given 3 }
      [holding "list_item" [],
        holding "list_item" [holding "list" [holding "list_item" [
          mk "list" { ordered := true } {} .absent .absent
            (.tokens [holding "list_item" [holding "block_text" []]] "")]]],
        holding "list_item" [holding "block_text" []]] 2 := by
  refine ⟨?_,?_⟩
  · exact @startsElsewhere_of _ _ [] [] _ rfl rfl (by decide) (by decide +kernel) (.inl rfl)
  · exact @startsElsewhere_of _ _ [_,_] [] _ rfl rfl (by decide) (by decide +kernel)
      (.inr (by decide))

end Token

end DocPress
