import Mathlib.Data.List.Basic
import DocPress.Proofs.Style.Valid

/-! One configuration laid over another, setting by setting. Main statements: a setting of the result
is what the upper one makes of it, or else that of the lower one (`get_merge`), so that a resolved
configuration comes out as it is, whatever it is laid over (`resolve_fixed`). -/

namespace DocPress

namespace Text

theorem trimWhile_of_trimmed {s : String} (trimmed : isTrimmed s) :
    trimWhile isBlank s.toList = s.toList := by
  obtain ⟨first,last⟩ : s.toList.head?.all (! isBlank ·) ∧ s.toList.getLast?.all (! isBlank ·) := by
    simpa only [isTrimmed,Bool.and_eq_true] using trimmed
  have front : s.toList.dropWhile isBlank = s.toList := by
    cases chars : s.toList with
    | nil => rfl
    | cons c cs =>
      rw [chars] at first
      exact List.dropWhile_cons_of_neg (by simpa using first)
  have back : s.toList.reverse.dropWhile isBlank = s.toList.reverse := by
    cases chars : s.toList.reverse with
    | nil => rfl
    | cons c cs =>
      rw [← List.head?_reverse,chars] at last
      exact List.dropWhile_cons_of_neg (by simpa using last)
  rw [trimWhile,front,dropEndWhile,back,List.reverse_reverse]

theorem trim_of_trimmed {s : String} (trimmed : isTrimmed s) : trim s = s := by
  rw [trim,trimWhile_of_trimmed trimmed,String.ofList_toList]

end Text

/-! ### What a setting takes back -/

namespace LeafKind

theorem font?_of_holds {name : String} (holds : font.Holds name) : font? name = some name := by
  obtain ⟨there,trimmed⟩ := holds
  unfold font?
  rw [Text.trim_of_trimmed trimmed]
  simpa using there

/-- A capital digit of base sixteen is read as it is. -/
theorem capital_isHexDigit {c : Char} (digit : Text.isCapitalHex c) :
    isHexDigit c ∧ c.toUpper = c ∧ Text.isBlank c = false ∧ c ≠ '#' := by
  have table : "0123456789ABCDEF".toList.all fun c =>
      isHexDigit c ∧ c.toUpper = c ∧ Text.isBlank c = false ∧ c ≠ '#' := by decide +kernel
  have read := List.all_eq_true.mp table c (List.contains_iff_mem.mp digit)
  exact of_decide_eq_true read

theorem color?_of_holds {s : String} (holds : color.Holds s) : color? s = some s := by
  obtain ⟨six,capital⟩ : s.toList.length = 6 ∧ s.toList.all Text.isCapitalHex := by
    simpa only [Holds,isColor,decide_eq_true_eq] using holds
  have digit (c : Char) (member : c ∈ s.toList) := capital_isHexDigit (List.all_eq_true.mp capital c member)
  have trimmed : Text.isTrimmed s := by
    unfold Text.isTrimmed
    rw [Bool.and_eq_true,Option.all_eq_true,Option.all_eq_true]
    refine ⟨fun c first => ?_,fun c last => ?_⟩
    · rw [(digit c (List.mem_of_head? first)).2.2.1]
      rfl
    · rw [(digit c (List.mem_of_getLast? last)).2.2.1]
      rfl
  have unmarked : s.toList.head? ≠ some '#' := fun first =>
    (digit '#' (List.mem_of_head? first)).2.2.2 rfl
  have hex : s.toList.all isHexDigit :=
    List.all_eq_true.mpr fun c member => (digit c member).1
  have same : s.toList.map Char.toUpper = s.toList :=
    (List.map_congr_left fun c member => (digit c member).2.1).trans (List.map_id _)
  unfold color?
  rw [Text.trimWhile_of_trimmed trimmed]
  simp [unmarked,six,hex,same]

theorem size?_of_holds {n : Nat} (holds : size.Holds n) : size? n = some n := by
  obtain ⟨above,below⟩ : 0 < n ∧ n ≤ maxSize := holds
  unfold size?
  rw [if_pos (by omega),Int.toNat_natCast]

/-- What a setting may hold it takes when it is written out. -/
theorem coerce_toValue {kind : LeafKind} {v : kind.Content} (holds : kind.Holds v) :
    kind.coerce (kind.toValue v) = some v := by
  cases kind with
  | font => exact font?_of_holds holds
  | color => exact color?_of_holds holds
  | size => exact size?_of_holds holds
  | flag => rfl

end LeafKind

/-! ### Setting by setting -/

/-- The configuration with another value for a setting, if there is one. -/
def Leaf.lay (leaf : Leaf) (v : Option leaf.kind.Content) (c : StyleConfig) : StyleConfig :=
  match v with
  | some v => leaf.set c v
  | none => c

/-- What a partial configuration makes of a setting of a group. -/
def Section.found? (s : Section) (leaf : Leaf) (settings : Value) : Option leaf.kind.Content :=
  ((settings.fields?.bind s.given?).bind Value.fields?).bind leaf.accepted?

namespace StyleConfig

theorem get_lay_other {a b : Leaf} (apart : a.Independent b) (v : Option a.kind.Content)
    (c : StyleConfig) : b.get (a.lay v c) = b.get c := by
  cases v with
  | none => rfl
  | some v => exact apart.1 c v

theorem get_lay {leaf : Leaf} (member : leaf ∈ leaves) (v : Option leaf.kind.Content)
    (c : StyleConfig) : leaf.get (leaf.lay v c) = v.getD (leaf.get c) := by
  cases v with
  | none => rfl
  | some v => exact get_set leaf member c v

variable {α : Type} {items : List α} {leaf : α → Leaf}
  {found : (a : α) → Option (leaf a).kind.Content}

theorem get_foldl_other {b : Leaf} (apart : ∀ a ∈ items, (leaf a).Independent b) (c : StyleConfig) :
    b.get (items.foldl (fun c a => (leaf a).lay (found a) c) c) = b.get c := by
  induction items generalizing c with
  | nil => rfl
  | cons a items ih =>
    obtain ⟨first,rest⟩ := List.forall_mem_cons.mp apart
    rw [List.foldl_cons,ih rest,get_lay_other first]

/-- Where each setting is laid once, it holds what is laid for it, if anything is. -/
theorem get_foldl (known : ∀ a ∈ items, leaf a ∈ leaves)
    (apart : items.Pairwise fun a b => (leaf a).Independent (leaf b)) {a : α} (member : a ∈ items)
    (c : StyleConfig) :
    (leaf a).get (items.foldl (fun c a => (leaf a).lay (found a) c) c) =
      (found a).getD ((leaf a).get c) := by
  induction items generalizing c with
  | nil => cases member
  | cons b items ih =>
    obtain ⟨first,rest⟩ := List.forall_mem_cons.mp known
    obtain ⟨others,further⟩ := List.pairwise_cons.mp apart
    rw [List.foldl_cons]
    obtain rfl | later := List.mem_cons.mp member
    · have behind : ∀ b ∈ items, (leaf b).Independent (leaf a) := fun b inside =>
        ⟨(others b inside).2,(others b inside).1⟩
      rw [get_foldl_other behind,get_lay first]
    · rw [ih rest further later,get_lay_other (others a later)]

/-- All settings, each with the group that it belongs to. -/
def places : List (Section × Leaf) := sections.flatMap fun s => s.leaves.map (s,·)

theorem places_leaves : places.map Prod.snd = leaves := by
  simp [places,leaves,List.map_flatMap,Function.comp_def]

theorem mem_places {s : Section} {leaf : Leaf} (known : s ∈ sections) (member : leaf ∈ s.leaves) :
    (s,leaf) ∈ places :=
  List.mem_flatMap.mpr ⟨s,known,List.mem_map_of_mem member⟩

theorem section_apply_eq (s : Section) {settings : Value} {fields : List (String × Value)}
    (object : settings.fields? = some fields) (c : StyleConfig) :
    s.apply fields c = s.leaves.foldl (fun c leaf => leaf.lay (s.found? leaf settings) c) c := by
  unfold Section.apply
  cases given : (s.given? fields).bind Value.fields? with
  | none =>
    have skipped (leaf : Leaf) : s.found? leaf settings = none := by
      simp [Section.found?,object,given]
    simp only [skipped,Leaf.lay]
    exact (List.foldl_fixed s.leaves).symm
  | some group =>
    have taken (leaf : Leaf) : s.found? leaf settings = leaf.accepted? group := by
      simp [Section.found?,object,given]
    simp only [taken]
    rfl

theorem merge_eq (base : StyleConfig) (settings : Value) :
    base.merge settings =
      places.foldl (fun c place => place.2.lay (place.1.found? place.2 settings) c) base := by
  unfold merge
  cases object : settings.fields? with
  | none =>
    have skipped (place : Section × Leaf) : place.1.found? place.2 settings = none := by
      simp [Section.found?,object]
    simp only [skipped,Leaf.lay]
    exact (List.foldl_fixed places).symm
  | some fields =>
    simp only [section_apply_eq _ object,places,List.foldl_flatMap,List.foldl_map]

/-- A setting of a configuration with another one laid over it depends on no other setting. -/
theorem get_merge (base : StyleConfig) (settings : Value) {s : Section} {leaf : Leaf}
    (known : s ∈ sections) (member : leaf ∈ s.leaves) :
    leaf.get (base.merge settings) = (s.found? leaf settings).getD (leaf.get base) := by
  have apart : places.Pairwise fun a b => a.2.Independent b.2 := by
    rw [← List.pairwise_map,places_leaves]
    exact leaves_independent
  have leaves_known : ∀ place ∈ places, place.2 ∈ leaves := fun place there => by
    rw [← places_leaves]
    exact List.mem_map_of_mem there
  rw [merge_eq]
  exact get_foldl leaves_known apart (mem_places known member) base

/-! ### Written out and laid over -/

/-- Under either spelling an item is found again, where no name is the other spelling of another item. -/
theorem lookupEither_named {items : List α} {name camelName : α → String} {f : α → Value}
    (distinct : (items.map camelName).Nodup)
    (own : ∀ a ∈ items, name a ∈ items.map camelName → name a = camelName a) {a : α}
    (member : a ∈ items) :
    lookupEither (items.map fun a => (camelName a,f a)) (name a) (camelName a) = some (f a) := by
  have named : (items.map fun a => (camelName a,f a)).lookup (camelName a) = some (f a) := by
    clear own
    induction items with
    | nil => cases member
    | cons b items ih =>
      obtain ⟨fresh,rest⟩ := List.nodup_cons.mp distinct
      rw [List.map_cons,List.lookup_cons]
      obtain rfl | later := List.mem_cons.mp member
      · simp
      · have other : (camelName a == camelName b) = false :=
          beq_false_of_ne fun same => fresh (same ▸ List.mem_map_of_mem later)
        rw [other,ih rest later]
  unfold lookupEither
  cases other : (items.map fun a => (camelName a,f a)).lookup (name a) with
  | none => exact named
  | some v =>
    have there : name a ∈ items.map camelName := by
      obtain ⟨before,after,split,_⟩ := List.lookup_eq_some_iff.mp other
      have keys := congrArg (List.map Prod.fst) split
      have inside : name a ∈ (items.map fun a => (camelName a,f a)).map Prod.fst := by
        rw [keys]
        simp
      simpa using inside
    rw [own a member there,named] at other
    exact other.symm

theorem sections_named : (sections.map Section.camelName).Nodup ∧
    (∀ s ∈ sections, s.name ∈ sections.map Section.camelName → s.name = s.camelName) ∧
    ∀ s ∈ sections, (s.leaves.map Leaf.camelName).Nodup ∧
      ∀ leaf ∈ s.leaves, leaf.name ∈ s.leaves.map Leaf.camelName → leaf.name = leaf.camelName := by
  decide +kernel

/-- A valid configuration written out says of each setting what it holds. -/
theorem found?_toValue {c : StyleConfig} (valid : c.Valid) {s : Section} {leaf : Leaf}
    (known : s ∈ sections) (member : leaf ∈ s.leaves) :
    s.found? leaf c.toValue = some (leaf.get c) := by
  obtain ⟨sections_distinct,sections_own,inside⟩ := sections_named
  obtain ⟨leaves_distinct,leaves_own⟩ := inside s known
  have group : (c.toValue.fields?.bind s.given?).bind Value.fields? =
      some (s.leaves.map fun leaf => (leaf.camelName,leaf.kind.toValue (leaf.get c))) := by
    rw [toValue,Value.fields?,Option.bind_some,Section.given?,
      lookupEither_named sections_distinct sections_own known]
    rfl
  have setting : leaf.given? (s.leaves.map fun leaf =>
      (leaf.camelName,leaf.kind.toValue (leaf.get c))) = some (leaf.kind.toValue (leaf.get c)) :=
    lookupEither_named leaves_distinct leaves_own member
  have holds := valid leaf (List.mem_flatMap.mpr ⟨s,known,member⟩)
  rw [Section.found?,group,Option.bind_some,Leaf.accepted?,setting,Option.bind_some,
    LeafKind.coerce_toValue holds]

/-- A configuration is made up of its settings. -/
theorem ext_leaves {c d : StyleConfig} (same : ∀ leaf ∈ leaves, leaf.get c = leaf.get d) : c = d := by
  obtain ⟨⟨_,_,_⟩,⟨_,_,_,_,_,_,_,_,_,_⟩,⟨_,_,_,_,_,_,_,_⟩,
    ⟨_,_⟩,⟨_,_⟩,⟨_⟩,⟨_,_,_,_⟩,⟨_,_,_⟩,⟨_⟩⟩ := c
  obtain ⟨⟨_,_,_⟩,⟨_,_,_,_,_,_,_,_,_,_⟩,⟨_,_,_,_,_,_,_,_⟩,
    ⟨_,_⟩,⟨_,_⟩,⟨_⟩,⟨_,_,_,_⟩,⟨_,_,_⟩,⟨_⟩⟩ := d
  simpa [leaves,sections,and_assoc] using same

theorem merge_toValue {c : StyleConfig} (valid : c.Valid) (base : StyleConfig) :
    base.merge c.toValue = c := by
  refine ext_leaves fun leaf member => ?_
  obtain ⟨s,known,inside⟩ := List.mem_flatMap.mp member
  rw [get_merge base c.toValue known inside,found?_toValue valid known inside,Option.getD_some]

/-- A resolved configuration is what it is resolved to again, over any preset, be it given as it is or
written out. -/
theorem resolve_fixed (settings : Value) (preset other : Option Preset) :
    (resolve settings preset).resolveAgain other = resolve settings preset ∧
      resolve (resolve settings preset).toValue other = resolve settings preset := by
  have kept : resolve (resolve settings preset).toValue other = resolve settings preset :=
    merge_toValue (resolve_valid settings preset) (ofPreset other)
  exact ⟨kept,kept⟩

end StyleConfig

end DocPress
