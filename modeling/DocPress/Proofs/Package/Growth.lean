import DocPress.Package.Encode

/-! How the numbering part of a document grows. Whatever a new document has in it, the families that are
added come one after the other behind its own and in front of all counters, and the counters that are
added come one after the other behind its own; and their numbers go on from the greatest ones there.
Main statements: one addition to a part that has grown (`addFamily_grown`, `addCounter_grown`). -/

namespace DocPress

open NumberingPart NumberingEntry

theorem mapIdx_eq_range' {α : Type} (items : List α) (first : Nat) :
    (items.mapIdx fun i _ => first + i) = List.range' first items.length :=
  List.ext_getElem (by simp) (by simp)

/-- Items that are not marked are passed over. -/
theorem insertBefore_append {α : Type} {marked : α → Bool} {a : α} {front back : List α}
    (passed : ∀ b ∈ front, marked b = false) :
    insertBefore marked a (front ++ back) = front ++ insertBefore marked a back := by
  have pass : ∀ b ∈ front, (! marked b) = true := fun b member => by simp [passed b member]
  rw [insertBefore,List.takeWhile_append_of_pos pass,List.dropWhile_append_of_pos pass,
    List.append_assoc]
  rfl

theorem insertBefore_of_head {α : Type} {marked : α → Bool} {a : α} {items : List α}
    (first : ∀ b ∈ items.head?, marked b = true) : insertBefore marked a items = a :: items := by
  cases items with
  | nil => rfl
  | cons b items => simp [insertBefore,first b rfl]

def NumberingEntry.instance? : NumberingEntry → Option NumberingInstance
  | counter _ n => some n
  | _ => none

namespace NumberingTemplate

def addedFamilies (definitions : List NumberingDefinition) : NumberingPart :=
  definitions.mapIdx fun i d => .family (firstFamily + i) d.content

def addedCounters (counters : List NumberingInstance) : NumberingPart :=
  counters.mapIdx fun i n => .counter (firstCounter + i) n

theorem map_addedFamilies {α : Type} (f : NumberingEntry → α) (definitions : List NumberingDefinition) :
    (addedFamilies definitions).map f =
      definitions.mapIdx fun i d => f (.family (firstFamily + i) d.content) := by
  simp [addedFamilies,List.mapIdx_eq_zipIdx_map]

theorem map_addedCounters {α : Type} (f : NumberingEntry → α) (counters : List NumberingInstance) :
    (addedCounters counters).map f = counters.mapIdx fun i n => f (.counter (firstCounter + i) n) := by
  simp [addedCounters,List.mapIdx_eq_zipIdx_map]

/-- The part after some definitions and some counters have been added. -/
def grown (t : NumberingTemplate) (definitions : List NumberingDefinition)
    (counters : List NumberingInstance) : NumberingPart :=
  (t.familyEntries ++ addedFamilies definitions) ++ ((t.counterEntries ++ addedCounters counters) ++
    t.lastEntries)

variable {t : NumberingTemplate} {definitions : List NumberingDefinition}
  {counters : List NumberingInstance} {e : NumberingEntry}

theorem part_eq : t.part = t.grown [] [] := by simp [part,grown,addedFamilies,addedCounters]

/-! ### Entries -/

theorem mem_families (member : e ∈ t.familyEntries ++ addedFamilies definitions) :
    ∃ id content, e = .family id content := by
  obtain own | added := List.mem_append.mp member
  · obtain ⟨f,_,rfl⟩ := List.mem_map.mp own
    exact ⟨f.1,f.2,rfl⟩
  · obtain ⟨i,_,rfl⟩ := List.mem_mapIdx.mp added
    exact ⟨_,_,rfl⟩

theorem mem_counters (member : e ∈ t.counterEntries ++ addedCounters counters) :
    ∃ id n, e = .counter id n := by
  obtain own | added := List.mem_append.mp member
  · obtain ⟨c,_,rfl⟩ := List.mem_map.mp own
    exact ⟨c.1,c.2,rfl⟩
  · obtain ⟨i,_,rfl⟩ := List.mem_mapIdx.mp added
    exact ⟨_,_,rfl⟩

theorem mem_last (member : e ∈ t.lastEntries) : ∃ id, e = .cleanup id := by
  obtain ⟨id,_,same⟩ := Option.map_eq_some_iff.mp (Option.mem_toList.mp member)
  exact ⟨id,same.symm⟩

/-! ### Numbers -/

theorem families_ids : (t.familyEntries ++ addedFamilies definitions).filterMap familyId? =
    t.families.map Prod.fst ++ List.range' firstFamily definitions.length := by
  rw [List.filterMap_append,← mapIdx_eq_range']
  simp [familyEntries,addedFamilies,List.mapIdx_eq_zipIdx_map,List.filterMap_map,Function.comp_def,
    familyId?]

theorem counters_ids : (t.counterEntries ++ addedCounters counters).filterMap counterId? =
    t.counters.map Prod.fst ++ List.range' firstCounter counters.length := by
  rw [List.filterMap_append,← mapIdx_eq_range']
  simp [counterEntries,addedCounters,List.mapIdx_eq_zipIdx_map,List.filterMap_map,Function.comp_def,
    counterId?]

theorem grown_familyIds : (t.grown definitions counters).filterMap familyId? =
    t.families.map Prod.fst ++ List.range' firstFamily definitions.length := by
  have rest : ((t.counterEntries ++ addedCounters counters) ++ t.lastEntries).filterMap familyId? =
      [] := by
    refine List.filterMap_eq_nil_iff.mpr (List.forall_mem_append.mpr ⟨fun e member => ?_,
      fun e member => ?_⟩)
    · obtain ⟨id,n,rfl⟩ := mem_counters member
      rfl
    · obtain ⟨id,rfl⟩ := mem_last member
      rfl
  rw [grown,List.filterMap_append,families_ids,rest,List.append_nil]

theorem grown_counterIds : (t.grown definitions counters).filterMap counterId? =
    t.counters.map Prod.fst ++ List.range' firstCounter counters.length := by
  have families : (t.familyEntries ++ addedFamilies definitions).filterMap counterId? = [] := by
    refine List.filterMap_eq_nil_iff.mpr fun e member => ?_
    obtain ⟨id,content,rfl⟩ := mem_families member
    rfl
  have last : t.lastEntries.filterMap counterId? = [] := by
    refine List.filterMap_eq_nil_iff.mpr fun e member => ?_
    obtain ⟨id,rfl⟩ := mem_last member
    rfl
  rw [grown,List.filterMap_append,families,List.filterMap_append,counters_ids,last,List.append_nil,
    List.nil_append]

/-- The numbers of families are those below the next one. -/
theorem grown_familyIds_perm (t : NumberingTemplate) (definitions : List NumberingDefinition)
    (counters : List NumberingInstance) : ((t.grown definitions counters).filterMap familyId?).Perm
    (List.range (firstFamily + definitions.length)) := by
  rw [grown_familyIds,List.range_eq_range',← List.range'_append,← List.range_eq_range']
  simpa using t.family_ids.append_right _

/-- The numbers of counters are those from one on to the one before the next one. -/
theorem grown_counterIds_perm (t : NumberingTemplate) (definitions : List NumberingDefinition)
    (counters : List NumberingInstance) : ((t.grown definitions counters).filterMap counterId?).Perm
    (List.range' 1 (firstCounter - 1 + counters.length)) := by
  rw [grown_counterIds,← List.range'_append]
  exact t.counter_ids.append_right _

theorem nextFamily_grown : (t.grown definitions counters).nextFamily =
    firstFamily + definitions.length := by
  have all := t.grown_familyIds_perm definitions counters
  have greatest : ((t.grown definitions counters).filterMap familyId?).max? =
      some (firstFamily + definitions.length - 1) := by
    refine List.max?_eq_some_iff.mpr ⟨all.mem_iff.mpr ?_,fun id member => ?_⟩
    · exact List.mem_range.mpr (Nat.sub_lt (Nat.add_pos_left (by decide) _) Nat.one_pos)
    · exact Nat.le_sub_one_of_lt (List.mem_range.mp (all.mem_iff.mp member))
  rw [nextFamily,greatest]
  exact Nat.sub_add_cancel (Nat.le_add_right_of_le (by decide))

theorem nextCounter_grown : (t.grown definitions counters).nextCounter =
    firstCounter + counters.length := by
  have all := t.grown_counterIds_perm definitions counters
  have next : 1 + 1 * (firstCounter - 1 + counters.length) = firstCounter + counters.length := by
    simp only [firstCounter]
    omega
  have found : (List.range' 1 (firstCounter - 1 + counters.length + 1)).find?
      (! ((t.grown definitions counters).filterMap counterId?).contains ·) =
        some (firstCounter + counters.length) := by
    refine List.find?_eq_some_iff_append.mpr ⟨?_,_,[],List.range'_concat.trans (by rw [next]),?_⟩
    · rw [Bool.not_eq_true',← Bool.not_eq_true,List.contains_iff_mem,all.mem_iff,List.mem_range'_1]
      omega
    · intro id member
      rw [Bool.not_not,List.contains_iff_mem]
      exact all.mem_iff.mpr member
  rw [nextCounter,all.length_eq,List.length_range',found]
  rfl

/-! ### Additions -/

theorem addFamily_grown (d : NumberingDefinition) :
    (t.grown definitions counters).addFamily (firstFamily + definitions.length) d =
      t.grown (definitions ++ [d]) counters := by
  have passed : ∀ e ∈ t.familyEntries ++ addedFamilies definitions, e.counterId?.isSome = false := by
    intro e member
    obtain ⟨id,content,rfl⟩ := mem_families member
    rfl
  have counted : ∀ e ∈ ((t.counterEntries ++ addedCounters counters) ++ t.lastEntries).head?,
      e.counterId?.isSome = true := by
    obtain ⟨c,cs,some⟩ : ∃ c cs, t.counters = c :: cs := by
      refine List.exists_cons_of_length_pos ?_
      have size := t.counter_ids.length_eq
      simp [firstCounter] at size
      omega
    simp [counterEntries,some,counterId?]
  rw [addFamily,grown,insertBefore_append passed,insertBefore_of_head counted,grown,addedFamilies,
    addedFamilies,List.mapIdx_concat]
  simp

theorem addCounter_grown (n : NumberingInstance) :
    (t.grown definitions counters).addCounter (firstCounter + counters.length) n =
      t.grown definitions (counters ++ [n]) := by
  have passed : ∀ e ∈ (t.familyEntries ++ addedFamilies definitions) ++
      (t.counterEntries ++ addedCounters counters), e.isCleanup = false := by
    refine List.forall_mem_append.mpr ⟨fun e member => ?_,fun e member => ?_⟩
    · obtain ⟨id,content,rfl⟩ := mem_families member
      rfl
    · obtain ⟨id,n,rfl⟩ := mem_counters member
      rfl
  have last : ∀ e ∈ t.lastEntries.head?, e.isCleanup = true := by
    intro e member
    obtain ⟨id,rfl⟩ := mem_last (List.mem_of_mem_head? member)
    rfl
  rw [addCounter,grown,← List.append_assoc,insertBefore_append passed,insertBefore_of_head last,grown,
    addedCounters,addedCounters,List.mapIdx_concat]
  simp

/-! ### What has been added -/

theorem grown_addedFamilies :
    (t.grown definitions counters).filter (·.familyId?.any (firstFamily ≤ ·)) =
      addedFamilies definitions := by
  have own : t.familyEntries.filter (·.familyId?.any (firstFamily ≤ ·)) = [] := by
    refine List.filter_eq_nil_iff.mpr fun e member => ?_
    obtain ⟨f,inside,rfl⟩ := List.mem_map.mp member
    have below := List.mem_range.mp (t.family_ids.subset (List.mem_map_of_mem inside))
    simpa [familyId?] using below
  have added : (addedFamilies definitions).filter (·.familyId?.any (firstFamily ≤ ·)) =
      addedFamilies definitions := by
    refine List.filter_eq_self.mpr fun e member => ?_
    obtain ⟨i,_,rfl⟩ := List.mem_mapIdx.mp member
    simp [familyId?]
  have rest : (t.counterEntries ++ addedCounters counters ++ t.lastEntries).filter
      (·.familyId?.any (firstFamily ≤ ·)) = [] := by
    refine List.filter_eq_nil_iff.mpr (List.forall_mem_append.mpr ⟨fun e member => ?_,
      fun e member => ?_⟩)
    · obtain ⟨id,n,rfl⟩ := mem_counters member
      simp [familyId?]
    · obtain ⟨id,rfl⟩ := mem_last member
      simp [familyId?]
  rw [grown,List.filter_append,List.filter_append,own,added,rest,List.append_nil,List.nil_append]

theorem grown_addedCounters :
    (t.grown definitions counters).filter (·.counterId?.any (firstCounter ≤ ·)) =
      addedCounters counters := by
  have families : (t.familyEntries ++ addedFamilies definitions).filter
      (·.counterId?.any (firstCounter ≤ ·)) = [] := by
    refine List.filter_eq_nil_iff.mpr fun e member => ?_
    obtain ⟨id,content,rfl⟩ := mem_families member
    simp [counterId?]
  have own : t.counterEntries.filter (·.counterId?.any (firstCounter ≤ ·)) = [] := by
    refine List.filter_eq_nil_iff.mpr fun e member => ?_
    obtain ⟨c,inside,rfl⟩ := List.mem_map.mp member
    have within := List.mem_range'_1.mp (t.counter_ids.subset (List.mem_map_of_mem inside))
    have below : c.1 < firstCounter := within.2
    simpa [counterId?] using below
  have added : (addedCounters counters).filter (·.counterId?.any (firstCounter ≤ ·)) =
      addedCounters counters := by
    refine List.filter_eq_self.mpr fun e member => ?_
    obtain ⟨i,_,rfl⟩ := List.mem_mapIdx.mp member
    simp [counterId?]
  have last : t.lastEntries.filter (·.counterId?.any (firstCounter ≤ ·)) = [] := by
    refine List.filter_eq_nil_iff.mpr fun e member => ?_
    obtain ⟨id,rfl⟩ := mem_last member
    simp [counterId?]
  rw [grown,List.filter_append,families,List.filter_append,List.filter_append,own,added,last,
    List.append_nil,List.nil_append,List.nil_append]

end NumberingTemplate

/-- The counters that a part has beyond those of a new document. -/
def NumberingPart.added (part : NumberingPart) : List NumberingInstance :=
  (part.filter (·.counterId?.any (firstCounter ≤ ·))).filterMap NumberingEntry.instance?

theorem NumberingTemplate.added_grown (t : NumberingTemplate) (definitions : List NumberingDefinition)
    (counters : List NumberingInstance) : NumberingPart.added (t.grown definitions counters) = counters := by
  rw [added,grown_addedCounters]
  simp [addedCounters,List.mapIdx_eq_zipIdx_map,List.filterMap_map,Function.comp_def,instance?]

end DocPress
