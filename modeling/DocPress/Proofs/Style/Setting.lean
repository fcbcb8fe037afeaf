import DocPress.Proofs.Style.Merge

/-! What becomes of every setting of a partial configuration, and what is reported about it. A value that is
given for a setting is taken if it is one that the setting takes; else the preset decides, and else the
default. What is passed over on the way is reported, once for each place and in the order of the
settings. Main statement: `resolve_settings`. -/

namespace DocPress

/-! ### What a setting takes -/

namespace Number.Binary64

/-- The number is equal to a whole one. -/
def IsInt (x : Binary64) (n : Int) : Prop :=
  ∃ s m e, x = finite s m e ∧ (ratio m e).2 * n = if s then -((ratio m e).1 : Int) else (ratio m e).1

theorem toInt?_eq_some {x : Binary64} {n : Int} : x.toInt? = some n ↔ x.IsInt n := by
  cases x with
  | finite s m e =>
    have read : (finite s m e).IsInt n ↔
        (ratio m e).2 * n = if s then -((ratio m e).1 : Int) else (ratio m e).1 := by
      constructor
      · rintro ⟨_,_,_,same,value⟩
        cases same
        exact value
      · exact fun value => ⟨s,m,e,rfl,value⟩
    have positive : 0 < (ratio m e).2 := Nat.two_pow_pos _
    have opened : (finite s m e).toInt? = if (ratio m e).1 % (ratio m e).2 = 0 then
        some (if s then -(((ratio m e).1 / (ratio m e).2 : Nat) : Int)
          else ((ratio m e).1 / (ratio m e).2 : Nat)) else none := rfl
    rw [read,opened]
    generalize (ratio m e).1 = a,(ratio m e).2 = b at positive
    by_cases divides : b ∣ a
    · obtain ⟨k,rfl⟩ := divides
      have cancel (k : Int) : k = n ↔ b * n = b * k := by
        rw [Int.mul_eq_mul_left_iff (by omega),eq_comm]
      rw [if_pos (Nat.mul_mod_right b k),Nat.mul_div_cancel_left k positive,Option.some.injEq,cancel]
      cases s with
      | true => rw [if_pos rfl,if_pos rfl,Int.mul_neg,Int.natCast_mul]
      | false => simp
    · rw [if_neg fun whole => divides (Nat.dvd_of_mod_eq_zero whole)]
      refine iff_of_false nofun fun value => divides (Int.natCast_dvd_natCast.mp ?_)
      cases s with
      | true => exact Int.dvd_neg.mp ⟨n,value.symm⟩
      | false => exact ⟨n,value.symm⟩
  | infinite s => simp [toInt?,IsInt]
  | nan => simp [toInt?,IsInt]

end Number.Binary64

namespace LeafKind

/-- What a setting makes of a value that it takes: a font is a name between blanks, a colour is six digits of
base sixteen between blanks, perhaps behind a hash, and a size is a whole number in either of its forms. -/
inductive Takes : (kind : LeafKind) → Value → kind.Content → Prop where
  | font {s : String} (named : Text.trim s ≠ "") : Takes .font (.string s) (Text.trim s)
  | color {s : String} {digits : List Char} (six : digits.length = 6) (hex : digits.all isHexDigit)
    (written : (Text.trim s).toList = digits ∨ (Text.trim s).toList = '#' :: digits) :
    Takes .color (.string s) (String.ofList (digits.map Char.toUpper))
  | whole {n : Nat} (inside : 0 < n ∧ n ≤ maxSize) : Takes .size (.int n) n
  | point {x : Number.Binary64} {n : Nat} (same : x.IsInt n) (inside : 0 < n ∧ n ≤ maxSize) :
    Takes .size (.float x) n
  | flag (b : Bool) : Takes .flag (.bool b) b

theorem font?_eq_some {s name : String} : font? s = some name ↔ Text.trim s ≠ "" ∧ Text.trim s = name := by
  unfold font?
  by_cases empty : Text.trim s = ""
  · simp [empty]
  · simp [empty]

theorem color?_eq_some {s found : String} : color? s = some found ↔
    ∃ digits, digits.length = 6 ∧ digits.all isHexDigit ∧
      ((Text.trim s).toList = digits ∨ (Text.trim s).toList = '#' :: digits) ∧
      String.ofList (digits.map Char.toUpper) = found := by
  obtain ⟨rest,known⟩ : ∃ rest, (if (Text.trim s).toList.head? = some '#' then
    (Text.trim s).toList.tail else (Text.trim s).toList) = rest := ⟨_,rfl⟩
  have opened : color? s = if rest.length = 6 ∧ rest.all isHexDigit then
      some (String.ofList (rest.map Char.toUpper)) else none := by
    rw [← known,Text.trim,String.toList_ofList]
    rfl
  have written : (Text.trim s).toList = rest ∨ (Text.trim s).toList = '#' :: rest := by
    split at known
    next marked => exact .inr (by rw [← known,List.cons_head?_tail marked])
    next => exact .inl known
  rw [opened]
  constructor
  · intro taken
    split at taken
    next good => exact ⟨rest,good.1,good.2,written,Option.some.inj taken⟩
    next => cases taken
  · rintro ⟨digits,six,hex,given,rfl⟩
    have same : rest = digits := by
      rw [← known]
      rcases given with whole | marked
      · rw [whole]
        refine if_neg fun first => ?_
        have digit := List.all_eq_true.mp hex '#' (List.mem_of_head? first)
        exact absurd digit (by decide)
      · rw [marked]
        rfl
    rw [same,if_pos ⟨six,hex⟩]

theorem size?_eq_some {n : Int} {found : Nat} :
    size? n = some found ↔ n = found ∧ 0 < found ∧ found ≤ maxSize := by
  unfold size?
  by_cases inside : 0 < n ∧ n ≤ maxSize
  · rw [if_pos inside,Option.some.injEq]
    omega
  · rw [if_neg inside]
    refine iff_of_false nofun ?_
    omega

/-- What a setting takes, and as what, is what its kind says. -/
theorem coerce_eq_some {kind : LeafKind} {v : Value} {found : kind.Content} :
    kind.coerce v = some found ↔ kind.Takes v found := by
  constructor
  · intro taken
    unfold coerce at taken
    split at taken
    · obtain ⟨named,rfl⟩ := font?_eq_some.mp taken
      exact .font named
    · obtain ⟨digits,six,hex,written,rfl⟩ := color?_eq_some.mp taken
      exact .color six hex written
    · obtain ⟨rfl,inside⟩ := size?_eq_some.mp taken
      exact .whole inside
    · obtain ⟨n,same,taken⟩ := Option.bind_eq_some_iff.mp taken
      obtain ⟨rfl,inside⟩ := size?_eq_some.mp taken
      exact .point (Number.Binary64.toInt?_eq_some.mp same) inside
    · obtain rfl := Option.some.inj taken
      exact .flag _
    · cases taken
  · rintro (named | ⟨six,hex,written⟩ | inside | ⟨same,inside⟩ | b)
    · exact font?_eq_some.mpr ⟨named,rfl⟩
    · exact color?_eq_some.mpr ⟨_,six,hex,written,rfl⟩
    · exact size?_eq_some.mpr ⟨rfl,inside⟩
    · exact Option.bind_eq_some_iff.mpr
        ⟨_,Number.Binary64.toInt?_eq_some.mpr same,size?_eq_some.mpr ⟨rfl,inside⟩⟩
    · rfl

end LeafKind

/-! ### The value of a setting -/

/-- What a partial configuration gives for a setting, if it and the group are objects. -/
def Section.sought? (s : Section) (leaf : Leaf) (settings : Value) : Option Value :=
  ((settings.fields?.bind s.given?).bind Value.fields?).bind leaf.given?

/-- What is said about a value that a setting does not take. -/
def Leaf.refusal (leaf : Leaf) (sectionName shown : String) (base : StyleConfig) : String :=
  s!"Ignoring invalid style value {sectionName}.{leaf.name}=" ++
    s!"{shown}; using {(leaf.kind.toValue (leaf.get base)).shown}"

/-- A setting of a kind after a value has been laid over what it held before. -/
def LeafKind.Laid (kind : LeafKind) (v : Option Value) (before after : kind.Content) : Prop :=
  (∃ given, v = some given ∧ kind.Takes given after) ∨
    (∀ given, v = some given → ∀ found, ¬ kind.Takes given found) ∧ after = before

/-- What a preset says, and nothing if there is none. -/
def presetSettings : Option Preset → Value
  | some p => p.settings
  | none => .null

namespace StyleConfig

theorem laid_iff {kind : LeafKind} {v : Option Value} {before after : kind.Content} :
    kind.Laid v before after ↔ (v.bind kind.coerce).getD before = after := by
  have refused (given : Value) : kind.coerce given = none ↔ ∀ found, ¬ kind.Takes given found := by
    simp only [Option.eq_none_iff_forall_ne_some,Ne,LeafKind.coerce_eq_some]
  cases v with
  | none => simp [LeafKind.Laid,eq_comm]
  | some given =>
    simp only [LeafKind.Laid,Option.some.injEq,forall_eq',exists_eq_left',Option.bind_some,
      ← LeafKind.coerce_eq_some]
    cases kind.coerce given with
    | none => simp [eq_comm]
    | some found => simp

theorem ofPreset_eq (preset : Option Preset) : ofPreset preset = merge {} (presetSettings preset) := by
  cases preset <;> rfl

theorem found?_eq (s : Section) (leaf : Leaf) (settings : Value) :
    s.found? leaf settings = (s.sought? leaf settings).bind leaf.kind.coerce := by
  rw [Section.found?,Section.sought?,Option.bind_assoc _ leaf.given?]
  rfl

/-! ### What is reported -/

/-- Where something may be passed over: all of a partial configuration, a group, a setting of a group. -/
inductive Spot where
  | whole
  | group (s : Section)
  | setting (s : Section) (leaf : Leaf)

/-- All of them, in the order in which they are looked at. -/
def spots : List Spot := .whole :: sections.flatMap fun s => .group s :: s.leaves.map (.setting s)

namespace Spot

/-- Something stands there that does not belong there: no object for the whole or for a group, or a value
that the setting does not take. -/
def Rejects (settings : Value) : Spot → Prop
  | whole => settings.fields? = none ∧ settings ≠ .null
  | group s => ∃ v, settings.fields?.bind s.given? = some v ∧ v.fields? = none
  | setting s leaf => ∃ v, s.sought? leaf settings = some v ∧ ∀ found, ¬ leaf.kind.Takes v found

def rejects (settings : Value) : Spot → Bool
  | whole => match settings with
    | .null | .object _ => false
    | _ => true
  | group s => (settings.fields?.bind s.given?).any (·.fields?.isNone)
  | setting s leaf => (s.sought? leaf settings).any fun v => (leaf.kind.coerce v).isNone

theorem rejects_iff {settings : Value} {spot : Spot} : spot.rejects settings ↔ spot.Rejects settings := by
  cases spot with
  | whole => cases settings <;> simp [rejects,Rejects,Value.fields?]
  | group s => simp [rejects,Rejects,Option.any_eq_true]
  | setting s leaf =>
    simp only [rejects,Rejects,Option.any_eq_true,Option.isNone_iff_eq_none,
      Option.eq_none_iff_forall_ne_some,Ne,LeafKind.coerce_eq_some]

/-- What is said about what is passed over, and about what is used instead. -/
def message (base : StyleConfig) (settings : Value) : Spot → String
  | whole => s!"Ignoring style configuration of type {settings.kindName}"
  | group s => s!"Ignoring style section {Text.quoted s.name}: expected a mapping"
  | setting s leaf => leaf.refusal s.name (((s.sought? leaf settings).map Value.shown).getD "") base

theorem message_setting (base : StyleConfig) (settings : Value) (s : Section) (leaf : Leaf) :
    (setting s leaf).message base settings =
      leaf.refusal s.name (((s.sought? leaf settings).map Value.shown).getD "") base := rfl

theorem setting_unasked {settings : Value} {s : Section} (leaf : Leaf)
    (missing : (settings.fields?.bind s.given?).bind Value.fields? = none) :
    ¬ (setting s leaf).rejects settings := by
  rw [rejects,Section.sought?,missing]
  exact Bool.false_ne_true

def label : Spot → String × String
  | whole => ("","")
  | group s => (s.name,"")
  | setting s leaf => (s.name,leaf.name)

end Spot

theorem spots_distinct : spots.Nodup := by
  have labels : (spots.map Spot.label).Nodup := by decide +kernel
  exact (List.pairwise_map.mp labels).imp fun apart same => apart (congrArg Spot.label same)

def rejected (settings : Value) : List Spot := spots.filter (Spot.rejects settings)

theorem rejection?_eq (leaf : Leaf) (sectionName : String) (base : StyleConfig)
    (fields : List (String × Value)) : leaf.rejection? sectionName base fields =
      (leaf.given? fields).bind fun v => if (leaf.kind.coerce v).isNone then
        some (.debug (leaf.refusal sectionName v.shown base)) else none := by
  unfold Leaf.rejection?
  cases leaf.given? fields with
  | none => rfl
  | some v => cases coerced : leaf.kind.coerce v <;> simp only [Option.bind_some,coerced] <;> rfl

/-- The settings of a group that is an object are passed over one by one. -/
theorem setting_rejections (base : StyleConfig) {fields settings : List (String × Value)} {s : Section}
    (given : s.given? fields = some (.object settings)) :
    (s.leaves.filterMap fun leaf => leaf.rejection? s.name base settings) =
      ((s.leaves.map (Spot.setting s)).filter (Spot.rejects (.object fields))).map
        fun spot => .debug (spot.message base (.object fields)) := by
  rw [List.filter_map,List.map_map,← List.filterMap_eq_map',List.filterMap_filter]
  refine List.filterMap_congr fun leaf _ => ?_
  have value : s.sought? leaf (.object fields) = leaf.given? settings := by
    rw [Section.sought?,Value.fields?,Option.bind_some,given]
    rfl
  rw [Function.comp_apply,Function.comp_apply,Spot.rejects,Spot.message_setting,value,rejection?_eq]
  cases leaf.given? settings with
  | none => rw [Option.bind_none,Option.any_none,if_neg Bool.false_ne_true]
  | some v => rw [Option.bind_some,Option.any_some,Option.map_some,Option.getD_some]

/-- A group that is no object is passed over as a whole, and nothing in it is looked at. -/
theorem section_rejections (base : StyleConfig) (fields : List (String × Value)) (s : Section) :
    s.rejections base fields =
      ((Spot.group s :: s.leaves.map (.setting s)).filter (Spot.rejects (.object fields))).map
        fun spot => .debug (spot.message base (.object fields)) := by
  have group : (Spot.group s).rejects (.object fields) = (s.given? fields).any (·.fields?.isNone) := rfl
  have unasked (missing : (s.given? fields).bind Value.fields? = none) :
      (s.leaves.map (Spot.setting s)).filter (Spot.rejects (.object fields)) = [] := by
    rw [List.filter_eq_nil_iff,List.forall_mem_map]
    exact fun leaf _ => Spot.setting_unasked leaf missing
  rw [List.filter_cons,group]
  unfold Section.rejections
  cases given : s.given? fields with
  | none =>
    rw [unasked (by rw [given]; rfl)]
    rfl
  | some v =>
    cases v with
    | object settings =>
      have silent : ¬ (Value.object settings).fields?.isNone = true := Bool.false_ne_true
      rw [Option.any_some,if_neg silent]
      exact setting_rejections base given
    | _ =>
      rw [unasked (by rw [given]; rfl)]
      rfl

theorem mergeLog_eq (base : StyleConfig) (settings : Value) :
    base.mergeLog settings = (rejected settings).map fun spot => .debug (spot.message base settings) := by
  -- without an object there is nothing to look up, so that only the whole can be passed over
  have unasked (plain : settings.fields? = none) :
      (sections.flatMap fun s => .group s :: s.leaves.map (.setting s)).filter (Spot.rejects settings) =
        [] := by
    rw [List.filter_eq_nil_iff,List.forall_mem_flatMap]
    intro s _
    refine List.forall_mem_cons.mpr ⟨?_,List.forall_mem_map.mpr fun leaf _ => ?_⟩
    · rw [Spot.rejects,plain]
      exact Bool.false_ne_true
    · exact Spot.setting_unasked leaf (by rw [plain]; rfl)
  rw [rejected,spots]
  cases settings with
  | null =>
    rw [List.filter_cons_of_neg Bool.false_ne_true,unasked rfl]
    rfl
  | object fields =>
    rw [List.filter_cons_of_neg Bool.false_ne_true,List.filter_flatMap,List.map_flatMap]
    exact List.flatMap_congr fun s _ => section_rejections base fields s
  | _ =>
    rw [List.filter_cons_of_pos rfl,unasked rfl]
    rfl

theorem preset_unreported (preset : Option Preset) : mergeLog {} (presetSettings preset) = [] := by
  have nothing : (mergeLog {} (presetSettings preset)).isEmpty := by
    cases preset with
    | none => rfl
    | some p => cases p <;> decide +kernel
  exact List.isEmpty_iff.mp nothing

/-- Each setting of a resolved configuration is what the partial one gives for it, if that is of its kind, and
else what the preset gives for it, and else the default; so it depends on nothing else in the partial one.
All settings hold what they may. Whatever does not belong where it stands is reported once, and nothing
else is. -/
theorem resolve_settings (settings : Value) (preset : Option Preset) :
    (∀ s ∈ sections, ∀ leaf ∈ s.leaves,
      (∃ base, leaf.kind.Laid (s.sought? leaf (presetSettings preset)) (leaf.get {}) base ∧
        leaf.kind.Laid (s.sought? leaf settings) base (leaf.get (resolve settings preset))) ∧
      ∀ other, s.sought? leaf other = s.sought? leaf settings →
        leaf.get (resolve other preset) = leaf.get (resolve settings preset)) ∧
    (resolve settings preset).Valid ∧
    ∃ reported : List Spot, reported.Nodup ∧
      (∀ spot, spot ∈ reported ↔ spot ∈ spots ∧ spot.Rejects settings) ∧
      mergeLog {} (presetSettings preset) ++ resolveLog settings preset =
        reported.map fun spot => .debug (spot.message (ofPreset preset) settings) := by
  refine ⟨fun s known leaf member => ⟨⟨leaf.get (ofPreset preset),?_,?_⟩,?_⟩,?_,?_⟩
  · rw [laid_iff,← found?_eq,ofPreset_eq,get_merge {} _ known member]
  · rw [laid_iff,← found?_eq,resolve,get_merge _ settings known member]
  · intro other same
    rw [resolve,resolve,get_merge _ other known member,get_merge _ settings known member,
      found?_eq,found?_eq,same]
  · exact resolve_valid settings preset
  · refine ⟨rejected settings,spots_distinct.filter _,fun spot => ?_,?_⟩
    · rw [rejected,List.mem_filter,Spot.rejects_iff]
    · rw [preset_unreported,List.nil_append]
      exact mergeLog_eq _ settings

/-- A font between blanks, a number in the place of another one, and no object for the lists. -/
def mixedSettings : Value := .object [
  ("font",.object [("body",.string " Arial "),("heading",.int 5)]),
  ("list",.null)]

/-- The body font is taken, the heading font is the one of the preset, and both faults are reported. -/
theorem resolve_settings_mixed :
    (∃ s ∈ sections, ∃ leaf ∈ s.leaves, s.name = "font" ∧ leaf.name = "body" ∧
      leaf.get (resolve mixedSettings (some .academic)) = leaf.get { font.body := "Arial" }) ∧
    (resolve mixedSettings (some .academic)).font.heading = "Times New Roman" ∧
    (resolve mixedSettings (some .academic)).Valid ∧
    resolveLog mixedSettings (some .academic) = [
      .debug "Ignoring invalid style value font.heading=5; using 'Times New Roman'",
      .debug "Ignoring style section 'list': expected a mapping"] := by
  obtain ⟨settings,valid,_⟩ := resolve_settings mixedSettings (some .academic)
  refine ⟨⟨_,List.mem_cons_self,_,List.mem_cons_of_mem _ List.mem_cons_self,rfl,rfl,?_⟩,?_,valid,?_⟩
  · obtain ⟨⟨base,_,laid⟩,_⟩ :=
      settings _ List.mem_cons_self _ (List.mem_cons_of_mem _ List.mem_cons_self)
    exact (laid_iff.mp laid).symm.trans rfl
  · obtain ⟨⟨base,preset,laid⟩,_⟩ := settings _ List.mem_cons_self _ List.mem_cons_self
    have kept : base = (resolve mixedSettings (some .academic)).font.heading := laid_iff.mp laid
    have given : "Times New Roman" = base := laid_iff.mp preset
    exact kept.symm.trans given.symm
  · decide +kernel

end StyleConfig

end DocPress
