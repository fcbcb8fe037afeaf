import DocPress.Style.Leaf
import DocPress.Style.Preset

/-!
Resolving a style configuration: a partial one, of any shape, is laid over a preset, and that over
the defaults, setting by setting. A value that a setting does not take is passed over and reported;
it never affects another setting.
-/

namespace DocPress

/-- The value under a name, or else under its other spelling. -/
def lookupEither (fields : List (String × Value)) (name camelName : String) : Option Value :=
  match fields.lookup name with
  | some v => some v
  | none => fields.lookup camelName

namespace Leaf

def given? (leaf : Leaf) (fields : List (String × Value)) : Option Value :=
  lookupEither fields leaf.name leaf.camelName

def accepted? (leaf : Leaf) (fields : List (String × Value)) : Option leaf.kind.Content :=
  (leaf.given? fields).bind leaf.kind.coerce

def apply (leaf : Leaf) (fields : List (String × Value)) (c : StyleConfig) : StyleConfig :=
  match leaf.accepted? fields with
  | some v => leaf.set c v
  | none => c

/-- The report on a value that a setting does not take. -/
def rejection? (leaf : Leaf) (sectionName : String) (base : StyleConfig)
    (fields : List (String × Value)) : Option LogRecord :=
  match leaf.given? fields with
  | none => none
  | some v =>
    match leaf.kind.coerce v with
    | some _ => none
    | none => some (.debug (s!"Ignoring invalid style value {sectionName}.{leaf.name}=" ++
        s!"{v.shown}; using {(leaf.kind.toValue (leaf.get base)).shown}"))

end Leaf

namespace Section

def given? (s : Section) (fields : List (String × Value)) : Option Value :=
  lookupEither fields s.name s.camelName

def apply (s : Section) (fields : List (String × Value)) (c : StyleConfig) : StyleConfig :=
  match (s.given? fields).bind Value.fields? with
  | some settings => s.leaves.foldl (fun c leaf => leaf.apply settings c) c
  | none => c

def rejections (s : Section) (base : StyleConfig) (fields : List (String × Value)) :
    List LogRecord :=
  match s.given? fields with
  | none => []
  | some (.object settings) => s.leaves.filterMap fun leaf => leaf.rejection? s.name base settings
  | some _ => [.debug s!"Ignoring style section {Text.quoted s.name}: expected a mapping"]

end Section

namespace StyleConfig

def merge (base : StyleConfig) (settings : Value) : StyleConfig :=
  match settings.fields? with
  | some fields => sections.foldl (fun c s => s.apply fields c) base
  | none => base

def mergeLog (base : StyleConfig) (settings : Value) : List LogRecord :=
  match settings with
  | .null => []
  | .object fields => sections.flatMap fun s => s.rejections base fields
  | v => [.debug s!"Ignoring style configuration of type {v.kindName}"]

def ofPreset (preset : Option Preset) : StyleConfig :=
  match preset with
  | some p => merge {} p.settings
  | none => {}

/-- The configuration that a partial one over a preset over the defaults amounts to. -/
def resolve (settings : Value) (preset : Option Preset) : StyleConfig :=
  (ofPreset preset).merge settings

/-- What a configuration that is complete already amounts to over a preset over the defaults: it is
read as it would be written out. -/
def resolveAgain (c : StyleConfig) (preset : Option Preset) : StyleConfig := resolve c.toValue preset

def resolveLog (settings : Value) (preset : Option Preset) : List LogRecord :=
  (ofPreset preset).mergeLog settings

end StyleConfig

end DocPress
