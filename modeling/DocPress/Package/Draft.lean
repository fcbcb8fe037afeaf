import DocPress.LogRecord
import DocPress.Package.NumberingPart
import DocPress.Package.StyleSheet
import DocPress.Picture.Format

/-!
A document while it is written, and the steps that write it. A step can fail; what it has reported
until then stays.
-/

namespace DocPress

structure CoreProperties where
  title : String := ""
  creator : String := ""
  lastModifiedBy : String := ""
  deriving DecidableEq, Repr

inductive RelationTarget where
  | link (url : String)
  | picture (index : Nat)
  deriving DecidableEq, Repr

structure Medium where
  data : List UInt8
  format : PictureFormat
  deriving DecidableEq, Repr

/-- A document while it is written: the parts that differ from those of a new document. Relations and
media are told apart by their place. -/
structure Draft where
  core : CoreProperties := {}
  styles : StyleSheet := .template
  numbering : NumberingPart := NumberingTemplate.standard.part
  relations : List RelationTarget := []
  media : List Medium := []
  body : List XmlElement := []
  lastPicture : Nat := 0
  deriving Inhabited

/-- The families of a model by name: the number of the family, and of the counter in use. -/
structure NumberingTable where
  families : List (String × Nat) := []
  counters : List (String × Nat) := []
  deriving DecidableEq, Repr

structure BuildState where
  draft : Draft := {}
  numbering : NumberingTable := {}
  log : List LogRecord := []

abbrev Build := EStateM PackagingError BuildState

/-- The number of the first relation that is added; a new document has those below it. -/
def firstRelation : Nat := 9

namespace Build

def check {α : Type} (result : Except PackageFault α) : Build α :=
  match result with
  | .ok a => pure a
  | .error fault => throw (.failed fault)

def modifyDraft (f : Draft → Draft) : Build Unit :=
  modify fun st => { st with draft := f st.draft }

def report (r : LogRecord) : Build Unit := modify fun st => { st with log := st.log ++ [r] }

/-- The number of the relation to a target; a target has one relation at most. -/
def relate (target : RelationTarget) : Build Nat := do
  let relations := (← get).draft.relations
  match relations.findIdx? (· = target) with
  | some i => return firstRelation + i
  | none =>
    modifyDraft fun d => { d with relations := d.relations ++ [target] }
    return firstRelation + relations.length

/-- The place of a picture among the media; the same data is held once. -/
def store (medium : Medium) : Build Nat := do
  let media := (← get).draft.media
  match media.findIdx? (·.data = medium.data) with
  | some i => return i
  | none =>
    modifyDraft fun d => { d with media := d.media ++ [medium] }
    return media.length

def openCounter (counter : NumberingInstance) : Build Nat := do
  let id := (← get).draft.numbering.nextCounter
  modifyDraft fun d => { d with numbering := d.numbering.addCounter id counter }
  return id

def relationName (id : Nat) : String := s!"rId{id}"

end Build

end DocPress
