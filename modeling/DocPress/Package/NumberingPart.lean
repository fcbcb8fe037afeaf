import DocPress.Document.Model
import DocPress.Package.Children

/-!
The numbering part of a document: families of numberings, and behind them the counters of these families.
What is added gets a number that nothing of its kind has there yet.
-/

namespace DocPress

structure NumberingInstance where
  family : Nat
  restart : Option (Int × Int) := none
  deriving DecidableEq, Repr

inductive NumberingEntry where
  | family (id : Nat) (content : List XmlElement)
  | counter (id : Nat) (counter : NumberingInstance)
  /-- A note on tidying up, which some programs leave at the end. -/
  | cleanup (id : Nat)

abbrev NumberingPart := List NumberingEntry

/-! ### Elements -/

def NumberingLevel.toXml (l : NumberingLevel) : XmlElement :=
  .mk "w:lvl" [("w:ilvl",toString l.level)] "" [
    .value "w:start" (toString l.start),
    .value "w:numFmt" l.format,
    .value "w:lvlText" l.text,
    .value "w:lvlJc" "left",
    .parent "w:pPr" [.leaf "w:ind"
      [("w:left",toString l.indentLeft),("w:hanging",toString l.hanging)]],
    .parent "w:rPr" [
      .leaf "w:rFonts" [("w:ascii",l.font),("w:hAnsi",l.font)],
      .value "w:color" l.color]]

def NumberingDefinition.content (d : NumberingDefinition) : List XmlElement :=
  .value "w:multiLevelType" "hybridMultilevel" :: d.levels.map NumberingLevel.toXml

def NumberingInstance.toXml (id : Nat) (n : NumberingInstance) : XmlElement :=
  .mk "w:num" [("w:numId",toString id)] "" (
    .value "w:abstractNumId" (toString n.family) ::
    (n.restart.map fun (level,start) => .mk "w:lvlOverride" [("w:ilvl",toString level)] ""
      [.value "w:startOverride" (toString start)]).toList)

namespace NumberingEntry

def toXml : NumberingEntry → XmlElement
  | family id content => .mk "w:abstractNum" [("w:abstractNumId",toString id)] "" content
  | counter id n => n.toXml id
  | cleanup id => .value "w:numIdMacAtCleanup" (toString id)

def familyId? : NumberingEntry → Option Nat
  | family id _ => some id
  | _ => none

def counterId? : NumberingEntry → Option Nat
  | counter id _ => some id
  | _ => none

def isCleanup : NumberingEntry → Bool
  | cleanup _ => true
  | _ => false

end NumberingEntry

/-! ### Additions -/

namespace NumberingPart

def nextFamily (part : NumberingPart) : Nat :=
  ((part.filterMap NumberingEntry.familyId?).max?.map (· + 1)).getD 0

/-- The first number from one on that no counter has. -/
def nextCounter (part : NumberingPart) : Nat :=
  let ids := part.filterMap NumberingEntry.counterId?
  ((List.range' 1 (ids.length + 1)).find? (! ids.contains ·)).getD (ids.length + 1)

/-- A family has to stand in front of all counters. -/
def addFamily (id : Nat) (d : NumberingDefinition) (part : NumberingPart) : NumberingPart :=
  insertBefore (·.counterId?.isSome) (.family id d.content) part

def addCounter (id : Nat) (n : NumberingInstance) (part : NumberingPart) : NumberingPart :=
  insertBefore NumberingEntry.isCleanup (.counter id n) part

end NumberingPart

/-! ### The template -/

/-- The number of the first family that is added; a new document has those below it. -/
def firstFamily : Nat := 9

def firstCounter : Nat := 10

structure NumberingTemplate where
  families : List (Nat × List XmlElement)
  counters : List (Nat × NumberingInstance)
  cleanup : Option Nat := none
  family_ids : (families.map Prod.fst).Perm (List.range firstFamily)
  counter_ids : (counters.map Prod.fst).Perm (List.range' 1 (firstCounter - 1))
  counts : ∀ c ∈ counters, c.2.family < firstFamily

namespace NumberingTemplate

def familyEntries (t : NumberingTemplate) : NumberingPart :=
  t.families.map fun (id,content) => .family id content

def counterEntries (t : NumberingTemplate) : NumberingPart :=
  t.counters.map fun (id,n) => .counter id n

def lastEntries (t : NumberingTemplate) : NumberingPart := (t.cleanup.map .cleanup).toList

def part (t : NumberingTemplate) : NumberingPart :=
  t.familyEntries ++ t.counterEntries ++ t.lastEntries

/-- A template with nothing in its families, of which it has a counter each. -/
def standard : NumberingTemplate where
  families := (List.range firstFamily).map fun id => (id,[])
  counters := (List.range firstFamily).map fun id => (id + 1,{ family := id })
  family_ids := by decide
  counter_ids := by decide
  counts := by decide

end NumberingTemplate

end DocPress
