import DocPress.Package.Block

/-!
Writing a document model as a package: the parts of the file that a document fills. A packager can
write any number of documents, one after the other; nothing of one is left for the next.
-/

namespace DocPress

/-- The parts that a document fills; what a new document has already is left out. -/
structure Package where
  body : List XmlElement
  core : CoreProperties
  styles : List XmlElement
  numbering : NumberingPart
  relations : List RelationTarget
  media : List Medium

def Package.families (p : Package) : List XmlElement :=
  (p.numbering.filter (·.familyId?.any (firstFamily ≤ ·))).map NumberingEntry.toXml

def Package.counters (p : Package) : List XmlElement :=
  (p.numbering.filter (·.counterId?.any (firstCounter ≤ ·))).map NumberingEntry.toXml

def Draft.toPackage (d : Draft) : Package where
  body := d.body
  core := d.core
  styles := d.styles.entries.map StyleEntry.toXml
  numbering := d.numbering
  relations := d.relations
  media := d.media

namespace Build

def maxPropertyLength : Nat := 255

def property (value : String) : Except PackageFault String :=
  if maxPropertyLength < value.length then .error (.longProperty value)
  else Measure.xmlText value

def coreProperties (m : DocumentModel) : Build Unit := do
  let title ← check (property m.title)
  let creator ← check (property m.creator)
  modifyDraft fun d => { d with core := ⟨title,creator,creator⟩ }

def style (s : ParagraphStyle) : Build Unit := do
  let styles ← check ((← get).draft.styles.apply s)
  modifyDraft fun d => { d with styles }

def checkLevel (l : NumberingLevel) : Except PackageFault Unit :=
  [l.format,l.text,l.font,l.color].forM fun text => do
    let _ ← Measure.xmlText text

def family (d : NumberingDefinition) : Build Unit := do
  let id := (← get).draft.numbering.nextFamily
  check (d.levels.forM checkLevel)
  modifyDraft fun draft => { draft with numbering := draft.numbering.addFamily id d }
  let counter ← openCounter { family := id }
  modify fun st => { st with numbering := {
    families := (d.reference,id) :: st.numbering.families
    counters := (d.reference,counter) :: st.numbering.counters } }

def addBlock (b : Block) : Build Unit := do
  let elements ← block b
  modifyDraft fun d => { d with body := d.body ++ elements }

/-- Checks the addresses of links, which are written last. -/
def checkRelations (relations : List RelationTarget) : Except PackageFault Unit :=
  relations.forM fun
    | .link url => do let _ ← Measure.xmlText url
    | .picture _ => .ok ()

def renew (t : NumberingTemplate) : Build Unit :=
  modify fun st => { st with draft := { numbering := t.part },numbering := {} }

def document (m : DocumentModel) : Build Unit := do
  coreProperties m
  m.styles.forM style
  m.numbering.forM family
  m.blocks.forM addBlock
  check (checkRelations (← get).draft.relations)

end Build

structure Packager where
  draft : Option Draft := none
  numbering : NumberingTable := {}

structure Encoded where
  result : Except PackagingError Package
  log : List LogRecord

namespace Packager

def held (p : Packager) : BuildState := { draft := p.draft.getD {},numbering := p.numbering }

/-- What the packager holds when the steps are over: the document goes, the counters stay. -/
def released (st : BuildState) : Packager := { numbering := st.numbering }

/-- Writes a document, starting afresh from a template. Whether it succeeds or not, no document stays in
work. -/
def encodeFrom (t : NumberingTemplate) (p : Packager) (m : DocumentModel) : Encoded × Packager :=
  match EStateM.run (do Build.renew t; Build.document m) p.held with
  | .ok _ st => (⟨.ok st.draft.toPackage,st.log⟩,released st)
  | .error e st => (⟨.error e,st.log⟩,released st)

def encode (p : Packager) (m : DocumentModel) : Encoded × Packager := p.encodeFrom .standard m

def encodeAll (p : Packager) : List DocumentModel → List Encoded
  | [] => []
  | m :: ms =>
    let (encoded,p) := p.encode m
    encoded :: p.encodeAll ms

end Packager

def encodeFrom (t : NumberingTemplate) (m : DocumentModel) : Encoded := (Packager.encodeFrom t {} m).1

def encode (m : DocumentModel) : Encoded := encodeFrom .standard m

end DocPress
