import DocPress.Proofs.Package.Step

/-! One packager for many documents. What a call leaves behind, the counters of a document that was
broken off among it, means nothing to the call after it. Main statement: every call of a row comes out as
with a packager of its own, and no document stays in work (`encodeAll_fresh`). -/

namespace DocPress.Packager

/-- What comes of each call of a row, and what the packager holds after it. -/
def calls (p : Packager) : List DocumentModel → List (Encoded × Packager)
  | [] => []
  | m :: ms => p.encode m :: (p.encode m).2.calls ms

theorem encodeAll_eq (p : Packager) (ms : List DocumentModel) :
    p.encodeAll ms = (p.calls ms).map Prod.fst := by
  induction ms generalizing p with
  | nil => rfl
  | cons m ms ih =>
    have rest := ih (p.encode m).2
    change (p.encode m).1 :: (p.encode m).2.encodeAll ms = _
    rw [rest,calls,List.map_cons]

/-- A call does not depend on what the packager holds, neither in what comes of it nor in what it
leaves. -/
theorem encode_fresh (p : Packager) (m : DocumentModel) :
    p.encode m = ({} : Packager).encode m := by
  have started : (do Build.renew .standard; Build.document m) p.held =
      (do Build.renew .standard; Build.document m) (held {}) := by
    rw [Build.renewed,Build.renewed]
    rfl
  unfold encode encodeFrom EStateM.run
  rw [started]

theorem encode_released (p : Packager) (m : DocumentModel) : (p.encode m).2.draft = none := by
  unfold encode encodeFrom
  split
  · rfl
  · rfl

theorem calls_eq (p : Packager) (ms : List DocumentModel) :
    p.calls ms = ms.map ({} : Packager).encode := by
  -- for all packagers: the next call finds what this one has left
  induction ms generalizing p with
  | nil => rfl
  | cons m ms ih =>
    have rest := ih (p.encode m).2
    rw [calls,rest,encode_fresh p m,List.map_cons]

/-- Whatever a packager holds and however its calls end, each of them comes out as with a packager of
its own, and after none of them a document stays in work. -/
theorem encodeAll_fresh (p : Packager) (ms : List DocumentModel) :
    p.encodeAll ms = ms.map DocPress.encode ∧ p.calls ms = ms.map ({} : Packager).encode ∧
      ∀ call ∈ p.calls ms, call.2.draft = none := by
  have same := p.calls_eq ms
  refine ⟨?_,same,?_⟩
  · rw [encodeAll_eq,same,List.map_map]
    rfl
  · intro call member
    rw [same] at member
    obtain ⟨m,_,rfl⟩ := List.mem_map.mp member
    exact encode_released _ m

/-- A document that is broken off behind a family, an item that opens a counter of its own, and a
paragraph: its last paragraph counts in a family that there is not. -/
def brokenOff : DocumentModel where
  numbering := [⟨orderedReference,[]⟩]
  blocks := [
    .paragraph { numbering := some ⟨orderedReference,0,some 3⟩ },
    .paragraph { numbering := some ⟨bulletReference,0,none⟩ }]

/-- The same document without the last paragraph, and with an item that goes on counting. -/
def countedOn : DocumentModel where
  numbering := [⟨orderedReference,[]⟩]
  blocks := [.paragraph { numbering := some ⟨orderedReference,0,none⟩ }]

/-- The counters of a document that was broken off are still there after the call, and the document
after it comes out as if they were not. -/
theorem encodeAll_brokenOff :
    ∃ call ∈ ({} : Packager).calls [brokenOff,countedOn],
      call.1.result.isOk = false ∧
      call.2.numbering.counters = [(orderedReference,11),(orderedReference,10)] ∧
      call.2.draft = none ∧
      ({} : Packager).encodeAll [brokenOff,countedOn] =
        [DocPress.encode brokenOff,DocPress.encode countedOn] := by
  obtain ⟨results,_,released⟩ := encodeAll_fresh {} [brokenOff,countedOn]
  have member : ({} : Packager).encode brokenOff ∈ ({} : Packager).calls [brokenOff,countedOn] :=
    List.mem_cons_self
  refine ⟨_,member,?_,?_,released _ member,results⟩
  · decide +kernel
  · decide +kernel

end DocPress.Packager
