import Mathlib.Data.List.Nodup
import DocPress.Proofs.Picture.Fetch

/-! Fetching pictures at the same time. All addresses share one cache, and what comes of each is put into
it when its answer is there, in whatever order that is. Main statement: the order does not matter
(`fetched_anyOrder`). -/

namespace DocPress

/-- What happens while pictures are fetched: an address is begun with, or what it gives is there. -/
inductive Moment where
  | begun (url : String)
  | settled (url : String)
  deriving DecidableEq, Repr

namespace Moment

def begun? : Moment → Option String
  | begun url => some url
  | settled _ => none

def settled? : Moment → Option String
  | begun _ => none
  | settled url => some url

end Moment

/-- How far fetching has come: the cache that all addresses share, where the latest entry of an address
counts, and what the network has been asked for. -/
structure Fetching where
  cache : ImageCache := []
  requests : List String := []
  deriving DecidableEq, Repr

namespace Fetching

variable (network : Network)

def next (s : Fetching) : Moment → Except FetchFault Fetching
  | .begun url => .ok { s with requests := s.requests ++ (fetchImage network url).requests }
  | .settled url => do
    let picture ← (fetchImage network url).picture
    return { s with cache := (picture.map fun data => (url,data)).toList ++ s.cache }

def run (s : Fetching) (moments : List Moment) : Except FetchFault Fetching :=
  moments.foldlM (next network) s

variable {network} {s : Fetching} {url : String} {moments : List Moment}

theorem next_begun : s.next network (.begun url) =
    .ok { s with requests := s.requests ++ [url].filter (! isDataUri ·) } := by
  rw [next,fetchImage_requests]

theorem next_settled {picture : Option (List UInt8)} (came : (fetchImage network url).picture = .ok picture) :
    s.next network (.settled url) =
      .ok { s with cache := (picture.map fun data => (url,data)).toList ++ s.cache } := by
  rw [next,came]
  rfl

/-- What an address gives to the cache. -/
def gives? (network : Network) (url : String) : Option (List UInt8) :=
  match (fetchImage network url).picture with
  | .ok picture => picture
  | .error _ => none

theorem gives?_eq_some {data : List UInt8} : gives? network url = some data ↔
    Obtains network url data ∧ ∃ format, PictureFormat.ofData data = .ok format := by
  rw [← fetchImage_some,gives?]
  cases (fetchImage network url).picture <;> simp

theorem lookup_entry (cache : ImageCache) (url other : String) (picture : Option (List UInt8)) :
    ((picture.map fun data => (url,data)).toList ++ cache).lookup other =
      (if other = url then picture else none).or (cache.lookup other) := by
  cases picture with
  | none => simp
  | some data =>
    by_cases same : other = url
    · simp [same]
    · have apart : (other == url) = false := by simpa using same
      simp [same,List.lookup_cons,apart]

/-- After any moments the network has been asked for the remote addresses begun with, and the cache has
what the addresses that are settled give. -/
theorem run_ok (calm : ∀ url ∈ moments.filterMap Moment.settled?, ∀ fault, ¬ Aborts network url fault) :
    ∃ t, s.run network moments = .ok t ∧
      t.requests = s.requests ++ (moments.filterMap Moment.begun?).filter (! isDataUri ·) ∧
      ∀ url, t.cache.lookup url = (if url ∈ moments.filterMap Moment.settled? then gives? network url
        else none).or (s.cache.lookup url) := by
  induction moments generalizing s with
  | nil => exact ⟨s,rfl,by simp,by simp⟩
  | cons moment moments ih =>
    have later : ∀ url ∈ moments.filterMap Moment.settled?, ∀ fault, ¬ Aborts network url fault :=
      fun url member => calm url (by cases moment <;> simp_all [Moment.settled?])
    unfold run
    rw [List.foldlM_cons]
    cases moment with
    | begun url =>
      obtain ⟨t,ran,requests,cache⟩ := ih later
        (s := { s with requests := s.requests ++ [url].filter (! isDataUri ·) })
      refine ⟨t,by rw [next_begun]; exact ran,?_,cache⟩
      rw [requests,List.append_assoc,← List.filter_append]
      rfl
    | settled url =>
      cases came : (fetchImage network url).picture with
      | error fault => exact absurd (fetchImage_error.mp came) (calm url (by simp [Moment.settled?]) _)
      | ok picture =>
        have given : gives? network url = picture := by rw [gives?,came]
        obtain ⟨t,ran,requests,cache⟩ := ih later
          (s := { s with cache := (picture.map fun data => (url,data)).toList ++ s.cache })
        refine ⟨t,by rw [next_settled came]; exact ran,requests,fun other => ?_⟩
        have members : other ∈ (Moment.settled url :: moments).filterMap Moment.settled? ↔
            other = url ∨ other ∈ moments.filterMap Moment.settled? := List.mem_cons
        rw [cache,lookup_entry]
        simp only [members]
        by_cases same : other = url
        · subst same
          cases picture <;> by_cases again : other ∈ moments.filterMap Moment.settled? <;>
            simp only [given,again,if_true,if_false,true_or,Option.none_or,Option.some_or]
        · simp only [same,false_or,if_false,Option.none_or]

end Fetching

/-- Begun with and settled in any order, the addresses that a tree shows come to the cache that they come
to one after the other: it has the data that an address of the tree gives if they are of a known format,
and nothing else. The network is asked once for each remote address of the tree, and for no other. -/
theorem fetched_anyOrder (network : Network) (doc : Node)
    (answers : ∀ url className message, doc.Shows url → isDataUri url = false →
      network url ≠ .fault className message)
    (payloads : ∀ url data fault, doc.Shows url → Obtains network url data →
      PictureFormat.ofData data = .error fault → fault.isUnusable = true)
    (moments : List Moment) (begun : (moments.filterMap Moment.begun?).Perm doc.imageUrls)
    (settled : (moments.filterMap Moment.settled?).Perm doc.imageUrls) :
    ∃ s cache, Fetching.run network {} moments = .ok s ∧ (resolveImages network doc).cache = .ok cache ∧
      (∀ url, s.cache.lookup url = cache.lookup url) ∧
      (∀ url data, s.cache.lookup url = some data ↔
        doc.Shows url ∧ Obtains network url data ∧ ∃ format, PictureFormat.ofData data = .ok format) ∧
      s.requests.Perm (resolveImages network doc).requests ∧
      (∀ url, doc.Shows url → isDataUri url = false → s.requests.count url = 1) ∧
      ∀ url ∈ s.requests, doc.Shows url ∧ isDataUri url = false := by
  have calm : ∀ url fault, doc.Shows url → ¬ Aborts network url fault := by
    intro url fault shown aborts
    cases aborts with
    | network remote fault => exact answers _ _ _ shown remote fault
    | picture obtained unread fatal => simp [payloads _ _ _ shown obtained unread] at fatal
  have settles : ∀ url ∈ moments.filterMap Moment.settled?, ∀ fault, ¬ Aborts network url fault :=
    fun url member fault => calm url fault (Node.mem_imageUrls.mp (settled.mem_iff.mp member))
  obtain ⟨s,ran,requests,entries⟩ := Fetching.run_ok (s := {}) settles
  have found : ∀ url data, s.cache.lookup url = some data ↔
      doc.Shows url ∧ Obtains network url data ∧ ∃ format, PictureFormat.ofData data = .ok format := by
    intro url data
    rw [entries,← Fetching.gives?_eq_some,← Node.mem_imageUrls,← settled.mem_iff]
    by_cases member : url ∈ moments.filterMap Moment.settled? <;> simp [member]
  cases resolved : (resolveImages network doc).cache with
  | error fault =>
    obtain ⟨url,shown,aborts⟩ := resolveImages_error resolved
    exact absurd aborts (calm url fault shown)
  | ok cache =>
    have same := (resolveImages_ok resolved).2
    have asked : s.requests.Perm (resolveImages network doc).requests := by
      rw [requests,resolveImages_requests]
      exact begun.filter _
    have remote (url : String) : url ∈ (resolveImages network doc).requests ↔
        doc.Shows url ∧ isDataUri url = false := by
      simp [resolveImages_requests,Node.mem_imageUrls]
    refine ⟨s,cache,ran,rfl,fun url => ?_,found,asked,fun url shown own => ?_,fun url member => ?_⟩
    · exact Option.ext fun data => (found url data).trans (same url data).symm
    · have distinct : (resolveImages network doc).requests.Nodup := by
        rw [resolveImages_requests]
        exact doc.imageUrls_nodup.filter _
      rw [asked.count_eq]
      exact List.count_eq_one_of_mem distinct ((remote url).mpr ⟨shown,own⟩)
    · exact (remote url).mp (asked.mem_iff.mp member)

/-- A picture that says no more than how large it is. -/
def sizedPicture : List UInt8 := [0x47,0x49,0x46,0x38,0x39,0x61,1,0,1,0]

def sizedPictureUri : String := "data:image/gif;base64,R0lGODlhAQABAA=="

/-- One address has the picture, one has none, and no other answers in time. -/
def pictureNetwork : Network := fun url =>
  if url = "http://x/a" then .answer 200 sizedPicture
  else if url = "http://x/b" then .answer 404 [] else .timeout

def picturedDocument : Node := .mk .document {} [
  .mk .paragraph {} [.mk .image { url := "http://x/a" } [],.mk .image { url := sizedPictureUri } []],
  .mk .heading {} [.mk .link {} [.mk .image { url := "http://x/b" } []]],
  .mk .paragraph {} [.mk .image { url := "http://x/a" } []]]

/-- The address that is asked for first is answered last. -/
theorem fetched_anyOrder_overtaken :
    ∃ s cache, Fetching.run pictureNetwork {} [.begun "http://x/a",.begun sizedPictureUri,
        .settled sizedPictureUri,.begun "http://x/b",.settled "http://x/b",.settled "http://x/a"] = .ok s ∧
      (resolveImages pictureNetwork picturedDocument).cache = .ok cache ∧
      (∀ url, s.cache.lookup url = cache.lookup url) ∧
      (∀ url data, s.cache.lookup url = some data ↔ picturedDocument.Shows url ∧
        Obtains pictureNetwork url data ∧ ∃ format, PictureFormat.ofData data = .ok format) ∧
      s.requests.Perm (resolveImages pictureNetwork picturedDocument).requests ∧
      (∀ url, picturedDocument.Shows url → isDataUri url = false → s.requests.count url = 1) ∧
      ∀ url ∈ s.requests, picturedDocument.Shows url ∧ isDataUri url = false := by
  have shown : picturedDocument.imageUrls = ["http://x/a",sizedPictureUri,"http://x/b"] := by decide +kernel
  refine fetched_anyOrder pictureNetwork picturedDocument ?_ ?_ _ (by rw [shown]; decide)
    (by rw [shown]; decide)
  · intro url className message _ _ fault
    simp only [pictureNetwork] at fault
    split at fault
    · cases fault
    · split at fault <;> cases fault
  · intro url data fault shows obtained unread
    have same : data = sizedPicture := by
      cases obtained with
      | fetched _ status answer success =>
        simp only [pictureNetwork] at answer
        split at answer
        · cases answer
          rfl
        · split at answer <;> cases answer
          omega
      | inside own decoded =>
        rcases (by simpa [shown] using Node.mem_imageUrls.mpr shows : url = _ ∨ url = _ ∨ url = _)
          with rfl | rfl | rfl
        · exact absurd own (by decide)
        · exact Option.some.inj (decoded.symm.trans (by decide +kernel))
        · exact absurd own (by decide)
    have read : PictureFormat.ofData sizedPicture = .ok .gif := by decide +kernel
    rw [same,read] at unread
    cases unread

end DocPress
