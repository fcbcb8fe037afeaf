import DocPress.Picture.Fetch
import DocPress.Proofs.Picture.Collect

/-! When the pictures of a tree come to a cache, and what is in it. Main statement: they do unless an
address that the tree shows aborts, and then the cache has for each of these addresses the data that it
gives, if these are of a known format, and nothing else (`resolveImages_cache`). -/

namespace DocPress

/-! ### The addresses of a tree -/

namespace Node

/-- A node is a tree itself or lies below it. -/
inductive Within (m : Node) : Node → Prop where
  | top : Within m m
  | child {k : NodeKind} {p : NodeProps} {cs : List Node} {n : Node} (member : n ∈ cs)
      (within : Within m n) : Within m (mk k p cs)

/-- A picture of the tree lies at the address. -/
def Shows (n : Node) (url : String) : Prop :=
  url ≠ "" ∧ ∃ p cs, (mk .image p cs).Within n ∧ p.url = url

variable {k : NodeKind} {p : NodeProps} {cs : List Node} {m n : Node} {url : String}

theorem within_mk : m.Within (mk k p cs) ↔ m = mk k p cs ∨ ∃ n ∈ cs, m.Within n := by
  constructor
  · intro within
    cases within with
    | top => exact .inl rfl
    | child member within => exact .inr ⟨_,member,within⟩
  · rintro (rfl | ⟨n,member,within⟩)
    · exact .top
    · exact .child member within

theorem mem_preorder : m ∈ n.preorder ↔ m.Within n := by
  induction n using Node.induct with
  | step k p cs ih =>
    rw [preorder,List.mem_cons,within_mk,mem_preorders]
    exact or_congr_right (exists_congr fun n => and_congr_right (ih n))

theorem mem_imageUrls : url ∈ n.imageUrls ↔ n.Shows url := by
  unfold Shows
  rw [imageUrls_eq,List.mem_eraseDups,List.mem_filterMap]
  constructor
  · rintro ⟨⟨k,p,cs⟩,member,found⟩
    obtain ⟨rfl,filled,same⟩ := pictureUrl?_eq_some.mp found
    exact ⟨filled,p,cs,mem_preorder.mp member,same⟩
  · rintro ⟨filled,p,cs,within,same⟩
    exact ⟨_,mem_preorder.mpr within,pictureUrl?_eq_some.mpr ⟨rfl,filled,same⟩⟩

end Node

/-! ### What comes of one address -/

/-- The data that an address gives: those it holds itself, or those the network answers with. -/
inductive Obtains (network : Network) (url : String) (data : List UInt8) : Prop where
  | inside (own : isDataUri url = true) (decoded : decodeDataUri? url = some data)
      (filled : data ≠ [])
  | fetched (remote : isDataUri url = false) (status : Int)
      (answer : network url = .answer status data) (success : 200 ≤ status ∧ status ≤ 299)
      (filled : data ≠ [])

/-- The address ends the whole conversion: through the network, or through data that are no picture
in another way than those that are left out. -/
inductive Aborts (network : Network) (url : String) : FetchFault → Prop where
  | network (remote : isDataUri url = false) {className message : String}
      (fault : network url = .fault className message) : Aborts network url (.network className message)
  | picture {data : List UInt8} {fault : PictureFault} (obtained : Obtains network url data)
      (unread : PictureFormat.ofData data = .error fault) (fatal : fault.isUnusable = false) :
      Aborts network url (.picture fault)

section Address

variable {network : Network} {url shown : String} {data other taken : List UInt8}
  {log : List LogRecord} {fault : FetchFault}

theorem Obtains.unique (first : Obtains network url data) (second : Obtains network url other) :
    data = other := by
  cases first <;> cases second <;> simp_all

theorem takeAnswer_answer {status : Int} (remote : isDataUri url = false)
    (answer : network url = .answer status data) :
    (Obtains network url data ∧ ∃ log, takeAnswer url (.answer status data) = takeData url data log) ∨
      (∀ data, ¬ Obtains network url data) ∧ (takeAnswer url (.answer status data)).picture = .ok none := by
  have only {other : List UInt8} (obtained : Obtains network url other) :
      ¬ (status < 200 ∨ 299 < status) ∧ data ≠ [] := by
    cases obtained with
    | inside own => simp [remote] at own
    | fetched _ _ found success filled =>
      cases answer.symm.trans found
      exact ⟨by omega,filled⟩
  unfold takeAnswer
  dsimp only
  by_cases error : status < 200 ∨ 299 < status
  · exact .inr ⟨fun _ obtained => (only obtained).1 error,by simp [error]⟩
  by_cases empty : data = []
  · exact .inr ⟨fun _ obtained => (only obtained).2 empty,by simp [error,empty]⟩
  · have obtained : Obtains network url data := .fetched remote status answer (by omega) empty
    rw [if_neg (by simpa using error),if_neg (by simpa using empty)]
    exact .inl ⟨obtained,_,rfl⟩

theorem fetchImage_remote (remote : isDataUri url = false) :
    fetchImage network url = { takeAnswer url (network url) with requests := [url] } := by
  unfold fetchImage
  rw [remote]
  rfl

/-- What can come of an address: data to be taken, a fault of the network, or nothing. -/
theorem fetchImage_cases :
    (∃ data, Obtains network url data ∧ ∃ shown log,
      (fetchImage network url).picture = (takeData shown data log).picture) ∨
    (∃ className message, isDataUri url = false ∧ network url = .fault className message ∧
      (fetchImage network url).picture = .error (.network className message)) ∨
    (isDataUri url = true ∨ ∀ className message, network url ≠ .fault className message) ∧
      (∀ data, ¬ Obtains network url data) ∧ (fetchImage network url).picture = .ok none := by
  cases own : isDataUri url with
  | true =>
    unfold fetchImage
    rw [own]
    cases decoded : (decodeDataUri? url).filter (! ·.isEmpty) with
    | none =>
      refine .inr (.inr ⟨.inl rfl,fun data obtained => ?_,rfl⟩)
      cases obtained with
      | inside _ found filled => simp [found,filled] at decoded
      | fetched remote => simp [own] at remote
    | some data =>
      obtain ⟨found,filled⟩ := Option.filter_eq_some_iff.mp decoded
      exact .inl ⟨data,.inside own found (by simpa using filled),_,_,rfl⟩
  | false =>
    have remote {data : List UInt8} (obtained : Obtains network url data) :
        ∃ status, network url = .answer status data := by
      cases obtained with
      | inside inside => simp [own] at inside
      | fetched _ status answer => exact ⟨status,answer⟩
    rw [fetchImage_remote own]
    cases answer : network url with
    | fault className message => exact .inr (.inl ⟨className,message,rfl,rfl,rfl⟩)
    | answer status data =>
      rcases takeAnswer_answer own answer with ⟨obtained,log,takes⟩ | nothing
      · exact .inl ⟨data,obtained,url,log,by rw [takes]⟩
      · exact .inr (.inr ⟨.inr (by simp),nothing⟩)
    | _ =>
      refine .inr (.inr ⟨.inr (by simp),fun data obtained => ?_,rfl⟩)
      obtain ⟨_,same⟩ := remote obtained
      simp [answer] at same

theorem takeData_requests : (takeData shown data log).requests = [] := by
  unfold takeData
  cases isEmbeddable data with
  | error fault => rfl
  | ok embeddable => cases embeddable <;> rfl

/-- The network is asked for an address that does not hold its picture itself, and only once. -/
theorem fetchImage_requests (network : Network) (url : String) :
    (fetchImage network url).requests = [url].filter (! isDataUri ·) := by
  cases own : isDataUri url with
  | false =>
    rw [fetchImage_remote own]
    simp [own]
  | true =>
    unfold fetchImage
    rw [own,if_pos rfl]
    cases (decodeDataUri? url).filter (! ·.isEmpty) with
    | none => simp [own]
    | some data => simp [takeData_requests,own]

theorem takeData_some :
    (takeData shown data log).picture = .ok (some taken) ↔
      taken = data ∧ ∃ format, PictureFormat.ofData data = .ok format := by
  unfold takeData isEmbeddable
  cases PictureFormat.ofData data with
  | ok format => simp [eq_comm]
  | error unread => cases usable : unread.isUnusable <;> simp [usable]

theorem takeData_error :
    (takeData shown data log).picture = .error fault ↔ ∃ unread,
      PictureFormat.ofData data = .error unread ∧ unread.isUnusable = false ∧
        fault = .picture unread := by
  unfold takeData isEmbeddable
  cases PictureFormat.ofData data with
  | ok format => simp
  | error unread => cases usable : unread.isUnusable <;> simp [usable,eq_comm (a := fault)]

theorem fetchImage_some :
    (fetchImage network url).picture = .ok (some data) ↔
      Obtains network url data ∧ ∃ format, PictureFormat.ofData data = .ok format := by
  rcases @fetchImage_cases network url with ⟨other,obtained,shown,log,takes⟩ |
    ⟨className,message,remote,answer,ends⟩ | ⟨_,nothing,gone⟩
  · rw [takes,takeData_some]
    constructor
    · rintro ⟨rfl,known⟩
      exact ⟨obtained,known⟩
    · rintro ⟨same,known⟩
      cases obtained.unique same
      exact ⟨rfl,known⟩
  · rw [ends]
    refine ⟨nofun,?_⟩
    rintro ⟨obtained,-⟩
    cases obtained <;> simp_all
  · simp [gone,nothing]

theorem fetchImage_error :
    (fetchImage network url).picture = .error fault ↔ Aborts network url fault := by
  rcases @fetchImage_cases network url with ⟨data,obtained,shown,log,takes⟩ |
    ⟨className,message,remote,answer,ends⟩ | ⟨works,nothing,gone⟩
  · rw [takes,takeData_error]
    constructor
    · rintro ⟨unread,found,fatal,rfl⟩
      exact .picture obtained found fatal
    · intro aborts
      cases aborts with
      | network remote answer => cases obtained <;> simp_all
      | picture same found fatal =>
        cases obtained.unique same
        exact ⟨_,found,fatal,rfl⟩
  · rw [ends]
    constructor
    · intro same
      cases same
      exact .network remote answer
    · intro aborts
      cases aborts with
      | network _ other => simp_all
      | picture obtained => cases obtained <;> simp_all
  · rw [gone]
    refine ⟨nofun,fun aborts => ?_⟩
    cases aborts with
    | network remote answer => simp_all
    | picture obtained => exact absurd obtained (nothing _)

end Address

/-! ### The cache -/

section Cache

variable {network : Network} {doc : Node} {fetch : String → FetchResult} {urls : List String}
  {cache : ImageCache} {fault : FetchFault} {url : String} {data : List UInt8}

theorem gather_cons {result : FetchResult} {results : List (String × FetchResult)} :
    gather ((url,result) :: results) = result.picture.bind fun picture =>
      (gather results).map fun cache => (picture.map fun data => (url,data)).toList ++ cache := by
  rw [gather]
  cases result.picture with
  | error => rfl
  | ok => cases gather results <;> rfl

theorem gather_error (ended : gather (urls.map fun url => (url,fetch url)) = .error fault) :
    ∃ url ∈ urls, (fetch url).picture = .error fault := by
  induction urls with
  | nil => cases ended
  | cons first urls ih =>
    rw [List.map_cons,gather_cons] at ended
    cases picture : (fetch first).picture with
    | error found =>
      rw [picture] at ended
      cases ended
      exact ⟨first,List.mem_cons_self,picture⟩
    | ok data =>
      cases later : gather (urls.map fun url => (url,fetch url)) with
      | error found =>
        rw [picture,later] at ended
        cases ended
        obtain ⟨url,member,same⟩ := ih later
        exact ⟨url,List.mem_cons_of_mem _ member,same⟩
      | ok cache =>
        rw [picture,later] at ended
        cases ended

/-- A cache has no fault behind it, and every address has in it what came of it. -/
theorem gather_ok (gathered : gather (urls.map fun url => (url,fetch url)) = .ok cache) :
    (∀ url ∈ urls, ∃ picture, (fetch url).picture = .ok picture) ∧
      ∀ url data, cache.lookup url = some data ↔
        url ∈ urls ∧ (fetch url).picture = .ok (some data) := by
  induction urls generalizing cache with
  | nil =>
    cases gathered
    simp
  | cons first urls ih =>
    rw [List.map_cons,gather_cons] at gathered
    cases picture : (fetch first).picture with
    | error found =>
      rw [picture] at gathered
      cases gathered
    | ok came =>
      cases rest : gather (urls.map fun url => (url,fetch url)) with
      | error found =>
        rw [picture,rest] at gathered
        cases gathered
      | ok later =>
        rw [picture,rest] at gathered
        cases gathered
        obtain ⟨all,found⟩ := ih rest
        refine ⟨List.forall_mem_cons.mpr ⟨⟨came,picture⟩,all⟩,fun url data => ?_⟩
        by_cases same : url = first
        · subst same
          cases came with
          | none => simp [found,picture]
          | some => simp [picture]
        · have apart : (url == first) = false := by simpa using same
          cases came with
          | none => simp [found,same]
          | some => simp [found,same,List.lookup_cons,apart]

/-- The network is asked for what the addresses ask it for, one after the other. -/
theorem resolveImages_requests (network : Network) (doc : Node) :
    (resolveImages network doc).requests = doc.imageUrls.filter (! isDataUri ·) := by
  unfold resolveImages
  dsimp only
  induction doc.imageUrls with
  | nil => rfl
  | cons url urls ih =>
    rw [List.map_cons,List.flatMap_cons,ih,fetchImage_requests,← List.filter_append]
    rfl

theorem resolveImages_error (ended : (resolveImages network doc).cache = .error fault) :
    ∃ url, doc.Shows url ∧ Aborts network url fault := by
  have gathered : gather (doc.imageUrls.map fun url => (url,fetchImage network url)) = .error fault := ended
  obtain ⟨url,member,aborted⟩ := gather_error gathered
  exact ⟨url,Node.mem_imageUrls.mp member,fetchImage_error.mp aborted⟩

theorem resolveImages_ok (resolved : (resolveImages network doc).cache = .ok cache) :
    (∀ url fault, doc.Shows url → ¬ Aborts network url fault) ∧
      ∀ url data, cache.lookup url = some data ↔
        doc.Shows url ∧ Obtains network url data ∧ ∃ format, PictureFormat.ofData data = .ok format := by
  have gathered : gather (doc.imageUrls.map fun url => (url,fetchImage network url)) = .ok cache := resolved
  obtain ⟨all,found⟩ := gather_ok gathered
  refine ⟨fun url fault shown aborts => ?_,fun url data => ?_⟩
  · obtain ⟨picture,came⟩ := all url (Node.mem_imageUrls.mpr shown)
    cases came.symm.trans (fetchImage_error.mpr aborts)
  · rw [found,Node.mem_imageUrls,fetchImage_some]

end Cache

/-- The pictures of a tree come to a cache unless an address that the tree shows aborts, and a fault is
that of such an address. The cache has the data that an address of the tree gives if they are of a known
format, and nothing else. -/
theorem resolveImages_cache (network : Network) (doc : Node) :
    match (resolveImages network doc).cache with
    | .error fault => ∃ url, doc.Shows url ∧ Aborts network url fault
    | .ok cache =>
      (∀ url fault, doc.Shows url → ¬ Aborts network url fault) ∧
        ∀ url data, cache.lookup url = some data ↔
          doc.Shows url ∧ Obtains network url data ∧ ∃ format, PictureFormat.ofData data = .ok format := by
  cases resolved : (resolveImages network doc).cache with
  | error fault => exact resolveImages_error resolved
  | ok cache => exact resolveImages_ok resolved

/-- Neither an address that the network does not take nor a picture of six bytes is left out: both end
the conversion. -/
theorem resolveImages_ended :
    (resolveImages (fun _ => .fault "InvalidURL" "Invalid port: 'b'")
      (.mk .image { url := "http://a:b/c.png" } [])).cache.toOption = none ∧
    (resolveImages (fun _ => .timeout)
      (.mk .image { url := "data:image/gif;base64,R0lGODlh" } [])).cache.toOption = none := by
  decide +kernel

end DocPress
