import DocPress.Picture.Address

/-!
Fetching the pictures of a tree. Each address is asked for once; what cannot be fetched or used is
left out.
-/

namespace DocPress

inductive Fetched where
  | answer (status : Int) (body : List UInt8)
  | timeout
  | failed (reason : String)
  /-- A fault that ends the whole conversion. -/
  | fault (className message : String)
  deriving DecidableEq, Repr

abbrev Network := String → Fetched

inductive FetchFault where
  | network (className message : String)
  | picture (fault : PictureFault)
  deriving DecidableEq, Repr

def FetchFault.className : FetchFault → String
  | network className _ => className
  | picture fault => fault.className

def FetchFault.message : FetchFault → String
  | network _ message => message
  | picture fault => fault.message

structure FetchResult where
  picture : Except FetchFault (Option (List UInt8)) := .ok none
  log : List LogRecord := []
  requests : List String := []

def takeData (url : String) (data : List UInt8) (taken : List LogRecord) : FetchResult :=
  match isEmbeddable data with
  | .error fault => { picture := .error (.picture fault) }
  | .ok true => { picture := .ok (some data),log := taken }
  | .ok false => { log := embedLog url data }

def takeAnswer (url : String) : Fetched → FetchResult
  | .timeout => { log := [.warning s!"Timeout downloading image: {clipped 80 url}"] }
  | .failed reason => { log := [.warning s!"Failed to download image: {clipped 80 url} - {reason}"] }
  | .fault className message => { picture := .error (.network className message) }
  | .answer status body =>
    if status < 200 || 299 < status then
      { log := [.warning s!"HTTP {status} downloading image: {clipped 80 url}"] }
    else if body.isEmpty then
      { log := [.warning s!"Empty response body for image: {clipped 80 url}"] }
    else
      takeData url body [.debug s!"Downloaded image: {clipped 60 url} ({body.length} bytes)"]

def fetchImage (network : Network) (url : String) : FetchResult :=
  if isDataUri url then
    match (decodeDataUri? url).filter (! ·.isEmpty) with
    | none => { log := [.warning s!"Undecodable data URI image: {clipped 60 url}..."] }
    | some data => takeData (clipped 60 url) data []
  else
    { takeAnswer url (network url) with requests := [url] }

structure ImageResolution where
  cache : Except FetchFault ImageCache
  log : List LogRecord
  requests : List String

/-- The pictures among the results, or the first fault. -/
def gather : List (String × FetchResult) → Except FetchFault ImageCache
  | [] => .ok []
  | (url,result) :: rest => do
    let picture ← result.picture
    let cache ← gather rest
    return (picture.map fun data => (url,data)).toList ++ cache

def resolveImages (network : Network) (doc : Node) : ImageResolution :=
  let urls := doc.imageUrls
  let results := urls.map fun url => (url,fetchImage network url)
  let cache := gather results
  let summary := match cache with
    | .error _ => []
    | .ok cache =>
      let failed := urls.length - cache.length
      if urls.isEmpty then []
      else if failed = 0 then [.info s!"Resolved {cache.length} images"]
      else [.info s!"Resolved {cache.length}/{urls.length} images ({failed} failed)"]
  { cache
    log := results.flatMap (·.2.log) ++ summary
    requests := results.flatMap (·.2.requests) }

end DocPress
