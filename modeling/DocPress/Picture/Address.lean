import DocPress.Document.Inline
import DocPress.Markdown.Node
import DocPress.Picture.Format
import DocPress.Text.Base64

/-!
The addresses of the pictures in a tree, and the pictures that addresses hold in themselves.
-/

namespace DocPress

namespace Node

mutual

def size : Node → Nat
  | mk _ _ children => sizes children + 1

def sizes : List Node → Nat
  | [] => 0
  | n :: ns => n.size + sizes ns

end

theorem size_eq (n : Node) : n.size = sizes n.children + 1 := by
  obtain ⟨kind,props,children⟩ := n
  rw [size,Node.children]

theorem sizes_append (ms ns : List Node) : sizes (ms ++ ns) = sizes ms + sizes ns := by
  induction ms with
  | nil => rw [List.nil_append,sizes,Nat.zero_add]
  | cons m ms ih => rw [List.cons_append,sizes,sizes,ih,Nat.add_assoc]

/-- The address of a picture is put behind those already seen, unless it is one of them. -/
def see (seen : List String) (n : Node) : List String :=
  let url := n.props.url
  if n.kind = .image && ! url.isEmpty && ! seen.contains url then seen ++ [url] else seen

/-- Looks at the trees of a stack. The one on top is taken off, and its children are put in its
place. -/
def collect (seen : List String) : List Node → List String
  | [] => seen
  | n :: stack => collect (see seen n) (n.children ++ stack)
termination_by stack => sizes stack
decreasing_by
  rw [sizes_append,sizes,size_eq]
  omega

/-- The addresses of the pictures in a tree, each once, in the order in which they come up. -/
def imageUrls (n : Node) : List String := collect [] [n]

end Node

def isDataUri (url : String) : Bool := "data:".toList.isPrefixOf url.toList

def dataPayload? (url : String) : Option (List Char) :=
  let cs := url.toList
  let header := cs.takeWhile (· ≠ ',')
  let payload := cs.drop (header.length + 1)
  if ";base64".toList.isSuffixOf header && ! payload.isEmpty then some payload else none

def decodeDataUri? (url : String) : Option (List UInt8) :=
  (dataPayload? url).bind Text.Base64.decode?

def clipped (length : Nat) (url : String) : String := String.ofList (url.toList.take length)

def unusableData (url : String) (fault : PictureFault) : LogRecord :=
  .warning s!"Unusable image data from {clipped 80 url}: {fault.shown}"

/-- Can the data be put into a document? Some faults leave that open. -/
def isEmbeddable (data : List UInt8) : Except PictureFault Bool :=
  match PictureFormat.ofData data with
  | .ok _ => .ok true
  | .error fault => if fault.isUnusable then .ok false else .error fault

def embedLog (url : String) (data : List UInt8) : List LogRecord :=
  match PictureFormat.ofData data with
  | .ok _ => []
  | .error fault => if fault.isUnusable then [unusableData url fault] else []

end DocPress
