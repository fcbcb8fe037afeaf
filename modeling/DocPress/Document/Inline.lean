import DocPress.Document.Model
import DocPress.LogRecord
import DocPress.Markdown.Node
import DocPress.Style.Config
import DocPress.Text.Quoted

/-!
The inline nodes of a tree as texts, links and pictures. The look that enclosing nodes ask for
travels down as a value, so siblings never see each other's.
-/

namespace DocPress

abbrev ImageCache := List (String × List UInt8)

structure Emphasis where
  bold : Bool := false
  italic : Bool := false
  strike : Bool := false
  deriving DecidableEq, Repr

def Emphasis.merge (a b : Emphasis) : Emphasis :=
  ⟨a.bold || b.bold,a.italic || b.italic,a.strike || b.strike⟩

structure Override where
  color : Option String := none
  font : Option String := none
  size : Option Int := none
  underline : Bool := false
  deriving DecidableEq, Repr

def textOr (text : Option String) (fallback : String) : String :=
  match text with
  | some s => if s.isEmpty then fallback else s
  | none => fallback

def sizeOr (size : Option Int) (fallback : Int) : Int :=
  match size with
  | some n => if n = 0 then fallback else n
  | none => fallback

def textRun (c : StyleConfig) (text : String) (e : Emphasis) (o : Override) : Run where
  text := text
  bold := e.bold
  italic := e.italic
  strike := e.strike
  underline := o.underline
  font := textOr o.font c.font.body
  color := textOr o.color c.typography.body
  size := sizeOr o.size c.sizes.body

def codeRun (c : StyleConfig) (text : String) : Run where
  text := text
  font := c.font.code
  color := c.inlineCode.color
  size := c.sizes.code
  shading := some ⟨c.inlineCode.background⟩

def placeholderRun (c : StyleConfig) (alt : String) : Run where
  text := imagePlaceholder alt
  italic := true
  font := c.font.body
  color := placeholderColor
  size := c.sizes.body

def imageWidth : Int := 400

def imageHeight : Int := 300

def linkOverride (c : StyleConfig) : Override where
  color := some c.typography.link
  underline := true

/-- A link around what its children became. Links within it are dissolved, and one that would be
empty shows its address. -/
def hyperlink (c : StyleConfig) (url : String) (e : Emphasis) (inner : List Inline) : Hyperlink :=
  let leaves := inner.flatMap Inline.leaves
  ⟨url,if leaves.isEmpty then [.run (textRun c url e (linkOverride c))] else leaves⟩

namespace Node

mutual

/-- What an inline node becomes. A node that cannot stand in a line becomes an empty text. -/
def inlines (c : StyleConfig) (images : ImageCache) (e : Emphasis) (o : Override) :
    Node → List Inline
  | mk .text p _ => [.run (textRun c p.text e o)]
  | mk .emphasis _ cs => forestInlines c images (e.merge { italic := true }) o cs
  | mk .strong _ cs => forestInlines c images (e.merge { bold := true }) o cs
  | mk .delete _ cs => forestInlines c images (e.merge { strike := true }) o cs
  | mk .inlineCode p _ => [.run (codeRun c p.text)]
  | mk .link p cs =>
    [.link (hyperlink c p.url e (forestInlines c images e (linkOverride c) cs))]
  | mk .image p _ =>
    match images.lookup p.url with
    | some data => [.image ⟨data,imageWidth,imageHeight,p.alt⟩]
    | none => [.run (placeholderRun c p.alt)]
  | mk _ _ _ => [.run {}]

def forestInlines (c : StyleConfig) (images : ImageCache) (e : Emphasis) (o : Override) :
    List Node → List Inline
  | [] => []
  | n :: ns => n.inlines c images e o ++ forestInlines c images e o ns

end

mutual

def inlineLog : Node → List LogRecord
  | mk .text _ _ => []
  | mk .emphasis _ cs => forestInlineLog cs
  | mk .strong _ cs => forestInlineLog cs
  | mk .delete _ cs => forestInlineLog cs
  | mk .inlineCode _ _ => []
  | mk .link _ cs => forestInlineLog cs
  | mk .image _ _ => []
  | mk k _ _ =>
    [.warning s!"Unsupported inline node {Text.quoted k.name}; emitting empty run"]

def forestInlineLog : List Node → List LogRecord
  | [] => []
  | n :: ns => n.inlineLog ++ forestInlineLog ns

end

end Node

end DocPress
