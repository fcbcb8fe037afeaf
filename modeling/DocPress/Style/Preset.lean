import DocPress.Value

/-!
The named looks that come with the library. Each is a partial configuration over the defaults.
-/

namespace DocPress

inductive Preset where
  | standard
  | academic
  | business
  | minimal
  deriving DecidableEq, Repr

structure UnknownPreset where
  name : String
  deriving DecidableEq, Repr

namespace Preset

def all : List Preset := [standard,academic,business,minimal]

def name : Preset → String
  | standard => "default"
  | academic => "academic"
  | business => "business"
  | minimal => "minimal"

def ofName (name : String) : Except UnknownPreset Preset :=
  match all.find? (·.name = name) with
  | some preset => .ok preset
  | none => .error ⟨name⟩

private def group (name : String) (fields : List (String × String)) : String × Value :=
  (name,.object (fields.map fun (k,v) => (k,.string v)))

private def sizes (fields : List (String × Int)) : String × Value :=
  ("sizes",.object (fields.map fun (k,n) => (k,.int n)))

def settings : Preset → Value
  | standard => .object []
  | academic => .object [
      group "font" [("heading","Times New Roman"),("body","Times New Roman"),
        ("code","Courier New")],
      sizes [("heading1",22),("heading2",18),("heading3",15),("body",12),("code",10)],
      group "typography" [("heading1","000000"),("heading2","000000"),("heading3","1A1A1A"),
        ("body","1A1A1A"),("link","1F4E79")],
      group "table" [("headerBackground","E7E6E6"),("borderColor","808080")],
      group "blockquote" [("border","808080"),("textColor","404040")]]
  | business => .object [
      group "font" [("heading","Arial"),("body","Arial"),("code","Consolas")],
      sizes [("heading1",20),("heading2",16),("heading3",13),("body",10),("code",9)],
      group "typography" [("heading1","1F3864"),("heading2","2F5496"),("heading3","2F5496"),
        ("link","0563C1")],
      group "table" [("headerBackground","1F3864"),("headerText","FFFFFF"),
        ("borderColor","8EAADB")],
      group "blockquote" [("background","EDF2F9"),("border","2F5496")],
      group "list" [("markerColor","2F5496")]]
  | minimal => .object [
      group "font" [("heading","Helvetica Neue"),("body","Helvetica Neue"),("code","Menlo")],
      sizes [("heading1",18),("heading2",15),("heading3",13),("heading4",11),("body",10),
        ("code",9)],
      group "typography" [("heading1","000000"),("heading2","000000"),("heading3","000000"),
        ("heading4","000000"),("heading5","000000"),("heading6","000000")],
      group "codeBlock" [("background","FAFAFA")],
      group "inlineCode" [("color","333333"),("background","F0F0F0")],
      ("table",.object [("headerBackground",.string "FFFFFF"),("boldHeader",.bool true),
        ("borderColor",.string "DDDDDD")]),
      group "blockquote" [("background","FFFFFF"),("border","DDDDDD"),
        ("textColor","666666")],
      group "thematicBreak" [("color","DDDDDD")]]

def choices : String := ", ".intercalate (all.map name)

end Preset

def UnknownPreset.message (e : UnknownPreset) : String :=
  s!"Unknown preset {Text.quoted e.name}. Choose from: {Preset.choices}"

end DocPress
