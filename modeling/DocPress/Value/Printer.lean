import DocPress.Value

/-!
Writing values as JSON text.
-/

namespace DocPress.Value

def isLineBreaking (c : Char) : Bool :=
  let n := c.toNat
  n < 32 || n = 0x7F || n = 0x85 || n = 0x2028 || n = 0x2029

def jsonChar (c : Char) : List Char :=
  if c = '"' || c = '\\' then ['\\',c]
  else if c = '\n' then ['\\','n']
  else if c = '\r' then ['\\','r']
  else if c = '\t' then ['\\','t']
  else if isLineBreaking c then '\\' :: 'u' :: Text.paddedHex 4 c.toNat
  else [c]

def jsonString (s : String) : String :=
  String.ofList ('"' :: s.toList.flatMap jsonChar ++ ['"'])

mutual

def toJson : Value → String
  | null => "null"
  | bool true => "true"
  | bool false => "false"
  | int n => toString n
  | float x => x.shortest
  | string s => jsonString s
  | array items => "[" ++ ",".intercalate (jsonItems items) ++ "]"
  | object fields => "\x7b" ++ ",".intercalate (jsonFields fields) ++ "\x7d"

def jsonItems : List Value → List String
  | [] => []
  | v :: vs => v.toJson :: jsonItems vs

def jsonFields : List (String × Value) → List String
  | [] => []
  | (k,v) :: rest => (jsonString k ++ ":" ++ v.toJson) :: jsonFields rest

end

end DocPress.Value
