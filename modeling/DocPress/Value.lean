import DocPress.Number.Decimal
import DocPress.Text.Quoted

/-!
Values without a schema, as a settings file or a caller gives them. Whole numbers and
floating-point numbers are two kinds: `14` and `14.0` differ until somebody asks for their size.
-/

namespace DocPress

/-- A value of any shape. The fields of an object keep the order of their first appearance. -/
inductive Value where
  | null
  | bool (b : Bool)
  | int (n : Int)
  | float (x : Number.Binary64)
  | string (s : String)
  | array (items : List Value)
  | object (fields : List (String × Value))
  deriving Inhabited

namespace Value

def fields? : Value → Option (List (String × Value))
  | object fields => some fields
  | _ => none

def kindName : Value → String
  | null => "NoneType"
  | bool _ => "bool"
  | int _ => "int"
  | float _ => "float"
  | string _ => "str"
  | array _ => "list"
  | object _ => "dict"

/-- Puts a field into an object: a known key keeps its place and gets the new value. -/
def insertField (key : String) (value : Value) : List (String × Value) → List (String × Value)
  | [] => [(key,value)]
  | (k,v) :: rest => if k = key then (k,value) :: rest else (k,v) :: insertField key value rest

mutual

def shown : Value → String
  | null => "None"
  | bool true => "True"
  | bool false => "False"
  | int n => toString n
  | float x => x.shortest
  | string s => Text.quoted s
  | array items => "[" ++ ", ".intercalate (shownItems items) ++ "]"
  | object fields => "\x7b" ++ ", ".intercalate (shownFields fields) ++ "\x7d"

def shownItems : List Value → List String
  | [] => []
  | v :: vs => v.shown :: shownItems vs

def shownFields : List (String × Value) → List String
  | [] => []
  | (k,v) :: rest => (Text.quoted k ++ ": " ++ v.shown) :: shownFields rest

end

end Value

end DocPress
