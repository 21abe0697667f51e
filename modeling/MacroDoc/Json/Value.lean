/-!
# Data values

The values that style files, data files and requests are made of: null, booleans, integers
of any size, binary64 numbers, texts, lists and mappings. A mapping keeps its keys in the
order they first appeared, and a key appears once.

## Main definitions

* `Json.Value`: a data value.
* `Json.Value.field?`, `Json.Value.setField`: reading and writing a key of a mapping.
* `Json.Value.truthy`: whether a value counts as true where a condition is expected.
* `Json.Value.typeName`: the name of a value's type, as messages spell it.
-/

namespace MacroDoc.Json

/-- A data value. -/
inductive Value where
  | null
  | bool (b : Bool)
  | int (n : Int)
  | float (x : Float)
  | str (s : String)
  | arr (items : List Value)
  | obj (fields : List (String × Value))
  deriving Inhabited, Repr

namespace Value

/-- The value stored under a key of a field list. -/
def lookup (key : String) : List (String × Value) → Option Value
  | [] => none
  | (k, v) :: rest => if k == key then some v else lookup key rest

/-- The value of a mapping under a key; `none` for a missing key or a value that is not a
mapping. -/
def field? : Value → String → Option Value
  | .obj fields, key => lookup key fields
  | _, _ => none

/-- A field list with `key` set to `v`: a key that is present keeps its place. -/
def setIn (key : String) (v : Value) : List (String × Value) → List (String × Value)
  | [] => [(key, v)]
  | (k, w) :: rest => if k == key then (k, v) :: rest else (k, w) :: setIn key v rest

/-- A field list without `key`. -/
def removeIn (key : String) (fields : List (String × Value)) : List (String × Value) :=
  fields.filter (fun kv => kv.1 != key)

/-- Set a key of a mapping; other values are left alone. -/
def setField : Value → String → Value → Value
  | .obj fields, key, v => .obj (setIn key v fields)
  | other, _, _ => other

/-- Whether a value counts as true: null, false, zero, the empty text, the empty list and the
empty mapping do not. A number that is not a number counts as true. -/
def truthy : Value → Bool
  | .null => false
  | .bool b => b
  | .int n => n != 0
  | .float x => !(x == 0.0)
  | .str s => !s.isEmpty
  | .arr items => !items.isEmpty
  | .obj fields => !fields.isEmpty

/-- The name of a value's type, as messages spell it. -/
def typeName : Value → String
  | .null => "NoneType"
  | .bool _ => "bool"
  | .int _ => "int"
  | .float _ => "float"
  | .str _ => "str"
  | .arr _ => "list"
  | .obj _ => "dict"

/-- The text held by a value, if it is a text. -/
def asString? : Value → Option String
  | .str s => some s
  | _ => none

/-- The list held by a value, if it is a list. -/
def asList? : Value → Option (List Value)
  | .arr items => some items
  | _ => none

/-- The fields held by a value, if it is a mapping. -/
def asFields? : Value → Option (List (String × Value))
  | .obj fields => some fields
  | _ => none

end Value

end MacroDoc.Json
