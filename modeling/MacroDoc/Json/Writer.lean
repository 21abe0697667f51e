import MacroDoc.Json.Value
import MacroDoc.Decimal.Shortest
import MacroDoc.Text.Quoted

/-!
# Writing data values as text

A value is written as JSON. Texts are written with their characters as they are, except the
quote, the backslash, the control characters and the kept lone surrogates, which are
escaped. A binary64 number is
written as its shortest decimal (see `Decimal.floatText`); the values that are not finite are
written `NaN`, `Infinity` and `-Infinity`. Keys keep their order; items are separated by a
comma and a space, a key from its value by a colon and a space.

## Main definitions

* `Json.escapeText`: a text as a JSON string literal.
* `Json.Value.write`: the text of a value.
-/

namespace MacroDoc.Json

/-- How one character is written inside a JSON string literal. -/
def escapeChar (c : Char) : List Char :=
  if c == '"' then ['\\', '"']
  else if c == '\\' then ['\\', '\\']
  else if c == '\n' then ['\\', 'n']
  else if c == '\r' then ['\\', 'r']
  else if c == '\t' then ['\\', 't']
  else if c == '\x08' then ['\\', 'b']
  else if c == '\x0c' then ['\\', 'f']
  else if c.toNat < 0x20 then ['\\', 'u'] ++ Text.hexDigits c.toNat 4
  else if let some unit := Text.keptSurrogate? c then ['\\', 'u'] ++ Text.hexDigits unit 4
  else [c]

/-- A text as a JSON string literal. -/
def escapeText (s : String) : String :=
  String.ofList (['"'] ++ s.toList.flatMap escapeChar ++ ['"'])

/-- The JSON text of a binary64 number. -/
def numberText (x : Float) : String :=
  match Decimal.kindOf x with
  | .notANumber => "NaN"
  | .infinite neg => if neg then "-Infinity" else "Infinity"
  | .finite _ => Decimal.floatText x

mutual

/-- The JSON text of a value. -/
def Value.write : Value → String
  | .null => "null"
  | .bool b => if b then "true" else "false"
  | .int n => toString n
  | .float x => numberText x
  | .str s => escapeText s
  | .arr items => "[" ++ ", ".intercalate (Value.writeList items) ++ "]"
  | .obj fields => "\x7b" ++ ", ".intercalate (Value.writeFields fields) ++ "\x7d"

/-- The JSON texts of the items of a list. -/
def Value.writeList : List Value → List String
  | [] => []
  | v :: rest => Value.write v :: Value.writeList rest

/-- The JSON texts of the entries of a mapping, `"key": value`. -/
def Value.writeFields : List (String × Value) → List String
  | [] => []
  | (k, v) :: rest => (escapeText k ++ ": " ++ Value.write v) :: Value.writeFields rest

end

end MacroDoc.Json
