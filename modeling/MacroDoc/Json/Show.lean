import MacroDoc.Json.Value
import MacroDoc.Decimal.Shortest
import MacroDoc.Text.Quoted

/-!
# The shown form of a value

Where a value is turned into text for a document or a message, it is *shown*: null as
`None`, booleans as `True` and `False`, numbers in decimal (binary64 numbers as their
shortest decimal), a text as itself. Lists and mappings are shown in brackets and braces
with their items in *quoted* form: a text inside them is quoted (see `Text.quote`), and
everything else is shown.

## Main definitions

* `Json.Value.shown`: the shown form of a value.
* `Json.Value.quoted`: the quoted form, which differs only for texts.
-/

namespace MacroDoc.Json

mutual

/-- The shown form of a value. -/
def Value.shown : Value → String
  | .null => "None"
  | .bool b => if b then "True" else "False"
  | .int n => toString n
  | .float x => Decimal.floatText x
  | .str s => s
  | .arr items => "[" ++ ", ".intercalate (Value.quotedList items) ++ "]"
  | .obj fields => "\x7b" ++ ", ".intercalate (Value.quotedFields fields) ++ "\x7d"
termination_by structural v => v

/-- The quoted forms of the items of a list: a text is quoted, everything else is shown. -/
def Value.quotedList : List Value → List String
  | [] => []
  | .str s :: rest => Text.quote s :: Value.quotedList rest
  | v :: rest => Value.shown v :: Value.quotedList rest
termination_by structural items => items

/-- The quoted forms of the entries of a mapping, `key: value`. -/
def Value.quotedFields : List (String × Value) → List String
  | [] => []
  | (k, .str s) :: rest => (Text.quote k ++ ": " ++ Text.quote s) :: Value.quotedFields rest
  | (k, v) :: rest => (Text.quote k ++ ": " ++ Value.shown v) :: Value.quotedFields rest
termination_by structural fields => fields

end

/-- The quoted form of a value: a text is quoted, everything else is shown. -/
def Value.quoted : Value → String
  | .str s => Text.quote s
  | v => Value.shown v

end MacroDoc.Json
