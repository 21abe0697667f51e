import MacroDoc.Fault
import MacroDoc.Json.Show
import MacroDoc.Decimal.Binary

/-!
# Warnings

A warning names a source line and says what is wrong with it:
`WARNING: line 3: unknown style`. The line is written as a whole number: a binary64 number
is cut toward zero and a boolean counts as 0 or 1; anything else cannot be a line number.
A warning has no text form of its own: asking for one fails.

## Main definitions

* `Warning.lineNumber`: a value read as a line number.
* `Warning.text`: the text of a warning.
* `Warning.textFormFault`: why the text form of a warning cannot be had.
-/

namespace MacroDoc.Warning

open Json

/-- A value read as a whole number for a line. -/
def lineNumber : Value → Except Fault Int
  | .int n => .ok n
  | .bool b => .ok (if b then 1 else 0)
  | .float x =>
    match Decimal.truncate x with
    | some n => .ok n
    | none => .error (Fault.noWholeValue (Decimal.isNotANumber x))
  | v => .error (Fault.badType ("%d format: a real number is required, not " ++ v.typeName))

/-- The text of a warning about a line. -/
def text (message line : Value) : Except Fault String := do
  let n ← lineNumber line
  pure ("WARNING: line " ++ toString n ++ ": " ++ message.shown)

/-- Why the text form of a warning cannot be had. -/
def textFormFault : Fault :=
  Fault.badType "GdocxWarning.__str__() takes 0 positional arguments but 1 was given"

end MacroDoc.Warning
