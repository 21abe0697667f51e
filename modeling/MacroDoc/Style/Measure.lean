import MacroDoc.Decimal.Literal
import MacroDoc.Json.Value
import MacroDoc.Json.Show
import MacroDoc.Fault

/-!
# Lengths from data values

A style file gives lengths as plain data values in some unit: centimetres for indents,
points for font sizes, multiples of single spacing for line spacing. A length in EMU is
the value times the unit's EMU, cut to a whole number.

The cut follows the type of the value. A whole number or a truth value is multiplied
exactly; a binary64 number is multiplied in binary64 and cut toward zero, and has no whole
part when it is infinite or not a number. A text times a whole number is the text written
that many times, and is then read as a decimal integer; a list likewise repeats, and a list
is no number. A mapping or null cannot be multiplied.

## Main definitions

* `Style.LengthUnit`: a unit of length, with its EMU and the name of its type.
* `Style.LengthUnit.scale`: a data value times a unit, as a whole number of EMU.
* `Json.Value.equalsNat`: whether a data value equals a whole number.
-/

namespace MacroDoc.Json

/-- Whether a data value equals a whole number, as numbers and truth values compare. -/
def Value.equalsNat (v : Value) (n : Nat) : Bool :=
  match v with
  | .int m => m == n
  | .bool b => (if b then 1 else 0) == n
  | .float x => x == Decimal.ofInt n
  | _ => false

end MacroDoc.Json

namespace MacroDoc.Style

open Json

/-- A unit of length: how many EMU it holds and the name its type goes by in messages. -/
structure LengthUnit where
  emu : Nat
  typeName : String

/-- The centimetre. -/
def LengthUnit.cm : LengthUnit := ⟨360000, "int"⟩

/-- The point. -/
def LengthUnit.pt : LengthUnit := ⟨12700, "int"⟩

/-- Single line spacing, twelve points, given as a length in twips. -/
def LengthUnit.singleLine : LengthUnit := ⟨152400, "Twips"⟩

/-- The fault of a text that is no decimal integer, or has too many digits. -/
def LengthUnit.badText (s : String) (times : Nat) : Decimal.IntReading → Fault
  | .tooLong digits =>
    Fault.badValue ("Exceeds the limit (4300 digits) for integer string conversion: value has "
      ++ toString digits ++ " digits; use sys.set_int_max_str_digits() to increase the limit")
  | _ => Fault.badValue ("invalid literal for int() with base 10: " ++
      Text.quoteCutRepeated 200 s times)

/-- A data value times a unit, as a whole number of EMU. -/
def LengthUnit.scale (u : LengthUnit) : Value → Except Fault Int
  | .int n => .ok (n * u.emu)
  | .bool b => .ok (if b then u.emu else 0)
  | .float x =>
    let y := x * Decimal.ofInt u.emu
    match Decimal.truncate y with
    | some n => .ok n
    | none => .error (Fault.noWholeValue (Decimal.isNotANumber y))
  | .str s =>
    match Decimal.readIntRepeated s u.emu with
    | .value n => .ok n
    | reading => .error (LengthUnit.badText s u.emu reading)
  | .arr _ => .error (Fault.badType
      "int() argument must be a string, a bytes-like object or a real number, not 'list'")
  | v => .error (Fault.badType ("unsupported operand type(s) for *: '" ++ v.typeName ++
      "' and '" ++ u.typeName ++ "'"))

end MacroDoc.Style
