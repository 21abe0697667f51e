import MacroDoc.Document.Picture.Basic

/-!
# TIFF headers

A TIFF header starts with its byte order (`MM` for most significant first, anything else
for least significant first) and the position of its first directory. The directory is a
count of entries, then entries of twelve bytes: a tag, a field type, a count of values and
a value or the position of one.

Only single values of a few field types are read: a two-byte or four-byte number, a ratio
of two four-byte numbers, and a text. Other entries hold a fixed text that says the type is
not read, so the header can hold a text where a number belongs; that is refused only when
the value is used.

A direction's resolution is 72 dpi without its entry. Otherwise the resolution unit decides:
unit 1 (no unit) gives 72 dpi, unit 2 (the inch, also when the unit is missing) takes the
value as it is, any other unit is taken as the centimetre. The result is rounded half to
even.

## Main definitions

* `Document.TiffEntries`: the entries of a directory.
* `Document.readTiff`: a picture from the bytes of a TIFF header.
-/

namespace MacroDoc.Document

/-- The tag of the picture width. -/
def widthTag : Nat := 0x100

/-- The tag of the picture height. -/
def heightTag : Nat := 0x101

/-- The tag of the horizontal resolution. -/
def horzResolutionTag : Nat := 0x11A

/-- The tag of the vertical resolution. -/
def vertResolutionTag : Nat := 0x11B

/-- The tag of the resolution unit. -/
def resolutionUnitTag : Nat := 0x128

/-- The refusal of a text of length below zero. -/
def negativeTextLength : Fault := ⟨.badLayout, "bad char in struct format"⟩

/-- The value of a directory entry at a position. The field type is read first, then the
tag, the count and the value position. -/
def readEntry (r : ByteReader) (pos : Nat) : Except Fault (Nat × HeaderValue) := do
  let fieldType ← r.short (pos + 2)
  let tag ← r.short pos
  let count ← r.long (pos + 4)
  let valueAt ← r.long (pos + 8)
  let value ← match fieldType with
    | 2 =>
      if count == 0 then .error negativeTextLength
      else HeaderValue.text <$> r.text valueAt (count - 1)
    | 3 =>
      if count == 1 then HeaderValue.whole <$> r.short (pos + 8)
      else pure (.text "Multi-value short integer NOT IMPLEMENTED")
    | 4 =>
      if count == 1 then HeaderValue.whole <$> r.long (pos + 8)
      else pure (.text "Multi-value long integer NOT IMPLEMENTED")
    | 5 =>
      if count == 1 then do
        let num ← r.long valueAt
        let den ← r.long (valueAt + 4)
        if den == 0 then .error ⟨.divisionByZero, "division by zero"⟩
        else pure (.ratio (Decimal.nearest false num den))
      else pure (.text "Multi-value Rational NOT IMPLEMENTED")
    | _ => pure (.text "UNIMPLEMENTED FIELD TYPE")
  return (tag, value)

/-- The entries of a directory, by tag; a tag given twice keeps its last value. -/
structure TiffEntries where
  entries : List (Nat × HeaderValue)

/-- The value of a tag, if the directory has it. -/
def TiffEntries.find? (t : TiffEntries) (tag : Nat) : Option HeaderValue :=
  (t.entries.reverse.find? (·.1 == tag)).map (·.2)

/-- The entries of the directory at a position, read in order. -/
def readEntries (r : ByteReader) (pos : Nat) : Except Fault TiffEntries := do
  let count ← r.short pos
  let entries ← (List.range count).mapM fun i => readEntry r (pos + 2 + 12 * i)
  return ⟨entries⟩

/-- Whether a value equals a whole number. -/
def HeaderValue.isWhole (v : HeaderValue) (n : Nat) : Bool :=
  match v with
  | .whole m => m == n
  | .ratio x => x == Decimal.ofInt n
  | _ => false

/-- A resolution value in dots per inch, when the unit is the inch. -/
def inchResolution : HeaderValue → Except Fault Nat
  | .whole n => .ok n
  | .ratio x => .ok ((Decimal.roundToInt x).getD 0).toNat
  | .text _ => .error (Fault.badType "type str doesn't define __round__ method")
  | .missing => .error (Fault.badType "type NoneType doesn't define __round__ method")

/-- A resolution value in dots per inch, when the unit is the centimetre. -/
def centimetreResolution : HeaderValue → Except Fault Nat
  | .whole n => .ok (dpiOf n 2.54)
  | .ratio x => .ok ((Decimal.roundToInt (x * 2.54)).getD 0).toNat
  | .text _ => .error (Fault.badType "can't multiply sequence by non-int of type 'float'")
  | .missing => .error (Fault.badType
      "unsupported operand type(s) for *: 'NoneType' and 'float'")

/-- The resolution of a direction, from its tag. -/
def TiffEntries.dpi (t : TiffEntries) (tag : Nat) : Except Fault Nat :=
  match t.find? tag with
  | none => .ok 72
  | some dots =>
    let unit := (t.find? resolutionUnitTag).getD (.whole 2)
    if unit.isWhole 1 then .ok 72
    else if unit.isWhole 2 then inchResolution dots
    else centimetreResolution dots

/-- A picture from the bytes of a TIFF header. -/
def readTiff (b : ByteArray) : Except Fault Picture := do
  let r : ByteReader := ⟨b, hasSignature b 0 (asciiBytes "MM")⟩
  let first ← r.long 4
  let t ← readEntries r first
  let horz ← t.dpi horzResolutionTag
  let vert ← t.dpi vertResolutionTag
  return ⟨(t.find? widthTag).getD .missing, (t.find? heightTag).getD .missing, horz, vert⟩

end MacroDoc.Document
