import MacroDoc.Decimal.Binary
import MacroDoc.Text.Utf8
import MacroDoc.Fault

/-!
# Picture headers

A picture is placed by what its header says: a width and height in pixels and a resolution
in dots per inch for each direction. Most formats give the pixel sizes as whole numbers; a
TIFF header gives whatever its fields hold, which may be a ratio, a text or nothing at all,
and such a size is refused only when it is divided by the resolution.

Headers are read with a byte reader that knows its byte order. Every read names a position
and a count; a read past the end is refused as a picture that ends too early.

## Main definitions

* `Document.HeaderValue`: a pixel size as a header gives it.
* `Document.Picture`: the sizes and resolutions of a picture.
* `Document.ByteReader`: reading numbers and texts from bytes in one byte order.
-/

namespace MacroDoc.Document

/-- A pixel size as a picture header gives it. -/
inductive HeaderValue where
  /-- A whole number. -/
  | whole (n : Nat)
  /-- The ratio of two whole numbers, as a floating-point number. -/
  | ratio (x : Float)
  /-- A text. -/
  | text (s : String)
  /-- No value. -/
  | missing

/-- The sizes and resolutions of a picture. -/
structure Picture where
  pxWidth : HeaderValue
  pxHeight : HeaderValue
  horzDpi : Nat
  vertDpi : Nat

/-- The refusal of bytes that are no known kind of picture. -/
def unknownPicture : Fault := ⟨.unknownPicture, ""⟩

/-- The refusal of a picture that ends too early. -/
def truncatedPicture : Fault := ⟨.truncatedPicture, ""⟩

/-- The bytes at a position, if that many are there. -/
def bytesAt (b : ByteArray) (pos count : Nat) : Except Fault (List Nat) :=
  if pos + count ≤ b.size then .ok ((b.extract pos (pos + count)).toList.map (·.toNat))
  else .error truncatedPicture

/-- A whole number of bytes, most significant first. -/
def bigEndian (bs : List Nat) : Nat := bs.foldl (fun n x => 256 * n + x) 0

/-- A whole number of bytes, least significant first. -/
def littleEndian (bs : List Nat) : Nat := bs.foldr (fun x n => 256 * n + x) 0

/-- Whether bytes hold a signature at an offset. -/
def hasSignature (b : ByteArray) (offset : Nat) (sig : List Nat) : Bool :=
  (b.extract offset (offset + sig.length)).toList.map (·.toNat) == sig

/-- The bytes of a text of ASCII letters. -/
def asciiBytes (s : String) : List Nat := s.toList.map Char.toNat

/-- Dots per inch from dots per unit length, where `perInch` is the unit in inches: the
product rounded half to even. -/
def dpiOf (perUnit : Nat) (perInch : Float) : Nat :=
  ((Decimal.roundToInt (Decimal.ofInt perUnit * perInch)).getD 0).toNat

/-- Bytes read in one byte order. -/
structure ByteReader where
  bytes : ByteArray
  /-- Whether numbers are stored most significant byte first. -/
  bigFirst : Bool

namespace ByteReader

/-- A whole number of `count` bytes at a position. -/
def number (r : ByteReader) (pos count : Nat) : Except Fault Nat := do
  let bs ← bytesAt r.bytes pos count
  return if r.bigFirst then bigEndian bs else littleEndian bs

/-- One byte at a position. -/
def byte (r : ByteReader) (pos : Nat) : Except Fault Nat := r.number pos 1

/-- A two-byte number at a position. -/
def short (r : ByteReader) (pos : Nat) : Except Fault Nat := r.number pos 2

/-- A four-byte number at a position. -/
def long (r : ByteReader) (pos : Nat) : Except Fault Nat := r.number pos 4

/-- A text of `count` bytes at a position, read as UTF-8. -/
def text (r : ByteReader) (pos count : Nat) : Except Fault String := do
  let _ ← bytesAt r.bytes pos count
  match Text.decodeUtf8 (r.bytes.extract pos (pos + count)) with
  | .ok s => .ok s
  | .error f => .error ⟨.badEncoding, f.message⟩

end ByteReader

end MacroDoc.Document
