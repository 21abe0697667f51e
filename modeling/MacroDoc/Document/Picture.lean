import MacroDoc.Document.Picture.Jpeg
import MacroDoc.Document.Picture.Png

/-!
# Pictures

A picture is placed at a size in EMU. Its own size comes from its header: a side is
`pixels / dpi` inches, cut to whole EMU. A picture given one side keeps its proportions;
given both, it takes them.

The kind of picture is known from its first 32 bytes, tried in this order: PNG, TIFF (most
or least significant byte first), JFIF and Exif (a JPEG with its signature six bytes in),
GIF and BMP. A GIF has its size after the signature and 72 dpi. A BMP has its size and its
resolution in pixels per metre (96 dpi when that is zero) at fixed places.

## Main definitions

* `Document.Picture.read`: a picture from its bytes.
* `Document.Picture.extent`: the size a picture is placed at.
-/

namespace MacroDoc.Document

/-- A GIF from its bytes. -/
def readGif (b : ByteArray) : Except Fault Picture :=
  if b.size < 10 then .error ⟨.badLayout, "unpack requires a buffer of 4 bytes"⟩
  else
    let w := littleEndian ((b.extract 6 8).toList.map (·.toNat))
    let h := littleEndian ((b.extract 8 10).toList.map (·.toNat))
    .ok ⟨.whole w, .whole h, 72, 72⟩

/-- A BMP from its bytes. -/
def readBmp (b : ByteArray) : Except Fault Picture := do
  let r : ByteReader := ⟨b, false⟩
  let w ← r.long 0x12
  let h ← r.long 0x16
  let x ← r.long 0x26
  let y ← r.long 0x2A
  let dpi (perMetre : Nat) : Nat := if perMetre == 0 then 96 else dpiOf perMetre 0.0254
  return ⟨.whole w, .whole h, dpi x, dpi y⟩

/-- The kinds of picture: the signature, where it stands, and how the rest is read. -/
def pictureKinds : List (List Nat × Nat × (ByteArray → Except Fault Picture)) :=
  [([0x89, 0x50, 0x4E, 0x47, 0x0D, 0x0A, 0x1A, 0x0A], 0, readPng),
   (asciiBytes "JFIF", 6, readJfif),
   (asciiBytes "Exif", 6, readExif),
   (asciiBytes "GIF87a", 0, readGif),
   (asciiBytes "GIF89a", 0, readGif),
   ([0x4D, 0x4D, 0x00, 0x2A], 0, readTiff),
   ([0x49, 0x49, 0x2A, 0x00], 0, readTiff),
   (asciiBytes "BM", 0, readBmp)]

/-- A picture from its bytes, by the first kind whose signature its first bytes hold. -/
def Picture.read (b : ByteArray) : Except Fault Picture :=
  let head := b.extract 0 32
  match pictureKinds.find? fun (sig, offset, _) => hasSignature head offset sig with
  | some (_, _, reader) => reader b
  | none => .error unknownPicture

/-- The refusal to divide a value that is not a number by a resolution. -/
def notDivisible (typeName : String) : Fault :=
  Fault.badType ("unsupported operand type(s) for /: '" ++ typeName ++ "' and 'int'")

/-- One side in EMU: `pixels / dpi` inches, cut toward zero. -/
def sideEmu (px : HeaderValue) (dpi : Nat) : Except Fault Int :=
  match px with
  | .whole n =>
    if dpi == 0 then .error ⟨.divisionByZero, "division by zero"⟩
    else .ok ((Decimal.truncate (Decimal.nearest false n dpi * 914400.0)).getD 0)
  | .ratio x =>
    if dpi == 0 then .error ⟨.divisionByZero, "float division by zero"⟩
    else .ok ((Decimal.truncate (x / Decimal.ofInt dpi * 914400.0)).getD 0)
  | .text _ => .error (notDivisible "str")
  | .missing => .error (notDivisible "NoneType")

/-- The factor a given side makes of the picture's own side: `given / own`, refused when
the own side is zero. -/
def scaleFactor (given own : Int) : Except Fault Float :=
  if own == 0 then .error ⟨.divisionByZero, "float division by zero"⟩
  else .ok (Decimal.ofInt given / Decimal.ofInt own)

/-- A side scaled by a factor, rounded half to even; a product beyond the range of a float
has no whole value. -/
def scaleSide (side : Int) (factor : Float) : Except Fault Int :=
  let x := Decimal.ofInt side * factor
  match Decimal.roundToInt x with
  | some n => .ok n
  | none => .error (Fault.noWholeValue (Decimal.isNotANumber x))

/-- The size a picture is placed at, given neither, one or both sides in EMU. The factor
of a given side is found before the other side is read. -/
def Picture.extent (p : Picture) (width height : Option Int) : Except Fault (Int × Int) :=
  match width, height with
  | none, none => do return (← sideEmu p.pxWidth p.horzDpi, ← sideEmu p.pxHeight p.vertDpi)
  | none, some gh => do
    let factor ← scaleFactor gh (← sideEmu p.pxHeight p.vertDpi)
    let w ← sideEmu p.pxWidth p.horzDpi
    return (← scaleSide w factor, gh)
  | some gw, none => do
    let factor ← scaleFactor gw (← sideEmu p.pxWidth p.horzDpi)
    let h ← sideEmu p.pxHeight p.vertDpi
    return (gw, ← scaleSide h factor)
  | some gw, some gh => .ok (gw, gh)

end MacroDoc.Document
