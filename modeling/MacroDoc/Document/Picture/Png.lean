import MacroDoc.Document.Picture.Basic

/-!
# PNG headers

A PNG is an eight-byte signature and then chunks, each a four-byte length, a four-letter
type read as UTF-8, the data, and a four-byte check word. Chunks are read in order up to
the `IEND` chunk; a picture that ends first is refused. The data of an `IHDR` chunk (the
width and height) and of a `pHYs` chunk (two densities and a unit byte) are read as their
chunk is met.

The size comes from the first `IHDR` chunk, which must be there. The resolution comes from
the first `pHYs` chunk: with unit 1 (the metre) and a density that is not zero, the density
in dots per inch, rounded half to even; 72 dpi otherwise, and without the chunk.

## Main definitions

* `Document.PngChunk`: a chunk with what its data says.
* `Document.readPng`: a picture from its bytes.
-/

namespace MacroDoc.Document

/-- What a PNG chunk says. -/
inductive PngChunk where
  /-- The width and height. -/
  | header (width height : Nat)
  /-- The two densities and their unit. -/
  | density (horz vert unit : Nat)
  /-- The end of the picture. -/
  | finish
  /-- A chunk of another type. -/
  | other

/-- The chunk that starts at a position, and the length of its data. -/
def readChunk (r : ByteReader) (pos : Nat) : Except Fault (PngChunk × Nat) := do
  let length ← r.long pos
  let kind ← r.text (pos + 4) 4
  let data := pos + 8
  if kind == "IHDR" then
    let w ← r.long data
    let h ← r.long (data + 4)
    return (.header w h, length)
  else if kind == "pHYs" then
    let x ← r.long data
    let y ← r.long (data + 4)
    let unit ← r.byte (data + 8)
    return (.density x y unit, length)
  else if kind == "IEND" then return (.finish, length)
  else return (.other, length)

/-- The chunks from a position up to the `IEND` chunk. Every chunk moves the position by
at least twelve bytes, so `fuel` above a twelfth of the number of bytes is enough. -/
def pngChunks (r : ByteReader) : Nat → Nat → Except Fault (List PngChunk)
  | 0, _ => .ok []
  | fuel + 1, pos => do
    let (chunk, length) ← readChunk r pos
    match chunk with
    | .finish => return [chunk]
    | _ => return chunk :: (← pngChunks r fuel (pos + 12 + length))

/-- The resolution of a direction from its density and unit. -/
def pngDpi (perUnit unit : Nat) : Nat :=
  if unit == 1 && perUnit != 0 then dpiOf perUnit 0.0254 else 72

/-- A PNG from its bytes. -/
def readPng (b : ByteArray) : Except Fault Picture := do
  let chunks ← pngChunks ⟨b, true⟩ (b.size / 12 + 2) 8
  let size := chunks.findSome? fun
    | .header w h => some (w, h)
    | _ => none
  let density := chunks.findSome? fun
    | .density x y unit => some (pngDpi x unit, pngDpi y unit)
    | _ => none
  match size with
  | none => .error ⟨.malformedPicture, "no IHDR chunk in PNG image"⟩
  | some (w, h) =>
    let (x, y) := density.getD (72, 72)
    return ⟨.whole w, .whole h, x, y⟩

end MacroDoc.Document
