import MacroDoc.Document.Picture.Tiff

/-!
# JPEG headers

A JPEG is a run of markers, each a byte `FF` (with any number of `FF` bytes of padding)
followed by a code; `FF 00` is not a marker. Most markers start a segment whose first two
bytes give its length, counted from the segment's start; the standalone markers (`01` and
`D0` to `D9`) have none. Markers are read from the start up to the first start of scan
(`DA`) or end of picture (`D9`); a picture that ends first is refused.

Three kinds of segment carry the header:

* a start of frame (`C0` to `CF`, except `C4`, `C8` and `CC`) holds the height and then the
  width, three and five bytes into the segment;
* an `APP0` segment holds a density unit nine bytes in (1 for inches, 2 for centimetres,
  anything else for none, which counts as 72 dpi) and the two densities after it;
* an `APP1` segment that starts with the `Exif` signature holds a TIFF header eight bytes
  in, whose resolutions it takes; any other `APP1` segment gives 72 dpi.

Segments are read as they are met, so a malformed `APP1` segment is refused even when the
picture takes its resolution from `APP0`. A JFIF picture takes its size from the first start
of frame and its resolution from the first `APP0` segment; an Exif picture takes its
resolution from the first `APP1` segment.

## Main definitions

* `Document.JpegMarker`: a marker with what its segment says.
* `Document.jpegMarkers`: the markers of a picture.
* `Document.readJfif`, `Document.readExif`: a picture from its bytes.
-/

namespace MacroDoc.Document

/-- The refusal of a picture that ends while a marker is looked for. -/
def markerPastEnd : Fault := Fault.broken "unexpected end of file"

/-- The code of the start of scan. -/
def startOfScan : Nat := 0xDA

/-- The code of the end of picture. -/
def endOfPicture : Nat := 0xD9

/-- Whether a marker code has no segment. -/
def isStandalone (code : Nat) : Bool := code == 0x01 || (0xD0 ≤ code && code ≤ 0xD9)

/-- Whether a marker code starts a frame. -/
def isStartOfFrame (code : Nat) : Bool :=
  0xC0 ≤ code && code ≤ 0xCF && code != 0xC4 && code != 0xC8 && code != 0xCC

/-- What a marker's segment says. -/
inductive MarkerInfo where
  /-- Nothing that is read. -/
  | plain
  /-- A density unit and the two densities. -/
  | density (unit horz vert : Nat)
  /-- Two resolutions in dots per inch. -/
  | resolution (horz vert : Nat)
  /-- The size of the frame. -/
  | frame (width height : Nat)

/-- A marker: its code, the length of its segment, and what the segment says. -/
structure JpegMarker where
  code : Nat
  length : Nat
  info : MarkerInfo

/-- The first position at or after `pos` whose byte passes a test, with that byte; `fuel`
bounds the positions looked at. -/
def findByte (b : ByteArray) (test : UInt8 → Bool) : Nat → Nat → Except Fault (Nat × UInt8)
  | 0, _ => .error markerPastEnd
  | fuel + 1, pos =>
    if h : pos < b.size then
      if test b[pos] then .ok (pos, b[pos]) else findByte b test fuel (pos + 1)
    else .error markerPastEnd

/-- The next marker at or after a position: its code and where its segment starts. Every
round moves past at least one byte, so `fuel` above the number of bytes is enough. -/
def nextMarker (b : ByteArray) : Nat → Nat → Except Fault (Nat × Nat)
  | 0, _ => .error markerPastEnd
  | fuel + 1, pos => do
    let (ff, _) ← findByte b (· == 0xFF) (b.size + 1) pos
    let (after, code) ← findByte b (· != 0xFF) (b.size + 1) (ff + 1)
    if code == 0 then nextMarker b fuel after else return (code.toNat, after + 1)

/-- The density dots per inch of an `APP0` segment. -/
def densityDpi (unit density : Nat) : Nat :=
  if unit == 1 then density else if unit == 2 then dpiOf density 2.54 else 72

/-- The marker of a code whose segment starts at a position. -/
def readMarker (r : ByteReader) (code pos : Nat) : Except Fault JpegMarker := do
  if code == 0xE0 then
    let length ← r.short pos
    let unit ← r.byte (pos + 9)
    let x ← r.short (pos + 10)
    let y ← r.short (pos + 12)
    return ⟨code, length, .density unit x y⟩
  else if code == 0xE1 then
    let length ← r.short pos
    if !hasSignature r.bytes (pos + 2) (asciiBytes "Exif" ++ [0, 0]) then
      return ⟨code, length, .resolution 72 72⟩
    let stop := if length < 8 then r.bytes.size else pos + length
    let tiff ← readTiff (r.bytes.extract (pos + 8) stop)
    return ⟨code, length, .resolution tiff.horzDpi tiff.vertDpi⟩
  else if isStartOfFrame code then
    let length ← r.short pos
    let height ← r.short (pos + 3)
    let width ← r.short (pos + 5)
    return ⟨code, length, .frame width height⟩
  else if isStandalone code then return ⟨code, 0, .plain⟩
  else return ⟨code, ← r.short pos, .plain⟩

/-- The markers from a position on, up to a start of scan or the end of picture. Every
marker starts past the position, so `fuel` above the number of bytes is enough. -/
def markersFrom (r : ByteReader) : Nat → Nat → Except Fault (List JpegMarker)
  | 0, _ => .ok []
  | fuel + 1, pos => do
    let (code, segment) ← nextMarker r.bytes (r.bytes.size + 1) pos
    let m ← readMarker r code segment
    if code == startOfScan || code == endOfPicture then return [m]
    return m :: (← markersFrom r fuel (segment + m.length))

/-- The markers of a picture. -/
def jpegMarkers (b : ByteArray) : Except Fault (List JpegMarker) :=
  markersFrom ⟨b, true⟩ (b.size + 1) 0

/-- The size of the first start of frame. -/
def frameSize (ms : List JpegMarker) : Except Fault (Nat × Nat) :=
  match ms.findSome? fun m => match m.info with
    | .frame w h => some (w, h)
    | _ => none with
  | some size => .ok size
  | none => .error ⟨.missingKey, "'no start of frame (SOFn) marker in image'"⟩

/-- A picture of the JFIF kind from its bytes. -/
def readJfif (b : ByteArray) : Except Fault Picture := do
  let ms ← jpegMarkers b
  let (w, h) ← frameSize ms
  let app0 := ms.findSome? fun m => match m.info with
    | .density unit x y => some (densityDpi unit x, densityDpi unit y)
    | _ => none
  match app0 with
  | some (x, y) => return ⟨.whole w, .whole h, x, y⟩
  | none => .error ⟨.missingKey, "'no APP0 marker in image'"⟩

/-- A picture of the Exif kind from its bytes. -/
def readExif (b : ByteArray) : Except Fault Picture := do
  let ms ← jpegMarkers b
  let (w, h) ← frameSize ms
  let app1 := ms.findSome? fun m => match m.info with
    | .resolution x y => some (x, y)
    | _ => none
  match app1 with
  | some (x, y) => return ⟨.whole w, .whole h, x, y⟩
  | none => .error ⟨.missingKey, "'no APP1 marker in image'"⟩

end MacroDoc.Document
