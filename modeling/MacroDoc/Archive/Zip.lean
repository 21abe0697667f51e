import MacroDoc.Archive.Bzip2
import MacroDoc.Archive.Crc
import MacroDoc.Archive.Inflate
import MacroDoc.Archive.Lzma
import MacroDoc.Fault
import MacroDoc.Text.Quoted
import MacroDoc.Text.Utf8

/-!
# Zip archives

A document package is a zip archive. The archive ends with an end record that says where its
directory is and how long it is; the directory lists every member with its name, its
method, its checksum, its sizes and where its local header is. A member's bytes follow its
local header, stored as they are or compressed with deflate, bzip2 or LZMA.

The end record is found in the last 22 bytes, or, when the archive ends with a comment,
searched for backwards through the last 64 KiB. A file shorter than one end record is no
archive. The directory is read from the end record back by its stated size, so bytes
prepended to an archive shift every offset alike. Names are UTF-8 when the member's flags
say so and code page 437 otherwise, and a name ends at its first zero character. When two
members share a name, the later one is found.

Reading a member checks its local header, refuses patched data, strong encryption, bytes
that run into the next local header or the directory, a password and unknown methods, reads
the stated compressed size (an archive that ends before it runs out of input), cuts the
result to the stated size and checks the checksum.

## Main definitions

* `Archive.endRecord?`, `Archive.isArchive`: the end record and whether a file has one.
* `Archive.Member`, `Archive.Zip`: the directory.
* `Archive.Zip.open`: read the directory of an archive.
* `Archive.Zip.read`: the bytes of a member.
-/

namespace MacroDoc.Archive

/-- The bytes from a position on, at most a count of them. -/
def slice (b : ByteArray) (pos count : Nat) : ByteArray := b.extract pos (pos + count)

/-- The little-endian number of the bytes from a position on, a count of them; bytes past
the end count as zero. -/
def word (b : ByteArray) (pos count : Nat) : Nat :=
  (List.range count).foldr (fun i n => 256 * n + ((b[pos + i]?.map (·.toNat)).getD 0)) 0

/-- Whether the bytes at a position are the four of a signature. -/
def signatureAt (b : ByteArray) (pos : Nat) (sig : List Nat) : Bool :=
  pos + sig.length ≤ b.size &&
    (sig.zipIdx.all fun (x, i) => (b[pos + i]?.map (·.toNat)) == some x)

/-- The signature of the end record. -/
def endSignature : List Nat := [0x50, 0x4B, 0x05, 0x06]

/-- The signature of a directory entry. -/
def directorySignature : List Nat := [0x50, 0x4B, 0x01, 0x02]

/-- The signature of a local header. -/
def localSignature : List Nat := [0x50, 0x4B, 0x03, 0x04]

/-- The length of the end record without its comment. -/
def endRecordLength : Nat := 22

/-- The length of a directory entry without its name, extra field and comment. -/
def directoryEntryLength : Nat := 46

/-- The length of a local header without its name and extra field. -/
def localHeaderLength : Nat := 30

/-- The longest comment an archive may end with. -/
def commentLimit : Nat := 65536

/-- The last position at or after `lo` and below `hi` where the end signature starts. -/
def lastEndSignature (b : ByteArray) (lo : Nat) : Nat → Option Nat
  | 0 => none
  | k + 1 => if lo ≤ k && signatureAt b k endSignature then some k else
    if k ≤ lo then none else lastEndSignature b lo k

/-- Where the end record of an archive is, with the size and offset of the directory it
states: in the last 22 bytes when the archive has no comment, otherwise the last end
signature in the last 64 KiB and 22 bytes. -/
def endRecord? (b : ByteArray) : Option (Nat × Nat × Nat) :=
  if b.size < endRecordLength then none
  else
    let last := b.size - endRecordLength
    if signatureAt b last endSignature && word b (b.size - 2) 2 == 0 then
      some (last, word b (last + 12) 4, word b (last + 16) 4)
    else
      let lo := b.size - min b.size (commentLimit + endRecordLength)
      match lastEndSignature b lo b.size with
      | none => none
      | some start =>
        if start + endRecordLength > b.size then none
        else some (start, word b (start + 12) 4, word b (start + 16) 4)

/-- Whether bytes are an archive: whether they have an end record. -/
def isArchive (b : ByteArray) : Bool := (endRecord? b).isSome

/-- The characters of code page 437 for the bytes `80` to `FF`. -/
def codePage437 : Array Nat := #[
  0x00C7, 0x00FC, 0x00E9, 0x00E2, 0x00E4, 0x00E0, 0x00E5, 0x00E7, 0x00EA, 0x00EB, 0x00E8,
  0x00EF, 0x00EE, 0x00EC, 0x00C4, 0x00C5, 0x00C9, 0x00E6, 0x00C6, 0x00F4, 0x00F6, 0x00F2,
  0x00FB, 0x00F9, 0x00FF, 0x00D6, 0x00DC, 0x00A2, 0x00A3, 0x00A5, 0x20A7, 0x0192, 0x00E1,
  0x00ED, 0x00F3, 0x00FA, 0x00F1, 0x00D1, 0x00AA, 0x00BA, 0x00BF, 0x2310, 0x00AC, 0x00BD,
  0x00BC, 0x00A1, 0x00AB, 0x00BB, 0x2591, 0x2592, 0x2593, 0x2502, 0x2524, 0x2561, 0x2562,
  0x2556, 0x2555, 0x2563, 0x2551, 0x2557, 0x255D, 0x255C, 0x255B, 0x2510, 0x2514, 0x2534,
  0x252C, 0x251C, 0x2500, 0x253C, 0x255E, 0x255F, 0x255A, 0x2554, 0x2569, 0x2566, 0x2560,
  0x2550, 0x256C, 0x2567, 0x2568, 0x2564, 0x2565, 0x2559, 0x2558, 0x2552, 0x2553, 0x256B,
  0x256A, 0x2518, 0x250C, 0x2588, 0x2584, 0x258C, 0x2590, 0x2580, 0x03B1, 0x00DF, 0x0393,
  0x03C0, 0x03A3, 0x03C3, 0x00B5, 0x03C4, 0x03A6, 0x0398, 0x03A9, 0x03B4, 0x221E, 0x03C6,
  0x03B5, 0x2229, 0x2261, 0x00B1, 0x2265, 0x2264, 0x2320, 0x2321, 0x00F7, 0x2248, 0x00B0,
  0x2219, 0x00B7, 0x221A, 0x207F, 0x00B2, 0x25A0, 0x00A0]

/-- Bytes read in code page 437: the lower half is ASCII. -/
def decodeCodePage437 (b : ByteArray) : String :=
  String.ofList (b.toList.map fun x =>
    if x.toNat < 0x80 then Char.ofNat x.toNat else Char.ofNat (codePage437.getD (x.toNat - 0x80) 0))

/-- The flag of a name in UTF-8. -/
def utf8Flag : Nat := 0x800

/-- Whether a flag is set. -/
def hasFlag (flags bit : Nat) : Bool := flags / bit % 2 == 1

/-- A name read by its flags: UTF-8 or code page 437. -/
def decodeName (flags : Nat) (b : ByteArray) : Except Fault String :=
  if hasFlag flags utf8Flag then
    match Text.decodeUtf8 b with
    | .ok s => .ok s
    | .error f => .error ⟨.badEncoding, f.message⟩
  else .ok (decodeCodePage437 b)

/-- A byte as it is written inside quoted bytes. -/
def byteShown (quote : Nat) (x : Nat) : String :=
  if x == quote || x == 0x5C then String.ofList ['\\', Char.ofNat x]
  else if x == 0x09 then "\\t"
  else if x == 0x0A then "\\n"
  else if x == 0x0D then "\\r"
  else if 0x20 ≤ x && x < 0x7F then String.singleton (Char.ofNat x)
  else "\\x" ++ String.ofList (Text.hexDigits x 2)

/-- Bytes written as a quoted literal: double quotes when they hold a single quote and no
double quote. -/
def bytesShown (b : ByteArray) : String :=
  let xs := b.toList.map (·.toNat)
  let quote := if xs.contains 0x27 && !xs.contains 0x22 then 0x22 else 0x27
  let q := String.singleton (Char.ofNat quote)
  "b" ++ q ++ String.join (xs.map (byteShown quote)) ++ q

/-- One member of an archive, as the directory lists it. -/
structure Member where
  /-- The name as stored. -/
  storedName : String
  /-- The name up to its first zero character, by which the member is found. -/
  name : String
  flags : Nat
  method : Nat
  crc : Nat
  compressedSize : Nat
  size : Nat
  /-- Where the local header is; before the start of the bytes when the archive states
  offsets past where its directory is. -/
  headerOffset : Int
  /-- Where the member's bytes must end: the next local header, or the directory. -/
  dataEnd : Int := 0

/-- An archive: its bytes and the members its directory lists, in order. -/
structure Zip where
  bytes : ByteArray
  members : List Member

/-- The refusal of bytes that are no archive. -/
def notAnArchive : Fault := ⟨.badArchive, "File is not a zip file"⟩

/-- A refusal of a damaged archive. -/
def damaged (message : String) : Fault := ⟨.badArchive, message⟩

/-- The highest version of the format that can be read, in tenths. -/
def highestVersion : Nat := 63

/-- The refusal of a member that needs a later version of the format. -/
def laterVersion (v : Nat) : Fault :=
  ⟨.unsupported, "zip file version " ++ toString (v / 10) ++ "." ++ toString (v % 10)⟩

/-- Check the extra field of a directory entry: a sequence of records, each a type, a length
and that many bytes. -/
def checkExtra (extra : ByteArray) : Nat → Nat → Except Fault Unit
  | 0, _ => .ok ()
  | fuel + 1, pos =>
    if extra.size < pos + 4 then .ok ()
    else
      let kind := word extra pos 2
      let len := word extra (pos + 2) 2
      if pos + len + 4 > extra.size then
        .error (damaged ("Corrupt extra field " ++ String.ofList (Text.hexDigits kind 4) ++
          " (size=" ++ toString len ++ ")"))
      else checkExtra extra fuel (pos + len + 4)

/-- The name up to its first zero character. -/
def cutAtZero (s : String) : String := String.ofList (s.toList.takeWhile (· != '\x00'))

/-- Read the directory entries from a position of the directory, `total` bytes of the stated
size read so far; every local header offset is moved by `shift`, the distance between where
the directory is and where the end record says it is. The fuel bounds the number of
entries. -/
def readEntries (dir : ByteArray) (size : Nat) (shift : Int) :
    Nat → Nat → Nat → List Member → Except Fault (List Member)
  | 0, _, _, acc => .ok acc.reverse
  | fuel + 1, pos, total, acc =>
    if total ≥ size then .ok acc.reverse
    else if dir.size < pos + directoryEntryLength then
      .error (damaged "Truncated central directory")
    else if !signatureAt dir pos directorySignature then
      .error (damaged "Bad magic number for central directory")
    else do
      let nameLen := word dir (pos + 28) 2
      let extraLen := word dir (pos + 30) 2
      let commentLen := word dir (pos + 32) 2
      let flags := word dir (pos + 8) 2
      let nameAt := pos + directoryEntryLength
      let stored ← decodeName flags (slice dir nameAt nameLen)
      let extra := slice dir (nameAt + nameLen) extraLen
      let version := word dir (pos + 6) 1
      if version > highestVersion then .error (laterVersion version)
      else
        checkExtra extra (extra.size + 1) 0
        let member : Member :=
          { storedName := stored, name := cutAtZero stored, flags,
            method := word dir (pos + 10) 2, crc := word dir (pos + 16) 4,
            compressedSize := word dir (pos + 20) 4, size := word dir (pos + 24) 4,
            headerOffset := word dir (pos + 42) 4 + shift }
        let next := min dir.size (nameAt + nameLen + extraLen + commentLen)
        readEntries dir size shift fuel next
          (total + directoryEntryLength + nameLen + extraLen + commentLen) (member :: acc)

/-- Give every member the end of its bytes: taking the members from the highest header
offset down (members of one offset in directory order), the first ends at the directory and
each of the others at the header offset of the one before it. Two members of one offset thus
leave the later one no room. -/
def withDataEnds (directory : Nat) (members : List Member) : List Member :=
  let byOffset := members.zipIdx.mergeSort fun a b => decide (a.1.headerOffset ≥ b.1.headerOffset)
  let (ends, _) := byOffset.foldl (fun (acc : Array Int × Int) (m, i) =>
    (acc.1.setIfInBounds i acc.2, m.headerOffset)) (Array.replicate members.length 0, directory)
  members.zipIdx.map fun (m, i) => { m with dataEnd := ends.getD i 0 }

/-- Read the directory of an archive. -/
def Zip.open (b : ByteArray) : Except Fault Zip :=
  match endRecord? b with
  | none => .error notAnArchive
  | some (location, size, offset) =>
    if location < size then .error (damaged "Bad offset for central directory")
    else do
      let start := location - size
      let dir := slice b start size
      let members ← readEntries dir size ((start : Int) - offset) (dir.size + 1) 0 0 []
      return ⟨b, withDataEnds start members⟩

/-- The names of the members, in directory order. -/
def Zip.names (z : Zip) : List String := z.members.map (·.name)

/-- The member of a name: the last one listed under it. -/
def Zip.find? (z : Zip) (name : String) : Option Member :=
  z.members.reverse.find? (·.name == name)

/-- The refusal of a name no member has. -/
def noMember (name : String) : Fault :=
  ⟨.missingKey, Text.quote ("There is no item named " ++ Text.quote name ++ " in the archive")⟩

/-- The methods a member may be compressed with: stored, deflate, bzip2 and LZMA. -/
def knownMethods : List Nat := [0, 8, 12, 14]

/-- The bytes a member holds after its local header, uncompressed, before the checksum is
checked: the stated compressed size is read, and the result is cut to the stated size. A
stream that has not ended takes more input, which an archive cut short does not have. -/
def Zip.payload (z : Zip) (m : Member) (start : Nat) : Except Fault ByteArray :=
  let available := z.bytes.size - min z.bytes.size start
  let raw := slice z.bytes start m.compressedSize
  let finish (unpacked : Unpacked) (refusal : String → Fault) : Except Fault ByteArray :=
    match unpacked with
    | .done out => .ok (out.extract 0 m.size)
    | .short out =>
      if available < m.compressedSize then .error ⟨.endOfInput, ""⟩
      else .ok (out.extract 0 m.size)
    | .bad message => .error (refusal message)
  if m.method == 0 then
    if raw.size ≥ m.size then .ok (raw.extract 0 m.size)
    else if available < m.compressedSize then .error ⟨.endOfInput, ""⟩
    else .ok raw
  else if m.method == 8 then finish (inflate raw) inflateFault
  else if m.method == 12 then finish (bunzip raw) (⟨.badBzip2Stream, ·⟩)
  else if m.method == 14 then finish (unlzma raw) (⟨.badLzmaStream, ·⟩)
  else .error ⟨.unsupported, "That compression method is not supported"⟩

/-- The bytes of a member whose local header is at a position. -/
def Zip.readAt (z : Zip) (name : String) (m : Member) (offset : Nat) : Except Fault ByteArray :=
  let header := slice z.bytes offset localHeaderLength
  if header.size < localHeaderLength then .error (damaged "Truncated file header")
  else if !signatureAt header 0 localSignature then
    .error (damaged "Bad magic number for file header")
  else
    let nameLen := word header 26 2
    let extraLen := word header 28 2
    let localName := slice z.bytes (offset + localHeaderLength) nameLen
    if hasFlag m.flags 0x20 then
      .error ⟨.unsupported, "compressed patched data (flag bit 5)"⟩
    else if hasFlag m.flags 0x40 then .error ⟨.unsupported, "strong encryption (flag bit 6)"⟩
    else do
      let shown ← decodeName (word header 6 2) localName
      if shown != m.storedName then
        .error (damaged ("File name in directory " ++ Text.quote m.storedName ++
          " and header " ++ bytesShown localName ++ " differ."))
      else if ((offset + localHeaderLength + nameLen + extraLen + m.compressedSize : Nat) : Int) >
          m.dataEnd then
        .error (damaged ("Overlapped entries: " ++ Text.quote m.storedName ++
          " (possible zip bomb)"))
      else if hasFlag m.flags 1 then
        .error ⟨.needsPassword, "File " ++ Text.quote name ++
          " is encrypted, password required for extraction"⟩
      else if !knownMethods.contains m.method then
        .error ⟨.unsupported, "That compression method is not supported"⟩
      else
        let data ← z.payload m (offset + localHeaderLength + nameLen + extraLen)
        if (crc32 data).toNat != m.crc then
          .error (damaged ("Bad CRC-32 for file " ++ Text.quote m.name))
        else .ok data

/-- The refusal of a file to move to a position before its start. -/
def seekRefused : Fault := ⟨.systemRefusal, "[Errno 22] Invalid argument"⟩

/-- The bytes of the member of a name. A local header before the start of the file cannot
be reached. -/
def Zip.read (z : Zip) (name : String) : Except Fault ByteArray := do
  let some m := z.find? name | .error (noMember name)
  if m.headerOffset < 0 then .error seekRefused
  else Zip.readAt z name m m.headerOffset.toNat

end MacroDoc.Archive
