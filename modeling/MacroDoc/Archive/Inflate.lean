import MacroDoc.Fault

/-!
# Inflating deflate data

Deflate data is a sequence of blocks, read lowest bit first. A block is stored (its length,
the length's complement, then that many bytes from the next byte boundary), or coded with
the fixed codes, or with codes the block describes: the lengths of a code for code lengths,
then the code lengths of the literal/length code and of the distance code, with runs of a
repeated or zero length. A literal is a byte of output, a length with a distance copies
earlier output, and the end-of-block symbol ends the block; the last block says so.

A code is given by the length of each symbol's code word, the words assigned in order of
length and then of symbol. A set of lengths that claims more words than there are is
refused, and so is one that leaves words unused, except that a literal/length or distance
code may have a single word of one bit, and a code for code lengths may have no words at
all, when every symbol read with it is a zero length of one bit. The refusals are worded as
the reference inflater words them.

Inflating stops at the end of the last block, ignoring what follows, or when the input runs
out, keeping what it decoded.

## Main definitions

* `Archive.Code`: a code from its lengths, with `Code.decode`.
* `Archive.Unpacked`: how decompressing ended.
* `Archive.inflate`: inflate deflate data.
-/

namespace MacroDoc.Archive

/-- How decompressing ended: at the end of the compressed data, when the input ran out
before it (with what was decoded so far), or on malformed data. -/
inductive Unpacked where
  | done (out : ByteArray)
  | short (out : ByteArray)
  | bad (message : String)

/-- The refusal of malformed compressed data. -/
def inflateFault (message : String) : Fault :=
  ⟨.badCompressedData, "Error -3 while decompressing data: " ++ message⟩

/-- Bits read lowest first from bytes; `pos` counts bits. -/
structure BitReader where
  data : ByteArray
  pos : Nat

namespace BitReader

/-- The bit at a bit position. -/
def bitAt (data : ByteArray) (pos : Nat) : Nat :=
  ((data[pos / 8]?.map (·.toNat)).getD 0) / Nat.pow 2 (pos % 8) % 2

/-- A number of `n` bits, lowest first; none when fewer are left. -/
def bits (r : BitReader) (n : Nat) : Option (Nat × BitReader) :=
  if r.pos + n > 8 * r.data.size then none
  else
    let v := (List.range n).foldr (fun i acc => 2 * acc + bitAt r.data (r.pos + i)) 0
    some (v, { r with pos := r.pos + n })

/-- Skip to the next byte boundary. -/
def align (r : BitReader) : BitReader := { r with pos := (r.pos + 7) / 8 * 8 }

end BitReader

/-- The longest code word. -/
def maxBits : Nat := 15

/-- A code: how many words there are of each length, the symbols in order of their words,
the longest length used, and whether a reading of no word yields a zero (the code for code
lengths with no words). -/
structure Code where
  counts : Array Nat
  symbols : Array Nat
  longest : Nat
  zeroWhenEmpty : Bool

/-- The kind of a code, which decides which incomplete sets of lengths are allowed. -/
inductive CodeKind where
  | lengths
  | literals
  | distances
  deriving DecidableEq

/-- The code of a list of lengths, one per symbol; a length of zero leaves a symbol out. -/
def Code.ofLengths (kind : CodeKind) (lengths : List Nat) : Code :=
  let counts := (List.range (maxBits + 1)).toArray.map fun l =>
    if l == 0 then 0 else (lengths.filter (· == l)).length
  let symbols := ((List.range (maxBits + 1)).drop 1).flatMap fun l =>
    (lengths.zipIdx.filter (fun (x, _) => x == l)).map (·.2)
  let longest := ((List.range (maxBits + 1)).filter (fun l => counts.getD l 0 > 0)).getLast?.getD 0
  ⟨counts, symbols.toArray, longest, kind == .lengths⟩

/-- Whether the lengths of a code fit: no more words than there are, and no word unused,
except for a single one-bit word of a literal/length or distance code, or no words at all. -/
def Code.fits (kind : CodeKind) (c : Code) : Bool :=
  if c.longest == 0 then true
  else
    let left := ((List.range (maxBits + 1)).drop 1).foldl (fun (acc : Option Int) l =>
      acc.bind fun left =>
        let next := 2 * left - c.counts.getD l 0
        if next < 0 then none else some next) (some 1)
    match left with
    | none => false
    | some left => left == 0 || (kind != .lengths && c.longest == 1)

/-- Read a code word bit by bit from length `len` on, with the canonical running values:
`code` so far, the first word of this length, and the index of its first symbol. Gives the
symbol, or none for a word the code does not have; none at all when the bits run out. -/
def Code.decodeFrom (c : Code) : Nat → Nat → Nat → Nat → Nat → BitReader →
    Option (Option Nat × BitReader)
  | 0, _, _, _, _, r => some (none, r)
  | fuel + 1, len, code, first, index, r =>
    match r.bits 1 with
    | none => none
    | some (bit, r) =>
      let code := code + bit
      let count := c.counts.getD len 0
      if code < first + count then some (some (c.symbols.getD (index + code - first) 0), r)
      else if len ≥ c.longest then some (none, r)
      else c.decodeFrom fuel (len + 1) (2 * code) (2 * (first + count)) (index + count) r

/-- Read one symbol. A code with no words reads one bit, which is a zero length for the code
for code lengths and a word the code does not have otherwise. -/
def Code.decode (c : Code) (r : BitReader) : Option (Option Nat × BitReader) :=
  if c.longest == 0 then
    match r.bits 1 with
    | none => none
    | some (_, r) => some (if c.zeroWhenEmpty then some 0 else none, r)
  else c.decodeFrom (maxBits + 1) 1 0 0 0 r

/-- The base lengths of the length symbols 257 to 285. -/
def lengthBase : Array Nat := #[3, 4, 5, 6, 7, 8, 9, 10, 11, 13, 15, 17, 19, 23, 27, 31, 35, 43,
  51, 59, 67, 83, 99, 115, 131, 163, 195, 227, 258]

/-- The extra bits of the length symbols 257 to 285. -/
def lengthExtra : Array Nat := #[0, 0, 0, 0, 0, 0, 0, 0, 1, 1, 1, 1, 2, 2, 2, 2, 3, 3, 3, 3, 4,
  4, 4, 4, 5, 5, 5, 5, 0]

/-- The base distances of the distance symbols 0 to 29. -/
def distanceBase : Array Nat := #[1, 2, 3, 4, 5, 7, 9, 13, 17, 25, 33, 49, 65, 97, 129, 193,
  257, 385, 513, 769, 1025, 1537, 2049, 3073, 4097, 6145, 8193, 12289, 16385, 24577]

/-- The extra bits of the distance symbols 0 to 29. -/
def distanceExtra : Array Nat := #[0, 0, 0, 0, 1, 1, 2, 2, 3, 3, 4, 4, 5, 5, 6, 6, 7, 7, 8, 8,
  9, 9, 10, 10, 11, 11, 12, 12, 13, 13]

/-- The fixed literal/length code. -/
def fixedLiterals : Code :=
  Code.ofLengths .literals
    (List.replicate 144 8 ++ List.replicate 112 9 ++ List.replicate 24 7 ++ List.replicate 8 8)

/-- The fixed distance code: 32 words of five bits, the last two of no distance. -/
def fixedDistances : Code := Code.ofLengths .distances (List.replicate 32 5)

/-- How a block ended: at its end, with the reader after it; when the input ran out; or on
malformed data. -/
inductive BlockEnd where
  | ok (r : BitReader) (out : ByteArray)
  | short (out : ByteArray)
  | bad (message : String)

/-- Copy `len` bytes from `distance` back, one at a time, so a copy may overlap itself. -/
def copyBack (distance : Nat) : Nat → ByteArray → ByteArray
  | 0, out => out
  | len + 1, out => copyBack distance len (out.push (out[out.size - distance]?.getD 0))

/-- Decode the symbols of a block with its codes, up to its end-of-block symbol. -/
def inflateCodes (lit dist : Code) : Nat → BitReader → ByteArray → BlockEnd
  | 0, _, out => .short out
  | fuel + 1, r, out =>
    match lit.decode r with
    | none => .short out
    | some (none, _) => .bad "invalid literal/length code"
    | some (some sym, r) =>
      if sym < 256 then inflateCodes lit dist fuel r (out.push sym.toUInt8)
      else if sym == 256 then .ok r out
      else if sym > 285 then .bad "invalid literal/length code"
      else
        let i := sym - 257
        match r.bits (lengthExtra.getD i 0) with
        | none => .short out
        | some (e, r) =>
          let len := lengthBase.getD i 0 + e
          match dist.decode r with
          | none => .short out
          | some (none, _) => .bad "invalid distance code"
          | some (some d, r) =>
            if d > 29 then .bad "invalid distance code"
            else match r.bits (distanceExtra.getD d 0) with
              | none => .short out
              | some (e, r) =>
                let distance := distanceBase.getD d 0 + e
                if distance > out.size then .bad "invalid distance too far back"
                else inflateCodes lit dist fuel r (copyBack distance len out)

/-- A stored block: its length and the length's complement from the next byte boundary,
then that many bytes, as many as there are when the input runs out. -/
def storedBlock (r : BitReader) (out : ByteArray) : BlockEnd :=
  let r := r.align
  match r.bits 32 with
  | none => .short out
  | some (v, r) =>
    let len := v % 65536
    let complement := v / 65536
    if len + complement != 65535 then .bad "invalid stored block lengths"
    else
      let start := r.pos / 8
      let avail := r.data.size - min r.data.size start
      let out := out ++ r.data.extract start (start + len)
      if avail < len then .short out
      else .ok { r with pos := r.pos + 8 * len } out

/-- The order in which the lengths of the code for code lengths are given. -/
def codeLengthOrder : List Nat := [16, 17, 18, 0, 8, 7, 9, 6, 10, 5, 11, 4, 12, 3, 13, 2, 14, 1, 15]

/-- How reading the code lengths of a block ended. -/
inductive LengthsEnd where
  | ok (r : BitReader) (lengths : List Nat)
  | short
  | bad (message : String)

/-- Read code lengths with the code for code lengths until `total` are read; `acc` holds
those read so far, the last first. -/
def readLengths (c : Code) (total : Nat) : Nat → BitReader → List Nat → LengthsEnd
  | 0, _, _ => .short
  | fuel + 1, r, acc =>
    if acc.length ≥ total then .ok r acc.reverse
    else
      match c.decode r with
      | none => .short
      | some (none, _) => .bad "invalid code lengths set"
      | some (some sym, r) =>
        if sym < 16 then readLengths c total fuel r (sym :: acc)
        else
          let (extra, base) := if sym == 16 then (2, 3) else if sym == 17 then (3, 3) else (7, 11)
          match r.bits extra with
          | none => .short
          | some (e, r) =>
            if sym == 16 && acc.isEmpty then .bad "invalid bit length repeat"
            else
              let value := if sym == 16 then acc.headD 0 else 0
              let count := base + e
              if acc.length + count > total then .bad "invalid bit length repeat"
              else readLengths c total fuel r (List.replicate count value ++ acc)

/-- A block with codes of its own: the numbers of lengths, the code for code lengths, the
code lengths, and then the symbols. -/
def dynamicBlock (fuel : Nat) (r : BitReader) (out : ByteArray) : BlockEnd :=
  match r.bits 14 with
  | none => .short out
  | some (v, r) =>
    let nlen := v % 32 + 257
    let ndist := v / 32 % 32 + 1
    let ncode := v / 1024 + 4
    if nlen > 286 || ndist > 30 then .bad "too many length or distance symbols"
    else
      match r.bits (3 * ncode) with
      | none => .short out
      | some (w, r) =>
        let given := (List.range ncode).map fun i => w / Nat.pow 8 i % 8
        let lengthsOf := codeLengthOrder.zip (given ++ List.replicate (19 - ncode) 0)
        let lens := (List.range 19).map fun s => ((lengthsOf.find? (·.1 == s)).map (·.2)).getD 0
        let lenCode := Code.ofLengths .lengths lens
        if !(Code.fits .lengths lenCode) then .bad "invalid code lengths set"
        else
          match readLengths lenCode (nlen + ndist) fuel r [] with
          | .short => .short out
          | .bad m => .bad m
          | .ok r lengths =>
            let litLengths := lengths.take nlen
            let distLengths := lengths.drop nlen
            if litLengths.getD 256 0 == 0 then .bad "invalid code -- missing end-of-block"
            else
              let lit := Code.ofLengths .literals litLengths
              let dist := Code.ofLengths .distances distLengths
              if !(Code.fits .literals lit) then .bad "invalid literal/lengths set"
              else if !(Code.fits .distances dist) then .bad "invalid distances set"
              else inflateCodes lit dist fuel r out

/-- Inflate blocks until the last one ends; the fuel bounds the number of blocks and of
symbols in each. -/
def inflateBlocks (budget : Nat) : Nat → BitReader → ByteArray → Unpacked
  | 0, _, out => .short out
  | fuel + 1, r, out =>
    match r.bits 3 with
    | none => .short out
    | some (header, r) =>
      let last := header % 2 == 1
      let kind := header / 2
      let ended : BlockEnd :=
        if kind == 0 then storedBlock r out
        else if kind == 1 then inflateCodes fixedLiterals fixedDistances budget r out
        else if kind == 2 then dynamicBlock budget r out
        else .bad "invalid block type"
      match ended with
      | .bad m => .bad m
      | .short out => .short out
      | .ok r out => if last then .done out else inflateBlocks budget fuel r out

/-- Inflate deflate data. Every block and every symbol takes at least one bit, so the number
of bits bounds both. -/
def inflate (data : ByteArray) : Unpacked :=
  let budget := 8 * data.size + 1
  inflateBlocks budget budget ⟨data, 0⟩ ByteArray.empty

end MacroDoc.Archive
