import MacroDoc.Archive.Inflate

/-!
# Decompressing bzip2 data

A bzip2 stream is read highest bit first. It opens with `BZh` and the block size, a digit
from 1 to 9 in hundreds of thousands of bytes, and is a sequence of blocks ended by an end
mark and the stream's checksum. A block carries its checksum, a position, the set of byte
values it uses, two to six prefix codes with a list of selectors saying which code reads
each group of fifty symbols, and then the symbols.

The symbols are move-to-front indices of the block's bytes in the order of a sorted
rotation, with runs of the first index written as numbers in bijective base two (two run
symbols, worth one and two times the place). The block's bytes are recovered by undoing the
sort from the position, and then its runs: four equal bytes are followed by a count of more
copies.

A code is built from its word lengths by the canonical rule, words of one length after those
of shorter ones and in the order of their symbols, with no check that the lengths make a
complete code: a word the tables do not cover is refused when it is read. A block is
refused when its header, its codes, its selectors or its symbols break the format, when the
position lies outside the block, when a run goes past the block size, or when its checksum
or the stream's does not match. A block is output only once it is read whole: when the input ends inside one, what
the blocks before it gave is kept.

## Main definitions

* `Archive.bunzip`: decompress a bzip2 stream.
-/

namespace MacroDoc.Archive

/-- Why reading bits stopped: the input ran out, or the data breaks the format. -/
inductive Stop where
  | ended
  | malformed

/-- Bits read highest first from bytes; `pos` counts bits. -/
structure HighBits where
  data : ByteArray
  pos : Nat

/-- A reading of bits that may stop. -/
abbrev BitRead := StateT HighBits (Except Stop)

/-- The bit at a bit position, highest first within a byte. -/
def highBitAt (data : ByteArray) (pos : Nat) : Nat :=
  ((data[pos / 8]?.map (·.toNat)).getD 0) / Nat.pow 2 (7 - pos % 8) % 2

/-- A number of `n` bits, highest first. -/
def takeBits (n : Nat) : BitRead Nat := fun r =>
  if r.pos + n > 8 * r.data.size then .error .ended
  else
    let v := (List.range n).foldl (fun acc i => 2 * acc + highBitAt r.data (r.pos + i)) 0
    .ok (v, { r with pos := r.pos + n })

/-- Refuse data that breaks the format. -/
def malformed {α : Type} : BitRead α := throw .malformed

/-- Check a condition of the format. -/
def require (ok : Bool) : BitRead Unit := if ok then pure () else malformed

/-- One step of the checksum of bzip2: CRC-32 taken highest bit first. -/
def bzCrcStep (crc : UInt32) (b : Nat) : UInt32 :=
  (List.range 8).foldl (fun c _ =>
    if c &&& 0x80000000 != 0 then (c <<< 1) ^^^ 0x04C11DB7 else c <<< 1)
    (crc ^^^ ((UInt32.ofNat b) <<< 24))

/-- The checksum of bytes. -/
def bzCrc (bytes : List Nat) : UInt32 := ~~~(bytes.foldl bzCrcStep 0xFFFFFFFF)

/-- The decoding tables of a prefix code, built from its word lengths: the shortest length,
the largest word value of each length, the offset of each length into the symbols, and the
symbols in order of length. -/
structure BzCode where
  minLen : Nat
  limit : Array Int
  base : Array Int
  perm : Array Nat

/-- The longest word length the tables cover, and one beyond. -/
def bzMaxCodeLen : Nat := 23

/-- The decoding tables of word lengths. -/
def BzCode.ofLengths (lengths : List Nat) : BzCode :=
  let minLen := lengths.foldl min 32
  let maxLen := lengths.foldl max 0
  let lens := (List.range (maxLen + 1)).filter (minLen ≤ ·)
  let perm := lens.flatMap fun l => (lengths.zipIdx.filter (·.1 == l)).map (·.2)
  let counts := (List.range bzMaxCodeLen).map fun i =>
    ((lengths.filter (· + 1 == i)).length : Int)
  let base0 := (counts.foldl (fun (acc : List Int × Int) c =>
    (acc.1 ++ [acc.2 + c], acc.2 + c)) ([], 0)).1.toArray
  let (limit, _) := lens.foldl (fun (acc : Array Int × Int) i =>
    let vec := acc.2 + (base0.getD (i + 1) 0 - base0.getD i 0)
    (acc.1.setIfInBounds i (vec - 1), vec * 2)) (Array.replicate bzMaxCodeLen 0, 0)
  let base := ((lens.drop 1).foldl (fun (b : Array Int) i =>
    b.setIfInBounds i ((limit.getD (i - 1) 0 + 1) * 2 - base0.getD i 0)) base0)
  ⟨minLen, limit, base, perm.toArray⟩

/-- Read a word of a code, a bit at a time past the shortest length; `fuel` bounds the
lengths tried. -/
def BzCode.extend (c : BzCode) : Nat → Nat → Int → BitRead Nat
  | 0, _, _ => malformed
  | fuel + 1, zn, zvec => do
    require (zn ≤ 20)
    if zvec ≤ c.limit.getD zn 0 then
      let index := zvec - c.base.getD zn 0
      require (0 ≤ index && index < 258)
      return c.perm.getD index.toNat 0
    else
      let bit ← takeBits 1
      c.extend fuel (zn + 1) (zvec * 2 + bit)

/-- Read one symbol with a code. -/
def BzCode.symbol (c : BzCode) : BitRead Nat := do
  let zvec ← takeBits c.minLen
  c.extend (bzMaxCodeLen + 1) c.minLen zvec

/-- Check the bytes of a mark. -/
def expectBytes (bytes : List Nat) : BitRead Unit :=
  bytes.forM fun b => do require ((← takeBits 8) == b)

/-- The byte values a block uses, in order: sixteen bits say which ranges of sixteen are
used, and sixteen bits for each used range say which values. -/
def readMapping : BitRead (List Nat) := do
  let ranges ← (List.range 16).mapM fun _ => takeBits 1
  let used ← (List.range 16).mapM fun i =>
    if ranges.getD i 0 == 1 then
      (List.range 16).filterMapM fun j => do
        return if (← takeBits 1) == 1 then some (i * 16 + j) else none
    else pure []
  return used.flatten

/-- A selector: the number of one bits before a zero, below the number of codes. -/
def readSelector (groups : Nat) : Nat → Nat → BitRead Nat
  | 0, _ => malformed
  | fuel + 1, j => do
    if (← takeBits 1) == 0 then return j
    require (j + 1 < groups)
    readSelector groups fuel (j + 1)

/-- A list with its element at a position moved to the front. -/
def moveToFront (xs : List Nat) (i : Nat) : Nat × List Nat :=
  let x := xs.getD i 0
  (x, x :: (xs.eraseIdx i))

/-- The word lengths of a code over an alphabet: a start of five bits, then for each symbol
changes of one (`1` and a direction) until a `0`; a length must stay from 1 to 20. -/
def readCodeLengths (alphabet fuel : Nat) : BitRead (List Nat) := do
  let start ← takeBits 5
  let rec adjust (curr : Nat) : Nat → BitRead Nat
    | 0 => malformed
    | fuel + 1 => do
      require (1 ≤ curr && curr ≤ 20)
      if (← takeBits 1) == 0 then return curr
      if (← takeBits 1) == 0 then adjust (curr + 1) fuel else adjust (curr - 1) fuel
  let (lengths, _) ← (List.range alphabet).foldlM (fun (acc : List Nat × Nat) _ => do
    let l ← adjust acc.2 fuel
    return (acc.1 ++ [l], l)) ([], start)
  return lengths

/-- Where reading the symbols of a block stands: the next selector, the symbols left in its
group, the move-to-front list, the bytes so far, and a run being read (its value so far and
the worth of its next place). -/
structure SymbolState where
  group : Nat
  left : Nat
  order : List Nat
  block : Array Nat
  run : Option (Nat × Nat)

/-- What a block's symbols are read with: its codes, its selectors, the byte values it
uses and the most bytes it may hold. -/
structure BlockCodes where
  codes : Array BzCode
  selectors : Array Nat
  used : Array Nat
  limit : Nat

/-- Read the next symbol, with the code its group selects. -/
def BlockCodes.next (bc : BlockCodes) (st : SymbolState) : BitRead (Nat × SymbolState) := do
  let (group, left) ← if st.left == 0 then do
      require (st.group < bc.selectors.size)
      pure (st.group + 1, 50)
    else pure (st.group, st.left)
  let code := bc.codes.getD (bc.selectors.getD (group - 1) 0) ⟨1, #[], #[], #[]⟩
  let sym ← code.symbol
  return (sym, { st with group, left := left - 1 })

/-- Close a run being read: its value in copies of the byte at the front of the list. -/
def BlockCodes.closeRun (bc : BlockCodes) (st : SymbolState) : BitRead SymbolState :=
  match st.run with
  | none => pure st
  | some (value, _) => do
    require (st.block.size + value ≤ bc.limit)
    let byte := bc.used.getD (st.order.headD 0) 0
    return { st with block := st.block ++ Array.replicate value byte, run := none }

/-- Read symbols until the end of the block; the fuel bounds the symbols read. -/
def BlockCodes.symbols (bc : BlockCodes) : Nat → SymbolState → BitRead (Array Nat)
  | 0, _ => malformed
  | fuel + 1, st => do
    let (sym, st) ← bc.next st
    if sym ≤ 1 then
      let (value, worth) := st.run.getD (0, 1)
      require (worth < 2 * 1024 * 1024)
      bc.symbols fuel { st with run := some (value + (sym + 1) * worth, 2 * worth) }
    else
      let st ← bc.closeRun st
      if sym == bc.used.size + 1 then return st.block
      require (st.block.size < bc.limit)
      let (x, order) := moveToFront st.order (sym - 1)
      bc.symbols fuel { st with order, block := st.block.push (bc.used.getD x 0) }

/-- The bytes of a block in the order of its rotations undone from a position: each byte's
successor is found through the counts of the smaller bytes. -/
def undoSort (block : Array Nat) (origin : Nat) : List Nat :=
  let counts := block.foldl (fun (c : Array Nat) b => c.modify b (· + 1)) (Array.replicate 256 0)
  let starts := (counts.foldl (fun (acc : Array Nat × Nat) c =>
    (acc.1.push acc.2, acc.2 + c)) (#[], 0)).1
  let (next, _) := (List.range block.size).foldl (fun (acc : Array Nat × Array Nat) i =>
    let b := block.getD i 0
    let slot := acc.2.getD b 0
    (acc.1.setIfInBounds slot i, acc.2.setIfInBounds b (slot + 1)))
    (Array.replicate block.size 0, starts)
  let (out, _) := (List.range block.size).foldl (fun (acc : List Nat × Nat) _ =>
    (block.getD acc.2 0 :: acc.1, next.getD acc.2 0)) ([], next.getD origin 0)
  out.reverse

/-- Undo the runs of a block: four equal bytes and a count of more copies. Gives the bytes
and whether the block ends inside a run's count. -/
def undoRuns (k : Array Nat) : Nat → Nat → Array Nat → Array Nat × Bool
  | 0, _, out => (out, false)
  | fuel + 1, i, out =>
    let n := k.size
    if i ≥ n then (out, i > n)
    else
      let b := k.getD i 0
      let same := ((List.range 4).takeWhile fun d => i + d < n && k.getD (i + d) 0 == b).length
      if same < 4 then undoRuns k fuel (i + same) (out ++ Array.replicate same b)
      else undoRuns k fuel (i + 5) (out ++ Array.replicate (k.getD (i + 4) b + 4) b)

/-- Read one block after its mark, given the block size: its bytes and its checksum. -/
def readBlock (level : Nat) (fuel : Nat) : BitRead (List Nat × UInt32) := do
  let stored ← takeBits 32
  let randomised ← takeBits 1
  require (randomised == 0)
  let origin ← takeBits 24
  require (origin ≤ 10 + 100000 * level)
  let used ← readMapping
  require (!used.isEmpty)
  let alphabet := used.length + 2
  let groups ← takeBits 3
  require (2 ≤ groups && groups ≤ 6)
  let count ← takeBits 15
  require (1 ≤ count)
  let mtfSelectors ← (List.range count).mapM fun _ => readSelector groups 8 0
  let (selectors, _) := mtfSelectors.foldl (fun (acc : Array Nat × List Nat) j =>
    let (x, order) := moveToFront acc.2 j
    (acc.1.push x, order)) (#[], List.range groups)
  let selectors := selectors.extract 0 18002
  let codes ← (List.range groups).mapM fun _ => do
    return BzCode.ofLengths (← readCodeLengths alphabet fuel)
  let bc : BlockCodes := ⟨codes.toArray, selectors, used.toArray, 100000 * level⟩
  let block ← bc.symbols fuel ⟨0, 0, List.range used.length, #[], none⟩
  require (origin < block.size)
  let (bytes, broken) := undoRuns (undoSort block origin).toArray (block.size + 1) 0 #[]
  require (!broken)
  require (bzCrc bytes.toList == UInt32.ofNat stored)
  return (bytes.toList, UInt32.ofNat stored)

/-- Read blocks, keeping the bytes of the blocks read whole when the input ends. -/
def readBlocksKept (level fuel : Nat) : Nat → UInt32 → HighBits → Array Nat × Except Stop Unit
  | 0, _, _ => (#[], .error .malformed)
  | blocks + 1, combined, r =>
    let step : BitRead (Option (List Nat × UInt32)) := do
      let first ← takeBits 8
      if first == 0x17 then
        expectBytes [0x72, 0x45, 0x38, 0x50, 0x90]
        let stored ← takeBits 32
        require (UInt32.ofNat stored == combined)
        return none
      else
        require (first == 0x31)
        expectBytes [0x41, 0x59, 0x26, 0x53, 0x59]
        return some (← readBlock level fuel)
    match step.run r with
    | .error e => (#[], .error e)
    | .ok (none, _) => (#[], .ok ())
    | .ok (some (bytes, crc), r) =>
      let combined := ((combined <<< 1) ||| (combined >>> 31)) ^^^ crc
      let (rest, ending) := readBlocksKept level fuel blocks combined r
      (bytes.toArray ++ rest, ending)

/-- Decompress a bzip2 stream: its bytes when it ends, what its whole blocks gave when the
input ends first, or a refusal. -/
def bunzip (data : ByteArray) : Unpacked :=
  let header : BitRead Nat := do
    expectBytes [0x42, 0x5A, 0x68]
    let level ← takeBits 8
    require (0x31 ≤ level && level ≤ 0x39)
    return level - 0x30
  match header.run ⟨data, 0⟩ with
  | .error .ended => .short ByteArray.empty
  | .error .malformed => .bad "Invalid data stream"
  | .ok (level, r) =>
    let fuel := 8 * data.size + 1
    let (bytes, ending) := readBlocksKept level fuel (data.size + 1) 0 r
    let out := ByteArray.mk (bytes.map UInt8.ofNat)
    match ending with
    | .ok () => .done out
    | .error .ended => .short out
    | .error .malformed => .bad "Invalid data stream"

end MacroDoc.Archive
