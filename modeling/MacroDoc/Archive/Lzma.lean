import MacroDoc.Archive.Inflate

/-!
# Decompressing LZMA data

A zip member compressed with LZMA starts with a small header: two bytes of version, the
length of the properties in two bytes (lowest first), and the properties: one byte giving
the number of literal context bits `lc`, literal position bits `lp` and position bits `pb`
(as `(pb * 5 + lp) * 9 + lc`, at most 224, with `lc + lp` at most 4), and four bytes of
dictionary size. The raw LZMA data follows.

The data is read by a binary range decoder: every decision is a bit coded with an adaptive
probability (eleven bits, starting at one half, moving a thirty-second of the way toward
each bit decoded), and some bits are taken at even odds. The decoder starts from five bytes,
the first of them zero, and takes a byte whenever its range falls below `2^24`.

What is decoded is a sequence of packets, each after a decision *literal or match* in the
context of the state (twelve states remember the kinds of the last packets) and the output
position: a literal byte, coded bit by bit in the context of the previous byte (and, after
a match, of the byte at the last distance), a match with a new distance, a repetition of
one of the last four distances, or a single byte from the last distance. A length is coded
in three ranges (2 to 9, 10 to 17, 18 to 273), a distance by a slot of six bits and the
bits the slot leaves. The distance `2^32 - 1` marks the end of the data, where the range
decoder, having taken its last byte, must have nothing left over.

A distance that reaches before the start of the output or beyond the dictionary is refused,
and so are a first byte that is not zero and settings out of range. When the input ends
before the end mark, what the packets read whole gave is kept.

## Main definitions

* `Archive.unlzma`: decompress the LZMA data of a zip member.
-/

namespace MacroDoc.Archive

/-- The settings of LZMA data: context bits, position bits and dictionary size. -/
structure LzmaSettings where
  lc : Nat
  lp : Nat
  pb : Nat
  dictSize : Nat

/-- Where the probabilities of each kind of decision start in one array. -/
def isMatchBase : Nat := 0
def isRepBase : Nat := 192
def isRepG0Base : Nat := 204
def isRepG1Base : Nat := 216
def isRepG2Base : Nat := 228
def isRep0LongBase : Nat := 240
def posSlotBase : Nat := 432
def specPosBase : Nat := 688
def alignBase : Nat := 803
def lenBase : Nat := 819
def repLenBase : Nat := 1333
def literalBase : Nat := 1847

/-- The state of the decoder: the probabilities, the range and code of the range decoder,
the input and where it is read, the output, the state of the last packets and the last four
distances. -/
structure LzmaDecoder where
  probs : Array Nat
  range : Nat
  code : Nat
  input : ByteArray
  inPos : Nat
  out : Array UInt8
  state : Nat
  reps : Nat × Nat × Nat × Nat

/-- Why decoding stopped early: the input ran out, or the data breaks the format. -/
inductive LzmaStop where
  | ended
  | corrupt

/-- A step of decoding that may stop; a stop keeps the state it was reached in. -/
abbrev LzmaStep := EStateM LzmaStop LzmaDecoder

/-- Take a byte into the range decoder when its range has fallen below `2^24`. -/
def normalize : LzmaStep Unit := do
  let d ← get
  if d.range < 0x1000000 then
    match d.input[d.inPos]? with
    | none => throw .ended
    | some b =>
      modify fun d =>
        { d with range := d.range * 256, code := (d.code * 256 + b.toNat) % 0x100000000,
                 inPos := d.inPos + 1 }

/-- Decode a bit with the probability at an index, and adapt the probability. -/
def decodeBit (i : Nat) : LzmaStep Nat := do
  normalize
  modifyGet fun d =>
    let p := d.probs.getD i 1024
    let bound := (d.range / 2048) * p
    if d.code < bound then
      (0, { d with range := bound, probs := d.probs.setIfInBounds i (p + (2048 - p) / 32) })
    else
      (1, { d with range := d.range - bound, code := d.code - bound,
                   probs := d.probs.setIfInBounds i (p - p / 32) })

/-- Decode `n` bits at even odds, highest first. -/
def directBits : Nat → Nat → LzmaStep Nat
  | 0, acc => pure acc
  | n + 1, acc => do
    normalize
    let bit ← modifyGet fun d =>
      let range := d.range / 2
      if d.code ≥ range then (1, { d with range, code := d.code - range })
      else (0, { d with range })
    directBits n (acc * 2 + bit)

/-- Decode `n` bits with a tree of probabilities from a base, highest bit first; `m` is the
node reached. -/
def bitTree (base : Nat) : Nat → Nat → LzmaStep Nat
  | 0, m => pure m
  | n + 1, m => do bitTree base n (2 * m + (← decodeBit (base + m)))

/-- Decode `n` bits with a tree of probabilities from a base, lowest bit first. -/
def reverseTree (base : Nat) (n : Nat) : LzmaStep Nat := do
  let (_, sym) ← (List.range n).foldlM (fun (acc : Nat × Nat) i => do
    let bit ← decodeBit (base + acc.1)
    return (2 * acc.1 + bit, acc.2 + bit * Nat.pow 2 i)) (1, 0)
  return sym

/-- Decode a length, less two, with the probabilities of a length coder from a base. -/
def decodeLength (base posState : Nat) : LzmaStep Nat := do
  if (← decodeBit base) == 0 then
    return (← bitTree (base + 2 + posState * 8) 3 1) - 8
  if (← decodeBit (base + 1)) == 0 then
    return 8 + (← bitTree (base + 130 + posState * 8) 3 1) - 8
  return 16 + (← bitTree (base + 258) 8 1) - 256

/-- Decode a distance, less one, for a match of a length less two. -/
def decodeDistance (len : Nat) : LzmaStep Nat := do
  let lenState := min len 3
  let slot := (← bitTree (posSlotBase + lenState * 64) 6 1) - 64
  if slot < 4 then return slot
  let direct := slot / 2 - 1
  let dist := (2 + slot % 2) * Nat.pow 2 direct
  if slot < 14 then
    return dist + (← reverseTree (specPosBase + dist - slot) direct)
  let high ← directBits (direct - 4) 0
  let low ← reverseTree alignBase 4
  return dist + high * 16 + low

/-- The byte of the output at a distance back (one for the last byte). -/
def LzmaDecoder.back (d : LzmaDecoder) (distance : Nat) : Nat :=
  (d.out[d.out.size - distance]?.map (·.toNat)).getD 0

/-- Decode the bits of a literal while they agree with the bits of a byte, highest first,
with the probabilities kept for each bit of that byte; `sym` is the node reached. -/
def matchedBits (base : Nat) : Nat → Nat → Nat → LzmaStep Nat
  | 0, sym, _ => pure sym
  | fuel + 1, sym, matchByte => do
    if sym ≥ 0x100 then return sym
    let matchBit := matchByte / 128 % 2
    let bit ← decodeBit (base + (1 + matchBit) * 256 + sym)
    let sym := 2 * sym + bit
    if matchBit != bit then return sym
    matchedBits base fuel sym (matchByte * 2)

/-- Decode a literal byte and put it out. -/
def decodeLiteral (s : LzmaSettings) : LzmaStep Unit := do
  let d ← get
  let prev := d.back 1
  let litState := (d.out.size % Nat.pow 2 s.lp) * Nat.pow 2 s.lc + prev / Nat.pow 2 (8 - s.lc)
  let base := literalBase + 0x300 * litState
  let start ← if d.state ≥ 7 then matchedBits base 8 1 (d.back (d.reps.1 + 1)) else pure 1
  let sym ← (List.range 8).foldlM (fun sym _ => do
    if sym ≥ 0x100 then return sym
    return 2 * sym + (← decodeBit (base + sym))) start
  modify fun d =>
    { d with out := d.out.push (UInt8.ofNat (sym - 0x100)),
             state := if d.state < 4 then 0 else if d.state < 10 then d.state - 3
               else d.state - 6 }

/-- Copy bytes from a distance back onto the output, one at a time so that a copy may
overlap itself. -/
def copyMatch (distance : Nat) (len : Nat) : LzmaStep Unit :=
  modify fun d =>
    { d with out := (List.range len).foldl (fun out _ =>
        out.push (out[out.size - distance]?.getD 0)) d.out }

/-- Whether a distance, less one, reaches back into the output within the dictionary. -/
def LzmaDecoder.reaches (d : LzmaDecoder) (s : LzmaSettings) (rep : Nat) : Bool :=
  rep < d.out.size && rep < max s.dictSize 4096

/-- Decode one packet; true when it is the end mark. -/
def decodePacket (s : LzmaSettings) : LzmaStep Bool := do
  let d ← get
  let posState := d.out.size % Nat.pow 2 s.pb
  let state := d.state
  if (← decodeBit (isMatchBase + state * 16 + posState)) == 0 then
    decodeLiteral s
    return false
  if (← decodeBit (isRepBase + state)) == 1 then
    let d ← get
    if d.out.size == 0 then throw .corrupt
    let (r0, r1, r2, r3) := d.reps
    if (← decodeBit (isRepG0Base + state)) == 0 then
      if (← decodeBit (isRep0LongBase + state * 16 + posState)) == 0 then
        modify fun d => { d with state := if state < 7 then 9 else 11 }
        copyMatch (r0 + 1) 1
        return false
    else
      let reps ← do
        if (← decodeBit (isRepG1Base + state)) == 0 then pure (r1, r0, r2, r3)
        else if (← decodeBit (isRepG2Base + state)) == 0 then pure (r2, r0, r1, r3)
        else pure (r3, r0, r1, r2)
      modify fun d => { d with reps }
    let len ← decodeLength repLenBase posState
    modify fun d => { d with state := if state < 7 then 8 else 11 }
    let d ← get
    if !d.reaches s d.reps.1 then throw .corrupt
    copyMatch (d.reps.1 + 1) (len + 2)
    return false
  let (r0, r1, r2, _) := (← get).reps
  let len ← decodeLength lenBase posState
  modify fun d => { d with state := if state < 7 then 7 else 10 }
  let dist ← decodeDistance len
  if dist == 0xFFFFFFFF then
    normalize
    if (← get).code != 0 then throw .corrupt
    return true
  modify fun d => { d with reps := (dist, r0, r1, r2) }
  let d ← get
  if !d.reaches s dist then throw .corrupt
  copyMatch (dist + 1) (len + 2)
  return false

/-- Decode packets until the end mark; gives the output and how decoding ended. A packet puts
its bytes out only once it is read whole, so a stop leaves the output as of the last whole
packet. The fuel bounds the packets: a decision narrows the range by a factor of at least
about `2017 / 2048`, so a byte of input carries fewer than four hundred packets. -/
def decodePackets (s : LzmaSettings) : Nat → LzmaDecoder → Array UInt8 × Option LzmaStop
  | 0, d => (d.out, some .ended)
  | fuel + 1, d =>
    match (decodePacket s).run d with
    | .ok true d => (d.out, none)
    | .ok false d => decodePackets s fuel d
    | .error e d => (d.out, some e)

/-- The refusal of LZMA settings out of range. -/
def lzmaOptionsRefused : String := "Invalid or unsupported options"

/-- Decompress the LZMA data of a zip member, header and all. -/
def unlzma (data : ByteArray) : Unpacked :=
  let byte (i : Nat) : Nat := (data[i]?.map (·.toNat)).getD 0
  let propsSize := byte 2 + 256 * byte 3
  if data.size ≤ 4 || data.size ≤ 4 + propsSize then .short ByteArray.empty
  else if propsSize != 5 || byte 4 > 224 then .bad lzmaOptionsRefused
  else
    let b := byte 4
    let s : LzmaSettings := ⟨b % 9, b / 9 % 5, b / 45,
      byte 5 + 256 * (byte 6 + 256 * (byte 7 + 256 * byte 8))⟩
    if s.lc + s.lp > 4 then .bad lzmaOptionsRefused
    else
      let raw := data.extract 9 data.size
      if raw.size < 5 then .short ByteArray.empty
      else if byte 9 != 0 then .bad "Corrupt input data"
      else
        let code := (List.range 4).foldl (fun c i => c * 256 + byte (10 + i)) 0
        let d : LzmaDecoder := ⟨Array.replicate (literalBase + 0x300 * Nat.pow 2 (s.lc + s.lp)) 1024,
          0xFFFFFFFF, code, raw, 5, #[], 0, (0, 0, 0, 0)⟩
        match decodePackets s (400 * (raw.size + 1)) d with
        | (out, none) => .done (ByteArray.mk out)
        | (out, some .ended) => .short (ByteArray.mk out)
        | (_, some .corrupt) => .bad "Corrupt input data"

end MacroDoc.Archive
