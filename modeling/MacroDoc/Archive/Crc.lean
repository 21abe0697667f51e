/-!
# The CRC-32 checksum

Archives guard each member with the CRC-32 of its bytes: the remainder of the bytes, read
lowest bit first, divided by the reflected polynomial `EDB88320` over the two-element field,
started from and finished with all ones. A byte at a time is one step through a table of
256 remainders, one per byte value, each made by eight single-bit steps.

## Main definitions

* `Archive.crcTable`: the remainder of each byte value.
* `Archive.crc32`: the checksum of bytes.
-/

namespace MacroDoc.Archive

/-- The reflected polynomial of CRC-32. -/
def crcPolynomial : UInt32 := 0xEDB88320

/-- One single-bit step of the division: shift down, and subtract the polynomial when the
bit shifted out was set. -/
def crcBit (c : UInt32) : UInt32 :=
  if c &&& 1 == 1 then (c >>> 1) ^^^ crcPolynomial else c >>> 1

/-- Eight single-bit steps. -/
def crcBits : Nat → UInt32 → UInt32
  | 0, c => c
  | n + 1, c => crcBits n (crcBit c)

/-- The remainder of each byte value. -/
def crcTable : Array UInt32 :=
  (List.range 256).toArray.map fun n => crcBits 8 n.toUInt32

/-- One byte into a running remainder. -/
def crcStep (c : UInt32) (b : UInt8) : UInt32 :=
  let i := ((c ^^^ b.toUInt32) &&& 0xFF).toNat
  (crcTable.getD i 0) ^^^ (c >>> 8)

/-- The checksum of bytes. -/
def crc32 (bytes : ByteArray) : UInt32 :=
  (bytes.foldl crcStep 0xFFFFFFFF) ^^^ 0xFFFFFFFF

theorem crcBits_zero (c : UInt32) : crcBits 0 c = c := rfl

theorem crc32_empty : crc32 ByteArray.empty = 0 := by decide

end MacroDoc.Archive
