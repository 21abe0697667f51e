/-!
# Base64

Binary content is written in base64: each character of `A–Z`, `a–z`, `0–9`, `+` and `/`
stands for six bits, and `=` pads the end. Decoding keeps the whole bytes the six-bit groups
make and ignores characters outside the alphabet.

## Main definitions

* `Text.decodeBase64`: the bytes a base64 text stands for.
-/

namespace MacroDoc.Text

/-- The six bits a base64 character stands for. -/
def base64Value (c : Char) : Option Nat :=
  if 'A' ≤ c && c ≤ 'Z' then some (c.toNat - 65)
  else if 'a' ≤ c && c ≤ 'z' then some (c.toNat - 71)
  else if '0' ≤ c && c ≤ '9' then some (c.toNat + 4)
  else if c == '+' then some 62
  else if c == '/' then some 63
  else none

/-- The bytes of groups of six bits, with the bits not yet making a byte carried along. -/
def bytesOfSextets : List Nat → Nat → Nat → List UInt8
  | [], _, _ => []
  | s :: rest, acc, bits =>
    let acc := acc * 64 + s
    let bits := bits + 6
    if bits ≥ 8 then
      let shift := Nat.pow 2 (bits - 8)
      (acc / shift).toUInt8 :: bytesOfSextets rest (acc % shift) (bits - 8)
    else bytesOfSextets rest acc bits

/-- The bytes a base64 text stands for. -/
def decodeBase64 (s : String) : ByteArray :=
  let sextets := s.toList.takeWhile (· != '=') |>.filterMap base64Value
  ⟨(bytesOfSextets sextets 0 0).toArray⟩

end MacroDoc.Text
