/-!
# Reading UTF-8

Bytes are read as text in UTF-8. A character takes one to four bytes: a lead byte that says
how many, and continuation bytes in `0x80 … 0xBF`; the second byte after `E0`, `ED`, `F0`
and `F4` has a narrower range, which rules out overlong forms, surrogates and code points
past `U+10FFFF`.

Reading stops at the first malformed character and reports where it starts and why: a lead
byte that starts nothing, a byte that does not continue the character, or bytes that end
before the character does. The report covers the lead byte and the continuation bytes read
before the fault.

## Main definitions

* `Text.Utf8Fault`: why and where reading stopped.
* `Text.decodeUtf8`: bytes as text.
* `Text.Utf8Fault.message`: the words of a fault.
* `Text.readChunked`: a text file read piece by piece, as far as it can be read.

A text file is read in pieces of 8192 bytes, each piece decoded as it is read. A character
cut by the end of a piece is completed by the next, and so is `ED` followed by `A0 … BF`
(the first half of a surrogate, refused only once the next piece is read); a fault in a
piece stops the reading there, with the position counted in the bytes that piece was decoded from (the bytes that
waited from the piece before, then the piece). What the earlier pieces gave can still be
used.
-/

namespace MacroDoc.Text

/-- Why a character could not be read. -/
inductive Utf8Reason where
  | invalidStart
  | invalidContinuation
  | unexpectedEnd
  deriving DecidableEq, Repr

/-- The words of a reason. -/
def Utf8Reason.text : Utf8Reason → String
  | .invalidStart => "invalid start byte"
  | .invalidContinuation => "invalid continuation byte"
  | .unexpectedEnd => "unexpected end of data"

/-- A malformed character: where it starts, how many bytes the report covers, and why. -/
structure Utf8Fault where
  start : Nat
  length : Nat
  firstByte : UInt8
  reason : Utf8Reason
  deriving Repr

/-- Two lower-case hexadecimal digits of a byte. -/
def byteText (b : UInt8) : String :=
  let digit (n : Nat) : Char := if n < 10 then Char.ofNat (48 + n) else Char.ofNat (87 + n)
  String.ofList [digit (b.toNat / 16), digit (b.toNat % 16)]

/-- The words of a fault. -/
def Utf8Fault.message (f : Utf8Fault) : String :=
  if f.length ≤ 1 then
    "'utf-8' codec can't decode byte 0x" ++ byteText f.firstByte ++ " in position " ++
      toString f.start ++ ": " ++ f.reason.text
  else
    "'utf-8' codec can't decode bytes in position " ++ toString f.start ++ "-" ++
      toString (f.start + f.length - 1) ++ ": " ++ f.reason.text

/-- How many continuation bytes a lead byte wants, with the range of its first one; `none`
for a byte that leads nothing. -/
def leadShape (b : Nat) : Option (Nat × Nat × Nat) :=
  if b < 0x80 then some (0, 0, 0)
  else if b < 0xC2 then none
  else if b < 0xE0 then some (1, 0x80, 0xBF)
  else if b == 0xE0 then some (2, 0xA0, 0xBF)
  else if b == 0xED then some (2, 0x80, 0x9F)
  else if b < 0xF0 then some (2, 0x80, 0xBF)
  else if b == 0xF0 then some (3, 0x90, 0xBF)
  else if b == 0xF4 then some (3, 0x80, 0x8F)
  else if b < 0xF5 then some (3, 0x80, 0xBF)
  else none

/-- Read the continuation bytes of a character from position `i`: `want` more are needed,
the next one in `lo … hi`; `got` have been read. Gives the value and the next position, or
the reason and the number of bytes read. -/
def continuation (bytes : ByteArray) : Nat → Nat → Nat → Nat → Nat → Nat →
    Except (Utf8Reason × Nat) (Nat × Nat)
  | 0, _, _, _, value, i => .ok (value, i)
  | want + 1, lo, hi, got, value, i =>
    match bytes[i]? with
    | none => .error (.unexpectedEnd, got)
    | some b =>
      let n := b.toNat
      if lo ≤ n && n ≤ hi then
        continuation bytes want 0x80 0xBF (got + 1) (value * 64 + (n - 0x80)) (i + 1)
      else .error (.invalidContinuation, got)

/-- Read characters from position `i`, at most `fuel` of them. -/
def decodeFrom (bytes : ByteArray) : Nat → Nat → List Char → Except Utf8Fault (List Char)
  | 0, _, acc => .ok acc.reverse
  | fuel + 1, i, acc =>
    match bytes[i]? with
    | none => .ok acc.reverse
    | some b =>
      match leadShape b.toNat with
      | none => .error ⟨i, 1, b, .invalidStart⟩
      | some (want, lo, hi) =>
        let lead := if want == 0 then b.toNat
          else if want == 1 then b.toNat - 0xC0
          else if want == 2 then b.toNat - 0xE0
          else b.toNat - 0xF0
        match continuation bytes want lo hi 1 lead (i + 1) with
        | .ok (value, next) => decodeFrom bytes fuel next (Char.ofNat value :: acc)
        | .error (reason, got) => .error ⟨i, got, b, reason⟩

/-- Bytes as text. -/
def decodeUtf8 (bytes : ByteArray) : Except Utf8Fault String :=
  (decodeFrom bytes (bytes.size + 1) 0 []).map String.ofList

/-- Text with every carriage return, alone or before a line feed, made a line feed. -/
def unifyNewlines : List Char → List Char
  | [] => []
  | '\r' :: '\n' :: rest => '\n' :: unifyNewlines rest
  | '\r' :: rest => '\n' :: unifyNewlines rest
  | c :: rest => c :: unifyNewlines rest

/-- The lines of a text, each with its line feed; the last may have none. -/
def fileLines (cs : List Char) : List String :=
  let rec go : List Char → List Char → List String
    | [], [] => []
    | [], cur => [String.ofList cur.reverse]
    | '\n' :: rest, cur => String.ofList ('\n' :: cur).reverse :: go rest []
    | c :: rest, cur => go rest (c :: cur)
  go cs []

/-- The size of the pieces a text file is read in. -/
def chunkSize : Nat := 8192

/-- What reading a text file piece by piece gives: the text of the pieces read before the
first one that cannot be read, every line end made a line feed, and the fault of that piece
if there is one. -/
structure ChunkedText where
  text : String
  fault : Option Utf8Fault

/-- Text with a carriage return held back from before it, and one at its end held back
for what follows, since it may be the first half of a line end. -/
def withHeldReturn (held : Bool) (s : String) : List Char × Bool :=
  let cs := (if held then ['\r'] else []) ++ s.toList
  if cs.getLast? == some '\r' then (cs.dropLast, true) else (cs, false)

/-- Whether a fault is `ED` and a byte in `A0 … BF` at the very end of the bytes: the first
half of a surrogate, which a piece that may not be the last keeps for the next piece instead
of refusing it. -/
def cutSurrogate (data : ByteArray) (f : Utf8Fault) : Bool :=
  f.reason == .invalidContinuation && f.firstByte == 0xED && f.start + 2 == data.size &&
    (data[f.start + 1]?.any fun b => 0xA0 ≤ b && b ≤ 0xBF)

/-- Read pieces from byte `pos` on: the bytes of a character cut by the end of a piece wait
for the next one, and so do the first half of a surrogate and a final carriage return. At
the end, waiting bytes are read as they are, which refuses them; the fuel bounds the number
of pieces. -/
def readChunks (bytes : ByteArray) : Nat → Nat → ByteArray → Bool → List Char → ChunkedText
  | 0, _, _, _, acc => ⟨String.ofList (unifyNewlines acc), none⟩
  | fuel + 1, pos, pending, held, acc =>
    let chunk := bytes.extract pos (pos + chunkSize)
    if chunk.size == 0 then
      match decodeUtf8 pending with
      | .error f => ⟨String.ofList (unifyNewlines acc), some f⟩
      | .ok _ => ⟨String.ofList (unifyNewlines (acc ++ (if held then ['\r'] else []))), none⟩
    else
      let data := pending ++ chunk
      let step (decoded : String) (rest : ByteArray) : ChunkedText :=
        if decoded.isEmpty then readChunks bytes fuel (pos + chunkSize) rest held acc
        else
          let (cs, held) := withHeldReturn held decoded
          readChunks bytes fuel (pos + chunkSize) rest held (acc ++ cs)
      match decodeUtf8 data with
      | .ok decoded => step decoded ByteArray.empty
      | .error f =>
        if f.reason == .unexpectedEnd || cutSurrogate data f then
          match decodeUtf8 (data.extract 0 f.start) with
          | .ok decoded => step decoded (data.extract f.start data.size)
          | .error g => ⟨String.ofList (unifyNewlines acc), some g⟩
        else ⟨String.ofList (unifyNewlines acc), some f⟩

/-- Read the bytes of a text file piece by piece. -/
def readChunked (bytes : ByteArray) : ChunkedText :=
  readChunks bytes (bytes.size / chunkSize + 2) 0 ByteArray.empty false []

end MacroDoc.Text
