import MacroDoc.Json.Value
import MacroDoc.Decimal.Binary
import MacroDoc.Text.Classes
import MacroDoc.Fault

/-!
# Reading data values from text

The reader takes the JSON grammar with three extra constants, `NaN`, `Infinity` and
`-Infinity`. A number with a fraction or an exponent is a binary64 number, correctly
rounded; any other number is an integer, of at most 4300 digits. A key that appears twice
keeps its first place and its last value.

A malformed text is refused with the first fault met, reading left to right, and the
position where it was met: the character offset, and the line and column counted from 1.
A value that cannot start at a position is reported there as "Expecting value", also when
it is nested inside a list or a mapping. Lists and mappings nested deeper than the room a
reading has are refused as too deep, as soon as the one past it opens. Every list or mapping
takes one nested call, and the reader shares a budget of a thousand nested calls with the
calls open around it, so the room depends on how deep the reading is called.

## Main definitions

* `Json.SyntaxFault`, `Json.ReadError`: why a text was refused.
* `Json.roomWithin`: the room a reading has, from the calls open around it.
* `Json.readWithin`, `Json.read`: the value a whole text denotes.
-/

namespace MacroDoc.Json

/-- The faults of a malformed text. -/
inductive SyntaxFault where
  | expectingValue
  | expectingName
  | expectingColon
  | expectingComma
  | unterminatedString
  | controlCharacter
  | badEscape
  | badUnicodeEscape
  | extraData
  | byteOrderMark
  deriving DecidableEq, Repr

/-- The words for a fault. -/
def SyntaxFault.text : SyntaxFault → String
  | .expectingValue => "Expecting value"
  | .expectingName => "Expecting property name enclosed in double quotes"
  | .expectingColon => "Expecting ':' delimiter"
  | .expectingComma => "Expecting ',' delimiter"
  | .unterminatedString => "Unterminated string starting at"
  | .controlCharacter => "Invalid control character at"
  | .badEscape => "Invalid \\escape"
  | .badUnicodeEscape => "Invalid \\uXXXX escape"
  | .extraData => "Extra data"
  | .byteOrderMark => "Unexpected UTF-8 BOM (decode using utf-8-sig)"

/-- Why a text was refused: a syntax fault at a place (offset, line, column), or an integer
with too many digits. -/
inductive ReadError where
  | syntaxAt (fault : SyntaxFault) (offset line column : Nat)
  | tooManyDigits (count : Nat)
  /-- A list (or, when the flag is off, a mapping) opened deeper than the nesting limit. -/
  | tooDeep (list : Bool)
  deriving Repr

/-- The most digits an integer may have. -/
def maxIntDigits : Nat := 4300

/-- The nested calls a reading may make: a thousand, shared with the calls that led to it. -/
def callBudget : Nat := 1000

/-- The lists and mappings a reading may open at once when `openCalls` calls are open around
the call that reads: the reader takes four nested calls of its own before the first value,
and each list or mapping one more. -/
def roomWithin (openCalls : Nat) : Nat := callBudget - (openCalls + 4)

/-- The message of a refusal. -/
def ReadError.message : ReadError → String
  | .syntaxAt fault offset line column =>
    fault.text ++ ": line " ++ toString line ++ " column " ++ toString column ++
      " (char " ++ toString offset ++ ")"
  | .tooManyDigits count =>
    "Exceeds the limit (" ++ toString maxIntDigits ++
      " digits) for integer string conversion: value has " ++ toString count ++
      " digits; use sys.set_int_max_str_digits() to increase the limit"
  | .tooDeep list =>
    "maximum recursion depth exceeded while decoding a JSON " ++
      (if list then "array" else "object") ++ " from a unicode string"

/-- The fault of a refusal: a syntax fault is malformed data; too many digits is a bad
value, met while the integer is converted. -/
def ReadError.toFault (e : ReadError) : Fault :=
  match e with
  | .syntaxAt .. => ⟨.malformedData, e.message⟩
  | .tooManyDigits _ => Fault.badValue e.message
  | .tooDeep _ => ⟨.tooDeep, e.message⟩

/-- The line and column of an offset: lines are counted by newlines before it, the column
from the last of them. -/
def placeOf (s : Array Char) (offset : Nat) : Nat × Nat :=
  let before := (s.toList.take offset)
  let line := before.count '\n' + 1
  let lastBreak := (before.zipIdx.filter (fun p => p.1 == '\n')).getLast?.map (·.2)
  let column := match lastBreak with
    | some k => offset - k
    | none => offset + 1
  (line, column)

/-- A refusal for a fault at an offset of the text. -/
def faultAt (s : Array Char) (fault : SyntaxFault) (offset : Nat) : ReadError :=
  let (line, column) := placeOf s offset
  .syntaxAt fault offset line column

/-- The white space between tokens. -/
def isGap (c : Char) : Bool :=
  c == ' ' || c == '\t' || c == '\n' || c == '\r'

/-- The first offset at or after `i` that is not white space. -/
def skipGap (s : Array Char) (i : Nat) : Nat :=
  if h : i < s.size then (if isGap s[i] then skipGap s (i + 1) else i) else i
termination_by s.size - i

/-- Whether a character is an ASCII digit. -/
def isDigit (c : Char) : Bool := '0' ≤ c && c ≤ '9'

/-- The value of a hexadecimal digit. -/
def hexValue (c : Char) : Option Nat :=
  if isDigit c then some (c.toNat - 48)
  else if 'a' ≤ c && c ≤ 'f' then some (c.toNat - 87)
  else if 'A' ≤ c && c ≤ 'F' then some (c.toNat - 55)
  else none

/-- The number written by the four hexadecimal digits at offset `i`. -/
def hex4 (s : Array Char) (i : Nat) : Option Nat := do
  let a ← hexValue (← s[i]?)
  let b ← hexValue (← s[i + 1]?)
  let c ← hexValue (← s[i + 2]?)
  let d ← hexValue (← s[i + 3]?)
  pure (((a * 16 + b) * 16 + c) * 16 + d)

/-- The character of a one-letter escape. -/
def shortEscape (c : Char) : Option Char :=
  if c == '"' then some '"'
  else if c == '\\' then some '\\'
  else if c == '/' then some '/'
  else if c == 'b' then some '\x08'
  else if c == 'f' then some '\x0c'
  else if c == 'n' then some '\n'
  else if c == 'r' then some '\r'
  else if c == 't' then some '\t'
  else none

/-- The character of a code point; a lone surrogate is kept (see `Text.keptSurrogate`). -/
def charOfCode (n : Nat) : Char :=
  if 0xD800 ≤ n && n ≤ 0xDFFF then Text.keptSurrogate n else Char.ofNat n

/-- Read the rest of a quoted text whose opening quote is at `begin`, from offset `i`. -/
def scanText (s : Array Char) (begin : Nat) (i : Nat) (acc : List Char) :
    Except ReadError (String × Nat) :=
  if h : i < s.size then
    let c := s[i]
    if c == '"' then .ok (String.ofList acc.reverse, i + 1)
    else if c == '\\' then
      match s[i + 1]? with
      | none => .error (faultAt s .unterminatedString begin)
      | some e =>
        if e == 'u' then
          if i + 6 ≥ s.size then .error (faultAt s .badUnicodeEscape (i + 1))
          else match hex4 s (i + 2) with
            | none => .error (faultAt s .badUnicodeEscape (i + 1))
            | some high =>
              if 0xD800 ≤ high && high ≤ 0xDBFF && i + 12 < s.size &&
                  s[i + 6]? == some '\\' && s[i + 7]? == some 'u' then
                match hex4 s (i + 8) with
                | none => .error (faultAt s .badUnicodeEscape (i + 7))
                | some low =>
                  if 0xDC00 ≤ low && low ≤ 0xDFFF then
                    let code := 0x10000 + (high - 0xD800) * 0x400 + (low - 0xDC00)
                    scanText s begin (i + 12) (charOfCode code :: acc)
                  else scanText s begin (i + 6) (charOfCode high :: acc)
              else scanText s begin (i + 6) (charOfCode high :: acc)
        else match shortEscape e with
          | some ch => scanText s begin (i + 2) (ch :: acc)
          | none => .error (faultAt s .badEscape i)
    else if c.toNat ≤ 0x1f then .error (faultAt s .controlCharacter i)
    else scanText s begin (i + 1) (c :: acc)
  else .error (faultAt s .unterminatedString begin)
termination_by s.size - i

/-- The first offset at or after `i` that does not hold a digit. -/
def skipDigits (s : Array Char) (i : Nat) : Nat :=
  if h : i < s.size then (if isDigit s[i] then skipDigits s (i + 1) else i) else i
termination_by s.size - i

/-- The value of a run of decimal digits. -/
def digitsValue (cs : List Char) : Nat :=
  cs.foldl (fun n c => 10 * n + (c.toNat - 48)) 0

/-- Where a number that starts at `start` ends, and whether it has a fraction or an
exponent; `none` when no number starts there. An exponent marker not followed by digits is
not part of the number. -/
def numberEnd (s : Array Char) (start : Nat) : Option (Nat × Bool) := do
  let i := if s[start]? == some '-' then start + 1 else start
  let c ← s[i]?
  let i ← if '1' ≤ c && c ≤ '9' then some (skipDigits s (i + 1))
    else if c == '0' then some (i + 1)
    else none
  let (i, withFraction) :=
    if i + 1 < s.size && s[i]? == some '.' && (s[i + 1]?.map isDigit == some true) then
      (skipDigits s (i + 2), true)
    else (i, false)
  if i + 1 < s.size && (s[i]? == some 'e' || s[i]? == some 'E') then
    let j := i + 1
    let j := if j + 1 < s.size && (s[j]? == some '-' || s[j]? == some '+') then j + 1 else j
    let k := skipDigits s j
    if k > j then pure (k, true) else pure (i, withFraction)
  else pure (i, withFraction)

/-- The float written by a number text `-? digits (. digits)? ([eE] [+-]? digits)?`. -/
def floatOfNumber (cs : List Char) : Float :=
  let negative := cs.head? == some '-'
  let body := if negative then cs.drop 1 else cs
  let mantissa := body.takeWhile (fun c => c != 'e' && c != 'E')
  let expPart := (body.dropWhile (fun c => c != 'e' && c != 'E')).drop 1
  let whole := mantissa.takeWhile (· != '.')
  let frac := (mantissa.dropWhile (· != '.')).drop 1
  let expNegative := expPart.head? == some '-'
  let expDigits := expPart.filter isDigit
  let e : Int := if expNegative then -(digitsValue expDigits : Int) else digitsValue expDigits
  Decimal.ofScaled negative (digitsValue (whole ++ frac)) (e - frac.length)

/-- The number that starts at `start`, and the offset after it. -/
def scanNumber (s : Array Char) (start : Nat) : Except ReadError (Value × Nat) :=
  match numberEnd s start with
  | none => .error (faultAt s .expectingValue start)
  | some (stop, isFloat) =>
    let cs := (s.extract start stop).toList
    if isFloat then .ok (.float (floatOfNumber cs), stop)
    else
      let negative := cs.head? == some '-'
      let digits := if negative then cs.drop 1 else cs
      if digits.length > maxIntDigits then .error (.tooManyDigits digits.length)
      else
        let n : Int := digitsValue digits
        .ok (.int (if negative then -n else n), stop)

/-- Whether the text at offset `i` spells `word`. -/
def spells (s : Array Char) (i : Nat) (word : String) : Bool :=
  (s.extract i (i + word.length)).toList == word.toList

mutual

/-- The value that starts at offset `i` (white space already skipped), inside `depth` open
lists and mappings. -/
def scanValue (s : Array Char) (room depth : Nat) : Nat → Nat → Except ReadError (Value × Nat)
  | 0, i => .error (faultAt s .expectingValue i)
  | fuel + 1, i =>
    match s[i]? with
    | none => .error (faultAt s .expectingValue i)
    | some c =>
      if c == '"' then (scanText s i (i + 1) []).map (fun (t, j) => (.str t, j))
      else if c == '{' then
        if depth ≥ room then .error (.tooDeep false)
        else scanFields s room (depth + 1) fuel (skipGap s (i + 1)) [] true
      else if c == '[' then
        if depth ≥ room then .error (.tooDeep true)
        else scanItems s room (depth + 1) fuel (skipGap s (i + 1)) [] true
      else if c == 'n' && spells s i "null" then .ok (.null, i + 4)
      else if c == 't' && spells s i "true" then .ok (.bool true, i + 4)
      else if c == 'f' && spells s i "false" then .ok (.bool false, i + 5)
      else if c == 'N' && spells s i "NaN" then .ok (.float (0.0 / 0.0), i + 3)
      else if c == 'I' && spells s i "Infinity" then .ok (.float (Decimal.infinity false), i + 8)
      else if c == '-' && spells s i "-Infinity" then
        .ok (.float (Decimal.infinity true), i + 9)
      else scanNumber s i

/-- The rest of a list after its opening bracket, from offset `i`. -/
def scanItems (s : Array Char) (room depth : Nat) :
    Nat → Nat → List Value → Bool → Except ReadError (Value × Nat)
  | 0, i, _, _ => .error (faultAt s .expectingValue i)
  | fuel + 1, i, acc, first =>
    if first && s[i]? == some ']' then .ok (.arr [], i + 1)
    else
      match scanValue s room depth fuel i with
      | .error e => .error e
      | .ok (v, j) =>
        let j := skipGap s j
        let acc := v :: acc
        if s[j]? == some ']' then .ok (.arr acc.reverse, j + 1)
        else if s[j]? == some ',' then scanItems s room depth fuel (skipGap s (j + 1)) acc false
        else .error (faultAt s .expectingComma j)

/-- The rest of a mapping after its opening brace, from offset `i`. -/
def scanFields (s : Array Char) (room depth : Nat) :
    Nat → Nat → List (String × Value) → Bool → Except ReadError (Value × Nat)
  | 0, i, _, _ => .error (faultAt s .expectingValue i)
  | fuel + 1, i, acc, first =>
    if first && s[i]? == some '}' then .ok (.obj [], i + 1)
    else if s[i]? != some '"' then .error (faultAt s .expectingName i)
    else
      match scanText s i (i + 1) [] with
      | .error e => .error e
      | .ok (key, j) =>
        let j := skipGap s j
        if s[j]? != some ':' then .error (faultAt s .expectingColon j)
        else
          match scanValue s room depth fuel (skipGap s (j + 1)) with
          | .error e => .error e
          | .ok (v, k) =>
            let k := skipGap s k
            let acc := Value.setIn key v acc
            if s[k]? == some '}' then .ok (.obj acc, k + 1)
            else if s[k]? == some ',' then scanFields s room depth fuel (skipGap s (k + 1)) acc false
            else .error (faultAt s .expectingComma k)

end

/-- The value a whole text denotes, read with room for `room` lists and mappings open at
once. White space may surround it; anything else after it is extra data. A text that starts
with a byte order mark is refused. -/
def readWithin (room : Nat) (text : String) : Except ReadError Value :=
  let s := text.toList.toArray
  if s[0]? == some (Char.ofNat 0xFEFF) then .error (faultAt s .byteOrderMark 0)
  else
    match scanValue s room 0 (2 * s.size + 2) (skipGap s 0) with
    | .error e => .error e
    | .ok (v, j) =>
      let j := skipGap s j
      if j == s.size then .ok v else .error (faultAt s .extraData j)

/-- The value a whole text denotes, read with as much room as the text can use. -/
def read (text : String) : Except ReadError Value := readWithin (text.length + 1) text

end MacroDoc.Json
