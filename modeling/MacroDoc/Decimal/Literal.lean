import MacroDoc.Decimal.Binary
import MacroDoc.Text.Classes
import MacroDoc.Fault

/-!
# Numbers written in text

Macro arguments and command-line values are numbers written as text. A number may be
written in the decimal digits of any script, which count as ASCII digits, and white space
beyond ASCII counts as a space; any other character beyond ASCII makes the text no number.
Blank characters around a number are ignored. An integer is an optional sign and decimal digits, where a single
underscore may stand between two digits; it may have at most 4300 digits. A decimal number
also allows a fraction, an exponent, or one of the words `inf`, `infinity` and `nan` in any
case, and is rounded correctly to binary64.

The same limit holds the other way: an integer of more than 4300 digits is not written as
text.

## Main definitions

* `Decimal.IntReading`, `Decimal.readInt`: an integer from text.
* `Decimal.readFloat`: a binary64 number from text.
* `Decimal.intText`: the text of an integer, within the limit.
-/

namespace MacroDoc.Decimal

/-- What reading an integer from text gives. -/
inductive IntReading where
  | value (n : Int)
  | invalid
  | tooLong (digits : Nat)
  deriving Repr

/-- The most digits an integer written in text may have. -/
def maxTextDigits : Nat := 4300

/-- The refusal to write an integer of too many digits. -/
def writeLimitFault : Fault :=
  Fault.badValue ("Exceeds the limit (4300 digits) for integer string conversion; " ++
    "use sys.set_int_max_str_digits() to increase the limit")

/-- The decimal text of an integer; one of more than 4300 digits is refused. -/
def intText (n : Int) : Except Fault String :=
  if (toString n.natAbs).length > maxTextDigits then .error writeLimitFault
  else .ok (toString n)

/-- Whether a character is an ASCII digit. -/
def isAsciiDigit (c : Char) : Bool := '0' ≤ c && c ≤ '9'

/-- The ASCII form of a text read as a number: ASCII characters stay, white space beyond
ASCII becomes a space, decimal digits of any script become ASCII digits, and any other
character becomes `?`, which no number holds. -/
def asciiForm (s : String) : List Char :=
  s.toList.map fun c =>
    if c.toNat < 127 then c
    else if Text.isWideBlank c then ' '
    else match Text.decimalDigit? c with
      | some d => Char.ofNat (48 + d)
      | none => '?'

/-- Split a sign off the front of a list of characters. -/
def splitSign (cs : List Char) : Bool × List Char :=
  match cs with
  | '-' :: rest => (true, rest)
  | '+' :: rest => (false, rest)
  | _ => (false, cs)

/-- The digits of a run of digits in which single underscores may separate digits; `none`
when an underscore starts or ends the run, or two stand together. -/
def digitsWithSeparators (cs : List Char) : Option (List Char) :=
  let parts := cs.splitOn '_'
  if parts.all (fun p => !p.isEmpty && p.all isAsciiDigit) then some parts.flatten else none

/-- The leading run of digits and underscores of a list of characters. -/
def leadingRun (cs : List Char) : List Char :=
  cs.takeWhile (fun c => isAsciiDigit c || c == '_')

/-- The value of a list of ASCII digits. -/
def valueOfDigits (cs : List Char) : Nat :=
  cs.foldl (fun n c => 10 * n + (c.toNat - 48)) 0

/-- Whether a run of digits and underscores is well formed: it does not start or end with an
underscore and has no two underscores together. -/
def wellSeparated (run : List Char) : Bool :=
  run.head? != some '_' && run.getLast? != some '_' &&
    !(run.zip (run.drop 1)).any (fun p => p.1 == '_' && p.2 == '_')

/-- An integer from the ASCII form of a text. Blanks may stand around it and a sign before
it. A malformed run of digits makes the text invalid before its length is looked at; a
well-formed run that is too long is refused before the rest of the text is looked at. -/
def readIntChars (cs : List Char) : IntReading :=
  let (negative, body) := splitSign (cs.dropWhile Text.isBlank)
  let run := leadingRun body
  let rest := body.drop run.length
  if run.isEmpty || !wellSeparated run then .invalid
  else
    let count := (run.filter isAsciiDigit).length
    if count > maxTextDigits then .tooLong count
    else if !rest.all Text.isBlank then .invalid
    else
      let n : Int := valueOfDigits (run.filter isAsciiDigit)
      .value (if negative then -n else n)

/-- An integer from text. -/
def readInt (s : String) : IntReading := readIntChars (asciiForm s)

/-- A list of characters written `n` times over. -/
def repeatChars (cs : List Char) (n : Nat) : List Char :=
  (List.replicate n cs).flatten

/-- An integer from a text written `n` times over, without writing out long repetitions.
The ASCII form of the repetition is the repetition of the ASCII form.

When the text is all digits and underscores, the repetition is one run, well formed exactly
when two copies are, with `n` times the digits. Otherwise the run of digits ends within the
first copy, or at the start of the second, and the copies after the run hold more than
blanks, so two copies read the same as `n`. -/
def readIntRepeated (s : String) (n : Nat) : IntReading :=
  let cs := asciiForm s
  let twice := repeatChars cs 2
  if n ≤ 2 then readIntChars (repeatChars cs n)
  else if cs.all (fun c => isAsciiDigit c || c == '_') then
    let count := (cs.filter isAsciiDigit).length * n
    match readIntChars twice with
    | .invalid => .invalid
    | _ => if count > maxTextDigits then .tooLong count else readIntChars (repeatChars cs n)
  else readIntChars twice

/-- The value of a hexadecimal digit. -/
def hexDigitValue? (c : Char) : Option Nat :=
  if '0' ≤ c && c ≤ '9' then some (c.toNat - 48)
  else if 'a' ≤ c && c ≤ 'f' then some (c.toNat - 87)
  else if 'A' ≤ c && c ≤ 'F' then some (c.toNat - 55)
  else none

/-- A hexadecimal integer from text; `none` when the text is not one. Blanks may stand
around it, a sign and then `0x` (with one underscore after it) before it, and single
underscores between its digits. Hexadecimal integers have no length limit. -/
def readHex (s : String) : Option Int :=
  let (negative, body) := splitSign ((asciiForm s).dropWhile Text.isBlank)
  let body := match body with
    | '0' :: x :: rest => if x == 'x' || x == 'X' then
        (match rest with
         | '_' :: more => more
         | _ => rest)
      else body
    | _ => body
  let run := body.takeWhile (fun c => (hexDigitValue? c).isSome || c == '_')
  let rest := body.drop run.length
  if run.isEmpty || !wellSeparated run || !rest.all Text.isBlank then none
  else
    let n : Int := ((run.filterMap hexDigitValue?).foldl (fun n d => 16 * n + d) 0 : Nat)
    some (if negative then -n else n)

/-- Whether two lists of characters are equal ignoring ASCII case. -/
def equalsIgnoringCase (a : List Char) (b : String) : Bool :=
  a.map Char.toLower == b.toList

/-- A binary64 number from text; `none` when the text is not a number. -/
def readFloat (s : String) : Option Float :=
  let (negative, body) := splitSign (Text.trimBlank (asciiForm s))
  if equalsIgnoringCase body "inf" || equalsIgnoringCase body "infinity" then
    some (infinity negative)
  else if equalsIgnoringCase body "nan" then some (0.0 / 0.0)
  else
    let mantissa := body.takeWhile (fun c => c != 'e' && c != 'E')
    let rest := body.drop mantissa.length
    let whole := mantissa.takeWhile (· != '.')
    let afterWhole := mantissa.drop whole.length
    let frac := afterWhole.drop 1
    let wholeDigits := if whole.isEmpty then some [] else digitsWithSeparators whole
    let fracDigits := if frac.isEmpty then some [] else digitsWithSeparators frac
    let expValue : Option Int := match rest with
      | [] => some 0
      | _ :: e =>
        let (expNegative, expBody) := splitSign e
        (digitsWithSeparators expBody).map fun ds =>
          let v : Int := valueOfDigits ds
          if expNegative then -v else v
    match wholeDigits, fracDigits, expValue with
    | some w, some f, some e =>
      if w.isEmpty && f.isEmpty then none
      else if afterWhole.length > 0 && afterWhole.head? != some '.' then none
      else some (ofScaled negative (valueOfDigits (w ++ f)) (e - f.length))
    | _, _, _ => none

end MacroDoc.Decimal
