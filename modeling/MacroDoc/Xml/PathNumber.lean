import MacroDoc.Decimal.Notation

/-!
# Numbers in path queries

A number of a path query is a binary64 value. Its readings and its text follow the rules of
the query engine, which are not those of correctly rounded conversion:

* Digits are read one at a time into binary64: the value so far is multiplied by ten and the
  digit added, each step rounded. A fraction is read the same way, at most twenty digits after
  its leading zeros, and then divided by the power of ten of its length; an exponent, kept
  below a million, multiplies the value by its power of ten. So a number with many digits may
  differ from the correctly rounded one.
* A text read as a number may have blanks around it and a minus sign in front, but no plus
  sign; anything else makes it not a number.
* A number is written as an integer when it is a whole number strictly between `-2^31` and
  `2^31 - 1`; beyond `10^9` or below `10^-5` in size it is written in scientific notation
  with fifteen significant digits, and otherwise in fixed notation with fifteen significant
  digits, counted from the integer part as its logarithm cut toward zero gives it. Zeros at
  the end of the fraction are dropped, and the point with them when nothing is left.
* The remainder of a division has the sign of the dividend and is exact; rounding takes a
  half up, and keeps the sign of a number that rounds to zero.

## Main definitions

* `Xml.readLiteralNumber`: a number written in a query.
* `Xml.numberOfText`: a text read as a number.
* `Xml.numberText`: the text of a number.
* `Xml.remainder`, `Xml.roundNumber`: the arithmetic that is not plain binary64.
-/

namespace MacroDoc.Xml

/-- Whether a character is a blank of a query or of a number's text. -/
def isBlank (c : Char) : Bool := c == ' ' || c == '\t' || c == '\n' || c == '\r'

/-- Whether a character is an ASCII digit. -/
def isDigitChar (c : Char) : Bool := '0' ≤ c && c ≤ '9'

/-- The value of an ASCII digit as a float. -/
def digitValue (c : Char) : Float := (c.toNat - 48).toFloat

/-- The most digits of a fraction that are read after its leading zeros. -/
def maxFractionDigits : Nat := 20

/-- The digits at the front of a list accumulated into a float, whether there was any, and
what follows them. -/
def wholeDigits : List Char → Float → Bool → Float × Bool × List Char
  | [], acc, seen => (acc, seen, [])
  | c :: rest, acc, seen =>
    if isDigitChar c then wholeDigits rest (acc * 10.0 + digitValue c) true
    else (acc, seen, c :: rest)

/-- The zeros at the front of a list counted onto `count`, and what follows them. -/
def leadingZeros : List Char → Nat → Nat × List Char
  | '0' :: rest, count => leadingZeros rest (count + 1)
  | cs, count => (count, cs)

/-- At most `room` digits at the front of a list accumulated into a float, their number added
to `count`, and what follows the digits, those past the room skipped. -/
def fractionDigits : List Char → Nat → Float → Nat → Float × Nat × List Char
  | [], _, acc, count => (acc, count, [])
  | c :: rest, room + 1, acc, count =>
    if isDigitChar c then fractionDigits rest room (acc * 10.0 + digitValue c) (count + 1)
    else (acc, count, c :: rest)
  | cs, 0, acc, count => (acc, count, cs.dropWhile isDigitChar)

/-- The digits of an exponent accumulated while the value is below a million, and what
follows them. -/
def exponentDigits : List Char → Nat → Nat × List Char
  | [], e => (e, [])
  | c :: rest, e =>
    if isDigitChar c then
      exponentDigits rest (if e < 1000000 then e * 10 + (c.toNat - 48) else e)
    else (e, c :: rest)

/-- A fraction after its point, read onto a whole part: the value and what follows. -/
def withFraction (whole : Float) (cs : List Char) : Float × List Char :=
  let (zeros, cs) := leadingZeros cs 0
  let (fraction, count, cs) := fractionDigits cs maxFractionDigits 0.0 zeros
  (whole + fraction / Float.pow 10.0 count.toFloat, cs)

/-- An exponent after its letter: its signed value and what follows. -/
def signedExponent (cs : List Char) : Int × List Char :=
  match cs with
  | '-' :: rest => let (e, rest) := exponentDigits rest 0; (-(e : Int), rest)
  | '+' :: rest => let (e, rest) := exponentDigits rest 0; (e, rest)
  | _ => let (e, rest) := exponentDigits cs 0; (e, rest)

/-- A float times a power of ten. -/
def timesPowerOfTen (x : Float) (e : Int) : Float := x * Float.pow 10.0 (Float.ofInt e)

/-- A number written in a query, from its first digit (or its point before a digit): the
value and what follows. -/
def readLiteralNumber (cs : List Char) : Float × List Char :=
  let (x, _, cs) := wholeDigits cs 0.0 false
  let (x, cs) := match cs with
    | '.' :: rest => withFraction x rest
    | _ => (x, cs)
  match cs with
  | c :: rest =>
    if c == 'e' || c == 'E' then
      let (e, rest) := signedExponent rest
      (timesPowerOfTen x e, rest)
    else (x, cs)
  | [] => (x, cs)

/-- Not a number. -/
def notANumber : Float := 0.0 / 0.0

/-- A text read as a number: blanks around it, a minus sign in front, digits with a point
and a fraction, and an exponent; a text of any other form is not a number. -/
def numberOfText (s : String) : Float :=
  let cs := s.toList.dropWhile isBlank
  let (negative, cs) := match cs with
    | '-' :: rest => (true, rest)
    | _ => (false, cs)
  match cs with
  | [] => notANumber
  | c :: _ =>
    if c != '.' && !isDigitChar c then notANumber
    else
      let (x, seen, cs) := wholeDigits cs 0.0 false
      let fraction : Option (Float × List Char) := match cs with
        | '.' :: rest =>
          if !seen && !(rest.head?.any isDigitChar) then none else some (withFraction x rest)
        | _ => some (x, cs)
      match fraction with
      | none => notANumber
      | some (x, cs) =>
        let (e, cs) : Int × List Char := match cs with
          | c :: rest => if c == 'e' || c == 'E' then signedExponent rest else (0, c :: rest)
          | [] => (0, [])
        if !(cs.all isBlank) then notANumber
        else timesPowerOfTen (if negative then -x else x) e

/-- Zeros at the end of a written fraction dropped, and its point too when nothing is left
after it; `tail` is what follows the fraction. -/
def dropFractionZeros (body tail : List Char) : String :=
  let kept := (body.reverse.dropWhile (· == '0')).reverse
  let kept := if kept.getLast? == some '.' then kept.dropLast else kept
  String.ofList (kept ++ tail)

/-- The text of a number: `NaN`, `Infinity` and `-Infinity`, `0` for both zeros, a whole
number in the range of a 32-bit integer as an integer, other values of size beyond `10^9` or
below `10^-5` in scientific notation, and the rest in fixed notation, both with fifteen
significant digits and their zeros at the end dropped. -/
def numberText (x : Float) : String :=
  match Decimal.kindOf x with
  | .notANumber => "NaN"
  | .infinite negative => if negative then "-Infinity" else "Infinity"
  | .finite b =>
    if b.significand == 0 then "0"
    else if x > -2147483648.0 && x < 2147483647.0 && x == x.floor then
      toString ((Decimal.truncate x).getD 0)
    else
      let size := x.abs
      if size > 1e9 || size < 1e-5 then
        let text := (Decimal.scientificText b 14).toList
        let mantissa := text.takeWhile (· != 'e')
        dropFractionZeros mantissa (text.drop mantissa.length)
      else
        let integerPlace := (Decimal.truncate (Float.log10 size)).getD 0
        let places := if integerPlace > 0 then 15 - integerPlace - 1 else 15 - integerPlace
        dropFractionZeros (Decimal.fixedText b places.toNat).toList []

/-- The remainder of `x` divided by `y`, exact, with the sign of `x`: not a number when `x` is
infinite or `y` is zero, and `x` itself when `y` is infinite. -/
def remainder (x y : Float) : Float :=
  match Decimal.kindOf x, Decimal.kindOf y with
  | .finite a, .finite b =>
    if b.significand == 0 then notANumber
    else
      let (nx, dx) := a.asQuotient
      let (ny, dy) := b.asQuotient
      let q := (nx * dy) / (ny * dx)
      Decimal.nearest a.negative (nx * dy - q * ny * dx) (dx * dy)
  | .finite _, .infinite _ => x
  | _, _ => notANumber

/-- A number rounded to a whole number, a half going up: a number from `-0.5` up to `0.5`
becomes a zero of its own sign. -/
def roundNumber (x : Float) : Float :=
  if x ≥ -0.5 && x < 0.5 then x * 0.0
  else
    let down := x.floor
    if x - down ≥ 0.5 then down + 1.0 else down

end MacroDoc.Xml
