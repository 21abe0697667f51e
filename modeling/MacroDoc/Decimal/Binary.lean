/-!
# Binary64 values as exact numbers

A finite binary64 value is `±m · 2^q` with an integer significand `m < 2^53`. This module
reads a `Float` into that form and builds the nearest binary64 value to an exact rational,
ties going to the even significand, so that every conversion into floating point in the
library is correctly rounded and does not depend on how the platform converts.

## Main definitions

* `Decimal.Binary`, `Decimal.Kind`, `Decimal.kindOf`: a float as sign, significand and
  exponent, or an infinity, or not a number.
* `Decimal.roundHalfEven`: the integer nearest to a quotient, ties to even.
* `Decimal.nearest`: the binary64 value nearest to `n / d`.
* `Decimal.ofInt`, `Decimal.ofScaled`: integers and `digits · 10^e` as floats.
* `Decimal.truncate`, `Decimal.roundToInt`: a finite float as an integer, cut toward zero or
  rounded to nearest with ties to even.
-/

namespace MacroDoc.Decimal

/-- A finite binary64 value `(-1)^negative · significand · 2^exponent`. -/
structure Binary where
  negative : Bool
  significand : Nat
  exponent : Int
  deriving Repr

/-- What a float is. -/
inductive Kind where
  | finite (b : Binary)
  | infinite (negative : Bool)
  | notANumber
  deriving Repr

/-- The parts of a float, read from its bits. -/
def kindOf (x : Float) : Kind :=
  let bits := x.toBits.toNat
  let negative := bits / Nat.pow 2 63 == 1
  let biased : Nat := (bits / Nat.pow 2 52) % 2048
  let fraction : Nat := bits % Nat.pow 2 52
  if biased == 2047 then
    if fraction == 0 then .infinite negative else .notANumber
  else if biased == 0 then .finite ⟨negative, fraction, -1074⟩
  else .finite ⟨negative, fraction + Nat.pow 2 52, (biased : Int) - 1075⟩

/-- `n / d` rounded to the nearest integer, a tie going to the even neighbour. -/
def roundHalfEven (n d : Nat) : Nat :=
  let q := n / d
  let r := n % d
  if 2 * r > d then q + 1
  else if 2 * r < d then q
  else q + q % 2

/-- `n / (d · 2^e)` as a quotient of naturals, for an exponent of either sign. -/
def scaledQuotient (n d : Nat) (e : Int) : Nat × Nat :=
  if 0 ≤ e then (n, d * Nat.pow 2 e.toNat) else (n * Nat.pow 2 (-e).toNat, d)

/-- The exponent `q` at which `n / (d · 2^q)` lies in `[2^52, 2^53)`, found from the bit
lengths and corrected by one step in either direction. -/
def normalExponent (n d : Nat) : Int :=
  let guess : Int := (n.log2 : Int) - (d.log2 : Int) - 52
  let (a, b) := scaledQuotient n d guess
  if a / b ≥ Nat.pow 2 53 then guess + 1
  else if a / b < Nat.pow 2 52 then guess - 1
  else guess

/-- The bits of a positive binary64 value with significand `m` and exponent `q`, where
either `2^52 ≤ m < 2^53` or `q = -1074` and `m < 2^52`; too large a value becomes infinity. -/
def packBits (m : Nat) (q : Int) : Nat :=
  if m < Nat.pow 2 52 then m
  else if q > 971 then 2047 * Nat.pow 2 52
  else (q + 1075).toNat * Nat.pow 2 52 + (m - Nat.pow 2 52)

/-- The bits of the binary64 value nearest to `n / d`, for `n > 0` and `d > 0`. -/
def nearestBits (n d : Nat) : Nat :=
  let q := max (normalExponent n d) (-1074)
  let (a, b) := scaledQuotient n d q
  let m := roundHalfEven a b
  if m == Nat.pow 2 53 then packBits (Nat.pow 2 52) (q + 1) else packBits m q

/-- The float with the given sign nearest to `n / d`; zero when `n = 0`. -/
def nearest (negative : Bool) (n d : Nat) : Float :=
  let magnitude := if n == 0 || d == 0 then 0 else nearestBits n d
  Float.ofBits (UInt64.ofNat (if negative then magnitude + Nat.pow 2 63 else magnitude))

/-- An infinity of the given sign. -/
def infinity (negative : Bool) : Float :=
  Float.ofBits (UInt64.ofNat ((if negative then Nat.pow 2 63 else 0) + 2047 * Nat.pow 2 52))

/-- The number of decimal digits of a natural number (one for zero). -/
def decimalLength (n : Nat) : Nat :=
  (Nat.toDigits 10 n).length

/-- The float nearest to `± digits · 10^e`. Values far beyond the range of binary64 go to
infinity or zero without building huge numbers. -/
def ofScaled (negative : Bool) (digits : Nat) (e : Int) : Float :=
  if digits == 0 then nearest negative 0 1
  else
    let size := (decimalLength digits : Int) + e
    if size > 311 then infinity negative
    else if size < -326 then nearest negative 0 1
    else if 0 ≤ e then nearest negative (digits * Nat.pow 10 e.toNat) 1
    else nearest negative digits (Nat.pow 10 (-e).toNat)

/-- The float nearest to an integer; integers of 2^1024 and more become infinite. -/
def ofInt (i : Int) : Float :=
  ofScaled (i < 0) i.natAbs 0

/-- Whether an integer is too large in size to become a finite float. -/
def intTooLarge (i : Int) : Bool :=
  i.natAbs ≥ Nat.pow 2 1024 - Nat.pow 2 970

/-- The exact value of a finite float as a numerator and a power-of-two denominator. -/
def Binary.asQuotient (b : Binary) : Nat × Nat :=
  if 0 ≤ b.exponent then (b.significand * Nat.pow 2 b.exponent.toNat, 1)
  else (b.significand, Nat.pow 2 (-b.exponent).toNat)

/-- A finite float cut toward zero; `none` for infinities and not-a-number. -/
def truncate (x : Float) : Option Int :=
  match kindOf x with
  | .finite b =>
    let (n, d) := b.asQuotient
    let m : Int := (n / d : Nat)
    some (if b.negative then -m else m)
  | _ => none

/-- A finite float rounded to the nearest integer, ties to even; `none` for infinities and
not-a-number. -/
def roundToInt (x : Float) : Option Int :=
  match kindOf x with
  | .finite b =>
    let (n, d) := b.asQuotient
    let m : Int := roundHalfEven n d
    some (if b.negative then -m else m)
  | _ => none

/-- Whether a float is an infinity. -/
def isInfinite (x : Float) : Bool :=
  match kindOf x with
  | .infinite _ => true
  | _ => false

/-- Whether a float is not a number. -/
def isNotANumber (x : Float) : Bool :=
  match kindOf x with
  | .notANumber => true
  | _ => false

/-- Whether a float is zero of either sign. -/
def isZero (x : Float) : Bool :=
  match kindOf x with
  | .finite b => b.significand == 0
  | _ => false

end MacroDoc.Decimal
