import MacroDoc.Decimal.Shortest

/-!
# Fixed and scientific notation with a given number of digits

A finite binary64 value is written with a fixed number of digits by rounding its exact value
on a decimal grid, to the nearest point with a tie going to the even one. In *fixed* notation
the grid has a given number of places after the point; in *scientific* notation it has a
given number of digits after the first significant one, which stands alone before the point,
and the power of ten follows as `e`, a sign and at least two digits. A negative value, zero
included, carries a minus sign.

Rounding may carry into a new leading digit (`9.99` to one place is `10.0`); in scientific
notation the power of ten then grows by one and the digits stay as many.

## Main definitions

* `Decimal.fixedText`: a value with a number of places after the point.
* `Decimal.scientificText`: a value with a number of digits after the first.
-/

namespace MacroDoc.Decimal

/-- The decimal digits of a natural number, with zeros in front up to a width. -/
def paddedDigits (n width : Nat) : List Char :=
  let ds := Nat.toDigits 10 n
  List.replicate (width - ds.length) '0' ++ ds

/-- The sign of a written value. -/
def signText (negative : Bool) : String := if negative then "-" else ""

/-- A finite value with `places` digits after the point, and no point when there are none:
its exact value rounded to the grid `10^-places`, a tie going to the even point. -/
def fixedText (b : Binary) (places : Nat) : String :=
  let (n, d) := b.asQuotient
  let m := roundHalfEven (n * Nat.pow 10 places) d
  let ds := paddedDigits m (places + 1)
  let whole := ds.take (ds.length - places)
  let frac := ds.drop (ds.length - places)
  signText b.negative ++ String.ofList whole ++
    (if places == 0 then "" else "." ++ String.ofList frac)

/-- The digits of `n / d` rounded to `digits + 1` significant digits on the grid of its
decimal exponent `e`, ties to even, and that exponent; a carry into a new digit moves the
exponent up by one. -/
def scientificDigits (n d digits : Nat) : Nat × Int :=
  let e := decimalExponent n d
  let shift : Int := (digits : Int) - e
  let m := if 0 ≤ shift then roundHalfEven (n * Nat.pow 10 shift.toNat) d
    else roundHalfEven n (d * Nat.pow 10 (-shift).toNat)
  if m ≥ Nat.pow 10 (digits + 1) then (m / 10, e + 1) else (m, e)

/-- A finite value in scientific notation with `digits` digits after the first: one digit,
the point and the others when there are any, then `e`, the sign of the power of ten and at
least two digits of it. Zero is written with zeros and the power `+00`. -/
def scientificText (b : Binary) (digits : Nat) : String :=
  let (n, d) := b.asQuotient
  let (m, e) := if n == 0 then (0, 0) else scientificDigits n d digits
  let ds := paddedDigits m (digits + 1)
  let mantissa := String.ofList (ds.take 1) ++
    (if digits == 0 then "" else "." ++ String.ofList (ds.drop 1))
  signText b.negative ++ mantissa ++ "e" ++ (if e < 0 then "-" else "+") ++
    String.ofList (paddedDigits e.natAbs 2)

end MacroDoc.Decimal
