import MacroDoc.Decimal.Binary

/-!
# The shortest decimal that reads back

Every finite binary64 value owns an interval of reals that round to it; its ends belong to it
exactly when the significand is even. The *shortest decimal* of the value is the decimal
with the fewest significant digits inside that interval; of two such decimals on the same
grid the nearer to the value wins, and an exact tie goes to the even one.

The text of a float puts those digits positionally when the decimal point falls between
four places left of the first digit and sixteen places right of it, and in exponent form
otherwise: `1e-05`, `0.0001`, `1000000000000000.0`, `1e+16`. A whole number keeps `.0`.

## Main definitions

* `Decimal.shortestDigits`: the digits and decimal exponent of the shortest decimal.
* `Decimal.floatText`: the text of a float.
-/

namespace MacroDoc.Decimal

/-- `a · 2^e2 · 10^e10` as a quotient of naturals. -/
def gridQuotient (a : Nat) (e2 e10 : Int) : Nat × Nat :=
  let n := a * Nat.pow 2 (max e2 0).toNat * Nat.pow 10 (max (-e10) 0).toNat
  let d := Nat.pow 2 (max (-e2) 0).toNat * Nat.pow 10 (max e10 0).toNat
  (n, d)

/-- The least integer at or above `n / d`, or strictly above it when `strict`. -/
def ceilQuotient (n d : Nat) (strict : Bool) : Nat :=
  if n % d == 0 then (if strict then n / d + 1 else n / d) else n / d + 1

/-- The greatest integer at or below `n / d`, or strictly below it when `strict`; the
result is meaningful only when it is not negative, which `strict` with `n = 0` breaks. -/
def floorQuotient (n d : Nat) (strict : Bool) : Int :=
  if n % d == 0 then (if strict then (n / d : Int) - 1 else n / d) else n / d

/-- Whether `n / d < 10^k`. -/
def belowPower (n d : Nat) (k : Int) : Bool :=
  if 0 ≤ k then n < d * Nat.pow 10 k.toNat else n * Nat.pow 10 (-k).toNat < d

/-- The largest `k` with `10^k ≤ n / d`, for `n, d > 0`: the digit counts give it up to one. -/
def decimalExponent (n d : Nat) : Int :=
  let guess : Int := (decimalLength n : Int) - (decimalLength d : Int)
  if belowPower n d guess then guess - 1 else guess

/-- The integer on the grid `10^t` chosen for a value `v = 4m · 2^(q-2)` whose interval is
`(lo, hi) · 2^(q-2)`: the one nearest to the value among those inside the interval, if any. -/
def pickOnGrid (v lo hi : Nat) (e2 : Int) (t : Int) (inclusive : Bool) : Option Nat :=
  let (ln, ld) := gridQuotient lo e2 t
  let (hn, hd) := gridQuotient hi e2 t
  let (vn, vd) := gridQuotient v e2 t
  let least := ceilQuotient ln ld (!inclusive)
  let most := floorQuotient hn hd (!inclusive)
  let near := roundHalfEven vn vd
  if (least : Int) ≤ most && 0 < least then
    some (min (max near least) most.toNat)
  else none

/-- Try grids of `1, 2, …` significant digits, the first with a point in the interval wins. -/
def searchGrids (v lo hi : Nat) (e2 : Int) (top : Int) (inclusive : Bool) :
    Nat → Nat → Option (Nat × Int)
  | 0, _ => none
  | fuel + 1, digits =>
    let t := top - (digits : Int) + 1
    match pickOnGrid v lo hi e2 t inclusive with
    | some c => some (c, t)
    | none => searchGrids v lo hi e2 top inclusive fuel (digits + 1)

/-- Remove trailing zeros from `c · 10^t`. -/
def trimZeros : Nat → Int → Nat → Nat × Int
  | c, t, 0 => (c, t)
  | c, t, fuel + 1 => if c != 0 && c % 10 == 0 then trimZeros (c / 10) (t + 1) fuel else (c, t)

/-- The digits `c` and exponent `t` of the shortest decimal `c · 10^t` of a positive finite
value with significand `m` and exponent `q`. Seventeen digits always suffice. -/
def shortestDigits (m : Nat) (q : Int) : Nat × Int :=
  let lowerGap := if m == Nat.pow 2 52 && q > -1074 then 1 else 2
  let v := 4 * m
  let lo := 4 * m - lowerGap
  let hi := 4 * m + 2
  let e2 := q - 2
  let (n, d) := gridQuotient v e2 0
  let top := decimalExponent n d
  let inclusive := m % 2 == 0
  match searchGrids v lo hi e2 top inclusive 18 1 with
  | some (c, t) => trimZeros c t 20
  | none => (m, 0)

/-- How a float's digits are laid out: positionally when the decimal point lies after
`decimalPoint` digits with `-4 < decimalPoint ≤ 16`. -/
def positional (decimalPoint : Int) : Bool :=
  -4 < decimalPoint && decimalPoint ≤ 16

/-- The exponent of the exponent form, with a sign and at least two digits. -/
def exponentText (e : Int) : String :=
  let sign := if e < 0 then "-" else "+"
  let digits := toString e.natAbs
  sign ++ (if digits.length < 2 then "0" ++ digits else digits)

/-- The text of the digits `s` (no trailing zeros) whose decimal point follows `point`
of them. -/
def layoutDigits (s : String) (point : Int) : String :=
  let n : Int := s.length
  if positional point then
    if point ≤ 0 then "0." ++ String.ofList (List.replicate (-point).toNat '0') ++ s
    else if point < n then
      String.ofList (s.toList.take point.toNat) ++ "." ++ String.ofList (s.toList.drop point.toNat)
    else s ++ String.ofList (List.replicate (point - n).toNat '0') ++ ".0"
  else
    let first := String.ofList (s.toList.take 1)
    let rest := String.ofList (s.toList.drop 1)
    first ++ (if rest.isEmpty then "" else "." ++ rest) ++ "e" ++ exponentText (point - 1)

/-- The text of a float: the shortest decimal that reads back, laid out as described in the
module header; `inf`, `-inf` and `nan` for the values that are not finite. -/
def floatText (x : Float) : String :=
  match kindOf x with
  | .notANumber => "nan"
  | .infinite neg => if neg then "-inf" else "inf"
  | .finite b =>
    let sign := if b.negative then "-" else ""
    if b.significand == 0 then sign ++ "0.0"
    else
      let (c, t) := shortestDigits b.significand b.exponent
      let s := toString c
      sign ++ layoutDigits s (s.length + t)

end MacroDoc.Decimal
