import MacroDoc.Decimal.Binary

/-!
# Lengths

Lengths are whole numbers of English metric units (EMU): 360000 to the centimetre, 12700
to the point, 914400 to the inch. The stored document keeps indents and spacings in twips
(635 EMU), rounded to the nearest twip, and font sizes in half points, cut toward zero.
Lengths are described in centimetres and points as binary64 numbers.

## Main definitions

* `Style.emuPerCm`, `Style.emuPerPt`, `Style.emuPerTwip`, `Style.emuPerInch`.
* `Style.twipsOfEmu`: a length in twips.
* `Style.cmOfEmu`, `Style.ptOfEmu`: a length in centimetres or points.
* `Style.Length`, `Style.FontSize`: stored lengths of paragraph settings and font sizes.
-/

namespace MacroDoc.Style

/-- EMU to the centimetre. -/
def emuPerCm : Nat := 360000

/-- EMU to the point. -/
def emuPerPt : Nat := 12700

/-- EMU to the twip. -/
def emuPerTwip : Nat := 635

/-- EMU to the inch. -/
def emuPerInch : Nat := 914400

/-- A length in whole twips: the quotient by 635 taken as a binary64 number and rounded to
the nearest integer, ties to even. -/
def twipsOfEmu (emu : Int) : Int :=
  (Decimal.roundToInt (Decimal.ofInt emu / Decimal.ofInt emuPerTwip)).getD 0

/-- A length in centimetres. -/
def cmOfEmu (emu : Int) : Float :=
  Decimal.ofInt emu / Decimal.ofInt emuPerCm

/-- A length in points. -/
def ptOfEmu (emu : Int) : Float :=
  Decimal.ofInt emu / Decimal.ofInt emuPerPt

/-- A stored length of a paragraph setting: whole twips, as lengths are set, or a universal
measure (millimetres, points, …) that a stored document may hold instead, taken in EMU. -/
inductive Length where
  | twips (n : Int)
  | emu (n : Int)
  deriving DecidableEq, Repr

/-- A number written for a length is a number of twips. -/
instance (n : Nat) : OfNat Length n := ⟨.twips n⟩

/-- A length in EMU. -/
def Length.toEmu : Length → Int
  | .twips n => n * emuPerTwip
  | .emu n => n

/-- A length in whole twips, a universal measure rounded to the nearest twip. -/
def Length.inTwips : Length → Int
  | .twips n => n
  | .emu n => twipsOfEmu n

/-- A stored font size: whole half points, as sizes are set, or a universal measure that a
stored document may hold instead, taken in EMU. -/
inductive FontSize where
  | halfPoints (n : Nat)
  | emu (n : Int)
  deriving DecidableEq, Repr

/-- A number written for a font size is a number of half points. -/
instance (n : Nat) : OfNat FontSize n := ⟨.halfPoints n⟩

/-- A font size in EMU: half points are halved and taken in points, cut toward zero. -/
def FontSize.toEmu : FontSize → Int
  | .halfPoints n => (Decimal.truncate (Decimal.ofInt n / 2.0 * 12700.0)).getD 0
  | .emu n => n

/-- A font size in whole half points, a universal measure cut to the half points below it. -/
def FontSize.inHalfPoints : FontSize → Int
  | .halfPoints n => n
  | .emu n => n * 2 / emuPerPt

end MacroDoc.Style
