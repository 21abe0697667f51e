import MacroDoc.Style.Choice
import MacroDoc.Style.Length
import MacroDoc.Text.Quoted

/-!
# Character and paragraph formats

A style, a paragraph or a run carries a character format (`Font`) and, for paragraphs, a
paragraph format (`ParaFormat`). Each field is a setting that may be absent; an absent
setting is inherited from elsewhere and is not described.

The formats are kept as the stored document keeps them: indents and spacings in whole
twips and font sizes in half points (or, in a document read back, as universal measures),
colours as three bytes, the alignment as its stored word. The readings (`ParaFormat.firstLineIndent`, `Font.sizePt`, …) turn them back into
lengths, the way a reader of the stored document sees them.

## Main definitions

* `Style.Rgb`: a colour.
* `Style.Font`: a character format; `Font.sizePt`, `Font.subscript` read it.
* `Style.ParaFormat`: a paragraph format; `ParaFormat.firstLineIndent`,
  `ParaFormat.lineSpacing` read it.
-/

namespace MacroDoc.Style

/-- A colour of three bytes. -/
structure Rgb where
  red : Nat
  green : Nat
  blue : Nat
  deriving DecidableEq, Repr

/-- Two upper-case hexadecimal digits of a byte. -/
def byteHex (n : Nat) : String :=
  String.ofList ((Text.hexDigits n 2).map Char.toUpper)

/-- A colour as six upper-case hexadecimal digits. -/
def Rgb.hex (c : Rgb) : String :=
  byteHex c.red ++ byteHex c.green ++ byteHex c.blue

/-- The vertical position of text relative to its line. -/
inductive VertAlign where
  | baseline | superscript | subscript
  deriving DecidableEq, Repr

/-- A character format. Every field is a setting that may be absent. -/
structure Font where
  /-- The typeface. -/
  name : Option String := none
  /-- The size. -/
  size : Option FontSize := none
  /-- Whether letters are shown as capitals. -/
  allCaps : Option Bool := none
  /-- Whether text is bold. -/
  bold : Option Bool := none
  /-- Whether text is italic. -/
  italic : Option Bool := none
  /-- Whether text is struck through once. -/
  strike : Option Bool := none
  /-- Whether text is struck through twice. -/
  doubleStrike : Option Bool := none
  /-- Whether letters are shown as small capitals. -/
  smallCaps : Option Bool := none
  /-- The colour of the text. -/
  color : Option Rgb := none
  /-- The highlight behind the text. -/
  highlight : Option Highlight := none
  /-- The kind of underline. -/
  underline : Option Underline := none
  /-- The vertical position. -/
  vertAlign : Option VertAlign := none
  deriving DecidableEq, Repr

namespace Font

/-- The size in points, if it is set. The stored size is read as a length of whole EMU and
measured in points, as a reader of the stored document does. -/
def sizePt (f : Font) : Option Float := f.size.map fun z => ptOfEmu z.toEmu

/-- Whether text is set lower than the line: absent when no vertical position is set. -/
def subscript (f : Font) : Option Bool := f.vertAlign.map (· == .subscript)

/-- Whether text is set higher than the line: absent when no vertical position is set. -/
def superscript (f : Font) : Option Bool := f.vertAlign.map (· == .superscript)

end Font

/-- A paragraph alignment as stored: a known alignment, or a word that names none. -/
inductive Justification where
  | known (a : Alignment)
  | other (word : String)
  deriving DecidableEq, Repr

/-- The stored word of an alignment setting. -/
def Justification.word : Justification → String
  | .known a => a.word
  | .other w => w

/-- A stored word as an alignment setting. -/
def Justification.ofWord (w : String) : Justification :=
  match Alignment.ofWord? w with
  | some a => .known a
  | none => .other w

/-- A paragraph format. Every field may be absent. -/
structure ParaFormat where
  /-- The alignment. -/
  alignment : Option Justification := none
  /-- How far the first line is indented beyond the others. -/
  firstLine : Option Length := none
  /-- How far the lines after the first are indented beyond the first. -/
  hanging : Option Length := none
  /-- The indent from the left margin. -/
  left : Option Length := none
  /-- The indent from the right margin. -/
  right : Option Length := none
  /-- The space above the paragraph. -/
  before : Option Length := none
  /-- The space below the paragraph. -/
  after : Option Length := none
  /-- The line height; read with `lineRule`. -/
  line : Option Length := none
  /-- How the line height is read. -/
  lineRule : Option LineRule := none
  /-- Whether the paragraph starts a new page. -/
  pageBreakBefore : Option Bool := none
  deriving DecidableEq, Repr

/-- A line spacing as read: a multiple of single spacing, or a height in EMU. -/
inductive LineSpacing where
  | multiple (x : Float)
  | height (emu : Int)
  deriving Repr

namespace ParaFormat

/-- The first-line indent in EMU: negative when the paragraph hangs. -/
def firstLineIndent (p : ParaFormat) : Option Int :=
  match p.hanging, p.firstLine with
  | some h, _ => some (-h.toEmu)
  | none, some f => some f.toEmu
  | none, none => none

/-- The left indent in EMU. -/
def leftIndent (p : ParaFormat) : Option Int := p.left.map Length.toEmu

/-- The space above in EMU. -/
def spaceBefore (p : ParaFormat) : Option Int := p.before.map Length.toEmu

/-- The space below in EMU. -/
def spaceAfter (p : ParaFormat) : Option Int := p.after.map Length.toEmu

/-- The rule by which the line height is read: a height without a rule is a multiple. -/
def effectiveRule (p : ParaFormat) : Option LineRule :=
  match p.lineRule, p.line with
  | some r, _ => some r
  | none, some _ => some .multiple
  | none, none => none

/-- The line spacing: a multiple of twelve points for the multiple rule, otherwise the
height itself. -/
def lineSpacing (p : ParaFormat) : Option LineSpacing :=
  p.line.map fun (height : Length) =>
    let emu : Int := height.toEmu
    if p.effectiveRule == some .multiple then
      .multiple (Decimal.nearest (emu < 0) emu.natAbs (12 * emuPerPt))
    else .height emu

end ParaFormat

end MacroDoc.Style
