import MacroDoc.Style.Markup
import MacroDoc.Style.Measure
import MacroDoc.Xml.Node

/-!
# Styles read from stored markup

A style read back from a stored document keeps its settings as words, and a reader turns
each word into a value only when it reads that setting. A word may name no value of its
type; the reader then refuses, and it refuses at the first such setting it reads, in the
order it reads them. So a style read here carries, beside the values that read well, the
first refusal met reading its paragraph settings and the first met reading its font, each
in the reading order of a description (see `Style.ReadFaults`).

The words and how they read:

* An on/off setting is on when it has no value, and otherwise must be one of `1`, `0`,
  `true`, `false`, `on`, `off`.
* A length is a whole number of twips, or a *universal measure*: a number followed by a
  two-letter unit (`mm`, `cm`, `in`, `pt`, `pc`, `pi`), taken in EMU and rounded to the
  nearest, a tie to even. A word holding `i`, `m` or `p` is a universal measure.
* A font size is a whole number of half points, or a universal measure when the word
  holds `m`, `n` or `p`.
* A colour is `auto` (no colour) or three hexadecimal parts: two digits of red, two of
  green and the rest blue, each part read as an integer and each at most 255.
* A line rule, an underline, a highlight colour and the type of a style are stored words of
  their choices; a word of no choice is refused. The vertical position is any word, and
  only `subscript` sets text lower.
* A size, a colour, a highlight and a vertical position need a value; an element without
  one is refused by its tag.

## Main definitions

* `Style.readOnOff`, `Style.readTwipsMeasure`, `Style.readHalfPointMeasure`,
  `Rgb.ofHexText`: the words of settings read as values.
* `Style.readParaFormat`, `Style.readFont`: the settings of a style with their first
  refusal.
* `Style.readStyle`, `Style.sheetOfMarkup`: styles from their stored elements.
-/

namespace MacroDoc.Style

open Xml

/-- The refusal of an on/off word that is none of the six. -/
def onOffFault (w : String) : Fault :=
  ⟨.invalidMarkup,
    "value must be one of '1', '0', 'true', 'false', 'on', or 'off', got '" ++ w ++ "'"⟩

/-- An on/off setting of its stored value: on when there is no value. -/
def readOnOff : Option String → Except Fault Bool
  | none => .ok true
  | some w =>
    if w == "1" || w == "true" || w == "on" then .ok true
    else if w == "0" || w == "false" || w == "off" then .ok false
    else .error (onOffFault w)

/-- A decimal integer of a stored word. -/
def readDecimal (s : String) : Except Fault Int :=
  match Decimal.readInt s with
  | .value n => .ok n
  | reading => .error (LengthUnit.badText s 1 reading)

/-- The EMU of a unit of a universal measure. -/
def universalUnit? (unit : String) : Option Nat :=
  if unit == "mm" then some 36000 else if unit == "cm" then some 360000
  else if unit == "in" then some 914400 else if unit == "pt" then some 12700
  else if unit == "pc" || unit == "pi" then some 152400 else none

/-- A universal measure in EMU: the word without its last two characters read as a
number, times the EMU of the unit those two name, rounded to the nearest whole, a tie to
even. The number is read before the unit is looked up. -/
def readUniversalMeasure (s : String) : Except Fault Int := do
  let cs := s.toList
  let numberPart := String.ofList (cs.take (cs.length - 2))
  let unit := String.ofList (cs.drop (cs.length - 2))
  let some q := Decimal.readFloat numberPart
    | .error (Fault.badValue ("could not convert string to float: " ++ Text.quote numberPart))
  let some emu := universalUnit? unit
    | .error ⟨.missingKey, Text.quote unit⟩
  let y := q * Decimal.ofInt emu
  match Decimal.roundToInt y with
  | some n => .ok n
  | none => .error (Fault.noWholeValue (Decimal.isNotANumber y))

/-- Whether a stored word holds one of some characters. -/
def holdsAny (s : String) (cs : List Char) : Bool := s.toList.any cs.contains

/-- A length of its stored word: a universal measure when it holds `i`, `m` or `p`, and a
whole number of twips otherwise. -/
def readTwipsMeasure (s : String) : Except Fault Length :=
  if holdsAny s ['i', 'm', 'p'] then return .emu (← readUniversalMeasure s)
  else return .twips (← readDecimal s)

/-- A font size of its stored word: a universal measure when it holds `m`, `n` or `p`, and
a whole number of half points otherwise. -/
def readHalfPointMeasure (s : String) : Except Fault FontSize := do
  if holdsAny s ['m', 'n', 'p'] then return .emu (← readUniversalMeasure s)
  else
    let n ← readDecimal s
    if 0 ≤ n then return .halfPoints n.toNat
    else return .emu ((Decimal.truncate (Decimal.ofInt n / 2.0 * 12700.0)).getD 0)

/-- A colour from a text of hexadecimal parts: two digits of red, two of green, and the
rest blue, each read as an integer and each at most 255. -/
def Rgb.ofHexText (s : String) : Except Fault Rgb := do
  let part (cs : List Char) : Except Fault Int :=
    match Decimal.readHex (String.ofList cs) with
    | some n => .ok n
    | none => .error (Fault.badValue ("invalid literal for int() with base 16: " ++
        Text.quoteCut 200 (String.ofList cs)))
  let r ← part (s.toList.take 2)
  let g ← part ((s.toList.drop 2).take 2)
  let b ← part (s.toList.drop 4)
  if [r, g, b].all (fun x => 0 ≤ x && x ≤ 255) then
    return ⟨r.toNat, g.toNat, b.toNat⟩
  else .error (Fault.badValue "RGBColor() takes three integer values 0-255")

/-- A colour of its stored word: none for `auto`. -/
def readHexColor (s : String) : Except Fault (Option Rgb) :=
  if s == "auto" then .ok none else return some (← Rgb.ofHexText s)

/-- The choice a stored word names, among choices with their words; a word of none is
refused. -/
def readChoice {α : Type} (all : List α) (stored : α → String) (w : String) :
    Except Fault α :=
  match all.find? (fun a => stored a == w) with
  | some a => .ok a
  | none => .error (invalidWord w)

/-- Every style type. -/
def StyleKind.all : List StyleKind := [.paragraph, .character, .table, .numbering]

/-- The refusal of an element that lacks the value it needs, named by its tag. -/
def missingValue (localName : String) : Fault :=
  ⟨.invalidMarkup, "required 'w:val' attribute not present on element \x7b" ++ wordSpace ++
    "\x7d" ++ localName⟩

/-- The child of a settings element with a name, if both are there. -/
def settingChild (parent : Option Node) (localName : String) : Option Node :=
  parent.bind (·.child? (word localName))

/-- The value of an attribute of a child of a settings element. -/
def settingValue (parent : Option Node) (localName attr : String) : Option String :=
  (settingChild parent localName).bind (·.attr? (word attr))

/-- An on/off setting of a settings element: absent without its child. -/
def readFlag (parent : Option Node) (localName : String) : Except Fault (Option Bool) :=
  match settingChild parent localName with
  | none => .ok none
  | some n => return some (← readOnOff (n.attr? (word "val")))

/-- A setting of a settings element read from the needed value of its child: absent
without the child, refused without the value. -/
def readValued {α : Type} (parent : Option Node) (localName : String)
    (read : String → Except Fault α) : Except Fault (Option α) :=
  match settingChild parent localName with
  | none => .ok none
  | some n =>
    match n.attr? (word "val") with
    | none => .error (missingValue localName)
    | some v => return some (← read v)

/-- A setting read from an attribute of a child: absent when either is missing. -/
def readAttribute {α : Type} (parent : Option Node) (localName attr : String)
    (read : String → Except Fault α) : Except Fault (Option α) :=
  match settingValue parent localName attr with
  | none => .ok none
  | some v => return some (← read v)

/-- The refusal of a reading, if it was refused. -/
def refusal {α : Type} : Except Fault α → Option Fault
  | .error f => some f
  | .ok _ => none

/-- The value of a reading of an optional setting: absent when it was refused. -/
def readSetting {α : Type} : Except Fault (Option α) → Option α
  | .ok a => a
  | .error _ => none

/-- The first refusal of a list, in order. -/
def firstRefusal (faults : List (Option Fault)) : Option Fault :=
  (faults.find? Option.isSome).join

/-- The alignment of a settings element: absent without `w:jc`, and a word of no alignment
when the value is missing. -/
def readJustification (p : Option Node) : Option Justification :=
  (settingChild p "jc").map fun j => Justification.ofWord ((j.attr? (word "val")).getD "")

/-- A paragraph format of its `w:pPr` element, with the first refusal a description meets:
the hanging indent, then the first-line indent when there is no hanging one, the left
indent, the line height, its rule, and the spaces before and after. -/
def readParaFormat (p : Option Node) : ParaFormat × Option Fault :=
  let length (localName attr : String) := readAttribute p localName attr readTwipsMeasure
  let hanging := length "ind" "hanging"
  let firstLine := length "ind" "firstLine"
  let left := length "ind" "left"
  let right := length "ind" "right"
  let line := length "spacing" "line"
  let lineRule := readAttribute p "spacing" "lineRule"
    (readChoice [LineRule.multiple, .exactly, .atLeast] LineRule.stored)
  let before := length "spacing" "before"
  let after := length "spacing" "after"
  let firstLineRead := match hanging with
    | .ok none => [refusal firstLine]
    | _ => []
  let fault := firstRefusal ([refusal hanging] ++ firstLineRead ++
    [refusal left, refusal line, refusal lineRule, refusal before, refusal after])
  ({ alignment := readJustification p,
     firstLine := readSetting firstLine, hanging := readSetting hanging,
     left := readSetting left, right := readSetting right,
     before := readSetting before, after := readSetting after,
     line := readSetting line, lineRule := readSetting lineRule,
     pageBreakBefore := readSetting (readFlag p "pageBreakBefore") }, fault)

/-- The vertical position of a stored word: only `subscript` and `superscript` set text
off the line. -/
def VertAlign.ofWord (w : String) : VertAlign :=
  if w == "subscript" then .subscript else if w == "superscript" then .superscript
  else .baseline

/-- The underline of a `w:u` element: its value must name a kind, and a missing value is
read as the word `None`. -/
def readUnderline (r : Option Node) : Except Fault (Option Underline) :=
  match settingChild r "u" with
  | none => .ok none
  | some u => return some (← readChoice Underline.all Underline.stored
      ((u.attr? (word "val")).getD "None"))

/-- A character format of its `w:rPr` element, with the first refusal a description meets:
the size, capitals, bold, the colour, the double strike, the highlight, italic, the strike,
the vertical position and the underline. -/
def readFont (r : Option Node) : Font × Option Fault :=
  let size := readValued r "sz" readHalfPointMeasure
  let caps := readFlag r "caps"
  let bold := readFlag r "b"
  let color := readValued r "color" readHexColor
  let doubleStrike := readFlag r "dstrike"
  let highlight := readValued r "highlight" (readChoice Highlight.all Highlight.stored)
  let italic := readFlag r "i"
  let strike := readFlag r "strike"
  let vertAlign := readValued r "vertAlign" (fun w => .ok (VertAlign.ofWord w))
  let underline := readUnderline r
  let fault := firstRefusal [refusal size, refusal caps, refusal bold, refusal color,
    refusal doubleStrike, refusal highlight, refusal italic, refusal strike,
    refusal vertAlign, refusal underline]
  ({ name := settingValue r "rFonts" "ascii", size := readSetting size,
     allCaps := readSetting caps, bold := readSetting bold, italic := readSetting italic,
     strike := readSetting strike, doubleStrike := readSetting doubleStrike,
     smallCaps := readSetting (readFlag r "smallCaps"), color := (readSetting color).join,
     highlight := readSetting highlight, underline := readSetting underline,
     vertAlign := readSetting vertAlign }, fault)

/-- A style of its stored element. A style whose type is absent or names no type is kept,
with its type read as such; its settings are read with their first refusals. -/
def readStyle (n : Node) : Definition :=
  let (kind, typeReading) : StyleKind × TypeReading := match n.attr? (word "type") with
    | none => (.paragraph, .absent)
    | some w =>
      match StyleKind.all.find? (·.stored == w) with
      | some k => (k, .known)
      | none => (.paragraph, .unknown w)
  let (para, formatFault) := readParaFormat (n.child? (word "pPr"))
  let (font, fontFault) := readFont (n.child? (word "rPr"))
  let on (v : String) : Bool := v == "1" || v == "true" || v == "on"
  { kind, typeReading, styleId := (n.attr? (word "styleId")).getD "",
    name := (settingValue (some n) "name" "val").getD "",
    basedOn := settingValue (some n) "basedOn" "val", link := settingValue (some n) "link" "val",
    isDefault := (n.attr? (word "default")).any on, para, font,
    traits := { custom := (n.attr? (word "customStyle")).any (· == "1") },
    readFaults := ⟨formatFault, fontFault⟩ }

/-- The styles of a stored `w:styles` element, and whether it lists latent styles. -/
def sheetOfMarkup (root : Node) : Sheet × Bool :=
  let latent := (root.child? (word "latentStyles")).any fun l =>
    !(l.elementsNamed (word "lsdException")).isEmpty
  ((root.elementsNamed (word "style")).map readStyle, latent)

/-- The styles of a document stored without a styles part: the default style of each type. -/
def partlessSheet : Sheet :=
  [{ kind := .paragraph, styleId := "Normal", name := "Normal", isDefault := true },
   { kind := .character, styleId := "DefaultParagraphFont", name := "Default Paragraph Font",
     isDefault := true },
   { kind := .table, styleId := "TableNormal", name := "Normal Table", isDefault := true },
   { kind := .numbering, styleId := "NoList", name := "No List", isDefault := true }]

end MacroDoc.Style
