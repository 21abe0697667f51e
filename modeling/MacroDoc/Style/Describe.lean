import MacroDoc.Style.Query
import MacroDoc.Json.Value
import MacroDoc.Fault

/-!
# Describing styles

A style is described as a data value in the terms a style file uses: lengths in
centimetres, sizes in points, colours in hexadecimal, choices by member name. A setting
that is absent is left out, with three exceptions: the typeface is always given (null when
absent), the alignment of a paragraph style is always given (null when absent) unless its
stored word names no alignment, and a double strike is given only when it is on.

## Main definitions

* `Style.Font.describe`: a character format as data.
* `Style.Definition.describePara`, `Style.Definition.describeChar`, `Style.Definition.describe`: a style
  as data.
-/

namespace MacroDoc.Style

open Json

/-- A field of a description, present only when the setting is. -/
def optionalField {α : Type} (key : String) (describe : α → Value) : Option α →
    List (String × Value)
  | some a => [(key, describe a)]
  | none => []

/-- A length in EMU as data, in centimetres. -/
def cmValue (emu : Int) : Value := .float (cmOfEmu emu)

/-- How an underline setting is described: a single line as true, none as false, any other
kind by its member name. -/
def Underline.describe : Underline → Value
  | .single => .bool true
  | .none => .bool false
  | u => .str u.name

/-- A character format as data. -/
def Font.describe (f : Font) : Value :=
  let nameValue : Value := match f.name with
    | some n => .str n
    | none => .null
  .obj ([("name", nameValue)] ++
    optionalField "size" Value.float f.sizePt ++
    optionalField "all_caps" Value.bool f.allCaps ++
    optionalField "bold" Value.bool f.bold ++
    optionalField "color" (fun c => Value.str c.hex) f.color ++
    (if f.doubleStrike == some true then [("double_strike", .bool true)] else []) ++
    optionalField "highlight_color" (fun h => Value.str h.name)
      (f.highlight.filter (· != .auto)) ++
    optionalField "italic" Value.bool f.italic ++
    optionalField "strike" Value.bool f.strike ++
    optionalField "subscript" Value.bool f.subscript ++
    optionalField "underline" Underline.describe f.underline)

/-- A line spacing as data: a multiple as itself, a height in centimetres. -/
def LineSpacing.describe : LineSpacing → Value
  | .multiple x => .float x
  | .height emu => cmValue emu

/-- The alignment field of a paragraph style: null when absent, left out when the stored
word names no alignment. -/
def alignmentField : Option Justification → List (String × Value)
  | none => [("alignment", .null)]
  | some (.known a) => [("alignment", .str a.name)]
  | some (.other _) => []

/-- A refusal met reading a setting, if there is one. -/
def meet : Option Fault → Except Fault Unit
  | some f => .error f
  | none => .ok ()

/-- A paragraph style as data; the sheet names the style it is based on. The paragraph
settings are read first, then the base style, then the font. -/
def Definition.describePara (s : Definition) (sheet : Sheet) : Except Fault Value := do
  meet s.readFaults.format
  let base ← sheet.baseName s
  meet s.readFaults.font
  let p := s.para
  return .obj ([("is_paragraph", .bool true)] ++
    optionalField "first_line_indent" cmValue p.firstLineIndent ++
    optionalField "left_indent" cmValue p.leftIndent ++
    optionalField "line_spacing" LineSpacing.describe p.lineSpacing ++
    optionalField "space_before" cmValue p.spaceBefore ++
    optionalField "space_after" cmValue p.spaceAfter ++
    optionalField "base_style" Value.str base ++
    alignmentField p.alignment ++
    [("font", s.font.describe)])

/-- A character style as data. -/
def Definition.describeChar (s : Definition) : Except Fault Value := do
  meet s.readFaults.font
  return .obj [("is_paragraph", .bool false), ("font", s.font.describe)]

/-- A style as data, by its type: paragraph and table styles have a paragraph format, and a
numbering style has no font to describe. -/
def Definition.describe (s : Definition) (sheet : Sheet) : Except Fault Value :=
  match s.kind with
  | .paragraph | .table => s.describePara sheet
  | .character => s.describeChar
  | .numbering => .error (Fault.noAttribute s.kind.objectName "font")

end MacroDoc.Style
