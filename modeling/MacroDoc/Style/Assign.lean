import MacroDoc.Style.Format
import MacroDoc.Style.Measure
import MacroDoc.Text.Xml

/-!
# Setting formats

The settings of a character or paragraph format are set by name from data values. Each
setting checks its value the way the stored document needs it:

* a switch (bold, italic, keep with next, …) takes `true`, `false` or a number equal to
  one of them, and null removes it;
* a length is a whole number of EMU, stored in twips: spacings above and below must lie
  between 0 and 2⁶⁴ − 1, indents and line heights between −2³¹ and 2³¹ − 1 (the range is
  checked on the EMU, before the length is rounded to twips);
* a font size is a whole number of EMU, stored in half points;
* the name of a typeface is a text.

A setting that can only be read is refused. Every setting by name is made on a fresh view
of the format, so a name that only holds a part of that view takes any value and changes
nothing; a fixed attribute of the view's class cannot be set, and any other name does not
exist.

## Main definitions

* `Style.Font.assign`: set a character setting by name.
* `Style.ParaFormat.assign`, `Style.ParaFormat.setIndent`: set a paragraph setting by name.
* `Style.Font.setSize`, `Style.ParaFormat.setLineHeight`: set a length given in EMU.
-/

namespace MacroDoc.Style

open Json

/-- The largest length of an unsigned setting. -/
def unsignedMax : Int := 18446744073709551615

/-- The least length of a signed setting. -/
def signedMin : Int := -2147483648

/-- The largest length of a signed setting. -/
def signedMax : Int := 2147483647

/-- A whole number checked against an inclusive range. The refusal writes the number, so a
number too long to write is refused as such. -/
def checkRange (lo hi : Int) (v : Int) : Except Fault Int :=
  if v < lo || v > hi then do
    let shown ← Decimal.intText v
    .error (Fault.badValue ("value must be in range " ++ toString lo ++ " to " ++ toString hi
      ++ " inclusive, got " ++ shown))
  else .ok v

/-- The name of a value's type as a type is shown. -/
def classText (v : Value) : String := "<class '" ++ v.typeName ++ "'>"

/-- A value that must be a whole number; a truth value counts as one. -/
def requireInt : Value → Except Fault Int
  | .int n => .ok n
  | .bool b => .ok (if b then 1 else 0)
  | v => .error (Fault.badType ("value must be <type 'int'>, got " ++ classText v))

/-- A length in EMU as whole twips, after its range is checked. -/
def twipsInRange (lo hi : Int) (emu : Int) : Except Fault Int :=
  (checkRange lo hi emu).map twipsOfEmu

/-- The setting of a switch: null removes it, and only values equal to true or false are
taken. -/
def switchSetting (v : Value) : Except Fault (Option Bool) :=
  match v with
  | .null => .ok none
  | _ =>
    if v.equalsNat 1 then .ok (some true)
    else if v.equalsNat 0 then .ok (some false)
    else .error (Fault.badType
      ("only True or False (and possibly None) may be assigned, got '" ++ v.shown ++ "'"))

/-- The switches of a character format that are checked but not kept. -/
def otherFontSwitches : List String :=
  ["complex_script", "cs_bold", "cs_italic", "emboss", "hidden", "imprint", "math",
   "no_proof", "outline", "rtl", "shadow", "snap_to_grid", "spec_vanish", "web_hidden"]

/-- The settings of a character format that can only be read. -/
def fontReadOnly : List String := ["color", "element", "part"]

/-- The refusal of a setting that can only be read. -/
def noSetter (owner field : String) : Fault :=
  ⟨.missingAttribute, "property '" ++ field ++ "' of '" ++ owner ++ "' object has no setter"⟩

/-- The names a format object answers to besides its settings: the slots that hold its
parts, and the fixed attributes of its class. -/
structure FormatObject where
  /-- The name of the object's type. -/
  typeName : String
  /-- The slots: setting one replaces a part of a copy of the format, so nothing changes. -/
  slots : List String
  /-- The fixed attributes of the object's own class. -/
  fixed : List String

/-- The fixed attributes every format object has from the classes it is built on. -/
def commonFixed : List String :=
  ["__module__", "__doc__", "__slots__", "__init__", "__eq__", "__ne__", "__hash__",
   "__repr__", "__str__", "__getattribute__", "__setattr__", "__delattr__", "__lt__", "__le__",
   "__gt__", "__ge__", "__new__", "__reduce_ex__", "__reduce__", "__getstate__",
   "__subclasshook__", "__init_subclass__", "__format__", "__sizeof__", "__dir__"]

/-- Set a name of a format object that is no setting: a slot takes any value without effect,
the class of the object takes no value that is not a class, a fixed attribute cannot be
set, and any other name does not exist. -/
def FormatObject.setOther (o : FormatObject) (field : String) (v : Value) : Except Fault Unit :=
  if o.slots.contains field then .ok ()
  else if field == "__class__" then
    .error (Fault.badType ("__class__ must be set to a class, not '" ++ v.typeName ++ "' object"))
  else if o.fixed.contains field || commonFixed.contains field then
    .error ⟨.missingAttribute,
      "'" ++ o.typeName ++ "' object attribute '" ++ field ++ "' is read-only"⟩
  else .error (Fault.noAttribute o.typeName field)

/-- A character format as an object. -/
def fontObject : FormatObject :=
  ⟨"Font", ["_element", "_parent"], ["_get_bool_prop", "_set_bool_prop"]⟩

/-- A paragraph format as an object. -/
def paraObject : FormatObject :=
  ⟨"ParagraphFormat", ["_element", "_parent", "_tab_stops"], ["_line_spacing", "_line_spacing_rule"]⟩

namespace Font

/-- Set the size from a length in EMU: it must be unsigned, and is kept in whole half
points, cut toward zero. -/
def setSize (f : Font) (emu : Int) : Except Fault Font := do
  let emu ← checkRange 0 unsignedMax emu
  let half := (Decimal.truncate (ptOfEmu emu * 2.0)).getD 0
  return { f with size := some (.halfPoints half.toNat) }

/-- Set or clear the position below the line: a true value sets it, a false value clears
it only where it is set. -/
def setSubscript (f : Font) (v : Value) : Font :=
  match v with
  | .null => { f with vertAlign := none }
  | _ =>
    if v.truthy then { f with vertAlign := some .subscript }
    else if f.vertAlign == some .subscript then { f with vertAlign := none }
    else f

/-- Set or clear the position above the line, as `setSubscript` does below it. -/
def setSuperscript (f : Font) (v : Value) : Font :=
  match v with
  | .null => { f with vertAlign := none }
  | _ =>
    if v.truthy then { f with vertAlign := some .superscript }
    else if f.vertAlign == some .superscript then { f with vertAlign := none }
    else f

/-- Set the typeface: a text a document can store, or null to remove it. -/
def setName (f : Font) : Value → Except Fault Font
  | .null => .ok { f with name := none }
  | .str s => do
    Text.checkStorable s 0
    return { f with name := some s }
  | v => .error (Fault.badType ("value must be a string, got " ++ classText v))

/-- Set a character setting by name. -/
def assign (f : Font) (field : String) (v : Value) : Except Fault Font :=
  match field with
  | "name" => f.setName v
  | "all_caps" => do return { f with allCaps := ← switchSetting v }
  | "bold" => do return { f with bold := ← switchSetting v }
  | "italic" => do return { f with italic := ← switchSetting v }
  | "strike" => do return { f with strike := ← switchSetting v }
  | "double_strike" => do return { f with doubleStrike := ← switchSetting v }
  | "small_caps" => do return { f with smallCaps := ← switchSetting v }
  | "subscript" => .ok (f.setSubscript v)
  | "superscript" => .ok (f.setSuperscript v)
  | "size" => match v with
    | .null => .ok { f with size := none }
    | _ => do f.setSize (← requireInt v)
  | _ =>
    if otherFontSwitches.contains field then (switchSetting v).map fun _ => f
    else if fontReadOnly.contains field then .error (noSetter "Font" field)
    else (fontObject.setOther field v).map fun _ => f

end Font

/-- The settings of a paragraph format that can only be read. -/
def paraReadOnly : List String := ["tab_stops", "element", "part"]

/-- The switches of a paragraph format that are checked but not kept. -/
def otherParaSwitches : List String := ["keep_together", "keep_with_next", "widow_control"]

/-- The fault of a value that is not a member of a choice. -/
def notAMember (choice : String) (v : Value) : Fault :=
  match v with
  | .arr _ | .obj _ => Fault.badType ("unhashable type: '" ++ v.typeName ++ "'")
  | _ => Fault.badValue ("value '" ++ v.shown ++ "' not in enumeration " ++ choice)

namespace ParaFormat

/-- Set the first-line indent from a length in EMU: a negative length is kept as a hanging
indent of the opposite length. -/
def setFirstLineIndent (p : ParaFormat) : Option Int → Except Fault ParaFormat
  | none => .ok { p with firstLine := none, hanging := none }
  | some emu =>
    if emu < 0 then do
      let t ← twipsInRange 0 unsignedMax (-emu)
      return { p with firstLine := none, hanging := some (.twips t) }
    else do
      let t ← twipsInRange 0 unsignedMax emu
      return { p with firstLine := some (.twips t), hanging := none }

/-- Set the left indent from a length in EMU. -/
def setLeftIndent (p : ParaFormat) : Option Int → Except Fault ParaFormat
  | none => .ok { p with left := none }
  | some emu => do return { p with left := some (.twips (← twipsInRange signedMin signedMax emu)) }

/-- Set the right indent from a length in EMU. -/
def setRightIndent (p : ParaFormat) : Option Int → Except Fault ParaFormat
  | none => .ok { p with right := none }
  | some emu => do return { p with right := some (.twips (← twipsInRange signedMin signedMax emu)) }

/-- Set an indent by name from a length in EMU. -/
def setIndent (p : ParaFormat) (field : String) (emu : Int) : Except Fault ParaFormat :=
  match field with
  | "first_line_indent" => p.setFirstLineIndent (some emu)
  | "left_indent" => p.setLeftIndent (some emu)
  | "right_indent" => p.setRightIndent (some emu)
  | _ => .error (Fault.noAttribute "ParagraphFormat" field)

/-- Set the line spacing to a fixed height in EMU; a least height stays a least height. -/
def setLineHeight (p : ParaFormat) (emu : Int) : Except Fault ParaFormat := do
  let t ← twipsInRange signedMin signedMax emu
  let rule := if p.effectiveRule == some .atLeast then LineRule.atLeast else .exactly
  return { p with line := some (.twips t), lineRule := some rule }

/-- Set the line spacing from a data value: null removes it, anything else is a multiple of
single spacing. -/
def setLineSpacing (p : ParaFormat) : Value → Except Fault ParaFormat
  | .null => .ok { p with line := none, lineRule := none }
  | v => do
    let emu ← LengthUnit.singleLine.scale v
    let t ← twipsInRange signedMin signedMax emu
    return { p with line := some (.twips t), lineRule := some .multiple }

/-- The line rules by number: single, one and a half and double spacing set the height. -/
def setLineRule (p : ParaFormat) (v : Value) : Except Fault ParaFormat :=
  let multipleOf (twips : Int) : ParaFormat :=
    { p with line := some (.twips twips), lineRule := some .multiple }
  if v.equalsNat 0 then .ok (multipleOf 240)
  else if v.equalsNat 1 then .ok (multipleOf 360)
  else if v.equalsNat 2 then .ok (multipleOf 480)
  else match v with
    | .null => .ok { p with lineRule := none }
    | _ =>
      if v.equalsNat 3 then .ok { p with lineRule := some .atLeast }
      else if v.equalsNat 4 then .ok { p with lineRule := some .exactly }
      else if v.equalsNat 5 then .ok { p with lineRule := some .multiple }
      else .error (notAMember "WD_LINE_SPACING" v)

/-- A spacing from a data value: null removes it, otherwise a whole unsigned number of EMU. -/
def spacingSetting : Value → Except Fault (Option Length)
  | .null => .ok none
  | v => do
    let emu ← requireInt v
    return some (.twips (← twipsInRange 0 unsignedMax emu))

/-- An alignment from a data value equal to the number of one. -/
def alignmentSetting (v : Value) : Except Fault (Option Justification) :=
  match v with
  | .null => .ok none
  | _ =>
    match Alignment.all.find? (fun a => v.equalsNat a.code) with
    | some a => .ok (some (.known a))
    | none => .error (notAMember "WD_PARAGRAPH_ALIGNMENT" v)

/-- Set a paragraph setting by name. Indents take a whole number of EMU. -/
def assign (p : ParaFormat) (field : String) (v : Value) : Except Fault ParaFormat :=
  match field with
  | "alignment" => do return { p with alignment := ← alignmentSetting v }
  | "line_spacing" => p.setLineSpacing v
  | "line_spacing_rule" => p.setLineRule v
  | "space_before" => do return { p with before := ← spacingSetting v }
  | "space_after" => do return { p with after := ← spacingSetting v }
  | "page_break_before" => do return { p with pageBreakBefore := ← switchSetting v }
  | "first_line_indent" | "left_indent" | "right_indent" =>
    match v with
    | .null =>
      if field == "first_line_indent" then p.setFirstLineIndent none
      else if field == "left_indent" then p.setLeftIndent none
      else p.setRightIndent none
    | _ => do p.setIndent field (← requireInt v)
  | _ =>
    if otherParaSwitches.contains field then (switchSetting v).map fun _ => p
    else if paraReadOnly.contains field then .error (noSetter "ParagraphFormat" field)
    else (paraObject.setOther field v).map fun _ => p

end ParaFormat

end MacroDoc.Style
