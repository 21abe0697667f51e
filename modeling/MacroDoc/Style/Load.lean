import MacroDoc.Style.Assign
import MacroDoc.Style.Basic
import MacroDoc.Style.ChoiceClass
import MacroDoc.Style.Query
import MacroDoc.Style.Stored
import MacroDoc.Json.Reader

/-!
# Style files

A style file is a data text whose top level maps names to style descriptions. Three names
are not styles but the texts put before list items and picture captions
(`Style.Prefixes`). Each other name must be new to the sheet unless styles may be
overridden, and its description says with `is_paragraph` whether it is a paragraph style.

A paragraph style is found by name or identifier, or made with one and a half line
spacing. Its description then sets, in order: the font (`font`, a mapping of font settings,
with the size in points, the colour in hexadecimal and the highlight and underline by
name), the style it is based on (`base_style`, by name), the alignment (`alignment`, by
name), indents in centimetres (any key ending in `indent`), and any other paragraph
setting by its name. A character style takes no setting: a font is refused because the
style is never made, anything else because only a font is allowed.

Loading stops at the first fault; the settings made before it stay made.

## Main definitions

* `Style.Prefixes`: the texts before list items and captions.
* `Style.Loaded`: a sheet with its prefixes.
* `Style.Loaded.loadText`: load a style file.
-/

namespace MacroDoc.Style

open Json

/-- The texts put before unordered list items and in picture captions. A style file may
set them to any data value. -/
structure Prefixes where
  /-- Put before each item of an unordered list. -/
  listItem : Value
  /-- Put before the number of a picture caption. -/
  caption : Value
  /-- Put between the number of a picture caption and its text. -/
  captionInfix : Value
  deriving Inhabited

/-- The key of the text before list items. -/
def listItemKey : String := "unordered_list_prefix"

/-- The key of the text before caption numbers. -/
def captionKey : String := "image_caption_prefix"

/-- The key of the text after caption numbers. -/
def captionInfixKey : String := "image_caption_infix"

/-- The key that tells paragraph styles from character styles. -/
def paragraphKey : String := "is_paragraph"

/-- Whether a key of a style file is one of the three prefix keys. -/
def isPrefixKey (key : String) : Bool :=
  key == listItemKey || key == captionKey || key == captionInfixKey

/-- Set the prefix of a prefix key. -/
def Prefixes.set (p : Prefixes) (key : String) (v : Value) : Prefixes :=
  if key == listItemKey then { p with listItem := v }
  else if key == captionKey then { p with caption := v }
  else { p with captionInfix := v }

/-- A sheet with the prefixes in force. -/
structure Loaded where
  sheet : Sheet
  prefixes : Prefixes
  deriving Inhabited

/-- The refusal to index a value of a type by a text key. -/
def noTextIndex (v : Value) : Fault :=
  match v with
  | .arr _ => Fault.badType "list indices must be integers or slices, not str"
  | .str _ => Fault.badType "string indices must be integers, not 'str'"
  | _ => Fault.badType ("'" ++ v.typeName ++ "' object is not subscriptable")

/-- The refusal to iterate over a value that holds no items. -/
def notIterable (v : Value) : Fault :=
  Fault.badType ("'" ++ v.typeName ++ "' object is not iterable")

/-- The refusal to look a name up by a value that is no name. -/
def notAName (v : Value) : Fault :=
  Fault.badType ("attribute name must be string, not '" ++ v.typeName ++ "'")

/-- The refusal to index a list by a value that is no whole number. -/
def noListIndex (v : Value) : Fault :=
  Fault.badType ("list indices must be integers or slices, not " ++ v.typeName)

/-- The refusal of a list or mapping where a key is needed. -/
def unhashable (v : Value) : Fault :=
  Fault.badType ("unhashable type: '" ++ v.typeName ++ "'")

/-- The position a whole number names in a list of a length, counting back from the end
when it is negative. -/
def listPosition (length : Nat) (k : Int) : Option Nat :=
  let i := if k < 0 then k + length else k
  if 0 ≤ i && i < length then some i.toNat else none

/-- The member a value names on a choice class, as a setting; none clears the setting. The
value must be a name. -/
def memberOf {α : Type} (c : ChoiceClass) (ofCode : Nat → Option α) :
    Value → Except Fault (Option α)
  | .str name => do
    match ← c.settingOf name with
    | some n => return ofCode n
    | none => return none
  | v => .error (notAName v)

/-- A colour from a text of hexadecimal pairs: two digits of red, two of green, and the
rest blue. -/
def rgbOfValue : Value → Except Fault Rgb
  | .str s => Rgb.ofHexText s
  | .arr _ => .error (Fault.badType "int() can't convert non-string with explicit base")
  | .obj _ => .error (Fault.badType "unhashable type: 'slice'")
  | v => .error (Fault.badType ("'" ++ v.typeName ++ "' object is not subscriptable"))

/-- Set one font setting of a style file. -/
def loadFontField (f : Font) (field : String) (v : Value) : Except Fault Font :=
  match field with
  | "size" => do f.setSize (← LengthUnit.pt.scale v)
  | "color" => do return { f with color := some (← rgbOfValue v) }
  | "highlight_color" => do
    return { f with highlight := ← memberOf highlightClass Highlight.ofCode? v }
  | "underline" =>
    match v with
    | .bool b => .ok { f with underline := some (if b then .single else .none) }
    | _ => do
      return { f with underline := ← memberOf underlineClass Underline.ofCode? v }
  | _ => f.assign field v

/-- Set the font settings of a style file's `font` value, in order. -/
def loadFontFields (f : Font) : List (String × Value) → Except Fault Font
  | [] => .ok f
  | (field, v) :: rest => do loadFontFields (← loadFontField f field v) rest

/-- Load a style file's `font` value into a font. Only a mapping sets anything; the first
item of a list or text is already refused. -/
def loadFont (f : Font) : Value → Except Fault Font
  | .obj fields => loadFontFields f fields
  | .arr [] => .ok f
  | .arr items =>
    match items with
    | [] => .ok f
    | (.str _) :: _ => .error (noListIndex (.str ""))
    | (.int k) :: _ =>
      if (listPosition items.length k).isSome then .error (notAName (.int k))
      else .error Fault.indexOutOfRange
    | (.bool b) :: _ =>
      if (listPosition items.length (if b then 1 else 0)).isSome then .error (notAName (.bool b))
      else .error Fault.indexOutOfRange
    | x :: _ => .error (noListIndex x)
  | .str s => if s.isEmpty then .ok f else .error (noTextIndex (.str s))
  | v => .error (notIterable v)

/-- A style of the sheet by a key, as a position. -/
def findKey (sheet : Sheet) (key : Value) : Except Fault Nat := do
  match key with
  | .arr _ | .obj _ => .error (unhashable key)
  | _ => sheet.find key.shown

/-- The refusal of a style type that lacks a part. -/
def lacks (kind : StyleKind) (part : String) : Fault :=
  Fault.noAttribute kind.objectName part

/-- The style with its paragraph format changed, if it has one. -/
def withPara (s : Definition) (change : ParaFormat → Except Fault ParaFormat) : Except Fault Definition :=
  if s.kind.hasParagraphFormat then do return { s with para := ← change s.para }
  else .error (lacks s.kind "paragraph_format")

/-- Set one key of a paragraph style description. -/
def loadParaField (sheet : Sheet) (s : Definition) (field : String) (v : Value) :
    Except Fault Definition :=
  if field == "font" then
    if s.kind.hasFont then do
      let font ← loadFont s.font v
      let recoloured := match v with
        | .obj fields => fields.any (·.1 == "color")
        | _ => false
      return { s with font,
                      traits := if recoloured then { s.traits with themeColor := none } else s.traits }
    else .error (lacks s.kind "font")
  else if field == "base_style" then do
    let i ← findKey sheet v
    return { s with basedOn := sheet[i]?.map (·.styleId) }
  else if field == "alignment" then do
    let a ← memberOf alignmentClass Alignment.ofCode? v
    withPara s fun p => .ok { p with alignment := a.map .known }
  else if field.endsWith "indent" then
    if s.kind.hasParagraphFormat then do
      let emu ← LengthUnit.cm.scale v
      withPara s fun p => p.setIndent field emu
    else .error (lacks s.kind "paragraph_format")
  else withPara s fun p => p.assign field v

/-- Set the keys of a paragraph style description, in order, on the style at a position. -/
def loadParaFields (sheet : Sheet) (i : Nat) : List (String × Value) → Except Fault Sheet
  | [] => .ok sheet
  | (field, v) :: rest =>
    match sheet[i]? with
    | none => .ok sheet
    | some s => do
      let s ← loadParaField sheet s field v
      loadParaFields (sheet.set i s) i rest

/-- A new paragraph style of a shown name, with one and a half line spacing. -/
def newParaStyle (ui : String) : Definition :=
  { kind := .paragraph, styleId := idOfName (storedName ui), name := storedName ui,
    para := { line := some 360, lineRule := some .multiple }, traits := { custom := true } }

/-- The position of the paragraph style a key names, made if there is none. A key that is
no text cannot name a new style. -/
def paraStyleFor (sheet : Sheet) (key : Value) : Except Fault (Sheet × Nat) := do
  match ← sheet.lookup key.shown, key with
  | some i, _ => .ok (sheet, i)
  | none, .str ui => .ok (sheet ++ [newParaStyle ui], sheet.length)
  | none, _ => .error (Fault.noAttribute key.typeName "replace")

/-- Check the keys of a character style description: none may be given. -/
def loadCharFields : List (String × Value) → Except Fault Unit
  | [] => .ok ()
  | (field, _) :: _ =>
    if field == "font" then .error ⟨.undefinedName, "name 'style' is not defined"⟩
    else .error (Fault.broken "Can't put in character style anything except 'font'")

/-- Load one style description under a key. Returns the sheet and the description as it is
left, without its `is_paragraph` key. -/
def loadStyle (sheet : Sheet) (key : Value) (desc : Value) : Except Fault (Sheet × Value) :=
  match desc with
  | .obj fields =>
    match Value.lookup paragraphKey fields with
    | none => .error ⟨.missingKey, Text.quote paragraphKey⟩
    | some flag =>
      let rest := Value.removeIn paragraphKey fields
      if flag.truthy then do
        let (sheet, i) ← paraStyleFor sheet key
        let sheet ← loadParaFields sheet i rest
        return (sheet, .obj rest)
      else do
        loadCharFields rest
        return (sheet, .obj rest)
  | v => .error (noTextIndex v)

namespace Loaded

/-- Load the entries of a style file's top-level mapping, in order. -/
def loadFields (override : Bool) (l : Loaded) : List (String × Value) → Except Fault Loaded
  | [] => .ok l
  | (key, v) :: rest =>
    if isPrefixKey key then loadFields override { l with prefixes := l.prefixes.set key v } rest
    else if l.sheet.contains key && !override then
      .error (Fault.broken ("Style " ++ key ++ " encountered twice"))
    else do
      let (sheet, _) ← loadStyle l.sheet (.str key) v
      loadFields override { l with sheet } rest

/-- Load the items of a top-level list, by position, as a list is walked while its items
change. Each item is a key into the list itself. -/
def loadItems (override : Bool) (l : Loaded) (items : List Value) :
    Nat → Nat → Except Fault Loaded
  | 0, _ => .ok l
  | fuel + 1, pos =>
    match items[pos]? with
    | none => .ok l
    | some (.str s) =>
      if !isPrefixKey s && l.sheet.contains s && !override then
        .error (Fault.broken ("Style " ++ s ++ " encountered twice"))
      else .error (noListIndex (.str s))
    | some (.arr a) => .error (unhashable (.arr a))
    | some (.obj o) => .error (unhashable (.obj o))
    | some key =>
      let index : Option Int := match key with
        | .int k => some k
        | .bool b => some (if b then 1 else 0)
        | _ => none
      match index with
      | none => .error (noListIndex key)
      | some k =>
        match listPosition items.length k with
        | none => .error Fault.indexOutOfRange
        | some j => do
          let (sheet, left) ← loadStyle l.sheet key (items.getD j .null)
          loadItems override { l with sheet } (items.set j left) fuel (pos + 1)

/-- Load a style file's text into a sheet, `calls` calls deep. -/
def loadText (l : Loaded) (calls : Nat) (text : String) (override : Bool) :
    Except Fault Loaded :=
  match Json.readWithin (Json.roomWithin calls) text with
  | .error e => .error e.toFault
  | .ok (.obj fields) => l.loadFields override fields
  | .ok (.arr items) => l.loadItems override items items.length 0
  | .ok (.str s) =>
    match s.toList with
    | [] => .ok l
    | c :: _ =>
      if l.sheet.contains (String.singleton c) && !override then
        .error (Fault.broken ("Style " ++ String.singleton c ++ " encountered twice"))
      else .error (noTextIndex (.str s))
  | .ok v => .error (notIterable v)

end Loaded

end MacroDoc.Style
