import MacroDoc.Style.Format
import MacroDoc.Fault

/-!
# Styles and style sheets

A style has a type, an identifier by which paragraphs and runs refer to it, and a name by
which people refer to it. A few built-in styles are stored under a lower-case name and
shown with capitals (`heading 1` is shown as `Heading 1`); `shownName` and `storedName` pass
between the two.

A sheet is the list of a document's styles in document order. A style is found by its
shown name first and by its identifier second; a paragraph that refers to an identifier
that is missing, or that belongs to a style of another type, gets the default style of
its type, the last style of that type marked as default.

## Main definitions

* `Style.Definition`: a style; `Style.Traits`: what its stored markup holds besides.
* `Style.storedName`, `Style.shownName`, `Style.idOfName`.
* `Style.Sheet`, `Sheet.find?`, `Sheet.contains`, `Sheet.byId?`, `Sheet.resolve`.
-/

namespace MacroDoc.Style

/-- The built-in styles whose stored name differs from the shown one, as pairs of shown
and stored name. -/
def nameAliases : List (String × String) :=
  [("Caption", "caption"), ("Footer", "footer"), ("Header", "header"),
   ("Heading 1", "heading 1"), ("Heading 2", "heading 2"), ("Heading 3", "heading 3"),
   ("Heading 4", "heading 4"), ("Heading 5", "heading 5"), ("Heading 6", "heading 6"),
   ("Heading 7", "heading 7"), ("Heading 8", "heading 8"), ("Heading 9", "heading 9")]

/-- The stored name of a shown name. -/
def storedName (ui : String) : String :=
  ((nameAliases.find? (·.1 == ui)).map (·.2)).getD ui

/-- The shown name of a stored name. -/
def shownName (stored : String) : String :=
  ((nameAliases.find? (·.2 == stored)).map (·.1)).getD stored

/-- The identifier a new style gets from its stored name: the name without spaces, except
for the caption and the headings, whose identifiers are capitalised. -/
def idOfName (stored : String) : String :=
  if stored == "caption" then "Caption"
  else if (nameAliases.drop 3).any (·.2 == stored) then
    String.ofList ((shownName stored).toList.filter (· != ' '))
  else String.ofList (stored.toList.filter (· != ' '))

/-- A tab stop as stored: its kind (`left`, `center`, `right`, …) and its position in
twips. -/
structure TabStop where
  kind : String
  pos : Int
  deriving DecidableEq, Repr

/-- How a colour is tied to a colour of the theme: the theme colour's name, and a shade or a
tint of it as a stored attribute name and value. -/
structure ThemeColor where
  color : String
  adjust : Option (String × String) := none
  deriving DecidableEq, Repr

/-- What a stored style holds besides its names, links and formats. A word processor reads
these settings, but nothing here reads them back: they only show in the stored markup, where
a query on the sheet can see them. Every setting is absent unless given. -/
structure Traits where
  /-- Whether the style was made for the document rather than being a built-in one. -/
  custom : Bool := false
  /-- The identifier of the style of the paragraph that follows one of this style. -/
  next : Option String := none
  /-- The rank of the style in the style gallery. -/
  uiPriority : Option Nat := none
  /-- Whether the style is kept out of the gallery. -/
  semiHidden : Bool := false
  /-- Whether the style enters the gallery once it is used. -/
  unhideWhenUsed : Bool := false
  /-- Whether the style is one of the quick styles. -/
  quickFormat : Bool := false
  /-- The editing session that last changed the style. -/
  revision : Option String := none
  /-- Whether a paragraph of the style keeps to the page of the next one. -/
  keepNext : Bool := false
  /-- Whether a paragraph of the style keeps its lines on one page. -/
  keepLines : Bool := false
  /-- The list level and the list of a numbered style, each when it is given. -/
  numbering : Option (Option Nat × Option Nat) := none
  /-- Whether a line is drawn under a paragraph of the style. -/
  bottomBorder : Bool := false
  /-- The tab stops, in order. -/
  tabs : List TabStop := []
  /-- Whether the space between paragraphs of the style is left out. -/
  contextualSpacing : Bool := false
  /-- The outline level of a paragraph of the style. -/
  outlineLevel : Option Nat := none
  /-- The theme fonts (`major` or `minor`) the style's text is set in. -/
  themeFonts : Option String := none
  /-- Whether complex-script text is bold. -/
  complexBold : Bool := false
  /-- Whether complex-script text is italic. -/
  complexItalic : Bool := false
  /-- The theme colour the style's colour stands for. -/
  themeColor : Option ThemeColor := none
  /-- The extra space between letters, in twips. -/
  letterSpacing : Option Int := none
  /-- The font size from which letter pairs are kerned, in half points. -/
  kern : Option Nat := none
  /-- The size of complex-script text. -/
  complexSize : Option FontSize := none
  /-- Whether the style holds table settings: the indent and the cell margins. -/
  tableSettings : Bool := false
  /-- Whether the table settings draw every border. -/
  gridBorders : Bool := false
  deriving DecidableEq, Repr

/-- How the stored type of a style reads: as one of the four types, as absent, or as a word
that names no type. Only a style read back from a stored document has the last two. -/
inductive TypeReading where
  | known
  | absent
  | unknown (word : String)
  deriving DecidableEq, Repr

/-- The refusals a reader meets reading the settings of a style read back from a stored
document, each when there is one: its paragraph settings are read before its base style,
and its font settings after it. -/
structure ReadFaults where
  format : Option Fault := none
  font : Option Fault := none
  deriving Repr

/-- A style. -/
structure Definition where
  /-- The type of the style. -/
  kind : StyleKind
  /-- The identifier by which paragraphs and runs refer to the style. -/
  styleId : String
  /-- The stored name. -/
  name : String
  /-- The identifier of the style this one is based on. -/
  basedOn : Option String := none
  /-- The identifier of the paired style of the other type. -/
  link : Option String := none
  /-- Whether this is a default style of its type. -/
  isDefault : Bool := false
  /-- The paragraph format. -/
  para : ParaFormat := {}
  /-- The character format. -/
  font : Font := {}
  /-- The settings that only show in the stored markup. -/
  traits : Traits := {}
  /-- How its stored type reads; when it is not one of the four, `kind` means nothing. -/
  typeReading : TypeReading := .known
  /-- The refusals a reader meets reading its settings. -/
  readFaults : ReadFaults := {}
  deriving Repr

/-- The refusal of a stored word that names no member of its type. -/
def invalidWord (word : String) : Fault :=
  ⟨.invalidMarkup, "attribute value '" ++ word ++ "' not valid for this type"⟩

/-- The type of a style as a reader compares it with another: none when it is absent, and a
word that names no type refused. -/
def Definition.comparedKind (s : Definition) : Except Fault (Option StyleKind) :=
  match s.typeReading with
  | .known => .ok (some s.kind)
  | .absent => .ok none
  | .unknown w => .error (invalidWord w)

/-- The type of a style as a reader takes it to make the style's object: an absent type is
looked up as the missing key `None`. -/
def Definition.madeKind (s : Definition) : Except Fault StyleKind :=
  match s.typeReading with
  | .known => .ok s.kind
  | .absent => .error ⟨.missingKey, "None"⟩
  | .unknown w => .error (invalidWord w)

/-- The shown name of a style. -/
def Definition.shown (s : Definition) : String := shownName s.name

/-- A document's styles, in document order. -/
abbrev Sheet := List Definition

namespace Sheet

/-- The position of the first style with a stored name. -/
def indexOfName? (sheet : Sheet) (stored : String) : Option Nat :=
  sheet.findIdx? (·.name == stored)

/-- The position of the first style with an identifier. -/
def indexOfId? (sheet : Sheet) (id : String) : Option Nat :=
  sheet.findIdx? (·.styleId == id)

/-- The position of the style a key names: by shown name first, by identifier second. -/
def indexOf? (sheet : Sheet) (key : String) : Option Nat :=
  (sheet.indexOfName? (storedName key)).or (sheet.indexOfId? key)

/-- The style a key names: by shown name first, by identifier second. -/
def find? (sheet : Sheet) (key : String) : Option Definition :=
  (sheet.indexOf? key).bind (sheet[·]?)

/-- Whether a style of a shown name is present. -/
def contains (sheet : Sheet) (ui : String) : Bool :=
  sheet.any (·.name == storedName ui)

/-- The first style with an identifier. -/
def byId? (sheet : Sheet) (id : String) : Option Definition :=
  List.find? (·.styleId == id) sheet

/-- The default style of a type: the last one marked as default. -/
def defaultOf? (sheet : Sheet) (kind : StyleKind) : Option Definition :=
  (sheet.filter (fun s => s.kind == kind && s.isDefault)).getLast?

/-- The style a reference of a type resolves to: the style with that identifier if it has
that type, the default style of the type otherwise. -/
def resolve (sheet : Sheet) (kind : StyleKind) (id : Option String) : Option Definition :=
  match id.bind sheet.byId? with
  | some s => if s.kind == kind then some s else sheet.defaultOf? kind
  | none => sheet.defaultOf? kind

/-- The shown name of the style an identifier belongs to, if any. -/
def nameOfId? (sheet : Sheet) (id : String) : Option String :=
  (sheet.byId? id).map (·.shown)

end Sheet

end MacroDoc.Style
