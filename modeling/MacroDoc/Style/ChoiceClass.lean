import MacroDoc.Fault

/-!
# The classes that hold named choices

A style file names an alignment, an underline or a highlight colour by a name, and the name
is looked up on the class that holds the members of that choice. Any attribute of the class
answers, not only a member: its own name and module, its description, its methods, and the
attributes every class has. What the name gives is then taken as a setting. Nothing clears
the setting, a number that is a member's is that member, and anything else is refused: as
a value that is not among the members, or, for a mapping or a list, as a value that cannot
be looked up at all.

A class that the name does not reach refuses the name itself.

## Main definitions

* `Style.ClassAttribute`: what an attribute of a choice class is, as a setting sees it.
* `Style.ChoiceClass`: a class of choices with its members and descriptions.
* `Style.ChoiceClass.attributeOf`: the attribute of a name.
* `Style.ChoiceClass.settingOf`: the member a name stands for as a setting.
* `Style.alignmentClass`, `Style.underlineClass`, `Style.highlightClass`.
-/

namespace MacroDoc.Style

/-- What an attribute of a choice class is, as far as a setting can tell. -/
inductive ClassAttribute where
  /-- A whole number; a member of the choice is its number. -/
  | number (n : Int)
  /-- A text. -/
  | text (s : String)
  /-- No value at all. -/
  | nothing
  /-- Another object that can be looked up, shown as the given text. -/
  | other (shown : String)
  /-- A mapping or a list, which cannot be looked up; the name of its type. -/
  | unhashable (typeName : String)
  deriving DecidableEq, Repr

/-- A class of named choices. -/
structure ChoiceClass where
  /-- The name of the class. -/
  name : String
  /-- The name of the choice in the office object model. -/
  officeName : String
  /-- The address of the page that documents the choice. -/
  reference : String
  /-- The description of the class, as written in it. -/
  description : String
  /-- The documentation page of the class. -/
  page : String
  /-- The named members with their numbers. -/
  members : List (String × Nat)

/-- The module that holds the choice classes. -/
def choiceModule : String := "docx.enum.text"

/-- The module that holds the classes the choice classes are built on. -/
def choiceBaseModule : String := "docx.enum.base"

/-- How a class of a module is shown. -/
def classShown (module name : String) : String := "<class '" ++ module ++ "." ++ name ++ "'>"

/-- How the class that makes choice classes is shown. -/
def makerShown : String := classShown choiceBaseModule "MetaEnumeration"

/-- The sizes and offsets every choice class reports about its instances, and its flags as
they stand once the class has been looked up in: the lookup marks its attribute cache valid,
which is bit 19 of the flags. -/
def layoutNumbers : List (String × Int) :=
  [("__basicsize__", 24), ("__itemsize__", 0), ("__flags__", 546320),
   ("__weakrefoffset__", 16), ("__dictoffset__", -48)]

/-- The operations every object has that a class shows as slot wrappers. -/
def slotWrappers : List String :=
  ["__repr__", "__hash__", "__str__", "__getattribute__", "__setattr__", "__delattr__",
   "__lt__", "__le__", "__eq__", "__ne__", "__gt__", "__ge__", "__init__"]

/-- The operations every object has that a class shows as methods. -/
def objectMethods : List String :=
  ["__reduce_ex__", "__reduce__", "__getstate__", "__format__", "__sizeof__", "__dir__"]

/-- The built-in methods a choice class is bound to. -/
def boundBuiltins : List String :=
  ["__subclasshook__", "__init_subclass__", "mro", "__subclasses__", "__instancecheck__",
   "__subclasscheck__"]

/-- The operations of the class maker that a choice class shows as method wrappers. -/
def makerWrappers : List String := ["__call__", "__or__", "__ror__"]

/-- The methods of the class maker, bound to it. -/
def makerMethods : List String :=
  ["_add_enum_members", "_collect_valid_settings", "_generate_docs_page"]

namespace ChoiceClass

/-- How the class itself is shown. -/
def shown (c : ChoiceClass) : String := classShown choiceModule c.name

/-- How a class method of a base class is shown when it is bound to the class. -/
def boundMethod (c : ChoiceClass) (owner method : String) : String :=
  "<bound method " ++ owner ++ "." ++ method ++ " of " ++ c.shown ++ ">"

/-- The attributes of the class maker that every class it makes answers with. -/
def makerAttribute (c : ChoiceClass) (attr : String) : Option ClassAttribute :=
  if attr == "__name__" || attr == "__qualname__" then some (.text c.name)
  else if attr == "__bases__" then
    some (.other ("(" ++ classShown choiceBaseModule "XmlEnumeration" ++ ",)"))
  else if attr == "__base__" then some (.other (classShown choiceBaseModule "XmlEnumeration"))
  else if attr == "__mro__" then
    some (.other ("(" ++ c.shown ++ ", " ++ classShown choiceBaseModule "XmlEnumeration" ++
      ", " ++ classShown choiceBaseModule "Enumeration" ++ ", <class 'object'>)"))
  else if attr == "__dict__" then some (.unhashable "mappingproxy")
  else if attr == "__annotations__" then some (.unhashable "dict")
  else if attr == "__text_signature__" then some .nothing
  else if attr == "__class__" then some (.other makerShown)
  else (layoutNumbers.lookup attr).map .number

/-- The attributes the class holds itself or takes from the classes it is built on. -/
def ownAttribute (c : ChoiceClass) (attr : String) : Option ClassAttribute :=
  match c.members.lookup attr with
  | some n => some (.number n)
  | none =>
    if attr == "__module__" then some (.text choiceModule)
    else if attr == "__doc__" then some (.text c.description)
    else if attr == "__ms_name__" then some (.text c.officeName)
    else if attr == "__url__" then some (.text c.reference)
    else if attr == "__docs_rst__" then some (.text c.page)
    else if attr == "__members__" then
      some (.other "(<docx.enum.base.XmlMappedEnumMember object>, ...)")
    else if attr == "_member_to_xml" || attr == "_xml_to_member" then some (.unhashable "dict")
    else if attr == "_valid_settings" then some (.unhashable "list")
    else if attr == "from_xml" || attr == "to_xml" then
      some (.other (c.boundMethod "XmlEnumeration" attr))
    else if attr == "validate" then some (.other (c.boundMethod "EnumerationBase" attr))
    else if attr == "__weakref__" then
      some (.other "<attribute '__weakref__' of 'EnumerationBase' objects>")
    else if slotWrappers.contains attr then
      some (.other ("<slot wrapper '" ++ attr ++ "' of 'object' objects>"))
    else if objectMethods.contains attr then
      some (.other ("<method '" ++ attr ++ "' of 'object' objects>"))
    else if attr == "__new__" then some (.other "<built-in method __new__ of type object>")
    else none

/-- The attributes found on the class maker when the class has none of the name. -/
def fallbackAttribute (attr : String) : Option ClassAttribute :=
  if boundBuiltins.contains attr then
    some (.other ("<built-in method " ++ attr ++ " of MetaEnumeration object>"))
  else if attr == "__prepare__" then some (.other "<built-in method __prepare__ of type object>")
  else if makerWrappers.contains attr then
    some (.other ("<method-wrapper '" ++ attr ++ "' of MetaEnumeration object>"))
  else if makerMethods.contains attr then
    some (.other ("<bound method MetaEnumeration." ++ attr ++ " of " ++ makerShown ++ ">"))
  else none

/-- The attribute of a name: first what the class maker fixes for every class, then what
the class holds or inherits, then the rest of the class maker. A name of none of these is
refused, as is the list of abstract methods, which a choice class does not have. -/
def attributeOf (c : ChoiceClass) (attr : String) : Except Fault ClassAttribute :=
  if attr == "__abstractmethods__" then .error ⟨.missingAttribute, attr⟩
  else match c.makerAttribute attr <|> c.ownAttribute attr <|> fallbackAttribute attr with
    | some a => .ok a
    | none => .error (Fault.noTypeAttribute c.name attr)

/-- The refusal of a value that is not among the members. -/
def notAMember (c : ChoiceClass) (shown : String) : Fault :=
  Fault.badValue ("value '" ++ shown ++ "' not in enumeration " ++ c.name)

/-- The member number a name stands for as a setting; none clears the setting. -/
def settingOf (c : ChoiceClass) (attr : String) : Except Fault (Option Nat) := do
  match ← c.attributeOf attr with
  | .nothing => return none
  | .number n =>
    match c.members.find? (fun m => (m.2 : Int) == n) with
    | some m => return some m.2
    | none => throw (c.notAMember (toString n))
  | .text s => throw (c.notAMember s)
  | .other s => throw (c.notAMember s)
  | .unhashable t => throw (Fault.badType ("unhashable type: '" ++ t ++ "'"))

end ChoiceClass

/-- A reference address, over a secure connection or not. -/
def referenceAddress (secure : Bool) (path : String) : String :=
  (if secure then "https" else "http") ++ "://" ++ path

/-- The class of paragraph alignments. -/
def alignmentClass : ChoiceClass where
  name := "WD_PARAGRAPH_ALIGNMENT"
  officeName := "WdParagraphAlignment"
  reference := referenceAddress false "msdn.microsoft.com/en-us/library/office/ff835817.aspx"
  description :=
    "\n    alias: **WD_ALIGN_PARAGRAPH**\n\n    Specifies paragraph justification type.\n\n    Example::\n\n        from docx.enum.text import WD_ALIGN_PARAGRAPH\n\n        paragraph = document.add_paragraph()\n        paragraph.alignment = WD_ALIGN_PARAGRAPH.CENTER\n    "
  page :=
    ".. _WdParagraphAlignment:\n\n``WD_PARAGRAPH_ALIGNMENT``\n==========================\n\nalias: **WD_ALIGN_PARAGRAPH**\n\nSpecifies paragraph justification type.\n\nExample::\n\n    from docx.enum.text import WD_ALIGN_PARAGRAPH\n\n    paragraph = document.add_paragraph()\n    paragraph.alignment = WD_ALIGN_PARAGRAPH.CENTER\n\n----\n\nLEFT\n    Left-aligned\n\nCENTER\n    Center-aligned.\n\nRIGHT\n    Right-aligned.\n\nJUSTIFY\n    Fully justified.\n\nDISTRIBUTE\n    Paragraph characters are distributed to fill the entire width of the\n    paragraph.\n\nJUSTIFY_MED\n    Justified with a medium character compression ratio.\n\nJUSTIFY_HI\n    Justified with a high character compression ratio.\n\nJUSTIFY_LOW\n    Justified with a low character compression ratio.\n\nTHAI_JUSTIFY\n    Justified according to Thai formatting layout.\n"
  members :=
    [("LEFT", 0), ("CENTER", 1), ("RIGHT", 2), ("JUSTIFY", 3), ("DISTRIBUTE", 4),
     ("JUSTIFY_MED", 5), ("JUSTIFY_HI", 7), ("JUSTIFY_LOW", 8), ("THAI_JUSTIFY", 9)]

/-- The class of underlines. -/
def underlineClass : ChoiceClass where
  name := "WD_UNDERLINE"
  officeName := "WdUnderline"
  reference := referenceAddress false "msdn.microsoft.com/en-us/library/office/ff822388.aspx"
  description :=
    "\n    Specifies the style of underline applied to a run of characters.\n    "
  page :=
    ".. _WdUnderline:\n\n``WD_UNDERLINE``\n================\n\nSpecifies the style of underline applied to a run of characters.\n\n----\n\nNONE\n    No underline. This setting overrides any inherited underline value, so can\n    be used to remove underline from a run that inherits underlining from its\n    containing paragraph. Note this is not the same as assigning |None| to\n    Run.underline. |None| is a valid assignment value, but causes the run to\n    inherit its underline value. Assigning ``WD_UNDERLINE.NONE`` causes\n    underlining to be unconditionally turned off.\n\nSINGLE\n    A single line. Note that this setting iswrite-only in the sense that\n    |True| (rather than ``WD_UNDERLINE.SINGLE``) is returned for a run having\n    this setting.\n\nWORDS\n    Underline individual words only.\n\nDOUBLE\n    A double line.\n\nDOTTED\n    Dots.\n\nTHICK\n    A single thick line.\n\nDASH\n    Dashes.\n\nDOT_DASH\n    Alternating dots and dashes.\n\nDOT_DOT_DASH\n    An alternating dot-dot-dash pattern.\n\nWAVY\n    A single wavy line.\n\nDOTTED_HEAVY\n    Heavy dots.\n\nDASH_HEAVY\n    Heavy dashes.\n\nDOT_DASH_HEAVY\n    Alternating heavy dots and heavy dashes.\n\nDOT_DOT_DASH_HEAVY\n    An alternating heavy dot-dot-dash pattern.\n\nWAVY_HEAVY\n    A heavy wavy line.\n\nDASH_LONG\n    Long dashes.\n\nWAVY_DOUBLE\n    A double wavy line.\n\nDASH_LONG_HEAVY\n    Long heavy dashes.\n"
  members :=
    [("NONE", 0), ("SINGLE", 1), ("WORDS", 2), ("DOUBLE", 3), ("DOTTED", 4), ("THICK", 6),
     ("DASH", 7), ("DOT_DASH", 9), ("DOT_DOT_DASH", 10), ("WAVY", 11),
     ("DOTTED_HEAVY", 20), ("DASH_HEAVY", 23), ("DOT_DASH_HEAVY", 25),
     ("DOT_DOT_DASH_HEAVY", 26), ("WAVY_HEAVY", 27), ("DASH_LONG", 39),
     ("WAVY_DOUBLE", 43), ("DASH_LONG_HEAVY", 55)]

/-- The class of highlight colours. -/
def highlightClass : ChoiceClass where
  name := "WD_COLOR_INDEX"
  officeName := "WdColorIndex"
  reference := referenceAddress true "msdn.microsoft.com/EN-US/library/office/ff195343.aspx"
  description :=
    "\n    Specifies a standard preset color to apply. Used for font highlighting and\n    perhaps other applications.\n    "
  page :=
    ".. _WdColorIndex:\n\n``WD_COLOR_INDEX``\n==================\n\nSpecifies a standard preset color to apply. Used for font highlighting and\nperhaps other applications.\n\n----\n\nAUTO\n    Automatic color. Default; usually black.\n\nBLACK\n    Black color.\n\nBLUE\n    Blue color\n\nBRIGHT_GREEN\n    Bright green color.\n\nDARK_BLUE\n    Dark blue color.\n\nDARK_RED\n    Dark red color.\n\nDARK_YELLOW\n    Dark yellow color.\n\nGRAY_25\n    25% shade of gray color.\n\nGRAY_50\n    50% shade of gray color.\n\nGREEN\n    Green color.\n\nPINK\n    Pink color.\n\nRED\n    Red color.\n\nTEAL\n    Teal color.\n\nTURQUOISE\n    Turquoise color.\n\nVIOLET\n    Violet color.\n\nWHITE\n    White color.\n\nYELLOW\n    Yellow color.\n"
  members :=
    [("AUTO", 0), ("BLACK", 1), ("BLUE", 2), ("BRIGHT_GREEN", 4), ("DARK_BLUE", 9),
     ("DARK_RED", 13), ("DARK_YELLOW", 14), ("GRAY_25", 16), ("GRAY_50", 15),
     ("GREEN", 11), ("PINK", 5), ("RED", 6), ("TEAL", 10), ("TURQUOISE", 3),
     ("VIOLET", 12), ("WHITE", 8), ("YELLOW", 7)]

end MacroDoc.Style
