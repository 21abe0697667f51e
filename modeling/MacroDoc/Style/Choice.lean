/-!
# Named choices of a style

Several properties of a style take one of a fixed set of named values: the alignment of a
paragraph, the kind of underline, the highlight colour of a font, the rule of the line
spacing, and the type of a style itself. Each value has a member name (how style files and
descriptions spell it), a number, and the word that stands for it in the stored document.

## Main definitions

* `Style.Alignment`, `Style.Underline`, `Style.Highlight`, `Style.LineRule`,
  `Style.StyleKind`, each with its names, numbers and stored words.
-/

namespace MacroDoc.Style

/-- The alignment of a paragraph. -/
inductive Alignment where
  | left | center | right | justify | distribute | justifyMed | justifyHi | justifyLow
  | thaiJustify
  deriving DecidableEq, Repr

/-- Every alignment, in the order the names are looked up. -/
def Alignment.all : List Alignment :=
  [.left, .center, .right, .justify, .distribute, .justifyMed, .justifyHi, .justifyLow,
   .thaiJustify]

/-- The member name of an alignment. -/
def Alignment.name : Alignment → String
  | .left => "LEFT" | .center => "CENTER" | .right => "RIGHT" | .justify => "JUSTIFY"
  | .distribute => "DISTRIBUTE" | .justifyMed => "JUSTIFY_MED" | .justifyHi => "JUSTIFY_HI"
  | .justifyLow => "JUSTIFY_LOW" | .thaiJustify => "THAI_JUSTIFY"

/-- The number of an alignment. -/
def Alignment.code : Alignment → Nat
  | .left => 0 | .center => 1 | .right => 2 | .justify => 3 | .distribute => 4
  | .justifyMed => 5 | .justifyHi => 7 | .justifyLow => 8 | .thaiJustify => 9

/-- The stored word of an alignment. -/
def Alignment.word : Alignment → String
  | .left => "left" | .center => "center" | .right => "right" | .justify => "both"
  | .distribute => "distribute" | .justifyMed => "mediumKashida"
  | .justifyHi => "highKashida" | .justifyLow => "lowKashida"
  | .thaiJustify => "thaiDistribute"

/-- The alignment a member name stands for. -/
def Alignment.ofName? (s : String) : Option Alignment :=
  Alignment.all.find? (fun a => a.name == s)

/-- The alignment of a number. -/
def Alignment.ofCode? (n : Nat) : Option Alignment :=
  Alignment.all.find? (fun a => a.code == n)

/-- The alignment a stored word stands for. -/
def Alignment.ofWord? (s : String) : Option Alignment :=
  Alignment.all.find? (fun a => a.word == s)

/-- The kind of underline of a font. -/
inductive Underline where
  | none | single | words | double | dotted | thick | dash | dotDash | dotDotDash | wavy
  | dottedHeavy | dashHeavy | dotDashHeavy | dotDotDashHeavy | wavyHeavy | dashLong
  | wavyDouble | dashLongHeavy
  deriving DecidableEq, Repr

/-- Every kind of underline, in the order the names are looked up. -/
def Underline.all : List Underline :=
  [.none, .single, .words, .double, .dotted, .thick, .dash, .dotDash, .dotDotDash, .wavy,
   .dottedHeavy, .dashHeavy, .dotDashHeavy, .dotDotDashHeavy, .wavyHeavy, .dashLong,
   .wavyDouble, .dashLongHeavy]

/-- The member name of an underline. -/
def Underline.name : Underline → String
  | .none => "NONE" | .single => "SINGLE" | .words => "WORDS" | .double => "DOUBLE"
  | .dotted => "DOTTED" | .thick => "THICK" | .dash => "DASH" | .dotDash => "DOT_DASH"
  | .dotDotDash => "DOT_DOT_DASH" | .wavy => "WAVY" | .dottedHeavy => "DOTTED_HEAVY"
  | .dashHeavy => "DASH_HEAVY" | .dotDashHeavy => "DOT_DASH_HEAVY"
  | .dotDotDashHeavy => "DOT_DOT_DASH_HEAVY" | .wavyHeavy => "WAVY_HEAVY"
  | .dashLong => "DASH_LONG" | .wavyDouble => "WAVY_DOUBLE"
  | .dashLongHeavy => "DASH_LONG_HEAVY"

/-- The number of an underline. -/
def Underline.code : Underline → Nat
  | .none => 0 | .single => 1 | .words => 2 | .double => 3 | .dotted => 4 | .thick => 6
  | .dash => 7 | .dotDash => 9 | .dotDotDash => 10 | .wavy => 11 | .dottedHeavy => 20
  | .dashHeavy => 23 | .dotDashHeavy => 25 | .dotDotDashHeavy => 26 | .wavyHeavy => 27
  | .dashLong => 39 | .wavyDouble => 43 | .dashLongHeavy => 55

/-- The underline a member name stands for. -/
def Underline.ofName? (s : String) : Option Underline :=
  Underline.all.find? (fun u => u.name == s)

/-- The underline of a number. -/
def Underline.ofCode? (n : Nat) : Option Underline :=
  Underline.all.find? (fun u => u.code == n)

/-- The highlight colour of a font. -/
inductive Highlight where
  | auto | black | blue | turquoise | brightGreen | pink | red | yellow | white | darkBlue
  | teal | green | violet | darkRed | darkYellow | gray50 | gray25
  deriving DecidableEq, Repr

/-- Every highlight colour, in the order the names are looked up. -/
def Highlight.all : List Highlight :=
  [.auto, .black, .blue, .turquoise, .brightGreen, .pink, .red, .yellow, .white, .darkBlue,
   .teal, .green, .violet, .darkRed, .darkYellow, .gray50, .gray25]

/-- The member name of a highlight colour. -/
def Highlight.name : Highlight → String
  | .auto => "AUTO" | .black => "BLACK" | .blue => "BLUE" | .turquoise => "TURQUOISE"
  | .brightGreen => "BRIGHT_GREEN" | .pink => "PINK" | .red => "RED" | .yellow => "YELLOW"
  | .white => "WHITE" | .darkBlue => "DARK_BLUE" | .teal => "TEAL" | .green => "GREEN"
  | .violet => "VIOLET" | .darkRed => "DARK_RED" | .darkYellow => "DARK_YELLOW"
  | .gray50 => "GRAY_50" | .gray25 => "GRAY_25"

/-- The number of a highlight colour: the colours are numbered in the order of `all`. -/
def Highlight.code : Highlight → Nat
  | .auto => 0 | .black => 1 | .blue => 2 | .turquoise => 3 | .brightGreen => 4 | .pink => 5
  | .red => 6 | .yellow => 7 | .white => 8 | .darkBlue => 9 | .teal => 10 | .green => 11
  | .violet => 12 | .darkRed => 13 | .darkYellow => 14 | .gray50 => 15 | .gray25 => 16

/-- The highlight colour a member name stands for. -/
def Highlight.ofName? (s : String) : Option Highlight :=
  Highlight.all.find? (fun h => h.name == s)

/-- The highlight colour of a number. -/
def Highlight.ofCode? (n : Nat) : Option Highlight :=
  Highlight.all.find? (fun h => h.code == n)

/-- The rule of a line spacing as stored: a multiple of single spacing, an exact height, or
a least height. -/
inductive LineRule where
  | multiple | exactly | atLeast
  deriving DecidableEq, Repr

/-- The number of a stored line rule among the line-spacing choices. -/
def LineRule.code : LineRule → Nat
  | .atLeast => 3 | .exactly => 4 | .multiple => 5

/-- The type of a style. -/
inductive StyleKind where
  | paragraph | character | table | numbering
  deriving DecidableEq, Repr

/-- The member name and number of a style type, as messages write it. -/
def StyleKind.label : StyleKind → String
  | .paragraph => "PARAGRAPH (1)" | .character => "CHARACTER (2)"
  | .table => "TABLE (3)" | .numbering => "LIST (4)"

/-- The name of the object that stands for a style of a type, as messages write it. -/
def StyleKind.objectName : StyleKind → String
  | .paragraph => "_ParagraphStyle" | .character => "_CharacterStyle"
  | .table => "_TableStyle" | .numbering => "_NumberingStyle"

/-- Whether styles of a type have a paragraph format. -/
def StyleKind.hasParagraphFormat : StyleKind → Bool
  | .paragraph | .table => true
  | _ => false

/-- Whether styles of a type have a font. -/
def StyleKind.hasFont : StyleKind → Bool
  | .numbering => false
  | _ => true

end MacroDoc.Style
