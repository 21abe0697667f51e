import MacroDoc.Style.Basic
import MacroDoc.Xml.Node

/-!
# The stored markup of a style sheet

A sheet is stored as a `w:styles` element: first the document defaults (`w:docDefaults`) and
the latent styles (`w:latentStyles`, one `w:lsdException` per built-in style that the word
processor knows without storing it), then one `w:style` per style in sheet order.

A style element carries its type, its default mark, whether it is a custom style and its
identifier as attributes, in that order, and its settings as children in the fixed order of
the schema: name, base style, next style, link, gallery settings, revision, then the
paragraph format (`w:pPr`), the character format (`w:rPr`) and the table settings
(`w:tblPr`). A format element is there only when it holds something, and its children also
keep the schema's order, so a setting made later lands where the schema puts it.

An on-off setting is stored as the bare element when it is on and with `w:val="0"` when it
is off. A colour tied to the theme keeps its theme colour next to its value.

## Main definitions

* `Style.Definition.markup`: a style as the element it is stored as.
* `Style.Sheet.markup`: a sheet as the element it is stored as.
-/

namespace MacroDoc.Style

/-- An element of the word-processing markup, its attributes given by local names. -/
def wordElement (localName : String) (attrs : List (String × String))
    (children : List Xml.Node) : Xml.Node :=
  .element (Xml.word localName) (attrs.map fun (n, v) => (Xml.word n, v)) children

/-- An element with one `w:val` attribute. -/
def valued (localName value : String) : Xml.Node := wordElement localName [("val", value)] []

/-- An element with nothing in it. -/
def bare (localName : String) : Xml.Node := wordElement localName [] []

/-- An element when a condition holds, and nothing otherwise. -/
def present (b : Bool) (n : Xml.Node) : List Xml.Node := if b then [n] else []

/-- An on-off setting as stored, when it is set. -/
def onOff (localName : String) : Option Bool → List Xml.Node
  | some true => [bare localName]
  | some false => [valued localName "0"]
  | none => []

/-- A setting with one value, when it is set. -/
def valuedSetting (localName : String) : Option String → List Xml.Node
  | some v => [valued localName v]
  | none => []

/-- An element of attributes, when any is set. -/
def withAttributes (localName : String) (attrs : List (String × String)) : List Xml.Node :=
  if attrs.isEmpty then [] else [wordElement localName attrs []]

/-- An element of children, when any is there. -/
def holding (localName : String) (children : List Xml.Node) : List Xml.Node :=
  if children.isEmpty then [] else [wordElement localName [] children]

/-- An attribute whose value is a length in twips, when it is set. -/
def numberAttribute (name : String) : Option Length → List (String × String)
  | some v => [(name, toString v.inTwips)]
  | none => []

/-- The stored word of a line rule. -/
def LineRule.stored : LineRule → String
  | .multiple => "auto" | .exactly => "exact" | .atLeast => "atLeast"

/-- The stored word of an underline. -/
def Underline.stored : Underline → String
  | .none => "none" | .single => "single" | .words => "words" | .double => "double"
  | .dotted => "dotted" | .thick => "thick" | .dash => "dash" | .dotDash => "dotDash"
  | .dotDotDash => "dotDotDash" | .wavy => "wave" | .dottedHeavy => "dottedHeavy"
  | .dashHeavy => "dashedHeavy" | .dotDashHeavy => "dashDotHeavy"
  | .dotDotDashHeavy => "dashDotDotHeavy" | .wavyHeavy => "wavyHeavy"
  | .dashLong => "dashLong" | .wavyDouble => "wavyDouble" | .dashLongHeavy => "dashLongHeavy"

/-- The stored word of a highlight colour. -/
def Highlight.stored : Highlight → String
  | .auto => "default" | .black => "black" | .blue => "blue" | .turquoise => "cyan"
  | .brightGreen => "green" | .pink => "magenta" | .red => "red" | .yellow => "yellow"
  | .white => "white" | .darkBlue => "darkBlue" | .teal => "darkCyan" | .green => "darkGreen"
  | .violet => "darkMagenta" | .darkRed => "darkRed" | .darkYellow => "darkYellow"
  | .gray50 => "darkGray" | .gray25 => "lightGray"

/-- The stored word of a vertical position. -/
def VertAlign.stored : VertAlign → String
  | .baseline => "baseline" | .superscript => "superscript" | .subscript => "subscript"

/-- A paragraph format with the settings of a style that only show in the markup, as the
children of a `w:pPr` element. -/
def paraChildren (p : ParaFormat) (t : Traits) : List Xml.Node :=
  let numbering := match t.numbering with
    | some (level, list) =>
      [wordElement "numPr" []
        ((level.map fun l => valued "ilvl" (toString l)).toList ++
          (list.map fun n => valued "numId" (toString n)).toList)]
    | none => []
  let border := present t.bottomBorder (wordElement "pBdr" []
    [wordElement "bottom" [("val", "single"), ("sz", "8"), ("space", "4"), ("color", "4F81BD"),
      ("themeColor", "accent1")] []])
  let tabs := holding "tabs" (t.tabs.map fun s =>
    wordElement "tab" [("val", s.kind), ("pos", toString s.pos)] [])
  present t.keepNext (bare "keepNext") ++ present t.keepLines (bare "keepLines") ++
    onOff "pageBreakBefore" p.pageBreakBefore ++ numbering ++ border ++ tabs ++
    withAttributes "spacing" (numberAttribute "before" p.before ++
      numberAttribute "after" p.after ++ numberAttribute "line" p.line ++
      (p.lineRule.map fun r => ("lineRule", r.stored)).toList) ++
    withAttributes "ind" (numberAttribute "left" p.left ++ numberAttribute "right" p.right ++
      numberAttribute "firstLine" p.firstLine ++ numberAttribute "hanging" p.hanging) ++
    present t.contextualSpacing (bare "contextualSpacing") ++
    valuedSetting "jc" (p.alignment.map (·.word)) ++
    valuedSetting "outlineLvl" (t.outlineLevel.map toString)

/-- A character format with the settings of a style that only show in the markup, as the
children of a `w:rPr` element. -/
def fontChildren (f : Font) (t : Traits) : List Xml.Node :=
  let themed := match t.themeFonts with
    | some k => [("asciiTheme", k ++ "HAnsi"), ("eastAsiaTheme", k ++ "EastAsia"),
        ("hAnsiTheme", k ++ "HAnsi"), ("cstheme", k ++ "Bidi")]
    | none => []
  let named := match f.name with
    | some n => [("ascii", n), ("hAnsi", n)]
    | none => []
  let color := match f.color with
    | some c =>
      let theme := match t.themeColor with
        | some tc => ("themeColor", tc.color) :: tc.adjust.toList
        | none => []
      [wordElement "color" (("val", c.hex) :: theme) []]
    | none => []
  withAttributes "rFonts" (themed ++ named) ++
    onOff "b" f.bold ++ present t.complexBold (bare "bCs") ++
    onOff "i" f.italic ++ present t.complexItalic (bare "iCs") ++
    onOff "caps" f.allCaps ++ onOff "smallCaps" f.smallCaps ++ onOff "strike" f.strike ++
    onOff "dstrike" f.doubleStrike ++ color ++
    valuedSetting "spacing" (t.letterSpacing.map toString) ++
    valuedSetting "kern" (t.kern.map toString) ++
    valuedSetting "sz" (f.size.map (toString ·.inHalfPoints)) ++
    valuedSetting "szCs" (t.complexSize.map (toString ·.inHalfPoints)) ++
    valuedSetting "highlight" (f.highlight.map Highlight.stored) ++
    valuedSetting "u" (f.underline.map Underline.stored) ++
    valuedSetting "vertAlign" (f.vertAlign.map VertAlign.stored)

/-- A table width or margin of a number of twips. -/
def twipsWidth (localName : String) (w : Nat) : Xml.Node :=
  wordElement localName [("w", toString w), ("type", "dxa")] []

/-- A single border line. -/
def singleLine (localName : String) : Xml.Node :=
  wordElement localName [("val", "single"), ("sz", "4"), ("space", "0"), ("color", "auto")] []

/-- The table settings of a style, as the children of a `w:tblPr` element. -/
def tableChildren (t : Traits) : List Xml.Node :=
  if !t.tableSettings then []
  else
    [twipsWidth "tblInd" 0] ++
    present t.gridBorders (wordElement "tblBorders" []
      (["top", "left", "bottom", "right", "insideH", "insideV"].map singleLine)) ++
    [wordElement "tblCellMar" []
      [twipsWidth "top" 0, twipsWidth "left" 108, twipsWidth "bottom" 0, twipsWidth "right" 108]]

/-- The stored name of a style type. -/
def StyleKind.stored : StyleKind → String
  | .paragraph => "paragraph" | .character => "character"
  | .table => "table" | .numbering => "numbering"

/-- The type attribute of a style, as it was stored. -/
def typeAttribute (s : Definition) : List (String × String) :=
  match s.typeReading with
  | .known => [("type", s.kind.stored)]
  | .absent => []
  | .unknown w => [("type", w)]

/-- A style as the element it is stored as. -/
def Definition.markup (s : Definition) : Xml.Node :=
  let t := s.traits
  wordElement "style"
    (typeAttribute s ++ (if s.isDefault then [("default", "1")] else []) ++
      (if t.custom then [("customStyle", "1")] else []) ++ [("styleId", s.styleId)])
    ([valued "name" s.name] ++ valuedSetting "basedOn" s.basedOn ++
      valuedSetting "next" t.next ++ valuedSetting "link" s.link ++
      valuedSetting "uiPriority" (t.uiPriority.map toString) ++
      present t.semiHidden (bare "semiHidden") ++
      present t.unhideWhenUsed (bare "unhideWhenUsed") ++
      present t.quickFormat (bare "qFormat") ++ valuedSetting "rsid" t.revision ++
      holding "pPr" (paraChildren s.para t) ++ holding "rPr" (fontChildren s.font t) ++
      holding "tblPr" (tableChildren t))

/-- The document defaults: text in the minor theme fonts at eleven points, with ten points
after a paragraph and lines of 1.15 times the single height. -/
def docDefaults : Xml.Node :=
  wordElement "docDefaults" []
    [wordElement "rPrDefault" []
      [wordElement "rPr" []
        [wordElement "rFonts" [("asciiTheme", "minorHAnsi"), ("eastAsiaTheme", "minorEastAsia"),
            ("hAnsiTheme", "minorHAnsi"), ("cstheme", "minorBidi")] [],
          valued "sz" "22", valued "szCs" "22",
          wordElement "lang" [("val", "en-US"), ("eastAsia", "en-US"), ("bidi", "ar-SA")] []]],
     wordElement "pPrDefault" []
      [wordElement "pPr" []
        [wordElement "spacing" [("after", "200"), ("line", "276"), ("lineRule", "auto")] []]]]

/-- A latent style that shows in the gallery: shown, of a rank, and maybe a quick style. -/
def shownLatent (name : String) (rank : Nat) (quick : Bool) : Xml.Node :=
  wordElement "lsdException"
    ([("name", name), ("semiHidden", "0"), ("uiPriority", toString rank),
      ("unhideWhenUsed", "0")] ++ (if quick then [("qFormat", "1")] else [])) []

/-- A latent style hidden until it is used: of a rank, and maybe a quick style. -/
def rankedLatent (name : String) (rank : Nat) (quick : Bool) : Xml.Node :=
  wordElement "lsdException"
    ([("name", name), ("uiPriority", toString rank)] ++
      (if quick then [("qFormat", "1")] else [])) []

/-- A latent style that stays hidden once it is used. -/
def keptLatent (name : String) : Xml.Node :=
  wordElement "lsdException" [("name", name), ("unhideWhenUsed", "0")] []

/-- The table style families of the gallery, in order; their ranks follow from sixty. -/
def latentFamilies : List String :=
  ["Light Shading", "Light List", "Light Grid", "Medium Shading 1", "Medium Shading 2",
   "Medium List 1", "Medium List 2", "Medium Grid 1", "Medium Grid 2", "Medium Grid 3",
   "Dark List", "Colorful Shading", "Colorful List", "Colorful Grid"]

/-- The latent table styles of one accent colour (or of none), in family order. -/
def accentLatents (accent : Option Nat) : List Xml.Node :=
  latentFamilies.zipIdx.map fun (family, k) =>
    let name := match accent with
      | some a => family ++ " Accent " ++ toString a
      | none => family
    shownLatent name (60 + k) false

/-- The latent styles: the built-in styles with the settings that differ from the defaults
of hidden, unranked styles. The styles of the first accent colour are interrupted after six
families by four text styles. -/
def latentStyles : Xml.Node :=
  let first := accentLatents (some 1)
  wordElement "latentStyles"
    [("defLockedState", "0"), ("defUIPriority", "99"), ("defSemiHidden", "1"),
      ("defUnhideWhenUsed", "1"), ("defQFormat", "0"), ("count", "276")]
    ([shownLatent "Normal" 0 true, shownLatent "heading 1" 9 true] ++
      ((List.range 8).map fun i => rankedLatent ("heading " ++ toString (i + 2)) 9 true) ++
      ((List.range 9).map fun i => rankedLatent ("toc " ++ toString (i + 1)) 39 false) ++
      [rankedLatent "caption" 35 true, shownLatent "Title" 10 true,
        rankedLatent "Default Paragraph Font" 1 false, shownLatent "Subtitle" 11 true,
        shownLatent "Strong" 22 true, shownLatent "Emphasis" 20 true,
        shownLatent "Table Grid" 59 false, keptLatent "Placeholder Text",
        shownLatent "No Spacing" 1 true] ++
      accentLatents none ++ first.take 6 ++
      [keptLatent "Revision", shownLatent "List Paragraph" 34 true,
        shownLatent "Quote" 29 true, shownLatent "Intense Quote" 30 true] ++
      first.drop 6 ++
      ((List.range 5).flatMap fun i => accentLatents (some (i + 2))) ++
      [shownLatent "Subtle Emphasis" 19 true, shownLatent "Intense Emphasis" 21 true,
        shownLatent "Subtle Reference" 31 true, shownLatent "Intense Reference" 32 true,
        shownLatent "Book Title" 33 true, rankedLatent "Bibliography" 37 false,
        rankedLatent "TOC Heading" 39 true])

/-- A sheet as the element it is stored as: the document defaults, the latent styles and
the styles. -/
def Sheet.markup (sheet : Sheet) : Xml.Node :=
  wordElement "styles" [] ([docDefaults, latentStyles] ++ sheet.map Definition.markup)

end MacroDoc.Style
