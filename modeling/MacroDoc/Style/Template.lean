import MacroDoc.Style.Basic

/-!
# The built-in style sheet

Every new document starts from one sheet of built-in styles: the plain text style
`Normal`, headings of nine levels, titles, lists, quotes, captions, headers and footers,
the character styles that emphasise text, and a family of table styles. This module
lists them with the settings each one makes.

## Main definitions

* `Style.builtinSheet`: the sheet of a new document.
-/

namespace MacroDoc.Style

/-- A colour from its three bytes. -/
def rgb (red green blue : Nat) : Rgb := ⟨red, green, blue⟩

/-- The colour of first-level headings. -/
def deepBlue : Rgb := rgb 0x36 0x5F 0x91

/-- The accent colour of lower headings, captions and quotes. -/
def accentBlue : Rgb := rgb 0x4F 0x81 0xBD

/-- The colour of fifth- and sixth-level headings. -/
def darkBlue : Rgb := rgb 0x24 0x3F 0x60

/-- The colour of the lowest headings. -/
def darkGray : Rgb := rgb 0x40 0x40 0x40

/-- The colour of titles. -/
def titleBlue : Rgb := rgb 0x17 0x36 0x5D

/-- The colour of references. -/
def referenceRed : Rgb := rgb 0xC0 0x50 0x4D

/-- The colour of subtle emphasis. -/
def subtleGray : Rgb := rgb 0x80 0x80 0x80

/-- Black. -/
def black : Rgb := rgb 0 0 0

/-- The theme colour a colour of the built-in styles stands for. -/
def themeOf (c : Rgb) : Option ThemeColor :=
  if c == deepBlue then some ⟨"accent1", some ("themeShade", "BF")⟩
  else if c == accentBlue then some ⟨"accent1", none⟩
  else if c == darkBlue then some ⟨"accent1", some ("themeShade", "7F")⟩
  else if c == darkGray then some ⟨"text1", some ("themeTint", "BF")⟩
  else if c == titleBlue then some ⟨"text2", some ("themeShade", "BF")⟩
  else if c == referenceRed then some ⟨"accent2", none⟩
  else if c == subtleGray then some ⟨"text1", some ("themeTint", "7F")⟩
  else if c == black then some ⟨"text1", none⟩
  else none

/-- The settings of a built-in style with the twins of its font added: complex-script text
is bold, italic and sized as the rest, and the colour keeps its theme colour. -/
def Traits.withFont (t : Traits) (f : Font) : Traits :=
  { t with themeColor := f.color.bind themeOf, complexBold := f.bold == some true,
           complexItalic := f.italic == some true, complexSize := f.size }

/-- A paragraph style based on `Normal`, linked to a character style. -/
def paraStyle (name styleId : String) (link : Option String) (para : ParaFormat)
    (font : Font) (traits : Traits) : Definition :=
  { kind := .paragraph, styleId, name, basedOn := some "Normal", link, para, font,
    traits := traits.withFont font }

/-- A character style based on the default paragraph font. -/
def charStyle (name styleId : String) (link : Option String) (font : Font)
    (traits : Traits) : Definition :=
  { kind := .character, styleId, name, basedOn := some "DefaultParagraphFont", link, font,
    traits := traits.withFont font }

/-- A table style of a rank in the gallery. -/
def tableStyle (name styleId : String) (rank : Nat) : Definition :=
  { kind := .table, styleId, name, basedOn := some "TableNormal",
    traits := { uiPriority := some rank, tableSettings := true } }

/-- The settings of a quick style of a rank in the gallery. -/
def quick (rank : Nat) : Traits := { uiPriority := some rank, quickFormat := true }

/-- The settings of a style of a rank that enters the gallery once it is used. -/
def onUse (rank : Nat) : Traits := { uiPriority := some rank, unhideWhenUsed := true }

/-- The settings of a style of a rank kept out of the gallery until it is used. -/
def hiddenUntilUsed (rank : Nat) : Traits :=
  { uiPriority := some rank, semiHidden := true, unhideWhenUsed := true }

/-- The settings of a character style of a rank made to pair with a paragraph style. -/
def linked (rank : Nat) : Traits := { custom := true, uiPriority := some rank }

/-- The font of a heading level (one to nine). -/
def headingFont : Nat → Font
  | 1 => { bold := some true, color := some deepBlue, size := some 28 }
  | 2 => { bold := some true, color := some accentBlue, size := some 26 }
  | 3 => { bold := some true, color := some accentBlue }
  | 4 => { bold := some true, italic := some true, color := some accentBlue }
  | 5 => { color := some darkBlue }
  | 6 => { italic := some true, color := some darkBlue }
  | 7 => { italic := some true, color := some darkGray }
  | 8 => { color := some accentBlue, size := some 20 }
  | _ => { italic := some true, color := some darkGray, size := some 20 }

/-- The space above a heading of a level. -/
def headingSpaceBefore (level : Nat) : Length := if level == 1 then 480 else 200

/-- The paragraph style of a heading level: a quick style in the major theme fonts that
keeps with the next paragraph, the first level shown from the start. -/
def headingStyle (level : Nat) : Definition :=
  paraStyle ("heading " ++ toString level) ("Heading" ++ toString level)
    (some ("Heading" ++ toString level ++ "Char"))
    { before := some (headingSpaceBefore level), after := some 0 } (headingFont level)
    { quick 9 with next := some "Normal", unhideWhenUsed := level != 1, keepNext := true,
                   keepLines := true, outlineLevel := some (level - 1),
                   themeFonts := some "major" }

/-- The character style linked to a heading level. -/
def headingCharStyle (level : Nat) : Definition :=
  charStyle ("Heading " ++ toString level ++ " Char") ("Heading" ++ toString level ++ "Char")
    (some ("Heading" ++ toString level)) (headingFont level)
    { linked 9 with themeFonts := some "major" }

/-- Single line spacing. -/
def singleSpacing : ParaFormat := { line := some 240, lineRule := some .multiple }

/-- The names of the table style families. -/
def tableFamilies : List String :=
  ["Light Shading", "Light List", "Light Grid", "Medium Shading 1", "Medium Shading 2",
   "Medium List 1", "Medium List 2", "Medium Grid 1", "Medium Grid 2", "Medium Grid 3",
   "Dark List", "Colorful Shading", "Colorful List", "Colorful Grid"]

/-- The identifier of a table style family. -/
def familyId (family : String) : String := String.ofList (family.toList.filter (· != ' '))

/-- The styles of a table family of a rank: the plain one and one per accent colour. -/
def tableFamily (family : String) (rank : Nat) : List Definition :=
  tableStyle family (familyId family) rank ::
    (List.range 6).map fun i =>
      tableStyle (family ++ " Accent " ++ toString (i + 1))
        (familyId family ++ "-Accent" ++ toString (i + 1)) rank

/-- The paragraph styles of lists, bulleted lists, numbered lists and continued lists, three
levels of each. -/
def listStyles : List Definition :=
  let suffix (i : Nat) := if i == 0 then "" else " " ++ toString (i + 1)
  let idSuffix (i : Nat) := if i == 0 then "" else toString (i + 1)
  let indent (i : Nat) : Length := .twips (360 * (i + 1))
  let listed : Traits := { onUse 99 with contextualSpacing := true }
  (List.range 3).map (fun i => paraStyle ("List" ++ suffix i) ("List" ++ idSuffix i) none
      { left := some (indent i), hanging := some 360 } {} listed) ++
  (List.range 3).map (fun i =>
      paraStyle ("List Bullet" ++ suffix i) ("ListBullet" ++ idSuffix i) none {} {}
        { listed with numbering := some (none, some (i + 1)) }) ++
  (List.range 3).map (fun i =>
      paraStyle ("List Number" ++ suffix i) ("ListNumber" ++ idSuffix i) none {} {}
        { listed with numbering := some (none, some (i + 4)) }) ++
  (List.range 3).map (fun i => paraStyle ("List Continue" ++ suffix i)
      ("ListContinue" ++ idSuffix i) none { after := some 120, left := some (indent i) } {}
      listed)

/-- The tab stops of macro text: every third of an inch for three inches. -/
def macroTabs : List TabStop :=
  (List.range 9).map fun (i : Nat) => ⟨"left", ((480 * (i + 1) : Nat) : Int)⟩

/-- The sheet of a new document. The styles stand in the order they were made: `Normal`,
the headers and footers, the nine headings, the defaults of each type, and then the others,
each paragraph style with its linked character style after it; the character styles of the
lower headings came later, with the styles of emphasis and the table styles last. -/
def builtinSheet : Sheet :=
  [{ kind := .paragraph, styleId := "Normal", name := "Normal", isDefault := true,
     traits := { quickFormat := true, revision := some "00FC693F" } },
   paraStyle "header" "Header" (some "HeaderChar") { singleSpacing with after := some 0 } {}
     { onUse 99 with tabs := [⟨"center", 4680⟩, ⟨"right", 9360⟩] },
   charStyle "Header Char" "HeaderChar" (some "Header") {} (linked 99),
   paraStyle "footer" "Footer" (some "FooterChar") { singleSpacing with after := some 0 } {}
     { onUse 99 with tabs := [⟨"center", 4680⟩, ⟨"right", 9360⟩] },
   charStyle "Footer Char" "FooterChar" (some "Footer") {} (linked 99)] ++
  (List.range 9).map (fun i => headingStyle (i + 1)) ++
  [{ kind := .character, styleId := "DefaultParagraphFont", name := "Default Paragraph Font",
     isDefault := true, traits := hiddenUntilUsed 1 },
   { kind := .table, styleId := "TableNormal", name := "Normal Table", isDefault := true,
     traits := { hiddenUntilUsed 99 with tableSettings := true } },
   { kind := .numbering, styleId := "NoList", name := "No List", isDefault := true,
     traits := hiddenUntilUsed 99 },
   { paraStyle "No Spacing" "NoSpacing" none { singleSpacing with after := some 0 } {}
       (quick 1) with basedOn := none }] ++
  (List.range 3).map (fun i => headingCharStyle (i + 1)) ++
  [paraStyle "Title" "Title" (some "TitleChar")
     { singleSpacing with after := some 300 } { color := some titleBlue, size := some 52 }
     { quick 10 with next := some "Normal", bottomBorder := true, contextualSpacing := true,
                     themeFonts := some "major", letterSpacing := some 5, kern := some 28 },
   charStyle "Title Char" "TitleChar" (some "Title") { color := some titleBlue, size := some 52 }
     { linked 10 with themeFonts := some "major", letterSpacing := some 5, kern := some 28 },
   paraStyle "Subtitle" "Subtitle" (some "SubtitleChar") {}
     { italic := some true, color := some accentBlue, size := some 24 }
     { quick 11 with next := some "Normal", numbering := some (some 1, none),
                     themeFonts := some "major", letterSpacing := some 15 },
   charStyle "Subtitle Char" "SubtitleChar" (some "Subtitle")
     { italic := some true, color := some accentBlue, size := some 24 }
     { linked 11 with themeFonts := some "major", letterSpacing := some 15 },
   paraStyle "List Paragraph" "ListParagraph" none { left := some 720 } {}
     { quick 34 with contextualSpacing := true },
   paraStyle "Body Text" "BodyText" (some "BodyTextChar") { after := some 120 } {} (onUse 99),
   charStyle "Body Text Char" "BodyTextChar" (some "BodyText") {} (linked 99),
   paraStyle "Body Text 2" "BodyText2" (some "BodyText2Char")
     { line := some 480, lineRule := some .multiple, after := some 120 } {} (onUse 99),
   charStyle "Body Text 2 Char" "BodyText2Char" (some "BodyText2") {} (linked 99),
   paraStyle "Body Text 3" "BodyText3" (some "BodyText3Char") { after := some 120 }
     { size := some 16 } (onUse 99),
   charStyle "Body Text 3 Char" "BodyText3Char" (some "BodyText3") { size := some 16 }
     (linked 99)] ++
  listStyles ++
  [{ paraStyle "macro" "MacroText" (some "MacroTextChar") {}
       { name := some "Courier", size := some 20 } { onUse 99 with tabs := macroTabs } with
     basedOn := none },
   charStyle "Macro Text Char" "MacroTextChar" (some "MacroText")
     { name := some "Courier", size := some 20 } (linked 99),
   paraStyle "Quote" "Quote" (some "QuoteChar") {} { italic := some true, color := some black }
     { quick 29 with next := some "Normal" },
   charStyle "Quote Char" "QuoteChar" (some "Quote") { italic := some true, color := some black }
     (linked 29)] ++
  (List.range 6).map (fun i => headingCharStyle (i + 4)) ++
  [paraStyle "caption" "Caption" none singleSpacing
     { bold := some true, color := some accentBlue, size := some 18 }
     { quick 35 with next := some "Normal", unhideWhenUsed := true },
   charStyle "Strong" "Strong" none { bold := some true } (quick 22),
   charStyle "Emphasis" "Emphasis" none { italic := some true } (quick 20),
   paraStyle "Intense Quote" "IntenseQuote" (some "IntenseQuoteChar")
     { before := some 200, after := some 280, left := some 936, right := some 936 }
     { bold := some true, italic := some true, color := some accentBlue }
     { quick 30 with next := some "Normal", bottomBorder := true },
   charStyle "Intense Quote Char" "IntenseQuoteChar" (some "IntenseQuote")
     { bold := some true, italic := some true, color := some accentBlue } (linked 30),
   charStyle "Subtle Emphasis" "SubtleEmphasis" none
     { italic := some true, color := some subtleGray } (quick 19),
   charStyle "Intense Emphasis" "IntenseEmphasis" none
     { bold := some true, italic := some true, color := some accentBlue } (quick 21),
   charStyle "Subtle Reference" "SubtleReference" none
     { smallCaps := some true, color := some referenceRed, underline := some .single } (quick 31),
   charStyle "Intense Reference" "IntenseReference" none
     { bold := some true, smallCaps := some true, color := some referenceRed,
       underline := some .single } { quick 32 with letterSpacing := some 5 },
   charStyle "Book Title" "BookTitle" none { bold := some true, smallCaps := some true }
     { quick 33 with letterSpacing := some 5 },
   { paraStyle "TOC Heading" "TOCHeading" none {} {}
       { hiddenUntilUsed 39 with quickFormat := true, next := some "Normal",
                                 outlineLevel := some 9 } with
     basedOn := some "Heading1" },
   { tableStyle "Table Grid" "TableGrid" 59 with
     traits := { uiPriority := some 59, tableSettings := true, gridBorders := true } }] ++
  tableFamilies.zipIdx.flatMap fun (family, k) => tableFamily family (60 + k)

end MacroDoc.Style
