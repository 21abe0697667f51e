import MacroDoc.Style.Markup
import MacroDoc.Text.Xml
import MacroDoc.Xml.Path

/-!
# Finding a style by a key

A style is found by a path query on the stored sheet, with the key written into the query
text: first as a stored name (`w:style[w:name/@w:val="…"]`), and, when that selects nothing,
as an identifier (`w:style[@w:styleId="…"]`). The first node the query selects is the one
found. Because the key is written into the query, the query must be text a document can
store, and a key with a double quote ends the quoted value early and changes the query: it
may then be malformed, or select other styles, or give a value that is not a list of nodes.

The sheet is queried as the markup it is stored as (`Sheet.markup`), from its `w:styles`
element. A selected node that is not a style is refused with the name of the kind of object
that stands for it: each element of the markup has one, and elements without a kind of their
own are plain elements.

## Main definitions

* `Style.nameQuery`, `Style.idQuery`: the query texts for a key.
* `Style.elementKind`: the kind of object that stands for an element of the markup.
* `Style.Sheet.lookup`, `Style.Sheet.find`: the position of the style a key finds.
* `Style.Sheet.lookupId`: the position of the style an identifier finds.
* `Style.Sheet.resolveRef`, `Style.Sheet.baseName`: references resolved as a reader does.
* `Style.Sheet.adopt`: take in the styles of another sheet.
-/

namespace MacroDoc.Style

/-- The query for the style of a stored name. -/
def nameQuery (stored : String) : String := "w:style[w:name/@w:val=\"" ++ stored ++ "\"]"

/-- The query for the style of an identifier. -/
def idQuery (id : String) : String := "w:style[@w:styleId=\"" ++ id ++ "\"]"

/-- The refusal of a query that is not well formed or cannot be evaluated. -/
def malformedQuery (message : String) : Fault := ⟨.badQuery, message⟩

/-- The prefixes a style query may use, with their namespaces. -/
def queryPrefixes : List (String × String) :=
  [("a", "http://schemas.openxmlformats.org/drawingml/2006/main"),
   ("c", "http://schemas.openxmlformats.org/drawingml/2006/chart"),
   ("cp", "http://schemas.openxmlformats.org/package/2006/metadata/core-properties"),
   ("dc", "http://purl.org/dc/elements/1.1/"),
   ("dcmitype", "http://purl.org/dc/dcmitype/"),
   ("dcterms", "http://purl.org/dc/terms/"),
   ("dgm", "http://schemas.openxmlformats.org/drawingml/2006/diagram"),
   ("m", "http://schemas.openxmlformats.org/officeDocument/2006/math"),
   ("pic", "http://schemas.openxmlformats.org/drawingml/2006/picture"),
   ("r", "http://schemas.openxmlformats.org/officeDocument/2006/relationships"),
   ("sl", "http://schemas.openxmlformats.org/schemaLibrary/2006/main"),
   ("w", Xml.wordSpace),
   ("wp", Xml.drawingSpace),
   ("xml", Xml.xmlSpace),
   ("xsi", "http://www.w3.org/2001/XMLSchema-instance")]

namespace Sheet

/-- The refusal of a selected node that is not a style: what stands for it has no type. -/
def notAStyle (owner : String) : Fault := Fault.noAttribute owner "type"

/-- The elements of the markup that have a kind of object of their own, by local name. -/
def elementKinds : List (String × String) :=
  [("basedOn", "CT_String"), ("link", "CT_String"), ("name", "CT_String"),
   ("next", "CT_String"), ("pStyle", "CT_String"), ("rStyle", "CT_String"),
   ("latentStyles", "CT_LatentStyles"), ("lsdException", "CT_LsdException"),
   ("locked", "CT_OnOff"), ("qFormat", "CT_OnOff"), ("semiHidden", "CT_OnOff"),
   ("unhideWhenUsed", "CT_OnOff"), ("uiPriority", "CT_DecimalNumber"),
   ("style", "CT_Style"), ("styles", "CT_Styles"),
   ("pPr", "CT_PPr"), ("ind", "CT_Ind"), ("jc", "CT_Jc"), ("spacing", "CT_Spacing"),
   ("tabs", "CT_TabStops"), ("tab", "CT_TabStop"), ("keepLines", "CT_OnOff"),
   ("keepNext", "CT_OnOff"), ("pageBreakBefore", "CT_OnOff"), ("widowControl", "CT_OnOff"),
   ("rPr", "CT_RPr"), ("rFonts", "CT_Fonts"), ("color", "CT_Color"), ("sz", "CT_HpsMeasure"),
   ("highlight", "CT_Highlight"), ("u", "CT_Underline"), ("vertAlign", "CT_VerticalAlignRun"),
   ("b", "CT_OnOff"), ("bCs", "CT_OnOff"), ("caps", "CT_OnOff"), ("cs", "CT_OnOff"),
   ("dstrike", "CT_OnOff"), ("emboss", "CT_OnOff"), ("i", "CT_OnOff"), ("iCs", "CT_OnOff"),
   ("imprint", "CT_OnOff"), ("noProof", "CT_OnOff"), ("oMath", "CT_OnOff"),
   ("outline", "CT_OnOff"), ("rtl", "CT_OnOff"), ("shadow", "CT_OnOff"),
   ("smallCaps", "CT_OnOff"), ("snapToGrid", "CT_OnOff"), ("specVanish", "CT_OnOff"),
   ("strike", "CT_OnOff"), ("vanish", "CT_OnOff"), ("webHidden", "CT_OnOff"),
   ("tblPr", "CT_TblPr")]

/-- The kind of object that stands for an element of the markup. -/
def elementKind (n : Xml.Name) : String :=
  if n.space != Xml.wordSpace then "lxml.etree._Element"
  else ((elementKinds.find? (·.1 == n.localName)).map (·.2)).getD "lxml.etree._Element"

/-- What the first node of a query's value is, when it is there: a style of the sheet (by
position), or the refusal of anything else. The document node is never part of a result,
and a value that is not a list of nodes cannot be indexed. -/
def selected (sheet : Sheet) (tree : Array Xml.Entry) (v : Xml.PathValue) :
    Except Fault (Option Nat) :=
  let styleEntries := (tree.toList.zipIdx.filter fun (e, _) =>
    e.kind == .element && e.name == Xml.word "style").map (·.2)
  match v with
  | .bool _ => .error (Fault.badType "'bool' object is not subscriptable")
  | .num _ => .error (Fault.badType "'float' object is not subscriptable")
  | .str s => if s.isEmpty then .ok none else .error (notAStyle "str")
  | .nodes ns =>
    match ns.filter (· != 0) with
    | [] => .ok none
    | n :: _ =>
      let e := Xml.entryAt tree n
      match e.kind with
      | .element =>
        match styleEntries.idxOf? n with
        | some i => if i < sheet.length then .ok (some i) else .error (notAStyle "CT_Style")
        | none => .error (notAStyle (elementKind e.name))
      | _ => .error (notAStyle "lxml.etree._ElementUnicodeResult")

/-- The first style a query selects on the sheet, from its `w:styles` element. -/
def query (sheet : Sheet) (text : String) : Except Fault (Option Nat) := do
  Text.checkStorable text 0
  let expr ← (Xml.compileQuery text).mapError malformedQuery
  let tree := Xml.flatten sheet.markup
  let v ← (Xml.evalPath tree queryPrefixes 1 text.length expr).mapError malformedQuery
  selected sheet tree v

/-- The position of the style an identifier finds. An identifier without a double quote
selects the first style with that identifier. -/
def lookupId (sheet : Sheet) (id : String) : Except Fault (Option Nat) :=
  if id.toList.contains '"' then sheet.query (idQuery id)
  else do
    Text.checkStorable (idQuery id) 0
    return sheet.indexOfId? id

/-- The position of the style a key finds: by stored name first, by identifier second. A
key without a double quote selects the first style with that stored name, or failing that
the first with that identifier. -/
def lookup (sheet : Sheet) (key : String) : Except Fault (Option Nat) := do
  let stored := storedName key
  let byName ← if stored.toList.contains '"' then sheet.query (nameQuery stored)
    else do
      Text.checkStorable (nameQuery stored) 0
      pure (sheet.indexOfName? stored)
  match byName with
  | some i => return some i
  | none => sheet.lookupId key

/-- The default style of a type as a reader finds it: the last style of the type marked as
default. The reader compares the type of every style, so a style whose stored type names no
type is refused. -/
def defaultFor (sheet : Sheet) (kind : StyleKind) : Except Fault (Option Definition) :=
  sheet.foldlM (fun found s => do
    if (← s.comparedKind) == some kind && s.isDefault then return some s else return found) none

/-- The style a reference of a type resolves to, as a reader finds it: the style the
identifier finds when it is of that type, and the default style of the type otherwise. -/
def resolveRef (sheet : Sheet) (kind : StyleKind) (ref : Option String) :
    Except Fault (Option Definition) := do
  match ref with
  | none => sheet.defaultFor kind
  | some id =>
    match (← sheet.lookupId id).bind (sheet[·]?) with
    | some s =>
      if (← s.comparedKind) == some kind then do
        let _ ← s.madeKind
        return some s
      else sheet.defaultFor kind
    | none => sheet.defaultFor kind

/-- The shown name of the style a style is based on, as a reader finds it: none without a
base or when its identifier finds no style. -/
def baseName (sheet : Sheet) (s : Definition) : Except Fault (Option String) := do
  match s.basedOn with
  | none => return none
  | some id =>
    match (← sheet.lookupId id).bind (sheet[·]?) with
    | none => return none
    | some b => do
      let _ ← b.madeKind
      return some b.shown

/-- The refusal of a key that finds no style. -/
def noStyle (key : String) : Fault :=
  ⟨.missingKey, Text.quote ("no style with name '" ++ key ++ "'")⟩

/-- The position of the style a key finds, or the refusal of a key that finds none. -/
def find (sheet : Sheet) (key : String) : Except Fault Nat := do
  match ← sheet.lookup key with
  | some i => .ok i
  | none => .error (noStyle key)

/-- Take in the styles of another sheet, as a new document takes the default styles. For
each style of the other sheet in order, by its shown name: if the sheet had a style of that
name to begin with, the style the name now finds is removed; then the style the name finds
in the other sheet is added at the end. When no name needs a query, the result is the other
sheet with the styles of this one whose names it lacks in front. -/
def adopt (sheet source : Sheet) : Except Fault Sheet :=
  let names := sheet.map (·.shown)
  source.foldlM (fun acc s => do
    let name := s.shown
    let acc ← if names.contains name then do
        let i ← acc.find name
        pure (acc.eraseIdx i)
      else pure acc
    let j ← source.find name
    pure (acc ++ source[j]?.toList)) sheet

end Sheet

end MacroDoc.Style
