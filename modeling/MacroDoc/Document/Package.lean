import MacroDoc.Archive.Zip
import MacroDoc.Xml.Parse
import MacroDoc.Document.Basic
import MacroDoc.Style.Stored
import MacroDoc.Text.Quoted

/-!
# Reading a document package

A document package is an archive of parts. `[Content_Types].xml` gives the content type of
each part, by its name or by its extension; relationship parts (`_rels/.rels` for the
package, `word/_rels/document.xml.rels` for `/word/document.xml`) link a source to its
targets. Opening a package walks the parts from the package's own relationships, depth
first, each part once: for each one its relationships are read, then its bytes, then its
content type is looked up. The parts of the document, its styles, numbering, settings,
headers, footers and core properties are then parsed as XML, in the order the walk reached
them.

The main document is the target of the package's one relationship of the office-document
type, and must have the content type of a main document. Its body is read into paragraphs
and tables, tables in cells too: a paragraph's style and alignment, its runs with their
style and their own bold and italic settings, and the runs' content: text, tabs, breaks,
drawings with their extent, field marks and instructions, and any other element by its
name. A root that is no document, or a document without a body, is only refused when the
body is walked, so the refusal is kept with the document. Its styles come from the styles
part it is related to, or, without one, from the default styles of a document stored
without one, which list latent styles (see `Style.partlessSheet`).

Every step refuses as the package reader does: a missing archive member by its name, a part
without content type, malformed XML, a missing main document.

## Main definitions

* `Document.ContentTypes`, `Document.Relation`: the package's directory.
* `Document.Package`: what is read from a package.
* `Document.readPackage`: read a package from its bytes.
-/

namespace MacroDoc.Document

open Xml

/-- The content types of a package: by part name and by extension, both lower-cased. -/
structure ContentTypes where
  overrides : List (String × String)
  defaults : List (String × String)

/-- A relationship: its identifier, its type, the part name of its target (for an internal
one) and whether the target is outside the package. -/
structure Relation where
  rId : String
  kind : String
  target : String
  external : Bool

/-- A part reached by the walk. -/
structure RawPart where
  name : String
  contentType : String
  blob : ByteArray
  rels : List Relation

/-- What is read from a package: the document, and whether its styles list latent styles. -/
structure Package where
  doc : Doc
  latentStyles : Bool

/-- The relationship type of the main document. -/
def officeDocumentKind : String :=
  "http://schemas.openxmlformats.org/officeDocument/2006/relationships/officeDocument"

/-- The relationship type of a styles part. -/
def stylesKind : String :=
  "http://schemas.openxmlformats.org/officeDocument/2006/relationships/styles"

/-- The relationship type of a picture. -/
def imageKind : String :=
  "http://schemas.openxmlformats.org/officeDocument/2006/relationships/image"

/-- The content type of a main document. -/
def mainDocumentType : String :=
  "application/vnd.openxmlformats-officedocument.wordprocessingml.document.main+xml"

/-- The content types of the parts that are parsed as XML when a package is opened. -/
def xmlPartTypes : List String :=
  ["application/vnd.openxmlformats-package.core-properties+xml", mainDocumentType,
   "application/vnd.openxmlformats-officedocument.wordprocessingml.footer+xml",
   "application/vnd.openxmlformats-officedocument.wordprocessingml.header+xml",
   "application/vnd.openxmlformats-officedocument.wordprocessingml.numbering+xml",
   "application/vnd.openxmlformats-officedocument.wordprocessingml.settings+xml",
   "application/vnd.openxmlformats-officedocument.wordprocessingml.styles+xml"]

/-- A text lower-cased. -/
def lowered (s : String) : String := String.ofList (s.toList.map Char.toLower)

/-- The last value of a key in a list of pairs. -/
def lastOf (pairs : List (String × String)) (key : String) : Option String :=
  (pairs.reverse.find? (·.1 == key)).map (·.2)

/-- The directory part of a part name, without its trailing slash. -/
def dirName (name : String) : String :=
  let parts := name.splitOn "/"
  let dir := "/".intercalate parts.dropLast
  if dir.isEmpty then "/" else dir

/-- The last part of a part name. -/
def fileName (name : String) : String := (name.splitOn "/").getLast?.getD ""

/-- The extension of a part name, without its dot. -/
def extensionOf (name : String) : String :=
  let file := fileName name
  let body := String.ofList (file.toList.dropWhile (· == '.'))
  if body.contains '.' then (body.splitOn ".").getLast?.getD "" else ""

/-- A path made absolute from a directory and cleaned: `.` dropped, `..` stepping up. -/
def partNameOf (base target : String) : String :=
  let joined := if target.startsWith "/" then target
    else if base.endsWith "/" then base ++ target else base ++ "/" ++ target
  let parts := (joined.splitOn "/").foldl (fun acc p =>
    if p.isEmpty || p == "." then acc else if p == ".." then acc.dropLast else acc ++ [p]) []
  "/" ++ "/".intercalate parts

/-- The name of the relationship part of a source. -/
def relsNameOf (source : String) : String :=
  let dir := dirName source
  (if dir == "/" then "/_rels/" else dir ++ "/_rels/") ++ fileName source ++ ".rels"

/-- The archive member of a part name: the name without its leading slash. -/
def memberOf (name : String) : String := String.ofList (name.toList.drop 1)

/-- A name without namespace. -/
def plain (localName : String) : Name := ⟨"", localName⟩

/-- The refusal of a value that is missing where a text is needed. -/
def noneLowered : Fault := Fault.noAttribute "NoneType" "lower"

/-- Read the content types from the parsed list. -/
def ContentTypes.ofNode (root : Node) : Except Fault ContentTypes := do
  let overrides ← (root.elementsNamed ⟨typesSpace, "Override"⟩).mapM fun o =>
    match o.attr? (plain "PartName") with
    | some n => .ok (lowered n, (o.attr? (plain "ContentType")).getD "None")
    | none => .error noneLowered
  let defaults ← (root.elementsNamed ⟨typesSpace, "Default"⟩).mapM fun d =>
    match d.attr? (plain "Extension") with
    | some e => .ok (lowered e, (d.attr? (plain "ContentType")).getD "None")
    | none => .error noneLowered
  return ⟨overrides, defaults⟩

/-- The content type of a part: by its name, then by its extension. -/
def ContentTypes.find (ct : ContentTypes) (name : String) : Except Fault String :=
  match lastOf ct.overrides (lowered name) with
  | some t => .ok t
  | none =>
    match lastOf ct.defaults (lowered (extensionOf name)) with
    | some t => .ok t
    | none => .error ⟨.missingKey, Text.quote ("no content type for partname '" ++ name ++
        "' in [Content_Types].xml")⟩

/-- The relationships a relationship part lists, their targets taken from a directory. -/
def relationsOf (base : String) (root : Node) : List Relation :=
  (root.elementsNamed ⟨relationsSpace, "Relationship"⟩).map fun r =>
    let target := (r.attr? (plain "Target")).getD ""
    let external := r.attr? (plain "TargetMode") == some "External"
    ⟨(r.attr? (plain "Id")).getD "", (r.attr? (plain "Type")).getD "", partNameOf base target,
      external⟩

/-- The relationships of a source, none when it has no relationship part. -/
def relationsFor (z : Archive.Zip) (source : String) : Except Fault (List Relation) :=
  match z.read (memberOf (relsNameOf source)) with
  | .error f => if f.kind == .missingKey then .ok [] else .error f
  | .ok blob => do
    let root ← Xml.parse blob
    return relationsOf (dirName source) root

/-- Walk the parts from relationships, depth first, each part once: its relationships, its
bytes, its content type, then the parts it leads to. The fuel bounds the relationships
followed. -/
def walkParts (z : Archive.Zip) (ct : ContentTypes) :
    Nat → List Relation → List String → List RawPart → Except Fault (List String × List RawPart)
  | 0, _, seen, acc => .ok (seen, acc)
  | _ + 1, [], seen, acc => .ok (seen, acc)
  | fuel + 1, r :: rest, seen, acc =>
    if r.external || seen.contains r.target then walkParts z ct fuel rest seen acc
    else do
      let seen := seen ++ [r.target]
      let rels ← relationsFor z r.target
      let blob ← z.read (memberOf r.target)
      let contentType ← ct.find r.target
      let (seen, acc) ← walkParts z ct fuel rels seen (acc ++ [⟨r.target, contentType, blob, rels⟩])
      walkParts z ct fuel rest seen acc

/-- The one relationship of a type among a source's relationships. -/
def relationOfKind (rels : List Relation) (kind : String) : Except Fault (Option Relation) :=
  match rels.filter (·.kind == kind) with
  | [] => .ok none
  | [r] => .ok (some r)
  | _ => .error (Fault.badValue ("multiple relationships of type '" ++ kind ++ "' in collection"))

/-- The extent of a drawing in EMU, each side read as a decimal integer and 0 when it is
missing, with the first refusal of a side. -/
def drawingItem (n : Node) : Item × Option Fault :=
  let frame := (n.child? ⟨drawingSpace, "inline"⟩).orElse fun _ =>
    n.child? ⟨drawingSpace, "anchor"⟩
  let extent := frame.bind (·.child? ⟨drawingSpace, "extent"⟩)
  let side (a : String) : Except Fault Int :=
    match extent.bind (·.attr? (plain a)) with
    | none => .ok 0
    | some v => Style.readDecimal v
  let cx := side "cx"
  let cy := side "cy"
  (.picture (cx.toOption.getD 0) (cy.toOption.getD 0),
    Style.firstRefusal [Style.refusal cx, Style.refusal cy])

/-- A content item of a run from a child element, with the refusal met reading it; the
run's own settings are no item. Text and field instructions are the text before the
element's first child that is not text; a break to the next line has no type or the type
of text wrapping. -/
def runItem (n : Node) : Option (Item × Option Fault) :=
  match n.name? with
  | some name =>
    if name == word "t" then some (.text n.leadingText, none)
    else if name == word "tab" then some (.tab, none)
    else if name == word "br" then
      match n.attr? (word "type") with
      | none | some "textWrapping" => some (.lineBreak, none)
      | some kind => some (.breakTo kind, none)
    else if name == word "cr" then some (.lineBreak, none)
    else if name == word "instrText" then some (.instruction n.leadingText, none)
    else if name == word "fldChar" then some (.field (n.attr? (word "fldCharType")), none)
    else if name == word "drawing" then some (drawingItem n)
    else if name == word "rPr" then none
    else some (.other name.localName, none)
  | none => none

/-- A run from its element: its style, its content and its own bold and italic settings,
with the first refusal met reading the content, then bold, then italic. -/
def runOf (n : Node) : Run :=
  let props := n.child? (word "rPr")
  let read := n.elements.filterMap runItem
  let bold := Style.readFlag props "b"
  let italic := Style.readFlag props "i"
  { style := Style.settingValue props "rStyle" "val",
    bold := Style.readSetting bold, italic := Style.readSetting italic,
    items := read.map (·.1),
    readFault :=
      Style.firstRefusal (read.map (·.2) ++ [Style.refusal bold, Style.refusal italic]) }

/-- A paragraph from its element. -/
def paragraphOf (n : Node) : Paragraph :=
  let props := n.child? (word "pPr")
  { style := Style.settingValue props "pStyle" "val",
    align := Style.readJustification props,
    runs := (n.elementsNamed (word "r")).map runOf }

mutual

/-- The block an element is: a paragraph, or a table with its rows; other elements are no
block. -/
def blocksOfNode : Node → List Block
  | .element name attrs children =>
    if name == word "p" then [.paragraph (paragraphOf (.element name attrs children))]
    else if name == word "tbl" then [.table (rowsAmong children)]
    else []
  | _ => []

/-- The blocks among the children of a body or a cell, in order. -/
def blocksAmong : List Node → List Block
  | [] => []
  | n :: rest => blocksOfNode n ++ blocksAmong rest

/-- The rows among the children of a table, each as its cells. -/
def rowsAmong : List Node → List (List (List Block))
  | [] => []
  | .element name _ children :: rest =>
    if name == word "tr" then cellsAmong children :: rowsAmong rest else rowsAmong rest
  | _ :: rest => rowsAmong rest

/-- The cells among the children of a row, each as its blocks. -/
def cellsAmong : List Node → List (List Block)
  | [] => []
  | .element name _ children :: rest =>
    if name == word "tc" then blocksAmong children :: cellsAmong rest else cellsAmong rest
  | _ :: rest => cellsAmong rest

end

/-- The blocks of a document's root: those of its body, with the refusal a reader meets
walking the body when the root is no document or has no body. -/
def bodyOf (root : Node) : List Block × Option Fault :=
  if !root.hasName (word "document") then
    ([], some (Fault.noAttribute "lxml.etree._Element" "body"))
  else
    match root.child? (word "body") with
    | some body => (blocksAmong body.children, none)
    | none => ([], some (Fault.badType "'NoneType' object is not iterable"))

/-- The refusal of bytes that are no package, named as the path was given. -/
def packageNotFound (shown : String) : Fault :=
  ⟨.notPackage, "Package not found at '" ++ shown ++ "'"⟩

/-- Read a package from its bytes; `shown` is how its path was given. -/
def readPackage (shown : String) (bytes : ByteArray) : Except Fault Package := do
  if !Archive.isArchive bytes then .error (packageNotFound shown)
  let z ← Archive.Zip.open bytes
  let typesRoot ← Xml.parse (← z.read "[Content_Types].xml")
  let ct ← ContentTypes.ofNode typesRoot
  let packageRels ← relationsFor z "/"
  let fuel := z.members.foldl (fun n m => n + m.size) bytes.size + 2
  let (_, parts) ← walkParts z ct fuel packageRels [] []
  let parsed ← parts.mapM fun p => do
    if xmlPartTypes.contains p.contentType then return (p, some (← Xml.parse p.blob))
    else return (p, none)
  let some mainRel ← relationOfKind packageRels officeDocumentKind
    | .error ⟨.missingKey, Text.quote ("no relationship of type '" ++ officeDocumentKind ++
        "' in collection")⟩
  if mainRel.external then
    .error (Fault.badValue
      "target_part property on _Relationship is undefined when target mode is External")
  let some (mainPart, mainRoot) := parsed.find? (·.1.name == mainRel.target)
    | .error (packageNotFound shown)
  if mainPart.contentType != mainDocumentType then
    .error (Fault.badValue ("file '" ++ shown ++ "' is not a Word file, content type is '" ++
      mainPart.contentType ++ "'"))
  let some root := mainRoot | .error (packageNotFound shown)
  let (sheet, latent) ← match ← relationOfKind mainPart.rels stylesKind with
    | none => pure (Style.partlessSheet, true)
    | some r =>
      match parsed.find? (·.1.name == r.target) with
      | some (_, some stylesRoot) => pure (Style.sheetOfMarkup stylesRoot)
      | _ => .error (Fault.noAttribute "Part" "styles")
  let (body, bodyFault) := bodyOf root
  return ⟨{ sheet, body, bodyFault }, latent⟩

end MacroDoc.Document
