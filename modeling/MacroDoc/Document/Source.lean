import MacroDoc.Document.Describe
import MacroDoc.Json.Writer

/-!
# Writing a document back as source

A document is written back as markup: each paragraph of the body (tables are left out)
becomes a `paragraph-styled` block holding one `run-styled` block per run, with a page break
first when the paragraph's style starts a new page. In a run's text, line breaks of every
kind are line breaks, tabs are tabs, and pictures and field codes are left out.

Styles are named in one of two ways. By description, each distinct description of a style
gets the next free name `style0`, `style1`, …, and the descriptions are listed under those
names; a run's style is described with the bold and italic settings the run makes itself
when its style leaves them open, and a run without a character style is named `paragraph`.
By default class, a style falls in the class of plain paragraphs, first-level headings or
second-level headings, by its own name or its base style's; this naming then looks the
class up among the named descriptions, and none are ever recorded, so it fails at the first
paragraph.

## Main definitions

* `Document.StyleNaming`, `Document.StyleTable`.
* `Document.Run.plainText`: the text of a run.
* `Document.runMacro`, `Document.paragraphMacro`: the source written for a run and around
  a paragraph.
* `Document.imageMacro`: the source written for a picture, which always fails.
* `Document.Doc.toSource`: a document written back as source, with its style table.
-/

namespace MacroDoc.Document

open Json

/-- How the source written for a document names its styles. -/
inductive StyleNaming where
  /-- Every distinct description gets the next free name. -/
  | byDescription
  /-- Every style by the class of default style it falls in. -/
  | byDefaultClass

/-- The named style descriptions met so far, each under the text of its description. -/
structure StyleTable where
  entries : List (String × String × Value) := []

/-- The named descriptions, by name. -/
def StyleTable.described (t : StyleTable) : Value :=
  .obj (t.entries.map fun (_, name, desc) => (name, desc))

/-- The refusal to read a name of a style that has none. -/
def noStyleName : Fault := Fault.noAttribute "NoneType" "name"

/-- The class of default style a style falls in: 0 for plain paragraphs, 1 and 2 for the
first two heading levels, by the style's own name or its base style's; a style that is not
`Normal` must have a base style. -/
def defaultClass (sheet : Style.Sheet) (s : Style.Definition) : Except Fault Nat :=
  if s.shown == "Normal" then .ok 0
  else match s.basedOn.bind sheet.byId? with
    | none => .error noStyleName
    | some b =>
      if b.shown == "Normal" then .ok 0
      else if s.shown == "Heading 1" || b.shown == "Heading 1" then .ok 1
      else if s.shown == "Heading 2" || b.shown == "Heading 2" then .ok 2
      else .ok 0

/-- The name of a style with a description, and the table after it. -/
def StyleTable.nameFor (t : StyleTable) (naming : StyleNaming) (sheet : Style.Sheet)
    (s : Style.Definition) (desc : Value) : Except Fault (String × StyleTable) :=
  match naming with
  | .byDefaultClass => do
    let key := toString (← defaultClass sheet s)
    match t.entries.find? (·.1 == key) with
    | some (_, name, _) => .ok (name, t)
    | none => .error ⟨.missingKey, key⟩
  | .byDescription =>
    let key := desc.write
    match t.entries.find? (·.1 == key) with
    | some (_, name, _) => .ok (name, t)
    | none =>
      let name := "style" ++ toString t.entries.length
      .ok (name, { entries := t.entries ++ [(key, name, desc)] })

/-- The text of a content item: breaks of every kind are line breaks; pictures and field
codes have none. -/
def Item.plainText : Item → String
  | .text s => s
  | .tab => "\t"
  | .lineBreak => "\n"
  | .breakTo _ => "\n"
  | .picture .. => ""
  | .field _ => ""
  | .instruction _ => ""
  | .other _ => ""

/-- The text of a run. -/
def Run.plainText (r : Run) : String := String.join (r.items.map Item.plainText)

/-- A field list with a switch added at its end, unless the key is present or the switch is
open. -/
def addSwitch (key : String) (v : Option Bool) (fields : List (String × Value)) :
    List (String × Value) :=
  if fields.any (·.1 == key) then fields
  else match v with
    | some b => fields ++ [(key, .bool b)]
    | none => fields

/-- The description of a run's character style, with the run's own italic and bold settings
where the style leaves them open. -/
def describeRunStyle (s : Style.Definition) (r : Run) : Except Fault Value := do
  Style.meet s.readFaults.font
  let fields := match s.font.describe with
    | .obj fs => fs
    | _ => []
  return .obj [("is_paragraph", .bool false),
        ("font", .obj (addSwitch "bold" r.bold (addSwitch "italic" r.italic fields)))]

/-- The source of a run of a character style: a `run-styled` block holding the text as one
indented line. -/
def runMacro (name text : String) : String :=
  "(run-styled " ++ name ++ "\n    " ++ text ++ "\n)\n"

/-- The line that opens the source of a paragraph of a style. -/
def paragraphOpening (name : String) : String := "(paragraph-styled " ++ name ++ "\n"

/-- The line that closes the source of a paragraph. -/
def paragraphClosing : String := ")\n"

/-- The source of a paragraph of a style around the source of what it holds. -/
def paragraphMacro (name inner : String) : String :=
  paragraphOpening name ++ inner ++ paragraphClosing

/-- The value of a name of the writer that was never given one: looking it up fails. -/
def unboundName (name : String) : Except Fault String := .error (Fault.notDefined name)

/-- The source written for a picture at a path: `(img`, the path between two quote marks,
`)` and a line end, the quote mark and the line end being the values of two names of the
writer. Neither name is ever given a value, so writing the source always fails, at the first
quote mark. -/
def imageMacro (path : String) : Except Fault String := do
  let quote ← unboundName "_qt"
  let lineEnd ← unboundName "_nl"
  return "(img " ++ quote ++ path ++ quote ++ ")" ++ lineEnd

namespace Doc

/-- The source of one run, and the table after it. -/
def runSource (d : Doc) (naming : StyleNaming) (t : StyleTable) (r : Run) :
    Except Fault (String × StyleTable) := do
  let (name, t) ← match ← d.sheet.resolveRef .character r.style with
    | none => pure ("paragraph", t)
    | some s => do t.nameFor naming d.sheet s (← describeRunStyle s r)
  return (runMacro name r.plainText, t)

/-- The source of the runs of a paragraph, and the table after them. -/
def runsSource (d : Doc) (naming : StyleNaming) : StyleTable → List Run →
    Except Fault (String × StyleTable)
  | t, [] => .ok ("", t)
  | t, r :: rest => do
    let (first, t) ← d.runSource naming t r
    let (more, t) ← d.runsSource naming t rest
    return (first ++ more, t)

/-- The source of one paragraph, and the table after it. -/
def paragraphSource (d : Doc) (naming : StyleNaming) (t : StyleTable) (p : Paragraph) :
    Except Fault (String × StyleTable) := do
  let s ← match ← d.sheet.resolveRef .paragraph p.style with
    | some s => pure s
    | none => .error noStyleName
  let (name, t) ← t.nameFor naming d.sheet s (← s.describePara d.sheet)
  let pageBreak := if s.para.pageBreakBefore == some true then "(page-break)\n" else ""
  let (runs, t) ← d.runsSource naming t p.runs
  return (paragraphMacro name (pageBreak ++ runs), t)

/-- The document written back as source, with the table of its styles. -/
def toSource (d : Doc) (naming : StyleNaming) : Except Fault (String × StyleTable) :=
  d.paragraphs.foldlM (fun (acc : String × StyleTable) p => do
    let (text, t) ← d.paragraphSource naming acc.2 p
    return (acc.1 ++ text, t)) ("", {})

end Doc

end MacroDoc.Document
