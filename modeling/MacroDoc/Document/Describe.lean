import MacroDoc.Document.Basic
import MacroDoc.Style.Describe

/-!
# Documents as data

A document is described block by block. A paragraph gives the name of the style it resolves
to, its runs, and its own alignment when it sets one; a table gives its rows of cells, each
cell a list of blocks. A run gives the name of its character style, its content, and the
bold and italic settings it makes itself. In content, text, tabs and line breaks are text,
adjacent pieces joined into one; page breaks, pictures and field codes are marked.

The paragraph styles a document uses, in the body and in table cells, are described by
name in code-point order of the names.

## Main definitions

* `Document.Doc.describeBody`: the body as data.
* `Document.Doc.usedStyles`: the paragraph styles used, as data.
* `Document.pageNumberFooter`: the footer that shows the page number.
* `Document.Doc.describe`: the body, footers and used styles together.
-/

namespace MacroDoc.Document

open Json

/-- A name as data, null when there is none. -/
def nameValue : Option String → Value
  | some n => .str n
  | none => .null

/-- A content item as data: text, tabs and line breaks as text. -/
def Item.describe : Item → Value
  | .text s => .str s
  | .tab => .str "\t"
  | .lineBreak => .str "\n"
  | .breakTo kind => .obj [("break", .str kind)]
  | .picture cx cy => .obj [("image", .obj [("cx", .int cx), ("cy", .int cy)])]
  | .field kind => .obj [("field", nameValue kind)]
  | .instruction s => .obj [("instr", .str s)]
  | .other name => .obj [("other", .str name)]

/-- Join adjacent texts of a content list. -/
def joinTexts : List Value → List Value
  | [] => []
  | v :: rest =>
    match v, joinTexts rest with
    | .str a, .str b :: more => .str (a ++ b) :: more
    | v, more => v :: more


namespace Doc

/-- The shown name of the style a reference of a type resolves to. -/
def styleName (d : Doc) (kind : Style.StyleKind) (ref : Option String) :
    Except Fault (Option String) := do
  return (← d.sheet.resolveRef kind ref).map (·.shown)

/-- A run as data: its style is read first, then its content and its own settings. -/
def describeRun (d : Doc) (r : Run) : Except Fault Value := do
  let style ← d.styleName .character r.style
  Style.meet r.readFault
  return .obj ([("style", nameValue style),
         ("content", .arr (joinTexts (r.items.map Item.describe)))] ++
    Style.optionalField "bold" Value.bool r.bold ++
    Style.optionalField "italic" Value.bool r.italic)

/-- A paragraph as data. -/
def describeParagraph (d : Doc) (p : Paragraph) : Except Fault Value := do
  let style ← d.styleName .paragraph p.style
  let runs ← p.runs.mapM d.describeRun
  let align := match p.align with
    | some (.known a) => [("align", Value.str a.name)]
    | _ => []
  return .obj [("p", .obj ([("style", nameValue style), ("runs", .arr runs)] ++ align))]

mutual

/-- A block as data; a table as its rows of cells, each cell as its blocks. -/
def describeBlock (d : Doc) : Block → Except Fault Value
  | .paragraph p => d.describeParagraph p
  | .table rows => do return .obj [("table", .arr (← d.describeRows rows))]

/-- The rows of a table as data. -/
def describeRows (d : Doc) : List (List (List Block)) → Except Fault (List Value)
  | [] => .ok []
  | row :: rest => do
    let first ← d.describeCells row
    return .arr first :: (← d.describeRows rest)

/-- The cells of a row as data. -/
def describeCells (d : Doc) : List (List Block) → Except Fault (List Value)
  | [] => .ok []
  | cell :: rest => do
    let first ← d.describeBlocks cell
    return .arr first :: (← d.describeCells rest)

/-- A list of blocks as data. -/
def describeBlocks (d : Doc) : List Block → Except Fault (List Value)
  | [] => .ok []
  | b :: rest => do
    let first ← d.describeBlock b
    return first :: (← d.describeBlocks rest)

end

/-- The body as data. -/
def describeBody (d : Doc) : Except Fault Value := do return .arr (← d.describeBlocks d.body)

/-- Every paragraph of the body and of its table cells, in order. -/
def allParagraphs (d : Doc) : List Paragraph := d.body.flatMap Block.paragraphs

/-- The paragraph styles the document uses, each under its shown name, the last style of a
name winning, in code-point order of the names. -/
def usedStyles (d : Doc) : Except Fault (List (String × Style.Definition)) := do
  let found ← d.allParagraphs.mapM (fun p => d.sheet.resolveRef .paragraph p.style)
  let used := found.filterMap id |>.map (fun s => (s.shown, s))
  let names := (used.map (·.1)).eraseDups.mergeSort (fun a b => decide (a ≤ b))
  return names.filterMap fun n => ((used.reverse.find? (·.1 == n)).map (fun p => (n, p.2)))

/-- The paragraph styles the document uses, as data. -/
def describeUsedStyles (d : Doc) : Except Fault Value := do
  return .obj (← (← d.usedStyles).mapM fun (n, s) => do return (n, ← s.describePara d.sheet))

end Doc

/-- The footer paragraph that shows the page number: a centred paragraph of the footer
style holding a page-number field. -/
def pageNumberFooter : Paragraph :=
  { style := some "Footer", align := some (.known .center),
    runs := [{ items := [.fieldBegin, .instruction "PAGE", .fieldEnd] }] }

/-- The footers of a document as data: one section, whose footer shows the page number. -/
def Doc.describeFooters (d : Doc) : Except Fault Value := do
  return .arr [.arr [← d.describeParagraph pageNumberFooter]]

/-- A document as data: its body, its footers and the paragraph styles it uses, described in
that order. -/
def Doc.describe (d : Doc) : Except Fault Value := do
  let body ← d.describeBody
  let footer ← d.describeFooters
  let styles ← d.describeUsedStyles
  return .obj [("body", body), ("footer", footer), ("styles", styles)]

end MacroDoc.Document
