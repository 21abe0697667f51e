import MacroDoc.Style.Query
import MacroDoc.Fault
import MacroDoc.Text.Xml

/-!
# Documents

A document is a style sheet and a body: a sequence of paragraphs and tables. A paragraph
has a style, perhaps an alignment of its own, and runs; a run has a character style,
perhaps bold or italic settings of its own, and content items: text, tabs, line breaks,
page breaks, pictures and field codes. A table is rows of cells, and each cell holds
blocks (a document read back may have tables in cells); a new cell holds one empty
paragraph.

Paragraphs and runs refer to styles by identifier. A style is given by name or by
position in the sheet; the default style of a type is referred to by no identifier at
all, and a style of the wrong type is refused.

Text put into a run is split into items: a tab becomes a tab item, a line feed or carriage
return a line break, and the rest text, which must be text a document can store.

## Main definitions

* `Document.Item`, `Document.Run`, `Document.Paragraph`, `Document.Block`, `Document.Doc`.
* `Document.itemsOfText`: the items of a text.
* `Document.Doc.styleRef`: how a paragraph or run refers to a style.
* `Document.Doc.addParagraph`, `Document.Doc.addRunToLast`, `Document.Doc.addTable`.
* `Document.Place`, `Document.Doc.modifyParagraph`: paragraphs in the body and in cells.
-/

namespace MacroDoc.Document

/-- A content item of a run. -/
inductive Item where
  /-- Text without tabs or line breaks. -/
  | text (s : String)
  | tab
  /-- A break to the next line. -/
  | lineBreak
  /-- A break of another kind than to the next line: to the next page, column, … -/
  | breakTo (kind : String)
  /-- A picture of the given extent in EMU. -/
  | picture (cx cy : Int)
  /-- A mark of a field: its start, the end of its instruction, or its end; a mark of no
  kind is possible in a document read back. -/
  | field (kind : Option String)
  /-- The instruction of a field. -/
  | instruction (s : String)
  /-- Content of another kind, by the local name of its element. -/
  | other (name : String)
  deriving DecidableEq, Repr

/-- A break to the next page. -/
def Item.pageBreak : Item := .breakTo "page"

/-- The start of a field. -/
def Item.fieldBegin : Item := .field (some "begin")

/-- The end of a field. -/
def Item.fieldEnd : Item := .field (some "end")

/-- A run: content with one character format. -/
structure Run where
  /-- The identifier of the character style; none for the default. -/
  style : Option String := none
  /-- Bold set on the run itself. -/
  bold : Option Bool := none
  /-- Italic set on the run itself. -/
  italic : Option Bool := none
  items : List Item := []
  /-- The refusal a reader meets reading the content and the settings of a run read back
  from a stored document, if there is one. -/
  readFault : Option Fault := none
  deriving DecidableEq, Repr

/-- A paragraph. -/
structure Paragraph where
  /-- The identifier of the paragraph style; none for the default. -/
  style : Option String := none
  /-- An alignment set on the paragraph itself. -/
  align : Option Style.Justification := none
  runs : List Run := []
  deriving DecidableEq, Repr

/-- A block of a body or of a table cell: a paragraph, or a table given as its rows of
cells, each cell a list of blocks. -/
inductive Block where
  | paragraph (p : Paragraph)
  | table (rows : List (List (List Block)))
  deriving Repr

mutual

/-- Every paragraph of a block, in a table those of its cells, in order. -/
def Block.paragraphs : Block → List Paragraph
  | .paragraph p => [p]
  | .table rows => rowsParagraphs rows

/-- Every paragraph of the rows of a table, in order. -/
def rowsParagraphs : List (List (List Block)) → List Paragraph
  | [] => []
  | row :: rest => cellsParagraphs row ++ rowsParagraphs rest

/-- Every paragraph of the cells of a row, in order. -/
def cellsParagraphs : List (List Block) → List Paragraph
  | [] => []
  | cell :: rest => blocksParagraphs cell ++ cellsParagraphs rest

/-- Every paragraph of a list of blocks, in order. -/
def blocksParagraphs : List Block → List Paragraph
  | [] => []
  | b :: rest => b.paragraphs ++ blocksParagraphs rest

end

mutual

/-- A block with every paragraph changed, those in its cells too. -/
def Block.mapParagraphs (f : Paragraph → Paragraph) : Block → Block
  | .paragraph p => .paragraph (f p)
  | .table rows => .table (mapRowParagraphs f rows)

/-- The rows of a table with every paragraph changed. -/
def mapRowParagraphs (f : Paragraph → Paragraph) :
    List (List (List Block)) → List (List (List Block))
  | [] => []
  | row :: rest => mapCellParagraphs f row :: mapRowParagraphs f rest

/-- The cells of a row with every paragraph changed. -/
def mapCellParagraphs (f : Paragraph → Paragraph) : List (List Block) → List (List Block)
  | [] => []
  | cell :: rest => mapBlockParagraphs f cell :: mapCellParagraphs f rest

/-- A list of blocks with every paragraph changed. -/
def mapBlockParagraphs (f : Paragraph → Paragraph) : List Block → List Block
  | [] => []
  | b :: rest => b.mapParagraphs f :: mapBlockParagraphs f rest

end

/-- A document: its styles and its body. A document read back may have a body that cannot
be walked; the fault is met when the body is. -/
structure Doc where
  sheet : Style.Sheet
  body : List Block := []
  bodyFault : Option Fault := none
  deriving Repr

/-- Split characters into items, the pending text (reversed) carried along. -/
def splitItems : List Char → List Char → List Item
  | [], [] => []
  | [], pending => [.text (String.ofList pending.reverse)]
  | c :: rest, pending =>
    let special : Option Item :=
      if c == '\t' then some .tab
      else if c == '\n' || c == '\r' then some .lineBreak
      else none
    match special with
    | none => splitItems rest (c :: pending)
    | some item =>
      let flushed := if pending.isEmpty then [] else [Item.text (String.ofList pending.reverse)]
      flushed ++ item :: splitItems rest []

/-- Refuse a text item the document cannot store. -/
def checkItem : Item → Except Fault Unit
  | .text t => Text.checkStorable t 0
  | _ => .ok ()

/-- The items of a text. Each stretch of text between tabs and line breaks is stored on its
own, in order, so each is checked on its own (see `Text.checkStorable`). -/
def itemsOfText (s : String) : Except Fault (List Item) := do
  let items := splitItems s.toList []
  items.forM checkItem
  return items

/-- A run of a text: text is set only when it is not empty. -/
def Run.ofText (text : Option String) : Except Fault Run :=
  match text with
  | some s => if s.isEmpty then .ok {} else do return { items := ← itemsOfText s }
  | none => .ok {}

/-- The refusal of a style of the wrong type. -/
def wrongKind (actual wanted : Style.StyleKind) : Fault :=
  Fault.badValue ("assigned style is type " ++ actual.label ++ ", need type " ++ wanted.label)

namespace Doc

/-- How a paragraph or run of a type refers to the style at a position: by its identifier,
or by none for the default style of the type. -/
def styleRef (d : Doc) (kind : Style.StyleKind) (i : Nat) : Except Fault (Option String) :=
  match d.sheet[i]? with
  | none => .ok none
  | some s =>
    if s.kind != kind then .error (wrongKind s.kind kind)
    else
      let defaults := (d.sheet.zipIdx.filter (fun p => p.1.kind == kind && p.1.isDefault))
      if (defaults.getLast?.map (·.2)) == some i then .ok none else .ok (some s.styleId)

/-- The position of the style a key names, or the refusal of a missing style. -/
def styleIndex (d : Doc) (key : String) : Except Fault Nat := d.sheet.find key

/-- How a paragraph or run of a type refers to the style a key names. -/
def styleRefByName (d : Doc) (kind : Style.StyleKind) (key : String) :
    Except Fault (Option String) := do
  d.styleRef kind (← d.styleIndex key)

/-- A new paragraph with a text and a style given by name: a run is added only for text
that is not empty, and the text is checked before the style. -/
def newParagraph (d : Doc) (text : Option String) (style : Option String) :
    Except Fault Paragraph := do
  let runs ← match text with
    | some s => if s.isEmpty then pure [] else do pure [← Run.ofText (some s)]
    | none => pure []
  let ref ← match style with
    | some key => d.styleRefByName .paragraph key
    | none => pure none
  return { style := ref, runs }

/-- Add a paragraph at the end of the body. -/
def addParagraph (d : Doc) (text : Option String) (style : Option String) : Except Fault Doc := do
  let p ← d.newParagraph text style
  return { d with body := d.body ++ [.paragraph p] }

/-- The paragraphs of the body, without those in tables. -/
def paragraphs (d : Doc) : List Paragraph :=
  d.body.filterMap fun
    | .paragraph p => some p
    | .table _ => none

/-- The body with its last paragraph changed; `none` when it has no paragraph. -/
def modifyLastParagraph (body : List Block) (f : Paragraph → Paragraph) : Option (List Block) :=
  match body.reverse.findIdx? (fun | .paragraph _ => true | .table _ => false) with
  | none => none
  | some j =>
    let i := body.length - 1 - j
    some (body.modify i fun
      | .paragraph p => .paragraph (f p)
      | b => b)

/-- Add a run to the last paragraph of the body. -/
def addRunToLast (d : Doc) (run : Run) : Except Fault Doc :=
  match modifyLastParagraph d.body (fun p => { p with runs := p.runs ++ [run] }) with
  | some body => .ok { d with body }
  | none => .error Fault.indexOutOfRange

/-- Add a page break: a paragraph of the default style with one run holding the break. -/
def addPageBreak (d : Doc) : Doc :=
  { d with body := d.body ++ [.paragraph { runs := [{ items := [.pageBreak] }] }] }

/-- Add a table of empty cells; a negative count counts as none. -/
def addTable (d : Doc) (rows cols : Int) : Doc :=
  let cell : List Block := [.paragraph {}]
  let row := List.replicate cols.toNat cell
  { d with body := d.body ++ [.table (List.replicate rows.toNat row)] }

end Doc

/-- Where a paragraph stands: in the body, or in a cell of a table of the body. -/
inductive Place where
  | body (index : Nat)
  | cell (block row col index : Nat)
  deriving DecidableEq, Repr

namespace Doc

/-- The paragraphs of a list of blocks, tables left out. -/
def paragraphsOf (blocks : List Block) : List Paragraph :=
  blocks.filterMap fun
    | .paragraph p => some p
    | .table _ => none

/-- The paragraphs of a cell of the table at a position of the body. The cells of tables the
program makes hold paragraphs only. -/
def cellParagraphs? (d : Doc) (block row col : Nat) : Option (List Paragraph) :=
  match d.body[block]? with
  | some (.table rows) => ((rows[row]?).bind (·[col]?)).map paragraphsOf
  | _ => none

/-- The document with the paragraphs of a cell replaced. -/
def setCellParagraphs (d : Doc) (block row col : Nat) (ps : List Paragraph) : Doc :=
  { d with body := d.body.modify block fun
      | .table rows => .table (rows.modify row (fun r => r.modify col (fun _ => ps.map .paragraph)))
      | b => b }

/-- The document with the paragraph at a place changed. -/
def modifyParagraph (d : Doc) (place : Place) (f : Paragraph → Paragraph) : Doc :=
  match place with
  | .body i => { d with body := d.body.modify i fun
      | .paragraph p => .paragraph (f p)
      | b => b }
  | .cell block row col i =>
    match d.cellParagraphs? block row col with
    | some ps => d.setCellParagraphs block row col (ps.modify i f)
    | none => d

/-- Add a run to the paragraph at a place. -/
def addRunAt (d : Doc) (place : Place) (run : Run) : Doc :=
  d.modifyParagraph place fun p => { p with runs := p.runs ++ [run] }

end Doc

/-- A run of a text with a character style given by position, checked in that order. -/
def Doc.newRun (d : Doc) (text : Option String) (style : Option Nat) : Except Fault Run := do
  let run ← Run.ofText text
  match style with
  | some i => return { run with style := ← d.styleRef .character i }
  | none => return run

end MacroDoc.Document
