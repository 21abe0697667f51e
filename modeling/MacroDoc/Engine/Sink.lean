import MacroDoc.Document.Basic
import MacroDoc.Engine.Counters
import MacroDoc.Files.Tree
import MacroDoc.Style.Load
import MacroDoc.Json.Show

/-!
# Sinks

Blocks do not write into the document directly but into the current *sink*, which decides
where paragraphs and runs go:

* the body sink adds paragraphs to the end of the body and runs to its last paragraph;
* a cell sink writes into a table cell: its first paragraph replaces the text and style of
  the cell's own empty paragraph, and its first run goes to that paragraph; later
  paragraphs are added to the cell and later runs to its last paragraph;
* a data sink, open while a data file is read, passes everything on to the sink it was
  opened in;
* a numbering sink puts the next number prefix before the text of the one paragraph it
  takes, and passes everything on.

Sinks are kept in a list and refer to the sink they pass on to by position, so that blocks
that open a sink can restore the one before it. Everything blocks act on lives in the
`World`: the document, the sinks, the counters, the picture numbers, the prefixes, the file
tree and the printed lines.

## Main definitions

* `Engine.Sink`, `Engine.World`.
* `Engine.World.addParagraph`, `Engine.World.addRun`: write through a sink.
* `Engine.World.owner`: whose paragraphs a sink sees.
-/

namespace MacroDoc.Engine

open Json

/-- A sink. -/
inductive Sink where
  /-- Writes into the body. -/
  | body
  /-- Writes into a cell of the table at a position of the body. -/
  | cell (block row col : Nat) (firstAdded : Bool)
  /-- Holds the data of a data file and passes everything on. -/
  | data (values : Value) (prev : Nat)
  /-- Numbers the one paragraph it takes and passes everything on. -/
  | numbered (erasing : Bool) (labels : List String) (prev : Nat) (taken : Bool)

/-- The name a sink goes by in messages. -/
def Sink.typeName : Sink → String
  | .body => "GdocxStateReceiver"
  | .cell .. => "TableCellReceiver"
  | .data .. => "JsonReaderReceiver"
  | .numbered .. => "NumberedReceiver"

/-- Whose paragraphs a sink sees: the body's or a cell's. -/
inductive Owner where
  | body
  | cell (block row col : Nat)

/-- Everything blocks act on. -/
structure World where
  doc : Document.Doc
  sinks : List Sink := [.body]
  sink : Nat := 0
  counters : Counters := {}
  /-- The name of the last macro opened in the current document. -/
  macroName : Option String := none
  /-- The number the next picture caption gets. -/
  captionNext : Nat := 1
  prefixes : Style.Prefixes
  files : Files.Tree
  /-- The lines printed so far, in order. -/
  output : List String := []
  /-- The document to append, once a block asks for one: how it is shown and where it is. -/
  appendTarget : Option (String × List String) := none

namespace World

/-- The sink at a position. -/
def sinkAt (w : World) (i : Nat) : Sink := w.sinks.getD i .body

/-- Open a new sink and make it current. -/
def openSink (w : World) (s : Sink) : World :=
  { w with sinks := w.sinks ++ [s], sink := w.sinks.length }

/-- Replace the sink at a position. -/
def setSink (w : World) (i : Nat) (s : Sink) : World :=
  { w with sinks := w.sinks.set i s }

/-- Print a line. -/
def print (w : World) (line : String) : World := { w with output := w.output ++ [line] }

/-- Whose paragraphs the sink at a position sees. -/
def owner (w : World) : Nat → Nat → Owner
  | 0, _ => .body
  | fuel + 1, i =>
    match w.sinkAt i with
    | .body => .body
    | .cell block row col _ => .cell block row col
    | .data _ prev => w.owner fuel prev
    | .numbered _ _ prev _ => w.owner fuel prev

/-- The paragraphs an owner has. -/
def ownerParagraphs (w : World) : Owner → List Document.Paragraph
  | .body => w.doc.paragraphs
  | .cell block row col => (w.doc.cellParagraphs? block row col).getD []

/-- Add a run to the last paragraph of an owner. -/
def addRunToOwner (w : World) (o : Owner) (run : Document.Run) : Except Fault World :=
  match o with
  | .body => do return { w with doc := ← w.doc.addRunToLast run }
  | .cell block row col =>
    match w.doc.cellParagraphs? block row col with
    | some ps =>
      if ps.isEmpty then .error Fault.indexOutOfRange
      else .ok { w with doc := w.doc.addRunAt (.cell block row col (ps.length - 1)) run }
    | none => .error Fault.indexOutOfRange

/-- The prefix a numbering sink puts before its paragraph, and the world after it. -/
def numberPrefix (w : World) (erasing : Bool) (labels : List String) :
    Except Fault (String × World) :=
  if erasing then
    .error (Fault.badValue ("numbered is in erasing state.It means, that it is created just " ++
      "for zero-ing out a number for some macro-name|label. You must not put contents in " ++
      "such a macro"))
  else do
    let labels := if labels.isEmpty then [w.macroName.getD ""] else labels
    let (text, counters) ← w.counters.prefixFor labels
    return (text, { w with counters })

/-- Add a paragraph of a text and a style given by name through the sink at a position;
gives the place of the paragraph. -/
def addParagraph (w : World) : Nat → Nat → Option String → Option String →
    Except Fault (World × Document.Place)
  | 0, _, _, _ => .error Fault.indexOutOfRange
  | fuel + 1, i, text, style =>
    match w.sinkAt i with
    | .body => do
      let p ← w.doc.newParagraph text style
      let place := Document.Place.body w.doc.body.length
      return ({ w with doc := { w.doc with body := w.doc.body ++ [.paragraph p] } }, place)
    | .cell block row col firstAdded =>
      if !firstAdded then do
        let run ← Document.Run.ofText text
        let ref ← match style with
          | some key => w.doc.styleRefByName .paragraph key
          | none => pure none
        let doc := w.doc.modifyParagraph (.cell block row col 0)
          (fun p => { p with runs := [run], style := ref })
        let w := { w with doc }
        return (w.setSink i (.cell block row col true), .cell block row col 0)
      else do
        let p ← w.doc.newParagraph text style
        let ps := (w.doc.cellParagraphs? block row col).getD []
        let doc := w.doc.setCellParagraphs block row col (ps ++ [p])
        return ({ w with doc }, .cell block row col ps.length)
    | .data _ prev => w.addParagraph fuel prev text style
    | .numbered erasing labels prev taken =>
      if taken then .error (Fault.badValue "NumberedReceiver is supporting only 1 macro inside")
      else do
        let w := w.setSink i (.numbered erasing labels prev true)
        let (pre, w) ← w.numberPrefix erasing labels
        match text with
        | none => .error (Fault.badType "can only concatenate str (not \"NoneType\") to str")
        | some t => w.addParagraph fuel prev (some (pre ++ " " ++ t)) style

/-- Add a run of a text and a character style given by position through the sink at a
position. -/
def addRun (w : World) : Nat → Nat → Option String → Option Nat → Except Fault World
  | 0, _, _, _ => .error Fault.indexOutOfRange
  | fuel + 1, i, text, style =>
    match w.sinkAt i with
    | .body => do
      if w.doc.paragraphs.isEmpty then .error Fault.indexOutOfRange
      else
        let run ← w.doc.newRun text style
        return { w with doc := ← w.doc.addRunToLast run }
    | .cell block row col firstAdded => do
      let run ← w.doc.newRun text style
      if !firstAdded then
        let w := { w with doc := w.doc.addRunAt (.cell block row col 0) run }
        return w.setSink i (.cell block row col true)
      else w.addRunToOwner (.cell block row col) run
    | .data _ prev => w.addRun fuel prev text style
    | .numbered _ _ prev _ => w.addRun fuel prev text style

/-- The fuel that follows every chain of sinks to its end. -/
def fuel (w : World) : Nat := w.sinks.length + 1

/-- Add a paragraph through the current sink. -/
def addParagraphHere (w : World) (text style : Option String) :
    Except Fault (World × Document.Place) :=
  w.addParagraph w.fuel w.sink text style

/-- Add a run through the current sink. -/
def addRunHere (w : World) (text : Option String) (style : Option Nat) : Except Fault World :=
  w.addRun w.fuel w.sink text style

/-- Whose paragraphs the current sink sees. -/
def ownerHere (w : World) : Owner := w.owner w.fuel w.sink

end World

end MacroDoc.Engine
