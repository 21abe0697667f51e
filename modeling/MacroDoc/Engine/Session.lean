import MacroDoc.Engine.Machine
import MacroDoc.Document.Compose
import MacroDoc.Document.Package
import MacroDoc.Style.Template
import MacroDoc.Text.Utf8

/-!
# Converting a source

A source is converted into one document or more. Reading starts in a new document that
has the default styles. When a block asks for a document to be appended, the reading of the
current document ends; the document named is taken as it is, and the rest of the source is
read into another new document with the default styles. The documents are then joined in
order.

Each new document starts afresh: its line numbers count from one, no sink but the body
is open, and no macro has been seen. Everything else carries on across documents: the
numbering counters, the next picture number, the list and caption prefixes, the working
directory and what has been printed.

A file named for appending is read as a document package (see `Document.readPackage`),
its refusals naming the path as it was shown.

## Main definitions

* `Engine.Setup`: what a conversion starts from.
* `Engine.Result`: what it gives.
* `Engine.convert`: convert a source text.
* `Engine.convertChunked`: convert a source file read piece by piece.
-/

namespace MacroDoc.Engine

/-- What a conversion starts from: how lines are read, the default styles with the prefixes
they set, the file tree, and the calls open when the conversion starts, its own included. -/
structure Setup where
  layout : Layout
  defaults : Style.Loaded
  files : Files.Tree
  calls : Nat

/-- What a conversion gives: the documents in order, and the world as the reading left it. -/
structure Result where
  docs : List Document.Doc
  world : World

/-- The styles of a new document: the built-in ones with the default styles taken in. -/
def Setup.freshSheet (s : Setup) : Except Fault Style.Sheet :=
  Style.builtinSheet.adopt s.defaults.sheet

/-- The document package at components of the file tree: one built in place, or one read
from the file's bytes. -/
def packageAt (t : Files.Tree) (shown : String) (comps : List String) :
    Except Fault Document.Doc :=
  match t.find? comps with
  | some (.package d _) => .ok d
  | some (.bytes data) => do return (← Document.readPackage shown data).doc
  | none => .error (Files.missing shown)

/-- Read lines into documents, starting from a world, one document per reading; a new
document has the styles `fresh`, and the fuel bounds the number of readings. `unreadable` is
the fault met when reading the source past the lines. -/
def readDocuments (s : Setup) (fresh : Style.Sheet) (unreadable : Option Fault) :
    Nat → World → List String → Except Failure Result
  | 0, w, _ => .ok ⟨[w.doc], w⟩
  | fuel + 1, w, lines =>
    match ({ world := w, calls := s.calls + 1 } : Machine).run s.layout unreadable lines with
    | .error e => .error e
    | .ok (w, rest) =>
      match w.appendTarget with
      | none => .ok ⟨[w.doc], w⟩
      | some (shown, comps) =>
        match packageAt w.files shown comps with
        | .error f => .error (.raised f w.output)
        | .ok appended =>
          let next : World := { w with doc := { sheet := fresh }, sinks := [.body], sink := 0,
                                       macroName := none, appendTarget := none }
          match readDocuments s fresh unreadable fuel next rest with
          | .error e => .error e
          | .ok r => .ok ⟨w.doc :: appended :: r.docs, r.world⟩

/-- The world a conversion starts in, with a new document of the styles `fresh`. -/
def Setup.startWorld (s : Setup) (fresh : Style.Sheet) : World :=
  { doc := { sheet := fresh }, prefixes := s.defaults.prefixes, files := s.files }

/-- The styles of a new document, or the refusal met taking in the default styles, raised
before anything is read. -/
def Setup.freshOrFail (s : Setup) : Except Failure Style.Sheet :=
  s.freshSheet.mapError (Failure.raised · [])

/-- Convert a source text into documents. -/
def convert (s : Setup) (text : String) : Except Failure Result := do
  let fresh ← s.freshOrFail
  let lines := Text.fileLines (Text.unifyNewlines text.toList)
  readDocuments s fresh none (lines.length + 1) (s.startWorld fresh) lines

/-- Convert a source file read piece by piece. When a piece cannot be read, the lines of the
pieces before it that are complete are read, and reading past them meets the fault. -/
def convertChunked (s : Setup) (source : Text.ChunkedText) : Except Failure Result := do
  let fresh ← s.freshOrFail
  let lines := Text.fileLines source.text.toList
  match source.fault with
  | none => readDocuments s fresh none (lines.length + 1) (s.startWorld fresh) lines
  | some f =>
    let complete := if (lines.getLast?.map (·.endsWith "\n")).getD true then lines
      else lines.dropLast
    readDocuments s fresh (some ⟨.badEncoding, f.message⟩) (complete.length + 1)
      (s.startWorld fresh) complete

/-- The joined document of a conversion. -/
def Result.joined (r : Result) : Except Fault Document.Doc := do
  return (← Document.Doc.joinAll r.docs).getD r.world.doc

end MacroDoc.Engine
