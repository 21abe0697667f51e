import MacroDoc.Proofs.FaultReports

/-!
# A source cut at its `doc` macros

A `doc` macro asks for a document to be appended. The reading of the current document ends
there, the document the macro names is taken as it is, and the rest of the source is read
into a new document by a new reading, whose line numbers start again from one. The
documents are joined in the order they were made.

This module proves that a conversion is the composition of its pieces. Cut a source at its
`doc` macros, each standing outside every block, so that each piece between them is a
sequence of trees of macros, read the way the reader reads them. The documents of the
conversion are then, in order, the document each piece makes by itself, evaluated from the
top with no line counted, and the document each `doc` macro names. A piece after a `doc`
macro is read in a new document that has the default styles and nothing else: styles loaded
from a style file by an earlier piece are gone. Everything else in the world carries on from
one piece to the next: the numbering counters, the next picture number, the prefixes, the
working directory and the printed lines.

## Main definitions

* `Engine.Node.AppendMacro`: a `doc` macro outside every block, naming a path.
* `Engine.Setup.Composes`: a source cut into pieces, with the documents the pieces make.

## Main results

* `Engine.Machine.run_appendMacro`: reading a `doc` macro ends the reading, asking for the
  file it names.
* `Engine.readDocuments_of_composes`: the readings of a source cut into pieces give the
  documents of the pieces.
* `Engine.convert_composes`: a conversion gives the documents of its pieces, in order.
* `Engine.convert_loaded_style_lost`: a style loaded before a `doc` macro is not in the
  document after it.
-/

namespace MacroDoc.Engine

open Markup

/-- A line, read with `depth` blocks open, is a macro line of the given shape whose words
are `words`. -/
def Layout.ReadsWords (layout : Layout) (depth : Nat) (shape : Shape) (line : String)
    (words : List String) : Prop :=
  ∃ info, layout.readAt depth line = .ok info ∧ info.kind = .macroLine ∧
    Shape.ofLine? info.text = some shape ∧ splitArgs info.text = words

/-- A `doc` macro outside every block that names a path: a one-line macro, or an opening
line followed at once by its closing line. Words after the path are not looked at. -/
inductive Node.AppendMacro (layout : Layout) (path : String) : Node → Prop
  | leaf {line : String} {more : List String} :
      layout.ReadsWords 0 .oneLine line (BlockKind.appendDocument.name :: path :: more) →
      AppendMacro layout path (.leaf line)
  | block {opening closing : String} {more : List String} :
      layout.ReadsWords 0 .opening opening (BlockKind.appendDocument.name :: path :: more) →
      layout.ReadsAs 1 .closing closing → AppendMacro layout path (.block opening [] closing)

/-- The world once a `doc` macro has asked for the file at a path, found at components:
the macro is remembered as the last one seen, and the file is shown from the working
directory. -/
def World.askingFor (w : World) (path : String) (comps : List String) : World :=
  { w with macroName := some BlockKind.appendDocument.name,
           appendTarget := some (w.files.absolute path, comps) }

@[simp] theorem World.askingFor_files (w : World) (path : String) (comps : List String) :
    (w.askingFor path comps).files = w.files := rfl

@[simp] theorem World.askingFor_doc (w : World) (path : String) (comps : List String) :
    (w.askingFor path comps).doc = w.doc := rfl

@[simp] theorem World.askingFor_appendTarget (w : World) (path : String) (comps : List String) :
    (w.askingFor path comps).appendTarget = some (w.files.absolute path, comps) := rfl

@[simp] theorem World.askingFor_output (w : World) (path : String) (comps : List String) :
    (w.askingFor path comps).output = w.output := rfl

/-- The next document starts the same whether or not a document was asked for. -/
@[simp] theorem World.restart_askingFor (w : World) (path : String) (comps : List String)
    (fresh : Style.Sheet) : (w.askingFor path comps).restart fresh = w.restart fresh := rfl

/-- Opening a `doc` block on a path that names a file asks for that file, and changes
nothing else. -/
theorem Frame.start_appendDocument {path : String} {more : List String} {calls : Nat}
    {parent : Frame} {w : World} {comps : List String}
    (hfile : w.files.fileAt? path = .ok (some comps)) :
    Frame.start .appendDocument (path :: more) calls parent w =
      .ok (.appendDocument, parent,
        { w with appendTarget := some (w.files.absolute path, comps) }) := by
  simp only [Frame.start, List.getElem?_cons_zero, bind, Except.bind, hfile]

/-- The block of a `doc` macro line, begun on a path that names a file. -/
theorem beginBlock_appendDocument {calls : Nat} {text path : String} {more : List String}
    {parent : Frame} {w : World} {comps : List String}
    (hwords : splitArgs text = BlockKind.appendDocument.name :: path :: more)
    (hfile : w.files.fileAt? path = .ok (some comps)) :
    beginBlock calls text parent w = .ok (.appendDocument, parent, w.askingFor path comps) := by
  have hkind : BlockKind.ofName? BlockKind.appendDocument.name = some .appendDocument := by
    decide
  rw [beginBlock, hwords]
  dsimp only
  rw [hkind]
  exact Frame.start_appendDocument hfile

namespace Machine

variable {m : Machine} {layout : Layout} {u : Option Fault}

/-- Closing a `doc` block, once the document is asked for, ends the reading. -/
theorem closeInner_appendDocument {rest : List Frame} (h : m.world.appendTarget.isSome) :
    m.closeInner .appendDocument rest = .ok (.stop m.world) := by
  simp [closeInner, Frame.close, h]

/-- Reading a `doc` macro outside every block ends the reading at its last line, asking for
the file it names, with the rest of the lines left unread. -/
theorem run_appendMacro {d : Node} {path : String} {comps : List String}
    (hd : d.AppendMacro layout path) (hf : m.frames = [])
    (hfile : m.world.files.fileAt? path = .ok (some comps)) (rest : List String) :
    m.run layout u (d.lines ++ rest) = .ok (m.world.askingFor path comps, rest) := by
  -- either way the cursor, at the top, opens the `doc` block the same
  have hopen : ∀ {line : String} {shape : Shape} {more : List String},
      layout.ReadsWords 0 shape line (BlockKind.appendDocument.name :: path :: more) →
      m.cursor.openBlock layout m.calls m.frames.length line =
        .ok (.appendDocument, ⟨.top, m.world.askingFor path comps, m.lineNumber + 1⟩) := by
    rintro line shape more ⟨info, hread, -, -, hwords⟩
    have hcur : m.cursor = ⟨.top, m.world, m.lineNumber⟩ := by
      simp [cursor, current, hf]
    rw [hcur, hf, List.length_nil, Cursor.openBlock, hread]
    dsimp only
    rw [beginBlock_appendDocument hwords hfile]
  have hasked : (m.world.askingFor path comps).appendTarget.isSome := rfl
  cases hd with
  | @leaf line more hwords =>
    obtain ⟨info, hread, hkind, hshape, -⟩ := id hwords
    have hread' : layout.readAt m.frames.length line = .ok info := by rw [hf]; exact hread
    rw [Node.lines, List.singleton_append, run, step_oneLine hread' hkind hshape, hopen hwords]
    dsimp only
    rw [closeInner_appendDocument hasked]
    rfl
  | @block opening closing more hwords hclose =>
    obtain ⟨info, hread, hkind, hshape, -⟩ := id hwords
    obtain ⟨cinfo, hcread, hckind, hcshape⟩ := hclose
    have hread' : layout.readAt m.frames.length opening = .ok info := by rw [hf]; exact hread
    simp only [Node.lines, Node.linesOf, List.nil_append, List.cons_append]
    rw [run, step_opening hread' hkind hshape, hopen hwords]
    dsimp only [Except.map]
    -- the closing line is read inside the `doc` block, which it closes
    let m₁ : Machine := m.moveTo ⟨.top, m.world.askingFor path comps, m.lineNumber + 1⟩
    have hcread' : layout.readAt ({ m₁ with frames := .appendDocument :: m₁.frames } : Machine).frames.length
        closing = .ok cinfo := by
      simpa [m₁, hf] using hcread
    rw [run, step_closing hcread' hckind hcshape rfl, closeInner_appendDocument hasked]
    rfl

end Machine

/-- A source read as documents one after another, from a world, with the documents it
gives and the world it ends in. Each piece is a sequence of trees of macros with no `doc`
macro, read the way the reader reads them, and is evaluated from the top, with no line
counted, in the world the piece before it left. Each piece but the last is followed by a
`doc` macro outside every block, which names a file that is read as a document; the piece
after it is read in a new document with the styles `fresh`. -/
inductive Setup.Composes (s : Setup) (fresh : Style.Sheet) :
    World → List String → List Document.Doc → World → Prop
  | last {w : World} {piece : List Node} {c : Cursor} :
      (∀ t ∈ piece, t.Nested s.layout 0) →
      Node.evalOf s.layout (s.calls + 1) 0 piece ⟨.top, w, 0⟩ = .ok c →
      Composes s fresh w (Node.linesOf piece) [c.world.doc] c.world
  | append {w : World} {piece : List Node} {c : Cursor} {d : Node} {path : String}
      {comps : List String} {appended : Document.Doc} {lines : List String}
      {docs : List Document.Doc} {w' : World} :
      (∀ t ∈ piece, t.Nested s.layout 0) →
      Node.evalOf s.layout (s.calls + 1) 0 piece ⟨.top, w, 0⟩ = .ok c →
      d.AppendMacro s.layout path → c.world.files.fileAt? path = .ok (some comps) →
      packageAt c.world.files (c.world.files.absolute path) comps = .ok appended →
      Composes s fresh (c.world.restart fresh) lines docs w' →
      Composes s fresh w (Node.linesOf piece ++ d.lines ++ lines) (c.world.doc :: appended :: docs)
        w'

/-- A piece read from the top is evaluated from the top, and the reading goes on after it
where the evaluation ends. -/
theorem Setup.run_piece {s : Setup} {w : World} {piece : List Node} {u : Option Fault}
    (hnested : ∀ t ∈ piece, t.Nested s.layout 0) (hnone : w.appendTarget = none)
    (rest : List String) :
    (s.machine w).run s.layout u (Node.linesOf piece ++ rest) =
      match Node.evalOf s.layout (s.calls + 1) 0 piece ⟨.top, w, 0⟩ with
      | .error e => .error e
      | .ok c => ((s.machine w).moveTo c).run s.layout u rest :=
  Node.readByEval_linesOf (fun t ht => ⟨hnested t ht, (hnested t ht).readByEval⟩)
    (s.machine w) rfl hnone rest

/-- A piece evaluated from a world that asks for no document leaves one that asks for
none. -/
theorem Setup.piece_appendTarget {s : Setup} {w : World} {piece : List Node} {c : Cursor}
    (hnested : ∀ t ∈ piece, t.Nested s.layout 0) (hnone : w.appendTarget = none)
    (h : Node.evalOf s.layout (s.calls + 1) 0 piece ⟨.top, w, 0⟩ = .ok c) :
    c.world.appendTarget = none :=
  Node.evalOf_world (P := fun w => w.appendTarget = none)
    (fun t ht => (hnested t ht).eval_appendTarget) _ c hnone h

/-- Outside all blocks, a machine moved to where a piece ends has still no block open. -/
theorem Setup.machine_moveTo_frames (s : Setup) (w : World) (c : Cursor) :
    ((s.machine w).moveTo c).frames = [] := rfl

/-- The readings of a source cut into pieces, from a world that asks for no document and
with fuel for every line, give the documents of the pieces and end where the last piece
ends. The induction follows the pieces; each `doc` macro takes at least one line, so the
fuel left covers the lines after it. -/
theorem readDocuments_of_composes {s : Setup} {fresh : Style.Sheet} {w : World}
    {lines : List String} {docs : List Document.Doc} {w' : World}
    (h : s.Composes fresh w lines docs w') :
    ∀ fuel, lines.length < fuel → w.appendTarget = none →
      readDocuments s fresh none fuel w lines = .ok ⟨docs, w'⟩ := by
  induction h with
  | @last w piece c hnested heval =>
    intro fuel hlen hnone
    obtain ⟨fuel, rfl⟩ : ∃ n, fuel = n + 1 := ⟨fuel - 1, by omega⟩
    have hrun := Setup.run_piece (u := none) hnested hnone []
    rw [List.append_nil, heval] at hrun
    rw [readDocuments_succ, hrun]
    simp [Machine.run, Setup.piece_appendTarget hnested hnone heval]
  | @append w piece c d path comps appended lines docs w' hnested heval hd hfile hpackage
      _ ih =>
    intro fuel hlen hnone
    obtain ⟨fuel, rfl⟩ : ∃ n, fuel = n + 1 := ⟨fuel - 1, by omega⟩
    have hrun := Setup.run_piece (u := none) hnested hnone (d.lines ++ lines)
    rw [heval] at hrun
    dsimp only at hrun
    rw [Machine.run_appendMacro hd (Setup.machine_moveTo_frames s w c) hfile lines] at hrun
    -- the `doc` macro takes at least one line
    have hd_lines : 0 < d.lines.length := by
      cases hd <;> simp [Node.lines]
    have hlen' : lines.length < fuel := by
      simp only [List.length_append] at hlen
      omega
    rw [readDocuments_succ, List.append_assoc, hrun]
    simp only [Machine.moveTo_world, World.askingFor_appendTarget, World.askingFor_files,
      World.askingFor_doc, hpackage, World.restart_askingFor]
    rw [ih fuel hlen' rfl]

/-- A conversion whose source is cut into pieces at `doc` macros outside every block gives,
in order, the document of each piece and the document each `doc` macro names. The first
piece is read in the world the conversion starts in; each later one is evaluated from the
top, with its line numbers counted from one again, in a new document with the default
styles and nothing else, and in the world the piece before it left. -/
theorem convert_composes {s : Setup} {text : String} {fresh : Style.Sheet}
    {docs : List Document.Doc} {w : World} (hfresh : s.freshOrFail = .ok fresh)
    (h : s.Composes fresh (s.startWorld fresh) (Text.fileLines (Text.unifyNewlines text.toList))
      docs w) :
    convert s text = .ok ⟨docs, w⟩ := by
  unfold convert
  rw [hfresh]
  exact readDocuments_of_composes h _ (Nat.lt_succ_self _) rfl

/-- The setup of the examples below: the default layout, no default styles, and a file tree
that holds a style file `s.json`, defining a paragraph style `M`, and an empty document
package `b.docx`. -/
def styleAndPackage : Setup :=
  ⟨{}, default, { files := [
    (["s.json"], .bytes "\x7b\"M\": \x7b\"is_paragraph\": true\x7d\x7d".toUTF8),
    (["b.docx"], .package { sheet := [] } true)] }, 0⟩

/-- Two `echo` macros with a document appended between them: the pieces before and after the
`doc` macro each make a document of their own, and what the first printed carries on. -/
theorem echoes_around_appended_document :
    ∃ docs w, styleAndPackage.freshOrFail = .ok Style.builtinSheet ∧
      styleAndPackage.Composes Style.builtinSheet (styleAndPackage.startWorld Style.builtinSheet)
        (Text.fileLines (Text.unifyNewlines "(echo a)\n(doc b.docx)\n(echo b)\n".toList)) docs w ∧
      convert styleAndPackage "(echo a)\n(doc b.docx)\n(echo b)\n" = .ok ⟨docs, w⟩ ∧
      docs.length = 3 ∧ w.output = ["echo:  a", "echo:  b"] := by
  have hfresh : styleAndPackage.freshOrFail = .ok Style.builtinSheet := rfl
  have hlines : Text.fileLines (Text.unifyNewlines "(echo a)\n(doc b.docx)\n(echo b)\n".toList) =
      Node.linesOf [.leaf "(echo a)\n"] ++ (Node.leaf "(doc b.docx)\n").lines ++
        Node.linesOf [.leaf "(echo b)\n"] := by
    decide
  have hfirst : ∀ t ∈ [Node.leaf "(echo a)\n"], t.Nested styleAndPackage.layout 0 :=
    List.forall_mem_singleton.mpr (.leaf ⟨⟨"(echo a)", .macroLine, false, false⟩, rfl, rfl, rfl,
      by decide +kernel⟩)
  have hsecond : ∀ t ∈ [Node.leaf "(echo b)\n"], t.Nested styleAndPackage.layout 0 :=
    List.forall_mem_singleton.mpr (.leaf ⟨⟨"(echo b)", .macroLine, false, false⟩, rfl, rfl, rfl,
      by decide +kernel⟩)
  have hdoc : (Node.leaf "(doc b.docx)\n").AppendMacro styleAndPackage.layout "b.docx" :=
    @Node.AppendMacro.leaf _ _ _ [] ⟨⟨"(doc b.docx)", .macroLine, false, false⟩, rfl, rfl, rfl,
      by decide +kernel⟩
  -- the pieces, the file and the document it holds, as the reader meets them
  have hrun : ((Node.evalOf styleAndPackage.layout 1 0 [.leaf "(echo a)\n"]
      ⟨.top, styleAndPackage.startWorld Style.builtinSheet, 0⟩).toOption.bind fun c =>
    (c.world.files.fileAt? "b.docx").toOption.bind fun found => found.bind fun comps =>
      (packageAt c.world.files (c.world.files.absolute "b.docx") comps).toOption.bind fun _ =>
        (Node.evalOf styleAndPackage.layout 1 0 [.leaf "(echo b)\n"]
          ⟨.top, c.world.restart Style.builtinSheet, 0⟩).toOption.map
            fun c₂ => c₂.world.output) = some ["echo:  a", "echo:  b"] := by
    decide +kernel
  simp only [Option.bind_eq_some_iff, Option.map_eq_some_iff] at hrun
  obtain ⟨c, hc, found, hfound, comps, rfl, appended, hpackage, c₂, hc₂, hout⟩ := hrun
  replace hc := Except.eq_ok_of_toOption hc
  have hfile := Except.eq_ok_of_toOption hfound
  replace hpackage := Except.eq_ok_of_toOption hpackage
  replace hc₂ := Except.eq_ok_of_toOption hc₂
  have hcomposes : styleAndPackage.Composes Style.builtinSheet
      (styleAndPackage.startWorld Style.builtinSheet)
      (Text.fileLines (Text.unifyNewlines "(echo a)\n(doc b.docx)\n(echo b)\n".toList))
      [c.world.doc, appended, c₂.world.doc] c₂.world := by
    rw [hlines]
    exact .append hfirst hc hdoc hfile hpackage (.last hsecond hc₂)
  exact ⟨_, _, hfresh, hcomposes, convert_composes hfresh hcomposes, rfl, hout⟩

/-- A style loaded from a style file before a `doc` macro is gone after it: the document
after the macro has the default styles only, so a paragraph block of the loaded style fails
at its closing line. -/
theorem convert_loaded_style_lost :
    ∃ out, convert styleAndPackage
      "(load-style s.json)\n(doc b.docx)\n(paragraph-styled M\nabc\n)\n" =
        .error (.raised (Style.Sheet.noStyle "M") out) := by
  have hraised : (match convert styleAndPackage
      "(load-style s.json)\n(doc b.docx)\n(paragraph-styled M\nabc\n)\n" with
      | .error (.raised f _) => f == Style.Sheet.noStyle "M"
      | _ => false) = true := by
    decide +kernel
  split at hraised
  · rename_i f out hconvert
    exact ⟨out, by rw [hconvert, eq_of_beq hraised]⟩
  · cases hraised

end MacroDoc.Engine
