import MacroDoc.Engine.Session
import MacroDoc.Proofs.AppendRequest

/-!
# Reading a source evaluates its tree of macros

The reader takes a source one line at a time and keeps the open blocks on a stack. When the
lines nest properly, the same source is a tree: a line that is no macro line is a leaf, a
one-line macro is a leaf, and a block runs from its opening line over the nodes inside it to
its closing line. This module evaluates such a tree by recursion over it, each block
handled by the block around it, and proves that the reader does exactly that.

The evaluation does what the reader does at each line, block by block: it numbers the
line; it gives plain text to the block around it (the document itself outside all blocks);
it opens a block while the block around it is the one the macro line is read in, after
remembering the name of the macro; and it closes a block at its closing line. Lines are read
with as many blocks open as the tree has around them, so that indents are taken off
according to the tree.

The tree must be read the way the reader reads it: every line classified at its depth as the
tree places it, every block closed, and no `doc` macro anywhere, since a `doc` macro ends the
reading at the next block that closes.

## Main definitions

* `Engine.Node`: a source as a tree of macros, with `Node.lines` its lines in order.
* `Engine.Node.Nested`: a tree is read the way the reader reads it.
* `Engine.Node.eval`: the evaluation of a tree.

## Main results

* `Engine.Node.Nested.readByEval`: reading the lines of a tree, then more, is evaluating
  the tree, then reading the rest.
* `Engine.convert_of_nested`: a source whose lines make such a tree converts to the document
  the evaluation of the tree builds, every line read.
-/

namespace MacroDoc.Engine

open Markup

/-- A source read as a tree of macros. -/
inductive Node where
  /-- A line that is no macro line: plain text, a comment or an empty line. -/
  | text (line : String)
  /-- A macro that opens and closes on one line. -/
  | leaf (line : String)
  /-- A block: the line that opens it, what is inside it, and the line that closes it. -/
  | block (opening : String) (body : List Node) (closing : String)

mutual

/-- The lines of a node, in order. -/
def Node.lines : Node → List String
  | .text line => [line]
  | .leaf line => [line]
  | .block opening body closing => opening :: Node.linesOf body ++ [closing]

/-- The lines of a sequence of nodes, in order. -/
def Node.linesOf : List Node → List String
  | [] => []
  | t :: ts => t.lines ++ Node.linesOf ts

end

/-- How the reader classifies a line read with `depth` blocks open. -/
def Layout.readAt (layout : Layout) (depth : Nat) (line : String) : Except Fault LineInfo :=
  layout.indentUnit.read (if layout.stripIndent then (depth : Int) else 0) (dropNewlines line)

/-- A line classified as a macro line is never an empty line. -/
theorem LineInfo.ofStripped_macro_nonempty {s : String}
    (h : (LineInfo.ofStripped s).kind = .macroLine) : (LineInfo.ofStripped s).empty = false := by
  unfold LineInfo.ofStripped at h ⊢
  split
  · rfl
  · split
    · rfl
    · split <;> simp_all

/-- Whatever indent unit reads a line, it classifies what is left once the indent is
stripped. -/
theorem IndentUnit.read_ofStripped {u : IndentUnit} {depth : Int} {line : String}
    {info : LineInfo} (h : u.read depth line = .ok info) : ∃ s, info = LineInfo.ofStripped s := by
  unfold IndentUnit.read at h
  cases u with
  | text piece count =>
    injection h with h
    exact ⟨_, h.symm⟩
  | number t => cases h
  | items =>
    by_cases hd : depth > 0
    · simp [hd] at h
    · simp only [hd, if_false] at h
      injection h with h
      exact ⟨_, h.symm⟩

/-- A macro line is never an empty line, so it is never skipped as one. -/
theorem Layout.readAt_macro_nonempty {layout : Layout} {depth : Nat} {line : String}
    {info : LineInfo} (h : layout.readAt depth line = .ok info) (hkind : info.kind = .macroLine) :
    info.empty = false := by
  obtain ⟨s, rfl⟩ := IndentUnit.read_ofStripped h
  exact LineInfo.ofStripped_macro_nonempty hkind

/-- The macro a macro line names: its first word. -/
def macroWord (text : String) : Option String := (splitArgs text).head?

/-- A line read with `depth` blocks open is a macro line of the given shape. -/
def Layout.ReadsAs (layout : Layout) (depth : Nat) (shape : Shape) (line : String) : Prop :=
  ∃ info, layout.readAt depth line = .ok info ∧ info.kind = .macroLine ∧
    Shape.ofLine? info.text = some shape

/-- A line read with `depth` blocks open is a macro line of the given shape that does not
name the `doc` macro. -/
def Layout.Opens (layout : Layout) (depth : Nat) (shape : Shape) (line : String) : Prop :=
  ∃ info, layout.readAt depth line = .ok info ∧ info.kind = .macroLine ∧
    Shape.ofLine? info.text = some shape ∧ macroWord info.text ≠ some BlockKind.appendDocument.name

/-- A tree, read with `depth` blocks open around it, is read the way the reader reads it:
each line is classified at its own depth as its place in the tree says, and no macro is a
`doc` macro. -/
inductive Node.Nested (layout : Layout) : Nat → Node → Prop
  | text {depth : Nat} {line : String} {info : LineInfo} :
      layout.readAt depth line = .ok info → info.kind ≠ .macroLine →
        Nested layout depth (.text line)
  | leaf {depth : Nat} {line : String} :
      layout.Opens depth .oneLine line → Nested layout depth (.leaf line)
  | block {depth : Nat} {opening closing : String} {body : List Node} :
      layout.Opens depth .opening opening → (∀ t ∈ body, Nested layout (depth + 1) t) →
      layout.ReadsAs (depth + 1) .closing closing →
        Nested layout depth (.block opening body closing)

/-- Begin the block a macro line opens, `calls` calls deep, inside the block `parent`: the
first word of the line names the kind of block, the name is remembered as the last macro
seen, and the block is made with the parent as it stands. Gives the new block, the parent as
the new block leaves it, and the world. -/
def beginBlock (calls : Nat) (text : String) (parent : Frame) (w : World) :
    Except Fault (Frame × Frame × World) :=
  match splitArgs text with
  | [] => .error (Fault.broken "Empty macro")
  | name :: args =>
    match BlockKind.ofName? name with
    | none => .error (Fault.broken ("Couldn't find macro: " ++ name))
    | some kind => Frame.start kind args calls parent { w with macroName := some name }

/-- Beginning a block outside all blocks leaves the document itself around, and a block that
is not a `doc` block asks for no document to be appended. -/
theorem beginBlock_frame {calls : Nat} {text : String} {p f p' : Frame} {w w' : World}
    (h : beginBlock calls text p w = .ok (f, p', w')) :
    (p = .top → p' = .top) ∧
      (macroWord text ≠ some BlockKind.appendDocument.name → w'.appendTarget = w.appendTarget) := by
  unfold macroWord
  cases hs : splitArgs text with
  | nil => simp [beginBlock, hs] at h
  | cons name args =>
    cases hk : BlockKind.ofName? name with
    | none => simp [beginBlock, hs, hk] at h
    | some kind =>
      simp only [beginBlock, hs, hk] at h
      refine ⟨?_, ?_⟩
      · rintro rfl
        exact Frame.start_top h
      · intro hword
        have hkind : kind ≠ .appendDocument := by
          rintro rfl
          exact hword (by simp [BlockKind.name_of_ofName? hk])
        exact (Frame.start_frame h).2.2 hkind

/-- Where the evaluation of a tree stands: the block around the current node (the document
itself outside all blocks), the world, and the number of the last line read. -/
structure Cursor where
  around : Frame
  world : World
  lineNumber : Nat

namespace Cursor

/-- Read a line that is no macro line, with `depth` blocks open: an empty line that is to be
skipped and a comment do nothing, and plain text goes to the block around, or becomes a
paragraph of its own outside all blocks (a fault there is reported with the line, then raised
again). -/
def takeText (layout : Layout) (depth : Nat) (line : String) (c : Cursor) :
    Except Failure Cursor :=
  let n := c.lineNumber + 1
  match layout.readAt depth line with
  | .error e => .error (.raised e c.world.output)
  | .ok info =>
    if info.empty && layout.skipEmpty then .ok { c with lineNumber := n }
    else match info.kind with
      | .plain =>
        match depth with
        | 0 =>
          match c.world.doc.addParagraph (some info.text) (some "paragraph") with
          | .ok doc => .ok { c with world := { c.world with doc }, lineNumber := n }
          | .error e => .error (.reportedAndRaised n e c.world.output)
        | _ + 1 =>
          match c.around.takeLine info.text c.world with
          | .ok f => .ok { c with around := f, lineNumber := n }
          | .error e => .error (.reported n e c.world.output)
      | _ => .ok { c with lineNumber := n }

/-- Read a macro line that opens a block, with `depth` blocks open: gives the new block, and
the cursor after the line, around the parent as the new block leaves it. -/
def openBlock (layout : Layout) (calls depth : Nat) (line : String) (c : Cursor) :
    Except Failure (Frame × Cursor) :=
  match layout.readAt depth line with
  | .error e => .error (.raised e c.world.output)
  | .ok info =>
    match beginBlock (calls + depth + 4) info.text c.around c.world with
    | .error e => .error (.reported (c.lineNumber + 1) e c.world.output)
    | .ok (f, around, w) => .ok (f, ⟨around, w, c.lineNumber + 1⟩)

/-- Close the block `f`, whose closing line has just been read. -/
def closeBlock (f : Frame) (c : Cursor) : Except Failure Cursor :=
  match f.close c.world with
  | .error e => .error (.raised e c.world.output)
  | .ok w => .ok { c with world := w }

variable {layout : Layout} {depth : Nat} {line : String} {c c' : Cursor}

/-- Taking text asks for no document to be appended, and outside all blocks it leaves the
block around as it is. -/
theorem takeText_frame (h : c.takeText layout depth line = .ok c') :
    c'.world.appendTarget = c.world.appendTarget ∧ (depth = 0 → c'.around = c.around) := by
  unfold takeText at h
  split at h
  · cases h
  · split at h
    · cases h
      exact ⟨rfl, fun _ => rfl⟩
    · split at h
      · split at h
        · split at h
          · cases h
            exact ⟨rfl, fun _ => rfl⟩
          · cases h
        · split at h
          · cases h
            exact ⟨rfl, fun hd => absurd hd (Nat.succ_ne_zero _)⟩
          · cases h
      · cases h
        exact ⟨rfl, fun _ => rfl⟩

/-- Opening a block outside all blocks leaves the document itself around. -/
theorem openBlock_top {calls : Nat} {f : Frame} (h : c.openBlock layout calls depth line = .ok (f, c'))
    (htop : c.around = .top) : c'.around = .top := by
  unfold openBlock at h
  split at h
  · cases h
  · split at h
    · cases h
    · rename_i heq
      cases h
      exact (beginBlock_frame heq).1 htop

/-- Opening a block that is not a `doc` block asks for no document to be appended. -/
theorem openBlock_appendTarget {calls : Nat} {shape : Shape} {f : Frame}
    (hopen : layout.Opens depth shape line) (h : c.openBlock layout calls depth line = .ok (f, c')) :
    c'.world.appendTarget = c.world.appendTarget := by
  obtain ⟨info, hread, -, -, hword⟩ := hopen
  unfold openBlock at h
  simp only [hread] at h
  split at h
  · cases h
  · rename_i heq
    cases h
    exact (beginBlock_frame heq).2 hword

/-- Closing a block changes only the world, and asks for no document to be appended. -/
theorem closeBlock_frame {f : Frame} (h : closeBlock f c = .ok c') :
    ∃ w, c' = { c with world := w } ∧ w.appendTarget = c.world.appendTarget := by
  unfold closeBlock at h
  split at h
  · cases h
  · rename_i w hw
    cases h
    exact ⟨w, rfl, Frame.close_appendTarget hw⟩

end Cursor

mutual

/-- Evaluate a node with `depth` blocks open around it, `calls` calls below the reading. A
block is opened inside the block around it, its body evaluated inside the block itself,
and it is closed at its closing line. -/
def Node.eval (layout : Layout) (calls : Nat) : Nat → Node → Cursor → Except Failure Cursor
  | depth, .text line, c => c.takeText layout depth line
  | depth, .leaf line, c => do
    let (f, c) ← c.openBlock layout calls depth line
    Cursor.closeBlock f c
  | depth, .block opening body _, c => do
    let (f, c) ← c.openBlock layout calls depth opening
    let inner ← Node.evalOf layout calls (depth + 1) body { c with around := f }
    Cursor.closeBlock inner.around
      { c with world := inner.world, lineNumber := inner.lineNumber + 1 }

/-- Evaluate a sequence of nodes, one after the other. -/
def Node.evalOf (layout : Layout) (calls : Nat) : Nat → List Node → Cursor →
    Except Failure Cursor
  | _, [], c => .ok c
  | depth, t :: ts, c => do Node.evalOf layout calls depth ts (← t.eval layout calls depth c)

end

section Evaluation

variable {layout : Layout} {calls : Nat}

/-- A sequence of nodes each of which keeps a property of the world keeps it too. -/
theorem Node.evalOf_world {P : World → Prop} {depth : Nat} {ts : List Node}
    (hts : ∀ t ∈ ts, ∀ c c', P c.world → t.eval layout calls depth c = .ok c' → P c'.world) :
    ∀ c c', P c.world → Node.evalOf layout calls depth ts c = .ok c' → P c'.world := by
  induction ts with
  | nil =>
    intro c c' hc h
    cases h
    exact hc
  | cons t ts ih =>
    intro c c' hc h
    simp only [Node.evalOf, Except.bind_eq_ok] at h
    obtain ⟨c₁, h₁, h₂⟩ := h
    exact ih (fun t ht => hts t (List.mem_cons_of_mem _ ht)) c₁ c'
      (hts t List.mem_cons_self c c₁ hc h₁) h₂

/-- Evaluating a tree with no `doc` macro never asks for a document to be appended. -/
theorem Node.Nested.eval_appendTarget {depth : Nat} {t : Node} (h : t.Nested layout depth) :
    ∀ c c', c.world.appendTarget = none → t.eval layout calls depth c = .ok c' →
      c'.world.appendTarget = none := by
  induction h with
  | text hread hkind =>
    intro c c' hc h
    exact (Cursor.takeText_frame h).1.trans hc
  | leaf hopen =>
    intro c c' hc h
    simp only [Node.eval, Except.bind_eq_ok] at h
    obtain ⟨⟨f, c₁⟩, h₁, h₂⟩ := h
    obtain ⟨w, rfl, hw⟩ := Cursor.closeBlock_frame h₂
    exact hw.trans ((Cursor.openBlock_appendTarget hopen h₁).trans hc)
  | block hopen _ _ ih =>
    intro c c' hc h
    simp only [Node.eval, Except.bind_eq_ok] at h
    obtain ⟨⟨f, c₁⟩, h₁, inner, hbody, h₂⟩ := h
    have hc₁ : c₁.world.appendTarget = none := (Cursor.openBlock_appendTarget hopen h₁).trans hc
    have hinner : inner.world.appendTarget = none :=
      Node.evalOf_world (P := fun w => w.appendTarget = none) ih { c₁ with around := f } inner hc₁
        hbody
    obtain ⟨w, rfl, hw⟩ := Cursor.closeBlock_frame h₂
    exact hw.trans hinner

/-- Outside all blocks, a tree is evaluated with the document itself around it, before and
after. -/
theorem Node.eval_around_top {t : Node} {c c' : Cursor} (h : t.eval layout calls 0 c = .ok c')
    (htop : c.around = .top) : c'.around = .top := by
  cases t with
  | text line => exact ((Cursor.takeText_frame h).2 rfl).trans htop
  | leaf line =>
    simp only [Node.eval, Except.bind_eq_ok] at h
    obtain ⟨⟨f, c₁⟩, h₁, h₂⟩ := h
    obtain ⟨w, rfl, -⟩ := Cursor.closeBlock_frame h₂
    exact (Cursor.openBlock_top h₁ htop :)
  | block opening body closing =>
    -- the body is read inside the new block; only the opening decides what is around after
    simp only [Node.eval, Except.bind_eq_ok] at h
    obtain ⟨⟨f, c₁⟩, h₁, inner, -, h₂⟩ := h
    obtain ⟨w, rfl, -⟩ := Cursor.closeBlock_frame h₂
    exact (Cursor.openBlock_top h₁ htop :)

end Evaluation

namespace Machine

/-- Where a machine stands, as a cursor: its innermost block, its world and its last line. -/
def cursor (m : Machine) : Cursor := ⟨m.current, m.world, m.lineNumber⟩

/-- The machine moved to a cursor: the innermost block replaced by the cursor's (outside
all blocks there is none to replace), the world and the line number taken from it. -/
def moveTo (m : Machine) (c : Cursor) : Machine :=
  { m with frames := m.frames.modifyHead (fun _ => c.around), world := c.world,
           lineNumber := c.lineNumber }

@[simp] theorem moveTo_frames_length (m : Machine) (c : Cursor) :
    (m.moveTo c).frames.length = m.frames.length := by
  simp [moveTo]

@[simp] theorem moveTo_calls (m : Machine) (c : Cursor) : (m.moveTo c).calls = m.calls := rfl

@[simp] theorem moveTo_world (m : Machine) (c : Cursor) : (m.moveTo c).world = c.world := rfl

/-- Moving a machine to a cursor and reading its position back gives the cursor, as long as
the cursor keeps the document itself as the block around when no block is open. -/
theorem cursor_moveTo {m : Machine} {c : Cursor} (h : m.frames = [] → c.around = .top) :
    (m.moveTo c).cursor = c := by
  obtain ⟨around, world, n⟩ := c
  cases hf : m.frames with
  | nil =>
    have htop : around = .top := h hf
    simp [cursor, moveTo, current, hf, htop]
  | cons f fs => simp [cursor, moveTo, current, hf]

/-- Opening a block is beginning it inside the innermost block. -/
theorem openBlock_eq (m : Machine) (oneLine : Bool) (text : String) :
    m.openBlock oneLine text =
      match beginBlock m.openingCalls text m.current m.world with
      | .error e => .error (m.report e)
      | .ok (f, parent, w) =>
        let around := m.frames.modifyHead (fun _ => parent)
        let m := { m with world := w, frames := around }
        if oneLine then m.closeInner f around else .ok (.next { m with frames := f :: around }) := by
  unfold openBlock beginBlock
  cases splitArgs text with
  | nil => rfl
  | cons name args =>
    dsimp only
    cases BlockKind.ofName? name with
    | none => rfl
    | some kind =>
      dsimp only
      simp only [openingCalls, current, report]
      cases Frame.start kind args (m.calls + m.frames.length + 4) (m.frames.headD .top)
          { m.world with macroName := some name } with
      | error e => rfl
      | ok r =>
        obtain ⟨f, parent, w⟩ := r
        cases m.frames <;> rfl

/-- Moving a machine to its own position leaves its blocks as they are. -/
theorem frames_modifyHead_current (m : Machine) :
    m.frames.modifyHead (fun _ => m.current) = m.frames := by
  cases h : m.frames <;> simp [current, h]

variable {m : Machine} {layout : Layout} {line : String} {info : LineInfo}

/-- A line that is no macro line is read as the cursor takes it. -/
theorem step_text (hread : layout.readAt m.frames.length line = .ok info)
    (hkind : info.kind ≠ .macroLine) :
    m.step layout line =
      (m.cursor.takeText layout m.frames.length line).map (fun c => .next (m.moveTo c)) := by
  have hread' : layout.indentUnit.read (if layout.stripIndent then (m.frames.length : Int) else 0)
      (dropNewlines line) = .ok info := hread
  unfold Cursor.takeText
  simp only [step, hread', hread]
  by_cases hskip : (info.empty && layout.skipEmpty) = true
  · simp [hskip, Except.map, moveTo, cursor, frames_modifyHead_current]
  · rw [if_neg hskip, if_neg hskip]
    cases hk : info.kind with
    | macroLine => exact absurd hk hkind
    | comment => simp [Except.map, moveTo, cursor, frames_modifyHead_current]
    | plain =>
      cases hf : m.frames with
      | nil =>
        simp only [List.length_nil]
        split <;> simp [Except.map, moveTo, cursor, *]
      | cons f fs =>
        simp only [List.length_cons]
        split <;> simp [Except.map, moveTo, cursor, current, report, *]

/-- A macro line that opens a block is read as the cursor opens it; the machine then reads
inside the new block. -/
theorem step_opening (hread : layout.readAt m.frames.length line = .ok info)
    (hkind : info.kind = .macroLine) (hshape : Shape.ofLine? info.text = some .opening) :
    m.step layout line =
      (m.cursor.openBlock layout m.calls m.frames.length line).map
        (fun (f, c) => .next { m.moveTo c with frames := f :: (m.moveTo c).frames }) := by
  have hread' : layout.indentUnit.read (if layout.stripIndent then (m.frames.length : Int) else 0)
      (dropNewlines line) = .ok info := hread
  simp only [step, hread', hread, hkind, hshape, Layout.readAt_macro_nonempty hread hkind,
    Bool.false_and, Bool.false_eq_true, if_false, openBlock_eq, Cursor.openBlock]
  simp only [openingCalls, current, cursor]
  cases beginBlock (m.calls + m.frames.length + 4) info.text (m.frames.headD .top) m.world with
  | error e => rfl
  | ok r => rfl

/-- A one-line macro is read as the cursor opens its block, which is then closed at once. -/
theorem step_oneLine (hread : layout.readAt m.frames.length line = .ok info)
    (hkind : info.kind = .macroLine) (hshape : Shape.ofLine? info.text = some .oneLine) :
    m.step layout line =
      match m.cursor.openBlock layout m.calls m.frames.length line with
      | .error e => .error e
      | .ok (f, c) => (m.moveTo c).closeInner f (m.moveTo c).frames := by
  have hread' : layout.indentUnit.read (if layout.stripIndent then (m.frames.length : Int) else 0)
      (dropNewlines line) = .ok info := hread
  simp only [step, hread', hread, hkind, hshape, Layout.readAt_macro_nonempty hread hkind,
    Bool.false_and, Bool.false_eq_true, if_false, openBlock_eq, Cursor.openBlock]
  simp only [openingCalls, current, cursor]
  cases beginBlock (m.calls + m.frames.length + 4) info.text (m.frames.headD .top) m.world with
  | error e => rfl
  | ok r => rfl

/-- A closing line closes the innermost block. -/
theorem step_closing {f : Frame} {fs : List Frame}
    (hread : layout.readAt m.frames.length line = .ok info)
    (hkind : info.kind = .macroLine) (hshape : Shape.ofLine? info.text = some .closing)
    (hf : m.frames = f :: fs) :
    m.step layout line = { m with lineNumber := m.lineNumber + 1 }.closeInner f fs := by
  have hread' : layout.indentUnit.read (if layout.stripIndent then (m.frames.length : Int) else 0)
      (dropNewlines line) = .ok info := hread
  simp only [step, hread', hkind, hshape, Layout.readAt_macro_nonempty hread hkind,
    Bool.false_and, Bool.false_eq_true, if_false]
  simp only [hf]

/-- A closing line read outside every block ends the reading, the world as it stands. -/
theorem step_closing_top (hread : layout.readAt m.frames.length line = .ok info)
    (hkind : info.kind = .macroLine) (hshape : Shape.ofLine? info.text = some .closing)
    (hf : m.frames = []) :
    m.step layout line = .ok (.stop m.world) := by
  have hread' : layout.indentUnit.read (if layout.stripIndent then (m.frames.length : Int) else 0)
      (dropNewlines line) = .ok info := hread
  simp only [step, hread', hkind, hshape, Layout.readAt_macro_nonempty hread hkind,
    Bool.false_and, Bool.false_eq_true, if_false]
  simp only [hf]

/-- Closing a block that asks for no document to be appended goes on reading around it. -/
theorem closeInner_eq {f : Frame} {rest : List Frame}
    (hw : ∀ w, f.close m.world = .ok w → w.appendTarget = none) :
    m.closeInner f rest =
      match f.close m.world with
      | .error e => .error (.raised e m.world.output)
      | .ok w => .ok (.next { m with world := w, frames := rest }) := by
  unfold closeInner
  cases hc : f.close m.world with
  | error e => rfl
  | ok w => simp [hw w hc]

/-- A machine moved to its own position is the machine itself. -/
@[simp] theorem moveTo_cursor (m : Machine) : m.moveTo m.cursor = m := by
  simp [moveTo, cursor, frames_modifyHead_current]

/-- Moving twice is moving to the second place. -/
@[simp] theorem moveTo_moveTo (m : Machine) (c c' : Cursor) :
    (m.moveTo c).moveTo c' = m.moveTo c' := by
  cases h : m.frames <;> simp [moveTo, h]

end Machine

/-- Reading the lines of `t` with `depth` blocks open, then more lines, is evaluating `t` from
where the reading stands, then reading on from where the evaluation ends. -/
def Node.ReadByEval (layout : Layout) (unreadable : Option Fault) (depth : Nat) (t : Node) :
    Prop :=
  ∀ (m : Machine), m.frames.length = depth → m.world.appendTarget = none → ∀ rest,
    m.run layout unreadable (t.lines ++ rest) =
      match t.eval layout m.calls depth m.cursor with
      | .error e => .error e
      | .ok c => (m.moveTo c).run layout unreadable rest

section Simulation

variable {layout : Layout} {unreadable : Option Fault}

/-- Trees read as they are evaluated are read one after the other as they are evaluated one
after the other. -/
theorem Node.readByEval_linesOf {depth : Nat} {ts : List Node}
    (hts : ∀ t ∈ ts, t.Nested layout depth ∧ t.ReadByEval layout unreadable depth)
    (m : Machine) (hd : m.frames.length = depth) (hnone : m.world.appendTarget = none)
    (rest : List String) :
    m.run layout unreadable (Node.linesOf ts ++ rest) =
      match Node.evalOf layout m.calls depth ts m.cursor with
      | .error e => .error e
      | .ok c => (m.moveTo c).run layout unreadable rest := by
  induction ts generalizing m with
  | nil => simp [Node.linesOf, Node.evalOf]
  | cons t ts ih =>
    obtain ⟨hnested, hread⟩ := hts t List.mem_cons_self
    rw [Node.linesOf, List.append_assoc, hread m hd hnone]
    cases he : t.eval layout m.calls depth m.cursor with
    | error e => simp [Node.evalOf, he, bind, Except.bind]
    | ok c =>
      have hnone' : c.world.appendTarget = none := hnested.eval_appendTarget _ _ hnone he
      -- outside all blocks the machine has no block to move, so the cursor must stay at the top
      have htop : m.frames = [] → c.around = .top := by
        intro hf
        have hd0 : depth = 0 := by rw [← hd, hf]; rfl
        subst hd0
        exact Node.eval_around_top he (by simp [Machine.cursor, Machine.current, hf])
      show (m.moveTo c).run layout unreadable (Node.linesOf ts ++ rest) = _
      rw [ih (fun t ht => hts t (List.mem_cons_of_mem _ ht)) (m.moveTo c) (by simpa using hd)
        hnone', Machine.cursor_moveTo htop]
      simp [Node.evalOf, he, bind, Except.bind]

/-- A tree with no `doc` macro, whose lines read as its shape says, is read as it is
evaluated: the reader takes exactly the steps of the evaluation, node by node, and fails where
it fails. -/
theorem Node.Nested.readByEval {depth : Nat} {t : Node} (h : t.Nested layout depth) :
    t.ReadByEval layout unreadable depth := by
  induction h with
  | text hread hkind =>
    intro m hd hnone rest
    subst hd
    simp only [Node.lines, List.singleton_append, Machine.run, Machine.step_text hread hkind,
      Node.eval]
    cases m.cursor.takeText layout m.frames.length _ with
    | error e => rfl
    | ok c => rfl
  | leaf hopen =>
    intro m hd hnone rest
    subst hd
    obtain ⟨info, hread, hkind, hshape, -⟩ := id hopen
    simp only [Node.lines, List.singleton_append, Machine.run,
      Machine.step_oneLine hread hkind hshape, Node.eval]
    cases ho : m.cursor.openBlock layout m.calls m.frames.length _ with
    | error e => rfl
    | ok r =>
      obtain ⟨f, c₁⟩ := r
      have hc₁ : c₁.world.appendTarget = none :=
        (Cursor.openBlock_appendTarget hopen ho).trans hnone
      dsimp only
      rw [Machine.closeInner_eq (fun w hw => (Frame.close_appendTarget hw).trans hc₁)]
      simp only [Machine.moveTo_world, bind, Except.bind, Cursor.closeBlock]
      cases f.close c₁.world with
      | error e => rfl
      | ok w => rfl
  | @block depth opening closing body hopen hbody hclose ih =>
    intro m hd hnone rest
    subst hd
    obtain ⟨info, hread, hkind, hshape, -⟩ := id hopen
    obtain ⟨cinfo, hcread, hckind, hcshape⟩ := hclose
    simp only [Node.lines, List.cons_append, List.append_assoc, Machine.run,
      Machine.step_opening hread hkind hshape, Node.eval]
    cases ho : m.cursor.openBlock layout m.calls m.frames.length _ with
    | error e => rfl
    | ok r =>
      obtain ⟨f, c₁⟩ := r
      have hc₁ : c₁.world.appendTarget = none :=
        (Cursor.openBlock_appendTarget hopen ho).trans hnone
      -- the body is read with the new block pushed on the blocks the machine had
      let m₁ : Machine := { m.moveTo c₁ with frames := f :: (m.moveTo c₁).frames }
      have hbodyRun := Node.readByEval_linesOf (fun t ht => ⟨hbody t ht, ih t ht⟩) m₁
        (by simp [m₁]) hc₁ (closing :: rest)
      simp only [Except.map, bind, Except.bind, List.nil_append]
      show m₁.run layout unreadable _ = _
      have hcursor : m₁.cursor = { c₁ with around := f } := rfl
      rw [hbodyRun, show m₁.calls = m.calls from rfl, hcursor]
      cases hin : Node.evalOf layout m.calls (m.frames.length + 1) body { c₁ with around := f } with
      | error e => rfl
      | ok inner =>
        have hinner : inner.world.appendTarget = none :=
          Node.evalOf_world (P := fun w => w.appendTarget = none)
            (fun t ht => (hbody t ht).eval_appendTarget) { c₁ with around := f } inner hc₁ hin
        have hlen : (m₁.moveTo inner).frames.length = m.frames.length + 1 := by simp [m₁]
        dsimp only
        -- the closing line closes the block the body left, and the reading goes on around it
        rw [Machine.run, Machine.step_closing (hlen ▸ hcread) hckind hcshape rfl,
          Machine.closeInner_eq (fun w hw => (Frame.close_appendTarget hw).trans hinner)]
        simp only [Machine.moveTo_world, Cursor.closeBlock]
        cases inner.around.close inner.world with
        | error e => rfl
        | ok w => rfl

end Simulation

/-- A first reading that takes the lines of trees of macros with no `doc` macro, each read
the way the reader reads it, and then lines that end the reading where they begin, with the
world as it stands, gives one document: the one the evaluation of the trees builds. -/
theorem readDocuments_linesOf {s : Setup} {fresh : Style.Sheet} {n : Nat} {ts : List Node}
    {rest : List String} (hnested : ∀ t ∈ ts, t.Nested s.layout 0)
    (hrest : ∀ m : Machine, m.frames = [] → ∃ r, m.run s.layout none rest = .ok (m.world, r)) :
    readDocuments s fresh none (n + 1) (s.startWorld fresh) (Node.linesOf ts ++ rest) =
      (do
        let c ← Node.evalOf s.layout (s.calls + 1) 0 ts ⟨.top, s.startWorld fresh, 0⟩
        return ⟨[c.world.doc], c.world⟩) := by
  let m₀ : Machine := { world := s.startWorld fresh, calls := s.calls + 1 }
  have hrun := @Node.readByEval_linesOf s.layout none 0 ts
    (fun t ht => ⟨hnested t ht, (hnested t ht).readByEval⟩) m₀ rfl rfl rest
  have hcursor : m₀.cursor = ⟨.top, s.startWorld fresh, 0⟩ := rfl
  rw [hcursor, show m₀.calls = s.calls + 1 from rfl] at hrun
  simp only [readDocuments]
  rw [hrun]
  cases he : Node.evalOf s.layout (s.calls + 1) 0 ts ⟨.top, s.startWorld fresh, 0⟩ with
  | error e => rfl
  | ok c =>
    -- no block asked for a document, so the first reading is the only one
    have hnone : c.world.appendTarget = none :=
      Node.evalOf_world (P := fun w => w.appendTarget = none)
        (fun t ht => (hnested t ht).eval_appendTarget) _ c rfl he
    obtain ⟨r, hr⟩ := hrest (m₀.moveTo c) rfl
    simp only [hr, Machine.moveTo_world, hnone]
    rfl

/-- A first reading that takes the lines of trees of macros with no `doc` macro, each read
the way the reader reads it, and nothing more, gives the document the evaluation of the trees
builds. -/
theorem readDocuments_of_nested {s : Setup} {fresh : Style.Sheet} {n : Nat} {ts : List Node}
    (hnested : ∀ t ∈ ts, t.Nested s.layout 0) :
    readDocuments s fresh none (n + 1) (s.startWorld fresh) (Node.linesOf ts) =
      (do
        let c ← Node.evalOf s.layout (s.calls + 1) 0 ts ⟨.top, s.startWorld fresh, 0⟩
        return ⟨[c.world.doc], c.world⟩) := by
  -- the lines run out outside every block, and the reading ends there
  have hread := @readDocuments_linesOf s fresh n ts [] hnested (fun m _ => ⟨[], rfl⟩)
  rwa [List.append_nil] at hread

/-- A source whose lines make trees of macros with no `doc` macro, each read the way the
reader reads it, converts to one document, the one the evaluation of the trees builds from
the start, and fails exactly where that evaluation fails. -/
theorem convert_of_nested {s : Setup} {text : String} {ts : List Node}
    (hlines : Text.fileLines (Text.unifyNewlines text.toList) = Node.linesOf ts)
    (hnested : ∀ t ∈ ts, t.Nested s.layout 0) :
    convert s text = (do
      let fresh ← s.freshOrFail
      let c ← Node.evalOf s.layout (s.calls + 1) 0 ts ⟨.top, s.startWorld fresh, 0⟩
      return ⟨[c.world.doc], c.world⟩) := by
  unfold convert
  cases s.freshOrFail with
  | error e => rfl
  | ok fresh =>
    simp only [bind, Except.bind, hlines]
    exact readDocuments_of_nested hnested

/-- An `echo` block around one line of text converts as its tree evaluates. -/
theorem convert_echo_block :
    Text.fileLines (Text.unifyNewlines "(echo\nhello\n)\n".toList) =
        Node.linesOf [.block "(echo\n" [.text "hello\n"] ")\n"] ∧
      (∀ t ∈ [Node.block "(echo\n" [.text "hello\n"] ")\n"], t.Nested ({} : Layout) 0) ∧
      convert ⟨{}, default, {}, 0⟩ "(echo\nhello\n)\n" = (do
        let fresh ← Setup.freshOrFail ⟨{}, default, {}, 0⟩
        let c ← Node.evalOf {} 1 0 [.block "(echo\n" [.text "hello\n"] ")\n"]
          ⟨.top, Setup.startWorld ⟨{}, default, {}, 0⟩ fresh, 0⟩
        return ⟨[c.world.doc], c.world⟩) := by
  have hlines : Text.fileLines (Text.unifyNewlines "(echo\nhello\n)\n".toList) =
      Node.linesOf [.block "(echo\n" [.text "hello\n"] ")\n"] := by decide
  have hbody : ∀ t ∈ [Node.text "hello\n"], t.Nested ({} : Layout) 1 :=
    List.forall_mem_singleton.mpr
      (@Node.Nested.text {} 1 "hello\n" ⟨"hello", .plain, false, false⟩ rfl (by decide))
  have hnested : ∀ t ∈ [Node.block "(echo\n" [.text "hello\n"] ")\n"], t.Nested ({} : Layout) 0 :=
    List.forall_mem_singleton.mpr
      (.block ⟨⟨"(echo", .macroLine, false, false⟩, rfl, rfl, rfl, by decide⟩ hbody
        ⟨⟨")", .macroLine, false, false⟩, rfl, rfl, rfl⟩)
  exact ⟨hlines, hnested, convert_of_nested hlines hnested⟩

end MacroDoc.Engine
