import MacroDoc.Engine.Frame
import MacroDoc.Markup.Line
import MacroDoc.Markup.Macro
import MacroDoc.Text.Lines

/-!
# Reading a source

A source is read one line at a time, with a stack of open blocks. Each line is numbered,
loses as many indent units as there are open blocks (when indents are stripped), and is
then one of:

* an empty line, skipped when empty lines are skipped;
* a comment, which does nothing;
* a closing line, which closes the innermost block; at the outermost level it ends the
  reading, and the rest of the source is not looked at;
* an opening line, which opens a block, or a one-line macro, which opens a block and closes
  it at once;
* plain text, which goes to the innermost block, or, outside all blocks, becomes a
  paragraph of the style `paragraph` at once.

A block asked for a document to be appended ends the reading as soon as any block closes,
or at the end of the source. A block still open at the end of the source is never closed,
so what it collected is lost.

Faults differ in how they are reported. Those met while a line is taken in (a macro word
that names no block, a block refusing its arguments or a line) are reported with the line's
number. A fault in making a paragraph of plain text outside all blocks is reported with its
line too, and then raised again: the text is still waiting to be made into a paragraph, and
the reader meets the same fault a second time as it shuts down. Those met while a block
closes are raised as they are.

## Main definitions

* `Engine.Layout`: how lines are read.
* `Engine.Failure`: how a reading fails.
* `Engine.Machine`, `Engine.Machine.step`, `Engine.Machine.run`.
-/

namespace MacroDoc.Engine

open Markup

/-- The indent unit as the options make it, by repeating the indent character a number of
times. -/
inductive IndentUnit where
  /-- A text: a piece written a number of times. -/
  | text (piece : String) (count : Nat)
  /-- A sequence of items that are not characters: it has a length, but no line can be
  asked whether it begins with it. -/
  | items
  /-- A number, which has no length; the name of its type. -/
  | number (typeName : String)
  deriving Repr

/-- How lines are read: the indent unit, whether indents are stripped, and whether empty
lines are skipped. -/
structure Layout where
  indentUnit : IndentUnit := .text " " 4
  stripIndent : Bool := false
  skipEmpty : Bool := false

open Json in
/-- The whole number a value counts as: a truth value counts as one or zero. -/
def countOf? : Value → Option Int
  | .int n => some n
  | .bool b => some (if b then 1 else 0)
  | _ => none

open Json in
/-- The indent unit the indent character and the indent length make, each a data value:
the product of the two. A text or a list times a whole number is repeated; two numbers
multiply; a text or a list times anything else, or a mapping times anything, is refused.
A missing character is a blank, a missing length four. -/
def IndentUnit.ofOptions (piece count : Value) : Except Fault IndentUnit :=
  let piece : Value := match piece with
    | .null => .str " "
    | v => v
  let count : Value := match count with
    | .null => .int 4
    | v => v
  let repeated (seq other : Value) : Except Fault IndentUnit :=
    match countOf? other with
    | none => .error (Fault.badType
        ("can't multiply sequence by non-int of type '" ++ other.typeName ++ "'"))
    | some n => do
      let times ← repeatCount n
      match seq with
      | .str s => return .text s times
      | _ => return .items
  match piece, count with
  | .str _, _ | .arr _, _ => repeated piece count
  | _, .str _ | _, .arr _ => repeated count piece
  | .float _, .float _ | .float _, .int _ | .float _, .bool _ | .int _, .float _
  | .bool _, .float _ => .ok (.number "float")
  | .int _, .int _ | .int _, .bool _ | .bool _, .int _ | .bool _, .bool _ => .ok (.number "int")
  | a, b => .error (Fault.badType ("unsupported operand type(s) for *: '" ++ a.typeName ++
      "' and '" ++ b.typeName ++ "'"))

/-- Classify a line read at a depth with an indent unit. A number has no length, so no line
can be read with it; a sequence of items has one, but taking it off the front of a line
fails as soon as there is a block to strip. -/
def IndentUnit.read (u : IndentUnit) (depth : Int) (line : String) : Except Fault LineInfo :=
  match u with
  | .text piece count => .ok (LineInfo.readRepeated piece count depth line)
  | .number t => .error (Fault.badType ("object of type '" ++ t ++ "' has no len()"))
  | .items =>
    if depth > 0 then
      .error (Fault.badType "startswith first arg must be str or a tuple of str, not list")
    else .ok (LineInfo.read "" depth line)

/-- How a reading fails. -/
inductive Failure where
  /-- A fault met while the line of a number was taken in, with the lines printed before
  it: the fault is reported with the line, and the program exits. -/
  | reported (line : Nat) (fault : Fault) (output : List String)
  /-- A fault met making a paragraph of the plain text of the line of a number, outside all
  blocks, with the lines printed before it: the fault is reported with the line, and then
  raised again as the reader shuts down and tries the same paragraph once more. -/
  | reportedAndRaised (line : Nat) (fault : Fault) (output : List String)
  /-- A fault raised as it is, with the lines printed before it. -/
  | raised (fault : Fault) (output : List String)

/-- The report of a fault met at the line of a number. -/
def reportText (line : Nat) (f : Fault) : String :=
  "ERROR, line " ++ toString line ++ ": " ++ f.message

/-- The fault of a failure. -/
def Failure.fault : Failure → Fault
  | .reported _ f _ => f
  | .reportedAndRaised _ f _ => f
  | .raised f _ => f

/-- The message of a failure: a reported fault is prefixed with its line. -/
def Failure.message : Failure → String
  | .reported n f _ => reportText n f
  | .reportedAndRaised n f _ => reportText n f
  | .raised f _ => f.message

/-- The line a failure is known by: the last line its report prints (a message holding a
line boundary prints as several lines), or the message of a fault that is raised, after its
report or without one. -/
def Failure.lastLine (f : Failure) : String :=
  match f with
  | .reported .. => ((Text.splitLines f.message).getLast?).getD ""
  | .reportedAndRaised _ e _ => e.message
  | .raised e _ => e.message

/-- The lines printed before a failure. -/
def Failure.output : Failure → List String
  | .reported _ _ out => out
  | .reportedAndRaised _ _ out => out
  | .raised _ out => out

/-- What a failure prints of its own: the report with its line, whether or not the fault is
raised again after it; nothing for a fault raised as it is. -/
def Failure.report : Failure → List String
  | .reported n f _ => [reportText n f]
  | .reportedAndRaised n f _ => [reportText n f]
  | .raised .. => []

/-- A reading in progress: the world, the open blocks (innermost first), the number of
the last line read, and the calls open while a line outside every block is read. Each open
block reads its lines one call deeper. -/
structure Machine where
  world : World
  frames : List Frame := []
  lineNumber : Nat := 0
  calls : Nat := 0

/-- What a line leaves: a reading that goes on, or one that has ended. -/
inductive Step where
  | next (m : Machine)
  | stop (w : World)

namespace Machine

/-- The innermost open block, or the document itself when none is open. -/
def current (m : Machine) : Frame := m.frames.headD .top

/-- A fault reported at the current line. -/
def report (m : Machine) (f : Fault) : Failure := .reported m.lineNumber f m.world.output

/-- Close the innermost block `f`, with the blocks `rest` around it. The reading ends here
when a document is to be appended. -/
def closeInner (m : Machine) (f : Frame) (rest : List Frame) : Except Failure Step :=
  match f.close m.world with
  | .error e => .error (.raised e m.world.output)
  | .ok w =>
    if w.appendTarget.isSome then .ok (.stop w)
    else .ok (.next { m with world := w, frames := rest })

/-- The calls open while a block is opened: the block is made four calls below the reading
of its line (the line, the macro line, the call of the block's kind and its making). -/
def openingCalls (m : Machine) : Nat := m.calls + m.frames.length + 4

/-- Open the block of a macro line; a one-line macro is closed at once. -/
def openBlock (m : Machine) (oneLine : Bool) (text : String) : Except Failure Step :=
  match splitArgs text with
  | [] => .error (m.report (Fault.broken "Empty macro"))
  | name :: args =>
    match BlockKind.ofName? name with
    | none => .error (m.report (Fault.broken ("Couldn't find macro: " ++ name)))
    | some kind =>
      let m := { m with world := { m.world with macroName := some name } }
      match Frame.start kind args m.openingCalls m.current m.world with
      | .error e => .error (m.report e)
      | .ok (f, parent, w) =>
        let around := match m.frames with
          | [] => []
          | _ :: rest => parent :: rest
        let m := { m with world := w, frames := around }
        if oneLine then m.closeInner f around
        else .ok (.next { m with frames := f :: around })

/-- Read one line. -/
def step (m : Machine) (layout : Layout) (line : String) : Except Failure Step :=
  let m := { m with lineNumber := m.lineNumber + 1 }
  let depth : Int := if layout.stripIndent then m.frames.length else 0
  match layout.indentUnit.read depth (dropNewlines line) with
  | .error e => .error (.raised e m.world.output)
  | .ok info =>
  if info.empty && layout.skipEmpty then .ok (.next m)
  else match info.kind with
    | .comment => .ok (.next m)
    | .macroLine =>
      match Shape.ofLine? info.text with
      | some .closing =>
        match m.frames with
        | [] => .ok (.stop m.world)
        | f :: rest => m.closeInner f rest
      | some .oneLine => m.openBlock true info.text
      | some .opening => m.openBlock false info.text
      | none => .ok (.next m)
    | .plain =>
      match m.frames with
      | [] =>
        match m.world.doc.addParagraph (some info.text) (some "paragraph") with
        | .ok doc => .ok (.next { m with world := { m.world with doc } })
        | .error e => .error (.reportedAndRaised m.lineNumber e m.world.output)
      | f :: rest =>
        match f.takeLine info.text m.world with
        | .ok f => .ok (.next { m with frames := f :: rest })
        | .error e => .error (m.report e)

/-- Read lines until the reading ends or the lines run out: gives the world and the lines
not read. When the lines run out and the source cannot be read past them, the fault that
stops the reading of the source is raised instead. -/
def run (m : Machine) (layout : Layout) (unreadable : Option Fault) :
    List String → Except Failure (World × List String)
  | [] =>
    match unreadable with
    | some f => .error (.raised f m.world.output)
    | none => .ok (m.world, [])
  | line :: rest =>
    match m.step layout line with
    | .error e => .error e
    | .ok (.next m) => m.run layout unreadable rest
    | .ok (.stop w) => .ok (w, rest)

end Machine

end MacroDoc.Engine
