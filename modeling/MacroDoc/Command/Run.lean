import MacroDoc.Command.Help
import MacroDoc.Engine.Session

/-!
# Running the program

The program reads a source file and writes the document made from it. It is given its
input and output paths and its reading options on the command line, and runs in a file tree
with the default styles.

In order: the command line is read (the help text or a refusal ends the run); a missing
input or output path is reported; asking for a conversion back to text without an output
directory is reported, and the run ends without fault; the input and output paths are fixed
against the starting directory; the working directory moves to the input directory, if one
is given; the source is read and converted; the document is saved; and the program says so.

A fault met while a line is taken in ends the run with status 1, after printing the fault
with its line; a fault met making a paragraph of text outside all blocks is printed so too,
and then escapes. Any other fault escapes as it is. A fault that escapes ends the run with
status 1, after the lines printed before it.

The same conversion is offered as a library entry, which takes its settings as keyword
values and raises a refusal to convert back to text as an exit request.

## Main definitions

* `Command.Ending`: how a run ends.
* `Command.Escape`: how a run ends when a fault escapes it.
* `Command.Settings.layout`: how the options read lines.
* `Command.run`: run the program.
* `Command.libraryLayout`: the settings the library entry takes.
-/

namespace MacroDoc.Command

/-- How a run of the program ends, when it ends without an unhandled fault. -/
structure Ending where
  /-- The exit status. -/
  status : Nat
  /-- The lines printed. -/
  stdout : List String := []
  /-- The lines printed as errors. -/
  stderr : List String := []
  /-- The fault the run stopped on, if it stopped on one. -/
  during : Option Fault := none
  /-- The file tree as the run left it. -/
  files : Files.Tree

/-- How a run of the program ends when a fault escapes it: the fault, and the lines printed
before it. The program then shows the fault and exits with status 1. -/
structure Escape where
  fault : Fault
  /-- The lines printed before the fault escaped. -/
  stdout : List String := []

/-- A part of a run that may fail, its fault escaping after the lines `printed`. -/
def escaping {α : Type} (printed : List String) (x : Except Fault α) : Except Escape α :=
  x.mapError fun f => ⟨f, printed⟩

/-- The lines a run prints, whether it ends or a fault escapes it. -/
def printedBy : Except Escape Ending → List String
  | .ok e => e.stdout
  | .error esc => esc.stdout

/-- The exit status of a run: its ending's, or 1 when a fault escapes it. -/
def exitStatus : Except Escape Ending → Nat
  | .ok e => e.status
  | .error _ => 1

/-- The line printed when a conversion back to text is asked for with no output
directory. -/
def noOutdirLine : String := "ERROR: Must provide -od flag when -d flag is provided"

/-- Whether the settings ask for a conversion back to text and give no output directory: the
program then prints `noOutdirLine` and exits. -/
def lacksOutdir (toText hasOutdir : Bool) : Bool := toText && !hasOutdir

/-- How the options read lines: the indent unit is the indent character repeated the indent
length times, a blank four times when neither is given. -/
def Settings.layout (st : Settings) : Except Fault Engine.Layout := do
  let count ← Engine.repeatCount (st.indentLength.getD 4)
  return { indentUnit := .text (st.indentChar.getD " ") count,
           stripIndent := st.stripIndent, skipEmpty := st.skipEmpty }

/-- How a finished conversion ends on a failure. A reported fault ends the run with status 1,
its report printed after the lines printed before it; a fault reported and then raised again
escapes with its report printed; any other fault escapes after the lines printed before it. -/
def endFailure (files : Files.Tree) (f : Engine.Failure) : Except Escape Ending :=
  match f with
  | .reported _ fault out => .ok ⟨1, out ++ f.report, [], some fault, files⟩
  | .reportedAndRaised _ fault out => .error ⟨fault, out ++ f.report⟩
  | .raised fault out => .error ⟨fault, out⟩

/-- Convert the source a walk ended on and save the joined document where another ended, with
the paths shown as given. The walks are taken before the working directory moves, and their
refusals wait until the file is opened or saved. -/
def convertFile (setup : Engine.Setup) (input output : Except Fault Files.Target)
    (shownIn shownOut : String) : Except Escape Ending := do
  let source ← escaping [] (do setup.files.openTarget shownIn (← input))
  match Engine.convertChunked setup (Text.readChunked (Files.Content.bytesOf source)) with
  | .error f => endFailure setup.files f
  | .ok r =>
    -- the lines the conversion printed stand before a fault met saving the document
    let files ← escaping r.world.output (do
      r.world.files.saveTarget shownOut (.package (← r.joined) true) (← output))
    return ⟨0, r.world.output ++ ["'" ++ shownOut ++ "' created"], [], none, files⟩

/-- Run the program on a command line, in a file tree, with the default styles, `calls`
calls deep; the source is converted one call deeper. -/
def run (args : List String) (files : Files.Tree) (defaults : Style.Loaded) (calls : Nat) :
    Except Escape Ending :=
  match parse args with
  | .help => .ok ⟨0, helpLines, [], none, files⟩
  | .refused reason => .ok ⟨2, [], refusalLines reason, none, files⟩
  | .settings st =>
    match st.input, st.output with
    | none, _ => .ok ⟨1, ["ERROR: must provide path to in file .txt"], [], none, files⟩
    | _, none => .ok ⟨1, ["ERROR: must provide path to out file .docx"], [], none, files⟩
    | some input, some output =>
      match st.layout with
      | .error f => .error ⟨f, []⟩
      | .ok layout =>
      if lacksOutdir st.toText st.textOutdir.isSome then
        .ok ⟨0, [noOutdirLine], [], none, files⟩
      else do
        let moved ← escaping [] (match st.inputDir with
          | some dir => files.changeDirShown dir (files.absolute dir)
          | none => pure files)
        let shownIn := files.absolute input
        let shownOut := files.absolute output
        convertFile ⟨layout, defaults, moved, calls + 1⟩ (files.target input shownIn)
          (files.target output shownOut) shownIn shownOut

/-- How the library entry reads lines, from its settings given as keyword values, in the
order the entry reads them: the indent unit is the indent character times the indent length
(see `Engine.IndentUnit.ofOptions`); then a conversion back to text with no output directory
prints `noOutdirLine` and exits, which reaches the caller as an exit request; indents are
stripped and empty lines skipped when their values are true. -/
def libraryLayout (kwargs : Json.Value) : Except Fault Engine.Layout := do
  let setting (key : String) : Json.Value := (kwargs.field? key).getD .null
  let unit ← Engine.IndentUnit.ofOptions (setting "indent_char") (setting "indent_length")
  if lacksOutdir (setting "docx_to_txt").truthy !(setting "docx_to_txt_outdir" matches .null) then
    .error ⟨.exitRequest, noOutdirLine⟩
  return { indentUnit := unit, stripIndent := (setting "strip_indent").truthy,
           skipEmpty := (setting "skip_empty").truthy }

end MacroDoc.Command
