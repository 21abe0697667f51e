import MacroDoc.Command.Run
import MacroDoc.Document.Describe
import MacroDoc.Json.Writer
import MacroDoc.Style.Defaults

/-!
# The command line

The program runs on the files of the machine. The conversion itself works on a file tree
(see `Files.Tree`). Here the tree starts out knowing nothing but where the working directory
is, and is told about each path the conversion asks for: a file with its bytes, a directory,
or nothing. The conversion is then run again from the start, until it no longer asks; every
round tells the tree one more path, so the rounds end.

What the run printed is printed, its errors to the error stream, and the directories it made
and the files it saved are written. A document is written as its description in JSON: its
body, its footers and the paragraph styles it uses. A fault that escapes the run is
printed with the name of its kind, after the lines printed before it, and the program ends
with status 1.
-/

namespace MacroDoc.Command

/-- What the file system holds at a path. -/
inductive Found where
  | file (data : ByteArray)
  | directory
  | nothing

/-- Whether the number of a refused read says that the path is a directory. -/
def isDirectoryCode (code : UInt32) : Bool := code == 21 || code == 4294967275

/-- Look at a path of the file system. -/
def look (path : String) : IO Found := do
  try
    return .file (← IO.FS.readBinFile path)
  catch
    | .inappropriateType _ code _ => return if isDirectoryCode code then .directory else .nothing
    | _ => return .nothing

/-- The path of the file system at components of a tree. -/
def systemPath (t : Files.Tree) (comps : List String) : String :=
  t.rootShown ++ String.join (comps.map ("/" ++ ·))

/-- Tell a tree what the file system holds at components. -/
def tell (t : Files.Tree) (comps : List String) : IO Files.Tree := do
  match ← look (systemPath t comps) with
  | .file data => return t.putAt comps (.bytes data)
  | .directory => return { t with dirs := t.dirs ++ [comps] }
  | .nothing => return { t with absent := t.absent ++ [comps] }

/-- The components a run asked for that its tree could not tell, if it stopped on them. -/
def unreadOf (outcome : Except Escape Ending) : Option (List String) :=
  let fault := match outcome with
    | .error esc => some esc.fault
    | .ok e => e.during
  match fault with
  | some f =>
    if f.kind == .unread then some ((f.message.splitOn "/").filter (!·.isEmpty)) else none
  | none => none

/-- Run the program until it no longer asks for a path the tree cannot tell; `fuel` bounds
the number of paths looked at. Gives the tree of the last round and how it ended. -/
def settle (args : List String) : Nat → Files.Tree → IO (Files.Tree × Except Escape Ending)
  | 0, t => return (t, run args t Style.defaults 1)
  | fuel + 1, t => do
    let outcome := run args t Style.defaults 1
    match unreadOf outcome with
    | some comps => settle args fuel (← tell t comps)
    | none => return (t, outcome)

/-- The most paths a run looks at. -/
def lookLimit : Nat := 100000

/-- A tree of the file system that knows nothing yet. Its working directory is the one the
environment names; without one, the root is the working directory, shown as `.`. -/
def startTree : IO Files.Tree := do
  match ← IO.getEnv "PWD" with
  | some dir =>
    if dir.startsWith "/" then
      let comps := (dir.splitOn "/").filter (!·.isEmpty)
      return { rootShown := "", cwd := .inside comps, complete := false }
    else return { rootShown := ".", complete := false }
  | none => return { rootShown := ".", complete := false }

/-- The bytes a file is written with: its bytes, or for a document its description. -/
def contentBytes : Files.Content → ByteArray
  | .bytes data => data
  | .package doc _ =>
    let shown : Json.Value := match doc.describe with
      | .ok v => v
      | .error f => .obj [("error", .str f.kind.className), ("message", .str f.message)]
    (shown.write ++ "\n").toUTF8

/-- Write what a run changed in a tree: the directories it made, then the files it saved. -/
def writeBack (before after : Files.Tree) : IO Unit := do
  for d in after.dirs do
    unless before.dirs.contains d do
      IO.FS.createDirAll (systemPath after d)
  for (comps, content) in after.files do
    let same := match before.find? comps, content with
      | some (.bytes old), .bytes saved => old.data == saved.data
      | _, _ => false
    unless same do
      IO.FS.writeBinFile (systemPath after comps) (contentBytes content)

/-- Print how a run ended, and give its exit status. -/
def report (outcome : Except Escape Ending) : IO UInt32 := do
  for line in printedBy outcome do IO.println line
  match outcome with
  | .ok e => for line in e.stderr do IO.eprintln line
  | .error esc => IO.eprintln (esc.fault.kind.className ++ ": " ++ esc.fault.message)
  return UInt32.ofNat (exitStatus outcome)

end MacroDoc.Command

/-- Convert a source file into a document, as the command line asks. -/
def main (args : List String) : IO UInt32 := do
  let start ← MacroDoc.Command.startTree
  let (settled, outcome) ← MacroDoc.Command.settle args MacroDoc.Command.lookLimit start
  if let .ok e := outcome then MacroDoc.Command.writeBack settled e.files
  MacroDoc.Command.report outcome
