import MacroDoc.Document.Basic
import MacroDoc.Text.Utf8
import MacroDoc.Text.Quoted

/-!
# The file tree

Sources name other files by paths relative to a working directory: pictures, style files,
data files and documents to append. The tree holds the files under one root, each under
its list of path components, and the directories made on their own; a directory is also
every proper prefix of a file's or a made directory's path. The working directory starts at
the root and moves with `changeDir`; it may move above the root, where the tree holds nothing.

A path is walked the way the system walks it. A path with a zero character is refused before
anything is looked at, and so is a path of more than 4095 bytes; an empty path names nothing.
The path is split at slashes and its empty parts are skipped. From the working directory (or
the root, for a path that starts with a slash, when the root of the tree is that of the file
system) every part but the last must lead to a directory: `.` stays, `..` steps up, and a name
must be a directory of the tree, or the walk stops on a missing entry or on a file. A name of
more than 255 bytes is refused when the walk reaches it. The last part names a directory (`.`,
`..`) or an entry that each operation looks at in its own way; a path that ends with a slash
asks for that entry to be a directory.

A tree need not hold every file under its root. A tree that is not complete refuses to
decide about a path it has not been told of, with a fault that names the path from the
root; whoever reads the real files can then tell it and ask again.

Reading a file that is missing, that is a directory, or whose path runs through a file is
refused with the number and words of the system error, naming the path as it was given or
as it is shown. Text files are read as UTF-8 with every carriage return made a line feed.

## Main definitions

* `Files.Content`, `Files.Tree`, `Files.Place`, `Files.Target`.
* `Files.Tree.target`: the walk of a path.
* `Files.Tree.readBytes`, `Files.Tree.readText`, `Files.Tree.changeDir`, `Files.Tree.fileAt?`.
* `Files.Tree.save`, `Files.Tree.makeDirs`, `Files.Tree.entries`.
* `Files.Tree.absolute`: how a path is shown, joined to the working directory.
-/

namespace MacroDoc.Files

/-- What a file holds: bytes, or a document package with or without latent styles. -/
inductive Content where
  | bytes (data : ByteArray)
  | package (doc : Document.Doc) (latentStyles : Bool)

/-- How the root of a tree is shown when nothing else is chosen. -/
def rootText : String := "$WORK"

/-- A directory a walk stands in: one of the tree, at its components, or one a number of
levels above the root, outside the tree. -/
inductive Place where
  | inside (comps : List String)
  | above (levels : Nat)

/-- What the walk of a path ends on. -/
inductive Target where
  /-- A directory, reached by a last part `.` or `..`, or by no part at all. -/
  | dir (place : Place)
  /-- A name inside a directory of the tree, at its components; it may name a file, a
  directory or nothing. The flag says whether the path ended with a slash. -/
  | entry (comps : List String) (dirLike : Bool)
  /-- A name inside a directory above the root, where the tree holds nothing. -/
  | outside

/-- How a place is shown, from how the root is shown. -/
def Place.shownFrom (root : String) : Place → String
  | .inside comps => comps.foldl (fun acc c => acc ++ "/" ++ c) root
  | .above levels => root ++ String.join (List.replicate levels "/..")

/-- A file tree with a working directory. -/
structure Tree where
  files : List (List String × Content) := []
  dirs : List (List String) := []
  cwd : Place := .inside []
  /-- How the root is shown in paths; empty when the root is that of the file system, whose
  paths start with a slash. -/
  rootShown : String := rootText
  /-- Whether the tree holds every file and directory under its root. -/
  complete : Bool := true
  /-- Paths known to name nothing, in a tree that is not complete. -/
  absent : List (List String) := []

/-- The parts of a path between its slashes, empty ones included. -/
def pathParts (path : String) : List String :=
  (path.toList.splitOn '/').map String.ofList

/-- The components the parts of a path name from a directory, the empty parts skipped;
`none` for a path that steps above the root. The parts are taken by their names alone, as
where the files of a tree are placed. -/
def walkFrom (dir : List String) (path : String) : Option (List String) :=
  (pathParts path).foldl (fun acc part =>
    acc.bind fun cur =>
      if part.isEmpty || part == "." then some cur
      else if part == ".." then (if cur.isEmpty then none else some cur.dropLast)
      else some (cur ++ [part])) (some dir)

/-- The components of a path, from a directory; `none` for a path outside the tree. -/
def resolveFrom (dir : List String) (path : String) : Option (List String) :=
  if path.startsWith "/" then none else walkFrom dir path

/-- The refusal of a missing path. -/
def missing (path : String) : Fault :=
  ⟨.missingFile, "[Errno 2] No such file or directory: " ++ Text.quote path⟩

/-- The refusal of a directory where a file is needed. -/
def isADirectory (path : String) : Fault :=
  ⟨.isDirectory, "[Errno 21] Is a directory: " ++ Text.quote path⟩

/-- The refusal of a file where a directory is needed. -/
def notADirectory (path : String) : Fault :=
  ⟨.notDirectory, "[Errno 20] Not a directory: " ++ Text.quote path⟩

/-- The refusal to make a directory where a file is. -/
def alreadyExists (path : String) : Fault :=
  ⟨.fileExists, "[Errno 17] File exists: " ++ Text.quote path⟩

/-- The refusal of a path, or of a part of one, that is longer than the system allows. -/
def nameTooLong (path : String) : Fault :=
  ⟨.systemRefusal, "[Errno 36] File name too long: " ++ Text.quote path⟩

/-- The refusal of a path with a zero character, which no system path can hold. -/
def embeddedNull : Fault := ⟨.badValue, "embedded null byte"⟩

/-- The most bytes a path may have: the system's limit of 4096 counts a final zero byte. -/
def pathLimit : Nat := 4095

/-- The most bytes one part of a path may have. -/
def nameLimit : Nat := 255

/-- A placeholder for the bytes of a document package, which are not kept. -/
def packageBytes : ByteArray := ⟨#[0x50, 0x4B, 0x03, 0x04, 0xFF]⟩

/-- The bytes of a content. -/
def Content.bytesOf : Content → ByteArray
  | .bytes data => data
  | .package _ _ => packageBytes

/-- The last part of a path: what follows its last slash. -/
def baseName (path : String) : String :=
  String.ofList ((path.toList.reverse.takeWhile (· != '/')).reverse)

namespace Tree

/-- The components a path names from the working directory by the names of its parts alone.
A path that starts with a slash names components from the root when the root is that of the
file system, and nothing otherwise; so does every path from a directory above the root. -/
def resolve (t : Tree) (path : String) : Option (List String) :=
  if path.startsWith "/" then (if t.rootShown.isEmpty then walkFrom [] path else none)
  else match t.cwd with
    | .inside comps => walkFrom comps path
    | .above _ => none

/-- The content of a file at components. -/
def find? (t : Tree) (comps : List String) : Option Content :=
  (t.files.find? (·.1 == comps)).map (·.2)

/-- Whether components name a directory: the root, a made directory, or a proper prefix of
a file path. -/
def isDir (t : Tree) (comps : List String) : Bool :=
  comps.isEmpty || t.dirs.any (comps.isPrefixOf ·) ||
    t.files.any (fun f => comps.isPrefixOf f.1 && comps.length < f.1.length)

/-- Whether the tree can tell what is at components: a complete tree always can, any other
only for the files and directories it holds and the paths it knows to be absent. -/
def knows (t : Tree) (comps : List String) : Bool :=
  t.complete || (t.find? comps).isSome || t.isDir comps || t.absent.contains comps

/-- The refusal to decide about components the tree has not been told of. -/
def unread (comps : List String) : Fault := ⟨.unread, "/".intercalate comps⟩

/-- Go on only if the tree can tell what is at components. -/
def require (t : Tree) (comps : List String) : Except Fault Unit :=
  if t.knows comps then .ok () else .error (unread comps)

/-- The directory above a place. Above the root of the file system is that root again. -/
def parent (t : Tree) : Place → Place
  | .inside [] => if t.rootShown.isEmpty then .inside [] else .above 1
  | .inside (c :: cs) => .inside (c :: cs).dropLast
  | .above levels => .above (levels + 1)

/-- One step of a walk into a part that is not the last: it must lead to a directory. The
refusals name the path as it is shown. -/
def stepInto (t : Tree) (shown : String) (place : Place) (part : String) :
    Except Fault Place :=
  if part == "." then .ok place
  else if part == ".." then .ok (t.parent place)
  else if part.utf8ByteSize > nameLimit then .error (nameTooLong shown)
  else match place with
    | .above _ => .error (missing shown)
    | .inside comps => do
      let next := comps ++ [part]
      t.require next
      if (t.find? next).isSome then .error (notADirectory shown)
      else if t.isDir next then .ok (.inside next)
      else .error (missing shown)

/-- The last step of a walk: what the last part names from its directory. -/
def stepLast (t : Tree) (shown : String) (dirLike : Bool) (place : Place) (part : String) :
    Except Fault Target :=
  if part == "." then .ok (.dir place)
  else if part == ".." then .ok (.dir (t.parent place))
  else if part.utf8ByteSize > nameLimit then .error (nameTooLong shown)
  else match place with
    | .above _ => .ok .outside
    | .inside comps => .ok (.entry (comps ++ [part]) dirLike)

/-- The walk of the parts of a path from a place. -/
def walk (t : Tree) (shown : String) (dirLike : Bool) : Place → List String → Except Fault Target
  | place, [] => .ok (.dir place)
  | place, [part] => t.stepLast shown dirLike place part
  | place, part :: next :: rest => do
    t.walk shown dirLike (← t.stepInto shown place part) (next :: rest)

/-- What a path names, its refusals naming the path as it is shown. -/
def target (t : Tree) (path shown : String) : Except Fault Target :=
  if path.toList.contains '\x00' then .error embeddedNull
  else if path.utf8ByteSize > pathLimit then .error (nameTooLong shown)
  else if path.isEmpty then .error (missing shown)
  else
    let parts := (pathParts path).filter (!·.isEmpty)
    let dirLike := path.endsWith "/"
    if path.startsWith "/" then
      if t.rootShown.isEmpty then t.walk shown dirLike (.inside []) parts
      else .error (missing shown)
    else t.walk shown dirLike t.cwd parts

/-- The content of the file a walk ended on. -/
def openTarget (t : Tree) (shown : String) : Target → Except Fault Content
  | .dir _ => .error (isADirectory shown)
  | .outside => .error (missing shown)
  | .entry comps dirLike => do
    t.require comps
    match t.find? comps with
    | some c => if dirLike then .error (notADirectory shown) else .ok c
    | none => if t.isDir comps then .error (isADirectory shown) else .error (missing shown)

/-- The content of the file a path names, refused by the name it is shown with. -/
def openShown (t : Tree) (path shown : String) : Except Fault Content := do
  t.openTarget shown (← t.target path shown)

/-- The content of the file a path names. -/
def open? (t : Tree) (path : String) : Except Fault Content :=
  t.openShown path path

/-- The bytes of the file a path names. -/
def readBytes (t : Tree) (path : String) : Except Fault ByteArray := do
  return Content.bytesOf (← t.open? path)

/-- Bytes read as text: UTF-8, with every line end made a line feed. -/
def textOf (data : ByteArray) : Except Fault String :=
  match Text.decodeUtf8 data with
  | .ok s => .ok (String.ofList (Text.unifyNewlines s.toList))
  | .error f => .error ⟨.badEncoding, f.message⟩

/-- The text of the file a path names. -/
def readText (t : Tree) (path : String) : Except Fault String := do
  textOf (← t.readBytes path)

/-- The components of the file a path names; `none` when it names no file or may not be
looked at. Refused only when the tree cannot tell. -/
def fileAt? (t : Tree) (path : String) : Except Fault (Option (List String)) :=
  match t.target path path with
  | .ok (.entry comps false) => do
    t.require comps
    return if (t.find? comps).isSome then some comps else none
  | .ok _ => .ok none
  | .error f => if f.kind == .unread then .error f else .ok none

/-- Move the working directory to the directory a walk ended on. -/
def changeDirTarget (t : Tree) (shown : String) : Target → Except Fault Tree
  | .dir place => .ok { t with cwd := place }
  | .outside => .error (missing shown)
  | .entry comps _ => do
    t.require comps
    if (t.find? comps).isSome then .error (notADirectory shown)
    else if t.isDir comps then .ok { t with cwd := .inside comps }
    else .error (missing shown)

/-- Move the working directory to the directory a path names, refused by the name it is
shown with. -/
def changeDirShown (t : Tree) (path shown : String) : Except Fault Tree := do
  t.changeDirTarget shown (← t.target path shown)

/-- Move the working directory to the directory a path names. -/
def changeDir (t : Tree) (path : String) : Except Fault Tree :=
  t.changeDirShown path path

/-- How the working directory is shown. -/
def cwdText (t : Tree) : String :=
  t.cwd.shownFrom t.rootShown

/-- How a path is shown joined to the working directory: a path that starts with a slash
stands alone. -/
def absolute (t : Tree) (path : String) : String :=
  if path.startsWith "/" then path else t.cwdText ++ "/" ++ path

/-- Add a file at components; a file already there is replaced. -/
def putAt (t : Tree) (comps : List String) (c : Content) : Tree :=
  { t with files := (t.files.filter (·.1 != comps)) ++ [(comps, c)] }

/-- Add a file at a path from the root; a file already there is replaced. -/
def write (t : Tree) (path : String) (c : Content) : Tree :=
  match resolveFrom [] path with
  | none => t
  | some comps => t.putAt comps c

/-- Save a file where a walk ended: not on a directory, and for a path that ends with a
slash not at all (a file there is no directory, and nothing there is made one). -/
def saveTarget (t : Tree) (shown : String) (c : Content) : Target → Except Fault Tree
  | .dir _ => .error (isADirectory shown)
  | .outside => .error (missing shown)
  | .entry comps dirLike => do
    t.require comps
    if t.isDir comps then .error (isADirectory shown)
    else if dirLike then
      if (t.find? comps).isSome then .error (notADirectory shown)
      else .error (isADirectory shown)
    else .ok (t.putAt comps c)

/-- Save a file at a path, refused by the name it is shown with. -/
def saveShown (t : Tree) (path shown : String) (c : Content) : Except Fault Tree := do
  t.saveTarget shown c (← t.target path shown)

/-- Save a file at a path from the working directory. -/
def save (t : Tree) (path : String) (c : Content) : Except Fault Tree :=
  t.saveShown path path c

/-- Make a directory and the directories above it; one already there is kept. -/
def makeDirs (t : Tree) (path : String) : Except Fault Tree :=
  match t.resolve path with
  | none => .error (missing path)
  | some comps => do
    t.require comps
    if (List.range comps.length).any (fun k => (t.find? (comps.take k)).isSome) then
      .error (notADirectory path)
    else if (t.find? comps).isSome then .error (alreadyExists path)
    else if t.isDir comps then .ok t
    else .ok { t with dirs := t.dirs ++ [comps] }

/-- The names directly inside the directory at components, in code-point order, each once. -/
def entries (t : Tree) (comps : List String) : List String :=
  let below := (t.files.map (·.1)) ++ t.dirs
  let names := below.filterMap fun p =>
    if comps.isPrefixOf p && comps.length < p.length then p[comps.length]? else none
  names.eraseDups.mergeSort (fun a b => decide (a ≤ b))

end Tree

end MacroDoc.Files
