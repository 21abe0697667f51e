import MacroDoc.Markup.Line
import MacroDoc.Fault

/-!
# Macro lines

A macro line has one of three shapes. `(name args…` opens a block that lasts until a line
`)` closes it; `(name args…)` opens and closes a block on one line.

The arguments of an opening line are the words after its first character (and after one
closing parenthesis at the end, if there is one). Words are separated by spaces, tabs and
vertical tabs. A double quote starts a quoted word, which may hold separators and is kept
even when empty; a quote in the middle of a word abandons what came before it in that word.
A word that is still open at the last character runs to the end of the line.

## Main definitions

* `Markup.Shape`, `Markup.Shape.ofLine?`: the shape of a macro line.
* `Markup.splitArgs`: the words of a macro line.
* `Markup.Shape.require`, `Markup.macroArgs`: the same, refusing lines that are not macros.
-/

namespace MacroDoc.Markup

/-- The shape of a macro line. -/
inductive Shape where
  /-- `(name args…`: the block stays open until a closing line. -/
  | opening
  /-- `)`: closes the innermost open block. -/
  | closing
  /-- `(name args…)`: a block that opens and closes at once. -/
  | oneLine
  deriving DecidableEq, Repr

/-- The number a shape is reported as: opening 0, closing 1, one line 2. -/
def Shape.code : Shape → Nat
  | .opening => 0
  | .closing => 1
  | .oneLine => 2

/-- The shape of a line, if it is a macro line at all. A line that opens is a one-line macro
when it also ends with a closing parenthesis. -/
def Shape.ofLine? (line : String) : Option Shape :=
  if startsWithChar line openMark then
    if line.toList.getLast? == some closeMark then some .oneLine else some .opening
  else if startsWithChar line closeMark then some .closing
  else none

/-- The characters that separate words outside quotes. -/
def isArgSeparator (c : Char) : Bool :=
  c == ' ' || c == '\t' || c == '\x0b'

/-- Where the word scanner stands: inside quotes or not, whether it is between words, where
the current word began, and the words found so far (newest first). -/
structure ArgScan where
  quoted : Bool := false
  between : Bool := true
  start : Nat := 0
  found : List String := []

/-- The characters of `body` from `start` up to, not including, `stop`. -/
def sliceChars (body : Array Char) (start stop : Nat) : String :=
  String.ofList (body.extract start stop).toList

/-- One step of the word scanner, at position `i` of `body`, which holds character `c`. -/
def ArgScan.step (body : Array Char) (st : ArgScan) (c : Char) (i : Nat) : ArgScan :=
  if c == '"' then
    if st.quoted then
      { quoted := false, between := true, start := st.start,
        found := sliceChars body st.start i :: st.found }
    else
      { quoted := true, between := false, start := i + 1, found := st.found }
  else if isArgSeparator c && !st.quoted then
    if st.between then st
    else { st with between := true, found := sliceChars body st.start i :: st.found }
  else
    let st := if st.between then { st with between := false, start := i } else st
    if i + 1 == body.size then
      { st with found := sliceChars body st.start body.size :: st.found }
    else st

/-- The text between the first character of a macro line and one closing parenthesis at
its end. -/
def argBody (line : String) : List Char :=
  let rest := line.toList.drop 1
  if rest.getLast? == some closeMark then rest.dropLast else rest

/-- The words of a macro line, in order. -/
def splitArgs (line : String) : List String :=
  let body := (argBody line).toArray
  let final := (body.toList.zipIdx).foldl (fun st (c, i) => st.step body c i) ({} : ArgScan)
  final.found.reverse

/-- The shape of a line that must be a macro line. -/
def Shape.require (line : String) : Except Fault Shape :=
  match Shape.ofLine? line with
  | some shape => .ok shape
  | none => .error (Fault.broken ("\"" ++ line ++ "\" is not macro"))

/-- The words of a line that must be a macro line. -/
def macroArgs (line : String) : Except Fault (List String) :=
  if isMacroLine line then .ok (splitArgs line)
  else .error (Fault.broken "gdocx_parse_macro_args: line is not macro")

end MacroDoc.Markup
