/-!
# Source lines

A source file is read one line at a time. Before a line is looked at, up to `depth` copies
of the indent unit are taken off its front, where `depth` is the number of macros that are
open around it. What is left is one of four kinds of line:

* a *macro line* begins with an opening or a closing parenthesis;
* a *comment* begins with `#`;
* an *escaped line* begins with a backslash; the backslash is dropped and the rest is plain
  text, whatever it looks like;
* anything else is *plain text*.

## Main definitions

* `Markup.stripIndent`: take at most `depth` indent units off the front of a line.
* `Markup.LineKind`, `Markup.LineInfo`: what a line is, and the text it carries.
* `Markup.LineInfo.read`: classify a line.
-/

namespace MacroDoc.Markup

/-- The character that opens a macro. -/
def openMark : Char := '('

/-- The character that closes a macro. -/
def closeMark : Char := ')'

/-- The character that starts a comment line. -/
def commentMark : Char := '#'

/-- The character that escapes a line. -/
def escapeMark : Char := '\\'

/-- How the text of a line that begins with a mark is written: the escape mark, then the
mark. -/
def escaped (mark : Char) : String := String.ofList [escapeMark, mark]

/-- The character an indent unit is made of when nothing else is chosen. -/
def defaultIndentChar : Char := ' '

/-- How many indent characters make one indent unit when nothing else is chosen. -/
def defaultIndentLength : Nat := 4

/-- Take at most `depth` copies of `unit` off the front of `line`, stopping at the first
place where the line does not start with it. An empty unit takes nothing off. -/
def stripIndentChars (unit : List Char) : Nat → List Char → List Char
  | 0, line => line
  | depth + 1, line =>
    if unit.isPrefixOf line then stripIndentChars unit depth (line.drop unit.length) else line

/-- `stripIndentChars` on strings; a negative depth takes nothing off. -/
def stripIndent (unit : String) (depth : Int) (line : String) : String :=
  String.ofList (stripIndentChars unit.toList depth.toNat line.toList)

/-- `stripIndent` with the unit made of `count` copies of `piece`. A unit longer than the
line is no prefix of it, so it is never written out. -/
def stripIndentRepeated (piece : String) (count : Nat) (depth : Int) (line : String) : String :=
  if piece.length * count ≤ line.length then
    stripIndent (String.join (List.replicate count piece)) depth line
  else line

/-- Drop every newline character from the end of a line. -/
def dropNewlines (line : String) : String :=
  String.ofList (line.toList.reverse.dropWhile (· == '\n')).reverse

/-- Whether a line starts with the given character. -/
def startsWithChar (line : String) (c : Char) : Bool :=
  line.toList.head? == some c

/-- A macro line begins with an opening or a closing parenthesis. -/
def isMacroLine (line : String) : Bool :=
  startsWithChar line openMark || startsWithChar line closeMark

/-- A comment begins with `#`. -/
def isCommentLine (line : String) : Bool :=
  startsWithChar line commentMark

/-- An escaped line begins with a backslash. -/
def isEscapedLine (line : String) : Bool :=
  startsWithChar line escapeMark

/-- The three kinds of line, numbered as the line reader reports them. -/
inductive LineKind where
  | plain
  | macroLine
  | comment
  deriving DecidableEq, Repr

/-- The number a line kind is reported as: plain 0, macro 1, comment 2. -/
def LineKind.code : LineKind → Nat
  | .plain => 0
  | .macroLine => 1
  | .comment => 2

/-- A classified line: its kind, the text left after the indent is stripped (and, for an
escaped line, after the backslash is dropped), and two flags. -/
structure LineInfo where
  text : String
  kind : LineKind
  escaped : Bool
  empty : Bool
  deriving Repr

/-- Classify a line that has already lost its indent. -/
def LineInfo.ofStripped (line : String) : LineInfo :=
  if isEscapedLine line then
    { text := String.ofList (line.toList.drop 1), kind := .plain, escaped := true, empty := false }
  else if isMacroLine line then
    { text := line, kind := .macroLine, escaped := false, empty := false }
  else if isCommentLine line then
    { text := line, kind := .comment, escaped := false, empty := false }
  else
    { text := line, kind := .plain, escaped := false, empty := line.isEmpty }

/-- Classify a line read at the given depth, with the given indent unit. -/
def LineInfo.read (unit : String) (depth : Int) (line : String) : LineInfo :=
  LineInfo.ofStripped (dropNewlines (stripIndent unit depth line))

/-- Classify a line read at the given depth, with the indent unit made of `count` copies of
`piece`. -/
def LineInfo.readRepeated (piece : String) (count : Nat) (depth : Int) (line : String) :
    LineInfo :=
  LineInfo.ofStripped (dropNewlines (stripIndentRepeated piece count depth line))

end MacroDoc.Markup
