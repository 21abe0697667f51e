/-!
# Lines of printed text

What a program prints is one text; its lines are the pieces between line boundaries. A
line boundary is a line feed, a carriage return (a carriage return followed by a line feed
is one boundary), a vertical tab, a form feed, the three separators `U+001C` to `U+001E`,
the next-line character `U+0085`, and the line and paragraph separators `U+2028` and
`U+2029`. A boundary at the very end does not start another line.

Every print ends with a line feed, so the lines of a sequence of prints are the lines of
each print with its line feed, one after the other: no boundary spans two prints.

## Main definitions

* `Text.isLineBoundary`: the characters that end a line.
* `Text.splitLines`: the lines of a text.
* `Text.printedLines`: the lines of a sequence of prints.
-/

namespace MacroDoc.Text

/-- Whether a character ends a line. -/
def isLineBoundary (c : Char) : Bool :=
  c == '\n' || c == '\r' || c == '\x0b' || c == '\x0c' || c == '\x1c' || c == '\x1d' ||
    c == '\x1e' || c == '\x85' || c == '\u2028' || c == '\u2029'

/-- The lines of characters, the current line (reversed) carried along. -/
def linesFrom : List Char → List Char → List String
  | [], [] => []
  | [], current => [String.ofList current.reverse]
  | '\r' :: '\n' :: rest, current => String.ofList current.reverse :: linesFrom rest []
  | c :: rest, current =>
    if isLineBoundary c then String.ofList current.reverse :: linesFrom rest []
    else linesFrom rest (c :: current)

/-- The lines of a text. -/
def splitLines (s : String) : List String := linesFrom s.toList []

/-- The lines of a sequence of prints, each ended by a line feed. -/
def printedLines (prints : List String) : List String :=
  prints.flatMap fun p => splitLines (p ++ "\n")

theorem linesFrom_nil_nil : linesFrom [] [] = [] := rfl

theorem printedLines_nil : printedLines [] = [] := rfl

end MacroDoc.Text
