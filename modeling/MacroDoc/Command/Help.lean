import MacroDoc.Command.Options

/-!
# Usage and help text

The usage line lists the program's name and every option in brackets, an option that takes
a word followed by its placeholder. Lines are at most 78 characters: a line that would grow
longer is broken before the next part, and the lines after the first are indented to stand
under the first option.

The help text is the usage, the description, and one entry per option: its spellings (each
followed by the placeholder when the option takes a word), then its help line starting at
column 24, or on a line of its own there when the spellings reach that far.

## Main definitions

* `Command.usageLines`, `Command.helpLines`: the usage and the help text, as lines.
* `Command.refusalLines`: what a refused command line prints.
-/

namespace MacroDoc.Command

/-- The name of the program in usage and messages. -/
def programName : String := "GostDocx"

/-- The width text is laid out in. -/
def textWidth : Nat := 78

/-- The column help lines start at. -/
def helpColumn : Nat := 24

/-- The part of the usage line for an option. -/
def Spec.usagePart (s : Spec) : String :=
  if s.takesWord then "[" ++ s.short ++ " " ++ s.placeholder ++ "]" else "[" ++ s.short ++ "]"

/-- How an option is shown in the help text: its spellings, with the placeholder after each
when it takes a word. -/
def Spec.invocation (s : Spec) : String :=
  if s.takesWord then ", ".intercalate (s.spellings.map (· ++ " " ++ s.placeholder))
  else ", ".intercalate s.spellings

/-- A text of blanks. -/
def blanks (n : Nat) : String := String.ofList (List.replicate n ' ')

/-- Break parts into lines of at most `width` characters, joined by blanks: a line already
holding `used` characters takes the next part only if it still fits. Gives the lines,
newest first, as lists of parts. -/
def breakParts (width indent : Nat) : Nat → List String → List (List String) →
    List (List String)
  | _, [], acc => acc
  | used, part :: rest, acc =>
    match acc with
    | line :: older =>
      if used + 1 + part.length > width && !line.isEmpty then
        breakParts width indent (indent - 1 + part.length + 1) rest ([part] :: line :: older)
      else breakParts width indent (used + part.length + 1) rest ((line ++ [part]) :: older)
    | [] => breakParts width indent (used + part.length + 1) rest [[part]]

/-- The usage, as lines. -/
def usageLines : List String :=
  let prefixText := "usage: "
  let parts := programName :: specs.map Spec.usagePart
  let whole := prefixText ++ " ".intercalate parts
  if whole.length ≤ textWidth then [whole]
  else
    let indent := prefixText.length + programName.length + 1
    let lines := (breakParts textWidth indent (prefixText.length - 1) parts [[]]).reverse
    match lines.map (" ".intercalate ·) with
    | [] => []
    | first :: rest => (prefixText ++ first) :: rest.map (blanks indent ++ ·)

/-- The description shown under the usage. -/
def descriptionLines : List String :=
  ["Converts .txt files into .docx",
   ">> To see an example, run " ++ Text.quote "python3 example.py",
   "",
   "Конвертирует .txt файлы в .docx",
   ">> Чтобы увидеть пример, введи " ++ Text.quote "python3 example.py" ++ " "]

/-- The help entry of an option. -/
def Spec.helpEntry (s : Spec) : List String :=
  let head := "  " ++ s.invocation
  if head.length + 2 ≤ helpColumn then
    [head ++ blanks (helpColumn - head.length) ++ s.help]
  else [head, blanks helpColumn ++ s.help]

/-- The help text, as lines. -/
def helpLines : List String :=
  usageLines ++ [""] ++ descriptionLines ++ ["", "options:"] ++ specs.flatMap Spec.helpEntry

/-- What a refused command line prints: the usage and the reason. -/
def refusalLines (reason : String) : List String :=
  usageLines ++ [programName ++ ": error: " ++ reason]

end MacroDoc.Command
