import MacroDoc.Text.Classes
import MacroDoc.Text.Quoted
import MacroDoc.Fault

/-!
# Text a document can store

A stored document is XML written in UTF-8, so every text put into it (the text of a run, a
name, the value of an attribute, a query) must first have a UTF-8 form and then consist of
XML characters only: tab, line feed, carriage return, and the characters from the space on,
except the surrogates and the two noncharacters `U+FFFE` and `U+FFFF`.

A lone surrogate kept in a text (see `Text.keptSurrogate?`) has no UTF-8 form. The refusal
names the first run of such surrogates by its positions in the text being written.

## Main definitions

* `Text.isXmlChar`: the characters XML allows.
* `Text.encodeFault?`: why a text has no UTF-8 form, if it has none.
* `Text.checkStorable`: refuse a text a document cannot store.
-/

namespace MacroDoc.Text

/-- Whether XML allows a character. A character that keeps a lone surrogate stands for a
surrogate, which XML does not allow. -/
def isXmlChar (c : Char) : Bool :=
  (c == '\t' || c == '\n' || c == '\r' ||
    (0x20 ≤ c.toNat && c.toNat != 0xFFFE && c.toNat != 0xFFFF)) && (keptSurrogate? c).isNone

/-- The refusal of a text with a character XML does not allow. -/
def notXmlFault : Fault :=
  Fault.badValue
    "All strings must be XML compatible: Unicode or ASCII, no NULL bytes or control characters"

/-- The position of the first kept surrogate in characters from position `pos`, and the
number of kept surrogates that follow it without a break. -/
def firstSurrogateRun : List Char → Nat → Option (Nat × Nat)
  | [], _ => none
  | c :: rest, pos =>
    if (keptSurrogate? c).isSome then
      some (pos, 1 + (rest.takeWhile fun d => (keptSurrogate? d).isSome).length)
    else firstSurrogateRun rest (pos + 1)

/-- Why a text has no UTF-8 form: the first run of lone surrogates in it, by its positions
counted from `offset`, the place of the text in what is written. -/
def encodeFault? (s : String) (offset : Nat) : Option Fault :=
  match firstSurrogateRun s.toList 0 with
  | none => none
  | some (pos, run) =>
    let first := s.toList.getD pos ' '
    let unit := (keptSurrogate? first).getD 0
    let start := offset + pos
    let where_ := if run == 1 then
        "character '\\u" ++ String.ofList (hexDigits unit 4) ++ "' in position " ++ toString start
      else "characters in position " ++ toString start ++ "-" ++ toString (start + run - 1)
    some ⟨.unencodable, "'utf-8' codec can't encode " ++ where_ ++ ": surrogates not allowed"⟩

/-- Refuse a text that a document cannot store: first one without a UTF-8 form, then one
with a character XML does not allow. The text stands at `offset` in what is written. -/
def checkStorable (s : String) (offset : Nat) : Except Fault Unit :=
  match encodeFault? s offset with
  | some f => .error f
  | none => if s.toList.all isXmlChar then .ok () else .error notXmlFault

end MacroDoc.Text
