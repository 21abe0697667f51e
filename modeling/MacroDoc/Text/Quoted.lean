import MacroDoc.Text.Classes

/-!
# Quoted text

The quoted form of a text is how a text is shown inside a message or inside the shown form
of a list or a mapping. It is enclosed in single quotes, or in double quotes when the text
holds a single quote and no double quote. Inside, the chosen quote and the backslash are
escaped with a backslash, tab, newline and carriage return are written `\t`, `\n`, `\r`,
and every other character that is not printable is written as a hexadecimal escape of two,
four or eight digits.

## Main definitions

* `Text.hexDigits`: a number as lower-case hexadecimal digits of a fixed width.
* `Text.quote`: the quoted form of a text.
* `Text.quoteCut`: the quoted form cut to a number of characters.
* `Text.quoteCutRepeated`: the same for a text written many times over.
-/

namespace MacroDoc.Text

/-- The lower-case hexadecimal digit of a number below 16. -/
def hexDigit (n : Nat) : Char :=
  if n < 10 then Char.ofNat (48 + n) else Char.ofNat (87 + n)

/-- `n` written with exactly `width` lower-case hexadecimal digits (the low ones). -/
def hexDigits (n : Nat) : Nat → List Char
  | 0 => []
  | width + 1 => hexDigits (n / 16) width ++ [hexDigit (n % 16)]

/-- How a character is written inside quotes of the given kind. -/
def escapeInQuotes (quote : Char) (c : Char) : List Char :=
  if c == quote || c == '\\' then ['\\', c]
  else if c == '\t' then ['\\', 't']
  else if c == '\n' then ['\\', 'n']
  else if c == '\r' then ['\\', 'r']
  else if isPrintable c then [c]
  else if let some unit := keptSurrogate? c then ['\\', 'u'] ++ hexDigits unit 4
  else if c.toNat < 0x100 then ['\\', 'x'] ++ hexDigits c.toNat 2
  else if c.toNat < 0x10000 then ['\\', 'u'] ++ hexDigits c.toNat 4
  else ['\\', 'U'] ++ hexDigits c.toNat 8

/-- The single quote character. -/
def singleQuote : Char := Char.ofNat 39

/-- The quote that encloses a text: double when the text holds a single quote and no
double quote, single otherwise. -/
def quoteFor (s : String) : Char :=
  if s.toList.contains singleQuote && !s.toList.contains '"' then '"' else singleQuote

/-- The quoted form of a text. -/
def quote (s : String) : String :=
  let q := quoteFor s
  String.ofList ([q] ++ s.toList.flatMap (escapeInQuotes q) ++ [q])

/-- The quoted form of a text, cut after `limit` characters. -/
def quoteCut (limit : Nat) (s : String) : String :=
  String.ofList ((quote s).toList.take limit)

/-- The quoted form of a text written `n` times over, cut after `limit` characters. Only the
first `limit` characters of the repetition can show before the cut, and one copy holds the
same quotes as all of them, so enough copies to pass the cut are written out. -/
def quoteCutRepeated (limit : Nat) (s : String) (n : Nat) : String :=
  let copies := if s.isEmpty then 0 else min n (limit / s.length + 1)
  quoteCut limit (String.ofList (List.replicate copies s.toList).flatten)

end MacroDoc.Text
