import MacroDoc.Markup.Macro

/-!
# Reading back the words of a macro line

The words of a macro line can be written in many ways: each word bare or between quotes,
with any run of separators between two words and before and after them all. This module
states those ways of writing as a grammar, `WrittenArgs`, and proves that the word scanner
reads back exactly the words written, in order, whatever choices the writing made.

The scanner walks the characters once, remembering whether it is inside quotes, whether it
stands between words and where the current word began. A quoted word is given out at its
closing quote, a bare word at the separator after it or at the last character of the line.
The proof follows the grammar: separators leave a scanner that stands between words as it
is; a quoted word, and a bare word with the separator after it, each bring it back between
words with one more word found; a bare word that ends the text is given out at its last
character.

## Main definitions

* `Markup.Blank`: a run of separators.
* `Markup.WrittenWord`: the ways one word can be written.
* `Markup.WrittenArgs`: the ways a list of words can be written.
* `Markup.ArgScan.scan`: the scanner over a stretch of the text.

## Main results

* `Markup.ArgScan.scan_written`: the scanner finds the words a text writes.
* `Markup.macroArgs_of_written`: a macro line reads as the words its text writes.
-/

namespace MacroDoc.Markup

/-- A run of separators, possibly empty. -/
def Blank (s : List Char) : Prop := ∀ c ∈ s, isArgSeparator c = true

/-- A character that may stand in a bare word: neither a quote nor a separator. -/
def IsWordChar (c : Char) : Prop := c ≠ '"' ∧ isArgSeparator c = false

instance : DecidablePred Blank := fun s =>
  List.decidableBAll (fun c => isArgSeparator c = true) s

instance : DecidablePred IsWordChar := fun c =>
  inferInstanceAs (Decidable (c ≠ '"' ∧ isArgSeparator c = false))

/-- The ways a word can be written: between quotes, when it holds no quote; or bare, when it
is not empty and holds neither a quote nor a separator. -/
inductive WrittenWord : String → List Char → Prop
  | quoted (a : String) : '"' ∉ a.toList → WrittenWord a ('"' :: a.toList ++ ['"'])
  | bare (a : String) : a.toList ≠ [] → (∀ c ∈ a.toList, IsWordChar c) →
      WrittenWord a a.toList

/-- `WrittenArgs sep text words`: `text` writes `words`, each word as `WrittenWord` allows,
with a nonempty run of separators between two words and any run before the first and after
the last. `sep` says whether a separator must come before the first word, as one must after
a word. -/
inductive WrittenArgs : Bool → List Char → List String → Prop
  | done (sep : Bool) (s : List Char) : Blank s → WrittenArgs sep s []
  | word (sep : Bool) (s w rest : List Char) (a : String) (as : List String) :
      Blank s → (sep = true → s ≠ []) → WrittenWord a w → WrittenArgs true rest as →
      WrittenArgs sep (s ++ w ++ rest) (a :: as)

/-- After a word, the text is either over, with no word left, or goes on with a separator. -/
theorem WrittenArgs.after_word {text : List Char} {words : List String}
    (h : WrittenArgs true text words) :
    (text = [] ∧ words = []) ∨ ∃ b r, text = b :: r ∧ isArgSeparator b = true := by
  cases h with
  | done _ _ hs =>
    cases text with
    | nil => exact .inl ⟨rfl, rfl⟩
    | cons b r => exact .inr ⟨b, r, rfl, hs b (by simp)⟩
  | word _ s w rest a as hs hsep _ _ =>
    obtain ⟨b, r, rfl⟩ := List.exists_cons_of_ne_nil (hsep rfl)
    exact .inr ⟨b, r ++ w ++ rest, by simp, hs b (by simp)⟩

namespace ArgScan

variable {body : Array Char}

/-- The scanner run over `seg`, whose first character stands at position `k` of `body`. -/
def scan (body : Array Char) (st : ArgScan) (seg : List Char) (k : Nat) : ArgScan :=
  (seg.zipIdx k).foldl (fun st (c, i) => st.step body c i) st

@[simp] theorem scan_nil (st : ArgScan) (k : Nat) : st.scan body [] k = st := rfl

@[simp] theorem scan_cons (st : ArgScan) (c : Char) (seg : List Char) (k : Nat) :
    st.scan body (c :: seg) k = (st.step body c k).scan body seg (k + 1) := rfl

theorem scan_append (st : ArgScan) (s t : List Char) (k : Nat) :
    st.scan body (s ++ t) k = (st.scan body s k).scan body t (k + s.length) := by
  simp [scan, List.zipIdx_append, List.foldl_append]

/-- The words of a macro line are what the scanner finds over its text, read from the
start. -/
theorem splitArgs_eq_scan (line : String) :
    splitArgs line =
      (({} : ArgScan).scan (argBody line).toArray (argBody line) 0).found.reverse := by
  simp [splitArgs, scan]

/-- The characters of `body` between two positions are the stretch of the text there. -/
theorem sliceChars_of_eq {pre w post : List Char} (h : body.toList = pre ++ w ++ post) :
    sliceChars body pre.length (pre.length + w.length) = String.ofList w := by
  simp [sliceChars, Array.toList_extract, List.extract_eq_take_drop, h]

/-- The scanner stands between words, outside quotes. -/
structure Ready (st : ArgScan) : Prop where
  unquoted : st.quoted = false
  between : st.between = true

/-- A separator met between words changes nothing. -/
theorem step_blank {st : ArgScan} (hst : st.Ready) {c : Char} (hc : isArgSeparator c = true)
    (i : Nat) : st.step body c i = st := by
  have hq : c ≠ '"' := by
    rintro rfl
    exact absurd hc (by decide)
  simp [step, hq, hc, hst.unquoted, hst.between]

/-- A run of separators met between words changes nothing. -/
theorem scan_blank {st : ArgScan} (hst : st.Ready) {s : List Char} (hs : Blank s) (k : Nat) :
    st.scan body s k = st := by
  induction s generalizing k with
  | nil => rfl
  | cons c s ih =>
    rw [scan_cons, step_blank hst (hs c (by simp)), ih (fun c hc => hs c (by simp [hc]))]

/-- A character that neither is a quote nor, outside quotes, a separator, met inside a word:
the word goes on, and is given out if the character is the last of the text. -/
theorem step_inside {st : ArgScan} (hb : st.between = false) {c : Char} (hq : c ≠ '"')
    (hin : st.quoted = true ∨ isArgSeparator c = false) (i : Nat) :
    st.step body c i =
      if i + 1 = body.size then
        { st with found := sliceChars body st.start body.size :: st.found }
      else st := by
  have hsep : (isArgSeparator c && !st.quoted) = false := by
    rcases hin with h | h <;> simp [h]
  simp [step, hq, hsep, hb]

/-- Such a character met between words starts a word there: the step is the one taken with
the word already started. -/
theorem step_begin {st : ArgScan} (hb : st.between = true) {c : Char} (hq : c ≠ '"')
    (hin : st.quoted = true ∨ isArgSeparator c = false) (i : Nat) :
    st.step body c i = ({ st with between := false, start := i } : ArgScan).step body c i := by
  have hsep : (isArgSeparator c && !st.quoted) = false := by
    rcases hin with h | h <;> simp [h]
  simp [step, hq, hsep, hb]

/-- Inside a word, a stretch of such characters changes nothing, unless it ends the text: then
the word, from its start to the end of the text, is given out. -/
theorem scan_inside {st : ArgScan} (hb : st.between = false) {pre t rest : List Char}
    (h : body.toList = pre ++ t ++ rest)
    (ht : ∀ c ∈ t, c ≠ '"' ∧ (st.quoted = true ∨ isArgSeparator c = false)) :
    st.scan body t pre.length =
      if t ≠ [] ∧ rest = [] then
        { st with found := sliceChars body st.start body.size :: st.found }
      else st := by
  induction t generalizing pre with
  | nil => simp
  | cons c t ih =>
    have hsize : body.size = pre.length + 1 + t.length + rest.length := by
      rw [← Array.length_toList, h]
      simp
      omega
    obtain ⟨hq, hin⟩ := ht c (by simp)
    rw [scan_cons, step_inside hb hq hin]
    by_cases hend : t = [] ∧ rest = []
    · obtain ⟨rfl, rfl⟩ := hend
      simp [hsize]
    · have hlast : pre.length + 1 ≠ body.size := by
        intro he
        apply hend
        constructor <;> (apply List.eq_nil_of_length_eq_zero; omega)
      rw [if_neg hlast]
      have ih' := @ih (pre ++ [c]) (by simp [h]) (fun c hc => ht c (by simp [hc]))
      simp only [List.length_append, List.length_singleton] at ih'
      rw [ih']
      by_cases hr : rest = []
      · have ht' : t ≠ [] := fun ht' => hend ⟨ht', hr⟩
        simp [ht', hr]
      · simp [hr]

/-- A quoted word brings a scanner standing between words back between words, with the word
found. -/
theorem scan_quoted {st : ArgScan} (hst : st.Ready) {pre post : List Char} {a : String}
    (ha : '"' ∉ a.toList) (h : body.toList = pre ++ ('"' :: a.toList ++ ['"']) ++ post) :
    st.scan body ('"' :: a.toList ++ ['"']) pre.length =
      { quoted := false, between := true, start := pre.length + 1, found := a :: st.found } := by
  -- the opening quote starts the word after it
  have hopen : st.step body '"' pre.length =
      { quoted := true, between := false, start := pre.length + 1, found := st.found } := by
    simp [step, hst.unquoted]
  have hbody : body.toList = (pre ++ ['"']) ++ a.toList ++ ('"' :: post) := by
    simp [h]
  -- the characters inside the quotes change nothing: the closing quote still follows
  have hinner := @scan_inside body
    { quoted := true, between := false, start := pre.length + 1, found := st.found }
    rfl _ _ _ hbody (fun c hc => ⟨fun hc' => ha (hc' ▸ hc), .inl rfl⟩)
  simp only [List.length_append, List.length_singleton, List.cons_ne_nil, and_false,
    if_false] at hinner
  -- the closing quote gives the word out
  have hslice := sliceChars_of_eq hbody
  simp only [List.length_append, List.length_singleton] at hslice
  rw [List.cons_append, scan_cons, hopen, scan_append, hinner, scan_cons, scan_nil]
  simp [step, hslice]

/-- A bare word, read from between words, is the word started at its first character and
carried to its end: it is given out there only if it ends the text. -/
theorem scan_bare {st : ArgScan} (hst : st.Ready) {pre rest : List Char} {a : String}
    (hne : a.toList ≠ []) (hw : ∀ c ∈ a.toList, IsWordChar c)
    (h : body.toList = pre ++ a.toList ++ rest) :
    st.scan body a.toList pre.length =
      if rest = [] then { st with between := false, start := pre.length, found := a :: st.found }
      else { st with between := false, start := pre.length } := by
  obtain ⟨c, t, hct⟩ := List.exists_cons_of_ne_nil hne
  obtain ⟨hq, hsep⟩ := hw c (by simp [hct])
  -- the first character starts the word; the rest of it is read inside the word
  have hstart : st.scan body a.toList pre.length =
      ({ st with between := false, start := pre.length } : ArgScan).scan body a.toList
        pre.length := by
    rw [hct, scan_cons, scan_cons, step_begin hst.between hq (.inr hsep)]
  rw [hstart, scan_inside rfl h (fun c hc => ⟨(hw c hc).1, .inr (hw c hc).2⟩)]
  by_cases hr : rest = []
  · subst hr
    have hslice := sliceChars_of_eq h
    have hsize : body.size = pre.length + a.toList.length := by
      rw [← Array.length_toList, h]
      simp
    simp [hne, hsize, hslice]
  · simp [hne, hr]

/-- A separator right after a bare word gives the word out and brings the scanner back
between words. -/
theorem step_blank_after_word {st : ArgScan} (hst : st.quoted = false) {pre post : List Char}
    {a : String} {b : Char} (hb : isArgSeparator b = true)
    (h : body.toList = pre ++ a.toList ++ b :: post) :
    ({ st with between := false, start := pre.length } : ArgScan).step body b
        (pre.length + a.toList.length) =
      { st with between := true, start := pre.length, found := a :: st.found } := by
  have hq : b ≠ '"' := by
    rintro rfl
    exact absurd hb (by decide)
  have hslice := sliceChars_of_eq h
  simp [step, hq, hb, hst, hslice]

/-- The scanner, standing between words, finds the words a text writes, in order. -/
theorem scan_written {sep : Bool} {text : List Char} {words : List String}
    (h : WrittenArgs sep text words) :
    ∀ (pre : List Char) (st : ArgScan), body.toList = pre ++ text → st.Ready →
      (st.scan body text pre.length).found = words.reverse ++ st.found := by
  induction h with
  | done _ s hs =>
    intro pre st _ hst
    simp [scan_blank hst hs]
  | word _ s w rest a as hs _ hw hrest ih =>
    intro pre st hbody hst
    have hbody' : body.toList = (pre ++ s) ++ w ++ rest := by simp [hbody]
    rw [scan_append, scan_append, scan_blank hst hs]
    cases hw with
    | quoted ha =>
      have hq := scan_quoted hst ha hbody'
      have hrest := ih (pre ++ s ++ ('"' :: a.toList ++ ['"']))
        { quoted := false, between := true, start := (pre ++ s).length + 1,
          found := a :: st.found } (by simp [hbody]) ⟨rfl, rfl⟩
      simp only [List.length_append, Nat.add_assoc] at hq hrest ⊢
      rw [hq, hrest]
      simp
    | bare hne hchars =>
      have hbare := scan_bare hst hne hchars hbody'
      rcases hrest.after_word with ⟨rfl, rfl⟩ | ⟨b, r, rfl, hb⟩
      · simp only [List.length_append] at hbare ⊢
        simp [hbare]
      · -- the separator after the word gives it out; reading that separator again, now
        -- between words, changes nothing, so the rest is read from between words
        rw [if_neg (List.cons_ne_nil b r)] at hbare
        have hafter := step_blank_after_word hst.unquoted hb hbody'
        have hready : ArgScan.Ready
            { st with between := true, start := (pre ++ s).length, found := a :: st.found } :=
          ⟨hst.unquoted, rfl⟩
        have hrest := ih (pre ++ s ++ a.toList) _ (by simp [hbody]) hready
        rw [scan_cons, step_blank hready hb] at hrest
        simp only [List.length_append, Nat.add_assoc] at hbare hafter hrest ⊢
        rw [hbare, scan_cons, hafter, Nat.add_assoc, Nat.add_assoc, hrest]
        simp

end ArgScan

/-- The text of a line that opens with `c` and writes `text`, then is closed by one closing
parenthesis, or by none when `text` does not end with one, is `text`. -/
theorem argBody_of_written {line : String} {c : Char} {text : List Char}
    (hline : line.toList = c :: text ++ [closeMark] ∨
      (line.toList = c :: text ∧ text.getLast? ≠ some closeMark)) :
    argBody line = text := by
  rcases hline with h | ⟨h, hlast⟩
  · simp [argBody, h]
  · simp [argBody, h, hlast]

/-- A macro line, opened by either parenthesis, whose text writes some words, each bare or
between quotes, with separators between them, reads as exactly those words. The text may be
followed by one closing parenthesis, or by none when it does not end with one. -/
theorem macroArgs_of_written {line : String} {c : Char} {text : List Char}
    {words : List String} (hc : c = openMark ∨ c = closeMark) (h : WrittenArgs false text words)
    (hline : line.toList = c :: text ++ [closeMark] ∨
      (line.toList = c :: text ∧ text.getLast? ≠ some closeMark)) :
    macroArgs line = .ok words := by
  have hmacro : isMacroLine line = true := by
    have hhead : line.toList.head? = some c := by
      rcases hline with h | ⟨h, _⟩ <;> simp [h]
    rcases hc with rfl | rfl <;> simp [isMacroLine, startsWithChar, hhead]
  have hfound := @ArgScan.scan_written text.toArray _ _ _ h [] {} (by simp) ⟨rfl, rfl⟩
  simp only [List.length_nil, List.append_nil] at hfound
  rw [macroArgs, if_pos hmacro, ArgScan.splitArgs_eq_scan, argBody_of_written hline, hfound,
    List.reverse_reverse]

/-- Characters that all pass the test for word characters are word characters. -/
theorem wordChars_of_all {s : List Char}
    (h : s.all (fun c => c != '"' && !isArgSeparator c) = true) : ∀ c ∈ s, IsWordChar c := by
  intro c hc
  have hc' := List.all_eq_true.mp h c hc
  simp only [Bool.and_eq_true, bne_iff_ne, ne_eq, Bool.not_eq_true'] at hc'
  exact hc'

/-- The line `(image "a b.png" 3)` reads as the words `image`, `a b.png` and `3`. -/
theorem macroArgs_image_line :
    WrittenArgs false "image \"a b.png\" 3".toList ["image", "a b.png", "3"] ∧
      macroArgs "(image \"a b.png\" 3)" = .ok ["image", "a b.png", "3"] := by
  have h : WrittenArgs false ([] ++ "image".toList ++ ([' '] ++ ('"' :: "a b.png".toList ++ ['"'])
      ++ ([' '] ++ "3".toList ++ []))) ["image", "a b.png", "3"] :=
    .word _ _ _ _ _ _ (by decide) (by decide) (.bare _ (by decide) (wordChars_of_all (by decide)))
      (.word _ _ _ _ _ _ (by decide) (by decide) (.quoted _ (by decide))
        (.word _ _ _ _ _ _ (by decide) (by decide)
          (.bare _ (by decide) (wordChars_of_all (by decide)))
          (.done _ _ (by decide))))
  have htext : [] ++ "image".toList ++ ([' '] ++ ('"' :: "a b.png".toList ++ ['"'])
      ++ ([' '] ++ "3".toList ++ [])) = "image \"a b.png\" 3".toList := by decide
  rw [htext] at h
  exact ⟨h, macroArgs_of_written (.inl rfl) h (.inl (by decide))⟩

end MacroDoc.Markup
