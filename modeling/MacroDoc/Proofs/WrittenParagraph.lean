import MacroDoc.Document.Source
import MacroDoc.Proofs.ArgumentSplitting
import MacroDoc.Proofs.Indentation
import MacroDoc.Proofs.WriteOrder

/-!
# Reading back the source written for a paragraph

A paragraph is written back as source (`Document.paragraphMacro`, `Document.runMacro`): a
`paragraph-styled` block around one `run-styled` block per run, each run's text one indented
line. Reading that source does not give the paragraph back. A `paragraph-styled` block adds
its paragraph only when it closes, after the blocks inside it have closed; a `run-styled`
block adds its run, when it closes, to the paragraph that is last at that moment. So the runs
go to the paragraph before the written one, and the written one is added last, with no runs.
A source that starts with a written paragraph has no paragraph before it: its first run
fails, and nothing is made.

## Main definitions

* `Markup.PlainName`: a style name as the writer gives them, letters and digits.
* `Engine.writtenParagraph`: the source written for a paragraph with runs.
* `Engine.Node.ofParagraph`: that source as a tree of macros.

## Main results

* `Engine.Node.ofParagraph_nested`: the reader reads that tree as its shape says.
* `Engine.Node.eval_ofRun`: a `run-styled` block adds its line as a run where the reading
  stands when it closes.
* `Engine.Node.eval_ofParagraph`: a `paragraph-styled` block adds its paragraph after its runs.
* `Engine.convert_written_paragraph`: what reading the written source of a paragraph from
  the start gives.
-/

namespace MacroDoc.Text

/-- Lines that each end with their only line feed are the lines of the text they join into. -/
theorem fileLines_go_join {ls : List String}
    (h : ∀ l ∈ ls, ∃ b, l.toList = b ++ ['\n'] ∧ '\n' ∉ b) :
    fileLines.go (ls.flatMap String.toList) [] = ls := by
  induction ls with
  | nil => rfl
  | cons l ls ih =>
    obtain ⟨b, hb, hbn⟩ := h l List.mem_cons_self
    rw [List.flatMap_cons, hb, List.append_assoc, List.singleton_append, fileLines_go_line hbn,
      ih fun l hl => h l (List.mem_cons_of_mem _ hl)]
    simp [← hb]

/-- Lines that each end with their only line feed, with no carriage return, are the lines of
the source they join into. -/
theorem fileLines_join {ls : List String}
    (h : ∀ l ∈ ls, ∃ b, l.toList = b ++ ['\n'] ∧ '\n' ∉ b ∧ '\r' ∉ b) :
    fileLines (unifyNewlines (String.join ls).toList) = ls := by
  have hcr : '\r' ∉ (String.join ls).toList := by
    simp only [String.toList_join, List.mem_flatMap, not_exists, not_and]
    intro l hl hr
    obtain ⟨b, hb, -, hbr⟩ := h l hl
    rw [hb] at hr
    simp [hbr] at hr
  rw [unifyNewlines_of_no_cr hcr, String.toList_join]
  exact fileLines_go_join fun l hl =>
    let ⟨b, hb, hbn, _⟩ := h l hl
    ⟨b, hb, hbn⟩

end MacroDoc.Text

namespace MacroDoc.Markup

/-- A style name as the source writer gives them: letters and digits, at least one. -/
def PlainName (name : String) : Prop := name.toList ≠ [] ∧ name.toList.all Char.isAlphanum = true

instance (name : String) : Decidable (PlainName name) :=
  inferInstanceAs (Decidable (name.toList ≠ [] ∧ name.toList.all Char.isAlphanum = true))

/-- A letter or a digit is no quote, separator, parenthesis or line end. -/
theorem isWordChar_of_isAlphanum {c : Char} (h : c.isAlphanum = true) :
    IsWordChar c ∧ c ≠ closeMark ∧ c ≠ '\n' ∧ c ≠ '\r' := by
  refine ⟨⟨?_, ?_⟩, ?_, ?_, ?_⟩
  · rintro rfl
    exact absurd h (by decide)
  · cases hs : isArgSeparator c
    · rfl
    · simp only [isArgSeparator, Bool.or_eq_true, beq_iff_eq] at hs
      rcases hs with (rfl | rfl) | rfl <;> exact absurd h (by decide)
  all_goals
    rintro rfl
    exact absurd h (by decide)

theorem PlainName.chars {name : String} (h : PlainName name) :
    ∀ c ∈ name.toList, IsWordChar c ∧ c ≠ closeMark ∧ c ≠ '\n' ∧ c ≠ '\r' :=
  fun c hc => isWordChar_of_isAlphanum (List.all_eq_true.mp h.2 c hc)

theorem PlainName.no_line_end {name : String} (h : PlainName name) :
    '\n' ∉ name.toList ∧ '\r' ∉ name.toList :=
  ⟨fun hm => (h.chars _ hm).2.2.1 rfl, fun hm => (h.chars _ hm).2.2.2 rfl⟩

/-- Characters without a line feed have none to drop from their end. -/
theorem dropWhile_newline_of_not_mem {cs : List Char} (h : '\n' ∉ cs) :
    cs.reverse.dropWhile (· == '\n') = cs.reverse := by
  cases hr : cs.reverse with
  | nil => rfl
  | cons c rest =>
    have hc : c ≠ '\n' := by
      rintro rfl
      exact h (List.mem_reverse.mp (hr ▸ List.mem_cons_self))
    simp [hc]

/-- A line without line feeds has none to drop. -/
theorem dropNewlines_of_not_mem {s : String} (h : '\n' ∉ s.toList) : dropNewlines s = s := by
  simp [dropNewlines, dropWhile_newline_of_not_mem h]

/-- Dropping the line feed that ends a line without another gives the line back. -/
theorem dropNewlines_line {s : String} (h : '\n' ∉ s.toList) : dropNewlines (s ++ "\n") = s := by
  simp [dropNewlines, dropWhile_newline_of_not_mem h]

/-- Text that ends with a plain name does not end with a closing parenthesis. -/
theorem PlainName.getLast?_ne {name : String} (h : PlainName name) (pre : List Char) :
    (pre ++ name.toList).getLast? ≠ some closeMark := by
  obtain ⟨c, hc⟩ : ∃ c, name.toList.getLast? = some c :=
    Option.isSome_iff_exists.mp (List.getLast?_isSome.mpr h.1)
  rw [List.getLast?_append, hc]
  simpa using (h.chars c (List.mem_of_getLast? hc)).2.1

/-- A macro line that names a macro by a bare word and gives it one plain name reads as
those two words. -/
theorem splitArgs_named {word name : String} (hword : word.toList ≠ [])
    (hchars : ∀ c ∈ word.toList, IsWordChar c) (hname : PlainName name) :
    splitArgs ("(" ++ word ++ " " ++ name) = [word, name] := by
  have hnameChars := hname.chars
  have hwritten : WrittenArgs false ([] ++ word.toList ++ ([' '] ++ name.toList ++ [])) [word, name] :=
    .word _ _ _ _ _ _ (by simp [Blank]) (by simp) (.bare _ hword hchars)
      (.word _ _ _ _ _ _ (by simp [Blank, isArgSeparator]) (by simp)
        (.bare _ hname.1 fun c hc => (hnameChars c hc).1) (.done _ _ (by simp [Blank])))
  simp only [List.nil_append, List.append_nil] at hwritten
  have hlast : (word.toList ++ ' ' :: name.toList).getLast? ≠ some closeMark := by
    simpa using hname.getLast?_ne (word.toList ++ [' '])
  have hargs := @macroArgs_of_written ("(" ++ word ++ " " ++ name) _ _ _ (.inl rfl) hwritten
    (.inr ⟨by simp [openMark], hlast⟩)
  have hmacro : isMacroLine ("(" ++ word ++ " " ++ name) = true := by
    simp [isMacroLine, startsWithChar, openMark]
  simpa [macroArgs, hmacro] using hargs

end MacroDoc.Markup

namespace MacroDoc.Engine

open Markup

/-! ### The written source as a tree of macros -/

/-- The source written for a run: a `run-styled` block of a style around its text. -/
def Node.ofRun (name text : String) : Node :=
  .block ("(run-styled " ++ name ++ "\n") [.text ("    " ++ text ++ "\n")] ")\n"

/-- The source written for a paragraph of a style, with runs given by style and text. -/
def Node.ofParagraph (name : String) (runs : List (String × String)) : Node :=
  .block (Document.paragraphOpening name) (runs.map fun r => Node.ofRun r.1 r.2)
    Document.paragraphClosing

theorem Node.linesOf_eq_flatMap (ts : List Node) : Node.linesOf ts = ts.flatMap Node.lines := by
  induction ts with
  | nil => rfl
  | cons t ts ih => simp [Node.linesOf, ih]

/-- The source the writer gives for a paragraph of a style whose runs have the given styles
and texts. -/
def writtenParagraph (name : String) (runs : List (String × String)) : String :=
  Document.paragraphMacro name (String.join (runs.map fun r => Document.runMacro r.1 r.2))

/-- The lines of the tree join into the source the writer gives for the paragraph. -/
theorem Node.join_ofParagraph (name : String) (runs : List (String × String)) :
    String.join (Node.ofParagraph name runs).lines = writtenParagraph name runs := by
  rw [← String.toList_inj]
  simp [Node.ofParagraph, Node.lines, Node.linesOf_eq_flatMap, Node.ofRun, writtenParagraph,
    Document.runMacro, Document.paragraphMacro, List.flatMap_map, List.flatMap_assoc]

/-! ### How the reader reads the written lines -/

section Reading

variable {layout : Layout} {piece : String} {count : Nat}

/-- With indents kept and a text for the indent unit, a line is read whole, whatever the
depth. -/
theorem Layout.readAt_line (hstrip : layout.stripIndent = false)
    (hunit : layout.indentUnit = .text piece count) (depth : Nat) {s : String}
    (h : '\n' ∉ s.toList) : layout.readAt depth (s ++ "\n") = .ok (LineInfo.ofStripped s) := by
  have hkeep : stripIndentRepeated piece count 0 s = s := by
    unfold stripIndentRepeated Markup.stripIndent
    split <;> simp [stripIndentChars]
  simp [Layout.readAt, hstrip, hunit, IndentUnit.read, LineInfo.readRepeated, dropNewlines_line h,
    hkeep, dropNewlines_of_not_mem h]

/-- What the reader makes of the line that opens a style block of the written source: a
macro line that opens a block, of two words, the block's and the style's. -/
theorem styledLine {word name : String} (hword : word = "paragraph-styled" ∨ word = "run-styled")
    (hname : PlainName name) :
    '\n' ∉ ("(" ++ word ++ " " ++ name).toList ∧
      LineInfo.ofStripped ("(" ++ word ++ " " ++ name) =
        { text := "(" ++ word ++ " " ++ name, kind := .macroLine, escaped := false,
          empty := false } ∧
      Shape.ofLine? ("(" ++ word ++ " " ++ name) = some .opening ∧
      splitArgs ("(" ++ word ++ " " ++ name) = [word, name] := by
  have hwordFacts : word.toList ≠ [] ∧ (∀ c ∈ word.toList, IsWordChar c) ∧ '\n' ∉ word.toList := by
    rcases hword with rfl | rfl
    all_goals exact ⟨by decide, wordChars_of_all (by decide), by decide⟩
  obtain ⟨hne, hchars, hnl⟩ := hwordFacts
  refine ⟨?_, ?_, ?_, splitArgs_named hne hchars hname⟩
  · intro hm
    simp only [String.toList_append, List.mem_append] at hm
    rcases hm with ((hm | hm) | hm) | hm
    · exact absurd hm (by decide)
    · exact hnl hm
    · exact absurd hm (by decide)
    · exact hname.no_line_end.1 hm
  · simp [LineInfo.ofStripped, isEscapedLine, isMacroLine, startsWithChar, openMark, escapeMark]
  · -- the line ends with the style's name, so it does not close on the same line
    have hlast := hname.getLast?_ne ('(' :: word.toList ++ [' '])
    simp only [List.cons_append, List.append_assoc, List.nil_append] at hlast
    simpa [Shape.ofLine?, startsWithChar, openMark] using hlast

/-- The line that opens a style block of the written source opens that block, at any depth. -/
theorem Layout.opens_styled (hstrip : layout.stripIndent = false)
    (hunit : layout.indentUnit = .text piece count) (depth : Nat) {word name : String}
    (hword : word = "paragraph-styled" ∨ word = "run-styled") (hname : PlainName name) :
    layout.Opens depth .opening ("(" ++ word ++ " " ++ name ++ "\n") := by
  obtain ⟨hline, hinfo, hshape, hsplit⟩ := styledLine hword hname
  have hdoc : word ≠ BlockKind.appendDocument.name := by
    rcases hword with rfl | rfl <;> decide
  refine ⟨_, Layout.readAt_line hstrip hunit depth hline, by rw [hinfo], by rw [hinfo, hshape], ?_⟩
  simp [hinfo, macroWord, hsplit, hdoc]

/-- The end line of the written source closes a block, at any depth. -/
theorem Layout.readsAs_end (hstrip : layout.stripIndent = false)
    (hunit : layout.indentUnit = .text piece count) (depth : Nat) :
    layout.ReadsAs depth .closing ")\n" :=
  ⟨_, Layout.readAt_line hstrip hunit depth (s := ")") (by decide), rfl, rfl⟩

/-- An indented line of text is plain text. -/
theorem LineInfo.ofStripped_indented (text : String) :
    LineInfo.ofStripped ("    " ++ text) =
      { text := "    " ++ text, kind := .plain, escaped := false, empty := false } := by
  simp [LineInfo.ofStripped, isEscapedLine, isMacroLine, isCommentLine, startsWithChar, openMark,
    closeMark, escapeMark, commentMark]

/-- The written source of a run is read as its shape says. -/
theorem Node.ofRun_nested (hstrip : layout.stripIndent = false)
    (hunit : layout.indentUnit = .text piece count) (depth : Nat) {name text : String}
    (hname : PlainName name) (htext : '\n' ∉ text.toList) :
    (Node.ofRun name text).Nested layout depth := by
  have hopen := Layout.opens_styled hstrip hunit depth (Or.inr (rfl : "run-styled" = _)) hname
  have hline : "(" ++ "run-styled" ++ " " ++ name ++ "\n" = "(run-styled " ++ name ++ "\n" := by rfl
  rw [hline] at hopen
  refine .block hopen ?_ (Layout.readsAs_end hstrip hunit (depth + 1))
  intro t ht
  rw [List.mem_singleton] at ht
  subst ht
  have hline : '\n' ∉ ("    " ++ text).toList := by simp [htext]
  refine .text (Layout.readAt_line hstrip hunit (depth + 1) hline) ?_
  simp [LineInfo.ofStripped_indented]

/-- The written source of a paragraph is read as its shape says. -/
theorem Node.ofParagraph_nested (hstrip : layout.stripIndent = false)
    (hunit : layout.indentUnit = .text piece count) {name : String} {runs : List (String × String)}
    (hname : PlainName name) (hruns : ∀ r ∈ runs, PlainName r.1 ∧ '\n' ∉ r.2.toList) :
    (Node.ofParagraph name runs).Nested layout 0 := by
  have hopen := Layout.opens_styled hstrip hunit 0 (Or.inl (rfl : "paragraph-styled" = _)) hname
  have hline : "(" ++ "paragraph-styled" ++ " " ++ name ++ "\n" = Document.paragraphOpening name :=
    by rfl
  rw [hline] at hopen
  refine .block hopen ?_ (Layout.readsAs_end hstrip hunit 1)
  intro t ht
  obtain ⟨r, hr, rfl⟩ := List.mem_map.mp ht
  exact Node.ofRun_nested hstrip hunit 1 (hruns r hr).1 (hruns r hr).2

end Reading

/-! ### How the written source is evaluated -/

section Evaluation

variable {layout : Layout} {piece : String} {count : Nat}

/-- A `paragraph-styled` block of a plain name begins without looking anything up. -/
theorem beginBlock_styledParagraph {name : String} (hname : PlainName name) (calls : Nat)
    (parent : Frame) (w : World) :
    beginBlock calls ("(" ++ "paragraph-styled" ++ " " ++ name) parent w =
      .ok (.styledParagraph name [], parent, { w with macroName := some "paragraph-styled" }) := by
  have hkind : BlockKind.ofName? "paragraph-styled" = some .styledParagraph := by decide
  rw [beginBlock, (styledLine (.inl rfl) hname).2.2.2]
  simp only [hkind]
  rfl

/-- A `run-styled` block of a plain name begins by looking up its style. -/
theorem beginBlock_styledRun {name : String} (hname : PlainName name) (calls : Nat)
    (parent : Frame) (w : World) :
    beginBlock calls ("(" ++ "run-styled" ++ " " ++ name) parent w =
      (w.doc.styleIndex name).map fun i =>
        (.styledRun (some i) [], parent, { w with macroName := some "run-styled" }) := by
  have hkind : BlockKind.ofName? "run-styled" = some .styledRun := by decide
  rw [beginBlock, (styledLine (.inr rfl) hname).2.2.2]
  simp only [hkind, Frame.start, List.getElem?_cons_zero]
  cases w.doc.styleIndex name <;> rfl

/-- The opening line of a written paragraph opens its block around the block it is read in. -/
theorem Cursor.openBlock_paragraphOpening (hstrip : layout.stripIndent = false)
    (hunit : layout.indentUnit = .text piece count) {name : String} (hname : PlainName name)
    (calls depth : Nat) (c : Cursor) :
    c.openBlock layout calls depth (Document.paragraphOpening name) =
      .ok (.styledParagraph name [],
        ⟨c.around, { c.world with macroName := some "paragraph-styled" }, c.lineNumber + 1⟩) := by
  obtain ⟨hline, hinfo, -, -⟩ := styledLine (.inl rfl) hname
  have hopening : Document.paragraphOpening name =
      "(" ++ "paragraph-styled" ++ " " ++ name ++ "\n" := by rfl
  rw [hopening, Cursor.openBlock, Layout.readAt_line hstrip hunit depth hline]
  simp only [hinfo]
  rw [beginBlock_styledParagraph hname]

/-- The opening line of a written run looks up the run's style, and opens its block around the
block it is read in. -/
theorem Cursor.openBlock_runOpening (hstrip : layout.stripIndent = false)
    (hunit : layout.indentUnit = .text piece count) {name : String} (hname : PlainName name)
    (calls depth : Nat) (c : Cursor) :
    c.openBlock layout calls depth ("(run-styled " ++ name ++ "\n") =
      match c.world.doc.styleIndex name with
      | .error e => .error (.reported (c.lineNumber + 1) e c.world.output)
      | .ok i => .ok (.styledRun (some i) [],
          ⟨c.around, { c.world with macroName := some "run-styled" }, c.lineNumber + 1⟩) := by
  obtain ⟨hline, hinfo, -, -⟩ := styledLine (.inr rfl) hname
  have hopening : "(run-styled " ++ name ++ "\n" = "(" ++ "run-styled" ++ " " ++ name ++ "\n" := by
    rfl
  rw [hopening, Cursor.openBlock, Layout.readAt_line hstrip hunit depth hline]
  simp only [hinfo]
  rw [beginBlock_styledRun hname]
  cases c.world.doc.styleIndex name <;> rfl

/-- The text line of a written run is taken into the run's block. -/
theorem Cursor.takeText_indented (hstrip : layout.stripIndent = false)
    (hunit : layout.indentUnit = .text piece count) (depth : Nat) {text : String}
    (htext : '\n' ∉ text.toList) {style : Option Nat} {lines : List String} (c : Cursor)
    (hc : c.around = .styledRun style lines) :
    c.takeText layout (depth + 1) ("    " ++ text ++ "\n") =
      .ok { c with around := .styledRun style (lines ++ ["    " ++ text]),
                   lineNumber := c.lineNumber + 1 } := by
  have hline : '\n' ∉ ("    " ++ text).toList := by simp [htext]
  rw [Cursor.takeText, Layout.readAt_line hstrip hunit (depth + 1) hline]
  simp only [LineInfo.ofStripped_indented, Bool.false_and, Bool.false_eq_true, if_false, hc]
  rfl

/-- A written run is one run added where the reading stands: its style is looked up when its
block opens, and its line, indent and all, is added as a run when the block closes. -/
theorem Node.eval_ofRun (hstrip : layout.stripIndent = false)
    (hunit : layout.indentUnit = .text piece count) {depth : Nat} {name text : String}
    (hname : PlainName name) (htext : '\n' ∉ text.toList) (calls : Nat) (c : Cursor) :
    (Node.ofRun name text).eval layout calls depth c =
      match c.world.doc.styleIndex name with
      | .error e => .error (.reported (c.lineNumber + 1) e c.world.output)
      | .ok i =>
        match { c.world with macroName := some "run-styled" }.addRunHere
            (some ("    " ++ text)) (some i) with
        | .ok w => .ok ⟨c.around, w, c.lineNumber + 3⟩
        | .error e => .error (.raised e c.world.output) := by
  rw [Node.ofRun, Node.eval, Cursor.openBlock_runOpening hstrip hunit hname]
  cases c.world.doc.styleIndex name with
  | error e => rfl
  | ok i =>
    simp only [bind, Except.bind]
    rw [Node.evalOf, Node.eval, Cursor.takeText_indented hstrip hunit depth htext _ rfl]
    simp only [Node.evalOf, bind, Except.bind, List.nil_append, Cursor.closeBlock]
    -- the block closes on its one line, which becomes the run's text
    have hclose : (Frame.styledRun (some i) ["    " ++ text]).close
        { c.world with macroName := some "run-styled" } =
        { c.world with macroName := some "run-styled" }.addRunHere (some ("    " ++ text)) (some i) :=
      rfl
    rw [hclose]
    cases { c.world with macroName := some "run-styled" }.addRunHere (some ("    " ++ text)) (some i)
      <;> rfl

/-- A written paragraph opens its block without looking anything up, evaluates its runs
inside it, and adds its own paragraph only when it closes. -/
theorem Node.eval_ofParagraph (hstrip : layout.stripIndent = false)
    (hunit : layout.indentUnit = .text piece count) {depth : Nat} {name : String}
    {runs : List (String × String)} (hname : PlainName name) (calls : Nat) (c : Cursor) :
    (Node.ofParagraph name runs).eval layout calls depth c = (do
      let inner ← Node.evalOf layout calls (depth + 1) (runs.map fun r => Node.ofRun r.1 r.2)
        ⟨.styledParagraph name [], { c.world with macroName := some "paragraph-styled" },
          c.lineNumber + 1⟩
      Cursor.closeBlock inner.around ⟨c.around, inner.world, inner.lineNumber + 1⟩) := by
  rw [Node.ofParagraph, Node.eval, Cursor.openBlock_paragraphOpening hstrip hunit hname]
  rfl

end Evaluation

/-! ### Writing into the body -/

/-- A run added where the body has no paragraph finds none to join. -/
theorem World.addRunHere_no_paragraph {w : World} (hsink : w.sinkAt w.sink = .body)
    (hbody : w.doc.paragraphs = []) (text : Option String) (style : Option Nat) :
    w.addRunHere text style = .error Fault.indexOutOfRange := by
  simp [World.addRunHere, World.fuel, World.addRun, hsink, hbody]

/-- An empty `paragraph-styled` block that closes at the body adds an empty paragraph of its
style at the end of the body. -/
theorem Frame.close_styledParagraph_nil {w : World} {name : String} {i : Nat}
    {ref : Option String} (hsink : w.sinkAt w.sink = .body) (hi : w.doc.styleIndex name = .ok i)
    (href : w.doc.styleRef .paragraph i = .ok ref) :
    (Frame.styledParagraph name []).close w =
      .ok { w with doc := { w.doc with body := w.doc.body ++ [.paragraph { style := ref }] } } := by
  -- the styles are looked up in the document with the new paragraph, whose sheet is the same
  have hi' : ({ w.doc with body := w.doc.body ++ [.paragraph {}] } : Document.Doc).styleIndex name =
      .ok i := hi
  have href' : ({ w.doc with body := w.doc.body ++ [.paragraph {}] } : Document.Doc).styleRef
      .paragraph i = .ok ref := href
  simp [Frame.close, World.addParagraphHere, World.fuel, World.addParagraph, hsink, joinLines,
    Document.Doc.newParagraph, hi', href', Document.Doc.modifyParagraph,
    Document.modify_concat_length, bind, Except.bind, pure, Except.pure]

/-- The source written for a paragraph, with names and texts that hold no line end, is made of
the lines of its tree. -/
theorem fileLines_written_paragraph {name : String} {runs : List (String × String)}
    (hname : PlainName name) (hruns : ∀ r ∈ runs, PlainName r.1 ∧ '\n' ∉ r.2.toList ∧ '\r' ∉ r.2.toList) :
    Text.fileLines (Text.unifyNewlines (writtenParagraph name runs).toList) =
      Node.linesOf [Node.ofParagraph name runs] := by
  have hend : ∀ s : String, '\n' ∉ s.toList → '\r' ∉ s.toList →
      ∃ b, (s ++ "\n").toList = b ++ ['\n'] ∧ '\n' ∉ b ∧ '\r' ∉ b :=
    fun s h₁ h₂ => ⟨s.toList, by simp, h₁, h₂⟩
  rw [← Node.join_ofParagraph, Text.fileLines_join]
  · simp [Node.linesOf]
  · intro l hl
    simp only [Node.ofParagraph, Node.lines, Node.linesOf_eq_flatMap, List.flatMap_map,
      List.mem_cons, List.mem_append, List.mem_flatMap] at hl
    rcases hl with (rfl | ⟨r, hr, hl⟩) | hl
    · -- the opening line
      have hn := hname.no_line_end
      exact hend _ (by simp [hn.1]) (by simp [hn.2])
    · -- the three lines of a run
      obtain ⟨hrname, htext, hcr⟩ := hruns r hr
      have hn := hrname.no_line_end
      simp only [Node.ofRun, Node.lines, Node.linesOf, List.mem_cons, List.mem_append,
        List.append_nil, List.mem_nil_iff, or_false] at hl
      rcases hl with (rfl | rfl) | rfl
      · exact hend _ (by simp [hn.1]) (by simp [hn.2])
      · exact hend _ (by simp [htext]) (by simp [hcr])
      · exact hend ")" (by decide) (by decide)
    · -- the closing line
      rcases hl with rfl | hl
      · exact hend ")" (by decide) (by decide)
      · simp at hl

/-- Runs written where the body has no paragraph yet fail at the first of them: at its
opening line if its style is missing, at its end line otherwise. -/
theorem Node.evalOf_runs_unplaced {layout : Layout} {piece : String} {count : Nat}
    (hstrip : layout.stripIndent = false) (hunit : layout.indentUnit = .text piece count)
    {depth calls : Nat} {r : String × String} {rest : List (String × String)}
    (hr : PlainName r.1 ∧ '\n' ∉ r.2.toList) {c : Cursor} (hsink : c.world.sinkAt c.world.sink = .body)
    (hbody : c.world.doc.paragraphs = []) :
    Node.evalOf layout calls depth ((r :: rest).map fun r => Node.ofRun r.1 r.2) c =
      .error (match c.world.doc.styleIndex r.1 with
        | .error e => .reported (c.lineNumber + 1) e c.world.output
        | .ok _ => .raised Fault.indexOutOfRange c.world.output) := by
  rw [List.map_cons, Node.evalOf, Node.eval_ofRun hstrip hunit hr.1 hr.2]
  cases c.world.doc.styleIndex r.1 with
  | error e => rfl
  | ok i =>
    -- the run's world differs from the reading's only in the last macro seen
    have hrun := World.addRunHere_no_paragraph (w := { c.world with macroName := some "run-styled" })
      hsink hbody (some ("    " ++ r.2)) (some i)
    simp only [hrun]
    rfl

/-! ### Reading the written source from the start -/

/-- The written source of a paragraph converts as its tree evaluates from the start. -/
theorem convert_writtenParagraph_eq_eval {s : Setup} {fresh : Style.Sheet} {piece : String}
    {count : Nat} (hfresh : s.freshOrFail = .ok fresh) (hstrip : s.layout.stripIndent = false)
    (hunit : s.layout.indentUnit = .text piece count) {name : String}
    {runs : List (String × String)} (hname : PlainName name)
    (hruns : ∀ r ∈ runs, PlainName r.1 ∧ '\n' ∉ r.2.toList ∧ '\r' ∉ r.2.toList) :
    convert s (writtenParagraph name runs) = (do
      let c ← (Node.ofParagraph name runs).eval s.layout (s.calls + 1) 0
        ⟨.top, s.startWorld fresh, 0⟩
      return ⟨[c.world.doc], c.world⟩) := by
  have hnested : ∀ t ∈ [Node.ofParagraph name runs], t.Nested s.layout 0 := by
    intro t ht
    rw [List.mem_singleton.mp ht]
    exact Node.ofParagraph_nested hstrip hunit hname fun r hr => ⟨(hruns r hr).1, (hruns r hr).2.1⟩
  rw [convert_of_nested (fileLines_written_paragraph hname hruns) hnested, hfresh]
  simp only [bind, Except.bind, Node.evalOf]
  cases (Node.ofParagraph name runs).eval s.layout (s.calls + 1) 0 ⟨.top, s.startWorld fresh, 0⟩ <;>
    rfl

/-- The source the writer gives for a paragraph does not read back as that paragraph. Its runs
are added when their blocks close, each to the paragraph that is last at that moment, and the
paragraph itself only after them; read from the start, there is no paragraph before it. So
the source of a paragraph with runs always fails, with an index out of range once the first
run's style is found; the source of a paragraph without runs gives that paragraph, of its
style and with no runs. -/
theorem convert_written_paragraph {s : Setup} {fresh : Style.Sheet} {piece : String}
    {count : Nat} (hfresh : s.freshOrFail = .ok fresh) (hstrip : s.layout.stripIndent = false)
    (hunit : s.layout.indentUnit = .text piece count) {name : String}
    {runs : List (String × String)} (hname : PlainName name)
    (hruns : ∀ r ∈ runs, PlainName r.1 ∧ '\n' ∉ r.2.toList ∧ '\r' ∉ r.2.toList) :
    (runs ≠ [] → ∃ e, convert s (writtenParagraph name runs) = .error e) ∧
    (∀ r rest i, runs = r :: rest → ({ sheet := fresh } : Document.Doc).styleIndex r.1 = .ok i →
      convert s (writtenParagraph name runs) = .error (.raised Fault.indexOutOfRange [])) ∧
    (runs = [] → ∀ i ref, ({ sheet := fresh } : Document.Doc).styleIndex name = .ok i →
      ({ sheet := fresh } : Document.Doc).styleRef .paragraph i = .ok ref →
      ∃ w, convert s (writtenParagraph name runs) =
        .ok ⟨[{ sheet := fresh, body := [.paragraph { style := ref }] }], w⟩) := by
  rw [convert_writtenParagraph_eq_eval hfresh hstrip hunit hname hruns,
    Node.eval_ofParagraph hstrip hunit hname]
  -- with runs, the first of them finds the body empty
  have hunplaced : ∀ r rest, runs = r :: rest →
      Node.evalOf s.layout (s.calls + 1) 1 (runs.map fun r => Node.ofRun r.1 r.2)
        ⟨.styledParagraph name [], { s.startWorld fresh with macroName := some "paragraph-styled" },
          1⟩ =
      .error (match ({ sheet := fresh } : Document.Doc).styleIndex r.1 with
        | .error e => .reported 2 e []
        | .ok _ => .raised Fault.indexOutOfRange []) := by
    rintro r rest rfl
    have hr := hruns r List.mem_cons_self
    exact Node.evalOf_runs_unplaced hstrip hunit ⟨hr.1, hr.2.1⟩ rfl rfl
  refine ⟨fun hne => ?_, fun r rest i hrs hi => ?_, fun hnil i ref hi href => ?_⟩
  · obtain ⟨r, rest, hrs⟩ := List.exists_cons_of_ne_nil hne
    rw [hunplaced r rest hrs]
    exact ⟨_, rfl⟩
  · rw [hunplaced r rest hrs, hi]
    rfl
  · -- without runs, the block closes at once and adds its paragraph to the empty body
    subst hnil
    have hclose := Frame.close_styledParagraph_nil
      (w := { s.startWorld fresh with macroName := some "paragraph-styled" }) rfl hi href
    simp only [List.map_nil, Node.evalOf, bind, Except.bind, Cursor.closeBlock, hclose]
    exact ⟨_, rfl⟩

/-- The source written for a `Normal` paragraph with one run of the `Strong` style, read with
the built-in styles, fails at the run's end line: there is no paragraph for the run yet. -/
theorem written_strong_run_unplaced :
    PlainName "Normal" ∧
      convert ⟨{}, default, {}, 0⟩ (writtenParagraph "Normal" [("Strong", "abc")]) =
        .error (.raised Fault.indexOutOfRange []) := by
  have hfound : (({ sheet := Style.builtinSheet } : Document.Doc).styleIndex "Strong").toOption.isSome =
      true := by
    decide +kernel
  obtain ⟨i, hi⟩ := Option.isSome_iff_exists.mp hfound
  replace hi := Except.eq_ok_of_toOption hi
  have hruns : ∀ r ∈ [("Strong", "abc")], PlainName r.1 ∧ '\n' ∉ r.2.toList ∧ '\r' ∉ r.2.toList := by
    decide +kernel
  exact ⟨by decide +kernel,
    (convert_written_paragraph rfl rfl rfl (by decide +kernel) hruns).2.1 _ _ i rfl hi⟩

end MacroDoc.Engine
