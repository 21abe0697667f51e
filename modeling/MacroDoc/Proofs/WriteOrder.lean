import MacroDoc.Proofs.Reading

/-!
# The body is written in order

Content reaches the body of a document in the order it is written, and what is written stays
where it is: a new paragraph goes after all the others, a run goes at the end of the last
paragraph (tables are passed over), and writing into a table cell leaves the body's paragraphs
alone. So along every reading the items of the body's paragraphs only grow at their end.

Blocks write when they end. The lines a block collects become a paragraph at its end line,
after whatever the blocks inside it wrote, and a run macro writes into the last paragraph there
is when it ends. The order of the body is therefore the order of the writes, which is not the
order of the source lines: in `first`, `(paragraph-styled Normal`, `abc`, `(space 3)`, `)`
the blanks go into the paragraph `first`, before the paragraph `abc` written at the end line
(`convert_space_before_block_text`).

## Main definitions

* `Document.Doc.bodyItems`: the items of the body's paragraphs, in order.

## Main results

* `Engine.Frame.close_bodyItems`, `Engine.Frame.start_bodyItems`: closing and opening a block
  only add at the end of the body.
* `Engine.Machine.Reads.bodyItems_prefix`: along a reading, the body only grows at its end.
* `Engine.Machine.run_bodyItems_prefix`: so does the document a reading ends with.
-/

namespace MacroDoc.Document

/-- The items of a paragraph, run after run. -/
def Paragraph.items (p : Paragraph) : List Item := p.runs.flatMap (·.items)

/-- The items a block adds to the body's paragraphs: a paragraph its own, a table none. -/
def Block.paragraphItems : Block → List Item
  | .paragraph p => p.items
  | .table _ => []

/-- The items of the body's paragraphs, in order; what the tables hold is left out. -/
def Doc.bodyItems (d : Doc) : List Item := d.body.flatMap Block.paragraphItems

section Lists

variable {α β : Type} {l r : List α} {i : Nat} {g : α → α}

/-- Changing one entry into one that adds the same items leaves the items alone. -/
theorem flatMap_modify {F : α → List β} (hg : ∀ a, F (g a) = F a) (l : List α) (i : Nat) :
    (l.modify i g).flatMap F = l.flatMap F := by
  induction l generalizing i with
  | nil => simp
  | cons a l ih => cases i <;> simp [hg, ih]

theorem modify_concat_length (l : List α) (a : α) (g : α → α) :
    (l ++ [a]).modify l.length g = l ++ [g a] := by
  induction l with
  | nil => simp
  | cons b l ih => simp [ih]

theorem modify_append_of_lt (h : i < l.length) (r : List α) :
    (l ++ r).modify i g = l.modify i g ++ r := by
  induction l generalizing i with
  | nil => simp at h
  | cons a l ih =>
    cases i with
    | zero => simp
    | succ i => simp [ih (by simpa using h)]

end Lists

namespace Doc

variable {d d' : Doc} {run : Run}

theorem modifyLastParagraph_snoc_paragraph (init : List Block) (p : Paragraph)
    (f : Paragraph → Paragraph) :
    modifyLastParagraph (init ++ [.paragraph p]) f = some (init ++ [.paragraph (f p)]) := by
  simp [modifyLastParagraph, List.findIdx?_cons, modify_concat_length]

/-- The last paragraph of a body that ends with a table is the last one before the table. -/
theorem modifyLastParagraph_snoc_table (init : List Block) (rows : List (List (List Block)))
    (f : Paragraph → Paragraph) :
    modifyLastParagraph (init ++ [.table rows]) f =
      (modifyLastParagraph init f).map (· ++ [.table rows]) := by
  unfold modifyLastParagraph
  simp only [List.reverse_concat, List.findIdx?_cons, Bool.false_eq_true, if_false]
  cases h : List.findIdx? (fun | .paragraph _ => true | .table _ => false) init.reverse with
  | none => rfl
  | some j =>
    obtain ⟨hj, -⟩ := List.findIdx?_eq_some_iff_getElem.mp h
    rw [List.length_reverse] at hj
    simp only [Option.map_some, List.length_append, List.length_singleton]
    rw [show init.length + 1 - 1 - (j + 1) = init.length - 1 - j by omega,
      modify_append_of_lt (by omega)]

/-- A run added to the last paragraph comes after every item of the body. The induction
runs over the body from its end, past the tables that follow the last paragraph. -/
theorem bodyItems_addRunToLast (h : d.addRunToLast run = .ok d') :
    d'.bodyItems = d.bodyItems ++ run.items := by
  unfold addRunToLast at h
  split at h
  · rename_i body hbody
    cases h
    suffices key : ∀ (rev body' : List Block), modifyLastParagraph rev.reverse
        (fun p => { p with runs := p.runs ++ [run] }) = some body' →
        body'.flatMap Block.paragraphItems = rev.reverse.flatMap Block.paragraphItems ++ run.items by
      simpa [bodyItems] using key d.body.reverse body (by simpa using hbody)
    intro rev
    induction rev with
    | nil => simp [modifyLastParagraph]
    | cons b rev ih =>
      intro body' hmod
      simp only [List.reverse_cons] at hmod ⊢
      cases b with
      | paragraph p =>
        rw [modifyLastParagraph_snoc_paragraph] at hmod
        cases hmod
        simp [Block.paragraphItems, Paragraph.items]
      | table rows =>
        rw [modifyLastParagraph_snoc_table] at hmod
        obtain ⟨body₁, h₁, rfl⟩ := Option.map_eq_some_iff.mp hmod
        simp [ih body₁ h₁, Block.paragraphItems]
  · cases h

theorem bodyItems_setCellParagraphs (block row col : Nat) (ps : List Paragraph) :
    (d.setCellParagraphs block row col ps).bodyItems = d.bodyItems :=
  flatMap_modify (fun b => by cases b <;> rfl) _ _

/-- Changing a paragraph of a cell leaves the items of the body alone. -/
theorem bodyItems_modifyParagraph_cell {f : Paragraph → Paragraph} (block row col i : Nat) :
    (d.modifyParagraph (.cell block row col i) f).bodyItems = d.bodyItems := by
  simp only [modifyParagraph]
  split
  · exact bodyItems_setCellParagraphs _ _ _ _
  · rfl

/-- Changing a paragraph without touching its runs leaves the items of the body alone. -/
theorem bodyItems_modifyParagraph {f : Paragraph → Paragraph} (place : Place)
    (hf : ∀ p, (f p).runs = p.runs) : (d.modifyParagraph place f).bodyItems = d.bodyItems := by
  cases place with
  | body i =>
    exact flatMap_modify (fun b => by cases b <;> simp [Block.paragraphItems, Paragraph.items, hf])
      _ _
  | cell block row col i => exact bodyItems_modifyParagraph_cell block row col i

theorem bodyItems_modifyParagraph_style (place : Place) (style : Option String) :
    (d.modifyParagraph place fun p => { p with style }).bodyItems = d.bodyItems :=
  bodyItems_modifyParagraph place fun _ => rfl

/-- A run added to the paragraph last added to the body comes after every item of the body. -/
theorem bodyItems_addRunAt_last {pre : List Block} {p : Paragraph}
    (hbody : d.body = pre ++ [.paragraph p]) :
    (d.addRunAt (.body pre.length) run).bodyItems = d.bodyItems ++ run.items := by
  simp [addRunAt, modifyParagraph, bodyItems, hbody, modify_concat_length, Block.paragraphItems,
    Paragraph.items]

theorem bodyItems_addPageBreak : d.addPageBreak.bodyItems = d.bodyItems ++ [Item.pageBreak] := by
  simp [addPageBreak, bodyItems, Block.paragraphItems, Paragraph.items]

theorem bodyItems_addTable (rows cols : Int) : (d.addTable rows cols).bodyItems = d.bodyItems := by
  simp [addTable, bodyItems, Block.paragraphItems]

end Doc

end MacroDoc.Document

namespace MacroDoc.Engine

open Markup Document

namespace World

variable {w w' : World}

theorem numberPrefix_doc {erasing : Bool} {labels : List String} {text : String}
    (h : w.numberPrefix erasing labels = .ok (text, w')) : w'.doc = w.doc := by
  unfold numberPrefix at h
  split at h
  · simp at h
  · simp only [Except.bind_eq_ok, Except.pure_eq_ok] at h
    obtain ⟨_, _, h⟩ := h
    cases h
    rfl

/-- Writing a paragraph through a sink only adds at the end of the body. A paragraph that
lands in the body is the new last block, at the place the write gives. -/
theorem addParagraph_bodyItems {fuel i : Nat} {text style : Option String} {place : Place}
    (h : w.addParagraph fuel i text style = .ok (w', place)) :
    w.doc.bodyItems <+: w'.doc.bodyItems ∧
      ∀ n, place = .body n → n = w.doc.body.length ∧ ∃ p, w'.doc.body = w.doc.body ++ [.paragraph p] := by
  induction fuel generalizing w i text with
  | zero => simp [addParagraph] at h
  | succ fuel ih =>
    unfold addParagraph at h
    split at h
    · simp only [Except.bind_eq_ok, Except.pure_eq_ok] at h
      obtain ⟨p, _, h⟩ := h
      cases h
      refine ⟨by simp [Doc.bodyItems], fun n hn => ?_⟩
      cases hn
      exact ⟨rfl, p, rfl⟩
    · -- a paragraph written into a cell leaves the body's paragraphs alone
      split at h
      · simp only [Except.bind_eq_ok] at h
        obtain ⟨_, _, h⟩ := h
        split at h <;> simp only [Except.bind_eq_ok, Except.pure_eq_ok] at h
        all_goals
          obtain ⟨_, _, h⟩ := h
          cases h
          refine ⟨?_, fun n hn => by cases hn⟩
          simp [setSink, Doc.bodyItems_modifyParagraph_cell]
      · simp only [Except.bind_eq_ok, Except.pure_eq_ok] at h
        obtain ⟨_, _, h⟩ := h
        cases h
        refine ⟨?_, fun n hn => by cases hn⟩
        simp [Doc.bodyItems_setCellParagraphs]
    · exact ih h
    · split at h
      · simp at h
      · simp only [Except.bind_eq_ok] at h
        obtain ⟨⟨_, w₁⟩, hpre, h⟩ := h
        split at h
        · simp at h
        · -- numbering changes the counters and the sink's flag, not the document
          have hdoc : w₁.doc = w.doc := (numberPrefix_doc hpre).trans rfl
          rw [← hdoc]
          exact ih h

theorem addParagraphHere_bodyItems {text style : Option String} {place : Place}
    (h : w.addParagraphHere text style = .ok (w', place)) :
    w.doc.bodyItems <+: w'.doc.bodyItems ∧
      ∀ n, place = .body n → n = w.doc.body.length ∧ ∃ p, w'.doc.body = w.doc.body ++ [.paragraph p] :=
  addParagraph_bodyItems h

theorem addRunToOwner_bodyItems {o : Owner} {run : Run} (h : w.addRunToOwner o run = .ok w') :
    w.doc.bodyItems <+: w'.doc.bodyItems := by
  unfold addRunToOwner at h
  split at h
  · simp only [Except.bind_eq_ok, Except.pure_eq_ok] at h
    obtain ⟨d, hd, rfl⟩ := h
    simp [Doc.bodyItems_addRunToLast hd]
  · split at h
    · split at h
      · simp at h
      · cases h
        simp [Doc.addRunAt, Doc.bodyItems_modifyParagraph_cell]
    · simp at h

/-- Writing a run through a sink only adds at the end of the body. -/
theorem addRun_bodyItems {fuel i : Nat} {text : Option String} {style : Option Nat}
    (h : w.addRun fuel i text style = .ok w') : w.doc.bodyItems <+: w'.doc.bodyItems := by
  induction fuel generalizing w i with
  | zero => simp [addRun] at h
  | succ fuel ih =>
    unfold addRun at h
    split at h
    · split at h
      · simp at h
      · simp only [Except.bind_eq_ok, Except.pure_eq_ok] at h
        obtain ⟨_, _, d, hd, rfl⟩ := h
        simp [Doc.bodyItems_addRunToLast hd]
    · simp only [Except.bind_eq_ok] at h
      obtain ⟨_, _, h⟩ := h
      split at h
      · simp only [Except.pure_eq_ok] at h
        cases h
        simp [setSink, Doc.addRunAt, Doc.bodyItems_modifyParagraph_cell]
      · exact addRunToOwner_bodyItems h
    · exact ih h
    · exact ih h

theorem addRunHere_bodyItems {text : Option String} {style : Option Nat}
    (h : w.addRunHere text style = .ok w') : w.doc.bodyItems <+: w'.doc.bodyItems :=
  addRun_bodyItems h

end World

open World

namespace Frame

variable {w w' : World} {f : Frame}

/-- Closing a block only adds at the end of the body. -/
theorem close_bodyItems (h : f.close w = .ok w') : w.doc.bodyItems <+: w'.doc.bodyItems := by
  cases f with
  | top | echo | unorderedList | loadStyle | orderedList | table | appendDocument | dataReader =>
    simp only [close, Except.ok.injEq] at h
    subst h
    exact List.prefix_refl _
  | pageBreak =>
    simp only [close, Except.ok.injEq] at h
    subst h
    simp [Doc.bodyItems_addPageBreak]
  | changeDirectory dir =>
    simp only [close, Except.bind_eq_ok, Except.pure_eq_ok] at h
    obtain ⟨_, _, rfl⟩ := h
    exact List.prefix_refl _
  | unorderedItem lines started | orderedItem n lines started =>
    simp only [close, Except.bind_eq_ok, Except.pure_eq_ok] at h
    obtain ⟨⟨w₁, _⟩, h₁, rfl⟩ := h
    exact (addParagraphHere_bodyItems h₁).1
  | styledParagraph style lines =>
    -- the style is set on the paragraph just written, which keeps its runs
    simp only [close, Except.bind_eq_ok, Except.pure_eq_ok] at h
    obtain ⟨⟨w₁, place⟩, h₁, _, _, _, _, rfl⟩ := h
    rw [Doc.bodyItems_modifyParagraph_style]
    exact (addParagraphHere_bodyItems h₁).1
  | picture path width height =>
    -- the picture goes into the paragraph just written for it
    simp only [close, Except.bind_eq_ok, Except.pure_eq_ok] at h
    obtain ⟨⟨w₁, place⟩, h₁, _, _, _, _, ⟨_, _⟩, _, _, _, _, _, _, _, rfl⟩ := h
    obtain ⟨hgrow, hlast⟩ := addParagraphHere_bodyItems h₁
    cases place with
    | body n =>
      obtain ⟨rfl, p, hbody⟩ := hlast n rfl
      simpa [Doc.bodyItems_addRunAt_last hbody] using hgrow.trans (List.prefix_append _ _)
    | cell block row col k =>
      simpa [Doc.addRunAt, Doc.bodyItems_modifyParagraph_cell] using hgrow
  | caption n lines =>
    simp only [close] at h
    split at h
    · simp at h
    · simp only [Except.bind_eq_ok] at h
      obtain ⟨_, _, h⟩ := h
      exact addRunToOwner_bodyItems h
  | tableCell lines prev =>
    by_cases hl : lines.isEmpty
    · simp only [close, hl, if_true, Except.bind_eq_ok, Except.pure_eq_ok] at h
      obtain ⟨_, rfl, rfl⟩ := h
      exact List.prefix_refl _
    · simp only [close, hl, Bool.false_eq_true, if_false, Except.bind_eq_ok,
        Except.pure_eq_ok] at h
      obtain ⟨⟨w₁, _⟩, h₁, _, rfl, rfl⟩ := h
      exact (addParagraphHere_bodyItems h₁).1
  | styledRun style lines | pictureNumber | nextPictureNumber =>
    exact addRunHere_bodyItems h
  | dataField field =>
    simp only [close] at h
    split at h
    · simp at h
    · split at h
      · simp only [Except.bind_eq_ok] at h
        obtain ⟨_, _, h⟩ := h
        exact addRunHere_bodyItems h
      · simp at h
  | space count =>
    simp only [close, Except.bind_eq_ok] at h
    obtain ⟨_, _, h⟩ := h
    exact addRunHere_bodyItems h
  | numbered erasing labels prev =>
    simp only [close] at h
    split at h
    · split at h
      · cases h
        exact List.prefix_refl _
      · simp at h
    · cases h
      exact List.prefix_refl _

/-- Opening a block only adds at the end of the body: an ordered list or a list item closes
the block around it, a table adds a table, and no other block writes. -/
theorem start_bodyItems {kind : BlockKind} {args : List String} {calls : Nat} {p f p' : Frame}
    (h : start kind args calls p w = .ok (f, p', w')) : w.doc.bodyItems <+: w'.doc.bodyItems := by
  cases kind with
  | echo | pageBreak | unorderedList | caption | pictureNumber | nextPictureNumber =>
    simp only [start, Except.ok.injEq, Prod.mk.injEq] at h
    obtain ⟨rfl, rfl, rfl⟩ := h
    exact List.prefix_refl _
  | changeDirectory | styledParagraph =>
    simp only [start] at h
    split at h
    · simp only [Except.ok.injEq, Prod.mk.injEq] at h
      obtain ⟨rfl, rfl, rfl⟩ := h
      exact List.prefix_refl _
    · simp at h
  | unorderedItem =>
    simp only [start] at h
    split at h
    · simp at h
    · simp only [Except.bind_eq_ok, Except.pure_eq_ok, Prod.mk.injEq] at h
      obtain ⟨w₁, h₁, rfl, rfl, rfl⟩ := h
      exact close_bodyItems h₁
  | orderedList =>
    simp only [start, Except.bind_eq_ok, Except.pure_eq_ok, Prod.mk.injEq] at h
    obtain ⟨w₁, h₁, rfl, rfl, rfl⟩ := h
    exact close_bodyItems h₁
  | orderedItem =>
    simp only [start] at h
    split at h
    · simp only [Except.ok.injEq, Prod.mk.injEq] at h
      obtain ⟨rfl, rfl, rfl⟩ := h
      exact List.prefix_refl _
    · simp at h
  | loadStyle | picture | table =>
    -- a style file changes the styles, a table is added after everything
    simp only [start] at h
    split at h
    · simp at h
    · simp only [Except.bind_eq_ok, Except.pure_eq_ok, Prod.mk.injEq] at h
      obtain ⟨_, _, _, _, rfl, rfl, rfl⟩ := h
      first
        | exact List.prefix_refl _
        | simp [Doc.bodyItems_addTable]
  | tableCell =>
    simp only [start] at h
    split at h
    · simp at h
    · split at h
      · simp only [Except.bind_eq_ok] at h
        obtain ⟨_, _, _, _, h⟩ := h
        split at h
        · simp [Except.bind_eq_ok] at h
        · split at h
          · simp [Except.bind_eq_ok] at h
          · simp only [Except.pure_eq_ok, Prod.mk.injEq] at h
            obtain ⟨rfl, rfl, rfl⟩ := h
            exact List.prefix_refl _
      · simp at h
  | appendDocument =>
    simp only [start] at h
    split at h
    · simp at h
    · simp only [Except.bind_eq_ok] at h
      obtain ⟨_, _, h⟩ := h
      split at h
      · simp only [Except.ok.injEq, Prod.mk.injEq] at h
        obtain ⟨rfl, rfl, rfl⟩ := h
        exact List.prefix_refl _
      · simp at h
  | styledRun | space =>
    simp only [start] at h
    split at h
    · simp only [Except.bind_eq_ok, Except.pure_eq_ok, Prod.mk.injEq] at h
      obtain ⟨_, _, rfl, rfl, rfl⟩ := h
      exact List.prefix_refl _
    · simp only [Except.ok.injEq, Prod.mk.injEq] at h
      obtain ⟨rfl, rfl, rfl⟩ := h
      exact List.prefix_refl _
  | dataReader =>
    simp only [start] at h
    split at h
    · simp at h
    · simp only [Except.bind_eq_ok] at h
      obtain ⟨_, _, h⟩ := h
      split at h
      · simp at h
      · simp only [Except.pure_eq_ok, Prod.mk.injEq] at h
        obtain ⟨rfl, rfl, rfl⟩ := h
        exact List.prefix_refl _
  | dataField =>
    simp only [start] at h
    split at h
    · simp at h
    · split at h
      · simp only [Except.ok.injEq, Prod.mk.injEq] at h
        obtain ⟨rfl, rfl, rfl⟩ := h
        exact List.prefix_refl _
      · simp at h
  | numbered =>
    have hleaf : ∀ {e : Bool} {l : List String},
        (do let x ← (pure (e, l) : Except Fault (Bool × List String))
            let counters ← w.counters.enter x.2
            pure (Frame.numbered x.1 x.2 w.sink, p,
              ({ w with counters } : World).openSink (.numbered x.1 x.2 w.sink false))) =
          Except.ok (f, p', w') → w.doc.bodyItems <+: w'.doc.bodyItems := by
      intro e l h
      simp only [Except.bind_eq_ok, Except.pure_eq_ok, Prod.mk.injEq] at h
      obtain ⟨_, rfl, counters, _, rfl, rfl, rfl⟩ := h
      exact List.prefix_refl _
    simp only [start] at h
    split at h
    · split at h
      · split at h
        · simp [Except.bind_eq_ok] at h
        · exact hleaf h
      · split at h
        · exact hleaf h
        · exact hleaf h
    · exact hleaf h

end Frame

/-- Beginning a block only adds at the end of the body. -/
theorem beginBlock_bodyItems {calls : Nat} {text : String} {p f p' : Frame} {w w' : World}
    (h : beginBlock calls text p w = .ok (f, p', w')) : w.doc.bodyItems <+: w'.doc.bodyItems := by
  unfold beginBlock at h
  split at h
  · simp at h
  · split at h
    · simp at h
    · -- the macro name is remembered first, which leaves the document alone
      have hgrow := Frame.start_bodyItems h
      exact hgrow

namespace Machine

variable {m m' : Machine} {layout : Layout} {line : String} {u : Option Fault}

/-- A step that goes on only adds at the end of the body. -/
theorem Advance.bodyItems_extends (h : Advance layout m line m') :
    m.world.doc.bodyItems <+: m'.world.doc.bodyItems := by
  cases h with
  | pass | take => exact List.prefix_refl _
  | paragraph _ _ _ _ hdoc =>
    simp only [Doc.addParagraph, Except.bind_eq_ok, Except.pure_eq_ok] at hdoc
    obtain ⟨_, _, rfl⟩ := hdoc
    simp [Doc.bodyItems]
  | close _ _ _ _ hc _ => exact Frame.close_bodyItems hc
  | enter _ _ _ hbegin => exact beginBlock_bodyItems hbegin
  | single _ _ _ hbegin hc _ => exact (beginBlock_bodyItems hbegin).trans (Frame.close_bodyItems hc)

/-- Along a reading the items of the body only grow at their end: whatever is in the body when
a line is read is still there, in the same order, when any later line is read, and everything
written in between comes after it. -/
theorem Reads.bodyItems_prefix {lines : List String} (h : Reads layout m lines m') :
    m.world.doc.bodyItems <+: m'.world.doc.bodyItems :=
  h.rel (R := fun m m' => m.world.doc.bodyItems <+: m'.world.doc.bodyItems)
    (fun _ => List.prefix_refl _) List.IsPrefix.trans Advance.bodyItems_extends

/-- Reading the end of a paragraph block with a run macro in it, after a paragraph `first`:
the body then holds `first` and more after it. -/
theorem bodyItems_prefix_around_space :
    ∃ m₁ m₂,
      Reads {}
        { world :=
            { doc := { sheet := [{ kind := .paragraph, styleId := "paragraph", name := "paragraph" },
                { kind := .paragraph, styleId := "Normal", name := "Normal" }] }
              prefixes := default
              files := {} } }
        ["first", "(paragraph-styled Normal", "abc"] m₁ ∧
      Reads {} m₁ ["(space 3)", ")"] m₂ ∧ m₁.world.doc.bodyItems <+: m₂.world.doc.bodyItems := by
  -- the whole reading goes on at every line; split it after the paragraph's text
  have hsome : (Machine.readLines
      { world :=
          { doc := { sheet := [{ kind := .paragraph, styleId := "paragraph", name := "paragraph" },
              { kind := .paragraph, styleId := "Normal", name := "Normal" }] }
            prefixes := default
            files := {} } } {}
      (["first", "(paragraph-styled Normal", "abc"] ++ ["(space 3)", ")"])).isSome = true := by
    decide +kernel
  rw [readLines_append] at hsome
  obtain ⟨m₁, hm₁⟩ := Option.isSome_iff_exists.mp (Option.isSome_of_isSome_bind hsome)
  rw [hm₁, Option.bind_some] at hsome
  obtain ⟨m₂, hm₂⟩ := Option.isSome_iff_exists.mp hsome
  have hreads₂ := readLines_eq_some_iff.mp hm₂
  exact ⟨m₁, m₂, readLines_eq_some_iff.mp hm₁, hreads₂, Reads.bodyItems_prefix hreads₂⟩

/-- A step that ends the reading only adds at the end of the body: a closing line outside all
blocks writes nothing, and a block that asks for a document to be appended closes first. -/
theorem step_stop_bodyItems {w : World} (h : m.step layout line = .ok (.stop w)) :
    m.world.doc.bodyItems <+: w.doc.bodyItems := by
  rcases step_stop h with rfl | ⟨f, rest, -, hc⟩ | ⟨text, f, p, w₁, hbegin, hc⟩
  · exact List.prefix_refl _
  · exact Frame.close_bodyItems hc
  · exact (beginBlock_bodyItems hbegin).trans (Frame.close_bodyItems hc)

/-- The document a reading ends with holds the body it started from, with everything written
after it. -/
theorem run_bodyItems_prefix {lines rest : List String} {w : World}
    (h : m.run layout u lines = .ok (w, rest)) : m.world.doc.bodyItems <+: w.doc.bodyItems := by
  have hgrow : ∀ {m₁ : Machine} {pre : List String}, Reads layout m pre m₁ →
      m.world.doc.bodyItems <+: m₁.world.doc.bodyItems :=
    fun hreads => hreads.rel (R := fun m m' => m.world.doc.bodyItems <+: m'.world.doc.bodyItems)
      (fun _ => List.prefix_refl _) List.IsPrefix.trans Advance.bodyItems_extends
  rcases run_eq_ok h with ⟨pre, line, m₁, -, hreads, hstop⟩ | ⟨-, m₁, hreads, hend⟩
  · exact (hgrow hreads).trans (step_stop_bodyItems hstop)
  · have hw : w = m₁.world := by
      unfold run at hend
      split at hend
      · simp at hend
      · cases hend
        rfl
    rw [hw]
    exact hgrow hreads

end Machine

/-- The body does not keep the order of the source: the blanks of a run macro inside a
paragraph block go into the paragraph before the block, ahead of the block's own text, which
is written only at its end line. -/
theorem convert_space_before_block_text :
    (match convert ⟨{}, ⟨[{ kind := .paragraph, styleId := "paragraph", name := "paragraph" }], default⟩,
        {}, 0⟩ "first\n(paragraph-styled Normal\nabc\n(space 3)\n)\n" with
      | .ok r => r.docs.flatMap Document.Doc.bodyItems
      | .error _ => []) = [.text "first", .text "   ", .text "abc"] := by
  decide +kernel

end MacroDoc.Engine
