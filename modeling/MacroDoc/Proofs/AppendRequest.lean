import MacroDoc.Engine.Machine

/-!
# Only a `doc` block asks for a document to be appended

A reading stops for an appended document as soon as the world holds a document to append,
so what keeps a reading going is that nothing else puts one there. This module proves it for
every way blocks act on the world: writing paragraphs and runs through the sinks, closing a
block, and opening one. Opening a `doc` block is the only way to ask, and opening one always
asks.

It also says what opening a block can do to the block around it: leave it as it is, or, for
an item of an ordered list, move the list on to its next number.

## Main results

* `Engine.World.addParagraph_marks`, `Engine.World.addRun_marks`: writing through a sink keeps
  the document to append, and the name of the last macro with it.
* `Engine.Frame.close_marks`, `Engine.Frame.close_appendTarget`: closing a block keeps them.
* `Engine.Frame.start_frame`: what opening a block does to the block around it and to the
  document to append.
-/

namespace MacroDoc

/-- A computation that may fail succeeds through a bind exactly when both its steps do. -/
theorem Except.bind_eq_ok {ε α β : Type} {x : Except ε α} {f : α → Except ε β} {b : β} :
    x >>= f = .ok b ↔ ∃ a, x = .ok a ∧ f a = .ok b := by
  cases x <;> simp [bind, Except.bind]

theorem Except.pure_eq_ok {ε α : Type} {a b : α} : (pure a : Except ε α) = .ok b ↔ a = b := by
  simp [pure, Except.pure]

theorem Except.eq_ok_of_toOption {ε α : Type} {x : Except ε α} {a : α} (h : x.toOption = some a) :
    x = .ok a := by
  cases x <;> simp_all [Except.toOption]

namespace Engine

namespace World

variable {w w' : World}

/-- What only the reader writes into the world: the name of the last macro it met and the
document a block asked to be appended. Writing through the sinks and closing a block leave
both as they are. -/
def marks (w : World) : Option String × Option (String × List String) :=
  (w.macroName, w.appendTarget)

@[simp] theorem print_appendTarget (w : World) (s : String) :
    (w.print s).appendTarget = w.appendTarget := rfl

@[simp] theorem openSink_appendTarget (w : World) (s : Sink) :
    (w.openSink s).appendTarget = w.appendTarget := rfl

@[simp] theorem setSink_appendTarget (w : World) (i : Nat) (s : Sink) :
    (w.setSink i s).appendTarget = w.appendTarget := rfl

theorem numberPrefix_marks {erasing : Bool} {labels : List String} {text : String}
    (h : w.numberPrefix erasing labels = .ok (text, w')) : w'.marks = w.marks := by
  unfold numberPrefix at h
  split at h
  · simp at h
  · simp only [Except.bind_eq_ok, Except.pure_eq_ok] at h
    obtain ⟨_, _, h⟩ := h
    cases h
    rfl

/-- Writing a paragraph through a sink keeps the reader's marks. The induction follows
the chain of sinks that pass a paragraph on. -/
theorem addParagraph_marks {fuel i : Nat} {text style : Option String}
    {place : Document.Place} (h : w.addParagraph fuel i text style = .ok (w', place)) :
    w'.marks = w.marks := by
  induction fuel generalizing w i text with
  | zero => simp [addParagraph] at h
  | succ fuel ih =>
    unfold addParagraph at h
    split at h
    · simp only [Except.bind_eq_ok, Except.pure_eq_ok] at h
      obtain ⟨_, _, h⟩ := h
      cases h
      rfl
    · split at h
      · simp only [Except.bind_eq_ok] at h
        obtain ⟨_, _, h⟩ := h
        -- the first paragraph of a cell, with or without a style
        split at h <;> simp only [Except.bind_eq_ok, Except.pure_eq_ok] at h
        all_goals
          obtain ⟨_, _, h⟩ := h
          cases h
          rfl
      · simp only [Except.bind_eq_ok, Except.pure_eq_ok] at h
        obtain ⟨_, _, h⟩ := h
        cases h
        rfl
    · exact ih h
    · split at h
      · simp at h
      · simp only [Except.bind_eq_ok] at h
        obtain ⟨⟨_, w₁⟩, hpre, h⟩ := h
        split at h
        · simp at h
        · rw [ih h, numberPrefix_marks hpre]
          rfl

theorem addParagraphHere_marks {text style : Option String} {place : Document.Place}
    (h : w.addParagraphHere text style = .ok (w', place)) : w'.marks = w.marks :=
  addParagraph_marks h

theorem addRunToOwner_marks {o : Owner} {run : Document.Run}
    (h : w.addRunToOwner o run = .ok w') : w'.marks = w.marks := by
  unfold addRunToOwner at h
  split at h
  · simp only [Except.bind_eq_ok, Except.pure_eq_ok] at h
    obtain ⟨_, _, rfl⟩ := h
    rfl
  · split at h
    · split at h
      · simp at h
      · cases h
        rfl
    · simp at h

/-- Writing a run through a sink keeps the reader's marks. -/
theorem addRun_marks {fuel i : Nat} {text : Option String} {style : Option Nat}
    (h : w.addRun fuel i text style = .ok w') : w'.marks = w.marks := by
  induction fuel generalizing w i with
  | zero => simp [addRun] at h
  | succ fuel ih =>
    unfold addRun at h
    split at h
    · split at h
      · simp at h
      · simp only [Except.bind_eq_ok, Except.pure_eq_ok] at h
        obtain ⟨_, _, _, _, rfl⟩ := h
        rfl
    · simp only [Except.bind_eq_ok] at h
      obtain ⟨_, _, h⟩ := h
      split at h
      · cases h
        rfl
      · exact addRunToOwner_marks h
    · exact ih h
    · exact ih h

theorem addRunHere_marks {text : Option String} {style : Option Nat}
    (h : w.addRunHere text style = .ok w') : w'.marks = w.marks :=
  addRun_marks h

end World

namespace Frame

open World

variable {w w' : World}

/-- Closing a block keeps the reader's marks. -/
theorem close_marks {f : Frame} (h : f.close w = .ok w') : w'.marks = w.marks := by
  cases f with
  | top | echo | unorderedList | loadStyle | orderedList | table | appendDocument | dataReader
  | pageBreak =>
    simp only [close, Except.ok.injEq] at h
    subst h
    rfl
  | changeDirectory dir =>
    simp only [close, Except.bind_eq_ok, Except.pure_eq_ok] at h
    obtain ⟨_, _, rfl⟩ := h
    rfl
  | unorderedItem lines started | orderedItem n lines started =>
    simp only [close, Except.bind_eq_ok, Except.pure_eq_ok] at h
    obtain ⟨⟨w₁, _⟩, h₁, rfl⟩ := h
    exact addParagraphHere_marks h₁
  | styledParagraph style lines =>
    simp only [close, Except.bind_eq_ok, Except.pure_eq_ok] at h
    obtain ⟨⟨w₁, _⟩, h₁, _, _, _, _, rfl⟩ := h
    exact (addParagraphHere_marks h₁ :)
  | picture path width height =>
    simp only [close, Except.bind_eq_ok, Except.pure_eq_ok] at h
    obtain ⟨⟨w₁, _⟩, h₁, _, _, _, _, ⟨_, _⟩, _, _, _, _, _, _, _, rfl⟩ := h
    exact (addParagraphHere_marks h₁ :)
  | caption n lines =>
    simp only [close] at h
    split at h
    · simp at h
    · simp only [Except.bind_eq_ok] at h
      obtain ⟨_, _, h⟩ := h
      exact addRunToOwner_marks h
  | tableCell lines prev =>
    by_cases hl : lines.isEmpty
    · simp only [close, hl, if_true, Except.bind_eq_ok, Except.pure_eq_ok] at h
      obtain ⟨_, rfl, rfl⟩ := h
      rfl
    · simp only [close, hl, Bool.false_eq_true, if_false, Except.bind_eq_ok,
        Except.pure_eq_ok] at h
      obtain ⟨⟨w₁, _⟩, h₁, _, rfl, rfl⟩ := h
      exact (addParagraphHere_marks h₁ :)
  | styledRun style lines | pictureNumber | nextPictureNumber =>
    exact addRunHere_marks h
  | dataField field =>
    simp only [close] at h
    split at h
    · simp at h
    · split at h
      · simp only [Except.bind_eq_ok] at h
        obtain ⟨_, _, h⟩ := h
        exact addRunHere_marks h
      · simp at h
  | space count =>
    simp only [close, Except.bind_eq_ok] at h
    obtain ⟨_, _, h⟩ := h
    exact addRunHere_marks h
  | numbered erasing labels prev =>
    simp only [close] at h
    split at h
    · split at h
      · cases h
        rfl
      · simp at h
    · cases h
      rfl

/-- Closing a block keeps the document to append. -/
theorem close_appendTarget {f : Frame} (h : f.close w = .ok w') :
    w'.appendTarget = w.appendTarget :=
  congrArg Prod.snd (close_marks h)

/-- What opening a block does. The block around it is left as it is, except that an item of
an ordered list moves the list on to its next number. A `doc` block asks for a document to be
appended, and no other block touches that request. -/
theorem start_frame {kind : BlockKind} {args : List String} {calls : Nat} {p f p' : Frame}
    (h : start kind args calls p w = .ok (f, p', w')) :
    (p' = p ∨ ∃ n, p = .orderedList n ∧ p' = .orderedList (n + 1)) ∧
      (kind = .appendDocument → w'.appendTarget.isSome) ∧
      (kind ≠ .appendDocument → w'.appendTarget = w.appendTarget) := by
  cases kind with
  | echo | pageBreak | unorderedList | caption | pictureNumber | nextPictureNumber =>
    simp only [start, Except.ok.injEq, Prod.mk.injEq] at h
    obtain ⟨rfl, rfl, rfl⟩ := h
    simp
  | changeDirectory | styledParagraph =>
    simp only [start] at h
    split at h
    · simp only [Except.ok.injEq, Prod.mk.injEq] at h
      obtain ⟨rfl, rfl, rfl⟩ := h
      simp
    · simp at h
  | unorderedItem =>
    simp only [start] at h
    split at h
    · simp at h
    · simp only [Except.bind_eq_ok, Except.pure_eq_ok, Prod.mk.injEq] at h
      obtain ⟨w₁, h₁, rfl, rfl, rfl⟩ := h
      simp [close_appendTarget h₁]
  | orderedList =>
    simp only [start, Except.bind_eq_ok, Except.pure_eq_ok, Prod.mk.injEq] at h
    obtain ⟨w₁, h₁, rfl, rfl, rfl⟩ := h
    simp [close_appendTarget h₁]
  | orderedItem =>
    simp only [start] at h
    split at h
    · simp only [Except.ok.injEq, Prod.mk.injEq] at h
      obtain ⟨rfl, rfl, rfl⟩ := h
      simp
    · simp at h
  | loadStyle | picture | table =>
    simp only [start] at h
    split at h
    · simp at h
    · simp only [Except.bind_eq_ok, Except.pure_eq_ok, Prod.mk.injEq] at h
      obtain ⟨_, _, _, _, rfl, rfl, rfl⟩ := h
      simp
  | tableCell =>
    simp only [start] at h
    split at h
    · simp at h
    · split at h
      · simp only [Except.bind_eq_ok] at h
        obtain ⟨_, _, _, _, h⟩ := h
        -- a row or a column out of range is refused
        split at h
        · simp [Except.bind_eq_ok] at h
        · split at h
          · simp [Except.bind_eq_ok] at h
          · simp only [Except.pure_eq_ok, Prod.mk.injEq] at h
            obtain ⟨rfl, rfl, rfl⟩ := h
            simp
      · simp at h
  | appendDocument =>
    simp only [start] at h
    split at h
    · simp at h
    · simp only [Except.bind_eq_ok] at h
      obtain ⟨_, _, h⟩ := h
      split at h
      · simp only [Except.ok.injEq, Prod.mk.injEq] at h
        obtain ⟨rfl, rfl, rfl⟩ := h
        simp
      · simp at h
  | styledRun | space =>
    simp only [start] at h
    split at h
    · simp only [Except.bind_eq_ok, Except.pure_eq_ok, Prod.mk.injEq] at h
      obtain ⟨_, _, rfl, rfl, rfl⟩ := h
      simp
    · simp only [Except.ok.injEq, Prod.mk.injEq] at h
      obtain ⟨rfl, rfl, rfl⟩ := h
      simp
  | dataReader =>
    simp only [start] at h
    split at h
    · simp at h
    · simp only [Except.bind_eq_ok] at h
      obtain ⟨_, _, h⟩ := h
      split at h
      · simp at h
      · simp only [Except.pure_eq_ok, Prod.mk.injEq] at h
        obtain ⟨rfl, rfl, rfl⟩ := h
        simp
  | dataField =>
    simp only [start] at h
    split at h
    · simp at h
    · split at h
      · simp only [Except.ok.injEq, Prod.mk.injEq] at h
        obtain ⟨rfl, rfl, rfl⟩ := h
        simp
      · simp at h
  | numbered =>
    -- every way of reading the arguments ends alike: the counters are entered and a
    -- numbering sink is opened
    have hleaf : ∀ {e : Bool} {l : List String},
        (do let x ← (pure (e, l) : Except Fault (Bool × List String))
            let counters ← w.counters.enter x.2
            pure (Frame.numbered x.1 x.2 w.sink, p,
              ({ w with counters } : World).openSink (.numbered x.1 x.2 w.sink false))) =
          Except.ok (f, p', w') → p' = p ∧ w'.appendTarget = w.appendTarget := by
      intro e l h
      simp only [Except.bind_eq_ok, Except.pure_eq_ok, Prod.mk.injEq] at h
      obtain ⟨_, rfl, _, _, rfl, rfl, rfl⟩ := h
      simp
    simp only [start] at h
    split at h
    · split at h
      · split at h
        · simp [Except.bind_eq_ok] at h
        · exact ⟨.inl (hleaf h).1, by simp, fun _ => (hleaf h).2⟩
      · split at h
        · exact ⟨.inl (hleaf h).1, by simp, fun _ => (hleaf h).2⟩
        · exact ⟨.inl (hleaf h).1, by simp, fun _ => (hleaf h).2⟩
    · exact ⟨.inl (hleaf h).1, by simp, fun _ => (hleaf h).2⟩

/-- Opened outside all blocks, a block leaves the document itself as the block around it. -/
theorem start_top {kind : BlockKind} {args : List String} {calls : Nat} {f p' : Frame}
    (h : start kind args calls .top w = .ok (f, p', w')) : p' = .top := by
  rcases (start_frame h).1 with rfl | ⟨n, hn, _⟩
  · rfl
  · cases hn

end Frame

/-- The word a kind of block is named by is the word it was looked up with. -/
theorem BlockKind.name_of_ofName? {word : String} {kind : BlockKind}
    (h : BlockKind.ofName? word = some kind) : kind.name = word := by
  have := List.find?_some h
  simpa using this

end Engine

end MacroDoc
