import MacroDoc.Proofs.Reading

/-!
# The sinks in force follow the open blocks

Three kinds of block open a sink of their own: a table cell opens one that writes into its
cell, a data reader one that holds its data, and a numbered block one that numbers the
paragraph it takes. Each saves the sink in force when it opens and puts the saved one back
when it closes, so the saved sinks form a stack beside the stack of open blocks.

This module proves that the two stacks agree along a reading. After every line read, the sink
in force is the one opened by the innermost open block that opens one, of that block's kind,
or the body sink when no such block is open, and each such block saved the sink of the next
one out. Every paragraph written then lands in the cell of the innermost open table cell,
through any data readers and numbered blocks inside it, or in the body when no table cell is
open. In particular a table cell opened inside a numbered block writes into its cell, which
numbers nothing.

One way of reading breaks the agreement, and the statement leaves it out: an ordered list
closes the block it is opened in as it opens, and a block that opened a sink puts the saved
sink back when it closes, though it stays open.

## Main definitions

* `Engine.Frame.savedSink?`: the sink a block saved when it opened one of its own.
* `Engine.SinkStack`: the sinks in force inside a stack of open blocks.
* `Engine.Machine.ListInSink`: a line opens an ordered list inside a block that opened a sink.

## Main results

* `Engine.Frame.close_sinks`, `Engine.Frame.start_opened`: what closing and opening a block
  do to the sinks.
* `Engine.World.addParagraph_owner`: a paragraph lands where its sink's chain ends.
* `Engine.Machine.sinks_follow_blocks`: after every line read, the sinks in force follow the
  open blocks, and a paragraph lands in the cell of the innermost open table cell.
-/

namespace MacroDoc.Document

/-- Whose paragraph sits at a place: the body's or a cell's. -/
def Place.owner : Place → Engine.Owner
  | .body _ => .body
  | .cell block row col _ => .cell block row col

end MacroDoc.Document

namespace MacroDoc.Engine

open Markup

/-- A sink, with whether it has taken anything forgotten. -/
def Sink.unflagged : Sink → Sink
  | .cell block row col _ => .cell block row col false
  | .numbered erasing labels prev _ => .numbered erasing labels prev false
  | s => s

@[simp] theorem Sink.unflagged_eq_body {s : Sink} : s.unflagged = .body ↔ s = .body := by
  cases s <;> simp [Sink.unflagged]

namespace World

variable {w w' w'' : World}

/-- Whose paragraphs a sink sees is read off the sinks with their flags forgotten. -/
theorem owner_succ (w : World) (fuel i : Nat) :
    w.owner (fuel + 1) i =
      match (w.sinkAt i).unflagged with
      | .body => .body
      | .cell block row col _ => .cell block row col
      | .data _ prev => w.owner fuel prev
      | .numbered _ _ prev _ => w.owner fuel prev := by
  simp only [owner]
  cases w.sinkAt i <;> rfl

/-- Worlds whose sinks agree up to their flags agree on whose paragraphs each sink sees. -/
theorem owner_congr (h : ∀ i, (w'.sinkAt i).unflagged = (w.sinkAt i).unflagged) (fuel i : Nat) :
    w'.owner fuel i = w.owner fuel i := by
  induction fuel generalizing i with
  | zero => rfl
  | succ fuel ih =>
    rw [owner_succ, owner_succ, h i]
    cases (w.sinkAt i).unflagged <;> simp [ih]

/-- Changing a sink into one alike changes no sink up to its flags. -/
theorem unflagged_sinkAt_setSink {i : Nat} {s : Sink} (h : s.unflagged = (w.sinkAt i).unflagged)
    (j : Nat) : ((w.setSink i s).sinkAt j).unflagged = (w.sinkAt j).unflagged := by
  by_cases hij : i = j
  · subst hij
    by_cases hi : i < w.sinks.length
    · simpa [sinkAt, setSink, List.getD_eq_getElem?_getD, List.getElem?_set, hi] using h
    · simp [sinkAt, setSink, List.getD_eq_getElem?_getD, hi]
  · simp [sinkAt, setSink, List.getD_eq_getElem?_getD, hij]

/-- What a world keeps of the sinks of another: every sink stays where it was, of the same
kind and for the same cell, data, labels and saved sink; only whether it has taken anything
may change, and more sinks may follow. -/
def SinksKept (w w' : World) : Prop :=
  w.sinks.length ≤ w'.sinks.length ∧
    ∀ i < w.sinks.length, (w'.sinkAt i).unflagged = (w.sinkAt i).unflagged

theorem SinksKept.refl (w : World) : SinksKept w w := ⟨Nat.le_refl _, fun _ _ => rfl⟩

theorem SinksKept.trans (h₁ : SinksKept w w') (h₂ : SinksKept w' w'') : SinksKept w w'' :=
  ⟨Nat.le_trans h₁.1 h₂.1, fun i hi => (h₂.2 i (Nat.lt_of_lt_of_le hi h₁.1)).trans (h₁.2 i hi)⟩

theorem SinksKept.of_sinks_eq (h : w'.sinks = w.sinks) : SinksKept w w' := by
  refine ⟨Nat.le_of_eq (by rw [h]), fun i _ => ?_⟩
  simp only [sinkAt, h]

theorem sinksKept_openSink (w : World) (s : Sink) : SinksKept w (w.openSink s) := by
  refine ⟨by simp [openSink], fun i hi => ?_⟩
  simp [sinkAt, openSink, List.getD_eq_getElem?_getD, List.getElem?_append_left hi]

theorem sinksKept_setSink {i : Nat} {s : Sink} (h : s.unflagged = (w.sinkAt i).unflagged) :
    SinksKept w (w.setSink i s) :=
  ⟨by simp [setSink], fun j _ => unflagged_sinkAt_setSink h j⟩

theorem numberPrefix_sinks {erasing : Bool} {labels : List String} {text : String}
    (h : w.numberPrefix erasing labels = .ok (text, w')) :
    w'.sinks = w.sinks ∧ w'.sink = w.sink := by
  unfold numberPrefix at h
  split at h
  · simp at h
  · simp only [Except.bind_eq_ok, Except.pure_eq_ok] at h
    obtain ⟨_, _, h⟩ := h
    cases h
    exact ⟨rfl, rfl⟩

/-- Writing a paragraph through a sink keeps the sinks and the sink in force. The induction
follows the chain of sinks that pass a paragraph on. -/
theorem addParagraph_sinks {fuel i : Nat} {text style : Option String} {place : Document.Place}
    (h : w.addParagraph fuel i text style = .ok (w', place)) :
    SinksKept w w' ∧ w'.sink = w.sink := by
  induction fuel generalizing w i text with
  | zero => simp [addParagraph] at h
  | succ fuel ih =>
    unfold addParagraph at h
    split at h
    · simp only [Except.bind_eq_ok, Except.pure_eq_ok] at h
      obtain ⟨_, _, h⟩ := h
      cases h
      exact ⟨.of_sinks_eq rfl, rfl⟩
    · rename_i block row col firstAdded hsink
      split at h
      · -- the first paragraph of a cell marks the cell sink as having taken one
        simp only [Except.bind_eq_ok] at h
        obtain ⟨_, _, h⟩ := h
        split at h <;> simp only [Except.bind_eq_ok, Except.pure_eq_ok] at h
        all_goals
          obtain ⟨_, _, h⟩ := h
          cases h
          exact ⟨(SinksKept.of_sinks_eq rfl).trans
            (sinksKept_setSink (by simp [hsink, Sink.unflagged])), rfl⟩
      · simp only [Except.bind_eq_ok, Except.pure_eq_ok] at h
        obtain ⟨_, _, h⟩ := h
        cases h
        exact ⟨.of_sinks_eq rfl, rfl⟩
    · exact ih h
    · rename_i erasing labels prev taken hsink
      split at h
      · simp at h
      · simp only [Except.bind_eq_ok] at h
        obtain ⟨⟨_, w₁⟩, hpre, h⟩ := h
        split at h
        · simp at h
        · obtain ⟨hkept, hs⟩ := ih h
          obtain ⟨hsinks₁, hs₁⟩ := numberPrefix_sinks hpre
          have hset : SinksKept w (w.setSink i (.numbered erasing labels prev true)) :=
            sinksKept_setSink (by simp [hsink, Sink.unflagged])
          exact ⟨hset.trans ((SinksKept.of_sinks_eq hsinks₁).trans hkept), hs.trans hs₁⟩

theorem addParagraphHere_sinks {text style : Option String} {place : Document.Place}
    (h : w.addParagraphHere text style = .ok (w', place)) : SinksKept w w' ∧ w'.sink = w.sink :=
  addParagraph_sinks h

/-- A paragraph written through a sink lands where the chain of sinks from it ends: in the
body, or in the cell of the first cell sink on the chain. -/
theorem addParagraph_owner {fuel i : Nat} {text style : Option String} {place : Document.Place}
    (h : w.addParagraph fuel i text style = .ok (w', place)) : place.owner = w.owner fuel i := by
  induction fuel generalizing w i text with
  | zero => simp [addParagraph] at h
  | succ fuel ih =>
    unfold addParagraph at h
    simp only [owner]
    split at h
    · rename_i hsink
      simp only [Except.bind_eq_ok, Except.pure_eq_ok] at h
      obtain ⟨_, _, h⟩ := h
      cases h
      simp [Document.Place.owner]
    · rename_i block row col firstAdded hsink
      split at h
      · simp only [Except.bind_eq_ok] at h
        obtain ⟨_, _, h⟩ := h
        split at h <;> simp only [Except.bind_eq_ok, Except.pure_eq_ok] at h
        all_goals
          obtain ⟨_, _, h⟩ := h
          cases h
          simp [Document.Place.owner]
      · simp only [Except.bind_eq_ok, Except.pure_eq_ok] at h
        obtain ⟨_, _, h⟩ := h
        cases h
        simp [Document.Place.owner]
    · exact ih h
    · rename_i erasing labels prev taken hsink
      split at h
      · simp at h
      · simp only [Except.bind_eq_ok] at h
        obtain ⟨⟨_, w₁⟩, hpre, h⟩ := h
        split at h
        · simp at h
        · -- the numbering sink is marked as taken, which changes no owner
          have hsame : ∀ j, (w₁.sinkAt j).unflagged = (w.sinkAt j).unflagged := by
            intro j
            have hsinks₁ := (numberPrefix_sinks hpre).1
            have := unflagged_sinkAt_setSink (w := w) (i := i)
              (s := .numbered erasing labels prev true) (by simp [hsink, Sink.unflagged]) j
            simpa only [sinkAt, hsinks₁] using this
          rw [ih h, owner_congr hsame]

theorem addRunToOwner_sinks {o : Owner} {run : Document.Run} (h : w.addRunToOwner o run = .ok w') :
    w'.sinks = w.sinks ∧ w'.sink = w.sink := by
  unfold addRunToOwner at h
  split at h
  · simp only [Except.bind_eq_ok, Except.pure_eq_ok] at h
    obtain ⟨_, _, rfl⟩ := h
    exact ⟨rfl, rfl⟩
  · split at h
    · split at h
      · simp at h
      · cases h
        exact ⟨rfl, rfl⟩
    · simp at h

/-- Writing a run through a sink keeps the sinks and the sink in force. -/
theorem addRun_sinks {fuel i : Nat} {text : Option String} {style : Option Nat}
    (h : w.addRun fuel i text style = .ok w') : SinksKept w w' ∧ w'.sink = w.sink := by
  induction fuel generalizing w i with
  | zero => simp [addRun] at h
  | succ fuel ih =>
    unfold addRun at h
    split at h
    · split at h
      · simp at h
      · simp only [Except.bind_eq_ok, Except.pure_eq_ok] at h
        obtain ⟨_, _, _, _, rfl⟩ := h
        exact ⟨.of_sinks_eq rfl, rfl⟩
    · rename_i block row col firstAdded hsink
      simp only [Except.bind_eq_ok] at h
      obtain ⟨_, _, h⟩ := h
      split at h
      · simp only [Except.pure_eq_ok] at h
        cases h
        exact ⟨sinksKept_setSink (by simp [hsink, Sink.unflagged]), rfl⟩
      · obtain ⟨hsinks, hs⟩ := addRunToOwner_sinks h
        exact ⟨.of_sinks_eq hsinks, hs⟩
    · exact ih h
    · exact ih h

theorem addRunHere_sinks {text : Option String} {style : Option Nat}
    (h : w.addRunHere text style = .ok w') : SinksKept w w' ∧ w'.sink = w.sink :=
  addRun_sinks h

end World

open World

/-- The sink a block saved when it opened one of its own: a table cell, a data reader and a
numbered block each open one. -/
def Frame.savedSink? : Frame → Option Nat
  | .tableCell _ prev => some prev
  | .dataReader prev => some prev
  | .numbered _ _ prev => some prev
  | _ => none

/-- A sink, with its flags forgotten, is of the kind a block opens: a cell sink for a table
cell, a data sink for a data reader and a numbering sink for a numbered block, the last two
with the sink the block saved. -/
def Frame.OpensSink : Frame → Sink → Prop
  | .tableCell _ _, s => ∃ block row col, s = .cell block row col false
  | .dataReader prev, s => ∃ values, s = .data values prev
  | .numbered erasing labels prev, s => s = .numbered erasing labels prev false
  | _, _ => False

/-- What opening the block `f` did to the sinks, from world `w` to world `w'`: the sinks are
kept; a block that opens no sink leaves the sink in force, and one that opens a sink saved the
sink in force and put a new sink of its kind in force, after all the others. -/
def Frame.Opened (f : Frame) (w w' : World) : Prop :=
  SinksKept w w' ∧
    match f.savedSink? with
    | none => w'.sink = w.sink
    | some prev => prev = w.sink ∧ w'.sink = w.sinks.length ∧ w'.sink < w'.sinks.length ∧
        f.OpensSink (w'.sinkAt w'.sink).unflagged

namespace Frame

variable {w w' : World} {f : Frame}

theorem Opened.of_savedSink_none (hf : f.savedSink? = none) (hsinks : w'.sinks = w.sinks)
    (hs : w'.sink = w.sink) : f.Opened w w' := by
  refine ⟨.of_sinks_eq hsinks, ?_⟩
  rw [hf]
  exact hs

/-- Opening a sink of a block's kind, in a world whose sinks are those of `w`. -/
theorem Opened.openSink {w₀ : World} {s : Sink} (hsinks : w₀.sinks = w.sinks) (hf : f.savedSink? = some w.sink) (hkind : f.OpensSink s.unflagged) :
    f.Opened w (w₀.openSink s) := by
  refine ⟨(SinksKept.of_sinks_eq hsinks).trans (sinksKept_openSink w₀ s), ?_⟩
  rw [hf]
  refine ⟨rfl, by simp [World.openSink, hsinks], by simp [World.openSink], ?_⟩
  simpa [World.openSink, sinkAt, List.getD_eq_getElem?_getD] using hkind

/-- Closing a block keeps the sinks. A block that opened a sink puts the sink it saved back in
force; any other block leaves the sink in force as it is. -/
theorem close_sinks (h : f.close w = .ok w') :
    SinksKept w w' ∧ w'.sink = f.savedSink?.getD w.sink := by
  cases f with
  | top | echo | unorderedList | loadStyle | orderedList | table | appendDocument =>
    simp only [close, Except.ok.injEq] at h
    subst h
    exact ⟨.refl w, rfl⟩
  | pageBreak | dataReader prev =>
    simp only [close, Except.ok.injEq] at h
    subst h
    exact ⟨.of_sinks_eq rfl, rfl⟩
  | changeDirectory dir =>
    simp only [close, Except.bind_eq_ok, Except.pure_eq_ok] at h
    obtain ⟨_, _, rfl⟩ := h
    exact ⟨.of_sinks_eq rfl, rfl⟩
  | unorderedItem lines started | orderedItem n lines started =>
    simp only [close, Except.bind_eq_ok, Except.pure_eq_ok] at h
    obtain ⟨⟨w₁, _⟩, h₁, rfl⟩ := h
    exact addParagraphHere_sinks h₁
  | styledParagraph style lines =>
    simp only [close, Except.bind_eq_ok, Except.pure_eq_ok] at h
    obtain ⟨⟨w₁, _⟩, h₁, _, _, _, _, rfl⟩ := h
    obtain ⟨hkept, hs⟩ := addParagraphHere_sinks h₁
    exact ⟨hkept.trans (.of_sinks_eq rfl), hs⟩
  | picture path width height =>
    simp only [close, Except.bind_eq_ok, Except.pure_eq_ok] at h
    obtain ⟨⟨w₁, _⟩, h₁, _, _, _, _, ⟨_, _⟩, _, _, _, _, _, _, _, rfl⟩ := h
    obtain ⟨hkept, hs⟩ := addParagraphHere_sinks h₁
    exact ⟨hkept.trans (.of_sinks_eq rfl), hs⟩
  | caption n lines =>
    simp only [close] at h
    split at h
    · simp at h
    · simp only [Except.bind_eq_ok] at h
      obtain ⟨_, _, h⟩ := h
      obtain ⟨hsinks, hs⟩ := addRunToOwner_sinks h
      exact ⟨.of_sinks_eq hsinks, hs⟩
  | tableCell lines prev =>
    -- the cell's lines are written through its own sink before the saved one is put back
    by_cases hl : lines.isEmpty
    · simp only [close, hl, if_true, Except.bind_eq_ok, Except.pure_eq_ok] at h
      obtain ⟨_, rfl, rfl⟩ := h
      exact ⟨.of_sinks_eq rfl, rfl⟩
    · simp only [close, hl, Bool.false_eq_true, if_false, Except.bind_eq_ok,
        Except.pure_eq_ok] at h
      obtain ⟨⟨w₁, _⟩, h₁, _, rfl, rfl⟩ := h
      exact ⟨(addParagraphHere_sinks h₁).1.trans (.of_sinks_eq rfl), rfl⟩
  | styledRun style lines | pictureNumber | nextPictureNumber =>
    exact addRunHere_sinks h
  | dataField field =>
    simp only [close] at h
    split at h
    · simp at h
    · split at h
      · simp only [Except.bind_eq_ok] at h
        obtain ⟨_, _, h⟩ := h
        exact addRunHere_sinks h
      · simp at h
  | space count =>
    simp only [close, Except.bind_eq_ok] at h
    obtain ⟨_, _, h⟩ := h
    exact addRunHere_sinks h
  | numbered erasing labels prev =>
    simp only [close] at h
    split at h
    · split at h
      · cases h
        exact ⟨.of_sinks_eq rfl, rfl⟩
      · simp at h
    · cases h
      exact ⟨.of_sinks_eq rfl, rfl⟩

/-- What opening a block does to the sinks. An ordered list closes the block it is opened in,
which keeps the sinks as they are only when that block opened none. -/
theorem start_opened {kind : BlockKind} {args : List String} {calls : Nat} {p f p' : Frame}
    (h : start kind args calls p w = .ok (f, p', w'))
    (hlist : kind = .orderedList → p.savedSink? = none) : f.Opened w w' := by
  cases kind with
  | echo | pageBreak | unorderedList | caption | pictureNumber | nextPictureNumber =>
    simp only [start, Except.ok.injEq, Prod.mk.injEq] at h
    obtain ⟨rfl, rfl, rfl⟩ := h
    exact .of_savedSink_none rfl rfl rfl
  | changeDirectory | styledParagraph =>
    simp only [start] at h
    split at h
    · simp only [Except.ok.injEq, Prod.mk.injEq] at h
      obtain ⟨rfl, rfl, rfl⟩ := h
      exact .of_savedSink_none rfl rfl rfl
    · simp at h
  | unorderedItem =>
    -- an item closes the list around it, which opened no sink
    simp only [start] at h
    split at h
    · simp at h
    · rename_i hparent
      simp only [Except.bind_eq_ok, Except.pure_eq_ok, Prod.mk.injEq] at h
      obtain ⟨w₁, h₁, rfl, rfl, rfl⟩ := h
      have hp : p = .unorderedList := by
        cases p <;> simp_all [kind?]
      subst hp
      exact close_sinks h₁
  | orderedList =>
    simp only [start, Except.bind_eq_ok, Except.pure_eq_ok, Prod.mk.injEq] at h
    obtain ⟨w₁, h₁, rfl, rfl, rfl⟩ := h
    obtain ⟨hkept, hs⟩ := close_sinks h₁
    refine ⟨hkept, ?_⟩
    show w₁.sink = w.sink
    rw [hs, hlist rfl]
    rfl
  | orderedItem =>
    simp only [start] at h
    split at h
    · simp only [Except.ok.injEq, Prod.mk.injEq] at h
      obtain ⟨rfl, rfl, rfl⟩ := h
      exact .of_savedSink_none rfl rfl rfl
    · simp at h
  | loadStyle | picture | table =>
    simp only [start] at h
    split at h
    · simp at h
    · simp only [Except.bind_eq_ok, Except.pure_eq_ok, Prod.mk.injEq] at h
      obtain ⟨_, _, _, _, rfl, rfl, rfl⟩ := h
      exact .of_savedSink_none rfl rfl rfl
  | tableCell =>
    simp only [start] at h
    split at h
    · simp at h
    · split at h
      · simp only [Except.bind_eq_ok] at h
        obtain ⟨_, _, _, _, h⟩ := h
        -- a row or a column out of range is refused
        split at h
        · simp [Except.bind_eq_ok] at h
        · split at h
          · simp [Except.bind_eq_ok] at h
          · simp only [Except.pure_eq_ok, Prod.mk.injEq] at h
            obtain ⟨rfl, rfl, rfl⟩ := h
            exact .openSink rfl rfl ⟨_, _, _, rfl⟩
      · simp at h
  | appendDocument =>
    simp only [start] at h
    split at h
    · simp at h
    · simp only [Except.bind_eq_ok] at h
      obtain ⟨_, _, h⟩ := h
      split at h
      · simp only [Except.ok.injEq, Prod.mk.injEq] at h
        obtain ⟨rfl, rfl, rfl⟩ := h
        exact .of_savedSink_none rfl rfl rfl
      · simp at h
  | styledRun | space =>
    simp only [start] at h
    split at h
    · simp only [Except.bind_eq_ok, Except.pure_eq_ok, Prod.mk.injEq] at h
      obtain ⟨_, _, rfl, rfl, rfl⟩ := h
      exact .of_savedSink_none rfl rfl rfl
    · simp only [Except.ok.injEq, Prod.mk.injEq] at h
      obtain ⟨rfl, rfl, rfl⟩ := h
      exact .of_savedSink_none rfl rfl rfl
  | dataReader =>
    simp only [start] at h
    split at h
    · simp at h
    · simp only [Except.bind_eq_ok] at h
      obtain ⟨_, _, h⟩ := h
      split at h
      · simp at h
      · simp only [Except.pure_eq_ok, Prod.mk.injEq] at h
        obtain ⟨rfl, rfl, rfl⟩ := h
        exact .openSink rfl rfl ⟨_, rfl⟩
  | dataField =>
    simp only [start] at h
    split at h
    · simp at h
    · split at h
      · simp only [Except.ok.injEq, Prod.mk.injEq] at h
        obtain ⟨rfl, rfl, rfl⟩ := h
        exact .of_savedSink_none rfl rfl rfl
      · simp at h
  | numbered =>
    -- every way of reading the arguments ends alike: the counters are entered and a
    -- numbering sink is opened
    have hleaf : ∀ {e : Bool} {l : List String},
        (do let x ← (pure (e, l) : Except Fault (Bool × List String))
            let counters ← w.counters.enter x.2
            pure (Frame.numbered x.1 x.2 w.sink, p,
              ({ w with counters } : World).openSink (.numbered x.1 x.2 w.sink false))) =
          Except.ok (f, p', w') → f.Opened w w' := by
      intro e l h
      simp only [Except.bind_eq_ok, Except.pure_eq_ok, Prod.mk.injEq] at h
      obtain ⟨_, rfl, counters, _, rfl, rfl, rfl⟩ := h
      exact .openSink rfl rfl rfl
    simp only [start] at h
    split at h
    · split at h
      · split at h
        · simp [Except.bind_eq_ok] at h
        · exact hleaf h
      · split at h
        · exact hleaf h
        · exact hleaf h
    · exact hleaf h

/-- A block that takes a line stays the block it was: a table cell keeps the sink it saved,
and a block that opened no sink still has none. Data readers and numbered blocks take no
lines. -/
theorem takeLine_cases {line : String} {f' : Frame} (h : f.takeLine line w = .ok f') :
    (f.savedSink? = none ∧ f'.savedSink? = none) ∨
      ∃ lines prev, f = .tableCell lines prev ∧ f' = .tableCell (lines ++ [line]) prev := by
  cases f with
  | tableCell lines prev =>
    simp only [takeLine, Except.ok.injEq] at h
    exact .inr ⟨lines, prev, rfl, h.symm⟩
  | top | styledParagraph | styledRun =>
    simp only [takeLine, Except.ok.injEq] at h
    subst h
    exact .inl ⟨rfl, rfl⟩
  | unorderedItem lines started =>
    simp only [takeLine] at h
    split at h
    · simp at h
    · simp only [Except.bind_eq_ok, Except.pure_eq_ok] at h
      obtain ⟨_, _, rfl⟩ := h
      exact .inl ⟨rfl, rfl⟩
  | orderedItem n lines started =>
    simp only [takeLine] at h
    split at h
    · simp at h
    · cases h
      exact .inl ⟨rfl, rfl⟩
  | caption n lines =>
    simp only [takeLine] at h
    split at h
    · simp only [Except.bind_eq_ok, Except.pure_eq_ok] at h
      obtain ⟨_, _, _, _, rfl⟩ := h
      exact .inl ⟨rfl, rfl⟩
    · cases h
      exact .inl ⟨rfl, rfl⟩
  | _ => simp [takeLine, kind?] at h

end Frame

/-- The sinks in force inside a stack of open blocks, innermost first. `SinkStack w frames cur o`
says that `cur` is the sink put in force by the innermost block of `frames` that opened one,
of that block's kind and, for a data reader or a numbered block, with the sink it saved; the
sink it saved is in turn the one of the next such block out, down to the body sink at 0 when
none is left. Sinks are compared with their flags forgotten, and each comes after the sink
saved before it. `o` is the cell of the innermost table cell among the blocks, or the body. -/
inductive SinkStack (w : World) : List Frame → Nat → Owner → Prop
  | body : 0 < w.sinks.length → w.sinkAt 0 = .body → SinkStack w [] 0 .body
  | keep {f : Frame} {fs : List Frame} {cur : Nat} {o : Owner} :
      SinkStack w fs cur o → f.savedSink? = none → SinkStack w (f :: fs) cur o
  | cell {lines : List String} {fs : List Frame} {prev cur block row col : Nat} {o : Owner} :
      SinkStack w fs prev o → prev < cur → cur < w.sinks.length →
        (w.sinkAt cur).unflagged = .cell block row col false →
        SinkStack w (.tableCell lines prev :: fs) cur (.cell block row col)
  | data {fs : List Frame} {prev cur : Nat} {values : Json.Value} {o : Owner} :
      SinkStack w fs prev o → prev < cur → cur < w.sinks.length →
        (w.sinkAt cur).unflagged = .data values prev →
        SinkStack w (.dataReader prev :: fs) cur o
  | numbered {erasing : Bool} {labels : List String} {fs : List Frame} {prev cur : Nat}
      {o : Owner} :
      SinkStack w fs prev o → prev < cur → cur < w.sinks.length →
        (w.sinkAt cur).unflagged = .numbered erasing labels prev false →
        SinkStack w (.numbered erasing labels prev :: fs) cur o

namespace SinkStack

variable {w w' : World} {fs : List Frame} {f : Frame} {cur : Nat} {o : Owner}

theorem lt (h : SinkStack w fs cur o) : cur < w.sinks.length := by
  induction h with
  | body hlen _ => exact hlen
  | keep _ _ ih => exact ih
  | cell _ _ hcur _ | data _ _ hcur _ | numbered _ _ hcur _ => exact hcur

/-- The stack stays as it is in a world that keeps the sinks. -/
theorem kept (h : SinkStack w fs cur o) (hk : SinksKept w w') : SinkStack w' fs cur o := by
  induction h with
  | body hlen h0 =>
    exact .body (Nat.lt_of_lt_of_le hlen hk.1)
      (Sink.unflagged_eq_body.mp (by rw [hk.2 0 hlen, h0]; rfl))
  | keep _ hf ih => exact .keep ih hf
  | cell _ hlt hcur hs ih => exact .cell ih hlt (Nat.lt_of_lt_of_le hcur hk.1) ((hk.2 _ hcur).trans hs)
  | data _ hlt hcur hs ih => exact .data ih hlt (Nat.lt_of_lt_of_le hcur hk.1) ((hk.2 _ hcur).trans hs)
  | numbered _ hlt hcur hs ih =>
    exact .numbered ih hlt (Nat.lt_of_lt_of_le hcur hk.1) ((hk.2 _ hcur).trans hs)

/-- The chain of sinks from the sink in force ends in the cell of the innermost table cell, or
in the body. The induction follows the stack, and the sinks saved come before the ones that
saved them, so the fuel always suffices. -/
theorem owner (h : SinkStack w fs cur o) : ∀ fuel, cur < fuel → w.owner fuel cur = o := by
  induction h with
  | body _ h0 =>
    rintro (_ | fuel) hfuel
    · omega
    · simp [World.owner, h0]
  | keep _ _ ih => exact ih
  | cell _ _ _ hs _ =>
    rintro (_ | fuel) hfuel
    · omega
    · rw [owner_succ, hs]
  | data _ hlt _ hs ih | numbered _ hlt _ hs ih =>
    rintro (_ | fuel) hfuel
    · omega
    · rw [owner_succ, hs]
      exact ih fuel (by omega)

theorem ownerHere (h : SinkStack w fs w.sink o) : w.ownerHere = o :=
  h.owner _ (Nat.lt_succ_of_lt h.lt)

/-- An ordered list item moves its list on, which opened no sink. -/
theorem replaceHead {p : Frame} (h : SinkStack w (f :: fs) cur o)
    (hp : p = f ∨ ∃ n, f = .orderedList n ∧ p = .orderedList (n + 1)) :
    SinkStack w (p :: fs) cur o := by
  rcases hp with rfl | ⟨n, rfl, rfl⟩
  · exact h
  · cases h with
    | keep h _ => exact .keep h rfl

theorem modifyHead {p : Frame} (h : SinkStack w fs cur o)
    (hp : p = fs.headD .top ∨ ∃ n, fs.headD .top = .orderedList n ∧ p = .orderedList (n + 1)) :
    SinkStack w (fs.modifyHead fun _ => p) cur o := by
  cases fs with
  | nil => exact h
  | cons g gs => exact h.replaceHead hp

/-- A block that opens a sink of its own goes on top of the stack. -/
theorem push {prev : Nat} (h : SinkStack w fs prev o) (hf : f.savedSink? = some prev)
    (hlt : prev < cur) (hcur : cur < w.sinks.length) (hkind : f.OpensSink (w.sinkAt cur).unflagged) :
    ∃ o', SinkStack w (f :: fs) cur o' := by
  cases f with
  | tableCell lines prev' =>
    cases hf
    obtain ⟨block, row, col, hs⟩ := hkind
    exact ⟨_, .cell h hlt hcur hs⟩
  | dataReader prev' =>
    cases hf
    obtain ⟨values, hs⟩ := hkind
    exact ⟨_, .data h hlt hcur hs⟩
  | numbered erasing labels prev' =>
    cases hf
    exact ⟨_, .numbered h hlt hcur hkind⟩
  | _ => simp [Frame.savedSink?] at hf

/-- Opening a block keeps the stack, with the new block on top. -/
theorem opened (h : SinkStack w fs w.sink o) (ho : f.Opened w w') :
    ∃ o', SinkStack w' (f :: fs) w'.sink o' := by
  obtain ⟨hk, hsink⟩ := ho
  cases hf : f.savedSink? with
  | none =>
    rw [hf] at hsink
    rw [hsink]
    exact ⟨o, .keep (h.kept hk) hf⟩
  | some prev =>
    rw [hf] at hsink
    obtain ⟨rfl, hcur, hlen, hkind⟩ := hsink
    exact (h.kept hk).push hf (by rw [hcur]; exact h.lt) hlen hkind

/-- Closing the innermost block takes it off the stack. -/
theorem close {w' : World} (h : SinkStack w (f :: fs) w.sink o) (hc : f.close w = .ok w') :
    ∃ o', SinkStack w' fs w'.sink o' := by
  obtain ⟨hk, hsink⟩ := Frame.close_sinks hc
  cases h with
  | keep h hf =>
    rw [hsink, hf]
    exact ⟨_, h.kept hk⟩
  | cell h _ _ _ | data h _ _ _ | numbered h _ _ _ =>
    rw [hsink]
    exact ⟨_, h.kept hk⟩

/-- Giving a line to the innermost block keeps the stack. -/
theorem takeLine {f' : Frame} {line : String} {w₀ : World} (h : SinkStack w (f :: fs) cur o)
    (ht : f.takeLine line w₀ = .ok f') : SinkStack w (f' :: fs) cur o := by
  rcases Frame.takeLine_cases ht with ⟨hf, hf'⟩ | ⟨lines, prev, rfl, rfl⟩
  · cases h with
    | keep h _ => exact .keep h hf'
    | cell | data | numbered => simp [Frame.savedSink?] at hf
  · cases h with
    | keep _ hf => simp [Frame.savedSink?] at hf
    | cell h hlt hcur hs => exact .cell h hlt hcur hs

end SinkStack

namespace Machine

variable {m m' : Machine} {layout : Layout} {line : String}

/-- A line opens an ordered list, alone or with its block, directly inside a block that
opened a sink. -/
def ListInSink (m : Machine) (layout : Layout) (line : String) : Prop :=
  ∃ info, layout.readAt m.frames.length line = .ok info ∧ info.kind = .macroLine ∧
    (Shape.ofLine? info.text = some .opening ∨ Shape.ofLine? info.text = some .oneLine) ∧
    macroWord info.text = some BlockKind.orderedList.name ∧ m.current.savedSink?.isSome

/-- Beginning a block does to the sinks what opening it does, and moves the block around it
on only as an ordered list item moves its list on. -/
theorem beginBlock_opened {calls : Nat} {text : String} {p f p' : Frame} {w w' : World}
    (h : beginBlock calls text p w = .ok (f, p', w'))
    (hlist : macroWord text = some BlockKind.orderedList.name → p.savedSink? = none) :
    f.Opened w w' ∧ (p' = p ∨ ∃ n, p = .orderedList n ∧ p' = .orderedList (n + 1)) := by
  unfold macroWord at hlist
  cases hs : splitArgs text with
  | nil => simp [beginBlock, hs] at h
  | cons name args =>
    cases hk : BlockKind.ofName? name with
    | none => simp [beginBlock, hs, hk] at h
    | some kind =>
      simp only [beginBlock, hs, hk] at h
      -- the macro name is remembered before the block opens, which touches no sink
      have hopened := Frame.start_opened h fun hkind => hlist (by
        subst hkind
        simp [hs, BlockKind.name_of_ofName? hk])
      exact ⟨hopened, (Frame.start_frame h).1⟩

/-- An ordered list opened by a line that is not `ListInSink` closes a block that opened no
sink. -/
theorem current_savedSink_none {info : LineInfo} (hlist : ¬ m.ListInSink layout line)
    (hread : layout.readAt m.frames.length line = .ok info) (hkind : info.kind = .macroLine)
    (hshape : Shape.ofLine? info.text = some .opening ∨ Shape.ofLine? info.text = some .oneLine)
    (hword : macroWord info.text = some BlockKind.orderedList.name) :
    m.current.savedSink? = none := by
  cases hc : m.current.savedSink? with
  | none => rfl
  | some prev => exact absurd ⟨info, hread, hkind, hshape, hword, by simp [hc]⟩ hlist

/-- One step keeps the sinks in force following the open blocks, unless it opens an ordered
list inside a block that opened a sink. -/
theorem Advance.sinkStack (h : Advance layout m line m') (hlist : ¬ m.ListInSink layout line)
    (hm : ∃ o, SinkStack m.world m.frames m.world.sink o) :
    ∃ o, SinkStack m'.world m'.frames m'.world.sink o := by
  obtain ⟨o, hs⟩ := hm
  cases h with
  | pass => exact ⟨o, hs⟩
  | paragraph => exact ⟨o, hs.kept (.of_sinks_eq rfl)⟩
  | take _ _ _ hframes ht =>
    rw [hframes] at hs
    exact ⟨o, hs.takeLine ht⟩
  | close _ _ _ hframes hc _ =>
    rw [hframes] at hs
    exact hs.close hc
  | enter hread hkind hshape hbegin =>
    obtain ⟨hopened, hp⟩ :=
      beginBlock_opened hbegin (current_savedSink_none hlist hread hkind (.inl hshape))
    exact (hs.modifyHead hp).opened hopened
  | single hread hkind hshape hbegin hc _ =>
    -- a one-line block is opened and closed at once
    obtain ⟨hopened, hp⟩ :=
      beginBlock_opened hbegin (current_savedSink_none hlist hread hkind (.inr hshape))
    obtain ⟨o', hs'⟩ := (hs.modifyHead hp).opened hopened
    exact hs'.close hc

/-- The sinks in force follow the open blocks. Start a reading with no block open and the body
sink alone in force, as every document is read, and let no line open an ordered list directly
inside a block that opened a sink. Then after every line read, the sink in force is the one
the innermost open block that opens one put in force, each such block saved the sink of the
next one out, and a paragraph written lands in the cell of the innermost open table cell, or
in the body when none is open; runs that look for the last paragraph look there too. -/
theorem sinks_follow_blocks {m₀ : Machine} {lines : List String} (hframes : m₀.frames = [])
    (hsinks : m₀.world.sinks = [.body]) (hsink : m₀.world.sink = 0)
    (hlists : ∀ pre line post m₁, lines = pre ++ line :: post → Reads layout m₀ pre m₁ →
      ¬ m₁.ListInSink layout line) :
    ∀ pre m, pre <+: lines → Reads layout m₀ pre m →
      ∃ o, SinkStack m.world m.frames m.world.sink o ∧ m.world.ownerHere = o ∧
        ∀ text style w place, m.world.addParagraphHere text style = .ok (w, place) →
          place.owner = o := by
  rintro pre m ⟨post, rfl⟩ hreads
  have hstart : ∃ o, SinkStack m₀.world m₀.frames m₀.world.sink o := by
    rw [hframes, hsink]
    exact ⟨_, .body (by simp [hsinks]) (by simp [World.sinkAt, hsinks])⟩
  obtain ⟨o, hs⟩ := hreads.invariant (Q := fun m line => ¬ m.ListInSink layout line)
    (fun hm hq hadv => hadv.sinkStack hq hm)
    (fun pre' line post' m₁ hl hr => hlists pre' line (post' ++ post) m₁ (by simp [hl]) hr) hstart
  exact ⟨o, hs, hs.ownerHere, fun _ _ _ _ h => (addParagraph_owner h).trans hs.ownerHere⟩

/-- A table cell inside a numbered block: once the cell has taken its text, the sinks follow
the blocks, and the sink in force sees the cell's paragraphs. -/
theorem sinks_follow_numbered_cell :
    ∃ m, Reads {} { world := { doc := { sheet := [] }, prefixes := default, files := {} } }
        ["(numbered", "(table 1 1", "(table-cell 0 0", "abc"] m ∧
      ∃ o, SinkStack m.world m.frames m.world.sink o ∧ m.world.ownerHere = o := by
  -- no line names an ordered list, at whatever depth it is read
  have hcheck : (["(numbered", "(table 1 1", "(table-cell 0 0", "abc", ")", ")", ")"].all fun l =>
      match Layout.readAt {} 0 l with
      | .ok info => macroWord info.text != some BlockKind.orderedList.name
      | .error _ => true) = true := by decide +kernel
  have hlists : ∀ pre line post m₁,
      ["(numbered", "(table 1 1", "(table-cell 0 0", "abc", ")", ")", ")"] = pre ++ line :: post →
      Reads {} { world := { doc := { sheet := [] }, prefixes := default, files := {} } } pre m₁ →
      ¬ m₁.ListInSink {} line := by
    rintro pre line post m₁ hl - ⟨info, hread, -, -, hword, -⟩
    have hmem : line ∈ ["(numbered", "(table 1 1", "(table-cell 0 0", "abc", ")", ")", ")"] := by
      rw [hl]
      simp
    have hline := List.all_eq_true.mp hcheck line hmem
    have hread0 : Layout.readAt {} 0 line = .ok info := by
      simpa [Layout.readAt] using hread
    rw [hread0] at hline
    simp [hword] at hline
  have hsome : (Machine.readLines
      { world := { doc := { sheet := [] }, prefixes := default, files := {} } } {}
      ["(numbered", "(table 1 1", "(table-cell 0 0", "abc"]).isSome = true := by
    decide +kernel
  obtain ⟨m, hm⟩ := Option.isSome_iff_exists.mp hsome
  have hreads := readLines_eq_some_iff.mp hm
  obtain ⟨o, hstack, howner, -⟩ :=
    sinks_follow_blocks rfl rfl rfl hlists _ m ⟨[")", ")", ")"], rfl⟩ hreads
  exact ⟨m, hreads, o, hstack, howner⟩

end Machine

end MacroDoc.Engine
