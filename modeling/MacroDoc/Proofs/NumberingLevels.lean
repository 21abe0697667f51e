import MacroDoc.Proofs.OutlineNumbering
import MacroDoc.Proofs.SinkStack
import MacroDoc.Proofs.FaultReports
import Mathlib.Logic.Relation

/-!
# The numbering never runs out of levels

A numbered block enters its labels into the counters when it opens: the levels from the
first label that differs from the last numbered paragraph's are cleared, one after another, a
level just past the last being added. Its paragraph then reads one level per label, and the
counters refuse labels that are more than the levels. Neither refusal ever happens in a
conversion.

What keeps them away is `World.LevelsSuffice`: there is a level for each label of the last
numbered paragraph, and every numbering sink, in force or not, has a level for each of its
labels and at least one. The first part makes the first differing label no further than one
past the last level, so entering never fails; entering makes the levels fit the new block's
labels, and levels are never taken away, so the second part holds of every sink from the
moment it is opened, and numbering through it never fails. Numbering a paragraph keeps the
levels and remembers labels that fit, and nothing else touches the counters but erasing a
label, which keeps their number; so every block that opens or closes, and every line read,
keeps `World.LevelsSuffice`. A conversion starts with no counters and carries them over
from one document to the next, so it holds of every machine a conversion passes through.

## Main definitions

* `Engine.Counters.Fits`: the counters have the levels numbering with some labels needs.
* `Engine.World.LevelsSuffice`: the numbering of a world never runs out of levels.
* `Engine.Setup.Moves`: one move of a conversion, a line read or a new document begun.

## Main results

* `Engine.Counters.enter_ok`: entering labels never fails while the last paragraph's labels
  have their levels, makes the levels fit the new labels, and keeps the levels above the first
  label that departs from the last paragraph's.
* `Engine.Counters.prefixFor_eq_ok`: numbering succeeds exactly with labels that fit.
* `Engine.Frame.close_levelsSuffice`, `Engine.Frame.start_levelsSuffice`: closing and
  opening a block keep the levels sufficient and never take a level away.
* `Engine.Machine.Advance.levelsSuffice`, `Engine.Machine.step_stop_levelsSuffice`: so does
  every line read.
* `Engine.numbering_levels_suffice`: along a conversion the levels never shrink, and entering
  a block and numbering through any numbering sink never fail.
-/

namespace MacroDoc.Engine

namespace Counters

/-- The counters have the levels that numbering with some labels needs: one per label, and at
least one, for a block without labels numbers with one. -/
def Fits (c : Counters) (labels : List String) : Prop := max labels.length 1 ≤ c.levels.length

/-- The first position where labels differ from the last numbered paragraph's is a position
of the labels, and no further than one past the last paragraph's labels. -/
theorem firstChange_some {c : Counters} {labels : List String} {i : Nat}
    (h : c.firstChange labels = some i) : i < labels.length ∧ i ≤ c.previous.length := by
  obtain ⟨⟨l, j⟩, hfind, rfl⟩ := Option.map_eq_some_iff.mp h
  obtain ⟨-, k, hk, hget, hbefore⟩ := List.find?_eq_some_iff_getElem.mp hfind
  have hk' : k < labels.length := by simpa using hk
  have hj : j = k := by
    rw [List.getElem_zipIdx] at hget
    simp at hget
    omega
  subst hj
  refine ⟨hk', Nat.le_of_not_lt fun hlt => ?_⟩
  -- the position past the last paragraph's labels comes first and already differs
  have := hbefore c.previous.length hlt
  simp [List.getElem_zipIdx] at this

/-- Labels that nowhere differ from the last numbered paragraph's are no more than those. -/
theorem firstChange_none {c : Counters} {labels : List String}
    (h : c.firstChange labels = none) : labels.length ≤ c.previous.length := by
  have hnone : labels.zipIdx.find? (fun x => x.2 == c.previous.length || c.previous[x.2]? != some x.1) = none := by
    simpa [firstChange] using h
  refine Nat.le_of_not_lt fun hlt => ?_
  have hmem : (labels[c.previous.length], c.previous.length) ∈ labels.zipIdx := by
    rw [List.mem_zipIdx_iff_getElem?]
    simp [List.getElem?_eq_getElem hlt]
  have := List.find?_eq_none.mp hnone _ hmem
  simp at this

/-- Entering labels never fails while there is a level for each label of the last numbered
paragraph. The levels grow to fit the labels, and there is at least one; every level above the
first position where the labels depart from the last paragraph's is kept. -/
theorem enter_ok {c : Counters} (hc : c.previous.length ≤ c.levels.length)
    (labels : List String) :
    ∃ levels, c.enter labels = .ok { c with levels } ∧ c.levels.length ≤ levels.length ∧
      max labels.length 1 ≤ levels.length ∧
      ∀ L, (∀ i, c.firstChange labels = some i → L < i) → levels.getD L [] = c.levels.getD L [] := by
  unfold enter
  by_cases he : (labels.isEmpty && c.levels.isEmpty) = true
  · -- a block without labels, with no level yet, makes an empty first level
    obtain ⟨hl, hlv⟩ : labels = [] ∧ c.levels = [] := by simpa using he
    subst hl
    obtain ⟨levels, hclear, hlen, hget⟩ := clearLevels_ok c 1 (Nat.zero_le _)
    have hnone : ({ c with levels } : Counters).firstChange [] = none := rfl
    simp only [he, if_true, hclear, bind, Except.bind, hnone]
    refine ⟨levels, rfl, by simp [hlv], by simpa using hlen, fun L _ => ?_⟩
    rw [hget, hlv]
    split <;> simp
  · simp only [he, Bool.false_eq_true, if_false, pure_bind]
    cases hfirst : c.firstChange labels with
    | none =>
      -- labels that agree with the last paragraph's have their levels already
      have hle := firstChange_none hfirst
      refine ⟨c.levels, rfl, Nat.le_refl _, ?_, fun _ _ => rfl⟩
      rcases labels with _ | ⟨l, ls⟩
      · have : c.levels ≠ [] := by simpa using he
        have := List.length_pos_of_ne_nil this
        simp only [List.length_nil]
        omega
      · simp only [List.length_cons] at hle ⊢
        omega
    | some i =>
      obtain ⟨hi, hip⟩ := firstChange_some hfirst
      obtain ⟨levels, hclear, hlen, hget⟩ := clearLevels_ok c
        (max c.levels.length labels.length) (show i ≤ c.levels.length by omega)
      refine ⟨levels, hclear, by omega, by omega, fun L hL => ?_⟩
      rw [hget, if_neg (by have := hL i rfl; omega)]

/-- Entering a numbered block never fails while there is a level for each label of the last
numbered paragraph: the levels grow to fit the block's labels, and the last paragraph's
labels are kept. -/
theorem enter_fits {c : Counters} (hc : c.previous.length ≤ c.levels.length)
    (labels : List String) :
    ∃ c', c.enter labels = .ok c' ∧ c'.previous = c.previous ∧
      c.levels.length ≤ c'.levels.length ∧ c'.Fits labels := by
  obtain ⟨levels, henter, hgrow, hfits, -⟩ := enter_ok hc labels
  exact ⟨_, henter, rfl, hgrow, hfits⟩

/-- Reading a number keeps the number of levels. -/
theorem readNumber_length (levels : List Level) (i : Nat) (label : String) :
    (readNumber levels i label).2.length = levels.length := by
  unfold readNumber
  dsimp only
  split <;> simp

/-- Numbering the parents of a paragraph keeps the number of levels. -/
theorem foldl_numberParent_length (ps : List (String × Nat)) (acc : String × List Level) :
    (ps.foldl numberParent acc).2.length = acc.2.length := by
  induction ps generalizing acc with
  | nil => rfl
  | cons p ps ih =>
    rw [List.foldl_cons, ih]
    exact readNumber_length acc.2 p.2 p.1

/-- Numbering a paragraph succeeds exactly when it has labels, no more than the levels. It
keeps the number of levels and remembers the labels. -/
theorem prefixFor_eq_ok {c c' : Counters} {labels : List String} {text : String}
    (h : c.prefixFor labels = .ok (text, c')) :
    labels ≠ [] ∧ labels.length ≤ c.levels.length ∧ c'.levels.length = c.levels.length ∧
      c'.previous = labels := by
  unfold prefixFor at h
  split at h
  · cases h
  · rename_i hok
    simp only [Bool.or_eq_true, List.isEmpty_iff, decide_eq_true_eq, not_or, Nat.not_lt] at hok
    dsimp only at h
    rw [List.foldl_ext _ numberParent _ (fun acc p _ => by obtain ⟨label, i⟩ := p; rfl)] at h
    have hlv := foldl_numberParent_length labels.dropLast.zipIdx ("", c.levels)
    generalize labels.dropLast.zipIdx.foldl numberParent ("", c.levels) = r at h hlv
    obtain ⟨text₀, lv⟩ := r
    obtain ⟨-, rfl⟩ := Prod.mk.inj (Except.ok.inj h)
    exact ⟨hok.1, hok.2, by simp [readNumber_length, hlv], rfl⟩

/-- Numbering with labels, no more than the levels, succeeds. -/
theorem prefixFor_ok {c : Counters} {labels : List String} (hne : labels ≠ [])
    (hle : labels.length ≤ c.levels.length) : ∃ r, c.prefixFor labels = .ok r := by
  unfold prefixFor
  rw [if_neg (by simp [hne]; omega)]
  exact ⟨_, rfl⟩

end Counters

/-- The labels of a numbering sink; other sinks have none. -/
def Sink.labels? : Sink → Option (List String)
  | .numbered _ labels _ _ => some labels
  | _ => none

@[simp] theorem Sink.labels?_unflagged (s : Sink) : s.unflagged.labels? = s.labels? := by
  cases s <;> rfl

namespace World

/-- The numbering of a world never runs out of levels: there is a level for each label of the
last numbered paragraph, and every numbering sink, in force or not, fits its labels. -/
structure LevelsSuffice (w : World) : Prop where
  previous_le : w.counters.previous.length ≤ w.counters.levels.length
  sink_fits : ∀ i labels, (w.sinkAt i).labels? = some labels → w.counters.Fits labels

variable {w w' : World}

/-- A world with the counters of another and sinks of the same labels. -/
theorem LevelsSuffice.of_same (hw : w.LevelsSuffice) (hc : w'.counters = w.counters)
    (hs : ∀ j, (w'.sinkAt j).labels? = (w.sinkAt j).labels?) : w'.LevelsSuffice where
  previous_le := hc ▸ hw.previous_le
  sink_fits i labels h := hc ▸ hw.sink_fits i labels ((hs i).symm.trans h)

/-- A world with another document. -/
theorem LevelsSuffice.doc (hw : w.LevelsSuffice) (d : Document.Doc) :
    ({ w with doc := d } : World).LevelsSuffice :=
  hw.of_same rfl fun _ => rfl

/-- A world with another macro name remembered. -/
theorem LevelsSuffice.macroName (hw : w.LevelsSuffice) (name : Option String) :
    ({ w with macroName := name } : World).LevelsSuffice :=
  hw.of_same rfl fun _ => rfl

/-- Counters that remember the same last labels and have no fewer levels. -/
theorem LevelsSuffice.grow (hw : w.LevelsSuffice) {c : Counters}
    (hprev : c.previous = w.counters.previous) (hlen : w.counters.levels.length ≤ c.levels.length) :
    ({ w with counters := c } : World).LevelsSuffice where
  previous_le := by
    show c.previous.length ≤ c.levels.length
    have := hw.previous_le
    rw [hprev]
    omega
  sink_fits i labels h := by
    have := hw.sink_fits i labels h
    unfold Counters.Fits at this ⊢
    show _ ≤ c.levels.length
    omega

/-- Changing a sink into one alike keeps the levels sufficient. -/
theorem LevelsSuffice.setSink (hw : w.LevelsSuffice) {i : Nat} {s : Sink}
    (h : s.unflagged = (w.sinkAt i).unflagged) : (w.setSink i s).LevelsSuffice :=
  hw.of_same rfl fun j => by
    have := congrArg Sink.labels? (unflagged_sinkAt_setSink h j)
    simpa using this

/-- Opening a sink that fits its labels, if it has any, keeps the levels sufficient. -/
theorem LevelsSuffice.openSink (hw : w.LevelsSuffice) {s : Sink}
    (hs : ∀ labels, s.labels? = some labels → w.counters.Fits labels) :
    (w.openSink s).LevelsSuffice where
  previous_le := hw.previous_le
  sink_fits i labels h := by
    simp only [World.openSink, sinkAt, List.getD_eq_getElem?_getD, List.getElem?_append] at h
    by_cases hi : i < w.sinks.length
    · rw [if_pos hi] at h
      exact hw.sink_fits i labels (by simpa [sinkAt, List.getD_eq_getElem?_getD] using h)
    · rw [if_neg hi] at h
      by_cases hi' : i = w.sinks.length
      · subst hi'
        exact hs labels (by simpa using h)
      · have hpos : i - w.sinks.length ≠ 0 := by omega
        simp [hpos, Sink.labels?] at h

/-- Numbering a paragraph keeps the levels sufficient and their number: the labels it
remembers are ones it could number with. -/
theorem LevelsSuffice.numberPrefix (hw : w.LevelsSuffice) {erasing : Bool} {labels : List String}
    {text : String} (h : w.numberPrefix erasing labels = .ok (text, w')) :
    w'.LevelsSuffice ∧ w'.counters.levels.length = w.counters.levels.length := by
  unfold World.numberPrefix at h
  split at h
  · cases h
  · simp only [Except.bind_eq_ok, Except.pure_eq_ok] at h
    obtain ⟨⟨text', c'⟩, hpre, h⟩ := h
    cases h
    obtain ⟨-, hle, hlen, hprev⟩ := Counters.prefixFor_eq_ok hpre
    refine ⟨⟨?_, fun i labels h => ?_⟩, hlen⟩
    · show c'.previous.length ≤ c'.levels.length
      rw [hprev, hlen]
      exact hle
    · have := hw.sink_fits i labels h
      unfold Counters.Fits at this ⊢
      show _ ≤ c'.levels.length
      omega

/-- In a world whose levels suffice, the paragraph of every numbering sink can be numbered. -/
theorem LevelsSuffice.prefixFor_ok (hw : w.LevelsSuffice) {i : Nat} {erasing : Bool}
    {labels : List String} {prev : Nat} {taken : Bool}
    (hsink : w.sinkAt i = .numbered erasing labels prev taken) (name : String) :
    ∃ r, w.counters.prefixFor (if labels.isEmpty then [name] else labels) = .ok r := by
  have hfit := hw.sink_fits i labels (by simp [hsink, Sink.labels?])
  unfold Counters.Fits at hfit
  apply Counters.prefixFor_ok
  · split <;> simp_all
  · split
    · simp only [List.length_singleton]
      omega
    · omega

/-- Writing a paragraph through a sink keeps the levels sufficient and their number. The
induction follows the chain of sinks that pass the paragraph on; every numbering sink on it
numbers in a world whose levels suffice. -/
theorem LevelsSuffice.addParagraph (hw : w.LevelsSuffice) {fuel i : Nat}
    {text style : Option String} {place : Document.Place}
    (h : w.addParagraph fuel i text style = .ok (w', place)) :
    w'.LevelsSuffice ∧ w'.counters.levels.length = w.counters.levels.length := by
  induction fuel generalizing w i text with
  | zero => simp [World.addParagraph] at h
  | succ fuel ih =>
    unfold World.addParagraph at h
    split at h
    · simp only [Except.bind_eq_ok, Except.pure_eq_ok] at h
      obtain ⟨_, _, h⟩ := h
      cases h
      exact ⟨hw.doc _, rfl⟩
    · rename_i block row col firstAdded hsink
      split at h
      · -- the first paragraph of a cell marks the cell sink as having taken one
        simp only [Except.bind_eq_ok] at h
        obtain ⟨_, _, h⟩ := h
        split at h <;> simp only [Except.bind_eq_ok, Except.pure_eq_ok] at h
        all_goals
          obtain ⟨_, _, h⟩ := h
          cases h
          exact ⟨(hw.doc _).setSink
            (by show _ = (w.sinkAt i).unflagged; simp [hsink, Sink.unflagged]), rfl⟩
      · simp only [Except.bind_eq_ok, Except.pure_eq_ok] at h
        obtain ⟨_, _, h⟩ := h
        cases h
        exact ⟨hw.doc _, rfl⟩
    · exact ih hw h
    · rename_i erasing labels prev taken hsink
      split at h
      · simp at h
      · simp only [Except.bind_eq_ok] at h
        obtain ⟨⟨_, w₁⟩, hpre, h⟩ := h
        split at h
        · simp at h
        · -- the sink is marked as having taken its paragraph, which is then numbered
          have hset := hw.setSink (i := i) (s := .numbered erasing labels prev true)
            (by simp [hsink, Sink.unflagged])
          obtain ⟨hw₁, hlen₁⟩ := hset.numberPrefix hpre
          obtain ⟨hw', hlen'⟩ := ih hw₁ h
          exact ⟨hw', hlen'.trans hlen₁⟩

theorem LevelsSuffice.addParagraphHere (hw : w.LevelsSuffice) {text style : Option String}
    {place : Document.Place} (h : w.addParagraphHere text style = .ok (w', place)) :
    w'.LevelsSuffice ∧ w'.counters.levels.length = w.counters.levels.length :=
  hw.addParagraph h

theorem LevelsSuffice.addRunToOwner (hw : w.LevelsSuffice) {o : Owner} {run : Document.Run}
    (h : w.addRunToOwner o run = .ok w') :
    w'.LevelsSuffice ∧ w'.counters.levels.length = w.counters.levels.length := by
  obtain ⟨hsinks, -⟩ := addRunToOwner_sinks h
  have hc : w'.counters = w.counters := by
    unfold World.addRunToOwner at h
    split at h
    · simp only [Except.bind_eq_ok, Except.pure_eq_ok] at h
      obtain ⟨_, _, rfl⟩ := h
      rfl
    · split at h
      · split at h
        · simp at h
        · cases h
          rfl
      · simp at h
  exact ⟨hw.of_same hc fun j => by simp only [sinkAt, hsinks], by rw [hc]⟩

/-- Writing a run through a sink keeps the levels sufficient and their number. -/
theorem LevelsSuffice.addRun (hw : w.LevelsSuffice) {fuel i : Nat} {text : Option String}
    {style : Option Nat} (h : w.addRun fuel i text style = .ok w') :
    w'.LevelsSuffice ∧ w'.counters.levels.length = w.counters.levels.length := by
  induction fuel generalizing w i with
  | zero => simp [World.addRun] at h
  | succ fuel ih =>
    unfold World.addRun at h
    split at h
    · split at h
      · simp at h
      · simp only [Except.bind_eq_ok, Except.pure_eq_ok] at h
        obtain ⟨_, _, _, _, rfl⟩ := h
        exact ⟨hw.doc _, rfl⟩
    · rename_i block row col firstAdded hsink
      simp only [Except.bind_eq_ok] at h
      obtain ⟨_, _, h⟩ := h
      split at h
      · simp only [Except.pure_eq_ok] at h
        cases h
        exact ⟨(hw.doc _).setSink
          (by show _ = (w.sinkAt i).unflagged; simp [hsink, Sink.unflagged]), rfl⟩
      · exact hw.addRunToOwner h
    · exact ih hw h
    · exact ih hw h

theorem LevelsSuffice.addRunHere (hw : w.LevelsSuffice) {text : Option String}
    {style : Option Nat} (h : w.addRunHere text style = .ok w') :
    w'.LevelsSuffice ∧ w'.counters.levels.length = w.counters.levels.length :=
  hw.addRun h

end World

namespace Frame

open World

variable {w w' : World}

/-- Closing a block keeps the levels sufficient and their number. Only a block that erases a
label changes the counters other than by numbering, and erasing keeps the levels and the last
paragraph's labels. -/
theorem close_levelsSuffice {f : Frame} (hw : w.LevelsSuffice) (h : f.close w = .ok w') :
    w'.LevelsSuffice ∧ w'.counters.levels.length = w.counters.levels.length := by
  cases f with
  | top | echo | unorderedList | loadStyle | orderedList | table | appendDocument =>
    simp only [close, Except.ok.injEq] at h
    subst h
    exact ⟨hw, rfl⟩
  | pageBreak | dataReader prev =>
    simp only [close, Except.ok.injEq] at h
    subst h
    exact ⟨hw.of_same rfl fun _ => rfl, rfl⟩
  | changeDirectory dir =>
    simp only [close, Except.bind_eq_ok, Except.pure_eq_ok] at h
    obtain ⟨_, _, rfl⟩ := h
    exact ⟨hw.of_same rfl fun _ => rfl, rfl⟩
  | unorderedItem lines started | orderedItem n lines started =>
    simp only [close, Except.bind_eq_ok, Except.pure_eq_ok] at h
    obtain ⟨⟨w₁, _⟩, h₁, rfl⟩ := h
    exact hw.addParagraphHere h₁
  | styledParagraph style lines =>
    simp only [close, Except.bind_eq_ok, Except.pure_eq_ok] at h
    obtain ⟨⟨w₁, _⟩, h₁, _, _, _, _, rfl⟩ := h
    obtain ⟨hw₁, hlen⟩ := hw.addParagraphHere h₁
    exact ⟨hw₁.doc _, hlen⟩
  | picture path width height =>
    simp only [close, Except.bind_eq_ok, Except.pure_eq_ok] at h
    obtain ⟨⟨w₁, _⟩, h₁, _, _, _, _, ⟨_, _⟩, _, _, _, _, _, _, _, rfl⟩ := h
    obtain ⟨hw₁, hlen⟩ := hw.addParagraphHere h₁
    exact ⟨hw₁.doc _, hlen⟩
  | caption n lines =>
    simp only [close] at h
    split at h
    · simp at h
    · simp only [Except.bind_eq_ok] at h
      obtain ⟨_, _, h⟩ := h
      exact hw.addRunToOwner h
  | tableCell lines prev =>
    -- the cell's lines are written through its own sink before the saved one is put back
    by_cases hl : lines.isEmpty
    · simp only [close, hl, if_true, Except.bind_eq_ok, Except.pure_eq_ok] at h
      obtain ⟨_, rfl, rfl⟩ := h
      exact ⟨hw.of_same rfl fun _ => rfl, rfl⟩
    · simp only [close, hl, Bool.false_eq_true, if_false, Except.bind_eq_ok,
        Except.pure_eq_ok] at h
      obtain ⟨⟨w₁, _⟩, h₁, _, rfl, rfl⟩ := h
      obtain ⟨hw₁, hlen⟩ := hw.addParagraphHere h₁
      exact ⟨hw₁.of_same rfl fun _ => rfl, hlen⟩
  | styledRun style lines | pictureNumber | nextPictureNumber =>
    exact hw.addRunHere h
  | dataField field =>
    simp only [close] at h
    split at h
    · simp at h
    · split at h
      · simp only [Except.bind_eq_ok] at h
        obtain ⟨_, _, h⟩ := h
        exact hw.addRunHere h
      · simp at h
  | space count =>
    simp only [close, Except.bind_eq_ok] at h
    obtain ⟨_, _, h⟩ := h
    exact hw.addRunHere h
  | numbered erasing labels prev =>
    simp only [close] at h
    split at h
    · split at h
      · -- erasing a label keeps the number of levels and the last paragraph's labels
        cases h
        have hlen : (w.counters.erase (labels.headD "")).levels.length =
            w.counters.levels.length := by simp [Counters.erase]
        exact ⟨(hw.grow (c := w.counters.erase (labels.headD "")) rfl
          (Nat.le_of_eq hlen.symm)).of_same rfl fun _ => rfl, hlen⟩
      · simp at h
    · cases h
      exact ⟨hw.of_same rfl fun _ => rfl, rfl⟩

/-- Opening a block keeps the levels sufficient and never takes a level away. A numbered block
enters its labels, which makes the levels fit them, before it opens its numbering sink; an
ordered list or one of its items closes the block around it; table cells and data readers
open sinks without labels. -/
theorem start_levelsSuffice {kind : BlockKind} {args : List String} {calls : Nat}
    {p f p' : Frame} (hw : w.LevelsSuffice) (h : start kind args calls p w = .ok (f, p', w')) :
    w'.LevelsSuffice ∧ w.counters.levels.length ≤ w'.counters.levels.length := by
  cases kind with
  | echo | pageBreak | unorderedList | caption | pictureNumber | nextPictureNumber =>
    simp only [start, Except.ok.injEq, Prod.mk.injEq] at h
    obtain ⟨-, -, rfl⟩ := h
    exact ⟨hw.of_same rfl fun _ => rfl, Nat.le_refl _⟩
  | changeDirectory | styledParagraph =>
    simp only [start] at h
    split at h
    · simp only [Except.ok.injEq, Prod.mk.injEq] at h
      obtain ⟨-, -, rfl⟩ := h
      exact ⟨hw, Nat.le_refl _⟩
    · simp at h
  | unorderedItem =>
    simp only [start] at h
    split at h
    · simp at h
    · simp only [Except.bind_eq_ok, Except.pure_eq_ok, Prod.mk.injEq] at h
      obtain ⟨w₁, h₁, -, -, rfl⟩ := h
      obtain ⟨hw₁, hlen⟩ := close_levelsSuffice hw h₁
      exact ⟨hw₁, Nat.le_of_eq hlen.symm⟩
  | orderedList =>
    simp only [start, Except.bind_eq_ok, Except.pure_eq_ok, Prod.mk.injEq] at h
    obtain ⟨w₁, h₁, -, -, rfl⟩ := h
    obtain ⟨hw₁, hlen⟩ := close_levelsSuffice hw h₁
    exact ⟨hw₁, Nat.le_of_eq hlen.symm⟩
  | orderedItem =>
    simp only [start] at h
    split at h
    · simp only [Except.ok.injEq, Prod.mk.injEq] at h
      obtain ⟨-, -, rfl⟩ := h
      exact ⟨hw, Nat.le_refl _⟩
    · simp at h
  | loadStyle | picture | table =>
    simp only [start] at h
    split at h
    · simp at h
    · simp only [Except.bind_eq_ok, Except.pure_eq_ok, Prod.mk.injEq] at h
      obtain ⟨_, _, _, _, -, -, rfl⟩ := h
      exact ⟨hw.of_same rfl fun _ => rfl, Nat.le_refl _⟩
  | tableCell =>
    simp only [start] at h
    split at h
    · simp at h
    · split at h
      · simp only [Except.bind_eq_ok] at h
        obtain ⟨_, _, _, _, h⟩ := h
        -- a row or a column out of range is refused
        split at h
        · simp [Except.bind_eq_ok] at h
        · split at h
          · simp [Except.bind_eq_ok] at h
          · simp only [Except.pure_eq_ok, Prod.mk.injEq] at h
            obtain ⟨-, -, rfl⟩ := h
            exact ⟨hw.openSink fun _ h => by simp [Sink.labels?] at h, Nat.le_refl _⟩
      · simp at h
  | appendDocument =>
    simp only [start] at h
    split at h
    · simp at h
    · simp only [Except.bind_eq_ok] at h
      obtain ⟨_, _, h⟩ := h
      split at h
      · simp only [Except.ok.injEq, Prod.mk.injEq] at h
        obtain ⟨-, -, rfl⟩ := h
        exact ⟨hw.of_same rfl fun _ => rfl, Nat.le_refl _⟩
      · simp at h
  | styledRun | space =>
    simp only [start] at h
    split at h
    · simp only [Except.bind_eq_ok, Except.pure_eq_ok, Prod.mk.injEq] at h
      obtain ⟨_, _, -, -, rfl⟩ := h
      exact ⟨hw, Nat.le_refl _⟩
    · simp only [Except.ok.injEq, Prod.mk.injEq] at h
      obtain ⟨-, -, rfl⟩ := h
      exact ⟨hw, Nat.le_refl _⟩
  | dataReader =>
    simp only [start] at h
    split at h
    · simp at h
    · simp only [Except.bind_eq_ok] at h
      obtain ⟨_, _, h⟩ := h
      split at h
      · simp at h
      · simp only [Except.pure_eq_ok, Prod.mk.injEq] at h
        obtain ⟨-, -, rfl⟩ := h
        exact ⟨hw.openSink fun _ h => by simp [Sink.labels?] at h, Nat.le_refl _⟩
  | dataField =>
    simp only [start] at h
    split at h
    · simp at h
    · split at h
      · simp only [Except.ok.injEq, Prod.mk.injEq] at h
        obtain ⟨-, -, rfl⟩ := h
        exact ⟨hw, Nat.le_refl _⟩
      · simp at h
  | numbered =>
    -- every way of reading the arguments ends alike: the labels are entered, which makes the
    -- levels fit them, and a numbering sink with them is opened
    have hleaf : ∀ {e : Bool} {l : List String},
        (do let x ← (pure (e, l) : Except Fault (Bool × List String))
            let counters ← w.counters.enter x.2
            pure (Frame.numbered x.1 x.2 w.sink, p,
              ({ w with counters } : World).openSink (.numbered x.1 x.2 w.sink false))) =
          Except.ok (f, p', w') →
        w'.LevelsSuffice ∧ w.counters.levels.length ≤ w'.counters.levels.length := by
      intro e l h
      simp only [Except.bind_eq_ok, Except.pure_eq_ok, Prod.mk.injEq] at h
      obtain ⟨_, rfl, c, hc, -, -, rfl⟩ := h
      obtain ⟨c', henter, hprev, hlen, hfits⟩ := Counters.enter_fits hw.previous_le l
      rw [henter] at hc
      cases hc
      refine ⟨(hw.grow hprev hlen).openSink fun labels h => ?_, hlen⟩
      simp only [Sink.labels?, Option.some.injEq] at h
      subst h
      exact hfits
    simp only [start] at h
    split at h
    · split at h
      · split at h
        · simp [Except.bind_eq_ok] at h
        · exact hleaf h
      · split at h
        · exact hleaf h
        · exact hleaf h
    · exact hleaf h

end Frame

namespace Machine

open World

variable {m m' : Machine} {layout : Layout} {line : String}

/-- Beginning a block keeps the levels sufficient and never takes a level away: remembering the
macro's name touches neither the counters nor the sinks. -/
theorem beginBlock_levelsSuffice {calls : Nat} {text : String} {p f p' : Frame} {w w' : World}
    (hw : w.LevelsSuffice) (h : beginBlock calls text p w = .ok (f, p', w')) :
    w'.LevelsSuffice ∧ w.counters.levels.length ≤ w'.counters.levels.length := by
  unfold beginBlock at h
  split at h
  · cases h
  · split at h
    · cases h
    · have hnamed := Frame.start_levelsSuffice (hw.macroName _) h
      exact hnamed

/-- Every line a reading goes on after keeps the levels sufficient and never takes a level
away. -/
theorem Advance.levelsSuffice (h : Advance layout m line m') (hm : m.world.LevelsSuffice) :
    m'.world.LevelsSuffice ∧ m.world.counters.levels.length ≤ m'.world.counters.levels.length := by
  cases h with
  | pass => exact ⟨hm, Nat.le_refl _⟩
  | paragraph => exact ⟨hm.doc _, Nat.le_refl _⟩
  | take => exact ⟨hm, Nat.le_refl _⟩
  | close _ _ _ _ hc _ =>
    obtain ⟨hw, hlen⟩ := Frame.close_levelsSuffice hm hc
    exact ⟨hw, Nat.le_of_eq hlen.symm⟩
  | enter _ _ _ hbegin => exact beginBlock_levelsSuffice hm hbegin
  | single _ _ _ hbegin hc _ =>
    -- a one-line block is opened and closed at once
    obtain ⟨hw₁, hlen₁⟩ := beginBlock_levelsSuffice hm hbegin
    obtain ⟨hw₂, hlen₂⟩ := Frame.close_levelsSuffice hw₁ hc
    exact ⟨hw₂, Nat.le_trans hlen₁ (Nat.le_of_eq hlen₂.symm)⟩

/-- A line that ends the reading keeps the levels sufficient in the world it ends with. -/
theorem step_stop_levelsSuffice {w : World} (h : m.step layout line = .ok (.stop w))
    (hm : m.world.LevelsSuffice) :
    w.LevelsSuffice ∧ m.world.counters.levels.length ≤ w.counters.levels.length := by
  rcases step_stop h with rfl | ⟨f, rest, -, hc⟩ | ⟨text, f, p, w₁, hbegin, hc⟩
  · exact ⟨hm, Nat.le_refl _⟩
  · obtain ⟨hw, hlen⟩ := Frame.close_levelsSuffice hm hc
    exact ⟨hw, Nat.le_of_eq hlen.symm⟩
  · obtain ⟨hw₁, hlen₁⟩ := beginBlock_levelsSuffice hm hbegin
    obtain ⟨hw₂, hlen₂⟩ := Frame.close_levelsSuffice hw₁ hc
    exact ⟨hw₂, by omega⟩

end Machine

/-- One move of a conversion: a line read that the reading goes on after; or, once a reading
has ended asking for a document to be appended, at a line or at the end of the source, the
machine that reads the next document. -/
inductive Setup.Moves (s : Setup) (fresh : Style.Sheet) : Machine → Machine → Prop
  | read {m m' : Machine} {line : String} :
      m.step s.layout line = .ok (.next m') → s.Moves fresh m m'
  | append {m : Machine} {line : String} {w : World} :
      m.step s.layout line = .ok (.stop w) → w.appendTarget.isSome →
        s.Moves fresh m (s.machine (w.restart fresh))
  | appendAtEnd {m : Machine} :
      m.world.appendTarget.isSome → s.Moves fresh m (s.machine (m.world.restart fresh))

namespace Setup

open World

variable {s : Setup} {fresh : Style.Sheet} {m m' : Machine}

/-- A new document keeps the counters and has the body sink alone, so its levels suffice when
the old one's did. -/
theorem levelsSuffice_restart {w : World} (hw : w.LevelsSuffice) :
    (w.restart fresh).LevelsSuffice where
  previous_le := hw.previous_le
  sink_fits i labels h := by
    cases i with
    | zero => simp [World.restart, sinkAt, Sink.labels?] at h
    | succ i => simp [World.restart, sinkAt, Sink.labels?] at h

/-- The world a conversion starts in has no counters and the body sink alone. -/
theorem levelsSuffice_startWorld (s : Setup) (fresh : Style.Sheet) :
    (s.startWorld fresh).LevelsSuffice where
  previous_le := Nat.le_refl _
  sink_fits i labels h := by
    cases i with
    | zero => simp [startWorld, sinkAt, Sink.labels?] at h
    | succ i => simp [startWorld, sinkAt, Sink.labels?] at h

/-- Every move keeps the levels sufficient and never takes a level away. -/
theorem Moves.levelsSuffice (h : s.Moves fresh m m') (hm : m.world.LevelsSuffice) :
    m'.world.LevelsSuffice ∧ m.world.counters.levels.length ≤ m'.world.counters.levels.length := by
  cases h with
  | read hstep => exact (Machine.step_next hstep).levelsSuffice hm
  | append hstep _ =>
    obtain ⟨hw, hlen⟩ := Machine.step_stop_levelsSuffice hstep hm
    exact ⟨levelsSuffice_restart hw, hlen⟩
  | appendAtEnd _ => exact ⟨levelsSuffice_restart hm, Nat.le_refl _⟩

/-- So does every sequence of moves. -/
theorem moves_levelsSuffice (h : Relation.ReflTransGen (s.Moves fresh) m m')
    (hm : m.world.LevelsSuffice) :
    m'.world.LevelsSuffice ∧ m.world.counters.levels.length ≤ m'.world.counters.levels.length := by
  induction h with
  | refl => exact ⟨hm, Nat.le_refl _⟩
  | tail _ hmove ih =>
    obtain ⟨hw, hlen⟩ := ih
    obtain ⟨hw', hlen'⟩ := hmove.levelsSuffice hw
    exact ⟨hw', Nat.le_trans hlen hlen'⟩

/-- A reading that goes on after every line is a sequence of moves. -/
theorem moves_of_reads {lines : List String} (h : Machine.Reads s.layout m lines m') :
    Relation.ReflTransGen (s.Moves fresh) m m' := by
  induction h with
  | nil => exact .refl
  | cons hstep _ ih => exact .head (.read hstep) ih

end Setup

/-- The numbering never runs out of levels in a conversion. Take any two machines a
conversion passes through, the second after the first, across documents too. The levels are
never fewer at the second; there is a level for each label of the last numbered paragraph;
entering the labels of any numbered block succeeds, so clearing levels never reaches past the
last one; and the paragraph of every numbering sink, with its labels or, for a block without
labels, with any one name, can be numbered, so the check that the labels are some and no more
than the levels never fails. -/
theorem numbering_levels_suffice {s : Setup} {fresh : Style.Sheet} {m₁ m₂ : Machine}
    (h₁ : Relation.ReflTransGen (s.Moves fresh) (s.machine (s.startWorld fresh)) m₁)
    (h₂ : Relation.ReflTransGen (s.Moves fresh) m₁ m₂) :
    m₁.world.counters.levels.length ≤ m₂.world.counters.levels.length ∧
      m₂.world.counters.previous.length ≤ m₂.world.counters.levels.length ∧
      (∀ labels, ∃ c, m₂.world.counters.enter labels = .ok c) ∧
      ∀ i erasing labels prev taken name,
        m₂.world.sinkAt i = .numbered erasing labels prev taken →
          ∃ r, m₂.world.counters.prefixFor (if labels.isEmpty then [name] else labels) = .ok r := by
  obtain ⟨hw₁, -⟩ := Setup.moves_levelsSuffice h₁ (Setup.levelsSuffice_startWorld s fresh)
  obtain ⟨hw₂, hlen⟩ := Setup.moves_levelsSuffice h₂ hw₁
  refine ⟨hlen, hw₂.previous_le, fun labels => ?_, fun i erasing labels prev taken name hsink =>
    hw₂.prefixFor_ok hsink name⟩
  obtain ⟨c, henter, -⟩ := Counters.enter_fits hw₂.previous_le labels
  exact ⟨c, henter⟩

/-- The setup of the example below: the default layout, no default styles and no files. -/
def plainSetup : Setup := ⟨{}, default, {}, 0⟩

/-- Two numbered blocks open, one inside the other and then a table: there are two levels, and
labels of any length can still be entered. -/
theorem numbering_levels_after_nested_blocks :
    ∃ m, Relation.ReflTransGen (plainSetup.Moves [])
        (plainSetup.machine (plainSetup.startWorld [])) m ∧
      m.world.counters.levels.length = 2 ∧
      ∃ c, m.world.counters.enter ["x", "y", "z"] = .ok c := by
  have hsome : ((plainSetup.machine (plainSetup.startWorld [])).readLines plainSetup.layout
      ["(numbered False a b", "(numbered", "(table 1 1"]).isSome = true := by
    decide +kernel
  obtain ⟨m, hm⟩ := Option.isSome_iff_exists.mp hsome
  have hreads := Machine.readLines_eq_some_iff.mp hm
  have hlevels : m.world.counters.levels.length = 2 := by
    have hcount : ((plainSetup.machine (plainSetup.startWorld [])).readLines plainSetup.layout
        ["(numbered False a b", "(numbered", "(table 1 1"]).map
          (·.world.counters.levels.length) = some 2 := by
      decide +kernel
    rw [hm] at hcount
    simpa using hcount
  have hmoves : Relation.ReflTransGen (plainSetup.Moves []) _ m := Setup.moves_of_reads hreads
  obtain ⟨-, -, henter, -⟩ := numbering_levels_suffice .refl hmoves
  exact ⟨m, hmoves, hlevels, henter ["x", "y", "z"]⟩

end MacroDoc.Engine
