import MacroDoc.Proofs.OutlineNumbering

/-!
# Erasing a label

`numbered True l` is meant to set the number of the label `l` back to its first number at
every level. It does so when it closes; but as it opens it enters the label `[l]` into the
counters like any numbered block, and entering clears the levels from the first label that
differs from the last numbered paragraph's. So unless the last numbered paragraph's labels
began with `l`, every level is emptied before `l` is set: the numbers of all other labels are
forgotten, and a first level is made if there was none. The labels of the last numbered
paragraph are kept either way.

## Main results

* `Engine.Counters.enter_single`: entering one label keeps the counters or empties every level.
* `Engine.Counters.get?_erase`: erasing a label sets it at every level and keeps the rest.
* `Engine.Frame.erase_block_counters`: what opening and closing `numbered True l` does to the
  counters.
-/

namespace MacroDoc.Engine

namespace Counters

/-- Replacing the pairs of one label leaves the number of every other label as it was. -/
theorem Level.get?_map_replace (l : Level) {label key : String} (hk : key ≠ label) (n : Int) :
    Level.get? (l.map fun q => if q.1 == label then (label, n) else q) key = Level.get? l key := by
  induction l with
  | nil => rfl
  | cons p l ih =>
    obtain ⟨k', v⟩ := p
    by_cases hp : k' = label
    · subst hp
      simpa [Level.get?, Ne.symm hk] using ih
    · by_cases hpk : k' = key
      · subst hpk
        simp [Level.get?, hk]
      · simpa [Level.get?, hp, hpk] using ih

/-- A level where a label is set holds its number for it and keeps every other label's. -/
theorem Level.get?_set (l : Level) (label key : String) (n : Int) :
    (l.set label n).get? key = if key = label then some n else l.get? key := by
  by_cases hk : key = label
  · subst hk
    simp
  · rw [if_neg hk]
    unfold Level.set
    split
    · exact Level.get?_map_replace l hk n
    · simp [Level.get?, List.find?_append, Ne.symm hk]

/-- Clearing every level from the first one on, up to at least the last, leaves that many empty
levels. -/
theorem clearLevels_zero (c : Counters) {stop : Nat} (h : c.levels.length ≤ stop) :
    c.clearLevels 0 stop = .ok { c with levels := List.replicate stop [] } := by
  obtain ⟨levels, hfold, hlen, hget⟩ := foldlM_clearLevel stop 0 c.levels (Nat.zero_le _)
  have hrep : levels = List.replicate stop [] := by
    rw [List.eq_replicate_iff]
    refine ⟨by omega, fun level hmem => ?_⟩
    obtain ⟨L, hL, rfl⟩ := List.getElem_of_mem hmem
    have := hget L
    rw [if_pos ⟨Nat.zero_le _, by omega⟩, List.getD_eq_getElem?_getD,
      List.getElem?_eq_getElem hL] at this
    exact this
  simp [clearLevels, hfold, hrep]

/-- Entering a single label: when the last numbered paragraph's labels began with it, nothing
changes; otherwise every level is emptied, and there is at least one. -/
theorem enter_single (c : Counters) (l : String) :
    c.enter [l] = .ok (if c.previous.head? = some l then c
      else { c with levels := List.replicate (max c.levels.length 1) [] }) := by
  have hfirst : c.firstChange [l] = if c.previous.head? = some l then none else some 0 := by
    cases hp : c.previous with
    | nil => simp [firstChange, hp]
    | cons p ps =>
      by_cases hpl : p = l
      · simp [firstChange, hp, hpl]
      · simp [firstChange, hp, hpl]
  unfold enter
  simp only [List.isEmpty_cons, Bool.false_and, Bool.false_eq_true, if_false, pure_bind, hfirst,
    List.length_singleton]
  by_cases hl : c.previous.head? = some l
  · simp [hl, pure, Except.pure]
  · simp only [hl, if_false]
    exact clearLevels_zero c (Nat.le_max_left _ _)

/-- Erasing a label sets it to its first number at every level there is, and keeps every other
label's number and the labels of the last numbered paragraph. -/
theorem get?_erase (c : Counters) (l key : String) (L : Nat) :
    ((c.erase l).levels.getD L []).get? key =
      if key = l ∧ L < c.levels.length then some firstNumber else (c.levels.getD L []).get? key := by
  simp only [erase, List.getD_eq_getElem?_getD, List.getElem?_map]
  by_cases hL : L < c.levels.length
  · simp [Level.get?_set, hL]
  · simp [hL, Level.get?]

@[simp] theorem erase_previous (c : Counters) (l : String) : (c.erase l).previous = c.previous :=
  rfl

end Counters

namespace Frame

/-- `numbered True l` opened in a world and closed at once, as a one-line macro or by its end
line with nothing in between. It sets `l` to its first number at every level; the numbers of
the other labels are kept when the last numbered paragraph's labels began with `l`, and are
all forgotten otherwise, with the levels emptied (a first one made if there was none) before
`l` is set. The labels of the last numbered paragraph are kept, and the sink in force is put
back. -/
theorem erase_block_counters (w : World) (l : String) (calls : Nat) (parent : Frame) :
    ∃ w₁ w₂, start .numbered ["True", l] calls parent w =
        .ok (.numbered true [l] w.sink, parent, w₁) ∧
      close (.numbered true [l] w.sink) w₁ = .ok w₂ ∧ w₂.sink = w.sink ∧
      w₂.counters =
        if w.counters.previous.head? = some l then w.counters.erase l
        else { w.counters with
          levels := (List.replicate (max w.counters.levels.length 1) [(l, firstNumber)]) } := by
  let c₁ : Counters := if w.counters.previous.head? = some l then w.counters
    else { w.counters with levels := List.replicate (max w.counters.levels.length 1) [] }
  let w₁ : World := ({ w with counters := c₁ } : World).openSink (.numbered true [l] w.sink false)
  have hstart : start .numbered ["True", l] calls parent w =
      .ok (.numbered true [l] w.sink, parent, w₁) := by
    simp [start, Counters.enter_single, bind, Except.bind, pure, Except.pure, w₁, c₁]
  -- the numbering sink the block opened is the one in force when it closes
  have hsink : w₁.sinkAt w₁.sink = .numbered true [l] w.sink false := by
    simp [w₁, World.sinkAt, World.openSink]
  refine ⟨w₁, { w₁ with counters := c₁.erase l, sink := w.sink }, hstart, ?_, rfl, ?_⟩
  · simp [close, hsink]
    rfl
  · by_cases hl : w.counters.previous.head? = some l
    · simp [c₁, hl]
    · simp [c₁, hl, Counters.erase, List.map_replicate, Level.set]

/-- After a paragraph numbered `a`, erasing `b` forgets the number of `a`. -/
example :
    ((({ levels := [[("a", 2)]], previous := ["a"] } : Counters).enter ["b"]).toOption.map
        fun c => (c.erase "b").levels) = some [[("b", 1)]] := by
  decide

end Frame

end MacroDoc.Engine
