import MacroDoc.Proofs.AppendRequest
import Mathlib.Data.List.Basic
import Mathlib.Data.List.Induction

/-!
# Numbered paragraphs get outline numbers

A `numbered False l₀ … lₖ₋₁` block numbers the one paragraph put through it with one number
per level, `l₀` at the first level and `lₖ₋₁` at the k-th. When the labels of the numbered
paragraphs are all prefixes of one sequence of labels, the numbers are the usual outline
numbers (`1`, `1.1`, `1.2`, `2`, `2.1`, …): a level counts the paragraphs of its depth since
the last paragraph that was not deeper, and a level above the paragraph that has had no
paragraph of its own since then shows `0`.

The counters get there lazily. Entering a block clears the levels from the first label that
differs from the last numbered paragraph's, which for prefixes of one sequence are the levels
at and below the last paragraph's depth. A level is only read by paragraphs deeper than it,
and the paragraph just before the first such one is never deeper than the level, so a level
is always cleared before it is read again. `Counters.Represents` is what the counters hold
between paragraphs: each level down to the last paragraph's depth holds its count plus one
under its label, and the deeper levels, whatever they hold, count nothing.

## Main definitions

* `Engine.levelCount`, `Engine.outlineNumber`: the outline numbers of a history of depths.
* `Engine.Counters.numberWith`, `Engine.Counters.afterNumbered`: what numbered paragraphs do
  to the counters.
* `Engine.Counters.Represents`: the counters hold the counts of a history.

## Main results

* `Engine.Counters.Represents.number`: a numbered paragraph gets the outline number of the
  history it ends, and the counters go on representing the history.
* `Engine.numbered_paragraph_outline`: in a world whose counters are those after numbered
  paragraphs of some depths, a numbered block passes the paragraph put through it on to the
  sink it was opened in, behind its outline number.
-/

namespace MacroDoc.Engine

/-! ## Outline numbers -/

/-- The number a level shows after numbered paragraphs of the given depths, oldest first: the
paragraphs of depth `L + 1` since the last one of depth at most `L`. -/
def levelCount (depths : List Nat) (L : Nat) : Nat :=
  (depths.reverse.takeWhile (L < ·)).count (L + 1)

/-- The outline number of the last of numbered paragraphs of the given depths: the numbers of
the levels down to its depth, joined by dots. -/
def outlineNumber (depths : List Nat) : String :=
  ".".intercalate ((List.range (depths.getLastD 0)).map fun L => toString (levelCount depths L))

/-- A new paragraph resets the levels it is not deeper than, counts at its own level, and
leaves the levels above it alone. -/
theorem levelCount_snoc (depths : List Nat) (k L : Nat) :
    levelCount (depths ++ [k]) L =
      if k ≤ L then 0 else if k = L + 1 then levelCount depths L + 1 else levelCount depths L := by
  by_cases hk : k ≤ L
  · simp [levelCount, hk]
  · have hlt : L < k := Nat.lt_of_not_le hk
    by_cases hk' : k = L + 1 <;> simp [levelCount, hk, hlt, hk']

/-- The levels at and below the depth of the last paragraph count nothing. -/
theorem levelCount_of_getLastD_le {depths : List Nat} {L : Nat} (h : depths.getLastD 0 ≤ L) :
    levelCount depths L = 0 := by
  rcases List.eq_nil_or_concat depths with rfl | ⟨ds, k, rfl⟩
  · rfl
  · simp only [List.concat_eq_append, List.getLastD_concat] at h
    simp [levelCount_snoc, h]

/-- Counted paragraph by paragraph, a level shows the paragraphs of depth `L + 1` after which
no paragraph of depth at most `L` came. -/
theorem levelCount_eq_countP (depths : List Nat) (L : Nat) :
    levelCount depths L = (List.range depths.length).countP fun i =>
      depths[i]? == some (L + 1) &&
        (List.range depths.length).all fun t => t ≤ i || L < depths.getD t 0 := by
  induction depths using List.reverseRecOn with
  | nil => rfl
  | append_singleton ds k ih =>
    have hget : ∀ t < ds.length, (ds ++ [k]).getD t 0 = ds.getD t 0 := fun t ht => by
      simp [List.getD_eq_getElem?_getD, List.getElem?_append_left ht]
    -- a paragraph before the new one still counts exactly when the new one is deeper than
    -- the level
    have hold : ∀ i ∈ List.range ds.length,
        ((ds ++ [k])[i]? == some (L + 1) &&
          (List.range ds.length ++ [ds.length]).all fun t => t ≤ i || L < (ds ++ [k]).getD t 0) =
        (decide (L < k) && (ds[i]? == some (L + 1) &&
          (List.range ds.length).all fun t => t ≤ i || L < ds.getD t 0)) := by
      intro i hi
      have hi' : i < ds.length := List.mem_range.mp hi
      have hall : ((List.range ds.length).all fun t => t ≤ i || L < (ds ++ [k]).getD t 0) =
          (List.range ds.length).all fun t => t ≤ i || L < ds.getD t 0 := by
        apply Bool.eq_iff_iff.mpr
        simp only [List.all_eq_true, List.mem_range]
        exact forall_congr' fun t => imp_congr_right fun ht => by rw [hget t ht]
      rw [List.all_append, hall, List.getElem?_append_left hi']
      by_cases hLk : L < k
      · simp [hLk, show ¬ds.length ≤ i by omega]
      · simp [hLk, hi']
    rw [levelCount_snoc, List.length_append, List.length_singleton, List.range_succ,
      List.countP_append, List.countP_congr (fun i hi => by rw [hold i hi]), ih]
    -- the new paragraph itself counts when it is of depth `L + 1`, as none comes after it
    by_cases hk : k ≤ L
    · simp [hk, show ¬L < k by omega, show k ≠ L + 1 by omega]
    · simp only [hk, if_false, show L < k by omega, decide_true, Bool.true_and]
      by_cases hk' : k = L + 1
      · simp [hk']
        intro x hx hx'
        omega
      · simp [hk']

example : outlineNumber [1, 2, 2, 1, 3] = "2.0.1" := by decide

/-- Dotted numbers written one level at a time, a dot after each but the last, are the numbers
joined by dots. -/
theorem join_dotted_eq_intercalate (g : Nat → String) (m : Nat) :
    String.join ((List.range m).map fun L => g L ++ ".") ++ g m =
      ".".intercalate ((List.range (m + 1)).map g) := by
  induction m with
  | zero => simp
  | succ m ih =>
    have hne : (List.range (m + 1)).map g ≠ [] := by simp
    calc String.join ((List.range (m + 1)).map fun L => g L ++ ".") ++ g (m + 1)
        = (String.join ((List.range m).map fun L => g L ++ ".") ++ g m) ++ "." ++ g (m + 1) := by
          simp [List.range_succ, String.append_assoc]
      _ = ".".intercalate ((List.range (m + 1)).map g ++ [g (m + 1)]) := by
          rw [ih, String.intercalate_append_of_ne_nil hne (by simp)]
          simp
      _ = ".".intercalate ((List.range (m + 1 + 1)).map g) := by
          rw [List.range_succ (n := m + 1), List.map_append]
          rfl

namespace Counters

/-! ## The counters -/

/-- What a numbered block with labels does to the counters when its paragraph is put through
it at once: the block is entered, then the paragraph numbered. -/
def numberWith (c : Counters) (labels : List String) : Except Fault (String × Counters) := do
  (← c.enter labels).prefixFor labels

/-- The counters after numbered paragraphs labelled with prefixes of `labels`, of the given
depths, from the start of a run. -/
def afterNumbered (labels : List String) (depths : List Nat) : Except Fault Counters :=
  depths.foldlM (fun c k => do return (← c.numberWith (labels.take k)).2) {}

theorem afterNumbered_snoc (labels : List String) (depths : List Nat) (k : Nat) :
    afterNumbered labels (depths ++ [k]) =
      (do return (← (← afterNumbered labels depths).numberWith (labels.take k)).2) := by
  simp [afterNumbered, List.foldlM_append]

/-- A level with the number of a label set to `n` holds `n` for that label. -/
@[simp] theorem Level.get?_set_self (l : Level) (label : String) (n : Int) :
    (l.set label n).get? label = some n := by
  induction l with
  | nil => simp [Level.set, Level.get?]
  | cons p l ih =>
    by_cases hp : p.1 = label
    · have hset : Level.set (p :: l) label n =
          (label, n) :: l.map (fun q => if q.1 == label then (label, n) else q) := by
        simp [Level.set, hp]
      simp [hset, Level.get?]
    · -- a pair of another label is kept in front, and the label is set further on
      have hset : Level.set (p :: l) label n = p :: Level.set l label n := by
        unfold Level.set
        have hany : (p :: l).any (·.1 == label) = l.any (·.1 == label) := by simp [hp]
        rw [hany]
        split <;> simp [hp]
      rw [hset]
      simpa [Level.get?, hp] using ih

/-- The level at position `L` holds `count` for a label: its number is one more. -/
def Holds (levels : List Level) (L : Nat) (label : String) (count : Nat) : Prop :=
  (levels.getD L []).get? label = some ((count : Int) + 1)

/-- The level at position `L` is ready to show `count` for a label: it holds it, or the label
has no number and the count is naught. -/
def Ready (levels : List Level) (L : Nat) (label : String) (count : Nat) : Prop :=
  Holds levels L label count ∨ ((levels.getD L []).get? label = none ∧ count = 0)

theorem getD_set_level (levels : List Level) (i L : Nat) (x : Level) :
    (levels.set i x).getD L [] = if i = L ∧ i < levels.length then x else levels.getD L [] := by
  simp only [List.getD_eq_getElem?_getD, List.getElem?_set]
  by_cases h : i = L
  · subst h
    by_cases h' : i < levels.length
    · simp [h']
    · simp [h']
  · simp [h]

/-- Reading a number from a ready level gives one more than its count, and leaves the level
holding the count and every other level as it was. -/
theorem readNumber_ready {levels : List Level} {i : Nat} {label : String} {count : Nat}
    (hi : i < levels.length) (h : Ready levels i label count) :
    (readNumber levels i label).1 = (count : Int) + 1 ∧
      Holds (readNumber levels i label).2 i label count ∧
      (readNumber levels i label).2.length = levels.length ∧
      ∀ L, L ≠ i → (readNumber levels i label).2.getD L [] = levels.getD L [] := by
  rcases h with hheld | ⟨hnone, rfl⟩
  · have hget : (levels.getD i []).get? label = some ((count : Int) + 1) := hheld
    have hread : readNumber levels i label = ((count : Int) + 1, levels) := by
      unfold readNumber
      dsimp only
      rw [hget]
    rw [hread]
    exact ⟨rfl, hheld, rfl, fun _ _ => rfl⟩
  · have hread : readNumber levels i label =
        (firstNumber, levels.set i ((levels.getD i []).set label firstNumber)) := by
      unfold readNumber
      dsimp only
      rw [hnone]
    rw [hread]
    refine ⟨rfl, ?_, by simp, fun L hL => ?_⟩
    · simp [Holds, hi, firstNumber]
    · simp [Ne.symm hL]

/-- One parent level of a numbered paragraph: its number less one is written with a dot after
it, and the level is left as reading the number leaves it. -/
def numberParent (acc : String × List Level) (p : String × Nat) : String × List Level :=
  (acc.1 ++ toString ((readNumber acc.2 p.2 p.1).1 - 1) ++ ".", (readNumber acc.2 p.2 p.1).2)

/-- Numbering the parent levels of a paragraph, one position after another: each ready level
shows its count followed by a dot and is left holding it; the levels below are untouched. -/
theorem foldl_numberParent (labels : List String) (count : Nat → Nat) (levels : List Level) :
    ∀ m, m ≤ labels.length → m ≤ levels.length →
      (∀ L < m, Ready levels L (labels.getD L "") (count L)) →
      ((labels.take m).zipIdx.foldl numberParent ("", levels)).1 =
          String.join ((List.range m).map fun L => toString (count L) ++ ".") ∧
        ((labels.take m).zipIdx.foldl numberParent ("", levels)).2.length = levels.length ∧
        (∀ L < m, Holds ((labels.take m).zipIdx.foldl numberParent ("", levels)).2 L
          (labels.getD L "") (count L)) ∧
        ∀ L, m ≤ L →
          ((labels.take m).zipIdx.foldl numberParent ("", levels)).2.getD L [] = levels.getD L []
  | 0, _, _, _ => by simp
  | m + 1, hm, hlev, hready => by
    obtain ⟨htext, hlen, hheld, hrest⟩ :=
      foldl_numberParent labels count levels m (by omega) (by omega)
        (fun L hL => hready L (by omega))
    have hlabel : labels[m]? = some (labels.getD m "") := by
      simp [List.getD_eq_getElem?_getD, List.getElem?_eq_getElem (by omega : m < labels.length)]
    have htake : (labels.take (m + 1)).zipIdx =
        (labels.take m).zipIdx ++ [(labels.getD m "", m)] := by
      rw [List.take_add_one, hlabel, Option.toList_some, List.zipIdx_append,
        List.length_take_of_le (by omega)]
      simp
    rw [htake, List.foldl_append, List.foldl_cons, List.foldl_nil]
    generalize (labels.take m).zipIdx.foldl numberParent ("", levels) = r at htext hlen hheld hrest
    -- the parent at position `m` is read from the level as the earlier parents left it
    have hready' : Ready r.2 m (labels.getD m "") (count m) := by
      unfold Ready Holds
      rw [hrest m (Nat.le_refl _)]
      exact hready m (by omega)
    obtain ⟨hn, hheld', hlen', hother⟩ := readNumber_ready (by omega) hready'
    have hstr : toString ((readNumber r.2 m (labels.getD m "")).1 - 1) = toString (count m) := by
      rw [hn, Int.add_sub_cancel]
      rfl
    refine ⟨?_, ?_, fun L hL => ?_, fun L hL => ?_⟩
    · show r.1 ++ toString ((readNumber r.2 m (labels.getD m "")).1 - 1) ++ "." = _
      rw [hstr, htext, List.range_succ, List.map_append]
      simp [String.append_assoc]
    · simp only [numberParent]
      rw [hlen', hlen]
    · simp only [numberParent]
      by_cases hLm : L = m
      · subst hLm
        exact hheld'
      · unfold Holds
        rw [hother L hLm]
        exact hheld L (by omega)
    · simp only [numberParent]
      rw [hother L (by omega)]
      exact hrest L (by omega)

/-- Numbering a paragraph whose levels are ready: the parents show their counts and the last
level one more, joined by dots, and the levels are left holding what they showed. -/
theorem prefixFor_ready {c : Counters} {labels : List String} {k : Nat} {before after : Nat → Nat}
    (hk : 0 < k ∧ k ≤ labels.length) (hlen : k ≤ c.levels.length)
    (hready : ∀ L < k, Ready c.levels L (labels.getD L "") (before L))
    (hparents : ∀ L < k - 1, after L = before L) (hlast : after (k - 1) = before (k - 1) + 1) :
    ∃ levels, c.prefixFor (labels.take k) =
        .ok (".".intercalate ((List.range k).map fun L => toString (after L)),
          { c with levels, previous := labels.take k }) ∧
      levels.length = c.levels.length ∧ ∀ L < k, Holds levels L (labels.getD L "") (after L) := by
  obtain ⟨k, rfl⟩ : ∃ m, k = m + 1 := ⟨k - 1, by omega⟩
  simp only [Nat.add_sub_cancel] at hparents hlast
  have hlen_take : (labels.take (k + 1)).length = k + 1 := List.length_take_of_le (by omega)
  have hok : ¬((labels.take (k + 1)).isEmpty ||
      decide ((labels.take (k + 1)).length > c.levels.length)) = true := by
    have hne : labels.take (k + 1) ≠ [] := fun h => by simp [h] at hlen_take
    simp only [Bool.or_eq_true, List.isEmpty_iff, hne, false_or, decide_eq_true_eq, hlen_take]
    omega
  have hdrop : (labels.take (k + 1)).dropLast = labels.take k := by
    rw [List.dropLast_eq_take, hlen_take, List.take_take]
    simp
  have hlabel : (labels.take (k + 1)).getLast?.getD "" = labels.getD k "" := by
    simp [List.getLast?_take, List.getD_eq_getElem?_getD,
      List.getElem?_eq_getElem (by omega : k < labels.length)]
  have hlast_pos : (labels.take (k + 1)).length - 1 = k := by
    rw [hlen_take]
    rfl
  unfold prefixFor
  rw [if_neg hok]
  dsimp only
  -- the parents are numbered one after another by `numberParent`
  rw [List.foldl_ext _ numberParent _ (fun acc p _ => by obtain ⟨label, i⟩ := p; rfl), hdrop,
    hlabel, hlast_pos]
  obtain ⟨htext, hplen, hheld, hrest⟩ :=
    foldl_numberParent labels before c.levels k (by omega) (by omega)
      (fun L hL => hready L (by omega))
  generalize (labels.take k).zipIdx.foldl numberParent ("", c.levels) = r at htext hplen hheld hrest
  obtain ⟨text, lv⟩ := r
  dsimp only at htext hplen hheld hrest ⊢
  -- the last level is read after all the parents, from the level as the parents left it
  have hready' : Ready lv k (labels.getD k "") (before k) := by
    unfold Ready Holds
    rw [hrest k (Nat.le_refl _)]
    exact hready k (by omega)
  obtain ⟨hn, -, hlen', hother⟩ := readNumber_ready (by omega) hready'
  generalize hq : readNumber lv k (labels.getD k "") = q at hn hlen' hother
  obtain ⟨n, lv'⟩ := q
  dsimp only at hn hlen' hother ⊢
  refine ⟨lv'.set k ((lv'.getD k []).set (labels.getD k "") (n + 1)), ?_, ?_, fun L hL => ?_⟩
  · have hjoin := join_dotted_eq_intercalate (fun L => toString (after L)) k
    have hmap : ((List.range k).map fun L => toString (after L) ++ ".") =
        (List.range k).map fun L => toString (before L) ++ "." :=
      List.map_congr_left (fun L hL => by rw [hparents L (List.mem_range.mp hL)])
    rw [hmap, ← htext, hlast] at hjoin
    rw [← hjoin, hn]
    rfl
  · rw [List.length_set, hlen', hplen]
  · unfold Holds
    rw [getD_set_level]
    by_cases hLk : L = k
    · subst hLk
      simp [hlen', hplen, hn, hlast, show L < c.levels.length by omega]
    · rw [if_neg (fun h => hLk h.1.symm), hother L hLk]
      have hL' := hheld L (by omega)
      rw [← hparents L (by omega)] at hL'
      exact hL'

/-- Clearing a level no further than one past the last: the level there is empty (added when
it is one past the last), and every other level is kept. -/
theorem clearLevel_ok {levels : List Level} {i : Nat} (h : i ≤ levels.length) :
    ∃ levels', clearLevel levels i = .ok levels' ∧ levels'.length = max levels.length (i + 1) ∧
      ∀ L, levels'.getD L [] = if L = i then [] else levels.getD L [] := by
  by_cases heq : i = levels.length
  · subst heq
    refine ⟨levels ++ [[]], by simp [clearLevel], by simp, fun L => ?_⟩
    rw [List.getD_eq_getElem?_getD, List.getD_eq_getElem?_getD, List.getElem?_append]
    by_cases hL : L < levels.length
    · simp [hL, Nat.ne_of_lt hL]
    · have hnone : levels[L]? = none := List.getElem?_eq_none (by omega)
      by_cases hL' : L = levels.length
      · simp [hL']
      · have hpos : L - levels.length ≠ 0 := by omega
        simp [hL, hL', hpos]
  · have hlt : i < levels.length := by omega
    refine ⟨levels.set i [], by simp [clearLevel, heq, hlt], by simp; omega, fun L => ?_⟩
    rw [getD_set_level]
    by_cases hL : L = i
    · simp [hL, hlt]
    · simp [hL, Ne.symm hL]

/-- Clearing the levels of a range that starts no further than one past the last. -/
theorem foldlM_clearLevel (n : Nat) : ∀ (start : Nat) (levels : List Level),
    start ≤ levels.length →
    ∃ levels', (List.range' start n).foldlM clearLevel levels = .ok levels' ∧
      levels'.length = max levels.length (start + n) ∧
      ∀ L, levels'.getD L [] = if start ≤ L ∧ L < start + n then [] else levels.getD L [] := by
  induction n with
  | zero =>
    intro start levels h
    exact ⟨levels, rfl, by omega, fun L => by rw [if_neg (by omega)]⟩
  | succ n ih =>
    intro start levels h
    obtain ⟨levels₁, h₁, hlen₁, hget₁⟩ := clearLevel_ok h
    obtain ⟨levels₂, h₂, hlen₂, hget₂⟩ := ih (start + 1) levels₁ (by omega)
    refine ⟨levels₂, ?_, by omega, fun L => ?_⟩
    · rw [List.range'_succ, List.foldlM_cons, h₁]
      exact h₂
    · rw [hget₂, hget₁]
      by_cases hL : L = start
      · simp [hL]
      · by_cases hin : start + 1 ≤ L ∧ L < start + 1 + n
        · rw [if_pos hin, if_pos (by omega)]
        · rw [if_neg hin, if_neg hL, if_neg (by omega)]

/-- Clearing the levels from `start` up to `stop`, when `start` is no further than one past
the last: the levels there are empty, the others kept, and there are at least `stop`. -/
theorem clearLevels_ok (c : Counters) {start : Nat} (stop : Nat) (h : start ≤ c.levels.length) :
    ∃ levels, c.clearLevels start stop = .ok { c with levels } ∧ stop ≤ levels.length ∧
      ∀ L, levels.getD L [] = if start ≤ L ∧ L < stop then [] else c.levels.getD L [] := by
  obtain ⟨levels, hfold, hlen, hget⟩ := foldlM_clearLevel (stop - start) start c.levels h
  refine ⟨levels, by simp [clearLevels, hfold], by omega, fun L => ?_⟩
  rw [hget]
  by_cases hin : start ≤ L ∧ L < stop
  · rw [if_pos hin, if_pos (by omega)]
  · rw [if_neg hin, if_neg (by omega)]

/-- When the last numbered paragraph was labelled with the first `p` labels of a sequence, a
block labelled with its first `k` differs from the first label past `p`, if it goes that far. -/
theorem firstChange_take {c : Counters} {labels : List String} {p k : Nat}
    (hp : c.previous = labels.take p) (hpl : p ≤ labels.length) (hkl : k ≤ labels.length) :
    c.firstChange (labels.take k) = if p < k then some p else none := by
  have hprev : c.previous.length = p := by rw [hp, List.length_take_of_le hpl]
  -- a label of the block at a position the last paragraph had is the label it had there
  have hsame : ∀ {label : String} {i : Nat} {m : Nat}, m ≤ labels.length →
      (labels.take m)[i]? = some label → i < m ∧ labels[i]? = some label := by
    intro label i m hm hget
    obtain ⟨hlt, -⟩ := List.getElem?_eq_some_iff.mp hget
    rw [List.length_take_of_le hm] at hlt
    rw [List.getElem?_take, if_pos hlt] at hget
    exact ⟨hlt, hget⟩
  unfold firstChange
  by_cases hpk : p < k
  · rw [if_pos hpk]
    have hlabel : labels[p]? = some (labels.getD p "") := by
      simp [List.getD_eq_getElem?_getD, List.getElem?_eq_getElem (by omega : p < labels.length)]
    have htake : labels.take k =
        labels.take p ++ labels.getD p "" :: (labels.take k).drop (p + 1) := by
      conv => lhs; rw [← List.take_append_drop (p + 1) (labels.take k)]
      rw [List.take_take, Nat.min_eq_left (by omega), List.take_add_one, hlabel]
      simp
    have hsplit : (labels.take k).zipIdx = (labels.take p).zipIdx ++
        (labels.getD p "", p) :: ((labels.take k).drop (p + 1)).zipIdx (p + 1) := by
      conv => lhs; rw [htake]
      rw [List.zipIdx_append, List.length_take_of_le hpl]
      simp
    have hfind : (labels.take k).zipIdx.find?
        (fun x => x.2 == c.previous.length || c.previous[x.2]? != some x.1) =
        some (labels.getD p "", p) := by
      rw [List.find?_eq_some_iff_append]
      refine ⟨by simp [hprev], _, _, hsplit, fun a ha => ?_⟩
      obtain ⟨label, i⟩ := a
      obtain ⟨hip, hget⟩ := hsame hpl (List.mem_zipIdx_iff_getElem?.mp ha)
      have hprev_i : c.previous[i]? = some label := by
        rw [hp, List.getElem?_take, if_pos hip, hget]
      simp [hprev, Nat.ne_of_lt hip, hprev_i]
    simp [hfind]
  · rw [if_neg hpk]
    have hnone : (labels.take k).zipIdx.find?
        (fun x => x.2 == c.previous.length || c.previous[x.2]? != some x.1) = none := by
      rw [List.find?_eq_none]
      intro a ha
      obtain ⟨label, i⟩ := a
      obtain ⟨hik, hget⟩ := hsame hkl (List.mem_zipIdx_iff_getElem?.mp ha)
      have hprev_i : c.previous[i]? = some label := by
        rw [hp, List.getElem?_take, if_pos (by omega), hget]
      simp [hprev, show i ≠ p by omega, hprev_i]
    simp [hnone]

/-! ## What the counters hold between numbered paragraphs -/

/-- The counters represent numbered paragraphs of the given depths, labelled with prefixes of
`labels`: the last paragraph's labels are remembered, and every level down to its depth
holds its count. -/
structure Represents (labels : List String) (depths : List Nat) (c : Counters) : Prop where
  /-- The last paragraph is no deeper than the labels go. -/
  depth_le : depths.getLastD 0 ≤ labels.length
  /-- The labels of the last paragraph. -/
  previous : c.previous = labels.take (depths.getLastD 0)
  /-- There is a level for each label of the last paragraph. -/
  length : depths.getLastD 0 ≤ c.levels.length
  /-- Each level down to the last paragraph's depth holds its count. -/
  level : ∀ L < depths.getLastD 0, Holds c.levels L (labels.getD L "") (levelCount depths L)

/-- Before any numbered paragraph the counters represent the empty history. -/
theorem represents_nil (labels : List String) : Represents labels [] {} where
  depth_le := Nat.zero_le _
  previous := rfl
  length := Nat.zero_le _
  level := fun _ h => absurd h (Nat.not_lt_zero _)

/-- Entering a numbered block of depth `k` leaves the levels down to `k` ready to show their
counts: the levels down to the last paragraph's depth hold theirs, and the deeper ones, which
count nothing, have been cleared. -/
theorem Represents.enter {labels : List String} {depths : List Nat} {c : Counters} {k : Nat}
    (h : Represents labels depths c) (hk : 0 < k ∧ k ≤ labels.length) :
    ∃ c₁, c.enter (labels.take k) = .ok c₁ ∧ k ≤ c₁.levels.length ∧
      ∀ L < k, Ready c₁.levels L (labels.getD L "") (levelCount depths L) := by
  have hlen : (labels.take k).length = k := List.length_take_of_le hk.2
  have hne : (labels.take k).isEmpty = false :=
    List.isEmpty_eq_false_iff.mpr fun h => by rw [h] at hlen; simp at hlen; omega
  unfold Counters.enter
  simp only [hne, Bool.false_and, Bool.false_eq_true, if_false, pure_bind,
    firstChange_take h.previous h.depth_le hk.2, hlen]
  by_cases hpk : depths.getLastD 0 < k
  · rw [if_pos hpk]
    obtain ⟨levels, hclear, hlen', hget⟩ := clearLevels_ok c (max c.levels.length k) h.length
    refine ⟨{ c with levels }, hclear, show k ≤ levels.length by omega, fun L hL => ?_⟩
    unfold Ready Holds
    rw [hget]
    by_cases hLp : L < depths.getLastD 0
    · rw [if_neg (by omega)]
      exact .inl (h.level L hLp)
    · rw [if_pos (by omega)]
      exact .inr ⟨rfl, levelCount_of_getLastD_le (by omega)⟩
  · rw [if_neg hpk]
    exact ⟨c, rfl, by have := h.length; omega, fun L hL => .inl (h.level L (by omega))⟩

/-- A numbered paragraph of depth `k` gets the outline number of the history it ends, and the
counters go on representing the history. -/
theorem Represents.number {labels : List String} {depths : List Nat} {c : Counters} {k : Nat}
    (h : Represents labels depths c) (hk : 0 < k ∧ k ≤ labels.length) :
    ∃ c', c.numberWith (labels.take k) = .ok (outlineNumber (depths ++ [k]), c') ∧
      Represents labels (depths ++ [k]) c' := by
  obtain ⟨c₁, henter, hlen, hready⟩ := h.enter hk
  -- the levels above the new paragraph keep their counts, and its own level counts it
  have hparents : ∀ L < k - 1, levelCount (depths ++ [k]) L = levelCount depths L := by
    intro L hL
    rw [levelCount_snoc, if_neg (by omega), if_neg (by omega)]
  have hlast : levelCount (depths ++ [k]) (k - 1) = levelCount depths (k - 1) + 1 := by
    rw [levelCount_snoc, if_neg (by omega), if_pos (by omega)]
  obtain ⟨levels, hprefix, hlen', hheld⟩ := prefixFor_ready hk hlen hready hparents hlast
  have hlastD : (depths ++ [k]).getLastD 0 = k := by simp
  refine ⟨{ c₁ with levels, previous := labels.take k }, ?_, ?_⟩
  · simp [numberWith, henter, bind, Except.bind, hprefix, outlineNumber]
  · exact { depth_le := by rw [hlastD]; exact hk.2
            previous := by rw [hlastD]
            length := by rw [hlastD, hlen']; exact hlen
            level := by rw [hlastD]; exact hheld }

/-- Numbered paragraphs labelled with prefixes of one sequence never fail, and the counters
after them represent them. -/
theorem afterNumbered_represents {labels : List String} {depths : List Nat}
    (hdepths : ∀ d ∈ depths, 0 < d ∧ d ≤ labels.length) :
    ∃ c, afterNumbered labels depths = .ok c ∧ Represents labels depths c := by
  induction depths using List.reverseRecOn with
  | nil => exact ⟨{}, rfl, represents_nil labels⟩
  | append_singleton ds k ih =>
    obtain ⟨c, hc, hrep⟩ := ih (fun d hd => hdepths d (List.mem_append_left _ hd))
    obtain ⟨c', hnum, hrep'⟩ := hrep.number (hdepths k (by simp))
    exact ⟨c', by simp [afterNumbered_snoc, hc, hnum, bind, Except.bind, pure, Except.pure], hrep'⟩

end Counters

/-! ## Numbered blocks in the world -/

/-- A `numbered False l₀ … lₖ₋₁` block enters its labels into the counters and opens a
numbering sink that passes on to the sink it was opened in. -/
theorem Frame.start_numbered_labels {labels : List String} (hl : labels ≠ []) (calls : Nat)
    (parent : Frame) (w : World) :
    Frame.start .numbered ("False" :: labels) calls parent w =
      (do
        let counters ← w.counters.enter labels
        return (.numbered false labels w.sink, parent,
          ({ w with counters } : World).openSink (.numbered false labels w.sink false))) := by
  have hpos : 0 < labels.length := List.length_pos_of_ne_nil hl
  simp [Frame.start, hpos]

/-- A paragraph put through a numbering sink that has taken none yet is numbered by the
counters and passed on, behind its number and a blank, to the sink the numbering sink was
opened in. -/
theorem World.addParagraphHere_numbered {w : World} {labels : List String} {prev : Nat}
    (hl : labels ≠ []) (hsink : w.sinkAt w.sink = .numbered false labels prev false)
    (text : String) (style : Option String) :
    w.addParagraphHere (some text) style =
      (do
        let (pre, c') ← w.counters.prefixFor labels
        ({ w.setSink w.sink (.numbered false labels prev true) with counters := c' } : World).addParagraph
          w.sinks.length prev (some (pre ++ " " ++ text)) style) := by
  have hne : labels.isEmpty = false := List.isEmpty_eq_false_iff.mpr hl
  unfold World.addParagraphHere World.fuel
  simp only [World.addParagraph, hsink, Bool.false_eq_true, if_false, World.numberPrefix, hne,
    World.setSink]
  rcases w.counters.prefixFor labels with e | ⟨pre, c'⟩ <;> rfl

/-- Numbered paragraphs labelled with prefixes of one sequence are numbered in outline. In a
world whose counters are those left by numbered paragraphs of some depths, a
`numbered False l₀ … lₖ₋₁` block opens, and a paragraph put through it is passed on to the
sink the block was opened in behind the outline number of the history it ends: its number at
each level counts the paragraphs of that depth since the last one that was not deeper. The
counters are then those after the history with this paragraph. -/
theorem numbered_paragraph_outline {labels : List String} {depths : List Nat} {k : Nat}
    (hdepths : ∀ d ∈ depths, 0 < d ∧ d ≤ labels.length) (hk : 0 < k ∧ k ≤ labels.length)
    {w : World} (hw : Counters.afterNumbered labels depths = .ok w.counters)
    (calls : Nat) (parent : Frame) (text : String) (style : Option String) :
    ∃ w₁ c', Frame.start .numbered ("False" :: labels.take k) calls parent w =
        .ok (.numbered false (labels.take k) w.sink, parent, w₁) ∧
      Counters.afterNumbered labels (depths ++ [k]) = .ok c' ∧
      w₁.addParagraphHere (some text) style =
        ({ w₁.setSink w₁.sink (.numbered false (labels.take k) w.sink true) with
            counters := c' } : World).addParagraph w.fuel w.sink
          (some (outlineNumber (depths ++ [k]) ++ " " ++ text)) style := by
  obtain ⟨c, hc, hrep⟩ := Counters.afterNumbered_represents hdepths
  rw [hw] at hc
  cases hc
  obtain ⟨c', hnum, -⟩ := hrep.number hk
  -- a numbered paragraph enters its labels when the block opens and is numbered when it comes
  obtain ⟨c₁, henter, hprefix⟩ : ∃ c₁, w.counters.enter (labels.take k) = .ok c₁ ∧
      c₁.prefixFor (labels.take k) = .ok (outlineNumber (depths ++ [k]), c') := by
    simpa only [Counters.numberWith, Except.bind_eq_ok] using hnum
  have hl : labels.take k ≠ [] := by
    intro h
    have hlen := List.length_take_of_le hk.2
    rw [h] at hlen
    simp at hlen
    omega
  let w₁ : World := ({ w with counters := c₁ } : World).openSink
    (.numbered false (labels.take k) w.sink false)
  have hsink : w₁.sinkAt w₁.sink = .numbered false (labels.take k) w.sink false := by
    simp [w₁, World.sinkAt, World.openSink]
  have hfuel : w₁.sinks.length = w.fuel := by simp [w₁, World.fuel, World.openSink]
  refine ⟨w₁, c', ?_, ?_, ?_⟩
  · rw [Frame.start_numbered_labels hl, henter]
    rfl
  · rw [Counters.afterNumbered_snoc, hw]
    simp [hnum, bind, Except.bind, pure, Except.pure]
  · rw [World.addParagraphHere_numbered hl hsink text style, show w₁.counters = c₁ from rfl,
      hprefix, hfuel]
    rfl

/-- After two chapters, the first with two sections, a section paragraph is numbered `2.1`. -/
theorem numbered_section_of_second_chapter :
    let w : World :=
      { doc := { sheet := [] }, prefixes := default, files := {},
        counters := { levels := [[("chapter", 3)], [("section", 3)]], previous := ["chapter"] } }
    Counters.afterNumbered ["chapter", "section"] [1, 2, 2, 1] = .ok w.counters ∧
      ∃ w₁ c', Frame.start .numbered ["False", "chapter", "section"] 0 .top w =
          .ok (.numbered false ["chapter", "section"] 0, .top, w₁) ∧
        Counters.afterNumbered ["chapter", "section"] [1, 2, 2, 1, 2] = .ok c' ∧
        w₁.addParagraphHere (some "Methods") none =
          ({ w₁.setSink w₁.sink (.numbered false ["chapter", "section"] 0 true) with
              counters := c' } : World).addParagraph w.fuel 0 (some "2.1 Methods") none := by
  intro w
  have hw : Counters.afterNumbered ["chapter", "section"] [1, 2, 2, 1] = .ok w.counters := rfl
  obtain ⟨w₁, c', hstart, hafter, hadd⟩ :=
    numbered_paragraph_outline (k := 2) (by simp) (by simp) hw 0 .top "Methods" none
  have hnumber : outlineNumber ([1, 2, 2, 1] ++ [2]) = "2.1" := by decide
  rw [hnumber] at hadd
  exact ⟨hw, w₁, c', hstart, hafter, hadd⟩

end MacroDoc.Engine
