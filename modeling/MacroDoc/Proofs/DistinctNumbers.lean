import MacroDoc.Proofs.NumberingLevels
import MacroDoc.Proofs.LabelErasing
import Mathlib

/-!
# When numbered paragraphs get different numbers

Two numbered paragraphs with the same labels need not get different numbers: the counters
keep one number per label at each level, but a block whose labels depart from the last
numbered paragraph's clears whole levels, so after `a`, `b`, `a` each paragraph is numbered
`1`. What the counters do promise is this. After a paragraph labelled `P`, as long as every
paragraph numbered is labelled with a prefix of `P` or with an extension of it, the next
paragraph labelled `P` gets another number.

The reason is an order on the numbers held for the labels of `P`, level by level. A
paragraph labelled with the first `m` labels of `P` moves the number at level `m - 1` on and
keeps those above it; a paragraph with longer labels keeps them all. A level is only cleared
when a block's labels depart from the last paragraph's there, and with labels comparable to
`P` that happens no higher than where the last paragraph's labels left `P`. So once the
numbers have got ahead of those held after the first paragraph, at the first level where they
differ (`Counters.PassedAt`), they stay ahead; and a paragraph labelled `P` gets them there.
Numbers joined by dots can be read back, so the prefixes differ.

## Main definitions

* `Engine.Numbered`: a numbered block with its one paragraph.
* `Engine.Counters.numberOne`, `Engine.Counters.numberAll`: what numbered blocks, each with
  its paragraph, do to the counters.
* `Engine.Counters.PassedAt`: the numbers held for a path have got ahead of earlier ones.

## Main results

* `Engine.Frame.start_numbered_numberPrefix`: a numbered block and the paragraph put through
  it at once do to the counters what `Counters.numberOne` does.
* `Engine.Counters.prefixFor_numberAt`: a paragraph shows at each level the number its label
  holds there afterwards, less one.
* `Engine.Counters.PassedAt.numberOne`: a paragraph with comparable labels keeps the numbers
  ahead.
* `Engine.numbered_prefixes_differ`: two paragraphs with the same labels, with only
  comparable labels between them, get different prefixes.
-/

namespace MacroDoc.Engine

/-- A `numbered False` block with the one paragraph put through it at once: the block's labels
and the name of the macro in force when the paragraph comes. -/
structure Numbered where
  labels : List String
  name : String
  deriving DecidableEq, Repr

namespace Numbered

/-- The labels the paragraph is numbered with: the block's, or the macro's name for a block
without labels. -/
def path (n : Numbered) : List String := if n.labels.isEmpty then [n.name] else n.labels

theorem path_ne_nil (n : Numbered) : n.path ≠ [] := by
  unfold path
  split
  · simp
  · rename_i h
    simpa using h

theorem path_of_ne_nil {n : Numbered} (h : n.labels ≠ []) : n.path = n.labels := by
  simp [path, h]

end Numbered

/-! ## Comparable labels -/

section Comparable

variable {E P : List String}

/-- A list begins with the elements of any prefix of it. -/
theorem getElem?_of_isPrefix {xs ys : List String} (h : xs.IsPrefix ys) {i : Nat}
    (hi : i < xs.length) : ys[i]? = xs[i]? := by
  obtain ⟨t, rfl⟩ := h
  exact List.getElem?_append_left hi

/-- Labels comparable with `P` and no longer are a prefix of it. -/
theorem isPrefix_of_comparable (hE : E.IsPrefix P ∨ P.IsPrefix E) (hlen : E.length ≤ P.length) :
    E.IsPrefix P := by
  rcases hE with hE | hPE
  · exact hE
  · rw [hPE.eq_of_length (Nat.le_antisymm hPE.length_le hlen)]

/-- Comparable labels agree wherever both have one. -/
theorem getD_of_comparable (hE : E.IsPrefix P ∨ P.IsPrefix E) {L : Nat} (hLE : L < E.length)
    (hLP : L < P.length) : E.getD L "" = P.getD L "" := by
  simp only [List.getD_eq_getElem?_getD]
  rcases hE with hE | hPE
  · rw [getElem?_of_isPrefix hE hLE]
  · rw [getElem?_of_isPrefix hPE hLP]

/-- When the last labels begin with the labels of `P` down to `D`, those of a comparable block
do too, down to `D` or to the end of `P`. -/
theorem take_isPrefix_of_comparable {prev : List String} {D : Nat}
    (hE : E.IsPrefix P ∨ P.IsPrefix E) (hprev : (P.take (D + 1)).IsPrefix prev) :
    (E.take (min (D + 1) P.length)).IsPrefix prev := by
  refine List.IsPrefix.trans ?_ hprev
  rcases hE with hE | hPE
  · rw [List.prefix_iff_eq_take.mp hE, List.take_take]
    exact List.take_prefix_take_left (by omega)
  · obtain ⟨t, rfl⟩ := hPE
    rw [List.take_append_of_le_length (by omega)]
    exact List.take_prefix_take_left (by omega)

end Comparable

namespace Counters

/-! ## The number a level holds for a label -/

/-- The number a level holds for a label, a label without one reading as its first number. -/
def numberAt (levels : List Level) (L : Nat) (label : String) : Int :=
  ((levels.getD L []).get? label).getD firstNumber

theorem numberAt_set_level (levels : List Level) (i L : Nat) (x : Level) (label : String) :
    numberAt (levels.set i x) L label =
      if i = L ∧ i < levels.length then (x.get? label).getD firstNumber
      else numberAt levels L label := by
  unfold numberAt
  rw [getD_set_level]
  split <;> rfl

/-- Setting the number of a label at a level changes that number alone. -/
theorem numberAt_setNumber {levels : List Level} {i : Nat} (hi : i < levels.length)
    (label : String) (n : Int) (L : Nat) (key : String) :
    numberAt (levels.set i ((levels.getD i []).set label n)) L key =
      if L = i ∧ key = label then n else numberAt levels L key := by
  rw [numberAt_set_level]
  by_cases hL : L = i
  · subst hL
    rw [if_pos ⟨rfl, hi⟩, Level.get?_set]
    by_cases hkey : key = label
    · simp [hkey]
    · simp [hkey, numberAt]
  · rw [if_neg (fun h => hL h.1.symm), if_neg (fun h => hL h.1)]

/-- Reading a number gives the number the level holds. -/
theorem readNumber_fst (levels : List Level) (i : Nat) (label : String) :
    (readNumber levels i label).1 = numberAt levels i label := by
  unfold readNumber numberAt
  dsimp only
  split <;> simp_all

/-- Reading a number keeps every number held: a label without one is given its first. -/
theorem numberAt_readNumber (levels : List Level) (i : Nat) (label : String) (L : Nat)
    (key : String) : numberAt (readNumber levels i label).2 L key = numberAt levels L key := by
  unfold readNumber
  dsimp only
  split
  · rfl
  · rename_i hnone
    rw [numberAt_set_level]
    split
    · rename_i hiL
      obtain ⟨rfl, -⟩ := hiL
      rw [Level.get?_set]
      split
      · subst key
        unfold numberAt
        rw [hnone]
        rfl
      · rfl
    · rfl

/-- Numbering the parents of a paragraph writes each one's number less one with a dot after
it, and keeps every number held. -/
theorem foldl_numberParent_numberAt (ps : List (String × Nat)) (acc : String × List Level) :
    (ps.foldl numberParent acc).1 =
        acc.1 ++ String.join (ps.map fun p => toString (numberAt acc.2 p.2 p.1 - 1) ++ ".") ∧
      ∀ L key, numberAt (ps.foldl numberParent acc).2 L key = numberAt acc.2 L key := by
  induction ps generalizing acc with
  | nil => simp
  | cons p ps ih =>
    obtain ⟨htext, hnum⟩ := ih (numberParent acc p)
    have hkeep : ∀ L key, numberAt (numberParent acc p).2 L key = numberAt acc.2 L key :=
      numberAt_readNumber acc.2 p.2 p.1
    refine ⟨?_, fun L key => (hnum L key).trans (hkeep L key)⟩
    rw [List.foldl_cons, htext, List.map_congr_left fun q _ => by rw [hkeep]]
    simp [numberParent, readNumber_fst, String.append_assoc]

/-- The pairs of a list with their positions, mapped, are its positions mapped. -/
theorem map_zipIdx_eq_map_range {α β : Type} (l : List α) (d : α) (f : α × Nat → β) :
    l.zipIdx.map f = (List.range l.length).map fun i => f (l.getD i d, i) := by
  apply List.ext_getElem (by simp)
  intro i h₁ h₂
  simp [List.getD_eq_getElem?_getD, List.getElem?_eq_getElem (by simpa using h₁)]

/-- A numbered paragraph shows at each level the number its label holds there once it is
numbered, less one, the numbers joined by dots. Numbering moves the number of the last label
at the last level on by one and keeps every other number. -/
theorem prefixFor_numberAt {c c' : Counters} {labels : List String} {text : String}
    (h : c.prefixFor labels = .ok (text, c')) :
    text = ".".intercalate ((List.range labels.length).map fun L =>
        toString (numberAt c'.levels L (labels.getD L "") - 1)) ∧
      ∀ L key, numberAt c'.levels L key =
        if L + 1 = labels.length ∧ key = labels.getD L "" then numberAt c.levels L key + 1
        else numberAt c.levels L key := by
  obtain ⟨hne, hle, -, -⟩ := prefixFor_eq_ok h
  obtain ⟨init, last, rfl⟩ : ∃ init last, labels = init ++ [last] := by
    rcases List.eq_nil_or_concat labels with h | ⟨init, last, h⟩
    · exact absurd h hne
    · exact ⟨init, last, by simpa using h⟩
  have hk : (init ++ [last]).length = init.length + 1 := by simp
  unfold prefixFor at h
  rw [if_neg (by simp; omega)] at h
  dsimp only at h
  rw [List.foldl_ext _ numberParent _ (fun acc p _ => by obtain ⟨label, i⟩ := p; rfl),
    List.dropLast_concat, List.getLast?_concat, Option.getD_some, hk, Nat.add_sub_cancel] at h
  obtain ⟨htext, hnum⟩ := foldl_numberParent_numberAt init.zipIdx ("", c.levels)
  have hlen := foldl_numberParent_length init.zipIdx ("", c.levels)
  generalize init.zipIdx.foldl numberParent ("", c.levels) = r at h htext hnum hlen
  obtain ⟨text₀, lv⟩ := r
  dsimp only at h htext hnum hlen
  generalize hq : readNumber lv init.length last = q at h
  obtain ⟨n, lv'⟩ := q
  have hn : n = numberAt c.levels init.length last := by
    rw [← hnum, ← readNumber_fst, hq]
  have hnum' : ∀ L key, numberAt lv' L key = numberAt c.levels L key := fun L key => by
    rw [← hnum, ← numberAt_readNumber lv init.length last, hq]
  have hlen' : init.length < lv'.length := by
    have := readNumber_length lv init.length last
    rw [hq] at this
    simp only at this
    simp only [List.length_append, List.length_singleton] at hle
    omega
  obtain ⟨rfl, rfl⟩ := Prod.mk.inj (Except.ok.inj h)
  -- the numbers once the paragraph is numbered
  have hafter : ∀ L key, numberAt (lv'.set init.length ((lv'.getD init.length []).set last (n + 1)))
      L key = if L + 1 = init.length + 1 ∧ key = (init ++ [last]).getD L "" then
        numberAt c.levels L key + 1 else numberAt c.levels L key := by
    intro L key
    rw [numberAt_setNumber hlen', hnum']
    by_cases hL : L = init.length
    · subst hL
      by_cases hkey : key = last
      · simp [hkey, hn]
      · simp [hkey]
    · rw [if_neg (fun h => hL h.1), if_neg (by omega)]
  refine ⟨?_, by simpa only [hk] using hafter⟩
  -- the parents show their numbers less one, the last label the number it had
  have hparents : (init.zipIdx.map fun p => toString (numberAt c.levels p.2 p.1 - 1) ++ ".") =
      (List.range init.length).map fun L => toString
        (numberAt (lv'.set init.length ((lv'.getD init.length []).set last (n + 1))) L
          ((init ++ [last]).getD L "") - 1) ++ "." := by
    rw [map_zipIdx_eq_map_range init ""]
    refine List.map_congr_left fun L hL => ?_
    have hL' : L < init.length := List.mem_range.mp hL
    rw [hafter, if_neg (by omega), List.getD_append _ _ _ _ hL']
  simp only [hk]
  rw [← join_dotted_eq_intercalate, ← hparents, hafter, if_pos ⟨rfl, rfl⟩, htext, hn]
  simp

/-- Entering a block keeps the number of every label at every level above the first where its
labels depart from the last paragraph's. -/
theorem enter_numberAt {c c' : Counters} {labels : List String}
    (hc : c.previous.length ≤ c.levels.length) (h : c.enter labels = .ok c') {L : Nat}
    (hL : ∀ i, c.firstChange labels = some i → L < i) (key : String) :
    numberAt c'.levels L key = numberAt c.levels L key := by
  obtain ⟨levels, henter, -, -, hkeep⟩ := enter_ok hc labels
  rw [henter] at h
  cases h
  unfold numberAt
  rw [hkeep L hL]

/-- When the last paragraph's labels begin with a block's first `p` labels, the first position
where they differ is no earlier than `p`. -/
theorem le_firstChange {c : Counters} {labels : List String} {p i : Nat}
    (hp : (labels.take p).IsPrefix c.previous) (h : c.firstChange labels = some i) : p ≤ i := by
  obtain ⟨⟨l, j⟩, hfind, rfl⟩ := Option.map_eq_some_iff.mp h
  have hdiff := List.find?_some hfind
  have hget : labels[j]? = some l :=
    (List.mem_zipIdx_iff_getElem?.mp (List.mem_of_find?_eq_some hfind))
  refine Nat.le_of_not_lt fun hjp => ?_
  -- the label at position `j` is among the first `p`, which the last paragraph shares
  have htake : (labels.take p)[j]? = some l := by rw [List.getElem?_take, if_pos hjp, hget]
  have hjlen : j < (labels.take p).length := (List.getElem?_eq_some_iff.mp htake).1
  have hprev : c.previous[j]? = some l := by rw [getElem?_of_isPrefix hp hjlen, htake]
  have hjprev : j < c.previous.length := (List.getElem?_eq_some_iff.mp hprev).1
  simp [hprev, Nat.ne_of_lt hjprev] at hdiff

/-! ## Numbered blocks one after another -/

/-- What a numbered block with its one paragraph does to the counters: the block enters its
labels, and the paragraph is numbered with its path. -/
def numberOne (c : Counters) (n : Numbered) : Except Fault (String × Counters) := do
  (← c.enter n.labels).prefixFor n.path

/-- The prefixes numbered blocks, each with its one paragraph, give one after another, and the
counters after them. -/
def numberAll (c : Counters) : List Numbered → Except Fault (List String × Counters)
  | [] => .ok ([], c)
  | n :: rest => do
    let (text, c₁) ← c.numberOne n
    let (texts, c₂) ← c₁.numberAll rest
    return (text :: texts, c₂)

end Counters

/-- A `numbered False` block opened in a world numbers a paragraph put through it at once as
`Counters.numberOne` says, under the macro name in force. -/
theorem Frame.start_numbered_numberPrefix (labels : List String) (calls : Nat) (parent : Frame)
    (w : World) :
    (do
      let (_, _, w₁) ← Frame.start .numbered ("False" :: labels) calls parent w
      let (text, w₂) ← w₁.numberPrefix false labels
      return (text, w₂.counters)) = w.counters.numberOne ⟨labels, w.macroName.getD ""⟩ := by
  -- a block without labels is entered with none, and numbers with the macro's name
  rcases labels with _ | ⟨l, ls⟩ <;>
    simp [Frame.start, Counters.numberOne, World.numberPrefix, Numbered.path, World.openSink]

namespace Counters

theorem numberOne_eq_ok {c c' : Counters} {n : Numbered} {text : String}
    (h : c.numberOne n = .ok (text, c')) :
    ∃ c₁, c.enter n.labels = .ok c₁ ∧ c₁.prefixFor n.path = .ok (text, c') := by
  unfold numberOne at h
  cases hc : c.enter n.labels with
  | error e => rw [hc] at h; cases h
  | ok c₁ => exact ⟨c₁, rfl, by rwa [hc] at h⟩

/-- A numbered block with its paragraph leaves a level for each label it numbered with. -/
theorem numberOne_previous_le {c c' : Counters} {n : Numbered} {text : String}
    (h : c.numberOne n = .ok (text, c')) : c'.previous.length ≤ c'.levels.length := by
  obtain ⟨c₁, -, hprefix⟩ := numberOne_eq_ok h
  obtain ⟨-, hle, hlen, hprev⟩ := prefixFor_eq_ok hprefix
  rw [hprev, hlen]
  exact hle

/-- A numbered block with its paragraph never fails while the last paragraph's labels have
their levels, and leaves them so: the labels it remembers are those it numbered with. -/
theorem numberOne_ok {c : Counters} (hc : c.previous.length ≤ c.levels.length) (n : Numbered) :
    ∃ text c', c.numberOne n = .ok (text, c') ∧ c'.previous = n.path ∧
      c'.previous.length ≤ c'.levels.length := by
  obtain ⟨c₁, henter, -, -, hfits⟩ := enter_fits hc n.labels
  have hpath : n.path.length ≤ c₁.levels.length := by
    unfold Numbered.path
    split
    · simp only [List.length_singleton]
      exact Nat.le_trans (Nat.le_max_right _ _) hfits
    · exact Nat.le_trans (Nat.le_max_left _ _) hfits
  obtain ⟨⟨text, c'⟩, hprefix⟩ := prefixFor_ok n.path_ne_nil hpath
  have hone : c.numberOne n = .ok (text, c') := by
    simp [numberOne, henter, bind, Except.bind, hprefix]
  exact ⟨text, c', hone, (prefixFor_eq_ok hprefix).2.2.2, numberOne_previous_le hone⟩

theorem numberAll_append (c : Counters) (xs ys : List Numbered) :
    c.numberAll (xs ++ ys) = (do
      let (t₁, c₁) ← c.numberAll xs
      let (t₂, c₂) ← c₁.numberAll ys
      return (t₁ ++ t₂, c₂)) := by
  induction xs generalizing c with
  | nil =>
    simp only [List.nil_append, numberAll, bind, Except.bind, pure, Except.pure]
    rcases c.numberAll ys with e | ⟨t, c'⟩ <;> rfl
  | cons n xs ih =>
    simp only [List.cons_append, numberAll, ih, bind, Except.bind, pure, Except.pure]
    rcases c.numberOne n with e | ⟨text, c₁⟩
    · rfl
    · simp only
      rcases c₁.numberAll xs with e | ⟨t₁, c₂⟩
      · rfl
      · simp only
        rcases c₂.numberAll ys with e | ⟨t₂, c₃⟩ <;> rfl

/-! ## Numbers that have got ahead -/

/-- The number counters hold at a level for the label a path has there. -/
def held (c : Counters) (P : List String) (L : Nat) : Int := numberAt c.levels L (P.getD L "")

/-- A numbered paragraph shows, joined by dots, the numbers its labels hold once it is
numbered, less one. -/
theorem numberOne_text {c c' : Counters} {n : Numbered} {text : String}
    (h : c.numberOne n = .ok (text, c')) :
    text = ".".intercalate ((List.range n.path.length).map fun L => toString (c'.held n.path L - 1)) := by
  obtain ⟨c₁, -, hprefix⟩ := numberOne_eq_ok h
  exact (prefixFor_numberAt hprefix).1

/-- Counters `c` have got past `c₀` for the labels `P` at level `D`: above `D` they hold the
numbers `c₀` held for the labels of `P`, at `D`, when `P` reaches it, a greater one; and the
last paragraph's labels begin with those of `P` down to `D`, so that no block with comparable
labels clears a level down to `D`. With `D` the length of `P`, the numbers are those of `c₀`. -/
structure PassedAt (P : List String) (c₀ c : Counters) (D : Nat) : Prop where
  le_length : D ≤ P.length
  prefix_previous : (P.take (D + 1)).IsPrefix c.previous
  held_above : ∀ L < D, c.held P L = c₀.held P L
  held_lt : D < P.length → c₀.held P D < c.held P D

/-- After a paragraph labelled `P`, the counters are where they are for `P`. -/
theorem passedAt_self {P : List String} {c : Counters} (h : c.previous = P) :
    PassedAt P c c P.length where
  le_length := Nat.le_refl _
  prefix_previous := by rw [h, List.take_of_length_le (by omega)]
  held_above _ _ := rfl
  held_lt h := absurd h (Nat.lt_irrefl _)

/-- A numbered block with labels comparable to `P` and its paragraph: every number held for
`P` above the level where the last labels left `P` is kept, and the number at the block's last
level, if `P` reaches it, moves on by one. -/
theorem held_numberOne {P : List String} {c c' : Counters} {D : Nat} {n : Numbered}
    {text : String} (hc : c.previous.length ≤ c.levels.length)
    (hprev : (P.take (D + 1)).IsPrefix c.previous)
    (hn : n.path.IsPrefix P ∨ P.IsPrefix n.path) (h : c.numberOne n = .ok (text, c'))
    (L : Nat) (hLD : L ≤ D) (hLP : L < P.length) :
    c'.held P L = if L + 1 = n.path.length then c.held P L + 1 else c.held P L := by
  obtain ⟨c₁, henter, hprefix⟩ := numberOne_eq_ok h
  -- entering clears no level down to `D`
  have hkeep : c₁.held P L = c.held P L := by
    refine enter_numberAt hc henter (fun i hi => ?_) _
    by_cases hl : n.labels = []
    · simp [hl, firstChange] at hi
    · have hle := le_firstChange (Numbered.path_of_ne_nil hl ▸
        take_isPrefix_of_comparable hn hprev) hi
      omega
  unfold held at hkeep ⊢
  rw [(prefixFor_numberAt hprefix).2, hkeep]
  by_cases hlast : L + 1 = n.path.length
  · rw [if_pos ⟨hlast, (getD_of_comparable hn (by omega) hLP).symm⟩, if_pos hlast]
  · rw [if_neg (fun h => hlast h.1), if_neg hlast]

/-- A numbered block with labels comparable to `P` and its paragraph keep the numbers held for
`P` ahead, at a level the block's labels reach. -/
theorem PassedAt.numberOne {P : List String} {c₀ c c' : Counters} {D : Nat} {n : Numbered}
    {text : String} (hpass : PassedAt P c₀ c D) (hc : c.previous.length ≤ c.levels.length)
    (hn : n.path.IsPrefix P ∨ P.IsPrefix n.path) (h : c.numberOne n = .ok (text, c')) :
    ∃ D' < n.path.length, PassedAt P c₀ c' D' := by
  have hheld := held_numberOne hc hpass.prefix_previous hn h
  have hprev : c'.previous = n.path := by
    obtain ⟨c₁, -, hprefix⟩ := numberOne_eq_ok h
    exact (prefixFor_eq_ok hprefix).2.2.2
  have hpos : 0 < n.path.length := List.length_pos_of_ne_nil n.path_ne_nil
  have hD := hpass.le_length
  by_cases hshort : n.path.length ≤ D
  · -- a block of labels no longer than `D` moves the number at its last level on
    have hpre : n.path.IsPrefix P := isPrefix_of_comparable hn (by omega)
    refine ⟨n.path.length - 1, by omega, ⟨by omega, ?_, fun L hL => ?_, fun _ => ?_⟩⟩
    · rw [Nat.sub_add_cancel hpos, hprev, ← List.prefix_iff_eq_take.mp hpre]
    · rw [hheld L (by omega) (by omega), if_neg (by omega)]
      exact hpass.held_above L (by omega)
    · rw [hheld (n.path.length - 1) (by omega) (by omega), if_pos (by omega),
        ← hpass.held_above _ (by omega)]
      omega
  · -- a longer block keeps every number down to `D`, moving the one at `D` on at most
    refine ⟨D, by omega, ⟨hD, ?_, fun L hL => ?_, fun hDP => ?_⟩⟩
    · rw [hprev]
      rcases hn with hpre | hPE
      · rw [List.prefix_iff_eq_take.mp hpre]
        exact List.take_prefix_take_left (by omega)
      · exact (List.take_prefix _ _).trans hPE
    · rw [hheld L (by omega) (by omega), if_neg (by omega)]
      exact hpass.held_above L hL
    · have hlt := hpass.held_lt hDP
      rw [hheld D (Nat.le_refl _) hDP]
      split <;> omega

/-- Numbered blocks with labels comparable to `P` keep the numbers held for `P` ahead. -/
theorem PassedAt.numberAll {P : List String} {c₀ : Counters} :
    ∀ {mid : List Numbered} {c c' : Counters} {texts : List String} {D : Nat},
      PassedAt P c₀ c D → c.previous.length ≤ c.levels.length →
      (∀ q ∈ mid, q.path.IsPrefix P ∨ P.IsPrefix q.path) →
      c.numberAll mid = .ok (texts, c') → ∃ D', PassedAt P c₀ c' D'
  | [], c, c', texts, D, hpass, _, _, h => by
    cases h
    exact ⟨D, hpass⟩
  | n :: rest, c, c', texts, D, hpass, hc, hmid, h => by
    simp only [Counters.numberAll, Except.bind_eq_ok, Except.pure_eq_ok] at h
    obtain ⟨⟨text, c₁⟩, hone, ⟨texts', c₂⟩, hall, heq⟩ := h
    cases heq
    obtain ⟨D₁, -, hpass₁⟩ := hpass.numberOne hc (hmid n (List.mem_cons.mpr (.inl rfl))) hone
    exact hpass₁.numberAll (numberOne_previous_le hone)
      (fun q hq => hmid q (List.mem_cons_of_mem n hq)) hall

/-- Numbered blocks never fail while the last paragraph's labels have their levels. -/
theorem numberAll_ok : ∀ (ns : List Numbered) {c : Counters},
    c.previous.length ≤ c.levels.length →
    ∃ texts c', c.numberAll ns = .ok (texts, c') ∧ texts.length = ns.length ∧
      c'.previous.length ≤ c'.levels.length
  | [], c, hc => ⟨[], c, rfl, rfl, hc⟩
  | n :: rest, c, hc => by
    obtain ⟨text, c₁, hone, -, hc₁⟩ := numberOne_ok hc n
    obtain ⟨texts, c₂, hall, hlen, hc₂⟩ := numberAll_ok rest hc₁
    exact ⟨text :: texts, c₂, by simp [numberAll, hone, hall, bind, Except.bind, pure,
      Except.pure], by simp [hlen], hc₂⟩

end Counters

/-! ## Dotted numbers -/

/-- The text of a number holds no dot. -/
theorem dot_not_mem_toString (a : Int) : '.' ∉ (toString a).toList := by
  have hnat : ∀ n : Nat, '.' ∉ n.repr.toList := fun n hmem => by
    rw [Nat.toList_repr] at hmem
    have hdigit := Nat.isDigit_of_mem_toDigits (by decide) (by decide) hmem
    exact absurd hdigit (by decide)
  rw [Int.toString_eq_repr, Int.repr_eq_if]
  split
  · exact hnat _
  · simpa using hnat _

/-- Numbers joined by dots can be read back. -/
theorem intercalate_dot_injective {xs ys : List Int} (hx : xs ≠ []) (hy : ys ≠ [])
    (h : ".".intercalate (xs.map toString) = ".".intercalate (ys.map toString)) : xs = ys := by
  have hsplit : ∀ zs : List Int, zs ≠ [] →
      (".".intercalate (zs.map toString)).toList.splitOn '.' = zs.map fun a => (toString a).toList := by
    intro zs hz
    rw [String.toList_intercalate, List.map_map]
    exact List.splitOn_intercalate '.' (by simpa using fun a _ => dot_not_mem_toString a)
      (by simpa using hz)
  have hlists := congrArg (fun s : String => s.toList.splitOn '.') h
  simp only [hsplit xs hx, hsplit ys hy] at hlists
  exact List.map_injective_iff.mpr
    (fun a b hab => Int.repr_inj.mp (String.toList_inj.mp hab)) hlists

namespace Counters

/-- Counters that have got ahead of `c₀` for `P` at one of its levels show another number for
`P` than `c₀` does. -/
theorem PassedAt.text_ne {P : List String} {c₀ c : Counters} {D : Nat}
    (hpass : PassedAt P c₀ c D) (hD : D < P.length) :
    ".".intercalate ((List.range P.length).map fun L => toString (c₀.held P L - 1)) ≠
      ".".intercalate ((List.range P.length).map fun L => toString (c.held P L - 1)) := by
  intro heq
  have hne : (List.range P.length).map (fun L => c₀.held P L - 1) ≠ [] := by
    simp only [ne_eq, List.map_eq_nil_iff, List.range_eq_nil]
    omega
  have hne' : (List.range P.length).map (fun L => c.held P L - 1) ≠ [] := by
    simp only [ne_eq, List.map_eq_nil_iff, List.range_eq_nil]
    omega
  have hnums := intercalate_dot_injective hne hne' (by rw [List.map_map, List.map_map]; exact heq)
  have hat := congrArg (fun l : List Int => l[D]?) hnums
  simp [List.getElem?_range hD] at hat
  have := hpass.held_lt hD
  omega

end Counters

/-- From the start of a run, two numbered paragraphs with the same labels get different
prefixes when every paragraph numbered between them is labelled with a prefix of their labels
or an extension of them. A block without labels is numbered with the macro's name; the run
never fails. -/
theorem numbered_prefixes_differ {pre mid post : List Numbered} {a b : Numbered}
    (hab : a.path = b.path)
    (hmid : ∀ q ∈ mid, q.path.IsPrefix a.path ∨ a.path.IsPrefix q.path) :
    ∃ texts₁ t₁ texts₂ t₂ texts₃ c,
      ({} : Counters).numberAll (pre ++ a :: mid ++ b :: post) =
        .ok (texts₁ ++ t₁ :: texts₂ ++ t₂ :: texts₃, c) ∧
      texts₁.length = pre.length ∧ texts₂.length = mid.length ∧ t₁ ≠ t₂ := by
  obtain ⟨texts₁, c₁, hpre, hlen₁, hc₁⟩ := Counters.numberAll_ok pre
    (show ({} : Counters).previous.length ≤ ({} : Counters).levels.length from Nat.le_refl _)
  obtain ⟨t₁, c₂, ha, hprev₂, hc₂⟩ := Counters.numberOne_ok hc₁ a
  obtain ⟨texts₂, c₃, hmid', hlen₂, hc₃⟩ := Counters.numberAll_ok mid hc₂
  obtain ⟨D, hpass⟩ := (Counters.passedAt_self hprev₂).numberAll hc₂ hmid hmid'
  obtain ⟨t₂, c₄, hb, -, hc₄⟩ := Counters.numberOne_ok hc₃ b
  obtain ⟨D', hD', hpass'⟩ :=
    hpass.numberOne hc₃ (.inl (hab ▸ List.prefix_refl _)) hb
  obtain ⟨texts₃, c₅, hpost, -, -⟩ := Counters.numberAll_ok post hc₄
  refine ⟨texts₁, t₁, texts₂, t₂, texts₃, c₅, ?_, hlen₁, hlen₂, ?_⟩
  · simp [Counters.numberAll_append, Counters.numberAll, hpre, ha, hmid', hb, hpost, bind,
      Except.bind, pure, Except.pure]
  · rw [Counters.numberOne_text ha, Counters.numberOne_text hb, ← hab]
    exact hpass'.text_ne (hab ▸ hD')

/-- A section numbered again after a deeper paragraph, its own chapter and a block without
labels under the chapter's name gets another number. -/
theorem section_renumbered_after_chapter :
    (⟨["a", "b"], "numbered"⟩ : Numbered).path = (⟨["a", "b"], "numbered"⟩ : Numbered).path ∧
      (∀ q ∈ [(⟨["a", "b", "c"], "numbered"⟩ : Numbered), ⟨["a"], "numbered"⟩, ⟨[], "a"⟩],
        q.path.IsPrefix (⟨["a", "b"], "numbered"⟩ : Numbered).path ∨
          (⟨["a", "b"], "numbered"⟩ : Numbered).path.IsPrefix q.path) ∧
      ∃ texts₁ t₁ texts₂ t₂ texts₃ c,
        ({} : Counters).numberAll ([] ++ ⟨["a", "b"], "numbered"⟩ ::
            [⟨["a", "b", "c"], "numbered"⟩, ⟨["a"], "numbered"⟩, ⟨[], "a"⟩] ++
            ⟨["a", "b"], "numbered"⟩ :: []) =
          .ok (texts₁ ++ t₁ :: texts₂ ++ t₂ :: texts₃, c) ∧
        texts₁.length = 0 ∧ texts₂.length = 3 ∧ t₁ ≠ t₂ :=
  ⟨rfl, by decide, numbered_prefixes_differ rfl (by decide)⟩

/-- Siblings clear each other's level: `a`, `b`, `a` are all numbered `1`. -/
theorem numberAll_sibling_labels_repeat :
    (({} : Counters).numberAll [⟨["a"], "numbered"⟩, ⟨["b"], "numbered"⟩,
        ⟨["a"], "numbered"⟩]).toOption.map Prod.fst = some ["1", "1", "1"] := by
  decide

end MacroDoc.Engine
