import MacroDoc.Proofs.Indentation
import Mathlib.Order.Basic
import Mathlib.Data.Nat.Find

/-!
# How much indentation a line loses

A line read with `k` blocks open loses copies of the indent unit from its front, one at a
time, at most `k` of them, and stops at the first place where the line does not begin with
the unit. So it loses exactly `min k m` copies, where `m` is the number of copies the line
begins with, and an empty unit takes nothing off. Stripping `a` copies and then `b` more is
stripping `a + b` at once: this is what lets the indent of nested blocks be taken off level
by level.

## Main definitions

* `Markup.leadingCopies`: the number of copies of a unit a line begins with.

## Main results

* `Markup.leadingCopies_of_prefix`, `Markup.leadingCopies_of_not_prefix`: a line that begins
  with the unit begins with one copy more than the rest of it.
* `Markup.stripIndentChars_eq_drop`: stripping takes off `min k m` copies.
* `Markup.stripIndentChars_add`: stripping twice is stripping once, the depths added.
* `Markup.stripIndent_leading_copies`: the same laws on lines as texts.
-/

namespace MacroDoc.Markup

/-- The number of copies of `unit` that `line` begins with, one after the other: the most
`j`, up to the length of the line, such that `j` copies of the unit in a row begin it. An
empty unit begins every line any number of times, so the line's length is taken. -/
def leadingCopies (unit line : List Char) : Nat :=
  Nat.findGreatest (fun j => (List.replicate j unit).flatten <+: line) line.length

example : leadingCopies "ab".toList "ababa".toList = 2 := by decide

section Copies

variable {unit line : List Char}

/-- A line begins with as many copies of a unit as `leadingCopies` counts. -/
theorem leadingCopies_prefix (unit line : List Char) :
    (List.replicate (leadingCopies unit line) unit).flatten <+: line :=
  Nat.findGreatest_spec (P := fun j => (List.replicate j unit).flatten <+: line)
    (Nat.zero_le _) (by simp)

/-- The number of leading copies, as the greatest count of copies that begin the line. -/
theorem leadingCopies_eq_iff {m : Nat} :
    leadingCopies unit line = m ↔ m ≤ line.length ∧
      (m ≠ 0 → (List.replicate m unit).flatten <+: line) ∧
      ∀ n, m < n → n ≤ line.length → ¬ (List.replicate n unit).flatten <+: line := by
  unfold leadingCopies
  rw [Nat.findGreatest_eq_iff]

/-- `j` copies of a nonempty unit take at least `j` characters. -/
theorem copies_le_length (hne : unit ≠ []) {j : Nat}
    (h : (List.replicate j unit).flatten <+: line) : j ≤ line.length := by
  have hlen := h.length_le
  have hpos : 0 < unit.length := List.length_pos_iff.mpr hne
  simp only [List.length_flatten, List.map_replicate] at hlen
  calc j ≤ j * unit.length := Nat.le_mul_of_pos_right j hpos
    _ = (List.replicate j unit.length).sum := by simp
    _ ≤ line.length := hlen

/-- A line that begins with a nonempty unit begins with one copy more than the rest of the
line after it. -/
theorem leadingCopies_of_prefix (hne : unit ≠ []) (hp : unit <+: line) :
    leadingCopies unit line = leadingCopies unit (line.drop unit.length) + 1 := by
  obtain ⟨rest, rfl⟩ := hp
  simp only [List.drop_left]
  -- `j + 1` copies begin `unit ++ rest` exactly when `j` copies begin `rest`
  have hstep : ∀ j, (List.replicate (j + 1) unit).flatten <+: unit ++ rest ↔
      (List.replicate j unit).flatten <+: rest := by
    intro j
    rw [List.replicate_succ, List.flatten_cons, List.prefix_append_right_inj]
  have hrest := leadingCopies_prefix unit rest
  have hle := copies_le_length hne hrest
  have hpos : 0 < unit.length := List.length_pos_iff.mpr hne
  refine leadingCopies_eq_iff.mpr ⟨?_, fun _ => (hstep _).mpr hrest, ?_⟩
  · simp only [List.length_append]
    omega
  · intro n hlt hn hpre
    obtain ⟨j, rfl⟩ : ∃ j, n = j + 1 := ⟨n - 1, by omega⟩
    have hj := (hstep j).mp hpre
    have hmax := (leadingCopies_eq_iff.mp (rfl : leadingCopies unit rest = _)).2.2
    exact hmax j (by omega) (copies_le_length hne hj) hj

/-- A line that does not begin with the unit begins with no copy of it. -/
theorem leadingCopies_of_not_prefix (hp : ¬ unit <+: line) : leadingCopies unit line = 0 := by
  refine leadingCopies_eq_iff.mpr ⟨Nat.zero_le _, fun h => absurd rfl h, ?_⟩
  intro j hj _ hpre
  obtain ⟨i, rfl⟩ : ∃ i, j = i + 1 := ⟨j - 1, by omega⟩
  rw [List.replicate_succ, List.flatten_cons] at hpre
  exact hp ((List.prefix_append unit _).trans hpre)

end Copies

/-- An empty unit takes nothing off, whatever the depth. -/
theorem stripIndentChars_nil (depth : Nat) (line : List Char) :
    stripIndentChars [] depth line = line := by
  induction depth with
  | zero => rfl
  | succ depth ih => simp [stripIndentChars, ih]

/-- A line read at depth `k` loses `min k m` copies of the unit, where `m` is the number of
copies it begins with. -/
theorem stripIndentChars_eq_drop (unit : List Char) (k : Nat) (line : List Char) :
    stripIndentChars unit k line = line.drop (min k (leadingCopies unit line) * unit.length) := by
  by_cases hne : unit = []
  · subst hne
    simp [stripIndentChars_nil]
  induction k generalizing line with
  | zero => simp [stripIndentChars]
  | succ k ih =>
    by_cases hp : unit <+: line
    · -- one copy goes, and the rest of the line begins with one copy fewer
      have hpre : unit.isPrefixOf line = true := List.isPrefixOf_iff_prefix.mpr hp
      rw [stripIndentChars, if_pos hpre, ih, List.drop_drop, leadingCopies_of_prefix hne hp,
        Nat.succ_min_succ, Nat.succ_mul, Nat.add_comm]
    · rw [ stripIndentChars_of_not_prefix hp, leadingCopies_of_not_prefix hp]
      simp

/-- Stripping `a` copies and then `b` more is stripping `a + b` copies at once. -/
theorem stripIndentChars_add (unit : List Char) (a b : Nat) (line : List Char) :
    stripIndentChars unit b (stripIndentChars unit a line) =
      stripIndentChars unit (a + b) line := by
  induction a generalizing line with
  | zero => simp [stripIndentChars]
  | succ a ih =>
    rw [Nat.add_right_comm]
    by_cases hp : unit <+: line
    · have hpre : unit.isPrefixOf line = true := List.isPrefixOf_iff_prefix.mpr hp
      simp only [stripIndentChars, hpre, if_true]
      exact ih _
    · rw [ stripIndentChars_of_not_prefix hp, stripIndentChars_of_not_prefix hp,
        stripIndentChars_of_not_prefix hp]

/-- Indent stripping on lines as texts. A line read at depth `k ≥ 0` loses `min k m` copies of
the indent unit, where `m` counts the copies it begins with; an empty unit takes nothing off;
and stripping at depth `a`, then at depth `b`, is stripping at depth `a + b`. -/
theorem stripIndent_leading_copies (unit line : String) (k a b : Nat) :
    stripIndent unit k line =
        String.ofList (line.toList.drop (min k (leadingCopies unit.toList line.toList) * unit.length)) ∧
      stripIndent "" k line = line ∧
      stripIndent unit b (stripIndent unit a line) = stripIndent unit (a + b : Nat) line := by
  refine ⟨?_, ?_, ?_⟩
  · rw [stripIndent, Int.toNat_natCast, stripIndentChars_eq_drop, String.length_toList]
  · rw [stripIndent, Int.toNat_natCast]
    simp [stripIndentChars_nil]
  · simp only [stripIndent, Int.toNat_natCast, String.toList_ofList, stripIndentChars_add]

end MacroDoc.Markup
