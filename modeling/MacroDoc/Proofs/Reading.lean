import MacroDoc.Proofs.Nesting

/-!
# Reading line by line

A reading is a sequence of steps, one per line. This module says once what a step can do
when the reading goes on after it, and gives the readings that go on after every line a
name of their own, so that what holds along a reading is proved one step at a time.

A step counts its line, and then, by what the line is read as at the depth of the open
blocks:

* passes over an empty line that is skipped, a comment, or a macro line of no shape;
* makes plain text outside all blocks a paragraph of its own;
* gives plain text inside a block to the innermost block;
* closes the innermost block at a closing line;
* opens a block inside the innermost one at an opening line;
* opens and at once closes a block at a one-line macro.

## Main definitions

* `Engine.Machine.Advance`: the ways a step takes a line and goes on.
* `Engine.Machine.Reads`: a reading that takes lines one after the other and goes on after
  each.
* `Engine.Machine.readLines`: the machine a reading leads to, computed.

## Main results

* `Engine.Machine.step_next`: a step that goes on is one of the ways above.
* `Engine.Machine.step_stop`: a step that ends the reading closes a block, or meets a closing
  line outside all blocks.
* `Engine.Machine.Reads.invariant`, `Engine.Machine.Reads.rel`: what every step keeps, a
  reading keeps.
* `Engine.Machine.readLines_eq_some_iff`: `readLines` gives exactly the readings.
* `Engine.Machine.Reads.lineNumber`: a reading counts every line it takes.
* `Engine.Machine.run_eq_error_iff`: a reading fails exactly where a step of it fails, or at
  the end of the lines when the source cannot be read past them.
* `Engine.Machine.run_eq_ok`: a reading that ends stops at a line, or runs out of lines.
-/

namespace MacroDoc.Engine

open Markup

namespace Machine

/-- The machine with one more line counted. -/
def advanced (m : Machine) : Machine := { m with lineNumber := m.lineNumber + 1 }

@[simp] theorem advanced_frames (m : Machine) : m.advanced.frames = m.frames := rfl

@[simp] theorem advanced_world (m : Machine) : m.advanced.world = m.world := rfl

@[simp] theorem advanced_lineNumber (m : Machine) : m.advanced.lineNumber = m.lineNumber + 1 := rfl

@[simp] theorem advanced_calls (m : Machine) : m.advanced.calls = m.calls := rfl

/-- The ways a step takes a line and goes on. The line is counted, and read at the depth of
the open blocks. -/
inductive Advance (layout : Layout) (m : Machine) (line : String) : Machine → Prop
  /-- An empty line that is skipped, a comment, or a macro line of no shape. -/
  | pass {info : LineInfo} : layout.readAt m.frames.length line = .ok info →
      ((info.empty && layout.skipEmpty) = true ∨ info.kind = .comment ∨
        (info.kind = .macroLine ∧ Shape.ofLine? info.text = none)) →
      Advance layout m line m.advanced
  /-- Plain text outside all blocks becomes a paragraph of its own. -/
  | paragraph {info : LineInfo} {doc : Document.Doc} : layout.readAt m.frames.length line = .ok info →
      (info.empty && layout.skipEmpty) = false → info.kind = .plain → m.frames = [] →
      m.world.doc.addParagraph (some info.text) (some "paragraph") = .ok doc →
      Advance layout m line { m.advanced with world := { m.world with doc } }
  /-- Plain text inside a block goes to the innermost block. -/
  | take {info : LineInfo} {f f' : Frame} {rest : List Frame} :
      layout.readAt m.frames.length line = .ok info → (info.empty && layout.skipEmpty) = false →
      info.kind = .plain → m.frames = f :: rest → f.takeLine info.text m.world = .ok f' →
      Advance layout m line { m.advanced with frames := f' :: rest }
  /-- A closing line closes the innermost block, which asks for no document to be appended. -/
  | close {info : LineInfo} {f : Frame} {rest : List Frame} {w : World} :
      layout.readAt m.frames.length line = .ok info → info.kind = .macroLine →
      Shape.ofLine? info.text = some .closing → m.frames = f :: rest → f.close m.world = .ok w →
      w.appendTarget = none → Advance layout m line { m.advanced with world := w, frames := rest }
  /-- An opening line opens a block inside the innermost one, which the new block may
  change. -/
  | enter {info : LineInfo} {f p : Frame} {w : World} :
      layout.readAt m.frames.length line = .ok info → info.kind = .macroLine →
      Shape.ofLine? info.text = some .opening →
      beginBlock m.openingCalls info.text m.current m.world = .ok (f, p, w) →
      Advance layout m line
        { m.advanced with world := w, frames := f :: m.frames.modifyHead (fun _ => p) }
  /-- A one-line macro opens a block and closes it at once; the block asks for no document
  to be appended. -/
  | single {info : LineInfo} {f p : Frame} {w w' : World} :
      layout.readAt m.frames.length line = .ok info → info.kind = .macroLine →
      Shape.ofLine? info.text = some .oneLine →
      beginBlock m.openingCalls info.text m.current m.world = .ok (f, p, w) →
      f.close w = .ok w' → w'.appendTarget = none →
      Advance layout m line { m.advanced with world := w', frames := m.frames.modifyHead (fun _ => p) }

variable {m m' : Machine} {layout : Layout} {line : String} {u : Option Fault}

/-- Closing a block goes on only when the block asks for no document to be appended, with
the world the block leaves and the blocks around it. -/
theorem closeInner_next {f : Frame} {rest : List Frame} (h : m.closeInner f rest = .ok (.next m')) :
    ∃ w, f.close m.world = .ok w ∧ w.appendTarget = none ∧
      m' = { m with world := w, frames := rest } := by
  unfold closeInner at h
  split at h
  · cases h
  · rename_i w hw
    cases ht : w.appendTarget with
    | none =>
      simp only [ht, Option.isSome_none, Bool.false_eq_true, if_false, Except.ok.injEq,
        Step.next.injEq] at h
      exact ⟨w, hw, ht, h.symm⟩
    | some target => simp [ht] at h

/-- A step that goes on is one of the ways of `Advance`. -/
theorem step_next (h : m.step layout line = .ok (.next m')) : Advance layout m line m' := by
  cases hread : layout.readAt m.frames.length line with
  | error e =>
    have hread' : layout.indentUnit.read (if layout.stripIndent then (m.frames.length : Int) else 0)
        (dropNewlines line) = .error e := hread
    simp [step, hread'] at h
  | ok info =>
    have hread' : layout.indentUnit.read (if layout.stripIndent then (m.frames.length : Int) else 0)
        (dropNewlines line) = .ok info := hread
    simp only [step, hread'] at h
    by_cases hskip : (info.empty && layout.skipEmpty) = true
    · simp only [hskip, if_true, Except.ok.injEq, Step.next.injEq] at h
      subst h
      exact .pass hread (.inl hskip)
    · have hskip' : (info.empty && layout.skipEmpty) = false := by simpa using hskip
      simp only [hskip, Bool.false_eq_true, if_false] at h
      cases hk : info.kind with
      | comment =>
        simp only [hk, Except.ok.injEq, Step.next.injEq] at h
        subst h
        exact .pass hread (.inr (.inl hk))
      | plain =>
        simp only [hk] at h
        -- split on the open blocks without rewriting them away: the paragraph keeps them
        split at h
        · rename_i hf
          split at h
          · rename_i doc hdoc
            simp only [Except.ok.injEq, Step.next.injEq] at h
            subst h
            exact .paragraph hread hskip' hk hf hdoc
          · cases h
        · rename_i f rest hf
          split at h
          · rename_i f' hf'
            simp only [Except.ok.injEq, Step.next.injEq] at h
            subst h
            exact .take hread hskip' hk hf hf'
          · cases h
      | macroLine =>
        simp only [hk] at h
        cases hs : Shape.ofLine? info.text with
        | none =>
          simp only [hs, Except.ok.injEq, Step.next.injEq] at h
          subst h
          exact .pass hread (.inr (.inr ⟨hk, hs⟩))
        | some shape =>
          cases shape with
          | closing =>
            simp only [hs] at h
            cases hf : m.frames with
            | nil => simp [hf] at h
            | cons f rest =>
              simp only [hf] at h
              obtain ⟨w, hw, hnone, rfl⟩ := closeInner_next h
              exact .close hread hk hs hf hw hnone
          | opening =>
            simp only [hs, openBlock_eq] at h
            split at h
            · cases h
            · rename_i f p w hbegin
              simp only [if_false, Bool.false_eq_true, Except.ok.injEq, Step.next.injEq] at h
              subst h
              exact .enter hread hk hs hbegin
          | oneLine =>
            simp only [hs, openBlock_eq] at h
            split at h
            · cases h
            · rename_i f p w hbegin
              simp only [if_true] at h
              obtain ⟨w', hw', hnone, rfl⟩ := closeInner_next h
              exact .single hread hk hs hbegin hw' hnone

/-- Closing a block ends the reading only with the world the close leaves. -/
theorem closeInner_stop {f : Frame} {rest : List Frame} {w : World}
    (h : m.closeInner f rest = .ok (.stop w)) : f.close m.world = .ok w := by
  unfold closeInner at h
  split at h
  · cases h
  · split at h
    · cases h
      assumption
    · cases h

/-- The ways a step ends the reading: a closing line outside all blocks leaves the world as it
is; otherwise the reading ends after a block closes, at its end line or, for a one-line block,
right after it begins. -/
theorem step_stop {w : World} (h : m.step layout line = .ok (.stop w)) :
    w = m.world ∨ (∃ f rest, m.frames = f :: rest ∧ f.close m.world = .ok w) ∨
      ∃ text f p w₁, beginBlock m.openingCalls text m.current m.world = .ok (f, p, w₁) ∧
        f.close w₁ = .ok w := by
  cases hread : layout.readAt m.frames.length line with
  | error e =>
    have hread' : layout.indentUnit.read (if layout.stripIndent then (m.frames.length : Int) else 0)
        (dropNewlines line) = .error e := hread
    simp [step, hread'] at h
  | ok info =>
    have hread' : layout.indentUnit.read (if layout.stripIndent then (m.frames.length : Int) else 0)
        (dropNewlines line) = .ok info := hread
    simp only [step, hread'] at h
    by_cases hskip : (info.empty && layout.skipEmpty) = true
    · simp [hskip] at h
    · simp only [hskip, Bool.false_eq_true, if_false] at h
      cases hk : info.kind with
      | comment => simp [hk] at h
      | plain =>
        simp only [hk] at h
        split at h
        · split at h <;> cases h
        · split at h <;> cases h
      | macroLine =>
        simp only [hk] at h
        cases hs : Shape.ofLine? info.text with
        | none => simp [hs] at h
        | some shape =>
          cases shape with
          | closing =>
            simp only [hs] at h
            cases hf : m.frames with
            | nil =>
              simp only [hf, Except.ok.injEq, Step.stop.injEq] at h
              exact .inl h.symm
            | cons f rest =>
              simp only [hf] at h
              have hclose := closeInner_stop h
              exact .inr (.inl ⟨f, rest, rfl, hclose⟩)
          | opening =>
            simp only [hs, openBlock_eq] at h
            split at h <;> simp at h
          | oneLine =>
            simp only [hs, openBlock_eq] at h
            split at h
            · cases h
            · rename_i f p w₁ hbegin
              simp only [if_true] at h
              have hclose := closeInner_stop h
              exact .inr (.inr ⟨info.text, f, p, w₁, hbegin, hclose⟩)

/-- Every step that goes on counts one line. -/
theorem Advance.lineNumber (h : Advance layout m line m') : m'.lineNumber = m.lineNumber + 1 := by
  cases h <;> rfl

/-- A reading goes from one machine to another over lines: it takes them one after the
other, and goes on after each. -/
inductive Reads (layout : Layout) : Machine → List String → Machine → Prop
  | nil (m : Machine) : Reads layout m [] m
  | cons {m m' m'' : Machine} {line : String} {rest : List String} :
      m.step layout line = .ok (.next m') → Reads layout m' rest m'' →
        Reads layout m (line :: rest) m''

namespace Reads

/-- Two readings, one after the other, are one reading. -/
theorem append {pre post : List String} {m₁ m₂ : Machine} (h₁ : Reads layout m pre m₁)
    (h₂ : Reads layout m₁ post m₂) : Reads layout m (pre ++ post) m₂ := by
  induction h₁ with
  | nil => exact h₂
  | cons hstep _ ih => exact .cons hstep (ih h₂)

/-- What every step that goes on keeps, a reading keeps, when each line it takes meets a
condition `Q` on the machine that reads it. -/
theorem invariant {P : Machine → Prop} {Q : Machine → String → Prop}
    (hstep : ∀ {m m' : Machine} {line : String}, P m → Q m line → Advance layout m line m' → P m')
    {lines : List String} (h : Reads layout m lines m')
    (hq : ∀ pre line post m₁, lines = pre ++ line :: post → Reads layout m pre m₁ → Q m₁ line)
    (hm : P m) : P m' := by
  induction h with
  | nil => exact hm
  | @cons m₀ m₁ _ line rest hs _ ih =>
    -- the first line is read by the machine the reading starts from
    have hfirst : Q m₀ line := hq [] line rest m₀ rfl (.nil m₀)
    refine ih (fun pre l post m₂ hl hr => hq (line :: pre) l post m₂ ?_ (.cons hs hr)) ?_
    · rw [hl, List.cons_append]
    · exact hstep hm hfirst (step_next hs)

/-- A preorder on machines that every step that goes on moves along relates the two ends of
every reading. -/
theorem rel {R : Machine → Machine → Prop} (hrefl : ∀ m, R m m)
    (htrans : ∀ {m₁ m₂ m₃ : Machine}, R m₁ m₂ → R m₂ m₃ → R m₁ m₃)
    (hstep : ∀ {m m' : Machine} {line : String}, Advance layout m line m' → R m m')
    {lines : List String} (h : Reads layout m lines m') : R m m' := by
  induction h with
  | nil m => exact hrefl m
  | cons hs _ ih => exact htrans (hstep (step_next hs)) ih

/-- A reading counts every line it takes. -/
theorem lineNumber {lines : List String} (h : Reads layout m lines m') :
    m'.lineNumber = m.lineNumber + lines.length := by
  induction h with
  | nil => rfl
  | cons hs _ ih =>
    rw [ih, (step_next hs).lineNumber, List.length_cons]
    omega

/-- A reading of the first lines leaves the rest to be read from where it ends. -/
theorem run_append {pre : List String} (h : Reads layout m pre m') (rest : List String) :
    m.run layout u (pre ++ rest) = m'.run layout u rest := by
  induction h with
  | nil => rfl
  | cons hs _ ih =>
    rw [List.cons_append, run, hs]
    exact ih

end Reads

/-- The machine a reading of lines leads to, when every line goes on; none when a line fails
or ends the reading. -/
def readLines (m : Machine) (layout : Layout) : List String → Option Machine
  | [] => some m
  | line :: rest =>
    match m.step layout line with
    | .ok (.next m') => m'.readLines layout rest
    | _ => none

/-- `readLines` computes readings: a reading leads exactly to the machine it gives. -/
theorem readLines_eq_some_iff {lines : List String} :
    m.readLines layout lines = some m' ↔ Reads layout m lines m' := by
  constructor
  · intro h
    induction lines generalizing m with
    | nil =>
      cases h
      exact .nil _
    | cons line rest ih =>
      unfold readLines at h
      split at h
      · rename_i m₁ hs
        exact .cons hs (ih h)
      · cases h
  · intro h
    induction h with
    | nil => rfl
    | cons hs _ ih => simp only [readLines, hs, ih]

theorem readLines_append (pre post : List String) :
    m.readLines layout (pre ++ post) = (m.readLines layout pre).bind (·.readLines layout post) := by
  induction pre generalizing m with
  | nil => rfl
  | cons line rest ih =>
    simp only [List.cons_append, readLines]
    split
    · exact ih
    · rfl

/-- A reading fails exactly where one of its steps fails, after reading the lines before it;
or, once every line is read, when the source cannot be read past them. -/
theorem run_eq_error_iff {lines : List String} {e : Failure} :
    m.run layout u lines = .error e ↔
      (∃ pre line post m₁, lines = pre ++ line :: post ∧ Reads layout m pre m₁ ∧
        m₁.step layout line = .error e) ∨
      (∃ m₁ f, Reads layout m lines m₁ ∧ u = some f ∧ e = .raised f m₁.world.output) := by
  constructor
  · intro h
    induction lines generalizing m with
    | nil =>
      cases u with
      | none => simp [run] at h
      | some f =>
        simp only [run, Except.error.injEq] at h
        exact .inr ⟨m, f, .nil m, rfl, h.symm⟩
    | cons line rest ih =>
      simp only [run] at h
      cases hs : m.step layout line with
      | error e' =>
        simp only [hs, Except.error.injEq] at h
        subst h
        exact .inl ⟨[], line, rest, m, rfl, .nil m, hs⟩
      | ok r =>
        cases r with
        | stop w => simp [hs] at h
        | next m₁ =>
          simp only [hs] at h
          rcases ih h with ⟨pre, l, post, m₂, rfl, hreads, hstep⟩ | ⟨m₂, f, hreads, hu, he⟩
          · exact .inl ⟨line :: pre, l, post, m₂, rfl, .cons hs hreads, hstep⟩
          · exact .inr ⟨m₂, f, .cons hs hreads, hu, he⟩
  · rintro (⟨pre, l, post, m₁, rfl, hreads, hstep⟩ | ⟨m₁, f, hreads, rfl, rfl⟩)
    · rw [hreads.run_append, run, hstep]
    · rw [← List.append_nil lines, hreads.run_append]
      rfl

/-- A reading that ends at once asks for a document to be appended only if it started out
asking for one. -/
theorem run_nil_appendTarget {w : World} (h : m.run layout u [] = .ok (w, [])) :
    w.appendTarget = m.world.appendTarget := by
  cases u with
  | none =>
    simp only [run, Except.ok.injEq, Prod.mk.injEq] at h
    rw [h.1]
  | some f => simp [run] at h

/-- A reading that ends leaves the lines after those it read. -/
theorem run_eq_ok {lines rest : List String} {w : World} (h : m.run layout u lines = .ok (w, rest)) :
    (∃ pre line m₁, lines = pre ++ line :: rest ∧ Reads layout m pre m₁ ∧
      m₁.step layout line = .ok (.stop w)) ∨
    (rest = [] ∧ ∃ m₁, Reads layout m lines m₁ ∧ m₁.run layout u [] = .ok (w, [])) := by
  induction lines generalizing m with
  | nil =>
    cases u with
    | none =>
      simp only [run, Except.ok.injEq, Prod.mk.injEq] at h
      obtain ⟨rfl, rfl⟩ := h
      exact .inr ⟨rfl, m, .nil m, rfl⟩
    | some f => simp [run] at h
  | cons line lines ih =>
    simp only [run] at h
    cases hs : m.step layout line with
    | error e => simp [hs] at h
    | ok r =>
      cases r with
      | stop w' =>
        simp only [hs, Except.ok.injEq, Prod.mk.injEq] at h
        obtain ⟨rfl, rfl⟩ := h
        exact .inl ⟨[], line, m, rfl, .nil m, hs⟩
      | next m₁ =>
        simp only [hs] at h
        rcases ih h with ⟨pre, l, m₂, rfl, hreads, hstop⟩ | ⟨rfl, m₂, hreads, hend⟩
        · exact .inl ⟨line :: pre, l, m₂, rfl, .cons hs hreads, hstop⟩
        · exact .inr ⟨rfl, m₂, .cons hs hreads, hend⟩

end Machine

end MacroDoc.Engine
