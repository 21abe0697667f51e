import MacroDoc.Proofs.Reading
import MacroDoc.Command.Run

/-!
# Which faults are reported with their line

A conversion fails in one of three ways. A fault met while a line is taken in is reported
with the number of that line, as `ERROR, line N: …`, and the program exits: a macro line that
is empty or names no macro, a block that refuses its arguments as it opens, or a block that
refuses a line of text given to it. A fault met making a paragraph of a line of text outside
all blocks is reported so too, and then raised again: the text is still waiting to become a
paragraph, and the reader meets the same fault once more as it shuts down. Every other fault
is raised as it is, with no line: one met classifying a line (an indent unit that cannot be
taken off a line), one met as a block closes (at its closing line, or at once for a one-line
macro), one met reading a document to be appended, or one met taking in the default styles.

Lines are numbered from one in each document: after a `doc` block has appended a document,
the next line read is the first line of the next document.

This module proves that law for every source: a conversion fails with a reported fault, or
with a fault reported and raised again, exactly when the reading of some document comes to a
line it cannot take in, or to a line of text outside all blocks it cannot make a paragraph
of; the number reported is the place of that line among the lines of its document. A block
whose fault is met as it closes is not reported (`convert_close_fault_unreported`). When the
run ends on a failure, the report is the last line printed, and the exit status is 1
(`Command.endFailure_prints`).

## Main definitions

* `Engine.Machine.TakesInWith`: the fault a line meets as it is taken in.
* `Engine.Machine.ParagraphFails`: the fault a line of text outside all blocks meets as it is
  made a paragraph.
* `Engine.Setup.Appends`: readings one after the other, each ending with a document to be
  appended.

## Main results

* `Engine.Machine.step_reported_iff`, `Engine.Machine.step_reportedAndRaised_iff`: a step
  reports a fault exactly when its line cannot be taken in, or cannot be made a paragraph,
  with the number of the line.
* `Engine.readDocuments_error_iff`: a conversion fails where the reading of one of its
  documents fails, or where a document to be appended cannot be read.
* `Engine.convert_reported_iff`: a conversion reports a fault exactly when a line of one of
  its documents cannot be taken in, or cannot be made a paragraph, with the place of the line
  in its document.
* `Command.endFailure_prints`: the report of a failure is printed last, and the run exits
  with status 1.
-/

namespace MacroDoc.Engine

open Markup

namespace Machine

variable {m m' : Machine} {layout : Layout} {line : String} {u : Option Fault}

/-- The fault `f` a line meets as it is taken in. Read at the depth of the open blocks, and
not skipped as empty, the line is a macro line opening a block, on one line or more, that
cannot be begun; or plain text inside a block that the innermost block refuses. -/
def TakesInWith (m : Machine) (layout : Layout) (line : String) (f : Fault) : Prop :=
  ∃ info, layout.readAt m.frames.length line = .ok info ∧
    (info.empty && layout.skipEmpty) = false ∧
    ((info.kind = .macroLine ∧
        (Shape.ofLine? info.text = some .opening ∨ Shape.ofLine? info.text = some .oneLine) ∧
        beginBlock m.openingCalls info.text m.current m.world = .error f) ∨
      (info.kind = .plain ∧ ∃ g rest, m.frames = g :: rest ∧ g.takeLine info.text m.world = .error f))

/-- The fault `f` a line of plain text outside all blocks meets as it is made a paragraph of
the style `paragraph`: no block is open, the line is read at depth zero, is not skipped as
empty, and its text cannot be made a paragraph of the document. -/
def ParagraphFails (m : Machine) (layout : Layout) (line : String) (f : Fault) : Prop :=
  m.frames = [] ∧ ∃ info, layout.readAt 0 line = .ok info ∧
    (info.empty && layout.skipEmpty) = false ∧ info.kind = .plain ∧
    m.world.doc.addParagraph (some info.text) (some "paragraph") = .error f

/-- Closing a block fails only by raising the fault met as it closes. -/
theorem closeInner_error {f : Frame} {rest : List Frame} {e : Failure}
    (h : m.closeInner f rest = .error e) : ∃ g, e = .raised g m.world.output := by
  unfold closeInner at h
  split at h
  · exact ⟨_, (Except.error.inj h).symm⟩
  · split at h <;> cases h

/-- Opening a block fails by reporting the fault met as it begins, or, for a one-line macro,
by raising the fault met as the block closes at once. -/
theorem openBlock_error {oneLine : Bool} {text : String} {e : Failure}
    (h : m.openBlock oneLine text = .error e) :
    (∃ g, beginBlock m.openingCalls text m.current m.world = .error g ∧ e = m.report g) ∨
      ∃ g out, e = .raised g out := by
  rw [openBlock_eq] at h
  split at h
  · rename_i g hg
    exact .inl ⟨g, hg, (Except.error.inj h).symm⟩
  · dsimp only at h
    split at h
    · obtain ⟨g, rfl⟩ := closeInner_error h
      exact .inr ⟨g, _, rfl⟩
    · cases h

/-- A step reads its line at the depth of the open blocks. -/
theorem step_read_eq (m : Machine) (layout : Layout) (line : String) :
    layout.indentUnit.read (if layout.stripIndent then (m.frames.length : Int) else 0)
      (dropNewlines line) = layout.readAt m.frames.length line := rfl

/-- A step that fails other than by raising a fault as it is has read its line at the depth
of the open blocks, and has not skipped it as empty. -/
theorem step_error_reads {e : Failure} (h : m.step layout line = .error e)
    (he : ∀ g out, e ≠ .raised g out) :
    ∃ info, layout.readAt m.frames.length line = .ok info ∧
      (info.empty && layout.skipEmpty) = false := by
  cases hread : layout.readAt m.frames.length line with
  | error g =>
    simp only [step, step_read_eq, hread, Except.error.injEq] at h
    exact absurd h.symm (he _ _)
  | ok info =>
    refine ⟨info, rfl, ?_⟩
    cases hs : (info.empty && layout.skipEmpty)
    · rfl
    · simp [step, step_read_eq, hread, hs] at h

/-- A step reports a fault exactly when its line cannot be taken in; the number reported is
that of the line, one past the lines counted before it, and the lines printed are those
printed before it. -/
theorem step_reported_iff {n : Nat} {f : Fault} {out : List String} :
    m.step layout line = .error (.reported n f out) ↔
      n = m.lineNumber + 1 ∧ out = m.world.output ∧ m.TakesInWith layout line f := by
  constructor
  · intro h
    obtain ⟨info, hread, hskip⟩ := step_error_reads h (by simp)
    simp only [step, step_read_eq, hread, hskip, Bool.false_eq_true, if_false] at h
    cases hk : info.kind with
    | comment => simp [hk] at h
    | plain =>
      simp only [hk] at h
      -- outside all blocks a paragraph's fault is raised again after its report; inside, the
      -- block's is only reported
      split at h
      · split at h <;> cases h
      · rename_i g rest hf
        split at h
        · cases h
        · rename_i e he
          simp only [report, Except.error.injEq, Failure.reported.injEq] at h
          obtain ⟨rfl, rfl, rfl⟩ := h
          exact ⟨rfl, rfl, info, hread, hskip, .inr ⟨hk, g, rest, hf, he⟩⟩
    | macroLine =>
      simp only [hk] at h
      cases hs : Shape.ofLine? info.text with
      | none => simp [hs] at h
      | some shape =>
        cases shape with
        | closing =>
          simp only [hs] at h
          split at h
          · cases h
          · obtain ⟨g, hg⟩ := closeInner_error h
            cases hg
        | opening =>
          simp only [hs] at h
          rcases openBlock_error h with ⟨g, hbegin, hg⟩ | ⟨g, o, hg⟩
          · simp only [report, Failure.reported.injEq] at hg
            obtain ⟨rfl, rfl, rfl⟩ := hg
            exact ⟨rfl, rfl, info, hread, hskip, .inl ⟨hk, .inl hs, hbegin⟩⟩
          · cases hg
        | oneLine =>
          simp only [hs] at h
          rcases openBlock_error h with ⟨g, hbegin, hg⟩ | ⟨g, o, hg⟩
          · simp only [report, Failure.reported.injEq] at hg
            obtain ⟨rfl, rfl, rfl⟩ := hg
            exact ⟨rfl, rfl, info, hread, hskip, .inl ⟨hk, .inr hs, hbegin⟩⟩
          · cases hg
  · rintro ⟨rfl, rfl, info, hread, hskip, hin⟩
    simp only [step, step_read_eq, hread, hskip, Bool.false_eq_true, if_false]
    rcases hin with ⟨hk, hs, hbegin⟩ | ⟨hk, g, rest, hf, hg⟩
    · -- the block cannot be begun, whether it is to close at once or not
      have hopen : ∀ oneLine : Bool, m.advanced.openBlock oneLine info.text =
          .error (.reported (m.lineNumber + 1) f m.world.output) := by
        intro oneLine
        rw [openBlock_eq]
        split
        · rename_i e he
          cases hbegin.symm.trans he
          rfl
        · rename_i g p w he
          cases hbegin.symm.trans he
      rcases hs with hs | hs
      · simp only [hk, hs]
        exact hopen false
      · simp only [hk, hs]
        exact hopen true
    · simp [hk, hf, hg, report]

/-- A step reports a fault and raises it again exactly when its line is plain text outside
all blocks that cannot be made a paragraph; the number reported is that of the line, one past
the lines counted before it, and the lines printed are those printed before it. -/
theorem step_reportedAndRaised_iff {n : Nat} {f : Fault} {out : List String} :
    m.step layout line = .error (.reportedAndRaised n f out) ↔
      n = m.lineNumber + 1 ∧ out = m.world.output ∧ m.ParagraphFails layout line f := by
  constructor
  · intro h
    obtain ⟨info, hread, hskip⟩ := step_error_reads h (by simp)
    simp only [step, step_read_eq, hread, hskip, Bool.false_eq_true, if_false] at h
    cases hk : info.kind with
    | comment => simp [hk] at h
    | macroLine =>
      -- a macro line's fault is reported as its block begins, or raised as a block closes
      simp only [hk] at h
      cases hs : Shape.ofLine? info.text with
      | none => simp [hs] at h
      | some shape =>
        cases shape with
        | closing =>
          simp only [hs] at h
          split at h
          · cases h
          · obtain ⟨g, hg⟩ := closeInner_error h
            cases hg
        | opening =>
          simp only [hs] at h
          rcases openBlock_error h with ⟨g, -, hg⟩ | ⟨g, o, hg⟩ <;> cases hg
        | oneLine =>
          simp only [hs] at h
          rcases openBlock_error h with ⟨g, -, hg⟩ | ⟨g, o, hg⟩ <;> cases hg
    | plain =>
      simp only [hk] at h
      split at h
      · rename_i hf
        split at h
        · cases h
        · rename_i e he
          simp only [Except.error.injEq, Failure.reportedAndRaised.injEq] at h
          obtain ⟨rfl, rfl, rfl⟩ := h
          exact ⟨rfl, rfl, hf, info, by simpa [hf] using hread, hskip, hk, he⟩
      · split at h <;> cases h
  · rintro ⟨rfl, rfl, hf, info, hread, hskip, hk, hpara⟩
    have hread₀ : layout.readAt m.frames.length line = .ok info := by
      rw [hf]
      exact hread
    simp only [step, step_read_eq, hread₀, hskip, Bool.false_eq_true, if_false]
    simp [hk, hf, hpara]

section Reports

variable {C : Nat → Fault → List String → Failure} {P : Machine → String → Fault → Prop}

/-- A reading fails with a fault reported in the form `C` exactly when one of its steps does,
after reading the lines before it, provided that a step fails so exactly when its line meets
`P`, with the number of the line and the lines printed before it. The number reported counts
the lines read before the line, and the line itself. -/
theorem run_reports_iff (hC : ∀ n f out g out', C n f out ≠ .raised g out')
    (hstep : ∀ {m : Machine} {line : String} {n : Nat} {f : Fault} {out : List String},
      m.step layout line = .error (C n f out) ↔
        n = m.lineNumber + 1 ∧ out = m.world.output ∧ P m line f)
    {lines : List String} {n : Nat} {f : Fault} {out : List String} :
    m.run layout u lines = .error (C n f out) ↔
      ∃ pre line post m₁, lines = pre ++ line :: post ∧ Reads layout m pre m₁ ∧
        n = m.lineNumber + pre.length + 1 ∧ out = m₁.world.output ∧ P m₁ line f := by
  rw [run_eq_error_iff]
  constructor
  · rintro (⟨pre, l, post, m₁, rfl, hreads, hs⟩ | ⟨m₁, e, -, -, he⟩)
    · obtain ⟨rfl, rfl, hp⟩ := hstep.mp hs
      exact ⟨pre, l, post, m₁, rfl, hreads, by rw [hreads.lineNumber], rfl, hp⟩
    · -- the end of the lines raises its fault as it is
      exact absurd he (hC _ _ _ _ _)
  · rintro ⟨pre, l, post, m₁, rfl, hreads, rfl, rfl, hp⟩
    refine .inl ⟨pre, l, post, m₁, rfl, hreads, hstep.mpr ⟨?_, rfl, hp⟩⟩
    rw [hreads.lineNumber]

end Reports

end Machine

/-- The world the next document is read in, once a document has been appended: a new
document with the styles `fresh`, no sink but the body, no macro seen and no document asked
for. Everything else carries on. -/
def World.restart (w : World) (fresh : Style.Sheet) : World :=
  { w with doc := { sheet := fresh }, sinks := [.body], sink := 0, macroName := none,
           appendTarget := none }

/-- The machine the reading of a document starts as, in a world. -/
def Setup.machine (s : Setup) (w : World) : Machine := { world := w, calls := s.calls + 1 }

/-- Readings of documents one after the other, each ending with a document to be appended
that can be read: from a world and lines they lead to the world the next document is read
in, and the lines left for it. -/
inductive Setup.Appends (s : Setup) (fresh : Style.Sheet) (u : Option Fault) :
    World → List String → World → List String → Prop
  | refl (w : World) (lines : List String) : Appends s fresh u w lines w lines
  | next {w w₁ w' : World} {lines rest lines' : List String} {shown : String}
      {comps : List String} {appended : Document.Doc} :
      (s.machine w).run s.layout u lines = .ok (w₁, rest) →
      w₁.appendTarget = some (shown, comps) → packageAt w₁.files shown comps = .ok appended →
      Appends s fresh u (w₁.restart fresh) rest w' lines' → Appends s fresh u w lines w' lines'

/-- A reading that starts asking for no document and ends asking for one has read a line. -/
theorem Machine.run_appends_shorter {m : Machine} {layout : Layout} {u : Option Fault}
    {lines rest : List String} {w : World} (h : m.run layout u lines = .ok (w, rest))
    (hnone : m.world.appendTarget = none) (hsome : w.appendTarget.isSome) :
    rest.length < lines.length := by
  rcases Machine.run_eq_ok h with ⟨pre, line, m₁, rfl, -, -⟩ | ⟨rfl, m₁, hreads, hend⟩
  · simp only [List.length_append, List.length_cons]
    omega
  · cases lines with
    | nil =>
      -- nothing read: the world is the one the reading started with
      cases hreads
      rw [Machine.run_nil_appendTarget hend, hnone] at hsome
      cases hsome
    | cons line lines => simp

/-- A conversion with fuel left reads a document from the world it is in, and goes on in a
new document if the reading ends with one to be appended. -/
theorem readDocuments_succ (s : Setup) (fresh : Style.Sheet) (u : Option Fault) (fuel : Nat)
    (w : World) (lines : List String) :
    readDocuments s fresh u (fuel + 1) w lines =
      match (s.machine w).run s.layout u lines with
      | .error e => .error e
      | .ok (w₁, rest) =>
        match w₁.appendTarget with
        | none => .ok ⟨[w₁.doc], w₁⟩
        | some (shown, comps) =>
          match packageAt w₁.files shown comps with
          | .error f => .error (.raised f w₁.output)
          | .ok appended =>
            match readDocuments s fresh u fuel (w₁.restart fresh) rest with
            | .error e => .error e
            | .ok r => .ok ⟨w₁.doc :: appended :: r.docs, r.world⟩ :=
  rfl

/-- How the reading of one document fails: the reading itself fails, or it ends with a
document to be appended that cannot be read. -/
def Setup.ReadingFails (s : Setup) (u : Option Fault) (w : World) (lines : List String)
    (e : Failure) : Prop :=
  (s.machine w).run s.layout u lines = .error e ∨
    ∃ w₁ rest shown comps f, (s.machine w).run s.layout u lines = .ok (w₁, rest) ∧
      w₁.appendTarget = some (shown, comps) ∧ packageAt w₁.files shown comps = .error f ∧
      e = .raised f w₁.output

/-- A conversion with fuel left fails when the reading of its first document fails, or when
that reading appends a document and the conversion of the rest, in a new document, fails. -/
theorem readDocuments_succ_error_iff {s : Setup} {fresh : Style.Sheet} {u : Option Fault}
    {fuel : Nat} {w : World} {lines : List String} {e : Failure} :
    readDocuments s fresh u (fuel + 1) w lines = .error e ↔
      s.ReadingFails u w lines e ∨
        ∃ w₁ rest shown comps appended, (s.machine w).run s.layout u lines = .ok (w₁, rest) ∧
          w₁.appendTarget = some (shown, comps) ∧ packageAt w₁.files shown comps = .ok appended ∧
          readDocuments s fresh u fuel (w₁.restart fresh) rest = .error e := by
  unfold Setup.ReadingFails
  constructor
  · intro h
    rw [readDocuments_succ] at h
    cases hr : (s.machine w).run s.layout u lines with
    | error e' =>
      rw [hr] at h
      dsimp only at h
      cases Except.error.inj h
      exact .inl (.inl rfl)
    | ok r =>
      obtain ⟨w₁, rest⟩ := r
      rw [hr] at h
      cases ht : w₁.appendTarget with
      | none => simp [ht] at h
      | some target =>
        obtain ⟨shown, comps⟩ := target
        cases hp : packageAt w₁.files shown comps with
        | error f =>
          simp only [ht, hp, Except.error.injEq] at h
          exact .inl (.inr ⟨w₁, rest, shown, comps, f, rfl, ht, hp, h.symm⟩)
        | ok appended =>
          simp only [ht, hp] at h
          refine .inr ⟨w₁, rest, shown, comps, appended, rfl, ht, hp, ?_⟩
          cases hrd : readDocuments s fresh u fuel (w₁.restart fresh) rest with
          | error e' =>
            rw [hrd] at h
            exact h
          | ok r =>
            rw [hrd] at h
            cases h
  · rintro ((hr | ⟨w₁, rest, shown, comps, f, hr, ht, hp, rfl⟩) |
      ⟨w₁, rest, shown, comps, appended, hr, ht, hp, hrd⟩)
    · rw [readDocuments_succ, hr]
    · rw [readDocuments_succ, hr]
      simp [ht, hp]
    · rw [readDocuments_succ, hr]
      simp [ht, hp, hrd]

/-- A chain of readings that ends in a failing one either is that one reading alone, or
starts with a reading that appends a document. -/
theorem Setup.appends_fails_iff {s : Setup} {fresh : Style.Sheet} {u : Option Fault}
    {w : World} {lines : List String} {e : Failure} :
    (∃ w' lines', s.Appends fresh u w lines w' lines' ∧ s.ReadingFails u w' lines' e) ↔
      s.ReadingFails u w lines e ∨
        ∃ w₁ rest shown comps appended, (s.machine w).run s.layout u lines = .ok (w₁, rest) ∧
          w₁.appendTarget = some (shown, comps) ∧ packageAt w₁.files shown comps = .ok appended ∧
          ∃ w' lines', s.Appends fresh u (w₁.restart fresh) rest w' lines' ∧
            s.ReadingFails u w' lines' e := by
  constructor
  · rintro ⟨w', lines', happ, hfails⟩
    cases happ with
    | refl => exact .inl hfails
    | next hr ht hp hnext => exact .inr ⟨_, _, _, _, _, hr, ht, hp, _, _, hnext, hfails⟩
  · rintro (hfails | ⟨w₁, rest, shown, comps, appended, hr, ht, hp, w', lines', hnext, hfails⟩)
    · exact ⟨w, lines, .refl w lines, hfails⟩
    · exact ⟨w', lines', .next hr ht hp hnext, hfails⟩

/-- A conversion from a world that asks for no document, with fuel for each line and one
more, fails exactly where the reading of one of its documents fails, after the readings
before it have each appended a document. -/
theorem readDocuments_error_iff {s : Setup} {fresh : Style.Sheet} {u : Option Fault}
    {e : Failure} (fuel : Nat) :
    ∀ (w : World) (lines : List String), w.appendTarget = none → lines.length < fuel →
      (readDocuments s fresh u fuel w lines = .error e ↔
        ∃ w' lines', s.Appends fresh u w lines w' lines' ∧ s.ReadingFails u w' lines' e) := by
  induction fuel with
  | zero => intro w lines _ hlen; omega
  | succ fuel ih =>
    intro w lines hnone hlen
    rw [readDocuments_succ_error_iff, Setup.appends_fails_iff]
    apply or_congr_right
    -- a reading that appends a document has read a line, so the fuel still covers the rest
    constructor
    · rintro ⟨w₁, rest, shown, comps, appended, hr, ht, hp, hrest⟩
      have hshort := Machine.run_appends_shorter hr hnone (by simp [ht])
      exact ⟨w₁, rest, shown, comps, appended, hr, ht, hp,
        (ih (w₁.restart fresh) rest rfl (by omega)).mp hrest⟩
    · rintro ⟨w₁, rest, shown, comps, appended, hr, ht, hp, hrest⟩
      have hshort := Machine.run_appends_shorter hr hnone (by simp [ht])
      exact ⟨w₁, rest, shown, comps, appended, hr, ht, hp,
        (ih (w₁.restart fresh) rest rfl (by omega)).mpr hrest⟩

section Reports

variable {C : Nat → Fault → List String → Failure} {P : Machine → String → Fault → Prop}

/-- Taking in the default styles fails only by raising the fault as it is, before any line is
read. -/
theorem Setup.freshOrFail_error {s : Setup} {e : Failure} (h : s.freshOrFail = .error e) :
    ∃ g, e = .raised g [] := by
  unfold Setup.freshOrFail at h
  cases hs : s.freshSheet with
  | error g =>
    rw [hs] at h
    exact ⟨g, (Except.error.inj h).symm⟩
  | ok sheet =>
    rw [hs] at h
    cases h

/-- A conversion fails with a fault reported in the form `C` exactly when a step of the
reading of one of its documents does, provided that a step fails so exactly when its line
meets `P`. Then the default styles were taken in; the readings of the documents before the
current one each ended with a document to be appended; and the reading of the current document
went on over the lines before the line. The number reported is the place of the line among the
lines of its document, counted from one. -/
theorem convert_reports_iff {s : Setup} (hC : ∀ n f out g out', C n f out ≠ .raised g out')
    (hstep : ∀ {m : Machine} {line : String} {n : Nat} {f : Fault} {out : List String},
      m.step s.layout line = .error (C n f out) ↔
        n = m.lineNumber + 1 ∧ out = m.world.output ∧ P m line f)
    {text : String} {n : Nat} {f : Fault} {out : List String} :
    convert s text = .error (C n f out) ↔
      ∃ fresh w pre line post m, s.freshOrFail = .ok fresh ∧
        s.Appends fresh none (s.startWorld fresh) (Text.fileLines (Text.unifyNewlines text.toList))
          w (pre ++ line :: post) ∧
        Machine.Reads s.layout (s.machine w) pre m ∧ n = pre.length + 1 ∧
        out = m.world.output ∧ P m line f := by
  unfold convert
  cases hfresh : s.freshOrFail with
  | error e =>
    obtain ⟨g, rfl⟩ := Setup.freshOrFail_error hfresh
    constructor
    · intro h
      simp only [bind, Except.bind, Except.error.injEq] at h
      exact absurd h.symm (hC _ _ _ _ _)
    · rintro ⟨_, _, _, _, _, _, h, -⟩
      cases h
  | ok fresh =>
    simp only [bind, Except.bind]
    rw [readDocuments_error_iff _ _ _ rfl (Nat.lt_succ_self _)]
    constructor
    · rintro ⟨w, lines', happ, hfail | ⟨_, _, _, _, g, -, -, -, hraised⟩⟩
      · obtain ⟨pre, line, post, m, rfl, hreads, hn, rfl, hp⟩ :=
          (Machine.run_reports_iff hC hstep).mp hfail
        -- each document's reading starts with no line counted
        refine ⟨fresh, w, pre, line, post, m, rfl, happ, hreads, ?_, rfl, hp⟩
        simpa [Setup.machine] using hn
      · -- a document to be appended that cannot be read raises its fault as it is
        exact absurd hraised (hC _ _ _ _ _)
    · rintro ⟨fresh', w, pre, line, post, m, hfresh', happ, hreads, rfl, rfl, hp⟩
      cases hfresh'
      exact ⟨w, pre ++ line :: post, happ,
        .inl ((Machine.run_reports_iff hC hstep).mpr
          ⟨pre, line, post, m, rfl, hreads, by simp [Setup.machine], rfl, hp⟩)⟩

end Reports

/-- A conversion prints a report `ERROR, line N: …` exactly when a line cannot be taken in,
or is text outside all blocks that cannot be made a paragraph. Then the default styles were
taken in; the readings of the documents before the current one each ended with a document to
be appended; the reading of the current document went on over the lines before the line, and
the line met the fault. A line taken in with a fault is only reported; a paragraph that cannot
be made is reported, and its fault then raised again. The number reported is the place of the
line among the lines of its document, counted from one, and the lines printed are those
printed before it. -/
theorem convert_reported_iff {s : Setup} {text : String} {n : Nat} {f : Fault}
    {out : List String} :
    (convert s text = .error (.reported n f out) ↔
      ∃ fresh w pre line post m, s.freshOrFail = .ok fresh ∧
        s.Appends fresh none (s.startWorld fresh) (Text.fileLines (Text.unifyNewlines text.toList))
          w (pre ++ line :: post) ∧
        Machine.Reads s.layout (s.machine w) pre m ∧ n = pre.length + 1 ∧
        out = m.world.output ∧ m.TakesInWith s.layout line f) ∧
    (convert s text = .error (.reportedAndRaised n f out) ↔
      ∃ fresh w pre line post m, s.freshOrFail = .ok fresh ∧
        s.Appends fresh none (s.startWorld fresh) (Text.fileLines (Text.unifyNewlines text.toList))
          w (pre ++ line :: post) ∧
        Machine.Reads s.layout (s.machine w) pre m ∧ n = pre.length + 1 ∧
        out = m.world.output ∧ m.ParagraphFails s.layout line f) :=
  ⟨convert_reports_iff (C := .reported) (P := fun m line f => m.TakesInWith s.layout line f)
      (by simp) Machine.step_reported_iff,
    convert_reports_iff (C := .reportedAndRaised)
      (P := fun m line f => m.ParagraphFails s.layout line f) (by simp)
      Machine.step_reportedAndRaised_iff⟩

/-- A block whose fault is met as it closes is not reported with its line: a paragraph block
of a style the document lacks fails at its closing line, and the fault is raised as it
is. -/
theorem convert_close_fault_unreported :
    ∃ f out, convert ⟨{}, default, {}, 0⟩ "(paragraph-styled nosuch\nabc\n)\n" =
      .error (.raised f out) := by
  have hraised : (match convert ⟨{}, default, {}, 0⟩ "(paragraph-styled nosuch\nabc\n)\n" with
      | .error (.raised _ _) => true
      | _ => false) = true := by
    decide +kernel
  revert hraised
  generalize convert ⟨{}, default, {}, 0⟩ "(paragraph-styled nosuch\nabc\n)\n" = r
  rcases r with (⟨n, f, out⟩ | ⟨n, f, out⟩ | ⟨f, out⟩) | r
  · simp
  · simp
  · exact fun _ => ⟨f, out, rfl⟩
  · simp

end MacroDoc.Engine

namespace MacroDoc.Command

/-- A conversion's failure ends the run with status 1, whether it ends there or its fault
escapes; the lines printed are those printed before the failure, followed by the failure's
report when it has one. So `ERROR, line N: …` is the last line printed exactly when the
fault was reported, and it is printed before a fault raised again escapes. -/
theorem endFailure_prints (files : Files.Tree) (e : Engine.Failure) :
    exitStatus (endFailure files e) = 1 ∧
      printedBy (endFailure files e) = e.output ++ e.report := by
  cases e with
  | reported => exact ⟨rfl, rfl⟩
  | reportedAndRaised => exact ⟨rfl, rfl⟩
  | raised f out => exact ⟨rfl, (List.append_nil out).symm⟩

end MacroDoc.Command
