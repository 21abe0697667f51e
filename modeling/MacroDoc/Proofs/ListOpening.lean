import MacroDoc.Proofs.Nesting

/-!
# Opening an ordered list closes the block around it

An ordered list opens by closing the block it is opened in: that block writes what it has
collected, as it does at its end line, and puts back any sink it saved. The block stays open
all the same. It holds the list, and at its own end line it closes a second time and writes
what it has collected once more. The list itself does nothing when it closes.

## Main results

* `Engine.beginBlock_orderedList`: beginning an ordered list closes the block around it and
  leaves that block open.
* `Engine.Machine.run_orderedList_recloses_parent`: an ordered list opened and closed inside a
  block closes that block twice.
-/

namespace MacroDoc.Engine

open Markup

/-- Beginning an ordered list closes the block around it, on the world with the list's name
remembered, and leaves that block in place. -/
theorem beginBlock_orderedList {calls : Nat} {text : String} {p : Frame} {w : World}
    (hword : macroWord text = some BlockKind.orderedList.name) :
    beginBlock calls text p w =
      (p.close { w with macroName := some BlockKind.orderedList.name }).map
        fun w₁ => (.orderedList 1, p, w₁) := by
  unfold macroWord at hword
  cases hs : splitArgs text with
  | nil => simp [hs] at hword
  | cons name args =>
    simp only [hs, List.head?_cons, Option.some.injEq] at hword
    subst hword
    have hkind : BlockKind.ofName? BlockKind.orderedList.name = some .orderedList := by decide
    simp only [beginBlock, hs, hkind, Frame.start]
    cases p.close _ <;> rfl

namespace Machine

variable {m : Machine} {layout : Layout} {line : String} {info : LineInfo}

/-- A line that opens an ordered list inside the block `f` closes `f` where it stands; a fault
of that close is reported with the line. The list opens inside `f`, which stays open. -/
theorem step_orderedList {f : Frame} {fs : List Frame}
    (hread : layout.readAt m.frames.length line = .ok info) (hkind : info.kind = .macroLine)
    (hshape : Shape.ofLine? info.text = some .opening)
    (hword : macroWord info.text = some BlockKind.orderedList.name) (hf : m.frames = f :: fs) :
    m.step layout line =
      match f.close { m.world with macroName := some BlockKind.orderedList.name } with
      | .error e => .error (.reported (m.lineNumber + 1) e m.world.output)
      | .ok w =>
        .ok (.next { m with
          lineNumber := m.lineNumber + 1, world := w, frames := .orderedList 1 :: f :: fs }) := by
  have hread' : layout.indentUnit.read (if layout.stripIndent then (m.frames.length : Int) else 0)
      (dropNewlines line) = .ok info := hread
  simp only [step, hread', hkind, hshape, Layout.readAt_macro_nonempty hread hkind,
    Bool.false_and, Bool.false_eq_true, if_false, openBlock_eq]
  simp only [current, hf, List.headD_cons, beginBlock_orderedList hword]
  cases f.close _ <;> rfl

/-- An ordered list opened and closed at once inside the block `f`, which then ends: `f` is
closed when the list opens, with a fault reported at the opening line, and closed again at its
own end line, with a fault raised as it is; the list's own end line closes nothing. Reading
then goes on around `f`. -/
theorem run_orderedList_recloses_parent {u : Option Fault} {f : Frame} {fs : List Frame}
    {opening close₁ close₂ : String} {rest : List String}
    (hframes : m.frames = f :: fs) (happend : m.world.appendTarget = none)
    (hopen : ∃ info, layout.readAt (fs.length + 1) opening = .ok info ∧
      info.kind = .macroLine ∧ Shape.ofLine? info.text = some .opening ∧
      macroWord info.text = some BlockKind.orderedList.name)
    (hclose₁ : layout.ReadsAs (fs.length + 2) .closing close₁)
    (hclose₂ : layout.ReadsAs (fs.length + 1) .closing close₂) :
    m.run layout u (opening :: close₁ :: close₂ :: rest) =
      match f.close { m.world with macroName := some BlockKind.orderedList.name } with
      | .error e => .error (.reported (m.lineNumber + 1) e m.world.output)
      | .ok w₁ =>
        match f.close w₁ with
        | .error e => .error (.raised e w₁.output)
        | .ok w₂ =>
          { m with world := w₂, frames := fs, lineNumber := m.lineNumber + 3 }.run layout u rest := by
  obtain ⟨info, hread, hkind, hshape, hword⟩ := hopen
  obtain ⟨info₁, hread₁, hkind₁, hshape₁⟩ := hclose₁
  obtain ⟨info₂, hread₂, hkind₂, hshape₂⟩ := hclose₂
  rw [run, step_orderedList (by rw [hframes]; exact hread) hkind hshape hword hframes]
  cases hc₁ : f.close { m.world with macroName := some BlockKind.orderedList.name } with
  | error e => rfl
  | ok w₁ =>
    -- neither close asks for a document to be appended, so reading goes on after each
    have happend₁ : w₁.appendTarget = none := (Frame.close_appendTarget hc₁).trans happend
    have hlistClose : (Frame.orderedList 1).close w₁ = .ok w₁ := rfl
    have hlist : ∀ w, (Frame.orderedList 1).close w₁ = .ok w → w.appendTarget = none := by
      rintro w ⟨⟩
      exact happend₁
    have hblock : ∀ w, f.close w₁ = .ok w → w.appendTarget = none :=
      fun w hc => (Frame.close_appendTarget hc).trans happend₁
    simp only
    rw [run, step_closing (by simpa using hread₁) hkind₁ hshape₁ rfl, closeInner_eq hlist,
      hlistClose]
    simp only
    rw [run, step_closing (by simpa using hread₂) hkind₂ hshape₂ rfl, closeInner_eq hblock]
    cases f.close w₁ with
    | error e => rfl
    | ok w₂ => rfl

/-- A paragraph block holding an ordered list writes its paragraph twice. -/
theorem orderedList_in_styled_paragraph_writes_twice :
    (match ({ world := { doc := { sheet := [{ kind := .paragraph, styleId := "Normal", name := "Normal" }] },
                         prefixes := default, files := {} },
              frames := [.styledParagraph "Normal" ["abc"]] } : Machine).run {} none
          ["(ordered-list", ")", ")"] with
      | .ok (w, _) => w.doc.paragraphs.map fun p => p.runs.flatMap (·.items)
      | .error _ => []) = [[.text "abc"], [.text "abc"]] := by
  rw [run_orderedList_recloses_parent rfl rfl
    ⟨⟨"(ordered-list", .macroLine, false, false⟩, rfl, rfl, rfl, by decide +kernel⟩
    ⟨⟨")", .macroLine, false, false⟩, rfl, rfl, rfl⟩ ⟨⟨")", .macroLine, false, false⟩, rfl, rfl, rfl⟩]
  decide +kernel

end Machine

end MacroDoc.Engine
