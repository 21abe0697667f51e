import MacroDoc.Proofs.Nesting

/-!
# An unlabelled number is keyed by the last macro read

A `numbered` block without labels numbers the paragraph put through it at the first level,
under a key: the name of the last macro the reader has met. The world keeps that name, and
only a macro line that opens a block (or a one-line macro) sets it; writing through the sinks,
opening and closing blocks never change it. So when a block `M` inside such a numbered block
closes and puts its paragraph through the numbering sink, the key is the name of the last
macro line read inside `M`, and `M`'s own name only when no macro line is read inside it.

## Main definitions

* `Engine.Layout.wordAt`: the name a macro line gives, read at a depth.
* `Engine.Node.lastWord`: the name of the last macro line of a tree.

## Main results

* `Engine.Frame.close_macroName`, `Engine.Frame.start_keeps`: blocks keep the name of the
  last macro.
* `Engine.Node.Nested.eval_macroName`: after a tree, the last macro's name is the tree's last
  macro word.
* `Engine.World.addParagraphHere_unlabelled`: an unlabelled numbering sink numbers by that name.
* `Engine.unlabelled_number_keyed_by_last_macro`: a block closes with the last macro word of its
  own tree as the key of an unlabelled number.
-/

namespace MacroDoc.Engine

open Markup

namespace Frame

variable {w w' : World}

/-- Closing a block keeps the name of the last macro. -/
theorem close_macroName {f : Frame} (h : f.close w = .ok w') : w'.macroName = w.macroName :=
  congrArg Prod.fst (close_marks h)

/-- What opening a block can do to the name of the last macro and to the block around it. The
name is kept: the reader sets it before the block is made. The block around is kept too, except
that an item of an ordered list is numbered by the list around it, which moves on by one. -/
theorem start_keeps {kind : BlockKind} {args : List String} {calls : Nat} {p f p' : Frame}
    (h : start kind args calls p w = .ok (f, p', w')) :
    w'.macroName = w.macroName ∧
      (kind ≠ .orderedItem ∧ p' = p ∨ kind = .orderedItem ∧
        ∃ n, p = .orderedList n ∧ f = .orderedItem n [] false ∧
          p' = .orderedList (n + 1)) := by
  cases kind with
  | echo | pageBreak | unorderedList | caption | pictureNumber | nextPictureNumber =>
    simp only [start, Except.ok.injEq, Prod.mk.injEq] at h
    obtain ⟨rfl, rfl, rfl⟩ := h
    exact ⟨rfl, .inl ⟨by decide, rfl⟩⟩
  | changeDirectory | styledParagraph =>
    simp only [start] at h
    split at h
    · simp only [Except.ok.injEq, Prod.mk.injEq] at h
      obtain ⟨rfl, rfl, rfl⟩ := h
      exact ⟨rfl, .inl ⟨by decide, rfl⟩⟩
    · simp at h
  | orderedItem =>
    simp only [start] at h
    split at h
    · simp only [Except.ok.injEq, Prod.mk.injEq] at h
      obtain ⟨rfl, rfl, rfl⟩ := h
      exact ⟨rfl, .inr ⟨rfl, _, rfl, rfl, rfl⟩⟩
    · simp at h
  | unorderedItem =>
    simp only [start] at h
    split at h
    · simp at h
    · simp only [Except.bind_eq_ok, Except.pure_eq_ok, Prod.mk.injEq] at h
      obtain ⟨w₁, h₁, rfl, rfl, rfl⟩ := h
      exact ⟨close_macroName h₁, .inl ⟨by decide, rfl⟩⟩
  | orderedList =>
    simp only [start, Except.bind_eq_ok, Except.pure_eq_ok, Prod.mk.injEq] at h
    obtain ⟨w₁, h₁, rfl, rfl, rfl⟩ := h
    exact ⟨close_macroName h₁, .inl ⟨by decide, rfl⟩⟩
  | loadStyle | picture | table =>
    simp only [start] at h
    split at h
    · simp at h
    · simp only [Except.bind_eq_ok, Except.pure_eq_ok, Prod.mk.injEq] at h
      obtain ⟨_, _, _, _, rfl, rfl, rfl⟩ := h
      exact ⟨rfl, .inl ⟨by decide, rfl⟩⟩
  | tableCell =>
    simp only [start] at h
    split at h
    · simp at h
    · split at h
      · simp only [Except.bind_eq_ok] at h
        obtain ⟨_, _, _, _, h⟩ := h
        split at h
        · simp [Except.bind_eq_ok] at h
        · split at h
          · simp [Except.bind_eq_ok] at h
          · simp only [Except.pure_eq_ok, Prod.mk.injEq] at h
            obtain ⟨rfl, rfl, rfl⟩ := h
            exact ⟨rfl, .inl ⟨by decide, rfl⟩⟩
      · simp at h
  | appendDocument =>
    simp only [start] at h
    split at h
    · simp at h
    · simp only [Except.bind_eq_ok] at h
      obtain ⟨_, _, h⟩ := h
      split at h
      · simp only [Except.ok.injEq, Prod.mk.injEq] at h
        obtain ⟨rfl, rfl, rfl⟩ := h
        exact ⟨rfl, .inl ⟨by decide, rfl⟩⟩
      · simp at h
  | styledRun | space =>
    simp only [start] at h
    split at h
    · simp only [Except.bind_eq_ok, Except.pure_eq_ok, Prod.mk.injEq] at h
      obtain ⟨_, _, rfl, rfl, rfl⟩ := h
      exact ⟨rfl, .inl ⟨by decide, rfl⟩⟩
    · simp only [Except.ok.injEq, Prod.mk.injEq] at h
      obtain ⟨rfl, rfl, rfl⟩ := h
      exact ⟨rfl, .inl ⟨by decide, rfl⟩⟩
  | dataReader =>
    simp only [start] at h
    split at h
    · simp at h
    · simp only [Except.bind_eq_ok] at h
      obtain ⟨_, _, h⟩ := h
      split at h
      · simp at h
      · simp only [Except.pure_eq_ok, Prod.mk.injEq] at h
        obtain ⟨rfl, rfl, rfl⟩ := h
        exact ⟨rfl, .inl ⟨by decide, rfl⟩⟩
  | dataField =>
    simp only [start] at h
    split at h
    · simp at h
    · split at h
      · simp only [Except.ok.injEq, Prod.mk.injEq] at h
        obtain ⟨rfl, rfl, rfl⟩ := h
        exact ⟨rfl, .inl ⟨by decide, rfl⟩⟩
      · simp at h
  | numbered =>
    -- every way of reading the arguments enters the counters and opens a numbering sink
    have hleaf : ∀ {e : Bool} {l : List String},
        (do let x ← (pure (e, l) : Except Fault (Bool × List String))
            let counters ← w.counters.enter x.2
            pure (Frame.numbered x.1 x.2 w.sink, p,
              ({ w with counters } : World).openSink (.numbered x.1 x.2 w.sink false))) =
          Except.ok (f, p', w') → w'.macroName = w.macroName ∧ p' = p := by
      intro e l h
      simp only [Except.bind_eq_ok, Except.pure_eq_ok, Prod.mk.injEq] at h
      obtain ⟨_, rfl, _, _, rfl, rfl, rfl⟩ := h
      exact ⟨rfl, rfl⟩
    simp only [start] at h
    split at h
    · split at h
      · split at h
        · simp [Except.bind_eq_ok] at h
        · exact ⟨(hleaf h).1, .inl ⟨by decide, (hleaf h).2⟩⟩
      · split at h
        · exact ⟨(hleaf h).1, .inl ⟨by decide, (hleaf h).2⟩⟩
        · exact ⟨(hleaf h).1, .inl ⟨by decide, (hleaf h).2⟩⟩
    · exact ⟨(hleaf h).1, .inl ⟨by decide, (hleaf h).2⟩⟩

/-- Opening a block keeps the name of the last macro. -/
theorem start_macroName {kind : BlockKind} {args : List String} {calls : Nat} {p f p' : Frame}
    (h : start kind args calls p w = .ok (f, p', w')) : w'.macroName = w.macroName :=
  (start_keeps h).1

end Frame

/-- Beginning a block leaves as the last macro's name the first word of its macro line. -/
theorem beginBlock_macroName {calls : Nat} {text : String} {p f p' : Frame} {w w' : World}
    (h : beginBlock calls text p w = .ok (f, p', w')) :
    ∃ name, macroWord text = some name ∧ w'.macroName = some name := by
  unfold macroWord
  cases hs : splitArgs text with
  | nil => simp [beginBlock, hs] at h
  | cons name args =>
    cases hk : BlockKind.ofName? name with
    | none => simp [beginBlock, hs, hk] at h
    | some kind =>
      simp only [beginBlock, hs, hk] at h
      exact ⟨name, rfl, Frame.start_macroName h⟩

/-- The name a macro line gives when it is read with `depth` blocks open: the first word of
what is left once the indent is stripped. -/
def Layout.wordAt (layout : Layout) (depth : Nat) (line : String) : Option String :=
  (layout.readAt depth line).toOption.bind fun info => macroWord info.text

/-- A line that reads gives the first word of its text. -/
theorem Layout.wordAt_of_readAt {layout : Layout} {depth : Nat} {line : String} {info : LineInfo}
    (h : layout.readAt depth line = .ok info) : layout.wordAt depth line = macroWord info.text := by
  simp [Layout.wordAt, h, Except.toOption]

namespace Cursor

variable {layout : Layout} {depth : Nat} {line : String} {c c' : Cursor}

/-- Taking a line that is no macro line keeps the name of the last macro. -/
theorem takeText_macroName (h : c.takeText layout depth line = .ok c') :
    c'.world.macroName = c.world.macroName := by
  unfold takeText at h
  split at h
  · cases h
  · split at h
    · cases h
      rfl
    · split at h
      · split at h
        · split at h
          · cases h
            rfl
          · cases h
        · split at h
          · cases h
            rfl
          · cases h
      · cases h
        rfl

/-- Opening a block leaves as the last macro's name the one its line gives. -/
theorem openBlock_macroName {calls : Nat} {f : Frame}
    (h : c.openBlock layout calls depth line = .ok (f, c')) :
    ∃ name, layout.wordAt depth line = some name ∧ c'.world.macroName = some name := by
  unfold openBlock at h
  split at h
  · cases h
  · rename_i info hread
    split at h
    · cases h
    · rename_i heq
      cases h
      simpa only [Layout.wordAt_of_readAt hread] using beginBlock_macroName heq

/-- Closing a block keeps the name of the last macro. -/
theorem closeBlock_macroName {f : Frame} (h : closeBlock f c = .ok c') :
    c'.world.macroName = c.world.macroName := by
  unfold closeBlock at h
  split at h
  · cases h
  · rename_i w hw
    cases h
    exact Frame.close_macroName hw

end Cursor

mutual

/-- The name given by the last macro line of a tree, in the order the lines are read, with
`depth` blocks open around the tree: none for a line that is no macro line. -/
def Node.lastWord (layout : Layout) : Nat → Node → Option String
  | _, .text _ => none
  | depth, .leaf line => layout.wordAt depth line
  | depth, .block opening body _ =>
    (Node.lastWordOf layout (depth + 1) body).or (layout.wordAt depth opening)

/-- The name given by the last macro line of a sequence of trees. -/
def Node.lastWordOf (layout : Layout) : Nat → List Node → Option String
  | _, [] => none
  | depth, t :: ts => (Node.lastWordOf layout depth ts).or (t.lastWord layout depth)

end

section Evaluation

variable {layout : Layout} {calls : Nat}

/-- Trees that each leave their last macro word as the last macro's name do so one after the
other. -/
theorem Node.evalOf_macroName {depth : Nat} {ts : List Node}
    (hts : ∀ t ∈ ts, ∀ c c', t.eval layout calls depth c = .ok c' →
      c'.world.macroName = (t.lastWord layout depth).or c.world.macroName) :
    ∀ c c', Node.evalOf layout calls depth ts c = .ok c' →
      c'.world.macroName = (Node.lastWordOf layout depth ts).or c.world.macroName := by
  induction ts with
  | nil =>
    intro c c' h
    cases h
    simp [Node.lastWordOf]
  | cons t ts ih =>
    intro c c' h
    simp only [Node.evalOf, Except.bind_eq_ok] at h
    obtain ⟨c₁, h₁, h₂⟩ := h
    rw [ih (fun t ht => hts t (List.mem_cons_of_mem _ ht)) c₁ c' h₂,
      hts t List.mem_cons_self c c₁ h₁, Node.lastWordOf, Option.or_assoc]

/-- After a tree is evaluated, the last macro's name is the one the tree's last macro line
gives, or, for a tree with no macro line, what it was before. -/
theorem Node.Nested.eval_macroName {depth : Nat} {t : Node} (h : t.Nested layout depth) :
    ∀ c c', t.eval layout calls depth c = .ok c' →
      c'.world.macroName = (t.lastWord layout depth).or c.world.macroName := by
  induction h with
  | text hread hkind =>
    intro c c' h
    simp [Node.lastWord, Cursor.takeText_macroName h]
  | leaf hopen =>
    intro c c' h
    simp only [Node.eval, Except.bind_eq_ok] at h
    obtain ⟨⟨f, c₁⟩, h₁, h₂⟩ := h
    obtain ⟨name, hword, hname⟩ := Cursor.openBlock_macroName h₁
    rw [Cursor.closeBlock_macroName h₂, hname, Node.lastWord, hword, Option.some_or]
  | block hopen _ _ ih =>
    intro c c' h
    simp only [Node.eval, Except.bind_eq_ok] at h
    obtain ⟨⟨f, c₁⟩, h₁, inner, hbody, h₂⟩ := h
    obtain ⟨name, hword, hname⟩ := Cursor.openBlock_macroName h₁
    -- the body starts from the name the opening line gives, which is never lost after it
    have hinner := Node.evalOf_macroName ih { c₁ with around := f } inner hbody
    rw [Cursor.closeBlock_macroName h₂, hinner, hname, Node.lastWord, hword]
    cases Node.lastWordOf _ _ _ <;> rfl

end Evaluation

namespace World

/-- A numbering sink without labels that has taken no paragraph yet numbers the paragraph put
through it at the first level, keyed by the name of the last macro, and passes it on, behind
its number and a blank, to the sink it was opened in. -/
theorem addParagraphHere_unlabelled {w : World} {prev : Nat}
    (hsink : w.sinkAt w.sink = .numbered false [] prev false) (text : String)
    (style : Option String) :
    w.addParagraphHere (some text) style =
      (do
        let (pre, c') ← w.counters.prefixFor [w.macroName.getD ""]
        ({ w.setSink w.sink (.numbered false [] prev true) with counters := c' } :
          World).addParagraph w.sinks.length prev (some (pre ++ " " ++ text)) style) := by
  unfold World.addParagraphHere World.fuel
  simp only [World.addParagraph, hsink, Bool.false_eq_true, if_false, World.numberPrefix,
    List.isEmpty_nil, if_true, World.setSink]
  rcases w.counters.prefixFor [w.macroName.getD ""] with e | ⟨pre, c'⟩ <;> rfl

end World

/-- A block numbered without labels is numbered by the last macro read. Whatever a block `M`
holds, it closes on the world its body leaves, in which the last macro's name is the name
given by the last macro line of `M`'s tree: the last one read inside `M`, and `M`'s own only
when no macro line is read inside it. A paragraph that `M` then puts through a numbering sink
without labels is numbered at the first level under that name. -/
theorem unlabelled_number_keyed_by_last_macro {layout : Layout} {calls depth : Nat}
    {opening closing : String} {body : List Node}
    (hM : (Node.block opening body closing).Nested layout depth) {c c' : Cursor}
    (heval : (Node.block opening body closing).eval layout calls depth c = .ok c') :
    ∃ (name : String) (inner : Cursor),
      (Node.block opening body closing).lastWord layout depth = some name ∧
      inner.around.close inner.world = .ok c'.world ∧ inner.world.macroName = some name ∧
      ∀ prev text style, inner.world.sinkAt inner.world.sink = .numbered false [] prev false →
        inner.world.addParagraphHere (some text) style =
          (do
            let (pre, counters) ← inner.world.counters.prefixFor [name]
            ({ inner.world.setSink inner.world.sink (.numbered false [] prev true) with
                counters } : World).addParagraph
              inner.world.sinks.length prev (some (pre ++ " " ++ text)) style) := by
  have hafter := hM.eval_macroName c c' heval
  simp only [Node.eval, Except.bind_eq_ok] at heval
  obtain ⟨⟨f, c₁⟩, h₁, inner, hbody, h₂⟩ := heval
  obtain ⟨name, hword, -⟩ := Cursor.openBlock_macroName h₁
  -- the block's tree has a last macro word: its own, if nothing later
  have hlast : (Node.block opening body closing).lastWord layout depth =
      some ((Node.lastWordOf layout (depth + 1) body).getD name) := by
    rw [Node.lastWord, hword]
    cases Node.lastWordOf _ _ _ <;> rfl
  unfold Cursor.closeBlock at h₂
  split at h₂
  · cases h₂
  · rename_i w hclose
    cases h₂
    -- closing keeps the name, so the body left the block's last macro word as the name
    have hname : inner.world.macroName =
        some ((Node.lastWordOf layout (depth + 1) body).getD name) := by
      rw [← Frame.close_macroName hclose, hafter, hlast, Option.some_or]
    refine ⟨_, inner, hlast, hclose, hname, fun prev text style hsink => ?_⟩
    rw [World.addParagraphHere_unlabelled hsink, hname]
    rfl

/-- A paragraph block that holds an `echo` line, inside a numbered block without labels, has
its paragraph numbered under `echo`, the last macro read, and not under its own name. -/
theorem echo_in_paragraph_keys_its_number :
    let w : World :=
      { doc := { sheet := [{ kind := .paragraph, styleId := "Normal", name := "Normal" }] },
        prefixes := default, files := {}, sinks := [.body, .numbered false [] 0 false], sink := 1,
        counters := { levels := [[]] }, macroName := some "numbered" }
    (Node.block "(paragraph-styled Normal" [.text "x", .leaf "(echo hi)"] ")").Nested {} 1 ∧
      ∃ c', (Node.block "(paragraph-styled Normal" [.text "x", .leaf "(echo hi)"] ")").eval {} 0 1
          ⟨.numbered false [] 0, w, 1⟩ = .ok c' ∧
        c'.world.counters.levels = [[("echo", 2)]] ∧
        ∃ inner : Cursor, inner.around.close inner.world = .ok c'.world ∧
          inner.world.macroName = some "echo" := by
  intro w
  have hbody : ∀ t ∈ [Node.text "x", .leaf "(echo hi)"], t.Nested ({} : Layout) 2 := by
    simp only [List.mem_cons, List.not_mem_nil, or_false, forall_eq_or_imp, forall_eq]
    exact ⟨@Node.Nested.text {} 2 "x" ⟨"x", .plain, false, false⟩ rfl (by decide),
      .leaf ⟨⟨"(echo hi)", .macroLine, false, false⟩, rfl, rfl, rfl, by decide +kernel⟩⟩
  have hnested : (Node.block "(paragraph-styled Normal" [.text "x", .leaf "(echo hi)"] ")").Nested
      {} 1 :=
    .block
      ⟨⟨"(paragraph-styled Normal", .macroLine, false, false⟩, rfl, rfl, rfl, by decide +kernel⟩
      hbody
      ⟨⟨")", .macroLine, false, false⟩, rfl, rfl, rfl⟩
  have hrun : ((Node.block "(paragraph-styled Normal" [.text "x", .leaf "(echo hi)"] ")").eval
      {} 0 1 ⟨.numbered false [] 0, w, 1⟩).toOption.map (fun c => c.world.counters.levels) =
        some [[("echo", 2)]] := by
    decide +kernel
  obtain ⟨c', hc', hlevels⟩ := Option.map_eq_some_iff.mp hrun
  have heval := Except.eq_ok_of_toOption hc'
  obtain ⟨name, inner, hlast, hclose, hname, -⟩ :=
    unlabelled_number_keyed_by_last_macro hnested heval
  have hecho : (Node.block "(paragraph-styled Normal" [.text "x", .leaf "(echo hi)"] ")").lastWord
      {} 1 = some "echo" := by
    decide +kernel
  rw [hecho, Option.some.injEq] at hlast
  subst hlast
  exact ⟨hnested, c', heval, hlevels, inner, hclose, hname⟩

end MacroDoc.Engine
