import MacroDoc.Proofs.NumberingKey
import MacroDoc.Proofs.ListOpening

/-!
# Items of lists

An item of a list takes a line of content and closes into one paragraph of the `list` style.
An item of an ordered list is numbered by the list around it: the list counts from one, and
each item opened directly inside it takes the count and moves it on by one, whatever other
blocks stand between the items. The item's line is written after its number and a dot; the
line of an item of an unordered list is written after the list prefix the style sets.

An item has room for one line only. Once it has taken a line it refuses the next one, so an
item with two lines of content stops the reading: the paragraph an item writes would join its
lines, but a second line is never taken.

## Main definitions

* `Engine.Node.contentAt`, `Engine.Node.contentOf`: the lines of content of trees, as the block
  around them takes them.
* `Engine.Node.isOrderedItem`: whether a tree opens an item of an ordered list.

## Main results

* `Engine.Node.eval_around_cases`: what one tree does to the block around it.
* `Engine.Node.evalOf_orderedList`: inside an ordered list the count moves on by the number of
  items.
* `Engine.Node.evalOf_itemBody`: an item takes at most one line of content.
* `Engine.list_item_paragraph_of_one_line`: the `k`-th item of an ordered list writes `k. l`
  for its line `l`, an item of an unordered list writes the prefix and `l`, and an item whose
  reading succeeds has at most one line.
-/

namespace MacroDoc.Engine

open Markup

/-- The line of content a tree is, read with `depth` blocks open: plain text that is not an
empty line the layout skips, without its indent. Macro lines, comments and skipped lines are
none. -/
def Node.contentAt (layout : Layout) (depth : Nat) : Node → Option String
  | .text line => (layout.readAt depth line).toOption.bind fun info =>
      if info.kind = .plain ∧ (info.empty && layout.skipEmpty) = false then some info.text
      else none
  | .leaf _ | .block .. => none

/-- The lines of content of a sequence of trees, in order. -/
def Node.contentOf (layout : Layout) (depth : Nat) (ts : List Node) : List String :=
  ts.filterMap (Node.contentAt layout depth)

/-- Whether the macro line `line`, read with `depth` blocks open, opens an item of an ordered
list. -/
def Layout.opensOrderedItem (layout : Layout) (depth : Nat) (line : String) : Bool :=
  layout.wordAt depth line == some BlockKind.orderedItem.name

/-- Whether a tree, read with `depth` blocks open, is an item of an ordered list. -/
def Node.isOrderedItem (layout : Layout) (depth : Nat) : Node → Bool
  | .text _ => false
  | .leaf line | .block line _ _ => layout.opensOrderedItem depth line

/-- A text line that reads is its text when it is plain and not skipped. -/
theorem Node.contentAt_text_of_readAt {layout : Layout} {depth : Nat} {line : String}
    {info : LineInfo} (h : layout.readAt depth line = .ok info) :
    (Node.text line).contentAt layout depth =
      if info.kind = .plain ∧ (info.empty && layout.skipEmpty) = false then some info.text
      else none := by
  simp [Node.contentAt, h, Except.toOption]

/-- Only a text line is a line of content. -/
theorem Node.eq_text_of_contentAt {layout : Layout} {depth : Nat} {t : Node} {l : String}
    (h : t.contentAt layout depth = some l) : ∃ line, t = .text line := by
  cases t with
  | text line => exact ⟨line, rfl⟩
  | leaf _ => simp [Node.contentAt] at h
  | block _ _ _ => simp [Node.contentAt] at h

example : (Node.contentOf {} 1 [.text "a", .leaf "(echo x)", .text "b"]) = ["a", "b"] := by
  decide +kernel

/-- What beginning a block does to the block around it: it is kept, except that an item of an
ordered list takes the list's count and moves it on by one. -/
theorem beginBlock_around {calls : Nat} {text : String} {p f p' : Frame} {w w' : World}
    (h : beginBlock calls text p w = .ok (f, p', w')) :
    macroWord text ≠ some BlockKind.orderedItem.name ∧ p' = p ∨
      macroWord text = some BlockKind.orderedItem.name ∧
        ∃ n, p = .orderedList n ∧ f = .orderedItem n [] false ∧
          p' = .orderedList (n + 1) := by
  unfold macroWord
  cases hs : splitArgs text with
  | nil => simp [beginBlock, hs] at h
  | cons name args =>
    cases hk : BlockKind.ofName? name with
    | none => simp [beginBlock, hs, hk] at h
    | some kind =>
      simp only [beginBlock, hs, hk] at h
      have hname := BlockKind.name_of_ofName? hk
      rcases (Frame.start_keeps h).2 with ⟨hkind, hkeep⟩ | ⟨rfl, hitem⟩
      · refine .inl ⟨?_, hkeep⟩
        -- the word names the kind, so only the item's own name could open an item
        intro hword
        simp only [List.head?_cons, Option.some.injEq] at hword
        subst hword
        have hitem : BlockKind.ofName? BlockKind.orderedItem.name = some .orderedItem := by decide
        exact hkind (Option.some.inj (hk.symm.trans hitem))
      · exact .inr ⟨by simp [hname], hitem⟩

/-- Beginning an item of an unordered list makes an item with no line taken yet. -/
theorem beginBlock_unorderedItem {calls : Nat} {text : String} {p f p' : Frame} {w w' : World}
    (hword : macroWord text = some BlockKind.unorderedItem.name)
    (h : beginBlock calls text p w = .ok (f, p', w')) : f = .unorderedItem [] false := by
  unfold macroWord at hword
  cases hs : splitArgs text with
  | nil => simp [hs] at hword
  | cons name args =>
    simp only [hs, List.head?_cons, Option.some.injEq] at hword
    subst hword
    have hkind : BlockKind.ofName? BlockKind.unorderedItem.name = some .unorderedItem := by
      decide
    simp only [beginBlock, hs, hkind, Frame.start] at h
    split at h
    · cases h
    · simp only [bind, Except.bind] at h
      split at h
      · cases h
      · cases h
        rfl

namespace Cursor

variable {layout : Layout} {depth : Nat} {line : String} {c c' : Cursor}

/-- Taking a line inside a block: a line of content goes to the block around, which takes it
in the world as it stands; any other line leaves the block around as it is. -/
theorem takeText_content (h : c.takeText layout (depth + 1) line = .ok c') :
    (Node.text line).contentAt layout (depth + 1) = none ∧ c'.around = c.around ∨
      ∃ l, (Node.text line).contentAt layout (depth + 1) = some l ∧
        c.around.takeLine l c.world = .ok c'.around ∧ c'.world = c.world := by
  unfold takeText at h
  cases hread : layout.readAt (depth + 1) line with
  | error e => simp [hread] at h
  | ok info =>
    simp only [hread] at h
    by_cases hskip : (info.empty && layout.skipEmpty) = true
    · rw [if_pos hskip] at h
      cases h
      exact .inl ⟨by simp [Node.contentAt_text_of_readAt hread, hskip], rfl⟩
    · rw [if_neg hskip] at h
      cases hkind : info.kind with
      | plain =>
        simp only [hkind] at h
        split at h
        · rename_i f hf
          cases h
          exact .inr ⟨info.text, by simp_all [Node.contentAt_text_of_readAt hread], hf, rfl⟩
        · cases h
      | macroLine | comment =>
        simp only [hkind] at h
        cases h
        exact .inl ⟨by simp [Node.contentAt_text_of_readAt hread, hkind], rfl⟩

/-- Opening a block keeps the block around, except that an item of an ordered list takes the
list's count and moves it on by one. -/
theorem openBlock_around {calls : Nat} {f : Frame}
    (h : c.openBlock layout calls depth line = .ok (f, c')) :
    layout.opensOrderedItem depth line = false ∧ c'.around = c.around ∨
      layout.opensOrderedItem depth line = true ∧
        ∃ n, c.around = .orderedList n ∧ f = .orderedItem n [] false ∧
          c'.around = .orderedList (n + 1) := by
  unfold openBlock at h
  split at h
  · cases h
  · rename_i info hread
    split at h
    · cases h
    · rename_i heq
      cases h
      simpa [Layout.opensOrderedItem, Layout.wordAt_of_readAt hread] using beginBlock_around heq

/-- Opening an item of an unordered list makes an item with no line taken yet. -/
theorem openBlock_unorderedItem {calls : Nat} {f : Frame}
    (hword : layout.wordAt depth line = some BlockKind.unorderedItem.name)
    (h : c.openBlock layout calls depth line = .ok (f, c')) : f = .unorderedItem [] false := by
  unfold openBlock at h
  split at h
  · cases h
  · rename_i info hread
    split at h
    · cases h
    · rename_i heq
      cases h
      rw [Layout.wordAt_of_readAt hread] at hword
      exact beginBlock_unorderedItem hword heq

/-- Opening an ordered list makes a list that counts from one. -/
theorem openBlock_orderedList {calls : Nat} {f : Frame}
    (hword : layout.wordAt depth line = some BlockKind.orderedList.name)
    (h : c.openBlock layout calls depth line = .ok (f, c')) : f = .orderedList 1 := by
  unfold openBlock at h
  split at h
  · cases h
  · rename_i info hread
    rw [Layout.wordAt_of_readAt hread] at hword
    split at h
    · cases h
    · rename_i heq
      cases h
      -- the list is made whatever the close of the block around it writes
      rw [beginBlock_orderedList hword] at heq
      simp only [Except.map] at heq
      split at heq
      · cases heq
      · cases heq
        rfl

/-- Closing a block keeps the block around and puts in the world the block's close leaves. -/
theorem closeBlock_eq_ok {f : Frame} (h : closeBlock f c = .ok c') :
    f.close c.world = .ok c'.world ∧ c'.around = c.around := by
  unfold closeBlock at h
  split at h
  · cases h
  · rename_i w hw
    cases h
    exact ⟨hw, rfl⟩

end Cursor

namespace Frame

variable {l : String} {w : World} {f f' : Frame} {lines : List String} {started : Bool}

/-- An item that has taken its line refuses every other. -/
theorem takeLine_started_item
    (hf : (∃ n, f = .orderedItem n lines true) ∨ f = .unorderedItem lines true) :
    f.takeLine l w = .error secondItemLine := by
  rcases hf with ⟨n, rfl⟩ | rfl <;> rfl

/-- An item of an unordered list takes its first line after the list prefix of the world it is
read in; a prefix that is no text refuses the line. -/
theorem takeLine_unorderedItem_eq_ok (h : (unorderedItem [] false).takeLine l w = .ok f') :
    ∃ lead, w.prefixes.listItem = .str lead ∧ f' = .unorderedItem [lead ++ l] true := by
  simp only [takeLine, if_neg Bool.false_ne_true, bind, Except.bind] at h
  cases hv : w.prefixes.listItem with
  | str lead =>
    simp only [hv, prefixText, pure, Except.pure, Except.ok.injEq] at h
    exact ⟨lead, rfl, by simpa using h.symm⟩
  | _ => simp [hv, prefixText] at h

/-- An item with no line taken yet is no list, and once it has taken a line it is still no list
and refuses every other line. -/
theorem item_takes_one_line
    (hf : (∃ n, f = .orderedItem n [] false) ∨ f = .unorderedItem [] false) :
    (∀ m, f ≠ .orderedList m) ∧
      ∀ l w f', f.takeLine l w = .ok f' →
        (∀ m, f' ≠ .orderedList m) ∧ ∀ l' w' f'', f'.takeLine l' w' ≠ .ok f'' := by
  refine ⟨by rcases hf with ⟨n, rfl⟩ | rfl <;> exact fun _ => nofun, fun l w f' h => ?_⟩
  have hstarted :
      ∃ lines, (∃ n, f' = .orderedItem n lines true) ∨ f' = .unorderedItem lines true := by
    rcases hf with ⟨n, rfl⟩ | rfl
    · exact ⟨_, .inl ⟨n, (Except.ok.inj h).symm⟩⟩
    · obtain ⟨lead, -, rfl⟩ := takeLine_unorderedItem_eq_ok h
      exact ⟨_, .inr rfl⟩
  obtain ⟨lines, hf'⟩ := hstarted
  refine ⟨by rcases hf' with ⟨n, rfl⟩ | rfl <;> exact fun _ => nofun,
    fun l' w' f'' h' => ?_⟩
  rw [takeLine_started_item hf'] at h'
  cases h'

/-- An item closes by writing its lines, joined, as one paragraph of the `list` style. -/
theorem close_item
    (hf : (∃ n, f = .orderedItem n lines started) ∨ f = .unorderedItem lines started) :
    f.close w = (w.addParagraphHere (some (joinLines lines)) (some "list")).map Prod.fst := by
  rcases hf with ⟨n, rfl⟩ | rfl <;>
  · simp only [close, bind, Except.bind, Except.map]
    split <;> rfl

/-- One line joined is the line itself. -/
theorem joinLines_singleton (line : String) : joinLines [line] = line := by
  simp [joinLines]

end Frame

section Evaluation

variable {layout : Layout} {calls : Nat}

/-- A tree evaluated after `t` once `t` has given `c₁`. -/
theorem Node.evalOf_cons_of_eval {depth : Nat} {t : Node} {ts : List Node} {c c₁ : Cursor}
    (h : t.eval layout calls depth c = .ok c₁) :
    Node.evalOf layout calls depth (t :: ts) c = Node.evalOf layout calls depth ts c₁ := by
  simp only [Node.evalOf, h]
  rfl

/-- A sequence evaluated to its end passes each of its trees: the part before `t`, `t`, and the
part after. -/
theorem Node.evalOf_append_cons {depth : Nat} {t : Node} {post : List Node} :
    ∀ {pre : List Node} {c c' : Cursor},
      Node.evalOf layout calls depth (pre ++ t :: post) c = .ok c' →
        ∃ cᵢ cᵢ', Node.evalOf layout calls depth pre c = .ok cᵢ ∧
          t.eval layout calls depth cᵢ = .ok cᵢ' ∧
          Node.evalOf layout calls depth post cᵢ' = .ok c'
  | [], c, c', h => by
    simp only [List.nil_append, Node.evalOf, Except.bind_eq_ok] at h
    obtain ⟨cᵢ', h₁, h₂⟩ := h
    exact ⟨c, cᵢ', rfl, h₁, h₂⟩
  | s :: pre, c, c', h => by
    simp only [List.cons_append, Node.evalOf, Except.bind_eq_ok] at h
    obtain ⟨c₁, h₁, h₂⟩ := h
    obtain ⟨cᵢ, cᵢ', hpre, ht, hpost⟩ := Node.evalOf_append_cons h₂
    exact ⟨cᵢ, cᵢ', (Node.evalOf_cons_of_eval h₁).trans hpre, ht, hpost⟩

/-- A block read to its end: its opening line makes the block, its body is read inside it, and
its close gives the world after it. -/
theorem Node.eval_block_ok {depth : Nat} {opening closing : String} {body : List Node}
    {c c' : Cursor} (h : (Node.block opening body closing).eval layout calls depth c = .ok c') :
    ∃ f c₁ inner, c.openBlock layout calls depth opening = .ok (f, c₁) ∧
      Node.evalOf layout calls (depth + 1) body { c₁ with around := f } = .ok inner ∧
      inner.around.close inner.world = .ok c'.world ∧ c'.around = c₁.around := by
  simp only [Node.eval, Except.bind_eq_ok] at h
  obtain ⟨⟨f, c₁⟩, h₁, inner, hbody, h₂⟩ := h
  obtain ⟨hclose, harr⟩ := Cursor.closeBlock_eq_ok h₂
  exact ⟨f, c₁, inner, h₁, hbody, hclose, harr⟩

/-- What one tree does, inside a block, to the block around it. A line of content goes to that
block; an item of an ordered list moves the list's count on by one; anything else leaves the
block around as it is. -/
theorem Node.eval_around_cases {depth : Nat} {t : Node} {c c' : Cursor}
    (h : t.eval layout calls (depth + 1) c = .ok c') :
    (∃ l, t.contentAt layout (depth + 1) = some l ∧
        c.around.takeLine l c.world = .ok c'.around ∧ c'.world = c.world) ∨
      t.contentAt layout (depth + 1) = none ∧
        (t.isOrderedItem layout (depth + 1) = false ∧ c'.around = c.around ∨
          t.isOrderedItem layout (depth + 1) = true ∧
            ∃ n, c.around = .orderedList n ∧ c'.around = .orderedList (n + 1)) := by
  cases t with
  | text line =>
    rcases Cursor.takeText_content h with ⟨hnone, hkeep⟩ | hline
    · exact .inr ⟨hnone, .inl ⟨rfl, hkeep⟩⟩
    · exact .inl hline
  | leaf line =>
    simp only [Node.eval, Except.bind_eq_ok] at h
    obtain ⟨⟨f, c₁⟩, h₁, h₂⟩ := h
    have hc' : c'.around = c₁.around := (Cursor.closeBlock_eq_ok h₂).2
    rw [hc']
    rcases Cursor.openBlock_around h₁ with hkeep | ⟨hitem, n, hn, -, hnext⟩
    · exact .inr ⟨rfl, .inl hkeep⟩
    · exact .inr ⟨rfl, .inr ⟨hitem, n, hn, hnext⟩⟩
  | block opening body closing =>
    -- the body is read inside the new block; only the opening touches the block around
    obtain ⟨f, c₁, inner, h₁, -, -, hc'⟩ := Node.eval_block_ok h
    rw [hc']
    rcases Cursor.openBlock_around h₁ with hkeep | ⟨hitem, n, hn, -, hnext⟩
    · exact .inr ⟨rfl, .inl hkeep⟩
    · exact .inr ⟨rfl, .inr ⟨hitem, n, hn, hnext⟩⟩

/-- Inside an ordered list that has counted to `n`, a sequence of trees read to its end leaves
the count moved on by the number of items among them. -/
theorem Node.evalOf_orderedList {depth : Nat} {ts : List Node} :
    ∀ {c c' : Cursor} {n : Nat}, c.around = .orderedList n →
      Node.evalOf layout calls (depth + 1) ts c = .ok c' →
        c'.around = .orderedList (n + ts.countP (Node.isOrderedItem layout (depth + 1))) := by
  induction ts with
  | nil =>
    intro c c' n hc h
    cases h
    simpa using hc
  | cons t ts ih =>
    intro c c' n hc h
    simp only [Node.evalOf, Except.bind_eq_ok] at h
    obtain ⟨c₁, h₁, h₂⟩ := h
    rcases Node.eval_around_cases h₁ with
      ⟨l, -, hline, -⟩ | ⟨-, ⟨hno, hkeep⟩ | ⟨hyes, m, hm, hnext⟩⟩
    · -- a list refuses a line of content
      rw [hc] at hline
      cases hline
    · rw [ih (hkeep.trans hc) h₂, List.countP_cons, hno]
      simp
    · rw [hc, Frame.orderedList.injEq] at hm
      subst hm
      rw [ih hnext h₂, List.countP_cons, hyes]
      simp only [if_true, Frame.orderedList.injEq]
      omega

/-- A block that refuses every line and is no ordered list stays around a sequence of trees read
to its end, and there is no line of content among them. -/
theorem Node.evalOf_refusing {depth : Nat} {ts : List Node} {f : Frame}
    (hlist : ∀ n, f ≠ .orderedList n) (hrefuse : ∀ l w f', f.takeLine l w ≠ .ok f') :
    ∀ {c c' : Cursor}, c.around = f → Node.evalOf layout calls (depth + 1) ts c = .ok c' →
      Node.contentOf layout (depth + 1) ts = [] ∧ c'.around = f := by
  induction ts with
  | nil =>
    intro c c' hc h
    cases h
    exact ⟨rfl, hc⟩
  | cons t ts ih =>
    intro c c' hc h
    simp only [Node.evalOf, Except.bind_eq_ok] at h
    obtain ⟨c₁, h₁, h₂⟩ := h
    rcases Node.eval_around_cases h₁ with
      ⟨l, -, hline, -⟩ | ⟨hnone, ⟨-, hkeep⟩ | ⟨-, n, hn, -⟩⟩
    · exact absurd (hc ▸ hline) (hrefuse _ _ _)
    · obtain ⟨hcontent, hend⟩ := ih (hkeep.trans hc) h₂
      refine ⟨?_, hend⟩
      rw [Node.contentOf, List.filterMap_cons_none hnone]
      exact hcontent
    · exact absurd (hc.symm.trans hn) (hlist n)

/-- The body of a block that takes one line and then refuses every other, read to its end: it
holds no line of content and the block is left as it was, or it holds exactly one, `l`, read
after the part `before` of the body, and the block is left as taking `l` made it. -/
theorem Node.evalOf_itemBody {depth : Nat} {ts : List Node} {f : Frame}
    (hlist : ∀ n, f ≠ .orderedList n)
    (htaken : ∀ l w f', f.takeLine l w = .ok f' →
      (∀ n, f' ≠ .orderedList n) ∧ ∀ l' w' f'', f'.takeLine l' w' ≠ .ok f'') :
    ∀ {c c' : Cursor}, c.around = f → Node.evalOf layout calls (depth + 1) ts c = .ok c' →
      Node.contentOf layout (depth + 1) ts = [] ∧ c'.around = f ∨
        ∃ before line after cₗ l, ts = before ++ .text line :: after ∧
          (Node.text line).contentAt layout (depth + 1) = some l ∧
          Node.contentOf layout (depth + 1) ts = [l] ∧
          Node.evalOf layout calls (depth + 1) before c = .ok cₗ ∧
          f.takeLine l cₗ.world = .ok c'.around := by
  induction ts with
  | nil =>
    intro c c' hc h
    cases h
    exact .inl ⟨rfl, hc⟩
  | cons t ts ih =>
    intro c c' hc h
    simp only [Node.evalOf, Except.bind_eq_ok] at h
    obtain ⟨c₁, h₁, h₂⟩ := h
    rcases Node.eval_around_cases h₁ with
      ⟨l, hl, hline, -⟩ | ⟨hnone, ⟨-, hkeep⟩ | ⟨-, n, hn, -⟩⟩
    · -- the first line of content: the block takes it, and refuses all that follow
      rw [hc] at hline
      obtain ⟨hlist', hrefuse'⟩ := htaken _ _ _ hline
      obtain ⟨hrest, hend⟩ := Node.evalOf_refusing hlist' hrefuse' rfl h₂
      obtain ⟨line, rfl⟩ := Node.eq_text_of_contentAt hl
      refine .inr ⟨[], line, ts, c, l, rfl, hl, ?_, rfl, hend ▸ hline⟩
      rw [Node.contentOf, List.filterMap_cons_some hl]
      exact congrArg (l :: ·) hrest
    · rcases ih (hkeep.trans hc) h₂ with
        hnone' | ⟨before, line, after, cₗ, l, rfl, hl, hcontent, hbefore, htake⟩
      · refine .inl ⟨?_, hnone'.2⟩
        rw [Node.contentOf, List.filterMap_cons_none hnone]
        exact hnone'.1
      · refine .inr ⟨t :: before, line, after, cₗ, l, rfl, hl, ?_, ?_, htake⟩
        · rw [Node.contentOf, List.filterMap_cons_none hnone]
          exact hcontent
        · exact (Node.evalOf_cons_of_eval h₁).trans hbefore
    · exact absurd (hc.symm.trans hn) (hlist n)

/-- An item of an ordered list read to its end: it is opened inside a list that has counted to
`n` and takes the number `n`, it holds at most one line of content, and it closes by writing its
line `l` as the paragraph `n. l` of the `list` style. -/
theorem Node.eval_orderedItem {depth : Nat} {opening closing : String} {body : List Node}
    {c c' : Cursor} (hword : layout.opensOrderedItem (depth + 1) opening = true)
    (h : (Node.block opening body closing).eval layout calls (depth + 1) c = .ok c') :
    ∃ n c₂ inner, c.around = .orderedList n ∧
      c.openBlock layout calls (depth + 1) opening = .ok (.orderedItem n [] false, c₂) ∧
      Node.evalOf layout calls (depth + 2) body { c₂ with around := .orderedItem n [] false } =
        .ok inner ∧
      (Node.contentOf layout (depth + 2) body).length ≤ 1 ∧
      ∀ l, Node.contentOf layout (depth + 2) body = [l] →
        (inner.world.addParagraphHere (some (toString n ++ ". " ++ l)) (some "list")).map
          Prod.fst = .ok c'.world := by
  obtain ⟨f, c₂, inner, h₁, hbody, hclose, -⟩ := Node.eval_block_ok h
  obtain ⟨hno, -⟩ | ⟨-, n, hn, rfl, -⟩ := Cursor.openBlock_around h₁
  · rw [hword] at hno
    cases hno
  obtain ⟨hlist, htaken⟩ := Frame.item_takes_one_line (.inl ⟨n, rfl⟩)
  refine ⟨n, c₂, inner, hn, h₁, hbody, ?_⟩
  rcases Node.evalOf_itemBody hlist htaken rfl hbody with
    ⟨hnone, -⟩ | ⟨-, -, -, cₗ, l, -, -, hcontent, -, htake⟩
  · exact ⟨by simp [hnone], fun l hl => by simp [hnone] at hl⟩
  · refine ⟨by simp [hcontent], fun l' hl' => ?_⟩
    obtain rfl : l = l' := List.head_eq_of_cons_eq (hcontent.symm.trans hl')
    -- the item holds the one line it took, after its number
    have harr : inner.around = .orderedItem n [toString n ++ ". " ++ l] true :=
      (Except.ok.inj htake).symm
    rw [← hclose, harr, Frame.close_item (.inl ⟨n, rfl⟩), Frame.joinLines_singleton]

/-- An item of an unordered list read to its end: it holds at most one line of content, and it
closes by writing its line `l` after the list prefix of the world in which `l` is read, as a
paragraph of the `list` style. -/
theorem Node.eval_unorderedItem {depth : Nat} {opening closing : String} {body : List Node}
    {c c' : Cursor} (hword : layout.wordAt (depth + 1) opening = some BlockKind.unorderedItem.name)
    (h : (Node.block opening body closing).eval layout calls (depth + 1) c = .ok c') :
    ∃ c₂ inner,
      c.openBlock layout calls (depth + 1) opening = .ok (.unorderedItem [] false, c₂) ∧
      Node.evalOf layout calls (depth + 2) body { c₂ with around := .unorderedItem [] false } =
        .ok inner ∧
      (Node.contentOf layout (depth + 2) body).length ≤ 1 ∧
      ∀ l, Node.contentOf layout (depth + 2) body = [l] →
        ∃ before line after cₗ lead, body = before ++ .text line :: after ∧
          (Node.text line).contentAt layout (depth + 2) = some l ∧
          Node.evalOf layout calls (depth + 2) before
            { c₂ with around := .unorderedItem [] false } = .ok cₗ ∧
          cₗ.world.prefixes.listItem = .str lead ∧
          (inner.world.addParagraphHere (some (lead ++ l)) (some "list")).map Prod.fst =
            .ok c'.world := by
  obtain ⟨f, c₂, inner, h₁, hbody, hclose, -⟩ := Node.eval_block_ok h
  obtain rfl := Cursor.openBlock_unorderedItem hword h₁
  obtain ⟨hlist, htaken⟩ := Frame.item_takes_one_line (.inr rfl)
  refine ⟨c₂, inner, h₁, hbody, ?_⟩
  rcases Node.evalOf_itemBody hlist htaken rfl hbody with
    ⟨hnone, -⟩ | ⟨before, line, after, cₗ, l, hsplit, hl, hcontent, hbefore, htake⟩
  · exact ⟨by simp [hnone], fun l hl => by simp [hnone] at hl⟩
  · refine ⟨by simp [hcontent], fun l' hl' => ?_⟩
    obtain rfl : l = l' := List.head_eq_of_cons_eq (hcontent.symm.trans hl')
    -- the item holds the one line it took, after the prefix of the world it was read in
    obtain ⟨lead, hlead, harr⟩ := Frame.takeLine_unorderedItem_eq_ok htake
    refine ⟨before, line, after, cₗ, lead, hsplit, hl, hbefore, hlead, ?_⟩
    rw [← hclose, harr, Frame.close_item (.inr rfl), Frame.joinLines_singleton]

end Evaluation

/-- Items of lists, read to the end of the list or item, hold at most one line of content each
and write it as one paragraph of the `list` style. In an ordered list the item after the
trees `pre` is numbered one more than the items among `pre`, counting from one in every list,
and writes `k. l` for its line `l`; an item of an unordered list writes its line after the list
prefix of the world in which the line is read. -/
theorem list_item_paragraph_of_one_line {layout : Layout} {calls depth : Nat} :
    (∀ {opening closing itemOpening itemClosing : String} {pre post body : List Node}
        {c c' : Cursor},
      layout.wordAt depth opening = some BlockKind.orderedList.name →
      layout.wordAt (depth + 1) itemOpening = some BlockKind.orderedItem.name →
      (Node.block opening (pre ++ .block itemOpening body itemClosing :: post) closing).eval
        layout calls depth c = .ok c' →
      (Node.contentOf layout (depth + 2) body).length ≤ 1 ∧
      ∀ l, Node.contentOf layout (depth + 2) body = [l] →
        ∃ c₁ cᵢ c₂ inner cᵢ',
          c.openBlock layout calls depth opening = .ok (.orderedList 1, c₁) ∧
          Node.evalOf layout calls (depth + 1) pre { c₁ with around := .orderedList 1 } =
            .ok cᵢ ∧
          cᵢ.openBlock layout calls (depth + 1) itemOpening =
            .ok (.orderedItem (pre.countP (Node.isOrderedItem layout (depth + 1)) + 1) [] false,
              c₂) ∧
          Node.evalOf layout calls (depth + 2) body
            { c₂ with
              around := .orderedItem (pre.countP (Node.isOrderedItem layout (depth + 1)) + 1) []
                false } = .ok inner ∧
          (Node.block itemOpening body itemClosing).eval layout calls (depth + 1) cᵢ = .ok cᵢ' ∧
          (inner.world.addParagraphHere
              (some (toString (pre.countP (Node.isOrderedItem layout (depth + 1)) + 1) ++ ". " ++
                l)) (some "list")).map Prod.fst = .ok cᵢ'.world) ∧
    (∀ {itemOpening itemClosing : String} {body : List Node} {c c' : Cursor},
      layout.wordAt (depth + 1) itemOpening = some BlockKind.unorderedItem.name →
      (Node.block itemOpening body itemClosing).eval layout calls (depth + 1) c = .ok c' →
      (Node.contentOf layout (depth + 2) body).length ≤ 1 ∧
      ∀ l, Node.contentOf layout (depth + 2) body = [l] →
        ∃ c₂ inner before line after cₗ lead,
          c.openBlock layout calls (depth + 1) itemOpening = .ok (.unorderedItem [] false, c₂) ∧
          Node.evalOf layout calls (depth + 2) body { c₂ with around := .unorderedItem [] false } =
            .ok inner ∧
          body = before ++ .text line :: after ∧
          (Node.text line).contentAt layout (depth + 2) = some l ∧
          Node.evalOf layout calls (depth + 2) before
            { c₂ with around := .unorderedItem [] false } = .ok cₗ ∧
          cₗ.world.prefixes.listItem = .str lead ∧
          (inner.world.addParagraphHere (some (lead ++ l)) (some "list")).map Prod.fst =
            .ok c'.world) := by
  constructor
  · intro opening closing itemOpening itemClosing pre post body c c' hlist hitem heval
    obtain ⟨f, c₁, listEnd, h₁, hbody, -, -⟩ := Node.eval_block_ok heval
    obtain rfl := Cursor.openBlock_orderedList hlist h₁
    obtain ⟨cᵢ, cᵢ', hpre, hitemEval, -⟩ := Node.evalOf_append_cons hbody
    -- the list counts from one, and each item before this one moves the count on
    have hcount := Node.evalOf_orderedList rfl hpre
    have hopens : layout.opensOrderedItem (depth + 1) itemOpening = true := by
      simp [Layout.opensOrderedItem, hitem]
    obtain ⟨n, c₂, inner, hn, h₂, hinner, hlen, hwrite⟩ :=
      Node.eval_orderedItem hopens hitemEval
    rw [hcount, Frame.orderedList.injEq, Nat.add_comm] at hn
    subst hn
    exact ⟨hlen, fun l hl =>
      ⟨c₁, cᵢ, c₂, inner, cᵢ', h₁, hpre, h₂, hinner, hitemEval, hwrite l hl⟩⟩
  · intro itemOpening itemClosing body c c' hitem heval
    obtain ⟨c₂, inner, h₂, hinner, hlen, hwrite⟩ := Node.eval_unorderedItem hitem heval
    refine ⟨hlen, fun l hl => ?_⟩
    obtain ⟨before, line, after, cₗ, lead, hsplit, hl', hbefore, hlead, hpara⟩ := hwrite l hl
    exact ⟨c₂, inner, before, line, after, cₗ, lead, h₂, hinner, hsplit, hl', hbefore,
      hlead, hpara⟩

/-- The second item of an ordered list opens numbered two and writes `2. b` for its line `b`;
an item of an unordered list writes its line `x` after the list prefix `* `. -/
theorem second_item_numbered_two_and_prefixed_item :
    let w : World :=
      { doc := { sheet := [{ kind := .paragraph, styleId := "list", name := "list" }] },
        prefixes := { listItem := .str "* ", caption := .str "", captionInfix := .str "" },
        files := {} }
    (∃ c', (Node.block "(ordered-list" [.block "(ordered-list-item" [.text "a"] ")",
        .block "(ordered-list-item" [.text "b"] ")"] ")").eval {} 0 0 ⟨.top, w, 0⟩ = .ok c') ∧
      (∃ cᵢ c₂ inner cᵢ' : Cursor,
        cᵢ.openBlock {} 0 1 "(ordered-list-item" = .ok (.orderedItem 2 [] false, c₂) ∧
        (inner.world.addParagraphHere (some "2. b") (some "list")).map Prod.fst =
          .ok cᵢ'.world) ∧
      ∃ c', (Node.block "(unordered-list-item" [.text "x"] ")").eval {} 0 1
          ⟨.unorderedList, w, 1⟩ = .ok c' ∧
        ∃ inner : Cursor,
          (inner.world.addParagraphHere (some "* x") (some "list")).map Prod.fst = .ok c'.world := by
  intro w
  have hrun₁ : ((Node.block "(ordered-list" [.block "(ordered-list-item" [.text "a"] ")",
      .block "(ordered-list-item" [.text "b"] ")"] ")").eval {} 0 0
        ⟨.top, w, 0⟩).toOption.isSome = true := by
    decide +kernel
  have hrun₂ : ((Node.block "(unordered-list-item" [.text "x"] ")").eval {} 0 1
      ⟨.unorderedList, w, 1⟩).toOption.isSome = true := by
    decide +kernel
  obtain ⟨c', h₁⟩ := Option.isSome_iff_exists.mp hrun₁
  obtain ⟨c'', h₂⟩ := Option.isSome_iff_exists.mp hrun₂
  -- the list's body read as the first item, then the item the statement is about
  have h₁' : (Node.block "(ordered-list" ([.block "(ordered-list-item" [.text "a"] ")"] ++
      .block "(ordered-list-item" [.text "b"] ")" :: []) ")").eval {} 0 0 ⟨.top, w, 0⟩ =
        .ok c' := Except.eq_ok_of_toOption h₁
  obtain ⟨-, hordered⟩ :=
    list_item_paragraph_of_one_line.1 (by decide +kernel) (by decide +kernel) h₁'
  obtain ⟨-, cᵢ, c₂, inner, cᵢ', -, -, hopen, -, -, hwrite⟩ :=
    hordered "b" (by decide +kernel)
  have hcount : [Node.block "(ordered-list-item" [.text "a"] ")"].countP
      (Node.isOrderedItem {} 1) = 1 := by
    decide +kernel
  rw [hcount] at hopen hwrite
  obtain ⟨-, hunordered⟩ :=
    list_item_paragraph_of_one_line.2 (by decide +kernel) (Except.eq_ok_of_toOption h₂)
  obtain ⟨c₃, inner', before, line, after, cₗ, lead, hopen', -, hsplit, -, hbefore, hlead,
    hwrite'⟩ := hunordered "x" (by decide +kernel)
  -- the item's line is its first tree, read right after the opening, in the world it made
  obtain rfl : before = [] := by
    cases before with
    | nil => rfl
    | cons b bs => simp at hsplit
  cases hbefore
  have hprefix : ((Cursor.openBlock {} 0 1 "(unordered-list-item"
      ⟨.unorderedList, w, 1⟩).toOption.bind
        fun r => (prefixText r.2.world.prefixes.listItem).toOption) = some "* " := by
    decide +kernel
  have hlead' : c₃.world.prefixes.listItem = .str lead := hlead
  simp only [hopen', Except.toOption, Option.bind_some, hlead', prefixText,
    Option.some.injEq] at hprefix
  subst hprefix
  exact ⟨⟨c', h₁'⟩, ⟨cᵢ, c₂, inner, cᵢ', hopen, hwrite⟩, c'', Except.eq_ok_of_toOption h₂,
    inner', hwrite'⟩

end MacroDoc.Engine
