import MacroDoc.Proofs.Indentation

/-!
# A closing line outside every block ends the reading

A closing line closes the innermost open block. Read outside every block there is no block
to close, and the reader takes it as the end of the source instead: the reading stops there,
without a fault, and the document is what the lines before it made. Whatever follows is
never read, not even to be checked.

This module proves that of every source whose lines before such a line make trees of
macros read the way the reader reads them: the source converts exactly as its part before
the closing line does alone, whatever comes after.

## Main results

* `Engine.Machine.run_closing_top`: a closing line outside every block ends the reading.
* `Engine.convert_end_line_ignores_rest`: a source with a closing line outside every block
  converts as its part before that line.
-/

namespace MacroDoc.Text

/-- Newlines are unified piece by piece across a boundary that does not fall between a
carriage return and its line feed. -/
theorem unifyNewlines_append {xs ys : List Char} {c : Char} (hc : c ≠ '\n') :
    unifyNewlines (xs ++ c :: ys) = unifyNewlines xs ++ unifyNewlines (c :: ys) := by
  fun_induction unifyNewlines xs with
  | case1 => rfl
  | case2 rest ih =>
    rw [List.cons_append, List.cons_append, unifyNewlines.eq_2, ih, List.cons_append]
  | case3 rest hrest ih =>
    -- a carriage return alone: what follows it in the joined text is no line feed either
    have hrest' : ∀ r, rest ++ c :: ys = '\n' :: r → False := by
      intro r h
      cases rest with
      | nil => simp_all
      | cons d rest => simp_all
    rw [List.cons_append, unifyNewlines.eq_3 _ hrest', ih, List.cons_append]
  | case4 d rest hd hd' ih =>
    rw [List.cons_append, unifyNewlines.eq_4 d _ (fun _ h => absurd h hd') hd', ih,
      List.cons_append]

/-- A text that ends with a line feed still does once its newlines are unified. -/
theorem unifyNewlines_concat_newline (xs : List Char) :
    ∃ ys, unifyNewlines (xs ++ ['\n']) = ys ++ ['\n'] := by
  fun_induction unifyNewlines xs with
  | case1 => exact ⟨[], rfl⟩
  | case2 rest ih =>
    obtain ⟨ys, hys⟩ := ih
    exact ⟨'\n' :: ys, by
      rw [List.cons_append, List.cons_append, unifyNewlines.eq_2, hys, List.cons_append]⟩
  | case3 rest hrest ih =>
    cases rest with
    | nil => exact ⟨[], rfl⟩
    | cons d rest =>
      have hd : d ≠ '\n' := fun h => hrest rest (h ▸ rfl)
      obtain ⟨ys, hys⟩ := ih
      refine ⟨'\n' :: ys, ?_⟩
      rw [List.cons_append, unifyNewlines.eq_3 (d :: rest ++ ['\n']) (fun _ h => hd (List.cons.inj h).1), hys,
        List.cons_append]
  | case4 d rest hd hd' ih =>
    obtain ⟨ys, hys⟩ := ih
    exact ⟨d :: ys, by
      rw [List.cons_append, unifyNewlines.eq_4 d _ (fun _ h => absurd h hd') hd', hys,
        List.cons_append]⟩

/-- A text that is empty or ends with a line feed still is once its newlines are
unified. -/
theorem getLastD_unifyNewlines {cs : List Char} (h : cs.getLastD '\n' = '\n') :
    (unifyNewlines cs).getLastD '\n' = '\n' := by
  rcases List.eq_nil_or_concat cs with rfl | ⟨xs, c, rfl⟩
  · rfl
  · have hc : c = '\n' := by simpa using h
    subst hc
    obtain ⟨ys, hys⟩ := unifyNewlines_concat_newline xs
    simp [hys]

theorem fileLines_go_append_newline (xs ys cur : List Char) :
    fileLines.go (xs ++ '\n' :: ys) cur = fileLines.go (xs ++ ['\n']) cur ++ fileLines.go ys [] := by
  induction xs generalizing cur with
  | nil => simp [fileLines_go_newline, fileLines.go]
  | cons c xs ih =>
    by_cases hc : c = '\n'
    · subst hc
      simp only [List.cons_append, fileLines_go_newline, ih, List.cons_append]
    · simp only [List.cons_append, fileLines_go_char hc, ih]

/-- The lines of a text that is empty or ends with a line feed, then of more text, are the
lines of the one and then those of the other. -/
theorem fileLines_append {xs ys : List Char} (hxs : xs.getLastD '\n' = '\n') :
    fileLines (xs ++ ys) = fileLines xs ++ fileLines ys := by
  rcases List.eq_nil_or_concat xs with rfl | ⟨xs, c, rfl⟩
  · simp [fileLines, fileLines.go]
  · have hc : c = '\n' := by simpa using hxs
    subst hc
    simp only [fileLines, List.concat_eq_append, List.append_assoc, List.singleton_append]
    exact fileLines_go_append_newline xs ys []

/-- A text that is empty or ends with a line feed, then an end line, then more: the end line
is a line of its own between the lines of the two. -/
theorem fileLines_end_line {A B : String} (hA : A.toList.getLastD '\n' = '\n') :
    fileLines (unifyNewlines (A ++ ")\n" ++ B).toList) =
      fileLines (unifyNewlines A.toList) ++ ")\n" :: fileLines (unifyNewlines B.toList) := by
  have hsplit : (A ++ ")\n" ++ B).toList = A.toList ++ ')' :: '\n' :: B.toList := by simp
  have hend : fileLines (unifyNewlines (')' :: '\n' :: B.toList)) =
      ")\n" :: fileLines (unifyNewlines B.toList) := rfl
  rw [hsplit, unifyNewlines_append (by decide), fileLines_append (getLastD_unifyNewlines hA), hend]

end MacroDoc.Text

namespace MacroDoc.Engine

open Markup

/-- A closing line read outside every block ends the reading: the world is left as it
stands, and the lines after it are left unread. -/
theorem Machine.run_closing_top {m : Machine} {layout : Layout} {unreadable : Option Fault}
    {line : String} {rest : List String} (hm : m.frames = [])
    (hclose : layout.ReadsAs 0 .closing line) :
    m.run layout unreadable (line :: rest) = .ok (m.world, rest) := by
  obtain ⟨info, hread, hkind, hshape⟩ := hclose
  have hread' : layout.readAt m.frames.length line = .ok info := by rw [hm]; exact hread
  rw [Machine.run, Machine.step_closing_top hread' hkind hshape hm]

/-- A source with a closing line outside every block converts as its part before that line
alone, whatever follows it: the lines after it are never read. The part before is empty or
ends with a line feed, and its lines make trees of macros with no `doc` macro, each read the
way the reader reads it. -/
theorem convert_end_line_ignores_rest {s : Setup} {A B : String} {ts : List Node}
    (hlines : Text.fileLines (Text.unifyNewlines A.toList) = Node.linesOf ts)
    (hnested : ∀ t ∈ ts, t.Nested s.layout 0) (hA : A.toList.getLastD '\n' = '\n')
    (hend : s.layout.ReadsAs 0 .closing ")\n") :
    convert s (A ++ ")\n" ++ B) = convert s A := by
  unfold convert
  cases s.freshOrFail with
  | error e => rfl
  | ok fresh =>
    simp only [bind, Except.bind, Text.fileLines_end_line hA, hlines]
    -- with the end line after the trees the first reading stops there, where the lines of
    -- the part before it run out
    rw [readDocuments_linesOf hnested (fun m hm => ⟨_, Machine.run_closing_top hm hend⟩),
      readDocuments_of_nested hnested]

/-- The text after a closing line outside every block is dropped. -/
theorem convert_end_line_drops_text :
    Text.fileLines (Text.unifyNewlines "abc\n".toList) = Node.linesOf [.text "abc\n"] ∧
      (∀ t ∈ [Node.text "abc\n"], t.Nested ({} : Layout) 0) ∧
      "abc\n".toList.getLastD '\n' = '\n' ∧
      ({} : Layout).ReadsAs 0 .closing ")\n" ∧
      convert ⟨{}, default, {}, 0⟩ ("abc\n" ++ ")\n" ++ "def\n") =
        convert ⟨{}, default, {}, 0⟩ "abc\n" := by
  have hlines : Text.fileLines (Text.unifyNewlines "abc\n".toList) =
      Node.linesOf [.text "abc\n"] := by decide
  have hnested : ∀ t ∈ [Node.text "abc\n"], t.Nested ({} : Layout) 0 :=
    List.forall_mem_singleton.mpr
      (@Node.Nested.text {} 0 "abc\n" ⟨"abc", .plain, false, false⟩ rfl (by decide))
  have hA : "abc\n".toList.getLastD '\n' = '\n' := by decide
  have hend : ({} : Layout).ReadsAs 0 .closing ")\n" := ⟨⟨")", .macroLine, false, false⟩, rfl, rfl, rfl⟩
  exact ⟨hlines, hnested, hA, hend, convert_end_line_ignores_rest hlines hnested hA hend⟩

end MacroDoc.Engine
