import MacroDoc.Proofs.Nesting

/-!
# Indentation is cosmetic

A source may indent the lines inside a block with copies of an indent unit, and have the
reader strip them: a line read with `d` blocks open loses up to `d` units from its front.
This module shows that such indentation changes nothing. Take a source, and put in front of
each of its lines as many units as there are blocks open when its conversion reads that
line, or fewer where the line itself does not begin with the unit. Read with indents
stripped, the indented source converts exactly as the source does with indents kept:
the same documents, the same world, the same failure at the same line.

The indent unit must hold no line break. A unit that holds one splits every line it is put
in front of into two, and the reader then sees lines the source does not have;
`convert_indent_break` is such a case.

## Main definitions

* `Markup.indentLines`: put a number of units in front of each line.
* `Markup.FitsIndent`: a number of units fits a line read at a depth.
* `Engine.Setup.lineDepths`: the depth at which a conversion reads each line it reads.

## Main results

* `Engine.convert_indented`: with a unit free of line breaks, the indented source converts
  as the source does.
* `Engine.convert_indent_break`: a unit that is a line feed changes the document.
-/

namespace MacroDoc.Text

/-- Newlines are already unified in a text without carriage returns. -/
theorem unifyNewlines_of_no_cr {cs : List Char} (h : '\r' ∉ cs) : unifyNewlines cs = cs := by
  fun_induction unifyNewlines cs <;> simp_all

/-- Unifying newlines leaves no carriage return. -/
theorem cr_not_mem_unifyNewlines (cs : List Char) : '\r' ∉ unifyNewlines cs := by
  fun_induction unifyNewlines cs with
  | case1 => simp
  | case2 rest ih => simpa using ih
  | case3 rest h ih => simpa using ih
  | case4 c rest h1 h2 ih => simp [ih, Ne.symm h2]

theorem fileLines_go_newline (rest cur : List Char) :
    fileLines.go ('\n' :: rest) cur = String.ofList ('\n' :: cur).reverse :: fileLines.go rest [] := by
  simp [fileLines.go]

theorem fileLines_go_char {c : Char} (hc : c ≠ '\n') (rest cur : List Char) :
    fileLines.go (c :: rest) cur = fileLines.go rest (c :: cur) := by
  rw [fileLines.go.eq_def]
  split <;> simp_all

/-- A line without line feeds, then a line feed, is one line of a text. -/
theorem fileLines_go_line {b : List Char} (hb : '\n' ∉ b) (rest cur : List Char) :
    fileLines.go (b ++ '\n' :: rest) cur =
      String.ofList (cur.reverse ++ b ++ ['\n']) :: fileLines.go rest [] := by
  induction b generalizing cur with
  | nil => simp [fileLines_go_newline]
  | cons c b ih =>
    have hc : c ≠ '\n' := fun hc => hb (hc ▸ List.mem_cons_self)
    have hb' : '\n' ∉ b := fun hm => hb (List.mem_cons_of_mem c hm)
    rw [List.cons_append, fileLines_go_char hc, ih hb']
    simp

/-- A text without line feeds is one line, unless it is empty. -/
theorem fileLines_go_last {b : List Char} (hb : '\n' ∉ b) (cur : List Char)
    (hne : cur.reverse ++ b ≠ []) :
    fileLines.go b cur = [String.ofList (cur.reverse ++ b)] := by
  induction b generalizing cur with
  | nil =>
    cases cur with
    | nil => simp at hne
    | cons c cur => simp [fileLines.go]
  | cons c b ih =>
    have hc : c ≠ '\n' := fun hc => hb (hc ▸ List.mem_cons_self)
    have hb' : '\n' ∉ b := fun hm => hb (List.mem_cons_of_mem c hm)
    rw [fileLines_go_char hc, ih hb' (c :: cur) (by simp)]
    simp

/-- The lines of a text without carriage returns have none. -/
theorem cr_not_mem_fileLines_go {cs : List Char} (hcs : '\r' ∉ cs) (cur : List Char)
    (hcur : '\r' ∉ cur) : ∀ l ∈ fileLines.go cs cur, '\r' ∉ l.toList := by
  induction cs generalizing cur with
  | nil =>
    cases cur with
    | nil => simp [fileLines.go]
    | cons c cur =>
      intro l hl
      simp only [fileLines.go, List.mem_singleton] at hl
      subst hl
      rw [String.toList_ofList, List.mem_reverse]
      exact hcur
  | cons c cs ih =>
    have hcs' : '\r' ∉ cs := fun hm => hcs (List.mem_cons_of_mem c hm)
    by_cases hn : c = '\n'
    · subst hn
      intro l hl
      rw [fileLines_go_newline, List.mem_cons] at hl
      rcases hl with rfl | hl
      · simpa using hcur
      · exact ih hcs' [] (by simp) l hl
    · have hc : c ≠ '\r' := fun h => hcs (h ▸ List.mem_cons_self)
      rw [fileLines_go_char hn]
      exact ih hcs' (c :: cur) (by simp [Ne.symm hc, hcur])

end MacroDoc.Text

namespace MacroDoc.Markup

/-- Put `e` copies of `unit` in front of a line. -/
def indentLine (unit : String) (e : Nat) (line : String) : String :=
  String.join (List.replicate e unit) ++ line

/-- Put in front of each line the number of units given for it. -/
def indentLines (unit : String) (es : List Nat) (lines : List String) : List String :=
  List.zipWith (indentLine unit) es lines

@[simp] theorem indentLines_cons (unit : String) (e : Nat) (es : List Nat) (line : String)
    (lines : List String) :
    indentLines unit (e :: es) (line :: lines) = indentLine unit e line :: indentLines unit es lines :=
  rfl

/-- The indent unit made of `count` copies of `piece`. -/
def repeatedUnit (piece : String) (count : Nat) : String :=
  String.join (List.replicate count piece)

/-- `e` units fit a line read with `depth` blocks open: at most `depth`, and fewer only when
the line does not itself begin with the unit, which would be stripped as well. -/
def FitsIndent (unit : String) (depth : Nat) (line : String) (e : Nat) : Prop :=
  e ≤ depth ∧ (e < depth → ¬ unit.toList <+: line.toList)

instance (unit : String) (depth : Nat) (line : String) (e : Nat) :
    Decidable (FitsIndent unit depth line e) :=
  inferInstanceAs (Decidable (e ≤ depth ∧ (e < depth → ¬ unit.toList <+: line.toList)))

theorem toList_join_replicate (e : Nat) (unit : String) :
    (String.join (List.replicate e unit)).toList = (List.replicate e unit.toList).flatten := by
  simp [String.toList_join, List.flatMap_replicate]

theorem toList_indentLine (unit : String) (e : Nat) (line : String) :
    (indentLine unit e line).toList = (List.replicate e unit.toList).flatten ++ line.toList := by
  rw [indentLine, String.toList_append, toList_join_replicate]

/-- A unit free of line feeds leaves none in any number of copies of it. -/
theorem newline_not_mem_replicate {unit : String} (h : '\n' ∉ unit.toList) (e : Nat) :
    '\n' ∉ (String.join (List.replicate e unit)).toList := by
  simp [String.toList_join, List.flatMap_replicate, h]

/-- Stripping a unit that does not begin the line takes nothing off. -/
theorem stripIndentChars_of_not_prefix {u l : List Char} (h : ¬ u <+: l) (depth : Nat) :
    stripIndentChars u depth l = l := by
  cases depth with
  | zero => rfl
  | succ depth => simp [stripIndentChars, List.isPrefixOf_iff_prefix, h]

/-- Up to `d` units are stripped: `e` units in front of a line all go, and no more when the
line does not begin with another. -/
theorem stripIndentChars_replicate {u l : List Char} {e d : Nat} (he : e ≤ d)
    (hstop : e < d → ¬ u <+: l) :
    stripIndentChars u d ((List.replicate e u).flatten ++ l) = l := by
  induction e generalizing d with
  | zero =>
    cases d with
    | zero => rfl
    | succ d => exact stripIndentChars_of_not_prefix (hstop (Nat.succ_pos d)) _
  | succ e ih =>
    obtain ⟨d, rfl⟩ : ∃ d', d = d' + 1 := ⟨d - 1, by omega⟩
    have hpre : u.isPrefixOf (u ++ ((List.replicate e u).flatten ++ l)) = true := by
      simp [List.isPrefixOf_iff_prefix]
    simp only [List.replicate_succ, List.flatten_cons, List.append_assoc, stripIndentChars,
      hpre, if_true, List.drop_left]
    exact ih (by omega) (fun h => hstop (by omega))

/-- A unit written as `count` copies of a piece strips as the whole unit does. -/
theorem stripIndentRepeated_eq (piece : String) (count : Nat) (depth : Int) (line : String) :
    stripIndentRepeated piece count depth line =
      stripIndent (repeatedUnit piece count) depth line := by
  unfold stripIndentRepeated
  split
  · rfl
  · rename_i hlong
    -- a unit longer than the line is no prefix of it
    have hnot : ¬ (repeatedUnit piece count).toList <+: line.toList := by
      intro hpre
      have hle := hpre.length_le
      simp only [repeatedUnit, String.length_toList, String.length_join, List.map_replicate,
        List.sum_replicate_nat] at hle
      exact hlong (by rw [Nat.mul_comm]; exact hle)
    rw [stripIndent, stripIndentChars_of_not_prefix hnot, String.ofList_toList]

/-- Dropping the newlines that end a line keeps a front free of them. -/
theorem dropNewlines_append {a b : String} (ha : '\n' ∉ a.toList) :
    dropNewlines (a ++ b) = a ++ dropNewlines b := by
  apply String.toList_injective
  have hkeep : a.toList.reverse.dropWhile (· == '\n') = a.toList.reverse := by
    cases h : a.toList.reverse with
    | nil => rfl
    | cons c cs =>
      have hc : c ≠ '\n' := fun hc => ha (List.mem_reverse.mp (h ▸ hc ▸ List.mem_cons_self))
      simp [hc]
  simp only [dropNewlines, String.toList_append, String.toList_ofList, List.reverse_append,
    List.dropWhile_append]
  split
  · rename_i hempty
    rw [List.isEmpty_iff.mp hempty, hkeep]
    simp
  · simp

/-- Dropping the newlines that end a line leaves a prefix of it. -/
theorem dropNewlines_prefix_self (line : String) : (dropNewlines line).toList <+: line.toList := by
  have h := (List.dropWhile_suffix (· == '\n') (l := line.toList.reverse)).reverse
  simpa [dropNewlines] using h

theorem newline_not_mem_repeatedUnit {piece : String} (h : '\n' ∉ piece.toList) (count : Nat) :
    '\n' ∉ (repeatedUnit piece count).toList :=
  newline_not_mem_replicate h count

/-- Indenting the lines of a text with a unit free of line feeds, and joining them again,
gives a text whose lines are the indented lines. -/
theorem fileLines_go_indentLines {unit : String} (hbreak : '\n' ∉ unit.toList) (cs : List Char) :
    ∀ (cur : List Char) (es : List Nat), '\n' ∉ cur →
      es.length = (Text.fileLines.go cs cur).length →
      Text.fileLines.go ((indentLines unit es (Text.fileLines.go cs cur)).flatMap String.toList) [] =
        indentLines unit es (Text.fileLines.go cs cur) := by
  induction cs with
  | nil =>
    intro cur es hcur hlen
    cases cur with
    | nil =>
      simp only [Text.fileLines.go, List.length_nil, List.length_eq_zero_iff] at hlen
      subst hlen
      simp [indentLines, Text.fileLines.go]
    | cons c cur =>
      obtain ⟨e, rfl⟩ : ∃ e, es = [e] := by
        simp only [Text.fileLines.go, List.length_singleton] at hlen
        exact List.length_eq_one_iff.mp hlen
      have hgo : Text.fileLines.go [] (c :: cur) = [String.ofList (c :: cur).reverse] := rfl
      -- the indented last line still holds no line feed, so it stays one line
      have hnl : '\n' ∉ (List.replicate e unit.toList).flatten ++ (c :: cur).reverse := by
        rw [List.mem_append, List.mem_reverse, not_or]
        exact ⟨by simp [hbreak], hcur⟩
      show Text.fileLines.go
          ((indentLines unit [e] (Text.fileLines.go [] (c :: cur))).flatMap String.toList) [] = _
      rw [hgo]
      simp only [indentLines, List.zipWith_cons_cons, List.zipWith_nil_left, List.flatMap_cons,
        List.flatMap_nil, List.append_nil, toList_indentLine, String.toList_ofList]
      rw [Text.fileLines_go_last hnl [] (by simp)]
      simp only [List.reverse_nil, List.nil_append, List.cons.injEq, and_true]
      apply String.toList_injective
      simp [toList_indentLine]
  | cons c cs ih =>
    intro cur es hcur hlen
    by_cases hn : c = '\n'
    · subst hn
      rw [Text.fileLines_go_newline] at hlen ⊢
      obtain ⟨e, es, rfl⟩ := List.exists_cons_of_length_eq_add_one hlen
      have hnl : '\n' ∉ (List.replicate e unit.toList).flatten ++ cur.reverse := by
        rw [List.mem_append, List.mem_reverse, not_or]
        exact ⟨by simp [hbreak], hcur⟩
      simp only [indentLines_cons, List.flatMap_cons, toList_indentLine, String.toList_ofList,
        List.reverse_cons, List.append_assoc, List.singleton_append]
      rw [← List.append_assoc, Text.fileLines_go_line hnl, ih [] es (by simp) (Nat.succ.inj hlen)]
      simp only [List.reverse_nil, List.nil_append, List.cons.injEq, and_true]
      apply String.toList_injective
      simp [toList_indentLine]
    · rw [Text.fileLines_go_char hn] at hlen ⊢
      exact ih (c :: cur) es (by simp [Ne.symm hn, hcur]) hlen

/-- Indenting lines without carriage returns by a unit without them adds none. -/
theorem cr_not_mem_indentLines {unit : String} (hunit : '\r' ∉ unit.toList) (es : List Nat)
    (lines : List String) (hlines : ∀ l ∈ lines, '\r' ∉ l.toList) :
    '\r' ∉ (indentLines unit es lines).flatMap String.toList := by
  induction lines generalizing es with
  | nil => simp [indentLines]
  | cons line lines ih =>
    cases es with
    | nil => simp [indentLines]
    | cons e es =>
      rw [indentLines_cons, List.flatMap_cons, toList_indentLine, List.mem_append,
        List.mem_append, not_or, not_or]
      exact ⟨⟨by simp [hunit], hlines line List.mem_cons_self⟩,
        ih es (fun l hl => hlines l (List.mem_cons_of_mem line hl))⟩

/-- Units that fit a line are all stripped from it, and nothing more. -/
theorem stripIndent_indentLine {unit line : String} {d e : Nat} (hbreak : '\n' ∉ unit.toList)
    (hfit : FitsIndent unit d line e) :
    stripIndent unit d (dropNewlines (indentLine unit e line)) = dropNewlines line := by
  -- the line holds no further unit once its newlines are dropped, as it held none before
  have hstop : e < d → ¬ unit.toList <+: (dropNewlines line).toList :=
    fun hlt hpre => hfit.2 hlt (hpre.trans (dropNewlines_prefix_self line))
  rw [indentLine, dropNewlines_append (newline_not_mem_replicate hbreak e), stripIndent,
    String.toList_append, toList_join_replicate, Int.toNat_natCast,
    stripIndentChars_replicate hfit.1 hstop, String.ofList_toList]

end MacroDoc.Markup

namespace MacroDoc.Engine

open Markup

/-- A line indented by units that fit it reads, with indents stripped, as the line itself
reads with indents kept. -/
theorem Layout.readAt_indentLine {layout : Layout} {piece : String} {count d e : Nat}
    {line : String} (hunit : layout.indentUnit = .text piece count)
    (hbreak : '\n' ∉ piece.toList)
    (hfit : FitsIndent (repeatedUnit piece count) d line e) :
    { layout with stripIndent := true }.readAt d (indentLine (repeatedUnit piece count) e line) =
      { layout with stripIndent := false }.readAt d line := by
  have hstripped := stripIndent_indentLine (newline_not_mem_repeatedUnit hbreak count) hfit
  have hkept : Markup.stripIndent (repeatedUnit piece count) 0
      (dropNewlines line) = dropNewlines line := by
    simp [Markup.stripIndent, stripIndentChars]
  simp only [Layout.readAt, hunit, if_true, Bool.false_eq_true, if_false, IndentUnit.read,
    LineInfo.readRepeated, stripIndentRepeated_eq, hstripped, hkept]

namespace Machine

variable {m : Machine}

/-- A step depends on the layout only through how it reads the line and whether it skips
empty lines. -/
theorem step_congr {l₁ l₂ : Layout} {x y : String}
    (hread : l₁.readAt m.frames.length x = l₂.readAt m.frames.length y)
    (hskip : l₁.skipEmpty = l₂.skipEmpty) :
    m.step l₁ x = m.step l₂ y := by
  have hread' : l₁.indentUnit.read (if l₁.stripIndent then (m.frames.length : Int) else 0)
      (dropNewlines x) =
        l₂.indentUnit.read (if l₂.stripIndent then (m.frames.length : Int) else 0)
          (dropNewlines y) := hread
  simp only [step, hread', hskip]

/-- The depths at which a reading reads its lines: the number of blocks open before each
line, up to the line where the reading ends or fails. -/
def depths (m : Machine) (layout : Layout) : List String → List Nat
  | [] => []
  | line :: rest => m.frames.length ::
    match m.step layout line with
    | .ok (.next m') => m'.depths layout rest
    | _ => []

/-- A reading that ends leaves the lines after those it read. -/
theorem run_rest {layout : Layout} {u : Option Fault} {lines rest : List String} {w : World}
    (h : m.run layout u lines = .ok (w, rest)) :
    (m.depths layout lines).length ≤ lines.length ∧
      rest = lines.drop (m.depths layout lines).length := by
  induction lines generalizing m with
  | nil =>
    cases u with
    | some f => simp [run] at h
    | none =>
      simp only [run, Except.ok.injEq, Prod.mk.injEq] at h
      simp [depths, h.2]
  | cons line lines ih =>
    simp only [run] at h
    cases hs : m.step layout line with
    | error e => simp [hs] at h
    | ok r =>
      cases r with
      | next m' =>
        simp only [hs] at h
        obtain ⟨hle, hrest⟩ := ih h
        simp [depths, hs, hle, hrest]
      | stop w' =>
        simp only [hs, Except.ok.injEq, Prod.mk.injEq] at h
        simp [depths, hs, h.2]

/-- Indenting the lines a reading reads as deep as it reads them does not change the
reading: it ends or fails where it did, and what is left is the rest of the indented lines. -/
theorem run_indentLines {layout : Layout} {piece : String} {count : Nat} {u : Option Fault}
    (hunit : layout.indentUnit = .text piece count) (hbreak : '\n' ∉ piece.toList)
    (hstrip : layout.stripIndent = false) {es : List Nat} {lines : List String}
    (hlen : es.length = lines.length)
    (hfit : ∀ p ∈ (m.depths layout lines).zip (es.zip lines),
      FitsIndent (repeatedUnit piece count) p.1 p.2.2 p.2.1) :
    m.run { layout with stripIndent := true } u (indentLines (repeatedUnit piece count) es lines) =
      (m.run layout u lines).map (fun r =>
        (r.1, indentLines (repeatedUnit piece count) (es.drop (lines.length - r.2.length)) r.2)) := by
  have hkept : { layout with stripIndent := false } = layout := by
    cases layout
    simp_all
  induction lines generalizing m es with
  | nil =>
    rw [List.length_nil, List.length_eq_zero_iff] at hlen
    subst hlen
    cases u <;> simp [run, indentLines, Except.map]
  | cons line lines ih =>
    obtain ⟨e, es, rfl⟩ := List.exists_cons_of_length_eq_add_one hlen
    have hhead : FitsIndent (repeatedUnit piece count) m.frames.length line e :=
      hfit (m.frames.length, e, line) (by simp [depths])
    have hread : { layout with stripIndent := true }.readAt m.frames.length
        (indentLine (repeatedUnit piece count) e line) = layout.readAt m.frames.length line := by
      rw [Layout.readAt_indentLine hunit hbreak hhead, hkept]
    have hstep : m.step { layout with stripIndent := true }
        (indentLine (repeatedUnit piece count) e line) = m.step layout line :=
      step_congr hread rfl
    rw [indentLines_cons, run, run, hstep]
    cases hs : m.step layout line with
    | error err => rfl
    | ok r =>
      cases r with
      | stop w => simp [Except.map]
      | next m' =>
        have htail : ∀ p ∈ (m'.depths layout lines).zip (es.zip lines),
            FitsIndent (repeatedUnit piece count) p.1 p.2.2 p.2.1 := by
          intro p hp
          exact hfit p (by simp [depths, hs, hp])
        dsimp only
        rw [ih (Nat.succ.inj hlen) htail]
        cases hr : m'.run layout u lines with
        | error err => rfl
        | ok r =>
          obtain ⟨w, rest⟩ := r
          -- the rest is a suffix of the lines, so the counts left are those after the line
          have hle : rest.length ≤ lines.length := by
            obtain ⟨_, hrest⟩ := run_rest hr
            simp [hrest]
          have hdrop : lines.length + 1 - rest.length = lines.length - rest.length + 1 := by
            omega
          simp [Except.map, hdrop]

end Machine

/-- What holds on pairing a list with a joined one holds on pairing it with each part, the
second part against what the first leaves. -/
theorem forall_mem_zip_append {α β : Type} {P : α × β → Prop} {A B : List α} {L : List β}
    (h : ∀ p ∈ (A ++ B).zip L, P p) :
    (∀ p ∈ A.zip L, P p) ∧ ∀ p ∈ B.zip (L.drop A.length), P p := by
  induction A generalizing L with
  | nil => exact ⟨by simp, by simpa using h⟩
  | cons a A ih =>
    cases L with
    | nil => simp
    | cons l L =>
      have hhead : P (a, l) := h (a, l) (by simp)
      obtain ⟨hA, hB⟩ := ih (L := L) (fun p hp => h p (by simp [hp]))
      refine ⟨?_, by simpa using hB⟩
      intro p hp
      rcases List.mem_cons.mp (by simpa using hp) with rfl | hp
      · exact hhead
      · exact hA p hp

/-- The depths at which a conversion from a world reads its lines, reading after reading:
each new document starts with no block open, and the lines after the last reading are not
read. It follows `readDocuments` step for step. -/
def Setup.readDepths (s : Setup) (fresh : Style.Sheet) (unreadable : Option Fault) :
    Nat → World → List String → List Nat
  | 0, _, _ => []
  | fuel + 1, w, lines =>
    let m : Machine := { world := w, calls := s.calls + 1 }
    m.depths s.layout lines ++
      match m.run s.layout unreadable lines with
      | .error _ => []
      | .ok (w, rest) =>
        match w.appendTarget with
        | none => []
        | some (shown, comps) =>
          match packageAt w.files shown comps with
          | .error _ => []
          | .ok _ =>
            s.readDepths fresh unreadable fuel
              { w with doc := { sheet := fresh }, sinks := [.body], sink := 0, macroName := none,
                       appendTarget := none } rest

/-- The depth at which the conversion of a source reads each line it reads, in order. -/
def Setup.lineDepths (s : Setup) (text : String) : List Nat :=
  match s.freshOrFail with
  | .error _ => []
  | .ok fresh =>
    let lines := Text.fileLines (Text.unifyNewlines text.toList)
    s.readDepths fresh none (lines.length + 1) (s.startWorld fresh) lines

/-- Indenting the lines of a conversion as deep as it reads them does not change the
conversion, reading after reading. -/
theorem readDocuments_indentLines {s : Setup} {piece : String} {count : Nat}
    (hunit : s.layout.indentUnit = .text piece count) (hbreak : '\n' ∉ piece.toList)
    (hstrip : s.layout.stripIndent = false) {fresh : Style.Sheet} {u : Option Fault}
    (fuel : Nat) :
    ∀ (w : World) (es : List Nat) (lines : List String), es.length = lines.length →
      (∀ p ∈ (s.readDepths fresh u fuel w lines).zip (es.zip lines),
        FitsIndent (repeatedUnit piece count) p.1 p.2.2 p.2.1) →
      readDocuments { s with layout := { s.layout with stripIndent := true } } fresh u fuel w
          (indentLines (repeatedUnit piece count) es lines) =
        readDocuments s fresh u fuel w lines := by
  induction fuel with
  | zero => intro w es lines _ _; rfl
  | succ fuel ih =>
    intro w es lines hlen hfit
    simp only [Setup.readDepths] at hfit
    obtain ⟨hseg, hnext⟩ := forall_mem_zip_append hfit
    have hrun := Machine.run_indentLines (m := { world := w, calls := s.calls + 1 }) (u := u)
      hunit hbreak hstrip hlen hseg
    simp only [readDocuments]
    rw [hrun]
    cases hr : ({ world := w, calls := s.calls + 1 } : Machine).run s.layout u lines with
    | error e => rfl
    | ok r =>
      obtain ⟨w', rest⟩ := r
      simp only [hr] at hnext
      obtain ⟨hle, hrest⟩ := Machine.run_rest hr
      -- the next reading starts where this one stopped, with the counts of the lines left
      have hk : lines.length - rest.length =
          (({ world := w, calls := s.calls + 1 } : Machine).depths s.layout lines).length := by
        rw [hrest, List.length_drop]
        omega
      have hzip : (es.zip lines).drop
          (({ world := w, calls := s.calls + 1 } : Machine).depths s.layout lines).length =
            (es.drop (lines.length - rest.length)).zip rest := by
        rw [hk, hrest]
        simp only [List.zip_eq_zipWith, List.drop_zipWith]
      have hlen' : (es.drop (lines.length - rest.length)).length = rest.length := by
        have hshort : rest.length ≤ lines.length := by
          rw [hrest, List.length_drop]
          omega
        rw [List.length_drop, hlen]
        omega
      simp only [Except.map]
      cases ht : w'.appendTarget with
      | none => rfl
      | some target =>
        obtain ⟨shown, comps⟩ := target
        simp only [ht] at hnext
        dsimp only
        cases hp : packageAt w'.files shown comps with
        | error f => rfl
        | ok appended =>
          simp only [hp, hzip] at hnext
          simp only [ih _ _ _ hlen' hnext]

/-- The lines of an indented source are the indented lines of the source, when the unit
holds no line break. -/
theorem fileLines_indentLines {piece : String} {count : Nat} (hlf : '\n' ∉ piece.toList)
    (hcr : '\r' ∉ piece.toList) {text : String} {es : List Nat}
    (hlen : es.length = (Text.fileLines (Text.unifyNewlines text.toList)).length) :
    Text.fileLines (Text.unifyNewlines
        (String.join (indentLines (repeatedUnit piece count) es
          (Text.fileLines (Text.unifyNewlines text.toList)))).toList) =
      indentLines (repeatedUnit piece count) es (Text.fileLines (Text.unifyNewlines text.toList)) := by
  have hunitCr : '\r' ∉ (repeatedUnit piece count).toList := by
    simp [repeatedUnit, String.toList_join, List.flatMap_replicate, hcr]
  have hlinesCr : ∀ l ∈ Text.fileLines (Text.unifyNewlines text.toList), '\r' ∉ l.toList :=
    Text.cr_not_mem_fileLines_go (Text.cr_not_mem_unifyNewlines _) [] (by simp)
  rw [String.toList_join,
    Text.unifyNewlines_of_no_cr (cr_not_mem_indentLines hunitCr es _ hlinesCr)]
  exact fileLines_go_indentLines (newline_not_mem_repeatedUnit hlf count) _ [] es (by simp) hlen

/-- Indentation is cosmetic. Put in front of each line of a source as many units as there are
blocks open when its conversion, indents kept, reads the line, or fewer where the line does
not itself begin with the unit; lines the conversion does not read may have any number. With
a unit free of line breaks, the indented source converts with indents stripped exactly as the
source does with indents kept. -/
theorem convert_indented {s : Setup} {piece : String} {count : Nat} {text : String}
    {es : List Nat} (hunit : s.layout.indentUnit = .text piece count)
    (hlf : '\n' ∉ piece.toList) (hcr : '\r' ∉ piece.toList)
    (hstrip : s.layout.stripIndent = false)
    (hlen : es.length = (Text.fileLines (Text.unifyNewlines text.toList)).length)
    (hfit : ∀ p ∈ (s.lineDepths text).zip (es.zip (Text.fileLines (Text.unifyNewlines text.toList))),
      FitsIndent (repeatedUnit piece count) p.1 p.2.2 p.2.1) :
    convert { s with layout := { s.layout with stripIndent := true } }
        (String.join (indentLines (repeatedUnit piece count) es
          (Text.fileLines (Text.unifyNewlines text.toList)))) =
      convert s text := by
  unfold convert
  rw [fileLines_indentLines hlf hcr hlen]
  have hfresh : ({ s with layout := { s.layout with stripIndent := true } } : Setup).freshOrFail =
      s.freshOrFail := rfl
  rw [hfresh]
  cases hf : s.freshOrFail with
  | error e => rfl
  | ok fresh =>
    simp only [Setup.lineDepths, hf] at hfit
    have hcount : (indentLines (repeatedUnit piece count) es
        (Text.fileLines (Text.unifyNewlines text.toList))).length =
          (Text.fileLines (Text.unifyNewlines text.toList)).length := by
      simp [indentLines, hlen]
    simp only [bind, Except.bind, hcount]
    exact readDocuments_indentLines hunit hlf hstrip _ (s.startWorld fresh) es _ hlen hfit

/-- A paragraph block indented by two spaces converts as it does unindented. -/
theorem convert_indented_paragraph :
    ({ indentUnit := .text " " 2 } : Layout).indentUnit = .text " " 2 ∧ '\n' ∉ " ".toList ∧
      '\r' ∉ " ".toList ∧ ({ indentUnit := .text " " 2 } : Layout).stripIndent = false ∧
      [0, 1, 0].length =
        (Text.fileLines (Text.unifyNewlines "(paragraph-styled Normal\nabc\n)\n".toList)).length ∧
      (∀ p ∈ (Setup.lineDepths ⟨{ indentUnit := .text " " 2 }, default, {}, 0⟩
          "(paragraph-styled Normal\nabc\n)\n").zip ([0, 1, 0].zip
            (Text.fileLines (Text.unifyNewlines "(paragraph-styled Normal\nabc\n)\n".toList))),
        FitsIndent (repeatedUnit " " 2) p.1 p.2.2 p.2.1) ∧
      convert ⟨{ indentUnit := .text " " 2, stripIndent := true }, default, {}, 0⟩
          (String.join (indentLines (repeatedUnit " " 2) [0, 1, 0]
            (Text.fileLines (Text.unifyNewlines "(paragraph-styled Normal\nabc\n)\n".toList)))) =
        convert ⟨{ indentUnit := .text " " 2 }, default, {}, 0⟩
          "(paragraph-styled Normal\nabc\n)\n" := by
  have hlen : [0, 1, 0].length =
      (Text.fileLines (Text.unifyNewlines "(paragraph-styled Normal\nabc\n)\n".toList)).length := by
    decide
  have hfit : ∀ p ∈ (Setup.lineDepths ⟨{ indentUnit := .text " " 2 }, default, {}, 0⟩
      "(paragraph-styled Normal\nabc\n)\n").zip ([0, 1, 0].zip
        (Text.fileLines (Text.unifyNewlines "(paragraph-styled Normal\nabc\n)\n".toList))),
      FitsIndent (repeatedUnit " " 2) p.1 p.2.2 p.2.1 := by
    decide +kernel
  have hmain := @convert_indented ⟨{ indentUnit := .text " " 2 }, default, {}, 0⟩ " " 2
    "(paragraph-styled Normal\nabc\n)\n" [0, 1, 0] rfl (by decide) (by decide) rfl hlen hfit
  exact ⟨rfl, by decide, by decide, rfl, hlen, hfit, hmain⟩

/-- A unit that is a line feed does change the conversion: indenting the text of a paragraph
block by it puts a line of its own before the text, and the paragraph gets a line break the
source does not give it. -/
theorem convert_indent_break :
    ({ indentUnit := .text "\n" 1 } : Layout).stripIndent = false ∧
      [0, 1, 0].length =
        (Text.fileLines (Text.unifyNewlines "(paragraph-styled Normal\nabc\n)\n".toList)).length ∧
      (∀ p ∈ (Setup.lineDepths ⟨{ indentUnit := .text "\n" 1 }, default, {}, 0⟩
          "(paragraph-styled Normal\nabc\n)\n").zip ([0, 1, 0].zip
            (Text.fileLines (Text.unifyNewlines "(paragraph-styled Normal\nabc\n)\n".toList))),
        FitsIndent (repeatedUnit "\n" 1) p.1 p.2.2 p.2.1) ∧
      String.join (indentLines (repeatedUnit "\n" 1) [0, 1, 0]
          (Text.fileLines (Text.unifyNewlines "(paragraph-styled Normal\nabc\n)\n".toList))) =
        "(paragraph-styled Normal\n\nabc\n)\n" ∧
      convert ⟨{ indentUnit := .text "\n" 1, stripIndent := true }, default, {}, 0⟩
          "(paragraph-styled Normal\n\nabc\n)\n" ≠
        convert ⟨{ indentUnit := .text "\n" 1 }, default, {}, 0⟩
          "(paragraph-styled Normal\nabc\n)\n" := by
  refine ⟨rfl, by decide, by decide +kernel, by decide +kernel, ?_⟩
  -- the two conversions give the paragraph different contents
  intro h
  have hitems := congrArg (fun r : Except Failure Result => match r with
    | .ok r =>
      (r.docs.flatMap (fun d : Document.Doc => d.body.flatMap Document.Block.paragraphs)).flatMap
        (fun p : Document.Paragraph => p.runs.flatMap Document.Run.items)
    | .error _ => []) h
  revert hitems
  decide +kernel

end MacroDoc.Engine
