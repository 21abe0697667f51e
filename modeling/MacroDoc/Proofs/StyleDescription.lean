import MacroDoc.Style.Describe
import MacroDoc.Style.Load
import MacroDoc.Proofs.AppendRequest

/-!
# Loading a style's description back

A style is described as a data value in the terms of a style file (`describe`), and a style
file is loaded entry by entry (`loadFields`). The two do not agree. Loading back the
description of a style, under a name the sheet does not have yet:

* is refused for a character style: its description always gives a font, and a character
  style takes a font only through a name that is never defined;
* is refused for a paragraph style without an alignment: the description gives the
  alignment as null, and null names no member;
* is refused for a paragraph style with space before or after: the description gives the
  space in centimetres, and the space is set from a whole number of EMU only;
* makes a style that always has a line spacing: a new paragraph style starts with one and a
  half lines, so a style that had none comes back with another description.

## Main results

* `Style.loadParaFields_error_of_mem`: the settings of a paragraph style are refused when one
  of them always is.
* `Style.loadParaFields_set`: loading settings changes only the style loaded into, and
  settings other than the line spacing keep it.
* `Style.Loaded.loadFields_paraDescription_ok`: a description that loads adds one style.
* `Style.Loaded.loadFields_alignedDescription`: a style with nothing set but an alignment
  loads back.
* `Style.Loaded.load_description`: what loading a description back does.
-/

namespace MacroDoc.Style

open Json

/-! ### The entries of a description -/

theorem mem_optionalField {α : Type} {key : String} {describe : α → Value} {x : Option α}
    {p : String × Value} :
    p ∈ optionalField key describe x ↔ ∃ a, x = some a ∧ p = (key, describe a) := by
  cases x <;> simp [optionalField]

theorem mem_alignmentField {j : Option Justification} {p : String × Value}
    (h : p ∈ alignmentField j) : p.1 = "alignment" := by
  cases j with
  | none =>
    simp only [alignmentField, List.mem_singleton] at h
    rw [h]
  | some j =>
    cases j with
    | known a =>
      simp only [alignmentField, List.mem_singleton] at h
      rw [h]
    | other w => simp [alignmentField] at h

/-- What the description of a paragraph style holds: `is_paragraph` first and nowhere else,
the alignment as null when it is absent, the spaces and the line spacing when they are set,
and a line spacing only then; no entry sets the line rule. -/
theorem Definition.describePara_ok {s : Definition} {sheet : Sheet} {v : Value}
    (h : s.describePara sheet = .ok v) :
    ∃ rest, v = .obj (("is_paragraph", .bool true) :: rest) ∧
      (∀ p ∈ rest, p.1 ≠ "is_paragraph" ∧ p.1 ≠ "line_spacing_rule" ∧
        (p.1 = "line_spacing" → s.para.lineSpacing.isSome)) ∧
      (s.para.alignment = none → ("alignment", .null) ∈ rest) ∧
      (∀ e, s.para.spaceBefore = some e → ("space_before", cmValue e) ∈ rest) ∧
      (∀ e, s.para.spaceAfter = some e → ("space_after", cmValue e) ∈ rest) ∧
      (∀ ls, s.para.lineSpacing = some ls → ("line_spacing", ls.describe) ∈ rest) := by
  simp only [Definition.describePara, MacroDoc.Except.bind_eq_ok, MacroDoc.Except.pure_eq_ok]
    at h
  obtain ⟨-, -, base, -, -, -, rfl⟩ := h
  simp only [List.singleton_append, List.append_assoc]
  refine ⟨_, rfl, ?_, ?_, ?_, ?_, ?_⟩
  · -- every entry but the alignment's comes from `optionalField` under its own key
    intro p hp
    simp only [List.append_eq, List.mem_append, mem_optionalField, List.mem_singleton] at hp
    rcases hp with ⟨a, -, rfl⟩ | ⟨a, -, rfl⟩ | ⟨a, ha, rfl⟩ | ⟨a, -, rfl⟩ | ⟨a, -, rfl⟩ |
      ⟨a, -, rfl⟩ | hp | rfl
    · simp
    · simp
    · simp [ha]
    · simp
    · simp
    · simp
    · simp [mem_alignmentField hp]
    · simp
  · intro ha
    simp [ha, alignmentField]
  · intro e he
    simp [he, optionalField]
  · intro e he
    simp [he, optionalField]
  · intro ls hls
    simp [hls, optionalField]

/-- The description of a character style: not a paragraph style, and its font. -/
theorem Definition.describeChar_ok {s : Definition} {v : Value} (h : s.describeChar = .ok v) :
    v = .obj [("is_paragraph", .bool false), ("font", s.font.describe)] := by
  simp only [Definition.describeChar, MacroDoc.Except.bind_eq_ok, MacroDoc.Except.pure_eq_ok]
    at h
  obtain ⟨-, -, rfl⟩ := h
  rfl

/-- A style that can be described is a character style, described as one, or a style with
a paragraph format, described as a paragraph style. -/
theorem Definition.describe_ok {s : Definition} {sheet : Sheet} {v : Value}
    (h : s.describe sheet = .ok v) :
    (s.kind = .character ∧ v = .obj [("is_paragraph", .bool false), ("font", s.font.describe)]) ∨
      (s.kind ≠ .character ∧ s.describePara sheet = .ok v) := by
  unfold Definition.describe at h
  cases hk : s.kind with
  | paragraph | table =>
    rw [hk] at h
    exact .inr ⟨by simp, h⟩
  | character =>
    rw [hk] at h
    exact .inl ⟨rfl, Definition.describeChar_ok h⟩
  | numbering =>
    rw [hk] at h
    cases h

/-! ### Loading an entry -/

/-- The fault met loading a font into a character style: the style it would go to is a name
that is never defined. -/
def undefinedStyle : Fault := ⟨.undefinedName, "name 'style' is not defined"⟩

/-- One entry under a name that is no prefix key and no style's name is loaded as a style. -/
theorem Loaded.loadFields_single {l : Loaded} {n : String} {v : Value}
    (hkey : isPrefixKey n = false) (hnamed : l.sheet.contains n = false) :
    l.loadFields false [(n, v)] =
      (loadStyle l.sheet (.str n) v).map fun r => { l with sheet := r.1 } := by
  simp only [Loaded.loadFields, hkey, hnamed, Bool.false_and, Bool.false_eq_true, if_false]
  cases loadStyle l.sheet (.str n) v with
  | error e => rfl
  | ok r => rfl

/-- The description of a character style is refused: it gives a font. -/
theorem loadStyle_charDescription (sheet : Sheet) (key : Value) (font : Value) :
    loadStyle sheet key (.obj [("is_paragraph", .bool false), ("font", font)]) =
      .error undefinedStyle := by
  simp [loadStyle, Value.lookup, Value.removeIn, paragraphKey, Value.truthy, loadCharFields,
    undefinedStyle, bind, Except.bind]

/-- The description of a paragraph style makes or finds the style its key names, and loads
the other entries into it in order. -/
theorem loadStyle_paraDescription (sheet : Sheet) (key : Value) {rest : List (String × Value)}
    (hrest : ∀ p ∈ rest, p.1 ≠ "is_paragraph") :
    loadStyle sheet key (.obj (("is_paragraph", .bool true) :: rest)) = do
      let (sheet, i) ← paraStyleFor sheet key
      let sheet ← loadParaFields sheet i rest
      return (sheet, .obj rest) := by
  have hkeep : Value.removeIn paragraphKey rest = rest :=
    List.filter_eq_self.mpr fun p hp => by simpa [paragraphKey] using (hrest p hp)
  simp only [paragraphKey, Value.removeIn] at hkeep
  simp [loadStyle, Value.lookup, paragraphKey, Value.removeIn, hkeep, Value.truthy]

/-- A key that finds no style makes a new paragraph style at the end of the sheet. -/
theorem paraStyleFor_new {sheet : Sheet} {n : String} (h : sheet.lookup n = .ok none) :
    paraStyleFor sheet (.str n) = .ok (sheet ++ [newParaStyle n], sheet.length) := by
  simp only [paraStyleFor, bind, Except.bind]
  rw [show (Value.str n).shown = n from rfl, h]

/-! ### Loading the settings of a paragraph style -/

/-- Setting an indent leaves the line spacing as it was. -/
theorem ParaFormat.setIndent_line {p p' : ParaFormat} {field : String} {emu : Int}
    (h : p.setIndent field emu = .ok p') : p'.line = p.line ∧ p'.lineRule = p.lineRule := by
  unfold ParaFormat.setIndent at h
  split at h
  · -- a negative first-line indent hangs the paragraph instead
    simp only [ParaFormat.setFirstLineIndent] at h
    split at h
    all_goals
      simp only [MacroDoc.Except.bind_eq_ok, MacroDoc.Except.pure_eq_ok] at h
      obtain ⟨_, _, rfl⟩ := h
      exact ⟨rfl, rfl⟩
  · simp only [ParaFormat.setLeftIndent, MacroDoc.Except.bind_eq_ok,
      MacroDoc.Except.pure_eq_ok] at h
    obtain ⟨_, _, rfl⟩ := h
    exact ⟨rfl, rfl⟩
  · simp only [ParaFormat.setRightIndent, MacroDoc.Except.bind_eq_ok,
      MacroDoc.Except.pure_eq_ok] at h
    obtain ⟨_, _, rfl⟩ := h
    exact ⟨rfl, rfl⟩
  · cases h

/-- Setting anything but the line spacing or its rule leaves the line spacing as it was. -/
theorem ParaFormat.assign_line {p p' : ParaFormat} {field : String} {v : Value}
    (hspacing : field ≠ "line_spacing") (hrule : field ≠ "line_spacing_rule")
    (h : p.assign field v = .ok p') : p'.line = p.line ∧ p'.lineRule = p.lineRule := by
  unfold ParaFormat.assign at h
  split at h
  -- the line spacing and its rule are the two settings left out
  case h_2 => exact absurd rfl hspacing
  case h_3 => exact absurd rfl hrule
  -- the alignment, the spaces and the page break each set a field of their own
  case h_1 | h_4 | h_5 | h_6 =>
    simp only [MacroDoc.Except.bind_eq_ok, MacroDoc.Except.pure_eq_ok] at h
    obtain ⟨_, _, rfl⟩ := h
    exact ⟨rfl, rfl⟩
  -- the indents, cleared by null or set from a whole number
  case h_7 | h_8 | h_9 =>
    split at h
    · split at h
      · simp only [ParaFormat.setFirstLineIndent, Except.ok.injEq] at h
        subst h
        exact ⟨rfl, rfl⟩
      · split at h
        · simp only [ParaFormat.setLeftIndent, Except.ok.injEq] at h
          subst h
          exact ⟨rfl, rfl⟩
        · simp only [ParaFormat.setRightIndent, Except.ok.injEq] at h
          subst h
          exact ⟨rfl, rfl⟩
    · simp only [MacroDoc.Except.bind_eq_ok] at h
      obtain ⟨_, _, h⟩ := h
      exact ParaFormat.setIndent_line h
  -- anything else is checked, and the format left as it was
  case h_10 =>
    split at h
    · cases hs : switchSetting v <;> simp [hs, Except.map] at h
      subst h
      exact ⟨rfl, rfl⟩
    · split at h
      · cases h
      · cases hs : paraObject.setOther field v <;> simp [hs, Except.map] at h
        subst h
        exact ⟨rfl, rfl⟩

/-- A change of the paragraph format, where the style has one. -/
theorem withPara_ok {d d' : Definition} {change : ParaFormat → Except Fault ParaFormat}
    (h : withPara d change = .ok d') : ∃ p, change d.para = .ok p ∧ d' = { d with para := p } := by
  unfold withPara at h
  split at h
  · simp only [MacroDoc.Except.bind_eq_ok, MacroDoc.Except.pure_eq_ok] at h
    obtain ⟨p, hp, rfl⟩ := h
    exact ⟨p, hp, rfl⟩
  · cases h

/-- A null alignment names no member, and is refused. -/
theorem loadParaField_alignment_null (sheet : Sheet) (d : Definition) :
    loadParaField sheet d "alignment" .null = .error (notAName .null) := by
  simp [loadParaField, memberOf, bind, Except.bind]

/-- A space given as a number of centimetres is refused: a space is a whole number of EMU. -/
theorem loadParaField_space_float (sheet : Sheet) (d : Definition) {field : String}
    (hfield : field = "space_before" ∨ field = "space_after") (x : Float) :
    ∃ f, loadParaField sheet d field (.float x) = .error f := by
  -- a space is a setting of the paragraph format, set from a whole number
  have hkeys : (field == "font") = false ∧ (field == "base_style") = false ∧
      (field == "alignment") = false ∧ field.endsWith "indent" = false := by
    rcases hfield with rfl | rfl <;> decide +kernel
  obtain ⟨h₁, h₂, h₃, h₄⟩ := hkeys
  have hassign : ∀ p : ParaFormat, ∃ f, p.assign field (.float x) = .error f := by
    intro p
    rcases hfield with rfl | rfl <;> exact ⟨_, rfl⟩
  simp only [loadParaField, h₁, h₂, h₃, h₄, Bool.false_eq_true, if_false]
  unfold withPara
  split
  · obtain ⟨f, hf⟩ := hassign d.para
    exact ⟨f, by simp only [hf]; rfl⟩
  · exact ⟨_, rfl⟩

/-- Loading a setting keeps the style's name and type, and its line spacing unless the
setting is the line spacing or its rule. -/
theorem loadParaField_keeps {sheet : Sheet} {d d' : Definition} {field : String} {v : Value}
    (h : loadParaField sheet d field v = .ok d') :
    d'.name = d.name ∧ d'.kind = d.kind ∧
      (field ≠ "line_spacing" → field ≠ "line_spacing_rule" →
        d'.para.line = d.para.line ∧ d'.para.lineRule = d.para.lineRule) := by
  unfold loadParaField at h
  split at h
  · -- the font
    split at h
    · simp only [MacroDoc.Except.bind_eq_ok, MacroDoc.Except.pure_eq_ok] at h
      obtain ⟨_, _, rfl⟩ := h
      exact ⟨rfl, rfl, fun _ _ => ⟨rfl, rfl⟩⟩
    · cases h
  · split at h
    · -- the base style
      simp only [MacroDoc.Except.bind_eq_ok, MacroDoc.Except.pure_eq_ok] at h
      obtain ⟨_, _, rfl⟩ := h
      exact ⟨rfl, rfl, fun _ _ => ⟨rfl, rfl⟩⟩
    · split at h
      · -- the alignment
        simp only [MacroDoc.Except.bind_eq_ok] at h
        obtain ⟨_, _, h⟩ := h
        obtain ⟨_, hp, rfl⟩ := withPara_ok h
        cases hp
        exact ⟨rfl, rfl, fun _ _ => ⟨rfl, rfl⟩⟩
      · split at h
        · -- an indent, in centimetres
          split at h
          · simp only [MacroDoc.Except.bind_eq_ok] at h
            obtain ⟨_, _, h⟩ := h
            obtain ⟨_, hp, rfl⟩ := withPara_ok h
            exact ⟨rfl, rfl, fun _ _ => ParaFormat.setIndent_line hp⟩
          · cases h
        · -- any other setting of the paragraph format
          obtain ⟨_, hp, rfl⟩ := withPara_ok h
          exact ⟨rfl, rfl, fun hspacing hrule => ParaFormat.assign_line hspacing hrule hp⟩

/-- The settings of a paragraph style go on in order: a setting that loads leaves the style
in place for the rest. -/
theorem loadParaFields_cons_ok {sheet : Sheet} {i : Nat} {d d' : Definition} {field : String}
    {v : Value} (rest : List (String × Value)) (hd : sheet[i]? = some d)
    (h : loadParaField sheet d field v = .ok d') :
    loadParaFields sheet i ((field, v) :: rest) = loadParaFields (sheet.set i d') i rest := by
  simp only [loadParaFields, hd, h, bind, Except.bind]

/-- The settings of a paragraph style are refused when one of them is refused whatever the
style and the sheet, as long as the style is there to load them into. -/
theorem loadParaFields_error_of_mem {field : String} {v : Value}
    (hfail : ∀ sheet d, ∃ f, loadParaField sheet d field v = .error f)
    {fields : List (String × Value)} (hmem : (field, v) ∈ fields) :
    ∀ (sheet : Sheet) (i : Nat), i < sheet.length →
      ∃ f, loadParaFields sheet i fields = .error f := by
  induction fields with
  | nil => cases hmem
  | cons entry rest ih =>
    intro sheet i hi
    obtain ⟨field', v'⟩ := entry
    have hd : sheet[i]? = some sheet[i] := List.getElem?_eq_getElem hi
    rcases List.mem_cons.mp hmem with heq | hrest
    · -- the refused setting comes first
      cases heq
      obtain ⟨f, hf⟩ := hfail sheet sheet[i]
      exact ⟨f, by simp [loadParaFields, hd, hf, bind, Except.bind]⟩
    · -- a setting before it is refused, or leaves the style in place for the rest
      cases hfield : loadParaField sheet sheet[i] field' v' with
      | error f => exact ⟨f, by simp [loadParaFields, hd, hfield, bind, Except.bind]⟩
      | ok d =>
        obtain ⟨f, hf⟩ := ih hrest (sheet.set i d) i (by simpa using hi)
        exact ⟨f, by rw [loadParaFields_cons_ok rest hd hfield, hf]⟩

/-- Loading the settings of a paragraph style changes only that style, and keeps its name
and type; it keeps its line spacing unless a setting is the line spacing or its rule. -/
theorem loadParaFields_set {fields : List (String × Value)} :
    ∀ {sheet sheet' : Sheet} {i : Nat} {d : Definition}, sheet[i]? = some d →
      loadParaFields sheet i fields = .ok sheet' →
      ∃ d', sheet' = sheet.set i d' ∧ d'.name = d.name ∧ d'.kind = d.kind ∧
        ((∀ p ∈ fields, p.1 ≠ "line_spacing" ∧ p.1 ≠ "line_spacing_rule") →
          d'.para.line = d.para.line ∧ d'.para.lineRule = d.para.lineRule) := by
  induction fields with
  | nil =>
    intro sheet sheet' i d hd h
    cases h
    obtain ⟨hi, rfl⟩ := List.getElem?_eq_some_iff.mp hd
    exact ⟨sheet[i], (List.set_getElem_self hi).symm, rfl, rfl, fun _ => ⟨rfl, rfl⟩⟩
  | cons entry rest ih =>
    intro sheet sheet' i d hd h
    obtain ⟨field, v⟩ := entry
    simp only [loadParaFields, hd, MacroDoc.Except.bind_eq_ok] at h
    obtain ⟨d₁, h₁, h⟩ := h
    have hi : i < sheet.length := (List.getElem?_eq_some_iff.mp hd).1
    obtain ⟨d', rfl, hname, hkind, hline⟩ :=
      ih (List.getElem?_set_self hi) h
    obtain ⟨hname₁, hkind₁, hkeep₁⟩ := loadParaField_keeps h₁
    refine ⟨d', List.set_set .., hname.trans hname₁, hkind.trans hkind₁, fun hno => ?_⟩
    obtain ⟨hspacing, hrule⟩ := hno (field, v) List.mem_cons_self
    obtain ⟨hline₁, hrule₁⟩ := hkeep₁ hspacing hrule
    obtain ⟨hline', hrule'⟩ := hline fun p hp => hno p (List.mem_cons_of_mem _ hp)
    exact ⟨hline'.trans hline₁, hrule'.trans hrule₁⟩

/-! ### Loading a description back -/

/-- A style with a line height has a line spacing. -/
theorem ParaFormat.lineSpacing_isSome {p : ParaFormat} (h : p.line.isSome) :
    p.lineSpacing.isSome := by
  simpa [ParaFormat.lineSpacing] using h

/-- A paragraph style is described by its paragraph format. -/
theorem Definition.describe_paragraph {t : Definition} {sheet : Sheet}
    (h : t.kind = .paragraph) : t.describe sheet = t.describePara sheet := by
  simp [Definition.describe, h]

/-- The description of a paragraph style under a new name is loaded as its entries into a
new style at the end of the sheet. -/
theorem Loaded.loadFields_paraDescription {l : Loaded} {n : String} {rest : List (String × Value)}
    (hkey : isPrefixKey n = false) (hnamed : l.sheet.contains n = false)
    (hfound : l.sheet.lookup n = .ok none) (hrest : ∀ p ∈ rest, p.1 ≠ "is_paragraph") :
    l.loadFields false [(n, .obj (("is_paragraph", .bool true) :: rest))] =
      (loadParaFields (l.sheet ++ [newParaStyle n]) l.sheet.length rest).map
        fun sheet => { l with sheet } := by
  rw [Loaded.loadFields_single hkey hnamed, loadStyle_paraDescription _ _ hrest,
    paraStyleFor_new hfound]
  simp only [bind, Except.bind]
  cases loadParaFields (l.sheet ++ [newParaStyle n]) l.sheet.length rest <;> rfl

/-- A description of a paragraph style that loads under a new name adds one paragraph style
of that name at the end of the sheet. It keeps the one and a half lines a new style starts
with unless an entry sets the line spacing or its rule. -/
theorem Loaded.loadFields_paraDescription_ok {l l' : Loaded} {n : String}
    {rest : List (String × Value)} (hkey : isPrefixKey n = false)
    (hnamed : l.sheet.contains n = false) (hfound : l.sheet.lookup n = .ok none)
    (hrest : ∀ p ∈ rest, p.1 ≠ "is_paragraph")
    (h : l.loadFields false [(n, .obj (("is_paragraph", .bool true) :: rest))] = .ok l') :
    ∃ t, l'.sheet = l.sheet ++ [t] ∧ t.kind = .paragraph ∧ t.name = storedName n ∧
      ((∀ p ∈ rest, p.1 ≠ "line_spacing" ∧ p.1 ≠ "line_spacing_rule") →
        t.para.line = some 360 ∧ t.para.lineRule = some .multiple) := by
  rw [Loaded.loadFields_paraDescription hkey hnamed hfound hrest] at h
  cases hload : loadParaFields (l.sheet ++ [newParaStyle n]) l.sheet.length rest with
  | error f => rw [hload] at h; cases h
  | ok sheet' =>
    rw [hload] at h
    cases h
    have hnew : (l.sheet ++ [newParaStyle n])[l.sheet.length]? = some (newParaStyle n) := by simp
    obtain ⟨t, rfl, hname, hkind, hline⟩ := loadParaFields_set hnew hload
    have hset : (l.sheet ++ [newParaStyle n]).set l.sheet.length t = l.sheet ++ [t] := by
      simp [List.set_append_right]
    exact ⟨t, hset, hkind, hname, hline⟩

/-- A paragraph style with a line height is described with a line spacing, so its description
is none of those without one. -/
theorem Definition.describe_ne_of_line {t : Definition} {sheet : Sheet} {v : Value}
    {rest : List (String × Value)} (hkind : t.kind = .paragraph) (hline : t.para.line.isSome)
    (hrest : ∀ p ∈ rest, p.1 ≠ "line_spacing") (h : t.describe sheet = .ok v) :
    v ≠ .obj (("is_paragraph", .bool true) :: rest) := by
  rw [Definition.describe_paragraph hkind] at h
  obtain ⟨rest', rfl, -, -, -, -, hls'⟩ := Definition.describePara_ok h
  obtain ⟨ls, hls⟩ := Option.isSome_iff_exists.mp (ParaFormat.lineSpacing_isSome hline)
  intro heq
  simp only [Value.obj.injEq, List.cons.injEq, true_and] at heq
  exact hrest _ (heq ▸ hls' ls hls) rfl

/-! ### Loading an aligned style -/

/-- The name of an alignment finds that alignment. -/
theorem memberOf_alignment_name (a : Alignment) :
    memberOf alignmentClass Alignment.ofCode? (.str a.name) = .ok (some a) := by
  have h : (memberOf alignmentClass Alignment.ofCode? (.str a.name)).toOption = some (some a) := by
    cases a <;> decide +kernel
  exact Except.eq_ok_of_toOption h

/-- An alignment given by its name is set on a style with a paragraph format. -/
theorem loadParaField_alignment_name (sheet : Sheet) {d : Definition} (a : Alignment)
    (hd : d.kind.hasParagraphFormat = true) :
    loadParaField sheet d "alignment" (.str a.name) =
      .ok { d with para := { d.para with alignment := some (.known a) } } := by
  simp [loadParaField, memberOf_alignment_name, withPara, hd, bind, Except.bind, pure, Except.pure]

/-- A font with a null typeface clears the typeface of a style with a font. -/
theorem loadParaField_font_nameless (sheet : Sheet) {d : Definition}
    (hd : d.kind.hasFont = true) :
    loadParaField sheet d "font" (.obj [("name", .null)]) =
      .ok { d with font := { d.font with name := none } } := by
  simp [loadParaField, hd, loadFont, loadFontFields, loadFontField, Font.assign, Font.setName,
    bind, Except.bind, pure, Except.pure]

/-- The description of a paragraph style with nothing set but an alignment. -/
def alignedDescription (a : Alignment) : Value :=
  .obj [("is_paragraph", .bool true), ("alignment", .str a.name), ("font", .obj [("name", .null)])]

/-- A style with nothing set but an alignment, and no base, is described by its alignment and
a font without a typeface. -/
theorem Definition.describePara_aligned {s : Definition} {sheet : Sheet} {v : Value}
    {a : Alignment} (hpara : s.para = { alignment := some (.known a) }) (hfont : s.font = {})
    (hbase : s.basedOn = none) (h : s.describePara sheet = .ok v) :
    v = alignedDescription a := by
  simp only [Definition.describePara, Sheet.baseName, hbase, MacroDoc.Except.bind_eq_ok,
    MacroDoc.Except.pure_eq_ok] at h
  obtain ⟨-, -, base, hb, -, -, rfl⟩ := h
  cases hb
  -- every other setting of the format and of the font is unset, so gives no entry
  rw [hpara, hfont]
  rfl

/-- The description of an aligned style loads under a new name, as a new paragraph style
with that alignment and the one and a half lines every new style starts with. -/
theorem Loaded.loadFields_alignedDescription {l : Loaded} {n : String} (a : Alignment)
    (hkey : isPrefixKey n = false) (hnamed : l.sheet.contains n = false)
    (hfound : l.sheet.lookup n = .ok none) :
    l.loadFields false [(n, alignedDescription a)] =
      .ok { l with sheet := l.sheet ++
        [{ newParaStyle n with
            para := { (newParaStyle n).para with alignment := some (.known a) } }] } := by
  rw [alignedDescription, Loaded.loadFields_paraDescription hkey hnamed hfound (by simp)]
  -- the alignment is set on the new style, then its font is left without a typeface
  have hnew : (l.sheet ++ [newParaStyle n])[l.sheet.length]? = some (newParaStyle n) := by simp
  rw [loadParaFields_cons_ok _ hnew (loadParaField_alignment_name _ a rfl),
    List.set_append_right _ _ (Nat.le_refl _), Nat.sub_self]
  rw [loadParaFields_cons_ok _ (by simp) (loadParaField_font_nameless _ (d := { newParaStyle n with
    para := { (newParaStyle n).para with alignment := some (.known a) } }) rfl)]
  simp [loadParaFields, List.set_append_right, newParaStyle, Except.map]

/-! ### The round trip -/

/-- What loading back the description of a style under a new name does. A character style
is refused; so is a paragraph style without an alignment, or with space before or after it.
Otherwise one paragraph style is added under that name, and if the style had no line
spacing the new one has one and a half lines, so that it is described otherwise. A style with
nothing set but an alignment does load back. -/
theorem Loaded.load_description {l : Loaded} {source : Sheet} {s : Definition} {n : String}
    {v : Value} (hdesc : s.describe source = .ok v) (hkey : isPrefixKey n = false)
    (hnamed : l.sheet.contains n = false) (hfound : l.sheet.lookup n = .ok none) :
    (s.kind = .character → l.loadFields false [(n, v)] = .error undefinedStyle) ∧
    (s.para.alignment = none → ∃ f, l.loadFields false [(n, v)] = .error f) ∧
    (s.para.spaceBefore.isSome ∨ s.para.spaceAfter.isSome →
      ∃ f, l.loadFields false [(n, v)] = .error f) ∧
    (∀ l', l.loadFields false [(n, v)] = .ok l' →
      ∃ t, l'.sheet = l.sheet ++ [t] ∧ t.kind = .paragraph ∧ t.name = storedName n ∧
        (s.para.lineSpacing = none →
          t.para.line = some 360 ∧ t.para.lineRule = some .multiple ∧
          ∀ v', t.describe l'.sheet = .ok v' → v' ≠ v)) ∧
    (∀ a, s.kind ≠ .character → s.para = { alignment := some (.known a) } → s.font = {} →
      s.basedOn = none → ∃ l', l.loadFields false [(n, v)] = .ok l') := by
  rcases Definition.describe_ok hdesc with ⟨hk, rfl⟩ | ⟨hchar, hpara⟩
  case inl =>
    -- a character style: every outcome is the refusal of its font
    rw [Loaded.loadFields_single hkey hnamed, loadStyle_charDescription]
    exact ⟨fun _ => rfl, fun _ => ⟨_, rfl⟩, fun _ => ⟨_, rfl⟩, fun _ h => (by cases h),
      fun _ hchar => absurd hk hchar⟩
  case inr =>
  obtain ⟨rest, rfl, hrest, halign, hbefore, hafter, -⟩ := Definition.describePara_ok hpara
  have hnotFlag : ∀ p ∈ rest, p.1 ≠ "is_paragraph" := fun p hp => (hrest p hp).1
  -- an entry refused whatever the style refuses the whole description
  have hrefused : ∀ {field x}, (∀ sheet d, ∃ f, loadParaField sheet d field x = .error f) →
      (field, x) ∈ rest →
        ∃ f, l.loadFields false [(n, .obj (("is_paragraph", .bool true) :: rest))] = .error f := by
    intro field x hfail hmem
    obtain ⟨f, hf⟩ :=
      loadParaFields_error_of_mem hfail hmem (l.sheet ++ [newParaStyle n]) l.sheet.length (by simp)
    exact ⟨f, by rw [Loaded.loadFields_paraDescription hkey hnamed hfound hnotFlag, hf]; rfl⟩
  refine ⟨fun h => absurd h hchar, fun ha => ?_, fun hs => ?_, fun l' h => ?_,
    fun a _ hp hf hb => ?_⟩
  · -- the alignment is described as null
    exact hrefused (fun sheet d => ⟨_, loadParaField_alignment_null sheet d⟩) (halign ha)
  · -- a space is described in centimetres
    rcases hs with hs | hs
    · obtain ⟨e, he⟩ := Option.isSome_iff_exists.mp hs
      exact hrefused (fun sheet d => loadParaField_space_float sheet d (.inl rfl) _)
        (hbefore e he)
    · obtain ⟨e, he⟩ := Option.isSome_iff_exists.mp hs
      exact hrefused (fun sheet d => loadParaField_space_float sheet d (.inr rfl) _)
        (hafter e he)
  · -- a description that loads makes one new paragraph style
    obtain ⟨t, ht, hkind, hname, hline⟩ :=
      Loaded.loadFields_paraDescription_ok hkey hnamed hfound hnotFlag h
    refine ⟨t, ht, hkind, hname, fun hnone => ?_⟩
    -- without a line spacing the description has no entry for it or for its rule
    have hnoLine : ∀ p ∈ rest, p.1 ≠ "line_spacing" := fun p hp hls => by
      simpa [hnone] using (hrest p hp).2.2 hls
    obtain ⟨hline', hrule'⟩ := hline fun p hp => ⟨hnoLine p hp, (hrest p hp).2.1⟩
    exact ⟨hline', hrule', fun v' hv' =>
      Definition.describe_ne_of_line hkind (by rw [hline']; rfl) hnoLine hv'⟩
  · -- an aligned style is described by its alignment alone, which loads
    rw [Definition.describePara_aligned hp hf hb hpara]
    exact ⟨_, Loaded.loadFields_alignedDescription a hkey hnamed hfound⟩

/-- A left-aligned paragraph style with nothing else set. -/
def leftAligned : Definition :=
  { kind := .paragraph, styleId := "Plain", name := "Plain",
    para := { alignment := some (.known .left) } }

/-- A left-aligned style loads back, and comes back with a line spacing it did not have. -/
theorem left_aligned_reloaded_spaced : ∃ v l', leftAligned.describe [] = .ok v ∧
    ({ sheet := [], prefixes := default } : Loaded).loadFields false [("n", v)] = .ok l' ∧
    ∃ t, l'.sheet = [t] ∧ t.para.line = some 360 ∧ ∀ v', t.describe l'.sheet = .ok v' → v' ≠ v := by
  have hloads : ((leftAligned.describe []).toOption.bind fun v =>
      (({ sheet := [], prefixes := default } : Loaded).loadFields false [("n", v)]).toOption.map
        fun _ => ()) = some () := by
    decide +kernel
  simp only [Option.bind_eq_some_iff, Option.map_eq_some_iff] at hloads
  obtain ⟨v, hv, l', hl', -⟩ := hloads
  replace hv := Except.eq_ok_of_toOption hv
  replace hl' := Except.eq_ok_of_toOption hl'
  obtain ⟨-, -, -, hloaded, -⟩ := Loaded.load_description (l := { sheet := [], prefixes := default })
    (n := "n") hv (by decide +kernel) (by decide +kernel) rfl
  obtain ⟨t, ht, -, -, hspaced⟩ := hloaded l' hl'
  obtain ⟨hline, -, hdiffers⟩ := hspaced rfl
  exact ⟨v, l', hv, hl', t, ht, hline, hdiffers⟩

end MacroDoc.Style
