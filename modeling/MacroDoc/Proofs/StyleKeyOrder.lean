import MacroDoc.Proofs.StyleDescription

/-!
# The order of the keys of a style file

A style file's entries are loaded one after the other. Where its three prefix keys stand
among the entries does not matter: the prefixes are set to the last value given for each,
and the styles are the ones the style entries make, in their own order. The order of the
style entries themselves does matter, since a style's `base_style` is looked up among the
styles made so far.

Within a paragraph style's description, each key writes one setting of the style
(`Style.Setting.ofKey`): the font, the base style, the alignment, one of the indents, the
line spacing, the space before or after, whether a page break comes before, or nothing at
all. Whether a key is refused, and what it writes, depends only on the style's type and on
the value the setting has (`Style.Setting.Acts`); so two keys that write different settings
can be given in either order. The line spacing is one setting with two keys,
`line_spacing` and `line_spacing_rule`, and the later of the two wins. A `base_style` whose
name holds a double quote is the exception: it is looked up by a query on the stored
styles, and the query may read any setting.

## Main definitions

* `Style.Setting`, `Style.Setting.ofKey`: the setting a key of a description writes.
* `Style.Setting.Acts`: a change of a style that writes one setting only.

## Main results

* `Style.Setting.Acts.comm`: changes that write different settings commute.
* `Style.acts_loadParaField`: every key of a description writes the setting `ofKey` names.
* `Style.Loaded.loadFields_prefixes_apart`: the prefix keys are set apart from the styles.
* `Style.style_file_key_order`: the prefix keys may stand anywhere, and two keys of a
  paragraph style's description that write different settings may be swapped.
-/

namespace MacroDoc

/-- Computations that fail together, and agree where they succeed, go on alike. -/
theorem Except.toOption_bind_congr {ε α β : Type} {x y : Except ε α}
    (h : x.toOption = y.toOption) (f : α → Except ε β) :
    (x >>= f).toOption = (y >>= f).toOption := by
  cases x <;> cases y <;> simp_all [Except.toOption, bind, Except.bind]

/-- Computations that fail together, and go on alike from every value, give alike results. -/
theorem Except.toOption_map_bind_congr {ε α β γ : Type} {x y : Except ε α}
    {k₁ k₂ : α → Except ε β} {g : β → γ} (hx : x.toOption = y.toOption)
    (hk : ∀ a, ((k₁ a).map g).toOption = ((k₂ a).map g).toOption) :
    ((x >>= k₁).map g).toOption = ((y >>= k₂).map g).toOption := by
  cases x with
  | error e =>
    cases y with
    | error e' => rfl
    | ok b => cases hx
  | ok a =>
    cases y with
    | error e' => cases hx
    | ok b =>
      obtain rfl : a = b := Option.some.inj hx
      exact hk a

/-- Computations of pairs that fail together, and agree on the first component where they
succeed, go on alike into a step that reads only that component. -/
theorem Except.toOption_bind_fst_congr {ε α β γ : Type} {x y : Except ε (α × β)}
    (h : (x.map Prod.fst).toOption = (y.map Prod.fst).toOption) (k : α × β → Except ε γ)
    (hk : ∀ a b b', k (a, b) = k (a, b')) : (x >>= k).toOption = (y >>= k).toOption := by
  cases x with
  | error e =>
    cases y with
    | error e' => rfl
    | ok q => cases h
  | ok p =>
    cases y with
    | error e' => cases h
    | ok q =>
      obtain ⟨a, b⟩ := p
      obtain ⟨a', b'⟩ := q
      obtain rfl : a = a' := Option.some.inj h
      show (k (a, b)).toOption = (k (a, b')).toOption
      rw [hk]

end MacroDoc

namespace MacroDoc.Style

open Json

/-- The settings of a paragraph style that the keys of its description write. The font
comes with whether the colour follows the theme, which a font with a colour clears; the
first-line indent comes with the hanging indent, which it also sets; and the line spacing is
its height together with its rule. -/
inductive Setting
  | font
  | base
  | alignment
  | firstLine
  | left
  | right
  | lineSpacing
  | before
  | after
  | pageBreak
  | nothing
  deriving DecidableEq, Repr

namespace Setting

/-- The setting a key of the paragraph format writes, for a key that is not an indent. -/
def ofFormatKey (key : String) : Setting :=
  if key == "line_spacing" || key == "line_spacing_rule" then .lineSpacing
  else if key == "space_before" then .before
  else if key == "space_after" then .after
  else if key == "page_break_before" then .pageBreak
  else .nothing

/-- The setting a key of a paragraph style's description writes, read in the order the keys
are told apart when the style is loaded. -/
def ofKey (key : String) : Setting :=
  if key == "font" then .font
  else if key == "base_style" then .base
  else if key == "alignment" then .alignment
  else if key.endsWith "indent" then
    if key == "first_line_indent" then .firstLine
    else if key == "left_indent" then .left
    else if key == "right_indent" then .right
    else .nothing
  else ofFormatKey key

example : ofKey "line_spacing_rule" = ofKey "line_spacing" := by decide +kernel

/-- The values a setting takes. -/
def Part : Setting → Type
  | .font => Font × Option ThemeColor
  | .base => Option String
  | .alignment => Option Justification
  | .firstLine => Option Length × Option Length
  | .left | .right | .before | .after => Option Length
  | .lineSpacing => Option Length × Option LineRule
  | .pageBreak => Option Bool
  | .nothing => Unit

/-- The value a setting has in a style. -/
def get : (t : Setting) → Definition → t.Part
  | .font, s => (s.font, s.traits.themeColor)
  | .base, s => s.basedOn
  | .alignment, s => s.para.alignment
  | .firstLine, s => (s.para.firstLine, s.para.hanging)
  | .left, s => s.para.left
  | .right, s => s.para.right
  | .lineSpacing, s => (s.para.line, s.para.lineRule)
  | .before, s => s.para.before
  | .after, s => s.para.after
  | .pageBreak, s => s.para.pageBreakBefore
  | .nothing, _ => ()

/-- A style with a setting given a value, and all else as it was. -/
def put : (t : Setting) → t.Part → Definition → Definition
  | .font, x, s => { s with font := x.1, traits := { s.traits with themeColor := x.2 } }
  | .base, x, s => { s with basedOn := x }
  | .alignment, x, s => { s with para := { s.para with alignment := x } }
  | .firstLine, x, s => { s with para := { s.para with firstLine := x.1, hanging := x.2 } }
  | .left, x, s => { s with para := { s.para with left := x } }
  | .right, x, s => { s with para := { s.para with right := x } }
  | .lineSpacing, x, s => { s with para := { s.para with line := x.1, lineRule := x.2 } }
  | .before, x, s => { s with para := { s.para with before := x } }
  | .after, x, s => { s with para := { s.para with after := x } }
  | .pageBreak, x, s => { s with para := { s.para with pageBreakBefore := x } }
  | .nothing, _, s => s

/-- Two settings that do not share a value: different settings, or no setting at all. -/
def Apart (a b : Setting) : Prop := a ≠ b ∨ a = .nothing

variable {a b t : Setting} {s : Definition}

theorem Apart.symm (h : Apart a b) : Apart b a := by
  rcases h with h | rfl
  · exact .inl (Ne.symm h)
  · by_cases hb : b = .nothing
    · exact .inr hb
    · exact .inl hb

@[simp] theorem put_kind (x : t.Part) : (t.put x s).kind = s.kind := by
  cases t <;> rfl

@[simp] theorem put_name (x : t.Part) : (t.put x s).name = s.name := by
  cases t <;> rfl

@[simp] theorem put_styleId (x : t.Part) : (t.put x s).styleId = s.styleId := by
  cases t <;> rfl

@[simp] theorem put_nothing (x : Setting.nothing.Part) : Setting.nothing.put x s = s := rfl

/-- Giving one setting a value leaves every other setting as it was. -/
theorem get_put_of_apart (h : Apart a b) (x : b.Part) : a.get (b.put x s) = a.get s := by
  rcases h with h | rfl
  · -- a setting given a value of its own is ruled out; every other pair is apart by definition
    cases a <;> cases b <;> simp only [ne_eq, not_true_eq_false] at h <;> rfl
  · rfl

/-- Settings apart from each other may be given their values in either order. -/
theorem put_comm_of_apart (h : Apart a b) (x : a.Part) (y : b.Part) :
    a.put x (b.put y s) = b.put y (a.put x s) := by
  rcases h with h | rfl
  · cases a <;> cases b <;> simp only [ne_eq, not_true_eq_false] at h <;> rfl
  · rfl

/-- A change of a style that writes the setting `t` only: whether it is refused, and the
value it gives the setting, depend on nothing but the style's type and the value the setting
has. -/
def Acts (t : Setting) (op : Definition → Except Fault Definition) : Prop :=
  ∃ g : StyleKind → t.Part → Except Fault t.Part,
    ∀ s, op s = (g s.kind (t.get s)).map (t.put · s)

/-- Two changes that write settings apart from each other give the same style in either
order, and one order is refused exactly when the other is. -/
theorem Acts.comm {op₁ op₂ : Definition → Except Fault Definition} (h₁ : a.Acts op₁)
    (h₂ : b.Acts op₂) (hab : Apart a b) (s : Definition) :
    (op₁ s >>= op₂).toOption = (op₂ s >>= op₁).toOption := by
  obtain ⟨g₁, hg₁⟩ := h₁
  obtain ⟨g₂, hg₂⟩ := h₂
  -- after the one change, the other reads its own setting as it was before
  have hafter₁ :
      ∀ x, op₂ (a.put x s) = (g₂ s.kind (b.get s)).map (b.put · (a.put x s)) := by
    intro x
    rw [hg₂, put_kind, get_put_of_apart hab.symm]
  have hafter₂ :
      ∀ y, op₁ (b.put y s) = (g₁ s.kind (a.get s)).map (a.put · (b.put y s)) := by
    intro y
    rw [hg₁, put_kind, get_put_of_apart hab]
  rw [hg₁ s, hg₂ s]
  cases hx : g₁ s.kind (a.get s) with
  | error e =>
    cases hy : g₂ s.kind (b.get s) with
    | error e' => rfl
    | ok y =>
      show none = (op₁ (b.put y s)).toOption
      rw [hafter₂, hx]
      rfl
  | ok x =>
    cases hy : g₂ s.kind (b.get s) with
    | error e' =>
      show (op₂ (a.put x s)).toOption = none
      rw [hafter₁, hy]
      rfl
    | ok y =>
      show (op₂ (a.put x s)).toOption = (op₁ (b.put y s)).toOption
      rw [hafter₁, hafter₂, hx, hy]
      exact congrArg some (put_comm_of_apart hab x y).symm

end Setting

/-! ### What each key of a description writes -/

section Keys

variable {sheet : Sheet} {key : String} {v : Value}

/-- Whether a font value gives a colour: the style's colour then no longer follows the
theme. -/
def recolours : Value → Bool
  | .obj fields => fields.any (·.1 == "color")
  | _ => false

/-- Clearing the theme colour when a font recolours, as giving it a value. -/
theorem recolour_traits (r : Bool) (t : Traits) :
    (if r = true then { t with themeColor := none } else t) =
      { t with themeColor := if r = true then none else t.themeColor } := by
  cases r <;> rfl

/-- A change of the paragraph format, where the style has one, as a change of the style. -/
theorem withPara_eq (s : Definition) (change : ParaFormat → Except Fault ParaFormat) :
    withPara s change =
      if s.kind.hasParagraphFormat then (change s.para).map (fun p => { s with para := p })
      else .error (lacks s.kind "paragraph_format") := by
  unfold withPara
  split
  · cases change s.para <;> rfl
  · rfl

/-- A change of the paragraph format that writes one setting only writes it in the style. -/
theorem acts_withPara {t : Setting} {change : ParaFormat → Except Fault ParaFormat}
    (gp : t.Part → Except Fault t.Part)
    (h : ∀ s : Definition,
      (change s.para).map (fun p => { s with para := p }) = (gp (t.get s)).map (t.put · s)) :
    t.Acts (fun s => withPara s change) := by
  refine ⟨fun kind x => if kind.hasParagraphFormat then gp x
    else .error (lacks kind "paragraph_format"), fun s => ?_⟩
  dsimp only
  rw [withPara_eq]
  by_cases hp : s.kind.hasParagraphFormat = true
  · rw [if_pos hp, if_pos hp]
    exact h s
  · rw [if_neg hp, if_neg hp]
    rfl

/-- The font key writes the font, and clears the theme colour when it gives a colour. -/
theorem acts_font : Setting.font.Acts (fun s => loadParaField sheet s "font" v) := by
  refine ⟨fun kind x => if kind.hasFont then
    (loadFont x.1 v).map (fun font => (font, if recolours v then none else x.2))
    else .error (lacks kind "font"), fun s => ?_⟩
  have hkey : ("font" == "font") = true := by decide +kernel
  simp only [loadParaField, if_pos hkey]
  dsimp only [Setting.get]
  by_cases hf : s.kind.hasFont = true
  · rw [if_pos hf, if_pos hf]
    cases loadFont s.font v with
    | error e => rfl
    | ok font =>
      -- the code's test for a colour is `recolours`
      show Except.ok { s with font, traits := if recolours v then
        { s.traits with themeColor := none } else s.traits } = _
      rw [recolour_traits]
      rfl
  · rw [if_neg hf, if_neg hf]
    rfl

/-- The base style key writes the base style, found among the styles of the sheet. -/
theorem acts_base : Setting.base.Acts (fun s => loadParaField sheet s "base_style" v) := by
  refine ⟨fun _ _ => (findKey sheet v).map (fun i => sheet[i]?.map (·.styleId)), fun s => ?_⟩
  have h₁ : ("base_style" == "font") = false := by decide +kernel
  have h₂ : ("base_style" == "base_style") = true := by decide +kernel
  simp only [loadParaField, h₁, h₂, Bool.false_eq_true, if_false, if_true]
  cases findKey sheet v <;> rfl

/-- The alignment key writes the alignment. -/
theorem acts_alignment : Setting.alignment.Acts (fun s => loadParaField sheet s "alignment" v) := by
  refine ⟨fun kind _ => do
    let a ← memberOf alignmentClass Alignment.ofCode? v
    if kind.hasParagraphFormat then .ok (a.map .known)
    else .error (lacks kind "paragraph_format"), fun s => ?_⟩
  have h₁ : ("alignment" == "font") = false := by decide +kernel
  have h₂ : ("alignment" == "base_style") = false := by decide +kernel
  have h₃ : ("alignment" == "alignment") = true := by decide +kernel
  simp only [loadParaField, h₁, h₂, h₃, Bool.false_eq_true, if_false, if_true]
  cases memberOf alignmentClass Alignment.ofCode? v with
  | error e => rfl
  | ok a =>
    simp only [bind, Except.bind]
    rw [withPara_eq]
    by_cases hp : s.kind.hasParagraphFormat = true
    · simp only [hp, if_true]
      rfl
    · simp only [hp, Bool.false_eq_true, if_false]
      rfl

/-- A key ending in `indent` writes the indent it names: the setting `t` that the paragraph
format's indent of that name writes. -/
theorem acts_indent (hfont : (key == "font") = false) (hbase : (key == "base_style") = false)
    (halign : (key == "alignment") = false) (hind : key.endsWith "indent" = true) {t : Setting}
    (gp : Int → Except Fault t.Part)
    (hset : ∀ (emu : Int) (s : Definition),
      (s.para.setIndent key emu).map (fun p => { s with para := p }) = (gp emu).map (t.put · s)) :
    t.Acts (fun s => loadParaField sheet s key v) := by
  refine ⟨fun kind _ => if kind.hasParagraphFormat then do gp (← LengthUnit.cm.scale v)
    else .error (lacks kind "paragraph_format"), fun s => ?_⟩
  simp only [loadParaField, hfont, hbase, halign, hind, Bool.false_eq_true, if_false, if_true]
  by_cases hp : s.kind.hasParagraphFormat = true
  · rw [if_pos hp, if_pos hp]
    cases LengthUnit.cm.scale v with
    | error e => rfl
    | ok emu =>
      simp only [bind, Except.bind]
      rw [withPara_eq, if_pos hp]
      exact hset emu s
  · rw [if_neg hp, if_neg hp]
    rfl

/-- The first-line indent writes the first-line and hanging indents, and reads neither. -/
theorem setIndent_firstLine (emu : Int) (s : Definition) :
    (s.para.setIndent "first_line_indent" emu).map (fun p => { s with para := p }) =
      ((({} : ParaFormat).setFirstLineIndent (some emu)).map fun q => (q.firstLine, q.hanging)).map
        (Setting.firstLine.put · s) := by
  show (s.para.setFirstLineIndent (some emu)).map _ = _
  unfold ParaFormat.setFirstLineIndent
  by_cases hneg : emu < 0
  · simp only [hneg, if_true]
    cases twipsInRange 0 unsignedMax (-emu) <;> rfl
  · simp only [hneg, if_false]
    cases twipsInRange 0 unsignedMax emu <;> rfl

/-- The left indent writes the left indent. -/
theorem setIndent_left (emu : Int) (s : Definition) :
    (s.para.setIndent "left_indent" emu).map (fun p => { s with para := p }) =
      ((twipsInRange signedMin signedMax emu).map fun t => some (.twips t)).map
        (Setting.left.put · s) := by
  show (s.para.setLeftIndent (some emu)).map _ = _
  simp only [ParaFormat.setLeftIndent]
  cases twipsInRange signedMin signedMax emu <;> rfl

/-- The right indent writes the right indent. -/
theorem setIndent_right (emu : Int) (s : Definition) :
    (s.para.setIndent "right_indent" emu).map (fun p => { s with para := p }) =
      ((twipsInRange signedMin signedMax emu).map fun t => some (.twips t)).map
        (Setting.right.put · s) := by
  show (s.para.setRightIndent (some emu)).map _ = _
  simp only [ParaFormat.setRightIndent]
  cases twipsInRange signedMin signedMax emu <;> rfl

/-- Any other indent is refused. -/
theorem setIndent_other (h₁ : key ≠ "first_line_indent") (h₂ : key ≠ "left_indent")
    (h₃ : key ≠ "right_indent") (emu : Int) (s : Definition) :
    (s.para.setIndent key emu).map (fun p => { s with para := p }) =
      (Except.error (Fault.noAttribute "ParagraphFormat" key)).map (Setting.nothing.put · s) := by
  unfold ParaFormat.setIndent
  split
  · exact absurd rfl h₁
  · exact absurd rfl h₂
  · exact absurd rfl h₃
  · rfl

/-- A key that is neither the font, the base style, the alignment nor an indent is a setting of
the paragraph format. -/
theorem loadParaField_format (hfont : (key == "font") = false)
    (hbase : (key == "base_style") = false) (halign : (key == "alignment") = false)
    (hind : key.endsWith "indent" = false) (s : Definition) :
    loadParaField sheet s key v = withPara s fun p => p.assign key v := by
  simp only [loadParaField, hfont, hbase, halign, hind, Bool.false_eq_true, if_false]

/-- The line spacing key writes the line spacing, height and rule, and reads neither. -/
theorem acts_lineSpacing :
    Setting.lineSpacing.Acts (fun s => withPara s fun p => p.assign "line_spacing" v) := by
  refine acts_withPara
    (fun _ => (({} : ParaFormat).setLineSpacing v).map fun q => (q.line, q.lineRule)) fun s => ?_
  show (s.para.setLineSpacing v).map _ = _
  unfold ParaFormat.setLineSpacing
  split
  · rfl
  · cases LengthUnit.singleLine.scale v with
    | error e => rfl
    | ok emu =>
      simp only [bind, Except.bind]
      cases twipsInRange signedMin signedMax emu <;> rfl

/-- The line spacing rule key writes the line spacing too: a rule by number sets the height
with it, and null clears the rule and keeps the height. -/
theorem acts_lineRule :
    Setting.lineSpacing.Acts (fun s => withPara s fun p => p.assign "line_spacing_rule" v) := by
  refine acts_withPara (fun x => (({ line := x.1, lineRule := x.2 } : ParaFormat).setLineRule v).map
    fun q => (q.line, q.lineRule)) fun s => ?_
  show (s.para.setLineRule v).map _ = _
  unfold ParaFormat.setLineRule
  dsimp only
  -- the rules by number, then null, then the kinds by number, then the refusal: each branch
  -- gives the same line spacing on both sides
  repeat (split; · rfl)
  rfl

/-- A key of the paragraph format that is set from a value alone writes its setting. -/
theorem acts_assign_of {t : Setting} (field : String) (setting : Except Fault t.Part)
    (hassign : ∀ s : Definition,
      (s.para.assign field v).map (fun p => { s with para := p }) = setting.map (t.put · s)) :
    t.Acts (fun s => withPara s fun p => p.assign field v) :=
  acts_withPara (fun _ => setting) hassign

/-- The space before writes the space before. -/
theorem acts_spaceBefore :
    Setting.before.Acts (fun s => withPara s fun p => p.assign "space_before" v) :=
  acts_assign_of "space_before" (ParaFormat.spacingSetting v) fun s => by
    show (ParaFormat.spacingSetting v >>= fun x => .ok { s.para with before := x }).map _ = _
    cases ParaFormat.spacingSetting v <;> rfl

/-- The space after writes the space after. -/
theorem acts_spaceAfter :
    Setting.after.Acts (fun s => withPara s fun p => p.assign "space_after" v) :=
  acts_assign_of "space_after" (ParaFormat.spacingSetting v) fun s => by
    show (ParaFormat.spacingSetting v >>= fun x => .ok { s.para with after := x }).map _ = _
    cases ParaFormat.spacingSetting v <;> rfl

/-- The page break key writes whether a page break comes before. -/
theorem acts_pageBreak :
    Setting.pageBreak.Acts (fun s => withPara s fun p => p.assign "page_break_before" v) :=
  acts_assign_of "page_break_before" (switchSetting v) fun s => by
    show (switchSetting v >>= fun x => .ok { s.para with pageBreakBefore := x }).map _ = _
    cases switchSetting v <;> rfl

/-- Any other key of the paragraph format writes nothing: it is checked, refused, or passed to
the format object, whatever the style holds. -/
theorem acts_assign_other (h₁ : key ≠ "alignment") (h₂ : key ≠ "line_spacing")
    (h₃ : key ≠ "line_spacing_rule") (h₄ : key ≠ "space_before")
    (h₅ : key ≠ "space_after") (h₆ : key ≠ "page_break_before")
    (h₇ : key ≠ "first_line_indent") (h₈ : key ≠ "left_indent")
    (h₉ : key ≠ "right_indent") :
    Setting.nothing.Acts (fun s => withPara s fun p => p.assign key v) := by
  refine acts_assign_of key
    (if otherParaSwitches.contains key then (switchSetting v).map fun _ => ()
    else if paraReadOnly.contains key then .error (noSetter "ParagraphFormat" key)
    else (paraObject.setOther key v).map fun _ => ()) fun s => ?_
  unfold ParaFormat.assign
  split
  · exact absurd rfl h₁
  · exact absurd rfl h₂
  · exact absurd rfl h₃
  · exact absurd rfl h₄
  · exact absurd rfl h₅
  · exact absurd rfl h₆
  · exact absurd rfl h₇
  · exact absurd rfl h₈
  · exact absurd rfl h₉
  · by_cases hswitch : otherParaSwitches.contains key = true
    · simp only [hswitch, if_true]
      cases switchSetting v <;> rfl
    · by_cases hread : paraReadOnly.contains key = true
      · simp only [hswitch, hread, Bool.false_eq_true, if_true, if_false]
        rfl
      · simp only [hswitch, hread, Bool.false_eq_true, if_false]
        cases paraObject.setOther key v <;> rfl

/-- A key that does not end in `indent` is no indent's name. -/
theorem ne_of_endsWith_indent {name : String} (hname : name.endsWith "indent" = true)
    (hind : key.endsWith "indent" = false) : key ≠ name := by
  rintro rfl
  rw [hname] at hind
  cases hind

/-- Every key of a paragraph style's description writes the setting `ofKey` names, and
nothing else. The keys are told apart in the order loading tells them apart. -/
theorem acts_loadParaField (sheet : Sheet) (key : String) (v : Value) :
    (Setting.ofKey key).Acts (fun s => loadParaField sheet s key v) := by
  unfold Setting.ofKey
  cases hfont : key == "font"
  case true =>
    obtain rfl := beq_iff_eq.mp hfont
    exact acts_font
  cases hbase : key == "base_style"
  case true =>
    obtain rfl := beq_iff_eq.mp hbase
    exact acts_base
  cases halign : key == "alignment"
  case true =>
    obtain rfl := beq_iff_eq.mp halign
    exact acts_alignment
  simp only [Bool.false_eq_true, if_false]
  cases hind : key.endsWith "indent"
  case true =>
    -- the three indents of the paragraph format, and any other name that is refused
    simp only [if_true]
    cases hfirst : key == "first_line_indent"
    case true =>
      obtain rfl := beq_iff_eq.mp hfirst
      exact acts_indent hfont hbase halign hind _ setIndent_firstLine
    cases hleft : key == "left_indent"
    case true =>
      obtain rfl := beq_iff_eq.mp hleft
      exact acts_indent hfont hbase halign hind _ setIndent_left
    cases hright : key == "right_indent"
    case true =>
      obtain rfl := beq_iff_eq.mp hright
      exact acts_indent hfont hbase halign hind _ setIndent_right
    simp only [Bool.false_eq_true, if_false]
    exact acts_indent hfont hbase halign hind _
      (setIndent_other (ne_of_beq_false hfirst) (ne_of_beq_false hleft) (ne_of_beq_false hright))
  case false =>
    simp only [Bool.false_eq_true, if_false, loadParaField_format hfont hbase halign hind]
    unfold Setting.ofFormatKey
    cases hspacing : key == "line_spacing"
    case true =>
      obtain rfl := beq_iff_eq.mp hspacing
      exact acts_lineSpacing
    cases hrule : key == "line_spacing_rule"
    case true =>
      obtain rfl := beq_iff_eq.mp hrule
      exact acts_lineRule
    cases hbefore : key == "space_before"
    case true =>
      obtain rfl := beq_iff_eq.mp hbefore
      exact acts_spaceBefore
    cases hafter : key == "space_after"
    case true =>
      obtain rfl := beq_iff_eq.mp hafter
      exact acts_spaceAfter
    cases hbreak : key == "page_break_before"
    case true =>
      obtain rfl := beq_iff_eq.mp hbreak
      exact acts_pageBreak
    simp only [Bool.or_false, Bool.false_eq_true, if_false]
    exact acts_assign_other (ne_of_beq_false halign) (ne_of_beq_false hspacing)
      (ne_of_beq_false hrule) (ne_of_beq_false hbefore) (ne_of_beq_false hafter)
      (ne_of_beq_false hbreak) (ne_of_endsWith_indent (by decide +kernel) hind)
      (ne_of_endsWith_indent (by decide +kernel) hind)
      (ne_of_endsWith_indent (by decide +kernel) hind)

end Keys

/-! ### A base style found by names and identifiers only -/

namespace Sheet

variable {sheet sheet' : Sheet}

/-- The names and identifiers of the styles of a sheet, in order: all that a lookup by a key
without a double quote reads. -/
def labels (sheet : Sheet) : List (String × String) :=
  sheet.map fun s => (s.name, s.styleId)

/-- A style changed in place keeps the labels of the sheet when it keeps its name and its
identifier. -/
theorem labels_set {i : Nat} {s s' : Definition} (hs : sheet[i]? = some s)
    (hname : s'.name = s.name) (hid : s'.styleId = s.styleId) :
    Sheet.labels (sheet.set i s') = sheet.labels := by
  obtain ⟨hi, rfl⟩ := List.getElem?_eq_some_iff.mp hs
  have hlen : i < (sheet.map fun s => (s.name, s.styleId)).length := by simpa using hi
  simp only [labels, List.map_set, hname, hid]
  simpa using List.set_getElem_self hlen

theorem indexOfName?_congr (h : sheet'.labels = sheet.labels) (n : String) :
    sheet'.indexOfName? n = sheet.indexOfName? n := by
  have hnames : sheet'.map (·.name) = sheet.map (·.name) := by
    simpa [labels, List.map_map, Function.comp_def] using congrArg (List.map Prod.fst) h
  have hmap : ∀ t : Sheet, t.indexOfName? n = (t.map (·.name)).findIdx? (· == n) := by
    intro t
    rw [List.findIdx?_map]
    rfl
  rw [hmap, hmap, hnames]

theorem indexOfId?_congr (h : sheet'.labels = sheet.labels) (n : String) :
    sheet'.indexOfId? n = sheet.indexOfId? n := by
  have hids : sheet'.map (·.styleId) = sheet.map (·.styleId) := by
    simpa [labels, List.map_map, Function.comp_def] using congrArg (List.map Prod.snd) h
  have hmap : ∀ t : Sheet, t.indexOfId? n = (t.map (·.styleId)).findIdx? (· == n) := by
    intro t
    rw [List.findIdx?_map]
    rfl
  rw [hmap, hmap, hids]

/-- A stored name holds a double quote only when the shown name does. -/
theorem storedName_contains_quote {key : String} (hq : key.toList.contains '"' = false) :
    (storedName key).toList.contains '"' = false := by
  unfold storedName
  cases hfind : nameAliases.find? (·.1 == key) with
  | none => exact hq
  | some entry =>
    have hstored : ∀ p ∈ nameAliases, p.2.toList.contains '"' = false := by decide +kernel
    exact hstored entry (List.mem_of_find?_eq_some hfind)

/-- A key without a double quote finds a style by names and identifiers only. -/
theorem lookup_congr (h : sheet'.labels = sheet.labels) {key : String}
    (hq : key.toList.contains '"' = false) : sheet'.lookup key = sheet.lookup key := by
  unfold lookup lookupId
  simp only [storedName_contains_quote hq, hq, Bool.false_eq_true, if_false,
    indexOfName?_congr h, indexOfId?_congr h]

end Sheet

section Labels

variable {sheet sheet' : Sheet} {key : String} {v : Value}

/-- A base style whose name holds no double quote is found by names and identifiers only. -/
theorem findKey_congr (h : sheet'.labels = sheet.labels)
    (hq : v.shown.toList.contains '"' = false) :
    findKey sheet' v = findKey sheet v := by
  unfold findKey
  cases v <;> simp only [Sheet.find, Sheet.lookup_congr h hq]

/-- The identifier at a position depends on the labels only. -/
theorem styleId_congr (h : sheet'.labels = sheet.labels) (i : Nat) :
    sheet'[i]?.map (·.styleId) = sheet[i]?.map (·.styleId) := by
  have := congrArg (fun L : List (String × String) => L[i]?.map Prod.snd) h
  simpa [Sheet.labels, List.getElem?_map, Option.map_map, Function.comp_def] using this

/-- A key reads nothing of the sheet but the labels, unless it is a base style whose name holds
a double quote. -/
theorem loadParaField_congr (h : sheet'.labels = sheet.labels)
    (hq : key = "base_style" → v.shown.toList.contains '"' = false) (s : Definition) :
    loadParaField sheet' s key v = loadParaField sheet s key v := by
  unfold loadParaField
  split
  · rfl
  · split
    · rename_i hbase
      rw [findKey_congr h (hq (beq_iff_eq.mp hbase))]
      simp only [styleId_congr h]
    · rfl

/-- A key keeps the name and the identifier of the style it changes. -/
theorem loadParaField_labels {s s' : Definition} (h : loadParaField sheet s key v = .ok s') :
    s'.name = s.name ∧ s'.styleId = s.styleId := by
  obtain ⟨g, hg⟩ := acts_loadParaField sheet key v
  have hs := hg s
  dsimp only at hs
  rw [hs] at h
  cases hx : g s.kind ((Setting.ofKey key).get s) with
  | error e =>
    rw [hx] at h
    cases h
  | ok x =>
    rw [hx] at h
    cases h
    exact ⟨Setting.put_name x, Setting.put_styleId x⟩

end Labels

/-! ### Keys of a description given in another order -/

section Fields

variable {sheet : Sheet} {i : Nat} {f₁ f₂ : String} {v₁ v₂ : Value}

/-- Without a style at the position, the keys set nothing. -/
theorem loadParaFields_of_none (hs : sheet[i]? = none) (fields : List (String × Value)) :
    loadParaFields sheet i fields = .ok sheet := by
  cases fields with
  | nil => rfl
  | cons entry rest =>
    obtain ⟨field, v⟩ := entry
    simp [loadParaFields, hs]

/-- The keys of a description are loaded one part after the other. -/
theorem loadParaFields_append (front back : List (String × Value)) :
    ∀ sheet : Sheet, loadParaFields sheet i (front ++ back) =
      loadParaFields sheet i front >>= fun sheet' => loadParaFields sheet' i back := by
  induction front with
  | nil => intro sheet; rfl
  | cons entry front ih =>
    intro sheet
    obtain ⟨field, v⟩ := entry
    cases hs : sheet[i]? with
    | none =>
      rw [List.cons_append, loadParaFields_of_none hs, loadParaFields_of_none hs]
      exact (loadParaFields_of_none hs back).symm
    | some s =>
      simp only [List.cons_append, loadParaFields, hs]
      cases loadParaField sheet s field v with
      | error e => rfl
      | ok s₁ => exact ih (sheet.set i s₁)

/-- Two keys in a row: the second is read against the sheet the first left. -/
theorem loadParaFields_pair {s : Definition} (hs : sheet[i]? = some s)
    (rest : List (String × Value)) :
    loadParaFields sheet i ((f₁, v₁) :: (f₂, v₂) :: rest) =
      (loadParaField sheet s f₁ v₁ >>= fun s₁ =>
        loadParaField (sheet.set i s₁) s₁ f₂ v₂) >>= fun s₂ =>
          loadParaFields (sheet.set i s₂) i rest := by
  have hi : i < sheet.length := (List.getElem?_eq_some_iff.mp hs).1
  simp only [loadParaFields, hs]
  cases loadParaField sheet s f₁ v₁ with
  | error e => rfl
  | ok s₁ =>
    simp only [bind, Except.bind, List.getElem?_set_self hi]
    cases loadParaField (sheet.set i s₁) s₁ f₂ v₂ with
    | error e => rfl
    | ok s₂ => simp only [List.set_set]

/-- The second of two keys reads the sheet as if the first had not changed the style: the
first keeps the style's name and identifier, and the second reads no more than those. -/
theorem loadParaField_after {s : Definition} (hs : sheet[i]? = some s)
    (hq₂ : f₂ = "base_style" → v₂.shown.toList.contains '"' = false) :
    (loadParaField sheet s f₁ v₁ >>= fun s₁ =>
        loadParaField (sheet.set i s₁) s₁ f₂ v₂) =
      (loadParaField sheet s f₁ v₁ >>= fun s₁ => loadParaField sheet s₁ f₂ v₂) := by
  cases h₁ : loadParaField sheet s f₁ v₁ with
  | error e => simp only [bind, Except.bind]
  | ok s₁ =>
    obtain ⟨hname, hid⟩ := loadParaField_labels h₁
    simp only [bind, Except.bind]
    exact loadParaField_congr (Sheet.labels_set hs hname hid) hq₂ s₁

/-- Two keys in a row that write settings apart from each other may be swapped: the keys of
the description load in either order, or are refused in both. -/
theorem loadParaFields_swap (hab : (Setting.ofKey f₁).Apart (Setting.ofKey f₂))
    (hq₁ : f₁ = "base_style" → v₁.shown.toList.contains '"' = false)
    (hq₂ : f₂ = "base_style" → v₂.shown.toList.contains '"' = false)
    (rest : List (String × Value)) :
    (loadParaFields sheet i ((f₁, v₁) :: (f₂, v₂) :: rest)).toOption =
      (loadParaFields sheet i ((f₂, v₂) :: (f₁, v₁) :: rest)).toOption := by
  cases hs : sheet[i]? with
  | none => rw [loadParaFields_of_none hs, loadParaFields_of_none hs]
  | some s =>
    rw [loadParaFields_pair hs, loadParaFields_pair hs, loadParaField_after hs hq₂,
      loadParaField_after hs hq₁]
    exact Except.toOption_bind_congr
      ((acts_loadParaField sheet f₁ v₁).comm (acts_loadParaField sheet f₂ v₂) hab s) _

/-- The same, for two keys anywhere in the description. -/
theorem loadParaFields_swap_within (hab : (Setting.ofKey f₁).Apart (Setting.ofKey f₂))
    (hq₁ : f₁ = "base_style" → v₁.shown.toList.contains '"' = false)
    (hq₂ : f₂ = "base_style" → v₂.shown.toList.contains '"' = false)
    (front back : List (String × Value)) :
    (loadParaFields sheet i (front ++ (f₁, v₁) :: (f₂, v₂) :: back)).toOption =
      (loadParaFields sheet i (front ++ (f₂, v₂) :: (f₁, v₁) :: back)).toOption := by
  rw [loadParaFields_append, loadParaFields_append]
  cases loadParaFields sheet i front with
  | error e => rfl
  | ok sheet' => exact loadParaFields_swap hab hq₁ hq₂ back

end Fields

/-! ### Entries of a style file given in another order -/

section Entries

variable {f₁ f₂ : String} {v₁ v₂ : Value}

/-- Swapping two entries of different keys does not change what a key finds. -/
theorem lookup_swap {k : String} {a b : String × Value} (hne : a.1 ≠ b.1)
    (front back : List (String × Value)) :
    Value.lookup k (front ++ a :: b :: back) = Value.lookup k (front ++ b :: a :: back) := by
  induction front with
  | nil =>
    obtain ⟨ka, va⟩ := a
    obtain ⟨kb, vb⟩ := b
    simp only [List.nil_append, Value.lookup]
    by_cases ha : ka = k
    · subst ha
      simp [beq_false_of_ne (Ne.symm hne)]
    · by_cases hb : kb = k
      · subst hb
        simp [beq_false_of_ne ha]
      · simp [beq_false_of_ne ha, beq_false_of_ne hb]
  | cons entry front ih =>
    obtain ⟨k', v'⟩ := entry
    simp only [List.cons_append, Value.lookup, ih]

/-- Removing a key from two entries in a row: one of them goes and the other stands alone,
or both stay side by side. -/
theorem removeIn_swap (k : String) (a b : String × Value) (front back : List (String × Value)) :
    Value.removeIn k (front ++ a :: b :: back) = Value.removeIn k (front ++ b :: a :: back) ∨
      Value.removeIn k (front ++ a :: b :: back) =
          Value.removeIn k front ++ a :: b :: Value.removeIn k back ∧
        Value.removeIn k (front ++ b :: a :: back) =
          Value.removeIn k front ++ b :: a :: Value.removeIn k back := by
  unfold Value.removeIn
  simp only [List.filter_append, List.filter_cons]
  by_cases ha : (a.1 != k) = true <;> by_cases hb : (b.1 != k) = true <;> simp [ha, hb]

/-- A character style takes no keys: its keys are refused exactly when there is one. -/
theorem loadCharFields_toOption (fields : List (String × Value)) :
    (loadCharFields fields).toOption = if fields.isEmpty then some () else none := by
  cases fields with
  | nil => rfl
  | cons entry rest =>
    obtain ⟨field, v⟩ := entry
    simp only [loadCharFields]
    split <;> rfl

/-- Only the sheet of a loaded style is kept. -/
theorem map_fst_bind_pure {ε α β : Type} (x : Except ε α) (y : β) :
    (x >>= fun a => pure (a, y)).map Prod.fst = x := by
  cases x <;> rfl

/-- Two keys of a style's description that write settings apart from each other may be swapped:
the style loads in either order to the same sheet, or is refused in both. -/
theorem loadStyle_swap (hne : f₁ ≠ f₂) (hab : (Setting.ofKey f₁).Apart (Setting.ofKey f₂))
    (hq₁ : f₁ = "base_style" → v₁.shown.toList.contains '"' = false)
    (hq₂ : f₂ = "base_style" → v₂.shown.toList.contains '"' = false)
    (sheet : Sheet) (key : Value) (front back : List (String × Value)) :
    ((loadStyle sheet key (.obj (front ++ (f₁, v₁) :: (f₂, v₂) :: back))).map
        Prod.fst).toOption =
      ((loadStyle sheet key (.obj (front ++ (f₂, v₂) :: (f₁, v₁) :: back))).map
        Prod.fst).toOption := by
  simp only [loadStyle]
  rw [lookup_swap (a := (f₁, v₁)) (b := (f₂, v₂)) hne]
  cases Value.lookup paragraphKey (front ++ (f₂, v₂) :: (f₁, v₁) :: back) with
  | none => rfl
  | some flag =>
    dsimp only
    rcases removeIn_swap paragraphKey (f₁, v₁) (f₂, v₂) front back with
      heq | ⟨h₁, h₂⟩
    · -- one of the two is `is_paragraph`: the keys left are the same
      rw [heq]
    · rw [h₁, h₂]
      by_cases ht : flag.truthy = true
      · -- a paragraph style: its keys are swapped
        simp only [ht, if_true]
        apply Except.toOption_map_bind_congr rfl
        rintro ⟨sheet', i⟩
        dsimp only
        rw [map_fst_bind_pure, map_fst_bind_pure]
        exact loadParaFields_swap_within hab hq₁ hq₂ _ _
      · -- a character style: it has keys either way, and is refused
        simp only [ht, Bool.false_eq_true, if_false]
        refine Except.toOption_map_bind_congr ?_ fun _ => rfl
        rw [loadCharFields_toOption, loadCharFields_toOption]
        simp

/-- Two different prefix keys set different prefixes, in either order. -/
theorem Prefixes.set_comm (prefixes : Prefixes) {k k' : String} (hk : isPrefixKey k = true)
    (hk' : isPrefixKey k' = true) (hne : k ≠ k') (v v' : Value) :
    (prefixes.set k v).set k' v' = (prefixes.set k' v').set k v := by
  simp only [isPrefixKey, Bool.or_eq_true, beq_iff_eq] at hk hk'
  rcases hk with (rfl | rfl) | rfl <;> rcases hk' with (rfl | rfl) | rfl <;>
    simp_all [Prefixes.set, listItemKey, captionKey, captionInfixKey]

namespace Loaded

/-- The entries of a style file are loaded one part after the other. -/
theorem loadFields_append (override : Bool) (front back : List (String × Value)) :
    ∀ l : Loaded, l.loadFields override (front ++ back) =
      l.loadFields override front >>= fun l' => l'.loadFields override back := by
  induction front with
  | nil => intro l; rfl
  | cons entry front ih =>
    intro l
    obtain ⟨key, v⟩ := entry
    simp only [List.cons_append, loadFields]
    split
    · exact ih _
    · split
      · rfl
      · cases loadStyle l.sheet (.str key) v with
        | error e => rfl
        | ok made => exact ih _

/-- A prefix entry may change places with the entry before it, when that entry has another
key: the prefixes and the styles come out the same. -/
theorem loadFields_prefix_swap {e p : String × Value} (hp : isPrefixKey p.1 = true)
    (hne : e.1 ≠ p.1) (override : Bool) (l : Loaded) (post : List (String × Value)) :
    l.loadFields override (e :: p :: post) = l.loadFields override (p :: e :: post) := by
  obtain ⟨k, v⟩ := e
  obtain ⟨pk, pv⟩ := p
  by_cases hk : isPrefixKey k = true
  · -- two prefixes: they set different texts
    simp only [loadFields, hk, hp, if_true]
    rw [Prefixes.set_comm l.prefixes hk hp hne]
  · -- a style and a prefix: the style reads the sheet only, the prefix writes the prefixes only
    simp only [loadFields, hk, hp, Bool.false_eq_true, if_true, if_false]

/-- Two keys of a paragraph style's description that write settings apart from each other may be
swapped: the file loads to the same styles and prefixes, or is refused either way. -/
theorem loadFields_key_swap (hne : f₁ ≠ f₂)
    (hab : (Setting.ofKey f₁).Apart (Setting.ofKey f₂))
    (hq₁ : f₁ = "base_style" → v₁.shown.toList.contains '"' = false)
    (hq₂ : f₂ = "base_style" → v₂.shown.toList.contains '"' = false)
    {key : String} (hkey : isPrefixKey key = false) (override : Bool) (l : Loaded)
    (front back post : List (String × Value)) :
    (l.loadFields override
        ((key, .obj (front ++ (f₁, v₁) :: (f₂, v₂) :: back)) :: post)).toOption =
      (l.loadFields override
        ((key, .obj (front ++ (f₂, v₂) :: (f₁, v₁) :: back)) :: post)).toOption := by
  simp only [loadFields, hkey, Bool.false_eq_true, if_false]
  split
  · rfl
  · -- the style loads to the same sheet either way, and the rest of the file reads that sheet
    exact Except.toOption_bind_fst_congr
      (loadStyle_swap hne hab hq₁ hq₂ l.sheet (.str key) front back) _ fun _ _ _ => rfl

end Loaded

end Entries

/-- The order of the entries and keys of a style file matters. A `base_style` names a style
made before it: given before the style it names, it is refused, and given after it, it is
found. And `line_spacing` and `line_spacing_rule` write one setting, so the later of the two
wins: spacing two, then rule zero (single spacing) leaves single spacing, and the other order
leaves double spacing. -/
theorem key_order_changes_loaded_styles :
    (Loaded.loadFields false ⟨[], default⟩
        [("a", .obj [("is_paragraph", .bool true), ("base_style", .str "b")]),
          ("b", .obj [("is_paragraph", .bool true)])]).toOption.isNone = true ∧
      (Loaded.loadFields false ⟨[], default⟩
          [("b", .obj [("is_paragraph", .bool true)]),
            ("a", .obj [("is_paragraph", .bool true), ("base_style", .str "b")])]).toOption.map
        (fun l => l.sheet.map (·.basedOn)) = some [none, some "b"] ∧
      (Loaded.loadFields false ⟨[], default⟩
          [("a", .obj [("is_paragraph", .bool true), ("line_spacing", .int 2),
            ("line_spacing_rule", .int 0)])]).toOption.map
        (fun l => l.sheet.map (·.para.line)) = some [some (.twips 240)] ∧
      (Loaded.loadFields false ⟨[], default⟩
          [("a", .obj [("is_paragraph", .bool true), ("line_spacing_rule", .int 0),
            ("line_spacing", .int 2)])]).toOption.map
        (fun l => l.sheet.map (·.para.line)) = some [some (.twips 480)] := by
  refine ⟨?_, ?_, ?_, ?_⟩ <;> decide +kernel

/-- The order of the keys of a style file. Its prefix keys may stand anywhere among the
entries: a prefix entry changes places with the entry before it, of another key, and nothing
changes. Within the description of a style under a key that is no prefix key, two keys of
different names that write settings apart from each other (`Setting.ofKey`), neither of them
a base style whose name holds a double quote, may change places: the file loads to the same
styles and prefixes, or is refused either way. -/
theorem style_file_key_order (override : Bool) (l : Loaded) (pre post : List (String × Value)) :
    (∀ e p : String × Value, isPrefixKey p.1 = true → e.1 ≠ p.1 →
      l.loadFields override (pre ++ e :: p :: post) =
        l.loadFields override (pre ++ p :: e :: post)) ∧
    (∀ (key : String) (front back : List (String × Value)) (f₁ f₂ : String) (v₁ v₂ : Value),
      isPrefixKey key = false → f₁ ≠ f₂ → (Setting.ofKey f₁).Apart (Setting.ofKey f₂) →
      (f₁ = "base_style" → v₁.shown.toList.contains '"' = false) →
      (f₂ = "base_style" → v₂.shown.toList.contains '"' = false) →
      (l.loadFields override
          (pre ++ (key, .obj (front ++ (f₁, v₁) :: (f₂, v₂) :: back)) :: post)).toOption =
        (l.loadFields override
          (pre ++ (key, .obj (front ++ (f₂, v₂) :: (f₁, v₁) :: back)) :: post)).toOption) := by
  refine ⟨fun e p hp hne => ?_,
    fun key front back f₁ f₂ v₁ v₂ hkey hne hab hq₁ hq₂ => ?_⟩
  · rw [Loaded.loadFields_append, Loaded.loadFields_append]
    cases l.loadFields override pre with
    | error e => rfl
    | ok l' => exact Loaded.loadFields_prefix_swap hp hne override l' post
  · rw [Loaded.loadFields_append, Loaded.loadFields_append]
    cases l.loadFields override pre with
    | error e => rfl
    | ok l' => exact Loaded.loadFields_key_swap hne hab hq₁ hq₂ hkey override l' front back post

/-- A list prefix may come before or after a style, and a style's alignment before or after its
line spacing. -/
theorem alignment_and_spacing_in_either_order :
    Loaded.loadFields false ⟨[], default⟩
        [("a", .obj [("is_paragraph", .bool true)]), ("unordered_list_prefix", .str "* ")] =
      Loaded.loadFields false ⟨[], default⟩
        [("unordered_list_prefix", .str "* "), ("a", .obj [("is_paragraph", .bool true)])] ∧
    (Loaded.loadFields false ⟨[], default⟩
        [("a", .obj [("is_paragraph", .bool true), ("alignment", .int 1),
          ("line_spacing", .int 2)])]).toOption =
      (Loaded.loadFields false ⟨[], default⟩
        [("a", .obj [("is_paragraph", .bool true), ("line_spacing", .int 2),
          ("alignment", .int 1)])]).toOption :=
  ⟨(style_file_key_order false ⟨[], default⟩ [] []).1
      ("a", .obj [("is_paragraph", .bool true)]) ("unordered_list_prefix", .str "* ")
      (by decide +kernel) (by decide +kernel),
    (style_file_key_order false ⟨[], default⟩ [] []).2 "a" [("is_paragraph", .bool true)] []
      "alignment" "line_spacing" (.int 1) (.int 2) (by decide +kernel) (by decide +kernel)
      (.inl (by decide +kernel)) (fun h => absurd h (by decide +kernel))
      (fun h => absurd h (by decide +kernel))⟩

end MacroDoc.Style
