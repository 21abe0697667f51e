import MacroDoc.Document.Basic
import MacroDoc.Style.Template
import MacroDoc.Style.Assign

/-!
# Building documents by hand

Documents to append are made the way a document is built by hand: a new document with the
built-in styles, paragraph styles added by name, paragraphs added with a text and a style,
or with a style and runs, each run with its own text, character style and direct bold and
italic settings.

A style added by name gets the identifier its name gives and no base style; a name already
present is refused.

## Main definitions

* `Document.Doc.blank`: a new document with the built-in styles.
* `Document.Doc.addParagraphStyle`, `Document.Doc.modifyStyle`.
* `Document.Doc.RunSpec`, `Document.Doc.runOf`, `Document.Doc.addRunsParagraph`.
-/

namespace MacroDoc.Document

namespace Doc

/-- A new document with the built-in styles and an empty body. -/
def blank : Doc := { sheet := Style.builtinSheet }

/-- Add a paragraph style of a shown name. -/
def addParagraphStyle (d : Doc) (name : String) : Except Fault Doc :=
  let stored := Style.storedName name
  if d.sheet.any (·.name == stored) then
    .error (Fault.badValue ("document already contains style '" ++ name ++ "'"))
  else
    let s : Style.Definition :=
      { kind := .paragraph, styleId := Style.idOfName stored, name := stored,
        traits := { custom := true } }
    .ok { d with sheet := d.sheet ++ [s] }

/-- Change the style a key names. -/
def modifyStyle (d : Doc) (key : String) (f : Style.Definition → Except Fault Style.Definition) :
    Except Fault Doc := do
  let i ← d.styleIndex key
  match d.sheet[i]? with
  | some s => return { d with sheet := d.sheet.set i (← f s) }
  | none => return d

/-- A run of a text, with a character style given by name (an empty name sets none) and
direct bold and italic settings. -/
def runOf (d : Doc) (text : String) (style : Option String) (bold italic : Option Bool) :
    Except Fault Run := do
  let run ← Run.ofText (some text)
  let ref ← match style with
    | some n => if n.isEmpty then pure none else d.styleRefByName .character n
    | none => pure none
  return { run with style := ref, bold, italic }

/-- What a run is made of: its text, the name of its character style, and its direct bold
and italic settings. -/
structure RunSpec where
  text : String
  style : Option String
  bold : Option Bool
  italic : Option Bool

/-- Add a paragraph of a style given by name, then its runs in order. -/
def addRunsParagraph (d : Doc) (style : Option String) (runs : List RunSpec) :
    Except Fault Doc := do
  let p ← d.newParagraph none style
  let runs ← runs.mapM fun r => d.runOf r.text r.style r.bold r.italic
  return { d with body := d.body ++ [.paragraph { p with runs }] }

end Doc

end MacroDoc.Document

namespace MacroDoc.Style

/-- A style with its line spacing set to a fixed height in points. -/
def Definition.withLineHeight (s : Definition) (points : Json.Value) : Except Fault Definition := do
  let emu ← LengthUnit.pt.scale points
  return { s with para := ← s.para.setLineHeight emu }

/-- A style with its alignment set to a stored word. -/
def Definition.withJustification (s : Definition) (word : String) : Definition :=
  { s with para := { s.para with alignment := some (Justification.ofWord word) } }

end MacroDoc.Style
