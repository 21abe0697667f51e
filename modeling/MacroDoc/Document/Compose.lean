import MacroDoc.Document.Basic

/-!
# Joining documents

A document is appended to another block by block. Style identifiers differ between
documents, names less so, so each identifier a block of the appended document refers to is
first carried over by name: an identifier whose style has a name that the receiving
document also has becomes the receiving document's identifier for that name; any other
identifier stays as it is. A style the receiving document then still lacks is copied from
the appended document, together with the style it is linked to, when that one is missing
too. A style the receiving document lacks and the appended one does not have either cannot
be copied, and the appending is refused.

Before any block is appended, every style of both documents is taken by its type, the
appended document's first, so a style whose type is absent or names no type is refused;
then the appended body is walked, which a document read back without a body refuses.

Identifiers are handled one block at a time, in the order the block refers to them, each
once; whether the receiving document has a style is judged by its styles as the block's
appending began. The names on both sides are taken as the documents stood when the
appending began.

## Main definitions

* `Document.StyleMap`: identifiers carried over by name.
* `Document.Doc.append`: append one document to another.
* `Document.Doc.joinAll`: join documents in order.
-/

namespace MacroDoc.Document

/-- The last value of a key in a list of pairs. -/
def lastValue (pairs : List (String × String)) (key : String) : Option String :=
  (pairs.reverse.find? (·.1 == key)).map (·.2)

/-- How identifiers of an appended document are carried over: its identifiers with their
style names, and the receiving document's names with their identifiers. -/
structure StyleMap where
  idToName : List (String × String)
  nameToId : List (String × String)

/-- The identifiers carried over from a document appended to `ours`. -/
def StyleMap.between (ours theirs : Style.Sheet) : StyleMap :=
  ⟨theirs.map (fun s => (s.styleId, s.shown)), ours.map (fun s => (s.shown, s.styleId))⟩

/-- The receiving document's identifier for an identifier of the appended one. -/
def StyleMap.carry (m : StyleMap) (id : String) : String :=
  match lastValue m.idToName id with
  | none => id
  | some name => (lastValue m.nameToId name).getD id

/-- A reference with one identifier replaced by another. -/
def renameRef (old new : String) (ref : Option String) : Option String :=
  ref.map (fun s => if s == old then new else s)

/-- A paragraph with one style identifier replaced by another, in it and its runs. -/
def Paragraph.renameStyle (old new : String) (p : Paragraph) : Paragraph :=
  { p with style := renameRef old new p.style,
           runs := p.runs.map (fun r => { r with style := renameRef old new r.style }) }

/-- The style identifiers a paragraph refers to, in order: its own, then its runs'. -/
def Paragraph.styleRefs (p : Paragraph) : List String :=
  p.style.toList ++ p.runs.filterMap (·.style)

/-- A block with one style identifier replaced by another, in its paragraphs and in the
blocks of its cells. -/
def Block.renameStyle (old new : String) (b : Block) : Block :=
  b.mapParagraphs (Paragraph.renameStyle old new)

/-- The style identifiers a block refers to, in order, each once. -/
def Block.styleRefs (b : Block) : List String :=
  (b.paragraphs.flatMap Paragraph.styleRefs).eraseDups

/-- The refusal to copy a style the appended document does not have. -/
def missingStyleElement : Fault :=
  Fault.badType "Argument 'element' has incorrect type (expected lxml.etree._Element, got NoneType)"

/-- The styles to copy for an identifier the receiving sheet lacks: the appended document's
style of that identifier, and its linked style when the receiving sheet lacks that too. A
style the appended document does not have cannot be copied. -/
def stylesToCopy (m : StyleMap) (ourIds : List String) (theirs : Style.Sheet) (id : String) :
    Except Fault (List Style.Definition) := do
  match (← theirs.lookupId id).bind (theirs[·]?) with
  | none => .error missingStyleElement
  | some s =>
    match s.link with
    | some l =>
      if ourIds.contains (m.carry l) then .ok [s]
      else match (← theirs.lookupId l).bind (theirs[·]?) with
        | some linked => .ok [s, linked]
        | none => .error missingStyleElement
    | none => .ok [s]

/-- Carry one identifier of a block over into the receiving sheet; `ourIds` are the
receiving sheet's identifiers as the block's appending began. -/
def carryRef (m : StyleMap) (theirs : Style.Sheet) (ourIds : List String)
    (acc : Style.Sheet × Block) (id : String) : Except Fault (Style.Sheet × Block) := do
  let (sheet, block) := acc
  let ours := m.carry id
  let copied ← if ourIds.contains ours then pure [] else stylesToCopy m ourIds theirs id
  let sheet := sheet ++ copied
  let block := if ours != id then block.renameStyle id ours else block
  return (sheet, block)

/-- Append one block of a document with the given identifier map. -/
def appendBlock (m : StyleMap) (theirs : Style.Sheet) (d : Doc) (b : Block) : Except Fault Doc := do
  let ourIds := d.sheet.map (·.styleId)
  let (sheet, block) ← b.styleRefs.foldlM (carryRef m theirs ourIds) (d.sheet, b)
  return { d with sheet, body := d.body ++ [block] }

/-- Append a document to another. Every style of both is first taken by its type, the
appended document's first, and the appended body is walked after that. -/
def Doc.append (ours theirs : Doc) : Except Fault Doc := do
  for s in theirs.sheet ++ ours.sheet do
    let _ ← s.madeKind
  if let some f := theirs.bodyFault then throw f
  let m := StyleMap.between ours.sheet theirs.sheet
  theirs.body.foldlM (appendBlock m theirs.sheet) ours

/-- Join documents in order; none joins to none. -/
def Doc.joinAll : List Doc → Except Fault (Option Doc)
  | [] => .ok none
  | d :: rest => do return some (← rest.foldlM Doc.append d)

end MacroDoc.Document
