/-!
# Kinds of block

Every macro names a kind of block. The names are fixed words of the markup; a macro whose
first word is not one of them is refused.

## Main definitions

* `Engine.BlockKind`: the kinds of block.
* `Engine.BlockKind.name`, `Engine.BlockKind.ofName?`: a kind and the word that names it.
-/

namespace MacroDoc.Engine

/-- The kinds of block a macro can open. -/
inductive BlockKind where
  | orderedList
  | orderedItem
  | unorderedList
  | unorderedItem
  | loadStyle
  | styledParagraph
  | picture
  | caption
  | pageBreak
  | table
  | tableCell
  | appendDocument
  | dataReader
  | dataField
  | styledRun
  | pictureNumber
  | nextPictureNumber
  | space
  | numbered
  | echo
  | changeDirectory
  deriving DecidableEq, Repr

/-- Every kind of block. -/
def BlockKind.all : List BlockKind :=
  [.orderedList, .orderedItem, .unorderedList, .unorderedItem, .loadStyle, .styledParagraph,
   .picture, .caption, .pageBreak, .table, .tableCell, .appendDocument, .dataReader,
   .dataField, .styledRun, .pictureNumber, .nextPictureNumber, .space, .numbered, .echo,
   .changeDirectory]

/-- The word that names a kind of block. -/
def BlockKind.name : BlockKind → String
  | .orderedList => "ordered-list"
  | .orderedItem => "ordered-list-item"
  | .unorderedList => "unordered-list"
  | .unorderedItem => "unordered-list-item"
  | .loadStyle => "load-style"
  | .styledParagraph => "paragraph-styled"
  | .picture => "image"
  | .caption => "image-caption"
  | .pageBreak => "page-break"
  | .table => "table"
  | .tableCell => "table-cell"
  | .appendDocument => "doc"
  | .dataReader => "json-reader"
  | .dataField => "json-field"
  | .styledRun => "run-styled"
  | .pictureNumber => "image-number-as-run"
  | .nextPictureNumber => "next-image-number-as-run"
  | .space => "space"
  | .numbered => "numbered"
  | .echo => "echo"
  | .changeDirectory => "chdir"

/-- The kind of block a word names. -/
def BlockKind.ofName? (word : String) : Option BlockKind :=
  BlockKind.all.find? (fun k => k.name == word)

/-- The names of all kinds of block, in code-point order. -/
def BlockKind.sortedNames : List String :=
  (BlockKind.all.map BlockKind.name).mergeSort (fun a b => decide (a ≤ b))

end MacroDoc.Engine
