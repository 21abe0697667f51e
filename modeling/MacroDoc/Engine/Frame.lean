import MacroDoc.Engine.Kind
import MacroDoc.Engine.Sink
import MacroDoc.Document.Picture
import MacroDoc.Decimal.Literal
import MacroDoc.Json.Reader

/-!
# Open blocks

Each open macro is a frame on a stack, with what it has collected so far. A frame is made
when its macro line is read (`Frame.start`), takes the plain lines inside it
(`Frame.takeLine`), and acts when it closes (`Frame.close`). Below all frames is the
document itself, which turns each plain line into a paragraph at once.

What each block does:

* `paragraph-styled NAME` collects lines into one paragraph of a style;
* `run-styled [NAME]` collects lines into one run, added to the last paragraph;
* `unordered-list` and `ordered-list` hold items; an item's first line gets the list prefix
  or its number, and an item of more than one line is refused;
* `image PATH [WIDTH [HEIGHT]]` adds a picture paragraph, sides in centimetres;
* `image-caption` numbers a caption and adds it to the last paragraph, after a line break;
* `table ROWS COLS` adds a table and `table-cell ROW COL` writes into one of its cells;
* `json-reader PATH` reads a data file, whose fields `json-field NAME` add as runs;
* `numbered [True LABEL | False LABELS…]` numbers the one paragraph inside it, or with
  `True` sets a label back to its first number;
* `page-break`, `space [N]`, `image-number-as-run`, `next-image-number-as-run` add a page
  break, spaces, and the last or next picture number;
* `load-style PATH [OVERRIDE]` loads a style file, `doc PATH` appends a document,
  `echo` prints its words and `chdir DIR` moves the working directory.

## Main definitions

* `Engine.Frame`: an open block.
* `Engine.Frame.start`, `Engine.Frame.takeLine`, `Engine.Frame.close`.
-/

namespace MacroDoc.Engine

open Json

/-- An open block with what it has collected. -/
inductive Frame where
  /-- The document itself, below all blocks. -/
  | top
  | echo
  | changeDirectory (dir : String)
  | pageBreak
  | unorderedList
  | unorderedItem (lines : List String) (started : Bool)
  | styledParagraph (style : String) (lines : List String)
  | loadStyle
  | orderedList (next : Nat)
  | orderedItem (number : Nat) (lines : List String) (started : Bool)
  | picture (path : String) (width height : Option Int)
  | caption (number : Nat) (lines : List String)
  /-- A table at a position of the body, with the counts it was made with. -/
  | table (block : Nat) (rows cols : Int)
  | tableCell (lines : List String) (prev : Nat)
  | appendDocument
  | styledRun (style : Option Nat) (lines : List String)
  | dataReader (prev : Nat)
  | dataField (field : String)
  | pictureNumber
  | nextPictureNumber
  | space (count : Int)
  | numbered (erasing : Bool) (labels : List String) (prev : Nat)

/-- The kind of block of a frame; the document itself has none. -/
def Frame.kind? : Frame → Option BlockKind
  | .top => none
  | .echo => some .echo
  | .changeDirectory _ => some .changeDirectory
  | .pageBreak => some .pageBreak
  | .unorderedList => some .unorderedList
  | .unorderedItem .. => some .unorderedItem
  | .styledParagraph .. => some .styledParagraph
  | .loadStyle => some .loadStyle
  | .orderedList _ => some .orderedList
  | .orderedItem .. => some .orderedItem
  | .picture .. => some .picture
  | .caption .. => some .caption
  | .table .. => some .table
  | .tableCell .. => some .tableCell
  | .appendDocument => some .appendDocument
  | .styledRun .. => some .styledRun
  | .dataReader _ => some .dataReader
  | .dataField _ => some .dataField
  | .pictureNumber => some .pictureNumber
  | .nextPictureNumber => some .nextPictureNumber
  | .space _ => some .space
  | .numbered .. => some .numbered

/-- The largest number of times a sequence can be repeated. -/
def repeatLimit : Int := 9223372036854775807

/-- A number of repetitions: a negative number repeats nothing, and a number beyond the
index range is refused. -/
def repeatCount (n : Int) : Except Fault Nat :=
  if n > repeatLimit || n < -repeatLimit - 1 then
    .error ⟨.overflow, "cannot fit 'int' into an index-sized integer"⟩
  else .ok n.toNat

/-- A macro argument read as a whole number. -/
def intArg (s : String) : Except Fault Int :=
  match Decimal.readInt s with
  | .value n => .ok n
  | reading => .error (Style.LengthUnit.badText s 1 reading)

/-- A macro argument read as a length in centimetres, in EMU. -/
def cmArg (s : String) : Except Fault Int :=
  match Decimal.readFloat s with
  | none => .error (Fault.badValue ("could not convert string to float: " ++ Text.quote s))
  | some x => Style.LengthUnit.cm.scale (.float x)

/-- A side of a picture from an optional argument; `None` leaves it open. -/
def sideArg (arg : Option String) : Except Fault (Option Int) :=
  match arg with
  | none => .ok none
  | some s => if s == "None" then .ok none else do return some (← cmArg s)

/-- The refusal of a value put before text where it cannot be. -/
def prefixFault (v : Value) : Fault :=
  match v with
  | .arr _ => Fault.badType "can only concatenate list (not \"str\") to list"
  | _ => Fault.badType ("unsupported operand type(s) for +: '" ++ v.typeName ++ "' and 'str'")

/-- A value put before text: only text can be. -/
def prefixText (v : Value) : Except Fault String :=
  match v with
  | .str s => .ok s
  | _ => .error (prefixFault v)

/-- A value put after text: only text can be. -/
def suffixText (v : Value) : Except Fault String :=
  match v with
  | .str s => .ok s
  | _ => .error (Fault.badType ("can only concatenate str (not \"" ++ v.typeName ++ "\") to str"))

/-- The refusal of content inside a block that takes none. -/
def noContent (kind : BlockKind) : Fault :=
  Fault.broken ("You must not place content inside " ++ kind.name)

/-- The refusal of a second line in a list item. -/
def secondItemLine : Fault :=
  ⟨.unboundLocal, "cannot access local variable 'line_stripped' where it is not associated with a value"⟩

/-- The lines of a block joined into one text. -/
def joinLines (lines : List String) : String := "\n".intercalate lines

/-- The value of a field of a data file, or why there is none. -/
def fieldOf (data : Value) (field : String) : Except Fault Value :=
  match data with
  | .obj fields =>
    match Value.lookup field fields with
    | some v => .ok v
    | none => .error ⟨.missingKey, Text.quote field⟩
  | v => .error (Style.noTextIndex v)

/-- The largest extent of a picture side, in EMU. -/
def maxExtent : Int := 27273042316900

namespace Frame

/-- What a frame does when it closes. -/
def close (f : Frame) (w : World) : Except Fault World :=
  match f with
  | .top | .echo | .unorderedList | .loadStyle | .orderedList _ | .table .. | .appendDocument =>
    .ok w
  | .changeDirectory dir => do
    let w := w.print ("Changing dir to " ++ dir)
    return { w with files := ← w.files.changeDir dir }
  | .pageBreak => .ok { w with doc := w.doc.addPageBreak }
  | .unorderedItem lines _ | .orderedItem _ lines _ => do
    let (w, _) ← w.addParagraphHere (some (joinLines lines)) (some "list")
    return w
  | .styledParagraph style lines => do
    let (w, place) ← w.addParagraphHere (some (joinLines lines)) none
    let i ← w.doc.styleIndex style
    let ref ← w.doc.styleRef .paragraph i
    return { w with doc := w.doc.modifyParagraph place (fun p => { p with style := ref }) }
  | .picture path width height => do
    let (w, place) ← w.addParagraphHere none (some "image-paragraph")
    let bytes ← w.files.readBytes path
    let pic ← Document.Picture.read bytes
    let (cx, cy) ← pic.extent width height
    Text.checkStorable (Files.baseName path) 0
    let cx ← Style.checkRange 0 maxExtent cx
    let cy ← Style.checkRange 0 maxExtent cy
    return { w with doc := w.doc.addRunAt place { items := [.picture cx cy] } }
  | .caption _ lines => do
    let content := "\n" ++ " ".intercalate lines
    let o := w.ownerHere
    if (w.ownerParagraphs o).isEmpty then .error Fault.indexOutOfRange
    else
      let run ← w.doc.newRun (some content) none
      w.addRunToOwner o run
  | .tableCell lines prev => do
    let w ← if lines.isEmpty then pure w
      else do
        let (w, _) ← w.addParagraphHere (some (joinLines lines)) (some "paragraph")
        pure w
    return { w with sink := prev }
  | .styledRun style lines => w.addRunHere (some (joinLines lines)) style
  | .dataReader prev => .ok { w with sink := prev }
  | .dataField field => do
    if (w.ownerParagraphs w.ownerHere).isEmpty then
      .error (Fault.broken ("Before json-field insert at least one paragraph-styled so that " ++
        "it's possible to attach the field's value to it"))
    else match w.sinkAt w.sink with
      | .data values _ => do
        let v ← fieldOf values field
        w.addRunHere (some v.shown) none
      | s => .error (Fault.noAttribute s.typeName "jsonhandler")
  | .pictureNumber => w.addRunHere (some (toString ((w.captionNext : Int) - 1))) none
  | .nextPictureNumber => w.addRunHere (some (toString w.captionNext)) none
  | .space count => do
    let n ← repeatCount count
    w.addRunHere (some (String.ofList (List.replicate n ' '))) none
  | .numbered erasing labels prev =>
    if erasing then
      match w.sinkAt w.sink with
      | .numbered .. =>
        .ok { w with counters := w.counters.erase (labels.headD ""), sink := prev }
      | s => .error (Fault.noAttribute s.typeName "erase_macro_name")
    else .ok { w with sink := prev }

/-- Open a block of a kind with its arguments inside a parent frame, `calls` calls deep:
gives the new frame, the parent as the new block leaves it, and the world. A style file is
read two calls deeper, data right there. -/
def start (kind : BlockKind) (args : List String) (calls : Nat) (parent : Frame) (w : World) :
    Except Fault (Frame × Frame × World) :=
  let arg (i : Nat) : Option String := args[i]?
  match kind with
  | .echo =>
    .ok (.echo, parent, w.print ("echo: " ++ String.join (args.map (" " ++ ·))))
  | .changeDirectory =>
    match arg 0 with
    | some dir => .ok (.changeDirectory dir, parent, w)
    | none => .error Fault.indexOutOfRange
  | .pageBreak => .ok (.pageBreak, parent, w)
  | .unorderedList => .ok (.unorderedList, parent, w)
  | .unorderedItem =>
    if parent.kind? != some .unorderedList then
      .error (Fault.broken "unordered-list-item macro must be inside unordered-list macro")
    else do
      let w ← parent.close w
      return (.unorderedItem [] false, parent, w)
  | .styledParagraph =>
    match arg 0 with
    | some style => .ok (.styledParagraph style [], parent, w)
    | none => .error (Fault.broken "Style macro must contain style name")
  | .loadStyle =>
    match arg 0 with
    | none => .error (Fault.broken "ParseStyleDirective macro must contain path to file")
    | some path => do
      let override := match arg 1 with
        | some s => !s.isEmpty
        | none => false
      let text ← w.files.readText path
      let loaded ← (Style.Loaded.mk w.doc.sheet w.prefixes).loadText (calls + 2) text override
      return (.loadStyle, parent,
        { w with doc := { w.doc with sheet := loaded.sheet }, prefixes := loaded.prefixes })
  | .orderedList => do
    let w ← parent.close w
    return (.orderedList 1, parent, w)
  | .orderedItem =>
    match parent with
    | .orderedList next => .ok (.orderedItem next [] false, .orderedList (next + 1), w)
    | _ => .error (Fault.broken "ordered-list-item macro must be inside ordered-list macro")
  | .picture =>
    match arg 0 with
    | none => .error (Fault.broken "Macro image called without arguments")
    | some path => do
      let width ← sideArg (arg 1)
      let height ← sideArg (arg 2)
      return (.picture path width height, parent, w)
  | .caption =>
    .ok (.caption w.captionNext [], parent, { w with captionNext := w.captionNext + 1 })
  | .table =>
    if args.length < 2 then .error (Fault.broken "table must have at least 2 args")
    else do
      let rows ← intArg (args.getD 0 "")
      let cols ← intArg (args.getD 1 "")
      let block := w.doc.body.length
      return (.table block rows cols, parent, { w with doc := w.doc.addTable rows cols })
  | .tableCell =>
    if args.length < 2 then .error (Fault.broken "table-cell must have at least 2 args")
    else match parent with
      | .table block rows cols => do
        let row ← intArg (args.getD 0 "")
        let col ← intArg (args.getD 1 "")
        if row ≥ rows || row < 0 then
          let shown ← Decimal.intText row
          let last ← Decimal.intText (rows - 1)
          .error (Fault.broken ("table-cell row (= " ++ shown ++
            ") number must be between 1 and " ++ last ++ " inclusive"))
        else if col ≥ cols || col < 0 then
          let shown ← Decimal.intText col
          let last ← Decimal.intText (cols - 1)
          .error (Fault.broken ("table-cell col (= " ++ shown ++
            ") number must be between 1 and " ++ last ++ " inclusive"))
        else
          let prev := w.sink
          let w := w.openSink (.cell block row.toNat col.toNat false)
          return (.tableCell [] prev, parent, w)
      | _ => .error (Fault.broken "table-cell must be placed inside table")
  | .appendDocument =>
    match arg 0 with
    | none => .error (Fault.broken "doc macro needs at least 1 argument")
    | some path => do
      let shown := w.files.absolute path
      match ← w.files.fileAt? path with
      | some comps =>
        .ok (.appendDocument, parent, { w with appendTarget := some (shown, comps) })
      | none => .error (Fault.broken (shown ++
          " is not a file. You must pass a file path to doc macro"))
  | .styledRun =>
    match arg 0 with
    | some name => do
      let i ← w.doc.styleIndex name
      return (.styledRun (some i) [], parent, w)
    | none => .ok (.styledRun none [], parent, w)
  | .dataReader =>
    match arg 0 with
    | none => .error (Fault.broken "json-reader macro needs at least 1 argument")
    | some path => do
      let text ← w.files.readText path
      match Json.readWithin (Json.roomWithin calls) text with
      | .error e => .error e.toFault
      | .ok values =>
        let prev := w.sink
        return (.dataReader prev, parent, w.openSink (.data values prev))
  | .dataField =>
    match arg 0 with
    | none => .error (Fault.broken "json-field macro needs at least 1 argument")
    | some field =>
      match w.sinkAt w.sink with
      | .data .. => .ok (.dataField field, parent, w)
      | _ => .error (Fault.broken
          "\x7bself.NAME\x7d can only be used inside \x7bJsonReaderHandler.NAME\x7d")
  | .pictureNumber => .ok (.pictureNumber, parent, w)
  | .nextPictureNumber => .ok (.nextPictureNumber, parent, w)
  | .space =>
    match arg 0 with
    | some s => do return (.space (← intArg s), parent, w)
    | none => .ok (.space 1, parent, w)
  | .numbered => do
    let (erasing, labels) ← if args.length > 1 then
        if args.getD 0 "" == "True" then
          if args.length != 2 then
            .error (Fault.badValue ("numbered if 1'st arg == True, the 2nd (macro_name) must " ++
              "be provided. Do not provide any more args."))
          else pure (true, [args.getD 1 ""])
        else if args.getD 0 "" == "False" then pure (false, args.drop 1)
        else pure (false, [])
      else pure (false, [])
    let prev := w.sink
    let counters ← w.counters.enter labels
    let w := { w with counters }
    return (.numbered erasing labels prev, parent, w.openSink (.numbered erasing labels prev false))

/-- Give a plain line to a frame other than the document itself. -/
def takeLine (f : Frame) (line : String) (w : World) : Except Fault Frame :=
  match f with
  | .unorderedItem lines started =>
    if started then .error secondItemLine
    else do
      let pre ← prefixText w.prefixes.listItem
      return .unorderedItem (lines ++ [pre ++ line]) true
  | .orderedItem n lines started =>
    if started then .error secondItemLine
    else .ok (.orderedItem n (lines ++ [toString n ++ ". " ++ line]) true)
  | .styledParagraph style lines => .ok (.styledParagraph style (lines ++ [line]))
  | .styledRun style lines => .ok (.styledRun style (lines ++ [line]))
  | .tableCell lines prev => .ok (.tableCell (lines ++ [line]) prev)
  | .caption n lines =>
    if lines.isEmpty then do
      let pre ← prefixText w.prefixes.caption
      let middle ← suffixText w.prefixes.captionInfix
      return .caption n [pre ++ toString n ++ middle ++ line]
    else .ok (.caption n (lines ++ [line]))
  | .unorderedList =>
    .error (Fault.broken "You musn't place contents inside unordered-list macro")
  | .orderedList _ => .error (Fault.broken
      "You must provide contents of ordered-list within macro ordered-list-item")
  | .loadStyle => .error (Fault.broken "You must not place content inside ParseStyleDirective")
  | .picture .. => .error (Fault.broken "You must not put contents into image macro")
  | .dataReader _ => .error (Fault.broken "json-reader does not accept free-standing text inside")
  | .dataField _ => .error (Fault.broken "json-field does not accept free-standing text inside")
  | .top => .ok .top
  | other =>
    match other.kind? with
    | some k => .error (noContent k)
    | none => .ok other

end Frame

end MacroDoc.Engine
