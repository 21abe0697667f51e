import MacroDoc.Xml.WellFormed.Source

/-!
# Tokens of the strict reader

The strict reader cuts its input into tokens with one scanner per context: element content,
a CDATA section, the prolog and document type declaration, and the inside of an attribute
value or an entity value. A scanner starts at an offset and gives the kind of the token
there and the offset after it.

A scanner that meets a character that cannot go on where it stands gives `invalid`, with
the offset of that character. One that reaches the end of its input inside a token gives
`truncated`, or `partialChar` when the end cuts a character of several bytes. In the prolog a
name, a literal or a closing bracket that runs to the very end is given with `cut` set: it
may have gone on.

Names may carry one prefix: a colon may stand once in an element or attribute name, not
first, and must be followed by a character that starts a name. Entity references and
processing instruction targets take no colon at all.

## Main definitions

* `Tok`, `Lexeme`: the kinds of tokens, and a token with where it ends.
* `Input`: a text to scan, up to an end offset.
* `Input.contentTok`, `Input.cdataTok`, `Input.prologTok`, `Input.valueTok`,
  `Input.entityValueTok`: the scanners.
-/

namespace MacroDoc.Xml.WellFormed

/-- The kinds of tokens. -/
inductive Tok where
  /-- Nothing is left. -/
  | none
  /-- One or two `]` at the very end of content. -/
  | trailingRsqb
  /-- A carriage return at the very end of content. -/
  | trailingCr
  /-- The end cuts a character of several bytes. -/
  | partialChar
  /-- The end cuts a token. -/
  | truncated
  /-- A character that cannot go on where it stands. -/
  | invalid
  | startTagNoAtts | startTagWithAtts | emptyNoAtts | emptyWithAtts | endTag
  | dataChars | dataNewline | cdataOpen | cdataClose | entityRef | charRef
  /-- A processing instruction. -/
  | pi
  /-- A processing instruction with the target `xml`. -/
  | xmlDecl
  | comment
  /-- A byte order mark at the start. -/
  | bom
  /-- Blanks between declarations. -/
  | prologSpace
  /-- `<!` and a keyword. -/
  | declOpen
  /-- `>` closing a declaration. -/
  | declClose
  | name | nmtoken | prefixedName | poundName | bar | percent | openParen | closeParen
  | openBracket | closeBracket | literal | paramEntityRef
  /-- `<` and a name start: the root element begins. -/
  | instanceStart
  | nameQuestion | nameAsterisk | namePlus | condSectOpen | condSectClose
  | closeParenQuestion | closeParenAsterisk | closeParenPlus | comma
  /-- A blank inside an attribute value. -/
  | valueSpace
  deriving DecidableEq, Repr, Inhabited

/-- A token: its kind and the offset after it (for `invalid`, the offset of the character
refused). -/
structure Lexeme where
  tok : Tok
  next : Nat
  /-- The token runs to the end of the input and might have gone on. -/
  cut : Bool := false
  deriving Repr, Inhabited

/-- A token that ends at an offset. -/
def Lexeme.at (tok : Tok) (next : Nat) : Lexeme := ⟨tok, next, false⟩

/-- What a scanner makes of the character where it stands. -/
inductive Step where
  /-- A character of the kind asked for; the scan goes on at the offset. -/
  | next (p : Nat)
  /-- The end cuts the character. -/
  | partialChar
  /-- The character is refused where it stands. -/
  | invalid
  /-- A character of another class, for the scanner to judge. -/
  | other

/-- A text to scan, up to an end offset. -/
structure Input where
  src : Source
  stop : Nat
  deriving Inhabited

namespace Input

/-- The number of bytes of the shortest character. -/
def w (inp : Input) : Nat := inp.src.width

/-- Whether a character starts at an offset before the end. -/
def has (inp : Input) (p : Nat) : Bool := p + inp.w ≤ inp.stop

/-- Whether `n` characters start at an offset before the end. -/
def hasN (inp : Input) (p n : Nat) : Bool := p + n * inp.w ≤ inp.stop

/-- The class of the character at an offset. -/
def cls (inp : Input) (p : Nat) : CharClass := inp.src.classAt p

/-- Whether the character at an offset is a given ASCII character. -/
def isChar (inp : Input) (p : Nat) (c : Char) : Bool := inp.src.isChar p c

/-- Whether a class is a blank or a line end. -/
def isBlankClass : CharClass → Bool
  | .space | .cr | .lf => true
  | _ => false

/-- A sequence led at an offset: refused if ill formed or not of the kind a test asks. -/
def leadStep (inp : Input) (p n : Nat) (ok : Bool) : Step :=
  if inp.stop < p + n then .partialChar
  else if inp.src.seqInvalid p n || !ok then .invalid
  else .next (p + n)

/-- A character that a name may continue with. -/
def nameStep (inp : Input) (p : Nat) : Step :=
  match inp.cls p with
  | .wide => if inp.src.wideContinuesName p then .next (p + inp.w) else .invalid
  | .nameStart | .hex | .digit | .nameChar | .minus => .next (p + inp.w)
  | .lead2 => inp.leadStep p 2 (inp.src.seqContinuesName p 2)
  | .lead3 => inp.leadStep p 3 (inp.src.seqContinuesName p 3)
  | .lead4 => inp.leadStep p 4 (inp.src.seqContinuesName p 4)
  | _ => .other

/-- A character that a name may start with. -/
def startStep (inp : Input) (p : Nat) : Step :=
  match inp.cls p with
  | .wide => if inp.src.wideStartsName p then .next (p + inp.w) else .invalid
  | .nameStart | .hex => .next (p + inp.w)
  | .lead2 => inp.leadStep p 2 (inp.src.seqStartsName p 2)
  | .lead3 => inp.leadStep p 3 (inp.src.seqStartsName p 3)
  | .lead4 => inp.leadStep p 4 (inp.src.seqStartsName p 4)
  | _ => .other

/-- A character inside data: sequences must be whole and well formed, and characters XML
does not allow are refused. -/
def dataStep (inp : Input) (p : Nat) : Step :=
  match inp.cls p with
  | .lead2 => inp.leadStep p 2 true
  | .lead3 => inp.leadStep p 3 true
  | .lead4 => inp.leadStep p 4 true
  | .nonXml | .malformed | .trail => .invalid
  | _ => .other

/-- The input, with its end brought down to a whole number of characters from an offset;
nothing when not one character is left. -/
def trimmedFrom (inp : Input) (p : Nat) : Option Input :=
  let n := (inp.stop - p) / inp.w * inp.w
  if n == 0 then none else some { inp with stop := p + n }

/-- A comment, after `<!-`. -/
def scanComment (inp : Input) (p : Nat) : Lexeme :=
  if !inp.has p then .at .truncated p
  else if !inp.isChar p '-' then .at .invalid p
  else go (inp.stop + 1) (p + inp.w)
where
  /-- The body of the comment from an offset. -/
  go : Nat → Nat → Lexeme
    | 0, p => .at .truncated p
    | fuel + 1, p =>
      if !inp.has p then .at .truncated p
      else
        match inp.dataStep p with
        | .partialChar => .at .partialChar p
        | .invalid => .at .invalid p
        | .next q => go fuel q
        | .other =>
          if inp.cls p == .minus then
            let q := p + inp.w
            if !inp.has q then .at .truncated p
            else if inp.isChar q '-' then
              let r := q + inp.w
              if !inp.has r then .at .truncated p
              else if !inp.isChar r '>' then .at .invalid r
              else .at .comment (r + inp.w)
            else go fuel q
          else go fuel (p + inp.w)

/-- The opening of a CDATA section, after `<![`. -/
def scanCdataOpen (inp : Input) (p : Nat) : Lexeme :=
  if !inp.hasN p 6 then .at .truncated p
  else
    match ("CDATA[".toList.zipIdx.find? fun (c, k) => !inp.isChar (p + k * inp.w) c) with
    | some (_, k) => .at .invalid (p + k * inp.w)
    | none => .at .cdataOpen (p + 6 * inp.w)

/-- An end tag, after `</`. -/
def scanEndTag (inp : Input) (p : Nat) : Lexeme :=
  if !inp.has p then .at .truncated p
  else
    match inp.startStep p with
    | .partialChar => .at .partialChar p
    | .invalid | .other => .at .invalid p
    | .next q => name (inp.stop + 1) q
where
  /-- The rest of the name. -/
  name : Nat → Nat → Lexeme
    | 0, p => .at .truncated p
    | fuel + 1, p =>
      if !inp.has p then .at .truncated p
      else
        match inp.nameStep p with
        | .partialChar => .at .partialChar p
        | .invalid => .at .invalid p
        | .next q => name fuel q
        | .other =>
          match inp.cls p with
          | .space | .cr | .lf => blanks fuel (p + inp.w)
          | .colon => name fuel (p + inp.w)
          | .gt => .at .endTag (p + inp.w)
          | _ => .at .invalid p
  /-- Blanks after the name. -/
  blanks : Nat → Nat → Lexeme
    | 0, p => .at .truncated p
    | fuel + 1, p =>
      if !inp.has p then .at .truncated p
      else
        match inp.cls p with
        | .space | .cr | .lf => blanks fuel (p + inp.w)
        | .gt => .at .endTag (p + inp.w)
        | _ => .at .invalid p

/-- A hexadecimal character reference, after `&#x`. -/
def scanHexCharRef (inp : Input) (p : Nat) : Lexeme :=
  if !inp.has p then .at .truncated p
  else
    match inp.cls p with
    | .digit | .hex => go (inp.stop + 1) (p + inp.w)
    | _ => .at .invalid p
where
  /-- The rest of the digits. -/
  go : Nat → Nat → Lexeme
    | 0, p => .at .truncated p
    | fuel + 1, p =>
      if !inp.has p then .at .truncated p
      else
        match inp.cls p with
        | .digit | .hex => go fuel (p + inp.w)
        | .semi => .at .charRef (p + inp.w)
        | _ => .at .invalid p

/-- A character reference, after `&#`. -/
def scanCharRef (inp : Input) (p : Nat) : Lexeme :=
  if !inp.has p then .at .truncated p
  else if inp.isChar p 'x' then inp.scanHexCharRef (p + inp.w)
  else if inp.cls p != .digit then .at .invalid p
  else go (inp.stop + 1) (p + inp.w)
where
  /-- The rest of the digits. -/
  go : Nat → Nat → Lexeme
    | 0, p => .at .truncated p
    | fuel + 1, p =>
      if !inp.has p then .at .truncated p
      else
        match inp.cls p with
        | .digit => go fuel (p + inp.w)
        | .semi => .at .charRef (p + inp.w)
        | _ => .at .invalid p

/-- An entity or character reference, after `&`. -/
def scanRef (inp : Input) (p : Nat) : Lexeme :=
  if !inp.has p then .at .truncated p
  else
    match inp.startStep p with
    | .partialChar => .at .partialChar p
    | .invalid => .at .invalid p
    | .next q => name (inp.stop + 1) q
    | .other => if inp.cls p == .hash then inp.scanCharRef (p + inp.w) else .at .invalid p
where
  /-- The rest of the name. -/
  name : Nat → Nat → Lexeme
    | 0, p => .at .truncated p
    | fuel + 1, p =>
      if !inp.has p then .at .truncated p
      else
        match inp.nameStep p with
        | .partialChar => .at .partialChar p
        | .invalid => .at .invalid p
        | .next q => name fuel q
        | .other => if inp.cls p == .semi then .at .entityRef (p + inp.w) else .at .invalid p

/-- The close of an empty element tag, with `/` at an offset. -/
def closeEmpty (inp : Input) (tok : Tok) (p : Nat) : Lexeme :=
  let q := p + inp.w
  if !inp.has q then .at .truncated p
  else if !inp.isChar q '>' then .at .invalid q
  else .at tok (q + inp.w)

/-- Where a scan of attributes stands. -/
inductive AttPhase where
  /-- In an attribute name, after a colon or not. -/
  | name (hadColon : Bool)
  /-- Blanks after a name, before `=`. -/
  | beforeEq
  /-- After `=`, before the quote. -/
  | beforeValue
  /-- Inside a value opened by a quote of a class. -/
  | value (quote : CharClass)
  /-- Right after the closing quote. -/
  | afterValue
  /-- Blanks after a value. -/
  | between

/-- The attributes of a start tag, from inside the first attribute name on. -/
def scanAtts (inp : Input) : Nat → AttPhase → Nat → Lexeme
  | 0, _, p => .at .truncated p
  | fuel + 1, .name hadColon, p =>
    if !inp.has p then .at .truncated p
    else
      match inp.nameStep p with
      | .partialChar => .at .partialChar p
      | .invalid => .at .invalid p
      | .next q => scanAtts inp fuel (.name hadColon) q
      | .other =>
        match inp.cls p with
        | .colon =>
          if hadColon then .at .invalid p
          else
            let q := p + inp.w
            if !inp.has q then .at .truncated p
            else
              match inp.startStep q with
              | .partialChar => .at .partialChar p
              | .invalid | .other => .at .invalid q
              | .next r => scanAtts inp fuel (.name true) r
        | .space | .cr | .lf => scanAtts inp fuel .beforeEq (p + inp.w)
        | .equals => scanAtts inp fuel .beforeValue (p + inp.w)
        | _ => .at .invalid p
  | fuel + 1, .beforeEq, p =>
    if !inp.has p then .at .truncated p
    else
      match inp.cls p with
      | .equals => scanAtts inp fuel .beforeValue (p + inp.w)
      | .space | .cr | .lf => scanAtts inp fuel .beforeEq (p + inp.w)
      | _ => .at .invalid p
  | fuel + 1, .beforeValue, p =>
    if !inp.has p then .at .truncated p
    else
      match inp.cls p with
      | .quot => scanAtts inp fuel (.value .quot) (p + inp.w)
      | .apos => scanAtts inp fuel (.value .apos) (p + inp.w)
      | .space | .cr | .lf => scanAtts inp fuel .beforeValue (p + inp.w)
      | _ => .at .invalid p
  | fuel + 1, .value quote, p =>
    if !inp.has p then .at .truncated p
    else
      let c := inp.cls p
      if c == quote then scanAtts inp fuel .afterValue (p + inp.w)
      else
        match inp.dataStep p with
        | .partialChar => .at .partialChar p
        | .invalid => .at .invalid p
        | .next q => scanAtts inp fuel (.value quote) q
        | .other =>
          match c with
          | .amp =>
            let l := inp.scanRef (p + inp.w)
            match l.tok with
            | .invalid => .at .invalid l.next
            | .truncated | .partialChar => .at l.tok p
            | _ => scanAtts inp fuel (.value quote) l.next
          | .lt => .at .invalid p
          | _ => scanAtts inp fuel (.value quote) (p + inp.w)
  | fuel + 1, .afterValue, p =>
    if !inp.has p then .at .truncated p
    else
      match inp.cls p with
      | .space | .cr | .lf => scanAtts inp fuel .between (p + inp.w)
      | .slash => inp.closeEmpty .emptyWithAtts p
      | .gt => .at .startTagWithAtts (p + inp.w)
      | _ => .at .invalid p
  | fuel + 1, .between, p =>
    if !inp.has p then .at .truncated p
    else
      match inp.startStep p with
      | .partialChar => .at .partialChar p
      | .invalid => .at .invalid p
      | .next q => scanAtts inp fuel (.name false) q
      | .other =>
        match inp.cls p with
        | .space | .cr | .lf => scanAtts inp fuel .between (p + inp.w)
        | .gt => .at .startTagWithAtts (p + inp.w)
        | .slash => inp.closeEmpty .emptyWithAtts p
        | _ => .at .invalid p

/-- Whether a processing instruction target between two offsets reads `xml`: the token is
then an XML declaration; a target that is `xml` in other cases is refused (`none`). -/
def piTargetTok (inp : Input) (start stop : Nat) : Option Tok :=
  if stop - start != 3 * inp.w then some .pi
  else
    let a := inp.src.asciiAt start
    let b := inp.src.asciiAt (start + inp.w)
    let c := inp.src.asciiAt (start + 2 * inp.w)
    if (a == 0x78 || a == 0x58) && (b == 0x6D || b == 0x4D) && (c == 0x6C || c == 0x4C) then
      if a == 0x78 && b == 0x6D && c == 0x6C then some .xmlDecl else none
    else some .pi

/-- A processing instruction, after `<?`. -/
def scanPi (inp : Input) (target : Nat) : Lexeme :=
  if !inp.has target then .at .truncated target
  else
    match inp.startStep target with
    | .partialChar => .at .partialChar target
    | .invalid | .other => .at .invalid target
    | .next q => name (inp.stop + 1) q
where
  /-- The rest of the target. -/
  name : Nat → Nat → Lexeme
    | 0, p => .at .truncated p
    | fuel + 1, p =>
      if !inp.has p then .at .truncated p
      else
        match inp.nameStep p with
        | .partialChar => .at .partialChar p
        | .invalid => .at .invalid p
        | .next q => name fuel q
        | .other =>
          match inp.cls p with
          | .space | .cr | .lf =>
            match inp.piTargetTok target p with
            | none => .at .invalid p
            | some tok => body tok fuel (p + inp.w)
          | .quest =>
            match inp.piTargetTok target p with
            | none => .at .invalid p
            | some tok =>
              let q := p + inp.w
              if !inp.has q then .at .truncated p
              else if inp.isChar q '>' then .at tok (q + inp.w)
              else .at .invalid q
          | _ => .at .invalid p
  /-- The body, up to `?>`. -/
  body (tok : Tok) : Nat → Nat → Lexeme
    | 0, p => .at .truncated p
    | fuel + 1, p =>
      if !inp.has p then .at .truncated p
      else
        match inp.dataStep p with
        | .partialChar => .at .partialChar p
        | .invalid => .at .invalid p
        | .next q => body tok fuel q
        | .other =>
          if inp.cls p == .quest then
            let q := p + inp.w
            if !inp.has q then .at .truncated p
            else if inp.isChar q '>' then .at tok (q + inp.w)
            else body tok fuel q
          else body tok fuel (p + inp.w)

/-- A tag, comment, CDATA opening or processing instruction, after `<`. -/
def scanLt (inp : Input) (p : Nat) : Lexeme :=
  if !inp.has p then .at .truncated p
  else
    match inp.startStep p with
    | .partialChar => .at .partialChar p
    | .invalid => .at .invalid p
    | .next q => name (inp.stop + 1) false q
    | .other =>
      match inp.cls p with
      | .excl =>
        let q := p + inp.w
        if !inp.has q then .at .truncated p
        else
          match inp.cls q with
          | .minus => inp.scanComment (q + inp.w)
          | .lsqb => inp.scanCdataOpen (q + inp.w)
          | _ => .at .invalid q
      | .quest => inp.scanPi (p + inp.w)
      | .slash => inp.scanEndTag (p + inp.w)
      | _ => .at .invalid p
where
  /-- The rest of the element name. -/
  name : Nat → Bool → Nat → Lexeme
    | 0, _, p => .at .truncated p
    | fuel + 1, hadColon, p =>
      if !inp.has p then .at .truncated p
      else
        match inp.nameStep p with
        | .partialChar => .at .partialChar p
        | .invalid => .at .invalid p
        | .next q => name fuel hadColon q
        | .other =>
          match inp.cls p with
          | .colon =>
            if hadColon then .at .invalid p
            else
              let q := p + inp.w
              if !inp.has q then .at .truncated p
              else
                match inp.startStep q with
                | .partialChar => .at .partialChar p
                | .invalid | .other => .at .invalid q
                | .next r => name fuel true r
          | .space | .cr | .lf => blanks fuel (p + inp.w)
          | .gt => .at .startTagNoAtts (p + inp.w)
          | .slash => inp.closeEmpty .emptyNoAtts p
          | _ => .at .invalid p
  /-- Blanks after the element name. -/
  blanks : Nat → Nat → Lexeme
    | 0, p => .at .truncated p
    | fuel + 1, p =>
      if !inp.has p then .at .truncated p
      else
        match inp.startStep p with
        | .partialChar => .at .partialChar p
        | .invalid => .at .invalid p
        | .next q => inp.scanAtts (inp.stop + 1) (.name false) q
        | .other =>
          match inp.cls p with
          | .gt => .at .startTagNoAtts (p + inp.w)
          | .slash => inp.closeEmpty .emptyNoAtts p
          | .space | .cr | .lf => blanks fuel (p + inp.w)
          | _ => .at .invalid p

/-- Character data from an offset: up to markup, a line end, a character refused, or
`]]>`, which is refused at its `>`. -/
def dataRun (inp : Input) : Nat → Nat → Lexeme
  | 0, p => .at .dataChars p
  | fuel + 1, p =>
    if !inp.has p then .at .dataChars p
    else
      match inp.cls p with
      | .lead2 | .lead3 | .lead4 =>
        let n := Source.leadLength (inp.cls p)
        if inp.stop < p + n || inp.src.seqInvalid p n then .at .dataChars p
        else dataRun inp fuel (p + n)
      | .rsqb =>
        if inp.hasN p 2 then
          if !inp.isChar (p + inp.w) ']' then dataRun inp fuel (p + inp.w)
          else if inp.hasN p 3 then
            if !inp.isChar (p + 2 * inp.w) '>' then dataRun inp fuel (p + inp.w)
            else .at .invalid (p + 2 * inp.w)
          else .at .dataChars p
        else .at .dataChars p
      | .amp | .lt | .nonXml | .malformed | .trail | .cr | .lf => .at .dataChars p
      | _ => dataRun inp fuel (p + inp.w)

/-- A line end at an offset that holds a carriage return: with a line feed after it if
there is one; `truncated` (or the given token) when the return is the last character. -/
def crLine (inp : Input) (atEnd : Tok) (p : Nat) : Lexeme :=
  let q := p + inp.w
  if !inp.has q then .at atEnd p
  else if inp.cls q == .lf then .at .dataNewline (q + inp.w)
  else .at .dataNewline q

/-- The token of element content at an offset. -/
def contentTok (inp : Input) (p : Nat) : Lexeme :=
  if p ≥ inp.stop then .at .none p
  else
    match inp.trimmedFrom p with
    | none => .at .truncated p
    | some inp =>
      match inp.cls p with
      | .lt => inp.scanLt (p + inp.w)
      | .amp => inp.scanRef (p + inp.w)
      | .cr => inp.crLine .trailingCr p
      | .lf => .at .dataNewline (p + inp.w)
      | .rsqb =>
        let q := p + inp.w
        if !inp.has q then .at .trailingRsqb p
        else if !inp.isChar q ']' then inp.dataRun (inp.stop + 1) q
        else
          let r := q + inp.w
          if !inp.has r then .at .trailingRsqb p
          else if !inp.isChar r '>' then inp.dataRun (inp.stop + 1) q
          else .at .invalid r
      | _ =>
        match inp.dataStep p with
        | .partialChar => .at .partialChar p
        | .invalid => .at .invalid p
        | .next q => inp.dataRun (inp.stop + 1) q
        | .other => inp.dataRun (inp.stop + 1) (p + inp.w)

/-- Character data of a CDATA section from an offset. -/
def cdataRun (inp : Input) : Nat → Nat → Lexeme
  | 0, p => .at .dataChars p
  | fuel + 1, p =>
    if !inp.has p then .at .dataChars p
    else
      match inp.cls p with
      | .lead2 | .lead3 | .lead4 =>
        let n := Source.leadLength (inp.cls p)
        if inp.stop < p + n || inp.src.seqInvalid p n then .at .dataChars p
        else cdataRun inp fuel (p + n)
      | .nonXml | .malformed | .trail | .cr | .lf | .rsqb => .at .dataChars p
      | _ => cdataRun inp fuel (p + inp.w)

/-- The token inside a CDATA section at an offset. -/
def cdataTok (inp : Input) (p : Nat) : Lexeme :=
  if p ≥ inp.stop then .at .none p
  else
    match inp.trimmedFrom p with
    | none => .at .truncated p
    | some inp =>
      match inp.cls p with
      | .rsqb =>
        let q := p + inp.w
        if !inp.has q then .at .truncated p
        else if !inp.isChar q ']' then inp.cdataRun (inp.stop + 1) q
        else
          let r := q + inp.w
          if !inp.has r then .at .truncated p
          else if !inp.isChar r '>' then inp.cdataRun (inp.stop + 1) q
          else .at .cdataClose (r + inp.w)
      | .cr => inp.crLine .truncated p
      | .lf => .at .dataNewline (p + inp.w)
      | _ =>
        match inp.dataStep p with
        | .partialChar => .at .partialChar p
        | .invalid => .at .invalid p
        | .next q => inp.cdataRun (inp.stop + 1) q
        | .other => inp.cdataRun (inp.stop + 1) (p + inp.w)

/-- A literal, after its opening quote. After the closing quote only a blank, `>`, `%` or
`[` may follow. -/
def scanLit (inp : Input) (quote : CharClass) : Nat → Nat → Lexeme
  | 0, p => .at .truncated p
  | fuel + 1, p =>
    if !inp.has p then .at .truncated p
    else
      match inp.dataStep p with
      | .partialChar => .at .partialChar p
      | .invalid => .at .invalid p
      | .next q => scanLit inp quote fuel q
      | .other =>
        let c := inp.cls p
        if c == .quot || c == .apos then
          let q := p + inp.w
          if c != quote then scanLit inp quote fuel q
          else if !inp.has q then ⟨.literal, q, true⟩
          else
            match inp.cls q with
            | .space | .cr | .lf | .gt | .percent | .lsqb => .at .literal q
            | _ => .at .invalid q
        else scanLit inp quote fuel (p + inp.w)

/-- A declaration, after `<!`: a comment, a conditional section, or a keyword ended by a
blank or by `%` and a name. -/
def scanDecl (inp : Input) (p : Nat) : Lexeme :=
  if !inp.has p then .at .truncated p
  else
    match inp.cls p with
    | .minus => inp.scanComment (p + inp.w)
    | .lsqb => .at .condSectOpen (p + inp.w)
    | .nameStart | .hex => go (inp.stop + 1) (p + inp.w)
    | _ => .at .invalid p
where
  /-- The rest of the keyword. -/
  go : Nat → Nat → Lexeme
    | 0, p => .at .truncated p
    | fuel + 1, p =>
      if !inp.has p then .at .truncated p
      else
        match inp.cls p with
        | .percent =>
          if !inp.hasN p 2 then .at .truncated p
          else
            match inp.cls (p + inp.w) with
            | .space | .cr | .lf | .percent => .at .invalid p
            | _ => .at .declOpen p
        | .space | .cr | .lf => .at .declOpen p
        | .nameStart | .hex => go fuel (p + inp.w)
        | _ => .at .invalid p

/-- A parameter entity reference or a lone `%`, after `%`. -/
def scanPercent (inp : Input) (p : Nat) : Lexeme :=
  if !inp.has p then .at .truncated p
  else
    match inp.startStep p with
    | .partialChar => .at .partialChar p
    | .invalid => .at .invalid p
    | .next q => name (inp.stop + 1) q
    | .other =>
      match inp.cls p with
      | .space | .lf | .cr | .percent => .at .percent p
      | _ => .at .invalid p
where
  /-- The rest of the name. -/
  name : Nat → Nat → Lexeme
    | 0, p => .at .truncated p
    | fuel + 1, p =>
      if !inp.has p then .at .truncated p
      else
        match inp.nameStep p with
        | .partialChar => .at .partialChar p
        | .invalid => .at .invalid p
        | .next q => name fuel q
        | .other => if inp.cls p == .semi then .at .paramEntityRef (p + inp.w) else .at .invalid p

/-- A keyword such as `#PCDATA`, after `#`. -/
def scanPoundName (inp : Input) (p : Nat) : Lexeme :=
  if !inp.has p then .at .truncated p
  else
    match inp.startStep p with
    | .partialChar => .at .partialChar p
    | .invalid | .other => .at .invalid p
    | .next q => go (inp.stop + 1) q
where
  /-- The rest of the name. -/
  go : Nat → Nat → Lexeme
    | 0, p => ⟨.poundName, p, true⟩
    | fuel + 1, p =>
      if !inp.has p then ⟨.poundName, p, true⟩
      else
        match inp.nameStep p with
        | .partialChar => .at .partialChar p
        | .invalid => .at .invalid p
        | .next q => go fuel q
        | .other =>
          match inp.cls p with
          | .cr | .lf | .space | .rpar | .gt | .percent | .bar => .at .poundName p
          | _ => .at .invalid p

/-- Blanks of the prolog from an offset; a carriage return that is the last character is
left for a token of its own. -/
def prologBlanks (inp : Input) : Nat → Nat → Lexeme
  | 0, p => .at .prologSpace p
  | fuel + 1, p =>
    if !inp.has p then .at .prologSpace p
    else
      match inp.cls p with
      | .space | .lf => prologBlanks inp fuel (p + inp.w)
      | .cr => if p + inp.w != inp.stop then prologBlanks inp fuel (p + inp.w) else .at .prologSpace p
      | _ => .at .prologSpace p

/-- The rest of a name or name token of the prolog. A name that runs to the end is cut. -/
def prologName (inp : Input) : Nat → Tok → Nat → Lexeme
  | 0, tok, p => ⟨tok, p, true⟩
  | fuel + 1, tok, p =>
    if !inp.has p then ⟨tok, p, true⟩
    else
      match inp.nameStep p with
      | .partialChar => .at .partialChar p
      | .invalid => .at .invalid p
      | .next q => prologName inp fuel tok q
      | .other =>
        match inp.cls p with
        | .gt | .rpar | .comma | .bar | .lsqb | .percent | .space | .cr | .lf => .at tok p
        | .colon =>
          let q := p + inp.w
          match tok with
          | .name =>
            if !inp.has q then .at .truncated p
            else
              match inp.nameStep q with
              | .partialChar => .at .partialChar p
              | .invalid => .at .invalid q
              | .next r => prologName inp fuel .prefixedName r
              | .other => prologName inp fuel .nmtoken q
          | .prefixedName => prologName inp fuel .nmtoken q
          | _ => prologName inp fuel tok q
        | .plus => if tok == .nmtoken then .at .invalid p else .at .namePlus (p + inp.w)
        | .star => if tok == .nmtoken then .at .invalid p else .at .nameAsterisk (p + inp.w)
        | .quest => if tok == .nmtoken then .at .invalid p else .at .nameQuestion (p + inp.w)
        | _ => .at .invalid p

/-- The token of the prolog (or of what follows the root element) at an offset. -/
def prologTok (inp : Input) (p : Nat) : Lexeme :=
  if p ≥ inp.stop then .at .none p
  else
    match inp.trimmedFrom p with
    | none => .at .truncated p
    | some inp =>
      let w := inp.w
      let fuel := inp.stop + 1
      match inp.cls p with
      | .quot => inp.scanLit .quot fuel (p + w)
      | .apos => inp.scanLit .apos fuel (p + w)
      | .lt =>
        let q := p + w
        if !inp.has q then .at .truncated p
        else
          match inp.cls q with
          | .excl => inp.scanDecl (q + w)
          | .quest => inp.scanPi (q + w)
          | .nameStart | .hex | .wide | .lead2 | .lead3 | .lead4 => .at .instanceStart p
          | _ => .at .invalid q
      | .cr =>
        if p + w == inp.stop then ⟨.prologSpace, inp.stop, true⟩
        else inp.prologBlanks fuel (p + w)
      | .space | .lf => inp.prologBlanks fuel (p + w)
      | .percent => inp.scanPercent (p + w)
      | .comma => .at .comma (p + w)
      | .lsqb => .at .openBracket (p + w)
      | .rsqb =>
        let q := p + w
        if !inp.has q then ⟨.closeBracket, q, true⟩
        else if inp.isChar q ']' then
          if !inp.hasN q 2 then .at .truncated p
          else if inp.isChar (q + w) '>' then .at .condSectClose (q + 2 * w)
          else .at .closeBracket q
        else .at .closeBracket q
      | .lpar => .at .openParen (p + w)
      | .rpar =>
        let q := p + w
        if !inp.has q then ⟨.closeParen, q, true⟩
        else
          match inp.cls q with
          | .star => .at .closeParenAsterisk (q + w)
          | .quest => .at .closeParenQuestion (q + w)
          | .plus => .at .closeParenPlus (q + w)
          | .cr | .lf | .space | .gt | .comma | .bar | .rpar => .at .closeParen q
          | _ => .at .invalid q
      | .bar => .at .bar (p + w)
      | .gt => .at .declClose (p + w)
      | .hash => inp.scanPoundName (p + w)
      | .lead2 | .lead3 | .lead4 =>
        let n := Source.leadLength (inp.cls p)
        if inp.stop < p + n then .at .partialChar p
        else if inp.src.seqInvalid p n then .at .invalid p
        else if inp.src.seqStartsName p n then inp.prologName fuel .name (p + n)
        else if inp.src.seqContinuesName p n then inp.prologName fuel .nmtoken (p + n)
        else .at .invalid p
      | .nameStart | .hex => inp.prologName fuel .name (p + w)
      | .digit | .nameChar | .minus | .colon => inp.prologName fuel .nmtoken (p + w)
      | .wide =>
        if inp.src.wideStartsName p then inp.prologName fuel .name (p + w)
        else if inp.src.wideContinuesName p then inp.prologName fuel .nmtoken (p + w)
        else .at .invalid p
      | _ => .at .invalid p

/-- Whether a token is a line end, a blank or plain data of a value at its start. -/
def valueBreak (inp : Input) (start p : Nat) (c : CharClass) : Option Lexeme :=
  match c with
  | .lf => some (if p == start then .at .dataNewline (p + inp.w) else .at .dataChars p)
  | .cr => some (if p == start then inp.crLine .trailingCr p else .at .dataChars p)
  | _ => none

/-- The token of an attribute value (already scanned once) at an offset. -/
def valueTok (inp : Input) (p : Nat) : Lexeme :=
  if p ≥ inp.stop then .at .none p
  else if !inp.has p then .at .truncated p
  else go (inp.stop + 1) p
where
  /-- Data from an offset. -/
  go : Nat → Nat → Lexeme
    | 0, q => .at .dataChars q
    | fuel + 1, q =>
      if !inp.has q then .at .dataChars q
      else
        let c := inp.cls q
        match c with
        | .lead2 | .lead3 | .lead4 => go fuel (q + Source.leadLength c)
        | .amp => if q == p then inp.scanRef (q + inp.w) else .at .dataChars q
        | .lt => .at .invalid q
        | .space => if q == p then .at .valueSpace (q + inp.w) else .at .dataChars q
        | _ =>
          match inp.valueBreak p q c with
          | some l => l
          | none => go fuel (q + inp.w)

/-- The token of an entity value (already scanned once) at an offset. A `%` that does not
start a parameter entity reference is refused. -/
def entityValueTok (inp : Input) (p : Nat) : Lexeme :=
  if p ≥ inp.stop then .at .none p
  else if !inp.has p then .at .truncated p
  else go (inp.stop + 1) p
where
  /-- Data from an offset. -/
  go : Nat → Nat → Lexeme
    | 0, q => .at .dataChars q
    | fuel + 1, q =>
      if !inp.has q then .at .dataChars q
      else
        let c := inp.cls q
        match c with
        | .lead2 | .lead3 | .lead4 => go fuel (q + Source.leadLength c)
        | .amp => if q == p then inp.scanRef (q + inp.w) else .at .dataChars q
        | .percent =>
          if q == p then
            let l := inp.scanPercent (q + inp.w)
            if l.tok == .percent then .at .invalid l.next else l
          else .at .dataChars q
        | _ =>
          match inp.valueBreak p q c with
          | some l => l
          | none => go fuel (q + inp.w)

end Input

end MacroDoc.Xml.WellFormed
