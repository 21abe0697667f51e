import MacroDoc.Xml.Node
import MacroDoc.Xml.Opening
import MacroDoc.Text.Xml
import MacroDoc.Fault

/-!
# Parsing XML

A part is opened (see `Xml.openPart`: its encoding and its XML declaration) and then parsed
in one pass from left to right: a prolog of white space, comments, processing instructions
and a document type declaration, one root element, and after it only white space, comments
and processing instructions. Inside elements come text, character and entity references,
CDATA sections, comments, processing instructions and child elements; an end tag must name
the element it closes. Attribute values have their white space made blanks and their
references replaced; a `<` may not stand in them, and an attribute may not be given twice.
Carriage returns, alone or before a line feed, are read as line feeds.

Entities other than the five predefined ones are those the internal subset of the document
type declares. A reference to one is kept in content as a place that ends the text before
it, as comments are, and is replaced by the entity's literal value in an attribute. A
reference to an entity nobody declares is refused, unless the document type has an
external part or the subset refers to parameter entities, and the document does not stand
alone: the entity may then be declared where the parser does not look.

The first problem met stops the parse, at the position where it was found: a token the
input ends inside is unclosed from where it starts, a character that cannot continue a
token is refused where it stands. A character that cannot be read at all (see
`Xml.Opened`) is refused when the parse comes to it, before any problem found after it. A
prefix that nothing binds is kept as part of the name.

## Main definitions

* `Xml.Entities`: the entities a document type declares.
* `Xml.parse`: parse the bytes of a part into its root element.
-/

namespace MacroDoc.Xml

/-- A name split at its first colon into prefix and local part. -/
def splitName (raw : String) : Option String × String :=
  match raw.splitOn ":" with
  | [l] => (none, l)
  | p :: rest => (some p, ":".intercalate rest)
  | [] => (none, raw)

/-- The local part of a name as written: what follows its first colon, or the whole name. -/
def localPart (raw : String) : String := (splitName raw).2

/-- Whether a character may start a name. -/
def isNameStart (c : Char) : Bool :=
  let n := c.toNat
  c.isAlpha || c == '_' || c == ':' || (0xC0 ≤ n && n ≤ 0xD6) || (0xD8 ≤ n && n ≤ 0xF6) ||
    (0xF8 ≤ n && n ≤ 0x2FF) || (0x370 ≤ n && n ≤ 0x37D) || (0x37F ≤ n && n ≤ 0x1FFF) ||
    (0x200C ≤ n && n ≤ 0x200D) || (0x2070 ≤ n && n ≤ 0x218F) || (0x2C00 ≤ n && n ≤ 0x2FEF) ||
    (0x3001 ≤ n && n ≤ 0xD7FF) || (0xF900 ≤ n && n ≤ 0xFDCF) || (0xFDF0 ≤ n && n ≤ 0xFFFD) ||
    (0x10000 ≤ n && n ≤ 0xEFFFF)

/-- Whether a character may continue a name. -/
def isNameChar (c : Char) : Bool :=
  let n := c.toNat
  isNameStart c || c.isDigit || c == '-' || c == '.' || n == 0xB7 ||
    (0x300 ≤ n && n ≤ 0x36F) || (0x203F ≤ n && n ≤ 0x2040)

/-- The end of the name that starts at a position. -/
def nameEnd (cs : Chars) (i : Nat) : Nat := scanWhile cs isNameChar cs.size i

/-- The first position from `i` on where a text starts. -/
def findFrom (cs : Chars) (s : String) : Nat → Nat → Option Nat
  | 0, _ => none
  | fuel + 1, i =>
    if i ≥ cs.size then none
    else if startsAt cs i s then some i else findFrom cs s fuel (i + 1)

/-- The first character that XML does not allow between two positions. -/
def firstNonXml (cs : Chars) (i j : Nat) : Option Nat :=
  ((List.range (j - i)).map (· + i)).find? fun k => !(Text.isXmlChar (cs[k]?.getD ' '))

/-- The text of the predefined entities. -/
def predefined (name : String) : Option String :=
  if name == "lt" then some "<" else if name == "gt" then some ">"
  else if name == "amp" then some "&" else if name == "quot" then some "\""
  else if name == "apos" then some "'" else none

/-- The value of digits in a base, capped just above the largest character. -/
def digitsValue (cs : Chars) (base i j : Nat) : Nat :=
  ((List.range (j - i)).map (· + i)).foldl (fun acc k =>
    let c := cs[k]?.getD '0'
    let d := if c.isDigit then c.toNat - 48
      else if 'a' ≤ c && c ≤ 'f' then c.toNat - 87 else c.toNat - 55
    min (acc * base + d) 0x110000) 0

/-- Whether a character is a hexadecimal digit. -/
def isHexDigit (c : Char) : Bool :=
  c.isDigit || ('a' ≤ c && c ≤ 'f') || ('A' ≤ c && c ≤ 'F')

/-- The general entities a document type declares, with their literal values, and whether
a reference to an entity nobody declares is let pass. -/
structure Entities where
  declared : List (String × String) := []
  tolerant : Bool := false

/-- What a reference stands for: text, or an entity other than the predefined ones, with its
literal value when it is declared. -/
inductive Reference where
  | text (s : String)
  | entity (value : Option String)

/-- Read a reference that starts with `&` at a position: what it stands for and the
position after it. -/
def readRef (ents : Entities) (cs : Chars) (i : Nat) : Except ParseFault (Reference × Nat) :=
  let unclosed := ParseFault.mk (.unclosedToken "EntityRef: expecting ';'") i
  match cs[i + 1]? with
  | none => .error unclosed
  | some '#' =>
    let hex := cs[i + 2]? == some 'x'
    let start := if hex then i + 3 else i + 2
    let stop := scanWhile cs (if hex then isHexDigit else Char.isDigit) cs.size start
    match cs[stop]? with
    | none => .error unclosed
    | some c =>
      if stop == start || c != ';' then
        .error ⟨.invalidToken "CharRef: invalid decimal value", stop⟩
      else
        let value := digitsValue cs (if hex then 16 else 10) start stop
        let ch := Char.ofNat value
        if value == 0 || value ≥ 0x110000 || ch.toNat != value || !(Text.isXmlChar ch) then
          .error ⟨.badCharRef value, i⟩
        else .ok (.text (String.singleton ch), stop + 1)
  | some c =>
    if !isNameStart c then .error ⟨.invalidToken "xmlParseEntityRef: no name", i + 1⟩
    else
      let stop := nameEnd cs (i + 1)
      match cs[stop]? with
      | none => .error unclosed
      | some ';' =>
        let name := between cs (i + 1) stop
        match predefined name with
        | some s => .ok (.text s, stop + 1)
        | none =>
          match ents.declared.lookup name with
          | some value => .ok (.entity (some value), stop + 1)
          | none =>
            if ents.tolerant then .ok (.entity none, stop + 1)
            else .error ⟨.undefinedEntity name, i⟩
      | some _ => .error ⟨.invalidToken "EntityRef: expecting ';'", stop⟩

/-- Read the text of content from a position up to the next markup or reference: line ends
made line feeds, a character XML does not allow and the sequence `]]>` refused. -/
def readText (cs : Chars) : Nat → Nat → List Char → Except ParseFault (String × Nat)
  | 0, i, acc => .ok (String.ofList acc.reverse, i)
  | fuel + 1, i, acc =>
    match cs[i]? with
    | none => .ok (String.ofList acc.reverse, i)
    | some c =>
      if c == '<' || c == '&' then .ok (String.ofList acc.reverse, i)
      else if !(Text.isXmlChar c) then
        .error ⟨.invalidToken ("PCDATA invalid Char value " ++ toString c.toNat), i⟩
      else if c == ']' && startsAt cs i "]]>" then
        .error ⟨.invalidToken "Sequence ']]>' not allowed in content", i + 2⟩
      else if c == '\r' then
        readText cs fuel (if cs[i + 1]? == some '\n' then i + 2 else i + 1) ('\n' :: acc)
      else readText cs fuel (i + 1) (c :: acc)

/-- Read an attribute value after its opening quote, up to the closing quote: white space
made blanks, references replaced. `tag` is where the tag starts. -/
def readValue (ents : Entities) (cs : Chars) (tag : Nat) (quote : Char) :
    Nat → Nat → List Char → Except ParseFault (String × Nat)
  | 0, _, _ => .error ⟨.unclosedToken "AttValue: ' expected", tag⟩
  | fuel + 1, i, acc =>
    match cs[i]? with
    | none => .error ⟨.unclosedToken "AttValue: ' expected", tag⟩
    | some c =>
      if c == quote then .ok (String.ofList acc.reverse, i + 1)
      else if c == '<' then
        .error ⟨.invalidToken "Unescaped '<' not allowed in attributes values", i⟩
      else if c == '&' then
        match readRef ents cs i with
        | .error e => .error e
        | .ok (r, next) =>
          let s := match r with
            | .text s => s
            | .entity value => value.getD ""
          readValue ents cs tag quote fuel next (s.toList.reverse ++ acc)
      else if !(Text.isXmlChar c) then
        .error ⟨.invalidToken ("invalid character in attribute value"), i⟩
      else if c == '\r' then
        readValue ents cs tag quote fuel (if cs[i + 1]? == some '\n' then i + 2 else i + 1) (' ' :: acc)
      else if isSpace c then readValue ents cs tag quote fuel (i + 1) (' ' :: acc)
      else readValue ents cs tag quote fuel (i + 1) (c :: acc)

/-- A start tag as written: its name, its attributes with where each name starts, whether
it closes itself, and the position after it. -/
structure Tag where
  raw : String
  attrs : List (String × String × Nat)
  empty : Bool
  next : Nat

/-- The refusal of a start tag that the input ends inside, with the line where it starts. -/
def startTagUnclosed (cs : Chars) (tag : Nat) (raw : String) : ParseFault :=
  ⟨.unclosedToken ("Couldn't find end of Start Tag " ++ localPart raw ++ " line " ++
    toString (lineOf cs tag)), tag⟩

/-- Read the attributes of a start tag from a position. `tag` is where the tag starts. -/
def readAttrs (ents : Entities) (cs : Chars) (tag : Nat) (raw : String) :
    Nat → Nat → List (String × String × Nat) → Except ParseFault Tag
  | 0, _, _ => .error ⟨.unclosedToken ("Couldn't find end of Start Tag " ++ localPart raw), tag⟩
  | fuel + 1, i, acc =>
    let j := spaceEnd cs i
    match cs[j]? with
    | none => .error (startTagUnclosed cs tag raw)
    | some '>' => .ok ⟨raw, acc.reverse, false, j + 1⟩
    | some '/' =>
      match cs[j + 1]? with
      | none => .error (startTagUnclosed cs tag raw)
      | some '>' => .ok ⟨raw, acc.reverse, true, j + 2⟩
      | some _ => .error ⟨.invalidToken "attributes construct error", j + 1⟩
    | some c =>
      if j == i || !isNameStart c then .error ⟨.invalidToken "attributes construct error", j⟩
      else
        let nameStop := nameEnd cs j
        let name := between cs j nameStop
        let eq := spaceEnd cs nameStop
        match cs[eq]? with
        | none => .error (startTagUnclosed cs tag raw)
        | some '=' =>
          let q := spaceEnd cs (eq + 1)
          match cs[q]? with
          | none => .error (startTagUnclosed cs tag raw)
          | some quote =>
            if quote != '"' && quote != '\'' then
              .error ⟨.invalidToken "AttValue: \" or ' expected", q⟩
            else
              match readValue ents cs tag quote cs.size (q + 1) [] with
              | .error e => .error e
              | .ok (value, next) => readAttrs ents cs tag raw fuel next ((name, value, j) :: acc)
        | some _ =>
          .error ⟨.invalidToken ("Specification mandates value for attribute " ++ name), eq⟩

/-- Read a start tag at a position, which holds `<`. -/
def readTag (ents : Entities) (cs : Chars) (i : Nat) : Except ParseFault Tag :=
  match cs[i + 1]? with
  | none => .error ⟨.unclosedToken "StartTag: invalid element name", i⟩
  | some c =>
    if !isNameStart c then .error ⟨.invalidToken "StartTag: invalid element name", i + 1⟩
    else
      let stop := nameEnd cs (i + 1)
      readAttrs ents cs i (between cs (i + 1) stop) cs.size stop []

/-- The first attribute given twice, by where its second name starts. -/
def firstDuplicate : List (String × String × Nat) → List String → Option (String × Nat)
  | [], _ => none
  | (name, _, pos) :: rest, seen =>
    if seen.contains name then some (name, pos) else firstDuplicate rest (name :: seen)

/-- The namespace bindings in scope: prefix and namespace, the latest first; the empty
prefix is the default namespace. -/
abbrev Scope := List (String × String)

/-- The namespace of a prefix in a scope. -/
def Scope.lookup (scope : Scope) (pre : String) : Option String :=
  if pre == "xml" then some xmlSpace else (scope.find? (·.1 == pre)).map (·.2)

/-- Resolve a name of an element (which takes the default namespace) or of an attribute; a
prefix that nothing binds stays in the name. -/
def resolveName (scope : Scope) (raw : String) (isElement : Bool) : Name :=
  match splitName raw with
  | (none, l) => if isElement then ⟨(scope.lookup "").getD "", l⟩ else ⟨"", l⟩
  | (some pre, l) =>
    match scope.lookup pre with
    | some space => ⟨space, l⟩
    | none => ⟨"", raw⟩

/-- The scope inside an element: its namespace declarations added. A prefix declared with an
empty namespace is left as it was. -/
def declare (scope : Scope) : List (String × String × Nat) → Scope
  | [] => scope
  | (name, value, _) :: rest =>
    if name == "xmlns" then declare (("", value) :: scope) rest
    else if name.startsWith "xmlns:" then
      let pre := String.ofList (name.toList.drop 6)
      if value.isEmpty then declare scope rest else declare ((pre, value) :: scope) rest
    else declare scope rest

/-- An element whose end tag has not been read yet. -/
structure Open where
  raw : String
  name : Name
  attrs : List (Name × String)
  scope : Scope
  /-- The children read so far, the last first. -/
  children : List Node
  /-- Where its start tag is. -/
  start : Nat

/-- Where a parse stands: the position, the open elements (innermost first), and the root
once it is closed. -/
structure State where
  pos : Nat
  stack : List Open
  root : Option Node
  /-- Whether the document says it stands alone. -/
  standalone : Bool := false
  entities : Entities := {}

/-- Open an element from its start tag, or add it whole when it closes itself. -/
def State.openTag (st : State) (i : Nat) (t : Tag) : Except ParseFault State := do
  if let some (name, pos) := firstDuplicate t.attrs [] then
    .error ⟨.duplicateAttribute name, pos⟩
  let outer := match st.stack with
    | top :: _ => top.scope
    | [] => []
  let scope := declare outer t.attrs
  let name := resolveName scope t.raw true
  let plain := t.attrs.filter fun (n, _, _) => n != "xmlns" && !n.startsWith "xmlns:"
  let attrs := plain.map fun (n, v, _) => (resolveName scope n false, v)
  let el : Open := ⟨t.raw, name, attrs, scope, [], i⟩
  if t.empty then
    match st.stack with
    | [] => .ok { st with pos := t.next, root := some (.element name attrs []) }
    | top :: rest =>
      .ok { st with pos := t.next,
                    stack := { top with children := .element name attrs [] :: top.children } :: rest }
  else .ok { st with pos := t.next, stack := el :: st.stack }

/-- Add a node to the innermost open element. -/
def State.add (st : State) (n : Node) (next : Nat) : State :=
  match st.stack with
  | top :: rest => { st with pos := next, stack := { top with children := n :: top.children } :: rest }
  | [] => { st with pos := next }

/-- Close the innermost open element with the end tag at a position. -/
def State.closeTag (cs : Chars) (st : State) (i : Nat) : Except ParseFault State :=
  let nameStart := i + 2
  match cs[nameStart]? with
  | none => .error ⟨.unclosedToken "expected '>'", i⟩
  | some c =>
    if !isNameStart c then .error ⟨.invalidToken "StartTag: invalid element name", nameStart⟩
    else
      let stop := nameEnd cs nameStart
      let closed := between cs nameStart stop
      let gt := spaceEnd cs stop
      match cs[gt]? with
      | none => .error ⟨.unclosedToken "expected '>'", i⟩
      | some d =>
        if d != '>' then .error ⟨.invalidToken "expected '>'", gt⟩
        else match st.stack with
          | [] => .error ⟨.junk, i⟩
          | top :: rest =>
            if closed != top.raw then
              let (openPrefix, openLocal) := splitName top.raw
              let closedShown := if openPrefix.isSome then localPart closed else closed
              .error ⟨.mismatched openLocal (lineOf cs top.start) closedShown, gt + 1⟩
            else
              let node := Node.element top.name top.attrs top.children.reverse
              match rest with
              | [] => .ok { st with pos := gt + 1, stack := [], root := some node }
              | parent :: more =>
                .ok { st with pos := gt + 1,
                              stack := { parent with children := node :: parent.children } :: more }

/-- Skip a processing instruction at a position. The target `xml` is the declaration, which
may only stand at the start, where it is read before the parse. -/
def skipInstruction (cs : Chars) (i : Nat) : Except ParseFault Nat :=
  match cs[i + 2]? with
  | none => .error ⟨.unclosedToken "xmlParsePI : no target name", i⟩
  | some c =>
    if !isNameStart c then .error ⟨.invalidToken "xmlParsePI : no target name", i + 2⟩
    else
      let stop := nameEnd cs (i + 2)
      let target := between cs (i + 2) stop
      if target == "xml" then .error ⟨.misplacedDeclaration, i⟩
      else match findFrom cs "?>" cs.size stop with
        | none => .error ⟨.unclosedToken "PI not terminated", i⟩
        | some k => .ok (k + 2)

/-- Skip a comment at a position. -/
def skipComment (cs : Chars) (i : Nat) : Except ParseFault Nat :=
  match findFrom cs "-->" cs.size (i + 4) with
  | none => .error ⟨.unclosedToken "Comment not terminated", i⟩
  | some k => .ok (k + 3)

/-- The position after the `>` that ends a declaration of the internal subset, quoted values
skipped; the end of the subset when there is none. -/
def declarationEnd (cs : Chars) (stop : Nat) : Nat → Nat → Option Char → Nat
  | 0, i, _ => i
  | fuel + 1, i, quote =>
    if i ≥ stop then stop
    else
      let c := cs[i]?.getD ' '
      match quote with
      | some q => declarationEnd cs stop fuel (i + 1) (if c == q then none else some q)
      | none =>
        if c == '>' then i + 1
        else if c == '"' || c == '\'' then declarationEnd cs stop fuel (i + 1) (some c)
        else declarationEnd cs stop fuel (i + 1) none

/-- What the internal subset of a document type declares: its general entities, the first
declaration of a name winning, and whether it refers to parameter entities. -/
structure Subset where
  entities : List (String × String) := []
  parameterRefs : Bool := false

/-- An entity declaration of the internal subset at a position, from `<!ENTITY`: a general
entity's name and its literal value (empty for an external one), none for a parameter
entity. -/
def entityDeclaration (cs : Chars) (i : Nat) : Option (String × String) :=
  let j := spaceEnd cs (i + 8)
  if cs[j]? == some '%' then none
  else
    let stop := nameEnd cs j
    let name := between cs j stop
    let k := spaceEnd cs stop
    match cs[k]? with
    | some q =>
      if q == '"' || q == '\'' then
        let close := scanWhile cs (· != q) cs.size (k + 1)
        some (name, between cs (k + 1) close)
      else some (name, "")
    | none => some (name, "")

/-- Read the internal subset between two positions. -/
def scanSubset (cs : Chars) (stop : Nat) : Nat → Nat → Subset → Subset
  | 0, _, acc => acc
  | fuel + 1, i, acc =>
    if i ≥ stop then acc
    else if startsAt cs i "<!--" then
      scanSubset cs stop fuel (((findFrom cs "-->" stop (i + 4)).map (· + 3)).getD stop) acc
    else if startsAt cs i "<!ENTITY" then
      let acc := match entityDeclaration cs i with
        | some (name, value) =>
          if (acc.entities.lookup name).isSome then acc
          else { acc with entities := acc.entities ++ [(name, value)] }
        | none => acc
      scanSubset cs stop fuel (declarationEnd cs stop stop (i + 8) none) acc
    else if cs[i]? == some '<' then scanSubset cs stop fuel (declarationEnd cs stop stop (i + 1) none) acc
    else if cs[i]? == some '%' then scanSubset cs stop fuel (i + 1) { acc with parameterRefs := true }
    else scanSubset cs stop fuel (i + 1) acc

/-- Whether a text stands between two positions as a word. -/
def holdsKeyword (cs : Chars) (i j : Nat) (word : String) : Bool :=
  ((List.range (j - i)).map (· + i)).any fun k => startsAt cs k word

/-- Read a document type declaration at a position, with its internal subset: the position
after it, the entities it declares, and whether it has an external part or refers to
parameter entities. -/
def readDoctype (cs : Chars) (i : Nat) : Except ParseFault (Nat × Subset × Bool) :=
  let bracket := findFrom cs "[" cs.size i
  let gt := findFrom cs ">" cs.size i
  let (close, subset, headEnd) := match bracket, gt with
    | some b, some g =>
      if b < g then
        let closing := findFrom cs "]" cs.size b
        (closing.bind (findFrom cs ">" cs.size ·),
          scanSubset cs (closing.getD cs.size) cs.size (b + 1) {}, b)
      else (some g, {}, g)
    | _, g => (g, {}, g.getD cs.size)
  let external := holdsKeyword cs i headEnd "SYSTEM" || holdsKeyword cs i headEnd "PUBLIC"
  match close with
  | none => .error ⟨.unclosedToken "DOCTYPE improperly terminated", i⟩
  | some k => .ok (k + 1, subset, external)

/-- One step of the parse: read the next token. Gives none once the input is read whole. -/
def step (cs : Chars) (st : State) : Except ParseFault (Option State) :=
  let i := st.pos
  match cs[i]? with
  | none =>
    match st.stack, st.root with
    | top :: _, _ => .error ⟨.unclosedElement (localPart top.raw) (lineOf cs top.start), i⟩
    | [], none => .error ⟨if cs.isEmpty then .emptyDocument else .noRoot, i⟩
    | [], some _ => .ok none
  | some c =>
    match st.stack with
    | [] =>
      if isSpace c then .ok (some { st with pos := i + 1 })
      else if startsAt cs i "<?" then do
        return some { st with pos := ← skipInstruction cs i }
      else if startsAt cs i "<!--" then do return some { st with pos := ← skipComment cs i }
      else if st.root.isSome then .error ⟨.junk, i⟩
      else if startsAt cs i "<!DOCTYPE" then do
        let (next, subset, external) ← readDoctype cs i
        let tolerant := !st.standalone && (external || subset.parameterRefs)
        return some { st with pos := next, entities := ⟨subset.entities, tolerant⟩ }
      else if c == '<' then do return some (← st.openTag i (← readTag st.entities cs i))
      else .error ⟨.textBeforeRoot, i⟩
    | _ :: _ =>
      if startsAt cs i "</" then do return some (← st.closeTag cs i)
      else if startsAt cs i "<!--" then do return some (st.add .aside (← skipComment cs i))
      else if startsAt cs i "<![CDATA[" then
        match findFrom cs "]]>" cs.size (i + 9) with
        | none => .error ⟨.unclosedCData, cs.size⟩
        | some k =>
          match firstNonXml cs (i + 9) k with
          | some bad => .error ⟨.invalidToken "CData section not finished", bad⟩
          | none => .ok (some (st.add (.text (between cs (i + 9) k)) (k + 3)))
      else if startsAt cs i "<?" then do
        return some (st.add .aside (← skipInstruction cs i))
      else if c == '<' then do return some (← st.openTag i (← readTag st.entities cs i))
      else if c == '&' then do
        match ← readRef st.entities cs i with
        | (.text s, next) => return some (st.add (.text s) next)
        | (.entity _, next) => return some (st.add .aside next)
      else do
        let (s, next) ← readText cs cs.size i []
        return some (st.add (.text s) next)

/-- Parse steps until the input is read; the fuel bounds the steps, and every step reads at
least one character. -/
def run (cs : Chars) : Nat → State → Except ParseFault Node
  | 0, st => .error ⟨.noRoot, st.pos⟩
  | fuel + 1, st =>
    match step cs st with
    | .error e => .error e
    | .ok none => match st.root with
      | some n => .ok n
      | none => .error ⟨.noRoot, st.pos⟩
    | .ok (some next) => run cs fuel next

/-- Parse the bytes of a part into its root element. A character that cannot be read is
refused when the parse reaches it: when the parse finds no problem before it. -/
def parse (b : ByteArray) : Except Fault Node :=
  let o := openPart b
  let cs := o.chars
  match o.fault with
  | some f => .error (f.toFault cs)
  | none =>
    let first : State := { pos := o.start, stack := [], root := none, standalone := o.standalone }
    let outcome := run cs (cs.size + 2) first
    match o.unreadable, outcome with
    | some u, .ok _ => .error (u.toFault cs)
    | some u, .error e =>
      .error ((if u.pos ≤ e.foundAt cs.size then u else e).toFault cs)
    | none, .ok n => .ok n
    | none, .error e => .error (e.toFault cs)

end MacroDoc.Xml
