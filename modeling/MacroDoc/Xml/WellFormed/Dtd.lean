import MacroDoc.Xml.WellFormed.Token
import MacroDoc.Xml.WellFormed.Codec

/-!
# What the internal subset declares, and attribute values

The internal subset of a document type declaration declares general entities (with a
replacement text, external, or unparsed with a notation), parameter entities, and defaults
of attributes. The reader keeps the general entities and the attribute defaults; the first
declaration of a name wins. A parameter entity reference between declarations is not
followed: it makes references to undeclared entities in content be skipped instead of
refused, and, unless the document is standalone, it stops the reader from taking in later
declarations.

The replacement text of an entity is stored as UTF-8 with its character references
replaced and its line ends made line feeds; entity references stay as written. An attribute
value is normalized: references replaced (entities by their text, read in turn), line ends
and blanks made spaces, and for an attribute declared of another type than `CDATA` leading,
trailing and repeated spaces dropped.

The reader counts the bytes of the tokens it reads, from the document and from entity
texts. Once the two counts together reach 8 MiB, the reader stops when they are more than
a hundred times the bytes read from the document.

## Main definitions

* `Flaw`, `Halt`: why and where the reader stops.
* `Entity`, `AttDefault`, `Dtd`: what the internal subset declares.
* `Tally`: the counts of bytes read.
* `entityText`: the replacement text of an entity value.
* `valueText`: a normalized attribute value.
* `bindingFlaw`: what is wrong with binding a prefix to a namespace.
-/

namespace MacroDoc.Xml.WellFormed

/-- The flaws of markup the strict reader stops at. -/
inductive Flaw where
  | syntaxError | noElements | invalidToken | unclosedToken | partialChar | tagMismatch
  | duplicateAttribute | junkAfterRoot | paramEntityRef | undefinedEntity
  | recursiveEntityRef | asyncEntity | badCharRef | binaryEntityRef
  | externalEntityInAttribute | misplacedDeclaration | unknownEncoding | incorrectEncoding
  | unclosedCData | unboundPrefix | undeclaringPrefix | xmlDeclaration | publicId
  | reservedXmlPrefix | reservedXmlnsPrefix | reservedNamespace | amplification
  deriving DecidableEq, Repr, Inhabited

/-- The words of a flaw. -/
def Flaw.words : Flaw → String
  | .syntaxError => "syntax error"
  | .noElements => "no element found"
  | .invalidToken => "not well-formed (invalid token)"
  | .unclosedToken => "unclosed token"
  | .partialChar => "partial character"
  | .tagMismatch => "mismatched tag"
  | .duplicateAttribute => "duplicate attribute"
  | .junkAfterRoot => "junk after document element"
  | .paramEntityRef => "illegal parameter entity reference"
  | .undefinedEntity => "undefined entity"
  | .recursiveEntityRef => "recursive entity reference"
  | .asyncEntity => "asynchronous entity"
  | .badCharRef => "reference to invalid character number"
  | .binaryEntityRef => "reference to binary entity"
  | .externalEntityInAttribute => "reference to external entity in attribute"
  | .misplacedDeclaration => "XML or text declaration not at start of entity"
  | .unknownEncoding => "unknown encoding"
  | .incorrectEncoding => "encoding specified in XML declaration is incorrect"
  | .unclosedCData => "unclosed CDATA section"
  | .unboundPrefix => "unbound prefix"
  | .undeclaringPrefix => "must not undeclare prefix"
  | .xmlDeclaration => "XML declaration not well-formed"
  | .publicId => "illegal character(s) in public id"
  | .reservedXmlPrefix =>
    "reserved prefix (xml) must not be undeclared or bound to another namespace name"
  | .reservedXmlnsPrefix => "reserved prefix (xmlns) must not be declared or undeclared"
  | .reservedNamespace => "prefix must not be bound to one of the reserved namespace names"
  | .amplification => "limit on input amplification factor (from DTD and entities) breached"

/-- How a strict read stops. -/
inductive Halt where
  /-- A flaw of the markup, found at a byte offset of the document. -/
  | flaw (f : Flaw) (pos : Nat)
  /-- A reference, as written, to an entity the tree builder has no text for, at an offset. -/
  | unknownEntity (ref : String) (pos : Nat)
  /-- The registry of codecs refuses a declared encoding name. -/
  | codec (kind : CodecKind) (name : String)
  deriving Inhabited

/-- A general entity of the internal subset. -/
structure Entity where
  name : String
  /-- The replacement text, stored as UTF-8; none for an external entity. -/
  text : Option ByteArray := none
  /-- Whether the entity is unparsed, declared with a notation. -/
  unparsed : Bool := false
  deriving Inhabited

/-- The declaration of an attribute of an element. -/
structure AttDefault where
  element : String
  attr : String
  /-- The default value, if one is declared. -/
  value : Option String
  /-- Whether the attribute is declared of type `CDATA`. -/
  isCdata : Bool
  deriving Inhabited

/-- What the internal subset declares, and how references are checked. -/
structure Dtd where
  entities : List Entity := []
  defaults : List AttDefault := []
  /-- Whether a parameter entity was referred to or an external subset named. -/
  hasParamRefs : Bool := false
  /-- Whether later declarations are still taken in. -/
  keepProcessing : Bool := true
  /-- Whether the XML declaration says the document is standalone. -/
  standalone : Bool := false
  deriving Inhabited

/-- The general entity of a name. -/
def Dtd.entity? (d : Dtd) (name : String) : Option Entity := d.entities.find? (·.name == name)

/-- Whether a reference to an undeclared entity is refused rather than skipped. -/
def Dtd.checksEntities (d : Dtd) : Bool := !d.hasParamRefs || d.standalone

/-- The declarations of the attributes of an element, in the order they were made. -/
def Dtd.attributesOf (d : Dtd) (element : String) : List AttDefault :=
  d.defaults.filter (·.element == element)

/-- The character of a predefined entity. -/
def predefinedEntity : String → Option Char
  | "lt" => some '<'
  | "gt" => some '>'
  | "amp" => some '&'
  | "quot" => some '"'
  | "apos" => some '\''
  | _ => none

/-- The counts of bytes read: from the document, and from entity texts. -/
structure Tally where
  direct : Nat := 0
  indirect : Nat := 0
  deriving Inhabited

/-- The bytes at which the limit on reading entity texts starts to apply. -/
def activationBytes : Nat := 8388608

/-- Whether the counts are within the limit: under 8 MiB together, or at most a hundred
times the bytes of the document (a document of no bytes counts as 22). -/
def Tally.tolerated (t : Tally) : Bool :=
  let total := t.direct + t.indirect
  total < activationBytes ||
    (if t.direct > 0 then total ≤ 100 * t.direct else 22 + t.indirect ≤ 100 * 22)

/-- Count the bytes of a token read from the document or from an entity text. -/
def Tally.add (t : Tally) (direct : Bool) (n : Nat) : Tally :=
  if direct then { t with direct := t.direct + n } else { t with indirect := t.indirect + n }

/-- Count a token read from the document (`some true`), from an entity text (`some false`),
or not at all, and stop at an offset when the limit is passed. -/
def Tally.count (t : Tally) (how : Option Bool) (n pos : Nat) : Except Halt Tally :=
  match how with
  | none => .ok t
  | some direct =>
    let t := t.add direct n
    if t.tolerated then .ok t else .error (.flaw .amplification pos)

/-- Whether a token is counted at all. -/
def countsToken : Tok → Bool
  | .invalid | .truncated | .partialChar | .none => false
  | _ => true

/-- The code point of a character reference between two offsets (the `&` and the offset
after the `;`), if it names a character XML allows. -/
def Input.charRefValue (inp : Input) (p next : Nat) : Option Nat :=
  let start := p + 2 * inp.w
  let last := next - inp.w
  let hex := inp.isChar start 'x'
  let first := if hex then start + inp.w else start
  let count := (last - first) / inp.w
  let digit (k : Nat) : Nat :=
    let c := inp.src.asciiAt (first + k * inp.w)
    if 0x30 ≤ c && c ≤ 0x39 then c - 0x30
    else if 0x41 ≤ c && c ≤ 0x46 then c - 0x37
    else if 0x61 ≤ c && c ≤ 0x66 then c - 0x57
    else 0
  let n := (List.range count).foldl (fun acc k => acc * (if hex then 16 else 10) + digit k) 0
  if n ≥ 0x110000 || !isXmlPoint n then none else some n

/-- The UTF-8 bytes of a code point. -/
def pointBytes (n : Nat) : ByteArray := (String.singleton (Source.pointChar n)).toUTF8

/-- The replacement text of an entity value between two offsets of the document: character
references replaced, line ends made line feeds, entity references kept as written. A
parameter entity reference is refused, as are malformed references. -/
def entityText (inp : Input) (start : Nat) : Except Halt ByteArray :=
  go (inp.stop - start + 1) start ByteArray.empty
where
  /-- The text from an offset on, after what is stored so far. -/
  go : Nat → Nat → ByteArray → Except Halt ByteArray
    | 0, _, acc => .ok acc
    | fuel + 1, p, acc =>
      let l := inp.entityValueTok p
      match l.tok with
      | .none => .ok acc
      | .paramEntityRef => .error (.flaw .paramEntityRef p)
      | .entityRef | .dataChars => go fuel l.next (acc ++ (inp.src.decode p l.next).toUTF8)
      | .trailingCr => go fuel (p + inp.w) (acc.push 0x0A)
      | .dataNewline => go fuel l.next (acc.push 0x0A)
      | .charRef =>
        match inp.charRefValue p l.next with
        | none => .error (.flaw .badCharRef p)
        | some n => go fuel l.next (acc ++ pointBytes n)
      | .truncated => .error (.flaw .invalidToken p)
      | .invalid => .error (.flaw .invalidToken l.next)
      | _ => .error (.flaw .invalidToken p)

/-- Add a space to a value being normalized, unless the attribute is not `CDATA` and the
value is empty or ends in a space. -/
def addSpace (isCdata : Bool) (acc : String) : String :=
  if !isCdata && (acc.isEmpty || acc.back == ' ') then acc else acc.push ' '

/-- The text of an entity read in turn, as stored. -/
def storedInput (text : ByteArray) : Input := ⟨⟨text, .stored⟩, text.size⟩

/-- Normalize an attribute value from an offset on, after what is kept so far. Problems in
document text are reported where they stand (`inDoc`); others, and references to
undeclared entities, at `here`. The tokens are counted as `how` says; those of entity texts
always as read from entities. -/
def valueText (dtd : Dtd) (isCdata : Bool) (here : Nat) :
    Nat → Input → Bool → Option Bool → List String → Tally → Nat → String →
      Except Halt (String × Tally)
  | 0, _, _, _, _, t, _, acc => .ok (acc, t)
  | fuel + 1, inp, inDoc, how, opened, t, p, acc =>
    let l := inp.valueTok p
    let loc (q : Nat) : Nat := if inDoc then q else here
    match (if countsToken l.tok then t.count how (l.next - p) here else .ok t) with
    | .error e => .error e
    | .ok t =>
      match l.tok with
      | .none => .ok (acc, t)
      | .invalid => .error (.flaw .invalidToken (loc l.next))
      | .charRef =>
        match inp.charRefValue p l.next with
        | none => .error (.flaw .badCharRef (loc p))
        | some n =>
          let acc := if !isCdata && n == 0x20 && (acc.isEmpty || acc.back == ' ') then acc
            else acc.push (Source.pointChar n)
          valueText dtd isCdata here fuel inp inDoc how opened t l.next acc
      | .dataChars =>
        valueText dtd isCdata here fuel inp inDoc how opened t l.next
          (acc ++ inp.src.decode p l.next)
      | .trailingCr =>
        valueText dtd isCdata here fuel inp inDoc how opened t (p + inp.w) (addSpace isCdata acc)
      | .valueSpace | .dataNewline =>
        valueText dtd isCdata here fuel inp inDoc how opened t l.next (addSpace isCdata acc)
      | .entityRef =>
        let name := inp.src.decode (p + inp.w) (l.next - inp.w)
        match predefinedEntity name with
        | some c => valueText dtd isCdata here fuel inp inDoc how opened t l.next (acc.push c)
        | none =>
          match dtd.entity? name with
          | none =>
            if dtd.checksEntities then .error (.flaw .undefinedEntity here)
            else valueText dtd isCdata here fuel inp inDoc how opened t l.next acc
          | some e =>
            if opened.contains name then .error (.flaw .recursiveEntityRef (loc p))
            else if e.unparsed then .error (.flaw .binaryEntityRef (loc p))
            else
              match e.text with
              | none => .error (.flaw .externalEntityInAttribute (loc p))
              | some text =>
                match valueText dtd isCdata here fuel (storedInput text) false (some false)
                    (name :: opened) t 0 acc with
                | .error e => .error e
                | .ok (acc, t) => valueText dtd isCdata here fuel inp inDoc how opened t l.next acc
      | _ => .error (.flaw .invalidToken (loc p))

/-- Drop one trailing space of a value of an attribute that is not `CDATA`. -/
def finishValue (isCdata : Bool) (v : String) : String :=
  if !isCdata && !v.isEmpty && v.back == ' ' then String.ofList v.toList.dropLast else v

/-- The namespace of the prefix `xml`. -/
def xmlNamespace : String := "http://www.w3.org/XML/1998/namespace"

/-- The namespace of namespace declarations. -/
def xmlnsNamespace : String := "http://www.w3.org/2000/xmlns/"

/-- What is wrong with binding a prefix (none for the default namespace) to a namespace: a
prefix may not be undeclared, `xmlns` may not be bound, `xml` only to its namespace and
that namespace to no other prefix, the namespace of declarations to none, and a namespace
may not hold `}`, which the tree builder puts after a namespace in a name. -/
def bindingFlaw (pfx : Option String) (uri : String) : Option Flaw :=
  if uri.isEmpty && pfx.isSome then some .undeclaringPrefix
  else if pfx == some "xmlns" then some .reservedXmlnsPrefix
  else if uri.contains '\x7d' then some .syntaxError
  else
    let mustBeXml := pfx == some "xml"
    let isXml := uri == xmlNamespace
    if mustBeXml != isXml then some (if mustBeXml then .reservedXmlPrefix else .reservedNamespace)
    else if !mustBeXml && uri == xmlnsNamespace then some .reservedNamespace
    else none

/-- The prefix a namespace declaration attribute declares: `some none` for `xmlns`,
`some (some p)` for `xmlns:p`, `none` for another attribute. -/
def declaredPrefix (name : String) : Option (Option String) :=
  if name == "xmlns" then some none
  else if name.startsWith "xmlns:" then some (some (String.ofList (name.toList.drop 6)))
  else none

/-- The prefix of a qualified name, before its first colon. -/
def prefixOf (name : String) : Option String :=
  if name.contains ':' then some (String.ofList (name.toList.takeWhile (· != ':'))) else none

/-- The local part of a qualified name, after its first colon. -/
def localOf (name : String) : String :=
  String.ofList ((name.toList.dropWhile (· != ':')).drop 1)

end MacroDoc.Xml.WellFormed
