import MacroDoc.Xml.WellFormed.Content
import MacroDoc.Xml.WellFormed.Role
import MacroDoc.Xml.WellFormed.Declaration
import MacroDoc.Fault

/-!
# Checking a document with the strict reader

The strict reader is the one the text extractor parses parts with. It reads a document in
one pass and stops at the first flaw, which it reports with the line and the column (from
zero, one per character) where it found it.

The coding is found from the first bytes: a byte order mark (UTF-8 or UTF-16), or the
zero bytes of UTF-16 around a `<`; otherwise UTF-8. A document of one byte that could start
a longer mark or a `<` is unclosed. An XML declaration may then name another coding: one of
the reader's own (which must agree in width and, for UTF-16, in byte order), or a codec of
the registry, whose refusal stops the read with the registry's error.

The prolog is read as the machine of roles says, with the internal subset's declarations
taken in; then the root element's content; then what follows it, where only blanks,
comments and processing instructions may stand.

## Main definitions

* `firstToken`: the coding and the first token of a document.
* `prologLoop`, `epilogLoop`: the parts around the root element.
* `checkDocument`: read a document, or say why and where it stops.
* `checkStrict`: the same, with a refusal worded as the text extractor's.
-/

namespace MacroDoc.Xml.WellFormed

/-- The coding of a document and its first token, from its first bytes. -/
def firstToken (doc : ByteArray) : Coding × Lexeme :=
  let size := doc.size
  let b0 := byteAt doc 0
  let b1 := byteAt doc 1
  let scan (c : Coding) : Coding × Lexeme := (c, Input.prologTok ⟨⟨doc, c⟩, size⟩ 0)
  if size == 0 then (.utf8, .at .none 0)
  else if size == 1 then
    if b0 == 0xFE || b0 == 0xFF || b0 == 0xEF || b0 == 0x00 || b0 == 0x3C then
      (.utf8, .at .truncated 0)
    else scan .utf8
  else if b0 == 0xFE && b1 == 0xFF then (.utf16be, .at .bom 2)
  else if b0 == 0x3C && b1 == 0x00 then scan .utf16le
  else if b0 == 0xFF && b1 == 0xFE then (.utf16le, .at .bom 2)
  else if b0 == 0xEF && b1 == 0xBB then
    if size == 2 then (.utf8, .at .truncated 0)
    else if byteAt doc 2 == 0xBF then (.utf8, .at .bom 3)
    else scan .utf8
  else if b0 == 0 then scan .utf16be
  else if b1 == 0 then scan .utf16le
  else scan .utf8

/-- ASCII upper case. -/
def asciiUpper (s : String) : String :=
  s.map fun c => if 'a' ≤ c && c ≤ 'z' then Char.ofNat (c.toNat - 32) else c

/-- The reader's own coding of an encoding name, given the coding so far (`UTF-16` keeps a
UTF-16 coding's byte order). -/
def ownCoding (current : Coding) (name : String) : Option Coding :=
  match asciiUpper name with
  | "ISO-8859-1" => some .latin1
  | "US-ASCII" => some .ascii
  | "UTF-8" => some .utf8
  | "UTF-16" => some (if current.width == 2 then current else .utf16be)
  | "UTF-16BE" => some .utf16be
  | "UTF-16LE" => some .utf16le
  | _ => none

/-- The coding an XML declaration names, whose name stands between two offsets. -/
def declaredCoding (inp : Input) (current : Coding) (start stop : Nat) : Except Halt Coding :=
  let name := inp.src.decode start stop
  match ownCoding current name with
  | some c =>
    if c.width != current.width || (c.width == 2 && !c.same current) then
      .error (.flaw .incorrectEncoding start)
    else .ok c
  | none =>
    match lookupCodec name with
    | .single i => .ok (.table (codecTable i))
    | .unusable => .error (.flaw .unknownEncoding start)
    | k => .error (.codec k name)

/-- Whether the characters of a public identifier between two offsets are allowed: letters,
digits, blanks other than tab, line ends and ``-'()+,./:=?;!*#@$_%``. -/
def Input.publicIdFlaw (inp : Input) (start stop : Nat) : Option Nat :=
  ((List.range ((stop - start) / inp.w)).map fun k => start + k * inp.w).find? fun q =>
    match inp.cls q with
    | .digit | .hex | .minus | .apos | .lpar | .rpar | .plus | .comma | .slash | .equals
    | .quest | .cr | .lf | .semi | .excl | .star | .percent | .hash | .colon => false
    | .space => inp.isChar q '\t'
    | .nameChar | .nameStart => inp.src.asciiAt q ≥ 0x80 && !inp.isChar q '$' && !inp.isChar q '@'
    | _ => !inp.isChar q '$' && !inp.isChar q '@'

/-- What reading the prolog keeps. -/
structure PrologRead where
  roles : Roles := {}
  dtd : Dtd := {}
  /-- The entity being declared: a new general entity (`true`) or a parameter entity. -/
  declEntity : Option (Bool × String) := none
  /-- The element of the attribute list being declared. -/
  element : String := ""
  /-- The attribute being declared, and whether it is `CDATA`. -/
  attr : String := ""
  attrCdata : Bool := false
  /-- The connector of each level of content model groups: `,` or `|` once one is seen. -/
  connectors : List (Nat × Char) := []
  tally : Tally := {}
  deriving Inhabited

namespace PrologRead

/-- Declare an attribute of the current element, unless it was declared before. -/
def declare (st : PrologRead) (value : Option String) : PrologRead :=
  if st.dtd.defaults.any fun d => d.element == st.element && d.attr == st.attr then st
  else { st with dtd := { st.dtd with defaults := st.dtd.defaults ++
    [{ element := st.element, attr := st.attr, value := value, isCdata := st.attrCdata }] } }

/-- The connector of a level of groups. -/
def connector (st : PrologRead) (level : Nat) : Option Char :=
  (st.connectors.find? (·.1 == level)).map (·.2)

/-- Set the connector of a level of groups. -/
def setConnector (st : PrologRead) (level : Nat) (c : Option Char) : PrologRead :=
  let rest := st.connectors.filter (·.1 != level)
  { st with connectors := match c with | some c => (level, c) :: rest | none => rest }

/-- Act on the role of a token of the prolog between two offsets. -/
def act (st : PrologRead) (inp : Input) (role : Role) (p next : Nat) : Except Halt PrologRead :=
  let w := inp.w
  let dtd := st.dtd
  match role with
  | .doctypeSystemId => .ok { st with dtd := { dtd with hasParamRefs := true } }
  | .doctypePublicId =>
    match inp.publicIdFlaw (p + w) (next - w) with
    | some q => .error (.flaw .publicId q)
    | none => .ok { st with dtd := { dtd with hasParamRefs := true } }
  | .entityPublicId | .notationPublicId =>
    match inp.publicIdFlaw (p + w) (next - w) with
    | some q => .error (.flaw .publicId q)
    | none => .ok st
  | .generalEntityName =>
    let name := inp.src.decode p next
    if (predefinedEntity name).isSome || !dtd.keepProcessing || (dtd.entity? name).isSome then
      .ok { st with declEntity := none }
    else
      .ok { st with declEntity := some (true, name),
                    dtd := { dtd with entities := dtd.entities ++ [{ name := name }] } }
  | .paramEntityName =>
    .ok { st with declEntity := if dtd.keepProcessing then some (false, inp.src.decode p next) else none }
  | .entityValue =>
    if !dtd.keepProcessing then .ok st
    else
      match entityText { inp with stop := next - w } (p + w) with
      | .error e => .error e
      | .ok text =>
        match st.declEntity with
        | some (true, name) =>
          .ok { st with dtd := { dtd with entities := dtd.entities.map fun e =>
            if e.name == name then { e with text := some text } else e } }
        | _ => .ok st
  | .entityNotationName =>
    match st.declEntity with
    | some (true, name) =>
      if !dtd.keepProcessing then .ok st
      else .ok { st with dtd := { dtd with entities := dtd.entities.map fun e =>
        if e.name == name then { e with unparsed := true } else e } }
    | _ => .ok st
  | .attlistElementName => .ok { st with element := inp.src.decode p next }
  | .attributeName => .ok { st with attr := inp.src.decode p next, attrCdata := false }
  | .attributeType isCdata => .ok (if isCdata then { st with attrCdata := true } else st)
  | .impliedAttributeValue | .requiredAttributeValue =>
    .ok (if dtd.keepProcessing then st.declare none else st)
  | .defaultAttributeValue | .fixedAttributeValue =>
    if !dtd.keepProcessing then .ok st
    else
      match valueText dtd st.attrCdata p (inp.stop + 1) { inp with stop := next - w } true none []
          st.tally (p + w) "" with
      | .error e => .error e
      | .ok (value, tally) => .ok ({ st with tally := tally }.declare (some (finishValue st.attrCdata value)))
  | .innerParamEntityRef =>
    .ok { st with dtd := { dtd with hasParamRefs := true, keepProcessing := dtd.standalone } }
  | .groupOpen => .ok (st.setConnector st.roles.level none)
  | .groupSequence =>
    if st.connector st.roles.level == some '|' then .error (.flaw .syntaxError p)
    else .ok (st.setConnector st.roles.level (some ','))
  | .groupChoice =>
    if st.connector st.roles.level == some ',' then .error (.flaw .syntaxError p)
    else .ok (st.setConnector st.roles.level (some '|'))
  | _ => .ok st

end PrologRead

/-- Read the prolog of a document from a token at an offset, in a coding: the coding in
force, what the prolog declared, and the offset where the root element starts. -/
def prologLoop (doc : ByteArray) : Nat → Coding → PrologRead → Lexeme → Nat →
    Except (Halt × Coding) (Coding × PrologRead × Nat)
  | 0, coding, _, _, p => .error (.flaw .noElements p, coding)
  | fuel + 1, coding, st, l, p =>
    let inp : Input := ⟨⟨doc, coding⟩, doc.size⟩
    let w := inp.w
    let fail (f : Flaw) (q : Nat) : Except (Halt × Coding) (Coding × PrologRead × Nat) :=
      .error (.flaw f q, coding)
    match l.tok with
    | .invalid => fail .invalidToken l.next
    | .truncated => fail .unclosedToken p
    | .partialChar => fail .partialChar p
    | .none => fail .noElements p
    | tok =>
      let next := if l.cut then doc.size else l.next
      let wordStart := match tok with
        | .declOpen => p + 2 * w
        | .poundName => p + w
        | _ => p
      let (roles, role) := st.roles.step tok fun k => inp.matchesWord wordStart next k
      let st := { st with roles := roles }
      let counted := if role == .instanceStart then .ok st.tally
        else st.tally.count (some true) (next - p) p
      match counted with
      | .error h => .error (h, coding)
      | .ok tally =>
        let st := { st with tally := tally }
        match role with
        | .instanceStart => .ok (coding, st, p)
        | .error =>
          fail (if tok == .paramEntityRef then .paramEntityRef
            else if tok == .xmlDecl then .misplacedDeclaration else .syntaxError) p
        | .xmlDecl =>
          match inp.xmlDecl p next with
          | .error q => fail .xmlDeclaration q
          | .ok decl =>
            let st := if decl.standalone then { st with dtd := { st.dtd with standalone := true } } else st
            match decl.encoding with
            | none => prologLoop doc fuel coding st (inp.prologTok next) next
            | some (a, b) =>
              match declaredCoding inp coding a b with
              | .error h => .error (h, coding)
              | .ok c => prologLoop doc fuel c st (Input.prologTok ⟨⟨doc, c⟩, doc.size⟩ next) next
        | _ =>
          match st.act inp role p next with
          | .error h => .error (h, coding)
          | .ok st => prologLoop doc fuel coding st (inp.prologTok next) next

/-- Read what follows the root element from an offset: blanks, comments and processing
instructions only. -/
def epilogLoop (inp : Input) : Nat → Tally → Nat → Except Halt Unit
  | 0, _, _ => .ok ()
  | fuel + 1, t, p =>
    let l := inp.prologTok p
    let goOn : Except Halt Unit :=
      match t.count (some true) (l.next - p) p with
      | .error e => .error e
      | .ok t => epilogLoop inp fuel t l.next
    match l.tok with
    | .none => .ok ()
    | .prologSpace => if l.cut then .ok () else goOn
    | .pi | .comment => goOn
    | .invalid => .error (.flaw .invalidToken l.next)
    | .truncated => .error (.flaw .unclosedToken p)
    | .partialChar => .error (.flaw .partialChar p)
    | _ => .error (.flaw .junkAfterRoot p)

/-- Read a document: nothing when it is well formed, else why and where the reader stops,
with the coding in force there. -/
def checkDocument (doc : ByteArray) : Except (Halt × Coding) Unit := do
  let (coding, first) := firstToken doc
  let (coding, st, start) ← prologLoop doc (doc.size + 2) coding {} first 0
  let inp : Input := ⟨⟨doc, coding⟩, doc.size⟩
  let entityBytes := st.dtd.entities.foldl (fun n e => n + (e.text.map (·.size)).getD 0) 0
  let fuel := doc.size + entityBytes + 2
  match contentLoop st.dtd fuel inp true 0 0 { tally := st.tally } start with
  | .error h => throw (h, coding)
  | .ok (_, .textEnd) => pure ()
  | .ok (sc, .rootClosed next) =>
    match epilogLoop inp (doc.size + 1) sc.tally next with
    | .error h => throw (h, coding)
    | .ok () => pure ()

/-- The refusal of a read, as the text extractor words it: the words of the flaw with its
line and column, or the error of the registry of codecs. -/
def Halt.toFault (h : Halt) (doc : ByteArray) (coding : Coding) : Fault :=
  let place (pos : Nat) : String :=
    let (line, col) := Source.position ⟨doc, coding⟩ pos
    ": line " ++ toString line ++ ", column " ++ toString col
  match h with
  | .flaw f pos => ⟨.xmlMalformed, f.words ++ place pos⟩
  | .unknownEntity ref pos => ⟨.xmlMalformed, "undefined entity " ++ ref ++ place pos⟩
  | .codec kind name =>
    match kind with
    | .multiByte => ⟨.badValue, "multi-byte encodings are not supported"⟩
    | .notText => ⟨.unknownCodec,
        "'" ++ name ++ "' is not a text encoding; use codecs.decode() to handle arbitrary codecs"⟩
    | .wrapped detail => ⟨.codecFailure, "decoding with '" ++ name ++ "' codec failed (" ++ detail ++ ")"⟩
    | .raised cls message =>
      ⟨if cls == "UnicodeDecodeError" then .badEncoding else .codecFailure, message⟩
    | _ => ⟨.unknownCodec, "unknown encoding: " ++ name⟩

/-- Read a document as the text extractor does: nothing when it is well formed, else the
refusal. -/
def checkStrict (doc : ByteArray) : Except Fault Unit :=
  match checkDocument doc with
  | .ok () => .ok ()
  | .error (h, coding) => .error (h.toFault doc coding)

end MacroDoc.Xml.WellFormed
