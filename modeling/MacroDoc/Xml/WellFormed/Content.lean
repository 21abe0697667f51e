import MacroDoc.Xml.WellFormed.Dtd

/-!
# Element content under the strict reader

Content is read token by token. Each start tag opens an element; its attributes are read in
order: an attribute given twice is refused at its second name, each value is normalized,
and each namespace declaration binds its prefix at once. Then the declared defaults of
attributes the tag leaves out are added, prefixed attribute names are expanded (a prefix
must be bound, and no two attributes may expand to one name), and last the element's own
prefix must be bound. An end tag must name, byte for byte, the element it closes.

A reference to an entity with a replacement text reads that text as content in its place;
its elements must close inside it, and an entity may not refer to itself. A reference to an
undeclared entity is refused, or, when the internal subset referred to parameter entities,
passed to the tree builder, which knows no entities and stops there; so does a reference to
an external entity. A problem inside an entity's text is reported at the reference in the
document.

## Main definitions

* `OpenTag`, `Scope`: the open elements, the bindings of prefixes, the entities being read
  and the counts of bytes.
* `startTag`: the attributes and names of a start tag.
* `contentLoop`: read content up to the end of the root element or of an entity's text.
-/

namespace MacroDoc.Xml.WellFormed

/-- An element whose end tag is awaited. -/
structure OpenTag where
  /-- The bytes of its name as written. -/
  name : ByteArray
  /-- How many prefix bindings its start tag made. -/
  bound : Nat

/-- What content is read in. -/
structure Scope where
  tags : List OpenTag := []
  /-- The bindings of prefixes, latest first: a prefix (none for the default namespace) and
  its namespace (none when the default namespace is undeclared). -/
  bindings : List (Option String × Option String) := [(some "xml", some xmlNamespace)]
  /-- The entities whose texts are being read. -/
  opened : List String := []
  tally : Tally := {}

/-- The namespace a prefix is bound to. -/
def Scope.namespaceOf (sc : Scope) (pfx : String) : Option String :=
  ((sc.bindings.find? (·.1 == some pfx)).map (·.2)).getD none

/-- How a text's content ended. -/
inductive Ending where
  /-- The root element closed; the document goes on at an offset. -/
  | rootClosed (next : Nat)
  /-- The text of an entity ran out with its elements closed. -/
  | textEnd

namespace Input

/-- The end of the name that starts at an offset. -/
def nameEnd (inp : Input) : Nat → Nat → Nat
  | 0, p => p
  | fuel + 1, p =>
    if !inp.has p then p
    else
      match inp.cls p with
      | .lead2 | .lead3 | .lead4 => inp.nameEnd fuel (p + Source.leadLength (inp.cls p))
      | .wide | .nameStart | .colon | .hex | .digit | .nameChar | .minus =>
        inp.nameEnd fuel (p + inp.w)
      | _ => p

/-- Where the states of reading a tag's attributes stand. -/
inductive TagPhase where
  | inName | between
  | inValue (quote : CharClass) (nameStart valueStart : Nat)

/-- The attributes of a start tag from an offset on (after the element name): the offsets
of each name's start and of its value's start and end. The tag was scanned already. -/
def tagAttributes (inp : Input) : Nat → TagPhase → Nat → Nat → List (Nat × Nat × Nat)
  | 0, _, _, _ => []
  | fuel + 1, phase, nameAt, p =>
    if !inp.has p then []
    else
      let c := inp.cls p
      let started : TagPhase × Nat :=
        match phase with
        | .between => (.inName, p)
        | _ => (phase, nameAt)
      match c with
      | .lead2 | .lead3 | .lead4 | .wide | .nameStart | .hex =>
        let (ph, n) := started
        inp.tagAttributes fuel ph n (p + (if c == .wide || c == .nameStart || c == .hex then inp.w
          else Source.leadLength c))
      | .quot | .apos =>
        match phase with
        | .inValue q nameStart valueStart =>
          if q == c then (nameStart, valueStart, p) :: inp.tagAttributes fuel .between nameAt (p + inp.w)
          else inp.tagAttributes fuel phase nameAt (p + inp.w)
        | _ => inp.tagAttributes fuel (.inValue c nameAt (p + inp.w)) nameAt (p + inp.w)
      | .space | .cr | .lf =>
        match phase with
        | .inName => inp.tagAttributes fuel .between nameAt (p + inp.w)
        | _ => inp.tagAttributes fuel phase nameAt (p + inp.w)
      | .gt | .slash =>
        match phase with
        | .inValue .. => inp.tagAttributes fuel phase nameAt (p + inp.w)
        | _ => []
      | _ => inp.tagAttributes fuel phase nameAt (p + inp.w)

end Input

/-- What reading the attributes of a tag has gathered. -/
structure TagRead where
  /-- The attribute names given, in order. -/
  given : List String := []
  /-- The prefixed attribute names to expand, in order. -/
  prefixed : List String := []
  /-- How many bindings the tag made. -/
  bound : Nat := 0
  scope : Scope

/-- Bind a prefix declared by an attribute, or stop at `here`. -/
def TagRead.bind (r : TagRead) (pfx : Option String) (uri : String) (here : Nat) :
    Except Halt TagRead :=
  match bindingFlaw pfx uri with
  | some f => .error (.flaw f here)
  | none =>
    let ns := if uri.isEmpty then none else some uri
    .ok { r with bound := r.bound + 1,
                 scope := { r.scope with bindings := (pfx, ns) :: r.scope.bindings } }

/-- Take an attribute with its value: a namespace declaration binds its prefix, a prefixed
name waits to be expanded. -/
def TagRead.take (r : TagRead) (name value : String) (here : Nat) : Except Halt TagRead :=
  match declaredPrefix name with
  | some pfx => r.bind pfx value here
  | none => .ok (if name.contains ':' then { r with prefixed := r.prefixed ++ [name] } else r)

/-- Expand the prefixed attribute names in order: each prefix must be bound, and no two may
expand to the same name. -/
def expandNames (sc : Scope) (here : Nat) : List String → List String → Except Halt Unit
  | [], _ => .ok ()
  | name :: rest, seen =>
    match sc.namespaceOf ((prefixOf name).getD "") with
    | none => .error (.flaw .unboundPrefix here)
    | some ns =>
      let expanded := ns ++ "\x7d" ++ localOf name
      if seen.contains expanded then .error (.flaw .duplicateAttribute here)
      else expandNames sc here rest (expanded :: seen)

/-- Read the attributes of a start tag between two offsets, for an element of a name:
problems in document text are reported where they stand (`inDoc`), others at `here`;
values are counted as `how` says. Gives the scope with the tag's bindings, and how many. -/
def startTag (dtd : Dtd) (fuel : Nat) (inp : Input) (inDoc : Bool) (how : Option Bool)
    (here : Nat) (sc : Scope) (p : Nat) (element : String) : Except Halt (Scope × Nat) := do
  let nameStop := inp.nameEnd (inp.stop + 1) (p + inp.w)
  let atts := inp.tagAttributes (inp.stop + 1) .inName 0 nameStop
  let declared := dtd.attributesOf element
  let r ← atts.foldlM (fun r (nameStart, v, vEnd) => do
    let name := inp.src.decode nameStart (inp.nameEnd (inp.stop + 1) nameStart)
    if r.given.contains name then
      throw (.flaw .duplicateAttribute (if inDoc then nameStart else here))
    let isCdata := ((declared.find? (·.attr == name)).map (·.isCdata)).getD true
    let (value, tally) ← valueText dtd isCdata here fuel { inp with stop := vEnd } inDoc how
      r.scope.opened r.scope.tally v ""
    let r := { r with given := r.given ++ [name], scope := { r.scope with tally := tally } }
    r.take name (finishValue isCdata value) here) ({ scope := sc } : TagRead)
  let r ← declared.foldlM (fun r d =>
    match d.value with
    | some value => if r.given.contains d.attr then .ok r else r.take d.attr value here
    | none => .ok r) r
  expandNames r.scope here r.prefixed []
  match prefixOf element with
  | some pfx => if (r.scope.namespaceOf pfx).isNone then throw (.flaw .unboundPrefix here)
  | none => pure ()
  return (r.scope, r.bound)

/-- Drop the bindings a tag made. -/
def Scope.unbind (sc : Scope) (n : Nat) : Scope := { sc with bindings := sc.bindings.drop n }

/-- The words and offset of a reference the tree builder cannot resolve: the reference as
written, cut to its first hundred bytes. A character the cut splits becomes one replacement
character. -/
def unknownReference (text : String) (pos : Nat) : Halt :=
  .unknownEntity (cutText 100 text.toList) pos
where
  /-- The characters whose bytes fit in a budget, and a replacement character for the
  first that does not fit in part. -/
  cutText : Nat → List Char → String
    | _, [] => ""
    | budget, c :: cs =>
      if c.utf8Size ≤ budget then String.singleton c ++ cutText (budget - c.utf8Size) cs
      else if budget == 0 then "" else "�"

/-- Read a CDATA section from an offset after its opening up to its close: the offset after
the close. -/
def cdataLoop (inp : Input) (inDoc : Bool) (outer : Nat) :
    Nat → Tally → Nat → Except Halt (Tally × Nat)
  | 0, t, p => .ok (t, p)
  | fuel + 1, t, p =>
    let l := inp.cdataTok p
    let loc (q : Nat) : Nat := if inDoc then q else outer
    match (if countsToken l.tok then t.count (some inDoc) (l.next - p) (loc p) else .ok t) with
    | .error e => .error e
    | .ok t =>
      match l.tok with
      | .cdataClose => .ok (t, l.next)
      | .dataChars | .dataNewline => cdataLoop inp inDoc outer fuel t l.next
      | .invalid => .error (.flaw .invalidToken (loc l.next))
      | .partialChar => .error (.flaw .partialChar (loc p))
      | _ => .error (.flaw .unclosedCData (loc p))

/-- Read content of a text from an offset: of the document (`inDoc`), or of an entity whose
reference stands at `outer`, entered with `base` elements open. -/
def contentLoop (dtd : Dtd) : Nat → Input → Bool → Nat → Nat → Scope → Nat →
    Except Halt (Scope × Ending)
  | 0, _, _, _, _, sc, _ => .ok (sc, .textEnd)
  | fuel + 1, inp, inDoc, outer, base, sc, p =>
    let l := inp.contentTok p
    let loc (q : Nat) : Nat := if inDoc then q else outer
    let counted := match l.tok with
      | .trailingCr | .trailingRsqb => inp.stop - p
      | _ => l.next - p
    match (if countsToken l.tok then sc.tally.count (some inDoc) counted (loc p) else .ok sc.tally) with
    | .error e => .error e
    | .ok tally =>
      let sc := { sc with tally := tally }
      let goOn (sc : Scope) (q : Nat) := contentLoop dtd fuel inp inDoc outer base sc q
      match l.tok with
      | .none =>
        if inDoc then .error (.flaw .noElements (loc p))
        else if sc.tags.length != base then .error (.flaw .asyncEntity outer)
        else .ok (sc, .textEnd)
      | .trailingCr => .error (.flaw .noElements (loc p))
      | .trailingRsqb =>
        if inDoc then .error (.flaw .noElements (loc inp.stop))
        else if sc.tags.length != base then .error (.flaw .asyncEntity outer)
        else .ok (sc, .textEnd)
      | .invalid => .error (.flaw .invalidToken (loc l.next))
      | .truncated => .error (.flaw .unclosedToken (loc p))
      | .partialChar => .error (.flaw .partialChar (loc p))
      | .dataChars | .dataNewline | .pi | .comment => goOn sc l.next
      | .xmlDecl => .error (.flaw .misplacedDeclaration (loc p))
      | .charRef =>
        match inp.charRefValue p l.next with
        | none => .error (.flaw .badCharRef (loc p))
        | some _ => goOn sc l.next
      | .cdataOpen =>
        match cdataLoop inp inDoc outer (inp.stop + 1) sc.tally l.next with
        | .error e => .error e
        | .ok (t, q) => goOn { sc with tally := t } q
      | .entityRef =>
        let name := inp.src.decode (p + inp.w) (l.next - inp.w)
        let written := inp.src.decode p l.next
        match predefinedEntity name with
        | some _ => goOn sc l.next
        | none =>
          match dtd.entity? name with
          | none =>
            if dtd.checksEntities then .error (.flaw .undefinedEntity (loc p))
            else .error (unknownReference written (loc p))
          | some e =>
            if sc.opened.contains name then .error (.flaw .recursiveEntityRef (loc p))
            else if e.unparsed then .error (.flaw .binaryEntityRef (loc p))
            else
              match e.text with
              | none => .error (unknownReference written (loc p))
              | some text =>
                match contentLoop dtd fuel (storedInput text) false (loc p) sc.tags.length
                    { sc with opened := name :: sc.opened } 0 with
                | .error e => .error e
                | .ok (inner, _) => goOn { inner with opened := sc.opened } l.next
      | .startTagNoAtts | .startTagWithAtts | .emptyNoAtts | .emptyWithAtts =>
        let nameStop := inp.nameEnd (inp.stop + 1) (p + inp.w)
        let element := inp.src.decode (p + inp.w) nameStop
        let empty := l.tok == .emptyNoAtts || l.tok == .emptyWithAtts
        let how := if empty then none else some inDoc
        match startTag dtd fuel { inp with stop := l.next } inDoc how (loc p) sc p element with
        | .error e => .error e
        | .ok (sc', bound) =>
          if empty then
            let sc' := sc'.unbind bound
            if inDoc && sc'.tags.isEmpty then .ok (sc', .rootClosed l.next)
            else goOn sc' l.next
          else
            let tag : OpenTag := ⟨inp.src.bytes.extract (p + inp.w) nameStop, bound⟩
            goOn { sc' with tags := tag :: sc'.tags } l.next
      | .endTag =>
        if !inDoc && sc.tags.length == base then .error (.flaw .asyncEntity outer)
        else
          match sc.tags with
          | [] => .error (.flaw .asyncEntity (loc p))
          | tag :: rest =>
            let nameAt := p + 2 * inp.w
            let nameStop := inp.nameEnd (inp.stop + 1) nameAt
            if inp.src.bytes.extract nameAt nameStop != tag.name then
              .error (.flaw .tagMismatch (loc nameAt))
            else
              let sc := { sc with tags := rest }.unbind tag.bound
              if inDoc && rest.isEmpty then .ok (sc, .rootClosed l.next)
              else goOn sc l.next
      | _ => .error (.flaw .invalidToken (loc p))

end MacroDoc.Xml.WellFormed
