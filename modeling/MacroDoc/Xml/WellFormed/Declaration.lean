import MacroDoc.Xml.WellFormed.Token

/-!
# The XML declaration

An XML declaration `<?xml version="…" encoding="…" standalone="…"?>` holds pseudo-attributes
in a fixed order: `version` first and always, then `encoding` if any, then `standalone` if
any. Each is a blank, a name, `=` between optional blanks, and a quoted value of letters,
digits, `.`, `-` and `_`. An encoding name starts with a letter; `standalone` is `yes` or
`no`; only blanks may follow the last. The reader refuses anything else at the first
character out of place: the declaration is *not well formed* there.

Only ASCII characters are read; any other character is out of place.

## Main definitions

* `XmlDecl`: what a declaration says.
* `Input.xmlDecl`: read a declaration token.
* `Input.matchesWord`: whether the characters between two offsets spell an ASCII word.
-/

namespace MacroDoc.Xml.WellFormed

/-- What an XML declaration says. -/
structure XmlDecl where
  /-- Where the encoding name stands, from its first character to the closing quote. -/
  encoding : Option (Nat × Nat) := none
  /-- Whether the document says it is standalone. -/
  standalone : Bool := false

/-- Whether an ASCII code is a blank or a line end. -/
def isDeclSpace (c : Nat) : Bool := c == 0x20 || c == 0x0D || c == 0x0A || c == 0x09

/-- Whether an ASCII code may stand in a pseudo-attribute value. -/
def isValueCode (c : Nat) : Bool :=
  (0x61 ≤ c && c ≤ 0x7A) || (0x41 ≤ c && c ≤ 0x5A) || (0x30 ≤ c && c ≤ 0x39) ||
    c == 0x2E || c == 0x2D || c == 0x5F

/-- Whether an ASCII code is a letter. -/
def isLetterCode (c : Nat) : Bool := (0x61 ≤ c && c ≤ 0x7A) || (0x41 ≤ c && c ≤ 0x5A)

namespace Input

/-- The ASCII code of the character at an offset before an end, or `0x100` when there is
none or it is no ASCII character. -/
def codeBefore (inp : Input) (e p : Nat) : Nat :=
  if p + inp.w > e then 0x100
  else
    let c := inp.src.asciiAt p
    if c < 0x80 then c else 0x100

/-- Whether the characters between two offsets spell an ASCII word. -/
def matchesWord (inp : Input) (start stop : Nat) (word : String) : Bool :=
  start + word.length * inp.w == stop &&
    word.toList.zipIdx.all fun (c, k) => inp.isChar (start + k * inp.w) c

/-- The first offset from `p` on before `e` whose character is not a blank. -/
def skipDeclSpace (inp : Input) (e : Nat) : Nat → Nat → Nat
  | 0, p => p
  | fuel + 1, p =>
    if isDeclSpace (inp.codeBefore e p) then inp.skipDeclSpace e fuel (p + inp.w) else p

/-- The name of a pseudo-attribute from an offset: the offset where it ends and the offset
of the `=` after it, or the offset of the character out of place. -/
def pseudoName (inp : Input) (e : Nat) : Nat → Nat → Except Nat (Nat × Nat)
  | 0, p => .error p
  | fuel + 1, p =>
    let c := inp.codeBefore e p
    if c == 0x100 then .error p
    else if c == 0x3D then .ok (p, p)
    else if isDeclSpace c then
      let q := inp.skipDeclSpace e (e + 1) p
      if inp.codeBefore e q == 0x3D then .ok (p, q) else .error q
    else inp.pseudoName e fuel (p + inp.w)

/-- The characters of a pseudo-attribute value from an offset up to a closing quote: the
offset of the quote, or of the character out of place. -/
def pseudoValue (inp : Input) (e quote : Nat) : Nat → Nat → Except Nat Nat
  | 0, p => .error p
  | fuel + 1, p =>
    let c := inp.codeBefore e p
    if c == quote then .ok p
    else if !isValueCode c then .error p
    else inp.pseudoValue e quote fuel (p + inp.w)

/-- One pseudo-attribute from an offset, before an end: nothing at the end (or after only
blanks), else the start and end of its name, the start of its value and the offset after
the closing quote. A refusal gives the offset of the character out of place. -/
def pseudoAttribute (inp : Input) (e p : Nat) :
    Except Nat (Option (Nat × Nat × Nat × Nat)) :=
  let fuel := e + 1
  if p == e then .ok none
  else if !isDeclSpace (inp.codeBefore e p) then .error p
  else
    let p := inp.skipDeclSpace e fuel (p + inp.w)
    if p == e then .ok none
    else
      match inp.pseudoName e fuel p with
      | .error q => .error q
      | .ok (nameEnd, eq) =>
        if eq == p then .error eq
        else
          let q := inp.skipDeclSpace e fuel (eq + inp.w)
          let quote := inp.codeBefore e q
          if quote != 0x22 && quote != 0x27 then .error q
          else
            let v := q + inp.w
            match inp.pseudoValue e quote fuel v with
            | .error r => .error r
            | .ok close => .ok (some (p, nameEnd, v, close + inp.w))

/-- Read the `standalone` pseudo-attribute, whose name and value start at offsets, and what
follows it up to the end. -/
def standaloneRest (inp : Input) (e name nameEnd v after : Nat) : Except Nat Bool :=
  if !inp.matchesWord name nameEnd "standalone" then .error name
  else
    let close := after - inp.w
    let yes := inp.matchesWord v close "yes"
    if !yes && !inp.matchesWord v close "no" then .error v
    else
      let q := inp.skipDeclSpace e (e + 1) after
      if q != e then .error q else .ok yes

/-- Read an XML declaration token between two offsets: what it says, or the offset of the
first character out of place. -/
def xmlDecl (inp : Input) (s next : Nat) : Except Nat XmlDecl :=
  let p := s + 5 * inp.w
  let e := next - 2 * inp.w
  match inp.pseudoAttribute e p with
  | .error q => .error q
  | .ok none => .error p
  | .ok (some (n1, n1e, _, p1)) =>
    if !inp.matchesWord n1 n1e "version" then .error n1
    else
      match inp.pseudoAttribute e p1 with
      | .error q => .error q
      | .ok none => .ok {}
      | .ok (some (n2, n2e, v2, p2)) =>
        if inp.matchesWord n2 n2e "encoding" then
          if !isLetterCode (inp.codeBefore e v2) then .error v2
          else
            let enc := some (v2, p2 - inp.w)
            match inp.pseudoAttribute e p2 with
            | .error q => .error q
            | .ok none => .ok { encoding := enc }
            | .ok (some (n3, n3e, v3, p3)) =>
              match inp.standaloneRest e n3 n3e v3 p3 with
              | .error q => .error q
              | .ok yes => .ok { encoding := enc, standalone := yes }
        else
          match inp.standaloneRest e n2 n2e v2 p2 with
          | .error q => .error q
          | .ok yes => .ok { standalone := yes }

end Input

end MacroDoc.Xml.WellFormed
