import MacroDoc.Xml.Charset
import MacroDoc.Xml.Problem
import MacroDoc.Text.Utf8

/-!
# How the bytes of a part open

Before a part is parsed its bytes become characters, and the XML declaration at its start
is read.

*The encoding.* The first bytes decide how the rest is read: a byte order mark of UTF-8
(skipped), of UTF-16 in either byte order (skipped), or, without a mark, the first
characters `<?` written in UTF-16 or `<` written in four-byte units. A part so recognized is
read in that encoding whatever its declaration says. Any other part is read as UTF-8 unless
its declaration names another encoding, which then reads the bytes after the name.

*The declaration.* A part that starts with `<?xml` and a blank has a declaration: the
version, then perhaps the encoding, then perhaps whether the document stands alone, each
in that order, and `?>`. Each is a name, white space, `=`, white space and a quoted value.
The version is a digit, a point and digits; a version other than 1.x is refused. An
encoding name is a letter followed by letters, digits, `.`, `_` and `-`, and must be one
the reader knows (see `Xml.charsetOfName?`). Standing alone is `yes` or `no`. The first
thing out of place is refused, in the words of what was expected there.

*Unreadable characters.* Bytes that are no UTF-8, where UTF-8 is read, and the NUL
character cannot be read; the first of them is kept, to be refused when the parse comes to
it. Past malformed UTF-8 the bytes are read one character a byte.

## Main definitions

* `Xml.Opened`: the characters of a part, where its content starts, and what was refused.
* `Xml.openPart`: open the bytes of a part.
-/

namespace MacroDoc.Xml

/-- The characters of bytes from a position, one a byte. -/
def latin1Chars (b : ByteArray) (start : Nat) : List Char :=
  (b.extract start b.size).toList.map fun x => Char.ofNat x.toNat

/-- The characters of UTF-8 bytes from a position, and, if some bytes are malformed, the
number of characters before them with the first four bytes from there; the bytes after that
are read one character a byte. -/
def utf8Chars (b : ByteArray) (start : Nat) : List Char × Option (Nat × List Nat) :=
  let body := b.extract start b.size
  match Text.decodeUtf8 body with
  | .ok s => (s.toList, none)
  | .error f =>
    let before := match Text.decodeUtf8 (body.extract 0 f.start) with
      | .ok s => s.toList
      | .error _ => []
    (before ++ latin1Chars body f.start,
      some (before.length, (body.extract f.start (f.start + 4)).toList.map (·.toNat)))

/-- The characters of UTF-16 units read from a list of bytes: a pair of surrogates makes one
character, and a surrogate alone, or a byte left over, the replacement character. -/
def utf16Units (bigEndian : Bool) : List UInt8 → List Nat
  | a :: b :: rest =>
    (if bigEndian then a.toNat * 256 + b.toNat else b.toNat * 256 + a.toNat) ::
      utf16Units bigEndian rest
  | [_] => [0xFFFD]
  | [] => []

/-- Characters of UTF-16 units. -/
def charsOfUnits : List Nat → List Char
  | hi :: lo :: rest =>
    if 0xD800 ≤ hi && hi < 0xDC00 && 0xDC00 ≤ lo && lo < 0xE000 then
      Char.ofNat (0x10000 + (hi - 0xD800) * 0x400 + (lo - 0xDC00)) :: charsOfUnits rest
    else if 0xD800 ≤ hi && hi < 0xE000 then '\uFFFD' :: charsOfUnits (lo :: rest)
    else Char.ofNat hi :: charsOfUnits (lo :: rest)
  | [u] => [if 0xD800 ≤ u && u < 0xE000 then '\uFFFD' else Char.ofNat u]
  | [] => []

/-- The characters of UTF-16 bytes from a position. -/
def utf16Chars (b : ByteArray) (start : Nat) (bigEndian : Bool) : List Char :=
  charsOfUnits (utf16Units bigEndian (b.extract start b.size).toList)

/-- The characters of four-byte units read from a list of bytes; a unit that is no
character, or bytes left over, make the replacement character. -/
def ucs4Chars (bigEndian : Bool) : List UInt8 → List Char
  | a :: b :: c :: d :: rest =>
    let n := if bigEndian then ((a.toNat * 256 + b.toNat) * 256 + c.toNat) * 256 + d.toNat
      else ((d.toNat * 256 + c.toNat) * 256 + b.toNat) * 256 + a.toNat
    let ch := Char.ofNat n
    (if ch.toNat == n then ch else '\uFFFD') :: ucs4Chars bigEndian rest
  | [] => []
  | _ => ['\uFFFD']

/-- The characters of bytes of a one-byte table from a position; a byte that stands for
nothing makes the replacement character. -/
def tableChars (table : Array Int) (b : ByteArray) (start : Nat) : List Char :=
  (b.extract start b.size).toList.map fun x =>
    let code := table[x.toNat]?.getD (-1)
    if code < 0 then '\uFFFD' else Char.ofNat code.toNat

/-- The characters of the bytes from a position in a charset, with malformed UTF-8 where
UTF-8 is read. -/
def charsetChars (c : Charset) (b : ByteArray) (start : Nat) :
    List Char × Option (Nat × List Nat) :=
  match c with
  | .utf8 => utf8Chars b start
  | .latin1 => (latin1Chars b start, none)
  | .oneByte table => (tableChars (oneByteTable table) b start, none)
  | .utf16 bigEndian => (utf16Chars b start bigEndian, none)

/-- How the first bytes of a part say it is written. -/
inductive Lead where
  /-- No mark: UTF-8, or what the declaration names. -/
  | plain
  /-- UTF-8 after a byte order mark. -/
  | utf8Mark
  /-- UTF-16, after a byte order mark of the given length. -/
  | utf16 (bigEndian : Bool) (mark : Nat)
  /-- Four-byte units. -/
  | ucs4 (bigEndian : Bool)

/-- How the first bytes of a part say it is written. -/
def leadOf (b : ByteArray) : Lead :=
  let byteAt (i : Nat) : Nat := (b[i]?.map UInt8.toNat).getD 256
  let four := [byteAt 0, byteAt 1, byteAt 2, byteAt 3]
  if four == [0, 0, 0, 0x3C] then .ucs4 true
  else if four == [0x3C, 0, 0, 0] then .ucs4 false
  else if four == [0x3C, 0, 0x3F, 0] then .utf16 false 0
  else if four == [0, 0x3C, 0, 0x3F] then .utf16 true 0
  else if [byteAt 0, byteAt 1, byteAt 2] == [0xEF, 0xBB, 0xBF] then .utf8Mark
  else if [byteAt 0, byteAt 1] == [0xFE, 0xFF] then .utf16 true 2
  else if [byteAt 0, byteAt 1] == [0xFF, 0xFE] then .utf16 false 2
  else .plain

/-- A refusal of a malformed declaration at a position. -/
def declarationFault (words : String) (pos : Nat) : ParseFault := ⟨.badDeclaration words, pos⟩

/-- The refusal of a missing `=`. -/
def equalExpected (pos : Nat) : ParseFault := declarationFault "expected '='" pos

/-- The refusal of a value without its opening quote. -/
def quoteExpected (pos : Nat) : ParseFault :=
  declarationFault "String not started expecting ' or \"" pos

/-- The refusal of a value without its closing quote. -/
def quoteUnclosed (pos : Nat) : ParseFault :=
  declarationFault "String not closed expecting \" or '" pos

/-- The opening quote of a pseudo-attribute's value after its name, which ends at a
position: white space, `=`, white space and the quote, with the position after it. -/
def valueQuote (cs : Chars) (nameEnd : Nat) : Except ParseFault (Char × Nat) := do
  let eq := spaceEnd cs nameEnd
  if cs[eq]? != some '=' then throw (equalExpected eq)
  let q := spaceEnd cs (eq + 1)
  match cs[q]? with
  | some '"' => return ('"', q + 1)
  | some '\'' => return ('\'', q + 1)
  | _ => throw (quoteExpected q)

/-- The end of the digits from a position. -/
def digitsEnd (cs : Chars) (i : Nat) : Nat := scanWhile cs Char.isDigit cs.size i

/-- A version number from a position: a digit, a point and digits, with the position after
it; without one, none and the position where reading it stopped. -/
def versionNumber (cs : Chars) (i : Nat) : Option String × Nat :=
  match cs[i]?, cs[i + 1]? with
  | some d, some '.' =>
    if d.isDigit then
      let stop := digitsEnd cs (i + 2)
      (some (between cs i stop), stop)
    else (none, i)
  | some d, _ => if d.isDigit then (none, i + 1) else (none, i)
  | none, _ => (none, i)

/-- Whether a character may continue an encoding name. -/
def isEncodingNameChar (c : Char) : Bool :=
  (c.toNat < 128 && c.isAlphanum) || c == '.' || c == '_' || c == '-'

/-- What the first part of a declaration says: the declared encoding with the position after
its value, the position reached, and whether the declaration ended already. -/
structure DeclarationHead where
  encoding : Option (String × Nat)
  pos : Nat
  finished : Bool

/-- Read a declaration up to and with its encoding, from after `<?xml`. -/
def readDeclarationHead (cs : Chars) : Except ParseFault DeclarationHead := do
  let v := spaceEnd cs 5
  if !startsAt cs v "version" then
    throw (declarationFault "Malformed declaration expecting version" v)
  let (quote, start) ← valueQuote cs (v + 7)
  let (version, stop) := versionNumber cs start
  if cs[stop]? != some quote then throw (quoteUnclosed stop)
  let pos := stop + 1
  let some version := version
    | throw (declarationFault "Malformed declaration expecting version" pos)
  if version != "1.0" && !version.startsWith "1." then throw ⟨.unsupportedVersion version, pos⟩
  if !(cs[pos]?.any isSpace) then
    if startsAt cs pos "?>" then return ⟨none, pos + 2, true⟩
    throw (declarationFault "Blank needed here" pos)
  let e := spaceEnd cs pos
  if !startsAt cs e "encoding" then return ⟨none, e, false⟩
  let (quote, start) ← valueQuote cs (e + 8)
  if !(cs[start]?.any fun c => c.toNat < 128 && c.isAlpha) then
    throw (declarationFault "Invalid XML encoding name" start)
  let stop := scanWhile cs isEncodingNameChar cs.size start
  if cs[stop]? != some quote then throw (quoteUnclosed stop)
  return ⟨some (between cs start stop, stop + 1), stop + 1, false⟩

/-- Read the rest of a declaration from where its head ended: whether the document stands
alone, and the position after `?>`. -/
def readDeclarationTail (cs : Chars) (head : DeclarationHead) : Except ParseFault (Bool × Nat) := do
  if head.finished then return (false, head.pos)
  let pos := head.pos
  if head.encoding.isSome && !(cs[pos]?.any isSpace) then
    if startsAt cs pos "?>" then return (false, pos + 2)
    throw (declarationFault "Blank needed here" pos)
  let s := spaceEnd cs pos
  let (standalone, pos) ← if startsAt cs s "standalone" then do
      let (quote, start) ← valueQuote cs (s + 10)
      let (value, stop) ←
        if startsAt cs start "no" then pure (false, start + 2)
        else if startsAt cs start "yes" then pure (true, start + 3)
        else throw (declarationFault "standalone accepts only 'yes' or 'no'" start)
      if cs[stop]? != some quote then throw (quoteUnclosed stop)
      pure (value, stop + 1)
    else pure (false, s)
  let pos := spaceEnd cs pos
  if startsAt cs pos "?>" then return (standalone, pos + 2)
  throw (declarationFault "parsing XML declaration: '?>' expected" pos)

/-- Whether characters start with a declaration: `<?xml` and a blank. -/
def hasDeclaration (cs : Chars) : Bool := startsAt cs 0 "<?xml" && (cs[5]?.any isSpace)

/-- A part opened: its characters, where its content starts after the declaration, whether
it stands alone, the refusal of its declaration if any, and the first character that cannot
be read if any. -/
structure Opened where
  chars : Chars
  start : Nat := 0
  standalone : Bool := false
  fault : Option ParseFault := none
  unreadable : Option ParseFault := none

/-- The first character that cannot be read: malformed bytes, given with where their
characters stop, or a NUL, whichever comes first. -/
def firstUnreadable (cs : List Char) (malformed : Option (Nat × List Nat)) :
    Option ParseFault :=
  let nul := (cs.findIdx? (· == '\x00')).map fun i => ParseFault.mk .nullChar i
  let bad := malformed.map fun (i, bytes) => ParseFault.mk (.badEncoding bytes) i
  match nul, bad with
  | some n, some m => some (if n.pos < m.pos then n else m)
  | some n, none => some n
  | none, m => m

/-- Open characters whose encoding is settled: read their declaration, if any, without
looking its encoding up. -/
def openSettled (cs : List Char) (malformed : Option (Nat × List Nat)) : Opened :=
  let chars := cs.toArray
  let base : Opened := { chars, unreadable := firstUnreadable cs malformed }
  if !hasDeclaration chars then base
  else
    match readDeclarationHead chars >>= readDeclarationTail chars with
    | .ok (standalone, start) => { base with start, standalone }
    | .error f => { base with fault := some f }

/-- Open the bytes of a part without a byte order mark: the declaration is read from the
bytes, and the bytes after a declared encoding's name are read in that encoding. -/
def openPlain (b : ByteArray) : Opened :=
  let view := (latin1Chars b 0).toArray
  if !hasDeclaration view then
    let (cs, malformed) := utf8Chars b 0
    openSettled cs malformed
  else
    match readDeclarationHead view with
    | .error f =>
      let (cs, malformed) := utf8Chars b 0
      { chars := cs.toArray, fault := some f, unreadable := firstUnreadable cs malformed }
    | .ok head =>
      let (cs, malformed, fault) := match head.encoding with
        | none =>
          let (cs, m) := utf8Chars b 0
          (cs, m, none)
        | some (name, stop) =>
          match charsetOfName? name with
          | none =>
            let (cs, m) := utf8Chars b 0
            (cs, m, some (ParseFault.mk (.unsupportedEncoding name) stop))
          | some charset =>
            let (rest, m) := charsetChars charset b stop
            ((view.extract 0 stop).toList ++ rest, m.map fun (i, bytes) => (stop + i, bytes), none)
      let chars := cs.toArray
      let base : Opened := { chars, unreadable := firstUnreadable cs malformed }
      match fault with
      | some f => { base with fault := some f }
      | none =>
        match readDeclarationTail chars head with
        | .ok (standalone, start) => { base with start, standalone }
        | .error f => { base with fault := some f }

/-- Open the bytes of a part. -/
def openPart (b : ByteArray) : Opened :=
  match leadOf b with
  | .plain => openPlain b
  | .utf8Mark =>
    let (cs, malformed) := utf8Chars b 3
    openSettled cs malformed
  | .utf16 bigEndian mark => openSettled (utf16Chars b mark bigEndian) none
  | .ucs4 bigEndian => openSettled (ucs4Chars bigEndian (b.extract 0 b.size).toList) none

end MacroDoc.Xml
