import MacroDoc.Xml.WellFormed.NameTable

/-!
# Bytes as the strict reader sees them

The strict reader never decodes its input ahead of time: it looks at the bytes where it
stands and sorts the character there into a class, which is all its scanners need. A text
is UTF-8, UTF-16 in either byte order, Latin-1, ASCII, or a one-byte coding given by a
table of 256 code points. Text the reader stored itself (the replacement text of an
entity) is UTF-8 in which a carriage return counts as a blank.

In UTF-8 the first byte of a sequence is only a *lead* of the sequence's length; whether
the sequence is well formed, and whether it is a name character, is asked of the whole
sequence when a scanner gets there. In UTF-16 a unit of the basic plane above Latin-1 is a
*wide* character whose name class is looked up, and a high surrogate leads a four-byte
pair that is never a name character.

Positions are byte offsets. A line and column pair counts a character (of any width) as
one column, and a line feed, a carriage return, or the two together, as one line end.

## Main definitions

* `CharClass`: the classes of characters.
* `Coding`: the ways bytes stand for characters.
* `Source`: a text to read, with `Source.classAt`, `Source.asciiAt` and the sequence tests.
* `Source.position`: the line and column of an offset.
* `Source.decode`: the characters between two offsets.
-/

namespace MacroDoc.Xml.WellFormed

/-- The classes the strict reader sorts characters into. -/
inductive CharClass where
  /-- A character XML does not allow. -/
  | nonXml
  /-- A byte that stands for no character. -/
  | malformed
  | lt | amp | rsqb
  /-- The first byte of a sequence of two, three or four bytes. -/
  | lead2 | lead3 | lead4
  /-- A byte that can only continue a sequence. -/
  | trail
  | cr | lf | gt | quot | apos | equals | quest | excl | slash | semi | hash | lsqb
  /-- A blank: space or tab. -/
  | space
  /-- A letter or `_`: may start a name. -/
  | nameStart
  | colon
  /-- A letter that is also a hexadecimal digit. -/
  | hex
  | digit
  /-- May continue a name but not start it, such as `.`. -/
  | nameChar
  | minus
  /-- A character of no other class. -/
  | other
  /-- A two-byte unit of the basic plane above Latin-1, to be looked up. -/
  | wide
  | percent | lpar | rpar | star | plus | comma | bar
  deriving DecidableEq, Repr, Inhabited

/-- The class of an ASCII character. A colon has a class of its own, as names with
prefixes are read. -/
def asciiClass (b : Nat) : CharClass :=
  if b == 0x09 then .space
  else if b == 0x0A then .lf
  else if b == 0x0D then .cr
  else if b < 0x20 then .nonXml
  else if 0x30 ≤ b && b ≤ 0x39 then .digit
  else if (0x41 ≤ b && b ≤ 0x46) || (0x61 ≤ b && b ≤ 0x66) then .hex
  else if (0x47 ≤ b && b ≤ 0x5A) || (0x67 ≤ b && b ≤ 0x7A) || b == 0x5F then .nameStart
  else match b with
    | 0x20 => .space | 0x21 => .excl | 0x22 => .quot | 0x23 => .hash | 0x25 => .percent
    | 0x26 => .amp | 0x27 => .apos | 0x28 => .lpar | 0x29 => .rpar | 0x2A => .star
    | 0x2B => .plus | 0x2C => .comma | 0x2D => .minus | 0x2E => .nameChar | 0x2F => .slash
    | 0x3A => .colon | 0x3B => .semi | 0x3C => .lt | 0x3D => .equals | 0x3E => .gt
    | 0x3F => .quest | 0x5B => .lsqb | 0x5D => .rsqb | 0x7C => .bar
    | _ => .other

/-- The class of a character from `0x80` to `0xFF` of Latin-1. Three characters that the
name tables leave out start names here. -/
def latin1Class (b : Nat) : CharClass :=
  if b == 0xAA || b == 0xB5 || b == 0xBA || startsName b then .nameStart
  else if continuesName b then .nameChar
  else .other

/-- The class of a byte of UTF-8. -/
def utf8Class (b : Nat) : CharClass :=
  if b < 0x80 then asciiClass b
  else if b < 0xC0 then .trail
  else if b < 0xE0 then .lead2
  else if b < 0xF0 then .lead3
  else if b < 0xF5 then .lead4
  else if b < 0xFE then .nonXml
  else .malformed

/-- Whether a code point is a character XML allows. -/
def isXmlPoint (n : Nat) : Bool :=
  if n < 0x20 then n == 0x09 || n == 0x0A || n == 0x0D
  else if 0xD800 ≤ n && n ≤ 0xDFFF then false
  else n != 0xFFFE && n != 0xFFFF && n < 0x110000

/-- The class of a code point from `0x80` up, as a table coding gives it. -/
def pointClass (n : Nat) : CharClass :=
  if !isXmlPoint n then .nonXml
  else if startsName n then .nameStart
  else if continuesName n then .nameChar
  else .other

/-- The class of a UTF-16 unit, from its high and low byte. -/
def unitClass (hi lo : Nat) : CharClass :=
  if hi == 0 then (if lo < 0x80 then asciiClass lo else latin1Class lo)
  else if 0xD8 ≤ hi && hi ≤ 0xDB then .lead4
  else if 0xDC ≤ hi && hi ≤ 0xDF then .trail
  else if hi == 0xFF && (lo == 0xFE || lo == 0xFF) then .nonXml
  else .wide

/-- How the bytes of a text stand for characters. -/
inductive Coding where
  | utf8
  /-- UTF-8 the reader stored itself, where a carriage return is a blank. -/
  | stored
  | utf16le
  | utf16be
  | latin1
  | ascii
  /-- One byte a character, by a table of 256 code points; `-1` stands for no character. -/
  | table (map : Array Int)
  deriving Inhabited

/-- The number of bytes of the shortest character. -/
def Coding.width : Coding → Nat
  | .utf16le | .utf16be => 2
  | _ => 1

/-- Whether two codings are the same. -/
def Coding.same : Coding → Coding → Bool
  | .utf8, .utf8 | .stored, .stored | .utf16le, .utf16le | .utf16be, .utf16be
  | .latin1, .latin1 | .ascii, .ascii => true
  | .table m, .table n => m == n
  | _, _ => false

/-- The byte at an offset, `0` past the end. -/
def byteAt (b : ByteArray) (i : Nat) : Nat :=
  match b[i]? with
  | some x => x.toNat
  | none => 0

/-- The class a table coding gives a byte. -/
def tableClass (map : Array Int) (b : Nat) : CharClass :=
  match map[b]? with
  | none => .malformed
  | some c =>
    if c < 0 then .malformed
    else if c.toNat < 0x80 then asciiClass c.toNat
    else pointClass c.toNat

/-- A text to read: its bytes and their coding. -/
structure Source where
  bytes : ByteArray
  coding : Coding
  deriving Inhabited

namespace Source

/-- The number of bytes of the shortest character. -/
def width (s : Source) : Nat := s.coding.width

/-- The class of the character at an offset. -/
def classAt (s : Source) (i : Nat) : CharClass :=
  let b := byteAt s.bytes i
  match s.coding with
  | .utf8 => utf8Class b
  | .stored => if b == 0x0D then .space else utf8Class b
  | .latin1 => if b < 0x80 then asciiClass b else latin1Class b
  | .ascii => if b < 0x80 then asciiClass b else .nonXml
  | .table map => tableClass map b
  | .utf16le => unitClass (byteAt s.bytes (i + 1)) b
  | .utf16be => unitClass b (byteAt s.bytes (i + 1))

/-- The ASCII code of the character at an offset, or a number above `0x7F` when it is no
ASCII character. In one-byte codings this is the byte itself. -/
def asciiAt (s : Source) (i : Nat) : Nat :=
  match s.coding with
  | .utf16le => if byteAt s.bytes (i + 1) == 0 then byteAt s.bytes i else 0x100
  | .utf16be => if byteAt s.bytes i == 0 then byteAt s.bytes (i + 1) else 0x100
  | _ => byteAt s.bytes i

/-- Whether the character at an offset is a given ASCII character. -/
def isChar (s : Source) (i : Nat) (c : Char) : Bool := s.asciiAt i == c.toNat

/-- Whether a byte continues a UTF-8 sequence. -/
def isTrailByte (b : Nat) : Bool := 0x80 ≤ b && b < 0xC0

/-- Whether the UTF-8 sequence of `n` bytes at an offset is ill formed: overlong, a
surrogate, `0xFFFE` or `0xFFFF`, beyond `0x10FFFF`, or with a byte that does not continue. -/
def utf8Invalid (b : ByteArray) (i n : Nat) : Bool :=
  let p0 := byteAt b i
  let p1 := byteAt b (i + 1)
  let p2 := byteAt b (i + 2)
  let p3 := byteAt b (i + 3)
  if n == 2 then p0 < 0xC2 || !isTrailByte p1
  else if n == 3 then
    p2 < 0x80 || (if p0 == 0xEF && p1 == 0xBF then p2 > 0xBD else p2 ≥ 0xC0) ||
      (if p0 == 0xE0 then p1 < 0xA0 || p1 ≥ 0xC0
       else p1 < 0x80 || (if p0 == 0xED then p1 > 0x9F else p1 ≥ 0xC0))
  else
    p3 < 0x80 || p3 ≥ 0xC0 || p2 < 0x80 || p2 ≥ 0xC0 ||
      (if p0 == 0xF0 then p1 < 0x90 || p1 ≥ 0xC0
       else p1 < 0x80 || (if p0 == 0xF4 then p1 > 0x8F else p1 ≥ 0xC0))

/-- The code point of a UTF-8 sequence of two or three bytes. -/
def utf8Point (b : ByteArray) (i n : Nat) : Nat :=
  if n == 2 then (byteAt b i % 0x20) * 0x40 + byteAt b (i + 1) % 0x40
  else (byteAt b i % 0x10) * 0x1000 + (byteAt b (i + 1) % 0x40) * 0x40 + byteAt b (i + 2) % 0x40

/-- Whether the sequence of `n` bytes that a lead starts at an offset is ill formed. Only
UTF-8 checks its sequences. -/
def seqInvalid (s : Source) (i n : Nat) : Bool :=
  match s.coding with
  | .utf8 | .stored => utf8Invalid s.bytes i n
  | _ => false

/-- Whether the sequence of `n` bytes at an offset may start a name. -/
def seqStartsName (s : Source) (i n : Nat) : Bool :=
  match s.coding with
  | .utf8 | .stored => n != 4 && startsName (utf8Point s.bytes i n)
  | _ => false

/-- Whether the sequence of `n` bytes at an offset may stand in a name. -/
def seqContinuesName (s : Source) (i n : Nat) : Bool :=
  match s.coding with
  | .utf8 | .stored => n != 4 && continuesName (utf8Point s.bytes i n)
  | _ => false

/-- The code unit of the UTF-16 unit at an offset. -/
def unitAt (s : Source) (i : Nat) : Nat :=
  match s.coding with
  | .utf16le => byteAt s.bytes (i + 1) * 0x100 + byteAt s.bytes i
  | _ => byteAt s.bytes i * 0x100 + byteAt s.bytes (i + 1)

/-- Whether the wide character at an offset may start a name. -/
def wideStartsName (s : Source) (i : Nat) : Bool := startsName (s.unitAt i)

/-- Whether the wide character at an offset may stand in a name. -/
def wideContinuesName (s : Source) (i : Nat) : Bool := continuesName (s.unitAt i)

/-- The number of bytes a lead class stands for. -/
def leadLength : CharClass → Nat
  | .lead2 => 2
  | .lead3 => 3
  | .lead4 => 4
  | _ => 0

/-- The line and column of an offset, counting from the start of the text: lines from one,
columns from zero. -/
def position (s : Source) (upto : Nat) : Nat × Nat :=
  go (upto + 1) 0 1 0
where
  /-- Count on from offset `i`, at line `l` and column `c`. -/
  go : Nat → Nat → Nat → Nat → Nat × Nat
    | 0, _, l, c => (l, c)
    | fuel + 1, i, l, c =>
      if i + s.width > upto then (l, c)
      else
        match s.classAt i with
        | .lead2 => go fuel (i + 2) l (c + 1)
        | .lead3 => go fuel (i + 3) l (c + 1)
        | .lead4 => go fuel (i + 4) l (c + 1)
        | .lf => go fuel (i + s.width) (l + 1) 0
        | .cr =>
          let j := i + s.width
          if j + s.width ≤ upto && s.classAt j == .lf then go fuel (j + s.width) (l + 1) 0
          else go fuel j (l + 1) 0
        | _ => go fuel (i + s.width) l (c + 1)

/-- The character a code point stands for, the replacement character for one that is no
scalar value. -/
def pointChar (n : Nat) : Char :=
  if h : n.isValidChar then ⟨n.toUInt32, by
    simp only [Nat.isValidChar] at h
    simp only [UInt32.isValidChar, Nat.isValidChar, UInt32.toNat_ofNat']
    have : n < 4294967296 := by omega
    rw [Nat.mod_eq_of_lt this]
    exact h⟩
  else '�'

/-- The characters between two offsets. The reader decodes only text it has checked. -/
def decode (s : Source) (i j : Nat) : String :=
  match s.coding with
  | .utf8 | .stored =>
    match String.fromUTF8? (s.bytes.extract i j) with
    | some t => t
    | none => String.ofList ((List.range (j - i)).map fun k => pointChar (byteAt s.bytes (i + k)))
  | .latin1 | .ascii => String.ofList ((List.range (j - i)).map fun k => pointChar (byteAt s.bytes (i + k)))
  | .table map =>
    String.ofList ((List.range (j - i)).map fun k =>
      match map[byteAt s.bytes (i + k)]? with
      | some c => if c < 0 then '�' else pointChar c.toNat
      | none => '�')
  | .utf16le | .utf16be => String.ofList (units (j - i) i)
where
  /-- The characters of UTF-16 units from an offset on, before `j`. -/
  units : Nat → Nat → List Char
    | 0, _ => []
    | fuel + 1, k =>
      if k + 2 > j then []
      else
        let u := s.unitAt k
        if 0xD800 ≤ u && u ≤ 0xDBFF && k + 4 ≤ j then
          let v := s.unitAt (k + 2)
          pointChar (0x10000 + (u - 0xD800) * 0x400 + (v % 0x400)) :: units fuel (k + 4)
        else pointChar u :: units fuel (k + 2)

end Source

end MacroDoc.Xml.WellFormed
