import MacroDoc.Fault

/-!
# What stops a parse

A part is parsed from its first character to its last, and the first problem met stops it.
A problem is found at a position in the characters of the part; it is worded with the line
and the column there, lines and columns counted from one, and then with the source, a
string, and the line again. A carriage return ends a line, and so does a line feed that
does not follow one.

## Main definitions

* `Xml.Problem`, `Xml.ParseFault`: what stopped a parse, and where.
* `Xml.ParseFault.toFault`: the words of a refusal.
* `Xml.ParseFault.foundAt`: where the reader comes upon a problem.
* `Xml.spaceEnd`, `Xml.startsAt`, `Xml.between`: the scans over the characters that the
  readers of a part share.
-/

namespace MacroDoc.Xml

/-- What stopped a parse. -/
inductive Problem where
  /-- The input holds nothing at all. -/
  | emptyDocument
  /-- The input ends before the root element starts. -/
  | noRoot
  /-- Text stands before the root element. -/
  | textBeforeRoot
  /-- A character cannot continue a token. -/
  | invalidToken (words : String)
  /-- The input ends inside a token. -/
  | unclosedToken (words : String)
  /-- The input ends inside a CDATA section. -/
  | unclosedCData
  /-- The input ends inside an element, opened on a line; elements are named by their local
  names. -/
  | unclosedElement (name : String) (line : Nat)
  /-- An end tag names another element than the open one, opened on a line: the open one by
  its local name, the end tag's by its local name when the open one has a prefix. -/
  | mismatched (opened : String) (line : Nat) (closed : String)
  /-- Something other than white space, a comment or an instruction follows the root. -/
  | junk
  /-- A reference to an entity that is not defined. -/
  | undefinedEntity (name : String)
  /-- A character reference to a number that is no XML character. -/
  | badCharRef (value : Nat)
  /-- An attribute given twice. -/
  | duplicateAttribute (name : String)
  /-- An XML declaration after the start. -/
  | misplacedDeclaration
  /-- Bytes that are no UTF-8, the first of them given. -/
  | badEncoding (bytes : List Nat)
  /-- A NUL character, which no part of a document may hold. -/
  | nullChar
  /-- A malformed XML declaration, in the words of what was expected. -/
  | badDeclaration (words : String)
  /-- A declared version of XML other than 1.x. -/
  | unsupportedVersion (version : String)
  /-- A declared encoding the reader does not know. -/
  | unsupportedEncoding (name : String)

/-- A problem and the position, in characters, where it was found. -/
structure ParseFault where
  problem : Problem
  pos : Nat

/-- The characters of the input. -/
abbrev Chars := Array Char

/-- The line and column of a position: lines counted from one, columns from zero, a carriage
return before a line feed taken with it. -/
def lineColumn (cs : Chars) (pos : Nat) : Nat × Nat :=
  ((cs.toList.take pos).zipIdx.foldl (fun (line, col) (c, k) =>
    if c == '\n' then (if k > 0 && cs[k - 1]? == some '\r' then (line, col) else (line + 1, 0))
    else if c == '\r' then (line + 1, 0)
    else (line, col + 1)) (1, 0))

/-- The line of a position. -/
def lineOf (cs : Chars) (pos : Nat) : Nat := (lineColumn cs pos).1

/-- Two upper-case hexadecimal digits of a byte. -/
def hexByte (b : Nat) : String :=
  let digit (n : Nat) : Char := if n < 10 then Char.ofNat (48 + n) else Char.ofNat (55 + n)
  String.ofList [digit (b / 16 % 16), digit (b % 16)]

/-- The words of a problem. -/
def Problem.documentWords : Problem → String
  | .emptyDocument => "Document is empty"
  | .noRoot | .textBeforeRoot => "Start tag expected, '<' not found"
  | .invalidToken w | .unclosedToken w => w
  | .unclosedCData => "CData section not finished"
  | .unclosedElement name line =>
    "Premature end of data in tag " ++ name ++ " line " ++ toString line
  | .mismatched opened line closed =>
    "Opening and ending tag mismatch: " ++ opened ++ " line " ++ toString line ++ " and " ++ closed
  | .junk => "Extra content at the end of the document"
  | .undefinedEntity name => "Entity '" ++ name ++ "' not defined"
  | .badCharRef value => "xmlParseCharRef: invalid xmlChar value " ++ toString value
  | .duplicateAttribute name => "Attribute " ++ name ++ " redefined"
  | .misplacedDeclaration => "XML declaration allowed only at the start of the document"
  | .badEncoding bytes =>
    "Input is not proper UTF-8, indicate encoding !\nBytes: " ++
      " ".intercalate (bytes.map fun b => "0x" ++ hexByte b)
  | .nullChar => "Char 0x0 out of allowed range"
  | .badDeclaration w => w
  | .unsupportedVersion v => "Unsupported version '" ++ v ++ "'"
  | .unsupportedEncoding name => "Unsupported encoding: " ++ name

/-- The refusal of a parse: the words of its problem, with the line and the column (counted
from one) where it was found, and then the source, which is a string, with the line again. -/
def ParseFault.toFault (f : ParseFault) (cs : Chars) : Fault :=
  let (line, col) := lineColumn cs f.pos
  ⟨.xmlSyntax, f.problem.documentWords ++ ", line " ++ toString line ++
    ", column " ++ toString (col + 1) ++ " (<string>, line " ++ toString line ++ ")"⟩

/-- Where the reader finds a problem: at its position, except that a token or an element the
input ends inside is found only at the end. -/
def ParseFault.foundAt (f : ParseFault) (size : Nat) : Nat :=
  match f.problem with
  | .unclosedToken _ | .unclosedCData | .unclosedElement _ _ | .noRoot | .emptyDocument => size
  | _ => f.pos

/-- Whether a character is white space. -/
def isSpace (c : Char) : Bool := c == ' ' || c == '\t' || c == '\n' || c == '\r'

/-- The first position from `i` on where a test fails, or the end. -/
def scanWhile (cs : Chars) (p : Char → Bool) : Nat → Nat → Nat
  | 0, i => i
  | fuel + 1, i =>
    match cs[i]? with
    | some c => if p c then scanWhile cs p fuel (i + 1) else i
    | none => i

/-- The end of the white space that starts at a position. -/
def spaceEnd (cs : Chars) (i : Nat) : Nat := scanWhile cs isSpace cs.size i

/-- The characters between two positions. -/
def between (cs : Chars) (i j : Nat) : String := String.ofList ((cs.extract i j).toList)

/-- Whether a text starts at a position. -/
def startsAt (cs : Chars) (i : Nat) (s : String) : Bool :=
  s.toList.zipIdx.all fun (c, k) => cs[i + k]? == some c

end MacroDoc.Xml
