import MacroDoc.Xml.Node
import MacroDoc.Xml.PathNumber

/-!
# Path queries

Styles are found with path queries on the XML of a style sheet. A query is compiled from its
text and then evaluated on a tree, from one element of it.

The tree is flattened into entries in document order: the root, then each element followed
by its attributes and then its children. An entry's index is its place in document order,
and a node-set is a sorted list of indices.

The compiler reads the text from left to right the way the reference implementation does,
and stops at the first problem with the reference implementation's words: a predicate that
does not end with `]` is an invalid predicate, a literal without its closing quote is
unfinished, text left over after the whole expression is an invalid expression, and so on.
In particular `or`, `and`, `div` and `mod` are recognised by their letters alone. The
evaluator follows the usual rules: location steps along the axes (reverse axes count
positions from the nearest node), predicates that test a position when they give a number
and a truth value otherwise, the comparisons of node-sets by their string values, and the
core function library. A prefix is looked up when its step is evaluated, and a function
when it is called, after its arguments.

## Main definitions

* `Xml.Entry`, `Xml.flatten`: a tree as entries.
* `Xml.PathExpr`: a compiled query; `Xml.compileQuery` compiles one.
* `Xml.PathValue`: what a query gives; `Xml.evalPath` evaluates one.
-/

namespace MacroDoc.Xml

/-- The kinds of entries of a flattened tree. -/
inductive EntryKind where
  | root
  | element
  | attribute
  | text
  deriving DecidableEq

/-- An entry of a flattened tree: its kind, its name (elements and attributes), its value
(attributes and text), its parent (the root is its own), its children and its attributes. -/
structure Entry where
  kind : EntryKind
  name : Name
  value : String
  parent : Nat
  children : List Nat
  attrs : List Nat

/-- The empty name. -/
def noName : Name := ⟨"", ""⟩

mutual

/-- Add a node and everything inside it under a parent; gives the entries and the node's
index. -/
def addNode (parent : Nat) : Node → Array Entry → Array Entry × Nat
  | .element name attrs children, es =>
    let me := es.size
    let es := es.push ⟨.element, name, "", parent, [], []⟩
    let attrIdx := (List.range attrs.length).map (· + es.size)
    let es := attrs.foldl (fun es (n, v) => es.push ⟨.attribute, n, v, me, [], []⟩) es
    let (es, kids) := addNodes me children es
    (es.modify me (fun e => { e with children := kids, attrs := attrIdx }), me)
  | .text s, es => (es.push ⟨.text, noName, s, parent, [], []⟩, es.size)
  | .aside, es => (es, parent)

/-- Add nodes in order under a parent; gives the entries and the nodes' indices. -/
def addNodes (parent : Nat) : List Node → Array Entry → Array Entry × List Nat
  | [], es => (es, [])
  | .aside :: rest, es => addNodes parent rest es
  | n :: rest, es =>
    let (es, i) := addNode parent n es
    let (es, is) := addNodes parent rest es
    (es, i :: is)

end

/-- A tree with its root element flattened: the root is entry 0, the root element entry 1. -/
def flatten (root : Node) : Array Entry :=
  let es : Array Entry := #[⟨.root, noName, "", 0, [1], []⟩]
  (addNode 0 root es).1

/-- A node test of a step. -/
inductive NodeTest where
  /-- A name with an optional prefix. -/
  | name (pre : Option String) (localName : String)
  /-- Any name, in a prefix's namespace when one is given. -/
  | any (pre : Option String)
  | node
  | text
  | comment
  | instruction (target : Option String)

/-- The axes of steps. -/
inductive Axis where
  | child | descendant | descendantOrSelf | self | parent | ancestor | ancestorOrSelf
  | attribute | followingSibling | precedingSibling | following | preceding | namespace
  deriving DecidableEq

/-- The binary operators. -/
inductive BinOp where
  | or | and | eq | ne | lt | le | gt | ge | add | sub | mul | div | mod | union
  deriving DecidableEq

/-- A compiled query. -/
inductive PathExpr where
  | binary (op : BinOp) (a b : PathExpr)
  /-- A number of unary minus signs before an expression. -/
  | minus (odd : Bool) (e : PathExpr)
  | literal (s : String)
  | number (x : Float)
  | variable (name : String)
  | call (pre : Option String) (name : String) (args : List PathExpr)
  /-- The root of the tree. -/
  | root
  /-- The context node. -/
  | context
  | step (input : PathExpr) (axis : Axis) (test : NodeTest) (preds : List PathExpr)
  | filter (e : PathExpr) (preds : List PathExpr)

/-- The characters of a query, with the zero character past the end. -/
abbrev QueryText := Array Char

/-- The character at a position, zero past the end. -/
def cur (q : QueryText) (i : Nat) : Char := q[i]?.getD '\x00'

/-- The position after the blanks from a position. -/
def skipBlanks (q : QueryText) (i : Nat) : Nat :=
  i + ((q.toList.drop i).takeWhile isBlank).length

/-- Whether a character is a letter. -/
def isLetter (c : Char) : Bool := c.isAlpha || (c.toNat ≥ 0xC0 && c.toNat != 0xD7 && c.toNat != 0xF7)

/-- Whether a character may continue a name without a colon. -/
def isNCNameChar (c : Char) : Bool :=
  isLetter c || c.isDigit || c == '.' || c == '-' || c == '_' || c.toNat == 0xB7

/-- A name without a colon at a position, and the position after it. -/
def parseNCName (q : QueryText) (i : Nat) : Option (String × Nat) :=
  let c := cur q i
  if !(isLetter c || c == '_') then none
  else
    let len := ((q.toList.drop i).takeWhile isNCNameChar).length
    some (String.ofList ((q.toList.drop i).take len), i + len)

/-- A name at a position as the reference implementation scans ahead for one: letters,
digits, dots, hyphens, underscores and colons. -/
def scanName (q : QueryText) (i : Nat) : Option Nat :=
  let c := cur q i
  if c == ' ' || c == '>' || c == '/' || !(isLetter c || c == '_' || c == ':') then none
  else some ((q.toList.drop i).takeWhile (fun c => c != ' ' && c != '>' && c != '/' &&
    (isNCNameChar c || c == ':'))).length

/-- The axis a name names. -/
def axisOfName (s : String) : Option Axis :=
  match s with
  | "ancestor" => some .ancestor
  | "ancestor-or-self" => some .ancestorOrSelf
  | "attribute" => some .attribute
  | "child" => some .child
  | "descendant" => some .descendant
  | "descendant-or-self" => some .descendantOrSelf
  | "following" => some .following
  | "following-sibling" => some .followingSibling
  | "namespace" => some .namespace
  | "parent" => some .parent
  | "preceding" => some .preceding
  | "preceding-sibling" => some .precedingSibling
  | "self" => some .self
  | _ => none

/-- Whether a name is a node type. -/
def isNodeType (s : String) : Bool :=
  s == "comment" || s == "text" || s == "processing-instruction" || s == "node"

/-- The words of the compile and evaluation problems. -/
def invalidExpression : String := "Invalid expression"

/-- A compile result: the expression and the position after it, or the words of a problem. -/
abbrev Compiled := Except String (PathExpr × Nat)

/-- A number at a position: digits, a fraction and an exponent, read as numbers of a query
are read. -/
def compileNumber (q : QueryText) (i : Nat) : Compiled :=
  let cs := q.toList.drop i
  let (x, rest) := readLiteralNumber cs
  .ok (.number x, i + (cs.length - rest.length))

/-- A literal at a position, in double or single quotes. -/
def compileLiteral (q : QueryText) (i : Nat) : Compiled :=
  let quote := cur q i
  if quote != '"' && quote != '\'' then .error "Start of literal"
  else
    let body := (q.toList.drop (i + 1)).takeWhile fun c =>
      c != quote && (c == '\t' || c == '\n' || c == '\r' || c.toNat ≥ 0x20)
    let stop := i + 1 + body.length
    if cur q stop != quote then .error "Unfinished literal"
    else .ok (.literal (String.ofList body), stop + 1)

/-- The number of minus signs from a position, blanks between them skipped. -/
def countMinus (q : QueryText) : Nat → Nat → Nat → Nat × Nat
  | 0, n, i => (n, i)
  | fuel + 1, n, i => if cur q i == '-' then countMinus q fuel (n + 1) (skipBlanks q (i + 1)) else (n, i)

/-- Whether the text after a name makes the name start a location path: a name followed by
`(` starts one only when it is a node type; anything else after it (blanks skipped) makes it
a path. -/
def lookAhead (q : QueryText) (name : String) : Nat → Nat → Bool
  | 0, _ => true
  | fuel + 1, j =>
    let c := cur q j
    if c == '\x00' then true
    else if isBlank c then lookAhead q name fuel (j + 1)
    else if c == '(' then isNodeType name
    else true

/-- A node test after the axis, from a name already read or from the text. Blanks are
skipped first, so after a name already read a prefix may stand apart from its colon. -/
def compileNodeTest (q : QueryText) (name : Option (String × Nat)) (i : Nat) :
    Except String (NodeTest × Nat) :=
  let i := skipBlanks q i
  if name.isNone && cur q i == '*' then .ok (.any none, i + 1)
  else
    let named := match name with
      | some (n, _) => some (n, i)
      | none => parseNCName q i
    match named with
    | none => .error invalidExpression
    | some (n, j) =>
      let blanks := isBlank (cur q j)
      let k := skipBlanks q j
      if cur q k == '(' then
        let k := skipBlanks q (k + 1)
        if !isNodeType n then .error invalidExpression
        else if n == "processing-instruction" && cur q k != ')' then
          match compileLiteral q k with
          | .error e => .error e
          | .ok (.literal t, m) =>
            let m := skipBlanks q m
            if cur q m != ')' then .error "Missing closing curly brace"
            else .ok (.instruction (some t), m + 1)
          | .ok _ => .error invalidExpression
        else if cur q k != ')' then .error "Missing closing curly brace"
        else
          let test := if n == "comment" then NodeTest.comment else if n == "text" then .text
            else if n == "node" then .node else .instruction none
          .ok (test, k + 1)
      else if !blanks && cur q k == ':' then
        if cur q (k + 1) == '*' then .ok (.any (some n), k + 2)
        else match parseNCName q (k + 1) with
          | some (m, l) => .ok (.name (some n) m, l)
          | none => .error invalidExpression
      else .ok (.name none n, j)

mutual

/-- An expression: and-expressions joined by `or`. -/
def compileExpr (q : QueryText) : Nat → Nat → Compiled
  | 0, _ => .error invalidExpression
  | fuel + 1, i => do
    let (a, i) ← compileAnd q fuel i
    compileOrTail q fuel a (skipBlanks q i)

/-- The `or` operands after the first. -/
def compileOrTail (q : QueryText) : Nat → PathExpr → Nat → Compiled
  | 0, _, _ => .error invalidExpression
  | fuel + 1, a, i =>
    if cur q i == 'o' && cur q (i + 1) == 'r' then do
      let (b, j) ← compileAnd q fuel (skipBlanks q (i + 2))
      compileOrTail q fuel (.binary .or a b) (skipBlanks q j)
    else .ok (a, i)

/-- An and-expression: equality expressions joined by `and`. -/
def compileAnd (q : QueryText) : Nat → Nat → Compiled
  | 0, _ => .error invalidExpression
  | fuel + 1, i => do
    let (a, i) ← compileEquality q fuel i
    compileAndTail q fuel a (skipBlanks q i)

/-- The `and` operands after the first. -/
def compileAndTail (q : QueryText) : Nat → PathExpr → Nat → Compiled
  | 0, _, _ => .error invalidExpression
  | fuel + 1, a, i =>
    if cur q i == 'a' && cur q (i + 1) == 'n' && cur q (i + 2) == 'd' then do
      let (b, j) ← compileEquality q fuel (skipBlanks q (i + 3))
      compileAndTail q fuel (.binary .and a b) (skipBlanks q j)
    else .ok (a, i)

/-- An equality expression. -/
def compileEquality (q : QueryText) : Nat → Nat → Compiled
  | 0, _ => .error invalidExpression
  | fuel + 1, i => do
    let (a, i) ← compileRelational q fuel i
    compileEqualityTail q fuel a (skipBlanks q i)

/-- The operands of `=` and `!=` after the first. -/
def compileEqualityTail (q : QueryText) : Nat → PathExpr → Nat → Compiled
  | 0, _, _ => .error invalidExpression
  | fuel + 1, a, i =>
    let c := cur q i
    if c == '=' || (c == '!' && cur q (i + 1) == '=') then do
      let op := if c == '=' then BinOp.eq else .ne
      let (b, j) ← compileRelational q fuel (skipBlanks q (if c == '=' then i + 1 else i + 2))
      compileEqualityTail q fuel (.binary op a b) (skipBlanks q j)
    else .ok (a, i)

/-- A relational expression. -/
def compileRelational (q : QueryText) : Nat → Nat → Compiled
  | 0, _ => .error invalidExpression
  | fuel + 1, i => do
    let (a, i) ← compileAdditive q fuel i
    compileRelationalTail q fuel a (skipBlanks q i)

/-- The operands of `<`, `<=`, `>` and `>=` after the first. -/
def compileRelationalTail (q : QueryText) : Nat → PathExpr → Nat → Compiled
  | 0, _, _ => .error invalidExpression
  | fuel + 1, a, i =>
    let c := cur q i
    if c == '<' || c == '>' then do
      let strict := cur q (i + 1) != '='
      let op := if c == '<' then (if strict then BinOp.lt else .le) else (if strict then .gt else .ge)
      let (b, j) ← compileAdditive q fuel (skipBlanks q (if strict then i + 1 else i + 2))
      compileRelationalTail q fuel (.binary op a b) (skipBlanks q j)
    else .ok (a, i)

/-- An additive expression. -/
def compileAdditive (q : QueryText) : Nat → Nat → Compiled
  | 0, _ => .error invalidExpression
  | fuel + 1, i => do
    let (a, i) ← compileMultiplicative q fuel i
    compileAdditiveTail q fuel a (skipBlanks q i)

/-- The operands of `+` and `-` after the first. -/
def compileAdditiveTail (q : QueryText) : Nat → PathExpr → Nat → Compiled
  | 0, _, _ => .error invalidExpression
  | fuel + 1, a, i =>
    let c := cur q i
    if c == '+' || c == '-' then do
      let (b, j) ← compileMultiplicative q fuel (skipBlanks q (i + 1))
      compileAdditiveTail q fuel (.binary (if c == '+' then .add else .sub) a b) (skipBlanks q j)
    else .ok (a, i)

/-- A multiplicative expression. -/
def compileMultiplicative (q : QueryText) : Nat → Nat → Compiled
  | 0, _ => .error invalidExpression
  | fuel + 1, i => do
    let (a, i) ← compileUnary q fuel i
    compileMultiplicativeTail q fuel a (skipBlanks q i)

/-- The operands of `*`, `div` and `mod` after the first. -/
def compileMultiplicativeTail (q : QueryText) : Nat → PathExpr → Nat → Compiled
  | 0, _, _ => .error invalidExpression
  | fuel + 1, a, i =>
    let c := cur q i
    let word (w : String) : Bool := w.toList.zipIdx.all fun (x, k) => cur q (i + k) == x
    if c == '*' || word "div" || word "mod" then do
      let (op, len) := if c == '*' then (BinOp.mul, 1) else if word "div" then (.div, 3) else (.mod, 3)
      let (b, j) ← compileUnary q fuel (skipBlanks q (i + len))
      compileMultiplicativeTail q fuel (.binary op a b) (skipBlanks q j)
    else .ok (a, i)

/-- A unary expression: minus signs, then a union. -/
def compileUnary (q : QueryText) : Nat → Nat → Compiled
  | 0, _ => .error invalidExpression
  | fuel + 1, i => do
    let i := skipBlanks q i
    let (count, i) := countMinus q (q.size + 1) 0 i
    let (e, j) ← compileUnion q fuel i
    if count == 0 then return (e, j) else return (.minus (count % 2 == 1) e, j)

/-- A union: path expressions joined by `|`. -/
def compileUnion (q : QueryText) : Nat → Nat → Compiled
  | 0, _ => .error invalidExpression
  | fuel + 1, i => do
    let (a, i) ← compilePathExpr q fuel i
    compileUnionTail q fuel a (skipBlanks q i)

/-- The operands of `|` after the first. -/
def compileUnionTail (q : QueryText) : Nat → PathExpr → Nat → Compiled
  | 0, _, _ => .error invalidExpression
  | fuel + 1, a, i =>
    if cur q i == '|' then do
      let (b, j) ← compilePathExpr q fuel (skipBlanks q (i + 1))
      compileUnionTail q fuel (.binary .union a b) (skipBlanks q j)
    else .ok (a, i)

/-- A path expression: a location path, or a filter expression with a path after it. Which
one is decided by looking ahead past a name, as the reference implementation does. -/
def compilePathExpr (q : QueryText) : Nat → Nat → Compiled
  | 0, _ => .error invalidExpression
  | fuel + 1, i => do
    let i := skipBlanks q i
    let c := cur q i
    let location ← if c == '$' || c == '(' || c.isDigit || c == '\'' || c == '"' ||
        (c == '.' && (cur q (i + 1)).isDigit) then pure false
      else if c == '*' || c == '/' || c == '@' || c == '.' then pure true
      else match scanName q i with
        | none => .error invalidExpression
        | some len =>
          let name := String.ofList ((q.toList.drop i).take len)
          if (name.splitOn "::").length > 1 then pure true
          else pure (lookAhead q name (q.size + 1) (i + len))
    let (e, j) ← if location then compileLocation q fuel i
      else do
        let (f, j) ← compileFilter q fuel i
        if cur q j == '/' && cur q (j + 1) == '/' then
          compileRelative q fuel (.step f .descendantOrSelf .node []) (skipBlanks q (j + 2))
        else if cur q j == '/' then compileRelative q fuel f j
        else pure (f, j)
    return (e, skipBlanks q j)

/-- A location path: absolute (from `/`) or relative. -/
def compileLocation (q : QueryText) : Nat → Nat → Compiled
  | 0, _ => .error invalidExpression
  | fuel + 1, i =>
    let i := skipBlanks q i
    if cur q i != '/' then compileRelative q fuel .context i
    else compileAbsoluteTail q fuel .root i

/-- The rest of an absolute location path, from a `/`. -/
def compileAbsoluteTail (q : QueryText) : Nat → PathExpr → Nat → Compiled
  | 0, _, _ => .error invalidExpression
  | fuel + 1, e, i =>
    if cur q i != '/' then .ok (e, i)
    else if cur q (i + 1) == '/' then do
      let (e, j) ← compileRelative q fuel (.step e .descendantOrSelf .node [])
        (skipBlanks q (i + 2))
      compileAbsoluteTail q fuel e j
    else
      let j := skipBlanks q (i + 1)
      let c := cur q j
      if c != '\x00' && (c.isAlpha && c.toNat < 128 || c == '_' || c == '.' || c == '@' || c == '*')
      then do
        let (e, k) ← compileRelative q fuel e j
        compileAbsoluteTail q fuel e k
      else compileAbsoluteTail q fuel e j

/-- A relative location path from an input expression: steps joined by `/` or `//`. -/
def compileRelative (q : QueryText) : Nat → PathExpr → Nat → Compiled
  | 0, _, _ => .error invalidExpression
  | fuel + 1, input, i => do
    let i := skipBlanks q i
    let (input, i) :=
      if cur q i == '/' && cur q (i + 1) == '/' then
        (PathExpr.step input .descendantOrSelf .node [], skipBlanks q (i + 2))
      else if cur q i == '/' then (input, skipBlanks q (i + 1))
      else (input, i)
    let (e, j) ← compileStep q fuel input i
    compileRelativeTail q fuel e (skipBlanks q j)

/-- The steps of a relative location path after the first. -/
def compileRelativeTail (q : QueryText) : Nat → PathExpr → Nat → Compiled
  | 0, _, _ => .error invalidExpression
  | fuel + 1, e, i =>
    if cur q i != '/' then .ok (e, i)
    else if cur q (i + 1) == '/' then do
      let (e, j) ← compileStep q fuel (.step e .descendantOrSelf .node []) (skipBlanks q (i + 2))
      compileRelativeTail q fuel e (skipBlanks q j)
    else do
      let (e, j) ← compileStep q fuel e (skipBlanks q (i + 1))
      compileRelativeTail q fuel e (skipBlanks q j)

/-- One step: `..`, `.`, or an axis, a node test and predicates. -/
def compileStep (q : QueryText) : Nat → PathExpr → Nat → Compiled
  | 0, _, _ => .error invalidExpression
  | fuel + 1, input, i =>
    let i := skipBlanks q i
    if cur q i == '.' && cur q (i + 1) == '.' then
      .ok (.step input .parent .node [], skipBlanks q (i + 2))
    else if cur q i == '.' then .ok (input, skipBlanks q (i + 1))
    else do
      let (axis, name, i) :=
        if cur q i == '*' then (Axis.child, none, i)
        else match parseNCName q i with
          | some (n, j) =>
            match axisOfName n with
            | some ax =>
              let k := skipBlanks q j
              if cur q k == ':' && cur q (k + 1) == ':' then (ax, none, k + 2)
              else (.child, some (n, j), j)
            | none => (.child, some (n, j), j)
          | none => if cur q i == '@' then (.attribute, none, i + 1) else (.child, none, i)
      let (test, j) ← compileNodeTest q name i
      let (preds, k) ← compilePredicates q fuel (skipBlanks q j) []
      return (.step input axis test preds.reverse, k)

/-- Predicates while a `[` follows; `acc` holds those read, the last first. -/
def compilePredicates (q : QueryText) : Nat → Nat → List PathExpr → Except String (List PathExpr × Nat)
  | 0, _, _ => .error invalidExpression
  | fuel + 1, i, acc =>
    if cur q i != '[' then .ok (acc, i)
    else do
      let (p, j) ← compileExpr q fuel (skipBlanks q (i + 1))
      if cur q j != ']' then .error "Invalid predicate"
      else compilePredicates q fuel (skipBlanks q (j + 1)) (p :: acc)

/-- A filter expression: a primary expression and predicates. -/
def compileFilter (q : QueryText) : Nat → Nat → Compiled
  | 0, _ => .error invalidExpression
  | fuel + 1, i => do
    let (e, j) ← compilePrimary q fuel i
    let (preds, k) ← compilePredicates q fuel (skipBlanks q j) []
    if preds.isEmpty then return (e, k) else return (.filter e preds.reverse, k)

/-- A primary expression: a variable, a parenthesised expression, a number, a literal or a
function call. -/
def compilePrimary (q : QueryText) : Nat → Nat → Compiled
  | 0, _ => .error invalidExpression
  | fuel + 1, i =>
    let i := skipBlanks q i
    let c := cur q i
    if c == '$' then
      match parseNCName q (i + 1) with
      | none => .error "Expected $ for variable reference"
      | some (n, j) =>
        if cur q j == ':' then
          match parseNCName q (j + 1) with
          | some (m, k) => .ok (.variable (n ++ ":" ++ m), skipBlanks q k)
          | none => .error "Expected $ for variable reference"
        else .ok (.variable n, skipBlanks q j)
    else if c == '(' then do
      let (e, j) ← compileExpr q fuel (skipBlanks q (i + 1))
      if cur q j != ')' then .error invalidExpression
      else return (e, skipBlanks q (j + 1))
    else if c.isDigit || (c == '.' && (cur q (i + 1)).isDigit) then do
      let (e, j) ← compileNumber q i
      return (e, skipBlanks q j)
    else if c == '\'' || c == '"' then do
      let (e, j) ← compileLiteral q i
      return (e, skipBlanks q j)
    else compileCall q fuel i

/-- A function call: a name with an optional prefix, then arguments in parentheses. -/
def compileCall (q : QueryText) : Nat → Nat → Compiled
  | 0, _ => .error invalidExpression
  | fuel + 1, i =>
    match parseNCName q i with
    | none => .error invalidExpression
    | some (n, j) =>
      let (pre, name, j) := if cur q j == ':' then
          match parseNCName q (j + 1) with
          | some (m, k) => (some n, m, k)
          | none => (none, n, j)
        else (none, n, j)
      let j := skipBlanks q j
      if cur q j != '(' then .error invalidExpression
      else
        let j := skipBlanks q (j + 1)
        if cur q j == ')' then .ok (.call pre name [], skipBlanks q (j + 1))
        else do
          let (args, k) ← compileArgs q fuel j []
          return (.call pre name args.reverse, skipBlanks q (k + 1))

/-- Arguments separated by commas, up to `)` or the end; `acc` holds those read, the last
first. -/
def compileArgs (q : QueryText) : Nat → Nat → List PathExpr → Except String (List PathExpr × Nat)
  | 0, _, _ => .error invalidExpression
  | fuel + 1, i, acc =>
    if cur q i == '\x00' then .ok (acc, i)
    else do
      let (a, j) ← compileExpr q fuel i
      if cur q j == ')' then return (a :: acc, j)
      else if cur q j != ',' then .error invalidExpression
      else compileArgs q fuel (skipBlanks q (j + 1)) (a :: acc)

end

/-- Compile a query: the whole text must be one expression. -/
def compileQuery (text : String) : Except String PathExpr := do
  let q := text.toList.toArray
  let (e, i) ← compileExpr q (24 * (q.size + 4)) (skipBlanks q 0)
  if i < q.size then .error invalidExpression else return e

/-- What a query gives. -/
inductive PathValue where
  | nodes (ns : List Nat)
  | bool (b : Bool)
  | num (x : Float)
  | str (s : String)

/-- Where an expression is evaluated: the tree, the namespaces of the prefixes, the context
node, its position and the size of its context. Outside predicates the position and the size
are both `-1`. -/
structure PathContext where
  tree : Array Entry
  spaces : List (String × String)
  node : Nat
  pos : Int
  size : Int

/-- The entry at an index. -/
def entryAt (tree : Array Entry) (i : Nat) : Entry :=
  tree.getD i ⟨.root, noName, "", 0, [], []⟩

/-- The descendants of a node in document order, its attributes left out. -/
def descendants (tree : Array Entry) : Nat → Nat → List Nat
  | 0, _ => []
  | fuel + 1, i => (entryAt tree i).children.flatMap fun c => c :: descendants tree fuel c

/-- The ancestors of a node, the nearest first. -/
def ancestors (tree : Array Entry) : Nat → Nat → List Nat
  | 0, _ => []
  | fuel + 1, i =>
    let e := entryAt tree i
    if e.kind == .root then [] else e.parent :: ancestors tree fuel e.parent

/-- The nodes along an axis from a node, in the axis's order. -/
def axisNodes (tree : Array Entry) (axis : Axis) (i : Nat) : List Nat :=
  let e := entryAt tree i
  let fuel := tree.size + 1
  let siblings := if e.kind == .attribute || e.kind == .root then []
    else (entryAt tree e.parent).children
  match axis with
  | .child => e.children
  | .attribute => e.attrs
  | .self => [i]
  | .parent => if e.kind == .root then [] else [e.parent]
  | .ancestor => ancestors tree fuel i
  | .ancestorOrSelf => i :: ancestors tree fuel i
  | .descendant => descendants tree fuel i
  | .descendantOrSelf => i :: descendants tree fuel i
  | .followingSibling => siblings.filter (· > i)
  | .precedingSibling => (siblings.filter (· < i)).reverse
  | .following =>
    let inside := descendants tree fuel i
    ((List.range tree.size).filter fun j =>
      j > i && (entryAt tree j).kind != .attribute && !inside.contains j)
  | .preceding =>
    let above := ancestors tree fuel i
    ((List.range tree.size).filter fun j =>
      j < i && (entryAt tree j).kind != .attribute && !above.contains j).reverse
  | .namespace => []

/-- The refusal of a prefix that names no namespace. -/
def undefinedPrefix : String := "Undefined namespace prefix"

/-- Whether a node passes a test on an axis; a prefix is looked up first. -/
def passes (ctx : PathContext) (axis : Axis) (test : NodeTest) (j : Nat) : Except String Bool :=
  let e := entryAt ctx.tree j
  let principal := if axis == .attribute then EntryKind.attribute else .element
  let space (pre : Option String) : Except String String :=
    match pre with
    | none => .ok ""
    | some p => match (ctx.spaces.find? (·.1 == p)).map (·.2) with
      | some s => .ok s
      | none => .error undefinedPrefix
  match test with
  | .name pre l => do
    let s ← space pre
    return e.kind == principal && e.name.localName == l && e.name.space == s
  | .any none => .ok (e.kind == principal)
  | .any (some p) => do
    let s ← space (some p)
    return e.kind == principal && e.name.space == s
  | .node => .ok true
  | .text => .ok (e.kind == .text)
  | .comment | .instruction _ => .ok false

/-- The string value of a node: the text inside it, or its value. -/
def stringValue (tree : Array Entry) (i : Nat) : String :=
  let e := entryAt tree i
  match e.kind with
  | .attribute | .text => e.value
  | .root | .element =>
    String.join ((descendants tree (tree.size + 1) i).filterMap fun j =>
      let d := entryAt tree j
      if d.kind == .text then some d.value else none)

/-- A value as a string. -/
def PathValue.asString (tree : Array Entry) : PathValue → String
  | .nodes [] => ""
  | .nodes (n :: _) => stringValue tree n
  | .bool b => if b then "true" else "false"
  | .num x => numberText x
  | .str s => s

/-- A value as a number. -/
def PathValue.asNumber (tree : Array Entry) (v : PathValue) : Float :=
  match v with
  | .num x => x
  | .bool b => if b then 1.0 else 0.0
  | _ => numberOfText (v.asString tree)

/-- A value as a truth value. -/
def PathValue.asBool : PathValue → Bool
  | .nodes ns => !ns.isEmpty
  | .bool b => b
  | .num x => x != 0.0 && x == x
  | .str s => !s.isEmpty

/-- Compare two numbers with an operator. -/
def compareNumbers (op : BinOp) (a b : Float) : Bool :=
  match op with
  | .eq => a == b
  | .ne => a != b
  | .lt => a < b
  | .le => a ≤ b
  | .gt => a > b
  | .ge => a ≥ b
  | _ => false

/-- Compare two values with a comparison operator, by the rules for node-sets, truth
values, numbers and strings. -/
def compareValues (tree : Array Entry) (op : BinOp) (a b : PathValue) : Bool :=
  let isEq := op == .eq || op == .ne
  let strEq (x y : String) : Bool := if op == .eq then x == y else x != y
  match a, b with
  | .nodes xs, .nodes ys =>
    xs.any fun x => ys.any fun y =>
      if isEq then strEq (stringValue tree x) (stringValue tree y)
      else compareNumbers op (numberOfText (stringValue tree x)) (numberOfText (stringValue tree y))
  | .nodes xs, .num y => xs.any fun x => compareNumbers op (numberOfText (stringValue tree x)) y
  | .num x, .nodes ys => ys.any fun y => compareNumbers op x (numberOfText (stringValue tree y))
  | .nodes xs, .str s =>
    xs.any fun x => if isEq then strEq (stringValue tree x) s
      else compareNumbers op (numberOfText (stringValue tree x)) (numberOfText s)
  | .str s, .nodes ys =>
    ys.any fun y => if isEq then strEq s (stringValue tree y)
      else compareNumbers op (numberOfText s) (numberOfText (stringValue tree y))
  | .nodes _, .bool y => compareNumbers op (if a.asBool then 1.0 else 0.0) (if y then 1.0 else 0.0)
  | .bool x, .nodes _ => compareNumbers op (if x then 1.0 else 0.0) (if b.asBool then 1.0 else 0.0)
  | _, _ =>
    if isEq then
      match a, b with
      | .bool _, _ | _, .bool _ => (a.asBool == b.asBool) == (op == .eq)
      | .num _, _ | _, .num _ => compareNumbers op (a.asNumber tree) (b.asNumber tree)
      | _, _ => strEq (a.asString tree) (b.asString tree)
    else compareNumbers op (a.asNumber tree) (b.asNumber tree)

/-- Sorted node indices, each once. -/
def sortNodes (ns : List Nat) : List Nat := (ns.eraseDups).mergeSort (· ≤ ·)

/-- The refusal of a value of the wrong type. -/
def invalidType : String := "Invalid type"

/-- The refusal of a call with the wrong number of arguments. -/
def invalidArity : String := "Invalid number of arguments"

/-- The characters of a string from a position (counted from one), rounded as the
substring function rounds. -/
def substringOf (s : String) (start : Float) (len : Option Float) : String :=
  let cs := s.toList
  let r (x : Float) : Float := (x + 0.5).floor
  let first := r start
  let last := match len with
    | some l => first + r l
    | none => 1.0 / 0.0
  String.ofList ((cs.zipIdx.filter fun (_, k) =>
    let p := (k + 1).toFloat
    p ≥ first && p < last).map (·.1))

/-- A core function applied to evaluated arguments. -/
def callFunction (ctx : PathContext) (name : String) (args : List PathValue) :
    Except String PathValue :=
  let tree := ctx.tree
  let argString (k : Nat) : String := (args.getD k (.str "")).asString tree
  let arity (n : Nat) : Except String Unit := if args.length == n then .ok () else .error invalidArity
  let nodeArg : Except String (Option Nat) :=
    match args with
    | [] => .ok (some ctx.node)
    | [.nodes ns] => .ok ns.head?
    | [_] => .error invalidType
    | _ => .error invalidArity
  match name with
  | "last" => do arity 0; return .num (Float.ofInt ctx.size)
  | "position" => do arity 0; return .num (Float.ofInt ctx.pos)
  | "count" => do
    arity 1
    match args with
    | [.nodes ns] => return .num ns.length.toFloat
    | _ => .error invalidType
  | "local-name" => do
    let n ← nodeArg
    return .str ((n.map fun i => (entryAt tree i).name.localName).getD "")
  | "name" => do
    let n ← nodeArg
    return .str ((n.map fun i =>
      let nm := (entryAt tree i).name
      match (ctx.spaces.find? (·.2 == nm.space)).map (·.1) with
      | some p => if nm.space.isEmpty then nm.localName else p ++ ":" ++ nm.localName
      | none => nm.localName).getD "")
  | "namespace-uri" => do
    let n ← nodeArg
    return .str ((n.map fun i => (entryAt tree i).name.space).getD "")
  | "string" =>
    match args with
    | [] => .ok (.str (stringValue tree ctx.node))
    | [a] => .ok (.str (a.asString tree))
    | _ => .error invalidArity
  | "concat" =>
    if args.length < 2 then .error invalidArity
    else .ok (.str (String.join (args.map (·.asString tree))))
  | "starts-with" => do arity 2; return .bool ((argString 0).startsWith (argString 1))
  | "contains" => do
    arity 2
    let hay := argString 0
    let needle := argString 1
    return .bool (needle.isEmpty || (hay.splitOn needle).length > 1)
  | "substring-before" => do
    arity 2
    let parts := (argString 0).splitOn (argString 1)
    return .str (if parts.length > 1 then parts.headD "" else "")
  | "substring-after" => do
    arity 2
    let hay := argString 0
    let needle := argString 1
    let parts := hay.splitOn needle
    return .str (if parts.length > 1 then needle.intercalate (parts.drop 1)
      else if needle.isEmpty then hay else "")
  | "substring" =>
    match args with
    | [s, a] => .ok (.str (substringOf (s.asString tree) (a.asNumber tree) none))
    | [s, a, b] => .ok (.str (substringOf (s.asString tree) (a.asNumber tree) (some (b.asNumber tree))))
    | _ => .error invalidArity
  | "string-length" =>
    match args with
    | [] => .ok (.num (stringValue tree ctx.node).length.toFloat)
    | [a] => .ok (.num (a.asString tree).length.toFloat)
    | _ => .error invalidArity
  | "normalize-space" =>
    let s : Except String String := match args with
      | [] => .ok (stringValue tree ctx.node)
      | [a] => .ok (a.asString tree)
      | _ => .error invalidArity
    s.map fun s => .str (" ".intercalate
      (((s.toList.map fun c => if isBlank c then ' ' else c).splitOn ' ').filter
        (!·.isEmpty) |>.map String.ofList))
  | "translate" => do
    arity 3
    let src := (argString 1).toList
    let dst := (argString 2).toList
    return .str (String.ofList ((argString 0).toList.filterMap fun c =>
      match src.idxOf? c with
      | some k => dst[k]?
      | none => some c))
  | "boolean" => do arity 1; return .bool ((args.headD (.bool false)).asBool)
  | "not" => do arity 1; return .bool (!(args.headD (.bool false)).asBool)
  | "true" => do arity 0; return .bool true
  | "false" => do arity 0; return .bool false
  | "lang" => do arity 1; return .bool false
  | "id" => do arity 1; return .nodes []
  | "number" =>
    match args with
    | [] => .ok (.num (numberOfText (stringValue tree ctx.node)))
    | [a] => .ok (.num (a.asNumber tree))
    | _ => .error invalidArity
  | "sum" => do
    arity 1
    match args with
    | [.nodes ns] => return .num ((ns.map fun n => numberOfText (stringValue tree n)).foldl (· + ·) 0.0)
    | _ => .error invalidType
  | "floor" => do arity 1; return .num ((args.headD (.num 0.0)).asNumber tree).floor
  | "ceiling" => do arity 1; return .num ((args.headD (.num 0.0)).asNumber tree).ceil
  | "round" => do
    arity 1
    return .num (roundNumber ((args.headD (.num 0.0)).asNumber tree))
  | _ => .error "Unregistered function"

mutual

/-- Evaluate an expression in a context; the fuel bounds the depth. -/
def evalExpr (ctx : PathContext) : Nat → PathExpr → Except String PathValue
  | 0, _ => .error invalidExpression
  | fuel + 1, e =>
    match e with
    | .literal s => .ok (.str s)
    | .number x => .ok (.num x)
    | .variable _ => .error "Undefined variable"
    | .root => .ok (.nodes [0])
    | .context => .ok (.nodes [ctx.node])
    | .minus odd a => do
      let v ← evalExpr ctx fuel a
      let x := v.asNumber ctx.tree
      return .num (if odd then -x else x)
    | .binary .or a b => do
      if (← evalExpr ctx fuel a).asBool then return .bool true
      return .bool (← evalExpr ctx fuel b).asBool
    | .binary .and a b => do
      if !(← evalExpr ctx fuel a).asBool then return .bool false
      return .bool (← evalExpr ctx fuel b).asBool
    | .binary .union a b => do
      let x ← evalExpr ctx fuel a
      let y ← evalExpr ctx fuel b
      match x, y with
      | .nodes xs, .nodes ys => return .nodes (sortNodes (xs ++ ys))
      | _, _ => .error invalidType
    | .binary op a b => do
      let x ← evalExpr ctx fuel a
      let y ← evalExpr ctx fuel b
      match op with
      | .add => return .num (x.asNumber ctx.tree + y.asNumber ctx.tree)
      | .sub => return .num (x.asNumber ctx.tree - y.asNumber ctx.tree)
      | .mul => return .num (x.asNumber ctx.tree * y.asNumber ctx.tree)
      | .div => return .num (x.asNumber ctx.tree / y.asNumber ctx.tree)
      | .mod =>
        return .num (remainder (x.asNumber ctx.tree) (y.asNumber ctx.tree))
      | _ => return .bool (compareValues ctx.tree op x y)
    | .call pre name args => do
      let vs ← evalArgs ctx fuel args
      match pre with
      | some p =>
        if (ctx.spaces.find? (·.1 == p)).isNone then .error "Error in xpath expression"
        else .error "Unregistered function"
      | none => callFunction ctx name vs
    | .filter a preds => do
      match ← evalExpr ctx fuel a with
      | .nodes ns => return .nodes (← applyPredicates ctx fuel preds ns)
      | _ => .error invalidType
    | .step input axis test preds => do
      match ← evalExpr ctx fuel input with
      | .nodes ns => do
        if let .name (some p) _ := test then
          if (ctx.spaces.find? (·.1 == p)).isNone then .error undefinedPrefix
        if let .any (some p) := test then
          if (ctx.spaces.find? (·.1 == p)).isNone then .error undefinedPrefix
        let results ← stepFrom ctx fuel axis test preds ns
        return .nodes (sortNodes results)
      | _ => .error invalidType

/-- Evaluate arguments in order. -/
def evalArgs (ctx : PathContext) : Nat → List PathExpr → Except String (List PathValue)
  | 0, _ => .error invalidExpression
  | _ + 1, [] => .ok []
  | fuel + 1, a :: rest => do
    let v ← evalExpr ctx fuel a
    return v :: (← evalArgs ctx fuel rest)

/-- The nodes a step reaches from each node of a list, in turn. -/
def stepFrom (ctx : PathContext) : Nat → Axis → NodeTest → List PathExpr → List Nat →
    Except String (List Nat)
  | 0, _, _, _, _ => .error invalidExpression
  | _ + 1, _, _, _, [] => .ok []
  | fuel + 1, axis, test, preds, n :: rest => do
    let found ← (axisNodes ctx.tree axis n).filterM (passes ctx axis test)
    let kept ← applyPredicates { ctx with node := n } fuel preds found
    return kept ++ (← stepFrom ctx fuel axis test preds rest)

/-- Keep the nodes of a list, in its order, that pass each predicate in turn. -/
def applyPredicates (ctx : PathContext) : Nat → List PathExpr → List Nat → Except String (List Nat)
  | 0, _, _ => .error invalidExpression
  | _ + 1, [], ns => .ok ns
  | fuel + 1, p :: rest, ns => do
    let kept ← keepPassing ctx fuel p ns.length (ns.zipIdx)
    applyPredicates ctx fuel rest kept

/-- The nodes that pass one predicate, each with its position in a list of a size. -/
def keepPassing (ctx : PathContext) : Nat → PathExpr → Nat → List (Nat × Nat) →
    Except String (List Nat)
  | 0, _, _, _ => .error invalidExpression
  | _ + 1, _, _, [] => .ok []
  | fuel + 1, p, size, (n, k) :: rest => do
    let v ← evalExpr { ctx with node := n, pos := k + 1, size := size } fuel p
    let pass := match v with
      | .num x => x == (k + 1).toFloat
      | other => other.asBool
    let more ← keepPassing ctx fuel p size rest
    return if pass then n :: more else more

end

/-- Evaluate a query compiled from a text of a length, from a node of a tree, with the
namespaces of the prefixes. Expressions nest at most once per character of the text, and at
each level the evaluation walks lists of at most as many nodes as the tree has, so the fuel
given is never used up. -/
def evalPath (tree : Array Entry) (spaces : List (String × String)) (node : Nat)
    (textLength : Nat) (e : PathExpr) : Except String PathValue :=
  evalExpr ⟨tree, spaces, node, -1, -1⟩ ((textLength + 2) * (2 * tree.size + 4)) e

end MacroDoc.Xml
