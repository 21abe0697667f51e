import MacroDoc.Xml.WellFormed.Token

/-!
# Roles of prolog tokens

Before the root element, tokens follow a grammar: an XML declaration first, comments,
processing instructions and blanks, at most one document type declaration, and in its
internal subset the declarations of entities, attribute lists, elements and notations. The
grammar is run as a machine over tokens: each token moves the machine on and is given the
*role* it plays (the name of an entity being declared, its value, the default of an
attribute, …), or the role `error` when it has no place there. The reader acts on the
roles; an `error` stops it with a syntax error.

Keywords are matched case for case against the text of the token: the word after `<!` of a
declaration, a name token, or the word after `#`.

## Main definitions

* `PrologState`, `Role`: the states of the machine and the roles of tokens.
* `Roles`: the machine's state, with the nesting of content model groups.
* `Roles.step`: one token.
-/

namespace MacroDoc.Xml.WellFormed

/-- The roles a token of the prolog plays. -/
inductive Role where
  | none | xmlDecl | instanceStart | pi | comment | error
  | doctypeNone | doctypeName | doctypeSystemId | doctypePublicId | doctypeInternalSubset
  | doctypeClose
  | generalEntityName | paramEntityName | entityNone | entityValue | entitySystemId
  | entityPublicId | entityComplete | entityNotationName
  | notationNone | notationName | notationSystemId | notationNoSystemId | notationPublicId
  | attlistNone | attlistElementName | attributeName
  /-- The declared type of an attribute: `CDATA` or another. -/
  | attributeType (isCdata : Bool)
  | attributeEnumValue | attributeNotationValue
  | impliedAttributeValue | requiredAttributeValue | defaultAttributeValue
  | fixedAttributeValue
  | elementNone | elementName | contentAny | contentEmpty | contentPcdata
  | groupOpen | groupClose | groupChoice | groupSequence | contentElement
  /-- A parameter entity reference between declarations of the internal subset. -/
  | innerParamEntityRef
  deriving DecidableEq, Repr, Inhabited

/-- The states of the prolog machine, named by the declaration they are in. -/
inductive PrologState where
  | prolog0 | prolog1 | prolog2
  | doctype0 | doctype1 | doctype2 | doctype3 | doctype4 | doctype5
  | internalSubset
  | entity0 | entity1 | entity2 | entity3 | entity4 | entity5 | entity6 | entity7 | entity8
  | entity9 | entity10
  | notationDecl0 | notationDecl1 | notationDecl2 | notationDecl3 | notationDecl4
  | attlist0 | attlist1 | attlist2 | attlist3 | attlist4 | attlist5 | attlist6 | attlist7
  | attlist8 | attlist9
  | element0 | element1 | element2 | element3 | element4 | element5 | element6 | element7
  /-- The end of a declaration: blanks, then `>`. -/
  | declClose
  | error
  deriving DecidableEq, Repr, Inhabited

/-- The state of the prolog machine. -/
structure Roles where
  state : PrologState := .prolog0
  /-- The depth of content model groups. -/
  level : Nat := 0
  /-- The role of blanks at the end of the current declaration. -/
  closing : Role := .none
  deriving Inhabited

/-- The attribute types other than `CDATA` and `NOTATION`. -/
def tokenizedTypes : List String :=
  ["ID", "IDREF", "IDREFS", "ENTITY", "ENTITIES", "NMTOKEN", "NMTOKENS"]

namespace Roles

/-- The machine after a token that has no place: it stays stopped. -/
def fail (r : Roles) : Roles × Role := ({ r with state := .error }, .error)

/-- Move to a state with a role. -/
def go (r : Roles) (s : PrologState) (role : Role) : Roles × Role := ({ r with state := s }, role)

/-- Move to the end of a declaration whose blanks have a role. -/
def toClose (r : Roles) (blanks : Role) (role : Role) : Roles × Role :=
  ({ r with state := .declClose, closing := blanks }, role)

/-- Close a content model group: back out one level, to the end of the declaration at the
outermost. -/
def closeGroup (r : Roles) : Roles × Role :=
  let level := r.level - 1
  if level == 0 then ({ r with level := 0, state := .declClose, closing := .elementNone }, .groupClose)
  else ({ r with level := level }, .groupClose)

/-- One token of the prolog: the machine after it, and the token's role. `kw` tells whether
the token's word is a keyword. -/
def step (r : Roles) (tok : Tok) (kw : String → Bool) : Roles × Role :=
  match r.state, tok with
  | .prolog0, .prologSpace => r.go .prolog1 .none
  | .prolog0, .xmlDecl => r.go .prolog1 .xmlDecl
  | .prolog0, .pi => r.go .prolog1 .pi
  | .prolog0, .comment => r.go .prolog1 .comment
  | .prolog0, .bom => (r, .none)
  | .prolog0, .declOpen => if kw "DOCTYPE" then r.go .doctype0 .doctypeNone else r.fail
  | .prolog0, .instanceStart => r.go .error .instanceStart
  | .prolog1, .prologSpace => (r, .none)
  | .prolog1, .pi => (r, .pi)
  | .prolog1, .comment => (r, .comment)
  | .prolog1, .bom => (r, .none)
  | .prolog1, .declOpen => if kw "DOCTYPE" then r.go .doctype0 .doctypeNone else r.fail
  | .prolog1, .instanceStart => r.go .error .instanceStart
  | .prolog2, .prologSpace => (r, .none)
  | .prolog2, .pi => (r, .pi)
  | .prolog2, .comment => (r, .comment)
  | .prolog2, .instanceStart => r.go .error .instanceStart
  | .doctype0, .prologSpace => (r, .doctypeNone)
  | .doctype0, .name | .doctype0, .prefixedName => r.go .doctype1 .doctypeName
  | .doctype1, .prologSpace => (r, .doctypeNone)
  | .doctype1, .openBracket => r.go .internalSubset .doctypeInternalSubset
  | .doctype1, .declClose => r.go .prolog2 .doctypeClose
  | .doctype1, .name =>
    if kw "SYSTEM" then r.go .doctype3 .doctypeNone
    else if kw "PUBLIC" then r.go .doctype2 .doctypeNone
    else r.fail
  | .doctype2, .prologSpace => (r, .doctypeNone)
  | .doctype2, .literal => r.go .doctype3 .doctypePublicId
  | .doctype3, .prologSpace => (r, .doctypeNone)
  | .doctype3, .literal => r.go .doctype4 .doctypeSystemId
  | .doctype4, .prologSpace => (r, .doctypeNone)
  | .doctype4, .openBracket => r.go .internalSubset .doctypeInternalSubset
  | .doctype4, .declClose => r.go .prolog2 .doctypeClose
  | .doctype5, .prologSpace => (r, .doctypeNone)
  | .doctype5, .declClose => r.go .prolog2 .doctypeClose
  | .internalSubset, .prologSpace => (r, .none)
  | .internalSubset, .declOpen =>
    if kw "ENTITY" then r.go .entity0 .entityNone
    else if kw "ATTLIST" then r.go .attlist0 .attlistNone
    else if kw "ELEMENT" then r.go .element0 .elementNone
    else if kw "NOTATION" then r.go .notationDecl0 .notationNone
    else r.fail
  | .internalSubset, .pi => (r, .pi)
  | .internalSubset, .comment => (r, .comment)
  | .internalSubset, .paramEntityRef => (r, .innerParamEntityRef)
  | .internalSubset, .closeBracket => r.go .doctype5 .doctypeNone
  | .internalSubset, .none => (r, .none)
  | .entity0, .prologSpace => (r, .entityNone)
  | .entity0, .percent => r.go .entity1 .entityNone
  | .entity0, .name => r.go .entity2 .generalEntityName
  | .entity1, .prologSpace => (r, .entityNone)
  | .entity1, .name => r.go .entity7 .paramEntityName
  | .entity2, .prologSpace => (r, .entityNone)
  | .entity2, .name =>
    if kw "SYSTEM" then r.go .entity4 .entityNone
    else if kw "PUBLIC" then r.go .entity3 .entityNone
    else r.fail
  | .entity2, .literal => r.toClose .entityNone .entityValue
  | .entity3, .prologSpace => (r, .entityNone)
  | .entity3, .literal => r.go .entity4 .entityPublicId
  | .entity4, .prologSpace => (r, .entityNone)
  | .entity4, .literal => r.go .entity5 .entitySystemId
  | .entity5, .prologSpace => (r, .entityNone)
  | .entity5, .declClose => r.go .internalSubset .entityComplete
  | .entity5, .name => if kw "NDATA" then r.go .entity6 .entityNone else r.fail
  | .entity6, .prologSpace => (r, .entityNone)
  | .entity6, .name => r.toClose .entityNone .entityNotationName
  | .entity7, .prologSpace => (r, .entityNone)
  | .entity7, .name =>
    if kw "SYSTEM" then r.go .entity9 .entityNone
    else if kw "PUBLIC" then r.go .entity8 .entityNone
    else r.fail
  | .entity7, .literal => r.toClose .entityNone .entityValue
  | .entity8, .prologSpace => (r, .entityNone)
  | .entity8, .literal => r.go .entity9 .entityPublicId
  | .entity9, .prologSpace => (r, .entityNone)
  | .entity9, .literal => r.go .entity10 .entitySystemId
  | .entity10, .prologSpace => (r, .entityNone)
  | .entity10, .declClose => r.go .internalSubset .entityComplete
  | .notationDecl0, .prologSpace => (r, .notationNone)
  | .notationDecl0, .name => r.go .notationDecl1 .notationName
  | .notationDecl1, .prologSpace => (r, .notationNone)
  | .notationDecl1, .name =>
    if kw "SYSTEM" then r.go .notationDecl3 .notationNone
    else if kw "PUBLIC" then r.go .notationDecl2 .notationNone
    else r.fail
  | .notationDecl2, .prologSpace => (r, .notationNone)
  | .notationDecl2, .literal => r.go .notationDecl4 .notationPublicId
  | .notationDecl3, .prologSpace => (r, .notationNone)
  | .notationDecl3, .literal => r.toClose .notationNone .notationSystemId
  | .notationDecl4, .prologSpace => (r, .notationNone)
  | .notationDecl4, .literal => r.toClose .notationNone .notationSystemId
  | .notationDecl4, .declClose => r.go .internalSubset .notationNoSystemId
  | .attlist0, .prologSpace => (r, .attlistNone)
  | .attlist0, .name | .attlist0, .prefixedName => r.go .attlist1 .attlistElementName
  | .attlist1, .prologSpace => (r, .attlistNone)
  | .attlist1, .declClose => r.go .internalSubset .attlistNone
  | .attlist1, .name | .attlist1, .prefixedName => r.go .attlist2 .attributeName
  | .attlist2, .prologSpace => (r, .attlistNone)
  | .attlist2, .name =>
    if kw "CDATA" then r.go .attlist8 (.attributeType true)
    else if tokenizedTypes.any kw then r.go .attlist8 (.attributeType false)
    else if kw "NOTATION" then r.go .attlist5 .attlistNone
    else r.fail
  | .attlist2, .openParen => r.go .attlist3 .attlistNone
  | .attlist3, .prologSpace => (r, .attlistNone)
  | .attlist3, .nmtoken | .attlist3, .name | .attlist3, .prefixedName =>
    r.go .attlist4 .attributeEnumValue
  | .attlist4, .prologSpace => (r, .attlistNone)
  | .attlist4, .closeParen => r.go .attlist8 .attlistNone
  | .attlist4, .bar => r.go .attlist3 .attlistNone
  | .attlist5, .prologSpace => (r, .attlistNone)
  | .attlist5, .openParen => r.go .attlist6 .attlistNone
  | .attlist6, .prologSpace => (r, .attlistNone)
  | .attlist6, .name => r.go .attlist7 .attributeNotationValue
  | .attlist7, .prologSpace => (r, .attlistNone)
  | .attlist7, .closeParen => r.go .attlist8 .attlistNone
  | .attlist7, .bar => r.go .attlist6 .attlistNone
  | .attlist8, .prologSpace => (r, .attlistNone)
  | .attlist8, .poundName =>
    if kw "IMPLIED" then r.go .attlist1 .impliedAttributeValue
    else if kw "REQUIRED" then r.go .attlist1 .requiredAttributeValue
    else if kw "FIXED" then r.go .attlist9 .attlistNone
    else r.fail
  | .attlist8, .literal => r.go .attlist1 .defaultAttributeValue
  | .attlist9, .prologSpace => (r, .attlistNone)
  | .attlist9, .literal => r.go .attlist1 .fixedAttributeValue
  | .element0, .prologSpace => (r, .elementNone)
  | .element0, .name | .element0, .prefixedName => r.go .element1 .elementName
  | .element1, .prologSpace => (r, .elementNone)
  | .element1, .name =>
    if kw "EMPTY" then r.toClose .elementNone .contentEmpty
    else if kw "ANY" then r.toClose .elementNone .contentAny
    else r.fail
  | .element1, .openParen => ({ r with state := .element2, level := 1 }, .groupOpen)
  | .element2, .prologSpace => (r, .elementNone)
  | .element2, .poundName => if kw "PCDATA" then r.go .element3 .contentPcdata else r.fail
  | .element2, .openParen => ({ r with state := .element6, level := 2 }, .groupOpen)
  | .element2, .name | .element2, .prefixedName | .element2, .nameQuestion
  | .element2, .nameAsterisk | .element2, .namePlus => r.go .element7 .contentElement
  | .element3, .prologSpace => (r, .elementNone)
  | .element3, .closeParen | .element3, .closeParenAsterisk =>
    r.toClose .elementNone .groupClose
  | .element3, .bar => r.go .element4 .groupChoice
  | .element4, .prologSpace => (r, .elementNone)
  | .element4, .name | .element4, .prefixedName => r.go .element5 .contentElement
  | .element5, .prologSpace => (r, .elementNone)
  | .element5, .closeParenAsterisk => r.toClose .elementNone .groupClose
  | .element5, .bar => r.go .element4 .groupChoice
  | .element6, .prologSpace => (r, .elementNone)
  | .element6, .openParen => ({ r with level := r.level + 1 }, .groupOpen)
  | .element6, .name | .element6, .prefixedName | .element6, .nameQuestion
  | .element6, .nameAsterisk | .element6, .namePlus => r.go .element7 .contentElement
  | .element7, .prologSpace => (r, .elementNone)
  | .element7, .closeParen | .element7, .closeParenAsterisk | .element7, .closeParenQuestion
  | .element7, .closeParenPlus => r.closeGroup
  | .element7, .comma => r.go .element6 .groupSequence
  | .element7, .bar => r.go .element6 .groupChoice
  | .declClose, .prologSpace => (r, r.closing)
  | .declClose, .declClose => r.go .internalSubset r.closing
  | .error, _ => (r, .none)
  | _, _ => r.fail

end Roles

end MacroDoc.Xml.WellFormed
