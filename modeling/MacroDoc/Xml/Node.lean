/-!
# XML trees

The parts of a document package are XML. A parsed part is a tree of elements and text: an
element has a name, attributes and children. Names are taken with their namespace, so two
prefixes bound to one namespace name the same thing; a name with a prefix that nothing binds
keeps the prefix in its local part and has no namespace. Comments and processing
instructions are left out, but inside elements their places are kept, since they end the
text before them.

## Main definitions

* `Xml.Name`, `Xml.Node`.
* `Xml.Node.attr?`, `Xml.Node.elements`, `Xml.Node.child?`, `Xml.Node.innerText`,
  `Xml.Node.leadingText`.
* The namespaces of document packages: `Xml.wordSpace`, `Xml.typesSpace`,
  `Xml.relationsSpace`, `Xml.drawingSpace`.
-/

namespace MacroDoc.Xml

/-- A name with its namespace; the namespace is empty for none. -/
structure Name where
  space : String
  localName : String
  deriving DecidableEq, Repr, BEq

/-- A node of a tree: an element, text, or the place of a comment or a processing
instruction, whose content is left out. -/
inductive Node where
  | element (name : Name) (attrs : List (Name × String)) (children : List Node)
  | text (s : String)
  | aside
  deriving Repr

namespace Node

/-- The name of an element. -/
def name? : Node → Option Name
  | .element n _ _ => some n
  | _ => none

/-- Whether a node is an element of a name. -/
def hasName (n : Node) (name : Name) : Bool := n.name? == some name

/-- The value of an attribute of an element. -/
def attr? (n : Node) (name : Name) : Option String :=
  match n with
  | .element _ attrs _ => (attrs.find? (·.1 == name)).map (·.2)
  | _ => none

/-- The children of an element. -/
def children : Node → List Node
  | .element _ _ cs => cs
  | _ => []

/-- The child elements of an element. -/
def elements (n : Node) : List Node :=
  n.children.filter (·.name?.isSome)

/-- The child elements of an element with a name, in order. -/
def elementsNamed (n : Node) (name : Name) : List Node :=
  n.children.filter (·.hasName name)

/-- The first child element of an element with a name. -/
def child? (n : Node) (name : Name) : Option Node :=
  n.children.find? (·.hasName name)

/-- The text directly inside an element, its pieces joined. -/
def innerText (n : Node) : String :=
  String.join (n.children.filterMap fun
    | .text s => some s
    | _ => none)

/-- The text of an element up to its first child that is not text: the text that an
element's own text is, as opposed to the text that follows its children. -/
def leadingText (n : Node) : String :=
  String.join (n.children.takeWhile (fun | .text _ => true | _ => false) |>.filterMap fun
    | .text s => some s
    | _ => none)

end Node

/-- The namespace of the word-processing markup. -/
def wordSpace : String := "http://schemas.openxmlformats.org/wordprocessingml/2006/main"

/-- The namespace of the content-type list of a package. -/
def typesSpace : String := "http://schemas.openxmlformats.org/package/2006/content-types"

/-- The namespace of relationship parts. -/
def relationsSpace : String := "http://schemas.openxmlformats.org/package/2006/relationships"

/-- The namespace of drawings placed in text. -/
def drawingSpace : String :=
  "http://schemas.openxmlformats.org/drawingml/2006/wordprocessingDrawing"

/-- The namespace of the reserved prefix `xml`. -/
def xmlSpace : String := "http://www.w3.org/XML/1998/namespace"

/-- A name of the word-processing markup. -/
def word (localName : String) : Name := ⟨wordSpace, localName⟩

end MacroDoc.Xml
