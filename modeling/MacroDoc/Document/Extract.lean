import MacroDoc.Files.Tree
import MacroDoc.Document.Package
import MacroDoc.Xml.WellFormed.Check

/-!
# Converting a document back to text

Converting a document back to source first makes the output directory (and those above it),
then copies the document's pictures there: every document package carries a thumbnail
picture. It then opens the document and lists its latent styles, which cannot be shown, so
the conversion stops there; a document without latent styles stops at the next step, which
needs a way to walk the document's content that documents do not offer.

A file of bytes is read as an archive: the text extractor parses its headers, its main
document and its footers, then copies the members whose names end in a picture extension
into the output directory under their last name part; the document is then read as a
package (see `Document.readPackage`). A missing file or a directory is refused with the
system error.

## Main definitions

* `Document.Extraction`: what a conversion back to text leaves.
* `Document.extract`: convert a document back to text.
-/

namespace MacroDoc.Document

/-- What a conversion back to text leaves: the file tree, and the fault it stopped on. -/
structure Extraction where
  files : Files.Tree
  fault : Fault

/-- The name of the thumbnail picture every package carries. -/
def thumbnailName : String := "thumbnail.jpeg"

/-- The bytes that start a picture in the thumbnail format. -/
def thumbnailBytes : ByteArray := ⟨#[0xFF, 0xD8, 0xFF, 0xD9]⟩

/-- The refusal to list latent styles. -/
def latentStylesUnshown : Fault := ⟨.badType, "vars() argument must have __dict__ attribute"⟩

/-- The refusal to walk a document's content. -/
def contentUnwalkable : Fault := Fault.noAttribute "Document" "iter_inner_content"

/-- Whether a member name is one of a header or footer part: the word, any digits, one more
character, then `xml`, with anything after. -/
def isPartOfKind (kind : String) (name : String) : Bool :=
  let start := "word/" ++ kind
  if !name.startsWith start then false
  else
    let rest := (name.toList.drop start.length)
    let digits := (rest.takeWhile Char.isDigit).length
    (List.range (digits + 1)).any fun k =>
      match rest.drop k with
      | c :: 'x' :: 'm' :: 'l' :: _ => c != '\n'
      | _ => false

/-- The extension of a file name with its dot: from the last dot of the last part, unless
that part is nothing but dots before it. -/
def extensionWithDot (name : String) : String :=
  let base := Files.baseName name
  let body := String.ofList (base.toList.dropWhile (· == '.'))
  if body.contains '.' then "." ++ (body.splitOn ".").getLast?.getD "" else ""

/-- The extensions of the pictures copied out of a package. -/
def pictureExtensions : List String := [".jpg", ".jpeg", ".png", ".bmp"]

/-- Parse a member as the text extractor does: it must be a well-formed document. -/
def checkMember (z : Archive.Zip) (name : String) : Except Fault Unit := do
  Xml.WellFormed.checkStrict (← z.read name)

/-- Copy the pictures of an archive into a directory, one member at a time: the file is made
before the member is read. -/
def copyPictures (z : Archive.Zip) (outDir : String) :
    List String → Files.Tree → Except (Files.Tree × Fault) Files.Tree
  | [], files => .ok files
  | name :: rest, files =>
    if !pictureExtensions.contains (extensionWithDot name) then copyPictures z outDir rest files
    else
      let target := outDir ++ "/" ++ Files.baseName name
      match files.save target (.bytes ByteArray.empty) with
      | .error f => .error (files, f)
      | .ok files =>
        match z.read name with
        | .error f => .error (files, f)
        | .ok data =>
          match files.save target (.bytes data) with
          | .error f => .error (files, f)
          | .ok files => copyPictures z outDir rest files

/-- Extract the text of an archive as the text extractor does, and copy its pictures: parse
the headers, the main document and the footers, then copy. Only the refusals and the
pictures matter. -/
def extractText (files : Files.Tree) (data : ByteArray) (outDir : String) :
    Except (Files.Tree × Fault) Files.Tree := do
  let z ← (Archive.Zip.open data).mapError (files, ·)
  let names := z.names
  let parsed : Except Fault Unit := do
    for name in names.filter (isPartOfKind "header") do checkMember z name
    checkMember z "word/document.xml"
    for name in names.filter (isPartOfKind "footer") do checkMember z name
  parsed.mapError (files, ·)
  copyPictures z outDir names files

/-- The fault a conversion back to text stops on, once the output directory is made. -/
def extractFrom (files : Files.Tree) (docPath outDir : String) : Extraction :=
  match files.open? docPath with
  | .error f => ⟨files, f⟩
  | .ok (.bytes data) =>
    match extractText files data outDir with
    | .error (files, f) => ⟨files, f⟩
    | .ok files =>
      match readPackage docPath data with
      | .error f => ⟨files, f⟩
      | .ok p => ⟨files, if p.latentStyles then latentStylesUnshown else contentUnwalkable⟩
  | .ok (.package _ latent) =>
    let picture := outDir ++ "/" ++ thumbnailName
    let files := (files.save picture (.bytes thumbnailBytes)).toOption.getD files
    ⟨files, if latent then latentStylesUnshown else contentUnwalkable⟩

/-- Convert the document at a path back to text, with an output directory. -/
def extract (files : Files.Tree) (docPath outDir : String) : Extraction :=
  match files.makeDirs outDir with
  | .error f => ⟨files, f⟩
  | .ok files => extractFrom files docPath outDir

end MacroDoc.Document
