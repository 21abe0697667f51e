/-!
# Faults

A fault is why an operation of the library stopped: its kind and the words that describe
it. The kinds follow the causes the library distinguishes (a missing key, a value of the
wrong type, a file that is not there, …); the words are fixed by the operation that fails.

## Main definitions

* `FaultKind`: the causes of failure.
* `FaultKind.className`: the name a fault is reported under.
* `Fault`: a cause with its message.
-/

namespace MacroDoc

/-- The causes of failure. -/
inductive FaultKind where
  /-- A rule of the markup or of a block was broken. -/
  | broken
  /-- A value has the right type but a wrong value. -/
  | badValue
  /-- A value has the wrong type for an operation. -/
  | badType
  /-- A key or a name is not present. -/
  | missingKey
  /-- A position lies outside a sequence. -/
  | badIndex
  /-- An object has no attribute of a name. -/
  | missingAttribute
  /-- A name is used that was never defined. -/
  | undefinedName
  /-- A local name is read before it was given a value. -/
  | unboundLocal
  /-- A data text is malformed. -/
  | malformedData
  /-- A file or directory does not exist. -/
  | missingFile
  /-- A directory stands where a file is needed. -/
  | isDirectory
  /-- A file stands where a directory is needed. -/
  | notDirectory
  /-- A file stands where a directory is to be made. -/
  | fileExists
  /-- The system refuses a path for another reason, such as its length. -/
  | systemRefusal
  /-- A picture is of no known format. -/
  | unknownPicture
  /-- A picture file ends too early. -/
  | truncatedPicture
  /-- A picture file lacks a part it must have. -/
  | malformedPicture
  /-- Bytes do not fit the layout they are unpacked with. -/
  | badLayout
  /-- A number is too large for a conversion. -/
  | overflow
  /-- A division by zero. -/
  | divisionByZero
  /-- An internal check failed. -/
  | failedCheck
  /-- Bytes are not valid UTF-8. -/
  | badEncoding
  /-- A text holds a lone surrogate, which has no UTF-8 form. -/
  | unencodable
  /-- A file is not an archive. -/
  | badArchive
  /-- An archive uses a feature that is not supported. -/
  | unsupported
  /-- An archive member needs a password. -/
  | needsPassword
  /-- Compressed data is malformed. -/
  | badCompressedData
  /-- A bzip2 stream is malformed. -/
  | badBzip2Stream
  /-- An LZMA stream is malformed, or its settings are. -/
  | badLzmaStream
  /-- Data is nested too deeply to be read. -/
  | tooDeep
  /-- Markup that is not well-formed XML, as the document reader sees it. -/
  | xmlSyntax
  /-- Markup that is not well-formed XML, as the text extractor sees it. -/
  | xmlMalformed
  /-- A file is not a document package. -/
  | notPackage
  /-- Input ended while a line was expected. -/
  | endOfInput
  /-- The program asked to stop. -/
  | exitRequest
  /-- A query on a stored document is malformed. -/
  | badQuery
  /-- A path of a file tree that the tree has not been told about yet. -/
  | unread
  /-- A codec name that the registry of codecs does not resolve to a text codec. -/
  | unknownCodec
  /-- A codec that fails to decode. -/
  | codecFailure
  /-- A stored value that the reader of a document cannot take as its type. -/
  | invalidMarkup
  deriving DecidableEq, Repr

/-- The name a kind of fault is reported under: the class of the error the program raises
for it. A path not yet read is reported as a missing file. -/
def FaultKind.className : FaultKind → String
  | .broken => "Exception"
  | .badValue => "ValueError"
  | .badType => "TypeError"
  | .missingKey => "KeyError"
  | .badIndex => "IndexError"
  | .missingAttribute => "AttributeError"
  | .undefinedName => "NameError"
  | .unboundLocal => "UnboundLocalError"
  | .malformedData => "JSONDecodeError"
  | .missingFile => "FileNotFoundError"
  | .isDirectory => "IsADirectoryError"
  | .notDirectory => "NotADirectoryError"
  | .fileExists => "FileExistsError"
  | .systemRefusal => "OSError"
  | .unknownPicture => "UnrecognizedImageError"
  | .truncatedPicture => "UnexpectedEndOfFileError"
  | .malformedPicture => "InvalidImageStreamError"
  | .badLayout => "error"
  | .overflow => "OverflowError"
  | .divisionByZero => "ZeroDivisionError"
  | .failedCheck => "AssertionError"
  | .badEncoding => "UnicodeDecodeError"
  | .unencodable => "UnicodeEncodeError"
  | .badArchive => "BadZipFile"
  | .unsupported => "NotImplementedError"
  | .needsPassword => "RuntimeError"
  | .badCompressedData => "error"
  | .badBzip2Stream => "OSError"
  | .badLzmaStream => "LZMAError"
  | .tooDeep => "RecursionError"
  | .xmlSyntax => "XMLSyntaxError"
  | .xmlMalformed => "ParseError"
  | .notPackage => "PackageNotFoundError"
  | .endOfInput => "EOFError"
  | .exitRequest => "SystemExit"
  | .badQuery => "XPathEvalError"
  | .unread => "FileNotFoundError"
  | .unknownCodec => "LookupError"
  | .codecFailure => "UnicodeError"
  | .invalidMarkup => "InvalidXmlError"

/-- A cause of failure with its message. -/
structure Fault where
  kind : FaultKind
  message : String
  deriving DecidableEq, Repr

namespace Fault

/-- A broken rule of the markup, with its message. -/
def broken (message : String) : Fault := ⟨.broken, message⟩

/-- A wrong value. -/
def badValue (message : String) : Fault := ⟨.badValue, message⟩

/-- A value of the wrong type. -/
def badType (message : String) : Fault := ⟨.badType, message⟩

/-- A position outside a sequence. -/
def indexOutOfRange : Fault := ⟨.badIndex, "list index out of range"⟩

/-- A missing attribute of an object of the named type. -/
def noAttribute (owner field : String) : Fault :=
  ⟨.missingAttribute, "'" ++ owner ++ "' object has no attribute '" ++ field ++ "'"⟩

/-- The refusal to take the whole value of a float that is not finite: not a number, or an
infinity. -/
def noWholeValue (notANumber : Bool) : Fault :=
  if notANumber then badValue "cannot convert float NaN to integer"
  else ⟨.overflow, "cannot convert float infinity to integer"⟩

/-- A name looked up where no value is bound to it. -/
def notDefined (name : String) : Fault := ⟨.undefinedName, "name '" ++ name ++ "' is not defined"⟩

/-- A missing attribute of the named type itself. -/
def noTypeAttribute (owner field : String) : Fault :=
  ⟨.missingAttribute, "type object '" ++ owner ++ "' has no attribute '" ++ field ++ "'"⟩

end Fault

end MacroDoc
