import MacroDoc.Markup.Line
import MacroDoc.Markup.Macro
import MacroDoc.Decimal.Binary
import MacroDoc.Decimal.Shortest
import MacroDoc.Decimal.Notation
import MacroDoc.Json.Reader
import MacroDoc.Json.Show
import MacroDoc.Json.Writer
import MacroDoc.Decimal.Literal
import MacroDoc.Engine.Kind
import MacroDoc.Style.Basic
import MacroDoc.Warning
import MacroDoc.Style.Template
import MacroDoc.Style.Markup
import MacroDoc.Style.Stored
import MacroDoc.Style.Assign
import MacroDoc.Style.Load
import MacroDoc.Style.Defaults
import MacroDoc.Style.Describe
import MacroDoc.Document.Basic
import MacroDoc.Document.Picture
import MacroDoc.Text.Base64
import MacroDoc.Text.Utf8
import MacroDoc.Engine.Counters
import MacroDoc.Engine.Frame
import MacroDoc.Engine.Machine
import MacroDoc.Document.Compose
import MacroDoc.Document.Describe
import MacroDoc.Engine.Session
import MacroDoc.Document.Build
import MacroDoc.Document.Source
import MacroDoc.Command.Help
import MacroDoc.Command.Run
import MacroDoc.Command.Sample
import MacroDoc.Document.Extract
import MacroDoc.Main
import MacroDoc.Text.Lines
import MacroDoc.Archive.Crc
import MacroDoc.Archive.Inflate
import MacroDoc.Archive.Bzip2
import MacroDoc.Archive.Lzma
import MacroDoc.Archive.Zip
import MacroDoc.Xml.Node
import MacroDoc.Xml.PathNumber
import MacroDoc.Xml.Problem
import MacroDoc.Xml.Charset
import MacroDoc.Xml.Opening
import MacroDoc.Xml.Parse
import MacroDoc.Xml.WellFormed.NameTable
import MacroDoc.Xml.WellFormed.Source
import MacroDoc.Xml.WellFormed.Token
import MacroDoc.Xml.WellFormed.Role
import MacroDoc.Xml.WellFormed.Codec
import MacroDoc.Xml.WellFormed.Dtd
import MacroDoc.Xml.WellFormed.Declaration
import MacroDoc.Xml.WellFormed.Content
import MacroDoc.Xml.WellFormed.Check
import MacroDoc.Proofs.ArgumentSplitting
import MacroDoc.Proofs.ArgumentCharacters
import MacroDoc.Proofs.AppendRequest
import MacroDoc.Proofs.Nesting
import MacroDoc.Proofs.Indentation
import MacroDoc.Proofs.EndOfReading
import MacroDoc.Proofs.Reading
import MacroDoc.Proofs.FaultReports
import MacroDoc.Proofs.SinkStack
import MacroDoc.Proofs.ListOpening
import MacroDoc.Proofs.WriteOrder
import MacroDoc.Proofs.OutlineNumbering
import MacroDoc.Proofs.LabelErasing
import MacroDoc.Proofs.NumberingLevels
import MacroDoc.Proofs.DistinctNumbers
import MacroDoc.Proofs.DocumentSequence
import MacroDoc.Proofs.StyleDescription
import MacroDoc.Proofs.WrittenParagraph
import MacroDoc.Proofs.IndentStripping
import MacroDoc.Proofs.NumberingKey
import MacroDoc.Proofs.ListItems
import MacroDoc.Proofs.StyleKeyOrder
