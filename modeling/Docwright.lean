import Docwright.Text.Range
import Docwright.Text.Alphanumeric
import Docwright.Text.Printable
import Docwright.Text.Digit
import Docwright.Text.LetterCase
import Docwright.Text.Blank
import Docwright.Text.Search
import Docwright.Text.Glyph
import Docwright.Text.Quoted
import Docwright.Number.Binary64
import Docwright.Number.Shortest
import Docwright.Number.Basic
import Docwright.Number.Reading
import Docwright.Json.Basic
import Docwright.Json.Reader
import Docwright.Json.Printer
import Docwright.Routine.Parameter
import Docwright.Routine.Basic
import Docwright.Source.Header
import Docwright.Source.Body
import Docwright.Source.Definition
import Docwright.Source.Extraction
import Docwright.Association
import Docwright.Docstring.Summary
import Docwright.Docstring.Section
import Docwright.Docstring.Entry
import Docwright.Documentation.Basic
import Docwright.Documentation.Heading
import Docwright.Documentation.Functionality
import Docwright.Documentation.ParameterNotes
import Docwright.Documentation.Steps
import Docwright.Documentation.Returns
import Docwright.Documentation.Synthesis
import Docwright.Report.Markdown
import Docwright.Report.Export
import Docwright.Report.Validation
import Docwright.Settings
import Docwright.Schema
import Docwright.Files.SystemError
import Docwright.Crash
import Docwright.Workers
import Docwright.Text.Utf8
import Docwright.Text.Bytes
import Docwright.Text.Newline
import Docwright.Text.Wide
import Docwright.Json.Encoding
import Docwright.Files.Path
import Docwright.Files.Tree
import Docwright.Files.Batch
import Docwright.Remote.Reply
import Docwright.Remote.Service
import Docwright.Remote.Fallback
import Docwright.Command.Flag
import Docwright.Command.Arguments
import Docwright.Command.Usage
import Docwright.Command.Documents
import Docwright.Command.Run
import Docwright.Web.Address
import Docwright.Web.Host
import Docwright.Web.Message
import Docwright.Web.StandIn
import Docwright.Web.Order
import Docwright.Web.Handler
import Docwright.Main
import Docwright.Proofs.Header
import Docwright.Proofs.Body
import Docwright.Proofs.Definition
import Docwright.Proofs.Scan
import Docwright.Proofs.Extraction
import Docwright.Proofs.Blocks
import Docwright.Proofs.Text
import Docwright.Proofs.Fallback
import Docwright.Proofs.Rounding
import Docwright.Proofs.Shortest
import Docwright.Proofs.NumberText
import Docwright.Proofs.StringText
import Docwright.Proofs.JsonText
import Docwright.Proofs.PrintedText
import Docwright.Proofs.Export
import Docwright.Proofs.Synthesis
import Docwright.Proofs.Shape
import Docwright.Proofs.Reply
import Docwright.Proofs.Validation
import Docwright.Proofs.Path
import Docwright.Proofs.Tree
import Docwright.Proofs.Collection
import Docwright.Proofs.Batch
import Docwright.Proofs.PrintedDocuments
import Docwright.Proofs.ExitStatus
import Docwright.Proofs.Pages
import Docwright.Proofs.StepOrder
import Docwright.Proofs.Search
import Docwright.Proofs.JsonLexis
import Docwright.Proofs.Wrapping
import Docwright.Proofs.ParameterSection
import Docwright.Proofs.Locality
import Docwright.Proofs.ParameterEntries
import Docwright.Proofs.DocstringPlace
import Docwright.Proofs.BodyLines
import Docwright.Proofs.DocstringLines
import Docwright.Proofs.ParameterList
import Docwright.Proofs.LeadingLiteral
import Docwright.Proofs.ReturnedExpressions
import Docwright.Proofs.LexicalPieces
import Docwright.Proofs.BodyLiterals
import Docwright.Proofs.Summary
import Docwright.Proofs.SectionBounds
import Docwright.Proofs.SectionText
import Docwright.Proofs.IndexTable
import Docwright.Proofs.LetterCase
import Docwright.Proofs.NumberValue
import Docwright.Proofs.Settings
import Docwright.Proofs.Brackets
import Docwright.Proofs.OptionalTypes
