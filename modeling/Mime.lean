import Mime.Base64.Decode
import Mime.Base64.Digit
import Mime.Base64.Encode
import Mime.Charset.CodePage
import Mime.Charset.Decode
import Mime.Charset.Label
import Mime.Charset.Registry
import Mime.Charset.Units
import Mime.Charset.Utf7
import Mime.Charset.Utf8
import Mime.Charset.Wide
import Mime.Event
import Mime.Header.Decode
import Mime.Header.Encode
import Mime.Header.EncodedWord
import Mime.Header.Fields
import Mime.Header.Fold
import Mime.Header.Parameter
import Mime.Json
import Mime.Log
import Mime.MediaType
import Mime.Message.Basic
import Mime.Message.HeaderBlock
import Mime.Message.Line
import Mime.Message.Multipart
import Mime.Message.Parameter
import Mime.Message.Reader
import Mime.Message.ToPart
import Mime.Part.Basic
import Mime.Part.Classify
import Mime.Part.Find
import Mime.Part.Graph
import Mime.Part.Schema
import Mime.Part.TextContent
import Mime.Part.Walk
import Mime.Proofs.Base64
import Mime.Proofs.Base64.Groups
import Mime.Proofs.EncodedWord
import Mime.Proofs.Header.Encode
import Mime.Proofs.Utf8
import Mime.QuotedPrintable.Decoder
import Mime.QuotedPrintable.Escape
import Mime.QuotedPrintable.Word
import Mime.Settings
import Mime.Settings.Integer
import Mime.Text.Basic
import Mime.Text.Blank
import Mime.Text.CaseTable
import Mime.Text.Lower
import Mime.Text.Octets
import Mime.Text.Printable
import Mime.Text.Upper
import Mime.Text.Utf8
import Mime.Transfer.Decode
import Mime.Transfer.Stream
import Mime.Validator
import Mime.Proofs.Header.RoundTrip
import Mime.Proofs.Header.Fold
import Mime.Proofs.Header.Injection
import Mime.Proofs.Header.Lookup
import Mime.Proofs.Charset.Carried
import Mime.Proofs.Message.Mirror
import Mime.Proofs.Message.ParameterText
import Mime.Proofs.Message.Payload
import Mime.Proofs.QuotedPrintable.Escape
import Mime.Proofs.QuotedPrintable.Grammar
import Mime.Proofs.Header.Layout
import Mime.Proofs.Header.Decomposition
import Mime.Proofs.Header.Conforming
import Mime.Proofs.Transfer.Base64
import Mime.Proofs.Text.Spelling
import Mime.Proofs.QuotedPrintable.Body
import Mime.Proofs.Transfer.Conforming
import Mime.Proofs.Header.Parameter
import Mime.Proofs.Charset.Label
import Mime.Proofs.Part.TextContent
import Mime.Proofs.Part.TextRoundTrip
import Mime.Proofs.Part.DocumentOrder
import Mime.Proofs.Part.Reach
import Mime.Proofs.Part.Materialize
import Mime.Proofs.Part.Collect
import Mime.Proofs.Header.Fields
import Mime.Proofs.Header.Breaks
import Mime.Proofs.Text.Lower
import Mime.Proofs.Header.WrittenParameter
import Mime.Proofs.Header.Blanks
import Mime.Proofs.Part.ContentId
import Mime.Proofs.Header.FewestLines
import Mime.Proofs.Header.Gaps
import Mime.Proofs.Header.NarrowLines
import Mime.Proofs.QuotedPrintable.Session
import Mime.Proofs.Transfer.Reads
import Mime.Proofs.Header.Locality
import Mime.Proofs.Header.AppendedParameter
import Mime.Proofs.Header.ParameterNames
import Mime.Proofs.Part.ReadSize
import Mime.Proofs.Part.Tree
import Mime.Proofs.Message.Walk
import Mime.Proofs.Schema.Reading
import Mime.Proofs.Schema.Conformance
import Mime.Proofs.Schema.Validation
