import Kmip.Attributes
import Kmip.BigInteger
import Kmip.Bytes
import Kmip.CommandLine
import Kmip.Config
import Kmip.Config.Form
import Kmip.Content
import Kmip.Credential
import Kmip.DateTime
import Kmip.DateTime.Rfc3339
import Kmip.Encoding
import Kmip.Enumeration
import Kmip.Enumeration.Registry
import Kmip.Failure
import Kmip.Fault
import Kmip.Hex
import Kmip.Inspection
import Kmip.Item
import Kmip.Item.Form
import Kmip.ItemType
import Kmip.Json
import Kmip.Json.Fault
import Kmip.Json.Number
import Kmip.Json.Primitive
import Kmip.Json.Scan
import Kmip.Main
import Kmip.Message
import Kmip.Nanos
import Kmip.Outline
import Kmip.Proofs.Ahead
import Kmip.Proofs.Arrival
import Kmip.Proofs.Batch
import Kmip.Proofs.BigInteger
import Kmip.Proofs.Bytes
import Kmip.Proofs.Calendar
import Kmip.Proofs.Calls
import Kmip.Proofs.Closure
import Kmip.Proofs.Coherent
import Kmip.Proofs.Decimal
import Kmip.Proofs.Decoding
import Kmip.Proofs.Delimited
import Kmip.Proofs.Domain
import Kmip.Proofs.Encoding
import Kmip.Proofs.Extent
import Kmip.Proofs.Fields
import Kmip.Proofs.Foreign
import Kmip.Proofs.Form
import Kmip.Proofs.FormMembers
import Kmip.Proofs.FormMirror
import Kmip.Proofs.FormOrder
import Kmip.Proofs.FormResults
import Kmip.Proofs.FormScan
import Kmip.Proofs.FormWire
import Kmip.Proofs.Groups
import Kmip.Proofs.Hex
import Kmip.Proofs.Inspection
import Kmip.Proofs.Item
import Kmip.Proofs.JsonAtom
import Kmip.Proofs.JsonMirror
import Kmip.Proofs.JsonResults
import Kmip.Proofs.JsonScan
import Kmip.Proofs.JsonSorted
import Kmip.Proofs.JsonText
import Kmip.Proofs.Kept
import Kmip.Proofs.Layout
import Kmip.Proofs.Lookahead
import Kmip.Proofs.Loop
import Kmip.Proofs.Merge
import Kmip.Proofs.Message
import Kmip.Proofs.Mixed
import Kmip.Proofs.Overrun
import Kmip.Proofs.Pairing
import Kmip.Proofs.Progress
import Kmip.Proofs.Reading
import Kmip.Proofs.Record
import Kmip.Proofs.Regular
import Kmip.Proofs.Relaxed
import Kmip.Proofs.Replay
import Kmip.Proofs.Resent
import Kmip.Proofs.Rfc3339
import Kmip.Proofs.Room
import Kmip.Proofs.Row
import Kmip.Proofs.Scalar
import Kmip.Proofs.Sequence
import Kmip.Proofs.Shape
import Kmip.Proofs.Spelling
import Kmip.Proofs.Steady
import Kmip.Proofs.Step
import Kmip.Proofs.Tag
import Kmip.Proofs.TagText
import Kmip.Proofs.Taking
import Kmip.Proofs.Transparency
import Kmip.Proofs.Truncation
import Kmip.Proofs.Whole
import Kmip.Proofs.Writer
import Kmip.Reader
import Kmip.Records
import Kmip.Records.Attribute
import Kmip.Records.Basic
import Kmip.Records.Credential
import Kmip.Records.Key
import Kmip.Records.Message
import Kmip.Records.Payload
import Kmip.Selection
import Kmip.Shape
import Kmip.Shape.Decode
import Kmip.Shape.Encode
import Kmip.Shape.Outline
import Kmip.Shape.Table
import Kmip.Shape.Write
import Kmip.Sink
import Kmip.Source
import Kmip.Span
import Kmip.Tag
import Kmip.Tag.Named
import Kmip.Tag.Registry
import Kmip.Text.Blank
import Kmip.Text.Decimal
import Kmip.Text.Hidden
import Kmip.Text.Quoted
import Kmip.Text.Shortest
import Kmip.Text.Utf8
import Kmip.UsageMask
import Kmip.Version
import Kmip.Writer
import Kmip.Writer.Call
