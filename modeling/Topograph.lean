import Topograph.Address.Basic
import Topograph.Address.Host
import Topograph.Address.HostLetters
import Topograph.Address.Punycode
import Topograph.Archive.Answers
import Topograph.Archive.Route
import Topograph.Archive.Table
import Topograph.Canvas.Editor
import Topograph.Canvas.Projection
import Topograph.Codec.Base64
import Topograph.Codec.Checksum
import Topograph.Codec.Compressed
import Topograph.Codec.Inflate
import Topograph.Json.Basic
import Topograph.Json.Body
import Topograph.Json.Message
import Topograph.Json.Reader
import Topograph.Json.Writer
import Topograph.Main
import Topograph.Network.Building
import Topograph.Network.Device
import Topograph.Network.Identifier
import Topograph.Network.Link
import Topograph.Network.Quantity
import Topograph.Network.Topology
import Topograph.Number.Basic
import Topograph.Number.Binary64
import Topograph.Number.Entry
import Topograph.Number.Numeral
import Topograph.Number.Shortest
import Topograph.Number.Written
import Topograph.Problem
import Topograph.Proofs.Address.Appended
import Topograph.Proofs.Archive.Handled
import Topograph.Proofs.Archive.ListedOrder
import Topograph.Proofs.Archive.Records
import Topograph.Proofs.Archive.Register
import Topograph.Proofs.Archive.Requests
import Topograph.Proofs.Archive.Visits
import Topograph.Proofs.Canvas.Atomicity
import Topograph.Proofs.Canvas.Commuting
import Topograph.Proofs.Canvas.Drawing
import Topograph.Proofs.Canvas.Edits
import Topograph.Proofs.Canvas.Inspection
import Topograph.Proofs.Canvas.Lossless
import Topograph.Proofs.Canvas.WellFormed
import Topograph.Proofs.Codec.Base64Text
import Topograph.Proofs.Codec.WholeFrame
import Topograph.Proofs.Json.BodyText
import Topograph.Proofs.Json.Equality
import Topograph.Proofs.Json.Fields
import Topograph.Proofs.Json.Nesting
import Topograph.Proofs.Json.NumberText
import Topograph.Proofs.Json.Openings
import Topograph.Proofs.Json.Paths
import Topograph.Proofs.Json.ReadWritable
import Topograph.Proofs.Json.RoundTrip
import Topograph.Proofs.Network.Building
import Topograph.Proofs.Network.Cascade
import Topograph.Proofs.Network.Consistency
import Topograph.Proofs.Network.Defaulting
import Topograph.Proofs.Network.IdentifierGrammar
import Topograph.Proofs.Network.IdentifierText
import Topograph.Proofs.Network.PositionLabel
import Topograph.Proofs.Network.ReadTopology
import Topograph.Proofs.Network.Record
import Topograph.Proofs.Network.RecordRoundTrip
import Topograph.Proofs.Network.Writable
import Topograph.Proofs.Number.DecimalText
import Topograph.Proofs.Number.ExactValue
import Topograph.Proofs.Number.IntegerText
import Topograph.Proofs.Number.LabelText
import Topograph.Proofs.Number.Rounding
import Topograph.Proofs.Service.Acceptable
import Topograph.Proofs.Service.Brought
import Topograph.Proofs.Service.Paths
import Topograph.Proofs.Service.Pipeline
import Topograph.Proofs.Service.Refusals
import Topograph.Proofs.Service.Told
import Topograph.Proofs.Service.Transport
import Topograph.Proofs.Session.Conclusion
import Topograph.Proofs.Session.Conduct
import Topograph.Proofs.Session.Decoding
import Topograph.Proofs.Session.Flight
import Topograph.Proofs.Session.Gestures
import Topograph.Proofs.Session.LiveGraph
import Topograph.Proofs.Session.OneFlight
import Topograph.Proofs.Session.Reopened
import Topograph.Proofs.Session.TurnedAway
import Topograph.Proofs.Session.Wholesale
import Topograph.Proofs.Session.Workbench
import Topograph.Proofs.Snippet.Deeds
import Topograph.Proofs.Snippet.EnvelopeText
import Topograph.Proofs.Snippet.Errands
import Topograph.Proofs.Snippet.Mirror
import Topograph.Proofs.Snippet.NewestFirst
import Topograph.Proofs.Snippet.Office
import Topograph.Proofs.Snippet.SnippetText
import Topograph.Proofs.Snippet.Sorting
import Topograph.Proofs.Snippet.TimeOrder
import Topograph.Proofs.Snippet.UnknownKeys
import Topograph.Proofs.Text.Trimmed
import Topograph.Proofs.Text.Utf8Text
import Topograph.Proofs.Time.StampOrder
import Topograph.Proofs.Time.WrittenTime
import Topograph.Proofs.Validation.Checked
import Topograph.Proofs.Validation.DefaultLabel
import Topograph.Service.Compiler
import Topograph.Service.Decoder
import Topograph.Service.Exchange
import Topograph.Service.Pipeline
import Topograph.Service.Status
import Topograph.Service.Store
import Topograph.Session.Basic
import Topograph.Session.Command
import Topograph.Settings.Basic
import Topograph.Snippet.Basic
import Topograph.Snippet.Envelope
import Topograph.Snippet.Listing
import Topograph.Text.Blank
import Topograph.Text.DecimalDigit
import Topograph.Text.Hexadecimal
import Topograph.Text.Printable
import Topograph.Text.Quoted
import Topograph.Text.Raw
import Topograph.Text.Utf8
import Topograph.Time.Calendar
import Topograph.Time.Reader
import Topograph.Time.Timestamp
import Topograph.Validation.Issue
import Topograph.Validation.Network
import Topograph.Validation.Scalar
