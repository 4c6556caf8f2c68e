import LiveTail.CommandLine.Arguments
import LiveTail.CommandLine.Switch
import LiveTail.Config.Raw
import LiveTail.Config.Validate
import LiveTail.Connection.Fault
import LiveTail.Connection.Link
import LiveTail.Connection.Manager
import LiveTail.Connection.Policy
import LiveTail.Connection.Rehearsal
import LiveTail.Connection.Request
import LiveTail.Connection.State
import LiveTail.Connection.Worker
import LiveTail.Endpoint
import LiveTail.Entries
import LiveTail.Failure
import LiveTail.Files.Directories
import LiveTail.Files.Path
import LiveTail.Files.Plan
import LiveTail.Files.System
import LiveTail.Journal.Basic
import LiveTail.Journal.Filter
import LiveTail.Json.Fault
import LiveTail.Json.Lexer
import LiveTail.Json.Printer
import LiveTail.Json.Quoted
import LiveTail.Json.Reader
import LiveTail.Json.Record
import LiveTail.Json.Skip
import LiveTail.Json.Value
import LiveTail.Launch
import LiveTail.Log.Event
import LiveTail.Log.Offset
import LiveTail.Log.Row
import LiveTail.Log.Severity
import LiveTail.Log.Table
import LiveTail.Main
import LiveTail.Number.Binary
import LiveTail.Number.Reader
import LiveTail.Number.Shortest
import LiveTail.Number.Word
import LiveTail.Prefs
import LiveTail.Program
import LiveTail.Protocol.Fault
import LiveTail.Protocol.Message
import LiveTail.Protocol.Selector
import LiveTail.Screen.Paint
import LiveTail.Screen.State
import LiveTail.Screen.Theme
import LiveTail.Screen.Window
import LiveTail.Session
import LiveTail.Stream
import LiveTail.Text.Blank
import LiveTail.Text.CharSet
import LiveTail.Text.Fold
import LiveTail.Text.Lines
import LiveTail.Text.Literal
import LiveTail.Text.Normal
import LiveTail.Text.Normal.Data
import LiveTail.Text.Numeral
import LiveTail.Text.Printable
import LiveTail.Text.RangeTable
import LiveTail.Text.Similarity
import LiveTail.Time.Calendar
import LiveTail.Time.Instant
import LiveTail.Time.Printer
import LiveTail.Time.Reader
import LiveTail.Time.Wire
import LiveTail.Toml.Lexer
import LiveTail.Toml.Reader
import LiveTail.Toml.Value
import LiveTail.Url.Basic
import LiveTail.Url.Idna
import LiveTail.Url.Idna.ClassData
import LiveTail.Url.Idna.Label
import LiveTail.Url.Idna.Mapping
import LiveTail.Url.Idna.MappingData
import LiveTail.Url.Ipv4
import LiveTail.Url.Ipv6
import LiveTail.Url.Parser
import LiveTail.Url.Percent
import LiveTail.Url.Punycode
import LiveTail.Url.Setters
import LiveTail.Proofs.Turn
import LiveTail.Proofs.Line
import LiveTail.Proofs.Batch
import LiveTail.Proofs.Scene
import LiveTail.Proofs.Ahead
import LiveTail.Proofs.Selector
import LiveTail.Proofs.Resend
import LiveTail.Proofs.Feed
import LiveTail.Proofs.Grammar
import LiveTail.Proofs.History
import LiveTail.Proofs.Lineage
import LiveTail.Proofs.Attempts
import LiveTail.Proofs.Erasure
import LiveTail.Proofs.Isolation
import LiveTail.Proofs.Reads
import LiveTail.Proofs.Delivery
import LiveTail.Proofs.Shutdown
import LiveTail.Proofs.Conduct
import LiveTail.Proofs.Standing
import LiveTail.Proofs.Outbound
import LiveTail.Proofs.Cuts
import LiveTail.Proofs.Readback
import LiveTail.Proofs.Nesting
import LiveTail.Proofs.Envelope
import LiveTail.Proofs.Milliseconds
import LiveTail.Proofs.Verdict
import LiveTail.Proofs.Place
import LiveTail.Proofs.Nodes
import LiveTail.Proofs.Effects
import LiveTail.Proofs.Interruption
import LiveTail.Proofs.Keepsake
import LiveTail.Proofs.Relaunch
import LiveTail.Proofs.Schedule
import LiveTail.Proofs.Moments
import LiveTail.Proofs.Descent
import LiveTail.Proofs.Selection
import LiveTail.Proofs.Nearest
import LiveTail.Proofs.Rounding
import LiveTail.Proofs.Seconds
import LiveTail.Proofs.Segments
import LiveTail.Proofs.Derivation
import LiveTail.Proofs.Validation
import LiveTail.Proofs.Warnings
import LiveTail.Proofs.StatusLine
import LiveTail.Proofs.Submission
import LiveTail.Proofs.Forms
import LiveTail.Proofs.Wording
import LiveTail.Proofs.Decimals
