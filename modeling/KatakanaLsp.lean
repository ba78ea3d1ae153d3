import KatakanaLsp.Text.Blank
import KatakanaLsp.Text.Quoted
import KatakanaLsp.Json.Printer
import KatakanaLsp.Json.Parser
import KatakanaLsp.Dialect.Coverage
import KatakanaLsp.Url.Parse
import KatakanaLsp.Completion.Provider
import KatakanaLsp.Config
import KatakanaLsp.Files.Walk
import KatakanaLsp.Files.Retention
import KatakanaLsp.Wire.Frame
import KatakanaLsp.Wire.Replay
import KatakanaLsp.Wire.Transport
import KatakanaLsp.Wire.Logger
import KatakanaLsp.Decode.Shape
import KatakanaLsp.Protocol.Method
import KatakanaLsp.Protocol.Framing
import KatakanaLsp.Protocol.Message
import KatakanaLsp.Server.Turn
import KatakanaLsp.Server.Session
import KatakanaLsp.Logging.Filter
import KatakanaLsp.Logging.Line
import KatakanaLsp.Logging.Setup
import KatakanaLsp.CommandLine
import KatakanaLsp.Program
import KatakanaLsp.Main
import KatakanaLsp.Proofs.Text.Utf8
import KatakanaLsp.Proofs.Text.Decimal
import KatakanaLsp.Proofs.Wire.Block
import KatakanaLsp.Proofs.Wire.Grammar
import KatakanaLsp.Proofs.Files.Tree
import KatakanaLsp.Proofs.Files.Path
import KatakanaLsp.Proofs.Files.Walk
import KatakanaLsp.Proofs.Files.Opening
import KatakanaLsp.Proofs.Files.Expiry
import KatakanaLsp.Proofs.Wire.Recording
import KatakanaLsp.Proofs.Wire.Appending
import KatakanaLsp.Proofs.Wire.Streaming
import KatakanaLsp.Proofs.Wire.Bounds
import KatakanaLsp.Proofs.Text.Blank
import KatakanaLsp.Proofs.Wire.Length
import KatakanaLsp.Proofs.Wire.Header
import KatakanaLsp.Proofs.Wire.RoundTrip
import KatakanaLsp.Proofs.Json.Plain
import KatakanaLsp.Proofs.Wire.ReadBack
import KatakanaLsp.Proofs.Json.Canonical
import KatakanaLsp.Proofs.Json.Extent
import KatakanaLsp.Proofs.Json.Reread
import KatakanaLsp.Proofs.Wire.Replaying
import KatakanaLsp.Proofs.Wire.Framed
import KatakanaLsp.Proofs.Wire.Relogging
import KatakanaLsp.Proofs.Wire.Transparent
import KatakanaLsp.Proofs.Server.Undisturbed
import KatakanaLsp.Proofs.Server.Saying
import KatakanaLsp.Proofs.Server.Recorded
import KatakanaLsp.Proofs.Text.Walk
import KatakanaLsp.Proofs.Protocol.Streaming
import KatakanaLsp.Proofs.Protocol.HeaderLines
import KatakanaLsp.Proofs.Wire.ClientFrame
import KatakanaLsp.Proofs.Wire.Conversation
import KatakanaLsp.Proofs.Dialect.Lookup
import KatakanaLsp.Proofs.Dialect.Verdict
import KatakanaLsp.Proofs.Decode.Record
import KatakanaLsp.Proofs.Server.Handling
import KatakanaLsp.Proofs.Server.Enacting
import KatakanaLsp.Proofs.Server.Hearing
import KatakanaLsp.Proofs.Server.Documents
import KatakanaLsp.Proofs.Server.Languages
import KatakanaLsp.Proofs.Server.Announcement
import KatakanaLsp.Proofs.Dialect.Arrangement
import KatakanaLsp.Proofs.Server.Offering
import KatakanaLsp.Proofs.Dialect.Inverse
import KatakanaLsp.Proofs.Completion.Coverage
import KatakanaLsp.Proofs.Completion.Faithful
import KatakanaLsp.Proofs.Config.Precedence
