import LintClient.Protocol.Decoder
import LintClient.Report.Unchecked
import LintClient.Json.Document
import LintClient.Json.Printer
import LintClient.LintError.Arguments
import LintClient.Log.Session
import LintClient.CommandLine.Settings
import LintClient.Config.Validation
import LintClient.Main
import LintClient.Schedule.Timeline
import LintClient.Proofs.Run.Chunking
import LintClient.Proofs.Schedule.Coverage
import LintClient.Proofs.Schedule.Progress
import LintClient.Proofs.Schedule.Settlement
import LintClient.Proofs.Run.Isolation
import LintClient.Proofs.Schedule.Clock
import LintClient.Proofs.Schedule.Debounce
import LintClient.Proofs.Json.Line.Grammar
import LintClient.Proofs.Json.Line.Numbers
import LintClient.Proofs.Json.Line.Values
import LintClient.Proofs.Json.Members
import LintClient.Proofs.Protocol.Fields
import LintClient.Proofs.Protocol.Record
import LintClient.Proofs.Json.Written
import LintClient.Proofs.Protocol.Rendering
import LintClient.Proofs.Run.RoundTrip
import LintClient.Proofs.Protocol.IntegerText
import LintClient.Proofs.Run.Completed
import LintClient.Proofs.Run.Exit
import LintClient.Proofs.Run.Lingering
import LintClient.Proofs.Protocol.Comment
import LintClient.Proofs.Report.Collecting
import LintClient.Proofs.CommandLine.Escapes
import LintClient.Proofs.Report.Sharing
import LintClient.Proofs.CommandLine.Gathering
import LintClient.Proofs.CommandLine.Lossless
import LintClient.Proofs.Protocol.Located
import LintClient.Proofs.Run.Sifting
import LintClient.Proofs.Protocol.Dependence
import LintClient.Proofs.Report.Refusing
import LintClient.Proofs.Report.Lines
import LintClient.Proofs.Schedule.Abort
import LintClient.Proofs.Schedule.Waiting
import LintClient.Proofs.Config.Environment
import LintClient.Proofs.Config.RoundTrip
import LintClient.Proofs.CommandLine.Durations
import LintClient.Proofs.CommandLine.Requests
import LintClient.Proofs.Config.Layers
import LintClient.Proofs.Protocol.BlockComment
import LintClient.Proofs.Log.Header
