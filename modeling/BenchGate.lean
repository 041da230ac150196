import BenchGate.Binary64
import BenchGate.CommandLine.Command
import BenchGate.CommandLine.Help
import BenchGate.CommandLine.Invocation
import BenchGate.CommandLine.Scan
import BenchGate.CommandLine.Suggestion
import BenchGate.Comparison.Basic
import BenchGate.Comparison.Classification
import BenchGate.Comparison.Error
import BenchGate.Comparison.Verdict
import BenchGate.Config.Basic
import BenchGate.Config.Load
import BenchGate.Console.Line
import BenchGate.Datum
import BenchGate.Decimal.Literal
import BenchGate.Decimal.Numeral
import BenchGate.Decimal.Shortest
import BenchGate.Delivery.Channel
import BenchGate.Delivery.Event
import BenchGate.Delivery.Send
import BenchGate.Files.Error
import BenchGate.Files.Path
import BenchGate.Files.Tree
import BenchGate.Issue
import BenchGate.Json.Document
import BenchGate.Json.Reader
import BenchGate.Json.Writer
import BenchGate.Main
import BenchGate.Program
import BenchGate.Proofs.Binary64.Accumulation
import BenchGate.Proofs.Binary64.Arithmetic
import BenchGate.Proofs.Binary64.Closest
import BenchGate.Proofs.Binary64.Difference
import BenchGate.Proofs.Binary64.Extremes
import BenchGate.Proofs.Binary64.Machine
import BenchGate.Proofs.Binary64.Nearest
import BenchGate.Proofs.Binary64.Order
import BenchGate.Proofs.Binary64.RoundOff
import BenchGate.Proofs.Binary64.Scientific
import BenchGate.Proofs.Binary64.Sign
import BenchGate.Proofs.Binary64.Value
import BenchGate.Proofs.Comparison.Direction
import BenchGate.Proofs.Comparison.Mean
import BenchGate.Proofs.Comparison.Monotone
import BenchGate.Proofs.Comparison.Percent
import BenchGate.Proofs.Comparison.Printed
import BenchGate.Proofs.Comparison.Range
import BenchGate.Proofs.Comparison.Ratio
import BenchGate.Proofs.Comparison.Reordering
import BenchGate.Proofs.Comparison.Rows
import BenchGate.Proofs.Comparison.Truncation
import BenchGate.Proofs.Comparison.Verdict
import BenchGate.Proofs.Config.Malformed
import BenchGate.Proofs.Config.Rule
import BenchGate.Proofs.Config.Schema
import BenchGate.Proofs.Config.Thresholds
import BenchGate.Proofs.Console.Line
import BenchGate.Proofs.Decimal.Count
import BenchGate.Proofs.Decimal.Fixed
import BenchGate.Proofs.Decimal.Literal
import BenchGate.Proofs.Decimal.Numeral
import BenchGate.Proofs.Decimal.Shortest
import BenchGate.Proofs.Decimal.Sign
import BenchGate.Proofs.Decimal.Whole
import BenchGate.Proofs.Delivery.Address
import BenchGate.Proofs.Delivery.Endpoint
import BenchGate.Proofs.Delivery.Event
import BenchGate.Proofs.Delivery.Request
import BenchGate.Proofs.Files.Frame
import BenchGate.Proofs.Files.Path
import BenchGate.Proofs.Json.Document
import BenchGate.Proofs.Json.Grammar
import BenchGate.Proofs.Json.Parts
import BenchGate.Proofs.Program.Request
import BenchGate.Proofs.Program.Session
import BenchGate.Proofs.Program.Status
import BenchGate.Proofs.Program.Transcript
import BenchGate.Proofs.Report.Footer
import BenchGate.Proofs.Report.Paragraphs
import BenchGate.Proofs.Result
import BenchGate.Proofs.Run.Coherence
import BenchGate.Proofs.Run.Data
import BenchGate.Proofs.Run.Delivery
import BenchGate.Proofs.Run.Footprint
import BenchGate.Proofs.Run.Independence
import BenchGate.Proofs.Run.Interchange
import BenchGate.Proofs.Run.Outcome
import BenchGate.Proofs.Run.Stages
import BenchGate.Proofs.Text.Percent
import BenchGate.Proofs.Text.Utf16
import BenchGate.Proofs.Text.Utf8
import BenchGate.Proofs.Text.Words
import BenchGate.Proofs.Timing.Grammar
import BenchGate.Proofs.Timing.Negative
import BenchGate.Proofs.Timing.Text
import BenchGate.Proofs.Url.DotSegments
import BenchGate.Report.Lines
import BenchGate.Repository
import BenchGate.Run.Data
import BenchGate.Run.Job
import BenchGate.Run.Measurement
import BenchGate.Run.Outcome
import BenchGate.Text.Blank
import BenchGate.Text.Hex
import BenchGate.Text.Percent
import BenchGate.Text.Utf16
import BenchGate.Text.Utf8
import BenchGate.Thresholds
import BenchGate.Timing.Error
import BenchGate.Timing.Text
import BenchGate.Url.Basic
import BenchGate.Url.Domain.Basic
import BenchGate.Url.Domain.Composition
import BenchGate.Url.Domain.Label
import BenchGate.Url.Domain.Mapping
import BenchGate.Url.Domain.Table
import BenchGate.Url.Host
import BenchGate.Url.Punycode
import BenchGate.Yaml.Alias
import BenchGate.Yaml.Document
import BenchGate.Yaml.Layout.Basic
import BenchGate.Yaml.Layout.Builder
import BenchGate.Yaml.Node
import BenchGate.Yaml.Properties
import BenchGate.Yaml.Scalar.Block
import BenchGate.Yaml.Scalar.Quoted
import BenchGate.Yaml.Scalar.Schema
import BenchGate.Yaml.Token.Basic
import BenchGate.Yaml.Token.Reader
import BenchGate.Yaml.Token.Scalar
