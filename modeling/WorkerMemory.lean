import WorkerMemory.Collector
import WorkerMemory.CommandLine.Invocation
import WorkerMemory.CommandLine.Run
import WorkerMemory.CommandLine.Session
import WorkerMemory.Decimal.Float
import WorkerMemory.Decimal.Shortest
import WorkerMemory.Failure
import WorkerMemory.Files
import WorkerMemory.Integer
import WorkerMemory.Json.Number
import WorkerMemory.Json.Reader
import WorkerMemory.Json.Record
import WorkerMemory.Json.Value
import WorkerMemory.Json.Writer
import WorkerMemory.Log.Event
import WorkerMemory.Log.Filter
import WorkerMemory.Main
import WorkerMemory.Metric
import WorkerMemory.Metric.Json
import WorkerMemory.Ownership
import WorkerMemory.Platform
import WorkerMemory.ProcessTable
import WorkerMemory.Proofs.CommandLine.Collect
import WorkerMemory.Proofs.CommandLine.Session
import WorkerMemory.Proofs.Cycle.Asked
import WorkerMemory.Proofs.Cycle.Backends
import WorkerMemory.Proofs.Cycle.Batch
import WorkerMemory.Proofs.Cycle.Clones
import WorkerMemory.Proofs.Cycle.Conserved
import WorkerMemory.Proofs.Cycle.Figure
import WorkerMemory.Proofs.Cycle.Interference
import WorkerMemory.Proofs.Cycle.Interleaving
import WorkerMemory.Proofs.Cycle.Metrics
import WorkerMemory.Proofs.Cycle.Placeholder
import WorkerMemory.Proofs.Cycle.Rows
import WorkerMemory.Proofs.Cycle.Settled
import WorkerMemory.Proofs.Cycle.Table
import WorkerMemory.Proofs.Decimal.Arithmetic
import WorkerMemory.Proofs.Decimal.Bits
import WorkerMemory.Proofs.Decimal.Nearest
import WorkerMemory.Proofs.Decimal.Printed
import WorkerMemory.Proofs.Decimal.Rounding
import WorkerMemory.Proofs.Decimal.RoundTrip
import WorkerMemory.Proofs.Decimal.Shortest
import WorkerMemory.Proofs.Decimal.Spelling
import WorkerMemory.Proofs.Json.Line
import WorkerMemory.Proofs.Json.Reader
import WorkerMemory.Proofs.Json.Stored
import WorkerMemory.Proofs.Last
import WorkerMemory.Proofs.Metric.Json
import WorkerMemory.Proofs.Ownership
import WorkerMemory.Proofs.Ownership.LastRoot
import WorkerMemory.Proofs.ProcessTable.Reach
import WorkerMemory.Proofs.Registry.Directory
import WorkerMemory.Proofs.Registry.Handles
import WorkerMemory.Proofs.Registry.Lawful
import WorkerMemory.Proofs.Registry.Locked
import WorkerMemory.Proofs.Registry.Operation
import WorkerMemory.Proofs.Registry.Sharded
import WorkerMemory.Proofs.Registry.Stale
import WorkerMemory.Proofs.Sampling.Answer
import WorkerMemory.Proofs.Sampling.Line
import WorkerMemory.Proofs.Sampling.Printout
import WorkerMemory.Proofs.Sampling.Request
import WorkerMemory.Proofs.Sampling.Row
import WorkerMemory.Proofs.Settings.Shadowing
import WorkerMemory.Proofs.Settings.Verbatim
import WorkerMemory.Proofs.Table
import WorkerMemory.Proofs.Table.Order
import WorkerMemory.Proofs.Text.Encoded
import WorkerMemory.Proofs.Text.Numeral
import WorkerMemory.Proofs.Text.Numeral.Spelling
import WorkerMemory.Proofs.Text.Reader
import WorkerMemory.Proofs.Text.Split
import WorkerMemory.Proofs.Text.Utf8
import WorkerMemory.Proofs.Text.Words
import WorkerMemory.Proofs.Time.Date
import WorkerMemory.Proofs.Time.Rfc3339
import WorkerMemory.Proofs.Usage
import WorkerMemory.Proofs.Worker.Spec
import WorkerMemory.Registry
import WorkerMemory.Registry.Locked
import WorkerMemory.Registry.Sharded
import WorkerMemory.Registry.Store
import WorkerMemory.Sampling
import WorkerMemory.Sampling.Request
import WorkerMemory.Sampling.Row
import WorkerMemory.Settings
import WorkerMemory.Settings.Error
import WorkerMemory.Settings.Json
import WorkerMemory.Settings.Layers
import WorkerMemory.Settings.Load
import WorkerMemory.Settings.Loose
import WorkerMemory.SystemError
import WorkerMemory.Table
import WorkerMemory.Text.Alphanumeric
import WorkerMemory.Text.Blank
import WorkerMemory.Text.CodePoints
import WorkerMemory.Text.Numeral
import WorkerMemory.Text.Printable
import WorkerMemory.Text.Quoted
import WorkerMemory.Text.Reader
import WorkerMemory.Text.Split
import WorkerMemory.Text.Utf8
import WorkerMemory.Text.Width
import WorkerMemory.Text.Width.Table
import WorkerMemory.Time.Date
import WorkerMemory.Time.Instant
import WorkerMemory.Time.Rfc3339
import WorkerMemory.Toml.Document
import WorkerMemory.Toml.Moment
import WorkerMemory.Toml.Number
import WorkerMemory.Toml.Table
import WorkerMemory.Toml.Text
import WorkerMemory.Usage
import WorkerMemory.Worker
import WorkerMemory.Worker.Json
import WorkerMemory.Worker.Spec
import WorkerMemory.Yaml.Document
import WorkerMemory.Yaml.Layout
import WorkerMemory.Yaml.Scalar
import WorkerMemory.Yaml.Token
import WorkerMemory.Yaml.Tokens
