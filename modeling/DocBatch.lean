import DocBatch.Text.Utf8
import DocBatch.Text.Base64
import DocBatch.Hash.Blake3
import DocBatch.Number.Binary64
import DocBatch.Number.Shortest
import DocBatch.Text.Intervals
import DocBatch.Text.Hidden
import DocBatch.Text.Alphanumeric
import DocBatch.Text.Quoted
import DocBatch.Json.Value
import DocBatch.Json.Fault
import DocBatch.Json.Cursor
import DocBatch.Json.Token
import DocBatch.Json.Parse
import DocBatch.Json.Decoder
import DocBatch.Error
import DocBatch.Field.Value
import DocBatch.Document.Payload
import DocBatch.Document.Patch
import DocBatch.Store.Basic
import DocBatch.Store.Memory
import DocBatch.Log
import DocBatch.Field.Ledger
import DocBatch.Settings
import DocBatch.Work
import DocBatch.Document.Basic
import DocBatch.Document.Codec
import DocBatch.Document.Edit
import DocBatch.Task.Basic
import DocBatch.Task.Validate
import DocBatch.Service.Basic
import DocBatch.Service.Values
import DocBatch.Service.Documents
import DocBatch.Schedule.Proc
import DocBatch.Schedule.Run
import DocBatch.Engine.Batch
import DocBatch.Engine.World
import DocBatch.Engine.Assembler
import DocBatch.Engine.Processor
import DocBatch.Engine.Runner
import DocBatch.Engine.Host
import DocBatch.Service.Script
import DocBatch.Service.Engine
import DocBatch.Queue.Envelope
import DocBatch.Service.Envelope
import DocBatch.Number.Digits
import DocBatch.Toml.Tree
import DocBatch.Toml.Read
import DocBatch.Toml.Report
import DocBatch.Config.File
import DocBatch.Config.Basic
import DocBatch.Cli.Files
import DocBatch.Service.Config
import DocBatch.Net.Uri
import DocBatch.Telemetry
import DocBatch.Service.Telemetry
import DocBatch.Database.Basic
import DocBatch.Database.Queue
import DocBatch.Database.Values
import DocBatch.Text.Timestamp
import DocBatch.Queue.Source
import DocBatch.Service.Database
import DocBatch.Text.Words
import DocBatch.WordCount
import DocBatch.Cli.EnvFile
import DocBatch.Text.Similarity
import DocBatch.Cli.Grammar
import DocBatch.Cli.Args
import DocBatch.Cli.Program
import DocBatch.Text.Punycode
import DocBatch.Net.DomainChars
import DocBatch.Net.Domain
import DocBatch.Net.Url
import DocBatch.Database.Connect
import DocBatch.LogFilter
import DocBatch.Cli.Serve
import DocBatch.Cli.Run
import DocBatch.Service.Cli
import DocBatch.Service.Dispatch
import DocBatch.Main
import DocBatch.Proofs.Document.Frame
import DocBatch.Proofs.Document.Patch
import DocBatch.Proofs.Process.Exec
import DocBatch.Proofs.Engine.Assembly
import DocBatch.Proofs.Engine.AssemblerRuns
import DocBatch.Proofs.Engine.Answers
import DocBatch.Proofs.Engine.Timing
import DocBatch.Proofs.Store.ContentAddressed
import DocBatch.Proofs.Engine.Modes
import DocBatch.Proofs.Engine.Signal
import DocBatch.Proofs.Engine.HostRuns
import DocBatch.Proofs.Process.Segment
import DocBatch.Proofs.Process.Channel
import DocBatch.Proofs.Engine.Footprint
import DocBatch.Proofs.Engine.Fleet
import DocBatch.Proofs.Field.Replay
import DocBatch.Proofs.Queue.Answering
import DocBatch.Proofs.Engine.Logging
import DocBatch.Proofs.Text.RoundTrip
import DocBatch.Proofs.Json.Text
import DocBatch.Proofs.Json.Reads
import DocBatch.Proofs.Text.Canonical
import DocBatch.Proofs.Field.Values
import DocBatch.Proofs.Engine.Cursor
import DocBatch.Proofs.Json.Numbers
import DocBatch.Proofs.Json.Refuses
import DocBatch.Proofs.Document.Wire
import DocBatch.Proofs.Json.Yields
import DocBatch.Proofs.Engine.Verdicts
import DocBatch.Proofs.Process.Termination
import DocBatch.Proofs.Engine.Bounded
import DocBatch.Proofs.Worker.WordCount
import DocBatch.Proofs.Config.Layers
import DocBatch.Proofs.Queue.Polling
import DocBatch.Proofs.Queue.Redelivery
import DocBatch.Proofs.Queue.Envelopes
