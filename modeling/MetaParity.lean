import MetaParity.Benchmark
import MetaParity.Command
import MetaParity.Command.Perf
import MetaParity.Command.Verify
import MetaParity.Compare
import MetaParity.Console
import MetaParity.Cursor
import MetaParity.Decimal
import MetaParity.Diff.Shortest
import MetaParity.Diff.Slide
import MetaParity.Diff.Stretch
import MetaParity.Diff.Unified
import MetaParity.Document
import MetaParity.Drive
import MetaParity.Failure
import MetaParity.Files
import MetaParity.Image
import MetaParity.Image.Locate
import MetaParity.Import
import MetaParity.Lister
import MetaParity.Listing
import MetaParity.Main
import MetaParity.Memory.Session
import MetaParity.Model
import MetaParity.Model.Synthetic
import MetaParity.Native.BenchmarkLibrary
import MetaParity.Native.Component
import MetaParity.Native.Factory
import MetaParity.Native.Library
import MetaParity.Native.Script
import MetaParity.Native.Session
import MetaParity.Program
import MetaParity.Proofs.Benchmark
import MetaParity.Proofs.Command
import MetaParity.Proofs.Command.FailFast
import MetaParity.Proofs.Command.Perf
import MetaParity.Proofs.Command.Verify
import MetaParity.Proofs.Compare
import MetaParity.Proofs.Compare.Exactness
import MetaParity.Proofs.Compare.Unified
import MetaParity.Proofs.Correspondence
import MetaParity.Proofs.Diff.Hunks
import MetaParity.Proofs.Diff.Lines
import MetaParity.Proofs.Diff.Script
import MetaParity.Proofs.Draining
import MetaParity.Proofs.Except
import MetaParity.Proofs.Handles
import MetaParity.Proofs.Image.Blueprint
import MetaParity.Proofs.Image.Discovery
import MetaParity.Proofs.Image.Front
import MetaParity.Proofs.Image.Locate
import MetaParity.Proofs.Image.Machine
import MetaParity.Proofs.Image.Signature
import MetaParity.Proofs.Image.Soundness
import MetaParity.Proofs.Image.Stored
import MetaParity.Proofs.Image.Words
import MetaParity.Proofs.Memory.Bookkeeping
import MetaParity.Proofs.Memory.Capacity
import MetaParity.Proofs.Memory.Coherence
import MetaParity.Proofs.Memory.Collect
import MetaParity.Proofs.Memory.Compose
import MetaParity.Proofs.Memory.Draining
import MetaParity.Proofs.Memory.Independence
import MetaParity.Proofs.Memory.Interleaving
import MetaParity.Proofs.Memory.Iterator
import MetaParity.Proofs.Memory.Listing
import MetaParity.Proofs.Memory.Mirror
import MetaParity.Proofs.Memory.Miscount
import MetaParity.Proofs.Memory.Oversized
import MetaParity.Proofs.Memory.Paging
import MetaParity.Proofs.Memory.Parity
import MetaParity.Proofs.Memory.Replay
import MetaParity.Proofs.Memory.Resolution
import MetaParity.Proofs.Memory.Rewind
import MetaParity.Proofs.Memory.Synthetic
import MetaParity.Proofs.Memory.Table
import MetaParity.Proofs.Memory.Verdict
import MetaParity.Proofs.Memory.Visit
import MetaParity.Proofs.Model.Agreement
import MetaParity.Proofs.Model.Allocation
import MetaParity.Proofs.Model.Blobs
import MetaParity.Proofs.Model.Blocks
import MetaParity.Proofs.Model.Items
import MetaParity.Proofs.Model.Listing
import MetaParity.Proofs.Model.Rows
import MetaParity.Proofs.Model.Synthetic
import MetaParity.Proofs.Model.Tokens
import MetaParity.Proofs.Model.Unresolved
import MetaParity.Proofs.Model.WellFormed
import MetaParity.Proofs.Native.Agreement
import MetaParity.Proofs.Native.Passes
import MetaParity.Proofs.Native.Planned
import MetaParity.Proofs.Native.References
import MetaParity.Proofs.Native.Statuses
import MetaParity.Proofs.Presentation
import MetaParity.Proofs.Program
import MetaParity.Proofs.Run.Agreement
import MetaParity.Proofs.Run.Halting
import MetaParity.Proofs.Run.Mirror
import MetaParity.Proofs.Run.Passing
import MetaParity.Proofs.Run.Traced
import MetaParity.Proofs.Settings
import MetaParity.Proofs.Settings.CommandLine
import MetaParity.Proofs.Settings.Layers
import MetaParity.Proofs.Settings.Precedence
import MetaParity.Proofs.Simulation
import MetaParity.Proofs.Spelling
import MetaParity.Proofs.Text.Lowercase
import MetaParity.Proofs.Yields
import MetaParity.Query
import MetaParity.Replay
import MetaParity.Report
import MetaParity.Report.Json
import MetaParity.Report.Text
import MetaParity.Run
import MetaParity.Scenario
import MetaParity.Session
import MetaParity.Settings
import MetaParity.Settings.Arguments
import MetaParity.Settings.Choice
import MetaParity.Settings.CommandLine
import MetaParity.Settings.File
import MetaParity.Settings.Parameter
import MetaParity.Settings.Usage
import MetaParity.Side
import MetaParity.Signature
import MetaParity.Status
import MetaParity.Text.Basic
import MetaParity.Text.Lowercase
import MetaParity.Text.Quoted
import MetaParity.Token
import MetaParity.Toml.Document
import MetaParity.Toml.Moment
import MetaParity.Toml.Number
import MetaParity.Toml.Scalar
import MetaParity.Toml.Table
import MetaParity.Walk
import MetaParity.Workload
