import FlowVerdict.Console.Arguments
import FlowVerdict.Console.Commands
import FlowVerdict.Console.Enclosed
import FlowVerdict.Console.Report
import FlowVerdict.Datum
import FlowVerdict.Datum.Record
import FlowVerdict.Decimal.Nearest
import FlowVerdict.Decimal.Notation
import FlowVerdict.Decimal.Shortest
import FlowVerdict.Files.Directory
import FlowVerdict.Files.Error
import FlowVerdict.Files.Path
import FlowVerdict.Flow.Holders
import FlowVerdict.Flow.State
import FlowVerdict.Flow.Table
import FlowVerdict.Json
import FlowVerdict.Json.Number
import FlowVerdict.Json.Reader
import FlowVerdict.Json.Writer
import FlowVerdict.Main
import FlowVerdict.Monitor.Assembly
import FlowVerdict.Monitor.Basic
import FlowVerdict.Monitor.Judgement
import FlowVerdict.Monitor.Run
import FlowVerdict.Net.Address
import FlowVerdict.Net.AddressText
import FlowVerdict.Net.Endpoint
import FlowVerdict.Net.FlowId
import FlowVerdict.Net.Transport
import FlowVerdict.Packet
import FlowVerdict.Payload.Fingerprint
import FlowVerdict.Payload.Statistics
import FlowVerdict.Policy.Ports
import FlowVerdict.Policy.Rules
import FlowVerdict.Proofs.Computation
import FlowVerdict.Proofs.Console.Replay
import FlowVerdict.Proofs.Files.Directory
import FlowVerdict.Proofs.Flow.Holders
import FlowVerdict.Proofs.Flow.Settling
import FlowVerdict.Proofs.Flow.Table
import FlowVerdict.Proofs.Json.Documents
import FlowVerdict.Proofs.Json.Reader
import FlowVerdict.Proofs.Json.Writer
import FlowVerdict.Proofs.Monitor.Acceptance
import FlowVerdict.Proofs.Monitor.Assembly
import FlowVerdict.Proofs.Monitor.Budget
import FlowVerdict.Proofs.Monitor.ClosedForm
import FlowVerdict.Proofs.Monitor.Conservation
import FlowVerdict.Proofs.Monitor.Evidence
import FlowVerdict.Proofs.Monitor.Holding
import FlowVerdict.Proofs.Monitor.Interleaving
import FlowVerdict.Proofs.Monitor.Isolation
import FlowVerdict.Proofs.Monitor.Lifecycle
import FlowVerdict.Proofs.Monitor.Mapping
import FlowVerdict.Proofs.Monitor.Memoryless
import FlowVerdict.Proofs.Monitor.Mirror
import FlowVerdict.Proofs.Monitor.Permanence
import FlowVerdict.Proofs.Monitor.Ports
import FlowVerdict.Proofs.Monitor.Questions
import FlowVerdict.Proofs.Monitor.Recording
import FlowVerdict.Proofs.Monitor.Release
import FlowVerdict.Proofs.Monitor.Shuffle
import FlowVerdict.Proofs.Monitor.Simulation
import FlowVerdict.Proofs.Monitor.Startup
import FlowVerdict.Proofs.Monitor.Stay
import FlowVerdict.Proofs.Monitor.Step
import FlowVerdict.Proofs.Monitor.Sweeping
import FlowVerdict.Proofs.Monitor.Timing
import FlowVerdict.Proofs.Monitor.Tracking
import FlowVerdict.Proofs.Net.AddressText
import FlowVerdict.Proofs.Net.Endpoint
import FlowVerdict.Proofs.Net.FlowId
import FlowVerdict.Proofs.Net.Printed
import FlowVerdict.Proofs.Net.Sides
import FlowVerdict.Proofs.Payload.Fingerprint
import FlowVerdict.Proofs.Payload.Runs
import FlowVerdict.Proofs.Payload.Statistics
import FlowVerdict.Proofs.Policy.Ports
import FlowVerdict.Proofs.Policy.Rules
import FlowVerdict.Proofs.Scoring.Calls
import FlowVerdict.Proofs.Scoring.Stock
import FlowVerdict.Proofs.Text.Blank
import FlowVerdict.Proofs.Text.Encoding
import FlowVerdict.Proofs.Text.Hex
import FlowVerdict.Proofs.Text.Numeral
import FlowVerdict.Proofs.Text.Split
import FlowVerdict.Proofs.Trace.Names
import FlowVerdict.Proofs.Trace.Record
import FlowVerdict.Proofs.Trace.Replay
import FlowVerdict.Proofs.Window.Flatten
import FlowVerdict.Scoring.Crew
import FlowVerdict.Scoring.Library
import FlowVerdict.Scoring.Linear
import FlowVerdict.Scoring.Pool
import FlowVerdict.Scoring.Scorer
import FlowVerdict.Scoring.Script
import FlowVerdict.Settings.Basic
import FlowVerdict.Settings.Check
import FlowVerdict.Settings.Paths
import FlowVerdict.Settings.Reader
import FlowVerdict.Tally
import FlowVerdict.Text.Blank
import FlowVerdict.Text.Duration
import FlowVerdict.Text.Hex
import FlowVerdict.Text.Numeral
import FlowVerdict.Text.Quoted
import FlowVerdict.Text.Split
import FlowVerdict.Text.Unprintable
import FlowVerdict.Toml.Document
import FlowVerdict.Toml.Moment
import FlowVerdict.Toml.Scalar
import FlowVerdict.Toml.Tree
import FlowVerdict.Trace.Record
import FlowVerdict.Trace.Replay
import FlowVerdict.Verdict
import FlowVerdict.Window.Feature
import FlowVerdict.Window.Window
