import LiveLint.Main
import LiveLint.Simulation.Sessions
import LiveLint.Simulation.Commands
import LiveLint.Proofs.Coordinator.Reentrancy
import LiveLint.Proofs.Session.Lifecycle
import LiveLint.Proofs.Session.Snapshot
import LiveLint.Proofs.Session.Turnover
import LiveLint.Proofs.Desk.InFlight
import LiveLint.Proofs.Desk.Answers
import LiveLint.Proofs.Desk.Snapshot
import LiveLint.Proofs.Desk.Faithful
import LiveLint.Proofs.Provider.Machine
import LiveLint.Proofs.Provider.Lives
import LiveLint.Proofs.Provider.Faithful
import LiveLint.Proofs.Provider.Ledger
import LiveLint.Proofs.Provider.Isolation
import LiveLint.Proofs.Position.Memory
import LiveLint.Proofs.Position.Selection
import LiveLint.Proofs.Json.Composition
import LiveLint.Proofs.Issue.AllOrNothing
import LiveLint.Proofs.Issue.Truncation
import LiveLint.Proofs.Json.RoundTrip
import LiveLint.Proofs.Issue.Serialization
import LiveLint.Proofs.Session.SingleProcess
import LiveLint.Proofs.Session.Cancelation
import LiveLint.Proofs.Session.Delivery
import LiveLint.Proofs.Session.Recorders
import LiveLint.Proofs.Session.Release
import LiveLint.Proofs.Desk.Handles
import LiveLint.Proofs.Desk.SpawnFailures
import LiveLint.Proofs.Provider.TextCheck
import LiveLint.Proofs.Provider.Closing
import LiveLint.Proofs.CommandLine.ExitStatus
import LiveLint.Proofs.Settings.Fields
import LiveLint.Proofs.Settings.Runnable
import LiveLint.Proofs.Layers.Merge
import LiveLint.Proofs.Layers.Paths
import LiveLint.Proofs.Layers.Precedence
import LiveLint.Proofs.Issue.Pipeline
import LiveLint.Proofs.Position.Ranges
import LiveLint.Proofs.Position.Addressing
import LiveLint.Proofs.Position.Partition
import LiveLint.Proofs.Settings.Lossless
import LiveLint.Proofs.Desk.Configured
import LiveLint.Proofs.Provider.Dialect
import LiveLint.Proofs.Settings.Overrides
import LiveLint.Proofs.Settings.Problems
import LiveLint.Proofs.Layers.KeyPaths
import LiveLint.Proofs.Layers.References
import LiveLint.Proofs.Issue.RuleCode
import LiveLint.Proofs.Issue.Excerpts
import LiveLint.Proofs.Session.Executable
import LiveLint.Proofs.CommandLine.Listings
import LiveLint.Proofs.CommandLine.Report
