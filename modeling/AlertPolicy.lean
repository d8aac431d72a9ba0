import AlertPolicy.Text.Blank
import AlertPolicy.Text.Bytes
import AlertPolicy.Text.CharName
import AlertPolicy.Text.Letter
import AlertPolicy.Text.UpperCase
import AlertPolicy.Number.Decimal
import AlertPolicy.Time.Duration
import AlertPolicy.Time.Instant
import AlertPolicy.Sample.Label
import AlertPolicy.Evaluation
import AlertPolicy.Store.Key
import AlertPolicy.Store.Memory
import AlertPolicy.Policy.Check
import AlertPolicy.Policy.Validation
import AlertPolicy.Yaml.Event
import AlertPolicy.Yaml.Node
import AlertPolicy.Yaml.Tree
import AlertPolicy.Yaml.Library
import AlertPolicy.Policy.Loading
import AlertPolicy.Policy.Writing
import AlertPolicy.Schedule
import AlertPolicy.Engine.State
import AlertPolicy.Report
import AlertPolicy.Engine.Supervision
import AlertPolicy.Shutdown
import AlertPolicy.Shutdown.Handle
import AlertPolicy.Settings
import AlertPolicy.Store.Server
import AlertPolicy.EnvironmentFile
import AlertPolicy.CommandLine
import AlertPolicy.Main
import AlertPolicy.Proofs.Expr.Attempt
import AlertPolicy.Proofs.Expr.Spelling
import AlertPolicy.Proofs.Expr.Symbols
import AlertPolicy.Proofs.Expr.Conditions
import AlertPolicy.Proofs.Expr.Acceptance
import AlertPolicy.Proofs.Schedule.Lookup
import AlertPolicy.Proofs.Schedule.Order
import AlertPolicy.Proofs.Engine.Outcome
import AlertPolicy.Proofs.Engine.Tick
import AlertPolicy.Proofs.Policy.Check
import AlertPolicy.Proofs.Engine.History
import AlertPolicy.Proofs.Engine.Independence
import AlertPolicy.Proofs.Engine.Intervals
import AlertPolicy.Proofs.Policy.Findings
import AlertPolicy.Proofs.Engine.Prediction
import AlertPolicy.Proofs.Policy.Blame
import AlertPolicy.Proofs.Engine.Reload
import AlertPolicy.Proofs.Engine.Work
import AlertPolicy.Proofs.Engine.Rounds
import AlertPolicy.Proofs.Engine.Stopping
import AlertPolicy.Proofs.Engine.Spacing
import AlertPolicy.Proofs.Expr.Longest
import AlertPolicy.Proofs.Expr.Stuck
import AlertPolicy.Proofs.Engine.Retry
import AlertPolicy.Engine.Interleaving
import AlertPolicy.Proofs.Engine.Signals
import AlertPolicy.Proofs.Engine.Course
import AlertPolicy.Proofs.Engine.Interleaving
import AlertPolicy.Proofs.Engine.Reporting
import AlertPolicy.Proofs.Expr.Nesting
import AlertPolicy.Proofs.Expr.Printing
import AlertPolicy.Proofs.Expr.Assembly
import AlertPolicy.Proofs.Time.Duration
import AlertPolicy.Proofs.Evaluation.Operators
import AlertPolicy.Proofs.Schedule.Enumeration
import AlertPolicy.Proofs.Policy.Suggestions
import AlertPolicy.Proofs.Policy.RoundTrip
import AlertPolicy.Proofs.Store.Reference
import AlertPolicy.Proofs.Store.Pattern
import AlertPolicy.Proofs.Store.Fetch
import AlertPolicy.Proofs.Store.Window
import AlertPolicy.Proofs.Store.Connection
import AlertPolicy.Proofs.Settings.Overlay
import AlertPolicy.Proofs.Settings.Secrecy
import AlertPolicy.Proofs.Shutdown.Sharing
