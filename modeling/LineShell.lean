import LineShell.Builtin
import LineShell.Builtin.Probe
import LineShell.Builtin.Standard
import LineShell.Command
import LineShell.Diagnostic
import LineShell.Environment
import LineShell.FileTree
import LineShell.FileTree.Output
import LineShell.FileTree.Walk
import LineShell.Input
import LineShell.Invocation
import LineShell.IoError
import LineShell.Line
import LineShell.LineSource
import LineShell.Log
import LineShell.Log.Directive
import LineShell.Log.Level
import LineShell.Log.Pattern
import LineShell.Loop
import LineShell.Options
import LineShell.Outcome
import LineShell.Path
import LineShell.Program
import LineShell.Program.Load
import LineShell.Program.Probe
import LineShell.Program.Script
import LineShell.Session
import LineShell.Shell
import LineShell.Stream
import LineShell.Terminal
import LineShell.Text
import LineShell.Text.Alphanumeric
import LineShell.Text.Cluster
import LineShell.Text.ClusterRanges
import LineShell.Token
import LineShell.Utf8
import LineShell.Main
import LineShell.Proofs.Command.Parts
import LineShell.Proofs.Session.Diagnostics
import LineShell.Proofs.Builtin.Results
import LineShell.Proofs.FileTree.Change
import LineShell.Proofs.Shell.Course
import LineShell.Proofs.Shell.Status
import LineShell.Proofs.Shell.StatusTable
import LineShell.Proofs.Session.Frame
import LineShell.Proofs.Shell.Frame
import LineShell.Proofs.Environment.Search
import LineShell.Proofs.FileTree.Ways
import LineShell.Proofs.Session.Steps
import LineShell.Proofs.Session.Faults
import LineShell.Proofs.Session.Streams
import LineShell.Proofs.Shell.Type
import LineShell.Proofs.Shell.Execute
import LineShell.Proofs.Shell.Redirection
import LineShell.Proofs.Line.Lines
import LineShell.Proofs.Line.Source
import LineShell.Proofs.Loop.Fold
import LineShell.Proofs.Loop.Rounds
import LineShell.Proofs.Loop.ReadAhead
import LineShell.Proofs.Loop.Delivery
import LineShell.Proofs.Session.Work
import LineShell.Proofs.Shell.InStep
import LineShell.Proofs.Shell.Reporting
import LineShell.Proofs.Shell.Capacity
import LineShell.Proofs.Shell.Resolution
import LineShell.Proofs.Shell.Variables
import LineShell.Proofs.Token.Boundary
import LineShell.Proofs.Command.Runs
import LineShell.Proofs.Environment.FirstMatch
import LineShell.Proofs.Path.Pieces
import LineShell.Proofs.Environment.AsGiven
import LineShell.Proofs.FileTree.Strides
import LineShell.Proofs.FileTree.Directories
import LineShell.Proofs.Environment.Tilde
import LineShell.Proofs.Shell.RoundTrip
import LineShell.Proofs.Shell.ExitNumber
import LineShell.Proofs.Utf8.Encoding
import LineShell.Proofs.Line.Decoded
import LineShell.Proofs.IoError.Reason
import LineShell.Proofs.Shell.Failures
import LineShell.Proofs.Shell.Journal
