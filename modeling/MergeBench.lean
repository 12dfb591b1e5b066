import MergeBench.BuildContext
import MergeBench.Calendar
import MergeBench.Command
import MergeBench.CommandLine.Arguments
import MergeBench.CommandLine.Dispatch
import MergeBench.CommandLine.Help
import MergeBench.Diagnostics
import MergeBench.Dotenv
import MergeBench.Duration
import MergeBench.Environment
import MergeBench.Fault
import MergeBench.FileSystem.Basic
import MergeBench.FileSystem.Change
import MergeBench.FileSystem.Walk
import MergeBench.Json.Printer
import MergeBench.Json.Reader
import MergeBench.JsonFile
import MergeBench.Machine
import MergeBench.Main
import MergeBench.Number.Binary64
import MergeBench.Number.Decimal
import MergeBench.Number.Integer
import MergeBench.Number.Placement
import MergeBench.Number.Shortest
import MergeBench.Path
import MergeBench.Plan
import MergeBench.Process
import MergeBench.Proofs.Activity
import MergeBench.Proofs.BuildContext
import MergeBench.Proofs.Command
import MergeBench.Proofs.Command.Output
import MergeBench.Proofs.Command.Status
import MergeBench.Proofs.Dotenv
import MergeBench.Proofs.Environment
import MergeBench.Proofs.EnvironmentFile
import MergeBench.Proofs.EnvironmentFile.Additions
import MergeBench.Proofs.EnvironmentFile.Reloading
import MergeBench.Proofs.Failure
import MergeBench.Proofs.FileSystem.Alike
import MergeBench.Proofs.FileSystem.Growth
import MergeBench.Proofs.FileSystem.Straight
import MergeBench.Proofs.FileSystem.Touch
import MergeBench.Proofs.FileSystem.Walk
import MergeBench.Proofs.Json.RoundTrip
import MergeBench.Proofs.Json.Scalar
import MergeBench.Proofs.JsonFile
import MergeBench.Proofs.JsonFile.Atomicity
import MergeBench.Proofs.Number.Integer
import MergeBench.Proofs.Path
import MergeBench.Proofs.Plan
import MergeBench.Proofs.PushBuild
import MergeBench.Proofs.Receipt.Deposit
import MergeBench.Proofs.Receipt.Report
import MergeBench.Proofs.Refusal
import MergeBench.Proofs.Repository
import MergeBench.Proofs.Run.Artifact
import MergeBench.Proofs.Run.DryRun
import MergeBench.Proofs.Run.FailFast
import MergeBench.Proofs.Run.Footprint
import MergeBench.Proofs.Run.Launching
import MergeBench.Proofs.Run.MergeOrder
import MergeBench.Proofs.Run.Output
import MergeBench.Proofs.Run.Passage
import MergeBench.Proofs.Run.Recomparison
import MergeBench.Proofs.Run.Replay
import MergeBench.Proofs.Run.Separation
import MergeBench.Proofs.Run.Supervision
import MergeBench.Proofs.Run.Trail
import MergeBench.Proofs.SameWith
import MergeBench.Proofs.Settings.Anchoring
import MergeBench.Proofs.Settings.Checks
import MergeBench.Proofs.Settings.Loading
import MergeBench.Proofs.Settings.PlainEntry
import MergeBench.Proofs.Settings.Precedence
import MergeBench.Proofs.ShellWords
import MergeBench.Proofs.Startup
import MergeBench.Proofs.Steady
import MergeBench.Proofs.Text.Utf8
import MergeBench.Proofs.Touching
import MergeBench.Proofs.Yaml.Entry
import MergeBench.Proofs.Yaml.Integer
import MergeBench.Proofs.Yaml.PlainLine
import MergeBench.Receipt
import MergeBench.Repository
import MergeBench.Run
import MergeBench.Settings.Basic
import MergeBench.Settings.Layers
import MergeBench.Settings.Load
import MergeBench.Shell.Arithmetic
import MergeBench.Shell.Child
import MergeBench.Shell.Condition
import MergeBench.Shell.Escape
import MergeBench.Shell.Field
import MergeBench.Shell.Format
import MergeBench.Shell.Interpreter
import MergeBench.Shell.Launch
import MergeBench.Shell.Mode
import MergeBench.Shell.OwnCommand
import MergeBench.Shell.Parser
import MergeBench.Shell.Pattern
import MergeBench.Shell.Program
import MergeBench.Shell.ReadLine
import MergeBench.Shell.Reader
import MergeBench.Shell.Redirection
import MergeBench.Shell.Regular
import MergeBench.Shell.Script
import MergeBench.Shell.Search
import MergeBench.Shell.Signal
import MergeBench.Shell.State
import MergeBench.Shell.Surroundings
import MergeBench.Shell.Tool
import MergeBench.Shell.ToolOption
import MergeBench.ShellWords
import MergeBench.Startup
import MergeBench.Step
import MergeBench.Text.Base64
import MergeBench.Text.Blank
import MergeBench.Text.CodePoint
import MergeBench.Text.Digit
import MergeBench.Text.LetterCase
import MergeBench.Text.Printable
import MergeBench.Text.Quoted
import MergeBench.Text.Utf8
import MergeBench.Text.Wrapped
import MergeBench.Value
import MergeBench.Yaml.Cursor
import MergeBench.Yaml.Data
import MergeBench.Yaml.Lexer
import MergeBench.Yaml.Node
import MergeBench.Yaml.Scalar
import MergeBench.Yaml.Tag
import MergeBench.Yaml.Timestamp
import MergeBench.Yaml.Token
