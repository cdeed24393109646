import TestBench.Assertion
import TestBench.CommandLine.Command
import TestBench.CommandLine.Ending
import TestBench.CommandLine.Options
import TestBench.CommandLine.Program
import TestBench.CommandLine.Project
import TestBench.CommandLine.Running
import TestBench.Config.Basic
import TestBench.Config.Complaint
import TestBench.Config.Load
import TestBench.Config.Report
import TestBench.Double.Basic
import TestBench.Double.Fixed
import TestBench.Double.Reading
import TestBench.Double.Shortest
import TestBench.Environment
import TestBench.Event
import TestBench.Execution
import TestBench.Expansion.Basic
import TestBench.Expansion.Slice
import TestBench.Expansion.Template
import TestBench.Fault.Argument
import TestBench.Fault.Basic
import TestBench.Fault.Kind
import TestBench.Fault.Text
import TestBench.FileTree
import TestBench.Hook
import TestBench.Host
import TestBench.Import
import TestBench.Logger.Basic
import TestBench.Logger.SetUp
import TestBench.Main
import TestBench.Module
import TestBench.Path
import TestBench.Run
import TestBench.Script
import TestBench.Session
import TestBench.Step
import TestBench.Target
import TestBench.Text.Alphanumeric
import TestBench.Text.Base64
import TestBench.Text.Blank
import TestBench.Text.ControlSequence
import TestBench.Text.DecimalDigit
import TestBench.Text.Integer
import TestBench.Text.Lowercase
import TestBench.Text.Pieces
import TestBench.Text.Printable
import TestBench.Text.Quoted
import TestBench.Text.Ranges
import TestBench.Text.Utf8
import TestBench.Trial
import TestBench.Value.Basic
import TestBench.Value.Calendar
import TestBench.Value.Equality
import TestBench.Value.Given
import TestBench.Value.Rendering
import TestBench.Yaml.BlockScalar
import TestBench.Yaml.Cell
import TestBench.Yaml.Cursor
import TestBench.Yaml.Event
import TestBench.Yaml.Lexer
import TestBench.Yaml.Merge
import TestBench.Yaml.Node
import TestBench.Yaml.Number
import TestBench.Yaml.Plain
import TestBench.Yaml.QuotedScalar
import TestBench.Yaml.Source
import TestBench.Yaml.Tag
import TestBench.Yaml.Timestamp
import TestBench.Yaml.Token
import TestBench.Proofs.Assertion
import TestBench.Proofs.Steps
import TestBench.Proofs.Verdict
import TestBench.Proofs.Trace
import TestBench.Proofs.Completion
import TestBench.Proofs.Toggle
import TestBench.Proofs.CommandLine.Status
import TestBench.Proofs.Output
import TestBench.Proofs.ControlSequence
import TestBench.Proofs.HostErrors
import TestBench.Proofs.Operations
import TestBench.Proofs.Pass
import TestBench.Proofs.Terminal
import TestBench.Proofs.Accounts
import TestBench.Proofs.Simulation
import TestBench.Proofs.Isolation
import TestBench.Proofs.Blanked
import TestBench.Proofs.Silence
import TestBench.Proofs.CommandLine.Silence
import TestBench.Proofs.FileTree
import TestBench.Proofs.Logger
import TestBench.Proofs.Config.Judge
import TestBench.Proofs.CommandLine.Refusal
import TestBench.Proofs.Journal
import TestBench.Proofs.CommandLine.Verbose
import TestBench.Proofs.CommandLine.Arguments
import TestBench.Proofs.SearchPath
import TestBench.Proofs.Stages
import TestBench.Proofs.Value.Asking
import TestBench.Proofs.AllOrNothing
import TestBench.Proofs.Value.Matching
import TestBench.Proofs.Value.Number
import TestBench.Proofs.Value.Equality
import TestBench.Proofs.Equivalence
import TestBench.Proofs.Quoted
import TestBench.Proofs.Value.Legible
import TestBench.Proofs.Sides
import TestBench.Proofs.Characters
import TestBench.Proofs.Config.Paths
import TestBench.Proofs.Expanding
import TestBench.Proofs.Config.Threading
import TestBench.Proofs.Grammar
import TestBench.Proofs.Import.Once
import TestBench.Proofs.Repetition
import TestBench.Proofs.Ways
import TestBench.Proofs.CommandLine.Project
import TestBench.Proofs.CommandLine.Project
