import LatencySweep.Cdf.Basic
import LatencySweep.Cdf.Error
import LatencySweep.Cdf.File
import LatencySweep.Cdf.Summary
import LatencySweep.CommandLine.Failure
import LatencySweep.CommandLine.Options
import LatencySweep.CommandLine.Plot
import LatencySweep.CommandLine.Programs
import LatencySweep.CommandLine.Sweep
import LatencySweep.Host.FileTree
import LatencySweep.Host.Housekeeping
import LatencySweep.Host.Invocation
import LatencySweep.Host.Machine
import LatencySweep.Host.OsError
import LatencySweep.Host.Path
import LatencySweep.Host.Program
import LatencySweep.Host.Program.CharClass
import LatencySweep.Host.Program.Columns
import LatencySweep.Host.Program.Compare
import LatencySweep.Host.Program.Condition
import LatencySweep.Host.Program.Escape
import LatencySweep.Host.Program.Exchange
import LatencySweep.Host.Program.Files
import LatencySweep.Host.Program.Format
import LatencySweep.Host.Program.Lines
import LatencySweep.Host.Program.Options
import LatencySweep.Host.Program.Output
import LatencySweep.Host.Program.Regex.Basic
import LatencySweep.Host.Program.Regex.Reader
import LatencySweep.Host.Program.Search
import LatencySweep.Host.Program.Sort
import LatencySweep.Host.Script
import LatencySweep.Host.Search
import LatencySweep.Host.Shell.Arithmetic
import LatencySweep.Host.Shell.Builtin.Basic
import LatencySweep.Host.Shell.Builtin.Process
import LatencySweep.Host.Shell.Builtin.Variables
import LatencySweep.Host.Shell.Builtin.Words
import LatencySweep.Host.Shell.Command
import LatencySweep.Host.Shell.Cursor
import LatencySweep.Host.Shell.Expansion
import LatencySweep.Host.Shell.Field
import LatencySweep.Host.Shell.Glob
import LatencySweep.Host.Shell.Launch
import LatencySweep.Host.Shell.Program
import LatencySweep.Host.Shell.Reader
import LatencySweep.Host.Shell.Redirection
import LatencySweep.Host.Shell.Run
import LatencySweep.Host.Shell.Signal
import LatencySweep.Host.Shell.State
import LatencySweep.Host.Shell.Token
import LatencySweep.Host.Shell.WordReader
import LatencySweep.Host.System
import LatencySweep.Host.World
import LatencySweep.Json.Basic
import LatencySweep.Json.Decode
import LatencySweep.Json.Draft
import LatencySweep.Json.Fault
import LatencySweep.Json.Fields
import LatencySweep.Json.Numeral
import LatencySweep.Json.Printer
import LatencySweep.Json.Reader
import LatencySweep.Json.StringLiteral
import LatencySweep.Main
import LatencySweep.Number.Binary64
import LatencySweep.Number.Decimal
import LatencySweep.Number.Digits
import LatencySweep.Number.Duration
import LatencySweep.Number.Notation
import LatencySweep.Number.Power
import LatencySweep.Number.Radix
import LatencySweep.Number.Rounding
import LatencySweep.Number.Shortest
import LatencySweep.Number.Text
import LatencySweep.Proofs.Cdf.Defects
import LatencySweep.Proofs.Cdf.Distribution
import LatencySweep.Proofs.Cdf.File
import LatencySweep.Proofs.Cdf.Form
import LatencySweep.Proofs.Cdf.Reading
import LatencySweep.Proofs.Cdf.RoundTrip
import LatencySweep.Proofs.Cdf.Samples
import LatencySweep.Proofs.CommandLine.Printing
import LatencySweep.Proofs.FileTree.Agree
import LatencySweep.Proofs.FileTree.Children
import LatencySweep.Proofs.FileTree.Create
import LatencySweep.Proofs.FileTree.Locate
import LatencySweep.Proofs.FileTree.Walk
import LatencySweep.Proofs.FileTree.Write
import LatencySweep.Proofs.Grid.Product
import LatencySweep.Proofs.Grid.Tuples
import LatencySweep.Proofs.Host.CommandText
import LatencySweep.Proofs.Isolation.Forecast
import LatencySweep.Proofs.Isolation.Foresight
import LatencySweep.Proofs.Isolation.Independence
import LatencySweep.Proofs.Isolation.Places
import LatencySweep.Proofs.Isolation.Starts
import LatencySweep.Proofs.Json.Acceptance
import LatencySweep.Proofs.Json.Grammar
import LatencySweep.Proofs.Json.Nulls
import LatencySweep.Proofs.Json.Numerals
import LatencySweep.Proofs.Json.Opening
import LatencySweep.Proofs.Json.Reading
import LatencySweep.Proofs.Json.Records
import LatencySweep.Proofs.Json.Strings
import LatencySweep.Proofs.Json.Tellings
import LatencySweep.Proofs.Number.Decimal
import LatencySweep.Proofs.Number.Digits
import LatencySweep.Proofs.Number.Literals
import LatencySweep.Proofs.Number.Nearest
import LatencySweep.Proofs.Number.Range
import LatencySweep.Proofs.Number.Shortest
import LatencySweep.Proofs.Number.Text
import LatencySweep.Proofs.Number.Value
import LatencySweep.Proofs.Path.Alike
import LatencySweep.Proofs.Path.Components
import LatencySweep.Proofs.Path.Files
import LatencySweep.Proofs.Path.Join
import LatencySweep.Proofs.Path.Parent
import LatencySweep.Proofs.Path.Steps
import LatencySweep.Proofs.Pool.Abort
import LatencySweep.Proofs.Pool.Alone
import LatencySweep.Proofs.Pool.Deeds
import LatencySweep.Proofs.Pool.Delivery
import LatencySweep.Proofs.Pool.DryRun
import LatencySweep.Proofs.Pool.Errands
import LatencySweep.Proofs.Pool.Events
import LatencySweep.Proofs.Pool.Fate
import LatencySweep.Proofs.Pool.FirstFailure
import LatencySweep.Proofs.Pool.FreshDirectories
import LatencySweep.Proofs.Pool.InOrder
import LatencySweep.Proofs.Pool.LateChecks
import LatencySweep.Proofs.Pool.Life
import LatencySweep.Proofs.Pool.Lockstep
import LatencySweep.Proofs.Pool.Progress
import LatencySweep.Proofs.Pool.Stages
import LatencySweep.Proofs.Pool.Starting
import LatencySweep.Proofs.Pool.Timeline
import LatencySweep.Proofs.Report.Ending
import LatencySweep.Proofs.Report.Files
import LatencySweep.Proofs.Report.Meaning
import LatencySweep.Proofs.Report.Paths
import LatencySweep.Proofs.Report.Range
import LatencySweep.Proofs.Report.Rejection
import LatencySweep.Proofs.Report.Reordering
import LatencySweep.Proofs.Report.Separation
import LatencySweep.Proofs.Report.Survey
import LatencySweep.Proofs.Summary.Clean
import LatencySweep.Proofs.Summary.Status
import LatencySweep.Proofs.Sweep.AxisDefects
import LatencySweep.Proofs.Sweep.Codec
import LatencySweep.Proofs.Sweep.Combinations
import LatencySweep.Proofs.Sweep.Defects
import LatencySweep.Proofs.Sweep.Directories
import LatencySweep.Proofs.Sweep.FlagBindings
import LatencySweep.Proofs.Sweep.Lookalikes
import LatencySweep.Proofs.Sweep.Narrowing
import LatencySweep.Proofs.Sweep.OutputPaths
import LatencySweep.Proofs.Sweep.RootEntries
import LatencySweep.Proofs.Sweep.RoundTrip
import LatencySweep.Proofs.Sweep.ScenarioArgument
import LatencySweep.Proofs.Sweep.TupleRun
import LatencySweep.Proofs.Sweep.Validity
import LatencySweep.Proofs.Sweep.Variants
import LatencySweep.Proofs.Text.Lines
import LatencySweep.Proofs.Text.Pieces
import LatencySweep.Proofs.Text.Table
import LatencySweep.Proofs.Text.Words
import LatencySweep.Proofs.Trace.Cohorts
import LatencySweep.Proofs.Trace.Lines
import LatencySweep.Proofs.Trace.Numbering
import LatencySweep.Proofs.Trace.RowGrammar
import LatencySweep.Report.Figure
import LatencySweep.Report.Paths
import LatencySweep.Report.Plot
import LatencySweep.Sweep.Analysis
import LatencySweep.Sweep.Axis
import LatencySweep.Sweep.Basic
import LatencySweep.Sweep.Dispatch
import LatencySweep.Sweep.File
import LatencySweep.Sweep.Format
import LatencySweep.Sweep.Grid
import LatencySweep.Sweep.Pool
import LatencySweep.Sweep.Report
import LatencySweep.Sweep.Run
import LatencySweep.Sweep.Validation
import LatencySweep.Text.Blank
import LatencySweep.Text.Columns
import LatencySweep.Text.Lines
import LatencySweep.Text.Printable
import LatencySweep.Text.Quoted
import LatencySweep.Text.Raw
import LatencySweep.Text.Table
import LatencySweep.Text.Utf8
import LatencySweep.Trace.Cohort
import LatencySweep.Trace.Line
import LatencySweep.Trace.Load
import LatencySweep.Trace.Record
