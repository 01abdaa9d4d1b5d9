import Folio.Body.Block
import Folio.Body.Evaluation
import Folio.Body.Execution
import Folio.Body.Scan
import Folio.Body.Scope
import Folio.Body.Tag
import Folio.Command.Basic
import Folio.Command.Builtin
import Folio.CommandLine.Help
import Folio.CommandLine.Order
import Folio.CommandLine.Program
import Folio.CommandLine.Switch
import Folio.Decimal.Binary64
import Folio.Decimal.Shortest
import Folio.Decimal.Writing
import Folio.Engine.Basic
import Folio.Engine.Finder
import Folio.Engine.Listeners
import Folio.Engine.Settings
import Folio.Error
import Folio.Expr.Basic
import Folio.Expr.Reader
import Folio.Files.Disk
import Folio.Files.Path
import Folio.Json.Number
import Folio.Json.Reader
import Folio.Json.Writer
import Folio.Main
import Folio.Page.Alias
import Folio.Page.Args
import Folio.Page.Basic
import Folio.Page.Call
import Folio.Page.Host
import Folio.Page.Operation
import Folio.Page.Render
import Folio.Rehearsal
import Folio.Run
import Folio.Section
import Folio.Text.Blank
import Folio.Text.Case
import Folio.Text.CaseRuns
import Folio.Text.CasedRanges
import Folio.Text.Digits
import Folio.Text.HiddenRanges
import Folio.Text.Inspect
import Folio.Text.Letter
import Folio.Text.LetterRanges
import Folio.Text.Markup
import Folio.Text.Ranges
import Folio.Text.Reading
import Folio.Text.Split
import Folio.Toml.Gap
import Folio.Toml.Moment
import Folio.Toml.Numeral
import Folio.Toml.Quoted
import Folio.Toml.Reader
import Folio.Toml.Table
import Folio.Value.Basic
import Folio.Value.Path
import Folio.Value.Text
import Folio.Proofs.Body.Nesting
import Folio.Proofs.Body.Rescan
import Folio.Proofs.Body.Tree
import Folio.Proofs.Body.Bond
import Folio.Proofs.Page.Aliases
import Folio.Proofs.Page.Bond
import Folio.Proofs.Engine.Steps
import Folio.Engine.Request
import Folio.Proofs.Engine.Sections
import Folio.Proofs.Engine.History
import Folio.Proofs.Page.Protocol
import Folio.Proofs.Page.Speech
import Folio.Proofs.Engine.Protocol
import Folio.Proofs.Engine.Jobs
import Folio.Proofs.Engine.Termination
import Folio.Proofs.Body.Backslashes
import Folio.Proofs.Body.Trace
import Folio.Proofs.Page.Layout
import Folio.Proofs.Page.Buffer
import Folio.Proofs.Engine.Layouts
import Folio.Proofs.Engine.Calls
import Folio.Proofs.Engine.Levels
import Folio.Proofs.Body.Positions
import Folio.Proofs.Body.Escaping
import Folio.Proofs.Body.Report
import Folio.Proofs.Body.Lines
import Folio.Proofs.Engine.Failures
import Folio.Proofs.Engine.Limits
import Folio.Proofs.Engine.Strictness
import Folio.Proofs.Engine.Contents
import Folio.Proofs.Expr.Writing
import Folio.Proofs.Expr.Numerals
import Folio.Proofs.Expr.Delimiters
import Folio.Proofs.Expr.Reading
import Folio.Proofs.Expr.RoundTrip
import Folio.Proofs.Expr.Printing
import Folio.Proofs.Body.Expressions
import Folio.Proofs.Body.Seam
import Folio.Proofs.Page.Life
import Folio.Proofs.Page.Lookup
import Folio.Proofs.Engine.Climbing
import Folio.Proofs.Body.Balance
import Folio.Proofs.Body.Bytes
import Folio.Proofs.Body.Slices
import Folio.Proofs.Page.Environment
import Folio.Proofs.Files.Segments
import Folio.Proofs.Engine.Search
import Folio.Proofs.Page.Pipeline
import Folio.Proofs.Body.Visits
import Folio.Proofs.Engine.Partials
import Folio.Proofs.Page.Arguments
import Folio.Proofs.Expr.Paths
import Folio.Proofs.Decimal.Rounding
import Folio.Proofs.Expr.Numbers
import Folio.Proofs.Body.Numbers
import Folio.Proofs.Body.Cuts
import Folio.Proofs.Body.BlockEnds
import Folio.Proofs.Body.Advance
import Folio.Proofs.Page.Variables
