import StaticPages.Command.Machine
import StaticPages.Main
import StaticPages.Proofs.Document.Block
import StaticPages.Proofs.Filter.Printer
import StaticPages.Proofs.Template.Substitution
import StaticPages.Proofs.Document.Agreement
import StaticPages.Proofs.Filter.Agreement
import StaticPages.Proofs.Template.Agreement
import StaticPages.Proofs.Document.Heading
import StaticPages.Proofs.Positions
import StaticPages.Proofs.Document.LineEnding
import StaticPages.Proofs.Filter.Extension
import StaticPages.Proofs.Template.Extension
import StaticPages.Proofs.Template.Composition
import StaticPages.Proofs.Template.Outcome
import StaticPages.Proofs.Arguments.Flags
import StaticPages.Proofs.Arguments.Spelling
import StaticPages.Proofs.Files.System
import StaticPages.Proofs.Log.Logger
import StaticPages.Proofs.Command.Action
import StaticPages.Proofs.Command.Render
import StaticPages.Proofs.Command.Report
import StaticPages.Proofs.Shift
import StaticPages.Proofs.Template.Printer
import StaticPages.Proofs.Document.Title
import StaticPages.Proofs.Document.Division
import StaticPages.Proofs.Document.Variables
import StaticPages.Proofs.Template.Verbatim
import StaticPages.Proofs.Json.Line
import StaticPages.Proofs.Log.Lines
import StaticPages.Proofs.Command.Log
import StaticPages.Proofs.Document.Order
import StaticPages.Proofs.Filter.Apply
import StaticPages.Proofs.Template.Failure
import StaticPages.Proofs.Numeral
import StaticPages.Proofs.Filter.Rounding
import StaticPages.Proofs.Config.Setting
import StaticPages.Proofs.Files.Path
import StaticPages.Proofs.Command.Load
import StaticPages.Proofs.Command.Outcome
import StaticPages.Proofs.Command.Failure
import StaticPages.Proofs.Command.Project
import StaticPages.Proofs.Command.Simulation
import StaticPages.Proofs.Command.Trace
import StaticPages.Proofs.Positional
import StaticPages.Proofs.Filter.Exact
import StaticPages.Proofs.Log.Accounting
import StaticPages.Proofs.Files.Outside
import StaticPages.Proofs.Log.Outside
import StaticPages.Proofs.Command.Silence
import StaticPages.Proofs.Arguments.Composition
import StaticPages.Proofs.Arguments.Occurrence
import StaticPages.Proofs.Filter.Acceptance
import StaticPages.Proofs.Filter.Concatenation
import StaticPages.Proofs.Text.Words
import StaticPages.Proofs.Text.Conversion
import StaticPages.Proofs.Filter.Replacement
import StaticPages.Proofs.Filter.Grammar
import StaticPages.Proofs.Filter.Range
import StaticPages.Proofs.Template.Definition
import StaticPages.Proofs.Command.Search
import StaticPages.Proofs.Command.Validation
