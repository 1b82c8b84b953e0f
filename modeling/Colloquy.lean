import Colloquy.Command.Execution
import Colloquy.Command.Grid
import Colloquy.Command.Invocation
import Colloquy.Command.Program
import Colloquy.Command.Reach
import Colloquy.Command.Usage
import Colloquy.Dictionary
import Colloquy.Disk
import Colloquy.Environment
import Colloquy.Evaluation.Evaluator
import Colloquy.Evaluation.Handler
import Colloquy.Evaluation.Policy
import Colloquy.Evaluation.Reentrant
import Colloquy.Evaluation.Registry
import Colloquy.Evaluation.Standard
import Colloquy.Event
import Colloquy.Failure
import Colloquy.Installation
import Colloquy.Locks
import Colloquy.Logging.Directive
import Colloquy.Logging.Filter
import Colloquy.Logging.Line
import Colloquy.Logging.Setup
import Colloquy.Main
import Colloquy.Moment.Calendar
import Colloquy.Number.Binary64
import Colloquy.Number.Literal
import Colloquy.Path
import Colloquy.Pattern.Basic
import Colloquy.Pattern.CharClass
import Colloquy.Pattern.Reader
import Colloquy.Pattern.Search
import Colloquy.Proofs.Command.Line
import Colloquy.Proofs.Dictionary
import Colloquy.Proofs.Disk
import Colloquy.Proofs.Disk.Alteration
import Colloquy.Proofs.Disk.Content
import Colloquy.Proofs.Disk.Listing
import Colloquy.Proofs.Evaluation.ClosingOrder
import Colloquy.Proofs.Evaluation.Counter
import Colloquy.Proofs.Evaluation.Deeds
import Colloquy.Proofs.Evaluation.Depth
import Colloquy.Proofs.Evaluation.Limit
import Colloquy.Proofs.Evaluation.Machine
import Colloquy.Proofs.Evaluation.OwnWrites
import Colloquy.Proofs.Evaluation.Simulation
import Colloquy.Proofs.Evaluation.Stages
import Colloquy.Proofs.Evaluation.Standard
import Colloquy.Proofs.Evaluation.State
import Colloquy.Proofs.Evaluation.Termination
import Colloquy.Proofs.Evaluation.Transparency
import Colloquy.Proofs.Installation.Composition
import Colloquy.Proofs.Installation.Depth
import Colloquy.Proofs.Installation.Interchange
import Colloquy.Proofs.Installation.Interleaving
import Colloquy.Proofs.Installation.Property
import Colloquy.Proofs.Locks
import Colloquy.Proofs.Locks.Growth
import Colloquy.Proofs.Logging.File
import Colloquy.Proofs.Moment.OneLine
import Colloquy.Proofs.Path
import Colloquy.Proofs.Settings.Layers
import Colloquy.Proofs.Settings.Leaf
import Colloquy.Proofs.Settings.Order
import Colloquy.Proofs.Settings.Override
import Colloquy.Proofs.Settings.Place
import Colloquy.Proofs.Settings.Statement
import Colloquy.Proofs.ShareLog
import Colloquy.Proofs.ShareLog.Document
import Colloquy.Proofs.ShareLog.Foreign
import Colloquy.Proofs.ShareLog.PlainLog
import Colloquy.Proofs.ShareLog.Progress
import Colloquy.Proofs.Store.Census
import Colloquy.Proofs.Store.Footprint
import Colloquy.Proofs.Store.Outlook
import Colloquy.Proofs.Store.Runs
import Colloquy.Proofs.Store.Stored
import Colloquy.Proofs.Store.Unit
import Colloquy.Proofs.Store.UnitPath
import Colloquy.Proofs.Store.UserCount
import Colloquy.Proofs.Template.Attributes
import Colloquy.Proofs.Template.Grammar
import Colloquy.Proofs.Template.Nesting
import Colloquy.Proofs.Template.Reading
import Colloquy.Proofs.Template.Reference
import Colloquy.Proofs.Template.Scanning
import Colloquy.Proofs.Template.Stopping
import Colloquy.Proofs.Template.Writing
import Colloquy.Proofs.Text.Run
import Colloquy.Proofs.Text.Split
import Colloquy.Proofs.Text.Utf16
import Colloquy.Proofs.UnitText.Continuation
import Colloquy.Proofs.UnitText.Escape
import Colloquy.Proofs.UnitText.Layout
import Colloquy.Proofs.UnitText.Line
import Colloquy.Proofs.UnitText.Override
import Colloquy.Proofs.UnitText.RoundTrip
import Colloquy.Scope
import Colloquy.Settings.Decode
import Colloquy.Settings.KeyPath
import Colloquy.Settings.Schema
import Colloquy.Settings.Sources
import Colloquy.Settings.Value
import Colloquy.ShareLog
import Colloquy.Store.Backend
import Colloquy.Store.FlatFile
import Colloquy.Store.Identity
import Colloquy.Template.Lexeme
import Colloquy.Template.Node
import Colloquy.Template.Reader
import Colloquy.Template.Reference
import Colloquy.Text.Alphanumeric
import Colloquy.Text.Blank
import Colloquy.Text.CharRange
import Colloquy.Text.Columns
import Colloquy.Text.Emoji
import Colloquy.Text.Json
import Colloquy.Text.Lowercase
import Colloquy.Text.Printable
import Colloquy.Text.Quoted
import Colloquy.Text.Split
import Colloquy.Text.Utf16
import Colloquy.Text.Utf8
import Colloquy.Text.Wide
import Colloquy.Text.Widthless
import Colloquy.Toml.Datum
import Colloquy.Toml.Document
import Colloquy.Toml.Quoting
import Colloquy.Toml.Scalar
import Colloquy.Toml.Statement
import Colloquy.Toml.Table
import Colloquy.UnitText.Document
import Colloquy.UnitText.Escape
import Colloquy.UnitText.Line
import Colloquy.World
