import CellWalk.Assembly.Form
import CellWalk.Assembly.Label
import CellWalk.Assembly.Lexeme
import CellWalk.Assembly.Listing
import CellWalk.Assembly.Place
import CellWalk.Assembly.Program
import CellWalk.Assembly.Statement
import CellWalk.Bench.Basic
import CellWalk.Bench.Cycling
import CellWalk.Bench.Edit
import CellWalk.Bench.Walk
import CellWalk.Byte
import CellWalk.Code.LevelCode
import CellWalk.Code.Literal
import CellWalk.Code.RunLength
import CellWalk.CommandLine.Assembler
import CellWalk.CommandLine.Game
import CellWalk.CommandLine.Journal
import CellWalk.CommandLine.Number
import CellWalk.CommandLine.Options
import CellWalk.CommandLine.Outcome
import CellWalk.Config
import CellWalk.Direction
import CellWalk.Files.Path
import CellWalk.Files.Tree
import CellWalk.Grid
import CellWalk.History
import CellWalk.Image
import CellWalk.Instruction
import CellWalk.Json.Defect
import CellWalk.Json.Quote
import CellWalk.Json.Value
import CellWalk.Layout
import CellWalk.Level.Basic
import CellWalk.Level.Builtin
import CellWalk.Level.File
import CellWalk.Level.Store
import CellWalk.Machine.Basic
import CellWalk.Machine.Execution
import CellWalk.Machine.Random
import CellWalk.Machine.Stack
import CellWalk.Main
import CellWalk.Opcode
import CellWalk.Outlet
import CellWalk.Screen.Cell
import CellWalk.Screen.Controls
import CellWalk.Screen.Markup
import CellWalk.Screen.Panels
import CellWalk.Session.Basic
import CellWalk.Session.Command
import CellWalk.Session.Notice
import CellWalk.Session.Play
import CellWalk.Setting
import CellWalk.Size
import CellWalk.Text.Blank
import CellWalk.Text.CodePoint
import CellWalk.Text.Decimal
import CellWalk.Text.Hex
import CellWalk.Text.Lines
import CellWalk.Text.Pattern
import CellWalk.Text.Printable
import CellWalk.Text.Quoted
import CellWalk.Text.Runs
import CellWalk.Text.Utf8
import CellWalk.Text.Word
import CellWalk.Twister
import CellWalk.Proofs.Changes
import CellWalk.Proofs.Actions
import CellWalk.Proofs.Assembly.Grammar
import CellWalk.Proofs.Assembly.Lexemes
import CellWalk.Proofs.UndoRun
import CellWalk.Proofs.Assembly.Tokens
import CellWalk.Proofs.Assembly.Soundness
import CellWalk.Proofs.Assembly.Completeness
import CellWalk.Proofs.Assembly.Labels
import CellWalk.Proofs.Assembly.Lines
import CellWalk.Proofs.Assembly.RoundTrip
import CellWalk.Proofs.Refusals
import CellWalk.Proofs.Code.RunLength
import CellWalk.Proofs.Code.Literal
import CellWalk.Proofs.Code.LevelCode
import CellWalk.Proofs.Assembly.Meaning
import CellWalk.Proofs.Assembly.Places
import CellWalk.Proofs.Assembly.Assembling
import CellWalk.Proofs.Assembly.Faults
import CellWalk.Proofs.CommandLine.Telling
import CellWalk.Proofs.Assembly.ListedLabels
import CellWalk.Proofs.Steps
import CellWalk.Proofs.Margins
import CellWalk.Proofs.Reachable
import CellWalk.Proofs.Isolation
import CellWalk.Proofs.OnGrid
import CellWalk.Proofs.Forgetting
import CellWalk.Proofs.Halting
import CellWalk.Proofs.Catalogue
import CellWalk.Proofs.FailedLoads
import CellWalk.Proofs.Footprint
import CellWalk.Proofs.Pace
import CellWalk.Proofs.Files.Writing
import CellWalk.Proofs.Json.Strings
import CellWalk.Proofs.SavedProgress
import CellWalk.Proofs.Sending
import CellWalk.Proofs.Restarts
import CellWalk.Proofs.SafePlay
import CellWalk.Proofs.EditModes
import CellWalk.Proofs.Walking
import CellWalk.Proofs.Columns
import CellWalk.Proofs.Markup
import CellWalk.Proofs.Drawing
import CellWalk.Proofs.Assembly.RawLines
import CellWalk.Proofs.WellFormed
import CellWalk.Proofs.Entering
import CellWalk.Proofs.Tracks
import CellWalk.Proofs.Stacking
import CellWalk.Proofs.Overflow
import CellWalk.Proofs.Code.Canonical
import CellWalk.Proofs.Code.Lenience
import CellWalk.Proofs.Edits
import CellWalk.Proofs.Geometry
import CellWalk.Proofs.Cursor
import CellWalk.Proofs.Exchanges
import CellWalk.Proofs.RandomPrograms
import CellWalk.Proofs.Tags
import CellWalk.Proofs.Assembly.Terminals
import CellWalk.Proofs.Assembly.Stages
import CellWalk.Proofs.Assembly.Continuations
import CellWalk.Proofs.Assembly.SyntaxErrors
import CellWalk.Proofs.Routes
import CellWalk.Proofs.Cycling
