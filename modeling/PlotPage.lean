import PlotPage.Axis
import PlotPage.Calendar
import PlotPage.CommandLine.Arguments
import PlotPage.CommandLine.Session
import PlotPage.Description
import PlotPage.Document.Basic
import PlotPage.Document.Command
import PlotPage.Document.Desk
import PlotPage.Document.Editing
import PlotPage.Document.Script
import PlotPage.Document.Writing
import PlotPage.Fault
import PlotPage.Files.AtomicWrite
import PlotPage.Files.Encoding
import PlotPage.Files.Path
import PlotPage.Files.System
import PlotPage.Graph.Basic
import PlotPage.Graph.Command
import PlotPage.Journal
import PlotPage.Layout.Basic
import PlotPage.Layout.Grid
import PlotPage.Layout.Tile
import PlotPage.Loading
import PlotPage.Log.Basic
import PlotPage.Log.Context
import PlotPage.Log.Json
import PlotPage.Log.Record
import PlotPage.Log.Stamp
import PlotPage.Main
import PlotPage.Number.Double
import PlotPage.Number.Numeral
import PlotPage.Number.Rounding
import PlotPage.Number.Shortest
import PlotPage.Number.Text
import PlotPage.Plot.Basic
import PlotPage.Plot.Table
import PlotPage.Proofs.Axis.Keys
import PlotPage.Proofs.Calendar
import PlotPage.Proofs.CommandLine.Arguments
import PlotPage.Proofs.CommandLine.Context
import PlotPage.Proofs.CommandLine.Delivery
import PlotPage.Proofs.CommandLine.Outlets
import PlotPage.Proofs.CommandLine.Session
import PlotPage.Proofs.CommandLine.Steps
import PlotPage.Proofs.Description.AxisSettings
import PlotPage.Proofs.Description.Faults
import PlotPage.Proofs.Description.Graph
import PlotPage.Proofs.Description.Range
import PlotPage.Proofs.Description.Render
import PlotPage.Proofs.Description.Schema
import PlotPage.Proofs.Description.Script
import PlotPage.Proofs.Description.Settings
import PlotPage.Proofs.Document.Capacity
import PlotPage.Proofs.Document.Compiling
import PlotPage.Proofs.Document.FailedSteps
import PlotPage.Proofs.Document.InPlace
import PlotPage.Proofs.Document.Interleaving
import PlotPage.Proofs.Document.Parts
import PlotPage.Proofs.Document.Programs
import PlotPage.Proofs.Document.Refusal
import PlotPage.Proofs.Document.Script
import PlotPage.Proofs.Document.Shape
import PlotPage.Proofs.Document.Steps
import PlotPage.Proofs.Document.Writing
import PlotPage.Proofs.Entries
import PlotPage.Proofs.Files.AtomicWrite
import PlotPage.Proofs.Files.CleanUp
import PlotPage.Proofs.Files.Frame
import PlotPage.Proofs.Files.Places
import PlotPage.Proofs.Graph.Registry
import PlotPage.Proofs.Graph.Sheet
import PlotPage.Proofs.InlineData
import PlotPage.Proofs.Layout.Grid
import PlotPage.Proofs.Layout.Squarest
import PlotPage.Proofs.Layout.Tiling
import PlotPage.Proofs.Loading
import PlotPage.Proofs.Log.ContextCalls
import PlotPage.Proofs.Log.FailedSetup
import PlotPage.Proofs.Log.Growth
import PlotPage.Proofs.Log.JsonLines
import PlotPage.Proofs.Log.JsonNumeral
import PlotPage.Proofs.Log.JsonText
import PlotPage.Proofs.Log.Members
import PlotPage.Proofs.Log.OpenFiles
import PlotPage.Proofs.Log.Setup
import PlotPage.Proofs.Log.Stamps
import PlotPage.Proofs.Misfit
import PlotPage.Proofs.Number.Decimal
import PlotPage.Proofs.Number.Exact
import PlotPage.Proofs.Number.Numeral
import PlotPage.Proofs.Number.Padded
import PlotPage.Proofs.Number.Range
import PlotPage.Proofs.Number.Text
import PlotPage.Proofs.Number.UnitInterval
import PlotPage.Proofs.Number.Whole
import PlotPage.Proofs.Plot
import PlotPage.Proofs.Properties
import PlotPage.Proofs.Properties.History
import PlotPage.Proofs.Quotation
import PlotPage.Proofs.Result
import PlotPage.Proofs.Runner.Detail
import PlotPage.Proofs.Runner.Endings
import PlotPage.Proofs.Settings
import PlotPage.Proofs.Settings.Normal
import PlotPage.Proofs.Settings.TimeLimit
import PlotPage.Proofs.Table
import PlotPage.Proofs.Table.Rectangle
import PlotPage.Proofs.Text.Lines
import PlotPage.Proofs.Text.Pieces
import PlotPage.Proofs.Text.SingleLine
import PlotPage.Proofs.Value.Parts
import PlotPage.Proofs.Workspace
import PlotPage.Properties
import PlotPage.Runner.Basic
import PlotPage.Runner.SearchPath
import PlotPage.Script.Line
import PlotPage.Script.Terminal
import PlotPage.Settings
import PlotPage.Text.Base64
import PlotPage.Text.Blank
import PlotPage.Text.Bytes
import PlotPage.Text.Digit
import PlotPage.Text.Halves
import PlotPage.Text.Printable
import PlotPage.Text.Quoted
import PlotPage.Text.Template
import PlotPage.Text.Upper
import PlotPage.Value.Basic
import PlotPage.Value.Scalar
import PlotPage.Value.SetOrder
import PlotPage.Value.Text
import PlotPage.Yaml.Block
import PlotPage.Yaml.Build
import PlotPage.Yaml.Cell
import PlotPage.Yaml.Cursor
import PlotPage.Yaml.File
import PlotPage.Yaml.Literal
import PlotPage.Yaml.Merge
import PlotPage.Yaml.Node
import PlotPage.Yaml.Outline
import PlotPage.Yaml.Plain
import PlotPage.Yaml.Quoted
import PlotPage.Yaml.Tag
import PlotPage.Yaml.Timestamp
import PlotPage.Yaml.Token
import PlotPage.Yaml.Word
