import ClosedShape.Calendar
import ClosedShape.Calendar.Reader
import ClosedShape.Check
import ClosedShape.Check.Result
import ClosedShape.CommandLine
import ClosedShape.CommandLine.Arguments
import ClosedShape.CommandLine.Help
import ClosedShape.Document
import ClosedShape.Double
import ClosedShape.Double.Arithmetic
import ClosedShape.Double.Decimal
import ClosedShape.Double.Shortest
import ClosedShape.Fault
import ClosedShape.FilePath
import ClosedShape.FileTree
import ClosedShape.Json.Printer
import ClosedShape.Json.Reader
import ClosedShape.Log
import ClosedShape.Log.Line
import ClosedShape.Main
import ClosedShape.Markup
import ClosedShape.Proofs.RunOutcome
import ClosedShape.Refinement
import ClosedShape.Report
import ClosedShape.Report.Emission
import ClosedShape.Report.Record
import ClosedShape.Schema
import ClosedShape.Schema.Construction
import ClosedShape.Schema.Parse
import ClosedShape.SchemaReference
import ClosedShape.Session
import ClosedShape.Settings
import ClosedShape.Settings.Discovery
import ClosedShape.Settings.Field
import ClosedShape.Settings.File
import ClosedShape.Store
import ClosedShape.Text.Base64
import ClosedShape.Text.Blank
import ClosedShape.Text.Casing
import ClosedShape.Text.DecimalDigit
import ClosedShape.Text.LowerCase
import ClosedShape.Text.Numeral
import ClosedShape.Text.Printable
import ClosedShape.Text.Quoted
import ClosedShape.Text.Similarity
import ClosedShape.Text.Utf8
import ClosedShape.Text.Wrapping
import ClosedShape.Toml
import ClosedShape.Toml.Number
import ClosedShape.Toml.Table
import ClosedShape.Toml.Text
import ClosedShape.Trail
import ClosedShape.Value
import ClosedShape.Value.Equality
import ClosedShape.Value.Kind
import ClosedShape.Value.Number
import ClosedShape.Value.Order
import ClosedShape.Value.Prune
import ClosedShape.Value.Text
import ClosedShape.Violation
import ClosedShape.Yaml
import ClosedShape.Yaml.Assembly
import ClosedShape.Yaml.Cursor
import ClosedShape.Yaml.Lexer
import ClosedShape.Yaml.Node
import ClosedShape.Yaml.Node.Reader
import ClosedShape.Yaml.Numeral
import ClosedShape.Yaml.Reason
import ClosedShape.Yaml.Scalar
import ClosedShape.Yaml.Tag
import ClosedShape.Yaml.Timestamp
import ClosedShape.Yaml.Token
import ClosedShape.Yaml.Version
import ClosedShape.Proofs.ParseOutcome
import ClosedShape.Proofs.BuildableSchema
import ClosedShape.Proofs.FirstFailure
import ClosedShape.Proofs.CheckOutcome
import ClosedShape.Proofs.ParseFault
import ClosedShape.Proofs.SchemaConformance
import ClosedShape.Proofs.SectionLabels
import ClosedShape.Proofs.NarrowedResult
import ClosedShape.Proofs.SectionAgreement
import ClosedShape.Proofs.CallOrder
import ClosedShape.Proofs.Reordering
import ClosedShape.Proofs.Loosening
import ClosedShape.Proofs.SectionIsolation
import ClosedShape.Proofs.JsonText
import ClosedShape.Proofs.JsonRoundTrip
import ClosedShape.Proofs.ReportRoundTrip
import ClosedShape.Proofs.KindMismatch
import ClosedShape.Proofs.RefinementChain
import ClosedShape.Proofs.LongNumeral
import ClosedShape.Proofs.LongTomlNumeral
import ClosedShape.Proofs.YamlFault
import ClosedShape.Proofs.YamlNodeFault
import ClosedShape.Proofs.DocumentLoading
import ClosedShape.Proofs.MarkupRendering
import ClosedShape.Proofs.ReportText
import ClosedShape.Proofs.CheckRequest
import ClosedShape.Proofs.CheckRun
import ClosedShape.Proofs.LiteralMatching
import ClosedShape.Proofs.TrailText
import ClosedShape.Proofs.ViolationText
import ClosedShape.Proofs.PrunedResult
import ClosedShape.Proofs.Pruning
import ClosedShape.Proofs.SettingsOffer
import ClosedShape.Proofs.SettingsSearch
import ClosedShape.Proofs.SettingsLoading
import ClosedShape.Proofs.EnvironmentNames
import ClosedShape.Proofs.SettingsPriority
import ClosedShape.Proofs.LineWrapping
import ClosedShape.Proofs.ShownMarkup
import ClosedShape.Proofs.PrintedLines
import ClosedShape.Proofs.VerbatimReport
import ClosedShape.Proofs.ReferenceResolution
import ClosedShape.Proofs.SharedValues
