import ArchLint.Analyzer
import ArchLint.Config.Basic
import ArchLint.Config.Problem
import ArchLint.Config.Reader
import ArchLint.Config.Source
import ArchLint.Config.Writer
import ArchLint.Console.Invocation
import ArchLint.Console.Layout
import ArchLint.Console.Run
import ArchLint.Diagnostic
import ArchLint.Dump.Files
import ArchLint.Dump.Reader
import ArchLint.Dump.Report
import ArchLint.Dump.Writer
import ArchLint.FileContext
import ArchLint.FileTree
import ArchLint.Json.Basic
import ArchLint.Json.Printer
import ArchLint.Json.Reader
import ArchLint.Json.Record
import ArchLint.Main
import ArchLint.Path.Glob
import ArchLint.Path.Join
import ArchLint.Path.Normal
import ArchLint.Path.Order
import ArchLint.Path.Pattern
import ArchLint.Proofs.BuiltProviders
import ArchLint.Proofs.CallArguments
import ArchLint.Proofs.CodeReading
import ArchLint.Proofs.CollectedDumps
import ArchLint.Proofs.ConstructorSpelling
import ArchLint.Proofs.DumpDepth
import ArchLint.Proofs.DumpEdits
import ArchLint.Proofs.DumpRoundTrip
import ArchLint.Proofs.DumpSchema
import ArchLint.Proofs.EntityFaults
import ArchLint.Proofs.ExpressionPlaces
import ArchLint.Proofs.FindingPlaces
import ArchLint.Proofs.FirstReturns
import ArchLint.Proofs.ForbiddenImports
import ArchLint.Proofs.GlobMatching
import ArchLint.Proofs.GlobalCubits
import ArchLint.Proofs.JsonGrammar
import ArchLint.Proofs.JsonPrinting
import ArchLint.Proofs.ListLaws
import ArchLint.Proofs.ListReading
import ArchLint.Proofs.Locality
import ArchLint.Proofs.LocationPatterns
import ArchLint.Proofs.LocationSpelling
import ArchLint.Proofs.LongerPaths
import ArchLint.Proofs.Lowercasing
import ArchLint.Proofs.MalformedDumps
import ArchLint.Proofs.NormalForms
import ArchLint.Proofs.OrderIndependence
import ArchLint.Proofs.PartialConfigurations
import ArchLint.Proofs.PathOrder
import ArchLint.Proofs.PathSegments
import ArchLint.Proofs.PathSpelling
import ArchLint.Proofs.QuotedTexts
import ArchLint.Proofs.ReachedDumps
import ArchLint.Proofs.RecordReading
import ArchLint.Proofs.RenderedNames
import ArchLint.Proofs.ReportLines
import ArchLint.Proofs.ReportOrder
import ArchLint.Proofs.Respelling
import ArchLint.Proofs.RoleEvidence
import ArchLint.Proofs.RuleChoice
import ArchLint.Proofs.SchemaReading
import ArchLint.Proofs.SeverityOverrides
import ArchLint.Proofs.SpanMapping
import ArchLint.Proofs.SpanNaturality
import ArchLint.Proofs.StableReports
import ArchLint.Proofs.TreeGains
import ArchLint.Proofs.TreePaths
import ArchLint.Proofs.TreeSchema
import ArchLint.Proofs.Walks
import ArchLint.Report
import ArchLint.Role
import ArchLint.Rule.Basic
import ArchLint.Rule.BlocNaming
import ArchLint.Rule.Catalog
import ArchLint.Rule.Entity
import ArchLint.Rule.GlobalCubit
import ArchLint.Rule.ImportBoundary
import ArchLint.Rule.Model
import ArchLint.Rule.Provider
import ArchLint.Rule.Registration
import ArchLint.Rule.Repository
import ArchLint.Severity
import ArchLint.Syntax.Basic
import ArchLint.Syntax.Construct
import ArchLint.Syntax.Render
import ArchLint.Syntax.Visitor
import ArchLint.Syntax.Walk
import ArchLint.Text.Alphanumeric
import ArchLint.Text.Blank
import ArchLint.Text.Cased
import ArchLint.Text.Decimal
import ArchLint.Text.Identifier
import ArchLint.Text.Lines
import ArchLint.Text.Lowercase
import ArchLint.Text.Run
import ArchLint.Text.Segment
import ArchLint.Text.Uppercase
import ArchLint.Yaml.Cursor
import ArchLint.Yaml.Event
import ArchLint.Yaml.Node
import ArchLint.Yaml.Scalar
import ArchLint.Yaml.Token
import ArchLint.Yaml.Value
