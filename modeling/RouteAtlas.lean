import RouteAtlas.Text.Ranges
import RouteAtlas.Text.Blank
import RouteAtlas.Text.Word
import RouteAtlas.Text.Digit
import RouteAtlas.Text.Printable
import RouteAtlas.Text.Lowercase
import RouteAtlas.Text.Pieces
import RouteAtlas.Text.Quoted
import RouteAtlas.Text.Surrogates
import RouteAtlas.Text.Base64
import RouteAtlas.Numeral.Binary64
import RouteAtlas.Numeral.NumeralFault
import RouteAtlas.Numeral.Decimal
import RouteAtlas.Numeral.Shortest
import RouteAtlas.Numeral.Whole
import RouteAtlas.Calendar
import RouteAtlas.Fault
import RouteAtlas.Listing
import RouteAtlas.Value
import RouteAtlas.Json
import RouteAtlas.Checked
import RouteAtlas.Value.Reading
import RouteAtlas.Yaml.Cursor
import RouteAtlas.Yaml.ScalarText
import RouteAtlas.Yaml.Token
import RouteAtlas.Yaml.Tag
import RouteAtlas.Yaml.Scalar
import RouteAtlas.Yaml.Graph
import RouteAtlas.Yaml.Document
import RouteAtlas.Yaml.Shape
import RouteAtlas.Yaml
import RouteAtlas.Failure
import RouteAtlas.Schema
import RouteAtlas.Document.Parameter
import RouteAtlas.Document.Operation
import RouteAtlas.Document
import RouteAtlas.QualifiedName
import RouteAtlas.Route.DocBlock
import RouteAtlas.Route.ClassInfo
import RouteAtlas.Route.Handler
import RouteAtlas.Route.Template
import RouteAtlas.Route
import RouteAtlas.Rule.Token
import RouteAtlas.Rule.Field
import RouteAtlas.PathParameter
import RouteAtlas.Extraction
import RouteAtlas.Request
import RouteAtlas.Route.Endpoint
import RouteAtlas.Registry
import RouteAtlas.Settings
import RouteAtlas.SourceFile
import RouteAtlas.Settings.File
import RouteAtlas.Manifest
import RouteAtlas.Resolution
import RouteAtlas.Generation
import RouteAtlas.Proofs.Listing
import RouteAtlas.Proofs.Template
import RouteAtlas.Proofs.Parameter
import RouteAtlas.Proofs.Request
import RouteAtlas.Proofs.Run
import RouteAtlas.Proofs.PathAgreement
import RouteAtlas.Proofs.Degradation
import RouteAtlas.Proofs.Assembly
import RouteAtlas.Proofs.Isolation
import RouteAtlas.Proofs.QualifiedName
import RouteAtlas.Proofs.RuleMeaning
import RouteAtlas.Proofs.DistinctParameters
import RouteAtlas.Proofs.AllOrNone
import RouteAtlas.Proofs.Components
import RouteAtlas.Proofs.ClassName
import RouteAtlas.Proofs.FileFailures
import RouteAtlas.Proofs.Respelling
import RouteAtlas.Proofs.KnownClasses
import RouteAtlas.Proofs.RouteOrder
import RouteAtlas.Proofs.RoundTrip
import RouteAtlas.Proofs.Limits
import RouteAtlas.Proofs.QueryAndBody
import RouteAtlas.Proofs.PathResolution
import RouteAtlas.Proofs.DeclaredOrder
import RouteAtlas.Proofs.TypeSpelling
import RouteAtlas.Proofs.QuotedChoices
import RouteAtlas.Proofs.SpecificationForms
import RouteAtlas.Proofs.LeadingSlash
import RouteAtlas.Proofs.FirstDefect
import RouteAtlas.Proofs.SettingsFormats
import RouteAtlas.Proofs.SchemaTree
import RouteAtlas.Proofs.ObjectProperties
import RouteAtlas.Proofs.NameStyles
import RouteAtlas.Proofs.ControllerTag
