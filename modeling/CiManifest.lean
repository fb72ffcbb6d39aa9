import CiManifest.Number
import CiManifest.Decimal.Shortest
import CiManifest.Json.Value
import CiManifest.Json.Printer
import CiManifest.Json.Reader
import CiManifest.Yaml.Node
import CiManifest.Pipeline.Resource
import CiManifest.Lint.Violation
import CiManifest.Lint.Check
import CiManifest.Lint.Registry
import CiManifest.Text.Lowercase
import CiManifest.Text.Quoted
import CiManifest.Decode.Mismatch
import CiManifest.Decode.Decoder
import CiManifest.Pipeline.Decode
import CiManifest.Yaml.Node.Json
import CiManifest.Pipeline.Encode
import CiManifest.Yaml.Token
import CiManifest.Yaml.Token.Cursor
import CiManifest.Yaml.Token.Scalar
import CiManifest.Yaml.Token.Lexer
import CiManifest.Yaml.Event
import CiManifest.Yaml.Event.Grammar
import CiManifest.Decimal.Nearest
import CiManifest.Yaml.Node.Scalar
import CiManifest.Yaml.Document
import CiManifest.Yaml.Compose
import CiManifest.Yaml.Merge
import CiManifest.Manifest
import CiManifest.Report.Finding
import CiManifest.Toml.Value
import CiManifest.Toml.Reader
import CiManifest.Path
import CiManifest.Config
import CiManifest.Workspace
import CiManifest.Config.Load
import CiManifest.Report.Run
import CiManifest.Report.Pretty
import CiManifest.Report.Summary
import CiManifest.Report.Sarif
import CiManifest.Report.Format
import CiManifest.Text.Similarity
import CiManifest.Command.Spec
import CiManifest.Command.Refusal
import CiManifest.Command.Help
import CiManifest.Command.Parse
import CiManifest.Report.Timestamp
import CiManifest.Command.Execute
import CiManifest.Main
import CiManifest.Proofs.Lint.Faults
import CiManifest.Proofs.Lint.Verdict
import CiManifest.Proofs.Manifest.Load
import CiManifest.Proofs.Report.Counts
import CiManifest.Proofs.Command.ExitStatus
import CiManifest.Proofs.Path.Order
import CiManifest.Proofs.Report.Discovery
import CiManifest.Proofs.Pipeline.JsonRoundTrip
import CiManifest.Proofs.Lint.Coverage
import CiManifest.Proofs.Report.FileFindings
import CiManifest.Proofs.Report.SarifLog
import CiManifest.Proofs.Pipeline.PortForms
import CiManifest.Proofs.Config.Extensions
import CiManifest.Proofs.Lint.UniqueNames
import CiManifest.Proofs.Report.DocumentNumbers
import CiManifest.Proofs.Decode.Records
import CiManifest.Proofs.Yaml.ComposeFuel
