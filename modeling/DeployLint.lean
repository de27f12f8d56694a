import DeployLint.Chart.Descriptor
import DeployLint.Chart.Values
import DeployLint.Chart.Version
import DeployLint.Config.Basic
import DeployLint.Config.Reading
import DeployLint.Decimal.Binary64
import DeployLint.Decimal.Layout
import DeployLint.Decimal.Literal
import DeployLint.Decimal.Shortest
import DeployLint.Dockerfile.Image
import DeployLint.Dockerfile.Instruction
import DeployLint.Dockerfile.Practices
import DeployLint.Document.Basic
import DeployLint.Document.Path
import DeployLint.Document.Reading
import DeployLint.Document.Walk
import DeployLint.Fields
import DeployLint.Finding
import DeployLint.Json.Basic
import DeployLint.Json.Reader
import DeployLint.Json.Writer
import DeployLint.Lint
import DeployLint.LintError
import DeployLint.Notice
import DeployLint.Proofs.Chart.Descriptor
import DeployLint.Proofs.Chart.Findings
import DeployLint.Proofs.Chart.Limits
import DeployLint.Proofs.Chart.Search
import DeployLint.Proofs.Chart.Version
import DeployLint.Proofs.Config.Apply
import DeployLint.Proofs.Decimal.Digits
import DeployLint.Proofs.Decimal.Levels
import DeployLint.Proofs.Decimal.Literal
import DeployLint.Proofs.Decimal.Packing
import DeployLint.Proofs.Decimal.Rounding
import DeployLint.Proofs.Decimal.Signs
import DeployLint.Proofs.Decimal.Sums
import DeployLint.Proofs.Dockerfile.Copies
import DeployLint.Proofs.Dockerfile.Findings
import DeployLint.Proofs.Dockerfile.Images
import DeployLint.Proofs.Dockerfile.Instructions
import DeployLint.Proofs.Dockerfile.Lines
import DeployLint.Proofs.Dockerfile.Mistakes
import DeployLint.Proofs.Dockerfile.Renumbering
import DeployLint.Proofs.Document.Entries
import DeployLint.Proofs.Document.Order
import DeployLint.Proofs.Document.PathText
import DeployLint.Proofs.Document.Places
import DeployLint.Proofs.Document.Reading
import DeployLint.Proofs.Document.Reordering
import DeployLint.Proofs.Document.RoundTrip
import DeployLint.Proofs.Document.Run
import DeployLint.Proofs.Document.Texts
import DeployLint.Proofs.Document.Walk
import DeployLint.Proofs.Fields
import DeployLint.Proofs.Finding.Demands
import DeployLint.Proofs.Finding.OneLine
import DeployLint.Proofs.Finding.Order
import DeployLint.Proofs.Finding.Places
import DeployLint.Proofs.Finding.Rules
import DeployLint.Proofs.Json.Leaves
import DeployLint.Proofs.Json.OneLine
import DeployLint.Proofs.Json.RoundTrip
import DeployLint.Proofs.Json.Spelling
import DeployLint.Proofs.Lint.Catalogue
import DeployLint.Proofs.Lint.ChartFiles
import DeployLint.Proofs.Lint.Documents
import DeployLint.Proofs.Lint.LineEndings
import DeployLint.Proofs.Lint.LineNumbers
import DeployLint.Proofs.Lint.Places
import DeployLint.Proofs.Lint.PostPass
import DeployLint.Proofs.Lint.Quota
import DeployLint.Proofs.Lint.TextReport
import DeployLint.Proofs.Quantity.Amounts
import DeployLint.Proofs.Quantity.Dropped
import DeployLint.Proofs.Quantity.Leading
import DeployLint.Proofs.Quantity.Memory
import DeployLint.Proofs.Quantity.Reading
import DeployLint.Proofs.Quantity.Shapes
import DeployLint.Proofs.Quantity.Totals
import DeployLint.Proofs.Report.Building
import DeployLint.Proofs.Report.Gate
import DeployLint.Proofs.Report.Record
import DeployLint.Proofs.Resource.Findings
import DeployLint.Proofs.Resource.Lengths
import DeployLint.Proofs.Resource.Metadata
import DeployLint.Proofs.Resource.Names
import DeployLint.Proofs.Resource.OneLine
import DeployLint.Proofs.Resource.Permissions
import DeployLint.Proofs.Resource.Places
import DeployLint.Proofs.Resource.Structure
import DeployLint.Proofs.Schema
import DeployLint.Proofs.Secret.Scan
import DeployLint.Proofs.Steps
import DeployLint.Proofs.Text.Case
import DeployLint.Proofs.Text.Cutting
import DeployLint.Proofs.Text.Lines
import DeployLint.Proofs.Text.Occurrence
import DeployLint.Proofs.Text.OneLine
import DeployLint.Proofs.Text.Patterns
import DeployLint.Proofs.Text.Runs
import DeployLint.Proofs.Text.Words
import DeployLint.Proofs.Yaml.Events
import DeployLint.Proofs.Yaml.Keys
import DeployLint.Proofs.Yaml.Scanners
import DeployLint.Proofs.Yaml.Tokens
import DeployLint.Proofs.Yaml.Value
import DeployLint.Quantity.Basic
import DeployLint.Quantity.Shape
import DeployLint.Quantity.Totals
import DeployLint.Report.Basic
import DeployLint.Report.External
import DeployLint.Report.Format
import DeployLint.Resource.Basic
import DeployLint.Resource.Metadata
import DeployLint.Resource.Permissions
import DeployLint.Resource.Structure
import DeployLint.Rule
import DeployLint.Schema
import DeployLint.Secret
import DeployLint.Severity
import DeployLint.Text.Blank
import DeployLint.Text.Digits
import DeployLint.Text.Occurrence
import DeployLint.Text.Printable
import DeployLint.Text.Quoted
import DeployLint.Text.Search
import DeployLint.Text.Uppercase
import DeployLint.Toml.Reader
import DeployLint.Toml.Scalars
import DeployLint.Toml.Value
import DeployLint.Yaml.Cursor
import DeployLint.Yaml.Document
import DeployLint.Yaml.Event
import DeployLint.Yaml.Fault
import DeployLint.Yaml.Scalar
import DeployLint.Yaml.Token
import DeployLint.Yaml.Token.Names
import DeployLint.Yaml.Token.Scalars
import DeployLint.Yaml.Token.Stream
import DeployLint.Proofs.Document.Streams
