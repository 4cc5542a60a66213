import ApiLoad.Catalog.Basic
import ApiLoad.Catalog.Extract
import ApiLoad.Catalog.Load
import ApiLoad.Check.Basic
import ApiLoad.Check.Standard
import ApiLoad.Check.Verification
import ApiLoad.Counter
import ApiLoad.Error
import ApiLoad.Http.Exchange
import ApiLoad.Http.Host
import ApiLoad.Http.Host.Address
import ApiLoad.Http.Host.Mapping
import ApiLoad.Http.Host.Name
import ApiLoad.Http.Message
import ApiLoad.Http.Path
import ApiLoad.Http.Percent
import ApiLoad.Http.Punycode
import ApiLoad.Http.Reason
import ApiLoad.Http.Url
import ApiLoad.Json.Basic
import ApiLoad.Json.Printer
import ApiLoad.Json.Reader
import ApiLoad.Log
import ApiLoad.Main
import ApiLoad.Number.Binary64
import ApiLoad.Number.Decimal
import ApiLoad.Number.Layout
import ApiLoad.Number.Reading
import ApiLoad.Number.Shortest
import ApiLoad.Payload.Randomize
import ApiLoad.Payload.Vocabulary
import ApiLoad.Program
import ApiLoad.Proofs.Catalog.Blank
import ApiLoad.Proofs.Catalog.Choice
import ApiLoad.Proofs.Catalog.Compact
import ApiLoad.Proofs.Catalog.Extraction
import ApiLoad.Proofs.Catalog.Paths
import ApiLoad.Proofs.Check.Judgement
import ApiLoad.Proofs.Check.Report
import ApiLoad.Proofs.Counter
import ApiLoad.Proofs.Except
import ApiLoad.Proofs.Json.Compact
import ApiLoad.Proofs.Json.Depth
import ApiLoad.Proofs.Json.Exact
import ApiLoad.Proofs.Json.Fields
import ApiLoad.Proofs.Json.Portable
import ApiLoad.Proofs.Number.Nearest
import ApiLoad.Proofs.Number.Numeral
import ApiLoad.Proofs.Number.Reading
import ApiLoad.Proofs.Number.Rounding
import ApiLoad.Proofs.Payload.Frame
import ApiLoad.Proofs.Payload.Freshness
import ApiLoad.Proofs.Payload.Pattern
import ApiLoad.Proofs.Payload.Randomization
import ApiLoad.Proofs.Payload.Rules
import ApiLoad.Proofs.Payload.Values
import ApiLoad.Proofs.Program.Account
import ApiLoad.Proofs.Program.Ending
import ApiLoad.Proofs.Program.Hurdles
import ApiLoad.Proofs.Query
import ApiLoad.Proofs.Query.Envelope
import ApiLoad.Proofs.Query.Scope
import ApiLoad.Proofs.Random.Draw
import ApiLoad.Proofs.Random.Identifier
import ApiLoad.Proofs.Random.Uniform
import ApiLoad.Proofs.Run.CallIds
import ApiLoad.Proofs.Run.Collation
import ApiLoad.Proofs.Run.Conformance
import ApiLoad.Proofs.Run.Conservation
import ApiLoad.Proofs.Run.Journal
import ApiLoad.Proofs.Run.Lines
import ApiLoad.Proofs.Run.Return
import ApiLoad.Proofs.Run.Steps
import ApiLoad.Proofs.Run.Stop
import ApiLoad.Proofs.Run.Survivors
import ApiLoad.Proofs.Run.Totals
import ApiLoad.Proofs.Settings.Precedence
import ApiLoad.Proofs.Settings.Validation
import ApiLoad.Proofs.Text.Decoding
import ApiLoad.Proofs.Text.Lower
import ApiLoad.Proofs.Transport.Preview
import ApiLoad.Proofs.Transport.Seam
import ApiLoad.Proofs.Worker.Course
import ApiLoad.Proofs.Worker.Halt
import ApiLoad.Proofs.Worker.Interval
import ApiLoad.Proofs.Worker.Pace
import ApiLoad.Proofs.Worker.Rate
import ApiLoad.Proofs.Worker.Turns
import ApiLoad.Proofs.Workload
import ApiLoad.Proofs.Yaml.Compact.Document
import ApiLoad.Proofs.Yaml.Compact.Quoted
import ApiLoad.Proofs.Yaml.Compact.Scan
import ApiLoad.Proofs.Yaml.Compact.Tokens
import ApiLoad.Proofs.Yaml.Compact.Tree
import ApiLoad.Proofs.Yaml.Conversion
import ApiLoad.Proofs.Yaml.Document
import ApiLoad.Query
import ApiLoad.Random.Draw
import ApiLoad.Random.Normal
import ApiLoad.Random.Source
import ApiLoad.Request
import ApiLoad.Run.Basic
import ApiLoad.Run.Orchestration
import ApiLoad.Run.Rehearsal
import ApiLoad.Run.Summary
import ApiLoad.Settings.Arguments
import ApiLoad.Settings.Basic
import ApiLoad.Settings.DotEnv
import ApiLoad.Settings.Environment
import ApiLoad.Text.Base64
import ApiLoad.Text.Blank
import ApiLoad.Text.CodePoints
import ApiLoad.Text.Composition
import ApiLoad.Text.Direction
import ApiLoad.Text.Hex
import ApiLoad.Text.Joining
import ApiLoad.Text.Lower
import ApiLoad.Text.Marks
import ApiLoad.Text.Pieces
import ApiLoad.Text.Quoted
import ApiLoad.Text.Unprintable
import ApiLoad.Text.Utf8
import ApiLoad.Transport
import ApiLoad.Worker.Basic
import ApiLoad.Worker.Event
import ApiLoad.Worker.Interval
import ApiLoad.Worker.Ticker
import ApiLoad.Worker.Timeline
import ApiLoad.Workload
import ApiLoad.Yaml.Cursor
import ApiLoad.Yaml.Document
import ApiLoad.Yaml.Document.Json
import ApiLoad.Yaml.Node
import ApiLoad.Yaml.Node.Anchors
import ApiLoad.Yaml.Scalar.Block
import ApiLoad.Yaml.Scalar.Gap
import ApiLoad.Yaml.Scalar.Plain
import ApiLoad.Yaml.Scalar.Quoted
import ApiLoad.Yaml.Scalar.Value
import ApiLoad.Yaml.Tag
import ApiLoad.Yaml.Token
import ApiLoad.Yaml.Token.Layout
