import ServiceWire.Codec.FormBody
import ServiceWire.Codec.JsonBody
import ServiceWire.Codec.Reading
import ServiceWire.Codec.Scalar
import ServiceWire.Codec.Table
import ServiceWire.Codec.XmlBody
import ServiceWire.Codegen.EndpointModule
import ServiceWire.Codegen.Generator
import ServiceWire.Codegen.Literal
import ServiceWire.Codegen.Module
import ServiceWire.Codegen.RequestModule
import ServiceWire.CommandLine.Invocation
import ServiceWire.CommandLine.Options
import ServiceWire.CommandLine.Run
import ServiceWire.Defect
import ServiceWire.Endpoint.Metadata
import ServiceWire.Endpoint.Partition
import ServiceWire.Entries
import ServiceWire.ErrorReport
import ServiceWire.Failure
import ServiceWire.Fault
import ServiceWire.Host.Basic
import ServiceWire.Host.FilePath
import ServiceWire.Host.FileTree
import ServiceWire.Host.Loading
import ServiceWire.Http.Headers
import ServiceWire.Http.Message
import ServiceWire.Http.UriTemplate
import ServiceWire.Http.UrlForm
import ServiceWire.Json.Canonical
import ServiceWire.Json.Document
import ServiceWire.Json.OfValue
import ServiceWire.Json.Reader
import ServiceWire.Json.Writer
import ServiceWire.Logging.Context
import ServiceWire.Logging.Entry
import ServiceWire.Logging.Event
import ServiceWire.Logging.Placeholder
import ServiceWire.Logging.Record
import ServiceWire.Logging.Registry
import ServiceWire.Logging.Timing
import ServiceWire.Main
import ServiceWire.Metric
import ServiceWire.Model.Basic
import ServiceWire.Model.Definitions
import ServiceWire.Number.Double
import ServiceWire.Number.Numeric
import ServiceWire.Number.Places
import ServiceWire.Number.Reading
import ServiceWire.Number.Shortest
import ServiceWire.Number.Word
import ServiceWire.Operation.Binding
import ServiceWire.Operation.ErrorResponse
import ServiceWire.Operation.RequestWriter
import ServiceWire.Operation.ResponseReader
import ServiceWire.Operation.Service
import ServiceWire.Pattern.Basic
import ServiceWire.Pattern.CharSet
import ServiceWire.Pattern.Reader
import ServiceWire.Pattern.Token
import ServiceWire.Settings.Basic
import ServiceWire.Settings.Load
import ServiceWire.Shape.Builder
import ServiceWire.Shape.Graph
import ServiceWire.Shape.Kind
import ServiceWire.Stream.Frame
import ServiceWire.Stream.Handler
import ServiceWire.Stream.Union
import ServiceWire.Text.Alphanumeric
import ServiceWire.Text.Base64
import ServiceWire.Text.Blank
import ServiceWire.Text.CharClass
import ServiceWire.Text.Charset
import ServiceWire.Text.Charset.Table
import ServiceWire.Text.Cut
import ServiceWire.Text.Digit
import ServiceWire.Text.LetterCase
import ServiceWire.Text.Percent
import ServiceWire.Text.Printable
import ServiceWire.Text.Quoted
import ServiceWire.Text.Utf8
import ServiceWire.Time.Calendar
import ServiceWire.Time.DateTime
import ServiceWire.Time.Iso8601
import ServiceWire.Time.Rfc822
import ServiceWire.Value
import ServiceWire.Value.Entries
import ServiceWire.Value.View
import ServiceWire.Xml.DocumentType
import ServiceWire.Xml.Element
import ServiceWire.Xml.Encoding
import ServiceWire.Xml.Entity
import ServiceWire.Xml.Markup
import ServiceWire.Xml.Name
import ServiceWire.Xml.Reader
import ServiceWire.Xml.Writer
import ServiceWire.Yaml.Blank
import ServiceWire.Yaml.Block
import ServiceWire.Yaml.Node
import ServiceWire.Yaml.Plain
import ServiceWire.Yaml.Quoted
import ServiceWire.Yaml.Reader
import ServiceWire.Yaml.Scalar
import ServiceWire.Yaml.Tag
import ServiceWire.Yaml.Token
import ServiceWire.Proofs.Codec.Coverage
import ServiceWire.Proofs.Codec.Scalar
import ServiceWire.Proofs.Entries
import ServiceWire.Proofs.Fault
import ServiceWire.Proofs.Number.Digits
import ServiceWire.Proofs.Number.Nearest
import ServiceWire.Proofs.Shape.Reachable
import ServiceWire.Proofs.Shape.WellTyped
import ServiceWire.Proofs.Stream.Handler
import ServiceWire.Proofs.Stream.Run
import ServiceWire.Proofs.Text.Base64
import ServiceWire.Proofs.Text.Ascii
import ServiceWire.Proofs.Time.Calendar
import ServiceWire.Proofs.Time.Clock
import ServiceWire.Proofs.Value.Alike
import ServiceWire.Proofs.Value.Parts
import ServiceWire.Proofs.Value.Texts
import ServiceWire.Proofs.Codec.JsonRoundTrip
import ServiceWire.Proofs.Codec.JsonText
import ServiceWire.Proofs.Codec.Success
import ServiceWire.Proofs.Codec.XmlRoundTrip
import ServiceWire.Proofs.Operation.Outcome
import ServiceWire.Proofs.Operation.QueryResult
import ServiceWire.Proofs.Codec.XmlStructure
import ServiceWire.Proofs.Time.Iso8601
import ServiceWire.Proofs.Endpoint.History
import ServiceWire.Proofs.Codec.FormInjective
import ServiceWire.Proofs.Http.Url
import ServiceWire.Proofs.Model.Load
import ServiceWire.Proofs.Operation.QueryBody
import ServiceWire.Proofs.Stream.EventRoundTrip
import ServiceWire.Proofs.Codegen.RequestModule
import ServiceWire.Proofs.Http.Headers
import ServiceWire.Proofs.Operation.ErrorCode
import ServiceWire.Proofs.Operation.HeaderFields
import ServiceWire.Proofs.Operation.JsonLocations
import ServiceWire.Proofs.Operation.RestRoundTrip
import ServiceWire.Proofs.Codec.Verdict
import ServiceWire.Proofs.Codegen.EndpointModule
import ServiceWire.Proofs.Codec.Agreement
import ServiceWire.Proofs.Codec.JsonEdit
import ServiceWire.Proofs.Codec.XmlEdit
import ServiceWire.Proofs.Operation.Compatibility
import ServiceWire.Proofs.Xml.Tree
import ServiceWire.Proofs.Xml.Tag
import ServiceWire.Proofs.Xml.Content
import ServiceWire.Proofs.Xml.Document
import ServiceWire.Proofs.Codec.XmlText
import ServiceWire.Proofs.Codec.XmlDocument
import ServiceWire.Proofs.Operation.XmlTexts
import ServiceWire.Proofs.Json.Keyed
import ServiceWire.Proofs.Codec.JsonSound
import ServiceWire.Proofs.Codec.XmlSound
import ServiceWire.Proofs.Codec.XmlAccept
import ServiceWire.Proofs.Operation.RequestUrl
import ServiceWire.Proofs.Endpoint.Suffix
import ServiceWire.Proofs.Operation.HeaderLists
import ServiceWire.Proofs.Settings.Shared
import ServiceWire.Proofs.Codec.Misfit
import ServiceWire.Proofs.Operation.Containers
import ServiceWire.Proofs.Host.Files
import ServiceWire.Proofs.Json.Section
import ServiceWire.Proofs.Endpoint.Readable
import ServiceWire.Proofs.Model.Readable
import ServiceWire.Proofs.Model.Description
import ServiceWire.Proofs.CommandLine.Inputs
import ServiceWire.Proofs.Number.Quotient
import ServiceWire.Proofs.Time.EpochDouble
import ServiceWire.Proofs.Codec.Timestamp
import ServiceWire.Proofs.Stream.RawPayload
import ServiceWire.Proofs.Http.PathText
import ServiceWire.Proofs.Http.Template
import ServiceWire.Proofs.Endpoint.Resolution
import ServiceWire.Proofs.Host.Ends
import ServiceWire.Proofs.Codegen.Attempts
import ServiceWire.Proofs.Codegen.Isolation
import ServiceWire.Proofs.Codegen.ModuleFiles
import ServiceWire.Proofs.Operation.BoundHeaders
import ServiceWire.Proofs.Shape.Traversal
import ServiceWire.Proofs.Logging.Timing
import ServiceWire.Proofs.Text.Quoted
import ServiceWire.Proofs.Codegen.Literal
