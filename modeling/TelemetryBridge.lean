import TelemetryBridge.Bench.Answer
import TelemetryBridge.Bench.Bridge
import TelemetryBridge.Bench.Broker
import TelemetryBridge.Bench.Choice
import TelemetryBridge.Bench.Line
import TelemetryBridge.Bench.Numbers
import TelemetryBridge.Bench.Observe
import TelemetryBridge.Bench.Publish
import TelemetryBridge.Bench.Request
import TelemetryBridge.Bench.Respond
import TelemetryBridge.Bench.Settings
import TelemetryBridge.Bench.Setup
import TelemetryBridge.Bench.Stores
import TelemetryBridge.Bridge.Feed
import TelemetryBridge.Bridge.Outlet
import TelemetryBridge.Bridge.Service
import TelemetryBridge.Broker.Publisher
import TelemetryBridge.Config.Basic
import TelemetryBridge.Config.Decode
import TelemetryBridge.Config.Load
import TelemetryBridge.Decimal.Binary
import TelemetryBridge.Decimal.Layout
import TelemetryBridge.Decimal.Places
import TelemetryBridge.Decimal.Reader
import TelemetryBridge.Decimal.Scaled
import TelemetryBridge.Decimal.Shortest
import TelemetryBridge.Device.Identity
import TelemetryBridge.Failure
import TelemetryBridge.Files.Disk
import TelemetryBridge.Json.Decode
import TelemetryBridge.Json.Reader
import TelemetryBridge.Json.Value
import TelemetryBridge.Json.Writer
import TelemetryBridge.KeyValue.Server
import TelemetryBridge.Log.Entry
import TelemetryBridge.Net.Listen
import TelemetryBridge.Observe.Metrics
import TelemetryBridge.Observe.Server
import TelemetryBridge.Observe.Status
import TelemetryBridge.Schedule.Outcome
import TelemetryBridge.Serial.Buffer
import TelemetryBridge.Serial.Device
import TelemetryBridge.Serial.State
import TelemetryBridge.Serial.Transport
import TelemetryBridge.Sources.Backend
import TelemetryBridge.Sources.Backup
import TelemetryBridge.Sources.Live
import TelemetryBridge.Sources.Reading
import TelemetryBridge.Sources.Resolver
import TelemetryBridge.Sources.Snapshot
import TelemetryBridge.Sql.Arithmetic
import TelemetryBridge.Sql.Change
import TelemetryBridge.Sql.Check
import TelemetryBridge.Sql.Compare
import TelemetryBridge.Sql.Constraint
import TelemetryBridge.Sql.Define
import TelemetryBridge.Sql.Eval
import TelemetryBridge.Sql.Function.Aggregate
import TelemetryBridge.Sql.Function.Call
import TelemetryBridge.Sql.Function.Date
import TelemetryBridge.Sql.Function.Format
import TelemetryBridge.Sql.Function.Json
import TelemetryBridge.Sql.Function.JsonTree
import TelemetryBridge.Sql.Function.Text
import TelemetryBridge.Sql.Lex
import TelemetryBridge.Sql.Order
import TelemetryBridge.Sql.Parse.Basic
import TelemetryBridge.Sql.Parse.Query
import TelemetryBridge.Sql.Parse.Statement
import TelemetryBridge.Sql.Prepare
import TelemetryBridge.Sql.Schema
import TelemetryBridge.Sql.Scope
import TelemetryBridge.Sql.Session
import TelemetryBridge.Sql.Store
import TelemetryBridge.Sql.Syntax
import TelemetryBridge.Sql.Value
import TelemetryBridge.Sql.Window
import TelemetryBridge.Telemetry.Alarms
import TelemetryBridge.Telemetry.Document
import TelemetryBridge.Telemetry.Frame
import TelemetryBridge.Telemetry.Payload
import TelemetryBridge.Telemetry.Profile
import TelemetryBridge.Telemetry.Record
import TelemetryBridge.Text.Base64
import TelemetryBridge.Text.Blank
import TelemetryBridge.Text.Bytes
import TelemetryBridge.Text.Utf8
import TelemetryBridge.Time.Duration
import TelemetryBridge.Time.Instant
import TelemetryBridge.Time.Stamp
import TelemetryBridge.Yaml.Event
import TelemetryBridge.Yaml.Fault
import TelemetryBridge.Yaml.Node
import TelemetryBridge.Yaml.Resolve
import TelemetryBridge.Yaml.Source
import TelemetryBridge.Yaml.Token
import TelemetryBridge.Yaml.Token.Lexer
import TelemetryBridge.Yaml.Token.Queue
import TelemetryBridge.Yaml.Token.Scalar
import TelemetryBridge.Proofs.Cadence
import TelemetryBridge.Proofs.SourceChoice
import TelemetryBridge.Proofs.FloatBits
import TelemetryBridge.Proofs.Rounding
import TelemetryBridge.Proofs.ShortestDecimal
import TelemetryBridge.Proofs.Utf8Text
import TelemetryBridge.Proofs.NumberText
import TelemetryBridge.Proofs.JsonText
import TelemetryBridge.Proofs.AsciiEscape
import TelemetryBridge.Proofs.FrameText
import TelemetryBridge.Proofs.TwoPlaces
import TelemetryBridge.Proofs.LineLifecycle
import TelemetryBridge.Proofs.Accounting
import TelemetryBridge.Proofs.ControllerDocument
import TelemetryBridge.Proofs.DocumentNumber
import TelemetryBridge.Proofs.MeasurementText
import TelemetryBridge.Proofs.FrameBraces
import TelemetryBridge.Proofs.IntegerFields
import TelemetryBridge.Proofs.FrameDelivery
import TelemetryBridge.Proofs.SourceAgreement
import TelemetryBridge.Proofs.PublisherMemory
import TelemetryBridge.Proofs.IdentityLoad
import TelemetryBridge.Proofs.StoreFailures
import TelemetryBridge.Proofs.CompactJson
import TelemetryBridge.Proofs.ProfileCache
import TelemetryBridge.Proofs.QuotedIdentifier
