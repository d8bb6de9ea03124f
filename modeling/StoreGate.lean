import StoreGate.Cli.Action
import StoreGate.Cli.Call
import StoreGate.Cli.Form
import StoreGate.Cli.Program
import StoreGate.Cli.Report
import StoreGate.Decimal.Double
import StoreGate.Decimal.Reading
import StoreGate.Decimal.Shortest
import StoreGate.Decimal.Style
import StoreGate.Engine.Client
import StoreGate.Engine.Config
import StoreGate.Engine.Endpoint
import StoreGate.Engine.Load
import StoreGate.Engine.Query
import StoreGate.Engine.Selector
import StoreGate.Engine.Transaction
import StoreGate.Envelope
import StoreGate.Fault
import StoreGate.Http.Exchange
import StoreGate.Http.Header
import StoreGate.Http.MediaType
import StoreGate.Http.Redirect
import StoreGate.Http.Status
import StoreGate.Http.Wire
import StoreGate.Hub.Body
import StoreGate.Hub.Command
import StoreGate.Hub.Config
import StoreGate.Hub.LoadParameters
import StoreGate.Hub.Resource
import StoreGate.Hub.Service
import StoreGate.Ingest.Event
import StoreGate.Ingest.Report
import StoreGate.Json.Basic
import StoreGate.Json.Decode
import StoreGate.Json.Document
import StoreGate.Json.Parser
import StoreGate.Json.Printer
import StoreGate.Load.Options
import StoreGate.Load.Verdict
import StoreGate.Main
import StoreGate.Page
import StoreGate.Query.Describe
import StoreGate.Query.Result
import StoreGate.Schema
import StoreGate.Search.Hit
import StoreGate.Search.Plan
import StoreGate.Search.Request
import StoreGate.Search.Result
import StoreGate.SortedMap
import StoreGate.Sql.Identifier
import StoreGate.Sql.Literal
import StoreGate.Text.Base64
import StoreGate.Text.Blank
import StoreGate.Text.CaseTable
import StoreGate.Text.Clip
import StoreGate.Text.Composition
import StoreGate.Text.CompositionTable
import StoreGate.Text.Direction
import StoreGate.Text.DirectionTable
import StoreGate.Text.Grid
import StoreGate.Text.Joining
import StoreGate.Text.JoiningTable
import StoreGate.Text.LowerCase
import StoreGate.Text.MarkTable
import StoreGate.Text.Pattern
import StoreGate.Text.Percent
import StoreGate.Text.PrintTable
import StoreGate.Text.Punycode
import StoreGate.Text.Quoted
import StoreGate.Text.Utf8
import StoreGate.Text.WidthTable
import StoreGate.Time.Civil
import StoreGate.Time.Instant
import StoreGate.Time.Rfc3339
import StoreGate.Time.Span
import StoreGate.Toml.Parser
import StoreGate.Toml.Quoted
import StoreGate.Toml.Scalar
import StoreGate.Toml.Table
import StoreGate.Txn.Coordinator
import StoreGate.Txn.Lease
import StoreGate.Txn.Registry
import StoreGate.Url.Basic
import StoreGate.Url.Host
import StoreGate.Url.HostName
import StoreGate.Url.Parser
import StoreGate.Url.ReplacementTable
import StoreGate.Uuid
import StoreGate.Proofs.Http.Redirect
import StoreGate.Proofs.Engine.Transaction
import StoreGate.Proofs.Engine.Explicit
import StoreGate.Proofs.Search.Statement
import StoreGate.Proofs.Search.Gather
import StoreGate.Proofs.Txn.Registry
import StoreGate.Proofs.Txn.Traffic
import StoreGate.Proofs.Txn.Alone
import StoreGate.Proofs.Txn.Provenance
import StoreGate.Proofs.Txn.Finality
import StoreGate.Proofs.Txn.Tracking
import StoreGate.Proofs.Txn.Description
import StoreGate.Proofs.Txn.Frame
import StoreGate.Proofs.Txn.Sweep
import StoreGate.Proofs.Txn.Idempotence
import StoreGate.Proofs.Search.Window
import StoreGate.Proofs.Ingest.Groups
import StoreGate.Proofs.Ingest.Conservation
import StoreGate.Proofs.Sql.Name
import StoreGate.Proofs.Url.Plain
import StoreGate.Proofs.Engine.Blame
import StoreGate.Proofs.Engine.Target
import StoreGate.Proofs.Hub.Answer
import StoreGate.Proofs.Hub.Rejected
import StoreGate.Proofs.Hub.Addressing
import StoreGate.Proofs.Load.Fields
import StoreGate.Proofs.Load.Precedence
import StoreGate.Proofs.Load.Verdict
import StoreGate.Proofs.Decimal.Padded
import StoreGate.Proofs.Time.Calendar
import StoreGate.Proofs.Time.Written
import StoreGate.Proofs.Time.Leap
import StoreGate.Proofs.Search.TimeBounds
import StoreGate.Proofs.Decimal.Digits
import StoreGate.Proofs.Text.Utf8
import StoreGate.Proofs.Json.Literal
import StoreGate.Proofs.Json.ReadBack
import StoreGate.Proofs.Engine.Rotation
import StoreGate.Proofs.Cli.Answer
import StoreGate.Proofs.Text.Trim
import StoreGate.Proofs.Time.ReadBack
import StoreGate.Proofs.Json.Members
import StoreGate.Proofs.Search.Wire
import StoreGate.Proofs.Text.Form
import StoreGate.Proofs.Hub.Arrival
import StoreGate.Proofs.Cli.Words
import StoreGate.Proofs.Cli.Search
import StoreGate.Proofs.Load.Parameters
import StoreGate.Proofs.Hub.Load
import StoreGate.Proofs.Cli.Load
import StoreGate.Proofs.Search.Acceptance
import StoreGate.Proofs.Page
import StoreGate.Proofs.Search.Pages
import StoreGate.Proofs.Text.LowerCase
import StoreGate.Proofs.Search.Hit
import StoreGate.Proofs.Search.Verbatim
import StoreGate.Proofs.Ingest.Row
import StoreGate.Proofs.Load.ReadBack
import StoreGate.Proofs.Url.Host
import StoreGate.Proofs.Engine.Frontend
import StoreGate.Proofs.Url.Counterpart
import StoreGate.Proofs.Http.Lockstep
import StoreGate.Proofs.Engine.Ending
import StoreGate.Proofs.Engine.Decoration
import StoreGate.Proofs.Query.Schema
import StoreGate.Proofs.Decimal.Saturation
import StoreGate.Proofs.Query.Statistics
import StoreGate.Proofs.Text.Escape
import StoreGate.Proofs.Url.Path
import StoreGate.Proofs.Url.Pasted
import StoreGate.Proofs.Cli.Names
import StoreGate.Proofs.Txn.Expiry
import StoreGate.Proofs.Sql.Literal
import StoreGate.Proofs.Text.Pattern
import StoreGate.Proofs.Sql.Agreement
