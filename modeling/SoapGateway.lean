import SoapGateway.Http.Server
import SoapGateway.Main
import SoapGateway.Rehearsal
import SoapGateway.Settings.Load
import SoapGateway.Shutdown
import SoapGateway.Startup
import SoapGateway.Transport
import SoapGateway.Proofs.Text.Utf8
import SoapGateway.Proofs.Json.Agreement
import SoapGateway.Proofs.Operation.CacheKey
import SoapGateway.Traffic
import SoapGateway.Proofs.Cache
import SoapGateway.Proofs.Dispatcher
import SoapGateway.Proofs.Traffic.Coherence
import SoapGateway.Proofs.Traffic.Stores
import SoapGateway.Proofs.Xml.Events
import SoapGateway.Proofs.Xml.Escape
import SoapGateway.Proofs.Xml.Locate
import SoapGateway.Xml.Document
import SoapGateway.Proofs.Xml.Document
import SoapGateway.Proofs.Xml.Attributes
import SoapGateway.Xml.Tree
import SoapGateway.Proofs.Xml.Tree
import SoapGateway.Proofs.Xml.Element
import SoapGateway.Proofs.Envelope
import SoapGateway.Proofs.Xml.Unescape
import SoapGateway.Response.Document
import SoapGateway.Proofs.Xml.Content
import SoapGateway.Proofs.Response.Decode
import SoapGateway.Proofs.Response.Document
import SoapGateway.Session
import SoapGateway.Proofs.Failure
import SoapGateway.Proofs.Session.Runs
import SoapGateway.Proofs.DenyList
import SoapGateway.Proofs.Session.Accounts
import SoapGateway.Proofs.Session.Reuse
import SoapGateway.Proofs.Http.ForcedRefresh
import SoapGateway.Proofs.Response.Locate
import SoapGateway.Proofs.Text.Replacement
import SoapGateway.Proofs.Http.DroppedKeys
import SoapGateway.Proofs.Settings.Encoding
import SoapGateway.Proofs.Traffic.Invariants
import SoapGateway.Proofs.Traffic.LastWriter
import SoapGateway.Http.Clients
import SoapGateway.Proofs.Http.Clients
import SoapGateway.Cache.Use
import SoapGateway.Proofs.Cache.BoundedMap
import SoapGateway.Proofs.Traffic.Denials
import SoapGateway.Proofs.Http.Acceptance
import SoapGateway.Proofs.Http.Effects
import SoapGateway.Proofs.Http.Secrecy
import SoapGateway.Proofs.Http.Access
import SoapGateway.Proofs.Http.BodyLimit
import SoapGateway.Shutdown.Use
import SoapGateway.Proofs.Shutdown
import SoapGateway.Proofs.Response.Slice
import SoapGateway.Proofs.Response.Sanitize
import SoapGateway.Proofs.Session.Unusable
import SoapGateway.Proofs.Traffic.Payloads
import SoapGateway.Proofs.Calendar.Order
import SoapGateway.Proofs.Calendar.Plain
import SoapGateway.Proofs.Envelope.Slot
import SoapGateway.Proofs.Json.Record
import SoapGateway.Proofs.Request.Range
import SoapGateway.Proofs.Response.Table
import SoapGateway.Proofs.Json.Array
import SoapGateway.Proofs.Response.Payload
import SoapGateway.Context.Use
import SoapGateway.Proofs.Context
import SoapGateway.Proofs.Settings.Rules
import SoapGateway.Proofs.Toml.Value
import SoapGateway.Proofs.Toml.Sheet
import SoapGateway.Proofs.Settings.Document
import SoapGateway.Calendar.Timestamp
import SoapGateway.Proofs.Calendar.DayNumber
import SoapGateway.Proofs.Calendar.Timestamp
import SoapGateway.Proofs.Http.Provenance
import SoapGateway.Proofs.DenyList.Names
import SoapGateway.Proofs.Failure.Annotation
import SoapGateway.Proofs.Text.Words
import SoapGateway.Proofs.DenyList.Settings
import SoapGateway.Json.Grammar
import SoapGateway.Proofs.Json.Grammar
import SoapGateway.Proofs.Json.Writing
import SoapGateway.Proofs.Http.Failures
import SoapGateway.Proofs.Text.Scan
import SoapGateway.Proofs.Envelope.Splice
