import BearerGate.Config.Basic
import BearerGate.Config.Env
import BearerGate.Config.Logging
import BearerGate.Crypto.Algorithm
import BearerGate.Crypto.Curve
import BearerGate.Crypto.PublicKey
import BearerGate.Crypto.Rsa
import BearerGate.Crypto.Sha2
import BearerGate.Deployment
import BearerGate.Gate.Basic
import BearerGate.Gate.Bearer
import BearerGate.Http.Body
import BearerGate.Http.Client
import BearerGate.Http.Cors
import BearerGate.Http.ErrorBody
import BearerGate.Http.Headers
import BearerGate.Http.Message
import BearerGate.Http.Target
import BearerGate.Json.Basic
import BearerGate.Json.Parser
import BearerGate.Json.Printer
import BearerGate.KeySet.Cache
import BearerGate.KeySet.Document
import BearerGate.KeySet.Session
import BearerGate.Log
import BearerGate.Metrics.Basic
import BearerGate.Number.Basic
import BearerGate.Number.Decimal
import BearerGate.Number.Reading
import BearerGate.Principal.Basic
import BearerGate.Principal.Roles
import BearerGate.Proofs.Text.Pieces
import BearerGate.Proofs.Gate.Admission
import BearerGate.Proofs.Gate.Bearer
import BearerGate.Proofs.Http.Headers
import BearerGate.Proofs.KeySet.Collection
import BearerGate.Proofs.KeySet.Step
import BearerGate.Proofs.KeySet.History
import BearerGate.Proofs.KeySet.Provenance
import BearerGate.Proofs.KeySet.Session
import BearerGate.Proofs.Service.Path
import BearerGate.Proofs.Service.Conduct
import BearerGate.Proofs.Service.Routes
import BearerGate.Proofs.Service.Passage
import BearerGate.Proofs.Service.Refusal
import BearerGate.Proofs.Service.FailClosed
import BearerGate.Proofs.Service.Site
import BearerGate.Proofs.Service.Propagation
import BearerGate.Proofs.Text.Distinct
import BearerGate.Proofs.Text.Trim
import BearerGate.Proofs.Schema.Checked
import BearerGate.Proofs.Token.Acceptance
import BearerGate.Proofs.Token.Form
import BearerGate.Rejection
import BearerGate.Schema.Issue
import BearerGate.Schema.Value
import BearerGate.Script
import BearerGate.Service.Bare
import BearerGate.Service.Basic
import BearerGate.Service.Client
import BearerGate.Service.Fault
import BearerGate.Service.Pipeline
import BearerGate.Service.Registry
import BearerGate.Service.RequestId
import BearerGate.Service.Route
import BearerGate.Service.Routes.Gateway
import BearerGate.Service.Routes.Health
import BearerGate.Service.Routes.Orders
import BearerGate.Service.Routes.Probe
import BearerGate.Service.Routes.Products
import BearerGate.Service.Routes.Users
import BearerGate.Service.Sending
import BearerGate.Service.Task
import BearerGate.Service.Transport
import BearerGate.Store.Numbered
import BearerGate.Store.Order
import BearerGate.Store.Product
import BearerGate.Table
import BearerGate.Text.Base64url
import BearerGate.Text.Blank
import BearerGate.Text.Units
import BearerGate.Text.Utf8
import BearerGate.Time.Instant
import BearerGate.Token.Basic
import BearerGate.Token.Signature
import BearerGate.Token.Validator
import BearerGate.Token.Validity
import BearerGate.Unicode.Decomposition
import BearerGate.Unicode.Direction
import BearerGate.Unicode.Joining
import BearerGate.Unicode.Mark
import BearerGate.Unicode.Normalization
import BearerGate.Unicode.Table
import BearerGate.Unicode.Upper
import BearerGate.Url.Basic
import BearerGate.Url.Host
import BearerGate.Url.HostMapping
import BearerGate.Url.Label
import BearerGate.Url.Percent
import BearerGate.Url.Punycode
import BearerGate.Proofs.KeySet.Reply
import BearerGate.Proofs.KeySet.SingleFlight
import BearerGate.Proofs.KeySet.Document
import BearerGate.Proofs.KeySet.Fitness
import BearerGate.Proofs.KeySet.Sparing
import BearerGate.Proofs.KeySet.Availability
import BearerGate.Proofs.KeySet.Transparency
import BearerGate.Proofs.KeySet.Cooldown
import BearerGate.Proofs.Token.Payload
import BearerGate.Proofs.Number.Decimal
import BearerGate.Proofs.Number.Text
import BearerGate.Proofs.Number.Whole
import BearerGate.Proofs.Store.Register
import BearerGate.Proofs.Time.Instant
import BearerGate.Proofs.Json.Members
import BearerGate.Proofs.Json.Text
import BearerGate.Proofs.Json.Sent
import BearerGate.Proofs.Http.JsonType
import BearerGate.Proofs.Service.Call
import BearerGate.Proofs.Service.Relay
import BearerGate.Proofs.Text.Utf8
import BearerGate.Proofs.Url.Escape
import BearerGate.Proofs.Url.Path
import BearerGate.Proofs.Url.Host
import BearerGate.Proofs.Url.Web
import BearerGate.Proofs.Url.Rereading
import BearerGate.Proofs.Url.Below
import BearerGate.Proofs.Service.Address
import BearerGate.Proofs.Service.Confinement
import BearerGate.Proofs.Gate.Stages
import BearerGate.Proofs.Service.Moves
import BearerGate.Proofs.Service.Ending
import BearerGate.Proofs.Service.Placing
import BearerGate.Proofs.Service.Ledger
import BearerGate.Proofs.Service.Ordering
import BearerGate.Proofs.Service.Reading
import BearerGate.Proofs.Service.Profile
import BearerGate.Proofs.Service.Ownership
import BearerGate.Proofs.Service.Expiry
import BearerGate.Proofs.Service.Twins
import BearerGate.Proofs.Service.Deployment
import BearerGate.Proofs.Service.Searching
import BearerGate.Proofs.Config.Listing
import BearerGate.Proofs.Config.Safety
import BearerGate.Proofs.Service.Secrecy
import BearerGate.Proofs.Service.Stocking
import BearerGate.Proofs.Service.Offering
import BearerGate.Proofs.Metrics.Exposition
import BearerGate.Proofs.Metrics.Labels
import BearerGate.Proofs.Metrics.Recording
import BearerGate.Proofs.Metrics.Page
import BearerGate.Proofs.Metrics.Counting
import BearerGate.Proofs.Metrics.Histogram
import BearerGate.Proofs.Principal.Roles
import BearerGate.Proofs.Token.Window
import BearerGate.Proofs.Service.Reporting
import BearerGate.Proofs.Text.Base64url
import BearerGate.Proofs.Token.Encoding
import BearerGate.Proofs.Service.Modest
import BearerGate.Proofs.Service.Tally
import BearerGate.Proofs.Service.Account
import BearerGate.Proofs.KeySet.Counters
import BearerGate.Proofs.KeySet.Holding
import BearerGate.Proofs.Service.Beside
import BearerGate.Proofs.Service.Readiness
import BearerGate.Proofs.Service.Fetching
import BearerGate.Proofs.Principal.Paths
import BearerGate.Proofs.Config.Entries
import BearerGate.Proofs.Service.Origin
