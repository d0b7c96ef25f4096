import CloudSession.Decimal
import CloudSession.Defaults
import CloudSession.Entries
import CloudSession.Fault
import CloudSession.Fault.Chain
import CloudSession.Fields
import CloudSession.Http.Client
import CloudSession.Http.ErrorStyle
import CloudSession.Http.Headers
import CloudSession.Http.Payload
import CloudSession.Http.Request
import CloudSession.Http.Response
import CloudSession.Http.Retry
import CloudSession.Http.Transport
import CloudSession.Http.Wire
import CloudSession.Number
import CloudSession.OpenStack.Login
import CloudSession.Problem
import CloudSession.Provider
import CloudSession.Service
import CloudSession.Service.Operation
import CloudSession.Service.Options
import CloudSession.Service.Store
import CloudSession.Session
import CloudSession.Settings
import CloudSession.Settings.Ini
import CloudSession.Settings.Parser
import CloudSession.Settings.Reference
import CloudSession.Supplier
import CloudSession.Supplier.Airspace
import CloudSession.Supplier.Cell
import CloudSession.Supplier.Chronicle
import CloudSession.Supplier.Desk
import CloudSession.Supplier.Latch
import CloudSession.Supplier.Network
import CloudSession.Supplier.Traffic
import CloudSession.Supplier.Verdict
import CloudSession.Text.Base64
import CloudSession.Text.Blank
import CloudSession.Text.Charset
import CloudSession.Text.Digit
import CloudSession.Text.Find
import CloudSession.Text.LowerCase
import CloudSession.Text.NumberText
import CloudSession.Text.Printable
import CloudSession.Text.Quoted
import CloudSession.Text.Ranges
import CloudSession.Text.Template
import CloudSession.Url.Hostname
import CloudSession.Url.Ipv4
import CloudSession.Url.Ipv6
import CloudSession.Url.Join
import CloudSession.Url.Split
import CloudSession.VCloud.Caches
import CloudSession.VCloud.Hub
import CloudSession.VCloud.Login
import CloudSession.VCloud.Orgs
import CloudSession.VCloud.Versions
import CloudSession.Value
import CloudSession.Value.Text
import CloudSession.World
import CloudSession.Proofs.Clock
import CloudSession.Proofs.Double
import CloudSession.Proofs.Ensuring
import CloudSession.Proofs.Fault.Chain
import CloudSession.Proofs.Fault.Redaction
import CloudSession.Proofs.Http.Accounting
import CloudSession.Proofs.Http.Backoff
import CloudSession.Proofs.Http.Client
import CloudSession.Proofs.Http.Decision
import CloudSession.Proofs.Http.Headers
import CloudSession.Proofs.Http.Keeping
import CloudSession.Proofs.Http.Lease
import CloudSession.Proofs.Http.Payload
import CloudSession.Proofs.Http.Rejection
import CloudSession.Proofs.Http.Release
import CloudSession.Proofs.Http.Spending
import CloudSession.Proofs.Http.Twin
import CloudSession.Proofs.Keeping
import CloudSession.Proofs.Number
import CloudSession.Proofs.OpenStack.Addressing
import CloudSession.Proofs.OpenStack.Amplification
import CloudSession.Proofs.OpenStack.Rejection
import CloudSession.Proofs.Service.Confinement
import CloudSession.Proofs.Service.Keeping
import CloudSession.Proofs.Service.Pacing
import CloudSession.Proofs.Service.Renewal
import CloudSession.Proofs.Supplier.Chronicle
import CloudSession.Proofs.Supplier.Finality
import CloudSession.Proofs.Supplier.Forgetting
import CloudSession.Proofs.Supplier.Freshness
import CloudSession.Proofs.Supplier.Landing
import CloudSession.Proofs.Supplier.Nesting
import CloudSession.Proofs.Supplier.Order
import CloudSession.Proofs.Supplier.Recognition
import CloudSession.Proofs.Supplier.Rejection
import CloudSession.Proofs.Supplier.SingleFlight
import CloudSession.Proofs.Supplier.Step
import CloudSession.Proofs.VCloud.Age
import CloudSession.Proofs.VCloud.Coherence
import CloudSession.Proofs.VCloud.Discovery
import CloudSession.Proofs.Http.Chunks
import CloudSession.Proofs.Http.Message
import CloudSession.Proofs.Problem
import CloudSession.Proofs.Http.Translation
import CloudSession.Proofs.Supplier.Attempts
import CloudSession.Proofs.Supplier.Chained
import CloudSession.Proofs.VCloud.OrgList
import CloudSession.Proofs.Url.Hostname
import CloudSession.Proofs.Provider
import CloudSession.Proofs.Settings
import CloudSession.Proofs.Fault.Walk
import CloudSession.Proofs.Url.Join
import CloudSession.Proofs.Text.Utf8
import CloudSession.Proofs.Text.Base64
import CloudSession.Proofs.VCloud.Credentials
import CloudSession.Proofs.Http.Verbatim
import CloudSession.Proofs.VCloud.DataCentres
