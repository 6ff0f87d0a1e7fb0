import Proximity.Api.Credentials
import Proximity.Api.Document
import Proximity.Api.Options
import Proximity.Api.Presence
import Proximity.Api.Request
import Proximity.Api.Response
import Proximity.Api.Router
import Proximity.Api.Startup
import Proximity.Api.State
import Proximity.Config.Basic
import Proximity.Config.File
import Proximity.Config.Form
import Proximity.Config.Read
import Proximity.Config.Setting
import Proximity.Credential.Fallible
import Proximity.Credential.FileStore
import Proximity.Credential.Kind
import Proximity.Credential.Locks
import Proximity.Credential.Record
import Proximity.Credential.Store
import Proximity.Daemon.Launch
import Proximity.Daemon.Report
import Proximity.Decimal.Shortest
import Proximity.Decimal.Text
import Proximity.Error
import Proximity.Files.Path
import Proximity.Files.Tree
import Proximity.Http.Client
import Proximity.Http.Media
import Proximity.Http.Message
import Proximity.Http.Target
import Proximity.Identity.EndpointId
import Proximity.Identity.MacAddress
import Proximity.Json.Error
import Proximity.Json.Locate
import Proximity.Json.Pretty
import Proximity.Json.Read
import Proximity.Json.Shape
import Proximity.Json.Value
import Proximity.Log.Filter
import Proximity.Main
import Proximity.Medium
import Proximity.Medium.Form
import Proximity.Medium.Map
import Proximity.Medium.Set
import Proximity.Net.SocketAddr
import Proximity.Options
import Proximity.Options.Form
import Proximity.Presence.Device
import Proximity.Presence.Motion
import Proximity.Proofs.Config.RoundTrip
import Proximity.Proofs.Config.Validation
import Proximity.Proofs.Credential.AccountNames
import Proximity.Proofs.Credential.Faults
import Proximity.Proofs.Credential.Files
import Proximity.Proofs.Credential.History
import Proximity.Proofs.Credential.Locks
import Proximity.Proofs.Credential.Writes
import Proximity.Proofs.Identity.EndpointId
import Proximity.Proofs.Identity.MacAddress
import Proximity.Proofs.Medium.Lists
import Proximity.Proofs.Medium.Pointwise
import Proximity.Proofs.Options.Legal
import Proximity.Proofs.Options.Request
import Proximity.Proofs.Sync.Endpoint
import Proximity.Proofs.Sync.Remote
import Proximity.Proofs.Text.Tokens
import Proximity.Proofs.Url.Encoding
import Proximity.Proofs.Url.Segments
import Proximity.Regex.Check
import Proximity.Regex.Property
import Proximity.Strategy
import Proximity.Sync.Endpoint
import Proximity.Sync.Pull
import Proximity.Text.Ascii
import Proximity.Text.Blank
import Proximity.Text.Quoted
import Proximity.Text.Utf8
import Proximity.Time.Instant
import Proximity.Toml.Fault
import Proximity.Toml.Read
import Proximity.Toml.Scalar
import Proximity.Toml.Value
import Proximity.Toml.Write
import Proximity.Unicode.Bidi
import Proximity.Unicode.Case
import Proximity.Unicode.IdnaMapping
import Proximity.Unicode.Joining
import Proximity.Unicode.Letters
import Proximity.Unicode.Normal
import Proximity.Unicode.Table
import Proximity.Url.Basic
import Proximity.Url.Edit
import Proximity.Url.Form
import Proximity.Url.Idna
import Proximity.Url.Punycode
import Proximity.Uuid
