import PosixRegistry.AppError
import PosixRegistry.Clock
import PosixRegistry.Config.Settings
import PosixRegistry.Config.Tracing
import PosixRegistry.Console.Args
import PosixRegistry.Console.Core
import PosixRegistry.Console.Http
import PosixRegistry.Console.Registry
import PosixRegistry.Console.Session
import PosixRegistry.Console.Shell
import PosixRegistry.Crypto.Hmac
import PosixRegistry.Crypto.Sha2
import PosixRegistry.Http.Address
import PosixRegistry.Http.Auth
import PosixRegistry.Http.Cors
import PosixRegistry.Http.Endpoints
import PosixRegistry.Http.Failure
import PosixRegistry.Http.Form
import PosixRegistry.Http.Limiter
import PosixRegistry.Http.Message
import PosixRegistry.Http.Mime
import PosixRegistry.Http.Route
import PosixRegistry.Http.Server
import PosixRegistry.Http.State
import PosixRegistry.Http.Target
import PosixRegistry.Identity.Range
import PosixRegistry.Identity.Type
import PosixRegistry.Json.Buffer
import PosixRegistry.Json.Fault
import PosixRegistry.Json.Reader
import PosixRegistry.Json.Shape
import PosixRegistry.Json.Value
import PosixRegistry.Number.Binary64
import PosixRegistry.Number.Word
import PosixRegistry.Proofs.Service.Atomicity
import PosixRegistry.Proofs.Service.Identifiers
import PosixRegistry.Proofs.Service.PrimaryGroups
import PosixRegistry.Proofs.Service.Session
import PosixRegistry.Proofs.Service.Writes
import PosixRegistry.Proofs.Store.Constraints
import PosixRegistry.Proofs.Store.Rows
import PosixRegistry.Proofs.Store.Transaction
import PosixRegistry.Registry.Entity
import PosixRegistry.Registry.Error
import PosixRegistry.Registry.Render
import PosixRegistry.Registry.Request
import PosixRegistry.Registry.Service.Account
import PosixRegistry.Registry.Service.Group
import PosixRegistry.Registry.Service.Membership
import PosixRegistry.Registry.Service.Query
import PosixRegistry.Registry.Service.Step
import PosixRegistry.Registry.Store
import PosixRegistry.Text.Base64
import PosixRegistry.Text.Blank
import PosixRegistry.Text.Debug
import PosixRegistry.Text.Decimal
import PosixRegistry.Text.Printable
import PosixRegistry.Text.Quote
import PosixRegistry.Text.Utf8
import PosixRegistry.Token.Jwt
import PosixRegistry.Token.Hs256
import PosixRegistry.Proofs.Store.Interleaving
import PosixRegistry.Proofs.Store.Snapshot
import PosixRegistry.Proofs.Service.CheckOrder
import PosixRegistry.Proofs.Service.Memberships
import PosixRegistry.Proofs.Http.Refinement
import PosixRegistry.Proofs.Service.Proposals
import PosixRegistry.Proofs.Service.Changes
import PosixRegistry.Proofs.Service.Idempotence
import PosixRegistry.Proofs.Service.Reads
import PosixRegistry.Proofs.Service.RangeWarnings
import PosixRegistry.Proofs.Service.Validation
import PosixRegistry.Proofs.Service.AuditLog
import PosixRegistry.Proofs.Token.Access
import PosixRegistry.Proofs.Config.Environment
import PosixRegistry.Proofs.Http.DebugTexts
