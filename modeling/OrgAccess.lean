import OrgAccess.Authorization
import OrgAccess.Claims
import OrgAccess.Fault
import OrgAccess.Guid
import OrgAccess.Hash.Hmac
import OrgAccess.Hash.Sha256
import OrgAccess.Id
import OrgAccess.Inquiry
import OrgAccess.Json.Attempt
import OrgAccess.Json.Codes
import OrgAccess.Json.Double
import OrgAccess.Json.Fields
import OrgAccess.Json.Halt
import OrgAccess.Json.Identity
import OrgAccess.Json.Literal
import OrgAccess.Json.Numeral
import OrgAccess.Json.Records
import OrgAccess.Json.Token
import OrgAccess.Json.Value
import OrgAccess.Json.View
import OrgAccess.Order
import OrgAccess.Permission
import OrgAccess.Record
import OrgAccess.Resolver
import OrgAccess.Role
import OrgAccess.Role.CaseExpr
import OrgAccess.Row
import OrgAccess.Selection
import OrgAccess.Settings
import OrgAccess.SocketAddress
import OrgAccess.Status
import OrgAccess.Store
import OrgAccess.Store.View
import OrgAccess.Table
import OrgAccess.Text.Base64Url
import OrgAccess.Text.Blank
import OrgAccess.Text.Decimal
import OrgAccess.Text.Quoted
import OrgAccess.Text.Utf8
import OrgAccess.Token.Algorithm
import OrgAccess.Token.Bearer
import OrgAccess.Token.Header
import OrgAccess.Token.Key
import OrgAccess.Token.Registered
import OrgAccess.Web.Percent
import OrgAccess.Web.Request
import OrgAccess.Web.Response
import OrgAccess.Web.Service
import OrgAccess.Web.Uri
import OrgAccess.Proofs.Concurrency.Call
import OrgAccess.Proofs.Concurrency.OneMoment
import OrgAccess.Proofs.Decimal
import OrgAccess.Proofs.Guard
import OrgAccess.Proofs.Guid
import OrgAccess.Proofs.Id
import OrgAccess.Proofs.Inquiry
import OrgAccess.Proofs.Json.Fields
import OrgAccess.Proofs.Json.Numeral
import OrgAccess.Proofs.Json.Records
import OrgAccess.Proofs.Json.Token
import OrgAccess.Proofs.Json.Value
import OrgAccess.Proofs.Order
import OrgAccess.Proofs.Permission
import OrgAccess.Proofs.Resolution.Answer
import OrgAccess.Proofs.Resolution.Exact
import OrgAccess.Proofs.Resolution.Isolation
import OrgAccess.Proofs.Resolution.Listing
import OrgAccess.Proofs.Resolution.Narrowing
import OrgAccess.Proofs.Resolution.OrgStatus
import OrgAccess.Proofs.Resolution.Origin
import OrgAccess.Proofs.Resolution.Refusal
import OrgAccess.Proofs.Resolution.RowOrder
import OrgAccess.Proofs.Resolution.Staff
import OrgAccess.Proofs.Resolution.StaffRole
import OrgAccess.Proofs.Resolution.Standing
import OrgAccess.Proofs.Resolution.Subscriptions
import OrgAccess.Proofs.Role.CaseExpr
import OrgAccess.Proofs.Row
import OrgAccess.Proofs.Selection
import OrgAccess.Proofs.Settings
import OrgAccess.Proofs.Sql.Token
import OrgAccess.Proofs.Store.Change
import OrgAccess.Proofs.Store.History
import OrgAccess.Proofs.Store.Integrity
import OrgAccess.Proofs.Store.Join
import OrgAccess.Proofs.Store.Loading
import OrgAccess.Proofs.Store.OneUser
import OrgAccess.Proofs.Store.Outcome
import OrgAccess.Proofs.Store.Rows
import OrgAccess.Proofs.Store.Winner
import OrgAccess.Proofs.Table
import OrgAccess.Proofs.Text
import OrgAccess.Proofs.Token.Mint
import OrgAccess.Proofs.Web.Access
import OrgAccess.Proofs.Web.Body
import OrgAccess.Proofs.Web.Listing
import OrgAccess.Proofs.Web.Options
import OrgAccess.Proofs.Web.Route
import OrgAccess.Proofs.Principal
import OrgAccess.Proofs.Web.Errors
import OrgAccess.Proofs.Token.Life
