import WebLogin.Authority
import WebLogin.Codec
import WebLogin.Context
import WebLogin.Deployment
import WebLogin.Failure
import WebLogin.Hash.Argon2
import WebLogin.Hash.Blake2b
import WebLogin.Hash.Block
import WebLogin.Hash.Sha256
import WebLogin.Http.ApiError
import WebLogin.Http.Body
import WebLogin.Http.Cookie
import WebLogin.Http.Date
import WebLogin.Http.Header
import WebLogin.Http.Jar
import WebLogin.Http.MediaType
import WebLogin.Http.Message
import WebLogin.Http.Origins
import WebLogin.Http.Service
import WebLogin.Json.Print
import WebLogin.Json.Token
import WebLogin.Json.Typed
import WebLogin.Json.Value
import WebLogin.Login.Authenticate
import WebLogin.Login.Command
import WebLogin.Login.Hooks
import WebLogin.Logout.Handler
import WebLogin.Logout.Sequence
import WebLogin.Number.Binary64
import WebLogin.Number.Limits
import WebLogin.Number.Shortest
import WebLogin.Operation
import WebLogin.Password.Record
import WebLogin.Password.Scheme
import WebLogin.Principal
import WebLogin.RememberMe.Claims
import WebLogin.RememberMe.Header
import WebLogin.RememberMe.Service
import WebLogin.RememberMe.Token
import WebLogin.Session.Binder
import WebLogin.Session.Data
import WebLogin.Session.Id
import WebLogin.Session.Strategy
import WebLogin.Settings.Decode
import WebLogin.Settings.EnvFile
import WebLogin.Settings.File
import WebLogin.Settings.Load
import WebLogin.Settings.Schema
import WebLogin.Settings.Tree
import WebLogin.Store.Basic
import WebLogin.Store.Memory
import WebLogin.Store.Redis
import WebLogin.Text.Alphanumeric
import WebLogin.Text.Base64
import WebLogin.Text.CharClass
import WebLogin.Text.Hex
import WebLogin.Text.Percent
import WebLogin.Text.Split
import WebLogin.Text.Utf8
import WebLogin.Timestamp
import WebLogin.UserDirectory
import WebLogin.Username
import WebLogin.Proofs.Session.Steps
import WebLogin.Proofs.Logout.Forgetting
import WebLogin.Proofs.Store.Memory
import WebLogin.Proofs.Store.World
import WebLogin.Proofs.Authority
import WebLogin.Proofs.Http.Browser
import WebLogin.Proofs.Service.Machine
import WebLogin.Proofs.Service.Refinement
import WebLogin.Proofs.Codec
import WebLogin.Proofs.Concurrency.Login
import WebLogin.Proofs.Concurrency.Logins
import WebLogin.Proofs.Concurrency.Redis
import WebLogin.Proofs.Concurrency.Revival
import WebLogin.Proofs.Store.Expiry
import WebLogin.Proofs.Store.Interchange
import WebLogin.Proofs.Login.Fixation
import WebLogin.Proofs.Concurrency.Service
import WebLogin.Proofs.Concurrency.Isolation
import WebLogin.Proofs.Login.Collaborators
import WebLogin.Proofs.Login.Sync
import WebLogin.Proofs.Login.Calls
import WebLogin.Proofs.Login.Protocol
import WebLogin.Proofs.Logout.Chain
import WebLogin.Proofs.Login.Rollback
import WebLogin.Proofs.Store.Faults
import WebLogin.Proofs.Login.Lifecycle
import WebLogin.Proofs.Concurrency.Scopes
import WebLogin.Proofs.Http.Removals
import WebLogin.Proofs.Login.Scoping
import WebLogin.Proofs.Logout.Clearing
import WebLogin.Proofs.Logout.BestEffort
import WebLogin.Proofs.Store.Occupancy
import WebLogin.Proofs.Login.Moves
import WebLogin.Proofs.Login.Visits
import WebLogin.Proofs.Http.Jars
import WebLogin.Proofs.Service.LoggedOut
import WebLogin.Proofs.Session.Rotation
import WebLogin.Proofs.Text.Base64
import WebLogin.Proofs.Json.Skipping
import WebLogin.Proofs.RememberMe.Token
import WebLogin.Proofs.RememberMe.Cookie
import WebLogin.Proofs.RememberMe.Response
import WebLogin.Proofs.Login.PerClient
import WebLogin.Proofs.Json.Numbers
import WebLogin.Proofs.Login.Authorization
import WebLogin.Proofs.Logout.Repeated
import WebLogin.Proofs.Http.Queued
import WebLogin.Proofs.Http.Following
import WebLogin.Proofs.Text.Order
import WebLogin.Proofs.Json.Ensures
import WebLogin.Proofs.Username
import WebLogin.Proofs.Persistence
import WebLogin.Proofs.Login.Names
import WebLogin.Proofs.RememberMe.Expiry
import WebLogin.Proofs.UserDirectory
import WebLogin.Proofs.Context
import WebLogin.Proofs.Settings.Tree
import WebLogin.Proofs.Login.Overflow
import WebLogin.Proofs.Service.Overflow
import WebLogin.Proofs.Settings.Decoding
import WebLogin.Proofs.Settings.Environment
import WebLogin.Proofs.Settings.Layers
