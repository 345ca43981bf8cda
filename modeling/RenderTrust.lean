import RenderTrust.Alembic.Versions
import RenderTrust.Anchor.AppendOnly
import RenderTrust.Anchor.Bookkeeping
import RenderTrust.Anchor.Bundler
import RenderTrust.Anchor.Chain
import RenderTrust.Anchor.Contract
import RenderTrust.Anchor.Drain
import RenderTrust.Anchor.Endpoints
import RenderTrust.Anchor.HashInput
import RenderTrust.Anchor.Merkle
import RenderTrust.Anchor.MerkleSecurity
import RenderTrust.Anchor.Models
import RenderTrust.Anchor.Provable
import RenderTrust.Anchor.RollupBundler
import RenderTrust.Anchor.RollupBundlers
import RenderTrust.Anchor.RollupProofs
import RenderTrust.Anchor.Service
import RenderTrust.Anchor.Submissions
import RenderTrust.Anchor.Verification
import RenderTrust.Auth.Api
import RenderTrust.Auth.ClaimSets
import RenderTrust.Auth.Durability
import RenderTrust.Auth.Jwt
import RenderTrust.Auth.Limits
import RenderTrust.Auth.Models
import RenderTrust.Auth.RateLimit
import RenderTrust.Auth.Revocation
import RenderTrust.Auth.Rotation
import RenderTrust.Billing.Acknowledged
import RenderTrust.Billing.Admissions
import RenderTrust.Billing.Checkouts
import RenderTrust.Billing.Isolation
import RenderTrust.Billing.Payable
import RenderTrust.Billing.Payments
import RenderTrust.Billing.Payout
import RenderTrust.Billing.Payouts
import RenderTrust.Billing.Preflight
import RenderTrust.Billing.Report
import RenderTrust.Billing.StripeWebhook
import RenderTrust.Billing.Usage
import RenderTrust.Billing.Webhook
import RenderTrust.Edge.Backoffs
import RenderTrust.Edge.Client
import RenderTrust.Edge.Executor
import RenderTrust.Edge.Frames
import RenderTrust.Edge.Metrics
import RenderTrust.Edge.Register
import RenderTrust.Edge.Run
import RenderTrust.Edge.Sessions
import RenderTrust.Edge.Shutdown
import RenderTrust.Edge.Sieve
import RenderTrust.Edge.Statuses
import RenderTrust.Frontend.AutoRefresh
import RenderTrust.Frontend.Logout
import RenderTrust.Frontend.Polling
import RenderTrust.Frontend.Requests
import RenderTrust.Frontend.Session
import RenderTrust.Frontend.SingleFlight
import RenderTrust.Ledger.Api
import RenderTrust.Ledger.Bank
import RenderTrust.Ledger.Batches
import RenderTrust.Ledger.Clocks
import RenderTrust.Ledger.Concurrent
import RenderTrust.Ledger.Deductions
import RenderTrust.Ledger.History
import RenderTrust.Ledger.Invariant
import RenderTrust.Ledger.Models
import RenderTrust.Ledger.Outcomes
import RenderTrust.Ledger.Quantisation
import RenderTrust.Ledger.Races
import RenderTrust.Ledger.Replay
import RenderTrust.Ledger.Service
import RenderTrust.Lib.Aead
import RenderTrust.Lib.Backlog
import RenderTrust.Lib.ByteString
import RenderTrust.Lib.Calendar
import RenderTrust.Lib.Cells
import RenderTrust.Lib.Decimal
import RenderTrust.Lib.DecimalText
import RenderTrust.Lib.Doubles
import RenderTrust.Lib.HashTree.Binding
import RenderTrust.Lib.HashTree.Levels
import RenderTrust.Lib.HashTree.Promoted
import RenderTrust.Lib.HashTree.Tree
import RenderTrust.Lib.Hkdf
import RenderTrust.Lib.Hoare
import RenderTrust.Lib.Journal
import RenderTrust.Lib.Json
import RenderTrust.Lib.Keyed
import RenderTrust.Lib.Least
import RenderTrust.Lib.Literals
import RenderTrust.Lib.Migrations
import RenderTrust.Lib.NonInterference
import RenderTrust.Lib.Pages
import RenderTrust.Lib.Rounding
import RenderTrust.Lib.Runs
import RenderTrust.Lib.Schema
import RenderTrust.Lib.Separators
import RenderTrust.Lib.Sha256
import RenderTrust.Lib.Signing
import RenderTrust.Lib.Simulation
import RenderTrust.Lib.Slots
import RenderTrust.Lib.Stages
import RenderTrust.Lib.Tasks
import RenderTrust.Lib.Unicode
import RenderTrust.Lib.Uuid
import RenderTrust.Lib.Windows
import RenderTrust.Relay.Certificates
import RenderTrust.Relay.Doors
import RenderTrust.Relay.Heartbeats
import RenderTrust.Relay.Identity
import RenderTrust.Relay.Manager
import RenderTrust.Relay.Reconnect
import RenderTrust.Relay.Server
import RenderTrust.Relay.TokenKinds
import RenderTrust.Scheduler.Archive
import RenderTrust.Scheduler.Auth
import RenderTrust.Scheduler.Autoscale
import RenderTrust.Scheduler.Cancellation
import RenderTrust.Scheduler.CircuitBreaker
import RenderTrust.Scheduler.Dispatch
import RenderTrust.Scheduler.Flushes
import RenderTrust.Scheduler.JobRaces
import RenderTrust.Scheduler.JobService
import RenderTrust.Scheduler.JobsApi
import RenderTrust.Scheduler.LostEvents
import RenderTrust.Scheduler.Models
import RenderTrust.Scheduler.NodeService
import RenderTrust.Scheduler.Nodes
import RenderTrust.Scheduler.Offline
import RenderTrust.Scheduler.Probes
import RenderTrust.Scheduler.Queues
import RenderTrust.Scheduler.Records
import RenderTrust.Scheduler.Registrations
import RenderTrust.Scheduler.Retries
import RenderTrust.Scheduler.Retry
import RenderTrust.Scheduler.Selection
import RenderTrust.Scheduler.Sweep
import RenderTrust.Scheduler.Timeline
import RenderTrust.Scheduler.Tracking
import RenderTrust.Scheduler.Writes
import RenderTrust.Sdk.Client
import RenderTrust.Storage.Encryption
import RenderTrust.Storage.Keys
import RenderTrust.Storage.Objects
import RenderTrust.Storage.UserKeys
