import VentureOS.Agents.ApprovalRunner
import VentureOS.Auth.Abuse
import VentureOS.Auth.Throttle
import VentureOS.Bridge.AtMostOnce
import VentureOS.Bridge.CanonicalFrames
import VentureOS.Bridge.Codec
import VentureOS.Bridge.Dispatch
import VentureOS.Bridge.Egress
import VentureOS.Bridge.Interference
import VentureOS.Bridge.LineBuffer
import VentureOS.Bridge.LocalIpc
import VentureOS.Bridge.ProcessSession
import VentureOS.Bridge.RecoveryEvidence
import VentureOS.Bridge.RecoveryPeer
import VentureOS.Bridge.RecoveryRequest
import VentureOS.Bridge.RecoveryTexts
import VentureOS.Bridge.RecoveryTransport
import VentureOS.Bridge.RecoveryVerifier
import VentureOS.Bridge.RoundTrip
import VentureOS.Bridge.RuntimeAdapter
import VentureOS.Bridge.SessionCleanup
import VentureOS.Broker.Routing
import VentureOS.Broker.RuntimeBroker
import VentureOS.Broker.Scores
import VentureOS.ControlPlane.AdapterKinds
import VentureOS.ControlPlane.Admission
import VentureOS.ControlPlane.Atomicity
import VentureOS.ControlPlane.Authorization
import VentureOS.ControlPlane.Budgets
import VentureOS.ControlPlane.Cancelling
import VentureOS.ControlPlane.Contracts
import VentureOS.ControlPlane.Dispatch
import VentureOS.ControlPlane.Dispatching
import VentureOS.ControlPlane.Effects
import VentureOS.ControlPlane.EventLog
import VentureOS.ControlPlane.Events
import VentureOS.ControlPlane.Evidence
import VentureOS.ControlPlane.Lifecycle
import VentureOS.ControlPlane.Locality
import VentureOS.ControlPlane.Noninterference
import VentureOS.ControlPlane.Operations
import VentureOS.ControlPlane.Ownership
import VentureOS.ControlPlane.Policy
import VentureOS.ControlPlane.References
import VentureOS.ControlPlane.Rotation
import VentureOS.ControlPlane.Starts
import VentureOS.ControlPlane.State
import VentureOS.ControlPlane.System
import VentureOS.ControlPlane.Workspaces
import VentureOS.Coo.Assignability
import VentureOS.Coo.Atomicity
import VentureOS.Coo.Ceilings
import VentureOS.Coo.Contracts
import VentureOS.Coo.CriticalPath
import VentureOS.Coo.Dependencies
import VentureOS.Coo.Emissions
import VentureOS.Coo.Factory
import VentureOS.Coo.Graph
import VentureOS.Coo.LongestPath
import VentureOS.Coo.Operations
import VentureOS.Coo.Planning
import VentureOS.Coo.Progress
import VentureOS.Coo.Sweep
import VentureOS.Coo.System
import VentureOS.Coo.Wakeups
import VentureOS.Coo.Writes
import VentureOS.Durable.Acceptance
import VentureOS.Durable.Coherence
import VentureOS.Durable.Contracts
import VentureOS.Durable.CycleChecks
import VentureOS.Durable.Database
import VentureOS.Durable.Dependencies
import VentureOS.Durable.Effects
import VentureOS.Durable.Growth
import VentureOS.Durable.Integrity
import VentureOS.Durable.Planning
import VentureOS.Durable.Policy
import VentureOS.Durable.Progress
import VentureOS.Durable.Replays
import VentureOS.Durable.Service
import VentureOS.Durable.Statements
import VentureOS.Durable.System
import VentureOS.Factory.Admission
import VentureOS.Factory.Lineage
import VentureOS.Factory.Logged
import VentureOS.Factory.Population
import VentureOS.Factory.Release
import VentureOS.Factory.System
import VentureOS.Finance.Budgets
import VentureOS.Finance.Caps
import VentureOS.Finance.Lockout
import VentureOS.Finance.Outcomes
import VentureOS.Finance.Reconciliations
import VentureOS.Finance.Spending
import VentureOS.Finance.SpendingEffects
import VentureOS.Foundations.Base64
import VentureOS.Foundations.Coupling
import VentureOS.Foundations.Double
import VentureOS.Foundations.Forest
import VentureOS.Foundations.Framing
import VentureOS.Foundations.Interleaving
import VentureOS.Foundations.Journal
import VentureOS.Foundations.Json
import VentureOS.Foundations.JsonText
import VentureOS.Foundations.LongestChain
import VentureOS.Foundations.Machine
import VentureOS.Foundations.OrderedMap
import VentureOS.Foundations.Prerequisites
import VentureOS.Foundations.Program
import VentureOS.Foundations.Publications
import VentureOS.Foundations.Regex
import VentureOS.Foundations.ReplayMemory
import VentureOS.Foundations.Rounding
import VentureOS.Foundations.Rows
import VentureOS.Foundations.Sorting
import VentureOS.Foundations.Text
import VentureOS.Foundations.TextDecoder
import VentureOS.Foundations.TimeText
import VentureOS.Foundations.Tokens
import VentureOS.Foundations.Totals
import VentureOS.Foundations.Transaction
import VentureOS.Foundations.VersionedLedger
import VentureOS.Governance.BoardVoting
import VentureOS.Governance.Ceilings
import VentureOS.Governance.CostLedger
import VentureOS.Marketplace.Account
import VentureOS.Marketplace.ApprovedPublication
import VentureOS.Marketplace.DailyLimit
import VentureOS.Marketplace.Idempotency
import VentureOS.Marketplace.Publication
import VentureOS.Membership.Effects
import VentureOS.Membership.Invitations
import VentureOS.Membership.Rows
import VentureOS.Membership.Service
import VentureOS.Membership.Sessions
import VentureOS.Membership.Transactions
import VentureOS.Opportunities.CapabilityPolicy
import VentureOS.Opportunities.Promotion
import VentureOS.Research.Acquisition
import VentureOS.Research.Caps
import VentureOS.Security.Redaction
import VentureOS.Trust.PublicLedger
import VentureOS.Trust.Publications
import VentureOS.Trust.RootRegistry
import VentureOS.Trust.Roots
import VentureOS.Trust.Snapshots
import VentureOS.Voice.Contracts
import VentureOS.Voice.Effects
import VentureOS.Voice.Gateway
import VentureOS.Voice.Gating
