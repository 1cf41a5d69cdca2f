import Dingdongditch.Text.Checks
import Dingdongditch.Text.Dict
import Dingdongditch.Text.Surgery
import Dingdongditch.Text.Json
import Dingdongditch.Text.Pattern
import Dingdongditch.Text.Url
import Dingdongditch.Text.CodePoints
import Dingdongditch.Text.DataClass
import Dingdongditch.Text.JsonKeys
import Dingdongditch.Text.JsonText
import Dingdongditch.Text.UrlParts
import Dingdongditch.Text.JsonLayout
import Dingdongditch.Text.Percent
import Dingdongditch.Interaction.Cursor
import Dingdongditch.Interaction.Program
import Dingdongditch.Interaction.Stateful
import Dingdongditch.Interaction.Calm
import Dingdongditch.Interaction.Traversals
import Dingdongditch.Interaction.Delegation
import Dingdongditch.Interaction.Output
import Dingdongditch.Interaction.System
import Dingdongditch.Interaction.Freshness
import Dingdongditch.Interaction.Scripted
import Dingdongditch.Interaction.Clients
import Dingdongditch.Interaction.Conditional
import Dingdongditch.Logic.Completions
import Dingdongditch.Logic.Rejections
import Dingdongditch.Store.Directory
import Dingdongditch.Store.UseCounters
import Dingdongditch.Store.Journal
import Dingdongditch.Contract.Value
import Dingdongditch.Contract.Origin
import Dingdongditch.Contract.ReceiptChain
import Dingdongditch.Contract.Target
import Dingdongditch.Contract.ChainSealing
import Dingdongditch.Contract.Operation
import Dingdongditch.Contract.Authority
import Dingdongditch.Contract.ChainBinding
import Dingdongditch.Contract.Download
import Dingdongditch.Contract.PagePrecondition
import Dingdongditch.Contract.Receipt
import Dingdongditch.Contract.Browser
import Dingdongditch.Contract.DownloadNames
import Dingdongditch.Contract.DownloadStore
import Dingdongditch.Contract.Governance
import Dingdongditch.Contract.OriginPolicy
import Dingdongditch.Contract.Plan
import Dingdongditch.Contract.Quorum
import Dingdongditch.Contract.TamperEvidence
import Dingdongditch.Contract.DownloadCommit
import Dingdongditch.Contract.Firewall
import Dingdongditch.Contract.PlanOverrides
import Dingdongditch.Contract.PublicReceipt
import Dingdongditch.Contract.SignedPlan
import Dingdongditch.Contract.Attestation
import Dingdongditch.Contract.Identity
import Dingdongditch.Contract.ReceiptRoundTrip
import Dingdongditch.Contract.ReplayBound
import Dingdongditch.Contract.AttestationSoundness
import Dingdongditch.Contract.IdentityHistory
import Dingdongditch.Contract.ChallengeUse
import Dingdongditch.Evidence.Bounded
import Dingdongditch.Evidence.Sanitize
import Dingdongditch.Evidence.Noninterference
import Dingdongditch.Observation.Capture
import Dingdongditch.Observation.Records
import Dingdongditch.Observation.Observer
import Dingdongditch.Observation.Keys
import Dingdongditch.Observation.RecordText
import Dingdongditch.Observation.Durability
import Dingdongditch.Authentication.PortableState
import Dingdongditch.Authentication.PortableRoundTrip
import Dingdongditch.Runtime.GenerationMonitor
import Dingdongditch.Runtime.TargetResolver
import Dingdongditch.Runtime.TargetSemantics
import Dingdongditch.Runtime.FileQueue
import Dingdongditch.Runtime.TargetFailures
import Dingdongditch.Runtime.ApplicationLifecycle
import Dingdongditch.Runtime.Backend
import Dingdongditch.Runtime.PlanTiming
import Dingdongditch.Runtime.QueueProtocol
import Dingdongditch.Runtime.ElementSnapshot
import Dingdongditch.Runtime.PlanDeadlines
import Dingdongditch.Runtime.QueueDelivery
import Dingdongditch.Runtime.Verifier
import Dingdongditch.Runtime.Executor
import Dingdongditch.Runtime.Evaluations
import Dingdongditch.Runtime.UnreadTargets
import Dingdongditch.Runtime.UnreadFrames
import Dingdongditch.Runtime.CleanReadings
import Dingdongditch.Runtime.FailClosed
import Dingdongditch.Runtime.Dispatches
import Dingdongditch.Runtime.PagePreconditions
import Dingdongditch.Runtime.SessionRecord
import Dingdongditch.Runtime.ObservationBound
import Dingdongditch.Runtime.PageContradictions
import Dingdongditch.Runtime.Session
import Dingdongditch.Runtime.Collector
import Dingdongditch.Runtime.VerdictTruth
import Dingdongditch.Runtime.Methods
import Dingdongditch.Runtime.Reports
import Dingdongditch.Runtime.Calls
import Dingdongditch.Runtime.Typing
import Dingdongditch.Runtime.Frame
import Dingdongditch.Runtime.Scenario
import Dingdongditch.Runtime.TypingProgress
import Dingdongditch.Runtime.VerifiedRuns
import Dingdongditch.Runtime.FailureReports
import Dingdongditch.Runtime.Gate
import Dingdongditch.Runtime.PlanExecutor
import Dingdongditch.Runtime.Writes
import Dingdongditch.Runtime.Preparations
import Dingdongditch.Runtime.History
import Dingdongditch.Runtime.Leases
import Dingdongditch.Runtime.Budgets
import Dingdongditch.Runtime.Chaining
import Dingdongditch.Runtime.PlanOrder
import Dingdongditch.Mcp.Handles
import Dingdongditch.Mcp.HandleEffects
import Dingdongditch.Mcp.Requests
import Dingdongditch.Mcp.HandleProtocol
import Dingdongditch.Mcp.HandleAccounting
import Dingdongditch.Mcp.HandleUse
import Dingdongditch.Continuity.Session
import Dingdongditch.Continuity.Ledger
import Dingdongditch.Continuity.Tidy
import Dingdongditch.Continuity.Writes
import Dingdongditch.Continuity.Calls
import Dingdongditch.Continuity.Lives
import Dingdongditch.Continuity.Replayable
import Dingdongditch.Continuity.StateMachine
import Dingdongditch.Continuity.Recovery
import Dingdongditch.Continuity.BrowserLocal
import Dingdongditch.Observation.ReferenceFreshness
import Dingdongditch.Runtime.NetworkEvidence
import Dingdongditch.Interaction.Within
import Dingdongditch.Runtime.PageRegistry
import Dingdongditch.Runtime.ActivePage
import Dingdongditch.Runtime.DesktopWindows
import Dingdongditch.Runtime.WindowOwnership
import Dingdongditch.Authentication.ImportCuts
import Dingdongditch.Authentication.ImportReceipt
import Dingdongditch.Contract.ChainCheckpoint
import Dingdongditch.Contract.StatementSeparation
import Dingdongditch.Runtime.RunOwnership
import Dingdongditch.Runtime.RunGenerations
import Dingdongditch.Runtime.GovernedDispatch
import Dingdongditch.Runtime.HandoffIsolation
import Dingdongditch.Runtime.AgentService
import Dingdongditch.Authentication.SecretGenerations
import Dingdongditch.Runtime.TokenUse
