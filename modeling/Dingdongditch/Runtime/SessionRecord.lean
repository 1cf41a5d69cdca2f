import Dingdongditch.Runtime.Executor
import Dingdongditch.Text.Dict

/-!
# The record of a session

What a stateful session keeps between the calls of its API, and the pure
updates its methods make.  Digests, canonical bytes and random tokens are
opaque: they come from `SessionHost` or from the environment.
-/

namespace Dingdongditch

open Interaction Text

inductive SessionFailureKind
  | sessionClosed | sessionExpired | invalidPageId | terminalBrowserFailure | operationRejected
  | sessionConfigMismatch | controlLeaseRejected | handoffTokenInvalid | handoffTokenExpired
  | handoffAlreadyClaimed | handoffRecipientRejected | handoffCheckpointStale
  | signedPlanRejected | mutationConflict
  deriving DecidableEq, Repr

def SessionFailureKind.value : SessionFailureKind → String
  | .sessionClosed => "session_closed"
  | .sessionExpired => "session_expired"
  | .invalidPageId => "invalid_page_id"
  | .terminalBrowserFailure => "terminal_browser_failure"
  | .operationRejected => "operation_rejected"
  | .sessionConfigMismatch => "session_config_mismatch"
  | .controlLeaseRejected => "control_lease_rejected"
  | .handoffTokenInvalid => "handoff_token_invalid"
  | .handoffTokenExpired => "handoff_token_expired"
  | .handoffAlreadyClaimed => "handoff_already_claimed"
  | .handoffRecipientRejected => "handoff_recipient_rejected"
  | .handoffCheckpointStale => "handoff_checkpoint_stale"
  | .signedPlanRejected => "signed_plan_rejected"
  | .mutationConflict => "mutation_conflict"

/-- `StatefulSessionError(message, failure_kind=kind)` -/
def sessionError (kind : SessionFailureKind) (message : String) : PyException :=
  ⟨.statefulSessionError, message, some kind.value⟩

inductive PublicSessionStatus
  | open_ | closed | expired | terminal
  deriving DecidableEq, Repr

/-! ## Preparations, hand-offs and speculation -/

/-- The material browser state that a preparation is bound to. -/
structure PreparedState where
  pageId : String
  url : String
  origin : String
  targetFingerprint : Option String
  stateFingerprint : String
  targetIdentityKey : Option String
  targetIdentity : Option String
  scopeStateKey : String
  secretBinding : Option SecretBinding := none
  deriving DecidableEq, Repr

structure SpeculationSummary where
  speculationId : String
  branchId : String
  deriving DecidableEq, Repr

/-- `_PreparedRecord`.  `createdUnder` is a ghost: the control epoch under which
the record was created; no method reads it. -/
structure PreparedRecord where
  pub : PreparedOperation
  operation : Operation
  state : PreparedState
  signedSpeculationOperation : Option String := none
  speculationSummary : Option SpeculationSummary := none
  createdUnder : Nat
  deriving Repr

namespace PreparedRecord

def isPrepared (p : PreparedRecord) : Bool := p.pub.status = .prepared

/-- `replace(prepared.public, status=status)` -/
def setStatus (p : PreparedRecord) (status : PreparationStatus) : PreparedRecord :=
  { p with pub := { p.pub with status := status } }

def invalidateIfPrepared (p : PreparedRecord) : PreparedRecord :=
  if p.isPrepared then p.setStatus .invalidated else p

/-- The identity pair that a commit hands to the dispatch. -/
def targetBinding (p : PreparedRecord) : Option (String × String) :=
  match p.state.targetIdentityKey, p.state.targetIdentity with
  | some key, some identity => if key ≠ "" ∧ identity ≠ "" then some (key, identity) else none
  | _, _ => none

end PreparedRecord

structure PendingHandoff where
  checkpoint : AgentHandoffCheckpoint
  claimed : Bool := false
  recipientIdentityAssertion : Option IdentityAssertion := none
  recipientIdentityDescriptor : Option AgentIdentity := none
  deriving DecidableEq, Repr

structure SpeculationRecord where
  pub : BranchPreparation
  plan : SpeculativePlan
  selected : Option SpeculationSelection := none
  consumed : Bool := false
  parentOperationHash : Option String := none
  signedSpeculationOperationBytes : List (String × String) := []
  deriving DecidableEq, Repr

/-! ## Receipts of a session -/

/-- The transaction facts of the receipt of a commit. -/
structure TransactionSummary where
  tokenId : String
  preparationFingerprint : String
  operationHash : String
  deriving DecidableEq, Repr

/-- A receipt with what the session adds to it before it enters the chain. -/
structure SessionReceipt where
  receipt : ExecutionReceipt
  authorityDecision : Option FirewallDecision := none
  transaction : Option TransactionSummary := none
  controlEpoch : Option Nat := none
  signedPlan : Option SignedPlanAuthority := none
  identity : Option (AgentIdentity × IdentityAssertion) := none
  speculation : Option SpeculationSummary := none
  mutationArbitration : Option MutationEvidence := none
  deriving Repr

/-- The chain entry of a receipt. -/
structure ChainEntry where
  previousReceiptHash : Option String
  operationHash : String
  sessionId : String
  receiptHash : String
  deriving DecidableEq, Repr

structure ChainedReceipt where
  body : SessionReceipt
  entry : ChainEntry
  deriving Repr

/-! ## The host -/

/-- What a session takes from the libraries below it, on top of `Platform`: the
canonical bytes and digests, with the key of the session, and the bound on the
polls of each verification loop. -/
structure SessionHost extends Platform where
  maxPolls : Nat
  publicBytes : Operation → String
  operationHash : Operation → String
  envelopeDigest : AuthorityEnvelope codec → String
  tokenId : String → String
  mutationFingerprint : PyDict → String
  targetFingerprint : ElementState → Option String → String
  stateFingerprint : PreparedState → PyDict → List PageFacts → String
  /-- The `receipt_hash` of a chain entry, from the receipt, the head of the chain,
  the hash of the operation and the session; canonical JSON may reject the receipt. -/
  receiptHash : SessionReceipt → Option String → String → String → Except PyException String
  /-- `parse_speculative_plan(plan.to_dict())` -/
  detachPlan : SpeculativePlan → Except PyException SpeculativePlan
  isPrintable : Char → Bool

/-! ## The record -/

/-- `_SessionRecord`; the dictionaries are association lists in insertion order. -/
structure SessionRecord (codec : HostCodec) where
  sessionId : String
  hasBackend : Bool := true
  lastActivityAtMs : Int
  idleTimeoutMs : Int
  status : PublicSessionStatus := .open_
  authorityEnvelope : Option (AuthorityEnvelope codec) := none
  authorityActionCount : Int := 0
  authoritySideEffectCount : Int := 0
  preparations : List (String × PreparedRecord) := []
  activeCommitToken : Option String := none
  activeTransaction : Option TransactionSummary := none
  receiptChain : List ChainedReceipt := []
  receiptChainHead : Option String := none
  agentId : Option String := none
  controlEpoch : Nat := 0
  controlToken : Option String := none
  pendingHandoffs : List (String × PendingHandoff) := []
  signedPlanAuthority : Option SignedPlanAuthority := none
  signedPlanOperationBytes : List String := []
  signedPlanSpeculations : List (String × SpeculativePlan) := []
  signedPlanNextIndex : Nat := 0
  identityRegistryInstalled : Bool := false
  identityAssertion : Option IdentityAssertion := none
  identityDescriptor : Option AgentIdentity := none
  mutationPolicy : Option MutationArbitrationPolicy := none
  mutationEpoch : Int := 0
  mutationScopeKey : Option String := none
  mutationStateFingerprint : Option String := none
  mutationLastEvidence : Option MutationEvidence := none
  mutationEvents : List MutationEvidence := []
  speculations : List (String × SpeculationRecord) := []
  activeSpeculation : Option SpeculationSummary := none

namespace SessionRecord

variable {codec : HostCodec}

/-- Every preparation that is still open becomes invalid. -/
def invalidatePreparations (s : SessionRecord codec) : SessionRecord codec :=
  { s with preparations := s.preparations.map fun entry => (entry.1, entry.2.invalidateIfPrepared) }

/-- `prepared.public = replace(prepared.public, status=status)` for one token. -/
def setPreparationStatus (s : SessionRecord codec) (token : String) (status : PreparationStatus) :
    SessionRecord codec :=
  { s with preparations := s.preparations.map fun entry =>
      (entry.1, if entry.1 == token then entry.2.setStatus status else entry.2) }

/-- The identity that the signed plan, if there is one, requires. -/
def signedIdentity (s : SessionRecord codec) : Option String :=
  s.signedPlanAuthority.bind (·.agentIdentityId)

end SessionRecord

end Dingdongditch
