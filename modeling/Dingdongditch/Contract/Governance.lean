import Dingdongditch.Contract.Authority

/-!
# Contracts of a governed session

What prepared commits, hand-offs, identities, signed plans, mutation arbitration
and speculation exchange with their callers.  Digests are opaque strings.
-/

namespace Dingdongditch

/-! ## Two-phase commit -/

inductive PreparationStatus
  | prepared | committed | invalidated
  deriving DecidableEq, Repr

inductive CommitRejectedReason
  | preparationNotFound | preparationInvalidated | preparationExpired | alreadyCommitted
  | preparedStateChanged | targetChanged | originChanged | pageChanged | payloadChanged
  | authorityChanged | authorityRejected | secretBindingUnavailable | secretBindingChanged
  | preparationRequired | notConsequential | mutationEpochChanged
  deriving DecidableEq, Repr

def CommitRejectedReason.value : CommitRejectedReason → String
  | .preparationNotFound => "PREPARATION_NOT_FOUND"
  | .preparationInvalidated => "PREPARATION_INVALIDATED"
  | .preparationExpired => "PREPARATION_EXPIRED"
  | .alreadyCommitted => "ALREADY_COMMITTED"
  | .preparedStateChanged => "PREPARED_STATE_CHANGED"
  | .targetChanged => "TARGET_CHANGED"
  | .originChanged => "ORIGIN_CHANGED"
  | .pageChanged => "PAGE_CHANGED"
  | .payloadChanged => "PAYLOAD_CHANGED"
  | .authorityChanged => "AUTHORITY_CHANGED"
  | .authorityRejected => "AUTHORITY_REJECTED"
  | .secretBindingUnavailable => "SECRET_BINDING_UNAVAILABLE"
  | .secretBindingChanged => "SECRET_BINDING_CHANGED"
  | .preparationRequired => "PREPARATION_REQUIRED"
  | .notConsequential => "NOT_CONSEQUENTIAL"
  | .mutationEpochChanged => "MUTATION_EPOCH_CHANGED"

/-- `TwoPhaseCommitError(reason, message)` -/
def twoPhaseCommitError (reason : CommitRejectedReason) (message : String) : PyException :=
  ⟨.twoPhaseCommitError, message, some reason.value⟩

/-! ## Mutation arbitration -/

inductive MutationActor
  | agent | human | externalUnknown
  deriving DecidableEq, Repr

inductive MutationArbitrationPolicy
  | failOnExternalMutation | requireReprepare | humanPriority
  deriving DecidableEq, Repr

structure MutationEvidence where
  mutationEpoch : Int
  actor : MutationActor
  policy : MutationArbitrationPolicy
  detectedAtMs : Int
  source : String
  preparationInvalidated : Bool
  deriving DecidableEq, Repr

/-- The public view of a prepared operation. -/
structure PreparedOperation where
  token : String
  sessionId : String
  expiresAtMs : Int
  status : PreparationStatus
  actionType : ActionType
  origin : String
  pageId : String
  stateFingerprint : String
  targetFingerprint : Option String
  operationHash : String
  authorityPolicyHash : String
  authorityDecision : FirewallDecision
  mutationEpoch : Option Int := none
  arbitrationPolicy : Option MutationArbitrationPolicy := none
  deriving Repr

/-! ## Identities and signed plans -/

structure IdentityAssertion where
  identityId : String
  identityVersion : Int
  keyId : String
  issuedAtMs : Int
  expiresAtMs : Int
  assertionId : String
  signature : String
  controllerScope : Option String := none
  version : String := "1.0"
  algorithm : String := "ed25519"
  deriving DecidableEq, Repr

structure IdentityKey where
  keyId : String
  publicKey : String
  algorithm : String := "ed25519"
  deriving DecidableEq, Repr

inductive IdentityStatus
  | active
  | revoked
  deriving DecidableEq, Repr

structure AgentIdentity where
  identityId : String
  ownerId : String
  issuerId : String
  createdAtMs : Int
  version : Int
  keys : List IdentityKey
  capabilityReferences : List String := []
  status : IdentityStatus := .active
  deriving DecidableEq, Repr

structure SignedPlanAuthority where
  version : String
  algorithm : String
  planHash : String
  contractVersion : String
  authorityEnvelopeHash : String
  signerId : String
  issuedAtMs : Int
  expiresAtMs : Int
  nonce : String
  signature : String
  sessionScope : Option String := none
  agentIdentityId : Option String := none
  allowedExecutionCount : Int := 1
  policyVersion : Option String := none
  deriving DecidableEq, Repr

/-! ## Hand-off -/

structure AgentHandoffCheckpoint where
  handoffToken : String
  oldAgentId : Option String
  recipientAgentId : Option String
  controlEpoch : Nat
  expiresAtMs : Int
  mutationEpoch : Option Int := none
  deriving DecidableEq, Repr

structure AgentHandoff where
  agentId : String
  controlEpoch : Nat
  controlToken : String
  deriving DecidableEq, Repr

/-! ## Speculation -/

structure SpeculativeBranch where
  branchId : String
  preconditions : List Expectation
  continuation : Operation
  deriving DecidableEq, Repr

structure SpeculativePlan where
  speculationId : String
  parentOperationId : String
  branches : List SpeculativeBranch
  parentOperation : Option Operation := none
  deriving DecidableEq, Repr

def SpeculativeBranch.validate (branch : SpeculativeBranch) : Except PyException Unit := do
  rejectIf (branch.branchId = "" || 128 < branch.branchId.length) "speculative branch id is invalid"
  rejectIf (branch.preconditions.isEmpty || 8 < branch.preconditions.length)
    "speculative branch requires one through eight preconditions"
  branch.preconditions.forM Expectation.validate
  branch.continuation.validate

namespace SpeculativePlan

def validate (plan : SpeculativePlan) : Except PyException Unit := do
  rejectIf (plan.speculationId = "" || 128 < plan.speculationId.length) "speculation id is invalid"
  rejectIf (plan.parentOperationId = "") "speculation parent operation id is invalid"
  plan.parentOperation.forM fun parent => do
    parent.validate
    rejectIf (parent.operationId ≠ plan.parentOperationId)
      "speculation parent operation id does not match parent operation"
  rejectIf (plan.branches.isEmpty || 8 < plan.branches.length)
    "speculation requires one through eight branches"
  rejectIf (!(plan.branches.map (·.branchId)).Nodup) "speculative branch ids must be unique"
  plan.branches.forM fun branch => do
    branch.validate
    rejectIf (branch.continuation.operationId = plan.parentOperationId)
      "speculative continuation cannot recursively reference parent operation"

/-- `require_execution_binding` -/
def requireExecutionBinding (plan : SpeculativePlan) : Except PyException Unit := do
  plan.validate
  rejectIf plan.parentOperation.isNone "speculation requires an exact parent_operation binding"

end SpeculativePlan

inductive BranchSelectionStatus
  | selected | noMatch | ambiguous | stale
  deriving DecidableEq, Repr

structure SpeculationSelection where
  token : String
  status : BranchSelectionStatus
  branchId : Option String
  deriving DecidableEq, Repr

structure BranchPreparation where
  token : String
  speculationId : String
  parentOperationId : String
  controlEpoch : Nat
  mutationEpoch : Option Int
  expiresAtMs : Int
  branchCount : Nat
  deriving DecidableEq, Repr

end Dingdongditch
