import Dingdongditch.Runtime.SessionRecord
import Mathlib.Algebra.Group.Int.Defs

/-!
# The methods of a stateful session

Each public method of `StatefulSessionRuntime` as a program over the record of
one session.  What a method does before it may dispatch is a `Watch`, which
cannot dispatch by its type; the only `Session` steps that reach the backend's
`dispatch` are those that run the executor.
-/

namespace Dingdongditch

open Interaction Text

variable (host : SessionHost)

/-- A part of a method that only observes. -/
abbrev Watch (α : Type) : Type := Act QuietSig (SessionRecord host.codec) PyException α

/-- A part of a method that may dispatch. -/
abbrev Session (α : Type) : Type := Act RuntimeSig (SessionRecord host.codec) PyException α

variable {host}

namespace Watch

def nowMs : Watch host Int := Act.ask (S := QuietSig) .nowMs

def freshToken : Watch host String := Act.ask (S := QuietSig) .freshToken

def pageUrl : Watch host String := Act.attempt (S := QuietSig) .pageUrl id

def listPages : Watch host (List PageFacts) := Act.attempt (S := QuietSig) .listPages id

def isStarted : Watch host Bool := Act.ask (S := QuietSig) .isStarted

/-- `backend.scoped_action_url(frame=action.frame, frame_path=action.frame_path)` -/
def scopedActionUrl (action : Action) : Watch host (Except PyException (Option String)) :=
  Act.ask (S := QuietSig) (.scopedActionUrl action.frame action.framePath)

/-- `backend.transaction_scope_state(state_key=key)` -/
def scopeState (key : String) : Watch host (Except PyException PyDict) :=
  Act.ask (S := QuietSig) (.transactionScopeState none [] key)

def uploadBytes (action : Action) : Watch host (Option Int) :=
  match action.uploadAuthorization with
  | none => pure none
  | some upload => Act.ask (S := QuietSig) (.uploadBytes upload)

def reject {α : Type} (kind : SessionFailureKind) (message : String) : Watch host α :=
  throw (sessionError kind message)

/-- `if bad: raise StatefulSessionError(message, failure_kind=kind)` -/
def rejectWhen (bad : Bool) (kind : SessionFailureKind) (message : String) : Watch host Unit :=
  if bad then reject kind message else pure ()

/-- Run a stage of the executor with a collector of its own. -/
def stage {α : Type} (scopeId : String) (m : Quiet α) : Watch host α := fun s =>
  (m { scopeId := scopeId }).bind fun out => .done <| match out.1 with
    | .ok a => (.ok a, s)
    | .error (.receipt failed) => (.error ⟨.other, failed.receipt.executionStatus, none⟩, s)
    | .error (.raised e) => (.error e, s)

end Watch

/-! ## Access -/

/-- `_touch` -/
def touch : Watch host Unit := do
  let now ← Watch.nowMs
  modify fun s => { s with lastActivityAtMs := now }

/-- `_close_record` -/
def closeRecord (status : PublicSessionStatus) : Watch host Unit := do
  let s ← get
  if s.hasBackend then
    let _ ← Act.ask (S := QuietSig) .stopBackend
  let now ← Watch.nowMs
  modify fun s => { s with hasBackend := false, status := status, lastActivityAtMs := now }

/-- The status check of `_require_record`. -/
def requireOpen : Watch host Unit := do
  let s ← get
  match s.status with
  | .open_ => pure ()
  | .closed => Watch.reject .sessionClosed "session is closed"
  | .expired => Watch.reject .sessionExpired "session is expired"
  | .terminal => Watch.reject .terminalBrowserFailure "browser session is terminal"

/-- `_expire_if_idle`, which looks at the clock again once it holds the lock. -/
def expireIfIdle : Watch host Unit := do
  let s ← get
  if s.status = .open_ then
    let now ← Watch.nowMs
    if s.idleTimeoutMs ≤ now - s.lastActivityAtMs then
      let again ← Watch.nowMs
      if s.idleTimeoutMs ≤ again - s.lastActivityAtMs then closeRecord .expired

/-- `_access` -/
def access : Watch host Unit := do
  requireOpen
  expireIfIdle
  requireOpen

/-- `_active_backend` -/
def activeBackend : Watch host Unit := do
  let s ← get
  let started ← if s.hasBackend then Watch.isStarted else pure false
  if !started then
    modify fun s => { s with status := .terminal }
    Watch.reject .terminalBrowserFailure "browser session is terminal"

/-! ## The checks of a controlled call -/

/-- `_require_control` -/
def requireControl (agentId controlToken : Option String) : Watch host Unit := do
  let s ← get
  match s.agentId with
  | none => pure ()
  | some owner => do
      Watch.rejectWhen (agentId ≠ some owner) .controlLeaseRejected
        "control lease belongs to a different agent"
      Watch.rejectWhen (controlToken.isNone || controlToken ≠ s.controlToken) .controlLeaseRejected
        "control lease token is invalid"

/-- `_require_identity` -/
def requireIdentity : Watch host Unit := do
  let s ← get
  match s.identityAssertion with
  | none => pure ()
  | some assertion => do
      Watch.rejectWhen (!s.identityRegistryInstalled) .operationRejected
        "identity trust registry is unavailable"
      let verified ← Act.ask (S := QuietSig) (.verifyIdentity assertion s.agentId)
      match (verified : Except PyException AgentIdentity) with
      | .error e =>
          if e.type = .identityError then
            Watch.reject .operationRejected "identity assertion is not valid for this execution"
          else throw e
      | .ok descriptor => do
          Watch.rejectWhen (s.signedIdentity.any (· ≠ descriptor.identityId)) .signedPlanRejected
            "session identity does not satisfy signed-plan scope"
          modify fun s => { s with identityDescriptor := some descriptor }

/-- `_require_signed_plan_operation` -/
def requireSignedPlanOperation (op : Operation) (signedSpeculation : Option String) :
    Watch host Unit := do
  let s ← get
  match s.signedPlanAuthority with
  | none =>
      Watch.rejectWhen signedSpeculation.isSome .signedPlanRejected
        "speculative authorization is unavailable without a signed plan"
  | some authority => do
      let current ← Watch.nowMs
      Watch.rejectWhen (current < authority.issuedAtMs || authority.expiresAtMs ≤ current)
        .signedPlanRejected "signed plan authority is not currently valid"
      match signedSpeculation with
      | some bytes =>
          Watch.rejectWhen (host.publicBytes op ≠ bytes) .signedPlanRejected
            "operation does not match selected signed speculative branch"
      | none =>
          match s.signedPlanOperationBytes[s.signedPlanNextIndex]? with
          | none =>
              Watch.reject .signedPlanRejected "signed plan has no remaining authorized operation"
          | some expected =>
              Watch.rejectWhen (host.publicBytes op ≠ expected) .signedPlanRejected
                "operation does not match the next signed plan step"

/-! ## Mutation arbitration -/

/-- `_advance_mutation_epoch` -/
def advanceMutationEpoch (actor : MutationActor) (source : String) : Watch host MutationEvidence := do
  let s ← get
  Watch.rejectWhen (2 ^ 63 - 1 ≤ s.mutationEpoch) .mutationConflict "mutation epoch is exhausted"
  let invalidated := s.preparations.any fun entry => entry.2.isPrepared
  modify fun s => { s.invalidatePreparations with mutationEpoch := s.mutationEpoch + 1 }
  match s.mutationPolicy with
  | none => throw ⟨.assertionError, "", none⟩
  | some policy => do
      let now ← Watch.nowMs
      let evidence : MutationEvidence :=
        ⟨s.mutationEpoch + 1, actor, policy, now, source, invalidated⟩
      modify fun s =>
        let events := s.mutationEvents ++ [evidence]
        { s with
          mutationLastEvidence := some evidence
          mutationEvents := events.drop (events.length - 16) }
      return evidence

/-- `_refresh_external_mutation`: whether the browser changed since the last look. -/
def refreshExternalMutation : Watch host Bool := do
  let s ← get
  match s.mutationPolicy, s.mutationScopeKey with
  | some _, some key => do
      activeBackend
      let state ← Watch.scopeState key
      match state with
      | .error _ => do
          -- a monitor that cannot look at the browser reports a change
          let _ ← advanceMutationEpoch .externalUnknown "browser_state"
          return true
      | .ok state => do
          let current := host.mutationFingerprint state
          let before := s.mutationStateFingerprint
          modify fun s => { s with mutationStateFingerprint := some current }
          if before.any (· ≠ current) then
            let _ ← advanceMutationEpoch .externalUnknown "browser_state"
            return true
          else return false
  | _, _ => return false

/-- `_reject_mutation_if_policy_requires` -/
def rejectMutationIfPolicyRequires (changed freshObservation : Bool) : Watch host Unit := do
  let s ← get
  match s.mutationPolicy with
  | none => pure ()
  | some policy =>
      if changed then
        if policy = .failOnExternalMutation then
          Watch.reject .mutationConflict "external browser mutation requires host intervention"
        else
          Watch.rejectWhen (!freshObservation) .mutationConflict
            "browser mutation requires a new observation"

/-- `_initialize_mutation_monitor`, with its exceptions suppressed as its caller does. -/
def restartMutationMonitor : Watch host Unit := do
  let s ← get
  match s.mutationPolicy, s.mutationScopeKey with
  | some _, some key =>
      let look : Watch host Unit := do
        activeBackend
        let state ← Watch.scopeState key
        match state with
        | .error e => throw e
        | .ok state => modify fun s =>
            { s with mutationStateFingerprint := some (host.mutationFingerprint state) }
      tryCatch look fun _ => pure ()
  | _, _ => pure ()

/-- `_record_agent_mutation`, which every dispatch reports as ambiguous. -/
def recordAgentMutation : Watch host Unit := do
  let s ← get
  if s.mutationPolicy.isSome then
    let _ ← advanceMutationEpoch .externalUnknown "agent_dispatch"
    restartMutationMonitor

/-! ## The firewall -/

/-- `_governed_action_types` -/
def governedActionTypes (op : Operation) : List ActionType :=
  match op.guard with
  | none => [op.action.type]
  | some guard =>
      if guard.isLegacyTargetAbsent then [op.action.type]
      else (guard.branches.flatMap (·.execute) ++ guard.otherwise.getD []).map (·.type)

/-- The actions a decision is made about, with the largest number of actions and
of side effects that one alternative may have. -/
structure DecisionScope where
  candidateActions : List Action
  maxActions : Nat
  maxSideEffects : Nat
  deriving DecidableEq, Repr

def AuthorityPolicy.sideEffects (policy : AuthorityPolicy) (actions : List Action) : Nat :=
  actions.countP fun action => policy.irreversibleActionTypes.contains action.type

/-- The first half of `_firewall_decision`. -/
def decisionScope (policy : AuthorityPolicy) (op : Operation) : DecisionScope :=
  let single : DecisionScope := ⟨[op.action], 1, policy.sideEffects [op.action]⟩
  match op.guard with
  | none => single
  | some guard =>
      if guard.isLegacyTargetAbsent then single
      else
        let alternatives := guard.branches.map (·.execute) ++ guard.otherwise.toList
        let candidates := alternatives.flatten
        let maxSideEffects := (alternatives.map policy.sideEffects).foldl max 0
        if candidates.isEmpty then ⟨[op.action], 0, maxSideEffects⟩
        else ⟨candidates, (alternatives.map List.length).foldl max 0, maxSideEffects⟩

/-- The URL a decision about an action starts from: what the backend reports for
the frame of the action, and `""` when it cannot be resolved. -/
def scopeUrl (action : Action) : Watch host String := do
  let resolved ← Watch.scopedActionUrl action
  match resolved with
  | .error _ => return ""
  | .ok (some url) => return url
  | .ok none =>
      if action.frame.isSome || !action.framePath.isEmpty then return "" else Watch.pageUrl

/-- `replace(operation, action=action, guard=None)` -/
def Operation.candidate (op : Operation) (action : Action) : Operation :=
  { op with
    action, guard := none, transactionTargetIdentity := none, transactionSecretBinding := none }

/-- One decision of the firewall about one candidate action. -/
def decideCandidate (envelope : AuthorityEnvelope host.codec) (op : Operation)
    (scope : DecisionScope) (action : Action) : Watch host FirewallDecision := do
  let s ← get
  let url ← scopeUrl action
  let now ← Watch.nowMs
  let bytes ← Watch.uploadBytes action
  let decision := AuthorityFirewall.decide envelope (op.candidate action) {
    currentUrl := url
    nowMs := now
    actionCount := s.authorityActionCount + ((scope.maxActions - 1 : Nat) : Int)
    sideEffectCount := s.authoritySideEffectCount + ((scope.maxSideEffects - 1 : Nat) : Int)
    uploadBytes := bytes }
  Act.ask (S := QuietSig) (.recordDecision (op.candidate action) decision)
  return decision

/-- The loop of `_firewall_decision`: the first decision that rejects, or else
the first one. -/
def decideCandidates (envelope : AuthorityEnvelope host.codec) (op : Operation)
    (scope : DecisionScope) (first : Option FirewallDecision) :
    List Action → Watch host FirewallDecision
  | [] =>
      match first with
      | some decision => return decision
      | none => throw ⟨.assertionError, "", none⟩
  | action :: rest => do
      let decision ← decideCandidate envelope op scope action
      if decision.authorized then
        decideCandidates envelope op scope (some (first.getD decision)) rest
      else return decision

/-- `_firewall_decision` -/
def firewallDecision (envelope : AuthorityEnvelope host.codec) (op : Operation) :
    Watch host FirewallDecision :=
  let scope := decisionScope envelope.toAuthorityPolicy op
  decideCandidates envelope op scope none scope.candidateActions

/-! ## Executing an operation -/

/-- The arguments of `execute_operation`, those that only other methods pass included. -/
structure ExecuteRequest where
  operation : Operation
  observationReference : Option ObservationReference := none
  agentId : Option String := none
  controlToken : Option String := none
  preparedTargetIdentity : Option (String × String) := none
  preparedSecretBinding : Option SecretBinding := none
  signedSpeculationOperation : Option String := none

namespace ExecuteRequest

/-- `governed_operation` -/
def governedOperation (request : ExecuteRequest) : Operation :=
  match request.observationReference with
  | none => request.operation
  | some reference =>
      if reference.provenance.isEmpty then request.operation
      else { request.operation with
        provenance := mergeProvenance request.operation.provenance reference.provenance
        transactionTargetIdentity := none, transactionSecretBinding := none }

/-- `dispatch_operation`: the private attributes go on a copy of the operation. -/
def dispatchOperation (request : ExecuteRequest) : Operation :=
  if request.preparedTargetIdentity.isSome || request.preparedSecretBinding.isSome then
    { request.operation with
      transactionTargetIdentity := request.preparedTargetIdentity
      transactionSecretBinding := request.preparedSecretBinding }
  else request.governedOperation

end ExecuteRequest

/-- `_execute_operation(operation, backend=backend, …)` inside a session. -/
def runExecutor (op : Operation) (ctx : ExecutionContext) : Session host ExecutionReceipt := fun s =>
  (executeOperation host.toPlatform op ctx { scopeId := op.operationId }).bind fun out =>
    .done <| match out.1 with
      | .ok receipt => (.ok receipt, s)
      | .error (.receipt failed) => (.ok failed.receipt, s)
      | .error (.raised e) => (.error e, s)

/-- What the observation reference of a request has to agree with. -/
def checkReferenceEpochs (reference : Option ObservationReference) : Watch host Unit := do
  let s ← get
  Watch.rejectWhen
    (reference.any fun r => r.controlEpoch.any (· ≠ (s.controlEpoch : Int))) .operationRejected
    "observation was created under a stale control epoch"
  Watch.rejectWhen (reference.any fun r => r.mutationEpoch.any (· ≠ s.mutationEpoch))
    .mutationConflict "observation was created before a browser mutation"

/-- The checks at the head of `execute_operation`. -/
def executionGate (request : ExecuteRequest) : Watch host Unit := do
  requireControl request.agentId request.controlToken
  requireIdentity
  requireSignedPlanOperation request.operation request.signedSpeculationOperation
  let changed ← refreshExternalMutation
  checkReferenceEpochs request.observationReference
  rejectMutationIfPolicyRequires changed request.observationReference.isSome
  activeBackend

/-- A receipt of an operation that the session does not dispatch. -/
def rejectedReceipt (op : Operation) (startedAtMs : Int) (status error failureKind : String)
    (evidence : PyDict) : Watch host ExecutionReceipt := do
  let failed ← Watch.stage op.operationId <| failedReceipt host.toPlatform op startedAtMs {
    executionStatus := status
    executionError := error
    failureKind := some failureKind
    actionEvidence := some evidence
    verdict := .notVerified
    unverified := Verdict.notVerified_ne }
  return failed.receipt

def preparationRequiredReceipt (op : Operation) (startedAtMs : Int) : Watch host SessionReceipt := do
  let receipt ← rejectedReceipt op startedAtMs "preparation_required"
    "host policy requires a valid prepared commit token" "preparation_required"
    [("transaction", .dict [("status", .str "REJECTED"),
      ("reason", .str CommitRejectedReason.preparationRequired.value)]),
     ("dispatch_attempted", .bool false)]
  return { receipt }

def authorityRejectedReceipt (op : Operation) (startedAtMs : Int) (decision : FirewallDecision) :
    Watch host SessionReceipt := do
  let receipt ← rejectedReceipt op startedAtMs "authority_rejected"
    (decision.reason.getD "operation rejected by authority firewall")
    decision.outcome.value.toLower
    [("authority", .dict [("outcome", .str decision.outcome.value)]),
     ("dispatch_attempted", .bool false)]
  return { receipt, authorityDecision := some decision }

/-- `_receipt_dispatch_counts` -/
def receiptDispatchCounts (receipt : ExecutionReceipt) (policy : AuthorityPolicy)
    (op : Operation) : Int × Int :=
  let branchActions := match PyDict.get (receipt.actionEvidence.getD []) "guard" with
    | .dict guard => PyDict.get guard "branch_actions"
    | _ => .none
  match branchActions with
  | .list items =>
      let types := items.filterMap fun item => match item with
        | .dict entries => some (PyDict.get entries "action_type")
        | _ => none
      (types.length,
        types.countP fun type => policy.irreversibleActionTypes.any fun t => type.isStr t.value)
  | _ =>
      if receipt.actionStartedAtMs.isNone then (0, 0)
      else (1, if policy.irreversibleActionTypes.contains op.action.type then 1 else 0)

/-- The budgets after a dispatch of so many actions and side effects. -/
def SessionRecord.charge {codec : HostCodec} (s : SessionRecord codec) (counts : Int × Int) :
    SessionRecord codec :=
  if counts.1 ≠ 0 then
    { s with
      authorityActionCount := s.authorityActionCount + counts.1
      authoritySideEffectCount := s.authoritySideEffectCount + counts.2 }
  else s

/-- The URL of the decision after a dispatch. -/
def postDispatchUrl (op : Operation) : Watch host String := do
  let resolved ← Watch.scopedActionUrl op.action
  match resolved with
  | .ok (some url) => return url
  | _ => Watch.pageUrl

/-- What the decision after a dispatch does to the receipt. -/
def SessionReceipt.afterDispatch (receipt : SessionReceipt) (op : Operation)
    (decision : FirewallDecision) : SessionReceipt :=
  if decision.authorized then receipt
  else
    let stage := if op.action.type = .navigate then "post_navigation" else "post_dispatch"
    { receipt with
      authorityDecision := some decision
      receipt := { receipt.receipt with
        verdict := .notVerified
        executionStatus := stage ++ "_authority_rejected"
        executionError := some (decision.reason.getD "dispatch reached a denied origin")
        failureKind := some (stage ++ "_" ++ decision.outcome.value.toLower)
        actionEvidence := some (PyDict.set (receipt.receipt.actionEvidence.getD [])
          (stage ++ "_authority") (.dict [("outcome", .str decision.outcome.value)])) } }

/-- What `execute_operation` does with the receipt of a governed dispatch: the
budgets are charged, and the firewall judges where the dispatch ended. -/
def chargeDispatch (envelope : AuthorityEnvelope host.codec) (op : Operation)
    (receipt : SessionReceipt) : Watch host SessionReceipt := do
  modify fun s =>
    s.charge (receiptDispatchCounts receipt.receipt envelope.toAuthorityPolicy op)
  if receipt.receipt.actionStartedAtMs.isNone then return receipt
  else
    let url ← postDispatchUrl op
    let now ← Watch.nowMs
    let bytes ← Watch.uploadBytes op.action
    let s ← get
    let irreversible : Int :=
      if envelope.irreversibleActionTypes.contains op.action.type then 1 else 0
    let decision := AuthorityFirewall.decide envelope op {
      currentUrl := url
      effectiveUrl := url
      nowMs := now
      actionCount := max 0 (s.authorityActionCount - 1)
      sideEffectCount := max 0 (s.authoritySideEffectCount - irreversible)
      uploadBytes := bytes }
    return receipt.afterDispatch op decision

/-- Whether `execute_operation` refuses an operation that was not committed. -/
def needsPreparation (policy : AuthorityPolicy) (op : Operation) : Bool :=
  (governedActionTypes op).any (policy.requirePreparationFor.contains ·)

def executorContext (host : SessionHost) (reference : Option ObservationReference) :
    ExecutionContext :=
  { maxPolls := host.maxPolls, observationReference := reference }

/-- The dispatch of `execute_operation` under an envelope. -/
def governedDispatch (envelope : AuthorityEnvelope host.codec) (request : ExecuteRequest)
    (startedAtMs : Int) : Session host SessionReceipt := do
  let s ← get
  if needsPreparation envelope.toAuthorityPolicy request.operation && s.activeCommitToken.isNone then
    Act.left (T := EffectSig) (preparationRequiredReceipt request.operation startedAtMs)
  else
    let decision ← Act.left (T := EffectSig) (firewallDecision envelope request.governedOperation)
    if !decision.authorized then
      Act.left (T := EffectSig) (authorityRejectedReceipt request.operation startedAtMs decision)
    else
      let receipt ← runExecutor request.dispatchOperation
        (executorContext host request.observationReference)
      Act.left (T := EffectSig) (chargeDispatch envelope request.operation
        { receipt, authorityDecision := some decision })

/-- The middle of `execute_operation`: reject, or dispatch. -/
def dispatchRequest (request : ExecuteRequest) : Session host SessionReceipt := do
  let _ ← Act.left (T := EffectSig) Watch.listPages
  let startedAtMs ← Act.left (T := EffectSig) Watch.nowMs
  let s ← get
  match s.authorityEnvelope with
  | some envelope => governedDispatch envelope request startedAtMs
  | none =>
      let receipt ← runExecutor request.dispatchOperation
        (executorContext host request.observationReference)
      return { receipt }

/-- The facts of the session that a receipt carries. -/
def SessionRecord.annotate (s : SessionRecord host.codec) (receipt : SessionReceipt) :
    SessionReceipt :=
  { receipt with
    transaction := s.activeTransaction
    controlEpoch := some s.controlEpoch
    signedPlan := s.signedPlanAuthority
    identity := match s.identityDescriptor, s.identityAssertion with
      | some descriptor, some assertion => some (descriptor, assertion)
      | _, _ => none
    speculation := s.activeSpeculation
    mutationArbitration := if s.mutationPolicy.isSome then s.mutationLastEvidence else none }

/-- The hash that `chain_receipt` seals a receipt with. -/
def SessionRecord.receiptHash (s : SessionRecord host.codec) (op : Operation)
    (receipt : SessionReceipt) : Except PyException String :=
  host.receiptHash receipt s.receiptChainHead (host.operationHash op) s.sessionId

/-- The record's chain with a receipt that was sealed with `hash`. -/
def SessionRecord.chain (s : SessionRecord host.codec) (op : Operation) (receipt : SessionReceipt)
    (hash : String) : SessionRecord host.codec :=
  { s with
    receiptChain := s.receiptChain ++
      [⟨receipt, ⟨s.receiptChainHead, host.operationHash op, s.sessionId, hash⟩⟩]
    receiptChainHead := some hash }

/-- A speculation whose parent was dispatched and verified stays current. -/
def SpeculationRecord.advance (item : SpeculationRecord) (operationHash : String)
    (mutationEpoch : Int) : SpeculationRecord :=
  if !item.consumed && item.parentOperationHash == some operationHash &&
      item.pub.mutationEpoch.isSome then
    { item with pub := { item.pub with mutationEpoch := some mutationEpoch } }
  else item

/-- `_advance_speculations_after_parent` -/
def SessionRecord.advanceSpeculations (s : SessionRecord host.codec) (op : Operation)
    (receipt : ExecutionReceipt) : SessionRecord host.codec :=
  if receipt.verdict = .verified ∧ receipt.actionStartedAtMs.isSome then
    { s with speculations := s.speculations.map fun entry =>
        (entry.1, entry.2.advance (host.operationHash op) s.mutationEpoch) }
  else s

/-- The end of a dispatching method: a browser that is gone makes the session
terminal, and a live one reports its pages. -/
def noteBackend : Watch host Unit := do
  let alive ← Watch.isStarted
  if alive then
    touch
    let _ ← Watch.listPages
  else
    modify fun s => { s with status := .terminal }
    touch

/-- The end of `execute_operation`: chain the receipt, and account for a dispatch. -/
def recordReceipt (request : ExecuteRequest) (receipt : SessionReceipt) :
    Watch host SessionReceipt := do
  let s ← get
  let receipt := s.annotate receipt
  let hash ← Act.ofExcept (s.receiptHash request.operation receipt)
  modify fun s => s.chain request.operation receipt hash
  let dispatched := receipt.receipt.actionStartedAtMs.isSome
  modify fun s =>
    if s.signedPlanAuthority.isSome && request.signedSpeculationOperation.isNone && dispatched then
      { s with signedPlanNextIndex := s.signedPlanNextIndex + 1 }
    else s
  if s.mutationPolicy.isSome && dispatched then
    recordAgentMutation
    modify fun s => s.advanceSpeculations request.operation receipt.receipt
  noteBackend
  return receipt

/-- `execute_operation` -/
def executeRequest (request : ExecuteRequest) : Session host SessionReceipt := do
  Act.left (T := EffectSig) access
  Act.left (T := EffectSig) (executionGate request)
  let receipt ← dispatchRequest request
  Act.left (T := EffectSig) (recordReceipt request receipt)

end Dingdongditch
