import Dingdongditch.Runtime.Session

/-!
# Two-phase commit, speculation, hand-off and plans

The public methods of a session that are built around `execute_operation`.
`prepare_operation`, the hand-off and the preparation of a speculation only
observe; a commit, a selected branch, a typing session and a plan dispatch.
-/

namespace Dingdongditch

open Interaction Text

variable {host : SessionHost}

/-- The control pair that a caller presents. -/
structure Caller where
  agentId : Option String := none
  controlToken : Option String := none
  deriving DecidableEq, Repr

/-! ## Prepare -/

def rejectCommit {α : Type} (reason : CommitRejectedReason) (message : String) : Watch host α :=
  throw (twoPhaseCommitError reason message)

/-- `scheme://netloc` of a URL, in lower case; empty when either is missing. -/
def preparedOrigin (codec : HostCodec) (url : String) : String :=
  match urlsplit codec url.toList with
  | none => ""
  | some split =>
      if split.scheme = [] ∨ split.netloc = [] then ""
      else String.ofList (codec.lower split.scheme ++ "://".toList ++ codec.lower split.netloc)

/-- The node a preparation is bound to: its identity, and the key it is kept under. -/
structure PreparedTarget where
  fingerprint : String
  identity : Option String
  identityKey : String

/-- The target part of `_capture_prepared_state`. -/
def captureTarget (action : Action) (identityKey : Option String) :
    Watch host (Option PreparedTarget) := do
  match action.locator with
  | none => return none
  | some locator => do
      let target ← Act.attempt (S := QuietSig)
        (.readElementState locator action.resolvedFramePath []) id
      if target.ambiguous || !target.exists_ then
        rejectCommit .preparedStateChanged "prepared target is not uniquely available"
      else
        let key ← match identityKey with
          | some key => pure key
          | none => Watch.freshToken
        let identity ← Act.attempt (S := QuietSig)
          (.transactionTargetIdentity locator action.resolvedFramePath key)
          (Except.mapError fun _ => twoPhaseCommitError .preparedStateChanged
            "prepared target identity could not be established")
        let identity := identity.filter (· ≠ "")
        return some ⟨host.targetFingerprint target identity, identity, key⟩

/-- `_capture_prepared_state` -/
def capturePreparedState (op : Operation) (identityKey stateKey : Option String) :
    Watch host PreparedState := do
  let pageId ← Act.ask (S := QuietSig) .pageId
  let key ← match stateKey with
    | some key => pure key
    | none => Watch.freshToken
  let scope ← Act.attempt (S := QuietSig)
    (.transactionScopeState op.action.frame op.action.framePath key)
    (Except.mapError fun _ => twoPhaseCommitError .preparedStateChanged
      "material browser state could not be captured")
  let url ← match PyDict.get scope "url" with
    | .str url => pure url
    | _ => Watch.pageUrl
  let target ← captureTarget op.action identityKey
  let pages ← Watch.listPages
  let state : PreparedState := {
    pageId
    url
    origin := preparedOrigin host.codec url
    targetFingerprint := target.map (·.fingerprint)
    stateFingerprint := ""
    targetIdentityKey := target.map (·.identityKey)
    targetIdentity := target.bind (·.identity)
    scopeStateKey := key }
  return { state with stateFingerprint := host.stateFingerprint state scope pages }

/-- `_prepared_state_change_reason` -/
def preparedStateChangeReason (before after : PreparedState) : Option CommitRejectedReason :=
  if before.pageId ≠ after.pageId then some .pageChanged
  else if before.origin ≠ after.origin then some .originChanged
  else if before.targetFingerprint ≠ after.targetFingerprint then some .targetChanged
  else if before.stateFingerprint ≠ after.stateFingerprint then some .preparedStateChanged
  else none

structure PrepareRequest where
  operation : Operation
  ttlMs : Int := 30000
  caller : Caller := {}
  signedSpeculationOperation : Option String := none
  speculationSummary : Option SpeculationSummary := none

/-- The generation of the secret that a prepared fill refers to. -/
def bindPreparedSecret (action : Action) : Watch host (Option SecretBinding) := do
  match action.secretReference with
  | none => return none
  | some reference => do
      let bound ← Act.ask (S := QuietSig) (.bindSecret reference)
      match (bound : Except PyException SecretBinding) with
      | .ok binding => return some binding
      | .error e =>
          if e.type = .authenticationError then
            rejectCommit .secretBindingUnavailable
              "secret generation could not be bound for prepared commit"
          else throw e

def checkTtl (ttlMs : Int) : Watch host Unit :=
  if 100 ≤ ttlMs ∧ ttlMs ≤ 300000 then pure ()
  else throw (.valueError "ttl_ms must be between 100 and 300000")

/-- Whether a branching guard selects among declared branches. -/
def Operation.branching (op : Operation) : Bool := op.guard.any fun guard => !guard.isLegacyTargetAbsent

/-- The envelope under which an operation may be prepared: one that declares it
consequential. -/
def consequentialEnvelope (op : Operation) : Watch host (AuthorityEnvelope host.codec) := do
  let s ← get
  match s.authorityEnvelope with
  | some envelope =>
      if !needsPreparation envelope.toAuthorityPolicy op then
        rejectCommit .notConsequential
          "operation is not declared consequential by the host policy"
      else if op.branching then
        rejectCommit .preparedStateChanged
          "branching guarded actions are not eligible for a single-target commit"
      else return envelope
  | none =>
      rejectCommit .notConsequential "operation is not declared consequential by the host policy"

/-- The checks of `prepare_operation` before it looks at the browser. -/
def prepareGate (request : PrepareRequest) : Watch host Unit := do
  requireControl request.caller.agentId request.caller.controlToken
  requireIdentity
  requireSignedPlanOperation request.operation request.signedSpeculationOperation
  let changed ← refreshExternalMutation
  rejectMutationIfPolicyRequires changed true

/-- `prepare_operation` -/
def prepareOperation (request : PrepareRequest) : Watch host PreparedOperation := do
  checkTtl request.ttlMs
  access
  prepareGate request
  let op := request.operation
  let envelope ← consequentialEnvelope op
  activeBackend
  let decision ← firewallDecision envelope op
  if !decision.authorized then
    rejectCommit .authorityRejected
      (decision.reason.getD "authority firewall rejected preparation")
  else
    let state ← capturePreparedState op none none
    let binding ← bindPreparedSecret op.action
    let token ← Watch.freshToken
    let now ← Watch.nowMs
    let s ← get
    let pub : PreparedOperation := {
      token
      sessionId := s.sessionId
      expiresAtMs := now + request.ttlMs
      status := .prepared
      actionType := op.action.type
      origin := state.origin
      pageId := state.pageId
      stateFingerprint := state.stateFingerprint
      targetFingerprint := state.targetFingerprint
      operationHash := host.operationHash op
      authorityPolicyHash := host.envelopeDigest envelope
      authorityDecision := decision
      mutationEpoch := if s.mutationPolicy.isSome then some s.mutationEpoch else none
      arbitrationPolicy := s.mutationPolicy }
    modify fun s => { s with
      preparations := assign s.preparations token {
        pub
        operation := op
        state := { state with secretBinding := binding }
        signedSpeculationOperation := request.signedSpeculationOperation
        speculationSummary := request.speculationSummary
        createdUnder := s.controlEpoch } }
    touch
    return pub

/-! ## Commit -/

structure CommitRequest where
  token : String
  operation : Option Operation := none
  caller : Caller := {}

structure CommitResult where
  token : String
  committed : Bool
  rejectionReason : Option CommitRejectedReason
  receipt : Option SessionReceipt := none

/-- Reject a commit, and invalidate its preparation. -/
def refuse (token : String) (reason : CommitRejectedReason) :
    Watch host (Except CommitRejectedReason PreparedRecord) := do
  modify fun s => s.setPreparationStatus token .invalidated
  return .error reason

/-- Fields of a binding the provider may have issued. -/
def SecretBinding.wellFormed (binding : SecretBinding) : Bool :=
  SecretReference.wellFormed ⟨binding.referenceId⟩ &&
    SecretReference.wellFormed ⟨binding.providerId⟩ &&
    SecretReference.wellFormed ⟨binding.generationId⟩

/-- The check of the secret generation right before a commit is consumed. -/
def secretStillBound (prepared : PreparedRecord) : Watch host Bool := do
  match prepared.state.secretBinding with
  | none => return true
  | some binding =>
      match prepared.operation.action.secretReference with
      | none => return false
      | some reference =>
          if !binding.wellFormed then return false
          else
            let asserted ← Act.ask (S := QuietSig) (.assertSecretBinding reference binding)
            return (asserted : Except PyException Unit).isOk

/-- The checks of a commit that only read the record. -/
def commitStatus (request : CommitRequest) (changed : Bool) :
    Watch host (Except CommitRejectedReason PreparedRecord) := do
  let s ← get
  match s.preparations.lookup request.token with
  | none => return .error .preparationNotFound
  | some prepared =>
      match prepared.pub.status with
      | .committed => return .error .alreadyCommitted
      | .invalidated => return .error .preparationInvalidated
      | .prepared => do
          let now ← Watch.nowMs
          if prepared.pub.expiresAtMs ≤ now then refuse request.token .preparationExpired
          else if prepared.pub.mutationEpoch.any (· ≠ s.mutationEpoch) then
            refuse request.token .mutationEpochChanged
          else if changed && s.mutationPolicy == some .failOnExternalMutation then
            refuse request.token .mutationEpochChanged
          else if request.operation.any fun op =>
              host.operationHash op ≠ prepared.pub.operationHash then
            return .error .payloadChanged
          else return .ok prepared

/-- The checks of a commit against the browser, the policy and the secret provider. -/
def commitState (token : String) (prepared : PreparedRecord) :
    Watch host (Except CommitRejectedReason PreparedRecord) := do
  activeBackend
  let current ← capturePreparedState prepared.operation prepared.state.targetIdentityKey
    (some prepared.state.scopeStateKey)
  match preparedStateChangeReason prepared.state current with
  | some reason => refuse token reason
  | none => do
      let s ← get
      match s.authorityEnvelope with
      | none => refuse token .authorityChanged
      | some envelope =>
          if host.envelopeDigest envelope ≠ prepared.pub.authorityPolicyHash then
            refuse token .authorityChanged
          else
            let decision ← firewallDecision envelope prepared.operation
            if !decision.authorized then refuse token .authorityRejected
            else
              let bound ← secretStillBound prepared
              if bound then return .ok prepared else refuse token .secretBindingChanged

/-- Everything `commit_operation` checks before it consumes the preparation. -/
def commitChecks (request : CommitRequest) :
    Watch host (Except CommitRejectedReason PreparedRecord) := do
  access
  requireControl request.caller.agentId request.caller.controlToken
  requireIdentity
  let changed ← refreshExternalMutation
  let status ← commitStatus request changed
  match status with
  | .error reason => return .error reason
  | .ok prepared => commitState request.token prepared

/-- The record while the operation of a commit is executed. -/
def SessionRecord.committing (s : SessionRecord host.codec) (token : String)
    (prepared : PreparedRecord) : SessionRecord host.codec :=
  { s.setPreparationStatus token .committed with
    activeCommitToken := some token
    activeTransaction := some
      ⟨host.tokenId token, prepared.pub.stateFingerprint, prepared.pub.operationHash⟩
    activeSpeculation := prepared.speculationSummary.orElse fun _ => s.activeSpeculation }

/-- The request that a commit executes. -/
def PreparedRecord.request (prepared : PreparedRecord) (caller : Caller) : ExecuteRequest where
  operation := prepared.operation
  agentId := caller.agentId
  controlToken := caller.controlToken
  preparedTargetIdentity := prepared.targetBinding
  preparedSecretBinding := prepared.state.secretBinding
  signedSpeculationOperation := prepared.signedSpeculationOperation

/-- The consumption of a preparation: it is marked before the dispatch, and the
transaction is over whatever the execution does. -/
def executePrepared (request : CommitRequest) (prepared : PreparedRecord) :
    Session host SessionReceipt := do
  let s ← get
  let prior := s.activeSpeculation
  modify fun s => s.committing request.token prepared
  let reset : Session host Unit := modify fun s => { s with
    activeCommitToken := none, activeTransaction := none, activeSpeculation := prior }
  Act.andFinally (executeRequest (prepared.request request.caller)) reset

/-- `commit_operation` -/
def commitOperation (request : CommitRequest) : Session host CommitResult := do
  let checked ← Act.left (T := EffectSig) (commitChecks request)
  match checked with
  | .error reason => return ⟨request.token, false, some reason, none⟩
  | .ok prepared => do
      let receipt ← executePrepared request prepared
      Act.left (T := EffectSig) touch
      return ⟨request.token, true, none, some receipt⟩

/-! ## Speculation -/

structure SpeculateRequest where
  plan : SpeculativePlan
  ttlMs : Int := 30000
  caller : Caller := {}

/-- The signed plan has to contain exactly this graph. -/
def requireSignedSpeculation (plan : SpeculativePlan) : Watch host Unit := do
  let s ← get
  if s.signedPlanAuthority.isSome then
    Watch.rejectWhen (s.signedPlanSpeculations.lookup plan.speculationId ≠ some plan)
      .signedPlanRejected "speculative graph is not exactly authorized by signed plan"
    match plan.parentOperation with
    | none => throw ⟨.assertionError, "", none⟩
    | some parent => requireSignedPlanOperation parent none

/-- Every continuation has to be authorized already when the graph is prepared. -/
def authorizeContinuations : List SpeculativeBranch → Watch host Unit
  | [] => pure ()
  | branch :: rest => do
      let s ← get
      match s.authorityEnvelope with
      | none => throw ⟨.assertionError, "", none⟩
      | some envelope => do
          let decision ← firewallDecision envelope branch.continuation
          Watch.rejectWhen (!decision.authorized) .operationRejected
            "speculative continuation is rejected by authority firewall"
          authorizeContinuations rest

/-- `prepare_speculation` -/
def prepareSpeculation (request : SpeculateRequest) : Watch host BranchPreparation := do
  Act.ofExcept request.plan.requireExecutionBinding
  checkTtl request.ttlMs
  access
  requireControl request.caller.agentId request.caller.controlToken
  requireIdentity
  let changed ← refreshExternalMutation
  rejectMutationIfPolicyRequires changed true
  let plan ← Act.ofExcept (host.detachPlan request.plan)
  requireSignedSpeculation plan
  activeBackend
  authorizeContinuations plan.branches
  let now ← Watch.nowMs
  modify fun s => { s with
    speculations :=
      s.speculations.filter fun entry => !(entry.2.consumed || entry.2.pub.expiresAtMs ≤ now) }
  let s ← get
  Watch.rejectWhen (16 ≤ s.speculations.length) .operationRejected
    "too many active speculative preparations"
  let token ← Watch.freshToken
  let prepared : BranchPreparation := {
    token
    speculationId := plan.speculationId
    parentOperationId := plan.parentOperationId
    controlEpoch := s.controlEpoch
    mutationEpoch := if s.mutationPolicy.isSome then some s.mutationEpoch else none
    expiresAtMs := now + request.ttlMs
    branchCount := plan.branches.length }
  modify fun s => { s with speculations := assign s.speculations token {
    pub := prepared
    plan
    parentOperationHash := plan.parentOperation.map host.operationHash
    signedSpeculationOperationBytes :=
      if s.signedPlanAuthority.isSome then
        plan.branches.map fun branch => (branch.branchId, host.publicBytes branch.continuation)
      else [] } }
  touch
  return prepared

/-- The branches whose preconditions all pass now. -/
def matchingBranches (now : Int) : List SpeculativeBranch → Watch host (List String)
  | [] => return []
  | branch :: rest => do
      let url ← Watch.pageUrl
      let results ← Watch.stage branch.branchId do
        let completed ← Quiet.monotonicMs
        evaluateExpectations host.codec ⟨now, completed, branch.continuation.freshness, [], url⟩
          branch.preconditions
      let matches_ ← matchingBranches now rest
      if !results.isEmpty && results.all (·.result = .pass) then return branch.branchId :: matches_
      else return matches_

/-- Whether the last receipt of the chain proves that the parent was verified. -/
def SessionRecord.parentVerified (s : SessionRecord host.codec) (item : SpeculationRecord) : Bool :=
  match s.receiptChain.getLast? with
  | none => false
  | some last =>
      last.body.receipt.operationId = item.plan.parentOperationId &&
        last.body.receipt.verdict = .verified &&
        item.parentOperationHash == some last.entry.operationHash

/-- `select_speculative_branch` -/
def selectSpeculativeBranch (token : String) (caller : Caller) :
    Watch host SpeculationSelection := do
  let stale : SpeculationSelection := ⟨token, .stale, none⟩
  access
  requireControl caller.agentId caller.controlToken
  requireIdentity
  let s ← get
  match s.speculations.lookup token with
  | none => return stale
  | some item => do
      let now ← Watch.nowMs
      if item.pub.expiresAtMs ≤ now then return stale
      else if item.pub.controlEpoch ≠ s.controlEpoch then return stale
      else
        let _ ← refreshExternalMutation
        let s ← get
        if item.pub.mutationEpoch.any (· ≠ s.mutationEpoch) then return stale
        else if !s.parentVerified item then return stale
        else
          activeBackend
          let monotonic ← Act.ask (S := QuietSig) .monotonicMs
          let matched ← matchingBranches monotonic item.plan.branches
          let selection : SpeculationSelection := match matched with
            | [branchId] => ⟨token, .selected, some branchId⟩
            | [] => ⟨token, .noMatch, none⟩
            | _ => ⟨token, .ambiguous, none⟩
          modify fun s => { s with speculations := s.speculations.map fun entry =>
            (entry.1, if entry.1 == token then { entry.2 with selected := some selection }
              else entry.2) }
          touch
          return selection

/-- A branch that was selected and is still eligible. -/
structure EligibleBranch where
  branch : SpeculativeBranch
  summary : SpeculationSummary
  signedOperation : Option String

/-- The branch that a speculation selected, when it may still be executed. -/
def SpeculationRecord.selectedBranch (item : SpeculationRecord) : Option String :=
  if item.consumed then none
  else match item.selected with
    | some ⟨_, .selected, some branchId⟩ => some branchId
    | _ => none

/-- Everything `execute_selected_speculative_branch` checks before it consumes
the selection. -/
def eligibleBranch (token : String) (caller : Caller) : Watch host EligibleBranch := do
  access
  requireControl caller.agentId caller.controlToken
  requireIdentity
  let s ← get
  match s.speculations.lookup token with
  | none => Watch.reject .operationRejected "speculative branch is not uniquely selected"
  | some item =>
      match item.selectedBranch with
      | none => Watch.reject .operationRejected "speculative branch is not uniquely selected"
      | some branchId => do
          let now ← Watch.nowMs
          Watch.rejectWhen (item.pub.expiresAtMs ≤ now || item.pub.controlEpoch ≠ s.controlEpoch)
            .mutationConflict "speculative branch is stale"
          let _ ← refreshExternalMutation
          let s ← get
          Watch.rejectWhen (item.pub.mutationEpoch.any (· ≠ s.mutationEpoch)) .mutationConflict
            "speculative branch is stale after mutation"
          let refreshed ← selectSpeculativeBranch token caller
          Watch.rejectWhen (refreshed.status ≠ .selected || refreshed.branchId ≠ some branchId)
            .mutationConflict "speculative branch eligibility changed"
          match item.plan.branches.find? (·.branchId = branchId) with
          | none => throw ⟨.other, "", none⟩
          | some branch => do
              activeBackend
              let s ← get
              match s.authorityEnvelope with
              | none => throw ⟨.assertionError, "", none⟩
              | some envelope => do
                  let decision ← firewallDecision envelope branch.continuation
                  Watch.rejectWhen (!decision.authorized) .operationRejected
                    "selected speculative branch is rejected by authority firewall"
                  modify fun s => { s with speculations := s.speculations.map fun entry =>
                    (entry.1, if entry.1 == token then { entry.2 with consumed := true }
                      else entry.2) }
                  return ⟨branch, ⟨item.plan.speculationId, branch.branchId⟩,
                    item.signedSpeculationOperationBytes.lookup branch.branchId⟩

inductive SpeculationResult
  | prepared (operation : PreparedOperation)
  | executed (receipt : SessionReceipt)

/-- `execute_selected_speculative_branch` -/
def executeSelectedSpeculativeBranch (token : String) (caller : Caller) :
    Session host SpeculationResult := do
  let eligible ← Act.left (T := EffectSig) (eligibleBranch token caller)
  let op := eligible.branch.continuation
  let s ← get
  if s.authorityEnvelope.any fun envelope => needsPreparation envelope.toAuthorityPolicy op then
    let prepared ← Act.left (T := EffectSig) (prepareOperation {
      operation := op
      caller
      signedSpeculationOperation := eligible.signedOperation
      speculationSummary := some eligible.summary })
    return .prepared prepared
  else
    modify fun s => { s with activeSpeculation := some eligible.summary }
    let reset : Session host Unit := modify fun s => { s with activeSpeculation := none }
    let receipt ← Act.andFinally (executeRequest {
      operation := op
      agentId := caller.agentId
      controlToken := caller.controlToken
      signedSpeculationOperation := eligible.signedOperation }) reset
    return .executed receipt

/-! ## Hand-off -/

/-- `_validate_agent_id` -/
def validateAgentId (agentId : Option String) : Watch host Unit :=
  match agentId with
  | none => pure ()
  | some id =>
      if id = "" ∨ 128 < id.length ∨ id.toList.any isSpace then
        throw (.valueError "agent_id must be a non-empty token up to 128 characters")
      else pure ()

structure OfferRequest where
  caller : Caller := {}
  ttlMs : Int := 60000
  recipientAgentId : Option String := none
  recipientIdentityAssertion : Option IdentityAssertion := none

/-- Verify the identity that the recipient of a hand-off will act under. -/
def verifyRecipient (request : OfferRequest) : Watch host (Option AgentIdentity) := do
  match request.recipientIdentityAssertion with
  | none => return none
  | some assertion => do
      let s ← get
      Watch.rejectWhen (!s.identityRegistryInstalled) .operationRejected
        "no trusted identity registry is installed"
      let verified ← Act.ask (S := QuietSig) (.verifyIdentity assertion request.recipientAgentId)
      match (verified : Except PyException AgentIdentity) with
      | .ok descriptor => return some descriptor
      | .error e =>
          if e.type = .identityError then
            Watch.reject .operationRejected "recipient identity assertion was rejected"
          else throw e

/-- Whether the policy lets open preparations pass to the recipient of a hand-off. -/
def SessionRecord.transferable (s : SessionRecord host.codec) : Bool :=
  s.authorityEnvelope.any (·.transferPreparedOperations)

/-- `prepare_agent_handoff` -/
def prepareAgentHandoff (request : OfferRequest) : Watch host AgentHandoffCheckpoint := do
  checkTtl request.ttlMs
  validateAgentId request.recipientAgentId
  access
  requireControl request.caller.agentId request.caller.controlToken
  requireIdentity
  let _ ← refreshExternalMutation
  let descriptor ← verifyRecipient request
  activeBackend
  modify fun s => if s.transferable then s else s.invalidatePreparations
  let _ ← Watch.listPages
  let token ← Watch.freshToken
  let now ← Watch.nowMs
  let _ ← Watch.pageUrl
  let s ← get
  let checkpoint : AgentHandoffCheckpoint := {
    handoffToken := token
    oldAgentId := s.agentId
    recipientAgentId := request.recipientAgentId
    controlEpoch := s.controlEpoch
    expiresAtMs := now + request.ttlMs
    mutationEpoch := if s.mutationPolicy.isSome then some s.mutationEpoch else none }
  modify fun s => { s with pendingHandoffs := [(token,
    ⟨checkpoint, false, request.recipientIdentityAssertion, descriptor⟩)] }
  touch
  return checkpoint

structure ClaimRequest where
  handoffToken : String
  newAgentId : String
  authenticatedAgentId : Option String := none

/-- An identity that stays bound has to authorize the recipient as controller. -/
def verifyKeptIdentity (pending : PendingHandoff) (newAgentId : String) : Watch host Unit := do
  let s ← get
  match pending.recipientIdentityAssertion, s.identityAssertion with
  | none, some assertion => do
      if !s.identityRegistryInstalled then throw ⟨.assertionError, "", none⟩
      let verified ← Act.ask (S := QuietSig) (.verifyIdentity assertion (some newAgentId))
      match (verified : Except PyException AgentIdentity) with
      | .ok _ => pure ()
      | .error e =>
          if e.type = .identityError then
            Watch.reject .handoffRecipientRejected
              "identity assertion does not authorize recipient controller"
          else throw e
  | _, _ => pure ()

/-- The identity checks of a claim. -/
def checkRecipientIdentity (pending : PendingHandoff) (newAgentId : String) : Watch host Unit := do
  verifyKeptIdentity pending newAgentId
  let s ← get
  let candidate := (pending.recipientIdentityAssertion.orElse fun _ => s.identityAssertion).map
    (·.identityId)
  Watch.rejectWhen (s.signedIdentity.isSome && candidate ≠ s.signedIdentity)
    .handoffRecipientRejected "handoff identity is outside signed-plan scope"

/-- A checkpoint that names a mutation epoch is stale after a mutation. -/
def checkClaimEpoch (checkpoint : AgentHandoffCheckpoint) : Watch host Unit := do
  if checkpoint.mutationEpoch.isSome then
    let _ ← refreshExternalMutation
    let s ← get
    Watch.rejectWhen (checkpoint.mutationEpoch ≠ some s.mutationEpoch) .handoffCheckpointStale
      "handoff checkpoint is stale after browser mutation"

/-- The checks of a claim, in their order. -/
def checkClaim (request : ClaimRequest) (pending : PendingHandoff) : Watch host Unit := do
  let checkpoint := pending.checkpoint
  Watch.rejectWhen pending.claimed .handoffAlreadyClaimed "handoff token was already claimed"
  let now ← Watch.nowMs
  Watch.rejectWhen (checkpoint.expiresAtMs ≤ now) .handoffTokenExpired "handoff token expired"
  let s ← get
  Watch.rejectWhen (checkpoint.controlEpoch ≠ s.controlEpoch || checkpoint.oldAgentId ≠ s.agentId)
    .handoffCheckpointStale "handoff checkpoint is stale"
  checkClaimEpoch checkpoint
  Watch.rejectWhen (checkpoint.recipientAgentId.any (· ≠ request.newAgentId))
    .handoffRecipientRejected "handoff belongs to a different recipient"
  Watch.rejectWhen (request.authenticatedAgentId.any (· ≠ request.newAgentId))
    .handoffRecipientRejected "authenticated caller does not match handoff recipient"
  Watch.rejectWhen (2 ^ 63 - 1 ≤ s.controlEpoch) .handoffCheckpointStale
    "control epoch is exhausted"
  checkRecipientIdentity pending request.newAgentId

/-- The record once a hand-off was claimed. -/
def SessionRecord.handedOver (s : SessionRecord host.codec) (pending : PendingHandoff)
    (newAgentId controlToken : String) : SessionRecord host.codec :=
  { s with
    agentId := some newAgentId
    identityAssertion := pending.recipientIdentityAssertion.orElse fun _ => s.identityAssertion
    identityDescriptor :=
      if pending.recipientIdentityAssertion.isSome then pending.recipientIdentityDescriptor
      else s.identityDescriptor
    controlEpoch := s.controlEpoch + 1
    controlToken := some controlToken
    pendingHandoffs := [] }

/-- `claim_agent_handoff` -/
def claimAgentHandoff (request : ClaimRequest) : Watch host AgentHandoff := do
  validateAgentId (some request.newAgentId)
  access
  let s ← get
  match s.pendingHandoffs.lookup request.handoffToken with
  | none => Watch.reject .handoffTokenInvalid "handoff token is invalid"
  | some pending => do
      checkClaim request pending
      let token ← Watch.freshToken
      modify fun s => s.handedOver pending request.newAgentId token
      touch
      let s ← get
      return ⟨request.newAgentId, s.controlEpoch, token⟩

/-! ## Plans and typing sessions -/

/-- An `ExecutionPlan`, with the outcomes of its own validation and of the
comparison of its browser configuration with the session's. -/
structure ExecutionPlan (codec : HostCodec) where
  operations : List Operation
  speculativePlans : List SpeculativePlan := []
  authorityEnvelope : Option (AuthorityEnvelope codec) := none
  validation : Declared
  configDescribed : Bool
  configEqual : Bool
  screenshotConfig : ScreenshotConfig := {}

/-- The verdicts after which a plan stops. -/
def Verdict.stopping : Verdict → Bool
  | .verified => false
  | _ => true

/-- The steps of a plan: each operation in order, until one does not end in
`VERIFIED` or raises. -/
def planSteps (plan : ExecutionPlan host.codec) :
    List Operation → Session host (List (String × Option ExecutionReceipt))
  | [] => return []
  | op :: rest => do
      let deadline ← Act.left (T := EffectSig) (Act.ask (S := QuietSig) .planDeadline)
      let attempt : Session host (Option ExecutionReceipt) := do
        let receipt ← runExecutor op {
          maxPolls := host.maxPolls
          planTiming := some ⟨deadline⟩
          screenshotConfig := some plan.screenshotConfig }
        return some receipt
      let receipt ← tryCatch attempt fun _ => pure none
      match receipt with
      | none => return [(op.operationId, none)]
      | some receipt =>
          if receipt.verdict.stopping then return [(op.operationId, some receipt)]
          else
            let steps ← planSteps plan rest
            return (op.operationId, some receipt) :: steps

/-- `_execute_plan` on the backend of the session. -/
def runPlan (plan : ExecutionPlan host.codec) : Session host (List (String × Option ExecutionReceipt)) := do
  match plan.validation.validate with
  | .error e =>
      if e.type = .browserConfigError ∨ e.type = .valueError then return []
      else throw e
  | .ok () =>
      if !plan.configEqual then return []
      else
        let started ← Act.left (T := EffectSig) (Act.ask (S := QuietSig) .startBackend)
        match (started : Except PyException Unit) with
        | .error e => if e.type = .browserConfigError then return [] else throw e
        | .ok () => planSteps plan plan.operations

/-- The head of `execute_plan`. -/
def planGate (plan : ExecutionPlan host.codec) (caller : Caller) : Watch host Unit := do
  access
  requireControl caller.agentId caller.controlToken
  activeBackend
  Watch.rejectWhen (!plan.configDescribed) .sessionConfigMismatch
    "plan browser configuration does not match the retained session"
  let s ← get
  Watch.rejectWhen s.authorityEnvelope.isSome .operationRejected
    "governed sessions execute ordered plan operations through the session authority boundary"

/-- `execute_plan` -/
def executePlan (plan : ExecutionPlan host.codec) (caller : Caller) :
    Session host (List (String × Option ExecutionReceipt)) := do
  Act.left (T := EffectSig) (planGate plan caller)
  let steps ← runPlan plan
  Act.left (T := EffectSig) noteBackend
  return steps

structure TypingSessionConfig where
  sessionId : String
  url : String
  text : List Char
  targetLocator : Locator
  maxTextChunkCharacters : Nat := 32
  operationTimeoutMs : Int := 10000
  interKeyDelayMs : Int := 0
  finalExpectations : List Expectation := []

namespace TypingSessionConfig

def validate (config : TypingSessionConfig) : Except PyException Unit := do
  rejectIf (stripBy isSpace config.sessionId.toList).isEmpty "typing session_id is required"
  rejectIf (config.url = "") "typing session url is required"
  rejectIf config.text.isEmpty "typing session text is required"
  config.targetLocator.validate
  rejectIf (!(1 ≤ config.maxTextChunkCharacters && config.maxTextChunkCharacters ≤ 1024))
    "max_text_chunk_characters must be between 1 and 1024"
  rejectIf (config.operationTimeoutMs < 100) "operation_timeout_ms must be >= 100"
  rejectIf (!(0 ≤ config.interKeyDelayMs && config.interKeyDelayMs ≤ 5000))
    "inter_key_delay_ms must be between 0 and 5000"
  config.finalExpectations.forM Expectation.validate

def operation (config : TypingSessionConfig) (suffix : String) (action : Action) : Operation where
  operationId := config.sessionId ++ "-" ++ suffix
  url := config.url
  action := action
  timeoutMs := config.operationTimeoutMs

/-- `f"key-{index:04d}"` -/
def keySuffix (index : Nat) : String :=
  let digits := Nat.toDigits 10 index
  "key-" ++ String.ofList (List.replicate (4 - digits.length) '0' ++ digits)

def targetOperation (config : TypingSessionConfig) : Operation :=
  config.operation "target" { type := .click, locator := some config.targetLocator }

def keyOperation (config : TypingSessionConfig) (index : Nat) (key : String) : Operation :=
  config.operation (keySuffix index)
    { type := .pressKey, key := some key, keyScope := some .activePage }

end TypingSessionConfig

/-- `_control_key` -/
def controlKey (c : Char) : Option String :=
  if c = '\n' then some "Enter"
  else if c = '\t' then some "Tab"
  else if c.toNat = 27 then some "Escape"
  else if c.toNat = 8 then some "Backspace"
  else if c.toNat = 127 then some "Delete"
  else none

/-- Execute one operation of a typing session; only the first one carries the
observation reference. -/
def typeOperation (caller : Caller) (reference : Option ObservationReference) (op : Operation) :
    Session host SessionReceipt :=
  executeRequest {
    operation := op
    observationReference := reference
    agentId := caller.agentId
    controlToken := caller.controlToken }

/-- `_dispatch_text`: the keys of one chunk, until one fails; the number that did not. -/
def typeKeys (config : TypingSessionConfig) (caller : Caller) (index : Nat) :
    List String → Session host Bool
  | [] => return true
  | key :: rest => do
      let receipt ← typeOperation caller none (config.keyOperation index key)
      if receipt.receipt.executionError.isSome then return false
      else typeKeys config caller (index + 1) rest

/-- The characters of the next chunk: one control key, or a run of printable ones. -/
def nextChunk (isPrintable : Char → Bool) (config : TypingSessionConfig) (text : List Char) :
    List String :=
  match text with
  | [] => []
  | c :: _ =>
      match controlKey c with
      | some key => [key]
      | none => ((text.take config.maxTextChunkCharacters).takeWhile fun c =>
          (controlKey c).isNone && isPrintable c).map fun c => String.ofList [c]

/-- The loop of `TypingSession.run`, chunk by chunk. -/
def typeText (config : TypingSessionConfig) (caller : Caller) (index : Nat) :
    List Char → Session host Bool
  | [] => return true
  | c :: text =>
      match nextChunk host.isPrintable config (c :: text) with
      | [] => return false
      | key :: keys => do
          let typed ← typeKeys config caller index (key :: keys)
          if !typed then return false
          else
            let rest := text.drop keys.length
            if config.interKeyDelayMs ≠ 0 && !rest.isEmpty then
              Act.left (T := EffectSig)
                (Act.attempt (S := QuietSig) (.waitForTimeout config.interKeyDelayMs) id)
            typeText config caller (index + keys.length + 1) rest
termination_by text => text.length
decreasing_by
  simp only [List.length_drop, List.length_cons]
  omega

/-- `_final_verify` -/
def finalVerify (config : TypingSessionConfig) : Watch host Bool := do
  if config.finalExpectations.isEmpty then return true
  else
    let url ← Watch.pageUrl
    let results ← Watch.stage config.sessionId do
      let started ← Quiet.monotonicMs
      let completed ← Quiet.monotonicMs
      evaluateExpectations host.codec ⟨started, completed, {}, [], url⟩ config.finalExpectations
    return results.all (·.result = .pass)

/-- `execute_typing_session` -/
def executeTypingSession (config : TypingSessionConfig) (reference : Option ObservationReference)
    (caller : Caller) : Session host Bool := do
  Act.left (T := EffectSig) do
    Act.ofExcept config.validate
    access
    requireControl caller.agentId caller.controlToken
    requireIdentity
    activeBackend
  let target ← typeOperation caller reference config.targetOperation
  if target.receipt.executionError.isSome then return false
  else
    let typed ← typeText config caller 0 config.text
    if !typed then return false
    else Act.left (T := EffectSig) (finalVerify config)

end Dingdongditch
