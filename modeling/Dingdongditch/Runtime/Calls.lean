import Dingdongditch.Interaction.System
import Dingdongditch.Runtime.Methods

/-!
# The API of a session

Opening a session, the remaining public methods, and the session as a
component: `SessionCall` lists the calls a client or the host can make, with
the arguments they pass, and `sessionComponent` says what each of them runs.
The lock of a record serialises its calls, so the runs of the component are the
histories of one session under any interleaving of its clients.
-/

namespace Dingdongditch

open Interaction Text

variable {host : SessionHost}

/-! ## Opening -/

structure OpenRequest (codec : HostCodec) where
  idleTimeoutMs : Int := 1800000
  authorityEnvelope : Option (AuthorityEnvelope codec) := none
  agentId : Option String := none
  mutationPolicy : Option MutationArbitrationPolicy := none

/-- The record that `open_session` creates. -/
def OpenRequest.record {codec : HostCodec} (request : OpenRequest codec)
    (sessionId controlToken scopeKey : String) (now : Int) : SessionRecord codec where
  sessionId
  lastActivityAtMs := now
  idleTimeoutMs := request.idleTimeoutMs
  authorityEnvelope := request.authorityEnvelope
  agentId := request.agentId
  controlToken := request.agentId.map fun _ => controlToken
  mutationPolicy := request.mutationPolicy
  mutationScopeKey := request.mutationPolicy.map fun _ => scopeKey

/-- `_initialize_mutation_monitor` -/
def initializeMutationMonitor : Watch host Unit := do
  let s ← get
  match s.mutationPolicy, s.mutationScopeKey with
  | some _, some key => do
      activeBackend
      let state ← Watch.scopeState key
      match state with
      | .error e => throw e
      | .ok state =>
          modify fun s => { s with mutationStateFingerprint := some (host.mutationFingerprint state) }
  | _, _ => pure ()

/-- The part of `open_session` that follows the start of its backend. -/
def openRecord (request : OpenRequest host.codec) : Watch host Unit := do
  if request.mutationPolicy.isSome then
    tryCatch initializeMutationMonitor fun _ => do
      closeRecord .terminal
      throw ⟨.statefulSessionError, "browser mutation monitor could not be initialized",
        some "browser_startup_failure"⟩

/-- `s` is the record of a session that was just opened. -/
def Opened (request : OpenRequest host.codec) (s : SessionRecord host.codec) : Prop :=
  ∃ sessionId controlToken scopeKey now t,
    Act.Runs (openRecord request) (request.record sessionId controlToken scopeKey now) t (.ok ()) s

/-! ## The remaining methods -/

/-- `_select_backend_page` -/
def selectBackendPage (pageId : String) : Watch host Unit := do
  let pages ← Watch.listPages
  Watch.rejectWhen (!pages.any fun page => page.pageId = pageId && page.isOpen) .invalidPageId
    "page ID is invalid or closed"
  Act.attempt (S := QuietSig) (.activatePage pageId) id

/-- `observe_page`; a caller that presents no control value is not checked. -/
def observePage (pageId : Option String) (caller : Caller) : Watch host BackendObservation := do
  access
  if caller.agentId.isSome || caller.controlToken.isSome then
    requireControl caller.agentId caller.controlToken
  activeBackend
  match pageId with
  | some pageId => selectBackendPage pageId
  | none => pure ()
  let observation ← Act.ask (S := QuietSig) .observe
  touch
  return observation

/-- `select_page` -/
def selectPage (pageId : String) (caller : Caller) : Watch host Unit := do
  access
  requireControl caller.agentId caller.controlToken
  activeBackend
  selectBackendPage pageId
  touch
  let _ ← Watch.listPages

/-- `inspect_pages` -/
def inspectPages : Watch host (List PageFacts) := do
  access
  activeBackend
  let pages ← Watch.listPages
  touch
  return pages

/-- `record_external_mutation` -/
def recordExternalMutation (actor : MutationActor) : Watch host MutationEvidence := do
  if actor = .agent then
    throw (.valueError "external mutation actor must be human or external_unknown")
  else
    access
    let s ← get
    Watch.rejectWhen s.mutationPolicy.isNone .mutationConflict "mutation arbitration is not configured"
    advanceMutationEpoch actor "trusted_host"

/-- `bind_identity` -/
def bindIdentity (assertion : IdentityAssertion) : Watch host Unit := do
  access
  let s ← get
  Watch.rejectWhen (s.signedIdentity.any (· ≠ assertion.identityId)) .signedPlanRejected
    "identity is outside signed-plan scope"
  let verified ← Act.ask (S := QuietSig) (.verifyIdentity assertion s.agentId)
  match (verified : Except PyException AgentIdentity) with
  | .error e =>
      if e.type = .identityError then
        Watch.reject .operationRejected "identity assertion was rejected"
      else throw e
  | .ok descriptor => do
      modify fun s => { s with
        identityRegistryInstalled := true
        identityAssertion := some assertion
        identityDescriptor := some descriptor }
      touch

/-- A signed plan document, with the hash of its canonical form. -/
structure SignedPlan (codec : HostCodec) where
  plan : ExecutionPlan codec
  authority : SignedPlanAuthority
  canonicalPlanHash : String
  agentIdentityId : Option String := none

/-- The checks of `bind_signed_plan_authority`. -/
def checkSignedPlan (request : SignedPlan host.codec) : Watch host Unit := do
  let s ← get
  Watch.rejectWhen s.signedPlanAuthority.isSome .signedPlanRejected
    "a signed plan is already installed"
  Watch.rejectWhen (!request.plan.validation.validate.isOk) .signedPlanRejected
    "signed plan document is invalid"
  Watch.rejectWhen (!request.plan.configDescribed) .sessionConfigMismatch
    "signed plan browser configuration does not match session"
  Watch.rejectWhen
    (s.authorityEnvelope.isNone || request.plan.authorityEnvelope ≠ s.authorityEnvelope)
    .signedPlanRejected "signed plan authority is not the host-installed envelope"
  Watch.rejectWhen
    (request.agentIdentityId.any fun id => s.identityAssertion.map (·.identityId) ≠ some id)
    .signedPlanRejected "host-supplied signed-plan identity does not match session identity"
  let verified ← Act.ask (S := QuietSig) (.verifySignedPlan request.authority)
  Watch.rejectWhen (!verified) .signedPlanRejected "signed plan verification failed"
  Watch.rejectWhen (request.authority.planHash ≠ request.canonicalPlanHash) .signedPlanRejected
    "signed plan hash does not match document"

/-- `bind_signed_plan_authority` -/
def bindSignedPlanAuthority (request : SignedPlan host.codec) : Watch host Unit := do
  access
  checkSignedPlan request
  modify fun s => { s with
    signedPlanAuthority := some request.authority
    signedPlanOperationBytes := request.plan.operations.map host.publicBytes }
  let speculations ← Act.ofExcept <| request.plan.speculativePlans.mapM fun plan => do
    let detached ← host.detachPlan plan
    return (plan.speculationId, detached)
  modify fun s => { s with
    signedPlanSpeculations := speculations.foldl (fun known entry => assign known entry.1 entry.2) []
    signedPlanNextIndex := 0 }
  touch

/-- `close_session` -/
def closeSession (caller : Caller) : Watch host Unit := do
  let s ← get
  if s.status = .closed ∨ s.status = .expired then pure ()
  else
    requireControl caller.agentId caller.controlToken
    closeRecord .closed

/-- `cleanup_expired_sessions`, for one record -/
def cleanupExpired : Watch host Unit := do
  let now ← Watch.nowMs
  let s ← get
  if s.status = .open_ ∧ s.idleTimeoutMs ≤ now - s.lastActivityAtMs then closeRecord .expired

/-! ## The component -/

/-- A call of the API, with the arguments that its caller passes. -/
inductive SessionCall (host : SessionHost)
  | observePage (pageId : Option String) (caller : Caller)
  | prepareOperation (operation : Operation) (ttlMs : Int) (caller : Caller)
  | commitOperation (request : CommitRequest)
  | bindSignedPlanAuthority (request : SignedPlan host.codec)
  | bindIdentity (assertion : IdentityAssertion)
  | prepareSpeculation (request : SpeculateRequest)
  | selectSpeculativeBranch (token : String) (caller : Caller)
  | executeSelectedSpeculativeBranch (token : String) (caller : Caller)
  | prepareAgentHandoff (request : OfferRequest)
  | claimAgentHandoff (request : ClaimRequest)
  | executeOperation (operation : Operation) (reference : Option ObservationReference)
      (caller : Caller)
  | executePlan (plan : ExecutionPlan host.codec) (caller : Caller)
  | executeTypingSession (config : TypingSessionConfig) (reference : Option ObservationReference)
      (caller : Caller)
  | inspectPages
  | selectPage (pageId : String) (caller : Caller)
  | recordExternalMutation (actor : MutationActor)
  | closeSession (caller : Caller)
  | cleanupExpired

namespace SessionCall

def Reply : SessionCall host → Type
  | .observePage _ _ => BackendObservation
  | .prepareOperation _ _ _ => PreparedOperation
  | .commitOperation _ => CommitResult
  | .bindSignedPlanAuthority _ => Unit
  | .bindIdentity _ => Unit
  | .prepareSpeculation _ => BranchPreparation
  | .selectSpeculativeBranch _ _ => SpeculationSelection
  | .executeSelectedSpeculativeBranch _ _ => SpeculationResult
  | .prepareAgentHandoff _ => AgentHandoffCheckpoint
  | .claimAgentHandoff _ => AgentHandoff
  | .executeOperation _ _ _ => SessionReceipt
  | .executePlan _ _ => List (String × Option ExecutionReceipt)
  | .executeTypingSession _ _ _ => Bool
  | .inspectPages => List PageFacts
  | .selectPage _ _ => Unit
  | .recordExternalMutation _ => MutationEvidence
  | .closeSession _ => Unit
  | .cleanupExpired => Unit

/-- What a call of the API runs.  An outside caller passes none of the arguments
that the methods only pass to one another. -/
def body : (call : SessionCall host) → Session host call.Reply
  | .observePage pageId caller => Act.left (T := EffectSig) (Dingdongditch.observePage pageId caller)
  | .prepareOperation operation ttlMs caller =>
      Act.left (T := EffectSig) (Dingdongditch.prepareOperation { operation, ttlMs, caller })
  | .commitOperation request => Dingdongditch.commitOperation request
  | .bindSignedPlanAuthority request =>
      Act.left (T := EffectSig) (Dingdongditch.bindSignedPlanAuthority request)
  | .bindIdentity assertion => Act.left (T := EffectSig) (Dingdongditch.bindIdentity assertion)
  | .prepareSpeculation request =>
      Act.left (T := EffectSig) (Dingdongditch.prepareSpeculation request)
  | .selectSpeculativeBranch token caller =>
      Act.left (T := EffectSig) (Dingdongditch.selectSpeculativeBranch token caller)
  | .executeSelectedSpeculativeBranch token caller =>
      Dingdongditch.executeSelectedSpeculativeBranch token caller
  | .prepareAgentHandoff request =>
      Act.left (T := EffectSig) (Dingdongditch.prepareAgentHandoff request)
  | .claimAgentHandoff request => Act.left (T := EffectSig) (Dingdongditch.claimAgentHandoff request)
  | .executeOperation operation reference caller => executeRequest {
      operation
      observationReference := reference
      agentId := caller.agentId
      controlToken := caller.controlToken }
  | .executePlan plan caller => Dingdongditch.executePlan plan caller
  | .executeTypingSession config reference caller =>
      Dingdongditch.executeTypingSession config reference caller
  | .inspectPages => Act.left (T := EffectSig) Dingdongditch.inspectPages
  | .selectPage pageId caller => Act.left (T := EffectSig) (Dingdongditch.selectPage pageId caller)
  | .recordExternalMutation actor =>
      Act.left (T := EffectSig) (Dingdongditch.recordExternalMutation actor)
  | .closeSession caller => Act.left (T := EffectSig) (Dingdongditch.closeSession caller)
  | .cleanupExpired => Act.left (T := EffectSig) Dingdongditch.cleanupExpired

/-- The control pair that the caller of a call presents, if the call takes one. -/
def caller : SessionCall host → Option Caller
  | .observePage _ caller => some caller
  | .prepareOperation _ _ caller => some caller
  | .commitOperation request => some request.caller
  | .prepareSpeculation request => some request.caller
  | .selectSpeculativeBranch _ caller => some caller
  | .executeSelectedSpeculativeBranch _ caller => some caller
  | .prepareAgentHandoff request => some request.caller
  | .executeOperation _ _ caller => some caller
  | .executePlan _ caller => some caller
  | .executeTypingSession _ _ caller => some caller
  | .selectPage _ caller => some caller
  | .closeSession caller => some caller
  | _ => none

end SessionCall

/-- A session as a component: its methods are the calls of the API. -/
def sessionComponent (host : SessionHost) :
    Component RuntimeSig (SessionRecord host.codec) PyException where
  Method := SessionCall host
  Reply := SessionCall.Reply
  body := SessionCall.body

abbrev SessionStep (host : SessionHost) : Type := (sessionComponent host).Step

/-- A run of a session, from a record on. -/
abbrev SessionRun (host : SessionHost) (s : SessionRecord host.codec)
    (steps : List (SessionStep host)) (s' : SessionRecord host.codec) : Prop :=
  Component.Run (sessionComponent host) s steps s'

end Dingdongditch
