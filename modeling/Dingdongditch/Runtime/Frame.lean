import Dingdongditch.Runtime.Calls

/-!
# What the parts of a method leave in place

`Settles s s'` says what holds of the record whenever a part of a method took it
from `s` to `s'` without a hand-off, a new preparation or a new speculation: the
values that govern a dispatch are the same, an open preparation was there
before, and a speculation has the plan it had.  There is one lemma for each
part; a part that writes nothing keeps every property of the record.
-/

namespace Dingdongditch

open Interaction Text

/-- The values of a record that govern what its session may dispatch. -/
structure Governance (codec : HostCodec) where
  authorityEnvelope : Option (AuthorityEnvelope codec)
  agentId : Option String
  controlToken : Option String
  controlEpoch : Nat
  identityAssertion : Option IdentityAssertion
  identityRegistryInstalled : Bool
  mutationPolicy : Option MutationArbitrationPolicy
  mutationScopeKey : Option String
  signedPlanAuthority : Option SignedPlanAuthority
  activeCommitToken : Option String

variable {codec : HostCodec} {host : SessionHost}

def SessionRecord.governance (s : SessionRecord codec) : Governance codec where
  authorityEnvelope := s.authorityEnvelope
  agentId := s.agentId
  controlToken := s.controlToken
  controlEpoch := s.controlEpoch
  identityAssertion := s.identityAssertion
  identityRegistryInstalled := s.identityRegistryInstalled
  mutationPolicy := s.mutationPolicy
  mutationScopeKey := s.mutationScopeKey
  signedPlanAuthority := s.signedPlanAuthority
  activeCommitToken := s.activeCommitToken

structure Settles (s s' : SessionRecord codec) : Prop where
  governance : s'.governance = s.governance
  preparations : ∀ token p, s'.preparations.lookup token = some p → p.isPrepared →
    s.preparations.lookup token = some p
  speculations : ∀ token item, s'.speculations.lookup token = some item →
    ∃ before, s.speculations.lookup token = some before ∧ before.plan = item.plan

namespace Settles

variable {s s₁ s₂ : SessionRecord codec}

/-- An update of other fields. -/
theorem of_eq (governance : s₁.governance = s.governance)
    (preparations : s₁.preparations = s.preparations)
    (speculations : s₁.speculations = s.speculations) : Settles s s₁ :=
  ⟨governance, fun _ _ found _ => preparations ▸ found,
    fun _ item found => ⟨item, speculations ▸ found, rfl⟩⟩

theorem refl (s : SessionRecord codec) : Settles s s := of_eq rfl rfl rfl

theorem trans (first : Settles s s₁) (second : Settles s₁ s₂) : Settles s s₂ := by
  refine ⟨second.governance.trans first.governance, ?_, ?_⟩
  · intro token p found isPrepared
    exact first.preparations token p (second.preparations token p found isPrepared) isPrepared
  · intro token item found
    obtain ⟨middle, found, plan⟩ := second.speculations token item found
    obtain ⟨before, found, samePlan⟩ := first.speculations token middle found
    exact ⟨before, found, samePlan.trans plan⟩

end Settles

/-! ## Updates of the dictionaries -/

theorem PreparedRecord.isPrepared_setStatus (p : PreparedRecord) {status : PreparationStatus}
    (closed : status ≠ .prepared) : (p.setStatus status).isPrepared = false :=
  decide_eq_false closed

theorem PreparedRecord.invalidateIfPrepared_isPrepared (p : PreparedRecord) :
    p.invalidateIfPrepared.isPrepared = false := by
  unfold invalidateIfPrepared
  split
  · exact p.isPrepared_setStatus (by decide)
  · next closed => exact Bool.eq_false_iff.mpr closed

theorem SessionRecord.invalidatePreparations_lookup (s : SessionRecord codec) (token : String) :
    s.invalidatePreparations.preparations.lookup token =
      (s.preparations.lookup token).map PreparedRecord.invalidateIfPrepared :=
  lookup_map_value (fun _ => PreparedRecord.invalidateIfPrepared) s.preparations token

/-- No preparation is open any more. -/
def SessionRecord.NonePrepared (s : SessionRecord codec) : Prop :=
  ∀ token p, s.preparations.lookup token = some p → p.isPrepared = false

theorem SessionRecord.invalidatePreparations_nonePrepared (s : SessionRecord codec) :
    s.invalidatePreparations.NonePrepared := by
  intro token p found
  rw [s.invalidatePreparations_lookup] at found
  obtain ⟨before, -, rfl⟩ := Option.map_eq_some_iff.mp found
  exact before.invalidateIfPrepared_isPrepared

theorem SessionRecord.invalidatePreparations_settles (s : SessionRecord codec) :
    Settles s s.invalidatePreparations := by
  refine ⟨rfl, ?_, fun _ item found => ⟨item, found, rfl⟩⟩
  intro token p found isPrepared
  rw [s.invalidatePreparations_nonePrepared token p found] at isPrepared
  cases isPrepared

theorem SessionRecord.setPreparationStatus_lookup (s : SessionRecord codec) (token key : String)
    (status : PreparationStatus) :
    (s.setPreparationStatus token status).preparations.lookup key =
      (s.preparations.lookup key).map fun p => if key == token then p.setStatus status else p := by
  exact lookup_map_value
    (fun k (p : PreparedRecord) => if k == token then p.setStatus status else p) _ _

/-! ## Parts that write nothing -/

section Reads

open Act

variable {I : SessionRecord host.codec → Prop}

theorem Watch.nowMs_keeps : Keeps I (Watch.nowMs : Watch host Int) := keeps_ask _

theorem Watch.freshToken_keeps : Keeps I (Watch.freshToken : Watch host String) := keeps_ask _

theorem Watch.isStarted_keeps : Keeps I (Watch.isStarted : Watch host Bool) := keeps_ask _

theorem Watch.pageUrl_keeps : Keeps I (Watch.pageUrl : Watch host String) := keeps_attempt _ _

theorem Watch.listPages_keeps : Keeps I (Watch.listPages : Watch host (List PageFacts)) :=
  keeps_attempt _ _

theorem Watch.uploadBytes_keeps (action : Action) :
    Keeps I (Watch.uploadBytes action : Watch host (Option Int)) := by
  unfold Watch.uploadBytes
  split
  · exact keeps_pure none
  · exact keeps_ask _

theorem Watch.reject_keeps {α : Type} (kind : SessionFailureKind) (message : String) :
    Keeps I (Watch.reject kind message : Watch host α) :=
  keeps_throw _

theorem Watch.rejectWhen_keeps (bad : Bool) (kind : SessionFailureKind) (message : String) :
    Keeps I (Watch.rejectWhen bad kind message : Watch host Unit) := by
  unfold Watch.rejectWhen
  split
  · exact Watch.reject_keeps kind message
  · exact keeps_pure ()

theorem Watch.stage_keeps {α : Type} (scopeId : String) (m : Quiet α) :
    Keeps I (Watch.stage scopeId m : Watch host α) := by
  intro s t r s' run holds
  obtain ⟨first, out, second, -, -, last⟩ := Prog.runs_bind.mp run
  obtain ⟨-, eq⟩ := Prog.runs_done.mp last
  rcases out with ⟨(failed | e) | a, c⟩
  · obtain rfl := (Prod.mk.inj eq).2
    exact holds
  · obtain rfl := (Prod.mk.inj eq).2
    exact holds
  · obtain rfl := (Prod.mk.inj eq).2
    exact holds

theorem requireOpen_keeps : Keeps I (requireOpen : Watch host Unit) := by
  refine keeps_get.bind fun s => ?_
  cases s.status with
  | open_ => exact keeps_pure ()
  | closed => exact Watch.reject_keeps _ _
  | expired => exact Watch.reject_keeps _ _
  | terminal => exact Watch.reject_keeps _ _

theorem requireControl_keeps (agentId controlToken : Option String) :
    Keeps I (requireControl agentId controlToken : Watch host Unit) := by
  refine keeps_get.bind fun s => ?_
  cases s.agentId with
  | none => exact keeps_pure ()
  | some owner => exact (Watch.rejectWhen_keeps _ _ _).bind fun _ => Watch.rejectWhen_keeps _ _ _

theorem requireSignedPlanOperation_keeps (op : Operation) (signed : Option String) :
    Keeps I (requireSignedPlanOperation op signed : Watch host Unit) := by
  refine keeps_get.bind fun s => ?_
  cases s.signedPlanAuthority with
  | none => exact Watch.rejectWhen_keeps _ _ _
  | some authority =>
      refine Watch.nowMs_keeps.bind fun now => (Watch.rejectWhen_keeps _ _ _).bind fun _ => ?_
      cases signed with
      | some bytes => exact Watch.rejectWhen_keeps _ _ _
      | none =>
          cases s.signedPlanOperationBytes[s.signedPlanNextIndex]? with
          | none => exact Watch.reject_keeps _ _
          | some expected => exact Watch.rejectWhen_keeps _ _ _

theorem rejectMutationIfPolicyRequires_keeps (changed fresh : Bool) :
    Keeps I (rejectMutationIfPolicyRequires changed fresh : Watch host Unit) := by
  refine keeps_get.bind fun s => ?_
  cases s.mutationPolicy with
  | none => exact keeps_pure ()
  | some policy =>
      dsimp only
      split
      · split
        · exact Watch.reject_keeps _ _
        · exact Watch.rejectWhen_keeps _ _ _
      · exact keeps_pure ()

theorem checkReferenceEpochs_keeps (reference : Option ObservationReference) :
    Keeps I (checkReferenceEpochs reference : Watch host Unit) :=
  keeps_get.bind fun _ => (Watch.rejectWhen_keeps _ _ _).bind fun _ => Watch.rejectWhen_keeps _ _ _

theorem scopeUrl_keeps (action : Action) : Keeps I (scopeUrl action : Watch host String) := by
  refine (keeps_ask _).bind fun resolved => ?_
  split
  · exact keeps_pure _
  · exact keeps_pure _
  · split
    · exact keeps_pure _
    · exact Watch.pageUrl_keeps

theorem decideCandidate_keeps (envelope : AuthorityEnvelope host.codec) (op : Operation)
    (scope : DecisionScope) (action : Action) :
    Keeps I (decideCandidate envelope op scope action) :=
  keeps_get.bind fun _ => (scopeUrl_keeps action).bind fun _ => Watch.nowMs_keeps.bind fun _ =>
    (Watch.uploadBytes_keeps action).bind fun _ => (keeps_ask _).bind fun _ => keeps_pure _

theorem decideCandidates_keeps (envelope : AuthorityEnvelope host.codec) (op : Operation)
    (scope : DecisionScope) (actions : List Action) (first : Option FirewallDecision) :
    Keeps I (decideCandidates envelope op scope first actions) := by
  induction actions generalizing first with
  | nil =>
      cases first with
      | none => exact keeps_throw _
      | some decision => exact keeps_pure _
  | cons action rest ih =>
      refine (decideCandidate_keeps envelope op scope action).bind fun decision => ?_
      split
      · exact ih _
      · exact keeps_pure _

theorem firewallDecision_keeps (envelope : AuthorityEnvelope host.codec) (op : Operation) :
    Keeps I (firewallDecision envelope op) :=
  decideCandidates_keeps envelope op _ _ none

end Reads

/-! ## Parts that only keep the books of the session -/

/-- `I` does not read what the checks of a call write, the check of the identity
apart: the activity time, the status, the evidence about mutations, and the
preparations that a mutation invalidates. -/
structure Steady (I : SessionRecord codec → Prop) : Prop where
  touched : ∀ s now, I s → I { s with lastActivityAtMs := now }
  closed : ∀ s status now, I s →
    I { s with hasBackend := false, status := status, lastActivityAtMs := now }
  terminal : ∀ s, I s → I { s with status := .terminal }
  advanced : ∀ s epoch, I s → I { s.invalidatePreparations with mutationEpoch := epoch }
  evidenced : ∀ s evidence events, I s →
    I { s with mutationLastEvidence := some evidence, mutationEvents := events }
  fingerprinted : ∀ s fingerprint, I s → I { s with mutationStateFingerprint := some fingerprint }

/-- `I` does not read what the checks of a call write, the descriptor of the
identity among it. -/
structure Stable (I : SessionRecord codec → Prop) : Prop extends Steady I where
  identified : ∀ s descriptor, I s → I { s with identityDescriptor := some descriptor }

theorem Settles.stable (s₀ : SessionRecord codec) : Stable (Settles s₀) where
  touched _ _ before := before.trans (.of_eq rfl rfl rfl)
  closed _ _ _ before := before.trans (.of_eq rfl rfl rfl)
  terminal _ before := before.trans (.of_eq rfl rfl rfl)
  identified _ _ before := before.trans (.of_eq rfl rfl rfl)
  advanced s _ before := (before.trans s.invalidatePreparations_settles).trans (.of_eq rfl rfl rfl)
  evidenced _ _ _ before := before.trans (.of_eq rfl rfl rfl)
  fingerprinted _ _ before := before.trans (.of_eq rfl rfl rfl)

section Steadiness

open Act

theorem activeBackend_keeps {I : SessionRecord host.codec → Prop}
    (terminal : ∀ s, I s → I { s with status := .terminal }) :
    Keeps I (activeBackend : Watch host Unit) := by
  refine keeps_get.bind fun s => ?_
  have finish (started : Bool) : Keeps I (do
      if !started then
        modify fun s : SessionRecord host.codec => { s with status := .terminal }
        Watch.reject .terminalBrowserFailure "browser session is terminal" : Watch host Unit) := by
    split
    · exact Keeps.bind (keeps_modify terminal) fun _ => Watch.reject_keeps _ _
    · exact keeps_pure ()
  split
  · exact Watch.isStarted_keeps.bind fun started => finish started
  · exact (keeps_pure false).bind fun started => finish started

variable {I : SessionRecord host.codec → Prop} (steady : Steady I)

include steady

theorem touch_keeps : Keeps I (touch : Watch host Unit) :=
  Watch.nowMs_keeps.bind fun now => keeps_modify fun s => steady.touched s now

theorem closeRecord_keeps (status : PublicSessionStatus) :
    Keeps I (closeRecord status : Watch host Unit) := by
  refine keeps_get.bind fun s => ?_
  have finish : Keeps I (Watch.nowMs >>= fun now => modify fun s : SessionRecord host.codec =>
      { s with hasBackend := false, status := status, lastActivityAtMs := now } : Watch host Unit) :=
    Watch.nowMs_keeps.bind fun now => keeps_modify fun s => steady.closed s status now
  split
  · exact (keeps_ask _).bind fun _ => finish
  · exact finish

theorem expireIfIdle_keeps : Keeps I (expireIfIdle : Watch host Unit) := by
  refine keeps_get.bind fun s => ?_
  split
  · refine Watch.nowMs_keeps.bind fun now => ?_
    split
    · refine Watch.nowMs_keeps.bind fun again => ?_
      split
      · exact closeRecord_keeps steady .expired
      · exact keeps_pure _
    · exact keeps_pure _
  · exact keeps_pure _

theorem access_keeps : Keeps I (access : Watch host Unit) :=
  requireOpen_keeps.bind fun _ => (expireIfIdle_keeps steady).bind fun _ => requireOpen_keeps

theorem advanceMutationEpoch_keeps (actor : MutationActor) (source : String) :
    Keeps I (advanceMutationEpoch actor source : Watch host MutationEvidence) := by
  refine keeps_get.bind fun s => (Watch.rejectWhen_keeps _ _ _).bind fun _ => ?_
  refine Keeps.bind (keeps_modify fun s => steady.advanced s _) fun _ => ?_
  cases s.mutationPolicy with
  | none => exact keeps_throw _
  | some policy =>
      refine Watch.nowMs_keeps.bind fun _ => ?_
      exact Keeps.bind (keeps_modify fun s => steady.evidenced s _ _) fun _ => keeps_pure _

theorem refreshExternalMutation_keeps : Keeps I (refreshExternalMutation : Watch host Bool) := by
  refine keeps_get.bind fun s => ?_
  split
  · refine (activeBackend_keeps steady.terminal).bind fun _ => (keeps_ask _).bind fun state => ?_
    cases (state : Except PyException PyDict) with
    | error e => exact (advanceMutationEpoch_keeps steady _ _).bind fun _ => keeps_pure _
    | ok state =>
        refine Keeps.bind (keeps_modify fun s => steady.fingerprinted s _) fun _ => ?_
        split
        · exact (advanceMutationEpoch_keeps steady _ _).bind fun _ => keeps_pure _
        · exact keeps_pure _
  · exact keeps_pure _

theorem restartMutationMonitor_keeps : Keeps I (restartMutationMonitor : Watch host Unit) := by
  refine keeps_get.bind fun s => ?_
  split
  · refine Keeps.tryCatch ?_ fun _ => keeps_pure ()
    refine (activeBackend_keeps steady.terminal).bind fun _ => (keeps_ask _).bind fun state => ?_
    cases (state : Except PyException PyDict) with
    | error e => exact keeps_throw e
    | ok state => exact keeps_modify fun s => steady.fingerprinted s _
  · exact keeps_pure ()

theorem recordAgentMutation_keeps : Keeps I (recordAgentMutation : Watch host Unit) := by
  refine keeps_get.bind fun s => ?_
  split
  · exact (advanceMutationEpoch_keeps steady _ _).bind fun _ => restartMutationMonitor_keeps steady
  · exact keeps_pure ()

theorem noteBackend_keeps : Keeps I (noteBackend : Watch host Unit) := by
  refine Watch.isStarted_keeps.bind fun alive => ?_
  split
  · exact (touch_keeps steady).bind fun _ => Watch.listPages_keeps.bind fun _ => keeps_pure _
  · exact Keeps.bind (keeps_modify steady.terminal) fun _ => touch_keeps steady

end Steadiness

section Stability

open Act

variable {I : SessionRecord host.codec → Prop} (stable : Stable I)

include stable

theorem requireIdentity_keeps : Keeps I (requireIdentity : Watch host Unit) := by
  refine keeps_get.bind fun s => ?_
  cases s.identityAssertion with
  | none => exact keeps_pure ()
  | some assertion =>
      refine (Watch.rejectWhen_keeps _ _ _).bind fun _ => (keeps_ask _).bind fun verified => ?_
      cases (verified : Except PyException AgentIdentity) with
      | error e =>
          dsimp only
          split
          · exact Watch.reject_keeps _ _
          · exact keeps_throw e
      | ok descriptor =>
          exact (Watch.rejectWhen_keeps _ _ _).bind fun _ =>
            keeps_modify fun s => stable.identified s descriptor

theorem executionGate_keeps (request : ExecuteRequest) :
    Keeps I (executionGate request : Watch host Unit) :=
  (requireControl_keeps _ _).bind fun _ => (requireIdentity_keeps stable).bind fun _ =>
    (requireSignedPlanOperation_keeps _ _).bind fun _ =>
      (refreshExternalMutation_keeps stable.toSteady).bind fun _ => (checkReferenceEpochs_keeps _).bind fun _ =>
        (rejectMutationIfPolicyRequires_keeps _ _).bind fun _ => activeBackend_keeps stable.terminal

end Stability

section Receipts

open Act

variable {I : SessionRecord host.codec → Prop}

theorem rejectedReceipt_keeps (op : Operation)
    (startedAtMs : Int) (status error failureKind : String) (evidence : PyDict) :
    Keeps I (rejectedReceipt op startedAtMs status error failureKind evidence :
      Watch host ExecutionReceipt) :=
  (Watch.stage_keeps _ _).bind fun _ => keeps_pure _

theorem preparationRequiredReceipt_keeps (op : Operation) (startedAtMs : Int) :
    Keeps I (preparationRequiredReceipt op startedAtMs : Watch host SessionReceipt) :=
  (rejectedReceipt_keeps _ _ _ _ _ _).bind fun _ => keeps_pure _

theorem authorityRejectedReceipt_keeps (op : Operation) (startedAtMs : Int)
    (decision : FirewallDecision) :
    Keeps I (authorityRejectedReceipt op startedAtMs decision : Watch host SessionReceipt) :=
  (rejectedReceipt_keeps _ _ _ _ _ _).bind fun _ => keeps_pure _

theorem postDispatchUrl_keeps (op : Operation) :
    Keeps I (postDispatchUrl op : Watch host String) := by
  refine (keeps_ask _).bind fun resolved => ?_
  rcases (resolved : Except PyException (Option String)) with e | _ | url
  · exact Watch.pageUrl_keeps
  · exact Watch.pageUrl_keeps
  · exact keeps_pure _

/-- What a governed dispatch writes before its receipt is chained is its charge. -/
theorem chargeDispatch_charges {envelope : AuthorityEnvelope host.codec} {op : Operation}
    {receipt : SessionReceipt} {s s' : SessionRecord host.codec} {t : Trace QuietSig}
    {r : Except PyException SessionReceipt}
    (run : Act.Runs (chargeDispatch envelope op receipt) s t r s') :
    s' = s.charge (receiptDispatchCounts receipt.receipt envelope.toAuthorityPolicy op) := by
  refine (show Keeps (· = s.charge _) _ from ?_) _ _ _ _ run.modify_bind_inv rfl
  split
  · exact keeps_pure _
  · exact (postDispatchUrl_keeps op).bind fun _ => Watch.nowMs_keeps.bind fun _ =>
      (Watch.uploadBytes_keeps _).bind fun _ => keeps_get.bind fun _ => keeps_pure _

theorem chargeDispatch_keeps (envelope : AuthorityEnvelope host.codec) (op : Operation)
    (receipt : SessionReceipt)
    (charged : ∀ s receipt policy op, I s → I (s.charge (receiptDispatchCounts receipt policy op))) :
    Keeps I (chargeDispatch envelope op receipt) := by
  intro s t r s' run holds
  rw [chargeDispatch_charges run]
  exact charged s _ _ _ holds

end Receipts

end Dingdongditch
