import Dingdongditch.Runtime.Gate

/-!
# What the API writes

Every update that a method of the session makes to its record, as one list of
closure conditions: `Observing I` for the methods that only observe, `Watching I`
for these and the offer of a hand-off, `Lasting I` for an execution.  A property that meets the conditions is kept by every method
(`SessionCall.run_keeps`), so an invariant of a session is proved update by
update and not method by method.  The entry of a new preparation depends on the
token that the environment drew, and is left to the invariant.
-/

namespace Dingdongditch

open Interaction Text

variable {host : SessionHost}

/-- What a new preparation looks like. -/
structure Prepares (s : SessionRecord host.codec) (record : PreparedRecord) : Prop where
  isPrepared : record.isPrepared = true
  createdUnder : record.createdUnder = s.controlEpoch
  single : record.operation.branching = false
  hash : record.pub.operationHash = host.operationHash record.operation
  epoch : record.pub.mutationEpoch =
    if s.mutationPolicy.isSome then some s.mutationEpoch else none

/-- The preparation is the one that the request asks for. -/
structure PreparedRecord.Serves (record : PreparedRecord) (request : PrepareRequest) : Prop where
  operation : record.operation = request.operation
  summary : record.speculationSummary = request.speculationSummary

/-- `I` holds, and the preparation of the token is open. -/
def Refusable (I : SessionRecord host.codec → Prop) (token : String)
    (s : SessionRecord host.codec) : Prop :=
  I s ∧ ∃ p, s.preparations.lookup token = some p ∧ p.isPrepared = true

/-- `I` is kept by the updates of the methods that do not execute an operation,
other than the entry of a new preparation. -/
structure Watching (I : SessionRecord host.codec → Prop) : Prop extends Stable I where
  invalidated : ∀ s, I s → I s.invalidatePreparations
  refused : ∀ s token, Refusable I token s → I (s.setPreparationStatus token .invalidated)
  speculating : ∀ s speculations, I s → I { s with speculations := speculations }
  offered : ∀ s pending, I s → I { s with pendingHandoffs := pending }
  identityBound : ∀ s assertion descriptor, I s → I { s with
    identityRegistryInstalled := true
    identityAssertion := some assertion
    identityDescriptor := some descriptor }
  planBound : ∀ s authority bytes, I s → s.signedPlanAuthority = none → I { s with
    signedPlanAuthority := some authority, signedPlanOperationBytes := bytes }
  planInstalled : ∀ s authority bytes speculations, I s → s.signedPlanAuthority = none → I { s with
    signedPlanAuthority := some authority, signedPlanOperationBytes := bytes
    signedPlanSpeculations := speculations, signedPlanNextIndex := 0 }

/-- What the methods make of the graphs of a session: they mark some, forget some,
and enter a new one that is bound to its parent. -/
inductive Regraphs (host : SessionHost) (graphs : List (String × SpeculationRecord)) :
    List (String × SpeculationRecord) → Prop
  | marked (mark : String → SpeculationRecord → SpeculationRecord)
      (same : ∀ token item, (mark token item).plan = item.plan ∧
        (mark token item).parentOperationHash = item.parentOperationHash) :
      Regraphs host graphs (graphs.map fun entry => (entry.1, mark entry.1 entry.2))
  | forgotten (keep : String × SpeculationRecord → Bool) : Regraphs host graphs (graphs.filter keep)
  | entered (token : String) (item : SpeculationRecord)
      (bound : item.parentOperationHash = item.plan.parentOperation.map host.operationHash) :
      Regraphs host graphs (assign graphs token item)

/-- `I` is kept by the updates of the methods that neither execute an operation
nor hand control over, other than the entry of a new preparation. -/
structure Observing (I : SessionRecord host.codec → Prop) : Prop extends Stable I where
  invalidated : ∀ s, I s → I s.invalidatePreparations
  refused : ∀ s token, Refusable I token s → I (s.setPreparationStatus token .invalidated)
  regraphed : ∀ s graphs, I s → Regraphs host s.speculations graphs →
    I { s with speculations := graphs }
  identityBound : ∀ s assertion descriptor, I s → I { s with
    identityRegistryInstalled := true
    identityAssertion := some assertion
    identityDescriptor := some descriptor }
  planBound : ∀ s authority bytes, I s → s.signedPlanAuthority = none → I { s with
    signedPlanAuthority := some authority, signedPlanOperationBytes := bytes }
  planInstalled : ∀ s authority bytes speculations, I s → s.signedPlanAuthority = none → I { s with
    signedPlanAuthority := some authority, signedPlanOperationBytes := bytes
    signedPlanSpeculations := speculations, signedPlanNextIndex := 0 }

theorem Watching.toObserving {I : SessionRecord host.codec → Prop} (watching : Watching I) :
    Observing I where
  toStable := watching.toStable
  invalidated := watching.invalidated
  refused := watching.refused
  regraphed s graphs holds _ := watching.speculating s graphs holds
  identityBound := watching.identityBound
  planBound := watching.planBound
  planInstalled := watching.planInstalled

/-- `I` is kept by the updates of an execution. -/
structure Lasting (I : SessionRecord host.codec → Prop) : Prop extends Stable I where
  charged : ∀ s receipt policy op, I s → I (s.charge (receiptDispatchCounts receipt policy op))
  chained : ∀ (s : SessionRecord host.codec) op receipt hash, I s →
    s.receiptHash op receipt = .ok hash → I (s.chain op receipt hash)
  stepped : ∀ s, I s → I { s with signedPlanNextIndex := s.signedPlanNextIndex + 1 }
  speculated : ∀ (s : SessionRecord host.codec) op receipt, I s → I (s.advanceSpeculations op receipt)

/-- The record after the execution of a commit. -/
def SessionRecord.release {codec : HostCodec} (s : SessionRecord codec)
    (speculation : Option SpeculationSummary) : SessionRecord codec :=
  { s with activeCommitToken := none, activeTransaction := none, activeSpeculation := speculation }

/-- `I` is kept by the updates around the execution of a commit or of a branch. -/
structure Committing (I : SessionRecord host.codec → Prop) : Prop extends Lasting I where
  committing : ∀ (s : SessionRecord host.codec) token record, I s →
    s.preparations.lookup token = some record → record.isPrepared = true →
    I (s.committing token record)
  released : ∀ s speculation, I s → I (s.release speculation)
  selected : ∀ s speculation, I s → I { s with activeSpeculation := speculation }

/-! ## An execution -/

section Executing

open Act

variable {I : SessionRecord host.codec → Prop}

theorem recordReceipt_keeps (lasting : Lasting I) (request : ExecuteRequest)
    (receipt : SessionReceipt) :
    Keeps I (recordReceipt request receipt : Watch host SessionReceipt) := by
  have stable := lasting.toStable
  intro s t r s' run holds
  replace run := run.get_bind_inv
  rcases run.ofExcept_bind_inv with ⟨e, -, -, -, rfl⟩ | ⟨hash, hashed, sealing⟩
  · exact holds
  have accounts : Keeps I (do
      let dispatched := (s.annotate receipt).receipt.actionStartedAtMs.isSome
      modify fun s : SessionRecord host.codec =>
        if s.signedPlanAuthority.isSome && request.signedSpeculationOperation.isNone && dispatched then
          { s with signedPlanNextIndex := s.signedPlanNextIndex + 1 }
        else s
      if s.mutationPolicy.isSome && dispatched then
        recordAgentMutation
        modify fun s => s.advanceSpeculations request.operation (s.annotate receipt).receipt
      noteBackend
      return s.annotate receipt : Watch host SessionReceipt) := by
    refine Keeps.bind (keeps_modify fun s holds => ?_) fun _ => ?_
    · split
      · exact lasting.stepped s holds
      · exact holds
    split
    · refine (recordAgentMutation_keeps stable.toSteady).bind fun _ => ?_
      refine Keeps.bind (keeps_modify fun s => lasting.speculated s _ _) fun _ => ?_
      exact (noteBackend_keeps stable.toSteady).bind fun _ => keeps_pure _
    · exact (noteBackend_keeps stable.toSteady).bind fun _ => keeps_pure _
  exact accounts _ _ _ _ sealing.modify_bind_inv (lasting.chained s _ _ hash holds hashed)

theorem runExecutor_keeps (op : Operation) (ctx : ExecutionContext) :
    Keeps I (runExecutor op ctx : Session host ExecutionReceipt) := by
  intro s t r s' run holds
  obtain ⟨rfl, -⟩ := runExecutor_inv run
  exact holds

theorem governedDispatch_keeps
    (charged : ∀ s receipt policy op, I s → I (s.charge (receiptDispatchCounts receipt policy op)))
    (envelope : AuthorityEnvelope host.codec) (request : ExecuteRequest) (startedAtMs : Int) :
    Keeps I (governedDispatch envelope request startedAtMs) := by
  refine keeps_get.bind fun s => ?_
  split
  · exact (preparationRequiredReceipt_keeps _ _).left
  · refine (firewallDecision_keeps _ _).left.bind fun decision => ?_
    split
    · exact (authorityRejectedReceipt_keeps _ _ _).left
    · exact (runExecutor_keeps _ _).bind fun _ => (chargeDispatch_keeps _ _ _ charged).left

theorem dispatchRequest_keeps
    (charged : ∀ s receipt policy op, I s → I (s.charge (receiptDispatchCounts receipt policy op)))
    (request : ExecuteRequest) : Keeps I (dispatchRequest request : Session host SessionReceipt) := by
  refine Watch.listPages_keeps.left.bind fun _ => Watch.nowMs_keeps.left.bind fun now => ?_
  refine keeps_get.bind fun s => ?_
  cases s.authorityEnvelope with
  | some envelope => exact governedDispatch_keeps charged envelope request now
  | none => exact (runExecutor_keeps _ _).bind fun _ => keeps_pure _

theorem executeRequest_keeps (lasting : Lasting I) (request : ExecuteRequest) :
    Keeps I (executeRequest request : Session host SessionReceipt) :=
  (access_keeps lasting.toSteady).left.bind fun _ =>
    (executionGate_keeps lasting.toStable request).left.bind fun _ =>
      (dispatchRequest_keeps lasting.charged request).bind fun _ =>
        (recordReceipt_keeps lasting request _).left

end Executing

/-! ## Prepare and commit -/

section Prepare

open Act

variable {I : SessionRecord host.codec → Prop}

theorem rejectCommit_keeps {α : Type} (reason : CommitRejectedReason) (message : String) :
    Keeps I (rejectCommit reason message : Watch host α) :=
  keeps_throw _

theorem captureTarget_keeps (action : Action) (identityKey : Option String) :
    Keeps I (captureTarget action identityKey : Watch host (Option PreparedTarget)) := by
  unfold captureTarget
  cases action.locator with
  | none => exact keeps_pure none
  | some locator =>
      refine (keeps_attempt _ _).bind fun target => ?_
      split
      · exact rejectCommit_keeps _ _
      · cases identityKey with
        | some key => exact (keeps_pure key).bind fun _ => (keeps_attempt _ _).bind fun _ => keeps_pure _
        | none =>
            exact Watch.freshToken_keeps.bind fun _ => (keeps_attempt _ _).bind fun _ => keeps_pure _

theorem capturePreparedState_keeps (op : Operation) (identityKey stateKey : Option String) :
    Keeps I (capturePreparedState op identityKey stateKey : Watch host PreparedState) := by
  refine (keeps_ask _).bind fun pageId => ?_
  have located (key url : String) (scope : PyDict) : Keeps I (do
      let target ← captureTarget op.action identityKey
      let pages ← Watch.listPages
      let state : PreparedState := {
        pageId, url
        origin := preparedOrigin host.codec url
        targetFingerprint := target.map (·.fingerprint)
        stateFingerprint := ""
        targetIdentityKey := target.map (·.identityKey)
        targetIdentity := target.bind (·.identity)
        scopeStateKey := key }
      return { state with stateFingerprint := host.stateFingerprint state scope pages } :
      Watch host PreparedState) :=
    (captureTarget_keeps _ _).bind fun _ => Watch.listPages_keeps.bind fun _ => keeps_pure _
  cases stateKey with
  | some key =>
      refine (keeps_pure key).bind fun key => (keeps_attempt _ _).bind fun scope => ?_
      split
      · exact (keeps_pure _).bind fun url => located key url scope
      · exact Watch.pageUrl_keeps.bind fun url => located key url scope
  | none =>
      refine Watch.freshToken_keeps.bind fun key => (keeps_attempt _ _).bind fun scope => ?_
      split
      · exact (keeps_pure _).bind fun url => located key url scope
      · exact Watch.pageUrl_keeps.bind fun url => located key url scope

theorem bindPreparedSecret_keeps (action : Action) :
    Keeps I (bindPreparedSecret action : Watch host (Option SecretBinding)) := by
  unfold bindPreparedSecret
  cases action.secretReference with
  | none => exact keeps_pure none
  | some reference =>
      refine (keeps_ask _).bind fun bound => ?_
      cases (bound : Except PyException SecretBinding) with
      | ok binding => exact keeps_pure _
      | error e =>
          dsimp only
          split
          · exact rejectCommit_keeps _ _
          · exact keeps_throw e

theorem checkTtl_keeps (ttlMs : Int) : Keeps I (checkTtl ttlMs : Watch host Unit) := by
  unfold checkTtl
  split
  · exact keeps_pure ()
  · exact keeps_throw _

theorem consequentialEnvelope_keeps (op : Operation) :
    Keeps I (consequentialEnvelope op : Watch host (AuthorityEnvelope host.codec)) := by
  refine keeps_get.bind fun s => ?_
  cases s.authorityEnvelope with
  | none => exact rejectCommit_keeps _ _
  | some envelope =>
      dsimp only
      split
      · exact rejectCommit_keeps _ _
      · split
        · exact rejectCommit_keeps _ _
        · exact keeps_pure _

/-- An operation that may be prepared has no branches. -/
theorem consequentialEnvelope_ok {op : Operation} {envelope : AuthorityEnvelope host.codec}
    {s s' : SessionRecord host.codec} {t : Trace QuietSig}
    (run : Act.Runs (consequentialEnvelope op) s t (.ok envelope) s') :
    s.authorityEnvelope = some envelope ∧ op.branching = false ∧
      needsPreparation envelope.toAuthorityPolicy op = true ∧ t = [] ∧ s' = s := by
  unfold consequentialEnvelope at run
  replace run := run.get_bind_inv
  cases installed : s.authorityEnvelope with
  | none =>
      rw [installed] at run
      obtain ⟨-, eq, -⟩ := Act.runs_throw.mp run
      cases eq
  | some known =>
      rw [installed] at run
      dsimp only at run
      split at run
      · obtain ⟨-, eq, -⟩ := Act.runs_throw.mp run
        cases eq
      · next needs =>
          split at run
          · obtain ⟨-, eq, -⟩ := Act.runs_throw.mp run
            cases eq
          · next single =>
              obtain ⟨rfl, eq, rfl⟩ := Act.runs_pure.mp run
              cases eq
              exact ⟨rfl, by simpa using single, by simpa using needs, rfl, rfl⟩

theorem prepareGate_keeps (stable : Stable I) (request : PrepareRequest) :
    Keeps I (prepareGate request : Watch host Unit) :=
  (requireControl_keeps _ _).bind fun _ => (requireIdentity_keeps stable).bind fun _ =>
    (requireSignedPlanOperation_keeps _ _).bind fun _ =>
      (refreshExternalMutation_keeps stable.toSteady).bind fun _ => rejectMutationIfPolicyRequires_keeps _ _

/-- What the checks of a call may make of a record. -/
def Stably (s s' : SessionRecord host.codec) : Prop :=
  ∀ I : SessionRecord host.codec → Prop, Stable I → I s → I s'

theorem Stably.of_keeps {α : Type} {m : Watch host α} (keeps : ∀ I, Stable I → Keeps I m)
    {s s' : SessionRecord host.codec} {t : Trace QuietSig} {r : Except PyException α}
    (run : Act.Runs m s t r s') : Stably s s' :=
  fun I stable => keeps I stable s t r s' run

theorem Stably.trans {s s₁ s' : SessionRecord host.codec} (first : Stably s s₁)
    (second : Stably s₁ s') : Stably s s' :=
  fun I stable holds => second I stable (first I stable holds)

/-- A check that fails, or what follows it. -/
theorem Stably.check_inv {α β : Type} {m : Watch host α} {f : α → Watch host β}
    (keeps : ∀ I, Stable I → Keeps I m) {s₀ s s' : SessionRecord host.codec} {t : Trace QuietSig}
    {r : Except PyException β} (before : Stably s₀ s) (run : Act.Runs (m >>= f) s t r s') :
    (Stably s₀ s' ∧ ∃ e, r = .error e) ∨ ∃ first a s₁ rest, t = first ++ rest ∧ Stably s₀ s₁ ∧
      Act.Runs m s first (.ok a) s₁ ∧ Act.Runs (f a) s₁ rest r s' := by
  rcases run.bind_inv with ⟨e, rfl, inner⟩ | ⟨first, a, s₁, rest, rfl, inner, next⟩
  · exact .inl ⟨before.trans (.of_keeps keeps inner), e, rfl⟩
  · exact .inr ⟨first, a, s₁, rest, rfl, before.trans (.of_keeps keeps inner), inner, next⟩

/-- A preparation fails, or enters one record of its request under a fresh token. -/
theorem prepareOperation_cases {request : PrepareRequest} {s s' : SessionRecord host.codec}
    {t : Trace QuietSig} {r : Except PyException PreparedOperation}
    (run : Act.Runs (prepareOperation request : Watch host PreparedOperation) s t r s') :
    (Stably s s' ∧ ∃ e, r = .error e) ∨ ∃ s₁ token record, Stably s s₁ ∧ Prepares s₁ record ∧ record.Serves request ∧
      (⟨.freshToken, token⟩ : Event QuietSig) ∈ t ∧
      Stably { s₁ with preparations := assign s₁.preparations token record } s' := by
  unfold prepareOperation at run
  rcases Stably.check_inv (fun _ _ => checkTtl_keeps _) (fun _ _ holds => holds) run with
    stopped | ⟨t₁, _, s₁, u₁, rfl, stably₁, -, run₁⟩
  · exact .inl stopped
  rcases Stably.check_inv (fun _ stable => access_keeps stable.toSteady) stably₁ run₁ with
    stopped | ⟨t₂, _, s₂, u₂, rfl, stably₂, -, run₂⟩
  · exact .inl stopped
  rcases Stably.check_inv (fun _ stable => prepareGate_keeps stable request) stably₂ run₂ with
    stopped | ⟨t₃, _, s₃, u₃, rfl, stably₃, -, run₃⟩
  · exact .inl stopped
  rcases Stably.check_inv (fun _ _ => consequentialEnvelope_keeps _) stably₃ run₃ with
    stopped | ⟨t₄, envelope, s₄, u₄, rfl, stably₄, consequential, run₄⟩
  · exact .inl stopped
  rcases Stably.check_inv (fun _ stable => activeBackend_keeps stable.terminal) stably₄ run₄ with
    stopped | ⟨t₅, _, s₅, u₅, rfl, stably₅, -, run₅⟩
  · exact .inl stopped
  rcases Stably.check_inv (fun _ _ => firewallDecision_keeps _ _) stably₅ run₅ with
    stopped | ⟨t₆, decision, s₆, u₆, rfl, stably₆, -, run₆⟩
  · exact .inl stopped
  split at run₆
  · have stably := stably₆.trans (.of_keeps (fun _ _ => rejectCommit_keeps _ _) run₆)
    obtain ⟨-, failed, -⟩ := Act.runs_throw.mp run₆
    exact .inl ⟨stably, _, failed⟩
  rcases Stably.check_inv (fun _ _ => capturePreparedState_keeps _ _ _) stably₆ run₆ with
    stopped | ⟨t₇, state, s₇, u₇, rfl, stably₇, -, run₇⟩
  · exact .inl stopped
  rcases Stably.check_inv (fun _ _ => bindPreparedSecret_keeps _) stably₇ run₇ with
    stopped | ⟨t₈, binding, s₈, u₈, rfl, stably₈, -, run₈⟩
  · exact .inl stopped
  obtain ⟨token, u₉, rfl, run₉⟩ := run₈.ask_bind_inv
  obtain ⟨now, u, rfl, run₁₀⟩ := run₉.ask_bind_inv
  have entered := run₁₀.get_bind_inv.modify_bind_inv
  refine .inr ⟨s₈, token, _, stably₈, ?_, ⟨rfl, rfl⟩, by simp,
    .of_keeps (fun _ stable => (touch_keeps stable.toSteady).bind fun _ => keeps_pure _) entered⟩
  exact ⟨rfl, rfl, (consequentialEnvelope_ok consequential).2.1, rfl, rfl⟩

theorem prepareOperation_run {request : PrepareRequest} {s s' : SessionRecord host.codec}
    {t : Trace QuietSig} {r : Except PyException PreparedOperation}
    (run : Act.Runs (prepareOperation request : Watch host PreparedOperation) s t r s') :
    Stably s s' ∨ ∃ s₁ token record, Stably s s₁ ∧ Prepares s₁ record ∧ record.Serves request ∧
      (⟨.freshToken, token⟩ : Event QuietSig) ∈ t ∧
      Stably { s₁ with preparations := assign s₁.preparations token record } s' :=
  (prepareOperation_cases run).imp_left And.left

end Prepare

section Commit

open Act

variable {I : SessionRecord host.codec → Prop}

theorem refuse_leads
    (refused : ∀ s token, Refusable I token s → I (s.setPreparationStatus token .invalidated))
    (token : String) (reason : CommitRejectedReason) : Leads (Refusable I token) I
      (refuse token reason : Watch host (Except CommitRejectedReason PreparedRecord)) := by
  intro s t r s' run refusable
  obtain ⟨-, -, rfl⟩ := runs_pure.mp run.modify_bind_inv
  exact refused s token refusable

theorem secretStillBound_keeps (prepared : PreparedRecord) :
    Keeps I (secretStillBound prepared : Watch host Bool) := by
  unfold secretStillBound
  split
  · exact keeps_pure true
  · split
    · exact keeps_pure false
    · split
      · exact keeps_pure false
      · exact (keeps_ask _).bind fun _ => keeps_pure _

theorem commitStatus_keeps
    (refused : ∀ s token, Refusable I token s → I (s.setPreparationStatus token .invalidated))
    (request : CommitRequest) (changed : Bool) :
    Keeps I (commitStatus request changed :
      Watch host (Except CommitRejectedReason PreparedRecord)) := by
  intro s t r s' run holds
  unfold commitStatus at run
  replace run := run.get_bind_inv
  split at run
  · exact keeps_pure _ _ _ _ _ run holds
  · next prepared found =>
      split at run
      · exact keeps_pure _ _ _ _ _ run holds
      · exact keeps_pure _ _ _ _ _ run holds
      · next isPrepared =>
          have refusable : Refusable I request.token s :=
            ⟨holds, prepared, found, decide_eq_true isPrepared⟩
          refine (Watch.nowMs_keeps (I := Refusable I request.token)).bind_leads (fun _ => And.left)
            (fun now => ?_) _ _ _ _ run refusable
          have refuses := refuse_leads refused request.token
          split
          · exact refuses _
          · split
            · exact refuses _
            · split
              · exact refuses _
              · split
                · exact (keeps_pure _).leads fun _ => And.left
                · exact (keeps_pure _).leads fun _ => And.left

theorem commitState_leads (terminal : ∀ s, I s → I { s with status := .terminal })
    (refused : ∀ s token, Refusable I token s → I (s.setPreparationStatus token .invalidated))
    (token : String) (prepared : PreparedRecord) : Leads (Refusable I token) I
      (commitState token prepared : Watch host (Except CommitRejectedReason PreparedRecord)) := by
  have weaken : ∀ s, Refusable I token s → I s := fun _ => And.left
  have active : Keeps (Refusable I token) (activeBackend : Watch host Unit) :=
    activeBackend_keeps fun s refusable => ⟨terminal s refusable.1, refusable.2⟩
  have refuses := refuse_leads refused token
  refine active.bind_leads weaken fun _ => ?_
  refine (capturePreparedState_keeps _ _ _).bind_leads weaken fun current => ?_
  split
  · exact refuses _
  · refine keeps_get.bind_leads weaken fun s => ?_
    split
    · exact refuses _
    · split
      · exact refuses _
      · refine (firewallDecision_keeps _ _).bind_leads weaken fun decision => ?_
        split
        · exact refuses _
        · refine (secretStillBound_keeps _).bind_leads weaken fun bound => ?_
          split
          · exact (keeps_pure _).leads weaken
          · exact refuses _

variable {request : CommitRequest} {prepared : PreparedRecord} {s s' : SessionRecord host.codec}
  {t : Trace QuietSig}

theorem refuse_not_ok {token : String} {reason : CommitRejectedReason}
    (run : Act.Runs (refuse token reason : Watch host _) s t (.ok (.ok prepared)) s') : False := by
  obtain ⟨-, eq, -⟩ := Act.runs_pure.mp run.modify_bind_inv
  cases eq

/-- A preparation that the record lets pass is open, current and for the operation
of the commit. -/
structure Committable (request : CommitRequest) (s : SessionRecord host.codec)
    (prepared : PreparedRecord) : Prop where
  found : s.preparations.lookup request.token = some prepared
  isPrepared : prepared.isPrepared = true
  current : ∀ epoch, prepared.pub.mutationEpoch = some epoch → epoch = s.mutationEpoch
  payload : ∀ op, request.operation = some op → host.operationHash op = prepared.pub.operationHash

theorem commitStatus_ok {changed : Bool}
    (run : Act.Runs (commitStatus request changed) s t (.ok (.ok prepared)) s') :
    Committable request s prepared ∧ s' = s := by
  unfold commitStatus at run
  replace run := run.get_bind_inv
  split at run
  · obtain ⟨-, eq, -⟩ := Act.runs_pure.mp run
    cases eq
  · next known found =>
      split at run
      · obtain ⟨-, eq, -⟩ := Act.runs_pure.mp run
        cases eq
      · obtain ⟨-, eq, -⟩ := Act.runs_pure.mp run
        cases eq
      · next isPrepared =>
          obtain ⟨now, rest, rfl, after⟩ := run.ask_bind_inv
          split at after
          · exact (refuse_not_ok after).elim
          · split at after
            · exact (refuse_not_ok after).elim
            · next current =>
                split at after
                · exact (refuse_not_ok after).elim
                · split at after
                  · obtain ⟨-, eq, -⟩ := Act.runs_pure.mp after
                    cases eq
                  · next payload =>
                      obtain ⟨-, eq, rfl⟩ := Act.runs_pure.mp after
                      cases eq
                      refine ⟨⟨found, decide_eq_true isPrepared, ?_, ?_⟩, rfl⟩
                      · intro epoch isEpoch
                        rw [isEpoch] at current
                        simpa using current
                      · intro op isOp
                        rw [isOp] at payload
                        simpa using payload

/-- A preparation passes the checks against the browser with the record as it
was, and the check of its secret generation is the last of them. -/
theorem commitState_ok {token : String} {passed : PreparedRecord}
    (terminal : ∀ s, I s → I { s with status := .terminal }) (holds : I s)
    (run : Act.Runs (commitState token prepared) s t (.ok (.ok passed)) s') :
    passed = prepared ∧ I s' ∧ ∃ early asserting, t = early ++ asserting ∧
      Act.Runs (secretStillBound prepared : Watch host Bool) s' asserting (.ok true) s' := by
  unfold commitState at run
  obtain ⟨t₁, _, s₁, _, rfl, active, after₁⟩ := run.bind_ok_inv
  have held := activeBackend_keeps terminal _ _ _ _ active holds
  obtain ⟨t₂, current, s₂, _, rfl, captured, after₂⟩ := after₁.bind_ok_inv
  obtain rfl := capturePreparedState_keeps (I := (· = s₁)) _ _ _ _ _ _ _ captured rfl
  split at after₂
  · exact (refuse_not_ok after₂).elim
  · replace after₂ := after₂.get_bind_inv
    split at after₂
    · exact (refuse_not_ok after₂).elim
    · split at after₂
      · exact (refuse_not_ok after₂).elim
      · obtain ⟨t₃, decision, s₃, _, rfl, firewall, after₃⟩ := after₂.bind_ok_inv
        obtain rfl := firewallDecision_keeps (I := (· = s₂)) _ _ _ _ _ _ firewall rfl
        split at after₃
        · exact (refuse_not_ok after₃).elim
        · obtain ⟨t₄, bound, s₄, _, rfl, secret, after₄⟩ := after₃.bind_ok_inv
          obtain rfl := secretStillBound_keeps (I := (· = s₃)) _ _ _ _ _ secret rfl
          cases bound with
          | false => exact (refuse_not_ok after₄).elim
          | true =>
              obtain ⟨rfl, eq, rfl⟩ := Act.runs_pure.mp after₄
              cases eq
              exact ⟨rfl, held, t₁ ++ (t₂ ++ t₃), t₄, by simp, secret⟩

theorem commitChecks_keeps (stable : Stable I)
    (refused : ∀ s token, Refusable I token s → I (s.setPreparationStatus token .invalidated))
    (request : CommitRequest) :
    Keeps I (commitChecks request : Watch host (Except CommitRejectedReason PreparedRecord)) := by
  refine (access_keeps stable.toSteady).bind fun _ => (requireControl_keeps _ _).bind fun _ => ?_
  refine (requireIdentity_keeps stable).bind fun _ =>
    (refreshExternalMutation_keeps stable.toSteady).bind fun changed => ?_
  intro s t r s' run holds
  rcases run.bind_inv with ⟨e, -, checked⟩ | ⟨before, status, s₁, after, -, checked, next⟩
  · exact commitStatus_keeps refused _ _ _ _ _ _ checked holds
  cases status with
  | error reason =>
      exact keeps_pure _ _ _ _ _ next (commitStatus_keeps refused _ _ _ _ _ _ checked holds)
  | ok prepared =>
      obtain ⟨committable, rfl⟩ := commitStatus_ok checked
      exact commitState_leads stable.terminal refused _ _ _ _ _ _ next
        ⟨holds, prepared, committable.found, committable.isPrepared⟩

/-- What holds once a commit passed its checks. -/
theorem commitChecks_ok (run : Act.Runs (commitChecks request) s t (.ok (.ok prepared)) s') :
    Settles s s' ∧ Committable request s' prepared ∧
      s.governance.LeaseHeld ⟨request.caller.agentId, request.caller.controlToken⟩ ∧
      ∃ early asserting, t = early ++ asserting ∧
        Act.Runs (secretStillBound prepared : Watch host Bool) s' asserting (.ok true) s' := by
  have stable := Settles.stable s
  unfold commitChecks at run
  obtain ⟨t₁, _, s₁, _, rfl, accessed, after₁⟩ := run.bind_ok_inv
  have settled := access_keeps stable.toSteady _ _ _ _ accessed (.refl s)
  obtain ⟨t₂, _, s₂, _, rfl, controlled, after₂⟩ := after₁.bind_ok_inv
  have lease := requireControl_ok controlled
  rw [settled.governance] at lease
  have settled := requireControl_keeps _ _ _ _ _ _ controlled settled
  obtain ⟨t₃, _, s₃, _, rfl, identified, after₃⟩ := after₂.bind_ok_inv
  have settled := requireIdentity_keeps stable _ _ _ _ identified settled
  obtain ⟨t₄, changed, s₄, _, rfl, refreshed, after₄⟩ := after₃.bind_ok_inv
  have settled := refreshExternalMutation_keeps stable.toSteady _ _ _ _ refreshed settled
  obtain ⟨t₅, status, s₅, t₆, rfl, checked, after₅⟩ := after₄.bind_ok_inv
  cases status with
  | error reason =>
      obtain ⟨-, eq, -⟩ := Act.runs_pure.mp after₅
      cases eq
  | ok known =>
      obtain ⟨committable, rfl⟩ := commitStatus_ok checked
      obtain ⟨rfl, ⟨settled, committable⟩, early, asserting, rfl, secret⟩ := commitState_ok
        (I := fun x => Settles s x ∧ Committable request x known)
        (fun x held => ⟨stable.terminal x held.1,
          ⟨held.2.found, held.2.isPrepared, held.2.current, held.2.payload⟩⟩)
        ⟨settled, committable⟩ after₅
      refine ⟨settled, committable, lease, t₁ ++ (t₂ ++ (t₃ ++ (t₄ ++ (t₅ ++ early)))), asserting,
        by simp, secret⟩

/-- The execution of a commit, from the record in which it is marked. -/
theorem executePrepared_inv {r : Except PyException SessionReceipt} {t : Trace RuntimeSig}
    (run : Act.Runs (executePrepared request prepared) s t r s') :
    Act.Runs (Act.andFinally (executeRequest (prepared.request request.caller))
      (modify fun last => last.release s.activeSpeculation))
      (s.committing request.token prepared) t r s' :=
  run.get_bind_inv.modify_bind_inv

/-- A commit writes what its checks, an execution and its own updates write. -/
theorem commitOperation_keeps (committing : Committing I)
    (refused : ∀ s token, Refusable I token s → I (s.setPreparationStatus token .invalidated))
    (request : CommitRequest) : Keeps I (commitOperation request : Session host CommitResult) := by
  have stable := committing.toStable
  intro s t r s' run holds
  unfold commitOperation at run
  rcases run.left_bind_inv with ⟨u, e, -, -, checks⟩ | ⟨u, checked, s₁, rest, rfl, checks, after⟩
  · exact commitChecks_keeps stable refused request _ _ _ _ checks holds
  have held := commitChecks_keeps stable refused request _ _ _ _ checks holds
  cases checked with
  | error reason =>
      obtain ⟨-, -, rfl⟩ := Act.runs_pure.mp after
      exact held
  | ok prepared =>
      obtain ⟨-, committable, -⟩ := commitChecks_ok checks
      have marked := committing.committing s₁ _ _ held committable.found committable.isPrepared
      have execute : ∀ {v r s₂}, Act.Runs (executePrepared request prepared) s₁ v r s₂ → I s₂ :=
        fun execution => Keeps.andFinally (executeRequest_keeps committing.toLasting _)
          (keeps_modify fun s => committing.released s _) _ _ _ _ (executePrepared_inv execution) marked
      rcases after.bind_inv with ⟨e, -, execution⟩ | ⟨_, receipt, s₂, _, -, execution, last⟩
      · exact execute execution
      · exact ((touch_keeps stable.toSteady).left.bind fun _ => keeps_pure _) _ _ _ _ last (execute execution)

end Commit

/-! ## Speculation -/

section Speculation

open Act

variable {I : SessionRecord host.codec → Prop}

theorem requireSignedSpeculation_keeps (plan : SpeculativePlan) :
    Keeps I (requireSignedSpeculation plan : Watch host Unit) := by
  refine keeps_get.bind fun s => ?_
  split
  · refine (Watch.rejectWhen_keeps _ _ _).bind fun _ => ?_
    cases plan.parentOperation with
    | none => exact keeps_throw _
    | some parent => exact requireSignedPlanOperation_keeps _ _
  · exact keeps_pure _

theorem authorizeContinuations_keeps (branches : List SpeculativeBranch) :
    Keeps I (authorizeContinuations branches : Watch host Unit) := by
  induction branches with
  | nil => exact keeps_pure ()
  | cons branch rest ih =>
      refine keeps_get.bind fun s => ?_
      cases s.authorityEnvelope with
      | none => exact keeps_throw _
      | some envelope =>
          exact (firewallDecision_keeps _ _).bind fun _ =>
            (Watch.rejectWhen_keeps _ _ _).bind fun _ => ih

theorem prepareSpeculation_keeps (observing : Observing I) (request : SpeculateRequest) :
    Keeps I (prepareSpeculation request : Watch host BranchPreparation) := by
  have stable := observing.toStable
  refine (keeps_ofExcept _).bind fun _ => (checkTtl_keeps _).bind fun _ => ?_
  refine (access_keeps stable.toSteady).bind fun _ => (requireControl_keeps _ _).bind fun _ => ?_
  refine (requireIdentity_keeps stable).bind fun _ => (refreshExternalMutation_keeps stable.toSteady).bind fun _ => ?_
  refine (rejectMutationIfPolicyRequires_keeps _ _).bind fun _ => (keeps_ofExcept _).bind fun plan => ?_
  refine (requireSignedSpeculation_keeps _).bind fun _ => (activeBackend_keeps stable.terminal).bind fun _ => ?_
  refine (authorizeContinuations_keeps _).bind fun _ => Watch.nowMs_keeps.bind fun now => ?_
  refine Keeps.bind (keeps_modify fun s holds => observing.regraphed s _ holds (.forgotten _)) fun _ =>
    keeps_get.bind fun s => ?_
  refine (Watch.rejectWhen_keeps _ _ _).bind fun _ => Watch.freshToken_keeps.bind fun token => ?_
  exact Keeps.bind (keeps_modify fun s holds => observing.regraphed s _ holds (.entered _ _ rfl)) fun _ =>
    (touch_keeps stable.toSteady).bind fun _ => keeps_pure _

theorem matchingBranches_keeps (now : Int) (branches : List SpeculativeBranch) :
    Keeps I (matchingBranches now branches : Watch host (List String)) := by
  induction branches with
  | nil => exact keeps_pure _
  | cons branch rest ih =>
      refine Watch.pageUrl_keeps.bind fun url => (Watch.stage_keeps _ _).bind fun results => ?_
      refine ih.bind fun matched => ?_
      split
      · exact keeps_pure _
      · exact keeps_pure _

theorem selectSpeculativeBranch_keeps (stable : Stable I)
    (regraphed : ∀ s graphs, I s → Regraphs host s.speculations graphs → I { s with speculations := graphs })
    (token : String) (caller : Caller) :
    Keeps I (selectSpeculativeBranch token caller : Watch host SpeculationSelection) := by
  refine (access_keeps stable.toSteady).bind fun _ => (requireControl_keeps _ _).bind fun _ => ?_
  refine (requireIdentity_keeps stable).bind fun _ => keeps_get.bind fun s => ?_
  split
  · exact keeps_pure _
  · refine Watch.nowMs_keeps.bind fun now => ?_
    split
    · exact keeps_pure _
    · split
      · exact keeps_pure _
      · refine (refreshExternalMutation_keeps stable.toSteady).bind fun _ => keeps_get.bind fun s => ?_
        split
        · exact keeps_pure _
        · split
          · exact keeps_pure _
          · refine (activeBackend_keeps stable.terminal).bind fun _ => (keeps_ask _).bind fun _ => ?_
            refine (matchingBranches_keeps _ _).bind fun matched => ?_
            refine Keeps.bind (keeps_modify fun s holds => regraphed s _ holds ?_) fun _ =>
              (touch_keeps stable.toSteady).bind fun _ => keeps_pure _
            exact .marked (fun key item => if key == token then { item with selected := some _ } else item)
              fun key item => by split <;> exact ⟨rfl, rfl⟩

theorem eligibleBranch_keeps (stable : Stable I)
    (regraphed : ∀ s graphs, I s → Regraphs host s.speculations graphs → I { s with speculations := graphs })
    (token : String) (caller : Caller) :
    Keeps I (eligibleBranch token caller : Watch host EligibleBranch) := by
  refine (access_keeps stable.toSteady).bind fun _ => (requireControl_keeps _ _).bind fun _ => ?_
  refine (requireIdentity_keeps stable).bind fun _ => keeps_get.bind fun s => ?_
  split
  · exact Watch.reject_keeps _ _
  · split
    · exact Watch.reject_keeps _ _
    · refine Watch.nowMs_keeps.bind fun now => (Watch.rejectWhen_keeps _ _ _).bind fun _ => ?_
      refine (refreshExternalMutation_keeps stable.toSteady).bind fun _ => keeps_get.bind fun s => ?_
      refine (Watch.rejectWhen_keeps _ _ _).bind fun _ => ?_
      refine (selectSpeculativeBranch_keeps stable regraphed _ _).bind fun refreshed => ?_
      refine (Watch.rejectWhen_keeps _ _ _).bind fun _ => ?_
      split
      · exact keeps_throw _
      · refine (activeBackend_keeps stable.terminal).bind fun _ => keeps_get.bind fun s => ?_
        split
        · exact keeps_throw _
        · refine (firewallDecision_keeps _ _).bind fun _ => (Watch.rejectWhen_keeps _ _ _).bind fun _ => ?_
          refine Keeps.bind (keeps_modify fun s holds => regraphed s _ holds ?_) fun _ => keeps_pure _
          exact .marked (fun key item => if key == token then { item with consumed := true } else item)
            fun key item => by split <;> exact ⟨rfl, rfl⟩

/-- A selected branch is prepared or executed; a preparation in it makes the calls
that `known` lists. -/
theorem executeSelectedSpeculativeBranch_keeps (observing : Observing I) (committing : Committing I)
    {token : String} {caller : Caller} {s s' : SessionRecord host.codec} {t : Trace RuntimeSig}
    {r : Except PyException SpeculationResult}
    (run : Act.Runs (executeSelectedSpeculativeBranch token caller : Session host _) s t r s')
    (prepare : ∀ request u r s s', (∀ e ∈ u, Event.left e ∈ t) →
      Act.Runs (prepareOperation request : Watch host _) s u r s' → I s → I s')
    (holds : I s) : I s' := by
  have eligibleKept := eligibleBranch_keeps observing.toStable observing.regraphed token caller
  unfold executeSelectedSpeculativeBranch at run
  rcases run.left_bind_inv with ⟨u, e, -, -, checks⟩ | ⟨u, eligible, s₁, rest, rfl, checks, after⟩
  · exact eligibleKept _ _ _ _ checks holds
  have held := eligibleKept _ _ _ _ checks holds
  replace after := after.get_bind_inv
  dsimp only at after
  split at after
  · rcases after.left_bind_inv with ⟨v, e, rfl, -, preparing⟩ | ⟨v, _, s₂, _, rfl, preparing, last⟩
    · exact prepare _ _ _ _ _ (fun e mem => List.mem_append_right _ (List.mem_map_of_mem mem))
        preparing held
    · obtain ⟨-, -, rfl⟩ := Act.runs_pure.mp last
      exact prepare _ _ _ _ _ (fun e mem => List.mem_append_right _
        (List.mem_append_left _ (List.mem_map_of_mem mem))) preparing held
  · refine Keeps.bind ?_ (fun receipt => keeps_pure _) _ _ _ _ after.modify_bind_inv
      (committing.selected s₁ _ held)
    exact (executeRequest_keeps committing.toLasting _).andFinally
      (keeps_modify fun s => committing.selected s _)

end Speculation

/-! ## Hand-off -/

section Handoff

open Act

variable {I : SessionRecord host.codec → Prop}

theorem validateAgentId_keeps (agentId : Option String) :
    Keeps I (validateAgentId agentId : Watch host Unit) := by
  unfold validateAgentId
  split
  · exact keeps_pure ()
  · split
    · exact keeps_throw _
    · exact keeps_pure ()

theorem verifyRecipient_keeps (request : OfferRequest) :
    Keeps I (verifyRecipient request : Watch host (Option AgentIdentity)) := by
  unfold verifyRecipient
  split
  · exact keeps_pure none
  · refine keeps_get.bind fun s => (Watch.rejectWhen_keeps _ _ _).bind fun _ => (keeps_ask _).bind fun verified => ?_
    cases (verified : Except PyException AgentIdentity) with
    | ok descriptor => exact keeps_pure _
    | error e =>
        dsimp only
        split
        · exact Watch.reject_keeps _ _
        · exact keeps_throw e

theorem prepareAgentHandoff_keeps (observing : Observing I)
    (offered : ∀ s pending, I s → I { s with pendingHandoffs := pending }) (request : OfferRequest) :
    Keeps I (prepareAgentHandoff request : Watch host AgentHandoffCheckpoint) := by
  have stable := observing.toStable
  refine (checkTtl_keeps _).bind fun _ => (validateAgentId_keeps _).bind fun _ => ?_
  refine (access_keeps stable.toSteady).bind fun _ => (requireControl_keeps _ _).bind fun _ => ?_
  refine (requireIdentity_keeps stable).bind fun _ => (refreshExternalMutation_keeps stable.toSteady).bind fun _ => ?_
  refine (verifyRecipient_keeps _).bind fun descriptor => (activeBackend_keeps stable.terminal).bind fun _ => ?_
  refine Keeps.bind (keeps_modify fun s holds => ?_) fun _ => ?_
  · split
    · exact holds
    · exact observing.invalidated s holds
  refine Watch.listPages_keeps.bind fun _ => Watch.freshToken_keeps.bind fun token => ?_
  refine Watch.nowMs_keeps.bind fun now => Watch.pageUrl_keeps.bind fun _ => keeps_get.bind fun s => ?_
  exact Keeps.bind (keeps_modify fun s => offered s _) fun _ =>
    (touch_keeps stable.toSteady).bind fun _ => keeps_pure _

theorem verifyKeptIdentity_keeps (pending : PendingHandoff) (newAgentId : String) :
    Keeps I (verifyKeptIdentity pending newAgentId : Watch host Unit) := by
  refine keeps_get.bind fun s => ?_
  dsimp only
  split
  · split
    · exact (keeps_throw _).bind fun _ => (keeps_ask _).bind fun verified => by
        cases (verified : Except PyException AgentIdentity) with
        | ok descriptor => exact keeps_pure ()
        | error e =>
            dsimp only
            split
            · exact Watch.reject_keeps _ _
            · exact keeps_throw e
    · refine (keeps_ask _).bind fun verified => ?_
      cases (verified : Except PyException AgentIdentity) with
      | ok descriptor => exact keeps_pure ()
      | error e =>
          dsimp only
          split
          · exact Watch.reject_keeps _ _
          · exact keeps_throw e
  · exact keeps_pure ()

theorem checkClaim_keeps (steady : Steady I) (request : ClaimRequest) (pending : PendingHandoff) :
    Keeps I (checkClaim request pending : Watch host Unit) := by
  have epoch : Keeps I (checkClaimEpoch pending.checkpoint : Watch host Unit) := by
    unfold checkClaimEpoch
    split
    · exact (refreshExternalMutation_keeps steady).bind fun _ => keeps_get.bind fun _ =>
        Watch.rejectWhen_keeps _ _ _
    · exact keeps_pure _
  have identity : Keeps I (checkRecipientIdentity pending request.newAgentId : Watch host Unit) :=
    (verifyKeptIdentity_keeps _ _).bind fun _ => keeps_get.bind fun _ => Watch.rejectWhen_keeps _ _ _
  refine (Watch.rejectWhen_keeps _ _ _).bind fun _ => Watch.nowMs_keeps.bind fun now => ?_
  refine (Watch.rejectWhen_keeps _ _ _).bind fun _ => keeps_get.bind fun s => ?_
  refine (Watch.rejectWhen_keeps _ _ _).bind fun _ => epoch.bind fun _ => ?_
  refine (Watch.rejectWhen_keeps _ _ _).bind fun _ => (Watch.rejectWhen_keeps _ _ _).bind fun _ => ?_
  exact (Watch.rejectWhen_keeps _ _ _).bind fun _ => identity

theorem claimAgentHandoff_keeps (steady : Steady I)
    (claimed : ∀ (s : SessionRecord host.codec) pending agentId token, I s →
      I (s.handedOver pending agentId token)) (request : ClaimRequest) :
    Keeps I (claimAgentHandoff request : Watch host AgentHandoff) := by
  refine (validateAgentId_keeps _).bind fun _ => (access_keeps steady).bind fun _ => ?_
  refine keeps_get.bind fun s => ?_
  split
  · exact Watch.reject_keeps _ _
  · refine (checkClaim_keeps steady _ _).bind fun _ => Watch.freshToken_keeps.bind fun token => ?_
    refine Keeps.bind (keeps_modify fun s => claimed s _ _ _) fun _ => ?_
    exact (touch_keeps steady).bind fun _ => keeps_get.bind fun _ => keeps_pure _

end Handoff

/-! ## Plans and typing sessions -/

section Plans

open Act

variable {I : SessionRecord host.codec → Prop}

theorem planSteps_keeps (plan : ExecutionPlan host.codec) (operations : List Operation) :
    Keeps I (planSteps plan operations : Session host _) := by
  induction operations with
  | nil => exact keeps_pure _
  | cons op rest ih =>
      refine (keeps_ask _).left.bind fun deadline => ?_
      refine Keeps.bind (Keeps.tryCatch ((runExecutor_keeps _ _).bind fun _ => keeps_pure _)
        fun _ => keeps_pure _) fun receipt => ?_
      split
      · exact keeps_pure _
      · split
        · exact keeps_pure _
        · exact ih.bind fun _ => keeps_pure _

theorem runPlan_keeps (plan : ExecutionPlan host.codec) : Keeps I (runPlan plan : Session host _) := by
  unfold runPlan
  split
  · split
    · exact keeps_pure _
    · exact keeps_throw _
  · split
    · exact keeps_pure _
    · refine (keeps_ask _).left.bind fun started => ?_
      cases (started : Except PyException Unit) with
      | ok _ => exact planSteps_keeps _ _
      | error e =>
          dsimp only
          split
          · exact keeps_pure _
          · exact keeps_throw _

theorem planGate_keeps (stable : Stable I) (plan : ExecutionPlan host.codec) (caller : Caller) :
    Keeps I (planGate plan caller : Watch host Unit) :=
  (access_keeps stable.toSteady).bind fun _ => (requireControl_keeps _ _).bind fun _ =>
    (activeBackend_keeps stable.terminal).bind fun _ => (Watch.rejectWhen_keeps _ _ _).bind fun _ =>
      keeps_get.bind fun _ => Watch.rejectWhen_keeps _ _ _

theorem executePlan_keeps (stable : Stable I) (plan : ExecutionPlan host.codec) (caller : Caller) :
    Keeps I (executePlan plan caller : Session host _) :=
  (planGate_keeps stable plan caller).left.bind fun _ => (runPlan_keeps plan).bind fun _ =>
    (noteBackend_keeps stable.toSteady).left.bind fun _ => keeps_pure _

theorem typeKeys_keeps (lasting : Lasting I) (config : TypingSessionConfig) (caller : Caller)
    (index : Nat) (keys : List String) :
    Keeps I (typeKeys config caller index keys : Session host Bool) := by
  induction keys generalizing index with
  | nil => exact keeps_pure true
  | cons key rest ih =>
      refine (executeRequest_keeps lasting _).bind fun receipt => ?_
      split
      · exact keeps_pure false
      · exact ih (index + 1)

theorem typeText_keeps (lasting : Lasting I) (config : TypingSessionConfig) (caller : Caller)
    (index : Nat) (text : List Char) :
    Keeps I (typeText config caller index text : Session host Bool) := by
  fun_induction typeText config caller index text with
  | case1 => exact keeps_pure true
  | case2 => exact keeps_pure false
  | case3 index c text key keys _ ih =>
      refine (typeKeys_keeps lasting config caller index (key :: keys)).bind fun typed => ?_
      split
      · exact keeps_pure false
      · dsimp only
        split
        · exact (keeps_attempt _ _).left.bind fun _ => ih
        · exact ih

theorem finalVerify_keeps (config : TypingSessionConfig) :
    Keeps I (finalVerify config : Watch host Bool) := by
  unfold finalVerify
  split
  · exact keeps_pure true
  · exact Watch.pageUrl_keeps.bind fun _ => (Watch.stage_keeps _ _).bind fun _ => keeps_pure _

theorem typingGate_keeps (stable : Stable I) (config : TypingSessionConfig) (caller : Caller) :
    Keeps I (do
      Act.ofExcept config.validate
      access
      requireControl caller.agentId caller.controlToken
      requireIdentity
      activeBackend : Watch host Unit) :=
  (keeps_ofExcept _).bind fun _ => (access_keeps stable.toSteady).bind fun _ =>
    (requireControl_keeps _ _).bind fun _ => (requireIdentity_keeps stable).bind fun _ =>
      activeBackend_keeps stable.terminal

theorem executeTypingSession_keeps (lasting : Lasting I) (config : TypingSessionConfig)
    (reference : Option ObservationReference) (caller : Caller) :
    Keeps I (executeTypingSession config reference caller : Session host Bool) := by
  have stable := lasting.toStable
  refine (typingGate_keeps stable config caller).left.bind fun _ => ?_
  refine (executeRequest_keeps lasting _).bind fun target => ?_
  split
  · exact keeps_pure false
  · refine (typeText_keeps lasting config caller 0 config.text).bind fun typed => ?_
    split
    · exact keeps_pure false
    · exact (finalVerify_keeps config).left

end Plans

/-! ## The remaining methods, and the API -/

section Rest

open Act

variable {I : SessionRecord host.codec → Prop}

theorem selectBackendPage_keeps (pageId : String) :
    Keeps I (selectBackendPage pageId : Watch host Unit) :=
  Watch.listPages_keeps.bind fun _ => (Watch.rejectWhen_keeps _ _ _).bind fun _ => keeps_attempt _ _

theorem observePage_keeps (stable : Stable I) (pageId : Option String) (caller : Caller) :
    Keeps I (observePage pageId caller : Watch host BackendObservation) := by
  have finish : Keeps I (do
      let observation ← Act.ask (S := QuietSig) .observe
      touch
      return observation : Watch host BackendObservation) :=
    (keeps_ask _).bind fun _ => (touch_keeps stable.toSteady).bind fun _ => keeps_pure _
  refine (access_keeps stable.toSteady).bind fun _ => ?_
  dsimp only
  cases pageId with
  | none =>
      have look := (activeBackend_keeps stable.terminal).bind fun _ => finish
      split
      · exact (requireControl_keeps _ _).bind fun _ => look
      · exact look
  | some pageId =>
      have look := (activeBackend_keeps stable.terminal).bind fun _ =>
        (selectBackendPage_keeps pageId).bind fun _ => finish
      split
      · exact (requireControl_keeps _ _).bind fun _ => look
      · exact look

theorem selectPage_keeps (stable : Stable I) (pageId : String) (caller : Caller) :
    Keeps I (selectPage pageId caller : Watch host Unit) :=
  (access_keeps stable.toSteady).bind fun _ => (requireControl_keeps _ _).bind fun _ =>
    (activeBackend_keeps stable.terminal).bind fun _ => (selectBackendPage_keeps pageId).bind fun _ =>
      (touch_keeps stable.toSteady).bind fun _ => Watch.listPages_keeps.bind fun _ => keeps_pure _

theorem inspectPages_keeps (stable : Stable I) :
    Keeps I (inspectPages : Watch host (List PageFacts)) :=
  (access_keeps stable.toSteady).bind fun _ => (activeBackend_keeps stable.terminal).bind fun _ =>
    Watch.listPages_keeps.bind fun _ => (touch_keeps stable.toSteady).bind fun _ => keeps_pure _

theorem recordExternalMutation_keeps (stable : Stable I) (actor : MutationActor) :
    Keeps I (recordExternalMutation actor : Watch host MutationEvidence) := by
  unfold recordExternalMutation
  split
  · exact keeps_throw _
  · exact (access_keeps stable.toSteady).bind fun _ => keeps_get.bind fun _ =>
      (Watch.rejectWhen_keeps _ _ _).bind fun _ => advanceMutationEpoch_keeps stable.toSteady _ _

theorem bindIdentity_keeps (observing : Observing I) (assertion : IdentityAssertion) :
    Keeps I (bindIdentity assertion : Watch host Unit) := by
  refine (access_keeps observing.toSteady).bind fun _ => keeps_get.bind fun s => ?_
  refine (Watch.rejectWhen_keeps _ _ _).bind fun _ => (keeps_ask _).bind fun verified => ?_
  cases (verified : Except PyException AgentIdentity) with
  | error e =>
      dsimp only
      split
      · exact Watch.reject_keeps _ _
      · exact keeps_throw e
  | ok descriptor =>
      exact Keeps.bind (keeps_modify fun s => observing.identityBound s _ _) fun _ =>
        touch_keeps observing.toSteady

theorem closeSession_keeps (stable : Stable I) (caller : Caller) :
    Keeps I (closeSession caller : Watch host Unit) := by
  refine keeps_get.bind fun s => ?_
  split
  · exact keeps_pure ()
  · exact (requireControl_keeps _ _).bind fun _ => closeRecord_keeps stable.toSteady _

theorem cleanupExpired_keeps (stable : Stable I) : Keeps I (cleanupExpired : Watch host Unit) := by
  refine Watch.nowMs_keeps.bind fun now => keeps_get.bind fun s => ?_
  split
  · exact closeRecord_keeps stable.toSteady _
  · exact keeps_pure _

theorem checkSignedPlan_keeps (request : SignedPlan host.codec) :
    Keeps I (checkSignedPlan request : Watch host Unit) :=
  keeps_get.bind fun _ => (Watch.rejectWhen_keeps _ _ _).bind fun _ =>
    (Watch.rejectWhen_keeps _ _ _).bind fun _ => (Watch.rejectWhen_keeps _ _ _).bind fun _ =>
      (Watch.rejectWhen_keeps _ _ _).bind fun _ => (Watch.rejectWhen_keeps _ _ _).bind fun _ =>
        (keeps_ask _).bind fun _ => (Watch.rejectWhen_keeps _ _ _).bind fun _ =>
          Watch.rejectWhen_keeps _ _ _

/-- A signed plan is installed at most once. -/
theorem checkSignedPlan_ok {request : SignedPlan host.codec} {s s' : SessionRecord host.codec}
    {t : Trace QuietSig} (run : Act.Runs (checkSignedPlan request) s t (.ok ()) s') :
    s.signedPlanAuthority = none := by
  unfold checkSignedPlan at run
  replace run := run.get_bind_inv
  obtain ⟨none, -⟩ := Watch.rejectWhen_bind_ok run
  simpa using none

theorem bindSignedPlanAuthority_keeps (observing : Observing I) (request : SignedPlan host.codec) :
    Keeps I (bindSignedPlanAuthority request : Watch host Unit) := by
  have stable := observing.toStable
  refine (access_keeps stable.toSteady).bind fun _ => ?_
  intro s t r s' run holds
  rcases run.bind_inv with ⟨e, -, checked⟩ | ⟨before, _, s₁, after, -, checked, next⟩
  · exact checkSignedPlan_keeps _ _ _ _ _ checked holds
  have unbound := checkSignedPlan_ok checked
  obtain rfl := checkSignedPlan_keeps (I := (· = s)) _ _ _ _ _ checked rfl
  rcases next.modify_bind_inv.ofExcept_bind_inv with ⟨e, -, -, -, rfl⟩ | ⟨speculations, -, installing⟩
  · exact observing.planBound s₁ _ _ holds unbound
  · exact touch_keeps stable.toSteady _ _ _ _ installing.modify_bind_inv
      (observing.planInstalled s₁ _ _ _ holds unbound)

end Rest

/-- The calls of the API other than `prepare_operation` and those that hand control
over make no update but those of `Observing`, `Lasting` and `Committing`. -/
theorem SessionCall.run_keeps {I : SessionRecord host.codec → Prop} (observing : Observing I)
    (committing : Committing I) {call : SessionCall host} {s s' : SessionRecord host.codec}
    {t : Trace RuntimeSig} {r : Except PyException call.Reply} (run : Act.Runs call.body s t r s')
    (offered : ∀ request, call = .prepareAgentHandoff request → Act.Keeps I
      (Dingdongditch.prepareAgentHandoff request : Watch host AgentHandoffCheckpoint))
    (claimed : ∀ request, call = .claimAgentHandoff request → Act.Keeps I
      (Dingdongditch.claimAgentHandoff request : Watch host AgentHandoff))
    (prepare : ∀ request u r s s', (∀ e ∈ u, Event.left e ∈ t) →
      Act.Runs (Dingdongditch.prepareOperation request : Watch host _) s u r s' → I s → I s')
    (holds : I s) : I s' := by
  have stable := observing.toStable
  have of_keeps : Act.Keeps I call.body → I s' := fun keeps => keeps s t r s' run holds
  cases call with
  | observePage pageId caller => exact of_keeps (observePage_keeps stable pageId caller).left
  | prepareOperation operation ttlMs caller =>
      obtain ⟨u, rfl, preparing⟩ := run.of_left
      exact prepare _ _ _ _ _ (fun e mem => List.mem_map_of_mem mem) preparing holds
  | commitOperation request =>
      exact of_keeps (commitOperation_keeps committing observing.refused request)
  | bindSignedPlanAuthority request =>
      exact of_keeps (bindSignedPlanAuthority_keeps observing request).left
  | bindIdentity assertion => exact of_keeps (bindIdentity_keeps observing assertion).left
  | prepareSpeculation request => exact of_keeps (prepareSpeculation_keeps observing request).left
  | selectSpeculativeBranch token caller =>
      exact of_keeps (selectSpeculativeBranch_keeps stable observing.regraphed token caller).left
  | executeSelectedSpeculativeBranch token caller =>
      exact executeSelectedSpeculativeBranch_keeps observing committing run prepare holds
  | prepareAgentHandoff request => exact of_keeps (offered request rfl).left
  | claimAgentHandoff request => exact of_keeps (claimed request rfl).left
  | executeOperation operation reference caller =>
      exact of_keeps (executeRequest_keeps committing.toLasting _)
  | executePlan plan caller => exact of_keeps (executePlan_keeps stable plan caller)
  | executeTypingSession config reference caller =>
      exact of_keeps (executeTypingSession_keeps committing.toLasting config reference caller)
  | inspectPages => exact of_keeps (inspectPages_keeps stable).left
  | selectPage pageId caller => exact of_keeps (selectPage_keeps stable pageId caller).left
  | recordExternalMutation actor => exact of_keeps (recordExternalMutation_keeps stable actor).left
  | closeSession caller => exact of_keeps (closeSession_keeps stable caller).left
  | cleanupExpired => exact of_keeps (cleanupExpired_keeps stable).left

/-- A property that every update keeps, the entry of a new preparation apart, is
kept by every call that keeps it where it enters one. -/
theorem step_keeps {I : SessionRecord host.codec → Prop} (observing : Observing I)
    (committing : Committing I) (offered : ∀ s pending, I s → I { s with pendingHandoffs := pending })
    (claimed : ∀ (s : SessionRecord host.codec) pending agentId token, I s →
      I (s.handedOver pending agentId token)) {step : SessionStep host}
    (prepare : ∀ request u r s s', (∀ e ∈ u, Event.left e ∈ step.trace) →
      Act.Runs (Dingdongditch.prepareOperation request : Watch host _) s u r s' → I s → I s')
    (holds : I step.before) : I step.after :=
  SessionCall.run_keeps observing committing step.run
    (fun request _ => prepareAgentHandoff_keeps observing offered request)
    (fun request _ => claimAgentHandoff_keeps observing.toSteady claimed request) prepare holds

end Dingdongditch
