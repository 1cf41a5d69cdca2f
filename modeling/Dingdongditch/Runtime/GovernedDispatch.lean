import Dingdongditch.Runtime.Speculation

/-!
# No dispatch without its gate

What stands between a call of the API and the backend: every dispatch of a run is
one of an `execute_operation` that passed its gate in the same call, or one of a
plan in a session without an envelope (`dispatches_gated`).  An action that the
policy lets through only when it was prepared is dispatched by a commit of its
operation, or is the enclosing action of a branching guard, which
`_governed_action_types` leaves out.
-/

namespace Dingdongditch

open Interaction Text

variable {host : SessionHost}

/-! ## One execution -/

/-- The look at the browser before a dispatch: a change since the fingerprint of `s` was
one that the policy lets a call with a fresh observation continue after, and the
observation is of the epochs that the look left. -/
structure LookedAt (request : ExecuteRequest) (s : SessionRecord host.codec) (front : Trace QuietSig) :
    Prop where
  look : ∃ look changed, look <:+: front ∧ Look s look changed ∧
    (∀ policy, s.mutationPolicy = some policy → changed = true →
      policy ≠ .failOnExternalMutation ∧ request.observationReference.isSome = true) ∧
    ∀ reference, request.observationReference = some reference →
      (∀ epoch, reference.controlEpoch = some epoch → epoch = (s.controlEpoch : Int)) ∧
      ∀ epoch, reference.mutationEpoch = some epoch → epoch = s.epochAfter changed

/-- What an execution passed from the record `s` on, in the events of `front`. -/
structure PassedGate (request : ExecuteRequest) (s : SessionRecord host.codec) (front : Trace QuietSig) :
    Prop where
  lease : s.governance.LeaseHeld ⟨request.agentId, request.controlToken⟩
  identity : s.governance.IdentityVerified (front.map Event.left)
  looked : LookedAt request s front
  firewall : ∀ envelope, s.authorityEnvelope = some envelope →
    (needsPreparation envelope.toAuthorityPolicy request.operation = true →
      s.activeCommitToken.isSome = true) ∧
    ∀ action ∈ (decisionScope envelope.toAuthorityPolicy request.operation).candidateActions,
      Evaluated envelope request.governedOperation action front

theorem checkReferenceEpochs_ok {reference : Option ObservationReference} {s s' : SessionRecord host.codec}
    {t : Trace QuietSig}
    (run : Act.Runs (checkReferenceEpochs reference : Watch host Unit) s t (.ok ()) s') :
    (∀ r, reference = some r →
      (∀ epoch, r.controlEpoch = some epoch → epoch = (s.controlEpoch : Int)) ∧
      ∀ epoch, r.mutationEpoch = some epoch → epoch = s.mutationEpoch) ∧ t = [] ∧ s' = s := by
  unfold checkReferenceEpochs at run
  obtain ⟨control, run⟩ := Watch.rejectWhen_bind_ok run.get_bind_inv
  obtain ⟨mutation, rfl, rfl⟩ := Watch.rejectWhen_ok run
  refine ⟨?_, rfl, rfl⟩
  rintro r rfl
  constructor
  · rintro epoch isEpoch
    simpa [isEpoch] using control
  · rintro epoch isEpoch
    simpa [isEpoch] using mutation

theorem Governance.IdentityVerified.mono {codec : HostCodec} {g : Governance codec}
    {t u : Trace RuntimeSig} (verified : g.IdentityVerified t) (within : ∀ e ∈ t, e ∈ u) :
    g.IdentityVerified u := by
  intro assertion bound
  obtain ⟨descriptor, mem, required⟩ := verified assertion bound
  exact ⟨descriptor, within _ mem, required⟩

theorem Evaluated.mono {envelope : AuthorityEnvelope host.codec} {op : Operation} {action : Action}
    {t u : Trace QuietSig} (evaluated : Evaluated envelope op action t) (within : ∀ e ∈ t, e ∈ u) :
    Evaluated envelope op action u := by
  obtain ⟨input, authorized, mem⟩ := evaluated
  exact ⟨input, authorized, within _ mem⟩

theorem decisionScope_congr {op op' : Operation} (same : op.SameShape op') (policy : AuthorityPolicy) :
    decisionScope policy op' = decisionScope policy op := by
  unfold decisionScope
  rw [same.guard, same.action]

/-- What the head of an execution checked. -/
theorem executionGate_ok {request : ExecuteRequest} {s s' : SessionRecord host.codec}
    {t : Trace QuietSig} (run : Act.Runs (executionGate request) s t (.ok ()) s') :
    s.governance.LeaseHeld ⟨request.agentId, request.controlToken⟩ ∧
      s.governance.IdentityVerified (t.map Event.left) ∧ LookedAt request s t := by
  unfold executionGate at run
  obtain ⟨t₁, _, s₁, _, rfl, controlled, after₁⟩ := run.bind_ok_inv
  have lease := requireControl_ok controlled
  obtain rfl := requireControl_keeps (I := (· = s)) _ _ _ _ _ _ controlled rfl
  obtain ⟨t₂, _, s₂, _, rfl, identified, after₂⟩ := after₁.bind_ok_inv
  have identity := requireIdentity_ok identified
  have described := requireIdentity_record identified
  obtain ⟨t₃, _, s₃, _, rfl, planned, after₃⟩ := after₂.bind_ok_inv
  obtain rfl := requireSignedPlanOperation_keeps (I := (· = s₂)) _ _ _ _ _ _ planned rfl
  obtain ⟨t₄, changed, s₄, _, rfl, refreshed, after₄⟩ := after₃.bind_ok_inv
  obtain ⟨look, epoch⟩ := refreshExternalMutation_ok refreshed
  have settled := refreshExternalMutation_keeps (Settles.stable s₃).toSteady _ _ _ _ refreshed (.refl s₃)
  obtain ⟨t₅, _, s₅, _, rfl, referenced, after₅⟩ := after₄.bind_ok_inv
  obtain ⟨epochs, rfl, rfl⟩ := checkReferenceEpochs_ok referenced
  obtain ⟨t₆, _, s₆, t₇, rfl, allowed, -⟩ := after₅.bind_ok_inv
  have policies := rejectMutationIfPolicyRequires_ok allowed
  -- before the look, the call changed the descriptor of the identity at most
  generalize s₃.identityDescriptor = descriptor at described
  subst described
  have samePolicy : s₅.mutationPolicy = s₁.mutationPolicy :=
    congrArg Governance.mutationPolicy settled.governance
  have sameEpoch : s₅.controlEpoch = s₁.controlEpoch :=
    congrArg Governance.controlEpoch settled.governance
  rw [samePolicy] at policies
  rw [sameEpoch, epoch] at epochs
  refine ⟨lease, identity.mono ?_, ⟨t₄, changed, ?_, ⟨look.asked, look.unasked⟩, policies, epochs⟩⟩
  · intro e mem
    obtain ⟨inner, isInner, rfl⟩ := List.mem_map.mp mem
    exact List.mem_map_of_mem (List.mem_append_right _ (List.mem_append_left _ isInner))
  · exact ⟨t₁ ++ (t₂ ++ t₃), [] ++ (t₆ ++ t₇), by simp⟩

/-- An execution dispatches nothing, or it passed its gate before. -/
theorem executeRequest_gated {request : ExecuteRequest} {s s' : SessionRecord host.codec}
    {t : Trace RuntimeSig} {r : Except PyException SessionReceipt}
    (run : Act.Runs (executeRequest request) s t r s') :
    Silent t ∨ ∃ front rest, t = front.map Event.left ++ rest ∧ PassedGate request s front := by
  cases executeRequest_run run with
  | stopped silent => exact .inl silent
  | @executed s₀ s₁ _ t₀ t₁ entry rest executing out _ decision accessed gated authorized executed
      continues =>
      refine .inr ⟨_, _, rfl, ?_⟩
      obtain rfl := access_ok accessed
      obtain ⟨lease, identity, looked⟩ := executionGate_ok gated
      have settled₁ := executionGate_keeps (Settles.stable s₀) _ _ _ _ _ gated (.refl s₀)
      refine ⟨lease, identity.mono ?_, ?_, ?_⟩
      · intro e mem
        obtain ⟨inner, isInner, rfl⟩ := List.mem_map.mp mem
        exact List.mem_map_of_mem (List.mem_append_right _ (List.mem_append_left _ isInner))
      · obtain ⟨look, changed, ⟨early, late, split⟩, isLook, policies, epochs⟩ := looked.look
        refine ⟨look, changed, ⟨t₀ ++ early, late ++ entry, ?_⟩, isLook, policies, epochs⟩
        rw [← split]
        simp
      · intro envelope governed
        have sameEnvelope : s₁.authorityEnvelope = s₀.authorityEnvelope :=
          congrArg Governance.authorityEnvelope settled₁.governance
        have sameToken : s₁.activeCommitToken = s₀.activeCommitToken :=
          congrArg Governance.activeCommitToken settled₁.governance
        obtain ⟨committed, early, decided, verdict, rfl, accepted, firewall⟩ :=
          authorized envelope (sameEnvelope.trans governed)
        rw [sameToken] at committed
        refine ⟨committed, ?_⟩
        intro action mem
        have evaluated := decideCandidates_evaluated firewall accepted
        rw [decisionScope_congr request.governedOperation_shape] at evaluated
        refine (evaluated action mem).mono fun e inside => ?_
        exact List.mem_append_right _ (List.mem_append_right _ (List.mem_append_right _ inside))

/-- The dispatches of an execution are of its operation. -/
theorem executeRequest_dispatches {request : ExecuteRequest} {s s' : SessionRecord host.codec}
    {t : Trace RuntimeSig} {r : Except PyException SessionReceipt}
    (run : Act.Runs (executeRequest request) s t r s') :
    ∀ d ∈ rights t, IsDispatchOf request.dispatchOperation
      (executorContext host request.observationReference) d := by
  intro d mem
  cases executeRequest_run run with
  | stopped silent =>
      rw [silent.rights_eq] at mem
      cases mem
  | executed decision accessed gated authorized executed continues =>
      obtain ⟨-, out, c, inner, -⟩ := runExecutor_inv executed
      simp only [rights_append, rights_map_left, List.nil_append, List.append_nil] at mem
      exact executeOperation_emits _ _ _ _ inner d mem

/-- The action that a dispatch hands to the backend. -/
def dispatchedAction (d : Event EffectSig) : Action := d.1.operation.action

/-- The dispatch is of the enclosing action of an operation with a branching guard. -/
def Enclosing (op : Operation) (d : Event EffectSig) : Prop :=
  op.branching = true ∧ dispatchedAction d = op.action

theorem Operation.legacy_of_single {op : Operation} (single : op.branching = false) :
    op.guard = none ∨ ∃ guard, op.guard = some guard ∧ guard.isLegacyTargetAbsent = true := by
  unfold Operation.branching at single
  cases guarded : op.guard with
  | none => exact .inl rfl
  | some guard =>
      rw [guarded] at single
      exact .inr ⟨guard, rfl, by simpa using single⟩

/-- An action that an operation may dispatch has a type that is governed, and is one
that the firewall decides about, unless it encloses a branching guard. -/
theorem IsDispatchOf.governed {op : Operation} {ctx : ExecutionContext} {d : Event EffectSig}
    (dispatch : IsDispatchOf op ctx d) (policy : AuthorityPolicy) :
    Enclosing op d ∨ ((dispatchedAction d).type ∈ governedActionTypes op ∧
      dispatchedAction d ∈ (decisionScope policy op).candidateActions) := by
  rcases dispatch with ⟨answer, rfl⟩ | ⟨guard, guarded, branching, action, mem, answer, rfl⟩
  · cases branches : op.branching with
    | true => exact .inl ⟨branches, rfl⟩
    | false =>
        right
        rcases Operation.legacy_of_single branches with none | ⟨guard, guarded, legacy⟩
        · unfold governedActionTypes decisionScope
          rw [none]
          exact ⟨List.mem_singleton_self _, List.mem_singleton_self _⟩
        · unfold governedActionTypes decisionScope
          rw [guarded]
          simp only [legacy, if_true]
          exact ⟨List.mem_singleton_self _, List.mem_singleton_self _⟩
  · right
    have notLegacy : guard.isLegacyTargetAbsent = false := by
      unfold OperationGuard.isLegacyTargetAbsent
      rw [branching]
      rfl
    have listed : action ∈ guard.branches.flatMap (·.execute) ++ guard.otherwise.getD [] := mem
    constructor
    · unfold governedActionTypes
      rw [guarded]
      simp only [notLegacy, Bool.false_eq_true, if_false]
      exact List.mem_map_of_mem listed
    · unfold decisionScope
      rw [guarded]
      have flattened : action ∈ (guard.branches.map (·.execute) ++ guard.otherwise.toList).flatten := by
        rw [List.flatten_append]
        rcases List.mem_append.mp listed with inBranch | inOtherwise
        · exact List.mem_append_left _ (List.flatMap_def ▸ inBranch)
        · refine List.mem_append_right _ ?_
          cases declared : guard.otherwise with
          | none =>
              rw [declared] at inOtherwise
              cases inOtherwise
          | some actions =>
              rw [declared] at inOtherwise
              simpa using inOtherwise
      have some : (guard.branches.map (·.execute) ++ guard.otherwise.toList).flatten.isEmpty = false := by
        rw [List.isEmpty_eq_false_iff]
        exact List.ne_nil_of_mem flattened
      simp only [notLegacy, some, Bool.false_eq_true, if_false]
      exact flattened

/-! ## One call -/

/-- The dispatch `d`, after `front` in the call, is one of the execution of `request`,
which presents the control pair of the call and passed its gate within it. -/
structure Gated (step : SessionStep host) (front : Trace RuntimeSig) (d : Event EffectSig)
    (request : ExecuteRequest) : Prop where
  called : step.method.caller = some ⟨request.agentId, request.controlToken⟩
  dispatches : IsDispatchOf request.dispatchOperation
    (executorContext host request.observationReference) d
  passed : ∃ early gate middle s, front = early ++ (gate.map Event.left ++ middle) ∧
    Act.Passes (SessionCall.body step.method) step.before early (executeRequest request) s ∧
    Act.Inside (SessionCall.body step.method) step.before front d (executeRequest request) s ∧
    s.governance = { step.before.governance with activeCommitToken := s.activeCommitToken } ∧
    PassedGate request s gate ∧
    (s.activeCommitToken = none ∨
      ∃ token, s.activeCommitToken = some token ∧ Executes step token request.operation)

/-- The execution that a dispatch falls in passed its gate. -/
theorem Gated.of_inside {step : SessionStep host} {front : Trace RuntimeSig} {d : Event EffectSig}
    {request : ExecuteRequest} {s : SessionRecord host.codec}
    (called : step.method.caller = some ⟨request.agentId, request.controlToken⟩)
    (inside : Act.Inside (SessionCall.body step.method) step.before front d (executeRequest request) s)
    (governed : s.governance =
      { step.before.governance with activeCommitToken := s.activeCommitToken })
    (committed : s.activeCommitToken = none ∨
      ∃ token, s.activeCommitToken = some token ∧ Executes step token request.operation) :
    Gated step front d request := by
  obtain ⟨early, inner, within, r, s', rfl, passes, run, before⟩ := inside.part
  refine ⟨called, executeRequest_dispatches run d before.mem_rights, ?_⟩
  rcases executeRequest_gated run with ⟨u, rfl⟩ | ⟨gate, rest, rfl, passed⟩
  · exact (Before.not_map_left before).elim
  rcases before.of_append with inGate | ⟨middle, rfl, -⟩
  · exact (Before.not_map_left inGate).elim
  · exact ⟨early, gate, middle, s, rfl, passes, inside, governed, passed, committed⟩

theorem governance_lasting (g : Governance host.codec) :
    Lasting fun s : SessionRecord host.codec => s.governance = g where
  touched _ _ same := same
  closed _ _ _ same := same
  terminal _ same := same
  identified _ _ same := same
  advanced _ _ same := same
  evidenced _ _ _ same := same
  fingerprinted _ _ same := same
  charged s _ _ _ same := by
    unfold SessionRecord.charge
    split
    · exact same
    · exact same
  chained _ _ _ _ same _ := same
  stepped _ same := same
  speculated s _ _ same := by
    unfold SessionRecord.advanceSpeculations
    split
    · exact same
    · exact same

section Typing

open Act

variable {g : Governance host.codec} {caller : Caller}

/-- The executions of a typing session present the pair of its caller. -/
abbrev Presents (g : Governance host.codec) (caller : Caller) (request : ExecuteRequest)
    (s : SessionRecord host.codec) : Prop :=
  s.governance = g ∧ caller = ⟨request.agentId, request.controlToken⟩

theorem typeOperation_delegates (reference : Option ObservationReference) (op : Operation) :
    Delegates (fun s : SessionRecord host.codec => s.governance = g) (Presents g caller) executeRequest
      (typeOperation caller reference op : Session host SessionReceipt) := by
  let request : ExecuteRequest := {
    operation := op
    observationReference := reference
    agentId := caller.agentId
    controlToken := caller.controlToken }
  have delegates : Delegates (fun s : SessionRecord host.codec => s.governance = g) (Presents g caller)
      executeRequest (executeRequest request : Session host SessionReceipt) :=
    .self (executeRequest_keeps (governance_lasting g) request) fun s same => ⟨same, rfl⟩
  exact delegates

theorem typeKeys_delegates (config : TypingSessionConfig) (index : Nat) (keys : List String) :
    Delegates (fun s : SessionRecord host.codec => s.governance = g) (Presents g caller) executeRequest
      (typeKeys config caller index keys : Session host Bool) := by
  induction keys generalizing index with
  | nil => exact .pure true
  | cons key rest ih =>
      refine (typeOperation_delegates _ _).bind fun receipt => ?_
      split
      · exact .pure false
      · exact ih (index + 1)

theorem typeText_delegates (config : TypingSessionConfig) (index : Nat) (text : List Char) :
    Delegates (fun s : SessionRecord host.codec => s.governance = g) (Presents g caller) executeRequest
      (typeText config caller index text : Session host Bool) := by
  fun_induction typeText config caller index text with
  | case1 => exact .pure true
  | case2 => exact .pure false
  | case3 index c text key keys _ ih =>
      refine (typeKeys_delegates config index (key :: keys)).bind fun typed => ?_
      split
      · exact .pure false
      · dsimp only
        split
        · exact Delegates.bind (.left (keeps_attempt _ _)) fun _ => ih
        · exact ih

theorem executeTypingSession_delegates (config : TypingSessionConfig)
    (reference : Option ObservationReference) :
    Delegates (fun s : SessionRecord host.codec => s.governance = g) (Presents g caller) executeRequest
      (executeTypingSession config reference caller : Session host Bool) := by
  have stable := (governance_lasting g).toStable
  refine Delegates.bind (.left (typingGate_keeps stable config caller)) fun _ => ?_
  refine (typeOperation_delegates _ _).bind fun target => ?_
  split
  · exact .pure false
  · refine (typeText_delegates config 0 config.text).bind fun typed => ?_
    split
    · exact .pure false
    · exact .left (finalVerify_keeps config)

end Typing

/-- A plan that got past its head is run for the holder of the lease of a session
without an envelope. -/
theorem planGate_holder {plan : ExecutionPlan host.codec} {caller : Caller}
    {s s' : SessionRecord host.codec} {t : Trace QuietSig}
    (run : Act.Runs (planGate plan caller : Watch host Unit) s t (.ok ()) s') :
    s.governance.LeaseHeld caller ∧ s.authorityEnvelope = none := by
  have stable := Settles.stable s
  have settled := planGate_keeps stable plan caller _ _ _ _ run (Settles.refl s)
  have sameEnvelope : s'.authorityEnvelope = s.authorityEnvelope :=
    congrArg Governance.authorityEnvelope settled.governance
  refine ⟨?_, sameEnvelope.symm.trans (planGate_ok run)⟩
  unfold planGate at run
  obtain ⟨t₁, _, s₁, _, rfl, accessed, after₁⟩ := run.bind_ok_inv
  have settled := access_keeps stable.toSteady _ _ _ _ accessed (Settles.refl s)
  obtain ⟨t₂, _, s₂, _, rfl, controlled, after₂⟩ := after₁.bind_ok_inv
  have lease := requireControl_ok controlled
  rw [settled.governance] at lease
  exact lease

/-- Where the dispatches of one call come from. -/
inductive DispatchGate (step : SessionStep host) (front : Trace RuntimeSig) (d : Event EffectSig) : Prop
  | planned {plan : ExecutionPlan host.codec} {caller : Caller}
      (method : step.method = .executePlan plan caller)
      (lease : step.before.governance.LeaseHeld caller)
      (ungoverned : step.before.authorityEnvelope = none) : DispatchGate step front d
  | executed {request : ExecuteRequest} (gated : Gated step front d request) :
      DispatchGate step front d

theorem governance_idle {s : SessionRecord host.codec} {g : Governance host.codec}
    (same : s.governance = g) (idle : g.activeCommitToken = none) :
    s.governance = { g with activeCommitToken := s.activeCommitToken } ∧ s.activeCommitToken = none := by
  subst same
  exact ⟨rfl, idle⟩

/-- A call that delegates to executions which present its pair. -/
theorem DispatchGate.of_delegates {step : SessionStep host} {front : Trace RuntimeSig}
    {d : Event EffectSig} {caller : Caller} (called : step.method.caller = some caller)
    (idle : step.before.activeCommitToken = none)
    (delegates : Act.Delegates
      (fun s : SessionRecord host.codec => s.governance = step.before.governance)
      (Presents step.before.governance caller) executeRequest (SessionCall.body step.method))
    (before : Before step.trace front d) : DispatchGate step front d := by
  obtain ⟨-, covered⟩ := delegates _ _ _ _ step.run rfl
  obtain ⟨request, s, ⟨same, rfl⟩, inside⟩ := covered front d before
  obtain ⟨governed, none⟩ := governance_idle same idle
  exact .executed (.of_inside called inside governed (.inl none))

/-- The dispatches of a commit are those of its preparation. -/
theorem DispatchGate.of_commit {step : SessionStep host} {front : Trace RuntimeSig}
    {d : Event EffectSig} {request : CommitRequest} (method : step.method = .commitOperation request)
    (before : Before step.trace front d) : DispatchGate step front d := by
  have asStep {prepared : PreparedRecord} {u : Trace QuietSig} {rest : Trace RuntimeSig}
      {s₁ : SessionRecord host.codec} (trace : step.trace = u.map Event.left ++ rest)
      (checked : Act.Runs (commitChecks request) step.before u (.ok (.ok prepared)) s₁) :
      Executes step request.token prepared.operation := executes_of_checks method trace checked
  obtain ⟨call, s, t, outcome, s', run⟩ := step
  obtain rfl := method
  cases commitOperation_run run with
  | stopped refused chain => exact (Before.not_map_left before).elim
  | @executed u v r prepared s₁ _ checked consumed =>
      obtain ⟨w, rest, result, s₂, rfl, execution, -, -⟩ := consumed.parts
      obtain ⟨settled, committable, -⟩ := commitChecks_ok checked
      have executing : ∃ within, front = u.map Event.left ++ within ∧ Before w within d := by
        rcases before.of_append with inChecks | ⟨within, rfl, inside⟩
        · exact (Before.not_map_left inChecks).elim
        rcases inside.of_append with inExecution | ⟨later, -, inTail⟩
        · exact ⟨within, rfl, inExecution⟩
        · exact (Before.not_map_left inTail).elim
      obtain ⟨within, rfl, inExecution⟩ := executing
      have marking : Act.Runs (modify fun s => s.committing request.token prepared :
          Session host PUnit) s₁ [] (.ok ⟨⟩) (s₁.committing request.token prepared) :=
        Act.runs_modifyGet.mpr ⟨rfl, rfl, rfl⟩
      have reading : Act.Runs (get : Session host _) s₁ [] (.ok s₁) s₁ :=
        Act.runs_get.mpr ⟨rfl, rfl, rfl⟩
      have passesExecution : Act.Passes (executePrepared request prepared : Session host _) s₁
          ([] ++ ([] ++ [])) (executeRequest (prepared.request request.caller))
          (s₁.committing request.token prepared) :=
        .bind_after reading (.bind_after marking (.andFinally (.refl _ _)))
      have passes : Act.Passes (commitOperation request : Session host _) s
          (u.map Event.left ++ ([] ++ ([] ++ []))) (executeRequest (prepared.request request.caller))
          (s₁.committing request.token prepared) :=
        .bind_after checked.left passesExecution.bind
      simp only [List.append_nil] at passes
      have same : s₁.governance = s.governance := settled.governance
      have governed : (s₁.committing request.token prepared).governance =
          { s.governance with activeCommitToken := some request.token } := by
        rw [← same]
        rfl
      have inside : Act.Inside (commitOperation request : Session host _) s
          (u.map Event.left ++ within) d (executeRequest (prepared.request request.caller))
          (s₁.committing request.token prepared) :=
        ⟨_, w, within, result, s₂, rfl, passes, execution, inExecution⟩
      exact .executed (.of_inside rfl inside governed
        (.inr ⟨request.token, rfl, asStep rfl checked⟩))

/-- The dispatches of a selected branch are those of its continuation. -/
theorem DispatchGate.of_speculation {step : SessionStep host} {front : Trace RuntimeSig}
    {d : Event EffectSig} {token : String} {caller : Caller}
    (method : step.method = .executeSelectedSpeculativeBranch token caller)
    (idle : step.before.activeCommitToken = none) (before : Before step.trace front d) :
    DispatchGate step front d := by
  obtain ⟨call, s, t, outcome, s', run⟩ := step
  obtain rfl := method
  have idle : s.activeCommitToken = none := idle
  have selecting : Act.Runs (executeSelectedSpeculativeBranch token caller) s t outcome s' := run
  unfold executeSelectedSpeculativeBranch at selecting
  rcases selecting.left_bind_inv with ⟨u, e, rfl, -, -⟩ | ⟨u, eligible, s₁, rest, rfl, checks, after⟩
  · exact (Before.not_map_left before).elim
  have kept := eligibleBranch_keeps (Lasting.toStable (governance_lasting s.governance))
    (fun _ _ same _ => same) token caller _ _ _ _ checks rfl
  have inRest : ∃ within, front = u.map Event.left ++ within ∧ Before rest within d := by
    rcases before.of_append with inChecks | ⟨within, rfl, inside⟩
    · exact (Before.not_map_left inChecks).elim
    · exact ⟨within, rfl, inside⟩
  obtain ⟨within, rfl, inside⟩ := inRest
  replace after := after.get_bind_inv
  dsimp only at after
  split at after
  · -- the branch is prepared, which only observes
    exfalso
    rcases after.left_bind_inv with ⟨v, e, rfl, -, -⟩ | ⟨v, made, s₂, _, rfl, -, last⟩
    · exact Before.not_map_left inside
    · obtain ⟨rfl, -, -⟩ := Act.runs_pure.mp last
      rw [List.append_nil] at inside
      exact Before.not_map_left inside
  next direct =>
    replace after := after.modify_bind_inv
    obtain ⟨inner, r, s₂, tail, rfl, execution⟩ : ∃ (inner : Trace RuntimeSig)
        (r : Except PyException SessionReceipt) (s₂ : SessionRecord host.codec) (tail : Trace QuietSig),
        rest = inner ++ tail.map Event.left ∧ Act.Runs (executeRequest (eligible.request caller))
          { s₁ with activeSpeculation := some eligible.summary } inner r s₂ := by
      have running {v : Trace RuntimeSig} {r : Except PyException SessionReceipt}
          {s₃ : SessionRecord host.codec} (run : Act.Runs (Act.andFinally
            (executeRequest (eligible.request caller))
            (modify fun s => { s with activeSpeculation := none }))
            { s₁ with activeSpeculation := some eligible.summary } v r s₃) :
          ∃ r s₂, Act.Runs (executeRequest (eligible.request caller))
            { s₁ with activeSpeculation := some eligible.summary } v r s₂ := by
        obtain ⟨first, r₁, s₄, second, c, rfl, executing, clean, -⟩ := Act.runs_andFinally.mp run
        obtain ⟨rfl, -, -⟩ := Act.runs_modifyGet.mp clean
        rw [List.append_nil]
        exact ⟨r₁, s₄, executing⟩
      rcases after.bind_inv with ⟨e, -, failed⟩ | ⟨v, receipt, s₃, _, rfl, done, last⟩
      · obtain ⟨r, s₂, executing⟩ := running failed
        exact ⟨rest, r, s₂, [], (List.append_nil _).symm, executing⟩
      · obtain ⟨rfl, -, -⟩ := Act.runs_pure.mp last
        obtain ⟨r, s₂, executing⟩ := running done
        exact ⟨v, r, s₂, [], rfl, executing⟩
    have inExecution : Before inner within d := by
      rcases inside.of_append with inExecution | ⟨later, -, inTail⟩
      · exact inExecution
      · exact (Before.not_map_left inTail).elim
    have marking : Act.Runs (modify fun s => { s with activeSpeculation := some eligible.summary } :
        Session host PUnit) s₁ [] (.ok ⟨⟩) { s₁ with activeSpeculation := some eligible.summary } :=
      Act.runs_modifyGet.mpr ⟨rfl, rfl, rfl⟩
    have reading : Act.Runs (get : Session host _) s₁ [] (.ok s₁) s₁ :=
      Act.runs_get.mpr ⟨rfl, rfl, rfl⟩
    have passes : Act.Passes (executeSelectedSpeculativeBranch token caller : Session host _) s
        (u.map Event.left ++ ([] ++ ([] ++ []))) (executeRequest (eligible.request caller))
        { s₁ with activeSpeculation := some eligible.summary } := by
      refine .bind_after checks.left (.bind_after reading ?_)
      dsimp only
      rw [if_neg direct]
      exact .bind_after marking (.bind (.andFinally (.refl _ _)))
    simp only [List.append_nil] at passes
    have inCall : Act.Inside (executeSelectedSpeculativeBranch token caller : Session host _) s
        (u.map Event.left ++ within) d (executeRequest (eligible.request caller))
        { s₁ with activeSpeculation := some eligible.summary } :=
      ⟨_, inner, within, r, s₂, rfl, passes, execution, inExecution⟩
    obtain ⟨governed, none⟩ := governance_idle kept idle
    exact .executed (.of_inside rfl inCall governed (.inl none))

/-- A plan is run only for the holder of the lease of a session without an envelope. -/
theorem DispatchGate.of_plan {step : SessionStep host} {front : Trace RuntimeSig}
    {d : Event EffectSig} {plan : ExecutionPlan host.codec} {caller : Caller}
    (method : step.method = .executePlan plan caller) (before : Before step.trace front d) :
    DispatchGate step front d := by
  have gate : step.before.governance.LeaseHeld caller ∧ step.before.authorityEnvelope = none := by
    obtain ⟨call, s, t, outcome, s', run⟩ := step
    obtain rfl := method
    have planning : Act.Runs (executePlan plan caller) s t outcome s' := run
    unfold executePlan at planning
    rcases planning.left_bind_inv with ⟨u, e, rfl, -, -⟩ | ⟨u, _, s₁, rest, rfl, gated, -⟩
    · exact (Before.not_map_left before).elim
    · exact planGate_holder gated
  exact .planned method gate.1 gate.2

/-- Every dispatch of a call passed its gate, from a record in which no commit is active. -/
theorem step_gated {step : SessionStep host} (idle : step.before.activeCommitToken = none)
    {front : Trace RuntimeSig} {d : Event EffectSig} (before : Before step.trace front d) :
    DispatchGate step front d := by
  cases method : step.method with
  | commitOperation request => exact .of_commit method before
  | executeSelectedSpeculativeBranch token caller => exact .of_speculation method idle before
  | executePlan plan caller => exact .of_plan method before
  | executeOperation operation reference caller =>
      have called : step.method.caller = some caller := by rw [method]; rfl
      refine .of_delegates called idle ?_ before
      rw [method]
      exact typeOperation_delegates reference operation
  | executeTypingSession config reference caller =>
      have called : step.method.caller = some caller := by rw [method]; rfl
      refine .of_delegates called idle ?_ before
      rw [method]
      exact executeTypingSession_delegates config reference
  | _ =>
      -- the other calls of the API dispatch nothing
      obtain ⟨call, s, t, outcome, s', run⟩ := step
      obtain rfl := method
      obtain ⟨u, rfl, -⟩ := Act.Runs.of_left run
      exact (Before.not_map_left before).elim

/-! ## Runs -/

/-- No commit is active. -/
def SessionRecord.Idle {codec : HostCodec} (s : SessionRecord codec) : Prop :=
  s.activeCommitToken = none

theorem SessionRecord.Idle.observing (host : SessionHost) :
    Observing (@SessionRecord.Idle host.codec) where
  touched _ _ idle := idle
  closed _ _ _ idle := idle
  terminal _ idle := idle
  identified _ _ idle := idle
  advanced _ _ idle := idle
  evidenced _ _ _ idle := idle
  fingerprinted _ _ idle := idle
  invalidated _ idle := idle
  refused _ _ refusable := refusable.1
  regraphed _ _ idle _ := idle
  identityBound _ _ _ idle := idle
  planBound _ _ _ idle _ := idle
  planInstalled _ _ _ _ idle _ := idle

theorem SessionRecord.Idle.lasting (host : SessionHost) :
    Lasting (@SessionRecord.Idle host.codec) where
  toStable := (SessionRecord.Idle.observing host).toStable
  charged s _ _ _ idle := by
    unfold SessionRecord.charge
    split
    · exact idle
    · exact idle
  chained _ _ _ _ idle _ := idle
  stepped _ idle := idle
  speculated s _ _ idle := by
    unfold SessionRecord.advanceSpeculations
    split
    · exact idle
    · exact idle

theorem prepareOperation_idle {request : PrepareRequest} {s s' : SessionRecord host.codec}
    {t : Trace QuietSig} {r : Except PyException PreparedOperation}
    (run : Act.Runs (prepareOperation request : Watch host _) s t r s') (idle : s.Idle) : s'.Idle := by
  have stable := (SessionRecord.Idle.observing host).toStable
  rcases prepareOperation_run run with stably | ⟨s₁, token, record, first, -, -, -, last⟩
  · exact stably _ stable idle
  · exact last _ stable (first _ stable idle)

/-- The commit that is active is over when its call is. -/
theorem commitOperation_idle {request : CommitRequest} {s s' : SessionRecord host.codec}
    {t : Trace RuntimeSig} {r : Except PyException CommitResult}
    (run : Act.Runs (commitOperation request : Session host _) s t r s') (idle : s.Idle) : s'.Idle := by
  have observing := SessionRecord.Idle.observing host
  have checked {u r s₁} (checks : Act.Runs (commitChecks request) s u r s₁) : s₁.Idle :=
    commitChecks_keeps observing.toStable observing.refused request _ _ _ _ checks idle
  unfold commitOperation at run
  rcases run.left_bind_inv with ⟨u, e, -, -, checks⟩ | ⟨u, result, s₁, rest, rfl, checks, after⟩
  · exact checked checks
  cases result with
  | error reason =>
      obtain ⟨-, -, rfl⟩ := Act.runs_pure.mp after
      exact checked checks
  | ok prepared =>
      obtain ⟨v, w, result, s₂, -, -, -, finished⟩ := (consumption after).parts
      exact finished _ observing.toStable rfl

theorem executeSelectedSpeculativeBranch_idle {token : String} {caller : Caller}
    {s s' : SessionRecord host.codec} {t : Trace RuntimeSig} {r : Except PyException SpeculationResult}
    (run : Act.Runs (executeSelectedSpeculativeBranch token caller) s t r s') (idle : s.Idle) :
    s'.Idle := by
  have observing := SessionRecord.Idle.observing host
  have lasting := SessionRecord.Idle.lasting host
  have checked {u r s₁} (checks : Act.Runs (eligibleBranch token caller) s u r s₁) : s₁.Idle :=
    eligibleBranch_keeps observing.toStable observing.regraphed token caller _ _ _ _ checks idle
  unfold executeSelectedSpeculativeBranch at run
  rcases run.left_bind_inv with ⟨u, e, -, -, checks⟩ | ⟨u, eligible, s₁, rest, rfl, checks, after⟩
  · exact checked checks
  have kept := checked checks
  replace after := after.get_bind_inv
  dsimp only at after
  split at after
  · rcases after.left_bind_inv with ⟨v, e, -, -, preparing⟩ | ⟨v, _, s₂, _, -, preparing, last⟩
    · exact prepareOperation_idle preparing kept
    · obtain ⟨-, -, rfl⟩ := Act.runs_pure.mp last
      exact prepareOperation_idle preparing kept
  · have executes : Act.Keeps SessionRecord.Idle (Act.andFinally
        (executeRequest (eligible.request caller) : Session host SessionReceipt)
        (modify fun s => { s with activeSpeculation := none })) :=
      (executeRequest_keeps lasting _).andFinally (Act.keeps_modify fun _ idle => idle)
    exact (executes.bind fun _ => Act.keeps_pure _) _ _ _ _ after.modify_bind_inv kept

/-- No commit is active between two calls. -/
theorem step_idle (step : SessionStep host) (idle : step.before.Idle) : step.after.Idle := by
  have observing := SessionRecord.Idle.observing host
  have stable := observing.toStable
  have lasting := SessionRecord.Idle.lasting host
  obtain ⟨call, s, t, outcome, s', run⟩ := step
  change s'.Idle
  have of_keeps (keeps : Act.Keeps SessionRecord.Idle call.body) : s'.Idle :=
    keeps _ _ _ _ run idle
  cases call with
  | observePage pageId caller => exact of_keeps (observePage_keeps stable pageId caller).left
  | prepareOperation operation ttlMs caller =>
      obtain ⟨u, rfl, preparing⟩ := run.of_left
      exact prepareOperation_idle preparing idle
  | commitOperation request => exact commitOperation_idle run idle
  | bindSignedPlanAuthority request =>
      exact of_keeps (bindSignedPlanAuthority_keeps observing request).left
  | bindIdentity assertion => exact of_keeps (bindIdentity_keeps observing assertion).left
  | prepareSpeculation request => exact of_keeps (prepareSpeculation_keeps observing request).left
  | selectSpeculativeBranch token caller =>
      exact of_keeps (selectSpeculativeBranch_keeps stable observing.regraphed token caller).left
  | executeSelectedSpeculativeBranch token caller =>
      exact executeSelectedSpeculativeBranch_idle run idle
  | prepareAgentHandoff request =>
      exact of_keeps (prepareAgentHandoff_keeps observing (fun _ _ idle => idle) request).left
  | claimAgentHandoff request =>
      exact of_keeps (claimAgentHandoff_keeps stable.toSteady (fun _ _ _ _ idle => idle) request).left
  | executeOperation operation reference caller => exact of_keeps (executeRequest_keeps lasting _)
  | executePlan plan caller => exact of_keeps (executePlan_keeps stable plan caller)
  | executeTypingSession config reference caller =>
      exact of_keeps (executeTypingSession_keeps lasting config reference caller)
  | inspectPages => exact of_keeps (inspectPages_keeps stable).left
  | selectPage pageId caller => exact of_keeps (selectPage_keeps stable pageId caller).left
  | recordExternalMutation actor => exact of_keeps (recordExternalMutation_keeps stable actor).left
  | closeSession caller => exact of_keeps (closeSession_keeps stable caller).left
  | cleanupExpired => exact of_keeps (cleanupExpired_keeps stable).left

theorem Opened.idle {request : OpenRequest host.codec} {s : SessionRecord host.codec}
    (opened : Opened request s) : s.Idle := by
  obtain ⟨sessionId, controlToken, scopeKey, now, t, run⟩ := opened
  exact openRecord_keeps (SessionRecord.Idle.observing host).toSteady request _ _ _ _ run rfl

theorem governedActionTypes_congr {op op' : Operation} (same : op.SameShape op') :
    governedActionTypes op' = governedActionTypes op := by
  unfold governedActionTypes
  rw [same.guard, same.action]

/-- In the call of `step`, the action of the dispatch `d` was authorized by the
firewall before; an action of a type that must be prepared is dispatched by the
commit of its operation. -/
structure Governed (envelope : AuthorityEnvelope host.codec) (step : SessionStep host)
    (front : Trace RuntimeSig) (d : Event EffectSig) (request : ExecuteRequest) : Prop where
  evaluated : ∃ gate, gate.map Event.left <:+: front ∧
    Evaluated envelope request.governedOperation (dispatchedAction d) gate
  prepared : (dispatchedAction d).type ∈ envelope.requirePreparationFor →
    ∃ token, Executes step token request.operation

theorem Gated.governed {step : SessionStep host} {front : Trace RuntimeSig} {d : Event EffectSig}
    {request : ExecuteRequest} {envelope : AuthorityEnvelope host.codec}
    (gated : Gated step front d request) (bound : step.before.authorityEnvelope = some envelope) :
    Enclosing request.dispatchOperation d ∨ Governed envelope step front d request := by
  obtain ⟨early, gate, middle, s, rfl, -, -, same, passed, committed⟩ := gated.passed
  have sameEnvelope : s.authorityEnvelope = step.before.authorityEnvelope :=
    congrArg Governance.authorityEnvelope same
  obtain ⟨needs, evaluated⟩ := passed.firewall envelope (sameEnvelope.trans bound)
  refine (gated.dispatches.governed envelope.toAuthorityPolicy).imp_right fun listed => ?_
  have shape := request.dispatchOperation_shape
  rw [governedActionTypes_congr shape, decisionScope_congr shape] at listed
  refine ⟨⟨gate, ⟨early, middle, by simp⟩, evaluated _ listed.2⟩, fun required => ?_⟩
  have needed : needsPreparation envelope.toAuthorityPolicy request.operation = true :=
    List.any_eq_true.mpr ⟨_, listed.1, List.contains_iff_mem.mpr required⟩
  rcases committed with none | executes
  · have isSome := needs needed
    rw [none] at isSome
    cases isSome
  · exact ⟨_, executes.choose_spec.2⟩

namespace Scenario

end Scenario

end Dingdongditch
