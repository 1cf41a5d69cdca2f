import Dingdongditch.Interaction.Delegation
import Dingdongditch.Runtime.Dispatches
import Dingdongditch.Runtime.Frame

/-!
# What an execution passed before it dispatches

Every dispatch of `execute_operation` comes after its gate: the caller presents
the control pair of the session, the bound identity is verified, the browser is
looked at under the mutation policy, and, under an envelope, the firewall
decided about every candidate action (`executeRequest_run`).
-/

namespace Dingdongditch

open Interaction Text

variable {host : SessionHost}

/-- A call that only observes, with its answer. -/
abbrev quietEvent (c : QuietCall) (answer : c.Answer) : Event QuietSig := ⟨c, answer⟩

/-! ## The gate, check by check -/

/-- The caller presents the control pair the session is leased to. -/
def Governance.LeaseHeld {codec : HostCodec} (g : Governance codec) (caller : Caller) : Prop :=
  ∀ owner, g.agentId = some owner →
    caller.agentId = some owner ∧ caller.controlToken.isSome ∧ caller.controlToken = g.controlToken

/-- The identity bound to the session was verified within `t`, and is the one
that the signed plan requires. -/
def Governance.IdentityVerified {codec : HostCodec} (g : Governance codec)
    (t : Trace RuntimeSig) : Prop :=
  ∀ assertion, g.identityAssertion = some assertion → ∃ descriptor : AgentIdentity,
    Event.left (quietEvent (.verifyIdentity assertion g.agentId) (.ok descriptor)) ∈ t ∧
      ∀ signed, g.signedPlanAuthority.bind (·.agentIdentityId) = some signed →
        signed = descriptor.identityId

section Gate

variable {s s' : SessionRecord host.codec} {t : Trace QuietSig}

theorem Watch.rejectWhen_ok {bad : Bool} {kind : SessionFailureKind} {message : String}
    (run : Act.Runs (Watch.rejectWhen bad kind message : Watch host Unit) s t (.ok ()) s') :
    bad = false ∧ t = [] ∧ s' = s := by
  cases bad with
  | true =>
      obtain ⟨-, eq, -⟩ := Act.runs_throw.mp run
      cases eq
  | false =>
      obtain ⟨rfl, -, rfl⟩ := Act.runs_pure.mp run
      exact ⟨rfl, rfl, rfl⟩

theorem Watch.rejectWhen_bind_ok {α : Type} {bad : Bool} {kind : SessionFailureKind}
    {message : String} {f : Unit → Watch host α} {a : α}
    (run : Act.Runs (Watch.rejectWhen bad kind message >>= f) s t (.ok a) s') :
    bad = false ∧ Act.Runs (f ()) s t (.ok a) s' := by
  obtain ⟨_, _, _, _, rfl, checked, rest⟩ := run.bind_ok_inv
  obtain ⟨good, rfl, rfl⟩ := Watch.rejectWhen_ok checked
  exact ⟨good, rest⟩

theorem requireControl_ok {agentId controlToken : Option String}
    (run : Act.Runs (requireControl agentId controlToken : Watch host Unit) s t (.ok ()) s') :
    s.governance.LeaseHeld ⟨agentId, controlToken⟩ := by
  unfold requireControl at run
  replace run := run.get_bind_inv
  intro owner owned
  have owned : s.agentId = some owner := owned
  rw [owned] at run
  obtain ⟨sameAgent, run⟩ := Watch.rejectWhen_bind_ok run
  obtain ⟨sameToken, -, -⟩ := Watch.rejectWhen_ok run
  have sameAgent : agentId = some owner := by simpa using sameAgent
  have sameToken : controlToken.isSome ∧ controlToken = s.controlToken := by
    simpa [Bool.or_eq_false_iff] using sameToken
  exact ⟨sameAgent, sameToken.1, sameToken.2⟩

theorem requireIdentity_ok (run : Act.Runs (requireIdentity : Watch host Unit) s t (.ok ()) s') :
    s.governance.IdentityVerified (t.map Event.left) := by
  unfold requireIdentity at run
  replace run := run.get_bind_inv
  intro assertion bound
  have bound : s.identityAssertion = some assertion := bound
  rw [bound] at run
  obtain ⟨-, run⟩ := Watch.rejectWhen_bind_ok run
  obtain ⟨verified, rest, rfl, after⟩ := run.ask_bind_inv
  cases verified with
  | error e =>
      dsimp only at after
      split at after
      · obtain ⟨-, eq, -⟩ := Act.runs_throw.mp after
        cases eq
      · obtain ⟨-, eq, -⟩ := Act.runs_throw.mp after
        cases eq
  | ok descriptor =>
      obtain ⟨required, -⟩ := Watch.rejectWhen_bind_ok after
      refine ⟨descriptor, List.mem_map_of_mem List.mem_cons_self, ?_⟩
      intro signed isSigned
      have isSigned : s.signedIdentity = some signed := isSigned
      rw [isSigned] at required
      simpa using required

theorem rejectMutationIfPolicyRequires_ok {changed fresh : Bool}
    (run : Act.Runs (rejectMutationIfPolicyRequires changed fresh : Watch host Unit) s t (.ok ()) s') :
    ∀ policy, s.mutationPolicy = some policy → changed = true →
      policy ≠ .failOnExternalMutation ∧ fresh = true := by
  unfold rejectMutationIfPolicyRequires at run
  replace run := run.get_bind_inv
  rintro policy configured rfl
  rw [configured] at run
  dsimp only at run
  rw [if_pos rfl] at run
  split at run
  · obtain ⟨-, eq, -⟩ := Act.runs_throw.mp run
    cases eq
  · next notFail =>
      obtain ⟨observed, -, -⟩ := Watch.rejectWhen_ok run
      exact ⟨notFail, by simpa using observed⟩

/-! ## What the checks leave of the record -/

theorem activeBackend_ok (run : Act.Runs (activeBackend : Watch host Unit) s t (.ok ()) s') :
    s' = s := by
  have finish {started : Bool} {t₁ : Trace QuietSig} (run : Act.Runs (do
      if !started then
        modify fun s : SessionRecord host.codec => { s with status := .terminal }
        Watch.reject .terminalBrowserFailure "browser session is terminal" : Watch host Unit)
      s t₁ (.ok ()) s') : s' = s := by
    split at run
    · obtain ⟨-, eq, -⟩ := Act.runs_throw.mp run.modify_bind_inv
      cases eq
    · exact (Act.runs_pure.mp run).2.2
  unfold activeBackend at run
  replace run := run.get_bind_inv
  split at run
  · obtain ⟨_, _, s₁, _, -, asked, after⟩ := run.bind_ok_inv
    obtain rfl := Watch.isStarted_keeps (I := (· = s)) _ _ _ _ asked rfl
    exact finish after
  · obtain ⟨_, _, s₁, _, -, asked, after⟩ := run.bind_ok_inv
    obtain ⟨-, -, rfl⟩ := Act.runs_pure.mp asked
    exact finish after

theorem requireOpen_ok (run : Act.Runs (requireOpen : Watch host Unit) s t (.ok ()) s') :
    s.status = .open_ ∧ s' = s := by
  unfold requireOpen at run
  replace run := run.get_bind_inv
  split at run
  · next isOpen =>
      obtain ⟨-, -, rfl⟩ := Act.runs_pure.mp run
      exact ⟨isOpen, rfl⟩
  all_goals
    obtain ⟨-, eq, -⟩ := Act.runs_throw.mp run
    cases eq

theorem closeRecord_status {status : PublicSessionStatus}
    (run : Act.Runs (closeRecord status : Watch host Unit) s t (.ok ()) s') : s'.status = status := by
  unfold closeRecord at run
  replace run := run.get_bind_inv
  have stopped {t₁ : Trace QuietSig} {s₁ : SessionRecord host.codec}
      (run : Act.Runs (do
        let now ← Watch.nowMs
        modify fun s => { s with hasBackend := false, status := status, lastActivityAtMs := now } :
        Watch host Unit) s₁ t₁ (.ok ()) s') : s'.status = status := by
    obtain ⟨_, _, _, _, -, -, last⟩ := run.bind_ok_inv
    obtain ⟨-, -, rfl⟩ := Act.runs_modifyGet.mp last
    rfl
  split at run
  · obtain ⟨_, _, _, _, -, -, rest⟩ := run.bind_ok_inv
    exact stopped rest
  · exact stopped run

/-- A session that is accessed is open, and its record is as it was. -/
theorem access_ok (run : Act.Runs (access : Watch host Unit) s t (.ok ()) s') : s' = s := by
  unfold access at run
  obtain ⟨_, _, s₁, _, -, first, second⟩ := run.bind_ok_inv
  obtain ⟨-, rfl⟩ := requireOpen_ok first
  obtain ⟨_, _, s₂, _, -, expiry, last⟩ := second.bind_ok_inv
  obtain ⟨isOpen, rfl⟩ := requireOpen_ok last
  unfold expireIfIdle at expiry
  replace expiry := expiry.get_bind_inv
  split at expiry
  · obtain ⟨_, _, s₃, _, -, clock, expiry⟩ := expiry.bind_ok_inv
    obtain rfl := Watch.nowMs_keeps (I := (· = s₁)) _ _ _ _ clock rfl
    split at expiry
    · obtain ⟨_, _, s₄, _, -, clock, expiry⟩ := expiry.bind_ok_inv
      obtain rfl := Watch.nowMs_keeps (I := (· = s₃)) _ _ _ _ clock rfl
      split at expiry
      · rw [closeRecord_status expiry] at isOpen
        cases isOpen
      · exact (Act.runs_pure.mp expiry).2.2
    · exact (Act.runs_pure.mp expiry).2.2
  · exact (Act.runs_pure.mp expiry).2.2

theorem requireIdentity_record (run : Act.Runs (requireIdentity : Watch host Unit) s t (.ok ()) s') :
    s' = { s with identityDescriptor := s'.identityDescriptor } := by
  unfold requireIdentity at run
  replace run := run.get_bind_inv
  split at run
  · obtain ⟨-, -, rfl⟩ := Act.runs_pure.mp run
    rfl
  · obtain ⟨-, run⟩ := Watch.rejectWhen_bind_ok run
    obtain ⟨verified, rest, -, after⟩ := run.ask_bind_inv
    cases verified with
    | error e =>
        dsimp only at after
        split at after
        · obtain ⟨-, eq, -⟩ := Act.runs_throw.mp after
          cases eq
        · obtain ⟨-, eq, -⟩ := Act.runs_throw.mp after
          cases eq
    | ok descriptor =>
        obtain ⟨-, written⟩ := Watch.rejectWhen_bind_ok after
        obtain ⟨-, -, rfl⟩ := Act.runs_modifyGet.mp written
        rfl

/-! ## The look at the browser -/

/-- Whether a look at the browser finds a change since the fingerprint `before`; a
monitor that cannot look reports one. -/
def SessionHost.finds (host : SessionHost) (before : Option String) :
    Except PyException PyDict → Bool
  | .error _ => true
  | .ok state => before.any (· ≠ host.mutationFingerprint state)

/-- A look at the browser in the events of `t`, which finds a change or not: under a
mutation policy it asks for the state of the scope. -/
structure Look (s : SessionRecord host.codec) (t : Trace QuietSig) (changed : Bool) : Prop where
  asked : ∀ policy key, s.mutationPolicy = some policy → s.mutationScopeKey = some key →
    ∃ answer, quietEvent (.transactionScopeState none [] key) answer ∈ t ∧
      changed = host.finds s.mutationStateFingerprint answer
  unasked : s.mutationPolicy = none ∨ s.mutationScopeKey = none → changed = false

/-- The mutation epoch after a look. -/
def SessionRecord.epochAfter (s : SessionRecord host.codec) (changed : Bool) : Int :=
  s.mutationEpoch + if changed then 1 else 0

theorem advanceMutationEpoch_ok {actor : MutationActor} {source : String} {evidence : MutationEvidence}
    (run : Act.Runs (advanceMutationEpoch actor source : Watch host MutationEvidence) s t
      (.ok evidence) s') : s'.mutationEpoch = s.mutationEpoch + 1 := by
  unfold advanceMutationEpoch at run
  obtain ⟨-, run⟩ := Watch.rejectWhen_bind_ok run.get_bind_inv
  replace run := run.modify_bind_inv
  split at run
  · obtain ⟨-, eq, -⟩ := Act.runs_throw.mp run
    cases eq
  · obtain ⟨_, now, s₁, _, -, clock, after⟩ := run.bind_ok_inv
    obtain rfl := Watch.nowMs_keeps (I := (· = { s.invalidatePreparations with
      mutationEpoch := s.mutationEpoch + 1 })) _ _ _ _ clock rfl
    obtain ⟨-, -, rfl⟩ := Act.runs_pure.mp after.modify_bind_inv
    rfl

theorem refreshExternalMutation_ok {changed : Bool}
    (run : Act.Runs (refreshExternalMutation : Watch host Bool) s t (.ok changed) s') :
    Look s t changed ∧ s'.mutationEpoch = s.epochAfter changed := by
  unfold refreshExternalMutation at run
  replace run := run.get_bind_inv
  split at run
  · next policy key hasPolicy hasKey =>
      have both : ¬ (s.mutationPolicy = none ∨ s.mutationScopeKey = none) := by
        rw [hasPolicy, hasKey]
        simp
      obtain ⟨_, _, s₁, _, rfl, started, after⟩ := run.bind_ok_inv
      obtain rfl := activeBackend_ok started
      obtain ⟨answer, rest, rfl, looked⟩ := after.ask_bind_inv
      refine ⟨⟨?_, fun neither => absurd neither both⟩, ?_⟩
      · intro policy' key' _ hasKey'
        obtain rfl := Option.some.inj (hasKey.symm.trans hasKey')
        refine ⟨answer, List.mem_append_right _ List.mem_cons_self, ?_⟩
        cases answer with
        | error e =>
            dsimp only at looked
            obtain ⟨_, _, _, _, -, -, last⟩ := looked.bind_ok_inv
            exact Except.ok.inj (Act.runs_pure.mp last).2.1
        | ok state =>
            replace looked := looked.modify_bind_inv
            split at looked
            · next differs =>
                obtain ⟨_, _, _, _, -, -, last⟩ := looked.bind_ok_inv
                exact (Except.ok.inj (Act.runs_pure.mp last).2.1).trans differs.symm
            · next same =>
                exact (Except.ok.inj (Act.runs_pure.mp looked).2.1).trans (Bool.eq_false_iff.mpr same).symm
      · cases answer with
        | error e =>
            dsimp only at looked
            obtain ⟨_, _, _, _, -, advanced, last⟩ := looked.bind_ok_inv
            obtain ⟨-, eq, rfl⟩ := Act.runs_pure.mp last
            cases eq
            exact advanceMutationEpoch_ok advanced
        | ok state =>
            replace looked := looked.modify_bind_inv
            split at looked
            · obtain ⟨_, _, _, _, -, advanced, last⟩ := looked.bind_ok_inv
              obtain ⟨-, eq, rfl⟩ := Act.runs_pure.mp last
              cases eq
              have moved := advanceMutationEpoch_ok advanced
              exact moved
            · obtain ⟨-, eq, rfl⟩ := Act.runs_pure.mp looked
              cases eq
              exact (Int.add_zero _).symm
  · next either =>
      obtain ⟨-, eq, rfl⟩ := Act.runs_pure.mp run
      cases eq
      refine ⟨⟨?_, fun _ => rfl⟩, (Int.add_zero _).symm⟩
      intro policy key hasPolicy hasKey
      exact (either policy key hasPolicy hasKey).elim

end Gate

/-! ## The firewall -/

/-- Within `t` the firewall decided about the action `action` of `op`, on its
own, and authorized it. -/
def Evaluated (envelope : AuthorityEnvelope host.codec) (op : Operation) (action : Action)
    (t : Trace QuietSig) : Prop :=
  ∃ input, (AuthorityFirewall.decide envelope (op.candidate action) input).authorized = true ∧
    quietEvent (.recordDecision (op.candidate action)
      (AuthorityFirewall.decide envelope (op.candidate action) input)) () ∈ t

section Decisions

variable {envelope : AuthorityEnvelope host.codec} {op : Operation} {scope : DecisionScope}
  {s s' : SessionRecord host.codec} {t : Trace QuietSig}

theorem decideCandidate_evaluated {action : Action} {decision : FirewallDecision}
    (run : Act.Runs (decideCandidate envelope op scope action) s t (.ok decision) s')
    (authorized : decision.authorized = true) : Evaluated envelope op action t := by
  unfold decideCandidate at run
  replace run := run.get_bind_inv
  obtain ⟨_, url, _, _, rfl, -, afterUrl⟩ := run.bind_ok_inv
  obtain ⟨_, now, _, _, rfl, -, afterNow⟩ := afterUrl.bind_ok_inv
  obtain ⟨_, bytes, _, _, rfl, -, afterBytes⟩ := afterNow.bind_ok_inv
  obtain ⟨answer, rest, rfl, last⟩ := afterBytes.ask_bind_inv
  obtain ⟨rfl, eq, -⟩ := Act.runs_pure.mp last
  cases eq
  refine ⟨_, authorized, ?_⟩
  exact List.mem_append_right _ (List.mem_append_right _ (List.mem_append_right _
    (List.mem_singleton_self _)))

/-- When the loop ends in an authorization, it authorized every candidate. -/
theorem decideCandidates_evaluated {actions : List Action} {first : Option FirewallDecision}
    {decision : FirewallDecision}
    (run : Act.Runs (decideCandidates envelope op scope first actions) s t (.ok decision) s')
    (authorized : decision.authorized = true) :
    ∀ action ∈ actions, Evaluated envelope op action t := by
  induction actions generalizing first s t with
  | nil => exact fun _ mem => (List.not_mem_nil mem).elim
  | cons action rest ih =>
      unfold decideCandidates at run
      obtain ⟨before, own, s₁, after, rfl, decided, loop⟩ := run.bind_ok_inv
      have extend : ∀ {u v : Trace QuietSig} {a}, Evaluated envelope op a u →
          (∀ e ∈ u, e ∈ v) → Evaluated envelope op a v := by
        rintro u v a ⟨input, ok, mem⟩ sub
        exact ⟨input, ok, sub _ mem⟩
      split at loop
      · next accepted =>
          intro other mem
          rcases List.mem_cons.mp mem with rfl | mem
          · exact extend (decideCandidate_evaluated decided accepted)
              fun e inside => List.mem_append_left _ inside
          · exact extend (ih loop other mem) fun e inside => List.mem_append_right _ inside
      · next rejected =>
          obtain ⟨-, eq, -⟩ := Act.runs_pure.mp loop
          cases eq
          exact absurd authorized rejected

end Decisions

/-! ## The shape of an execution -/

/-- Under an envelope an operation is executed when it is committed where it has
to be, and the firewall authorized it in the last events of `entry`. -/
def Authorized (request : ExecuteRequest) (entry : Trace QuietSig) (s : SessionRecord host.codec) :
    Prop :=
  ∀ envelope, s.authorityEnvelope = some envelope →
    (needsPreparation envelope.toAuthorityPolicy request.operation = true →
      s.activeCommitToken.isSome) ∧
    ∃ early decided decision, entry = early ++ decided ∧ decision.authorized = true ∧
      Act.Runs (firewallDecision envelope request.governedOperation) s decided (.ok decision) s

/-- The account of a dispatch, which only a governed session keeps. -/
def chargeUnder (envelope : Option (AuthorityEnvelope host.codec)) (request : ExecuteRequest)
    (decision : Option FirewallDecision) (receipt : ExecutionReceipt) : Watch host SessionReceipt :=
  match envelope with
  | some envelope =>
      chargeDispatch envelope request.operation { receipt, authorityDecision := decision }
  | none => pure { receipt }

/-- How a program ends once the executor ended in `out`: it raises the exception
of the executor, or goes on with `next` from its receipt. -/
def Continues {α : Type} (next : ExecutionReceipt → Watch host α)
    (out : Except PyException ExecutionReceipt) (s : SessionRecord host.codec)
    (rest : Trace QuietSig) (r : Except PyException α) (s' : SessionRecord host.codec) : Prop :=
  match out with
  | .error e => rest = [] ∧ r = .error e ∧ s' = s
  | .ok receipt => Act.Runs (next receipt) s rest r s'

section Shape

variable {request : ExecuteRequest} {s s' : SessionRecord host.codec} {t : Trace RuntimeSig}

theorem runExecutor_inv {op : Operation} {ctx : ExecutionContext}
    {r : Except PyException ExecutionReceipt} (run : Act.Runs (runExecutor op ctx) s t r s') :
    s' = s ∧ ∃ out c,
      Act.Runs (executeOperation host.toPlatform op ctx) { scopeId := op.operationId } t out c ∧
      r = match out with
        | .ok receipt => .ok receipt
        | .error (.receipt failed) => .ok failed.receipt
        | .error (.raised e) => .error e := by
  obtain ⟨first, ⟨out, c⟩, second, rfl, inner, last⟩ := Prog.runs_bind.mp run
  obtain ⟨rfl, eq⟩ := Prog.runs_done.mp last
  rw [List.append_nil]
  rcases out with (failed | e) | receipt
  · cases eq
    exact ⟨rfl, _, c, inner, rfl⟩
  · cases eq
    exact ⟨rfl, _, c, inner, rfl⟩
  · cases eq
    exact ⟨rfl, _, c, inner, rfl⟩

/-- The executor, and what follows it. -/
theorem runExecutor_bind_inv {α : Type} {op : Operation} {ctx : ExecutionContext}
    {next : ExecutionReceipt → Watch host α} {r : Except PyException α}
    (run : Act.Runs (runExecutor op ctx >>= fun receipt => Act.left (T := EffectSig) (next receipt))
      s t r s') :
    ∃ executing out rest, t = executing ++ rest.map Event.left ∧
      Act.Runs (runExecutor op ctx) s executing out s ∧ Continues next out s rest r s' := by
  rcases run.bind_inv with ⟨e, isError, inner⟩ | ⟨executing, receipt, s₁, rest, rfl, inner, after⟩
  · obtain ⟨rfl, -⟩ := runExecutor_inv inner
    exact ⟨t, .error e, [], (List.append_nil t).symm, inner, rfl, isError, rfl⟩
  · obtain ⟨rfl, -⟩ := runExecutor_inv inner
    obtain ⟨u, rfl, finished⟩ := after.of_left
    exact ⟨executing, .ok receipt, u, rfl, inner, finished⟩

/-- A program that returns, if it does, a receipt without the start of an action. -/
def Unstarted (r : Except PyException SessionReceipt) : Prop :=
  ∀ receipt, r = .ok receipt → receipt.receipt.actionStartedAtMs = none

theorem unstarted_error (e : PyException) : Unstarted (.error e) := by
  rintro receipt ⟨⟩

/-- The receipt of an operation that the session itself rejects. -/
theorem rejectedReceipt_unstarted {op : Operation} {startedAtMs : Int} {status error failureKind : String}
    {evidence : PyDict} {t : Trace QuietSig} {r : Except PyException ExecutionReceipt}
    (run : Act.Runs (rejectedReceipt op startedAtMs status error failureKind evidence :
      Watch host ExecutionReceipt) s t r s') :
    ∀ receipt, r = .ok receipt → receipt.actionStartedAtMs = none := by
  rintro receipt rfl
  obtain ⟨_, failed, s₁, _, -, -, last⟩ := run.bind_ok_inv
  obtain ⟨-, eq, -⟩ := Act.runs_pure.mp last
  cases eq
  exact failed.unstarted

theorem preparationRequiredReceipt_unstarted {op : Operation} {startedAtMs : Int} {t : Trace QuietSig}
    {r : Except PyException SessionReceipt}
    (run : Act.Runs (preparationRequiredReceipt op startedAtMs : Watch host SessionReceipt) s t r s') :
    Unstarted r := by
  rintro receipt rfl
  obtain ⟨_, rejected, s₁, _, -, first, last⟩ := run.bind_ok_inv
  obtain ⟨-, eq, -⟩ := Act.runs_pure.mp last
  cases eq
  exact rejectedReceipt_unstarted first rejected rfl

theorem authorityRejectedReceipt_unstarted {op : Operation} {startedAtMs : Int}
    {decision : FirewallDecision} {t : Trace QuietSig} {r : Except PyException SessionReceipt}
    (run : Act.Runs (authorityRejectedReceipt op startedAtMs decision : Watch host SessionReceipt)
      s t r s') : Unstarted r := by
  rintro receipt rfl
  obtain ⟨_, rejected, s₁, _, -, first, last⟩ := run.bind_ok_inv
  obtain ⟨-, eq, -⟩ := Act.runs_pure.mp last
  cases eq
  exact rejectedReceipt_unstarted first rejected rfl

theorem governedDispatch_shape {envelope : AuthorityEnvelope host.codec} {startedAtMs : Int}
    {r : Except PyException SessionReceipt}
    (run : Act.Runs (governedDispatch envelope request startedAtMs) s t r s') :
    (Silent t ∧ Unstarted r) ∨ ∃ decided executing rest out decision,
      t = decided.map Event.left ++ (executing ++ rest.map Event.left) ∧
      (needsPreparation envelope.toAuthorityPolicy request.operation = true →
        s.activeCommitToken.isSome) ∧
      decision.authorized = true ∧
      Act.Runs (firewallDecision envelope request.governedOperation) s decided (.ok decision) s ∧
      Act.Runs (runExecutor request.dispatchOperation
        (executorContext host request.observationReference)) s executing out s ∧
      Continues (chargeUnder (some envelope) request (some decision)) out s rest r s' := by
  unfold governedDispatch at run
  replace run := run.get_bind_inv
  split at run
  · obtain ⟨u, silent, rejected⟩ := run.of_left
    exact .inl ⟨⟨u, silent⟩, preparationRequiredReceipt_unstarted rejected⟩
  · next committed =>
      rcases run.left_bind_inv with ⟨u, e, silent, rfl, -⟩ |
        ⟨decided, decision, s₁, later, rfl, firewall, after⟩
      · exact .inl ⟨⟨u, silent⟩, unstarted_error e⟩
      obtain rfl := firewallDecision_keeps (I := (· = s)) _ _ _ _ _ _ firewall rfl
      split at after
      · obtain ⟨u, rfl, rejected⟩ := after.of_left
        exact .inl ⟨(silent_map_left decided).append (silent_map_left u),
          authorityRejectedReceipt_unstarted rejected⟩
      · next accepted =>
          obtain ⟨executing, out, rest, rfl, executed, continues⟩ := runExecutor_bind_inv after
          refine .inr ⟨decided, executing, rest, out, decision, rfl, ?_, by simpa using accepted,
            firewall, executed, continues⟩
          intro needs
          rw [needs, Bool.true_and] at committed
          exact Option.isSome_iff_ne_none.mpr fun none => committed (by rw [none]; rfl)

theorem dispatchRequest_shape {r : Except PyException SessionReceipt}
    (run : Act.Runs (dispatchRequest request) s t r s') :
    (Silent t ∧ Unstarted r) ∨ ∃ entry executing rest out decision,
      t = entry.map Event.left ++ (executing ++ rest.map Event.left) ∧ Authorized request entry s ∧
      Act.Runs (runExecutor request.dispatchOperation
        (executorContext host request.observationReference)) s executing out s ∧
      Continues (chargeUnder s.authorityEnvelope request decision) out s rest r s' := by
  unfold dispatchRequest at run
  rcases run.left_bind_inv with ⟨u, e, rfl, rfl, -⟩ | ⟨u₁, pages, s₁, t₁, rfl, listed, after⟩
  · exact .inl ⟨silent_map_left u, unstarted_error e⟩
  obtain rfl := Watch.listPages_keeps (I := (· = s)) _ _ _ _ listed rfl
  rcases after.left_bind_inv with ⟨u, e, rfl, rfl, -⟩ | ⟨u₂, now, s₂, t₂, rfl, clock, main⟩
  · exact .inl ⟨(silent_map_left u₁).append (silent_map_left u), unstarted_error e⟩
  obtain rfl := Watch.nowMs_keeps (I := (· = s₁)) _ _ _ _ clock rfl
  replace main := main.get_bind_inv
  have opening : ∀ v : Trace RuntimeSig, u₁.map Event.left ++ (u₂.map Event.left ++ v) =
      (u₁ ++ u₂).map Event.left ++ v := by
    intro v
    rw [List.map_append, List.append_assoc]
  rw [opening]
  cases installed : s₂.authorityEnvelope with
  | none =>
      rw [installed] at main
      have free : Act.Runs (runExecutor request.dispatchOperation
          (executorContext host request.observationReference) >>= fun receipt =>
            Act.left (T := EffectSig) (chargeUnder none request none receipt)) s₂ t₂ r s' := main
      obtain ⟨executing, out, rest, rfl, executed, continues⟩ := runExecutor_bind_inv free
      refine .inr ⟨u₁ ++ u₂, executing, rest, out, none, rfl, ?_, executed, continues⟩
      intro envelope governed
      rw [installed] at governed
      cases governed
  | some envelope =>
      rw [installed] at main
      rcases governedDispatch_shape main with ⟨⟨v, rfl⟩, unstarted⟩ |
        ⟨decided, executing, rest, out, decision, rfl, committed, ok, firewall, executed, continues⟩
      · exact .inl ⟨(silent_map_left _).append (silent_map_left v), unstarted⟩
      · refine .inr ⟨u₁ ++ u₂ ++ decided, executing, rest, out, some decision, ?_, ?_, executed,
          continues⟩
        · simp only [List.map_append, List.append_assoc]
        · intro other governed
          rw [installed] at governed
          obtain rfl := Option.some.inj governed
          exact ⟨committed, u₁ ++ u₂, decided, decision, rfl, ok, firewall⟩

/-- The two kinds of runs of `execute_operation`: nothing is dispatched; or the
gate is passed from the record `s`, and the executor runs from `s₁`. -/
inductive ExecutionRun (request : ExecuteRequest) (s : SessionRecord host.codec) :
    Trace RuntimeSig → Except PyException SessionReceipt → SessionRecord host.codec → Prop
  | stopped {t r s'} (silent : Silent t) : ExecutionRun request s t r s'
  | executed {s₀ s₁ s' : SessionRecord host.codec} {t₀ t₁ entry rest : Trace QuietSig}
      {executing : Trace RuntimeSig} {out : Except PyException ExecutionReceipt}
      {r : Except PyException SessionReceipt} (decision : Option FirewallDecision)
      (accessed : Act.Runs access s t₀ (.ok ()) s₀)
      (gated : Act.Runs (executionGate request) s₀ t₁ (.ok ()) s₁)
      (authorized : Authorized request entry s₁)
      (run : Act.Runs (runExecutor request.dispatchOperation
        (executorContext host request.observationReference)) s₁ executing out s₁)
      (continues : Continues (fun receipt => do
        let receipt ← chargeUnder s₁.authorityEnvelope request decision receipt
        recordReceipt request receipt) out s₁ rest r s') :
      ExecutionRun request s
        ((t₀ ++ (t₁ ++ entry)).map Event.left ++ (executing ++ rest.map Event.left)) r s'

theorem executeRequest_run {r : Except PyException SessionReceipt}
    (run : Act.Runs (executeRequest request) s t r s') : ExecutionRun request s t r s' := by
  unfold executeRequest at run
  rcases run.left_bind_inv with ⟨u, e, rfl, -, -⟩ | ⟨t₀, _, s₀, rest₀, rfl, accessed, after⟩
  · exact .stopped (silent_map_left u)
  rcases after.left_bind_inv with ⟨u, e, rfl, -, -⟩ | ⟨t₁, _, s₁, rest₁, rfl, gated, main⟩
  · exact .stopped ((silent_map_left t₀).append (silent_map_left u))
  have regroup : ∀ (entry : Trace QuietSig) (v : Trace RuntimeSig),
      t₀.map Event.left ++ (t₁.map Event.left ++ (entry.map Event.left ++ v)) =
        (t₀ ++ (t₁ ++ entry)).map Event.left ++ v := by
    intro entry v
    simp only [List.map_append, List.append_assoc]
  rcases main.bind_inv with ⟨e, rfl, dispatching⟩ |
    ⟨first, receipt, s₂, second, rfl, dispatching, recording⟩
  · rcases dispatchRequest_shape dispatching with ⟨silent, -⟩ |
      ⟨entry, executing, rest, out, decision, rfl, authorized, executed, continues⟩
    · exact .stopped ((silent_map_left t₀).append ((silent_map_left t₁).append silent))
    · rw [regroup]
      refine .executed decision accessed gated authorized executed ?_
      cases out with
      | error e' => exact continues
      | ok receipt => exact Act.Runs.bind_error continues
  · obtain ⟨v, rfl, recorded⟩ := recording.of_left
    rcases dispatchRequest_shape dispatching with ⟨silent, -⟩ |
      ⟨entry, executing, rest, out, decision, rfl, authorized, executed, continues⟩
    · exact .stopped ((silent_map_left t₀).append ((silent_map_left t₁).append
        (silent.append (silent_map_left v))))
    · rw [List.append_assoc, List.append_assoc, ← List.map_append, regroup]
      refine .executed decision accessed gated authorized executed ?_
      cases out with
      | error e' => cases continues.2.1
      | ok raw => exact Act.Runs.bind continues recorded

end Shape

end Dingdongditch
