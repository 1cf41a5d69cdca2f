import Dingdongditch.Runtime.GovernedDispatch

/-!
# The service of the agents

`GovernedAgentService`, through which the planners of a leased session call it.  A
transport authenticates the caller; the service compares the principal with the
agent that the call names, and the session compares the pair with its lease.

The agents and the host that owns the session may call it in any order.  Whatever
an agent makes the session dispatch belongs to the principal that was given control
last (`agents_in_custody`).
-/

namespace Dingdongditch

open Interaction Text

variable {host : SessionHost}

/-! ## The service -/

/-- What an agent asks for.  An operation or a graph is what `_operation` or
`_speculative_plan` made of the value that was proposed. -/
inductive Proposal
  | execute (operation : Except PyException Operation) (reference : Option ObservationReference)
  | observe (pageId : Option String)
  | controlEpoch
  | prepare (operation : Except PyException Operation) (ttlMs : Int)
  | commit (token : String) (operation : Option (Except PyException Operation))
  | prepareHandoff (recipientAgentId : String) (ttlMs : Int)
  | prepareSpeculation (plan : Except PyException SpeculativePlan) (ttlMs : Int)
  | selectSpeculativeBranch (token : String)
  | executeSelectedSpeculativeBranch (token : String)

def Proposal.Reply : Proposal → Type
  | .execute _ _ => SessionReceipt
  | .observe _ => BackendObservation
  | .controlEpoch => Nat
  | .prepare _ _ => PreparedOperation
  | .commit _ _ => CommitResult
  | .prepareHandoff _ _ => AgentHandoffCheckpoint
  | .prepareSpeculation _ _ => BranchPreparation
  | .selectSpeculativeBranch _ => SpeculationSelection
  | .executeSelectedSpeculativeBranch _ => SpeculationResult

/-- `governed_control_epoch` -/
def governedControlEpoch (caller : Caller) : Watch host Nat := do
  access
  requireControl caller.agentId caller.controlToken
  let s ← get
  return s.controlEpoch

/-- The operation that a commit repeats, if it repeats one. -/
def proposedOperation : Option (Except PyException Operation) → Except PyException (Option Operation)
  | none => .ok none
  | some operation => operation.map some

def Proposal.body (caller : Caller) : (proposal : Proposal) → Session host proposal.Reply
  | .execute operation reference => do
      let operation ← Act.ofExcept operation
      SessionCall.body (.executeOperation operation reference caller)
  | .observe pageId => SessionCall.body (.observePage pageId caller : SessionCall host)
  | .controlEpoch => Act.left (T := EffectSig) (governedControlEpoch caller)
  | .prepare operation ttlMs => do
      let operation ← Act.ofExcept operation
      SessionCall.body (.prepareOperation operation ttlMs caller)
  | .commit token operation => do
      let operation ← Act.ofExcept (proposedOperation operation)
      SessionCall.body (.commitOperation { token, operation, caller })
  | .prepareHandoff recipientAgentId ttlMs =>
      SessionCall.body (.prepareAgentHandoff { caller, ttlMs, recipientAgentId := some recipientAgentId })
  | .prepareSpeculation plan ttlMs => do
      let plan ← Act.ofExcept plan
      SessionCall.body (.prepareSpeculation { plan, ttlMs, caller })
  | .selectSpeculativeBranch token => SessionCall.body (.selectSpeculativeBranch token caller)
  | .executeSelectedSpeculativeBranch token =>
      SessionCall.body (.executeSelectedSpeculativeBranch token caller)

/-- A call of an agent, with the principal that the transport authenticated. -/
structure AgentCall where
  agentId : String
  controlToken : String
  authenticatedAgentId : Option String
  proposal : Proposal

def AgentCall.caller (call : AgentCall) : Caller := ⟨some call.agentId, some call.controlToken⟩

/-- `_principal` -/
def requirePrincipal (agentId : String) (authenticatedAgentId : Option String) : Session host Unit :=
  if authenticatedAgentId = some agentId then pure ()
  else throw ⟨.other, "authenticated principal does not own this agent lease", none⟩

def AgentCall.body (call : AgentCall) : Session host call.proposal.Reply := do
  requirePrincipal call.agentId call.authenticatedAgentId
  call.proposal.body call.caller

/-- The calls that reach the session: those of the agents, and those of its host. -/
inductive ServiceCall (host : SessionHost)
  | agent (call : AgentCall)
  | claimHandoff (handoffToken : String) (authenticatedAgentId : String)
  | host (call : SessionCall host)

namespace ServiceCall

def Reply : ServiceCall host → Type
  | .agent call => call.proposal.Reply
  | .claimHandoff _ _ => AgentHandoff
  | .host call => call.Reply

/-- The claim of an agent is for the principal itself. -/
def claimRequest (handoffToken authenticatedAgentId : String) : ClaimRequest where
  handoffToken := handoffToken
  newAgentId := authenticatedAgentId
  authenticatedAgentId := some authenticatedAgentId

def body : (call : ServiceCall host) → Session host call.Reply
  | .agent call => call.body
  | .claimHandoff handoffToken authenticatedAgentId =>
      SessionCall.body (.claimAgentHandoff (claimRequest handoffToken authenticatedAgentId))
  | .host call => call.body

end ServiceCall

/-- A session with its service as a component. -/
def serviceComponent (host : SessionHost) :
    Component RuntimeSig (SessionRecord host.codec) PyException where
  Method := ServiceCall host
  Reply := ServiceCall.Reply
  body := ServiceCall.body

abbrev ServiceStep (host : SessionHost) : Type := (serviceComponent host).Step

abbrev ServiceRun (host : SessionHost) (s : SessionRecord host.codec)
    (steps : List (ServiceStep host)) (s' : SessionRecord host.codec) : Prop :=
  Component.Run (serviceComponent host) s steps s'

/-! ## What a call of the service is to the session -/

/-- The call of the session that a call of the service makes, when it makes one. -/
inductive Makes : ServiceCall host → SessionCall host → Prop
  | agent {call : AgentCall} {inner : SessionCall host}
      (principal : call.authenticatedAgentId = some call.agentId)
      (caller : inner.caller = some call.caller) : Makes (.agent call) inner
  | claim (handoffToken authenticatedAgentId : String) :
      Makes (.claimHandoff handoffToken authenticatedAgentId)
        (.claimAgentHandoff (ServiceCall.claimRequest handoffToken authenticatedAgentId))
  | host (call : SessionCall host) : Makes (.host call) call

/-- The agent to which a call gave control. -/
def claimant (step : ServiceStep host) : Option String :=
  match step.method, step.outcome with
  | .claimHandoff _ authenticatedAgentId, .ok _ => some authenticatedAgentId
  | .host (.claimAgentHandoff request), .ok _ => some request.newAgentId
  | _, _ => none

/-- A call of the service is refused before it reaches the session, reads the epoch,
or is one call of the session. -/
inductive Serves (step : ServiceStep host) : Prop
  | refused (trace : step.trace = []) (after : step.after = step.before)
      (unclaimed : claimant step = none)
  | read (silent : Silent step.trace) (same : step.before.Undisturbed step.after)
      (idle : step.before.Idle → step.after.Idle) (unclaimed : claimant step = none)
  | session (inner : SessionStep host) (makes : Makes step.method inner.method)
      (before : inner.before = step.before) (trace : inner.trace = step.trace)
      (after : inner.after = step.after)
      (claimed : (completedClaim inner).map (·.newAgentId) = claimant step)

theorem governedControlEpoch_keeps {I : SessionRecord host.codec → Prop} (stable : Stable I)
    (caller : Caller) : Act.Keeps I (governedControlEpoch caller : Watch host Nat) :=
  (access_keeps stable.toSteady).bind fun _ => (requireControl_keeps _ _).bind fun _ =>
    Act.keeps_get.bind fun _ => Act.keeps_pure _

/-- What the proposal of an agent is to the session. -/
inductive Proposes (caller : Caller) (s : SessionRecord host.codec) (t : Trace RuntimeSig)
    (s' : SessionRecord host.codec) : Prop
  | refused (trace : t = []) (after : s' = s)
  | read (silent : Silent t) (same : s.Undisturbed s') (idle : s.Idle → s'.Idle)
  | session (inner : SessionStep host) (caller : inner.method.caller = some caller)
      (unclaimed : completedClaim inner = none) (before : inner.before = s) (trace : inner.trace = t)
      (after : inner.after = s')

theorem completedClaim_none {step : SessionStep host}
    (other : ∀ request, step.method ≠ .claimAgentHandoff request) : completedClaim step = none := by
  obtain ⟨method, s, t, outcome, s', run⟩ := step
  cases method with
  | claimAgentHandoff request => exact absurd rfl (other request)
  | _ => rfl

/-- What an agent proposes is one call of the session. -/
theorem Proposes.of_call {caller : Caller} {call : SessionCall host} {s s' : SessionRecord host.codec}
    {t : Trace RuntimeSig} {r : Except PyException call.Reply}
    (run : Act.Runs (SessionCall.body call) s t r s') (pair : call.caller = some caller)
    (unclaimed : ∀ request, call ≠ .claimAgentHandoff request) : Proposes caller s t s' :=
  .session ⟨call, s, t, r, s', run⟩ pair (completedClaim_none unclaimed) rfl rfl rfl

theorem Proposal.proposes {caller : Caller} {proposal : Proposal} {s s' : SessionRecord host.codec}
    {t : Trace RuntimeSig} {r : Except PyException proposal.Reply}
    (run : Act.Runs (proposal.body caller) s t r s') : Proposes caller s t s' := by
  cases proposal with
  | execute operation reference =>
      rcases run.ofExcept_bind_inv with ⟨e, -, rfl, -, rfl⟩ | ⟨op, -, executing⟩
      · exact .refused rfl rfl
      · exact .of_call executing rfl nofun
  | observe pageId =>
      have calling : Act.Runs (SessionCall.body (.observePage pageId caller : SessionCall host)) s t r s' := run
      exact .of_call calling rfl nofun
  | controlEpoch =>
      obtain ⟨u, rfl, reading⟩ := run.of_left
      refine .read (silent_map_left u) ?_ ?_
      · exact governedControlEpoch_keeps (SessionRecord.Undisturbed.observing s).toStable caller
          _ _ _ _ reading ⟨rfl, rfl⟩
      · exact governedControlEpoch_keeps (SessionRecord.Idle.observing host).toStable caller
          _ _ _ _ reading
  | prepare operation ttlMs =>
      rcases run.ofExcept_bind_inv with ⟨e, -, rfl, -, rfl⟩ | ⟨op, -, preparing⟩
      · exact .refused rfl rfl
      · exact .of_call preparing rfl nofun
  | commit token operation =>
      rcases run.ofExcept_bind_inv with ⟨e, -, rfl, -, rfl⟩ | ⟨op, -, committing⟩
      · exact .refused rfl rfl
      · exact .of_call committing rfl nofun
  | prepareHandoff recipientAgentId ttlMs =>
      have calling : Act.Runs (SessionCall.body (.prepareAgentHandoff
          { caller, ttlMs, recipientAgentId := some recipientAgentId } : SessionCall host)) s t r s' := run
      exact .of_call calling rfl nofun
  | prepareSpeculation plan ttlMs =>
      rcases run.ofExcept_bind_inv with ⟨e, -, rfl, -, rfl⟩ | ⟨graph, -, preparing⟩
      · exact .refused rfl rfl
      · exact .of_call preparing rfl nofun
  | selectSpeculativeBranch token =>
      have calling : Act.Runs (SessionCall.body (.selectSpeculativeBranch token caller : SessionCall host)) s t r s' := run
      exact .of_call calling rfl nofun
  | executeSelectedSpeculativeBranch token =>
      have calling : Act.Runs (SessionCall.body (.executeSelectedSpeculativeBranch token caller : SessionCall host)) s t r s' := run
      exact .of_call calling rfl nofun

/-- The call of a principal that it does not name is refused at once. -/
theorem AgentCall.denied {call : AgentCall} {s s' : SessionRecord host.codec} {t : Trace RuntimeSig}
    {r : Except PyException call.proposal.Reply}
    (denied : call.authenticatedAgentId ≠ some call.agentId)
    (run : Act.Runs (call.body : Session host _) s t r s') :
    t = [] ∧ s' = s ∧ ∃ e, r = .error e := by
  unfold AgentCall.body requirePrincipal at run
  rw [if_neg denied] at run
  rcases run.bind_inv with ⟨e, rfl, refused⟩ | ⟨u, _, s₁, v, -, refused, -⟩
  · obtain ⟨rfl, -, rfl⟩ := Act.runs_throw.mp refused
    exact ⟨rfl, rfl, e, rfl⟩
  · obtain ⟨-, eq, -⟩ := Act.runs_throw.mp refused
    cases eq

theorem AgentCall.admitted {call : AgentCall} {s s' : SessionRecord host.codec} {t : Trace RuntimeSig}
    {r : Except PyException call.proposal.Reply}
    (admitted : call.authenticatedAgentId = some call.agentId)
    (run : Act.Runs (call.body : Session host _) s t r s') : Proposes call.caller s t s' := by
  unfold AgentCall.body requirePrincipal at run
  rw [if_pos admitted] at run
  rcases run.bind_inv with ⟨e, -, passed⟩ | ⟨u, _, s₁, v, rfl, passed, asking⟩
  · obtain ⟨-, eq, -⟩ := Act.runs_pure.mp passed
    cases eq
  · obtain ⟨rfl, -, rfl⟩ := Act.runs_pure.mp passed
    exact Proposal.proposes asking

/-- Each call of the service makes one call of the session at most. -/
theorem step_serves (step : ServiceStep host) : Serves step := by
  obtain ⟨method, s, t, outcome, s', run⟩ := step
  cases method with
  | agent call =>
      by_cases admitted : call.authenticatedAgentId = some call.agentId
      · cases AgentCall.admitted admitted run with
        | refused trace after => exact .refused trace after rfl
        | read silent same idle => exact .read silent same idle rfl
        | session inner caller unclaimed before trace after =>
            refine .session inner (.agent admitted caller) before trace after ?_
            rw [unclaimed]
            rfl
      · obtain ⟨trace, after, -⟩ := AgentCall.denied admitted run
        exact .refused trace after rfl
  | claimHandoff handoffToken authenticatedAgentId =>
      let inner : SessionStep host := ⟨.claimAgentHandoff
        (ServiceCall.claimRequest handoffToken authenticatedAgentId), s, t, outcome, s', run⟩
      refine .session inner (.claim handoffToken authenticatedAgentId) rfl rfl rfl ?_
      cases outcome with
      | error e => rfl
      | ok handoff => rfl
  | host call =>
      refine .session ⟨call, s, t, outcome, s', run⟩ (.host call) rfl rfl rfl ?_
      cases call with
      | claimAgentHandoff request =>
          cases outcome with
          | error e => rfl
          | ok handoff => rfl
      | _ => rfl

/-! ## Custody -/

/-- A call that dispatches presents the pair of the lease. -/
theorem DispatchGate.leaseHeld {step : SessionStep host} {front : Trace RuntimeSig}
    {d : Event EffectSig} {pair : Caller} (gate : DispatchGate step front d)
    (caller : step.method.caller = some pair) : step.before.governance.LeaseHeld pair := by
  cases gate with
  | @planned plan presented method lease ungoverned =>
      rw [method] at caller
      obtain rfl := Option.some.inj caller
      exact lease
  | executed gated =>
      obtain rfl := Option.some.inj (gated.called.symm.trans caller)
      obtain ⟨early, gate, middle, s, -, -, -, same, passed, -⟩ := gated.passed
      have lease := passed.lease
      rw [same] at lease
      exact lease

/-- The agent that was given control last, of those that claimed it after `owner`. -/
def custodian (owner : String) (steps : List (ServiceStep host)) : String :=
  steps.foldl (fun holder step => (claimant step).getD holder) owner

theorem custodian_append (owner : String) (steps : List (ServiceStep host)) (step : ServiceStep host) :
    custodian owner (steps ++ [step]) = (claimant step).getD (custodian owner steps) := by
  unfold custodian
  rw [List.foldl_append]
  rfl

/-- The session is leased to the custodian, and no commit is active. -/
structure InCustody (owner : String) (past : List (ServiceStep host)) (s : SessionRecord host.codec) :
    Prop where
  agent : s.agentId = some (custodian owner past)
  idle : s.Idle

theorem InCustody.step {owner : String} {past : List (ServiceStep host)} {step : ServiceStep host}
    (custody : InCustody owner past step.before) : InCustody owner (past ++ [step]) step.after := by
  cases step_serves step with
  | refused trace after unclaimed =>
      refine ⟨?_, after ▸ custody.idle⟩
      rw [custodian_append, unclaimed, after]
      exact custody.agent
  | read silent same idle unclaimed =>
      refine ⟨?_, idle custody.idle⟩
      have agent : step.after.agentId = step.before.agentId := congrArg Lease.agentId same.1
      rw [custodian_append, unclaimed, agent]
      exact custody.agent
  | session inner makes before trace after claimed =>
      have idle := step_idle inner (before ▸ custody.idle)
      refine ⟨?_, after ▸ idle⟩
      rw [custodian_append, ← claimed, ← after]
      cases step_tenure inner with
      | kept unclaimed lease offers =>
          have agent : inner.after.agentId = inner.before.agentId := congrArg Lease.agentId lease
          rw [unclaimed, agent, before]
          exact custody.agent
      | handedOver completed known drawn lease offers =>
          rw [completed]
          exact congrArg Lease.agentId lease

theorem Opened.custody {request : OpenRequest host.codec} {s : SessionRecord host.codec} {owner : String}
    (opened : Opened request s) (leased : request.agentId = some owner) : InCustody owner [] s := by
  refine ⟨?_, opened.idle⟩
  obtain ⟨sessionId, controlToken, scopeKey, now, t, run⟩ := opened
  obtain ⟨⟨lease, -⟩, -, -⟩ := openRecord_keeps
    (SessionRecord.Untouched.steady (request.record sessionId controlToken scopeKey now))
    request _ _ _ _ run ⟨⟨rfl, rfl⟩, rfl, rfl⟩
  have agent : s.agentId = request.agentId := congrArg Lease.agentId lease
  exact agent.trans leased

/-- Whatever agents and host call, a call of an agent whose principal is another one
does nothing; and one that dispatches is of the custodian, and passed its gate. -/
theorem agents_in_custody {request : OpenRequest host.codec} {s s' : SessionRecord host.codec}
    {steps : List (ServiceStep host)} {owner : String} (opened : Opened request s)
    (leased : request.agentId = some owner) (run : ServiceRun host s steps s') :
    ∀ early step late, steps = early ++ step :: late → ∀ call, step.method = .agent call →
      (call.authenticatedAgentId ≠ some call.agentId →
        step.trace = [] ∧ step.after = step.before ∧ ∃ e, step.outcome = .error e) ∧
      ∀ front d, Before step.trace front d →
        call.authenticatedAgentId = some (custodian owner early) ∧
        ∃ inner : SessionStep host, inner.before = step.before ∧ inner.trace = step.trace ∧
          DispatchGate inner front d := by
  intro early step late split call method
  obtain ⟨custody, -⟩ := run.history (I := InCustody owner) (fun past step => InCustody.step)
    (opened.custody leased)
  have held : InCustody owner early step.before := custody early step late split
  constructor
  · intro denied
    obtain ⟨called, before, t, outcome, after, run⟩ := step
    obtain rfl := method
    exact AgentCall.denied denied run
  · intro front d before
    cases step_serves step with
    | refused trace after unclaimed =>
        obtain ⟨rest, eq⟩ := before
        rw [trace] at eq
        exact absurd eq.symm (List.append_ne_nil_of_right_ne_nil _ (List.cons_ne_nil _ _))
    | read silent same idle unclaimed =>
        obtain ⟨u, eq⟩ := silent
        rw [eq] at before
        exact (Before.not_map_left before).elim
    | session inner makes sameBefore trace after claimed =>
        rw [method] at makes
        cases makes with
        | agent principal caller =>
            have gate : DispatchGate inner front d :=
              step_gated (sameBefore ▸ held.idle) (trace ▸ before)
            have lease := gate.leaseHeld caller
            rw [sameBefore] at lease
            obtain ⟨sameAgent, -, -⟩ := lease _ held.agent
            exact ⟨principal.trans sameAgent, inner, sameBefore, trace, gate⟩

/-! ## Alice, Bob, and Mallory -/

namespace Scenario

/-- The request that opens a session without budgets for Alice. -/
def aliceLease : OpenRequest scenarioHost.codec where
  authorityEnvelope := some openPolicy
  agentId := some "alice"

/-- A call in which `principal` presents the lease of Alice. -/
def asAlice (principal : String) (proposal : Proposal) : ServiceCall scenarioHost :=
  .agent ⟨"alice", "alice-key", some principal, proposal⟩

/-- Alice clicks, Mallory tries with the lease of Alice, and Bob takes over; then Alice
tries again. -/
def takeover : List (ServiceCall scenarioHost) := [
  asAlice "alice" (.execute (.ok (click "a")) none),
  asAlice "mallory" (.execute (.ok (click "b")) none),
  asAlice "alice" (.prepareHandoff "bob" 60000),
  .claimHandoff "token-0" "bob",
  .agent ⟨"bob", "token-1", some "bob", .execute (.ok (click "c")) none⟩,
  asAlice "alice" (.execute (.ok (click "d")) none)]

def showsTakeover (steps : List (ServiceStep scenarioHost)) (_ : SessionRecord scenarioHost.codec) :
    Bool :=
  steps.map (fun step => (rights step.trace).length) == [1, 0, 0, 0, 1, 0]

end Scenario


open Scenario in
theorem agents_in_custody_takeover : ∃ steps s', ServiceRun scenarioHost
      (aliceLease.record "session-1" "alice-key" "scope" 0) steps s' ∧
    steps.map (·.method) = takeover ∧
    steps.map (fun step => (rights step.trace).length) = [1, 0, 0, 0, 1, 0] ∧
    ∀ early step late, steps = early ++ step :: late → ∀ call, step.method = .agent call →
      (call.authenticatedAgentId ≠ some call.agentId →
        step.trace = [] ∧ step.after = step.before ∧ ∃ e, step.outcome = .error e) ∧
      ∀ front d, Before step.trace front d →
        call.authenticatedAgentId = some (custodian "alice" early) ∧
        ∃ inner : SessionStep scenarioHost, inner.before = step.before ∧ inner.trace = step.trace ∧
          DispatchGate inner front d := by
  obtain ⟨steps, s', run, methods, shown⟩ := Component.exists_run (C := serviceComponent scenarioHost)
    script takeover (aliceLease.record "session-1" "alice-key" "scope" 0) {} showsTakeover
    (by decide +kernel)
  have started : Opened aliceLease (aliceLease.record "session-1" "alice-key" "scope" 0) :=
    ⟨"session-1", "alice-key", "scope", 0, [], .pure () _⟩
  exact ⟨steps, s', run, methods, eq_of_beq shown, agents_in_custody started rfl run⟩

end Dingdongditch
