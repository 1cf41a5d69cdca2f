import Dingdongditch.Runtime.Preparations

/-!
# The executions of a run

A run of a session is a sequence of idle stretches, of executions
(`execute_operation`, called by the client or by another method) and of plans,
which only a session without an envelope runs.  `SessionRun.history` cuts a run
at its executions, so a property of runs is proved execution by execution.
-/

namespace Dingdongditch

open Interaction Text

variable {host : SessionHost}

/-! ## Idle stretches -/

/-- `I` is kept by every update that a session makes outside its executions. -/
structure Idle (I : SessionRecord host.codec → Prop) : Prop extends Watching I where
  prepared : ∀ s token record, I s → Prepares s record →
    I { s with preparations := assign s.preparations token record }
  committing : ∀ (s : SessionRecord host.codec) token record, I s →
    s.preparations.lookup token = some record → record.isPrepared = true →
    I (s.committing token record)
  released : ∀ s speculation, I s → I (s.release speculation)
  selected : ∀ s speculation, I s → I { s with activeSpeculation := speculation }
  handedOver : ∀ (s : SessionRecord host.codec) pending agentId token, I s →
    I (s.handedOver pending agentId token)

/-- What only an execution writes. -/
structure Ledger (codec : HostCodec) where
  sessionId : String
  authorityEnvelope : Option (AuthorityEnvelope codec)
  authorityActionCount : Int
  authoritySideEffectCount : Int
  receiptChain : List ChainedReceipt
  receiptChainHead : Option String

def SessionRecord.ledger {codec : HostCodec} (s : SessionRecord codec) : Ledger codec :=
  ⟨s.sessionId, s.authorityEnvelope, s.authorityActionCount, s.authoritySideEffectCount,
    s.receiptChain, s.receiptChainHead⟩

/-- A property that reads nothing but the ledger is kept outside the executions. -/
theorem Idle.of_ledger {I : SessionRecord host.codec → Prop}
    (reads : ∀ s s' : SessionRecord host.codec, s'.ledger = s.ledger → I s → I s') : Idle I where
  touched s _ := reads s _ rfl
  closed s _ _ := reads s _ rfl
  terminal s := reads s _ rfl
  identified s _ := reads s _ rfl
  advanced s _ := reads s _ rfl
  evidenced s _ _ := reads s _ rfl
  fingerprinted s _ := reads s _ rfl
  invalidated s := reads s _ rfl
  refused s _ refusable := reads s _ rfl refusable.1
  speculating s _ := reads s _ rfl
  offered s _ := reads s _ rfl
  identityBound s _ _ := reads s _ rfl
  planBound s _ _ holds _ := reads s _ rfl holds
  planInstalled s _ _ _ holds _ := reads s _ rfl holds
  prepared s _ _ holds _ := reads s _ rfl holds
  committing s _ _ holds _ _ := reads s _ rfl holds
  released s _ := reads s _ rfl
  selected s _ := reads s _ rfl
  handedOver s _ _ _ := reads s _ rfl

/-- A property that reads nothing but the ledger is kept by an execution that
keeps it where the ledger is written. -/
theorem Lasting.of_ledger {I : SessionRecord host.codec → Prop}
    (reads : ∀ s s' : SessionRecord host.codec, s'.ledger = s.ledger → I s → I s')
    (charged : ∀ s receipt policy op, I s → I (s.charge (receiptDispatchCounts receipt policy op)))
    (chained : ∀ (s : SessionRecord host.codec) op receipt hash, I s →
      s.receiptHash op receipt = .ok hash → I (s.chain op receipt hash)) : Lasting I where
  toStable := (Idle.of_ledger reads).toStable
  charged := charged
  chained := chained
  stepped s := reads s _ rfl
  speculated s op receipt := by
    unfold SessionRecord.advanceSpeculations
    split
    · exact reads s _ rfl
    · exact fun holds => holds

/-- What a session may make of a record outside its executions. -/
def Idling (s s' : SessionRecord host.codec) : Prop :=
  ∀ I : SessionRecord host.codec → Prop, Idle I → I s → I s'

namespace Idling

variable {s s₁ s₂ : SessionRecord host.codec}

theorem refl (s : SessionRecord host.codec) : Idling s s := fun _ _ holds => holds

theorem of_stably (stably : Stably s s₁) : Idling s s₁ :=
  fun I idle => stably I idle.toStable

end Idling

/-- A preparation is an idle stretch. -/
theorem prepareOperation_idling {request : PrepareRequest} {s s' : SessionRecord host.codec}
    {t : Trace QuietSig} {r : Except PyException PreparedOperation}
    (run : Act.Runs (prepareOperation request : Watch host PreparedOperation) s t r s') :
    Idling s s' := by
  rcases prepareOperation_run run with stably | ⟨s₁, token, record, stably, prepares, -, -, last⟩
  · exact .of_stably stably
  · intro I idle holds
    have entered := idle.prepared s₁ token record (stably I idle.toStable holds) prepares
    exact last I idle.toStable entered

/-! ## Histories -/

/-- One run of `execute_operation`. -/
structure Execution (host : SessionHost) where
  request : ExecuteRequest
  before : SessionRecord host.codec
  trace : Trace RuntimeSig
  outcome : Except PyException SessionReceipt
  after : SessionRecord host.codec
  run : Act.Runs (executeRequest request) before trace outcome after

/-- The executions of a run, in their order. -/
inductive History : SessionRecord host.codec → Trace RuntimeSig → List (Execution host) →
    SessionRecord host.codec → Prop
  | idle {s s' : SessionRecord host.codec} {t : Trace RuntimeSig} (silent : Silent t)
      (idling : Idling s s') : History s t [] s'
  | executed (e : Execution host) : History e.before e.trace [e] e.after
  | planned {plan : ExecutionPlan host.codec} {s : SessionRecord host.codec} {t : Trace RuntimeSig}
      {r : Except PyException (List (String × Option ExecutionReceipt))}
      (ungoverned : s.authorityEnvelope = none) (run : Act.Runs (runPlan plan) s t r s) :
      History s t [] s
  | append {s s₁ s' : SessionRecord host.codec} {t u : Trace RuntimeSig}
      {es later : List (Execution host)} (first : History s t es s₁) (second : History s₁ u later s') :
      History s (t ++ u) (es ++ later) s'

/-- Every run of `m` has a history. -/
def Recounts {α : Type} (m : Session host α) : Prop :=
  ∀ s t r s', Act.Runs m s t r s' → ∃ executions, History s t executions s'

namespace Recounts

variable {α β : Type}

/-- A part that only observes. -/
theorem of_idling {m : Watch host α} (idling : ∀ s t r s', Act.Runs m s t r s' → Idling s s') :
    Recounts (m.left (T := EffectSig)) := by
  intro s t r s' run
  obtain ⟨u, rfl, inner⟩ := run.of_left
  exact ⟨[], .idle (silent_map_left u) (idling _ _ _ _ inner)⟩

theorem of_keeps {m : Watch host α} (keeps : ∀ I, Idle I → Act.Keeps I m) :
    Recounts (m.left (T := EffectSig)) :=
  of_idling fun s t r s' run I idle => keeps I idle s t r s' run

theorem pure (a : α) : Recounts (Pure.pure a : Session host α) :=
  of_keeps (m := (Pure.pure a : Watch host α)) fun _ _ => Act.keeps_pure a

theorem bind {m : Session host α} {f : α → Session host β} (first : Recounts m)
    (second : ∀ a, Recounts (f a)) : Recounts (m >>= f) := by
  intro s t r s' run
  rcases run.bind_inv with ⟨e, -, inner⟩ | ⟨t₁, a, s₁, t₂, rfl, inner, next⟩
  · exact first _ _ _ _ inner
  · obtain ⟨es, history⟩ := first _ _ _ _ inner
    obtain ⟨later, rest⟩ := second a _ _ _ _ next
    exact ⟨es ++ later, history.append rest⟩

/-- An update of the record. -/
theorem modify {f : SessionRecord host.codec → SessionRecord host.codec}
    (idling : ∀ s, Idling s (f s)) : Recounts (modify f : Session host PUnit) := by
  intro s t r s' run
  obtain ⟨rfl, -, rfl⟩ := Act.runs_modifyGet.mp run
  exact ⟨[], .idle ⟨[], rfl⟩ (idling s)⟩

theorem andFinally {m : Session host α} {cleanup : Session host Unit} (body : Recounts m)
    (last : Recounts cleanup) : Recounts (m.andFinally cleanup) := by
  intro s t r s' run
  obtain ⟨t₁, r₁, s₁, t₂, c, rfl, inner, clean, -⟩ := Act.runs_andFinally.mp run
  obtain ⟨es, history⟩ := body _ _ _ _ inner
  obtain ⟨later, rest⟩ := last _ _ _ _ clean
  exact ⟨es ++ later, history.append rest⟩

end Recounts

theorem executeRequest_recounts (request : ExecuteRequest) :
    Recounts (executeRequest request : Session host SessionReceipt) :=
  fun s t r s' run => ⟨_, .executed ⟨request, s, t, r, s', run⟩⟩

/-- A property that idle stretches and executions keep is an invariant. -/
theorem History.keeps {I : SessionRecord host.codec → Prop} (idle : Idle I) (lasting : Lasting I)
    {s s' : SessionRecord host.codec} {t : Trace RuntimeSig} {executions : List (Execution host)}
    (history : History s t executions s') (holds : I s) : I s' := by
  induction history with
  | idle silent idling => exact idling I idle holds
  | executed e => exact executeRequest_keeps lasting e.request _ _ _ _ e.run holds
  | planned ungoverned run => exact holds
  | append first second ihFirst ihSecond => exact ihSecond (ihFirst holds)

/-! ## The methods that execute -/

theorem commitOperation_recounts (request : CommitRequest) :
    Recounts (commitOperation request : Session host CommitResult) := by
  intro s t r s' run
  have idling {u r s₁} (checks : Act.Runs (commitChecks request) s u r s₁) : Idling s s₁ :=
    fun I idle => commitChecks_keeps idle.toStable idle.refused request _ _ _ _ checks
  unfold commitOperation at run
  rcases run.left_bind_inv with ⟨u, e, rfl, -, checks⟩ | ⟨u, checked, s₁, rest, rfl, checks, after⟩
  · exact ⟨[], .idle (silent_map_left u) (idling checks)⟩
  have entered : History s (u.map Event.left) [] s₁ := .idle (silent_map_left u) (idling checks)
  cases checked with
  | error reason =>
      obtain ⟨rfl, -, rfl⟩ := Act.runs_pure.mp after
      rw [List.append_nil]
      exact ⟨[], entered⟩
  | ok prepared =>
      obtain ⟨-, committable, -⟩ := commitChecks_ok checks
      obtain ⟨v, w, executed, s₂, rfl, execution, -, finished⟩ := (consumption after).parts
      have marked : Idling s₁ (s₁.committing request.token prepared) := fun I idle holds =>
        idle.committing s₁ _ _ holds committable.found committable.isPrepared
      have finishes : Idling s₂ s' := fun I idle holds =>
        finished I idle.toStable (idle.released s₂ _ holds)
      have marking : History s₁ [] [] _ := .idle ⟨[], rfl⟩ marked
      have executing := History.executed ⟨_, _, v, executed, s₂, execution⟩
      have finishing : History s₂ (w.map Event.left) [] s' := .idle (silent_map_left w) finishes
      exact ⟨_, entered.append (marking.append (executing.append finishing))⟩

theorem executeSelectedSpeculativeBranch_recounts (token : String) (caller : Caller) :
    Recounts (executeSelectedSpeculativeBranch token caller : Session host SpeculationResult) := by
  unfold executeSelectedSpeculativeBranch
  refine Recounts.bind (.of_keeps fun I idle =>
    eligibleBranch_keeps idle.toStable idle.toObserving.regraphed token caller) fun eligible => ?_
  intro s t r s' run
  replace run := run.get_bind_inv
  dsimp only at run
  split at run
  · refine Recounts.bind (.of_idling fun s t r s' preparing => ?_) (fun _ => .pure _) _ _ _ _ run
    exact prepareOperation_idling preparing
  · refine Recounts.bind (.modify fun s I idle => idle.selected s _) (fun _ => ?_) _ _ _ _ run
    refine Recounts.bind (.andFinally (executeRequest_recounts _) ?_) fun _ => .pure _
    exact .modify fun s I idle => idle.selected s _

theorem typeKeys_recounts (config : TypingSessionConfig) (caller : Caller) (index : Nat)
    (keys : List String) : Recounts (typeKeys config caller index keys : Session host Bool) := by
  induction keys generalizing index with
  | nil => exact .pure true
  | cons key rest ih =>
      refine (executeRequest_recounts _).bind fun receipt => ?_
      split
      · exact .pure false
      · exact ih (index + 1)

theorem typeText_recounts (config : TypingSessionConfig) (caller : Caller) (index : Nat)
    (text : List Char) : Recounts (typeText config caller index text : Session host Bool) := by
  fun_induction typeText config caller index text with
  | case1 => exact .pure true
  | case2 => exact .pure false
  | case3 index c text key keys _ ih =>
      refine (typeKeys_recounts config caller index (key :: keys)).bind fun typed => ?_
      split
      · exact .pure false
      · dsimp only
        split
        · exact (Recounts.of_keeps fun _ _ => Act.keeps_attempt _ _).bind fun _ => ih
        · exact ih

theorem executeTypingSession_recounts (config : TypingSessionConfig)
    (reference : Option ObservationReference) (caller : Caller) :
    Recounts (executeTypingSession config reference caller : Session host Bool) := by
  refine Recounts.bind (.of_keeps fun I idle => ?_) fun _ => ?_
  · exact typingGate_keeps idle.toStable config caller
  refine (executeRequest_recounts _).bind fun target => ?_
  split
  · exact .pure false
  · refine (typeText_recounts config caller 0 config.text).bind fun typed => ?_
    split
    · exact .pure false
    · exact .of_keeps fun _ _ => finalVerify_keeps config

/-- A plan is run in a session without an envelope only. -/
theorem planGate_ok {plan : ExecutionPlan host.codec} {caller : Caller}
    {s s' : SessionRecord host.codec} {t : Trace QuietSig}
    (run : Act.Runs (planGate plan caller) s t (.ok ()) s') : s'.authorityEnvelope = none := by
  unfold planGate at run
  obtain ⟨_, _, s₁, _, -, -, run₁⟩ := run.bind_ok_inv
  obtain ⟨_, _, s₂, _, -, -, run₂⟩ := run₁.bind_ok_inv
  obtain ⟨_, _, s₃, _, -, -, run₃⟩ := run₂.bind_ok_inv
  obtain ⟨-, run₄⟩ := Watch.rejectWhen_bind_ok run₃
  obtain ⟨ungoverned, -, rfl⟩ := Watch.rejectWhen_ok run₄.get_bind_inv
  simpa using ungoverned

theorem executePlan_recounts (plan : ExecutionPlan host.codec) (caller : Caller) :
    Recounts (executePlan plan caller : Session host _) := by
  intro s t r s' run
  have gated {u r s₁} (gate : Act.Runs (planGate plan caller) s u r s₁) : Idling s s₁ :=
    fun I idle => planGate_keeps idle.toStable plan caller _ _ _ _ gate
  unfold executePlan at run
  rcases run.left_bind_inv with ⟨u, e, rfl, -, gate⟩ | ⟨u, _, s₁, rest, rfl, gate, after⟩
  · exact ⟨[], .idle (silent_map_left u) (gated gate)⟩
  have entered : History s (u.map Event.left) [] s₁ := .idle (silent_map_left u) (gated gate)
  have ungoverned := planGate_ok gate
  rcases after.bind_inv with ⟨e, -, planning⟩ | ⟨v, steps, s₂, w, rfl, planning, last⟩
  · obtain rfl := runPlan_keeps (I := (· = s₁)) plan _ _ _ _ planning rfl
    exact ⟨_, entered.append (.planned ungoverned planning)⟩
  · obtain rfl := runPlan_keeps (I := (· = s₁)) plan _ _ _ _ planning rfl
    obtain ⟨es, noting⟩ := Recounts.bind (.of_keeps fun I idle => noteBackend_keeps idle.toSteady)
      (fun _ => Recounts.pure steps) _ _ _ _ last
    exact ⟨_, entered.append ((History.planned ungoverned planning).append noting)⟩

/-! ## The API -/

/-- Every call of the API has a history. -/
theorem SessionCall.recounts (call : SessionCall host) : Recounts call.body := by
  cases call with
  | observePage pageId caller =>
      exact .of_keeps fun I idle => observePage_keeps idle.toStable pageId caller
  | prepareOperation operation ttlMs caller =>
      exact .of_idling fun s t r s' run => prepareOperation_idling run
  | commitOperation request => exact commitOperation_recounts request
  | bindSignedPlanAuthority request =>
      exact .of_keeps fun I idle => bindSignedPlanAuthority_keeps idle.toObserving request
  | bindIdentity assertion => exact .of_keeps fun I idle => bindIdentity_keeps idle.toObserving assertion
  | prepareSpeculation request =>
      exact .of_keeps fun I idle => prepareSpeculation_keeps idle.toObserving request
  | selectSpeculativeBranch token caller =>
      exact .of_keeps fun I idle =>
        selectSpeculativeBranch_keeps idle.toStable idle.toObserving.regraphed token caller
  | executeSelectedSpeculativeBranch token caller =>
      exact executeSelectedSpeculativeBranch_recounts token caller
  | prepareAgentHandoff request =>
      exact .of_keeps fun I idle => prepareAgentHandoff_keeps idle.toObserving idle.offered request
  | claimAgentHandoff request =>
      exact .of_keeps fun I idle => claimAgentHandoff_keeps idle.toSteady idle.handedOver request
  | executeOperation operation reference caller => exact executeRequest_recounts _
  | executePlan plan caller => exact executePlan_recounts plan caller
  | executeTypingSession config reference caller =>
      exact executeTypingSession_recounts config reference caller
  | inspectPages => exact .of_keeps fun I idle => inspectPages_keeps idle.toStable
  | selectPage pageId caller => exact .of_keeps fun I idle => selectPage_keeps idle.toStable pageId caller
  | recordExternalMutation actor =>
      exact .of_keeps fun I idle => recordExternalMutation_keeps idle.toStable actor
  | closeSession caller => exact .of_keeps fun I idle => closeSession_keeps idle.toStable caller
  | cleanupExpired => exact .of_keeps fun I idle => cleanupExpired_keeps idle.toStable

/-- Every run of a session has a history. -/
theorem run_history {s s' : SessionRecord host.codec} {steps : List (SessionStep host)}
    (run : SessionRun host s steps s') :
    ∃ executions, History s (steps.flatMap (·.trace)) executions s' := by
  induction run with
  | nil s => exact ⟨[], .idle ⟨[], rfl⟩ (.refl s)⟩
  | cons step _ ih =>
      obtain ⟨es, first⟩ := SessionCall.recounts step.method _ _ _ _ step.run
      obtain ⟨later, rest⟩ := ih
      exact ⟨es ++ later, first.append rest⟩

/-- The request that a call of `execute_operation` makes. -/
def SessionCall.request : SessionCall host → Option ExecuteRequest
  | .executeOperation operation reference caller => some {
      operation
      observationReference := reference
      agentId := caller.agentId
      controlToken := caller.controlToken }
  | _ => none

/-- The history of a run of `execute_operation` calls has an execution for each. -/
theorem run_executions {s s' : SessionRecord host.codec} {steps : List (SessionStep host)}
    (run : SessionRun host s steps s') {requests : List ExecuteRequest}
    (called : (steps.map (·.method)).map SessionCall.request = requests.map some) :
    ∃ executions : List (Execution host), History s (steps.flatMap (·.trace)) executions s' ∧
      executions.map (·.request) = requests ∧ executions.map (·.trace) = steps.map (·.trace) := by
  induction run generalizing requests with
  | nil s =>
      obtain rfl : requests = [] := List.map_eq_nil_iff.mp called.symm
      exact ⟨[], .idle ⟨[], rfl⟩ (.refl s), rfl, rfl⟩
  | cons step _ ih =>
      cases requests with
      | nil => cases called
      | cons request requests =>
          obtain ⟨head, tail⟩ := List.cons.inj called
          obtain ⟨later, rest, sameRequests, sameTraces⟩ := ih tail
          obtain ⟨method, before, trace, outcome, after, inner⟩ := step
          cases method with
          | executeOperation operation reference caller =>
              obtain rfl := Option.some.inj head
              let e : Execution host := ⟨_, before, trace, outcome, after, inner⟩
              refine ⟨e :: later, (History.executed e).append rest, ?_, ?_⟩
              · exact congrArg (List.cons _) sameRequests
              · exact congrArg (List.cons _) sameTraces
          | _ => cases head

end Dingdongditch
