import Dingdongditch.Interaction.Cursor
import Dingdongditch.Runtime.Chaining

/-!
# The order of a signed plan

A session with a signed plan dispatches the operations of the plan in their
order, each of them once (`signedPlan_in_order`).  The session moves to the next
operation where it chains a receipt with the start of an action, so the order
holds where no dispatch is left without such a receipt (`Unconsumed`).
-/

namespace Dingdongditch

open Interaction Text

variable {host : SessionHost}

/-! ## The start that a receipt reports -/

section Started

variable {request : ExecuteRequest} {s s' : SessionRecord host.codec}

/-- The guard of the operation found its target absent, so that nothing was dispatched. -/
def SkippedByGuard (host : SessionHost) (request : ExecuteRequest) (t : Trace RuntimeSig) : Prop :=
  rights t = [] ∧ ∃ (opening acting closing : Trace RuntimeSig) (startedAtMs : Int)
      (validation : Option ObservationFreshnessResult) (facts : ActionFacts) (c c' : EvidenceCollector),
    t = opening ++ acting ++ closing ∧
    Act.Runs (act host.toPlatform request.dispatchOperation
      (executorContext host request.observationReference) startedAtMs validation) c acting
      (.ok facts) c' ∧
    facts.guardedSkip = true

/-- A branch of the guard was dispatched up to an action that failed. -/
def FailedBranch (host : SessionHost) (request : ExecuteRequest) (t : Trace RuntimeSig) : Prop :=
  request.dispatchOperation.branching = true ∧ ∃ pairs,
    rights t = branchEvents request.dispatchOperation
      (executorContext host request.observationReference) pairs ∧
    ∃ pair ∈ pairs, pair.2.ok = false

theorem LostWithin.frame {u : Trace RuntimeSig} (lost : LostWithin host request u)
    (front back : Trace QuietSig) :
    LostWithin host request (front.map Event.left ++ (u ++ back.map Event.left)) := by
  obtain ⟨early, executing, rest, rfl, lost⟩ := lost
  refine ⟨front ++ early, executing, rest ++ back, ?_, lost⟩
  simp only [List.map_append, List.append_assoc]

theorem SkippedByGuard.frame {u : Trace RuntimeSig} (skipped : SkippedByGuard host request u)
    (front back : Trace QuietSig) :
    SkippedByGuard host request (front.map Event.left ++ (u ++ back.map Event.left)) := by
  obtain ⟨quiet, opening, acting, closing, startedAtMs, validation, facts, c, c', rfl, acts, isSkip⟩ :=
    skipped
  refine ⟨?_, front.map Event.left ++ opening, acting, closing ++ back.map Event.left, startedAtMs,
    validation, facts, c, c', ?_, acts, isSkip⟩
  · rw [rights_append, rights_append, quiet, rights_map_left, rights_map_left]
    rfl
  · simp only [List.append_assoc]

theorem FailedBranch.congr {t u : Trace RuntimeSig} (same : rights t = rights u)
    (failed : FailedBranch host request u) : FailedBranch host request t := by
  obtain ⟨branching, pairs, events, isFailed⟩ := failed
  exact ⟨branching, pairs, same.trans events, isFailed⟩

theorem SessionReceipt.afterDispatch_started (receipt : SessionReceipt) (op : Operation)
    (decision : FirewallDecision) :
    (receipt.afterDispatch op decision).receipt.actionStartedAtMs = receipt.receipt.actionStartedAtMs := by
  unfold afterDispatch
  split
  · rfl
  · rfl

theorem chargeUnder_started {envelope : Option (AuthorityEnvelope host.codec)}
    {decision : Option FirewallDecision} {raw : ExecutionReceipt} {receipt : SessionReceipt}
    {t : Trace QuietSig}
    (run : Act.Runs (chargeUnder envelope request decision raw) s t (.ok receipt) s') :
    receipt.receipt.actionStartedAtMs = raw.actionStartedAtMs := by
  cases envelope with
  | none =>
      obtain ⟨-, eq, -⟩ := Act.runs_pure.mp run
      cases eq
      rfl
  | some envelope =>
      have charging : Act.Runs (chargeDispatch envelope request.operation
        { receipt := raw, authorityDecision := decision }) s t (.ok receipt) s' := run
      replace charging := charging.modify_bind_inv
      split at charging
      · obtain ⟨-, eq, -⟩ := Act.runs_pure.mp charging
        cases eq
        rfl
      · obtain ⟨_, url, s₁, _, -, -, run₁⟩ := charging.bind_ok_inv
        obtain ⟨_, now, s₂, _, -, -, run₂⟩ := run₁.bind_ok_inv
        obtain ⟨_, bytes, s₃, _, -, -, run₃⟩ := run₂.bind_ok_inv
        obtain ⟨-, eq, -⟩ := Act.runs_pure.mp run₃.get_bind_inv
        cases eq
        exact SessionReceipt.afterDispatch_started _ _ _

/-- A receipt reports the start of an action exactly if something was dispatched
or skipped, unless a dispatch was lost or a branch failed. -/
theorem dispatchRequest_started {t : Trace RuntimeSig} {receipt : SessionReceipt}
    (run : Act.Runs (dispatchRequest request) s t (.ok receipt) s') :
    (rights t = [] ∧ receipt.receipt.actionStartedAtMs = none) ∨
    (receipt.receipt.actionStartedAtMs.isSome = true ∧ (rights t ≠ [] ∨ SkippedByGuard host request t)) ∨
    LostWithin host request t ∨ FailedBranch host request t := by
  rcases dispatchRequest_shape run with ⟨silent, unstarted⟩ |
    ⟨entry, executing, rest, out, decision, rfl, -, executed, continues⟩
  · exact .inl ⟨silent.rights_eq, unstarted receipt rfl⟩
  have sameRights : rights (entry.map Event.left ++ (executing ++ rest.map Event.left)) =
      rights executing := by
    simp only [rights_append, rights_map_left, List.nil_append, List.append_nil]
  rw [sameRights]
  cases out with
  | error e => cases continues.2.1
  | ok raw =>
      have sameStart := chargeUnder_started continues
      rw [sameStart]
      obtain ⟨-, result, c, inner, isRaw⟩ := runExecutor_inv executed
      have source : (executorContext host request.observationReference).source = .provided true := rfl
      cases executeOperation_ending source inner with
      | refused quiet unstarted =>
          refine .inl ⟨quiet, ?_⟩
          rcases result with (failed | e) | receipt
          · cases isRaw
            exact failed.unstarted
          · cases isRaw
          · cases isRaw
            exact unstarted _ rfl
      | @concluded startedAtMs validation before s₁ acting facts s₂ _ dispatches entered acts reported
          opened =>
          cases isRaw
          refine .inr (.inl ⟨by rw [reported.started]; rfl, ?_⟩)
          have shape := act_shape acts
          generalize outcome : (.ok facts : Except Halt ActionFacts) = r at shape
          cases shape with
          | primary guard attempts front answer branches unguarded =>
              refine .inl ?_
              rw [dispatches, rights_append]
              simp
          | absent guard expectations started completed _ guarded legacy quiet =>
              obtain rfl := Except.ok.inj outcome
              obtain ⟨opening, closing, rfl⟩ := opened
              refine .inr ⟨by rw [sameRights, dispatches, quiet], ?_⟩
              refine ⟨entry.map Event.left ++ opening.map Event.left, acting,
                closing.map Event.left ++ rest.map Event.left, startedAtMs, validation, _, _, _, ?_,
                acts, rfl⟩
              simp only [List.append_assoc]
          | ended halt _ branches => cases outcome
      | failed dispatches entered acts =>
          cases isRaw
          rcases act_failed acts with quiet | failure
          · exact .inl ⟨dispatches.trans quiet, FailedReceipt.unstarted _⟩
          · obtain ⟨guard, _, _, pairs, guarded, branching, -, -, events, isFailed, -⟩ := failure.parts
            have isBranching : request.dispatchOperation.branching = true := by
              unfold Operation.branching OperationGuard.isLegacyTargetAbsent
              rw [guarded, Option.any_some, branching]
              rfl
            exact .inr (.inr (.inr ⟨isBranching, pairs, sameRights.trans (dispatches.trans events), isFailed⟩))
      | lost failed lost => exact .inr (.inr (.inl ⟨entry, executing, rest, rfl, lost⟩))

end Started

/-! ## The plan of a session -/

/-- The session holds a plan with these operations, and stands before the operation
at `index`. -/
structure PlanAt (operations : List String) (index : Nat) (s : SessionRecord host.codec) : Prop where
  installed : s.signedPlanAuthority.isSome
  governed : s.authorityEnvelope.isSome
  signed : s.signedPlanOperationBytes = operations
  next : s.signedPlanNextIndex = index

namespace PlanAt

variable {operations : List String} {index : Nat} {s : SessionRecord host.codec}

theorem not_free (planned : PlanAt operations index s) : s.signedPlanAuthority ≠ none := by
  intro free
  have installed := planned.installed
  rw [free] at installed
  cases installed

theorem stable (operations : List String) (index : Nat) :
    Stable (PlanAt operations index : SessionRecord host.codec → Prop) where
  touched _ _ planned := ⟨planned.installed, planned.governed, planned.signed, planned.next⟩
  closed _ _ _ planned := ⟨planned.installed, planned.governed, planned.signed, planned.next⟩
  terminal _ planned := ⟨planned.installed, planned.governed, planned.signed, planned.next⟩
  identified _ _ planned := ⟨planned.installed, planned.governed, planned.signed, planned.next⟩
  advanced _ _ planned := ⟨planned.installed, planned.governed, planned.signed, planned.next⟩
  evidenced _ _ _ planned := ⟨planned.installed, planned.governed, planned.signed, planned.next⟩
  fingerprinted _ _ planned := ⟨planned.installed, planned.governed, planned.signed, planned.next⟩

/-- A plan that is installed is not replaced. -/
theorem idle (operations : List String) (index : Nat) :
    Idle (PlanAt operations index : SessionRecord host.codec → Prop) where
  toStable := stable operations index
  invalidated _ planned := ⟨planned.installed, planned.governed, planned.signed, planned.next⟩
  refused _ _ refusable := ⟨refusable.1.installed, refusable.1.governed, refusable.1.signed,
    refusable.1.next⟩
  speculating _ _ planned := ⟨planned.installed, planned.governed, planned.signed, planned.next⟩
  offered _ _ planned := ⟨planned.installed, planned.governed, planned.signed, planned.next⟩
  identityBound _ _ _ planned := ⟨planned.installed, planned.governed, planned.signed, planned.next⟩
  planBound _ _ _ planned free := absurd free planned.not_free
  planInstalled _ _ _ _ planned free := absurd free planned.not_free
  prepared _ _ _ planned _ := ⟨planned.installed, planned.governed, planned.signed, planned.next⟩
  committing _ _ _ planned _ _ := ⟨planned.installed, planned.governed, planned.signed, planned.next⟩
  released _ _ planned := ⟨planned.installed, planned.governed, planned.signed, planned.next⟩
  selected _ _ planned := ⟨planned.installed, planned.governed, planned.signed, planned.next⟩
  handedOver _ _ _ _ planned := ⟨planned.installed, planned.governed, planned.signed, planned.next⟩

theorem charge (planned : PlanAt operations index s) (counts : Int × Int) :
    PlanAt operations index (s.charge counts) := by
  unfold SessionRecord.charge
  split
  · exact ⟨planned.installed, planned.governed, planned.signed, planned.next⟩
  · exact planned

theorem advanceSpeculations (planned : PlanAt operations index s) (op : Operation)
    (receipt : ExecutionReceipt) : PlanAt operations index (s.advanceSpeculations op receipt) := by
  unfold SessionRecord.advanceSpeculations
  split
  · exact ⟨planned.installed, planned.governed, planned.signed, planned.next⟩
  · exact planned

/-- A receipt moves the plan on if it reports the start of an ordinary operation. -/
theorem recorded (planned : PlanAt operations index s) {request : ExecuteRequest}
    (receipt : SessionReceipt) (hash : String) :
    PlanAt operations
      (if request.signedSpeculationOperation.isNone && receipt.receipt.actionStartedAtMs.isSome
        then index + 1 else index)
      (s.recorded request receipt hash) := by
  unfold SessionRecord.recorded
  have installed : (s.chain request.operation receipt hash).signedPlanAuthority.isSome :=
    planned.installed
  simp only [installed, Bool.true_and]
  split
  · exact ⟨planned.installed, planned.governed, planned.signed, congrArg (· + 1) planned.next⟩
  · exact ⟨planned.installed, planned.governed, planned.signed, planned.next⟩

end PlanAt

theorem requireSignedPlanOperation_ok {op : Operation} {operations : List String} {index : Nat}
    {s s' : SessionRecord host.codec} {t : Trace QuietSig} (planned : PlanAt operations index s)
    (run : Act.Runs (requireSignedPlanOperation op none : Watch host Unit) s t (.ok ()) s') :
    operations[index]? = some (host.publicBytes op) := by
  obtain ⟨authority, installed⟩ := Option.isSome_iff_exists.mp planned.installed
  replace run := run.get_bind_inv
  rw [installed] at run
  obtain ⟨_, now, s₁, _, -, clock, checking⟩ := run.bind_ok_inv
  obtain ⟨-, matching⟩ := Watch.rejectWhen_bind_ok checking
  dsimp only at matching
  rw [planned.signed, planned.next] at matching
  cases found : operations[index]? with
  | none =>
      rw [found] at matching
      obtain ⟨-, eq, -⟩ := Act.runs_throw.mp matching
      cases eq
  | some expected =>
      rw [found] at matching
      obtain ⟨same, -, -⟩ := Watch.rejectWhen_ok matching
      have same : host.publicBytes op = expected := by simpa using same
      rw [same]

theorem executionGate_signed {request : ExecuteRequest} {operations : List String} {index : Nat}
    {s s' : SessionRecord host.codec} {t : Trace QuietSig} (planned : PlanAt operations index s)
    (ordinary : request.signedSpeculationOperation = none)
    (run : Act.Runs (executionGate request : Watch host Unit) s t (.ok ()) s') :
    operations[index]? = some (host.publicBytes request.operation) := by
  have stable : Stable (PlanAt operations index : SessionRecord host.codec → Prop) :=
    PlanAt.stable operations index
  obtain ⟨_, _, s₁, _, -, controlled, run₁⟩ := run.bind_ok_inv
  obtain ⟨_, _, s₂, _, -, verified, run₂⟩ := run₁.bind_ok_inv
  obtain ⟨_, _, s₃, _, -, signed, run₃⟩ := run₂.bind_ok_inv
  have planned₁ := requireControl_keeps _ _ _ _ _ _ controlled planned
  have planned₂ := requireIdentity_keeps stable _ _ _ _ verified planned₁
  rw [ordinary] at signed
  exact requireSignedPlanOperation_ok planned₂ signed

/-- The end of an execution moves the plan on, or raises and leaves the record alone. -/
theorem recordReceipt_plan {request : ExecuteRequest} {operations : List String} {index : Nat}
    {s s' : SessionRecord host.codec} {t : Trace QuietSig} {receipt : SessionReceipt}
    {r : Except PyException SessionReceipt} (planned : PlanAt operations index s)
    (run : Act.Runs (recordReceipt request receipt) s t r s') :
    (∃ e, s.receiptHash request.operation (s.annotate receipt) = .error e ∧ t = [] ∧ s' = s) ∨
    PlanAt operations
      (if request.signedSpeculationOperation.isNone && receipt.receipt.actionStartedAtMs.isSome
        then index + 1 else index) s' := by
  rcases recordReceipt_inv run with ⟨e, rejected, rfl, -, rfl⟩ | ⟨hash, -, keeps⟩
  · exact .inl ⟨e, rejected, rfl, rfl⟩
  · exact .inr (keeps _ (PlanAt.stable _ _) (fun s op receipt holds => holds.advanceSpeculations op receipt)
      (planned.recorded (s.annotate receipt) hash))

/-- A dispatch of an ordinary operation that does not move the plan on: something
raises after it, an action of a branch fails, or no receipt is chained. -/
inductive Unconsumed (request : ExecuteRequest) (s : SessionRecord host.codec) (t : Trace RuntimeSig) :
    Prop
  | lost (ordinary : request.signedSpeculationOperation = none) (lost : LostWithin host request t)
  | branch (ordinary : request.signedSpeculationOperation = none) (failed : FailedBranch host request t)
  | unrecorded (ordinary : request.signedSpeculationOperation = none) (dispatched : rights t ≠ [])
      (unrecorded : Unrecorded request s t)

namespace Execution

/-- The execution dispatched an ordinary operation, one of the plan's own steps. -/
def Takes (e : Execution host) : Prop :=
  e.request.signedSpeculationOperation = none ∧ rights e.trace ≠ []

/-- The execution dispatched a step of the plan, or its guard skipped the step. -/
def Consumes (e : Execution host) : Prop :=
  e.request.signedSpeculationOperation = none ∧
    (rights e.trace ≠ [] ∨ SkippedByGuard host e.request e.trace)

/-- The position in the plan that the execution started at. -/
def position (e : Execution host) : Nat := e.before.signedPlanNextIndex

/-- An execution dispatches the next step of the plan, and then has moved it on. -/
theorem plan (e : Execution host) (kept : ¬ Unconsumed e.request e.before e.trace)
    {operations : List String} {index : Nat} (planned : PlanAt operations index e.before) :
    (e.Takes → operations[index]? = some (host.publicBytes e.request.operation)) ∧
      ((PlanAt operations index e.after ∧ ¬ e.Takes) ∨
        (PlanAt operations (index + 1) e.after ∧ e.Consumes)) := by
  have stable : Stable (PlanAt operations index : SessionRecord host.codec → Prop) :=
    PlanAt.stable operations index
  have charged : ∀ (s : SessionRecord host.codec) receipt policy op, PlanAt operations index s →
      PlanAt operations index (s.charge (receiptDispatchCounts receipt policy op)) :=
    fun _ _ _ _ holds => holds.charge _
  rcases e with ⟨request, s, t, r, s', run⟩
  have idle (quiet : rights t = []) (planned' : PlanAt operations index s') :
      (Takes ⟨request, s, t, r, s', run⟩ → operations[index]? = some (host.publicBytes request.operation)) ∧
        ((PlanAt operations index s' ∧ ¬ Takes ⟨request, s, t, r, s', run⟩) ∨
          (PlanAt operations (index + 1) s' ∧ Consumes ⟨request, s, t, r, s', run⟩)) :=
    ⟨fun takes => absurd quiet takes.2, .inl ⟨planned', fun takes => takes.2 quiet⟩⟩
  have whole := run
  unfold executeRequest at whole
  rcases whole.left_bind_inv with ⟨u, e, rfl, -, accessed⟩ | ⟨t₀, _, s₀, rest₀, rfl, accessed, run₁⟩
  · exact idle (rights_map_left u) (access_keeps stable.toSteady _ _ _ _ accessed planned)
  have planned₀ := access_keeps stable.toSteady _ _ _ _ accessed planned
  rcases run₁.left_bind_inv with ⟨u, e, rfl, -, gated⟩ | ⟨t₁, _, s₁, rest₁, rfl, gated, run₂⟩
  · refine idle ?_ (executionGate_keeps stable request _ _ _ _ gated planned₀)
    rw [rights_append, rights_map_left, rights_map_left]
    rfl
  have planned₁ := executionGate_keeps stable request _ _ _ _ gated planned₀
  have sameRights : rights (t₀.map Event.left ++ (t₁.map Event.left ++ rest₁) : Trace RuntimeSig) =
      rights rest₁ := by
    simp only [rights_append, rights_map_left, List.nil_append]
  refine ⟨fun takes => executionGate_signed planned₀ takes.1 gated, ?_⟩
  rcases run₂.bind_inv with ⟨e, -, failed⟩ | ⟨u, receipt, s₂, v, rfl, dispatching, recording⟩
  · -- the request raised, which it does after a dispatch only where no receipt is chained
    refine .inl ⟨dispatchRequest_keeps charged request _ _ _ _ failed planned₁, ?_⟩
    intro takes
    have dispatched : rights rest₁ ≠ [] := sameRights ▸ takes.2
    exact kept (.unrecorded takes.1 takes.2
      (.unlocated rfl accessed gated failed (dispatchRequest_raises failed dispatched)))
  have planned₂ := dispatchRequest_keeps charged request _ _ _ _ dispatching planned₁
  obtain ⟨w, rfl, recorded⟩ := recording.of_left
  rcases recordReceipt_plan planned₂ recorded with ⟨e, rejected, rfl, rfl⟩ | moved
  · refine .inl ⟨planned₂, ?_⟩
    intro takes
    have trace : t₀.map Event.left ++ (t₁.map Event.left ++ (u ++ [].map Event.left)) =
        t₀.map Event.left ++ (t₁.map Event.left ++ u) := by
      rw [List.map_nil, List.append_nil]
    exact kept (.unrecorded takes.1 takes.2 (.unhashed trace accessed gated dispatching rejected))
  have framed : t₀.map Event.left ++ (t₁.map Event.left ++ (u ++ w.map Event.left)) =
      (t₀ ++ t₁).map Event.left ++ (u ++ w.map Event.left) := by
    rw [List.map_append, List.append_assoc]
  have onlyDispatch : rights (t₀.map Event.left ++ (t₁.map Event.left ++ (u ++ w.map Event.left))) =
      rights u := by
    simp only [rights_append, rights_map_left, List.nil_append, List.append_nil]
  cases ordinary : request.signedSpeculationOperation with
  | some bytes =>
      -- an operation of a speculation leaves the plan alone
      rw [ordinary] at moved
      refine .inl ⟨moved, ?_⟩
      intro takes
      cases ordinary.symm.trans takes.1
  | none =>
      rw [ordinary] at moved
      rcases dispatchRequest_started dispatching with ⟨quiet, unstarted⟩ | ⟨started, consumed⟩ |
        lost | failed
      · rw [unstarted] at moved
        exact .inl ⟨moved, fun takes => takes.2 (onlyDispatch.trans quiet)⟩
      · rw [started] at moved
        refine .inr ⟨moved, ordinary, ?_⟩
        rcases consumed with dispatched | skipped
        · exact .inl (onlyDispatch ▸ dispatched)
        · refine .inr ?_
          dsimp only
          rw [framed]
          exact skipped.frame _ _
      · have lostLater := lost.frame (t₀ ++ t₁) w
        rw [← framed] at lostLater
        exact absurd (.lost ordinary lostLater) kept
      · exact absurd (.branch ordinary (failed.congr onlyDispatch)) kept

end Execution

/-! ## Runs -/

/-- The executions of a run pass the plan one after the other. -/
theorem History.walk {operations : List String} {index : Nat} {s s' : SessionRecord host.codec}
    {t : Trace RuntimeSig} {executions : List (Execution host)} (history : History s t executions s')
    (kept : ∀ e ∈ executions, ¬ Unconsumed e.request e.before e.trace)
    (planned : PlanAt operations index s) :
    ∃ last, PlanAt operations last s' ∧
      Walk Execution.position Execution.Takes Execution.Consumes index executions last ∧
      ∀ e ∈ executions, e.Takes →
        operations[e.position]? = some (host.publicBytes e.request.operation) := by
  induction history generalizing index with
  | idle silent idling =>
      refine ⟨index, idling _ (PlanAt.idle operations index) planned, .nil index, ?_⟩
      intro e mem
      cases mem
  | executed e =>
      have here : e.position = index := planned.next
      obtain ⟨signed, moves⟩ := e.plan (kept e (List.mem_singleton_self e)) planned
      have signed' : ∀ e' ∈ [e], e'.Takes →
          operations[e'.position]? = some (host.publicBytes e'.request.operation) := by
        intro e' mem takes
        obtain rfl := List.mem_singleton.mp mem
        rw [here]
        exact signed takes
      rcases moves with ⟨stays, leaves⟩ | ⟨moved, consumes⟩
      · exact ⟨index, stays, .pass here leaves (.nil index), signed'⟩
      · exact ⟨index + 1, moved, .step here consumes (.nil (index + 1)), signed'⟩
  | planned ungoverned run =>
      -- a plan document runs in a session without an envelope only
      have governed := planned.governed
      rw [ungoverned] at governed
      cases governed
  | append first second ihFirst ihSecond =>
      obtain ⟨middle, planned₁, walk₁, signed₁⟩ :=
        ihFirst (fun e mem => kept e (List.mem_append_left _ mem)) planned
      obtain ⟨last, planned₂, walk₂, signed₂⟩ :=
        ihSecond (fun e mem => kept e (List.mem_append_right _ mem)) planned₁
      refine ⟨last, planned₂, walk₁.append walk₂, ?_⟩
      intro e mem
      rcases List.mem_append.mp mem with early | late
      · exact signed₁ e early
      · exact signed₂ e late

/-- The dispatched operations of a plan are the operations at the positions of the
plan, at increasing positions, and each finds the earlier positions consumed. -/
structure InPlanOrder (operations : List String) (executions : List (Execution host)) : Prop where
  signed : ∀ e ∈ executions, e.Takes →
    operations[e.position]? = some (host.publicBytes e.request.operation)
  increasing : executions.Pairwise fun e later => e.Takes → e.position < later.position
  consumed : ∀ before e after, executions = before ++ e :: after → ∀ earlier < e.position,
    ∃ e' ∈ before, e'.position = earlier ∧ e'.Consumes

/-- What `bind_signed_plan_authority` leaves: the session stands before the first
operation of the plan. -/
theorem bindSignedPlanAuthority_installs {request : SignedPlan host.codec}
    {s s' : SessionRecord host.codec} {t : Trace QuietSig}
    (run : Act.Runs (bindSignedPlanAuthority request) s t (.ok ()) s') :
    PlanAt (request.plan.operations.map host.publicBytes) 0 s' := by
  unfold bindSignedPlanAuthority at run
  obtain ⟨_, _, s₁, _, -, -, run₁⟩ := run.bind_ok_inv
  obtain ⟨_, _, s₂, _, -, checked, run₂⟩ := run₁.bind_ok_inv
  have governed : s₂.authorityEnvelope.isSome := by
    unfold checkSignedPlan at checked
    replace checked := checked.get_bind_inv
    obtain ⟨-, checked⟩ := Watch.rejectWhen_bind_ok checked
    obtain ⟨-, checked⟩ := Watch.rejectWhen_bind_ok checked
    obtain ⟨-, checked⟩ := Watch.rejectWhen_bind_ok checked
    obtain ⟨same, checked⟩ := Watch.rejectWhen_bind_ok checked
    obtain ⟨-, checked⟩ := Watch.rejectWhen_bind_ok checked
    obtain ⟨_, rest, rfl, asked⟩ := checked.ask_bind_inv
    obtain ⟨-, asked⟩ := Watch.rejectWhen_bind_ok asked
    obtain ⟨-, -, rfl⟩ := Watch.rejectWhen_ok asked
    rw [Bool.or_eq_false_iff] at same
    simpa using same.1
  rcases run₂.modify_bind_inv.ofExcept_bind_inv with ⟨e, -, -, eq, -⟩ | ⟨speculations, -, run₃⟩
  · cases eq
  · refine touch_keeps (PlanAt.stable _ 0).toSteady _ _ _ _ run₃.modify_bind_inv ?_
    exact ⟨rfl, governed, rfl, rfl⟩

/-- In every run of a session with a signed plan, the executions of which leave no
dispatch without its receipt, the plan is dispatched in its order. -/
theorem signedPlan_in_order {operations : List String} {s s' : SessionRecord host.codec}
    {steps : List (SessionStep host)} (planned : PlanAt operations 0 s)
    (run : SessionRun host s steps s') :
    (∃ executions, History s (steps.flatMap (·.trace)) executions s') ∧
    ∀ executions, History s (steps.flatMap (·.trace)) executions s' →
      (∀ e ∈ executions, ¬ Unconsumed e.request e.before e.trace) →
      InPlanOrder operations executions := by
  refine ⟨run_history run, ?_⟩
  intro executions history kept
  obtain ⟨last, -, walk, signed⟩ := history.walk kept planned
  refine ⟨signed, walk.increasing, ?_⟩
  intro before e after split earlier below
  exact walk.consumed_before split (Nat.zero_le earlier) below

/-! ## Two clicks in order -/

namespace Scenario

/-- Where the browser raises nothing, an unguarded bare operation is consumed. -/
theorem consumed_of_calm {request : ExecuteRequest} {s : SessionRecord scenarioHost.codec}
    {t : Trace RuntimeSig} (bare : request.dispatchOperation.Bare)
    (unguarded : request.dispatchOperation.guard = none) (quiet : ∀ e ∈ t, calm e = true) :
    ¬ Unconsumed request s t := by
  intro unconsumed
  cases unconsumed with
  | lost ordinary lost =>
      obtain ⟨early, executing, rest, rfl, lost⟩ := lost
      refine not_lost_of_calm bare unguarded (fun e mem => quiet e ?_) lost
      exact List.mem_append_right _ (List.mem_append_left _ mem)
  | branch ordinary failed =>
      have branching := failed.1
      unfold Operation.branching at branching
      rw [unguarded] at branching
      cases branching
  | unrecorded ordinary dispatched unrecorded =>
      cases unrecorded with
      | @unlocated t₀ t₁ u s₀ s₁ s₂ e trace accessed gated failed raised =>
          obtain ⟨front, resolved, -, rfl⟩ := raised
          have raises : Event.left (quietEvent .pageUrl (.error e)) ∈ t := by
            rw [trace]
            simp
          cases quiet _ raises
      | unhashed trace accessed gated dispatching rejected => cases rejected

/-- A plan of two clicks, signed for the open policy. -/
def twoClicks : SignedPlan scenarioHost.codec where
  plan := {
    operations := [click "a", click "b"]
    authorityEnvelope := some openPolicy
    validation := ⟨"plan", none⟩
    configDescribed := true
    configEqual := true }
  authority := {
    version := "1", algorithm := "ed25519", planHash := "plan", contractVersion := "1"
    authorityEnvelopeHash := "policy", signerId := "host", issuedAtMs := 0, expiresAtMs := 1000
    nonce := "nonce", signature := "signature" }
  canonicalPlanHash := "plan"

/-- The session in which the two clicks are installed. -/
def planned : SessionRecord scenarioHost.codec :=
  { opened with
    authorityEnvelope := some openPolicy
    signedPlanAuthority := some twoClicks.authority
    signedPlanOperationBytes := twoClicks.plan.operations.map scenarioHost.publicBytes }

/-- A run to which the browser answers calmly, and that dispatches `operations`. -/
def showsDispatches (operations : List String) (steps : List (SessionStep scenarioHost))
    (_ : SessionRecord scenarioHost.codec) : Bool :=
  (steps.all fun step => step.trace.all calm) &&
    (dispatchedOperations (steps.flatMap (·.trace))).map (·.operationId) == operations

end Scenario

open Scenario in
theorem signedPlan_in_order_clicks : ∃ steps s', ∃ executions : List (Execution scenarioHost),
    SessionRun scenarioHost planned steps s' ∧
    (dispatchedOperations (steps.flatMap (·.trace))).map (·.operationId) = ["a", "b"] ∧
    executions.map Execution.request = [{ operation := click "a" }, { operation := click "b" }] ∧
    InPlanOrder ["a", "b"] executions := by
  obtain ⟨steps, s', run, methods, shown⟩ := Component.exists_run (C := sessionComponent scenarioHost)
    script [.executeOperation (click "a") none {}, .executeOperation (click "b") none {}] planned {}
    (showsDispatches ["a", "b"]) (by decide +kernel)
  obtain ⟨calmly, dispatched⟩ := Bool.and_eq_true_iff.mp shown
  have called : (steps.map (·.method)).map SessionCall.request = List.map some
      [({ operation := click "a" } : ExecuteRequest), { operation := click "b" }] := congrArg _ methods
  obtain ⟨executions, history, requests, traces⟩ := run_executions run called
  have kept : ∀ e ∈ executions, ¬ Unconsumed e.request e.before e.trace := by
    intro e mem
    have inRequests := List.mem_map_of_mem (f := Execution.request) mem
    rw [requests] at inRequests
    have inTraces := List.mem_map_of_mem (f := Execution.trace) mem
    rw [traces] at inTraces
    obtain ⟨step, inSteps, sameTrace⟩ := List.mem_map.mp inTraces
    have quiet : ∀ event ∈ e.trace, calm event = true := by
      rw [← sameTrace]
      exact List.all_eq_true.mp (List.all_eq_true.mp calmly step inSteps)
    have isClick : e.request = { operation := click "a" } ∨ e.request = { operation := click "b" } := by
      simpa using inRequests
    rcases isClick with same | same
    · rw [same]
      exact consumed_of_calm ⟨rfl, rfl, rfl, rfl⟩ rfl quiet
    · rw [same]
      exact consumed_of_calm ⟨rfl, rfl, rfl, rfl⟩ rfl quiet
  have start : PlanAt ["a", "b"] 0 planned := ⟨rfl, rfl, rfl, rfl⟩
  exact ⟨steps, s', executions, run, eq_of_beq dispatched, requests,
    (signedPlan_in_order start run).2 executions history kept⟩

/-! ## A step that is dispatched twice -/

namespace Scenario

/-- The first dispatch raises: the page closes while it clicks. -/
def raising : Scenario where
  dispatches := [.error pageClosed]

def showsRepeat (steps : List (SessionStep scenarioHost))
    (s' : SessionRecord scenarioHost.codec) : Bool :=
  (dispatchedOperations (steps.flatMap (·.trace))).map (·.operationId) == ["a", "a", "b"] &&
    s'.signedPlanNextIndex == 2

end Scenario

open Scenario in
/-- The first step of a plan of two clicks is dispatched twice, since its first
dispatch raises. -/
theorem raisingClick_repeats_step : ∃ steps s', SessionRun scenarioHost
      { opened with authorityEnvelope := some openPolicy } steps s' ∧
    steps.map (·.method) = [.bindSignedPlanAuthority twoClicks, .executeOperation (click "a") none {},
      .executeOperation (click "a") none {}, .executeOperation (click "b") none {}] ∧
    twoClicks.plan.operations.map scenarioHost.publicBytes = ["a", "b"] ∧
    (dispatchedOperations (steps.flatMap (·.trace))).map (·.operationId) = ["a", "a", "b"] ∧
    s'.signedPlanNextIndex = 2 := by
  obtain ⟨steps, s', run, methods, shown⟩ := Component.exists_run (C := sessionComponent scenarioHost)
    script [.bindSignedPlanAuthority twoClicks, .executeOperation (click "a") none {},
      .executeOperation (click "a") none {}, .executeOperation (click "b") none {}]
    { opened with authorityEnvelope := some openPolicy } raising showsRepeat (by decide +kernel)
  obtain ⟨dispatched, next⟩ := Bool.and_eq_true_iff.mp shown
  exact ⟨steps, s', run, methods, rfl, eq_of_beq dispatched, eq_of_beq next⟩

end Dingdongditch
