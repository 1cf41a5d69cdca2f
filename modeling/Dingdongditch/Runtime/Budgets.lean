import Dingdongditch.Contract.Firewall
import Dingdongditch.Runtime.History
import Dingdongditch.Runtime.Reports

/-!
# The budgets of a governed session

The counters of a session against what the session really dispatched.  The
firewall reserves the largest alternative of an operation before it is executed
(`Dispatchable.reserved`), and the receipt of the execution is charged after it
(`Accounted`).  Where every execution of a run is `Accountable`, the counters are
never below the number of dispatches, and these stay within the budgets
(`budgets_bound_dispatches`).
-/

namespace Dingdongditch

open Interaction Text

variable {host : SessionHost}

/-! ## What is dispatched -/

/-- The operation that a dispatch hands to the backend. -/
def EffectCall.operation : EffectCall → Operation
  | .dispatch op _ => op

/-- The operations that are dispatched within a trace, in order. -/
def dispatchedOperations (t : Trace RuntimeSig) : List Operation :=
  (rights t).map fun e => e.1.operation

/-- Their actions. -/
def dispatchedActions (t : Trace RuntimeSig) : List Action :=
  (dispatchedOperations t).map (·.action)

theorem dispatchedActions_append (t u : Trace RuntimeSig) :
    dispatchedActions (t ++ u) = dispatchedActions t ++ dispatchedActions u := by
  simp [dispatchedActions, dispatchedOperations]

theorem dispatchedActions_of_quiet {t : Trace RuntimeSig} (quiet : rights t = []) :
    dispatchedActions t = [] := by
  simp [dispatchedActions, dispatchedOperations, quiet]

theorem dispatchedOperations_congr {t u : Trace RuntimeSig} (same : rights t = rights u) :
    dispatchedOperations t = dispatchedOperations u := by
  unfold dispatchedOperations
  rw [same]

theorem dispatchedActions_congr {t u : Trace RuntimeSig} (same : rights t = rights u) :
    dispatchedActions t = dispatchedActions u := by
  unfold dispatchedActions
  rw [dispatchedOperations_congr same]

theorem AuthorityPolicy.sideEffects_append (policy : AuthorityPolicy) (first second : List Action) :
    policy.sideEffects (first ++ second) = policy.sideEffects first + policy.sideEffects second :=
  List.countP_append

theorem AuthorityPolicy.sideEffects_le_length (policy : AuthorityPolicy) (actions : List Action) :
    policy.sideEffects actions ≤ actions.length :=
  List.countP_le_length

/-! ## What the firewall reserves -/

/-- What one execution of an operation may dispatch when the enclosing action of
a branching guard is not among it. -/
inductive Dispatchable (op : Operation) : List Action → Prop
  | nothing : Dispatchable op []
  | single (single : op.branching = false) : Dispatchable op [op.action]
  | branch {guard : OperationGuard} {alternative actions : List Action}
      (guarded : op.guard = some guard) (branching : guard.whenTargetAbsent = none)
      (mem : alternative ∈ guard.alternatives) (isPrefix : actions <+: alternative) :
      Dispatchable op actions

theorem le_foldl_max {l : List Nat} {a : Nat} (mem : a ∈ l) (start : Nat) : a ≤ l.foldl max start := by
  rw [List.foldl_max]
  cases found : l.max? with
  | none =>
      rw [List.max?_eq_none_iff.mp found] at mem
      cases mem
  | some largest =>
      have bound := (List.max?_eq_some_iff.mp found).2 a mem
      rw [Option.getD_some]
      omega

/-- The scope of a decision covers everything that an execution may dispatch. -/
theorem Dispatchable.covered {op : Operation} {actions : List Action}
    (dispatchable : Dispatchable op actions) (policy : AuthorityPolicy) (some : actions ≠ []) :
    (∀ action ∈ actions, action ∈ (decisionScope policy op).candidateActions) ∧
      actions.length ≤ (decisionScope policy op).maxActions ∧
      policy.sideEffects actions ≤ (decisionScope policy op).maxSideEffects := by
  cases dispatchable with
  | nothing => exact absurd rfl some
  | single single =>
      have scope : decisionScope policy op = ⟨[op.action], 1, policy.sideEffects [op.action]⟩ := by
        unfold decisionScope
        unfold Operation.branching at single
        cases guarded : op.guard with
        | none => rfl
        | some guard =>
            rw [guarded] at single
            have legacy : guard.isLegacyTargetAbsent = true := by simpa using single
            simp only [legacy, if_true]
      rw [scope]
      exact ⟨fun action mem => mem, Nat.le_refl _, Nat.le_refl _⟩
  | @branch guard alternative _ guarded branching mem isPrefix =>
      have notLegacy : guard.isLegacyTargetAbsent = false := by
        unfold OperationGuard.isLegacyTargetAbsent
        rw [branching]
        rfl
      have inside : ∀ action ∈ actions, action ∈ guard.alternatives.flatten := fun action inActions =>
        List.mem_flatten.mpr ⟨alternative, mem, isPrefix.subset inActions⟩
      have candidates : guard.alternatives.flatten ≠ [] := by
        obtain ⟨action, inActions⟩ := List.exists_mem_of_ne_nil _ some
        exact List.ne_nil_of_mem (inside action inActions)
      have scope : decisionScope policy op = ⟨guard.alternatives.flatten,
          (guard.alternatives.map List.length).foldl max 0,
          (guard.alternatives.map policy.sideEffects).foldl max 0⟩ := by
        unfold decisionScope
        rw [guarded]
        have listed : List.isEmpty (guard.branches.map (·.execute) ++ guard.otherwise.toList).flatten =
            false := by
          simpa [OperationGuard.alternatives] using candidates
        simp only [notLegacy, listed, Bool.false_eq_true, if_false, OperationGuard.alternatives]
      rw [scope]
      refine ⟨inside, ?_, ?_⟩
      · have longest := le_foldl_max (List.mem_map_of_mem (f := List.length) mem) 0
        exact isPrefix.length_le.trans longest
      · have most := le_foldl_max (List.mem_map_of_mem (f := policy.sideEffects) mem) 0
        exact (isPrefix.sublist.countP_le).trans most

/-- An authorized decision is within both budgets. -/
theorem decide_within {envelope : AuthorityEnvelope host.codec} {op : Operation} {input : DecisionInput}
    (authorized : (AuthorityFirewall.decide envelope op input).authorized = true) :
    envelope.maxActionCount.any (· ≤ input.actionCount) = false ∧
      (envelope.irreversibleActionTypes.contains op.action.type &&
        envelope.maxSideEffectCount.any (· ≤ input.sideEffectCount)) = false := by
  have permits := authorized_iff_permits.mp (of_decide_eq_true authorized)
  constructor
  · exact any_le_eq_false.mpr permits.actions
  · rcases irreversible : envelope.irreversibleActionTypes.contains op.action.type with _ | _
    · rfl
    · exact any_le_eq_false.mpr (permits.sideEffects (List.contains_iff_mem.mp irreversible))

/-- The numbers of dispatches that the firewall was told when it authorized. -/
structure Reserves (envelope : AuthorityEnvelope host.codec) (scope : DecisionScope)
    (s : SessionRecord host.codec) (action : Action) : Prop where
  actions : ∀ limit, envelope.maxActionCount = some limit →
    s.authorityActionCount + ((scope.maxActions - 1 : Nat) : Int) < limit
  effects : envelope.irreversibleActionTypes.contains action.type = true →
    ∀ limit, envelope.maxSideEffectCount = some limit →
      s.authoritySideEffectCount + ((scope.maxSideEffects - 1 : Nat) : Int) < limit

section Decisions

variable {envelope : AuthorityEnvelope host.codec} {op : Operation} {scope : DecisionScope}
  {s s' : SessionRecord host.codec} {t : Trace QuietSig}

theorem decideCandidate_reserves {action : Action} {decision : FirewallDecision}
    (run : Act.Runs (decideCandidate envelope op scope action) s t (.ok decision) s')
    (authorized : decision.authorized = true) : Reserves envelope scope s action := by
  unfold decideCandidate at run
  replace run := run.get_bind_inv
  obtain ⟨_, url, _, _, -, -, run₁⟩ := run.bind_ok_inv
  obtain ⟨_, now, _, _, -, -, run₂⟩ := run₁.bind_ok_inv
  obtain ⟨_, bytes, _, _, -, -, run₃⟩ := run₂.bind_ok_inv
  obtain ⟨_, _, -, last⟩ := run₃.ask_bind_inv
  obtain ⟨-, eq, -⟩ := Act.runs_pure.mp last
  cases eq
  obtain ⟨withinActions, withinEffects⟩ := decide_within authorized
  constructor
  · intro limit limited
    rw [limited] at withinActions
    simpa using withinActions
  · intro irreversible limit limited
    have sameType : (op.candidate action).action.type = action.type := rfl
    rw [sameType, irreversible, limited] at withinEffects
    simpa using withinEffects

theorem decideCandidates_reserves {actions : List Action} {first : Option FirewallDecision}
    {decision : FirewallDecision}
    (run : Act.Runs (decideCandidates envelope op scope first actions) s t (.ok decision) s')
    (authorized : decision.authorized = true) :
    ∀ action ∈ actions, Reserves envelope scope s action := by
  induction actions generalizing first s t with
  | nil => exact fun _ mem => (List.not_mem_nil mem).elim
  | cons action rest ih =>
      unfold decideCandidates at run
      obtain ⟨_, own, s₁, _, -, decided, loop⟩ := run.bind_ok_inv
      obtain rfl := decideCandidate_keeps (I := (· = s)) _ _ _ _ _ _ _ _ decided rfl
      split at loop
      · next accepted =>
          intro other mem
          rcases List.mem_cons.mp mem with rfl | mem
          · exact decideCandidate_reserves decided accepted
          · exact ih loop other mem
      · next rejected =>
          obtain ⟨-, eq, -⟩ := Act.runs_pure.mp loop
          cases eq
          exact absurd authorized rejected

/-- What an authorized operation may dispatch fits into what is left of the budgets. -/
theorem Dispatchable.reserved {actions : List Action} (dispatchable : Dispatchable op actions)
    {decision : FirewallDecision}
    (run : Act.Runs (firewallDecision envelope op) s t (.ok decision) s')
    (authorized : decision.authorized = true) :
    (actions ≠ [] → ∀ limit, envelope.maxActionCount = some limit →
      s.authorityActionCount + (actions.length : Int) ≤ limit) ∧
    (envelope.sideEffects actions ≠ 0 → ∀ limit, envelope.maxSideEffectCount = some limit →
      s.authoritySideEffectCount + (envelope.sideEffects actions : Int) ≤ limit) := by
  have reserves := decideCandidates_reserves run authorized
  constructor
  · intro some limit limited
    obtain ⟨candidates, longest, -⟩ := dispatchable.covered envelope.toAuthorityPolicy some
    obtain ⟨action, mem⟩ := List.exists_mem_of_ne_nil _ some
    have reserved := (reserves action (candidates action mem)).actions limit limited
    have positive := List.length_pos_iff.mpr some
    omega
  · intro some limit limited
    obtain ⟨action, mem, irreversible⟩ := List.countP_pos_iff.mp (Nat.pos_of_ne_zero some)
    obtain ⟨candidates, -, most⟩ := dispatchable.covered envelope.toAuthorityPolicy
      (List.ne_nil_of_mem mem)
    have reserved := (reserves action (candidates action mem)).effects irreversible limit limited
    have positive := Nat.pos_of_ne_zero some
    omega

end Decisions

/-! ## What a receipt is charged -/

/-- `_receipt_dispatch_counts` of a receipt that reports branch actions. -/
theorem receiptDispatchCounts_of_report {receipt : ExecutionReceipt} {items : List PyVal}
    (reported : (receipt.actionEvidence.getD []).branchReport = some items)
    (policy : AuthorityPolicy) (op : Operation) :
    receiptDispatchCounts receipt policy op =
      (((items.filterMap reportedType).length : Int), ((items.filterMap reportedType).countP
        (fun type => policy.irreversibleActionTypes.any fun t => type.isStr t.value) : Int)) := by
  obtain ⟨guard, hasGuard, hasList⟩ := PyDict.branchReport_eq_some reported
  have isGuard : (receipt.actionEvidence.getD []).get "guard" = .dict guard := by
    simp [PyDict.get, hasGuard]
  have isList : PyDict.get guard "branch_actions" = .list items := by
    simp [PyDict.get, hasList]
  unfold receiptDispatchCounts
  rw [isGuard]
  dsimp only
  rw [isList]
  rfl

/-- `_receipt_dispatch_counts` of a receipt that reports none. -/
theorem receiptDispatchCounts_of_unreported {receipt : ExecutionReceipt}
    (unreported : (receipt.actionEvidence.getD []).branchReport = none)
    (policy : AuthorityPolicy) (op : Operation) :
    receiptDispatchCounts receipt policy op =
      if receipt.actionStartedAtMs.isNone then (0, 0)
      else (1, if policy.irreversibleActionTypes.contains op.action.type then 1 else 0) := by
  unfold receiptDispatchCounts
  cases isGuard : (receipt.actionEvidence.getD []).get "guard" with
  | dict guard =>
      cases isList : PyDict.get guard "branch_actions" with
      | list items =>
          unfold PyDict.branchReport at unreported
          rw [isGuard] at unreported
          dsimp only at unreported
          rw [isList] at unreported
          cases unreported
      | _ =>
          dsimp only
          rw [isList]
  | _ => rfl

theorem receiptDispatchCounts_nonneg (receipt : ExecutionReceipt) (policy : AuthorityPolicy)
    (op : Operation) : 0 ≤ (receiptDispatchCounts receipt policy op).1 ∧
      0 ≤ (receiptDispatchCounts receipt policy op).2 := by
  cases reported : (receipt.actionEvidence.getD []).branchReport with
  | some items =>
      rw [receiptDispatchCounts_of_report reported]
      exact ⟨Int.natCast_nonneg _, Int.natCast_nonneg _⟩
  | none =>
      rw [receiptDispatchCounts_of_unreported reported]
      split
      · exact ⟨Int.le_refl 0, Int.le_refl 0⟩
      · refine ⟨by simp, ?_⟩
        dsimp only
        split
        · simp
        · simp

/-! ## Accountable executions -/

/-- After a dispatch of the execution of a request something raises. -/
def LostWithin (host : SessionHost) (request : ExecuteRequest) (t : Trace RuntimeSig) : Prop :=
  ∃ (early : Trace QuietSig) (executing : Trace RuntimeSig) (rest : Trace QuietSig),
    t = early.map Event.left ++ (executing ++ rest.map Event.left) ∧ Lost host.toPlatform request.dispatchOperation
      (executorContext host request.observationReference)
      { scopeId := request.dispatchOperation.operationId } executing

/-- An execution whose dispatches its receipt accounts for: nothing raises once
something was dispatched, the enclosing action of a branching guard is not
dispatched, and the backend reports no branch actions of its own. -/
structure Accountable (host : SessionHost) (request : ExecuteRequest) (t : Trace RuntimeSig) :
    Prop where
  kept : ¬ LostWithin host request t
  single : ∀ op ∈ dispatchedOperations t, op.branching = false
  unreported : ∀ op timing result, dispatchEvent op timing (.ok result) ∈ rights t →
    (result.actionEvidence.getD []).branchReport = none

/-- The counts of a receipt cover what was dispatched. -/
structure Accounted (policy : AuthorityPolicy) (op : Operation) (t : Trace RuntimeSig)
    (receipt : ExecutionReceipt) : Prop where
  dispatchable : Dispatchable op (dispatchedActions t)
  actions : ((dispatchedActions t).length : Int) ≤ (receiptDispatchCounts receipt policy op).1
  effects : (policy.sideEffects (dispatchedActions t) : Int) ≤
    (receiptDispatchCounts receipt policy op).2

theorem Accounted.of_quiet {policy : AuthorityPolicy} {op : Operation} {t : Trace RuntimeSig}
    {receipt : ExecutionReceipt} (quiet : rights t = []) : Accounted policy op t receipt := by
  obtain ⟨actions, effects⟩ := receiptDispatchCounts_nonneg receipt policy op
  have none := dispatchedActions_of_quiet quiet
  constructor
  · rw [none]
    exact .nothing
  · rw [none]
    exact actions
  · rw [none]
    exact effects

section Executing

variable {platform : Platform} {op : Operation} {ctx : ExecutionContext} {startedAtMs : Int}

/-- What the executor adds to the evidence of its own dispatch leaves a report of
branch actions alone. -/
theorem branchReport_primaryFacts {guard : GuardEvidence} (unbranched : ∀ record, guard ≠ .branches record)
    (validation : Option ObservationFreshnessResult) (result : ActionDispatchResult)
    (status : Option WebauthnStatus) :
    ((attachWebauthn status
      (primaryFacts op guard [] validation result).actionEvidence).getD []).branchReport =
        (result.actionEvidence.getD []).branchReport := by
  have attached : ((guard.attach result.ok result.actionEvidence).getD []).branchReport =
      (result.actionEvidence.getD []).branchReport := by
    cases guard with
    | none => rfl
    | targetPresent =>
        refine PyDict.branchReport_congr (PyDict.get_update_of_not_mem ?_ _)
        simp
    | branches record => exact (unbranched record rfl).elim
  have observed : ((attachObservation validation
      (guard.attach result.ok result.actionEvidence)).getD []).branchReport =
        ((guard.attach result.ok result.actionEvidence).getD []).branchReport := by
    cases validation with
    | none => rfl
    | some v => exact PyDict.branchReport_congr (PyDict.get_set_ne (by decide) _ _)
  have last : ((attachWebauthn status (attachObservation validation
      (guard.attach result.ok result.actionEvidence))).getD []).branchReport =
        ((attachObservation validation
          (guard.attach result.ok result.actionEvidence)).getD []).branchReport := by
    cases status with
    | none => rfl
    | some s => exact PyDict.branchReport_congr (PyDict.get_set_ne (by decide) _ _)
  exact last.trans (observed.trans attached)

/-- An operation without branches is dispatched once, or its target is absent. -/
theorem act_single {s s' : EvidenceCollector} {t : Trace RuntimeSig} {facts : ActionFacts}
    {validation : Option ObservationFreshnessResult} (single : op.branching = false)
    (run : Act.Runs (act platform op ctx startedAtMs validation) s t (.ok facts) s') :
    rights t = [] ∨ ∃ guard result, (∀ record, guard ≠ GuardEvidence.branches record) ∧
      rights t = [dispatchEvent op ctx.planTiming (.ok result)] ∧
      facts = primaryFacts op guard [] validation result := by
  have primary : ∀ {guard s t s'}, (∀ record, guard ≠ GuardEvidence.branches record) →
      Act.Runs (dispatchPrimary op ctx guard [] validation) s t (.ok facts) s' →
      ∃ guard result, (∀ record, guard ≠ GuardEvidence.branches record) ∧
        rights t = [dispatchEvent op ctx.planTiming (.ok result)] ∧
        facts = primaryFacts op guard [] validation result := by
    intro guard s t s' unbranched dispatching
    obtain ⟨answer, rfl, eq⟩ := runs_dispatchPrimary dispatching
    cases answer with
    | ok result => exact ⟨guard, result, unbranched, rfl, Except.ok.inj eq⟩
    | error e => cases eq
  unfold act at run
  split at run
  · exact .inr (primary (by simp) run)
  · next guard guarded =>
      split at run
      · rcases run.left_bind_inv with ⟨u, e, -, eq, -⟩ | ⟨u, outcome, s₁, rest, rfl, -, after⟩
        · cases eq
        rw [rights_append, rights_map_left, List.nil_append]
        cases outcome with
        | targetPresent => exact .inr (primary (by simp) after)
        | targetAbsent started completed =>
            obtain ⟨rfl, -, -⟩ := Act.runs_pure.mp after
            exact .inl rfl
      · next branching =>
          unfold Operation.branching OperationGuard.isLegacyTargetAbsent at single
          rw [guarded, Option.any_some, branching] at single
          cases single

/-- A run that ends in facts dispatched the operation itself, or its guarded
target is absent. -/
theorem act_ok_dispatched {s s' : EvidenceCollector} {t : Trace RuntimeSig} {facts : ActionFacts}
    {validation : Option ObservationFreshnessResult}
    (run : Act.Runs (act platform op ctx startedAtMs validation) s t (.ok facts) s') :
    rights t = [] ∨ op ∈ dispatchedOperations t := by
  have shape := act_shape run
  generalize outcome : (.ok facts : Except Halt ActionFacts) = r at shape
  cases shape with
  | primary guard attempts front answer branches unguarded =>
      refine .inr ?_
      unfold dispatchedOperations
      rw [rights_append, List.map_append]
      exact List.mem_append_right _ (List.mem_singleton_self op)
  | absent guard expectations started completed _ guarded legacy quiet => exact .inl quiet
  | ended halt _ branches => cases outcome

theorem branchEvents_actions (pairs : List (Action × ActionDispatchResult)) {t : Trace RuntimeSig}
    (events : rights t = branchEvents op ctx pairs) : dispatchedActions t = pairs.map (·.1) := by
  unfold dispatchedActions dispatchedOperations
  rw [events, branchEvents, List.map_map, List.map_map]
  rfl

/-- The receipt of a failed branch accounts for every action of it. -/
theorem BranchFailure.accounted (bounds : BoundsEvidence platform) {t : Trace RuntimeSig}
    {receipt : ExecutionReceipt} (failure : BranchFailure platform op ctx t receipt)
    (valid : op.validate = .ok ()) (policy : AuthorityPolicy) : Accounted policy op t receipt := by
  obtain ⟨guard, selection, actions, pairs, guarded, branching, alternative, isPrefix, events, -,
    evidence⟩ := failure.parts
  have dispatched := branchEvents_actions pairs events
  have short : pairs.length ≤ maxEvidenceListItems := by
    have few := OperationGuard.validate_alternatives (Operation.validate_guard valid guarded)
      branching actions alternative
    have within := isPrefix.length_le
    rw [List.length_map] at within
    exact (within.trans few).trans (by decide)
  obtain ⟨items, reported, types⟩ := branchReport_failed bounds selection short
  have published : (receipt.actionEvidence.getD []).branchReport = some items := by
    rw [evidence]
    exact reported
  have counts := receiptDispatchCounts_of_report published policy op
  rw [types] at counts
  refine ⟨.branch guarded branching alternative (dispatched ▸ isPrefix), ?_, ?_⟩
  · rw [counts, dispatched, List.length_map, List.length_map]
  · rw [counts, dispatched]
    refine Int.ofNat_le.mpr ?_
    unfold AuthorityPolicy.sideEffects
    rw [List.countP_map, List.countP_map]
    refine List.countP_mono_left fun pair _ irreversible => ?_
    have listed := List.contains_iff_mem.mp irreversible
    refine List.any_eq_true.mpr ⟨pair.1.type, listed, ?_⟩
    simp [PyVal.isStr]

/-- The receipt of an operation without branches accounts for its dispatch. -/
theorem Reported.accounted (bounds : BoundsEvidence platform) {s s' : EvidenceCollector}
    {t : Trace RuntimeSig} {facts : ActionFacts} {validation : Option ObservationFreshnessResult}
    {receipt : ExecutionReceipt} (reported : Reported platform facts receipt)
    (run : Act.Runs (act platform op ctx startedAtMs validation) s t (.ok facts) s')
    (single : ∀ other ∈ dispatchedOperations t, other.branching = false)
    (unreported : ∀ other timing result, dispatchEvent other timing (.ok result) ∈ rights t →
      (result.actionEvidence.getD []).branchReport = none)
    (policy : AuthorityPolicy) : Accounted policy op t receipt := by
  rcases act_ok_dispatched run with quiet | dispatched
  · exact .of_quiet quiet
  have unbranched := single op dispatched
  rcases act_single unbranched run with quiet | ⟨guard, result, plain, events, rfl⟩
  · exact .of_quiet quiet
  have actions : dispatchedActions t = [op.action] := by
    unfold dispatchedActions dispatchedOperations
    rw [events]
    rfl
  have own := unreported op ctx.planTiming result (by rw [events]; exact List.mem_singleton_self _)
  have silent : (receipt.actionEvidence.getD []).branchReport = none := by
    obtain ⟨status, evidence⟩ := reported.evidence
    have attached : ((attachWebauthn status
        (primaryFacts op guard [] validation result).actionEvidence).getD []).branchReport = _ :=
      branchReport_primaryFacts plain validation result status
    rw [own] at attached
    rw [evidence]
    generalize attachWebauthn status
      (primaryFacts op guard [] validation result).actionEvidence = published at attached ⊢
    cases published with
    | none => rfl
    | some d =>
        cases found : ((some d).map (sanitizeEvidence platform)).getD [] |>.branchReport with
        | none => rfl
        | some items =>
            obtain ⟨before, isBefore⟩ := branchReport_published bounds found
            rw [Option.getD_some, isBefore] at attached
            cases attached
  have counts := receiptDispatchCounts_of_unreported silent policy op
  rw [reported.started, Option.isNone_some, if_neg (by decide)] at counts
  refine ⟨?_, ?_, ?_⟩
  · rw [actions]
    exact .single unbranched
  · rw [actions, counts]
    simp
  · rw [actions, counts]
    simp only [AuthorityPolicy.sideEffects, List.countP_singleton]
    split
    · exact Int.le_refl 1
    · exact Int.le_refl 0

/-- How the executor ends where it is not cut short after a dispatch. -/
theorem executeOperation_accounted (bounds : BoundsEvidence platform) {configMatches : Bool}
    (provided : ctx.source = .provided configMatches) {s s' : EvidenceCollector}
    {t : Trace RuntimeSig} {out : Except Halt ExecutionReceipt}
    (run : Act.Runs (executeOperation platform op ctx) s t out s')
    (kept : ¬ Lost platform op ctx s t)
    (single : ∀ other ∈ dispatchedOperations t, other.branching = false)
    (unreported : ∀ other timing result, dispatchEvent other timing (.ok result) ∈ rights t →
      (result.actionEvidence.getD []).branchReport = none) (policy : AuthorityPolicy) :
    rights t = [] ∨ ∃ receipt, out = .ok receipt ∧ Accounted policy op t receipt := by
  have transfer {u : Trace RuntimeSig} {receipt : ExecutionReceipt} (same : rights t = rights u)
      (accounted : Accounted policy op u receipt) : Accounted policy op t receipt := by
    have actions := dispatchedActions_congr same
    constructor
    · rw [actions]
      exact accounted.dispatchable
    · rw [actions]
      exact accounted.actions
    · rw [actions]
      exact accounted.effects
  cases executeOperation_ending provided run with
  | refused quiet unstarted => exact .inl quiet
  | concluded dispatches entered acts reported =>
      refine .inr ⟨_, rfl, transfer dispatches ?_⟩
      rw [dispatchedOperations_congr dispatches] at single
      rw [dispatches] at unreported
      exact reported.accounted bounds acts single unreported policy
  | failed dispatches entered acts =>
      rcases act_failed acts with quiet | failure
      · exact .inl (dispatches.trans quiet)
      · exact .inr ⟨_, rfl, transfer dispatches (failure.accounted bounds entered.valid policy)⟩
  | lost failed lost => exact absurd lost kept

end Executing

/-! ## The counters -/

/-- The counters of a session governed by `envelope` are not below the numbers of
dispatches and of side effects so far, and these are within the budgets. -/
structure WithinBudgets (envelope : AuthorityEnvelope host.codec) (actions effects : Nat)
    (s : SessionRecord host.codec) : Prop where
  governed : s.authorityEnvelope = some envelope
  counted : (actions : Int) ≤ s.authorityActionCount
  countedEffects : (effects : Int) ≤ s.authoritySideEffectCount
  bounded : ∀ limit, envelope.maxActionCount = some limit → (actions : Int) ≤ limit
  boundedEffects : ∀ limit, envelope.maxSideEffectCount = some limit → (effects : Int) ≤ limit

theorem WithinBudgets.charge {envelope : AuthorityEnvelope host.codec} {actions effects : Nat}
    {s : SessionRecord host.codec} (within : WithinBudgets envelope actions effects s)
    (receipt : ExecutionReceipt) (policy : AuthorityPolicy) (op : Operation) :
    WithinBudgets envelope actions effects (s.charge (receiptDispatchCounts receipt policy op)) := by
  obtain ⟨nonneg, nonnegEffects⟩ := receiptDispatchCounts_nonneg receipt policy op
  have counted := within.counted
  have countedEffects := within.countedEffects
  unfold SessionRecord.charge
  split
  · refine ⟨within.governed, ?_, ?_, within.bounded, within.boundedEffects⟩
    · dsimp only
      omega
    · dsimp only
      omega
  · exact within

theorem WithinBudgets.congr {envelope : AuthorityEnvelope host.codec} {actions effects : Nat}
    (s s' : SessionRecord host.codec) (same : s'.ledger = s.ledger)
    (within : WithinBudgets envelope actions effects s) : WithinBudgets envelope actions effects s' := by
  have sameEnvelope : s'.authorityEnvelope = s.authorityEnvelope :=
    congrArg Ledger.authorityEnvelope same
  have sameCount : s'.authorityActionCount = s.authorityActionCount :=
    congrArg Ledger.authorityActionCount same
  have sameEffects : s'.authoritySideEffectCount = s.authoritySideEffectCount :=
    congrArg Ledger.authoritySideEffectCount same
  refine ⟨?_, ?_, ?_, within.bounded, within.boundedEffects⟩
  · rw [sameEnvelope]
    exact within.governed
  · rw [sameCount]
    exact within.counted
  · rw [sameEffects]
    exact within.countedEffects

theorem WithinBudgets.lasting (envelope : AuthorityEnvelope host.codec) (actions effects : Nat) :
    Lasting fun s : SessionRecord host.codec => WithinBudgets envelope actions effects s :=
  .of_ledger WithinBudgets.congr (fun _ receipt policy op within => within.charge receipt policy op)
    fun _ _ _ _ within _ =>
      ⟨within.governed, within.counted, within.countedEffects, within.bounded, within.boundedEffects⟩

/-- The operations that stand for a request differ from it in what the firewall
and the accounts do not read. -/
structure Operation.SameShape (op op' : Operation) : Prop where
  guard : op'.guard = op.guard
  action : op'.action = op.action

theorem ExecuteRequest.governedOperation_shape (request : ExecuteRequest) :
    request.operation.SameShape request.governedOperation := by
  unfold governedOperation
  split
  · exact ⟨rfl, rfl⟩
  · split
    · exact ⟨rfl, rfl⟩
    · exact ⟨rfl, rfl⟩

theorem ExecuteRequest.dispatchOperation_shape (request : ExecuteRequest) :
    request.operation.SameShape request.dispatchOperation := by
  unfold dispatchOperation
  split
  · exact ⟨rfl, rfl⟩
  · exact request.governedOperation_shape

theorem Dispatchable.congr {op op' : Operation} (same : op.SameShape op') {actions : List Action}
    (dispatchable : Dispatchable op actions) : Dispatchable op' actions := by
  cases dispatchable with
  | nothing => exact .nothing
  | single single =>
      rw [← same.action]
      refine .single ?_
      unfold Operation.branching
      rw [same.guard]
      exact single
  | branch guarded branching mem isPrefix =>
      exact .branch (same.guard.trans guarded) branching mem isPrefix

theorem Operation.SameShape.symm {op op' : Operation} (same : op.SameShape op') : op'.SameShape op :=
  ⟨same.guard.symm, same.action.symm⟩

theorem receiptDispatchCounts_congr {op op' : Operation} (same : op.SameShape op')
    (receipt : ExecutionReceipt) (policy : AuthorityPolicy) :
    receiptDispatchCounts receipt policy op' = receiptDispatchCounts receipt policy op := by
  unfold receiptDispatchCounts
  rw [same.action]

/-- The charge of an accounted dispatch that the firewall reserved. -/
theorem WithinBudgets.dispatched {envelope : AuthorityEnvelope host.codec} {actions effects : Nat}
    {s : SessionRecord host.codec} (within : WithinBudgets envelope actions effects s)
    {op : Operation} {t : Trace RuntimeSig} {receipt : ExecutionReceipt}
    (accounted : Accounted envelope.toAuthorityPolicy op t receipt)
    (reserved : dispatchedActions t ≠ [] → ∀ limit, envelope.maxActionCount = some limit →
      s.authorityActionCount + ((dispatchedActions t).length : Int) ≤ limit)
    (reservedEffects : envelope.sideEffects (dispatchedActions t) ≠ 0 →
      ∀ limit, envelope.maxSideEffectCount = some limit →
        s.authoritySideEffectCount + (envelope.sideEffects (dispatchedActions t) : Int) ≤ limit) :
    WithinBudgets envelope (actions + (dispatchedActions t).length)
      (effects + envelope.sideEffects (dispatchedActions t))
      (s.charge (receiptDispatchCounts receipt envelope.toAuthorityPolicy op)) := by
  have counted := within.counted
  have countedEffects := within.countedEffects
  have charged := accounted.actions
  have chargedEffects := accounted.effects
  have fewer := envelope.sideEffects_le_length (dispatchedActions t)
  have governed : (s.charge (receiptDispatchCounts receipt envelope.toAuthorityPolicy
      op)).authorityEnvelope = some envelope := (within.charge _ _ _).governed
  refine ⟨governed, ?_, ?_, ?_, ?_⟩
  · unfold SessionRecord.charge
    split
    · push_cast
      omega
    · push_cast
      omega
  · unfold SessionRecord.charge
    split
    · push_cast
      omega
    · push_cast
      omega
  · intro limit limited
    by_cases none : dispatchedActions t = []
    · rw [none]
      exact within.bounded limit limited
    · have bound := reserved none limit limited
      push_cast
      omega
  · intro limit limited
    by_cases none : envelope.sideEffects (dispatchedActions t) = 0
    · rw [none]
      exact within.boundedEffects limit limited
    · have bound := reservedEffects none limit limited
      push_cast
      omega

/-- One execution keeps the session within its budgets. -/
theorem executeRequest_budgeted (bounds : BoundsEvidence host.toPlatform) {request : ExecuteRequest}
    {s s' : SessionRecord host.codec} {t : Trace RuntimeSig} {r : Except PyException SessionReceipt}
    (run : Act.Runs (executeRequest request) s t r s') (accountable : Accountable host request t)
    {envelope : AuthorityEnvelope host.codec} {actions effects : Nat}
    (within : WithinBudgets envelope actions effects s) :
    WithinBudgets envelope (actions + (dispatchedActions t).length)
      (effects + envelope.sideEffects (dispatchedActions t)) s' := by
  have idle (quiet : rights t = []) : WithinBudgets envelope (actions + (dispatchedActions t).length)
      (effects + envelope.sideEffects (dispatchedActions t)) s' := by
    rw [dispatchedActions_of_quiet quiet]
    exact executeRequest_keeps (WithinBudgets.lasting envelope actions effects) request _ _ _ _ run within
  cases executeRequest_run run with
  | stopped silent => exact idle silent.rights_eq
  | @executed s₀ s₁ _ t₀ t₁ entry rest executing out _ decision accessed gated authorized executed
      continues =>
      have onlyExecuting : ∀ u : Trace QuietSig, rights (u.map Event.left ++
          (executing ++ rest.map Event.left)) = rights executing := by
        intro u
        simp only [rights_append, rights_map_left, List.nil_append, List.append_nil]
      have sameRights := onlyExecuting (t₀ ++ (t₁ ++ entry))
      have sameOperations := dispatchedOperations_congr sameRights
      obtain ⟨-, result, c, inner, rfl⟩ := runExecutor_inv executed
      have kept : ¬ Lost host.toPlatform request.dispatchOperation
          (executorContext host request.observationReference)
          { scopeId := request.dispatchOperation.operationId } executing := fun lost =>
        accountable.kept ⟨_, executing, rest, rfl, lost⟩
      have single : ∀ other ∈ dispatchedOperations executing, other.branching = false := fun other mem =>
        accountable.single other (sameOperations.symm ▸ mem)
      have unreported : ∀ other timing result, dispatchEvent other timing (.ok result) ∈
          rights executing → (result.actionEvidence.getD []).branchReport = none :=
        fun other timing result mem => accountable.unreported other timing result (sameRights.symm ▸ mem)
      rcases executeOperation_accounted bounds (rfl : (executorContext host
          request.observationReference).source = .provided true) inner kept single unreported
          envelope.toAuthorityPolicy with quiet | ⟨receipt, rfl, accounted⟩
      · exact idle (sameRights.trans quiet)
      have stable := (WithinBudgets.lasting envelope actions effects).toStable
      have within₁ := executionGate_keeps stable request _ _ _ _ gated
        (access_keeps stable.toSteady _ _ _ _ accessed within)
      have governed := within₁.governed
      obtain ⟨-, early, decided, verdict, -, accepted, firewall⟩ := authorized envelope governed
      have shape := request.dispatchOperation_shape.symm
      have dispatchable : Dispatchable request.governedOperation (dispatchedActions executing) :=
        (accounted.dispatchable.congr shape).congr request.governedOperation_shape
      obtain ⟨reserved, reservedEffects⟩ := dispatchable.reserved firewall accepted
      have charged := within₁.dispatched accounted reserved reservedEffects
      rw [← receiptDispatchCounts_congr shape] at charged
      rw [dispatchedActions_congr sameRights]
      have recording : Act.Runs (chargeDispatch envelope request.operation
          { receipt, authorityDecision := decision } >>= recordReceipt request) s₁ rest r s' := by
        rw [governed] at continues
        exact continues
      rcases recording.bind_inv with ⟨e, -, charging⟩ | ⟨u, total, s₂, v, -, charging, recorded⟩
      · rw [chargeDispatch_charges charging]
        exact charged
      · obtain rfl := chargeDispatch_charges charging
        exact recordReceipt_keeps (WithinBudgets.lasting envelope _ _) request total _ _ _ _ recorded charged

/-! ## Runs -/

/-- A valid policy declares no negative budget. -/
theorem AuthorityEnvelope.limits_nonneg (envelope : AuthorityEnvelope host.codec) :
    (∀ limit, envelope.maxActionCount = some limit → 0 ≤ limit) ∧
      ∀ limit, envelope.maxSideEffectCount = some limit → 0 ≤ limit := by
  have valid := envelope.valid
  unfold AuthorityPolicy.validate at valid
  simp only [bind_eq_ok] at valid
  obtain ⟨_, -, _, -, _, -, _, -, _, -, _, -, _, -, _, -, _, -, _, -, _, -, _, -, _, actions, _,
    effects, -⟩ := valid
  have nonneg : ∀ {field : String} {value : Option Int},
      AuthorityPolicy.validateLimit field value = .ok () →
      ∀ limit, value = some limit → 0 ≤ limit := by
    rintro field value checked limit rfl
    have within := rejectIf_eq_ok.mp checked
    simpa using within
  exact ⟨nonneg actions, nonneg effects⟩

theorem History.budgeted (bounds : BoundsEvidence host.toPlatform) {s s' : SessionRecord host.codec}
    {t : Trace RuntimeSig} {executions : List (Execution host)} (history : History s t executions s')
    (accountable : ∀ e ∈ executions, Accountable host e.request e.trace)
    {envelope : AuthorityEnvelope host.codec} {actions effects : Nat}
    (within : WithinBudgets envelope actions effects s) :
    WithinBudgets envelope (actions + (dispatchedActions t).length)
      (effects + envelope.sideEffects (dispatchedActions t)) s' := by
  induction history generalizing actions effects with
  | idle silent idling =>
      rw [dispatchedActions_of_quiet silent.rights_eq]
      exact idling _ (.of_ledger WithinBudgets.congr) within
  | executed e =>
      exact executeRequest_budgeted bounds e.run (accountable e (List.mem_singleton_self e)) within
  | planned ungoverned run =>
      -- a plan runs in a session without an envelope only
      have governed := within.governed
      rw [ungoverned] at governed
      cases governed
  | append first second ihFirst ihSecond =>
      have middle := ihFirst (fun e mem => accountable e (List.mem_append_left _ mem)) within
      have last := ihSecond (fun e mem => accountable e (List.mem_append_right _ mem)) middle
      rw [dispatchedActions_append, envelope.sideEffects_append, List.length_append,
        ← Nat.add_assoc, ← Nat.add_assoc]
      exact last

/-- In every run of a governed session whose counters start at zero, the executions
of which are accountable, the counters are never below the numbers of dispatches
and of irreversible dispatches, and these stay within the budgets. -/
theorem budgets_bound_dispatches (bounds : BoundsEvidence host.toPlatform)
    {s s' : SessionRecord host.codec} {steps : List (SessionStep host)}
    (run : SessionRun host s steps s') {envelope : AuthorityEnvelope host.codec}
    (governed : s.authorityEnvelope = some envelope) (unspent : s.authorityActionCount = 0)
    (unspentEffects : s.authoritySideEffectCount = 0) :
    (∃ executions, History s (steps.flatMap (·.trace)) executions s') ∧
    ∀ executions, History s (steps.flatMap (·.trace)) executions s' →
      (∀ e ∈ executions, Accountable host e.request e.trace) →
      WithinBudgets envelope (dispatchedActions (steps.flatMap (·.trace))).length
        (envelope.sideEffects (dispatchedActions (steps.flatMap (·.trace)))) s' := by
  refine ⟨run_history run, ?_⟩
  intro executions history accountable
  obtain ⟨actionsNonneg, effectsNonneg⟩ := envelope.limits_nonneg
  have start : WithinBudgets envelope 0 0 s := by
    refine ⟨governed, ?_, ?_, actionsNonneg, effectsNonneg⟩
    · rw [unspent]
      rfl
    · rw [unspentEffects]
      rfl
  have last := history.budgeted bounds accountable start
  rwa [Nat.zero_add, Nat.zero_add] at last

/-! ## A click within its budget -/

/-- An execution of a bare operation is accountable where the browser raises nothing. -/
theorem accountable_of_calm {request : ExecuteRequest} {t : Trace RuntimeSig}
    (bare : request.dispatchOperation.Bare) (unguarded : request.dispatchOperation.guard = none)
    (quiet : ∀ e ∈ t, calm e = true)
    (single : ∀ op ∈ dispatchedOperations t, op.branching = false) : Accountable host request t := by
  refine ⟨?_, single, ?_⟩
  · rintro ⟨early, executing, rest, rfl, lost⟩
    refine not_lost_of_calm bare unguarded (fun e mem => quiet e ?_) lost
    exact List.mem_append_right _ (List.mem_append_left _ mem)
  · intro op timing result mem
    have noEvidence := quiet _ (mem_rights.mp mem)
    have isNone : result.actionEvidence = none := Option.isNone_iff_eq_none.mp noEvidence
    rw [isNone]
    rfl

namespace Scenario

/-- A policy that allows one action. -/
def oneAction : AuthorityEnvelope scenarioHost.codec where
  policyId := "host-policy"
  maxActionCount := some 1
  valid := by decide +kernel

/-- The run of `execute_operation` calls to which the browser answers calmly. -/
def showsCalm (dispatches : Nat) (steps : List (SessionStep scenarioHost))
    (_ : SessionRecord scenarioHost.codec) : Bool :=
  (steps.all fun step => step.trace.all calm &&
    (dispatchedOperations step.trace).all fun op => !op.branching) &&
  (dispatchedActions (steps.flatMap (·.trace))).length == dispatches

theorem scenarioHost_bounds : BoundsEvidence scenarioHost.toPlatform :=
  ⟨asciiCodec_lawful, fun _ text => text, rfl, fun _ => rfl⟩

end Scenario

open Scenario in
theorem budgets_bound_dispatches_click : ∃ steps s', SessionRun scenarioHost
      { opened with authorityEnvelope := some oneAction } steps s' ∧
    (dispatchedActions (steps.flatMap (·.trace))).length = 1 ∧ 1 ≤ s'.authorityActionCount := by
  obtain ⟨steps, s', run, methods, shown⟩ := Component.exists_run (C := sessionComponent scenarioHost)
    script [.executeOperation (click "a") none {}]
    { opened with authorityEnvelope := some oneAction } {} (showsCalm 1) (by decide +kernel)
  obtain ⟨calmly, dispatched⟩ := Bool.and_eq_true_iff.mp shown
  have count : (dispatchedActions (steps.flatMap (·.trace))).length = 1 := eq_of_beq dispatched
  have called : (steps.map (·.method)).map SessionCall.request =
      List.map some [({ operation := click "a" } : ExecuteRequest)] := congrArg _ methods
  obtain ⟨executions, history, requests, traces⟩ := run_executions run called
  have accountable : ∀ e ∈ executions, Accountable scenarioHost e.request e.trace := by
    intro e mem
    have isClick : e.request = { operation := click "a" } := by
      have inRequests := List.mem_map_of_mem (f := Execution.request) mem
      rw [requests] at inRequests
      exact List.mem_singleton.mp inRequests
    have inTraces := List.mem_map_of_mem (f := Execution.trace) mem
    rw [traces] at inTraces
    obtain ⟨step, inSteps, sameTrace⟩ := List.mem_map.mp inTraces
    have isCalm := List.all_eq_true.mp calmly step inSteps
    obtain ⟨quiet, single⟩ := Bool.and_eq_true_iff.mp isCalm
    rw [isClick, ← sameTrace]
    refine accountable_of_calm ⟨rfl, rfl, rfl, rfl⟩ rfl (List.all_eq_true.mp quiet) ?_
    intro op dispatchedOp
    simpa using List.all_eq_true.mp single op dispatchedOp
  have installed : SessionRecord.authorityEnvelope
      { opened with authorityEnvelope := some oneAction } = some oneAction := rfl
  have within := (budgets_bound_dispatches scenarioHost_bounds run installed rfl rfl).2
    executions history accountable
  refine ⟨steps, s', run, count, ?_⟩
  have counted := within.counted
  rw [count] at counted
  exact counted

/-! ## A guarded click that exceeds its budget -/

namespace Scenario

/-- A click with a guard whose only branch clicks as well. -/
def guardedClick (operationId : String) : Operation :=
  let condition : Expectation := {
    type := .elementVisible
    locator := some { strategy := .css, value := "#banner" }
    visible := some true }
  { click operationId with
    guard := some {
      branches := [{ branchId := "banner", when_ := [condition], execute := [(click operationId).action] }] } }

/-- The run of one guarded click: two dispatches, one of which is charged. -/
def showsOverdraft (steps : List (SessionStep scenarioHost))
    (s' : SessionRecord scenarioHost.codec) : Bool :=
  (dispatchedActions (steps.flatMap (·.trace))).length == 2 && s'.authorityActionCount == 1

end Scenario

open Scenario in
/-- A budget of one action does not stop a guarded click from dispatching two: the
enclosing action of the guard is neither reserved nor charged. -/
theorem guardedClick_exceeds_budget : ∃ steps s', SessionRun scenarioHost
      { opened with authorityEnvelope := some oneAction } steps s' ∧
    steps.map (·.method) = [.executeOperation (guardedClick "a") none {}] ∧
    oneAction.maxActionCount = some 1 ∧
    (dispatchedActions (steps.flatMap (·.trace))).length = 2 ∧ s'.authorityActionCount = 1 := by
  obtain ⟨steps, s', run, methods, shown⟩ := Component.exists_run (C := sessionComponent scenarioHost)
    script [.executeOperation (guardedClick "a") none {}]
    { opened with authorityEnvelope := some oneAction } {} showsOverdraft (by decide +kernel)
  obtain ⟨dispatched, counted⟩ := Bool.and_eq_true_iff.mp shown
  exact ⟨steps, s', run, methods, rfl, eq_of_beq dispatched, eq_of_beq counted⟩

end Dingdongditch
