import Dingdongditch.Runtime.Executor

/-!
# What an execution dispatches

The inversion lemmas of the executor.  An execution dispatches the actions of
one branch of a branching guard, each under `branchOperation`, and then at most
once the operation itself (`executeOperation_dispatches`).  A run in which the
operation itself was dispatched can be resumed with any other behaviour of the
environment after the dispatch (`executeOperation_resume`).
-/

namespace Dingdongditch

open Interaction Text

variable {platform : Platform} {op : Operation} {ctx : ExecutionContext} {startedAtMs : Int}

/-- The event of a dispatch with what came of it. -/
abbrev dispatchEvent (op : Operation) (timing : Option PlanTiming)
    (answer : Except PyException ActionDispatchResult) : Event EffectSig :=
  ⟨.dispatch op timing, answer⟩

/-- The actions a branching guard may select from. -/
def OperationGuard.candidateActions (guard : OperationGuard) : List Action :=
  guard.branches.flatMap (·.execute) ++ guard.otherwise.getD []

/-! ## The stages between precondition and verification -/

theorem evaluateBranches_branches {s s' : EvidenceCollector} {t : Trace QuietSig} {started : Int}
    {network : List NetworkRecord} {branches : List GuardBranch} {records : List BranchRecord}
    (run : Act.Runs (evaluateBranches platform op started network branches) s t (.ok records) s') :
    records.map (·.branch) = branches := by
  induction branches generalizing records s s' t with
  | nil =>
      obtain ⟨-, eq, -⟩ := Act.runs_pure.mp run
      cases eq
      rfl
  | cons branch rest ih =>
      unfold evaluateBranches at run
      obtain ⟨_, checkedAt, _, _, -, -, run⟩ := run.bind_ok_inv
      obtain ⟨_, postUrl, _, _, -, -, run⟩ := run.bind_ok_inv
      obtain ⟨_, results, _, _, -, -, run⟩ := run.bind_ok_inv
      obtain ⟨_, tail, _, _, -, loop, run⟩ := run.bind_ok_inv
      obtain ⟨-, eq, -⟩ := Act.runs_pure.mp run
      cases eq
      exact congrArg _ (ih loop)

theorem fail_not_ok {α : Type} {s s' : EvidenceCollector} {t : Trace QuietSig} {failure : Failure}
    {a : α} (run : Act.Runs (fail platform op startedAtMs failure) s t (.ok a) s') : False := by
  unfold fail at run
  obtain ⟨_, failed, _, _, -, -, run⟩ := run.bind_ok_inv
  obtain ⟨-, eq, -⟩ := Act.runs_throw.mp run
  cases eq

/-- The guard selects one of its alternatives. -/
theorem selectBranch_alternative {s s' : EvidenceCollector} {t : Trace QuietSig}
    {guard : OperationGuard} {selection : BranchSelection}
    (run : Act.Runs (selectBranch platform op startedAtMs guard) s t (.ok selection) s') :
    selection.actions ∈ guard.alternatives := by
  unfold selectBranch at run
  obtain ⟨_, started, _, _, -, -, run⟩ := run.bind_ok_inv
  obtain ⟨_, collector, _, _, -, -, run⟩ := run.bind_ok_inv
  obtain ⟨_, records, _, _, -, evaluated, run⟩ := run.bind_ok_inv
  dsimp only at run
  split at run
  · exact (fail_not_ok run).elim
  · split at run
    · exact (fail_not_ok run).elim
    · next branch isSelected =>
        obtain ⟨-, eq, -⟩ := Act.runs_pure.mp run
        cases eq
        have selected : branch ∈ (records.filter (·.matched)).map (·.branch) := by
          rw [isSelected]
          exact List.mem_singleton.mpr rfl
        obtain ⟨record, isMatched, rfl⟩ := List.mem_map.mp selected
        have declared : record.branch ∈ guard.branches := by
          rw [← evaluateBranches_branches evaluated]
          exact List.mem_map.mpr ⟨record, (List.mem_filter.mp isMatched).1, rfl⟩
        exact List.mem_append_left _ (List.mem_map.mpr ⟨record.branch, declared, rfl⟩)
    · next actions _ isOtherwise =>
        obtain ⟨-, eq, -⟩ := Act.runs_pure.mp run
        cases eq
        refine List.mem_append_right _ ?_
        rw [isOtherwise]
        exact List.mem_singleton_self actions
    · exact (fail_not_ok run).elim

theorem OperationGuard.mem_candidateActions {guard : OperationGuard} {actions : List Action}
    (alternative : actions ∈ guard.alternatives) : ∀ action ∈ actions, action ∈ guard.candidateActions := by
  intro action mem
  rcases List.mem_append.mp alternative with inBranches | inOtherwise
  · obtain ⟨branch, declared, rfl⟩ := List.mem_map.mp inBranches
    exact List.mem_append_left _ (List.mem_flatMap.mpr ⟨branch, declared, mem⟩)
  · rw [Option.mem_toList] at inOtherwise
    rw [OperationGuard.candidateActions, inOtherwise]
    exact List.mem_append_right _ mem

/-- The guard selects among the actions it declares. -/
theorem selectBranch_actions {s s' : EvidenceCollector} {t : Trace QuietSig}
    {guard : OperationGuard} {selection : BranchSelection}
    (run : Act.Runs (selectBranch platform op startedAtMs guard) s t (.ok selection) s') :
    ∀ action ∈ selection.actions, action ∈ guard.candidateActions :=
  OperationGuard.mem_candidateActions (selectBranch_alternative run)

/-- A dispatch of one of the actions under the operation's branch form. -/
def IsBranchDispatch (op : Operation) (ctx : ExecutionContext) (actions : List Action)
    (e : Event EffectSig) : Prop :=
  ∃ action ∈ actions, ∃ answer,
    e = dispatchEvent (op.branchOperation action) ctx.planTiming answer

theorem dispatchBranchActions_emits {selection : BranchSelection} {done : List PyVal}
    {actions allowed : List Action} (subset : ∀ action ∈ actions, action ∈ allowed) :
    Act.Emits (IsBranchDispatch op ctx allowed)
      (dispatchBranchActions platform op ctx startedAtMs selection done actions) := by
  induction actions generalizing done with
  | nil => exact Act.emits_pure _
  | cons action rest ih =>
      have head := subset action List.mem_cons_self
      have others : ∀ a ∈ rest, a ∈ allowed := fun a mem => subset a (List.mem_cons_of_mem _ mem)
      unfold dispatchBranchActions
      refine Act.Emits.bind (Act.emits_attempt fun answer => ⟨action, head, answer, rfl⟩) ?_
      intro result
      dsimp only
      split
      · exact Act.Emits.bind (ih others) fun _ => Act.emits_pure _
      · exact Act.emits_left _

/-- A dispatch of the operation itself. -/
def IsPrimaryDispatch (op : Operation) (ctx : ExecutionContext) (e : Event EffectSig) : Prop :=
  ∃ answer, e = dispatchEvent op ctx.planTiming answer

/-- What an execution may dispatch: the operation itself, and the actions of its
branching guard under their branch form. -/
def IsDispatchOf (op : Operation) (ctx : ExecutionContext) (e : Event EffectSig) : Prop :=
  IsPrimaryDispatch op ctx e ∨
    ∃ guard, op.guard = some guard ∧ guard.whenTargetAbsent = none ∧
      IsBranchDispatch op ctx guard.candidateActions e

theorem dispatchPrimary_emits {guard : GuardEvidence} {attempts : List RecoveryAttempt}
    {validation : Option ObservationFreshnessResult} :
    Act.Emits (IsPrimaryDispatch op ctx) (dispatchPrimary op ctx guard attempts validation) :=
  Act.Emits.bind (Act.emits_attempt fun answer => ⟨answer, rfl⟩) fun _ => Act.emits_pure _

theorem act_emits {validation : Option ObservationFreshnessResult} :
    Act.Emits (IsDispatchOf op ctx) (act platform op ctx startedAtMs validation) := by
  have primary : ∀ {evidence attempts}, Act.Emits (IsDispatchOf op ctx)
      (dispatchPrimary op ctx evidence attempts validation) :=
    dispatchPrimary_emits.mono fun _ => .inl
  unfold act
  split
  · exact primary
  · next guard isGuard =>
      split
      · refine Act.Emits.bind (Act.emits_left _) fun outcome => ?_
        split
        · exact primary
        · exact Act.emits_pure _
      · next branching =>
          refine Act.Emits.bind_of (fun selection => ∀ action ∈ selection.actions,
            action ∈ guard.candidateActions) (Act.emits_left _) ?_ fun selection declared => ?_
          · intro s t selection s' run
            obtain ⟨u, -, run⟩ := run.of_left
            exact selectBranch_actions run
          · refine Act.Emits.bind ?_ fun _ => primary
            exact (dispatchBranchActions_emits declared).mono fun e isBranch =>
              .inr ⟨guard, isGuard, branching, isBranch⟩

/-- The dispatches of an execution. -/
theorem executeOperation_emits :
    Act.Emits (IsDispatchOf op ctx) (executeOperation platform op ctx) := by
  have run : ∀ startedAtMs, Act.Emits (IsDispatchOf op ctx)
      (runOperation platform op ctx startedAtMs) := fun startedAtMs =>
    (Act.emits_left _).bind fun _ => (Act.emits_left _).bind fun _ =>
      act_emits.bind fun _ => Act.emits_left _
  unfold executeOperation
  refine (Act.emits_left _).bind fun startedAtMs => ?_
  refine Act.Emits.tryCatch ?_ fun halt => ?_
  · refine (Act.emits_left _).bind fun _ => ?_
    refine Act.Emits.andFinally (Act.Emits.tryCatch (run startedAtMs) fun halt => ?_)
      (Act.emits_left _)
    cases halt with
    | receipt failed => exact Act.emits_pure _
    | raised e => exact (Act.emits_left _).bind fun _ => Act.emits_pure _
  · cases halt with
    | receipt failed => exact Act.emits_pure _
    | raised e => exact Act.emits_throw _

/-! ## The shape of a run -/

theorem branchOperation_ne {guard : OperationGuard} (guarded : op.guard = some guard)
    (action : Action) : op.branchOperation action ≠ op := by
  intro eq
  have unguarded : (op.branchOperation action).guard = none := rfl
  rw [eq, guarded] at unguarded
  cases unguarded

/-- A dispatch of an action that the branching guard of the operation declares. -/
def IsGuardDispatch (op : Operation) (ctx : ExecutionContext) (e : Event EffectSig) : Prop :=
  ∃ guard, op.guard = some guard ∧ guard.whenTargetAbsent = none ∧
    IsBranchDispatch op ctx guard.candidateActions e

theorem IsGuardDispatch.ne {e : Event EffectSig} (isGuard : IsGuardDispatch op ctx e)
    (timing : Option PlanTiming) (answer : Except PyException ActionDispatchResult) :
    e ≠ dispatchEvent op timing answer := by
  obtain ⟨guard, guarded, -, action, -, answer', rfl⟩ := isGuard
  intro eq
  have calls := congrArg (fun e : Event EffectSig => e.1) eq
  exact branchOperation_ne guarded action (EffectCall.dispatch.inj calls).1

theorem runs_dispatchPrimary {s s' : EvidenceCollector} {t : Trace RuntimeSig}
    {guard : GuardEvidence} {attempts : List RecoveryAttempt}
    {validation : Option ObservationFreshnessResult} {r : Except Halt ActionFacts}
    (run : Act.Runs (dispatchPrimary op ctx guard attempts validation) s t r s') :
    ∃ answer, t = [Event.right (dispatchEvent op ctx.planTiming answer)] ∧
      r = (answer.map (primaryFacts op guard attempts validation)).mapError .raised := by
  unfold dispatchPrimary at run
  rcases run.bind_inv with ⟨e, rfl, head⟩ | ⟨first, result, s₁, second, rfl, head, after⟩
  · obtain ⟨answer, rfl, view, -⟩ := Act.runs_attempt.mp head
    refine ⟨answer, rfl, ?_⟩
    cases answer with
    | ok result => cases view
    | error e' => exact congrArg Except.error (Except.error.inj view)
  · obtain ⟨answer, rfl, view, -⟩ := Act.runs_attempt.mp head
    obtain ⟨rfl, rfl, -⟩ := Act.runs_pure.mp after
    refine ⟨answer, rfl, ?_⟩
    cases answer with
    | ok result' =>
        cases view
        rfl
    | error e' => cases view

/-- The ways through the guard and the dispatch: the operation itself was
dispatched last; its guarded target is absent; or a stage ended the execution. -/
inductive ActShape (op : Operation) (ctx : ExecutionContext)
    (validation : Option ObservationFreshnessResult) :
    Trace RuntimeSig → Except Halt ActionFacts → Prop
  | primary (guard : GuardEvidence) (attempts : List RecoveryAttempt) (front : Trace RuntimeSig)
      (answer : Except PyException ActionDispatchResult)
      (branches : ∀ e ∈ rights front, IsGuardDispatch op ctx e)
      (unguarded : op.guard = none → front = []) :
      ActShape op ctx validation
        (front ++ [Event.right (dispatchEvent op ctx.planTiming answer)])
        ((answer.map (primaryFacts op guard attempts validation)).mapError .raised)
  | absent (guard : OperationGuard) (expectations : List Expectation) (started completed : Int)
      (t : Trace RuntimeSig) (guarded : op.guard = some guard)
      (legacy : guard.whenTargetAbsent = some expectations) (quiet : rights t = []) :
      ActShape op ctx validation t (.ok (absentFacts expectations started completed))
  | ended (halt : Halt) (t : Trace RuntimeSig)
      (branches : ∀ e ∈ rights t, IsGuardDispatch op ctx e) :
      ActShape op ctx validation t (.error halt)

theorem act_shape {s s' : EvidenceCollector} {t : Trace RuntimeSig}
    {validation : Option ObservationFreshnessResult} {r : Except Halt ActionFacts}
    (run : Act.Runs (act platform op ctx startedAtMs validation) s t r s') :
    ActShape op ctx validation t r := by
  have noEvent : ∀ {t : Trace RuntimeSig}, rights t = [] →
      ∀ e ∈ rights t, IsGuardDispatch op ctx e := by
    intro t quiet e mem
    rw [quiet] at mem
    cases mem
  unfold act at run
  split at run
  · obtain ⟨answer, rfl, rfl⟩ := runs_dispatchPrimary run
    exact .primary .none [] [] answer (noEvent rfl) fun _ => rfl
  · next guard guarded =>
      have notUnguarded : ∀ {t : Trace RuntimeSig}, op.guard = none → t = [] := by
        intro t unguarded
        rw [guarded] at unguarded
        cases unguarded
      split at run
      · next expectations legacy =>
          rcases run.bind_inv with ⟨halt, rfl, probe⟩ | ⟨first, outcome, s₁, second, rfl, probe, after⟩
          · obtain ⟨u, rfl, -⟩ := probe.of_left
            exact .ended halt _ (noEvent (rights_map_left u))
          · obtain ⟨u, rfl, -⟩ := probe.of_left
            cases outcome with
            | targetPresent =>
                obtain ⟨answer, rfl, rfl⟩ := runs_dispatchPrimary after
                exact .primary .targetPresent [] _ answer (noEvent (rights_map_left u)) notUnguarded
            | targetAbsent started completed =>
                obtain ⟨rfl, rfl, -⟩ := Act.runs_pure.mp after
                rw [List.append_nil]
                exact .absent guard expectations started completed _ guarded legacy
                  (rights_map_left u)
      · next branching =>
          rcases run.bind_inv with ⟨halt, rfl, select⟩ |
            ⟨first, selection, s₁, second, rfl, select, after⟩
          · obtain ⟨u, rfl, -⟩ := select.of_left
            exact .ended halt _ (noEvent (rights_map_left u))
          · obtain ⟨u, rfl, selecting⟩ := select.of_left
            have emits : Act.Emits (IsBranchDispatch op ctx guard.candidateActions)
                (dispatchBranchActions platform op ctx startedAtMs selection [] selection.actions) :=
              dispatchBranchActions_emits (selectBranch_actions selecting)
            have branches : ∀ {s t r s'}, Act.Runs (dispatchBranchActions platform op ctx startedAtMs
                selection [] selection.actions) s t r s' →
                ∀ e ∈ rights (u.map Event.left ++ t), IsGuardDispatch op ctx e := by
              intro s t r s' acting e mem
              rw [rights_append, rights_map_left, List.nil_append] at mem
              exact ⟨guard, guarded, branching, emits s t r s' acting e mem⟩
            rcases after.bind_inv with ⟨halt, rfl, acting⟩ |
              ⟨middle, ⟨records, attempts⟩, s₂, last, rfl, acting, final⟩
            · exact .ended halt _ (branches acting)
            · obtain ⟨answer, rfl, rfl⟩ := runs_dispatchPrimary final
              rw [← List.append_assoc]
              exact .primary _ attempts _ answer (branches acting) notUnguarded

/-- The stages before the guard ran to their end: the checks that touch nothing,
the backend, and the preconditions. -/
structure Entered (platform : Platform) (op : Operation) (ctx : ExecutionContext)
    (s : EvidenceCollector) (startedAtMs : Int) (validation : Option ObservationFreshnessResult)
    (before : Trace QuietSig) (s' : EvidenceCollector) : Prop where
  stages : ∃ t₀ s₀ t₁ s₁ t₂ s₂ t₃, before = t₀ ++ (t₁ ++ (t₂ ++ t₃)) ∧
    Act.Runs Quiet.monotonicMs s t₀ (.ok startedAtMs) s₀ ∧
    Act.Runs (validateRequest platform op ctx startedAtMs) s₀ t₁ (.ok ()) s₁ ∧
    Act.Runs (acquireBackend platform op ctx startedAtMs) s₁ t₂ (.ok ()) s₂ ∧
    Act.Runs (prepare platform op ctx startedAtMs) s₂ t₃ (.ok validation) s'

theorem validateRequest_valid {s s' : EvidenceCollector} {t : Trace QuietSig}
    (run : Act.Runs (validateRequest platform op ctx startedAtMs) s t (.ok ()) s') :
    op.validate = .ok () := by
  unfold validateRequest at run
  obtain ⟨_, _, _, _, -, -, run⟩ := run.bind_ok_inv
  unfold checkContracts at run
  split at run
  · next accepted =>
      unfold validateContracts at accepted
      cases valid : op.validate with
      | ok u => rfl
      | error e =>
          rw [valid] at accepted
          cases accepted
  · split at run
    · exact (fail_not_ok run).elim
    · obtain ⟨-, eq, -⟩ := Act.runs_throw.mp run
      cases eq

theorem Entered.valid {s s' : EvidenceCollector} {validation : Option ObservationFreshnessResult}
    {before : Trace QuietSig}
    (entered : Entered platform op ctx s startedAtMs validation before s') :
    op.validate = .ok () := by
  obtain ⟨_, _, _, _, _, _, _, -, -, valid, -⟩ := entered.stages
  exact validateRequest_valid valid

/-- The two kinds of runs of an execution: it ends before the guard with a
receipt that reports no success, or with an exception; or the guard is reached. -/
inductive ExecutionShape (platform : Platform) (op : Operation) (ctx : ExecutionContext)
    (s : EvidenceCollector) : Trace RuntimeSig → Except Halt ExecutionReceipt → Prop
  | early (t : Trace RuntimeSig) (r : Except Halt ExecutionReceipt) (quiet : rights t = [])
      (failed : ∀ receipt, r = .ok receipt → receipt.verdict ≠ .verified) :
      ExecutionShape platform op ctx s t r
  | reached (startedAtMs : Int) (validation : Option ObservationFreshnessResult)
      (before : Trace QuietSig) (s₁ : EvidenceCollector) (acting : Trace RuntimeSig)
      (facts : Except Halt ActionFacts) (s₂ : EvidenceCollector) (after : Trace RuntimeSig)
      (r : Except Halt ExecutionReceipt)
      (entered : Entered platform op ctx s startedAtMs validation before s₁)
      (acts : Act.Runs (act platform op ctx startedAtMs validation) s₁ acting facts s₂)
      (quiet : rights after = [])
      (reports : ∀ receipt, r = .ok receipt → receipt.verdict = .verified →
        ∃ actionFacts t s₃, facts = .ok actionFacts ∧ t.map Event.left <+: after ∧
          Act.Runs (conclude platform op ctx startedAtMs actionFacts) s₂ t (.ok receipt) s₃) :
      ExecutionShape platform op ctx s (before.map Event.left ++ acting ++ after) r

/-- What is left of an execution once the body of its `try` block has ended. -/
theorem recovery_shape {s s' : EvidenceCollector} {t : Trace RuntimeSig} {halt : Halt}
    {r : Except Halt ExecutionReceipt}
    (run : Act.Runs (recover platform op startedAtMs halt) s t r s') :
    rights t = [] ∧ ∀ receipt, r = .ok receipt → receipt.verdict ≠ .verified := by
  unfold recover at run
  cases halt with
  | receipt failed =>
      obtain ⟨rfl, rfl, -⟩ := Act.runs_pure.mp run
      refine ⟨rfl, fun receipt eq => ?_⟩
      cases eq
      exact failed.unverified
  | raised e =>
      rcases run.bind_inv with ⟨halt, rfl, body⟩ | ⟨first, failed, s₁, second, rfl, body, after⟩
      · obtain ⟨u, rfl, -⟩ := body.of_left
        exact ⟨rights_map_left u, fun receipt eq => by cases eq⟩
      · obtain ⟨u, rfl, -⟩ := body.of_left
        obtain ⟨rfl, rfl, -⟩ := Act.runs_pure.mp after
        refine ⟨by rw [List.append_nil]; exact rights_map_left u, fun receipt eq => ?_⟩
        cases eq
        exact failed.unverified

/-- A run of the `try` body, stage by stage. -/
theorem runOperation_inv {s s' : EvidenceCollector} {t : Trace RuntimeSig}
    {r : Except Halt ExecutionReceipt}
    (run : Act.Runs (runOperation platform op ctx startedAtMs) s t r s') :
    (rights t = [] ∧ ∃ halt, r = .error halt) ∨
      ∃ t₂ s₁ t₃ validation s₂ acting facts s₃ after,
        t = (t₂ ++ t₃).map Event.left ++ acting ++ after.map Event.left ∧
        Act.Runs (acquireBackend platform op ctx startedAtMs) s t₂ (.ok ()) s₁ ∧
        Act.Runs (prepare platform op ctx startedAtMs) s₁ t₃ (.ok validation) s₂ ∧
        Act.Runs (act platform op ctx startedAtMs validation) s₂ acting facts s₃ ∧
        ((∃ halt, facts = .error halt ∧ after = [] ∧ r = .error halt ∧ s' = s₃) ∨
          ∃ known, facts = .ok known ∧
            Act.Runs (conclude platform op ctx startedAtMs known) s₃ after r s') := by
  unfold runOperation at run
  rcases run.left_bind_inv with ⟨u, halt, rfl, rfl, -⟩ | ⟨t₂, _, s₁, _, rfl, acquired, run₁⟩
  · exact .inl ⟨rights_map_left u, halt, rfl⟩
  rcases run₁.left_bind_inv with ⟨u, halt, rfl, rfl, -⟩ | ⟨t₃, validation, s₂, _, rfl, prepared, run₂⟩
  · refine .inl ⟨?_, halt, rfl⟩
    rw [rights_append, rights_map_left, rights_map_left]
    rfl
  refine .inr ?_
  rcases run₂.bind_inv with ⟨halt, rfl, acts⟩ | ⟨acting, facts, s₃, _, rfl, acts, run₃⟩
  · refine ⟨t₂, s₁, t₃, validation, s₂, _, _, s', [], ?_, acquired, prepared, acts,
      .inl ⟨halt, rfl, rfl, rfl, rfl⟩⟩
    rw [List.map_append, List.map_nil, List.append_nil, List.append_assoc]
  · obtain ⟨u, rfl, concludes⟩ := run₃.of_left
    refine ⟨t₂, s₁, t₃, validation, s₂, acting, _, s₃, u, ?_, acquired, prepared, acts,
      .inr ⟨facts, rfl, concludes⟩⟩
    rw [List.map_append, List.append_assoc, List.append_assoc]

theorem runOperation_shape {s s' : EvidenceCollector} {t : Trace RuntimeSig}
    {r : Except Halt ExecutionReceipt}
    (run : Act.Runs (runOperation platform op ctx startedAtMs) s t r s') :
    (rights t = [] ∧ ∃ halt, r = .error halt) ∨
      ∃ t₂ s₁ t₃ validation s₂ acting facts s₃ after,
        t = (t₂ ++ t₃).map Event.left ++ acting ++ after ∧
        Act.Runs (acquireBackend platform op ctx startedAtMs) s t₂ (.ok ()) s₁ ∧
        Act.Runs (prepare platform op ctx startedAtMs) s₁ t₃ (.ok validation) s₂ ∧
        Act.Runs (act platform op ctx startedAtMs validation) s₂ acting facts s₃ ∧
        rights after = [] ∧
        ∀ receipt, r = .ok receipt → ∃ actionFacts u s₄, facts = .ok actionFacts ∧
          u.map Event.left <+: after ∧
          Act.Runs (conclude platform op ctx startedAtMs actionFacts) s₃ u (.ok receipt) s₄ := by
  rcases runOperation_inv run with stopped |
    ⟨t₂, s₁, t₃, validation, s₂, acting, facts, s₃, after, rfl, acquired, prepared, acts, ends⟩
  · exact .inl stopped
  refine .inr ⟨t₂, s₁, t₃, validation, s₂, acting, facts, s₃, _, rfl, acquired, prepared, acts,
    rights_map_left after, ?_⟩
  rintro receipt rfl
  rcases ends with ⟨halt, -, -, eq, -⟩ | ⟨known, isOk, concludes⟩
  · cases eq
  · exact ⟨known, after, _, isOk, List.prefix_rfl, concludes⟩

theorem guardedRun_shape {s s' : EvidenceCollector} {t : Trace RuntimeSig}
    {r : Except Halt ExecutionReceipt}
    (run : Act.Runs (guardedRun platform op ctx startedAtMs) s t r s') :
    (rights t = [] ∧ ∀ receipt, r = .ok receipt → receipt.verdict ≠ .verified) ∨
      ∃ t₂ s₁ t₃ validation s₂ acting facts s₃ after,
        t = (t₂ ++ t₃).map Event.left ++ acting ++ after ∧
        Act.Runs (acquireBackend platform op ctx startedAtMs) s t₂ (.ok ()) s₁ ∧
        Act.Runs (prepare platform op ctx startedAtMs) s₁ t₃ (.ok validation) s₂ ∧
        Act.Runs (act platform op ctx startedAtMs validation) s₂ acting facts s₃ ∧
        rights after = [] ∧
        ∀ receipt, r = .ok receipt → receipt.verdict = .verified →
          ∃ actionFacts u s₄, facts = .ok actionFacts ∧ u.map Event.left <+: after ∧
            Act.Runs (conclude platform op ctx startedAtMs actionFacts) s₃ u (.ok receipt) s₄ := by
  unfold guardedRun at run
  obtain ⟨first, r₁, s₁, second, c, rfl, body, cleanup, isResult⟩ := Act.runs_andFinally.mp run
  obtain ⟨u, rfl, -⟩ := cleanup.of_left
  -- the clean-up keeps the result of the body, or raises
  have kept : ∀ receipt, r = .ok receipt → r₁ = .ok receipt := by
    intro receipt eq
    cases c with
    | ok _ => exact isResult.symm.trans eq
    | error e =>
        rw [isResult] at eq
        cases eq
  have quiet : rights (u.map Event.left : Trace RuntimeSig) = [] := rights_map_left u
  rcases Act.runs_tryCatch.mp body with
    ⟨receipt, rfl, inner⟩ | ⟨t₁, halt, s₂, t₂, rfl, inner, handler⟩
  · rcases runOperation_shape inner with ⟨-, halt, eq⟩ |
      ⟨t₂, sA, t₃, validation, sB, acting, facts, sC, after, rfl, acquired, prepared, acts, silent,
        reports⟩
    · cases eq
    · refine .inr ⟨t₂, sA, t₃, validation, sB, acting, facts, sC, after ++ u.map Event.left, ?_,
        acquired, prepared, acts, ?_, ?_⟩
      · rw [List.append_assoc]
      · rw [rights_append, silent, quiet]
        rfl
      · intro receipt' eq _
        obtain ⟨actionFacts, v, s₄, isOk, inAfter, concludes⟩ := reports receipt' (kept receipt' eq)
        exact ⟨actionFacts, v, s₄, isOk, inAfter.trans (List.prefix_append _ _), concludes⟩
  · obtain ⟨silentHandler, failed⟩ := recovery_shape handler
    have unverified : ∀ receipt, r = .ok receipt → receipt.verdict ≠ .verified :=
      fun receipt eq => failed receipt (kept receipt eq)
    rcases runOperation_shape inner with ⟨silentBody, -⟩ |
      ⟨t₃, sA, t₄, validation, sB, acting, facts, sC, after, rfl, acquired, prepared, acts, silent, -⟩
    · refine .inl ⟨?_, unverified⟩
      rw [rights_append, rights_append, silentBody, silentHandler, quiet]
      rfl
    · refine .inr ⟨t₃, sA, t₄, validation, sB, acting, facts, sC, after ++ (t₂ ++ u.map Event.left),
        ?_, acquired, prepared, acts, ?_, ?_⟩
      · simp only [List.append_assoc]
      · rw [rights_append, rights_append, silent, silentHandler, quiet]
        rfl
      · intro receipt eq verified
        exact absurd verified (unverified receipt eq)

theorem executeOperation_shape {s s' : EvidenceCollector} {t : Trace RuntimeSig}
    {r : Except Halt ExecutionReceipt}
    (run : Act.Runs (executeOperation platform op ctx) s t r s') :
    ExecutionShape platform op ctx s t r := by
  unfold executeOperation at run
  rcases run.bind_inv with ⟨halt, rfl, clock⟩ | ⟨first, startedAtMs, s₀, second, rfl, clock, body⟩
  · obtain ⟨t₀, rfl, -⟩ := clock.of_left
    exact .early _ _ (rights_map_left t₀) fun receipt eq => by cases eq
  · obtain ⟨t₀, rfl, started⟩ := clock.of_left
    have silentClock : rights (t₀.map Event.left : Trace RuntimeSig) = [] := rights_map_left t₀
    have settled : ∀ {s halt t r s'}, Act.Runs (settle halt) s t r s' → t = [] ∧
        ∀ receipt, r = .ok receipt → receipt.verdict ≠ .verified := by
      intro s halt t r s' run
      cases halt with
      | receipt failed =>
          obtain ⟨rfl, rfl, -⟩ := Act.runs_pure.mp run
          refine ⟨rfl, fun receipt eq => ?_⟩
          cases eq
          exact failed.unverified
      | raised e =>
          obtain ⟨rfl, rfl, -⟩ := Act.runs_throw.mp run
          exact ⟨rfl, fun receipt eq => by cases eq⟩
    have entering : ∀ {t r s'}, Act.Runs (do
        Act.left (T := EffectSig) (validateRequest platform op ctx startedAtMs)
        guardedRun platform op ctx startedAtMs) s₀ t r s' →
        ExecutionShape platform op ctx s (t₀.map Event.left ++ t) r ∨
          (rights t = [] ∧ ∃ halt, r = .error halt) := by
      intro t r s' run
      rcases run.bind_inv with ⟨halt, rfl, checking⟩ | ⟨first, _, s₁, rest, rfl, checking, final⟩
      · obtain ⟨t₁, rfl, -⟩ := checking.of_left
        exact .inr ⟨rights_map_left t₁, halt, rfl⟩
      · obtain ⟨t₁, rfl, checked⟩ := checking.of_left
        refine .inl ?_
        rcases guardedRun_shape final with ⟨silent, failed⟩ |
          ⟨t₂, sA, t₃, validation, sB, acting, facts, sC, after, rfl, acquired, prepared, acts,
            silent, reports⟩
        · refine .early _ _ ?_ failed
          rw [rights_append, rights_append, silentClock, rights_map_left, silent]
          rfl
        · have shape := ExecutionShape.reached startedAtMs validation (t₀ ++ (t₁ ++ (t₂ ++ t₃))) sB
            acting facts sC after r
            ⟨⟨t₀, s₀, t₁, s₁, t₂, sA, t₃, rfl, started, checked, acquired, prepared⟩⟩ acts silent
            reports
          simpa only [List.map_append, List.append_assoc] using shape
    rcases Act.runs_tryCatch.mp body with
      ⟨receipt, rfl, inner⟩ | ⟨t₁, halt, s₁, t₂, rfl, inner, handler⟩
    · rcases entering inner with shape | ⟨-, halt, eq⟩
      · exact shape
      · cases eq
    · obtain ⟨rfl, failed⟩ := settled handler
      rw [List.append_nil]
      rcases entering inner with shape | ⟨silent, -⟩
      · generalize (t₀.map Event.left ++ t₁ : Trace RuntimeSig) = whole at shape ⊢
        cases shape with
        | early _ _ silent _ => exact .early _ _ silent failed
        | reached startedAtMs validation before sB acting facts sC after _ entered acts silent _ =>
            exact .reached startedAtMs validation before sB acting facts sC after r entered acts silent
              fun receipt eq verified => absurd verified (failed receipt eq)
      · refine .early _ _ ?_ failed
        rw [rights_append, silentClock, silent]
        rfl

/-- A run that dispatches the operation itself: the branch actions come before,
nothing is dispatched after it. -/
structure PrimaryRun (platform : Platform) (op : Operation) (ctx : ExecutionContext)
    (s : EvidenceCollector) (t : Trace RuntimeSig)
    (answer : Except PyException ActionDispatchResult) where
  startedAtMs : Int
  validation : Option ObservationFreshnessResult
  before : Trace QuietSig
  s₁ : EvidenceCollector
  guard : GuardEvidence
  attempts : List RecoveryAttempt
  front : Trace RuntimeSig
  s₂ : EvidenceCollector
  after : Trace RuntimeSig
  trace : t = before.map Event.left ++
    (front ++ [Event.right (dispatchEvent op ctx.planTiming answer)]) ++ after
  entered : Entered platform op ctx s startedAtMs validation before s₁
  acts : Act.Runs (act platform op ctx startedAtMs validation) s₁
    (front ++ [Event.right (dispatchEvent op ctx.planTiming answer)])
    ((answer.map (primaryFacts op guard attempts validation)).mapError .raised) s₂
  branches : ∀ e ∈ rights front, IsGuardDispatch op ctx e
  unguarded : op.guard = none → front = []
  quiet : rights after = []

namespace PrimaryRun

variable {s : EvidenceCollector} {t : Trace RuntimeSig}
  {answer : Except PyException ActionDispatchResult}

theorem rights_eq (p : PrimaryRun platform op ctx s t answer) : rights t = rights p.front ++ [dispatchEvent op ctx.planTiming answer] := by
  refine (congrArg rights p.trace).trans ?_
  rw [rights_append, rights_append, rights_append, rights_map_left, p.quiet, List.append_nil,
    List.nil_append]
  rfl

/-- The operation itself is dispatched at most once. -/
theorem unique (p : PrimaryRun platform op ctx s t answer) {timing : Option PlanTiming}
    {other : Except PyException ActionDispatchResult} (mem : dispatchEvent op timing other ∈ rights t) :
    dispatchEvent op timing other = dispatchEvent op ctx.planTiming answer := by
  rw [p.rights_eq] at mem
  rcases List.mem_append.mp mem with inFront | isLast
  · exact ((p.branches _ inFront).ne _ _ rfl).elim
  · exact List.mem_singleton.mp isLast

end PrimaryRun

theorem executeOperation_primary {s s' : EvidenceCollector} {t : Trace RuntimeSig}
    {r : Except Halt ExecutionReceipt} {timing : Option PlanTiming}
    {answer : Except PyException ActionDispatchResult}
    (run : Act.Runs (executeOperation platform op ctx) s t r s')
    (mem : dispatchEvent op timing answer ∈ rights t) :
    Nonempty (PrimaryRun platform op ctx s t answer) := by
  have shape := executeOperation_shape run
  cases shape with
  | early _ _ silent _ =>
      rw [silent] at mem
      cases mem
  | reached startedAtMs validation before s₁ acting facts s₂ after _ entered acts quiet _ =>
      have inActing : dispatchEvent op timing answer ∈ rights acting := by
        rw [rights_append, rights_append, rights_map_left, quiet, List.append_nil,
          List.nil_append] at mem
        exact mem
      have shape := act_shape acts
      cases shape with
      | ended halt _ branches => exact ((branches _ inActing).ne _ _ rfl).elim
      | absent _ _ _ _ _ _ _ silent =>
          rw [silent] at inActing
          cases inActing
      | primary guard attempts front answer' branches unguarded =>
          have isLast : dispatchEvent op timing answer =
              dispatchEvent op ctx.planTiming answer' := by
            rw [rights_append] at inActing
            rcases List.mem_append.mp inActing with inFront | isLast
            · exact ((branches _ inFront).ne _ _ rfl).elim
            · exact List.mem_singleton.mp isLast
          cases isLast
          exact ⟨startedAtMs, validation, before, s₁, guard, attempts, front, s₂, after, rfl, entered,
            acts, branches, unguarded, quiet⟩

/-- Every end of the `try` body is the end of some execution. -/
theorem executeOperation_of_body {s s₁ s₂ : EvidenceCollector} {t₀ t₁ : Trace QuietSig}
    {sA : EvidenceCollector} {t : Trace RuntimeSig} {r : Except Halt ExecutionReceipt}
    (started : Act.Runs Quiet.monotonicMs s t₀ (.ok startedAtMs) sA)
    (checked : Act.Runs (validateRequest platform op ctx startedAtMs) sA t₁ (.ok ()) s₁)
    (body : Act.Runs (runOperation platform op ctx startedAtMs) s₁ t r s₂) :
    ∃ rest receipt s₃, rights rest = [] ∧ (∀ a, r = .ok a → receipt = a) ∧
      Act.Runs (executeOperation platform op ctx) s
        ((t₀ ++ t₁).map Event.left ++ t ++ rest) (.ok receipt) s₃ := by
  obtain ⟨handled, receipt, sB, silent, same, attempt⟩ : ∃ u receipt s₃, rights u = [] ∧
      (∀ a, r = .ok a → receipt = a) ∧
      Act.Runs (tryCatch (runOperation platform op ctx startedAtMs)
        (recover platform op startedAtMs)) s₁ (t ++ u) (.ok receipt) s₃ := by
    cases r with
    | ok receipt =>
        refine ⟨[], receipt, s₂, rfl, fun a eq => Except.ok.inj eq, ?_⟩
        rw [List.append_nil]
        exact Act.runs_tryCatch.mpr (.inl ⟨receipt, rfl, body⟩)
    | error halt =>
        cases halt with
        | receipt failed =>
            refine ⟨[], failed.receipt, s₂, rfl, fun a eq => (by cases eq), ?_⟩
            exact Act.runs_tryCatch.mpr
              (.inr ⟨t, _, s₂, [], rfl, body, Act.runs_pure.mpr ⟨rfl, rfl, rfl⟩⟩)
        | raised e =>
            obtain ⟨u, _, s₃, reporting, failed, rfl⟩ :
                Act.Reaches (internalError platform op startedAtMs e) s₂ fun r _ =>
                  ∃ failed, r = .ok failed := by
              unfold internalError failedReceipt
              refine Act.Reaches.bind (Act.Reaches.ask (S := QuietSig) (c := .monotonicMs) (0 : Int)
                ⟨0, rfl, ?_⟩)
              refine Act.Reaches.bind (Act.Reaches.get ⟨_, rfl, ?_⟩)
              exact Act.Reaches.pure ⟨_, rfl⟩
            refine ⟨_, failed.receipt, s₃, rights_map_left (u ++ []), fun a eq => (by cases eq), ?_⟩
            refine Act.runs_tryCatch.mpr (.inr ⟨t, _, s₂, _, rfl, body, ?_⟩)
            rw [List.map_append]
            exact reporting.left.bind (Act.Runs.pure _ _)
  obtain ⟨released, stopping⟩ : ∃ u, Act.Runs (releaseBackend ctx) sB u (.ok ()) sB := by
    unfold releaseBackend
    split
    · exact ⟨[], Act.runs_pure.mpr ⟨rfl, rfl, rfl⟩⟩
    · exact ⟨_, Act.runs_attempt.mpr ⟨.ok (), rfl, rfl, rfl⟩⟩
  have guarded : Act.Runs (guardedRun platform op ctx startedAtMs) s₁ _ (.ok receipt) sB :=
    Act.runs_andFinally.mpr ⟨_, _, _, _, _, rfl, attempt, stopping.left, rfl⟩
  have checkedRun := checked.left (T := EffectSig).bind (f := fun _ =>
    guardedRun platform op ctx startedAtMs) guarded
  have settled : Act.Runs (tryCatch (do
      Act.left (T := EffectSig) (validateRequest platform op ctx startedAtMs)
      guardedRun platform op ctx startedAtMs) settle) sA _ (.ok receipt) sB :=
    Act.runs_tryCatch.mpr (.inl ⟨receipt, rfl, checkedRun⟩)
  have whole := started.left (T := EffectSig).bind (f := fun startedAtMs => tryCatch (do
      Act.left (T := EffectSig) (validateRequest platform op ctx startedAtMs)
      guardedRun platform op ctx startedAtMs) settle) settled
  refine ⟨handled ++ released.map Event.left, receipt, sB, ?_, same, ?_⟩
  · rw [rights_append, silent, rights_map_left, List.append_nil]
  · unfold executeOperation
    simpa only [List.map_append, List.append_assoc] using whole

/-- A run that reached the dispatch, continued by any run of what comes after. -/
theorem executeOperation_resume {s s₁ s₂ s₃ : EvidenceCollector} {before after : Trace QuietSig}
    {acting : Trace RuntimeSig} {validation : Option ObservationFreshnessResult}
    {facts : ActionFacts} {receipt : ExecutionReceipt}
    (entered : Entered platform op ctx s startedAtMs validation before s₁)
    (acts : Act.Runs (act platform op ctx startedAtMs validation) s₁ acting (.ok facts) s₂)
    (concludes : Act.Runs (conclude platform op ctx startedAtMs facts) s₂ after (.ok receipt) s₃) :
    ∃ rest s', rights rest = [] ∧ Act.Runs (executeOperation platform op ctx) s
      (before.map Event.left ++ acting ++ rest) (.ok receipt) s' := by
  obtain ⟨t₀, sA, t₁, sB, t₂, sC, t₃, rfl, started, checked, acquired, prepared⟩ := entered.stages
  have body : Act.Runs (runOperation platform op ctx startedAtMs) sB
      (t₂.map Event.left ++ (t₃.map Event.left ++ (acting ++ after.map Event.left)))
      (.ok receipt) s₃ :=
    acquired.left.bind (prepared.left.bind (acts.bind concludes.left))
  obtain ⟨rest, other, s', silent, same, run⟩ := executeOperation_of_body started checked body
  cases same receipt rfl
  refine ⟨after.map Event.left ++ rest, s', ?_, ?_⟩
  · rw [rights_append, rights_map_left, silent]
    rfl
  · simpa only [List.map_append, List.append_assoc] using run

/-! ## Runs that reach the dispatch -/

section Reaching

variable {s : EvidenceCollector}

theorem reaches_prepare (facts : ReferenceFacts) (free : op.pagePrecondition = none)
    (shown : isBlankUrl op.url = false) (unlimited : ctx.planTiming = none)
    (fresh : ∀ reference, ctx.observationReference = some reference →
      (validateReference reference facts).fresh = true) :
    Act.Reaches (prepare platform op ctx startedAtMs) s fun r _ =>
      r = .ok (ctx.observationReference.map (validateReference · facts)) := by
  have same : sameDocumentUrl platform.codec op.url.toList op.url.toList = some true := by
    unfold sameDocumentUrl
    rw [if_pos (.inl rfl)]
  have precondition : Act.Reaches (checkPrecondition platform op startedAtMs) s fun r _ =>
      r = .ok () := by
    unfold checkPrecondition
    split
    · unfold evaluatePrecondition
      rw [free]
      refine Act.Reaches.bind (Q := fun r _ => r = .ok ()) (Act.Reaches.bind ?_)
      unfold enterDocument
      refine Act.Reaches.bind (Act.Reaches.attempt (Except.ok op.url) ⟨op.url, rfl, ?_⟩)
      rw [shown]
      refine Act.Reaches.pure ⟨op.url, rfl, ?_⟩
      rw [same]
      exact Act.Reaches.pure ⟨_, rfl, Act.Reaches.pure rfl⟩
    · exact Act.Reaches.pure rfl
  unfold prepare
  refine Act.Reaches.bind (precondition.mono fun _ _ isOk => ⟨(), isOk, ?_⟩)
  refine Act.Reaches.bind (Act.Reaches.mono (P := fun r _ => r = .ok ()) ?_
    fun _ _ isOk => ⟨(), isOk, ?_⟩)
  · unfold checkPlanDeadline
    rw [unlimited]
    exact Act.Reaches.pure rfl
  · let observation : BackendObservation := ⟨0, "", []⟩
    refine Act.Reaches.bind (Act.Reaches.bind (Act.Reaches.ask (S := QuietSig) (c := .observe)
      observation ⟨_, rfl, ?_⟩))
    refine Act.Reaches.bind (Act.Reaches.modifyGet ⟨_, rfl, ?_⟩)
    refine Act.Reaches.bind (Act.Reaches.modifyGet ⟨_, rfl, ?_⟩)
    refine Act.Reaches.pure ⟨observation, rfl, ?_⟩
    unfold checkObservation
    cases isReference : ctx.observationReference with
    | none => exact Act.Reaches.pure rfl
    | some reference =>
        refine Act.Reaches.bind (Act.Reaches.attempt (Except.ok facts) ⟨facts, rfl, ?_⟩)
        dsimp only
        rw [fresh reference isReference]
        exact Act.Reaches.pure rfl

/-- A started backend that shows the declared document lets a valid operation in. -/
theorem exists_entered (facts : ReferenceFacts) (valid : op.validate = .ok ())
    (provided : ctx.source = .provided) (free : op.pagePrecondition = none)
    (shown : isBlankUrl op.url = false) (unlimited : ctx.planTiming = none)
    (fresh : ∀ reference, ctx.observationReference = some reference →
      (validateReference reference facts).fresh = true) :
    ∃ before s₁, Entered platform op ctx s 0
      (ctx.observationReference.map (validateReference · facts)) before s₁ := by
  have checks : Act.Reaches (validateRequest platform op ctx 0) s fun r _ => r = .ok () := by
    unfold validateRequest checkBrowserConfig
    rw [provided]
    refine Act.Reaches.bind (Act.Reaches.pure ⟨(), rfl, ?_⟩)
    have accepted : validateContracts op ctx = .ok () := by
      unfold validateContracts
      rw [valid, provided]
      rfl
    unfold checkContracts
    rw [accepted]
    exact Act.Reaches.pure rfl
  obtain ⟨t₁, _, s₁, checked, rfl⟩ := checks
  have acquires : Act.Reaches (acquireBackend platform op ctx 0) s₁ fun r _ => r = .ok () := by
    unfold acquireBackend
    rw [provided]
    exact Act.Reaches.bind (Act.Reaches.ask (S := QuietSig) (c := .isStarted) true
      ⟨true, rfl, Act.Reaches.pure rfl⟩)
  obtain ⟨t₂, _, s₂, acquired, rfl⟩ := acquires
  have prepares : Act.Reaches (prepare platform op ctx 0) s₂ fun r _ =>
      r = .ok (ctx.observationReference.map (validateReference · facts)) :=
    reaches_prepare facts free shown unlimited fresh
  obtain ⟨t₃, _, s₃, prepared, rfl⟩ := prepares
  exact ⟨_, s₃, ⟨_, _, t₁, s₁, t₂, s₂, t₃, rfl, Act.Runs.ask (S := QuietSig) (c := .monotonicMs)
    (0 : Int) s, checked, acquired, prepared⟩⟩

theorem reaches_ofExcept_then {α β : Type} {x : Except Halt α} {f : α → Quiet β}
    (rest : ∀ a, Act.Reaches (f a) s fun _ _ => True) :
    Act.Reaches (Act.ofExcept x >>= f) s fun _ _ => True := by
  cases x with
  | ok a => exact Act.Reaches.bind (Act.Reaches.ofExcept ⟨a, rfl, rest a⟩)
  | error e => exact Act.Reaches.bind_throw (Act.Reaches.ofExcept ⟨e, rfl, trivial⟩)

/-- Whatever was dispatched, the rest of an execution may come to an end. -/
theorem reaches_conclude {facts : ActionFacts} :
    Act.Reaches (conclude platform op ctx startedAtMs facts) s fun _ _ => True := by
  let broken : PyException := .valueError ""
  let observation : BackendObservation := ⟨0, "", []⟩
  unfold conclude
  by_cases participates : op.webauthn.isSome = true ∧ facts.actionOk = true ∧
      facts.guardedSkip = false
  · obtain ⟨isSome, ok, acted⟩ := participates
    obtain ⟨request, isRequest⟩ := Option.isSome_iff_exists.mp isSome
    refine Act.Reaches.bind_throw ?_
    unfold participateWebauthn
    rw [isRequest]
    dsimp only
    rw [ok, acted]
    exact Act.Reaches.bind_throw (Act.Reaches.attempt (Except.error broken) ⟨_, rfl, _, rfl, trivial⟩)
  · have skipped : Act.Reaches (participateWebauthn op facts) s fun r _ => r = .ok none := by
      unfold participateWebauthn
      cases isRequest : op.webauthn with
      | none => exact Act.Reaches.pure rfl
      | some request =>
          have idle : (facts.actionOk && !facts.guardedSkip) = false := by
            rw [isRequest] at participates
            simpa using participates
          dsimp only
          rw [idle]
          exact Act.Reaches.pure rfl
    refine Act.Reaches.bind (skipped.mono fun _ s₁ isOk => ⟨none, isOk, ?_⟩)
    refine Act.Reaches.bind (Act.Reaches.bind (Act.Reaches.ask (S := QuietSig) (c := .observe)
      observation ⟨_, rfl, ?_⟩))
    refine Act.Reaches.bind (Act.Reaches.modifyGet ⟨_, rfl, ?_⟩)
    refine Act.Reaches.bind (Act.Reaches.modifyGet ⟨_, rfl, ?_⟩)
    refine Act.Reaches.pure ⟨observation, rfl, ?_⟩
    generalize { facts with actionEvidence := attachWebauthn none facts.actionEvidence } = facts
    by_cases verifies : (facts.actionOk && !facts.activeExpectations.isEmpty) = true
    · refine Act.Reaches.bind_throw ?_
      unfold verify
      refine Act.Reaches.bind (Act.Reaches.get ⟨_, rfl, ?_⟩)
      refine Act.Reaches.bind (Act.Reaches.ask (S := QuietSig) (c := .monotonicMs) (0 : Int)
        ⟨0, rfl, ?_⟩)
      rw [if_pos verifies]
      refine Act.Reaches.bind (Act.Reaches.ask (S := QuietSig) (c := .monotonicMs) (0 : Int)
        ⟨0, rfl, ?_⟩)
      refine Act.Reaches.bind_throw ?_
      have lost : ∀ {s deadline network}, Act.Reaches (pollOnce platform op facts.actionStarted
          deadline facts.activeExpectations network) s fun r _ => ∃ e, r = .error e := by
        intro s deadline network
        refine Act.Reaches.bind (Act.Reaches.ask (S := QuietSig) (c := .monotonicMs) (0 : Int)
          ⟨0, rfl, ?_⟩)
        exact Act.Reaches.bind_throw (Act.Reaches.attempt (Except.error broken) ⟨_, rfl, _, rfl⟩)
      unfold pollExpectations
      exact Act.Reaches.bind_throw (lost.mono fun _ _ ⟨e, isError⟩ => ⟨e, isError, e, rfl, e, rfl, trivial⟩)
    · have silent : ∀ {s}, Act.Reaches (verify platform op ctx facts) s fun r _ =>
          ∃ verification, r = .ok verification := by
        intro s
        unfold verify
        refine Act.Reaches.bind (Act.Reaches.get ⟨_, rfl, ?_⟩)
        refine Act.Reaches.bind (Act.Reaches.ask (S := QuietSig) (c := .monotonicMs) (0 : Int)
          ⟨0, rfl, ?_⟩)
        rw [if_neg verifies]
        exact Act.Reaches.pure ⟨_, rfl⟩
      refine Act.Reaches.bind (silent.mono fun _ s₂ ⟨verification, isOk⟩ =>
        ⟨verification, isOk, ?_⟩)
      refine Act.Reaches.bind (Act.Reaches.get ⟨s₂, rfl, ?_⟩)
      refine reaches_ofExcept_then fun verdict => ?_
      refine reaches_ofExcept_then fun conclusion => ?_
      refine Act.Reaches.bind (Act.Reaches.ask (S := QuietSig) (c := .monotonicMs) (0 : Int)
        ⟨0, rfl, ?_⟩)
      exact Act.Reaches.bind_throw (Act.Reaches.attempt (Except.error broken) ⟨_, rfl, trivial⟩)

/-- An operation without a guard that is let in can be dispatched, with any answer. -/
theorem exists_dispatched {s₁ : EvidenceCollector} {before : Trace QuietSig}
    {validation : Option ObservationFreshnessResult} (unguarded : op.guard = none)
    (entered : Entered platform op ctx s startedAtMs validation before s₁)
    (answer : Except PyException ActionDispatchResult) :
    ∃ t receipt s', Act.Runs (executeOperation platform op ctx) s t (.ok receipt) s' ∧
      rights t = [dispatchEvent op ctx.planTiming answer] := by
  obtain ⟨t₀, sA, t₁, sB, t₂, sC, t₃, rfl, started, checked, acquired, prepared⟩ := entered.stages
  have acts : Act.Runs (act platform op ctx startedAtMs validation) s₁
      [Event.right (dispatchEvent op ctx.planTiming answer)]
      ((answer.map (primaryFacts op .none [] validation)).mapError .raised) s₁ := by
    unfold act
    rw [unguarded]
    have dispatched : Act.Runs (dispatch op ctx.planTiming) s₁
        [Event.right (dispatchEvent op ctx.planTiming answer)] (answer.mapError .raised) s₁ :=
      Act.runs_attempt.mpr ⟨answer, rfl, rfl, rfl⟩
    cases answer with
    | ok result => exact dispatched.bind (Act.Runs.pure _ s₁)
    | error e => exact Prog.Runs.bind dispatched (.done _)
  obtain ⟨u, r, s₂, silent, body⟩ : ∃ u r s₂, rights u = [] ∧
      Act.Runs (runOperation platform op ctx startedAtMs) sB
        ((t₂ ++ t₃).map Event.left ++ [Event.right (dispatchEvent op ctx.planTiming answer)] ++ u)
        r s₂ := by
    have reached : ∀ {u r s₂}, Act.Runs (do
        let facts ← act platform op ctx startedAtMs validation
        Act.left (T := EffectSig) (conclude platform op ctx startedAtMs facts)) s₁
        ([Event.right (dispatchEvent op ctx.planTiming answer)] ++ u) r s₂ →
        Act.Runs (runOperation platform op ctx startedAtMs) sB
          ((t₂ ++ t₃).map Event.left ++ [Event.right (dispatchEvent op ctx.planTiming answer)] ++ u)
          r s₂ := by
      intro u r s₂ rest
      rw [List.map_append, List.append_assoc, List.append_assoc]
      exact acquired.left.bind (prepared.left.bind rest)
    cases answer with
    | ok result =>
        have ends : Act.Reaches (conclude platform op ctx startedAtMs
            (primaryFacts op .none [] validation result)) s₁ fun _ _ => True := reaches_conclude
        obtain ⟨u, r, s₂, concludes, -⟩ := ends
        exact ⟨_, r, s₂, rights_map_left u, reached (acts.bind concludes.left)⟩
    | error e => exact ⟨[], _, s₁, rfl, reached (Prog.Runs.bind acts (.done _))⟩
  obtain ⟨rest, receipt, s', quiet, -, run⟩ := executeOperation_of_body started checked body
  refine ⟨_, receipt, s', run, ?_⟩
  simp only [rights_append, rights_map_left, silent, quiet, List.nil_append, List.append_nil]
  rfl

end Reaching

end Dingdongditch
