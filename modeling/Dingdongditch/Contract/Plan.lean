import Mathlib.Data.List.Dedup
import Dingdongditch.Contract.Operation
import Dingdongditch.Contract.Receipt

/-!
# Ordered plans

The contract of a plan: what a declared plan must satisfy, the record of each
step, how the steps are aggregated into the outcome of the plan, and the checks
a plan receipt makes of itself.
-/

namespace Dingdongditch.Plan

open Text

inductive PlanVerdict
  | verified | notVerified | executionFailed | indeterminate
  deriving DecidableEq, Repr

inductive CompletionStatus
  | completed | stopped | notStarted
  deriving DecidableEq, Repr

inductive PlanFailureKind
  | emptyPlanId | zeroOperations | duplicateOperationIds | invalidOperation | invalidPlanTiming
  | stepStoppedPlan | planDeadlineExpired | unexpectedException
  deriving DecidableEq, Repr

def PlanFailureKind.value : PlanFailureKind → String
  | .emptyPlanId => "empty_plan_id"
  | .zeroOperations => "zero_operations"
  | .duplicateOperationIds => "duplicate_operation_ids"
  | .invalidOperation => "invalid_operation"
  | .invalidPlanTiming => "invalid_plan_timing"
  | .stepStoppedPlan => "step_stopped_plan"
  | .planDeadlineExpired => "plan_deadline_expired"
  | .unexpectedException => "unexpected_exception"

/-- `PlanValidationError`: a `ValueError` with a failure kind. -/
def planValidationError (message : String) (kind : PlanFailureKind) : PyException :=
  ⟨.valueError, message, some kind.value⟩

def MAX_PLAN_OPERATIONS : Nat := 256

def MIN_PLAN_TIMEOUT_MS : Int := 100

def MAX_PLAN_TIMEOUT_MS_CEILING : Int := 3600000

/-- `ExecutionPlan`.  The browser and screenshot configurations and the binding
of the declared speculations enter by the outcome of their own validation. -/
structure ExecutionPlan where
  planId : String
  operations : List Operation
  browserConfig : Declared
  initialPlanTimeoutMs : Option Int := none
  adaptiveTimeoutEnabled : Bool := false
  maxPlanTimeoutMs : Option Int := none
  screenshotConfig : Option Declared := none
  speculativePlans : Declared := ⟨"speculative_plans", none⟩

namespace ExecutionPlan

/-- `_check_budget` -/
def checkBudget (name : String) (value : Option Int) : Except PyException Unit :=
  match value with
  | none => .ok ()
  | some value => do
      rejectIf (value < MIN_PLAN_TIMEOUT_MS) (name ++ " must be >= 100")
      rejectIf (MAX_PLAN_TIMEOUT_MS_CEILING < value) (name ++ " must be <= 3600000")

/-- `_validate_plan_timing` -/
def validatePlanTiming (plan : ExecutionPlan) : Except PyException Unit := do
  checkBudget "initial_plan_timeout_ms" plan.initialPlanTimeoutMs
  checkBudget "max_plan_timeout_ms" plan.maxPlanTimeoutMs
  match plan.adaptiveTimeoutEnabled, plan.initialPlanTimeoutMs, plan.maxPlanTimeoutMs with
  | true, none, _ =>
      rejectIf true "adaptive_timeout_enabled requires initial_plan_timeout_ms"
  | true, some _, none => rejectIf true "adaptive_timeout_enabled requires max_plan_timeout_ms"
  | false, none, some _ =>
      rejectIf true ("max_plan_timeout_ms requires initial_plan_timeout_ms " ++
        "(or enable adaptive_timeout_enabled with both budgets)")
  | _, some initial, some max =>
      rejectIf (max < initial) "max_plan_timeout_ms must be >= initial_plan_timeout_ms"
  | _, _, none => .ok ()

def rejectPlan (bad : Bool) (message : String) (kind : PlanFailureKind) :
    Except PyException Unit :=
  if bad then .error (planValidationError message kind) else .ok ()

/-- `ExecutionPlan.validate` -/
def validate (plan : ExecutionPlan) : Except PyException Unit := do
  let ids := plan.operations.map (·.operationId)
  rejectPlan ((Text.stripBy Text.isSpace plan.planId.toList).isEmpty || 128 < plan.planId.length)
    "plan_id is required and must be non-empty" .emptyPlanId
  rejectPlan plan.operations.isEmpty "plan must declare at least one operation" .zeroOperations
  rejectPlan (MAX_PLAN_OPERATIONS < plan.operations.length)
    "plan may declare at most 256 operations" .invalidOperation
  rejectIf (ids.any (· = "")) "every operation requires a non-empty operation_id"
  rejectPlan (!decide ids.Nodup) "duplicate operation_id values within one plan"
    .duplicateOperationIds
  plan.validatePlanTiming.mapError fun e => planValidationError e.message .invalidPlanTiming
  plan.browserConfig.validate
  (plan.screenshotConfig.elim (.ok ()) Declared.validate)
  plan.operations.forM Operation.validate
  plan.speculativePlans.validate

@[simp] theorem rejectPlan_eq_ok {bad : Bool} {message : String} {kind : PlanFailureKind} :
    rejectPlan bad message kind = .ok () ↔ bad = false := by
  cases bad <;> simp [rejectPlan]

theorem operations_ne_nil {plan : ExecutionPlan} (valid : plan.validate = .ok ()) :
    plan.operations ≠ [] := by
  obtain ⟨_, -, afterId⟩ := bind_eq_ok.mp valid
  obtain ⟨_, declared, -⟩ := bind_eq_ok.mp afterId
  simpa using rejectPlan_eq_ok.mp declared

end ExecutionPlan

/-! ## Steps -/

/-- The session, context and page that a backend or a receipt names. -/
structure PageIds where
  browserSessionId : Option String
  contextId : Option String
  pageId : Option String
  deriving DecidableEq, Repr

/-- The fields of an execution receipt that a plan reads.  `browser` holds the
identifiers of its browser environment, when it has one. -/
structure StepReceipt where
  verdict : Verdict
  failureKind : Option String := none
  startedAtMs : Int
  finishedAtMs : Int
  browser : Option PageIds
  deriving DecidableEq, Repr

/-- `PlanStepRecord` -/
structure PlanStepRecord where
  stepIndex : Nat
  operationId : String
  attempted : Bool
  skipped : Bool
  skipReason : Option String := none
  operationVerdict : Option Verdict := none
  failureKind : Option String := none
  startedAtMs : Option Int := none
  finishedAtMs : Option Int := none
  ids : PageIds := ⟨none, none, none⟩
  receipt : Option StepReceipt := none
  deriving DecidableEq, Repr

namespace PlanStepRecord

/-- The position and the operation that a record is about. -/
def step (record : PlanStepRecord) : Nat × String := (record.stepIndex, record.operationId)

/-- The session and the context that a record names. -/
def session (record : PlanStepRecord) : Option String × Option String :=
  (record.ids.browserSessionId, record.ids.contextId)

def isVerified (record : PlanStepRecord) : Bool := record.operationVerdict = some .verified

end PlanStepRecord

/-- The declared steps of a plan from `fromIndex` on: their positions and operations. -/
def declaredSteps (operations : List Operation) (fromIndex : Nat) : List (Nat × String) :=
  (operations.zipIdx fromIndex).map fun (op, i) => (i, op.operationId)

@[simp] theorem declaredSteps_nil (index : Nat) : declaredSteps [] index = [] := rfl

@[simp] theorem declaredSteps_cons (op : Operation) (rest : List Operation) (index : Nat) :
    declaredSteps (op :: rest) index = (index, op.operationId) :: declaredSteps rest (index + 1) :=
  rfl

@[simp] theorem length_declaredSteps (operations : List Operation) (index : Nat) :
    (declaredSteps operations index).length = operations.length := by
  simp [declaredSteps]

/-! ## Aggregation -/

/-- What `aggregate_plan_outcome` returns. -/
structure PlanOutcome where
  planVerdict : PlanVerdict
  completionStatus : CompletionStatus
  decisiveStepIndex : Option Nat
  decisiveOperationId : Option String
  failureKind : Option String
  deriving DecidableEq, Repr

/-- The verdict of a plan that its last attempted step decides. -/
def PlanVerdict.ofStep : Verdict → PlanVerdict
  | .notVerified => .notVerified
  | .executionFailed => .executionFailed
  | .indeterminate => .indeterminate
  | .verified => .executionFailed

/-- The outcome of a plan whose execution never began. -/
def PlanOutcome.unstarted : PlanOutcome := ⟨.executionFailed, .notStarted, none, none, none⟩

/-- `aggregate_plan_outcome` -/
def aggregatePlanOutcome (steps : List PlanStepRecord) (declaredCount : Nat) (setupFailed : Bool) :
    Except PyException PlanOutcome :=
  if setupFailed || steps.isEmpty then .ok .unstarted
  else
    let attempted := steps.filter (·.attempted)
    match attempted.getLast? with
    | none => .ok .unstarted
    | some last =>
        match last.operationVerdict with
        | none => .error ⟨.assertionError, "", none⟩
        | some verdict =>
            if attempted.length = declaredCount ∧ attempted.all (·.isVerified) then
              .ok ⟨.verified, .completed, none, none, none⟩
            else .ok {
              planVerdict := .ofStep verdict
              completionStatus :=
                if attempted.length = declaredCount ∧ verdict = .verified then .completed
                else .stopped
              decisiveStepIndex := some last.stepIndex
              decisiveOperationId := some last.operationId
              failureKind := some ((last.failureKind.filter (· ≠ "")).getD
                PlanFailureKind.stepStoppedPlan.value) }

/-- The records of a plan: those of the steps it attempted, then those of the
steps it skipped, one for each declared step. -/
structure Covers (operations : List Operation) (attempted skipped : List PlanStepRecord) :
    Prop where
  tried : ∀ record ∈ attempted, record.attempted = true ∧ record.skipped = false
  passedOver : ∀ record ∈ skipped, record.attempted = false ∧ record.skipped = true
  steps : (attempted ++ skipped).map (·.step) = declaredSteps operations 0

namespace Covers

variable {operations : List Operation} {attempted skipped : List PlanStepRecord}

theorem length (covers : Covers operations attempted skipped) :
    attempted.length + skipped.length = operations.length := by
  have counted := congrArg List.length covers.steps
  simpa using counted

theorem filter_attempted (covers : Covers operations attempted skipped) :
    (attempted ++ skipped).filter (·.attempted) = attempted := by
  have kept : attempted.filter (·.attempted) = attempted :=
    List.filter_eq_self.mpr fun record mem => (covers.tried record mem).left
  have dropped : skipped.filter (·.attempted) = [] :=
    List.filter_eq_nil_iff.mpr fun record mem => by simp [(covers.passedOver record mem).left]
  rw [List.filter_append, kept, dropped, List.append_nil]

theorem filter_skipped (covers : Covers operations attempted skipped) :
    (attempted ++ skipped).filter (·.skipped) = skipped := by
  have kept : skipped.filter (·.skipped) = skipped :=
    List.filter_eq_self.mpr fun record mem => (covers.passedOver record mem).right
  have dropped : attempted.filter (·.skipped) = [] :=
    List.filter_eq_nil_iff.mpr fun record mem => by simp [(covers.tried record mem).right]
  rw [List.filter_append, kept, dropped, List.nil_append]

theorem any_unattempted (covers : Covers operations attempted skipped) (whole : skipped = []) :
    (attempted ++ skipped).any (!·.attempted) = false := by
  rw [whole, List.append_nil, List.any_eq_false]
  intro record mem
  simp [(covers.tried record mem).left]

end Covers

/-- The aggregation of the steps of a plan that ran: `VERIFIED` when all of them
were attempted and verified, else decided by the last attempted one. -/
theorem aggregatePlanOutcome_ran {operations : List Operation}
    {attempted skipped : List PlanStepRecord} (covers : Covers operations attempted skipped)
    {last : PlanStepRecord} (isLast : attempted.getLast? = some last) {verdict : Verdict}
    (judged : last.operationVerdict = some verdict)
    (earlier : ∀ record ∈ attempted.dropLast, record.isVerified = true) :
    ∃ outcome, aggregatePlanOutcome (attempted ++ skipped) operations.length false = .ok outcome ∧
      (skipped = [] ∧ verdict = .verified ∧
          outcome = ⟨.verified, .completed, none, none, none⟩ ∨
        (skipped ≠ [] ∨ verdict ≠ .verified) ∧ outcome.planVerdict ≠ .verified ∧
          outcome.completionStatus = .stopped ∧ outcome.decisiveStepIndex = some last.stepIndex) := by
  have nonempty : attempted ≠ [] := by
    rintro rfl
    cases isLast
  have split : attempted.dropLast ++ [last] = attempted := by
    rw [List.getLast?_eq_some_getLast nonempty] at isLast
    rw [← Option.some.inj isLast, List.dropLast_append_getLast]
  have allVerified : attempted.all (·.isVerified) = true ↔ verdict = .verified := by
    rw [← split, List.all_append, List.all_eq_true.mpr earlier]
    simp [PlanStepRecord.isVerified, judged]
  have complete : attempted.length = operations.length ↔ skipped = [] := by
    rw [← covers.length, Nat.left_eq_add, List.length_eq_zero_iff]
  have started : (false || (attempted ++ skipped).isEmpty) = false := by
    cases attempted with
    | nil => exact absurd rfl nonempty
    | cons => rfl
  unfold aggregatePlanOutcome
  simp only [started, covers.filter_attempted, isLast, judged, allVerified, complete]
  by_cases verified : skipped = [] ∧ verdict = .verified
  · exact ⟨_, if_pos verified, .inl ⟨verified.left, verified.right, rfl⟩⟩
  · refine ⟨_, if_neg verified, .inr ⟨?_, ?_, if_neg verified, rfl⟩⟩
    · rwa [not_and_or] at verified
    · cases verdict <;> simp [PlanVerdict.ofStep]

/-! ## Receipts -/

structure PlanReceipt where
  planId : String
  planVerdict : PlanVerdict
  completionStatus : CompletionStatus
  declaredStepCount : Nat
  attemptedStepCount : Nat
  verifiedStepCount : Nat
  skippedStepCount : Nat
  decisiveStepIndex : Option Nat
  decisiveOperationId : Option String
  failureKind : Option String
  startedAtMs : Int
  finishedAtMs : Int
  ids : PageIds
  steps : List PlanStepRecord
  executionError : Option String := none
  deriving DecidableEq, Repr

/-- `PlanReceipt.check_invariants` -/
def PlanReceipt.checkInvariants (r : PlanReceipt) : Except PyException Unit := do
  rejectIf (r.declaredStepCount < r.attemptedStepCount)
    "attempted_step_count exceeds declared_step_count"
  rejectIf (r.attemptedStepCount < r.verifiedStepCount)
    "verified_step_count exceeds attempted_step_count"
  rejectIf (r.declaredStepCount < r.skippedStepCount + r.attemptedStepCount &&
      r.steps.length = r.declaredStepCount)
    "skipped+attempted exceeds declared when steps complete"
  rejectIf (r.planVerdict = .verified && 0 < r.skippedStepCount)
    "plan VERIFIED cannot coexist with skipped steps"
  rejectIf (r.completionStatus = .completed && r.steps.any (!·.attempted))
    "completed cannot coexist with unattempted steps"
  rejectIf (r.completionStatus = .completed && r.decisiveStepIndex.isSome)
    "all-success completed plan must not set decisive step"
  rejectIf (r.completionStatus = .stopped && r.decisiveStepIndex.isNone &&
      r.steps.any (·.attempted))
    "stopped plan with attempted steps requires decisive step"
  let attempted := r.steps.filter (·.attempted)
  rejectIf (!attempted.isEmpty && (attempted.map (·.session)).dedup.length ≠ 1)
    "attempted steps must share browser_session_id/context_id"

/-- The facts about a receipt that `check_invariants` looks at. -/
structure PlanReceipt.Consistent (r : PlanReceipt) : Prop where
  declared : r.skippedStepCount + r.attemptedStepCount ≤ r.declaredStepCount
  counted : r.verifiedStepCount ≤ r.attemptedStepCount
  verified : r.planVerdict = .verified → r.skippedStepCount = 0
  completed : r.completionStatus = .completed →
    r.steps.any (!·.attempted) = false ∧ r.decisiveStepIndex = none
  stopped : r.completionStatus = .stopped → r.decisiveStepIndex.isSome = true
  oneSession : ∃ session, ∀ step ∈ r.steps, step.attempted = true → step.session = session

theorem length_dedup_of_constant {α : Type} [DecidableEq α] {l : List α} {a : α} (nonempty : l ≠ [])
    (constant : ∀ b ∈ l, b = a) : l.dedup.length = 1 := by
  have isReplicate := List.eq_replicate_of_mem constant
  have positive : l.length ≠ 0 := by simpa using nonempty
  rw [isReplicate, List.replicate_dedup positive, List.length_singleton]

theorem PlanReceipt.Consistent.check {r : PlanReceipt} (consistent : r.Consistent) :
    r.checkInvariants = .ok () := by
  obtain ⟨session, same⟩ := consistent.oneSession
  have attempted : ¬ r.declaredStepCount < r.attemptedStepCount := by
    have declared := consistent.declared
    omega
  have within : ¬ r.declaredStepCount < r.skippedStepCount + r.attemptedStepCount := by
    have declared := consistent.declared
    omega
  have counted : ¬ r.attemptedStepCount < r.verifiedStepCount := by
    have counted := consistent.counted
    omega
  have unskipped : (decide (r.planVerdict = .verified) && decide (0 < r.skippedStepCount)) = false := by
    by_cases verified : r.planVerdict = .verified
    · simp [consistent.verified verified]
    · simp [verified]
  have complete : (decide (r.completionStatus = .completed) && r.steps.any (!·.attempted)) = false ∧
      (decide (r.completionStatus = .completed) && r.decisiveStepIndex.isSome) = false := by
    by_cases completed : r.completionStatus = .completed
    · rw [(consistent.completed completed).left, (consistent.completed completed).right]
      simp
    · simp [completed]
  have decisive : (decide (r.completionStatus = .stopped) && r.decisiveStepIndex.isNone &&
      r.steps.any (·.attempted)) = false := by
    by_cases stopped : r.completionStatus = .stopped
    · have isSome := consistent.stopped stopped
      rw [← Option.not_isSome, isSome]
      simp
    · simp [stopped]
  have shared : (!(r.steps.filter (·.attempted)).isEmpty &&
      decide (((r.steps.filter (·.attempted)).map (·.session)).dedup.length ≠ 1)) = false := by
    by_cases none : r.steps.filter (·.attempted) = []
    · rw [none]
      rfl
    · have single : ((r.steps.filter (·.attempted)).map (·.session)).dedup.length = 1 := by
        refine length_dedup_of_constant (by simpa using none) (a := session) ?_
        intro pair mem
        obtain ⟨step, isStep, rfl⟩ := List.mem_map.mp mem
        obtain ⟨isStep, tried⟩ := List.mem_filter.mp isStep
        exact same step isStep tried
      simp [single]
  unfold checkInvariants
  simp only [attempted, within, counted, unskipped, complete.left, complete.right, decisive, shared,
    decide_false, Bool.false_and]
  rfl

end Dingdongditch.Plan
