import Dingdongditch.Contract.Plan
import Dingdongditch.Runtime.Scenario

/-!
# Ordered plan execution

`_execute_plan` drives one backend through the operations of a plan.  The clock,
the backend and `execute_operation` are the environment: a step may come back
with any receipt or raise anything.

The loop leaves one record for each step it attempted and one for each step it
skipped (`Attempts`); the aggregation and the invariants of the receipt are read
off these two lists.
-/

namespace Dingdongditch.Plan

open Interaction

/-- What `_execute_plan` asks of the clock, of the backend and of `execute_operation`. -/
inductive PlanCall
  | monotonicMs
  /-- `PlaywrightBackend(…)`, when no backend was supplied. -/
  | newBackend
  /-- Whether the supplied backend has the browser configuration of the plan. -/
  | sameConfiguration
  | start
  | identifiers
  | executeOperation (index : Nat) (op : Operation)
  | stop

def PlanCall.Answer : PlanCall → Type
  | .monotonicMs => Int
  | .newBackend => Except PyException Unit
  | .sameConfiguration => Bool
  | .start => Except PyException Unit
  | .identifiers => PageIds
  | .executeOperation .. => Except PyException StepReceipt
  | .stop => Unit

def PlanSig : Sig := ⟨PlanCall, PlanCall.Answer⟩

/-- A part of `_execute_plan`. -/
abbrev Execution (α : Type) : Type := Act PlanSig Unit PyException α

def monotonicMs : Execution Int := Act.ask (S := PlanSig) .monotonicMs

/-- `_skipped_records` -/
def skippedRecords (plan : ExecutionPlan) (fromIndex : Nat) (reason : String) :
    List PlanStepRecord :=
  (declaredSteps (plan.operations.drop fromIndex) fromIndex).map fun (i, operationId) => {
    stepIndex := i
    operationId
    attempted := false
    skipped := true
    skipReason := some reason }

/-- The arguments of `_build_receipt`; the backend only shows in `ids`. -/
structure ReceiptInput where
  steps : List PlanStepRecord
  startedAt : Int
  finishedAt : Int
  setupFailed : Bool
  ids : PageIds := ⟨none, none, none⟩
  executionError : Option String := none
  failureKindOverride : Option String := none

/-- The receipt that `_build_receipt` fills in from an outcome. -/
def receiptOf (plan : ExecutionPlan) (input : ReceiptInput) (outcome : PlanOutcome) : PlanReceipt :=
  let attempted := input.steps.filter (·.attempted)
  { planId := plan.planId
    planVerdict := outcome.planVerdict
    completionStatus := outcome.completionStatus
    declaredStepCount := plan.operations.length
    attemptedStepCount := attempted.length
    verifiedStepCount := (attempted.filter (·.isVerified)).length
    skippedStepCount := (input.steps.filter (·.skipped)).length
    decisiveStepIndex := outcome.decisiveStepIndex
    decisiveOperationId := outcome.decisiveOperationId
    failureKind := (input.failureKindOverride.filter (· ≠ "")).orElse fun _ => outcome.failureKind
    startedAtMs := input.startedAt
    finishedAtMs := input.finishedAt
    ids := input.ids
    steps := input.steps
    executionError := input.executionError }

/-- `_build_receipt` -/
def buildReceipt (plan : ExecutionPlan) (input : ReceiptInput) : Except PyException PlanReceipt := do
  let outcome ← aggregatePlanOutcome input.steps plan.operations.length input.setupFailed
  let receipt := receiptOf plan input outcome
  receipt.checkInvariants
  return receipt

/-- The receipt of a plan whose setup failed: every step is skipped. -/
def setupFailure (plan : ExecutionPlan) (startedAt : Int) (backend : Bool) (reason error : String)
    (kind : Option String) : Execution PlanReceipt := do
  let finishedAt ← monotonicMs
  let ids ← if backend then Act.ask (S := PlanSig) .identifiers else pure ⟨none, none, none⟩
  Act.ofExcept <| buildReceipt plan {
    steps := skippedRecords plan 0 reason
    startedAt
    finishedAt
    setupFailed := true
    ids
    executionError := some error
    failureKindOverride := kind }

/-- Run `call`, and turn a `BrowserConfigError` into a failed setup. -/
def settingUp (plan : ExecutionPlan) (startedAt : Int) (backend : Bool)
    (answer : Except PyException Unit) (next : Execution PlanReceipt) : Execution PlanReceipt :=
  match answer with
  | .ok () => next
  | .error e =>
      if e.type = .browserConfigError then
        setupFailure plan startedAt backend "browser_setup_failed" e.message e.failureKind
      else throw e

/-! ## The steps -/

/-- `reported or fallback`, for an identifier a receipt may lack. -/
def reportedOr (reported fallback : Option String) : Option String :=
  (reported.filter (· ≠ "")).orElse fun _ => fallback

/-- The identifiers of a step: those its receipt reports, else those of the session. -/
def stepIds (session : PageIds) (browser : Option PageIds) : PageIds :=
  let env := browser.getD ⟨none, none, none⟩
  { browserSessionId := reportedOr env.browserSessionId session.browserSessionId
    contextId := reportedOr env.contextId session.contextId
    pageId := reportedOr env.pageId session.pageId }

/-- The record of a step that returned a receipt. -/
def attemptedRecord (session : PageIds) (index : Nat) (op : Operation) (receipt : StepReceipt) :
    PlanStepRecord where
  stepIndex := index
  operationId := op.operationId
  attempted := true
  skipped := false
  operationVerdict := some receipt.verdict
  failureKind := receipt.failureKind
  startedAtMs := some receipt.startedAtMs
  finishedAtMs := some receipt.finishedAtMs
  ids := stepIds session receipt.browser
  receipt := some receipt

/-- The record of a step that raised. -/
def raisedRecord (session : PageIds) (index : Nat) (op : Operation) (startedAt finishedAt : Int) :
    PlanStepRecord where
  stepIndex := index
  operationId := op.operationId
  attempted := true
  skipped := false
  operationVerdict := some .executionFailed
  failureKind := some PlanFailureKind.unexpectedException.value
  startedAtMs := some startedAt
  finishedAtMs := some finishedAt
  ids := session

/-- The variables that the loop over the operations assigns. -/
structure Progress where
  steps : List PlanStepRecord := []
  executionError : Option String := none
  failureKindOverride : Option String := none

/-- `STOPPING_VERDICTS` -/
def stopping (verdict : Verdict) : Bool := verdict ≠ .verified

/-- The loop over the operations, from the position `index` on. -/
def runSteps (plan : ExecutionPlan) (session : PageIds) (index : Nat) :
    List Operation → Progress → Execution Progress
  | [], progress => return progress
  | op :: rest, progress => do
      let answer ← Act.ask (S := PlanSig) (.executeOperation index op)
      let skipped := skippedRecords plan (index + 1) "prior_step_prevented_execution"
      match (answer : Except PyException StepReceipt) with
      | .error exc => do
          let startedAt ← monotonicMs
          let finishedAt ← monotonicMs
          return {
            steps := progress.steps ++ raisedRecord session index op startedAt finishedAt :: skipped
            executionError := some exc.describe
            failureKindOverride := some PlanFailureKind.unexpectedException.value }
      | .ok receipt =>
          let progress := { progress with
            steps := progress.steps ++ [attemptedRecord session index op receipt]
            failureKindOverride :=
              if receipt.failureKind = some "plan_deadline_expired" then
                some PlanFailureKind.planDeadlineExpired.value
              else progress.failureKindOverride }
          if stopping receipt.verdict then return { progress with steps := progress.steps ++ skipped }
          else runSteps plan session (index + 1) rest progress

/-- The part of `_execute_plan` on a backend that was created or supplied. -/
def runOnBackend (plan : ExecutionPlan) (startedAt : Int) : Execution PlanReceipt := do
  let answer ← Act.ask (S := PlanSig) .start
  settingUp plan startedAt true answer do
    let session ← Act.ask (S := PlanSig) .identifiers
    let progress ← runSteps plan session 0 plan.operations {}
    let finishedAt ← monotonicMs
    let ids ← Act.ask (S := PlanSig) .identifiers
    Act.ofExcept <| buildReceipt plan {
      steps := progress.steps
      startedAt
      finishedAt
      setupFailed := false
      ids
      executionError := progress.executionError
      failureKindOverride := progress.failureKindOverride }

/-- `_execute_plan`; `supplied` says whether the caller brought the backend. -/
def executePlan (plan : ExecutionPlan) (supplied : Bool) : Execution PlanReceipt := do
  let startedAt ← monotonicMs
  match plan.validate with
  | .error e =>
      if e.type = .browserConfigError then
        setupFailure plan startedAt false "plan_validation_failed" e.message e.failureKind
      else if e.type = .valueError then
        setupFailure plan startedAt false "plan_validation_failed" e.message
          (some (e.failureKind.getD PlanFailureKind.invalidOperation.value))
      else throw e
  | .ok () =>
      if supplied then do
        let same ← Act.ask (S := PlanSig) .sameConfiguration
        if !(same : Bool) then
          setupFailure plan startedAt true "browser_configuration_mismatch"
            "supplied backend configuration does not match plan.browser_config"
            (some "contradictory_browser_config")
        else runOnBackend plan startedAt
      else do
        let created ← Act.ask (S := PlanSig) .newBackend
        settingUp plan startedAt false created
          ((runOnBackend plan startedAt).andFinally (Act.ask (S := PlanSig) .stop))

/-! ## What the steps leave -/

/-- A call of `execute_operation` with what came back. -/
structure StepEvent where
  index : Nat
  op : Operation
  outcome : Except PyException StepReceipt

namespace StepEvent

/-- A step that raised counts as `EXECUTION_FAILED`. -/
def verdict (event : StepEvent) : Verdict :=
  match event.outcome with
  | .ok receipt => receipt.verdict
  | .error _ => .executionFailed

/-- The session and the context that a step reports, or else those of the session. -/
def session (event : StepEvent) (ids : PageIds) : Option String × Option String :=
  let ids := match event.outcome with
    | .ok receipt => stepIds ids receipt.browser
    | .error _ => ids
  (ids.browserSessionId, ids.contextId)

/-- The record `_execute_plan` makes of a step. -/
structure RecordedAs (session : PageIds) (event : StepEvent) (record : PlanStepRecord) : Prop where
  step : record.step = (event.index, event.op.operationId)
  attempted : record.attempted = true
  skipped : record.skipped = false
  verdict : record.operationVerdict = some event.verdict
  session : record.session = event.session session

end StepEvent

/-- The calls of `execute_operation` in a trace. -/
def attempts (t : Trace PlanSig) : List StepEvent :=
  t.filterMap fun event => match event with
    | ⟨.executeOperation index op, outcome⟩ => some ⟨index, op, outcome⟩
    | _ => none

@[simp] theorem attempts_append (t u : Trace PlanSig) :
    attempts (t ++ u) = attempts t ++ attempts u :=
  List.filterMap_append

/-- `Attempts session index operations events records`: from the position `index`
on, `events` are the calls of a run that stops at the first failing step, and
`records` is what it leaves of them. -/
inductive Attempts (session : PageIds) :
    Nat → List Operation → List StepEvent → List PlanStepRecord → Prop
  | finished (index : Nat) : Attempts session index [] [] []
  | stopped {index : Nat} {op : Operation} {rest : List Operation}
      {outcome : Except PyException StepReceipt} {record : PlanStepRecord}
      (recorded : StepEvent.RecordedAs session ⟨index, op, outcome⟩ record)
      (failing : (⟨index, op, outcome⟩ : StepEvent).verdict ≠ .verified) :
      Attempts session index (op :: rest) [⟨index, op, outcome⟩] [record]
  | continued {index : Nat} {op : Operation} {rest : List Operation} {events : List StepEvent}
      {outcome : Except PyException StepReceipt} {record : PlanStepRecord}
      {records : List PlanStepRecord}
      (recorded : StepEvent.RecordedAs session ⟨index, op, outcome⟩ record)
      (passing : (⟨index, op, outcome⟩ : StepEvent).verdict = .verified)
      (later : Attempts session (index + 1) rest events records) :
      Attempts session index (op :: rest) (⟨index, op, outcome⟩ :: events) (record :: records)

namespace Attempts

variable {session : PageIds} {index : Nat} {operations : List Operation} {events : List StepEvent}
  {records : List PlanStepRecord}

theorem length_le (h : Attempts session index operations events records) :
    records.length ≤ operations.length := by
  induction h with
  | finished => simp
  | stopped => simp
  | continued _ _ _ ih => simp only [List.length_cons]; omega

theorem ne_nil (h : Attempts session index operations events records)
    (declared : operations ≠ []) : records ≠ [] := by
  cases h with
  | finished => exact absurd rfl declared
  | stopped => simp
  | continued => simp

/-- The records are about the first declared steps, in order. -/
theorem steps (h : Attempts session index operations events records) :
    records.map (·.step) = declaredSteps (operations.take records.length) index := by
  induction h with
  | finished => rfl
  | stopped recorded => simp [recorded.step]
  | continued recorded _ _ ih => simp [recorded.step, ih]

/-- Each record states the verdict of its step. -/
theorem recorded (h : Attempts session index operations events records) :
    records.map (fun record => (record.step, record.operationVerdict)) =
      events.map fun event => ((event.index, event.op.operationId), some event.verdict) := by
  induction h with
  | finished => rfl
  | stopped recorded => simp [recorded.step, recorded.verdict]
  | continued recorded _ _ ih => simp [recorded.step, recorded.verdict, ih]

theorem forall_record {P : PlanStepRecord → Prop} (h : Attempts session index operations events records)
    (holds : ∀ event ∈ events, ∀ record, StepEvent.RecordedAs session event record → P record) :
    ∀ record ∈ records, P record := by
  induction h with
  | finished =>
      intro record mem
      cases mem
  | stopped recorded =>
      intro record mem
      obtain rfl := List.mem_singleton.mp mem
      exact holds _ (List.mem_singleton_self _) _ recorded
  | continued recorded _ _ ih =>
      intro record mem
      rcases List.mem_cons.mp mem with rfl | later
      · exact holds _ List.mem_cons_self _ recorded
      · exact ih (fun event mem => holds event (List.mem_cons_of_mem _ mem)) record later

end Attempts

/-- Every step but the last one was `VERIFIED`. -/
theorem Attempts.earlier {session : PageIds} {index : Nat} {operations : List Operation}
    {events : List StepEvent} {records : List PlanStepRecord}
    (h : Attempts session index operations events records) :
    ∀ record ∈ records.dropLast, record.isVerified = true := by
  induction h with
  | finished => simp
  | stopped => simp
  | @continued index op rest events outcome record records recorded passing later ih =>
      intro other mem
      cases records with
      | nil => cases mem
      | cons next records =>
          rcases List.mem_cons.mp mem with rfl | tail
          · simp [PlanStepRecord.isVerified, recorded.verdict, passing]
          · exact ih other tail

/-- The calls of a run are the declared steps up to and including the first one
that is not `VERIFIED`. -/
structure ThroughFirstFailure (operations : List Operation) (index : Nat)
    (events : List StepEvent) : Prop where
  inOrder : events.map (fun event => (event.op, event.index)) =
    (operations.zipIdx index).take events.length
  earlier : ∀ event ∈ events.dropLast, event.verdict = .verified
  ending : events.length = operations.length ∨ ∃ event ∈ events.getLast?, event.verdict ≠ .verified

theorem Attempts.throughFirstFailure {session : PageIds} {index : Nat} {operations : List Operation}
    {events : List StepEvent} {records : List PlanStepRecord}
    (h : Attempts session index operations events records) :
    ThroughFirstFailure operations index events := by
  induction h with
  | finished => exact ⟨rfl, by simp, .inl rfl⟩
  | stopped _ failing => exact ⟨by simp, by simp, .inr ⟨_, rfl, failing⟩⟩
  | @continued index op rest events outcome record records recorded passing later ih =>
      refine ⟨by simp [ih.inOrder], ?_, ?_⟩
      · intro event mem
        cases events with
        | nil => cases mem
        | cons next events =>
            rcases List.mem_cons.mp mem with rfl | tail
            · exact passing
            · exact ih.earlier event tail
      · rcases ih.ending with whole | ⟨last, isLast, failing⟩
        · exact .inl (by simp [whole])
        · refine .inr ⟨last, ?_, failing⟩
          rw [List.getLast?_cons, isLast]
          rfl

/-! ## The loop -/

theorem drop_succ_of_drop {α : Type} {l rest : List α} {a : α} {n : Nat} (h : l.drop n = a :: rest) :
    l.drop (n + 1) = rest := by
  rw [← List.tail_drop, h, List.tail_cons]

/-- What a run of the loop leaves: the records of the steps it attempted, then
those of the steps it skipped. -/
theorem runSteps_attempts {plan : ExecutionPlan} {session : PageIds} {rest : List Operation}
    {index : Nat} {progress : Progress} {t : Trace PlanSig} {r : Except PyException Progress}
    {s s' : Unit} (run : Act.Runs (runSteps plan session index rest progress) s t r s')
    (here : plan.operations.drop index = rest) :
    ∃ final records, r = .ok final ∧
      final.steps = progress.steps ++ records ++
        skippedRecords plan (index + records.length) "prior_step_prevented_execution" ∧
      Attempts session index rest (attempts t) records := by
  induction rest generalizing index progress t s with
  | nil =>
      obtain ⟨rfl, rfl, -⟩ := Act.runs_pure.mp run
      exact ⟨progress, [], rfl, by simp [skippedRecords, here], .finished index⟩
  | cons op rest ih =>
      obtain ⟨outcome, after, rfl, branch⟩ := run.ask_bind_inv
      have next := drop_succ_of_drop here
      change Except PyException StepReceipt at outcome
      cases outcome with
      | error exc =>
          obtain ⟨startedAt, later, rfl, clocked⟩ := Act.Runs.ask_bind_inv (S := PlanSig) branch
          obtain ⟨finishedAt, last, rfl, ended⟩ := Act.Runs.ask_bind_inv (S := PlanSig) clocked
          obtain ⟨rfl, rfl, -⟩ := Act.runs_pure.mp ended
          refine ⟨_, [raisedRecord session index op startedAt finishedAt], rfl, by simp, ?_⟩
          exact .stopped ⟨rfl, rfl, rfl, rfl, rfl⟩ (by simp [StepEvent.verdict])
      | ok receipt =>
          have recorded : StepEvent.RecordedAs session ⟨index, op, .ok receipt⟩
              (attemptedRecord session index op receipt) := ⟨rfl, rfl, rfl, rfl, rfl⟩
          by_cases passing : receipt.verdict = .verified
          · have continues : stopping receipt.verdict = false := by simp [stopping, passing]
            simp only [continues] at branch
            obtain ⟨final, records, rfl, left, later⟩ := ih branch next
            refine ⟨final, attemptedRecord session index op receipt :: records, rfl, ?_, ?_⟩
            · rw [left, List.length_cons, Nat.add_right_comm index 1, Nat.add_assoc index]
              simp
            · exact .continued recorded passing later
          · have stops : stopping receipt.verdict = true := by simp [stopping, passing]
            simp only [stops] at branch
            obtain ⟨rfl, rfl, -⟩ := Act.runs_pure.mp branch
            exact ⟨_, [attemptedRecord session index op receipt], rfl, by simp,
              .stopped recorded passing⟩

/-! ## The receipt -/

theorem declaredSteps_append (first second : List Operation) (index : Nat) :
    declaredSteps (first ++ second) index =
      declaredSteps first index ++ declaredSteps second (index + first.length) := by
  simp [declaredSteps, List.zipIdx_append]

theorem declaredSteps_split (operations : List Operation) (k : Nat) (bounded : k ≤ operations.length) :
    declaredSteps (operations.take k) 0 ++ declaredSteps (operations.drop k) k =
      declaredSteps operations 0 := by
  have whole := declaredSteps_append (operations.take k) (operations.drop k) 0
  rw [List.take_append_drop, List.length_take_of_le bounded, Nat.zero_add] at whole
  exact whole.symm

theorem skippedRecords_steps (plan : ExecutionPlan) (fromIndex : Nat) (reason : String) :
    (skippedRecords plan fromIndex reason).map (·.step) =
      declaredSteps (plan.operations.drop fromIndex) fromIndex := by
  rw [skippedRecords, List.map_map]
  exact List.map_id _

theorem skippedRecords_flags (plan : ExecutionPlan) (fromIndex : Nat) (reason : String) :
    ∀ record ∈ skippedRecords plan fromIndex reason,
      record.attempted = false ∧ record.skipped = true := by
  intro record mem
  obtain ⟨step, -, rfl⟩ := List.mem_map.mp mem
  exact ⟨rfl, rfl⟩

/-- The records of a run of the loop cover the declared steps. -/
theorem Attempts.covers {plan : ExecutionPlan} {session : PageIds} {events : List StepEvent}
    {records : List PlanStepRecord} (h : Attempts session 0 plan.operations events records)
    (reason : String) :
    Covers plan.operations records (skippedRecords plan records.length reason) where
  tried := h.forall_record fun _ _ _ recorded => ⟨recorded.attempted, recorded.skipped⟩
  passedOver := skippedRecords_flags plan _ reason
  steps := by
    rw [List.map_append, h.steps, skippedRecords_steps, declaredSteps_split _ _ h.length_le]

theorem covers_skipped (plan : ExecutionPlan) (reason : String) :
    Covers plan.operations [] (skippedRecords plan 0 reason) where
  tried := by simp
  passedOver := skippedRecords_flags plan 0 reason
  steps := by rw [List.nil_append, skippedRecords_steps, List.drop_zero]

/-- What every receipt of a plan says of the steps that the run called. -/
structure Accounts (operations : List Operation) (events : List StepEvent) (receipt : PlanReceipt) :
    Prop where
  /-- Every declared step has one record, in order. -/
  declared : receipt.steps.map (·.step) = declaredSteps operations 0
  /-- Every record is of an attempted or of a skipped step. -/
  exclusive : ∀ record ∈ receipt.steps, record.skipped = !record.attempted
  attempted : (receipt.steps.filter (·.attempted)).map
      (fun record => (record.step, record.operationVerdict)) =
    events.map fun event => ((event.index, event.op.operationId), some event.verdict)
  verified : receipt.planVerdict = .verified ↔
    ∀ record ∈ receipt.steps, record.attempted = true ∧ record.operationVerdict = some .verified
  invariants : receipt.checkInvariants = .ok ()

theorem buildReceipt_eq {plan : ExecutionPlan} {input : ReceiptInput} {outcome : PlanOutcome}
    (aggregated : aggregatePlanOutcome input.steps plan.operations.length input.setupFailed =
      .ok outcome) (consistent : (receiptOf plan input outcome).Consistent) :
    buildReceipt plan input = .ok (receiptOf plan input outcome) := by
  unfold buildReceipt
  simp only [aggregated, bind, Except.bind, consistent.check]
  rfl

theorem Covers.exclusive {operations : List Operation} {attempted skipped : List PlanStepRecord}
    (covers : Covers operations attempted skipped) :
    ∀ record ∈ attempted ++ skipped, record.skipped = !record.attempted := by
  intro record mem
  rcases List.mem_append.mp mem with tried | passed
  · rw [(covers.tried record tried).left, (covers.tried record tried).right]
    rfl
  · rw [(covers.passedOver record passed).left, (covers.passedOver record passed).right]
    rfl

/-- A plan of which no step was attempted gets a receipt. -/
theorem buildReceipt_skipped {plan : ExecutionPlan} (declared : plan.operations ≠ [])
    {reason : String} {input : ReceiptInput} (steps : input.steps = skippedRecords plan 0 reason)
    (failed : input.setupFailed = true) :
    ∃ receipt, buildReceipt plan input = .ok receipt ∧ Accounts plan.operations [] receipt := by
  have covers := covers_skipped plan reason
  have aggregated : aggregatePlanOutcome input.steps plan.operations.length input.setupFailed =
      .ok .unstarted := by
    rw [aggregatePlanOutcome, failed]
    rfl
  have filtered : input.steps.filter (·.attempted) = [] := by
    rw [steps]
    exact covers.filter_attempted
  have counted : (input.steps.filter (·.skipped)).length = plan.operations.length := by
    have whole := covers.length
    have same := covers.filter_skipped
    rw [List.nil_append] at same
    rw [steps, same]
    simpa using whole
  have consistent : (receiptOf plan input .unstarted).Consistent := by
    refine ⟨?_, ?_, ?_, ?_, ?_, (none, none), ?_⟩
    · simp [receiptOf, filtered, counted]
    · simp [receiptOf, filtered]
    · simp [receiptOf, PlanOutcome.unstarted]
    · simp [receiptOf, PlanOutcome.unstarted]
    · simp [receiptOf, PlanOutcome.unstarted]
    · intro step mem tried
      change step ∈ input.steps at mem
      rw [steps] at mem
      rw [(covers.passedOver step mem).left] at tried
      cases tried
  refine ⟨_, buildReceipt_eq aggregated consistent, ?_, ?_, ?_, ?_, consistent.check⟩
  · change input.steps.map (·.step) = _
    rw [steps, skippedRecords_steps, List.drop_zero]
  · change ∀ record ∈ input.steps, _
    rw [steps]
    exact covers.exclusive
  · change (input.steps.filter (·.attempted)).map _ = _
    rw [filtered]
    rfl
  · constructor
    · intro verified
      cases verified
    · intro all
      obtain ⟨op, rest, shape⟩ := List.exists_cons_of_ne_nil declared
      change ∀ record ∈ input.steps, _ at all
      rw [steps, skippedRecords, shape] at all
      obtain ⟨tried, -⟩ := all _ List.mem_cons_self
      cases tried

/-- A plan whose loop ran gets a receipt, when its steps name one session. -/
theorem buildReceipt_ran {plan : ExecutionPlan} (declared : plan.operations ≠ [])
    {session : PageIds} {events : List StepEvent} {records : List PlanStepRecord}
    (h : Attempts session 0 plan.operations events records) {reason : String} {input : ReceiptInput}
    (steps : input.steps = records ++ skippedRecords plan records.length reason)
    (ran : input.setupFailed = false)
    {ids : Option String × Option String} (same : ∀ event ∈ events, event.session session = ids) :
    ∃ receipt, buildReceipt plan input = .ok receipt ∧ Accounts plan.operations events receipt := by
  have covers := h.covers reason
  obtain ⟨last, isLast⟩ :=
    Option.isSome_iff_exists.mp (List.getLast?_isSome.mpr (h.ne_nil declared))
  have lastMem : last ∈ records := List.mem_of_getLast? isLast
  obtain ⟨verdict, judged⟩ : ∃ verdict, last.operationVerdict = some verdict := by
    refine h.forall_record (P := fun record => ∃ verdict, record.operationVerdict = some verdict)
      (fun event _ record recorded => ?_) last lastMem
    exact ⟨event.verdict, recorded.verdict⟩
  obtain ⟨outcome, aggregated, decided⟩ :=
    aggregatePlanOutcome_ran covers isLast judged h.earlier
  rw [← steps, ← ran] at aggregated
  have tried : input.steps.filter (·.attempted) = records := by
    rw [steps]
    exact covers.filter_attempted
  have passed : input.steps.filter (·.skipped) = skippedRecords plan records.length reason := by
    rw [steps]
    exact covers.filter_skipped
  have consistent : (receiptOf plan input outcome).Consistent := by
    refine ⟨?_, ?_, ?_, ?_, ?_, ids, ?_⟩
    · have whole := covers.length
      simp only [receiptOf, tried, passed]
      omega
    · exact List.length_filter_le _ _
    · intro verified
      rcases decided with ⟨whole, -, -⟩ | ⟨-, unverified, -⟩
      · simp only [receiptOf, passed, whole, List.length_nil]
      · exact absurd verified unverified
    · intro completed
      rcases decided with ⟨whole, -, rfl⟩ | ⟨-, -, stopped, -⟩
      · refine ⟨?_, rfl⟩
        simp only [receiptOf, steps]
        exact covers.any_unattempted whole
      · change outcome.completionStatus = .completed at completed
        rw [stopped] at completed
        cases completed
    · intro stopped
      rcases decided with ⟨-, -, rfl⟩ | ⟨-, -, -, decisive⟩
      · cases stopped
      · change outcome.decisiveStepIndex.isSome = true
        rw [decisive]
        rfl
    · intro step mem attempted
      have isTried : step ∈ records := by
        rw [← tried]
        exact List.mem_filter.mpr ⟨mem, attempted⟩
      refine h.forall_record (P := fun record => record.session = ids)
        (fun event mem record recorded => ?_) step isTried
      rw [recorded.session, same event mem]
  refine ⟨_, buildReceipt_eq aggregated consistent, ?_, ?_, ?_, ?_, consistent.check⟩
  · change input.steps.map (·.step) = _
    rw [steps]
    exact covers.steps
  · change ∀ record ∈ input.steps, _
    rw [steps]
    exact covers.exclusive
  · change (input.steps.filter (·.attempted)).map _ = _
    rw [tried]
    exact h.recorded
  · change outcome.planVerdict = .verified ↔ ∀ record ∈ input.steps, _
    rw [steps]
    rcases decided with ⟨whole, verified, rfl⟩ | ⟨open_, unverified, -⟩
    · refine ⟨fun _ record mem => ?_, fun _ => rfl⟩
      rw [whole, List.append_nil] at mem
      refine ⟨(covers.tried record mem).left, ?_⟩
      rw [← List.dropLast_append_getLast? last isLast] at mem
      rcases List.mem_append.mp mem with earlier | isLast
      · simpa [PlanStepRecord.isVerified] using h.earlier record earlier
      · rw [List.mem_singleton.mp isLast, judged, verified]
    · refine ⟨fun verified => absurd verified unverified, fun all => ?_⟩
      rcases open_ with skipped | failing
      · obtain ⟨record, mem⟩ := List.exists_mem_of_ne_nil _ skipped
        have attempted := (all record (List.mem_append_right _ mem)).left
        rw [(covers.passedOver record mem).left] at attempted
        cases attempted
      · have verified := (all last (List.mem_append_left _ lastMem)).right
        rw [judged] at verified
        exact absurd (Option.some.inj verified) failing

/-! ## Runs of the plan -/

/-- How the creation and the start of the backend came out. -/
def setups (t : Trace PlanSig) : List (Except PyException Unit) :=
  t.filterMap fun event => match event with
    | ⟨.newBackend, answer⟩ => some answer
    | ⟨.start, answer⟩ => some answer
    | _ => none

/-- The backend starts, or fails to with `BrowserConfigError`. -/
def StartsOrFails (t : Trace PlanSig) : Prop :=
  ∀ e, .error e ∈ setups t → e.type = .browserConfigError

def started (t : Trace PlanSig) : Bool :=
  t.any fun event => match event with
    | ⟨.start, .ok ()⟩ => true
    | _ => false

/-- There is no backend: it cannot be created, it has another configuration, or it
does not start. -/
def refused (t : Trace PlanSig) : Bool :=
  t.any fun event => match event with
    | ⟨.newBackend, .error _⟩ => true
    | ⟨.sameConfiguration, false⟩ => true
    | ⟨.start, .error _⟩ => true
    | _ => false

/-- The identifiers read before the first step. -/
def sessionOf (t : Trace PlanSig) : Option PageIds :=
  t.findSome? fun event => match event with
    | ⟨.identifiers, ids⟩ => some ids
    | _ => none

/-- Every step reports, or falls back on, the same session and the same context. -/
def OneSession (t : Trace PlanSig) : Prop :=
  ∃ ids, ∀ session ∈ sessionOf t, ∀ event ∈ attempts t, event.session session = ids

/-- The steps ask for no backend. -/
theorem runSteps_unrefused {plan : ExecutionPlan} {session : PageIds} {rest : List Operation}
    {index : Nat} {progress : Progress} {t : Trace PlanSig} {r : Except PyException Progress}
    {s s' : Unit} (run : Act.Runs (runSteps plan session index rest progress) s t r s') :
    refused t = false := by
  induction rest generalizing index progress t s with
  | nil =>
      obtain ⟨rfl, -, -⟩ := Act.runs_pure.mp run
      rfl
  | cons op rest ih =>
      obtain ⟨outcome, after, rfl, branch⟩ := run.ask_bind_inv
      change refused after = false
      change Except PyException StepReceipt at outcome
      cases outcome with
      | error exc =>
          obtain ⟨startedAt, later, rfl, clocked⟩ := Act.Runs.ask_bind_inv (S := PlanSig) branch
          obtain ⟨finishedAt, last, rfl, ended⟩ := Act.Runs.ask_bind_inv (S := PlanSig) clocked
          obtain ⟨rfl, -, -⟩ := Act.runs_pure.mp ended
          rfl
      | ok receipt =>
          by_cases stops : stopping receipt.verdict = true
          · simp only [stops] at branch
            obtain ⟨rfl, -, -⟩ := Act.runs_pure.mp branch
            rfl
          · simp only [stops] at branch
            exact ih branch

/-- What a run of a plan comes to. -/
structure Settles (plan : ExecutionPlan) (t : Trace PlanSig) (receipt : PlanReceipt) : Prop where
  accounts : Accounts plan.operations (attempts t) receipt
  starts : started t = !refused t
  ran : started t = true → ThroughFirstFailure plan.operations 0 (attempts t)
  unstarted : started t = false → attempts t = []

theorem setupFailure_run {plan : ExecutionPlan} (declared : plan.operations ≠ []) {startedAt : Int}
    {backend : Bool} {reason error : String} {kind : Option String} {t : Trace PlanSig}
    {r : Except PyException PlanReceipt} {s s' : Unit}
    (run : Act.Runs (setupFailure plan startedAt backend reason error kind) s t r s') :
    attempts t = [] ∧ started t = false ∧ ∃ receipt, r = .ok receipt ∧ Accounts plan.operations [] receipt := by
  obtain ⟨finishedAt, after, rfl, named⟩ := Act.Runs.ask_bind_inv (S := PlanSig) run
  cases backend with
  | true =>
      obtain ⟨ids, last, rfl, built⟩ := Act.Runs.ask_bind_inv (S := PlanSig) named
      obtain ⟨rfl, rfl, -⟩ := Act.runs_ofExcept.mp built
      exact ⟨rfl, rfl, buildReceipt_skipped declared rfl rfl⟩
  | false =>
      obtain ⟨rfl, rfl, -⟩ := Act.runs_ofExcept.mp named
      exact ⟨rfl, rfl, buildReceipt_skipped declared rfl rfl⟩

/-- A run without a backend that attempted nothing and ended with a receipt settles
the plan. -/
theorem Settles.of_silent {plan : ExecutionPlan} {t : Trace PlanSig} {receipt : PlanReceipt}
    (silent : attempts t = []) (idle : started t = false) (lacking : refused t = true)
    (accounts : Accounts plan.operations [] receipt) : Settles plan t receipt where
  accounts := by rwa [silent]
  starts := by rw [idle, lacking]; rfl
  ran := by
    intro ran
    rw [idle] at ran
    cases ran
  unstarted := fun _ => silent

/-- The part of a run on a backend settles the plan. -/
theorem runOnBackend_settles {plan : ExecutionPlan} (declared : plan.operations ≠ []) {startedAt : Int}
    {t : Trace PlanSig} {r : Except PyException PlanReceipt} {s s' : Unit}
    (run : Act.Runs (runOnBackend plan startedAt) s t r s') (setup : StartsOrFails t)
    (same : OneSession t) : ∃ receipt, r = .ok receipt ∧ Settles plan t receipt := by
  obtain ⟨answer, after, rfl, set⟩ := Act.Runs.ask_bind_inv (S := PlanSig) run
  change Except PyException Unit at answer
  cases answer with
  | error e =>
      have config : e.type = .browserConfigError := setup e List.mem_cons_self
      simp only [settingUp, config, if_true] at set
      obtain ⟨silent, idle, receipt, rfl, accounts⟩ := setupFailure_run declared set
      exact ⟨receipt, rfl, .of_silent silent idle rfl accounts⟩
  | ok ready =>
      cases ready
      obtain ⟨session, later, rfl, stepping⟩ := Act.Runs.ask_bind_inv (S := PlanSig) set
      rcases stepping.bind_inv with ⟨e, rfl, failed⟩ | ⟨before, progress, s₁, last, rfl, loop, building⟩
      · obtain ⟨final, records, absurd, -⟩ := runSteps_attempts failed List.drop_zero
        cases absurd
      obtain ⟨final, records, isFinal, left, h⟩ := runSteps_attempts loop List.drop_zero
      cases isFinal
      obtain ⟨finishedAt, rest, rfl, naming⟩ := Act.Runs.ask_bind_inv (S := PlanSig) building
      obtain ⟨ids, rest', rfl, built⟩ := Act.Runs.ask_bind_inv (S := PlanSig) naming
      obtain ⟨rfl, rfl, -⟩ := Act.runs_ofExcept.mp built
      have events : attempts (⟨.start, .ok ()⟩ :: ⟨.identifiers, session⟩ ::
          (before ++ [⟨.monotonicMs, finishedAt⟩, ⟨.identifiers, ids⟩])) = attempts before := by
        change attempts (before ++ _) = _
        rw [attempts_append]
        exact List.append_nil _
      obtain ⟨pair, agreed⟩ := same
      have agreed := agreed session rfl
      rw [events] at agreed
      have covered : progress.steps = records ++
          skippedRecords plan records.length "prior_step_prevented_execution" := by
        rw [left, Nat.zero_add]
        rfl
      obtain ⟨receipt, isReceipt, accounts⟩ : ∃ receipt, buildReceipt plan {
          steps := progress.steps
          startedAt
          finishedAt
          setupFailed := false
          ids
          executionError := progress.executionError
          failureKindOverride := progress.failureKindOverride } = .ok receipt ∧
          Accounts plan.operations (attempts before) receipt :=
        buildReceipt_ran declared h covered rfl agreed
      refine ⟨receipt, isReceipt, ?_, ?_, ?_, ?_⟩
      · rwa [events]
      · have quiet := runSteps_unrefused loop
        change true = !refused (before ++ _)
        rw [refused, List.any_append]
        rw [refused] at quiet
        rw [quiet]
        rfl
      · intro ran
        rw [events]
        exact h.throughFirstFailure
      · intro idle
        cases idle

/-- A trailing `stop` changes nothing that a run is judged by. -/
theorem Settles.stopped {plan : ExecutionPlan} {t : Trace PlanSig} {receipt : PlanReceipt}
    (settles : Settles plan t receipt) (stop : Unit) :
    Settles plan (⟨.newBackend, .ok ()⟩ :: (t ++ [⟨.stop, stop⟩])) receipt := by
  have events : attempts (⟨.newBackend, .ok ()⟩ :: (t ++ [⟨.stop, stop⟩])) = attempts t := by
    change attempts (t ++ _) = _
    rw [attempts_append]
    exact List.append_nil _
  have start : started (⟨.newBackend, .ok ()⟩ :: (t ++ [⟨.stop, stop⟩])) = started t := by
    change started (t ++ _) = _
    unfold started
    rw [List.any_append]
    exact Bool.or_false _
  have backend : refused (⟨.newBackend, .ok ()⟩ :: (t ++ [⟨.stop, stop⟩])) = refused t := by
    change refused (t ++ _) = _
    unfold refused
    rw [List.any_append]
    exact Bool.or_false _
  refine ⟨?_, ?_, ?_, ?_⟩
  · rw [events]
    exact settles.accounts
  · rw [start, backend]
    exact settles.starts
  · rw [events, start]
    exact settles.ran
  · rw [events, start]
    exact settles.unstarted

theorem StartsOrFails.of_append {t u : Trace PlanSig} (setup : StartsOrFails (t ++ u)) :
    StartsOrFails t := by
  intro e mem
  refine setup e ?_
  rw [setups, List.filterMap_append]
  exact List.mem_append_left _ mem

theorem OneSession.of_append {t u : Trace PlanSig} (same : OneSession (t ++ u)) : OneSession t := by
  obtain ⟨ids, agreed⟩ := same
  refine ⟨ids, fun session named event mem => agreed session ?_ event ?_⟩
  · unfold sessionOf at named ⊢
    rw [List.findSome?_append, Option.mem_def.mp named]
    rfl
  · rw [attempts_append]
    exact List.mem_append_left _ mem

theorem terminates_setupFailure (plan : ExecutionPlan) (startedAt : Int) (backend : Bool)
    (reason error : String) (kind : Option String) :
    Act.Terminates (setupFailure plan startedAt backend reason error kind) := by
  refine Act.Terminates.bind (Act.terminates_ask _) fun finishedAt => ?_
  cases backend with
  | true => exact Act.Terminates.bind (Act.terminates_ask _) fun _ => Act.terminates_ofExcept _
  | false => exact Act.Terminates.bind (Act.terminates_pure _) fun _ => Act.terminates_ofExcept _

theorem terminates_settingUp {plan : ExecutionPlan} {startedAt : Int} {backend : Bool}
    {answer : Except PyException Unit} {next : Execution PlanReceipt} (later : next.Terminates) :
    Act.Terminates (settingUp plan startedAt backend answer next) := by
  cases answer with
  | ok ready => exact later
  | error e =>
      by_cases config : e.type = .browserConfigError
      · simp only [settingUp, config, if_true]
        exact terminates_setupFailure _ _ _ _ _ _
      · simp only [settingUp, config, if_false]
        exact Act.terminates_throw e

theorem terminates_runSteps (plan : ExecutionPlan) (session : PageIds) (rest : List Operation)
    (index : Nat) (progress : Progress) :
    Act.Terminates (runSteps plan session index rest progress) := by
  induction rest generalizing index progress with
  | nil => exact Act.terminates_pure _
  | cons op rest ih =>
      refine Act.Terminates.bind (Act.terminates_ask _) fun outcome => ?_
      change Except PyException StepReceipt at outcome
      cases outcome with
      | error exc =>
          refine Act.Terminates.bind (Act.terminates_ask _) fun startedAt => ?_
          exact Act.Terminates.bind (Act.terminates_ask _) fun _ => Act.terminates_pure _
      | ok receipt =>
          by_cases stops : stopping receipt.verdict = true
          · simp only [stops, if_true]
            exact Act.terminates_pure _
          · simp only [stops]
            exact ih _ _

theorem terminates_runOnBackend (plan : ExecutionPlan) (startedAt : Int) :
    Act.Terminates (runOnBackend plan startedAt) := by
  refine Act.Terminates.bind (Act.terminates_ask _) fun answer => terminates_settingUp ?_
  refine Act.Terminates.bind (Act.terminates_ask _) fun session => ?_
  refine (terminates_runSteps plan session _ 0 {}).bind fun progress => ?_
  refine Act.Terminates.bind (Act.terminates_ask _) fun finishedAt => ?_
  exact Act.Terminates.bind (Act.terminates_ask _) fun ids => Act.terminates_ofExcept _

/-- `_execute_plan` returns or raises, whatever the environment answers. -/
theorem terminates_executePlan (plan : ExecutionPlan) (supplied : Bool) :
    Act.Terminates (executePlan plan supplied) := by
  refine Act.Terminates.bind (Act.terminates_ask _) fun startedAt => ?_
  cases plan.validate with
  | error e =>
      by_cases config : e.type = .browserConfigError
      · simp only [config, if_true]
        exact terminates_setupFailure _ _ _ _ _ _
      · by_cases value : e.type = .valueError
        · have other : ¬ ExceptionType.valueError = .browserConfigError := value ▸ config
          simp only [value, other, if_true, if_false]
          exact terminates_setupFailure _ _ _ _ _ _
        · simp only [config, value, if_false]
          exact Act.terminates_throw e
  | ok valid =>
      cases supplied with
      | true =>
          refine Act.Terminates.bind (Act.terminates_ask _) fun same => ?_
          change Bool at same
          cases same with
          | true => exact terminates_runOnBackend plan startedAt
          | false => exact terminates_setupFailure _ _ _ _ _ _
      | false =>
          refine Act.Terminates.bind (Act.terminates_ask _) fun created => terminates_settingUp ?_
          exact (terminates_runOnBackend plan startedAt).andFinally (Act.terminates_ask _)

/-- Every valid plan gets a receipt: `_execute_plan` returns whatever the steps
do.  Unless there is no backend it starts one, and the calls it makes are the
declared steps up to and including the first one that is not `VERIFIED`; its receipt
accounts for every declared step. -/
theorem executePlan_settles (plan : ExecutionPlan) (valid : plan.validate = .ok ())
    (supplied : Bool) :
    Act.Terminates (executePlan plan supplied) ∧
      ∀ t r, Act.Runs (executePlan plan supplied) () t r () → StartsOrFails t → OneSession t →
        ∃ receipt, r = .ok receipt ∧ Settles plan t receipt := by
  refine ⟨terminates_executePlan plan supplied, fun t r run setup same => ?_⟩
  have declared := ExecutionPlan.operations_ne_nil valid
  obtain ⟨startedAt, after, rfl, body⟩ := Act.Runs.ask_bind_inv (S := PlanSig) run
  rw [valid] at body
  cases supplied with
  | true =>
      obtain ⟨matching, later, rfl, next⟩ := Act.Runs.ask_bind_inv (S := PlanSig) body
      change Bool at matching
      cases matching with
      | false =>
          obtain ⟨silent, idle, receipt, rfl, accounts⟩ := setupFailure_run declared next
          exact ⟨receipt, rfl, .of_silent silent idle rfl accounts⟩
      | true =>
          obtain ⟨receipt, rfl, settles⟩ := runOnBackend_settles declared next setup same
          exact ⟨receipt, rfl, settles.accounts, settles.starts, settles.ran, settles.unstarted⟩
  | false =>
      obtain ⟨created, later, rfl, next⟩ := Act.Runs.ask_bind_inv (S := PlanSig) body
      change Except PyException Unit at created
      cases created with
      | error e =>
          have config : e.type = .browserConfigError := setup e List.mem_cons_self
          simp only [settingUp, config, if_true] at next
          obtain ⟨silent, idle, receipt, rfl, accounts⟩ := setupFailure_run declared next
          exact ⟨receipt, rfl, .of_silent silent idle rfl accounts⟩
      | ok ready =>
          cases ready
          obtain ⟨first, r₁, s₁, second, c, rfl, inner, stop, rfl⟩ := Act.runs_andFinally.mp next
          obtain ⟨quiet, rfl, rfl, -⟩ := Act.runs_ask.mp stop
          have setup' : StartsOrFails first :=
            StartsOrFails.of_append fun e mem => setup e (List.mem_cons_of_mem _ mem)
          have same' : OneSession first := OneSession.of_append same
          obtain ⟨receipt, rfl, settles⟩ := runOnBackend_settles declared inner setup' same'
          have stopped := settles.stopped quiet
          exact ⟨receipt, rfl, stopped.accounts, stopped.starts, stopped.ran, stopped.unstarted⟩

/-- Three clicks in order. -/
def threeClicks : ExecutionPlan where
  planId := "plan"
  operations := [Scenario.click "a", Scenario.click "b", Scenario.click "c"]
  browserConfig := ⟨"browser_config", none⟩
  initialPlanTimeoutMs := some 5000

def tab : PageIds := ⟨some "session", some "context", some "page"⟩

/-- A backend that starts, and goes through the steps as scripted. -/
def stepScript : Script PlanSig (List (Except PyException StepReceipt)) := fun w c => match c with
  | .monotonicMs => ((7 : Int), w)
  | .newBackend => ((.ok () : Except PyException Unit), w)
  | .sameConfiguration => (true, w)
  | .start => ((.ok () : Except PyException Unit), w)
  | .identifiers => (tab, w)
  | .executeOperation _ _ => ((w.head?.getD (.error ⟨.other, "closed", none⟩) :
      Except PyException StepReceipt), w.tail)
  | .stop => ((() : Unit), w)

/-- A click that is verified, in the scripted tab. -/
def verifiedStep : StepReceipt where
  verdict := .verified
  startedAtMs := 8
  finishedAtMs := 9
  browser := some tab

def showsStop (t : Trace PlanSig) (r : Except PyException PlanReceipt) : Bool :=
  (setups t).all (·.isOk) && sessionOf t == some tab &&
    (attempts t).all (fun event => event.session tab == (some "session", some "context")) &&
    match r with
    | .ok receipt => receipt.planVerdict == .executionFailed && receipt.decisiveStepIndex == some 1
    | .error _ => false

/-- The second of three clicks raises: the receipt names it, and the third click
is skipped. -/
theorem executePlan_settles_threeClicks : ∃ t receipt,
    Act.Runs (executePlan threeClicks false) () t (.ok receipt) () ∧ Settles threeClicks t receipt ∧
      receipt.planVerdict = .executionFailed ∧ receipt.decisiveStepIndex = some 1 := by
  obtain ⟨t, r, s', run, shown⟩ := Act.exists_runs stepScript (executePlan threeClicks false) ()
    [.ok verifiedStep] (fun t r _ => showsStop t r) (by decide +kernel)
  obtain ⟨shown, outcome⟩ := Bool.and_eq_true_iff.mp shown
  obtain ⟨shown, agreed⟩ := Bool.and_eq_true_iff.mp shown
  obtain ⟨setup, named⟩ := Bool.and_eq_true_iff.mp shown
  have starts : StartsOrFails t := by
    intro e mem
    cases List.all_eq_true.mp setup _ mem
  have same : OneSession t := by
    refine ⟨(some "session", some "context"), fun session isSession event mem => ?_⟩
    rw [eq_of_beq named] at isSession
    obtain rfl := Option.some.inj isSession
    exact eq_of_beq (List.all_eq_true.mp agreed event mem)
  obtain ⟨receipt, rfl, settles⟩ :=
    (executePlan_settles threeClicks (by decide +kernel) false).2 t r run starts same
  obtain ⟨verdict, decisive⟩ := Bool.and_eq_true_iff.mp outcome
  exact ⟨t, receipt, run, settles, eq_of_beq verdict, eq_of_beq decisive⟩

end Dingdongditch.Plan
