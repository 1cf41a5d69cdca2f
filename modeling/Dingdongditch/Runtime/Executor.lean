import Dingdongditch.Runtime.Verifier

/-!
# The executor

`executeOperation` runs one operation against a backend and returns a receipt.
It is cut where the source moves on: preconditions (`prepare`), the two guard
forms (`selectBranch`, `probeGuard`), the dispatch itself, and everything after
it (`conclude`).  Only `dispatchBranchActions` and `dispatchPrimary` are
`Stage`s; the others are `Quiet`.
-/

namespace Dingdongditch

open Interaction Text

/-- What the runtime takes from the libraries below it: Unicode and IDNA
handling of host names, and the bounded form of published evidence. -/
structure Platform where
  codec : HostCodec
  sanitizeEvidenceValue : PyVal → PyVal

/-- The browser of an execution: provided by the caller, or owned by the call
and created from a configuration. -/
inductive BackendSource
  | provided (configMatches : Bool := true)
  | owned (config : Declared) (construction : Declared)
  deriving DecidableEq, Repr

structure ExecutionContext where
  source : BackendSource := .provided
  planTiming : Option PlanTiming := none
  screenshotConfig : Option ScreenshotConfig := none
  observationReference : Option ObservationReference := none
  /-- A bound on the polls of the verification loop. -/
  maxPolls : Nat

/-! ## The verdict -/

namespace ActionType

def managesPages : ActionType → Bool
  | .switchToPage | .closePage | .switchToOpener => true
  | _ => false

end ActionType

/-- `all(result.get("passed") is True for result in results)` -/
def allPassed : List PyVal → Except PyException Bool
  | [] => return true
  | result :: rest => do
      if (← result.get "passed").isTrue then allPassed rest else return false

/-- The wait_for block of `_decide_verdict`; `none` falls through. -/
def waitVerdict (evidence : PyDict) (expectationsDeclared : Nat) : Option Verdict :=
  if (evidence.get "condition_satisfied").isTrue then
    if expectationsDeclared = 0 then some .verified else none
  else if (evidence.get "timeout_occurred").isTrue then some .notVerified
  else if expectationsDeclared = 0 then some .indeterminate
  else none

/-- The download block: the artifact is complete and the page policy held. -/
def downloadCompleted (evidence : PyDict) : Except PyException Bool := do
  let download := (evidence.get "download").orElse (.dict [])
  if (← download.get "state").isStr "completed" then
    if (← download.get "artifact").isNone then return false
    return (← download.get "page_policy_passed").isTrue
  return false

/-- The click block: a page transition other than `same_page` whose new-page
expectations all passed. -/
def transitionVerified (evidence : PyDict) : Except PyException Bool := do
  let transition := (evidence.get "page_transition").orElse (.dict [])
  let policy ← transition.get "policy"
  if policy.truthy && !policy.isStr "same_page" then
    let pageResults := (evidence.get "new_page_verification_results").orElse (.list [])
    allPassed (← pageResults.iterate)
  else return false

/-- The end of `_decide_verdict`: the declared expectations decide. -/
def expectationVerdict (expectationsDeclared : Nat) (results : List ExpectationResult)
    (freshnessStale : List String) : Verdict :=
  if expectationsDeclared = 0 then .indeterminate
  else if !freshnessStale.isEmpty then .indeterminate
  else if results.any (·.result = .indeterminate) then .indeterminate
  else if results.any (·.result = .fail) then .notVerified
  else if !results.isEmpty && results.all (·.result = .pass) then .verified
  else .indeterminate

/-- `_decide_verdict` -/
def decideVerdict (actionOk : Bool) (expectationsDeclared : Nat)
    (results : List ExpectationResult) (freshnessStale : List String) (type : ActionType)
    (actionEvidence : Option PyDict) : Except PyException Verdict :=
  let evidence := actionEvidence.getD []
  let waited := if type = .waitFor then waitVerdict evidence expectationsDeclared else none
  let declared := expectationVerdict expectationsDeclared results freshnessStale
  if !actionOk then .ok .executionFailed
  else if let some verdict := waited then .ok verdict
  else if type.managesPages && (evidence.get "dispatched").isTrue then .ok .verified
  else if type = .download then do
    let completed ← downloadCompleted evidence
    return if completed && expectationsDeclared = 0 then .verified else declared
  else if type = .click then do
    let verified ← transitionVerified evidence
    return if verified then .verified else declared
  else .ok declared

/-! ## Early ends -/

/-- `bounded_signals`: the last signals of the collector. -/
def boundedSignals (signals : List EvidenceSignal) : List EvidenceSignal :=
  signals.drop (signals.length - 128)

/-- The facts an early end reports besides the operation. -/
structure Failure where
  executionStatus : String
  executionError : String
  failureKind : Option String := none
  actionEvidence : Option PyDict := none
  verdict : Verdict := .executionFailed
  unverified : verdict ≠ .verified := by decide

/-- The published form of an evidence dictionary. -/
def sanitizeEvidence (platform : Platform) (evidence : PyDict) : PyDict :=
  match platform.sanitizeEvidenceValue (.dict evidence) with
  | .dict entries => entries
  | _ => []

/-- `_failed_receipt` -/
def failedReceipt (platform : Platform) (op : Operation) (startedAtMs : Int)
    (failure : Failure) : Quiet FailedReceipt := do
  let finished ← Quiet.monotonicMs
  let collector ← get
  let receipt : ExecutionReceipt := {
    operationId := op.operationId
    verdict := failure.verdict
    actionType := op.action.type
    targetUrl := op.url
    startedAtMs := startedAtMs
    finishedAtMs := finished
    executionStatus := failure.executionStatus
    executionError := some failure.executionError
    evidence := boundedSignals collector.signals
    freshness := evaluateFreshness op.freshness none none collector.signals []
    expectationsDeclared := op.expectations.length
    failureKind := failure.failureKind
    actionEvidence :=
      (failure.actionEvidence.filter (!·.isEmpty)).map (sanitizeEvidence platform) }
  return ⟨receipt, failure.unverified, rfl, rfl⟩

variable (platform : Platform) (op : Operation) (ctx : ExecutionContext) (startedAtMs : Int)

/-- `return _failed_receipt(…)` in the middle of an execution. -/
def fail {α : Type} (failure : Failure) : Quiet α := do
  let failed ← failedReceipt platform op startedAtMs failure
  throw (.receipt failed)

def raise {α : Type} (e : PyException) : Quiet α := throw (.raised e)

/-! ## Before the dispatch -/

def checkBrowserConfig : Quiet Unit :=
  match ctx.source with
  | .provided false =>
      fail platform op startedAtMs {
        executionStatus := "validation_failed"
        executionError := "browser_config does not match the provided backend session config"
        failureKind := some "contradictory_browser_config" }
  | _ => return ()

/-- `operation.validate()`, and the configuration and construction of an owned
backend. -/
def validateContracts : Except PyException Unit := do
  op.validate
  match ctx.source with
  | .owned config construction => do
      config.validate
      construction.validate
  | .provided _ => return ()

def checkContracts : Quiet Unit :=
  match validateContracts op ctx with
  | .ok () => return ()
  | .error e =>
      if e.type = .browserConfigError ∨ e.type = .valueError then
        fail platform op startedAtMs {
          executionStatus := "validation_failed"
          executionError := e.message
          failureKind := e.failureKind }
      else raise e

/-- The checks made before anything touches the browser. -/
def validateRequest : Quiet Unit := do
  checkBrowserConfig platform op ctx startedAtMs
  checkContracts platform op ctx startedAtMs

/-- Start an owned backend; a provided one has to be started already. -/
def acquireBackend : Quiet Unit := do
  match ctx.source with
  | .owned _ _ =>
      let started ← Act.ask (S := QuietSig) .startBackend
      match (started : Except PyException Unit) with
      | .ok () => pure ()
      | .error e =>
          match e.type with
          | .browserConfigError =>
              fail platform op startedAtMs {
                executionStatus := "browser_setup_failed"
                executionError := e.message
                failureKind := e.failureKind }
          | _ => raise e
  | .provided _ =>
      let started ← Act.ask (S := QuietSig) .isStarted
      if !(started : Bool) then
        fail platform op startedAtMs {
          executionStatus := "browser_setup_failed"
          executionError := "host-owned backend must be active before execution"
          failureKind := some "browser_session_not_active" }

/-- `_same_document_url`: equal up to fragment and trailing slashes; `none`
where the URL parser raises. -/
def sameDocumentUrl (codec : HostCodec) (current declared : List Char) : Option Bool :=
  if current = declared ∨ rstripBy (· = '/') current = rstripBy (· = '/') declared then some true
  else
    let base (url : List Char) : Option (List Char) :=
      (urlsplit codec url).map fun parts =>
        let path := rstripBy (· = '/') parts.path
        { parts with path := if path = [] then ['/'] else path, fragment := [] }.geturl
    match base current, base declared with
    | some a, some b => some (a = b)
    | _, _ => none

/-- What the page precondition came out as. -/
structure PreconditionOutcome where
  result : PageConditionResultValue
  matched : Bool
  actualUrl : String

def isBlankUrl (url : String) : Bool := url ∈ ["about:blank", "about:blank/", ""]

/-- The URL of the page; a blank page first enters the declared document. -/
def enterDocument : Quiet String := do
  let actualUrl ← Quiet.pageUrl
  if isBlankUrl actualUrl then
    Act.attempt (S := QuietSig) (.ensureOnUrl op.url op.timeoutMs) (Except.mapError .raised)
    Quiet.pageUrl
  else return actualUrl

/-- The page precondition of a non-navigate operation: the exact declared URL,
or the explicit conditions. -/
def evaluatePrecondition : Quiet PreconditionOutcome := do
  match op.pagePrecondition with
  | none =>
      let actualUrl ← enterDocument op
      match sameDocumentUrl platform.codec actualUrl.toList op.url.toList with
      | none => raise (.valueError "invalid URL")
      | some matched => return ⟨if matched then .pass else .fail, matched, actualUrl⟩
  | some precondition =>
      let evaluation ← Act.ask (S := QuietSig) (.evaluatePagePrecondition precondition)
      match (evaluation : Except PyException PagePreconditionEvaluation) with
      | .ok evaluation =>
          return ⟨evaluation.result, evaluation.matched, evaluation.actualUrl.getD ""⟩
      | .error _ =>
          -- an evaluator error is an indeterminate precondition
          let url ← Act.ask (S := QuietSig) .pageUrl
          let actualUrl := match (url : Except PyException String) with
            | .ok url => url
            | .error _ => ""
          let _ ← Quiet.monotonicMs
          return ⟨.indeterminate, false, actualUrl⟩

def checkPrecondition : Quiet Unit := do
  if op.action.type ≠ .navigate then
    let outcome ← evaluatePrecondition platform op
    let indeterminate := outcome.result = .indeterminate
    if !outcome.matched then
      fail platform op startedAtMs {
        executionStatus := "page_precondition_failed"
        executionError :=
          if indeterminate then "declared page precondition was indeterminate"
          else if op.pagePrecondition.isNone then
            "current page does not match declared operation URL: expected=" ++ op.url ++
              " actual=" ++ outcome.actualUrl
          else "current page does not satisfy the declared page precondition"
        failureKind := some
          (if indeterminate then "page_precondition_indeterminate" else "page_precondition_mismatch")
        actionEvidence := some [("actual_url", .str outcome.actualUrl),
          ("navigation_occurred", .bool false)] }

def checkPlanDeadline : Quiet Unit := do
  match ctx.planTiming with
  | none => pure ()
  | some timing =>
      let now ← Quiet.monotonicMs
      if timing.expired now then
        fail platform op startedAtMs {
          executionStatus := "not_started"
          executionError := "plan deadline expired before operation dispatch"
          failureKind := some "plan_deadline_expired"
          actionEvidence := some [("timeout_occurred", .bool true),
            ("timeout_kind", .str "plan_deadline")]
          verdict := .notVerified }

/-- The observation reference of the call, validated once. -/
def checkObservation : Quiet (Option ObservationFreshnessResult) := do
  match ctx.observationReference with
  | none => return none
  | some reference =>
      let facts ← Act.attempt (S := QuietSig) (.validateObservationReference reference)
        (Except.mapError .raised)
      let validation := validateReference reference facts
      if validation.fresh then return some validation
      else
        fail platform op startedAtMs {
          executionStatus := "observation_precondition_failed"
          executionError :=
            "observation reference rejected immediately before dispatch: " ++ validation.reason
          failureKind := some "stale_observation_reference"
          actionEvidence := some [("observation_transaction",
            .dict [("fresh", .bool false), ("reason", .str validation.reason)]),
            ("dispatch_attempted", .bool false)] }

def prepare : Quiet (Option ObservationFreshnessResult) := do
  checkPrecondition platform op startedAtMs
  checkPlanDeadline platform op ctx startedAtMs
  let _ ← Quiet.observe
  checkObservation platform op ctx startedAtMs

/-! ## Guards -/

/-- How one branch condition came out. -/
structure BranchRecord where
  branch : GuardBranch
  results : List ExpectationResult

def BranchRecord.matched (record : BranchRecord) : Bool :=
  !record.results.isEmpty && record.results.all (·.result = .pass)

def BranchRecord.indeterminate (record : BranchRecord) : Bool :=
  record.results.any (·.result = .indeterminate)

/-- Evaluate every branch condition, in authored order. -/
def evaluateBranches (conditionStarted : Int) (network : List NetworkRecord) :
    List GuardBranch → Quiet (List BranchRecord)
  | [] => return []
  | branch :: rest => do
      let checkedAt ← Quiet.monotonicMs
      let postUrl ← Quiet.pageUrl
      let results ← evaluateExpectations platform.codec
        ⟨conditionStarted, checkedAt, op.freshness, network, postUrl⟩ branch.when_
      let records ← evaluateBranches conditionStarted network rest
      return ⟨branch, results⟩ :: records

/-- The branch the guard selected, with the actions it runs. -/
structure BranchSelection where
  selectedBranch : String
  actions : List Action
  matchedBranchIds : List String

def BranchSelection.evidence (matchedBranchIds : List String) (selected : PyVal) : PyDict :=
  [("guarded", .bool true), ("guard_mode", .str "declared_branches"),
   ("matched_branch_ids", .list (matchedBranchIds.map .str)), ("selected_branch", selected),
   ("branch_actions", .list []), ("primary_action_dispatched", .bool false)]

/-- Branch selection is fail-closed: an indeterminate condition, an ambiguous
match or no match at all ends the execution. -/
def selectBranch (guard : OperationGuard) : Quiet BranchSelection := do
  let conditionStarted ← Quiet.monotonicMs
  let collector ← get
  let records ← evaluateBranches platform op conditionStarted collector.latestNetwork guard.branches
  let selected := (records.filter (·.matched)).map (·.branch)
  let ids := selected.map (·.branchId)
  let evidence (kind : String) : Option PyDict := some [("guard",
    .dict (PyDict.set (BranchSelection.evidence ids .none) "failure_reason" (.str kind)))]
  if records.any (·.indeterminate) then
    fail platform op startedAtMs {
      executionStatus := "guard_condition_indeterminate"
      executionError := "a declared guard condition was stale or indeterminate"
      failureKind := some "guard_condition_indeterminate"
      actionEvidence := evidence "guard_condition_indeterminate"
      verdict := .indeterminate }
  else
    match selected, guard.otherwise with
    | _ :: _ :: _, _ =>
        fail platform op startedAtMs {
          executionStatus := "guard_ambiguous_matches"
          executionError := "multiple declared mutually-exclusive guard branches matched"
          failureKind := some "guard_ambiguous_matches"
          actionEvidence := evidence "guard_ambiguous_matches"
          verdict := .indeterminate }
    | [branch], _ => return ⟨branch.branchId, branch.execute, ids⟩
    | [], some actions => return ⟨"otherwise", actions, ids⟩
    | [], none =>
        fail platform op startedAtMs {
          executionStatus := "guard_no_branch_matched"
          executionError := "no declared guard branch matched and no otherwise branch exists"
          failureKind := some "guard_no_branch_matched"
          actionEvidence := evidence "guard_no_branch_matched"
          verdict := .notVerified }

/-- Dispatch an operation; what the backend raises is raised. -/
def dispatch (op : Operation) (timing : Option PlanTiming) : Stage ActionDispatchResult :=
  Act.attempt (S := RuntimeSig) (.inr (.dispatch op timing)) (Except.mapError .raised)

def branchActionRecord (index : Nat) (action : Action) (dispatched : ActionDispatchResult) : PyVal :=
  .dict [("index", .int index), ("action_type", .str action.type.value),
    ("dispatched", .bool dispatched.ok),
    ("failure_kind", (dispatched.failureKind.map PyVal.str).getD .none)]

/-- `branch_guard_evidence` after some branch actions. -/
def branchEvidence (selection : BranchSelection) (branchActions : List PyVal) : PyDict :=
  PyDict.set (BranchSelection.evidence selection.matchedBranchIds (.str selection.selectedBranch))
    "branch_actions" (.list branchActions)

/-- Run the actions of the selected branch, one after the other, up to the first
that fails. -/
def dispatchBranchActions (selection : BranchSelection) (done : List PyVal) :
    List Action → Stage (List PyVal × List RecoveryAttempt)
  | [] => return (done, [])
  | action :: rest => do
      let dispatched ← dispatch (op.branchOperation action) ctx.planTiming
      let records := done ++ [branchActionRecord done.length action dispatched]
      if dispatched.ok then
        let (records, attempts) ← dispatchBranchActions selection records rest
        return (records, dispatched.recoveryAttempts ++ attempts)
      else
        Act.left (T := EffectSig) <| fail platform op startedAtMs {
          executionStatus := "guard_branch_action_failed"
          executionError := dispatched.error.getD "selected guard branch action did not complete"
          failureKind := some (dispatched.failureKind.getD "guard_branch_action_failed")
          actionEvidence := some [("guard", .dict (PyDict.set (branchEvidence selection records)
            "failure_reason" (.str "guard_branch_action_failed")))] }

/-- The two ways past a legacy guard. -/
inductive GuardProbeOutcome
  | targetPresent
  | targetAbsent (startedAtMs completedAtMs : Int)

def guardProbeEvidence : PyDict :=
  [("guarded", .bool true), ("branch", .none), ("dispatched", .bool false), ("skipped", .bool false),
   ("already_satisfied", .bool false), ("guard_expectation_results", .list []),
   ("normal_expectation_results", .list [])]

def probeGuard : Quiet GuardProbeOutcome := do
  let probeStarted ← Quiet.monotonicMs
  let probe ← Act.ask (S := QuietSig) (.probeGuardedActionTarget op)
  match (probe : Except PyException GuardProbe) with
  | .error e =>
      fail platform op startedAtMs {
        executionStatus := "guard_resolution_failed"
        executionError := "guard target resolution failed: " ++ e.type.name
        failureKind := some "guard_target_resolution_error"
        actionEvidence := some guardProbeEvidence }
  | .ok probe =>
      if probe.ok then return .targetPresent
      else if probe.matchCount = 0 ∧ (probe.failureKind = some "zero_after_primary" ∨
          probe.failureKind = some "zero_after_constraints") then
        let completed ← Quiet.monotonicMs
        return .targetAbsent probeStarted completed
      else
        fail platform op startedAtMs {
          executionStatus := "guard_resolution_failed"
          executionError := probe.error.getD "guarded target resolution failed"
          failureKind := probe.failureKind
          actionEvidence := some guardProbeEvidence }

/-! ## The dispatch -/

/-- What the stages after the dispatch read. -/
structure ActionFacts where
  actionStarted : Int
  actionCompleted : Int
  actionOk : Bool
  executionStatus : String
  executionError : Option String := none
  failureKind : Option String := none
  actionEvidence : Option PyDict
  recoveryAttempts : List RecoveryAttempt := []
  guardedSkip : Bool := false
  activeExpectations : List Expectation
  deriving Repr

/-- The evidence added to what the backend reports for the primary action. -/
inductive GuardEvidence
  | none
  | targetPresent
  | branches (evidence : PyDict)

def GuardEvidence.attach (guard : GuardEvidence) (ok : Bool) (evidence : Option PyDict) :
    Option PyDict :=
  match guard with
  | .none => evidence
  | .targetPresent =>
      some (PyDict.update (evidence.getD []) [("guarded", .bool true),
        ("branch", .str "target_present"), ("skipped", .bool false),
        ("already_satisfied", .bool false)])
  | .branches record =>
      some (PyDict.set (evidence.getD []) "guard"
        (.dict (PyDict.set record "primary_action_dispatched" (.bool ok))))

def attachObservation (validation : Option ObservationFreshnessResult) (evidence : Option PyDict) :
    Option PyDict :=
  match validation with
  | none => evidence
  | some v => some (PyDict.set (evidence.getD []) "observation_transaction"
      (.dict [("fresh", .bool v.fresh), ("reason", .str v.reason)]))

/-- What the executor keeps of the result of the primary dispatch. -/
def primaryFacts (guard : GuardEvidence) (attempts : List RecoveryAttempt)
    (validation : Option ObservationFreshnessResult) (result : ActionDispatchResult) :
    ActionFacts where
  actionStarted := result.startedAtMs
  actionCompleted := result.completedAtMs
  actionOk := result.ok
  executionStatus := if result.ok then "completed" else "failed"
  executionError := result.error
  failureKind := result.failureKind
  actionEvidence := attachObservation validation (guard.attach result.ok result.actionEvidence)
  recoveryAttempts := attempts ++ result.recoveryAttempts
  activeExpectations := op.expectations

/-- The dispatch of the operation's own action. -/
def dispatchPrimary (guard : GuardEvidence) (attempts : List RecoveryAttempt)
    (validation : Option ObservationFreshnessResult) : Stage ActionFacts := do
  let result ← dispatch op ctx.planTiming
  return primaryFacts op guard attempts validation result

/-- What the executor keeps when the guarded target is absent. -/
def absentFacts (expectations : List Expectation) (started completed : Int) : ActionFacts where
  actionStarted := started
  actionCompleted := completed
  actionOk := true
  executionStatus := "completed"
  actionEvidence := some [("guarded", .bool true), ("branch", .str "target_absent"),
    ("dispatched", .bool false), ("skipped", .bool true), ("already_satisfied", .bool true)]
  guardedSkip := true
  activeExpectations := expectations

/-- The guard, the actions it selects, and the operation's own action. -/
def act (validation : Option ObservationFreshnessResult) : Stage ActionFacts := do
  match op.guard with
  | none => dispatchPrimary op ctx .none [] validation
  | some guard =>
      match guard.whenTargetAbsent with
      | some expectations =>
          let outcome ← Act.left (T := EffectSig) (probeGuard platform op startedAtMs)
          match outcome with
          | .targetPresent => dispatchPrimary op ctx .targetPresent [] validation
          | .targetAbsent started completed => return absentFacts expectations started completed
      | none =>
          let selection ← Act.left (T := EffectSig) (selectBranch platform op startedAtMs guard)
          let (records, attempts) ←
            dispatchBranchActions platform op ctx startedAtMs selection [] selection.actions
          dispatchPrimary op ctx (.branches (branchEvidence selection records)) attempts validation

/-! ## After the dispatch -/

/-- What the verification loop leaves behind. -/
structure VerificationOutcome where
  started : Int
  completed : Int
  results : List ExpectationResult := []

/-- One evaluation of the verification loop, and whether the loop ends with it:
every expectation passed, some evidence was not fresh, or the deadline is over. -/
def pollOnce (actionStarted deadline : Int) (expectations : List Expectation)
    (network : List NetworkRecord) : Quiet ((Int × List ExpectationResult) × Bool) := do
  let completed ← Quiet.monotonicMs
  let postUrl ← Quiet.pageUrl
  let results ← evaluateExpectations platform.codec
    ⟨actionStarted, completed, op.freshness, network, postUrl⟩ expectations
  if results.all (·.result = .pass) ||
      results.any fun r => r.result = .indeterminate && r.freshnessOk = some false then
    return ((completed, results), true)
  else
    let now ← Quiet.monotonicMs
    return ((completed, results), deadline ≤ now)

/-- The verification loop, with a bound on the polls after the first evaluation. -/
def pollExpectations (actionStarted deadline : Int) (expectations : List Expectation)
    (polls : Nat) (network : List NetworkRecord) : Quiet (Int × List ExpectationResult) := do
  let (out, finished) ← pollOnce platform op actionStarted deadline expectations network
  if finished then return out
  else
    match polls with
    | 0 => Act.diverge
    | polls + 1 =>
        Act.attempt (S := QuietSig) (.waitForTimeout 50) (Except.mapError .raised)
        let _ ← Quiet.observe
        let collector ← get
        pollExpectations actionStarted deadline expectations polls collector.latestNetwork

def verify (facts : ActionFacts) : Quiet VerificationOutcome := do
  let collector ← get
  let started ← Quiet.monotonicMs
  if facts.actionOk && !facts.activeExpectations.isEmpty then
    let now ← Quiet.monotonicMs
    let limit := now + op.timeoutMs
    let deadline := match ctx.planTiming.bind (·.planDeadlineMs) with
      | some planDeadline => min limit planDeadline
      | none => limit
    let (completed, results) ← pollExpectations platform op facts.actionStarted deadline
      facts.activeExpectations ctx.maxPolls collector.latestNetwork
    return ⟨started, completed, results⟩
  else return { started := started, completed := started }

/-- The freshness evaluation of the receipt, with the evidence of the results
that were not fresh. -/
def finalFreshness (facts : ActionFacts) (verification : VerificationOutcome)
    (signals : List EvidenceSignal) : FreshnessEvaluation :=
  let freshness := evaluateFreshness op.freshness (some facts.actionStarted)
    (some verification.completed) signals (verification.results.flatMap (·.evidenceRefs))
  let refs := (verification.results.filter (·.freshnessOk == some false)).flatMap (·.evidenceRefs)
  { freshness with
    staleSignalIds := refs.foldl (fun ids ref => if ref ∈ ids then ids else ids ++ [ref])
      freshness.staleSignalIds }

/-- The verdict with the status, error and failure kind that go with it. -/
structure Conclusion where
  verdict : Verdict
  executionStatus : String
  executionError : Option String
  failureKind : Option String
  quorumVerification : Option QuorumResult := none

/-- What a WebAuthn participation does to the verdict. -/
def applyWebauthn (facts : ActionFacts) (status : Option WebauthnStatus) (c : Conclusion) :
    Conclusion :=
  match status with
  | none => c
  | some .rejected =>
      { c with
        verdict := .notVerified, failureKind := some "webauthn_host_rejected"
        executionStatus := "webauthn_rejected"
        executionError := some "host rejected WebAuthn participation" }
  | some .completed =>
      -- a host callback is not browser proof
      if facts.activeExpectations.isEmpty then
        { c with
          verdict := .indeterminate
          failureKind := some "webauthn_completion_not_browser_verification"
          executionStatus := "webauthn_completed_unverified" }
      else c
  | some status =>
      { c with
        verdict := .indeterminate, failureKind := some ("webauthn_" ++ status.value)
        executionStatus := "webauthn_" ++ status.value
        executionError := some "WebAuthn participation did not complete" }

/-- A guarded target that is absent has to prove the declared condition. -/
def applyGuard (facts : ActionFacts) (c : Conclusion) : Conclusion :=
  if facts.guardedSkip && c.verdict != .verified then
    { c with
      failureKind := some "guarded_target_absent_condition_not_proven"
      executionStatus := "guard_condition_failed"
      executionError := some ("guarded target was absent and the declared already-satisfied " ++
        "condition was not proven") }
  else c

/-- The verdict of a declared quorum replaces the one of the expectations. -/
def applyQuorum (facts : ActionFacts) (results : List ExpectationResult) (c : Conclusion) :
    Except PyException Conclusion := do
  match op.verificationQuorum with
  | none => return c
  | some quorum =>
      if !facts.actionOk then return c
      let q ← evaluateQuorum quorum results
      let c := { c with verdict := q.verdict, quorumVerification := some q }
      match q.verdict with
      | .notVerified =>
          return { c with
            failureKind := some "verification_quorum_not_met"
            executionStatus := "verification_quorum_not_met", executionError := some q.reason }
      | .indeterminate =>
          return { c with
            failureKind := some "verification_quorum_indeterminate"
            executionStatus := "verification_quorum_indeterminate", executionError := some q.reason }
      | _ => return c

/-- Whether a screenshot is due under the policy. -/
def ScreenshotPolicy.captures (policy : ScreenshotPolicy) (verdict : Verdict) : Bool :=
  ((policy == .always || policy == .afterSuccess) && verdict == .verified) ||
    (policy == .onFailure && verdict != .verified) || policy == .beforeAndAfter

def attachNetworkArtifact (receipt : ExecutionReceipt) : Quiet ExecutionReceipt := do
  match op.networkArtifact with
  | none => return receipt
  | some request =>
      let id ← Act.attempt (S := QuietSig) (.captureNetworkArtifact op.operationId request)
        (Except.mapError .raised)
      return { receipt with artifacts := [⟨id, .networkTrace⟩] }

/-- A screenshot in the receipt, and what a failed mandatory redaction does. -/
def ExecutionReceipt.withScreenshot (config : ScreenshotConfig) (shot : ScreenshotFacts)
    (receipt : ExecutionReceipt) : ExecutionReceipt :=
  let receipt :=
    { receipt with artifacts := receipt.artifacts ++ [⟨shot.artifactId, .screenshot⟩] }
  if config.mandatoryRedaction && (!shot.captured || shot.redactionStatus != some "applied") then
    { receipt with
      verdict := .executionFailed
      executionStatus := "evidence_capture_failed"
      failureKind := some "screenshot_redaction_failed"
      executionError := some ("mandatory screenshot redaction could not be honored: " ++
        (shot.captureError.getD (shot.redactionStatus.getD "None"))) }
  else receipt

def attachScreenshot (receipt : ExecutionReceipt) : Quiet ExecutionReceipt := do
  let config := (ctx.screenshotConfig.orElse fun _ => op.screenshotConfig).getD {}
  if config.policy.captures receipt.verdict && 0 < config.maxPerOperation then
    let reason := if receipt.verdict = .verified then "after_success" else "failure"
    let shot ← Act.attempt (S := QuietSig) (.captureScreenshot op.operationId reason)
      (Except.mapError .raised)
    return receipt.withScreenshot config shot
  else return receipt

/-- The receipt before its artifacts. -/
def assembleReceipt (facts : ActionFacts) (verification : VerificationOutcome)
    (freshness : FreshnessEvaluation) (c : Conclusion) (signals : List EvidenceSignal)
    (url : String) (finishedAtMs : Int) : ExecutionReceipt where
  operationId := op.operationId
  verdict := c.verdict
  actionType := op.action.type
  targetUrl := op.url
  startedAtMs := startedAtMs
  finishedAtMs := finishedAtMs
  actionStartedAtMs := some facts.actionStarted
  actionCompletedAtMs := some facts.actionCompleted
  verificationCompletedAtMs := some verification.completed
  executionStatus := c.executionStatus
  executionError := c.executionError
  expectationResults := verification.results
  evidence := boundedSignals signals
  freshness := freshness
  recoveryAttempts := facts.recoveryAttempts
  actionExecutedSuccessfully := facts.actionOk && !facts.guardedSkip
  expectationsDeclared := facts.activeExpectations.length
  failureKind := c.failureKind
  actionEvidence := facts.actionEvidence
  navigationOccurred := op.action.type = .navigate && facts.actionOk
  dispatchDocumentUrl := some url
  quorumVerification := c.quorumVerification

def sanitizeReceipt (receipt : ExecutionReceipt) : ExecutionReceipt :=
  { receipt with actionEvidence := receipt.actionEvidence.map (sanitizeEvidence platform) }

/-- The WebAuthn step of the operation, once its action succeeded. -/
def participateWebauthn (facts : ActionFacts) : Quiet (Option WebauthnStatus) := do
  match op.webauthn with
  | none => return none
  | some request =>
      if facts.actionOk && !facts.guardedSkip then
        let status ← Act.attempt (S := QuietSig) (.participateWebauthn request)
          (Except.mapError .raised)
        return some status
      else return none

def attachWebauthn (status : Option WebauthnStatus) (evidence : Option PyDict) : Option PyDict :=
  match status with
  | none => evidence
  | some s => some (PyDict.set (evidence.getD []) "webauthn" (.dict [("status", .str s.value)]))

/-- Everything between the dispatch and the receipt. -/
def conclude (facts : ActionFacts) : Quiet ExecutionReceipt := do
  let webauthn ← participateWebauthn op facts
  let facts := { facts with actionEvidence := attachWebauthn webauthn facts.actionEvidence }
  let _ ← Quiet.observe
  let verification ← verify platform op ctx facts
  let collector ← get
  let freshness := finalFreshness op facts verification collector.signals
  let stale := if facts.activeExpectations.isEmpty then [] else freshness.staleSignalIds
  let verdict ← Act.ofExcept ((decideVerdict facts.actionOk facts.activeExpectations.length
    verification.results stale op.action.type facts.actionEvidence).mapError .raised)
  let base : Conclusion :=
    ⟨verdict, facts.executionStatus, facts.executionError, facts.failureKind, none⟩
  let conclusion ← Act.ofExcept ((applyQuorum op facts verification.results
    (applyGuard facts (applyWebauthn facts webauthn base))).mapError .raised)
  let finished ← Quiet.monotonicMs
  let url ← Quiet.pageUrl
  let receipt ← attachNetworkArtifact op
    (assembleReceipt op startedAtMs facts verification freshness conclusion collector.signals url
      finished)
  let receipt ← attachScreenshot op ctx receipt
  return sanitizeReceipt platform receipt

/-! ## The whole execution -/

/-- The body of the `try` block. -/
def runOperation : Stage ExecutionReceipt := do
  Act.left (T := EffectSig) (acquireBackend platform op ctx startedAtMs)
  let validation ← Act.left (T := EffectSig) (prepare platform op ctx startedAtMs)
  let facts ← act platform op ctx startedAtMs validation
  Act.left (T := EffectSig) (conclude platform op ctx startedAtMs facts)

/-- `except Exception`: what an execution raises becomes a failed receipt. -/
def internalError (e : PyException) : Quiet FailedReceipt :=
  failedReceipt platform op startedAtMs {
    executionStatus := "failed"
    executionError := e.describe
    failureKind := some "internal_runtime_error" }

/-- `finally`: an owned backend is stopped. -/
def releaseBackend : Quiet Unit := do
  match ctx.source with
  | .provided _ => pure ()
  | .owned _ _ => Act.attempt (S := QuietSig) .stopBackend (Except.mapError .raised)

/-- An early end is the result of the execution; an exception is reported. -/
def recover (halt : Halt) : Stage ExecutionReceipt := do
  match halt with
  | .receipt failed => return failed.receipt
  | .raised e =>
      let failed ← Act.left (T := EffectSig) (internalError platform op startedAtMs e)
      return failed.receipt

/-- The `try` statement. -/
def guardedRun : Stage ExecutionReceipt :=
  Act.andFinally
    (tryCatch (runOperation platform op ctx startedAtMs) (recover platform op startedAtMs))
    (Act.left (T := EffectSig) (releaseBackend ctx))

/-- An early end before the `try` statement is the result, too. -/
def settle (halt : Halt) : Stage ExecutionReceipt :=
  match halt with
  | .receipt failed => return failed.receipt
  | .raised e => throw (.raised e)

/-- `_execute_operation` -/
def executeOperation (platform : Platform) (op : Operation) (ctx : ExecutionContext) :
    Stage ExecutionReceipt := do
  let startedAtMs ← Act.left (T := EffectSig) Quiet.monotonicMs
  let body : Stage ExecutionReceipt := do
    Act.left (T := EffectSig) (validateRequest platform op ctx startedAtMs)
    guardedRun platform op ctx startedAtMs
  tryCatch body settle

end Dingdongditch
