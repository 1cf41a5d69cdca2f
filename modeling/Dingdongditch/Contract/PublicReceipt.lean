import Dingdongditch.Contract.Plan
import Dingdongditch.Contract.ReceiptChain
import Dingdongditch.Text.DataClass
import Dingdongditch.Text.JsonKeys
import Dingdongditch.Text.JsonText

/-!
# Public receipts

Execution and plan receipts as they are exported, with every field that `to_dict`
writes, and the parsers that read them back.  A field that the parser takes over as
it is holds a JSON value.
-/

namespace Dingdongditch

open Text

/-! ## Values of enumerations -/

/-- The member of an enumeration that has this value. -/
def memberOf {α F : Type} (members : List α) (value : α → String) : Json F → Option α
  | .str s => members.find? (value · = s)
  | _ => none

def Verdict.all : List Verdict := [verified, notVerified, executionFailed, indeterminate]

namespace Plan.PlanVerdict

def all : List PlanVerdict := [verified, notVerified, executionFailed, indeterminate]

def value : PlanVerdict → String
  | .verified => "VERIFIED"
  | .notVerified => "NOT_VERIFIED"
  | .executionFailed => "EXECUTION_FAILED"
  | .indeterminate => "INDETERMINATE"

end Plan.PlanVerdict

namespace Plan.CompletionStatus

def all : List CompletionStatus := [completed, stopped, notStarted]

def value : CompletionStatus → String
  | .completed => "completed"
  | .stopped => "stopped"
  | .notStarted => "not_started"

end Plan.CompletionStatus

namespace SignalKind

def all : List SignalKind := [url, domState, network, actionResult, console, timestamp]

def value : SignalKind → String
  | .url => "url"
  | .domState => "dom_state"
  | .network => "network"
  | .actionResult => "action_result"
  | .console => "console"
  | .timestamp => "timestamp"

end SignalKind

inductive SignalAvailability
  | observed | notRequested | unavailable | contradicted
  deriving DecidableEq, Repr

namespace SignalAvailability

def all : List SignalAvailability := [observed, notRequested, unavailable, contradicted]

def value : SignalAvailability → String
  | .observed => "observed"
  | .notRequested => "not_requested"
  | .unavailable => "unavailable"
  | .contradicted => "contradicted"

end SignalAvailability

namespace PublicReceipt

variable {F : Type}

/-! ## Issues -/

/-- `ValidationIssue` -/
structure ValidationIssue where
  code : String
  pointer : String
  message : String
  expected : Option String := none
  observedType : Option String := none
  deriving DecidableEq, Repr

/-- `type(value).__name__` -/
def typeName : Json F → String
  | .null => "NoneType"
  | .bool _ => "bool"
  | .int _ => "int"
  | .float _ => "float"
  | .str _ => "str"
  | .list _ => "list"
  | .dict _ => "dict"

/-- `_safe_type`, for a pointer that names no secret. -/
def safeType : Json F → Option String
  | .null => none
  | value => some (typeName value)

/-- `_issue_from_exception`, of the text of an exception. -/
def issueFromException (text : String) : ValidationIssue :=
  ⟨"invalid_contract", "", text, none, some "dict"⟩

/-- What an exception in the reading of a receipt ends in. -/
def caught {α : Type} : Except String α → Except ValidationIssue α
  | .ok a => .ok a
  | .error text => .error (issueFromException text)

/-- A value that is there, or the text of the exception. -/
def orRaise {α : Type} (text : String) : Option α → Except String α
  | some a => .ok a
  | none => .error text

/-! ## Payloads -/

mutual

/-- Whether no dictionary repeats a key. -/
def keysDiffer : Json F → Bool
  | .list items => keysDifferItems items
  | .dict entries => (entries.map (·.1)).Nodup && keysDifferEntries entries
  | _ => true

def keysDifferItems : List (Json F) → Bool
  | [] => true
  | item :: items => keysDiffer item && keysDifferItems items

def keysDifferEntries : List (String × Json F) → Bool
  | [] => true
  | (_, value) :: entries => keysDiffer value && keysDifferEntries entries

end

/-- `_coerce_payload`, of a decoded value or of a text. -/
def coercePayload [Floating F] [Json.ReadsFloat F] (payload : Json F) :
    Except ValidationIssue (Public F) :=
  match payload with
  | .dict entries => .ok entries
  | .str text =>
      match (Json.loads text.toList : Option (Json F)) with
      | some value =>
          if keysDiffer value && value.isFinite then
            match value with
            | .dict entries => .ok entries
            | _ => .error ⟨"invalid_type", "", "payload must be an object", some "object", some "str"⟩
          else .error ⟨"invalid_json", "", "payload must be valid JSON", some "JSON object", none⟩
      | none => .error ⟨"invalid_json", "", "payload must be valid JSON", some "JSON object", none⟩
  | value =>
      .error ⟨"invalid_type", "", "payload must be an object", some "object", some (typeName value)⟩

/-- The kinds of receipts, with their versions and the fields that they may have. -/
structure ReceiptKind where
  label : String
  version : String
  allowed : List String

/-- `_require_receipt_mapping` -/
def requireReceiptMapping [Floating F] [Json.ReadsFloat F] (kind : ReceiptKind) (payload : Json F) :
    Except ValidationIssue (Public F) := do
  let raw ← coercePayload payload
  if raw.any fun entry => !kind.allowed.contains entry.1 then
    throw ⟨"unknown_field", "", kind.label ++ " contains unknown fields",
      some "a documented field only", none⟩
  if !Json.pyEq (Json.get raw "schema_version") (.str kind.version) then
    throw ⟨"unsupported_receipt_version", "/schema_version",
      "unsupported " ++ kind.label ++ " schema version", some kind.version,
      safeType (Json.get raw "schema_version")⟩
  return raw

/-- `raw[key]` -/
def item (raw : Public F) (key : String) : Except String (Json F) :=
  orRaise ("'" ++ key ++ "'") (raw.lookup key)

/-- The items of `list(value)`. -/
def listOf : Json F → Except String (List (Json F))
  | .list items => .ok items
  | .str s => .ok (s.toList.map fun c => .str (String.singleton c))
  | .dict entries => .ok (entries.map fun entry => .str entry.1)
  | value => .error ("'" ++ typeName value ++ "' object is not iterable")

/-- The dictionary that is subscripted by names. -/
def mapping : Json F → Except String (Public F)
  | .dict entries => .ok entries
  | value => .error ("'" ++ typeName value ++ "' object is not subscriptable by name")

def integer : Json F → Except String Int
  | .int n => .ok n
  | value => .error ("'" ++ typeName value ++ "' object is not an integer")

/-- `cls(**value)` -/
def make (cls : DataClass F) (value : Json F) : Except String (Instance cls) :=
  orRaise (cls.name ++ "() got other arguments than its fields") (cls.construct value)

/-! ## Evidence -/

def observationSummary : DataClass F where
  name := "ObservationSummary"
  fields := [("collected_at_ms", none), ("url", some .null), ("notes", some (.str "")),
    ("signal_ids", some (.list []))]
  distinct := by simp

def expectationResult : DataClass F where
  name := "ExpectationResult"
  fields := [("expectation_id", none), ("expectation_type", none), ("expected", none),
    ("observed", none), ("result", none), ("evidence_refs", some (.list [])),
    ("evidence_timestamp_ms", some .null), ("explanation", some (.str "")),
    ("freshness_ok", some .null), ("failure_evidence", some .null)]
  distinct := by simp

def freshnessEvaluation : DataClass F where
  name := "FreshnessEvaluation"
  fields := [("policy_max_age_ms", none), ("action_started_at_ms", none),
    ("verification_completed_at_ms", none), ("stale_signal_ids", some (.list [])),
    ("notes", some (.str ""))]
  distinct := by simp

def recoveryAttempt : DataClass F where
  name := "RecoveryAttempt"
  fields := [("reason", none), ("attempt_index", none), ("occurred_at_ms", none),
    ("detail", some (.str ""))]
  distinct := by simp

structure EvidenceSignal (F : Type) where
  signalId : Json F
  kind : SignalKind
  availability : SignalAvailability
  collectedAtMs : Json F
  payload : Json F
  notes : Json F

namespace EvidenceSignal

def toJson (signal : EvidenceSignal F) : Json F :=
  .dict [
    ("signal_id", signal.signalId),
    ("kind", .str signal.kind.value),
    ("availability", .str signal.availability.value),
    ("collected_at_ms", signal.collectedAtMs),
    ("payload", signal.payload),
    ("notes", signal.notes)]

def ofJson (value : Json F) : Except String (EvidenceSignal F) := do
  let raw ← mapping value
  let kind ← item raw "kind"
  let availability ← item raw "availability"
  return {
    signalId := ← item raw "signal_id"
    kind := ← orRaise "not a valid SignalKind" (memberOf SignalKind.all SignalKind.value kind)
    availability := ← orRaise "not a valid SignalAvailability"
      (memberOf SignalAvailability.all SignalAvailability.value availability)
    collectedAtMs := ← item raw "collected_at_ms"
    payload := ← item raw "payload"
    notes := Json.getOr raw "notes" (.str "") }

end EvidenceSignal

/-! ## Execution receipts -/

def RECEIPT_SCHEMA_VERSION : String := "1.8.0"

/-- `ExecutionReceipt` -/
structure ExecutionReceipt (F : Type) where
  schemaVersion : Json F
  operationId : Json F
  verdict : Verdict
  actionType : Json F
  targetLocator : Json F
  targetResolution : Json F
  targetUrl : Json F
  startedAtMs : Json F
  finishedAtMs : Json F
  actionStartedAtMs : Json F
  actionCompletedAtMs : Json F
  verificationCompletedAtMs : Json F
  executionStatus : Json F
  executionError : Json F
  failureKind : Json F
  actionExecutedSuccessfully : Json F
  actionEvidence : Json F
  pagePrecondition : Json F
  navigationOccurred : Json F
  dispatchDocumentUrl : Json F
  telemetry : Option (List (Json F))
  operationTiming : Json F
  expectationEvidence : Option (List (Json F))
  artifacts : Option (List (Json F))
  cleanup : Json F
  pageTransition : Json F
  authorityDecision : Json F
  transaction : Json F
  quorumVerification : Json F
  controlEpoch : Json F
  receiptChain : Json F
  signedPlan : Json F
  identity : Json F
  mutationArbitration : Json F
  speculation : Json F
  expectationsDeclared : Json F
  preActionObservation : Option (Instance (observationSummary (F := F)))
  postActionObservation : Option (Instance (observationSummary (F := F)))
  expectationResults : List (Instance (expectationResult (F := F)))
  evidence : List (EvidenceSignal F)
  freshness : Instance (freshnessEvaluation (F := F))
  recoveryAttempts : List (Instance (recoveryAttempt (F := F)))
  limitations : List (Json F)
  backendIdentity : Json F
  browserIdentity : Json F
  browser : Json F
  runtimeVersion : Json F

namespace ExecutionReceipt

/-- `ExecutionReceipt.to_dict` -/
def toDict (r : ExecutionReceipt F) : Public F := [
  ("schema_version", r.schemaVersion),
  ("operation_id", r.operationId),
  ("verdict", .str r.verdict.value),
  ("action_type", r.actionType),
  ("target_locator", r.targetLocator),
  ("target_resolution", r.targetResolution),
  ("target_url", r.targetUrl),
  ("started_at_ms", r.startedAtMs),
  ("finished_at_ms", r.finishedAtMs),
  ("action_started_at_ms", r.actionStartedAtMs),
  ("action_completed_at_ms", r.actionCompletedAtMs),
  ("verification_completed_at_ms", r.verificationCompletedAtMs),
  ("execution_status", r.executionStatus),
  ("execution_error", r.executionError),
  ("failure_kind", r.failureKind),
  ("action_executed_successfully", r.actionExecutedSuccessfully),
  ("action_evidence", r.actionEvidence),
  ("page_precondition", r.pagePrecondition),
  ("navigation_occurred", r.navigationOccurred),
  ("dispatch_document_url", r.dispatchDocumentUrl),
  ("telemetry", .list (r.telemetry.getD [])),
  ("operation_timing", r.operationTiming),
  ("expectation_evidence", .list (r.expectationEvidence.getD [])),
  ("artifacts", .list (r.artifacts.getD [])),
  ("cleanup", r.cleanup),
  ("page_transition", r.pageTransition),
  ("authority_decision", r.authorityDecision),
  ("transaction", r.transaction),
  ("quorum_verification", r.quorumVerification),
  ("control_epoch", r.controlEpoch),
  ("receipt_chain", r.receiptChain),
  ("signed_plan", r.signedPlan),
  ("identity", r.identity),
  ("mutation_arbitration", r.mutationArbitration),
  ("speculation", r.speculation),
  ("expectations_declared", r.expectationsDeclared),
  ("pre_action_observation", r.preActionObservation.elim .null (·.toJson)),
  ("post_action_observation", r.postActionObservation.elim .null (·.toJson)),
  ("expectation_results", .list (r.expectationResults.map (·.toJson))),
  ("evidence", .list (r.evidence.map (·.toJson))),
  ("freshness", r.freshness.toJson),
  ("recovery_attempts", .list (r.recoveryAttempts.map (·.toJson))),
  ("limitations", .list r.limitations),
  ("backend_identity", r.backendIdentity),
  ("browser_identity", r.browserIdentity),
  ("browser", r.browser),
  ("runtime_version", r.runtimeVersion)]

end ExecutionReceipt

def executionReceiptKind : ReceiptKind where
  label := "execution receipt"
  version := RECEIPT_SCHEMA_VERSION
  allowed := [
    "schema_version", "operation_id", "verdict", "action_type", "target_locator",
    "target_resolution", "target_url", "started_at_ms", "finished_at_ms", "action_started_at_ms",
    "action_completed_at_ms", "verification_completed_at_ms", "execution_status",
    "execution_error", "failure_kind", "action_executed_successfully", "action_evidence",
    "page_precondition", "navigation_occurred", "dispatch_document_url", "telemetry",
    "operation_timing", "expectation_evidence", "artifacts", "cleanup", "page_transition",
    "authority_decision", "transaction", "quorum_verification", "control_epoch",
    "receipt_chain", "signed_plan", "identity", "mutation_arbitration", "speculation",
    "expectations_declared", "pre_action_observation", "post_action_observation",
    "expectation_results", "evidence", "freshness", "recovery_attempts", "limitations",
    "backend_identity", "browser_identity", "browser", "runtime_version"]

/-- An observation summary, or `None`. -/
def summaryOf (value : Json F) : Except String (Option (Instance (observationSummary (F := F)))) :=
  match value with
  | .null => .ok none
  | value => (make observationSummary value).map some

/-- Whether `control_epoch` is `None` or an integer from 0 on. -/
def isEpoch : Json F → Bool
  | .null => true
  | .int n => 0 ≤ n
  | _ => false

/-- The receipt that the fields of a payload make. -/
def executionReceiptOf (raw : Public F) : Except String (ExecutionReceipt F) := do
  return {
    schemaVersion := ← item raw "schema_version"
    operationId := ← item raw "operation_id"
    verdict := ← orRaise "not a valid Verdict"
      (memberOf Verdict.all Verdict.value (← item raw "verdict"))
    actionType := ← item raw "action_type"
    targetLocator := ← item raw "target_locator"
    targetResolution := ← item raw "target_resolution"
    targetUrl := ← item raw "target_url"
    startedAtMs := ← item raw "started_at_ms"
    finishedAtMs := ← item raw "finished_at_ms"
    actionStartedAtMs := ← item raw "action_started_at_ms"
    actionCompletedAtMs := ← item raw "action_completed_at_ms"
    verificationCompletedAtMs := ← item raw "verification_completed_at_ms"
    executionStatus := ← item raw "execution_status"
    executionError := ← item raw "execution_error"
    failureKind := ← item raw "failure_kind"
    actionExecutedSuccessfully := ← item raw "action_executed_successfully"
    actionEvidence := ← item raw "action_evidence"
    pagePrecondition := ← item raw "page_precondition"
    navigationOccurred := ← item raw "navigation_occurred"
    dispatchDocumentUrl := ← item raw "dispatch_document_url"
    telemetry := some (← listOf (← item raw "telemetry"))
    operationTiming := ← item raw "operation_timing"
    expectationEvidence := some (← listOf (← item raw "expectation_evidence"))
    artifacts := some (← listOf (← item raw "artifacts"))
    cleanup := ← item raw "cleanup"
    pageTransition := ← item raw "page_transition"
    authorityDecision := Json.get raw "authority_decision"
    transaction := Json.get raw "transaction"
    expectationsDeclared := ← item raw "expectations_declared"
    preActionObservation := ← summaryOf (← item raw "pre_action_observation")
    postActionObservation := ← summaryOf (← item raw "post_action_observation")
    expectationResults := ← (← listOf (← item raw "expectation_results")).mapM (make expectationResult)
    evidence := ← (← listOf (← item raw "evidence")).mapM EvidenceSignal.ofJson
    freshness := ← make freshnessEvaluation (← item raw "freshness")
    recoveryAttempts := ← (← listOf (← item raw "recovery_attempts")).mapM (make recoveryAttempt)
    limitations := ← listOf (← item raw "limitations")
    backendIdentity := ← item raw "backend_identity"
    browserIdentity := ← item raw "browser_identity"
    browser := ← item raw "browser"
    runtimeVersion := ← item raw "runtime_version"
    quorumVerification := Json.get raw "quorum_verification"
    controlEpoch := Json.get raw "control_epoch"
    receiptChain := Json.get raw "receipt_chain"
    signedPlan := Json.get raw "signed_plan"
    identity := Json.get raw "identity"
    mutationArbitration := Json.get raw "mutation_arbitration"
    speculation := Json.get raw "speculation" }

/-- `parse_execution_receipt` -/
def parseExecutionReceipt [Floating F] [Json.ReadsFloat F] (payload : Json F) :
    Except ValidationIssue (ExecutionReceipt F) := do
  let raw ← requireReceiptMapping executionReceiptKind payload
  if !isEpoch (Json.get raw "control_epoch") then
    throw ⟨"invalid_type", "/control_epoch",
      "control_epoch must be a non-negative integer or null", none, none⟩
  caught (executionReceiptOf raw)

/-! ## Plan receipts -/

open Plan (PlanVerdict CompletionStatus)

def PLAN_RECEIPT_SCHEMA_VERSION : String := "2.2.0"

/-- `PlanStepRecord` -/
structure PlanStepRecord (F : Type) where
  stepIndex : Json F
  operationId : Json F
  attempted : Json F
  skipped : Json F
  skipReason : Json F
  operationVerdict : Json F
  failureKind : Json F
  startedAtMs : Json F
  finishedAtMs : Json F
  browserSessionId : Json F
  contextId : Json F
  pageId : Json F
  receipt : Option (ExecutionReceipt F)

namespace PlanStepRecord

/-- `PlanStepRecord.to_dict` -/
def toJson (step : PlanStepRecord F) : Json F := .dict [
  ("step_index", step.stepIndex),
  ("operation_id", step.operationId),
  ("attempted", step.attempted),
  ("skipped", step.skipped),
  ("skip_reason", step.skipReason),
  ("operation_verdict", step.operationVerdict),
  ("failure_kind", step.failureKind),
  ("started_at_ms", step.startedAtMs),
  ("finished_at_ms", step.finishedAtMs),
  ("browser_session_id", step.browserSessionId),
  ("context_id", step.contextId),
  ("page_id", step.pageId),
  ("receipt", step.receipt.elim .null fun receipt => .dict receipt.toDict)]

variable [Floating F] [Json.ReadsFloat F]

/-- The receipt of a step, or `None`; the text is that of the error of its own parser. -/
def receiptOf (value : Json F) : Except String (Option (ExecutionReceipt F)) :=
  match value with
  | .null => .ok none
  | value => match parseExecutionReceipt value with
      | .ok receipt => .ok (some receipt)
      | .error issue => .error issue.message

def ofJson (value : Json F) : Except String (PlanStepRecord F) := do
  let raw ← mapping value
  return {
    stepIndex := ← item raw "step_index"
    operationId := ← item raw "operation_id"
    attempted := ← item raw "attempted"
    skipped := ← item raw "skipped"
    skipReason := ← item raw "skip_reason"
    operationVerdict := ← item raw "operation_verdict"
    failureKind := ← item raw "failure_kind"
    startedAtMs := ← item raw "started_at_ms"
    finishedAtMs := ← item raw "finished_at_ms"
    browserSessionId := ← item raw "browser_session_id"
    contextId := ← item raw "context_id"
    pageId := ← item raw "page_id"
    receipt := ← receiptOf (← item raw "receipt") }

end PlanStepRecord

/-- `PlanReceipt`; what its checks and its duration calculate with is an integer. -/
structure PlanReceipt (F : Type) where
  schemaVersion : Json F
  planId : Json F
  planVerdict : PlanVerdict
  completionStatus : CompletionStatus
  failurePolicy : Json F
  declaredStepCount : Int
  attemptedStepCount : Int
  verifiedStepCount : Int
  skippedStepCount : Int
  decisiveStepIndex : Json F
  decisiveOperationId : Json F
  failureKind : Json F
  startedAtMs : Int
  finishedAtMs : Int
  browser : Json F
  backendIdentity : Json F
  browserSessionId : Json F
  contextId : Json F
  pageId : Json F
  steps : List (PlanStepRecord F)
  limitations : List (Json F)
  runtimeVersion : Json F
  executionError : Json F
  planDescribe : Json F
  planTiming : Json F
  lifecycle : Json F
  telemetry : List (Json F)

namespace PlanReceipt

def durationMs (r : PlanReceipt F) : Int := max 0 (r.finishedAtMs - r.startedAtMs)

/-- `PlanReceipt.to_dict` -/
def toDict (r : PlanReceipt F) : Public F := [
  ("schema_version", r.schemaVersion),
  ("plan_id", r.planId),
  ("plan_verdict", .str r.planVerdict.value),
  ("completion_status", .str r.completionStatus.value),
  ("failure_policy", r.failurePolicy),
  ("declared_step_count", .int r.declaredStepCount),
  ("attempted_step_count", .int r.attemptedStepCount),
  ("verified_step_count", .int r.verifiedStepCount),
  ("skipped_step_count", .int r.skippedStepCount),
  ("decisive_step_index", r.decisiveStepIndex),
  ("decisive_operation_id", r.decisiveOperationId),
  ("failure_kind", r.failureKind),
  ("started_at_ms", .int r.startedAtMs),
  ("finished_at_ms", .int r.finishedAtMs),
  ("duration_ms", .int r.durationMs),
  ("browser", r.browser),
  ("backend_identity", r.backendIdentity),
  ("browser_session_id", r.browserSessionId),
  ("context_id", r.contextId),
  ("page_id", r.pageId),
  ("steps", .list (r.steps.map (·.toJson))),
  ("limitations", .list r.limitations),
  ("runtime_version", r.runtimeVersion),
  ("execution_error", r.executionError),
  ("plan", r.planDescribe),
  ("plan_timing", r.planTiming),
  ("lifecycle", r.lifecycle),
  ("telemetry", .list r.telemetry)]

variable [Floating F]

def hasAttempted (step : PlanStepRecord F) : Bool := ReceiptChain.truthy step.attempted

def unhashable : Json F → Bool
  | .list _ | .dict _ => true
  | _ => false

/-- Whether the steps name one browser session and one context; `none` where a name
cannot be in a set. -/
def shareSession : List (PlanStepRecord F) → Option Bool
  | [] => some true
  | first :: steps =>
      if (first :: steps).any fun s => unhashable s.browserSessionId || unhashable s.contextId then none
      else some (steps.all fun s => Json.pyEq s.browserSessionId first.browserSessionId &&
        Json.pyEq s.contextId first.contextId)

/-- `if cond: raise ValueError(text)` -/
def raiseIf (cond : Bool) (text : String) : Except String Unit :=
  if cond then .error text else .ok ()

/-- `PlanReceipt.check_invariants` -/
def checkInvariants (r : PlanReceipt F) : Except String Unit := do
  raiseIf (r.declaredStepCount < r.attemptedStepCount)
    "attempted_step_count exceeds declared_step_count"
  raiseIf (r.attemptedStepCount < r.verifiedStepCount)
    "verified_step_count exceeds attempted_step_count"
  raiseIf (r.declaredStepCount < r.skippedStepCount + r.attemptedStepCount &&
      r.steps.length = r.declaredStepCount)
    "skipped+attempted exceeds declared when steps complete"
  raiseIf (r.planVerdict = .verified && 0 < r.skippedStepCount)
    "plan VERIFIED cannot coexist with skipped steps"
  let decided := match r.decisiveStepIndex with
    | .null => false
    | _ => true
  raiseIf (r.completionStatus = .completed && r.steps.any fun s => !hasAttempted s)
    "completed cannot coexist with unattempted steps"
  raiseIf (r.completionStatus = .completed && decided)
    "all-success completed plan must not set decisive step"
  raiseIf (r.completionStatus = .stopped && !decided && r.steps.any hasAttempted)
    "stopped plan with attempted steps requires decisive step"
  match shareSession (r.steps.filter hasAttempted) with
  | none => .error "unhashable type"
  | some same => raiseIf (!same) "attempted steps must share browser_session_id/context_id"

end PlanReceipt

def planReceiptKind : ReceiptKind where
  label := "plan receipt"
  version := PLAN_RECEIPT_SCHEMA_VERSION
  allowed := [
    "schema_version", "plan_id", "plan_verdict", "completion_status", "failure_policy",
    "declared_step_count", "attempted_step_count", "verified_step_count", "skipped_step_count",
    "decisive_step_index", "decisive_operation_id", "failure_kind", "started_at_ms",
    "finished_at_ms", "duration_ms", "browser", "backend_identity", "browser_session_id",
    "context_id", "page_id", "steps", "limitations", "runtime_version", "execution_error", "plan",
    "plan_timing", "lifecycle", "telemetry"]

section Parsing

variable [Floating F] [Json.ReadsFloat F]

/-- The receipt that the fields of a payload make, once it has checked itself. -/
def planReceiptOf (raw : Public F) : Except String (PlanReceipt F) := do
  let receipt : PlanReceipt F := {
    steps := ← (← listOf (← item raw "steps")).mapM PlanStepRecord.ofJson
    schemaVersion := ← item raw "schema_version"
    planId := ← item raw "plan_id"
    planVerdict := ← orRaise "not a valid PlanVerdict"
      (memberOf PlanVerdict.all PlanVerdict.value (← item raw "plan_verdict"))
    completionStatus := ← orRaise "not a valid CompletionStatus"
      (memberOf CompletionStatus.all CompletionStatus.value (← item raw "completion_status"))
    failurePolicy := ← item raw "failure_policy"
    declaredStepCount := ← integer (← item raw "declared_step_count")
    attemptedStepCount := ← integer (← item raw "attempted_step_count")
    verifiedStepCount := ← integer (← item raw "verified_step_count")
    skippedStepCount := ← integer (← item raw "skipped_step_count")
    decisiveStepIndex := ← item raw "decisive_step_index"
    decisiveOperationId := ← item raw "decisive_operation_id"
    failureKind := ← item raw "failure_kind"
    startedAtMs := ← integer (← item raw "started_at_ms")
    finishedAtMs := ← integer (← item raw "finished_at_ms")
    browser := ← item raw "browser"
    backendIdentity := ← item raw "backend_identity"
    browserSessionId := ← item raw "browser_session_id"
    contextId := ← item raw "context_id"
    pageId := ← item raw "page_id"
    limitations := ← listOf (← item raw "limitations")
    runtimeVersion := ← item raw "runtime_version"
    executionError := ← item raw "execution_error"
    planDescribe := ← item raw "plan"
    planTiming := ← item raw "plan_timing"
    lifecycle := ← item raw "lifecycle"
    telemetry := ← listOf (← item raw "telemetry") }
  receipt.checkInvariants
  return receipt

/-- `parse_plan_receipt` -/
def parsePlanReceipt (payload : Json F) : Except ValidationIssue (PlanReceipt F) := do
  let raw ← requireReceiptMapping planReceiptKind payload
  caught (planReceiptOf raw)

end Parsing

end PublicReceipt

end Dingdongditch
