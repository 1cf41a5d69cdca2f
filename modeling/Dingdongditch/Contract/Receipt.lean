import Dingdongditch.Contract.Operation

/-!
# Evidence, freshness and receipts

The signals an execution collects, the results its expectations got, and the
receipt that reports them.
-/

namespace Dingdongditch

/-- Top-level verdicts: action success is not verified outcome. -/
inductive Verdict
  | verified | notVerified | executionFailed | indeterminate
  deriving DecidableEq, Repr

def Verdict.value : Verdict → String
  | .verified => "VERIFIED"
  | .notVerified => "NOT_VERIFIED"
  | .executionFailed => "EXECUTION_FAILED"
  | .indeterminate => "INDETERMINATE"

theorem Verdict.notVerified_ne : Verdict.notVerified ≠ .verified := nofun

/-! ## Signals -/

/-- A network exchange as the runtime recorded it. -/
structure NetworkRecord where
  url : Option String := none
  method : Option String := none
  status : Option Int := none
  requestObserved : Option Bool := none
  requestObservedAtMs : Option Int := none
  responseObservedAtMs : Option Int := none
  deriving DecidableEq, Repr

inductive SignalKind
  | url | domState | network | actionResult | console | timestamp
  deriving DecidableEq, Repr

/-- The payload of a signal, as far as it is read back: the records of a network
log snapshot. -/
inductive SignalPayload
  | records (records : List NetworkRecord)
  | other
  deriving DecidableEq, Repr

structure EvidenceSignal where
  signalId : String
  kind : SignalKind
  collectedAtMs : Int
  payload : SignalPayload
  deriving DecidableEq, Repr

structure EvidenceCollector where
  signals : List EvidenceSignal := []
  scopeId : String
  nextId : Nat := 1
  maxSignals : Nat := 512
  discardedSignalCount : Nat := 0
  deriving DecidableEq, Repr

namespace EvidenceCollector

/-- The signal that the next `add` appends. -/
def nextSignal (c : EvidenceCollector) (kind : SignalKind) (collectedAtMs : Int)
    (payload : SignalPayload) : EvidenceSignal :=
  ⟨c.scopeId ++ "-sig-" ++ toString c.nextId, kind, collectedAtMs, payload⟩

def add (c : EvidenceCollector) (kind : SignalKind) (collectedAtMs : Int)
    (payload : SignalPayload) : EvidenceCollector :=
  let signals := c.signals ++ [c.nextSignal kind collectedAtMs payload]
  if signals.length > c.maxSignals then
    { c with
      nextId := c.nextId + 1, signals := signals.tail
      discardedSignalCount := c.discardedSignalCount + 1 }
  else { c with nextId := c.nextId + 1, signals := signals }

/-- The records of the last network log snapshot, `[]` when there is none. -/
def latestNetwork (c : EvidenceCollector) : List NetworkRecord :=
  (c.signals.reverse.findSome? fun signal =>
    match signal.kind, signal.payload with
    | .network, .records records => some records
    | _, _ => none).getD []

end EvidenceCollector

/-! ## Freshness -/

structure FreshnessEvaluation where
  policyMaxAgeMs : Int
  actionStartedAtMs : Option Int
  verificationCompletedAtMs : Option Int
  staleSignalIds : List String := []
  deriving DecidableEq, Repr

/-- `is_signal_fresh_for_verification` -/
def isSignalFresh (signal : EvidenceSignal) (actionStartedAtMs verificationCompletedAtMs : Int)
    (policy : FreshnessPolicy) : Bool :=
  if signal.collectedAtMs < actionStartedAtMs then false
  else verificationCompletedAtMs - signal.collectedAtMs ≤ policy.maxAgeMs

/-- Whether `evaluate_freshness` lists a signal that verification used. -/
def isStale (policy : FreshnessPolicy) (actionStartedAtMs : Int)
    (verificationCompletedAtMs : Option Int) (signal : EvidenceSignal) : Bool :=
  signal.collectedAtMs < actionStartedAtMs ||
    verificationCompletedAtMs.any fun completed =>
      policy.maxAgeMs < completed - signal.collectedAtMs

def evaluateFreshness (policy : FreshnessPolicy) (actionStartedAtMs : Option Int)
    (verificationCompletedAtMs : Option Int) (signals : List EvidenceSignal)
    (usedIds : List String) : FreshnessEvaluation where
  policyMaxAgeMs := policy.maxAgeMs
  actionStartedAtMs := actionStartedAtMs
  verificationCompletedAtMs := verificationCompletedAtMs
  staleSignalIds :=
    match actionStartedAtMs with
    | none => []
    | some started => usedIds.dedup.filter fun id =>
        (signals.reverse.find? (·.signalId = id)).any (isStale policy started verificationCompletedAtMs)

/-! ## Expectation results -/

inductive ResultValue
  | pass | fail | indeterminate
  deriving DecidableEq, Repr

structure ExpectationResult where
  expectationId : String
  expectationType : ExpectationType
  result : ResultValue
  evidenceRefs : List String
  evidenceTimestampMs : Option Int
  freshnessOk : Option Bool
  deriving DecidableEq, Repr

/-! ## Quorum -/

structure QuorumRow where
  verifierId : String
  expectationId : String
  evidenceSource : EvidenceSourceClass
  result : ResultValue
  sourceBindingValid : Bool
  evidenceRefs : List String
  deriving DecidableEq, Repr

structure QuorumResult where
  verdict : Verdict
  required : Int
  achieved : Nat
  checks : List QuorumRow
  reason : String
  deriving DecidableEq, Repr

/-- The result a check reads: the only result reported under its expectation. -/
def quorumItem (results : List ExpectationResult) (id : String) : Option ExpectationResult :=
  match results.filter (·.expectationId = id) with
  | [item] => some item
  | _ => none

def quorumRow (results : List ExpectationResult) (check : VerificationCheck) : QuorumRow :=
  let item := quorumItem results check.expectationId
  let valid := item.any fun r =>
    (check.evidenceSource.expectationTypes.getD []).contains r.expectationType &&
      r.freshnessOk == some true
  { verifierId := check.verifierId
    expectationId := check.expectationId
    evidenceSource := check.evidenceSource
    result := if valid then (item.map (·.result)).getD .indeterminate else .indeterminate
    sourceBindingValid := valid
    evidenceRefs := (item.map fun r => r.evidenceRefs.take 4).getD [] }

/-- `evaluate_quorum` -/
def evaluateQuorum (quorum : VerificationQuorum) (results : List ExpectationResult) :
    Except PyException QuorumResult := do
  quorum.validate none
  let rows := quorum.checks.map (quorumRow results)
  let passed := rows.countP (·.result = .pass)
  let failed := rows.countP (·.result = .fail)
  let indeterminate := rows.countP (·.result = .indeterminate)
  let required := quorum.requiredCount
  if required ≤ passed then
    return ⟨.verified, required, passed, rows, "declared quorum achieved"⟩
  else if quorum.policy = .all ∧ 0 < failed then
    return ⟨.notVerified, required, passed, rows, "an all-required verifier failed"⟩
  else if quorum.policy = .nOfM ∧ (passed : Int) + indeterminate < required then
    return ⟨.notVerified, required, passed, rows, "remaining evidence cannot meet declared quorum"⟩
  else
    return ⟨.indeterminate, required, passed, rows, "declared quorum cannot yet be justified"⟩

/-! ## Receipts -/

structure RecoveryAttempt where
  reason : String
  attemptIndex : Int
  occurredAtMs : Int
  detail : String := ""
  deriving DecidableEq, Repr

inductive ArtifactKind
  | networkTrace | screenshot
  deriving DecidableEq, Repr

structure Artifact where
  artifactId : String
  kind : ArtifactKind
  deriving DecidableEq, Repr

structure ExecutionReceipt where
  operationId : String
  verdict : Verdict
  actionType : ActionType
  targetUrl : String
  startedAtMs : Int
  finishedAtMs : Int
  actionStartedAtMs : Option Int := none
  actionCompletedAtMs : Option Int := none
  verificationCompletedAtMs : Option Int := none
  executionStatus : String
  executionError : Option String := none
  expectationResults : List ExpectationResult := []
  evidence : List EvidenceSignal := []
  freshness : FreshnessEvaluation
  recoveryAttempts : List RecoveryAttempt := []
  actionExecutedSuccessfully : Bool := false
  expectationsDeclared : Nat
  failureKind : Option String := none
  actionEvidence : Option PyDict := none
  navigationOccurred : Bool := false
  dispatchDocumentUrl : Option String := none
  quorumVerification : Option QuorumResult := none
  artifacts : List Artifact := []
  deriving Repr

/-- The receipt of an execution that ended before its verification: it reports
no success. -/
structure FailedReceipt where
  receipt : ExecutionReceipt
  unverified : receipt.verdict ≠ .verified
  notExecuted : receipt.actionExecutedSuccessfully = false
  unstarted : receipt.actionStartedAtMs = none

end Dingdongditch
