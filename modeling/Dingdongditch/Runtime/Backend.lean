import Dingdongditch.Contract.Governance
import Dingdongditch.Contract.Receipt
import Dingdongditch.Interaction.Stateful
import Dingdongditch.Text.Url

/-!
# The backend an execution talks to

The calls the runtime makes on its browser backend, on the clock and on its
host, split in two parts.  `QuietSig` only observes: the clock, page facts,
probes, screenshots, host callbacks and host services.  `EffectSig` acts on the
page: its only call is `dispatch`.  A stage of the runtime that is a program
over `QuietSig` cannot dispatch, by its type.

Every answer of a call that can raise is an `Except`.  The call `recordDecision`
has no counterpart in the source: it puts a decision of the firewall into the
trace, and changes nothing.
-/

namespace Dingdongditch

open Interaction Text

/-! ## What the calls exchange -/

/-- `PageObservation`, together with the network records of its log snapshot. -/
structure BackendObservation where
  collectedAtMs : Int
  url : String
  records : List NetworkRecord
  deriving DecidableEq, Repr

/-- What `read_element_state` reports about one target. -/
structure ElementState where
  ambiguous : Bool := false
  exists_ : Bool := false
  visible : Option Bool := none
  inViewport : Option Bool := none
  text : Option String := none
  attributes : List (String × Option String) := []
  fileNames : List String := []
  fileCount : Option Int := none
  deriving DecidableEq, Repr

/-- `TargetResolution` of a guard probe. -/
structure GuardProbe where
  ok : Bool
  matchCount : Int
  failureKind : Option String
  error : Option String
  deriving DecidableEq, Repr

/-- `ActionDispatchResult` -/
structure ActionDispatchResult where
  ok : Bool
  error : Option String
  startedAtMs : Int
  completedAtMs : Int
  recoveryAttempts : List RecoveryAttempt := []
  failureKind : Option String := none
  actionEvidence : Option PyDict := none
  deriving Repr

inductive PageConditionResultValue
  | pass | fail | indeterminate
  deriving DecidableEq, Repr

structure PagePreconditionEvaluation where
  result : PageConditionResultValue
  matched : Bool
  actualUrl : Option String
  deriving DecidableEq, Repr

inductive WebauthnStatus
  | completed | rejected | unsupported | timedOut | indeterminate
  deriving DecidableEq, Repr

def WebauthnStatus.value : WebauthnStatus → String
  | .completed => "completed"
  | .rejected => "rejected"
  | .unsupported => "unsupported"
  | .timedOut => "timed_out"
  | .indeterminate => "indeterminate"

structure ScreenshotFacts where
  artifactId : String
  captured : Bool
  redactionStatus : Option String
  captureError : Option String
  deriving DecidableEq, Repr

/-- `PlanTiming`: the deadline of the enclosing plan. -/
structure PlanTiming where
  planDeadlineMs : Option Int := none
  deriving DecidableEq, Repr

def PlanTiming.expired (timing : PlanTiming) (nowMs : Int) : Bool :=
  timing.planDeadlineMs.any (· ≤ nowMs)

/-! ## Observation references -/

structure ObservationReference where
  observationId : String
  elementId : String
  expected : PyDict := []
  controlEpoch : Option Int := none
  mutationEpoch : Option Int := none
  provenance : List ProvenanceClass := [.webUntrusted]
  deriving Repr

structure ObservedElement where
  elementId : String
  nodeContinuityToken : Option String
  properties : PyDict
  deriving Repr

/-- A retained page observation, as far as a reference is checked against it. -/
structure StoredObservation where
  url : String
  pageId : String
  capturedAtMs : Int
  maxAgeMs : Int
  interactiveElements : List ObservedElement
  fingerprint : String
  deriving Repr

/-- What the page says about the node a reference names. -/
structure NodeFacts where
  matchCount : Int
  nodeContinuityToken : Option String
  visible : PyVal
  enabled : PyVal
  selected : PyVal
  pressed : PyVal
  fingerprint : String
  deriving Repr

/-- Everything `validate_reference` reads while it runs. -/
structure ReferenceFacts where
  observation : Option StoredObservation
  pageId : String
  pageUrl : String
  nowMs : Int
  node : NodeFacts
  deriving Repr

structure ObservationFreshnessResult where
  fresh : Bool
  reason : String
  deriving DecidableEq, Repr

/-- `found = dict(old)`, overwritten with the properties the page reports now. -/
def NodeFacts.overlay (node : NodeFacts) (properties : PyDict) : PyDict :=
  properties.update [("visible", node.visible), ("enabled", node.enabled),
    ("selected", node.selected), ("pressed", node.pressed)]

/-- `validate_reference` -/
def validateReference (reference : ObservationReference) (facts : ReferenceFacts) :
    ObservationFreshnessResult :=
  match facts.observation with
  | none => ⟨false, "unknown_observation"⟩
  | some obs =>
      if facts.pageId ≠ obs.pageId ∨ facts.pageUrl ≠ obs.url then ⟨false, "page_navigated"⟩
      else if obs.maxAgeMs < facts.nowMs - obs.capturedAtMs then ⟨false, "observation_expired"⟩
      else
        match obs.interactiveElements.find? (·.elementId = reference.elementId) with
        | none => ⟨false, "unknown_element"⟩
        | some old =>
            if !given old.nodeContinuityToken then ⟨false, "node_continuity_unavailable"⟩
            else if facts.node.matchCount ≠ 1 then ⟨false, "element_disappeared_or_ambiguous"⟩
            else if facts.node.nodeContinuityToken ≠ old.nodeContinuityToken then
              ⟨false, "element_replaced"⟩
            else
              let found := facts.node.overlay old.properties
              match reference.expected.find? fun entry => found.get entry.1 != entry.2 with
              | some entry => ⟨false, "expected_property_changed:" ++ entry.1⟩
              | none =>
                  if facts.node.fingerprint ≠ obs.fingerprint then
                    ⟨true, "same_node_with_unrelated_dom_change"⟩
                  else ⟨true, "same_dom_node"⟩

/-! ## The interfaces -/

/-- The facts of `list_pages()` that the runtime reads. -/
structure PageFacts where
  pageId : String
  currentUrl : String
  isOpen : Bool
  active : Bool
  openerPageId : Option String
  deriving DecidableEq, Repr

/-- Calls that observe the browser, the clock or the host, and the navigation
that lets a blank page enter the declared document. -/
inductive QuietCall
  | monotonicMs
  | startBackend
  | stopBackend
  | isStarted
  | pageUrl
  | ensureOnUrl (url : String) (timeoutMs : Int)
  | evaluatePagePrecondition (precondition : Declared)
  | observe
  | validateObservationReference (reference : ObservationReference)
  | readElementState (locator : Locator) (framePath : List Locator) (attributeNames : List String)
  | waitForTimeout (ms : Int)
  | probeGuardedActionTarget (op : Operation)
  | participateWebauthn (request : Declared)
  | captureNetworkArtifact (operationId : String) (request : Declared)
  | captureScreenshot (operationId reason : String)
  | nowMs
  | freshToken
  | pageId
  | listPages
  | activatePage (pageId : String)
  | scopedActionUrl (frame : Option Locator) (framePath : List Locator)
  | transactionScopeState (frame : Option Locator) (framePath : List Locator) (stateKey : String)
  | transactionTargetIdentity (locator : Locator) (framePath : List Locator) (identityKey : String)
  | uploadBytes (upload : UploadAuthorization)
  | bindSecret (reference : SecretReference)
  | assertSecretBinding (reference : SecretReference) (binding : SecretBinding)
  | verifyIdentity (assertion : IdentityAssertion) (controllerId : Option String)
  | verifySignedPlan (authority : SignedPlanAuthority)
  | planDeadline
  | recordDecision (candidate : Operation) (decision : FirewallDecision)

def QuietCall.Answer : QuietCall → Type
  | .monotonicMs => Int
  | .startBackend => Except PyException Unit
  | .stopBackend => Except PyException Unit
  | .isStarted => Bool
  | .pageUrl => Except PyException String
  | .ensureOnUrl _ _ => Except PyException Unit
  | .evaluatePagePrecondition _ => Except PyException PagePreconditionEvaluation
  | .observe => BackendObservation
  | .validateObservationReference _ => Except PyException ReferenceFacts
  | .readElementState _ _ _ => Except PyException ElementState
  | .waitForTimeout _ => Except PyException Unit
  | .probeGuardedActionTarget _ => Except PyException GuardProbe
  | .participateWebauthn _ => Except PyException WebauthnStatus
  | .captureNetworkArtifact _ _ => Except PyException String
  | .captureScreenshot _ _ => Except PyException ScreenshotFacts
  | .nowMs => Int
  | .freshToken => String
  | .pageId => String
  | .listPages => Except PyException (List PageFacts)
  | .activatePage _ => Except PyException Unit
  | .scopedActionUrl _ _ => Except PyException (Option String)
  | .transactionScopeState _ _ _ => Except PyException PyDict
  | .transactionTargetIdentity _ _ _ => Except PyException (Option String)
  | .uploadBytes _ => Option Int
  | .bindSecret _ => Except PyException SecretBinding
  | .assertSecretBinding _ _ => Except PyException Unit
  | .verifyIdentity _ _ => Except PyException AgentIdentity
  | .verifySignedPlan _ => Bool
  | .planDeadline => Option Int
  | .recordDecision _ _ => Unit

abbrev QuietSig : Sig := ⟨QuietCall, QuietCall.Answer⟩

/-- Calls that act on the page. -/
inductive EffectCall
  | dispatch (op : Operation) (timing : Option PlanTiming)

def EffectCall.Answer : EffectCall → Type
  | .dispatch _ _ => Except PyException ActionDispatchResult

abbrev EffectSig : Sig := ⟨EffectCall, EffectCall.Answer⟩

abbrev RuntimeSig : Sig := QuietSig.sum EffectSig

/-! ## Stages -/

/-- Why a stage of an execution ends it: with a receipt, or by raising. -/
inductive Halt
  | receipt (failed : FailedReceipt)
  | raised (e : PyException)

/-- A stage that only observes. -/
abbrev Quiet (α : Type) : Type := Act QuietSig EvidenceCollector Halt α

/-- A stage that may dispatch. -/
abbrev Stage (α : Type) : Type := Act RuntimeSig EvidenceCollector Halt α

namespace Quiet

def monotonicMs : Quiet Int := Act.ask (S := QuietSig) .monotonicMs

def pageUrl : Quiet String := Act.attempt (S := QuietSig) .pageUrl (Except.mapError .raised)

def addSignal (kind : SignalKind) (collectedAtMs : Int) (payload : SignalPayload) :
    Quiet EvidenceSignal :=
  modifyGet fun c => (c.nextSignal kind collectedAtMs payload, c.add kind collectedAtMs payload)

/-- `backend.observe(collector)` -/
def observe : Quiet BackendObservation := do
  let observation ← Act.ask (S := QuietSig) .observe
  let _ ← addSignal .url observation.collectedAtMs .other
  let _ ← addSignal .network observation.collectedAtMs (.records observation.records)
  return observation

end Quiet

end Dingdongditch
