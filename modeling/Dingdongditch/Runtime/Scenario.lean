import Dingdongditch.Contract.OriginPolicy
import Dingdongditch.Evidence.Bounded
import Dingdongditch.Interaction.Scripted
import Dingdongditch.Runtime.Calls

/-!
# Scripted sessions

A host whose digests are readable, and a browser that follows a script: what it
answers to each dispatch, and what the mutation monitor sees.  The examples of
the development are runs of a session against them.
-/

namespace Dingdongditch

open Interaction Text

/-- A host without cryptography: a digest is the identifier of what it digests. -/
def scenarioHost : SessionHost where
  codec := asciiCodec
  sanitizeEvidenceValue := sanitizeEvidenceValue asciiCodec fun _ text => text
  maxPolls := 0
  publicBytes op := op.operationId
  operationHash op := op.operationId
  envelopeDigest _ := "policy"
  tokenId token := token
  mutationFingerprint scope := match PyDict.get scope "revision" with
    | .str revision => revision
    | _ => ""
  targetFingerprint _ _ := "target"
  stateFingerprint _ _ _ := "state"
  receiptHash _ head operationHash _ := .ok (head.getD "genesis" ++ "/" ++ operationHash)
  detachPlan plan := .ok plan
  isPrintable c := 32 ≤ c.toNat && c.toNat ≤ 126

/-- What is left of the script of a browser. -/
structure Scenario where
  dispatches : List (Except PyException ActionDispatchResult) := []
  pageUrls : List (Except PyException String) := []
  scopeUrls : List (Except PyException (Option String)) := []
  revisions : List String := []
  tokens : Nat := 0

namespace Scenario

/-- A dispatch that performed its action. -/
def performed : ActionDispatchResult where
  ok := true
  error := none
  startedAtMs := 20
  completedAtMs := 30

def url : String := "https://app.test/"

/-- The answers of the scripted browser.  The script of a list that has run out
goes on with the ordinary answer. -/
def script : Script RuntimeSig Scenario := fun w c => match c with
  | .inl .monotonicMs => ((0 : Int), w)
  | .inl .startBackend => ((.ok () : Except PyException Unit), w)
  | .inl .stopBackend => ((.ok () : Except PyException Unit), w)
  | .inl .isStarted => (true, w)
  | .inl .pageUrl => ((w.pageUrls.head?.getD (.ok url) : Except PyException String),
      { w with pageUrls := w.pageUrls.tail })
  | .inl (.ensureOnUrl _ _) => ((.ok () : Except PyException Unit), w)
  | .inl (.evaluatePagePrecondition _) =>
      ((.ok ⟨.pass, true, some url⟩ : Except PyException PagePreconditionEvaluation), w)
  | .inl .observe => ((⟨0, url, []⟩ : BackendObservation), w)
  | .inl (.validateObservationReference _) => ((.ok {
      observation := some ⟨url, "page-1", 0, 5000, [⟨"element-1", some "node-1", []⟩], "f"⟩
      pageId := "page-1", pageUrl := url, nowMs := 10
      node := ⟨1, some "node-1", .bool true, .bool true, .none, .none, "f"⟩ } :
        Except PyException ReferenceFacts), w)
  | .inl (.readElementState _ _ _) =>
      ((.ok { exists_ := true, visible := some true } : Except PyException ElementState), w)
  | .inl (.waitForTimeout _) => ((.ok () : Except PyException Unit), w)
  | .inl (.probeGuardedActionTarget _) =>
      ((.ok ⟨true, 1, none, none⟩ : Except PyException GuardProbe), w)
  | .inl (.participateWebauthn _) => ((.ok .completed : Except PyException WebauthnStatus), w)
  | .inl (.captureNetworkArtifact _ _) => ((.ok "" : Except PyException String), w)
  | .inl (.captureScreenshot _ _) =>
      ((.ok ⟨"shot", true, none, none⟩ : Except PyException ScreenshotFacts), w)
  | .inl .nowMs => ((0 : Int), w)
  | .inl .freshToken =>
      (String.ofList ("token-".toList ++ Nat.toDigits 10 w.tokens), { w with tokens := w.tokens + 1 })
  | .inl .pageId => ("page-1", w)
  | .inl .listPages => ((.ok [] : Except PyException (List PageFacts)), w)
  | .inl (.activatePage _) => ((.ok () : Except PyException Unit), w)
  | .inl (.scopedActionUrl _ _) =>
      ((w.scopeUrls.head?.getD (.ok (some url)) : Except PyException (Option String)),
        { w with scopeUrls := w.scopeUrls.tail })
  | .inl (.transactionScopeState _ _ _) =>
      ((.ok [("revision", .str (w.revisions.head?.getD "r"))] : Except PyException PyDict),
        { w with revisions := w.revisions.tail })
  | .inl (.transactionTargetIdentity _ _ _) =>
      ((.ok (some "node-1") : Except PyException (Option String)), w)
  | .inl (.uploadBytes _) => ((none : Option Int), w)
  | .inl (.bindSecret reference) =>
      ((.ok ⟨reference.referenceId, "provider", "g1"⟩ : Except PyException SecretBinding), w)
  | .inl (.assertSecretBinding _ _) => ((.ok () : Except PyException Unit), w)
  | .inl (.verifyIdentity assertion _) =>
      ((.ok ⟨assertion.identityId, "owner", "issuer", 0, assertion.identityVersion, [], [], .active⟩ :
        Except PyException AgentIdentity), w)
  | .inl (.verifySignedPlan _) => (true, w)
  | .inl .planDeadline => ((none : Option Int), w)
  | .inl (.recordDecision _ _) => ((() : Unit), w)
  | .inr (.dispatch _ _) =>
      ((w.dispatches.head?.getD (.ok performed) : Except PyException ActionDispatchResult),
        { w with dispatches := w.dispatches.tail })

/-- A click on the page, at the end of which the operation is over. -/
def click (operationId : String) : Operation where
  operationId
  url := url
  action := { type := .click, locator := some { strategy := .css, value := "#send" } }

/-- A session without an envelope, right after it was opened. -/
def opened : SessionRecord scenarioHost.codec where
  sessionId := "session-1"
  lastActivityAtMs := 0
  idleTimeoutMs := 1800000

/-- A policy that allows everything. -/
def openPolicy : AuthorityEnvelope scenarioHost.codec where
  policyId := "host-policy"
  valid := by decide +kernel

end Scenario

end Dingdongditch
