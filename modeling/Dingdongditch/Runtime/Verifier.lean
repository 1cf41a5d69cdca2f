import Dingdongditch.Runtime.Backend

/-!
# Evaluation of expectations

`evaluateExpectations` checks the declared expectations against the browser, in
order, and reports one result for each.
-/

namespace Dingdongditch

open Interaction Text

/-! ## Network evidence -/

/-- `_network_url_matches` -/
def networkUrlMatches (codec : HostCodec) (e : Expectation) (url : Option String) :
    Except PyException Bool := do
  match e.networkUrlSubstring with
  | none => throw ⟨.assertionError, "", none⟩
  | some needle =>
      match url with
      | none => return false
      | some value =>
          match urlsplit codec value.toList with
          | none => throw (.valueError "invalid URL")
          | some parsed =>
              let bare := { parsed with query := [], fragment := [] }.geturl
              match e.networkUrlMatch with
              | .contains => return contains needle.toList bare
              | .exact => return needle.toList = bare
              | .pathExact => return needle.toList = parsed.path
              | .pathContains => return contains needle.toList parsed.path

namespace Expectation

/-- Whether a response must, or must not, have been seen. -/
def responseRequired (e : Expectation) : Bool :=
  e.networkResponseObserved.getD (e.networkStatus.isSome || e.networkMaxElapsedMs.isSome)

/-- `_network_matches`: the assertions on a record whose URL and method match. -/
def networkAssertion (e : Expectation) (record : NetworkRecord) : Bool :=
  let requestSeen := record.requestObserved != some false
  let responseSeen := record.responseObservedAtMs.isSome
  (!e.networkRequestObserved || requestSeen) &&
    e.responseRequired == responseSeen &&
    (e.networkStatus.isNone || record.status == e.networkStatus) &&
    e.networkMaxElapsedMs.all fun limit =>
      match record.requestObservedAtMs, record.responseObservedAtMs with
      | some request, some response => requestSeen && max 0 (response - request) ≤ limit
      | _, _ => false

def postAction (e : Expectation) (actionStartedAtMs : Int) (record : NetworkRecord) : Bool :=
  (if e.networkRequestObserved then record.requestObservedAtMs
    else record.responseObservedAtMs).any (actionStartedAtMs ≤ ·)

end Expectation

/-- `_network_matches`: exactly one post-action record must satisfy the assertion,
and more than one is ambiguous. -/
def networkMatches (codec : HostCodec) (e : Expectation) (records : List NetworkRecord)
    (actionStartedAtMs : Int) : Except PyException ResultValue := do
  let located ← records.filterM fun record => networkUrlMatches codec e record.url
  let candidates := located.filter fun record =>
    (e.networkMethod.map (·.text)).all fun method => method = "" || record.method == some method
  let matched := candidates.filter e.networkAssertion
  match (matched.filter (e.postAction actionStartedAtMs)).length with
  | 0 => return .fail
  | 1 => return .pass
  | _ => return .indeterminate

/-! ## Element evidence -/

/-- `result = "pass" if ok else "fail"` -/
def ResultValue.ofBool (ok : Bool) : ResultValue := if ok then .pass else .fail

/-- The result of a target-scoped expectation on fresh evidence of one element. -/
def elementResult (e : Expectation) (state : ElementState) : ResultValue :=
  match e.type with
  | .elementExists => .ofBool (state.exists_ == e.exists_.getD false)
  | .elementVisible =>
      if !state.exists_ then .fail
      else .ofBool (state.visible.getD false == e.visible.getD false)
  | .elementInViewport =>
      if !state.exists_ then .fail
      else match state.inViewport with
        | none => .indeterminate
        | some actual => .ofBool (actual == e.inViewport.getD false)
  | .text =>
      if !state.exists_ then .fail
      else
        let text := state.text.getD ""
        let expected := e.textValue.getD ""
        match e.textMatch with
        | .exact => .ofBool (text = expected)
        | .contains => .ofBool (contains expected.toList text.toList)
  | .attribute =>
      if !state.exists_ then .fail
      else .ofBool ((state.attributes.lookup (e.attributeName.getD "")).join == e.attributeValue)
  | .uploadFileNames => .ofBool (state.fileNames = e.fileNames.getD [])
  | .uploadFileCount => .ofBool (state.fileCount == e.fileCount)
  | .url | .network => .indeterminate

/-! ## The evaluation loop -/

structure VerificationContext where
  actionStartedAtMs : Int
  verificationCompletedAtMs : Int
  freshness : FreshnessPolicy
  postNetwork : List NetworkRecord
  postUrl : String
  deriving Repr

variable (codec : HostCodec) (ctx : VerificationContext)

/-- The result and the signal kind of one expectation: the evidence it reads is
collected here, and stamped with the clock read before. -/
def evaluateEvidence (e : Expectation) : Quiet (SignalKind × ResultValue) := do
  match e.type with
  | .url =>
      match e.urlValue with
      | none => throw (.raised ⟨.assertionError, "", none⟩)
      | some value =>
          match e.urlMatch with
          | .exact => return (.url, .ofBool (ctx.postUrl = value))
          | .contains => return (.url, .ofBool (contains value.toList ctx.postUrl.toList))
  | .network =>
      let result ← Act.ofExcept
        ((networkMatches codec e ctx.postNetwork ctx.actionStartedAtMs).mapError .raised)
      return (.network, result)
  | _ =>
      match e.locator with
      | none => throw (.raised ⟨.assertionError, "", none⟩)
      | some locator =>
          let names := if e.type = .attribute then e.attributeName.toList else []
          let state ← Act.attempt (S := QuietSig) (.readElementState locator e.resolvedFramePath names)
            (Except.mapError .raised)
          -- an ambiguous target is indeterminate whatever the freshness
          return (.domState, if state.ambiguous then .indeterminate else elementResult e state)

def evaluateExpectation (index : Nat) (e : Expectation) : Quiet ExpectationResult := do
  let now ← Quiet.monotonicMs
  let (kind, result) ← evaluateEvidence codec ctx e
  let signal ← Quiet.addSignal kind now .other
  let fresh := isSignalFresh signal ctx.actionStartedAtMs ctx.verificationCompletedAtMs ctx.freshness
  return {
    expectationId := e.resolvedId index
    expectationType := e.type
    result := if fresh then result else .indeterminate
    evidenceRefs := [signal.signalId]
    evidenceTimestampMs := some signal.collectedAtMs
    freshnessOk := some fresh }

/-- The loop of `evaluate_expectations` from position `index` on. -/
def evaluateFrom (index : Nat) : List Expectation → Quiet (List ExpectationResult)
  | [] => return []
  | e :: rest => do
      let result ← evaluateExpectation codec ctx index e
      let results ← evaluateFrom (index + 1) rest
      return result :: results

def evaluateExpectations (expectations : List Expectation) : Quiet (List ExpectationResult) :=
  evaluateFrom codec ctx 0 expectations

end Dingdongditch
