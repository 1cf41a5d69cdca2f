import Dingdongditch.Contract.Target
import Dingdongditch.Text.Surgery

/-!
# Operations

One externally planned browser operation: an action, the expectations that
verify it, and the contracts around it.  `Operation.validate` is the check the
executor runs before anything else.
-/

namespace Dingdongditch

open Text

inductive ProvenanceClass
  | userAuthority | hostPolicy | agentReasoning | webUntrusted | thirdPartyContent
  | secretProvider | systemRuntime
  deriving DecidableEq, Repr

/-- Combine provenance labels in order, keeping the first of each. -/
def mergeProvenance (left right : List ProvenanceClass) : List ProvenanceClass :=
  (left ++ right).foldl (fun merged value => if value ∈ merged then merged else merged ++ [value]) []

inductive ActionType
  | navigate | click | fill | pressKey | selectOption | setChecked | hover | scrollToTarget
  | pointerMove | waitFor | switchToPage | closePage | switchToOpener | download | uploadFile
  | selectComboboxOption
  deriving DecidableEq, Repr

def ActionType.value : ActionType → String
  | .navigate => "navigate"
  | .click => "click"
  | .fill => "fill"
  | .pressKey => "press_key"
  | .selectOption => "select_option"
  | .setChecked => "set_checked"
  | .hover => "hover"
  | .scrollToTarget => "scroll_to_target"
  | .pointerMove => "pointer_move"
  | .waitFor => "wait_for"
  | .switchToPage => "switch_to_page"
  | .closePage => "close_page"
  | .switchToOpener => "switch_to_opener"
  | .download => "download"
  | .uploadFile => "upload_file"
  | .selectComboboxOption => "select_combobox_option"

inductive KeyPressScope
  | target | activePage
  deriving DecidableEq, Repr

/-- `TARGET_BASED_ACTIONS` -/
def ActionType.targetBased : ActionType → Bool
  | .click | .fill | .selectOption | .setChecked | .hover | .scrollToTarget | .uploadFile
  | .selectComboboxOption => true
  | _ => false

/-- A host-owned secret lookup key. -/
structure SecretReference where
  referenceId : String
  deriving DecidableEq, Repr

/-- `[A-Za-z0-9][A-Za-z0-9._:/@-]{0,255}` -/
def SecretReference.wellFormed (reference : SecretReference) : Bool :=
  match reference.referenceId.toList with
  | [] => false
  | c :: rest =>
      c.isAlphanum && rest.length ≤ 255 &&
        rest.all fun c => c.isAlphanum || c ∈ ['.', '_', ':', '/', '@', '-']

/-- A provider-issued opaque binding for one immutable secret generation. -/
structure SecretBinding where
  referenceId : String
  providerId : String
  generationId : String
  deriving DecidableEq, Repr

inductive PointerOrigin
  | viewport | elementCenter | elementOffset
  deriving DecidableEq, Repr

structure PointerMoveRequest where
  origin : PointerOrigin
  rest : Declared
  deriving DecidableEq, Repr

/-- An upload path and the `Path(path).name` the policy compares. -/
structure UploadPath where
  path : String
  name : String
  deriving DecidableEq, Repr

/-- `rest` is the outcome of `validate_and_resolve` on the file system. -/
structure UploadAuthorization where
  filePaths : List UploadPath
  rest : Declared
  deriving DecidableEq, Repr

structure WaitCondition where
  targetBased : Bool
  locator : Option Locator := none
  frame : Option Locator := none
  framePath : List Locator := []
  rest : Declared
  deriving DecidableEq, Repr

structure Action where
  type : ActionType
  locator : Option Locator := none
  text : Option String := none
  secretReference : Option SecretReference := none
  secretTimeoutMs : Int := 5000
  key : Option String := none
  keyScope : Option KeyPressScope := none
  optionValue : Option String := none
  optionLabel : Option String := none
  optionValues : Option (List String) := none
  checked : Option Bool := none
  waitCondition : Option WaitCondition := none
  waitTimeoutMs : Option Int := none
  frame : Option Locator := none
  framePath : List Locator := []
  pageId : Option String := none
  downloadRequest : Option Declared := none
  pointerRequest : Option PointerMoveRequest := none
  uploadAuthorization : Option UploadAuthorization := none
  comboboxSelection : Option Declared := none
  /-- The private attribute the backend looks up on the action when it fills a
  secret: `getattr(action, "_transaction_secret_binding", None)`. -/
  transactionSecretBinding : Option SecretBinding := none
  deriving DecidableEq, Repr

namespace Action

def resolvedFramePath (a : Action) : List Locator :=
  Dingdongditch.resolvedFramePath a.frame a.framePath

def resolvedKeyScope (a : Action) : KeyPressScope := a.keyScope.getD .target

def requireLocator (a : Action) : Except PyException Unit := do
  rejectIf a.locator.isNone (a.type.value ++ " action requires a locator")
  a.locator.forM Locator.validate

def forbidFrame (a : Action) : Except PyException Unit :=
  rejectIf (a.frame.isSome || !a.framePath.isEmpty)
    (a.type.value ++ " must not include a frame target")

def forbidWaitFields (a : Action) : Except PyException Unit :=
  rejectIf (a.waitCondition.isSome || a.waitTimeoutMs.isSome)
    (a.type.value ++ " must not include wait_for fields")

def forbidText (a : Action) : Except PyException Unit :=
  rejectIf a.text.isSome (a.type.value ++ " must not include text")

def forbidKey (a : Action) : Except PyException Unit :=
  rejectIf (a.key.isSome || a.keyScope.isSome) (a.type.value ++ " must not include key fields")

def forbidSelect (a : Action) : Except PyException Unit :=
  rejectIf (a.optionValue.isSome || a.optionLabel.isSome || a.optionValues.isSome)
    (a.type.value ++ " must not include select option fields")

def forbidChecked (a : Action) : Except PyException Unit :=
  rejectIf a.checked.isSome (a.type.value ++ " must not include checked")

def forbidKeySelectChecked (a : Action) : Except PyException Unit := do
  a.forbidKey
  a.forbidSelect
  a.forbidChecked

def forbidTextKeySelectChecked (a : Action) : Except PyException Unit := do
  a.forbidText
  a.forbidKeySelectChecked

/-- The field checks that every target-based pointer action starts with. -/
def validateTargeted (a : Action) : Except PyException Unit := do
  a.requireLocator
  a.forbidTextKeySelectChecked
  a.forbidWaitFields
  validateFrameScope a.frame a.framePath

/-- The keys `press_key` accepts by name. -/
def namedKeys : List String :=
  ["Enter", "Tab", "Escape", "Backspace", "Delete", "Home", "End", "PageUp", "PageDown",
   "ArrowUp", "ArrowDown", "ArrowLeft", "ArrowRight", "Space", "Control", "Alt", "Shift", "Meta",
   "F1", "F2", "F3", "F4", "F5", "F6", "F7", "F8", "F9", "F10", "F11", "F12"]

def isKeyToken (part : String) : Bool :=
  part ∈ namedKeys || match part.toList with
    | [c] => !Text.isSpace c
    | _ => false

def validateKeyString (key : String) : Except PyException Unit := do
  let stripped := Text.stripBy Text.isSpace key.toList
  rejectIf stripped.isEmpty "press_key requires a non-empty key"
  rejectIf (key.toList ≠ stripped) "press_key key must not have leading/trailing whitespace"
  rejectIf (key.toList.contains ' ') "press_key key must not contain spaces; use '+' for chords"
  let parts := (key.toList.splitOn '+').map String.ofList
  rejectIf (parts.any (· = "")) "malformed key chord"
  rejectIf (parts.any fun part => !isKeyToken part) "unsupported or malformed key token"

def validateFill (a : Action) : Except PyException Unit := do
  a.requireLocator
  a.forbidKeySelectChecked
  a.forbidWaitFields
  validateFrameScope a.frame a.framePath
  rejectIf (a.text.isNone == a.secretReference.isNone)
    "fill action requires exactly one of text or secret_reference"
  rejectIf (a.secretReference.any fun r => !r.wellFormed) "fill secret_reference is invalid"
  rejectIf (a.secretReference.isSome && !(10 ≤ a.secretTimeoutMs && a.secretTimeoutMs ≤ 60000))
    "fill secret_timeout_ms must be between 10 and 60000"

def validatePressKey (a : Action) : Except PyException Unit := do
  a.forbidText
  a.forbidSelect
  a.forbidChecked
  a.forbidWaitFields
  match a.key with
  | none => throw (.valueError "press_key requires key")
  | some key => validateKeyString key
  match a.resolvedKeyScope with
  | .target =>
      rejectIf a.locator.isNone "press_key with scope=target requires a locator"
      a.locator.forM Locator.validate
      validateFrameScope a.frame a.framePath
  | .activePage =>
      rejectIf a.locator.isSome "press_key with scope=active_page must not include a locator"
      a.forbidFrame

def validateSelectOption (a : Action) : Except PyException Unit := do
  a.requireLocator
  a.forbidText
  a.forbidKey
  a.forbidChecked
  a.forbidWaitFields
  validateFrameScope a.frame a.framePath
  let modes := [a.optionValue.isSome, a.optionLabel.isSome, a.optionValues.isSome].count true
  rejectIf (modes ≠ 1)
    "select_option requires exactly one of option_value, option_label, or option_values"
  rejectIf (a.optionValue == some "") "option_value must be a non-empty string"
  rejectIf (a.optionLabel == some "") "option_label must be a non-empty string"
  rejectIf (a.optionValues == some []) "option_values must be a non-empty list"
  rejectIf ((a.optionValues.getD []).any (· = "")) "option_values entries must be non-empty strings"

def validatePointerMove (a : Action) : Except PyException Unit := do
  match a.pointerRequest with
  | none => throw (.valueError "pointer_move action requires a PointerMoveRequest")
  | some request =>
      request.rest.validate
      a.forbidTextKeySelectChecked
      a.forbidWaitFields
      rejectIf a.pageId.isSome "pointer_move must not include page_id"
      if request.origin = .viewport then
        rejectIf a.locator.isSome "viewport pointer_move must not include a locator"
        a.forbidFrame
      else
        a.requireLocator
        validateFrameScope a.frame a.framePath

/-- `validate_wait_timeout_ms` -/
def validateWaitTimeoutMs (timeoutMs : Option Int) : Except PyException Unit := do
  rejectIf (timeoutMs.any (· < 100)) "wait_timeout_ms must be >= 100"
  rejectIf (timeoutMs.any (60000 < ·)) "wait_timeout_ms must be <= 60000"

def validateWaitFor (a : Action) : Except PyException Unit := do
  a.forbidTextKeySelectChecked
  rejectIf a.locator.isSome "wait_for must declare the target on wait_condition, not action.locator"
  rejectIf (a.frame.isSome || !a.framePath.isEmpty)
    "wait_for must declare frame scope on wait_condition, not action"
  match a.waitCondition with
  | none => throw (.valueError "wait_for requires wait_condition")
  | some condition => condition.rest.validate
  validateWaitTimeoutMs a.waitTimeoutMs

def validateDownload (a : Action) : Except PyException Unit := do
  match a.downloadRequest with
  | none => throw (.valueError "download action requires a DownloadRequest")
  | some request => request.validate
  a.requireLocator
  a.forbidFrame
  rejectIf (a.text.isSome || a.checked.isSome) "download action must not include text or checked"
  rejectIf (a.key.isSome || a.keyScope.isSome || a.optionValue.isSome || a.optionLabel.isSome ||
      a.optionValues.isSome || a.waitCondition.isSome || a.waitTimeoutMs.isSome || a.pageId.isSome)
    "download trigger details must be declared on download_request"

/-- Payload fields that only one action type may carry. -/
def validatePayloadOwner (a : Action) : Except PyException Unit := do
  rejectIf (a.type != .fill && a.secretReference.isSome)
    (a.type.value ++ " must not include secret_reference")
  rejectIf (a.type != .fill && a.secretTimeoutMs != 5000)
    (a.type.value ++ " must not include secret_timeout_ms")
  rejectIf (a.type != .download && a.downloadRequest.isSome)
    (a.type.value ++ " must not include download_request")
  rejectIf (a.type != .pointerMove && a.pointerRequest.isSome)
    (a.type.value ++ " must not include pointer_request")
  rejectIf (a.type != .uploadFile && a.uploadAuthorization.isSome)
    (a.type.value ++ " must not include upload_authorization")
  rejectIf (a.type != .selectComboboxOption && a.comboboxSelection.isSome)
    (a.type.value ++ " must not include combobox_selection")

def validate (a : Action) : Except PyException Unit := do
  a.validatePayloadOwner
  match a.type with
  | .navigate =>
      a.forbidKeySelectChecked
      a.forbidWaitFields
      a.forbidFrame
      rejectIf a.locator.isSome "navigate action must not include a locator"
      rejectIf a.text.isSome "navigate action must not include text"
  | .click | .hover | .scrollToTarget => a.validateTargeted
  | .fill => a.validateFill
  | .pressKey => a.validatePressKey
  | .selectOption => a.validateSelectOption
  | .setChecked =>
      a.requireLocator
      a.forbidText
      a.forbidKey
      a.forbidSelect
      a.forbidWaitFields
      validateFrameScope a.frame a.framePath
      rejectIf a.checked.isNone "set_checked requires checked boolean"
  | .pointerMove => a.validatePointerMove
  | .waitFor => a.validateWaitFor
  | .switchToPage | .closePage =>
      a.forbidTextKeySelectChecked
      a.forbidWaitFields
      a.forbidFrame
      rejectIf a.locator.isSome (a.type.value ++ " must not include a locator")
      rejectIf (!given a.pageId) (a.type.value ++ " requires page_id")
  | .switchToOpener =>
      a.forbidTextKeySelectChecked
      a.forbidWaitFields
      a.forbidFrame
      rejectIf (a.locator.isSome || a.pageId.isSome)
        "switch_to_opener must not include locator or page_id"
  | .download => a.validateDownload
  | .uploadFile =>
      match a.uploadAuthorization with
      | none => throw (.valueError "upload_file action requires upload_authorization")
      | some upload =>
          a.validateTargeted
          rejectIf a.pageId.isSome "upload_file must not include page_id"
          upload.rest.validate
  | .selectComboboxOption =>
      match a.comboboxSelection with
      | none => throw (.valueError "select_combobox_option requires combobox_selection")
      | some selection =>
          a.validateTargeted
          rejectIf a.pageId.isSome "select_combobox_option must not include page_id"
          selection.validate

end Action

structure FreshnessPolicy where
  maxAgeMs : Int := 5000
  deriving DecidableEq, Repr

/-- Host permission for deterministic, nonessential target preparation. -/
structure TargetPreparation where
  dismissOverlayLocators : List Locator := []
  deriving DecidableEq, Repr

structure GuardBranch where
  branchId : String
  when_ : List Expectation
  execute : List Action := []
  deriving DecidableEq, Repr

/-- `when_target_absent` (the expectations of the legacy form) or a finite set
of mutually exclusive branches. -/
structure OperationGuard where
  whenTargetAbsent : Option (List Expectation) := none
  branches : List GuardBranch := []
  otherwise : Option (List Action) := none
  deriving DecidableEq, Repr

def maxGuardBranches : Nat := 8

def maxGuardBranchActions : Nat := 8

/-- The actions a guard branch may declare. -/
def Action.allowedInBranch (a : Action) : Bool :=
  a.type.targetBased || (a.type == .pressKey && a.resolvedKeyScope == .target)

def GuardBranch.validate (branch : GuardBranch) : Except PyException Unit := do
  rejectIf (Text.stripBy Text.isSpace branch.branchId.toList).isEmpty
    "guard branch_id must be a non-empty string"
  rejectIf branch.when_.isEmpty
    ("guard branch " ++ branch.branchId ++ " requires non-empty when expectations")
  rejectIf (branch.when_.length > maxGuardBranchActions)
    "guard branch when expectations exceeds bounded limit"
  rejectIf (branch.execute.length > maxGuardBranchActions)
    "guard branch execute exceeds bounded action limit"
  branch.when_.forM Expectation.validate
  branch.execute.forM fun a => do
    a.validate
    rejectIf (!a.allowedInBranch)
      "guard branch execute supports only target-based actions or target-scoped press_key"

namespace OperationGuard

def isLegacyTargetAbsent (guard : OperationGuard) : Bool := guard.whenTargetAbsent.isSome

def validate (guard : OperationGuard) : Except PyException Unit := do
  rejectIf (guard.whenTargetAbsent.isSome == (!guard.branches.isEmpty || guard.otherwise.isSome))
    "guard must declare exactly one of when_target_absent or branches"
  match guard.whenTargetAbsent with
  | some expectations =>
      rejectIf expectations.isEmpty "guard.when_target_absent.expectations must not be empty"
      expectations.forM Expectation.validate
  | none =>
      rejectIf guard.branches.isEmpty "guard.branches must not be empty"
      rejectIf (guard.branches.length > maxGuardBranches) "guard.branches exceeds bounded branch limit"
      rejectIf (!(guard.branches.map (·.branchId)).Nodup) "guard branch_id values must be unique"
      guard.branches.forM GuardBranch.validate
      let otherwise := guard.otherwise.getD []
      rejectIf (otherwise.length > maxGuardBranchActions) "guard.otherwise exceeds bounded action limit"
      otherwise.forM fun a => do
        a.validate
        rejectIf (!a.allowedInBranch)
          "guard.otherwise supports only target-based actions or target-scoped press_key"

/-- The lists of actions a branching guard selects one of. -/
def alternatives (guard : OperationGuard) : List (List Action) :=
  guard.branches.map (·.execute) ++ guard.otherwise.toList

/-- A valid guard bounds the actions of each alternative. -/
theorem validate_alternatives {guard : OperationGuard} (valid : guard.validate = .ok ())
    (branching : guard.whenTargetAbsent = none) :
    ∀ actions ∈ guard.alternatives, actions.length ≤ maxGuardBranchActions := by
  unfold validate at valid
  rw [branching] at valid
  simp only [bind_eq_ok] at valid
  obtain ⟨_, -, _, -, _, -, _, -, _, branches, _, otherwise, -⟩ := valid
  intro actions mem
  rcases List.mem_append.mp mem with inBranches | inOtherwise
  · obtain ⟨branch, declared, rfl⟩ := List.mem_map.mp inBranches
    have branchValid := forM_eq_ok.mp branches branch declared
    unfold GuardBranch.validate at branchValid
    simp only [bind_eq_ok] at branchValid
    obtain ⟨_, -, _, -, _, -, _, short, -⟩ := branchValid
    have within := rejectIf_eq_ok.mp short
    simpa using within
  · rw [Option.mem_toList] at inOtherwise
    rw [inOtherwise] at otherwise
    have within := rejectIf_eq_ok.mp otherwise
    simpa using within

end OperationGuard

inductive PageTransitionPolicy
  | samePage | expectNewPageAndSwitch | expectNewPageKeepCurrent | allowSameOrNewPage
  deriving DecidableEq, Repr

def PageTransitionPolicy.value : PageTransitionPolicy → String
  | .samePage => "same_page"
  | .expectNewPageAndSwitch => "expect_new_page_and_switch"
  | .expectNewPageKeepCurrent => "expect_new_page_keep_current"
  | .allowSameOrNewPage => "allow_same_or_new_page"

/-- Whether the policy demands that the click opens a page. -/
def PageTransitionPolicy.expectsNew : PageTransitionPolicy → Bool
  | .expectNewPageAndSwitch | .expectNewPageKeepCurrent => true
  | _ => false

structure PageTransition where
  policy : PageTransitionPolicy := .samePage
  newPageExpectations : List Declared := []
  timeoutMs : Int := 250
  activateNewPageWhenAllowed : Bool := false
  deriving DecidableEq, Repr

def PageTransition.validate (t : PageTransition) : Except PyException Unit := do
  rejectIf (t.timeoutMs < 100) "page-transition timeout_ms must be >= 100"
  rejectIf (!t.newPageExpectations.isEmpty &&
      !(t.policy.expectsNew || t.policy == .allowSameOrNewPage))
    "SAME_PAGE must not declare new-page expectations"
  rejectIf (t.policy.expectsNew && t.newPageExpectations.isEmpty)
    "expected new page requires at least one expectation"
  t.newPageExpectations.forM Declared.validate
  rejectIf (t.activateNewPageWhenAllowed && t.policy != .allowSameOrNewPage)
    "activate_new_page_when_allowed is only valid for ALLOW_SAME_OR_NEW_PAGE"

inductive ScreenshotPolicy
  | never | onFailure | beforeAndAfter | afterSuccess | always
  deriving DecidableEq, Repr

structure ScreenshotConfig where
  policy : ScreenshotPolicy := .onFailure
  maxPerOperation : Int := 4
  mandatoryRedaction : Bool := false
  rest : Declared := ⟨"screenshot_config", none⟩
  deriving DecidableEq, Repr

inductive VerificationPolicy
  | all | nOfM
  deriving DecidableEq, Repr

inductive EvidenceSourceClass
  | domState | accessibilityState | network | pageState | fileState | visual | hostCallback
  deriving DecidableEq, Repr

/-- `_SOURCE_EXPECTATION_TYPES`; the classes without an entry are unsupported. -/
def EvidenceSourceClass.expectationTypes : EvidenceSourceClass → Option (List ExpectationType)
  | .domState => some [.elementExists, .elementVisible, .elementInViewport, .text, .attribute]
  | .network => some [.network]
  | .pageState => some [.url]
  | .fileState => some [.uploadFileNames, .uploadFileCount]
  | _ => none

structure VerificationCheck where
  verifierId : String
  expectationId : String
  evidenceSource : EvidenceSourceClass
  deriving DecidableEq, Repr

structure VerificationQuorum where
  policy : VerificationPolicy
  checks : List VerificationCheck
  required : Option Int := none
  deriving DecidableEq, Repr

namespace VerificationQuorum

def requiredCount (q : VerificationQuorum) : Int :=
  match q.policy with
  | .all => q.checks.length
  | .nOfM => q.required.getD 0

/-- `validate`, with the identifiers and types of the declared expectations
when the caller passes them. -/
def validate (q : VerificationQuorum) (declared : Option (List (String × ExpectationType))) :
    Except PyException Unit := do
  rejectIf q.checks.isEmpty "verification quorum requires checks"
  rejectIf (q.checks.length > 16) "verification quorum exceeds bounded check limit"
  rejectIf (!(q.checks.map (·.verifierId)).Nodup)
    "verification quorum verifier_id values must be unique"
  rejectIf (!(q.checks.map (·.evidenceSource)).Nodup)
    "verification quorum cannot count duplicate evidence sources"
  rejectIf (!(q.checks.map (·.expectationId)).Nodup)
    "verification quorum cannot count one expectation twice"
  q.checks.forM fun check => do
    rejectIf (check.verifierId = "") "verification check verifier_id is required"
    rejectIf (check.expectationId = "") "verification check expectation_id is required"
    rejectIf (check.evidenceSource == .hostCallback)
      "host_callback requires a bounded verifier adapter, which is not configured"
    let ids := (declared.getD []).map (·.1)
    rejectIf (!ids.isEmpty && !ids.contains check.expectationId)
      "verification quorum references an undeclared expectation"
    match check.evidenceSource.expectationTypes with
    | none =>
        throw (.valueError "verification quorum evidence source is not supported by this runtime")
    | some types =>
        rejectIf (declared.any fun entries =>
            !(entries.lookup check.expectationId).any fun type => types.contains type)
          "verification quorum evidence source does not match its expectation type"
  match q.policy with
  | .all => rejectIf q.required.isSome "all quorum must not set required"
  | .nOfM =>
      rejectIf (!q.required.any fun n => 1 ≤ n && n ≤ (q.checks.length : Int))
        "n_of_m quorum required must be between 1 and check count"

end VerificationQuorum

structure Operation where
  operationId : String
  url : String
  action : Action
  expectations : List Expectation := []
  timeoutMs : Int := 10000
  freshness : FreshnessPolicy := {}
  requireUniqueTarget : Bool := true
  locateRetryMs : Int := 1000
  pageTransition : Option PageTransition := none
  dialogContract : Option Declared := none
  screenshotConfig : Option ScreenshotConfig := none
  pagePrecondition : Option Declared := none
  targetPreparation : TargetPreparation := {}
  guard : Option OperationGuard := none
  networkArtifact : Option Declared := none
  webauthn : Option Declared := none
  provenance : List ProvenanceClass := []
  verificationQuorum : Option VerificationQuorum := none
  /-- The private attributes that a prepared commit sets on the operation it
  dispatches; `dataclasses.replace` does not carry them over. -/
  transactionTargetIdentity : Option (String × String) := none
  transactionSecretBinding : Option SecretBinding := none
  deriving DecidableEq, Repr

namespace Operation

/-- `replace(operation, action=…, expectations=[], guard=None)`: the operation
under which one action of a guard branch is dispatched. -/
def branchOperation (op : Operation) (action : Action) : Operation :=
  { op with
    action, expectations := [], guard := none,
    transactionTargetIdentity := none, transactionSecretBinding := none }

def needsUniqueTarget (op : Operation) : Bool :=
  op.action.type.targetBased ||
    (op.action.type == .pressKey && op.action.resolvedKeyScope == .target) ||
    (op.action.type == .waitFor && op.action.waitCondition.any (·.targetBased)) ||
    (op.action.type == .pointerMove && op.action.locator.isSome)

def validateQuorum (op : Operation) : Except PyException Unit :=
  match op.verificationQuorum with
  | none => .ok ()
  | some quorum => do
      let ids := expectationIds op.expectations
      rejectIf (!ids.Nodup) "verification quorum requires unique expectation_id values"
      quorum.validate (some (ids.zip (op.expectations.map (·.type))))

def validate (op : Operation) : Except PyException Unit := do
  rejectIf (op.operationId = "") "operation_id is required"
  rejectIf (op.url = "") "url is required"
  rejectIf (op.timeoutMs < 100) "timeout_ms must be >= 100"
  rejectIf (op.locateRetryMs < 0) "locate_retry_ms must be >= 0"
  rejectIf (op.needsUniqueTarget && !op.requireUniqueTarget)
    (op.action.type.value ++ " requires require_unique_target=True")
  rejectIf (op.freshness.maxAgeMs < 1) "freshness.max_age_ms must be >= 1"
  op.targetPreparation.dismissOverlayLocators.forM Locator.validate
  op.action.validate
  op.guard.forM fun guard => do
    rejectIf (op.action.locator.isNone || !op.action.type.targetBased)
      "guard is supported only for target-based actions"
    guard.validate
  op.networkArtifact.forM Declared.validate
  op.webauthn.forM Declared.validate
  op.validateQuorum
  let transition := op.pageTransition.getD {}
  transition.validate
  op.dialogContract.forM Declared.validate
  (op.screenshotConfig.getD {}).rest.validate
  op.pagePrecondition.forM fun precondition => do
    rejectIf (op.action.type == .navigate) "navigate operations must not declare page_precondition"
    precondition.validate
  rejectIf (transition.policy != .samePage && op.action.type != .click)
    "new-page transitions are currently valid only for click"
  op.expectations.forM Expectation.validate

theorem validate_expectations {op : Operation} (valid : op.validate = .ok ()) :
    ∀ e ∈ op.expectations, e.validate = .ok () := by
  unfold validate at valid
  simp only [bind_eq_ok] at valid
  obtain ⟨_, -, _, -, _, -, _, -, _, -, _, -, _, -, _, -, _, -, _, -, _, -, _, -, _, -, _, -, _, -,
    _, -, _, -, expectations⟩ := valid
  exact forM_eq_ok.mp expectations

theorem validate_guard {op : Operation} {guard : OperationGuard} (valid : op.validate = .ok ())
    (guarded : op.guard = some guard) : guard.validate = .ok () := by
  unfold validate at valid
  rw [guarded] at valid
  simp only [bind_eq_ok] at valid
  obtain ⟨_, -, _, -, _, -, _, -, _, -, _, -, _, -, _, -, _, checked, -⟩ := valid
  have whole : (do
      rejectIf (op.action.locator.isNone || !op.action.type.targetBased)
        "guard is supported only for target-based actions"
      guard.validate) = .ok () := checked
  obtain ⟨_, -, accepted⟩ := bind_eq_ok.mp whole
  exact accepted

end Operation

end Dingdongditch
