import Mathlib.Data.List.Nodup
import Dingdongditch.Contract.Operation
import Dingdongditch.Interaction.System
import Dingdongditch.Text.Surgery

/-!
# The pages of a backend

The backend keeps a registry of the pages of its browser context, and one active page, by
its object and by its id.  Every call of the browser may raise, and delivers the events
that came in while it was waited for: pages that open or close, and dialogs.

`activatePage` makes the page active before it brings it to the front.  `dispatch` judges
the dialogs of a dispatch after its action.
-/

namespace Dingdongditch.Pages

open Interaction Text

/-! ## The registry -/

/-- A page of the browser, by the identity of its object. -/
abbrev PageObject : Type := Nat

/-- An id of a page, by the place in which it was drawn. -/
abbrev PageId : Type := Nat

structure PageRegistryEntry where
  pageId : PageId
  page : PageObject
  openerPageId : Option PageId
  triggeringOperationId : Option String
  /-- `lifecycle_state` -/
  isOpen : Bool := true
  deriving DecidableEq, Repr

/-- `_pages`, of which `_page_ids_by_object` is the inverse. -/
structure PageRegistry where
  entries : List PageRegistryEntry
  /-- How many ids were drawn. -/
  drawn : Nat
  onePage : (entries.map (·.page)).Nodup
  oneId : (entries.map (·.pageId)).Nodup
  wereDrawn : ∀ entry ∈ entries, entry.pageId < drawn

namespace PageRegistry

variable (registry : PageRegistry)

/-- `_pages.get(page_id)` -/
def entry? (pageId : PageId) : Option PageRegistryEntry :=
  registry.entries.find? (·.pageId = pageId)

/-- `_page_ids_by_object.get(id(page))` -/
def pageId? (page : PageObject) : Option PageId :=
  (registry.entries.find? (·.page = page)).map (·.pageId)

/-- A registry without pages; the ids that were drawn stay so. -/
def cleared : PageRegistry where
  entries := []
  drawn := registry.drawn
  onePage := List.nodup_nil
  oneId := List.nodup_nil
  wereDrawn := by simp

/-- `_register_page` -/
def register (page : PageObject) (openerPageId : Option PageId)
    (triggeringOperationId : Option String) : PageRegistry :=
  if isNew : page ∉ registry.entries.map (·.page) then {
    entries := registry.entries ++ [{
      pageId := registry.drawn
      page := page
      openerPageId := openerPageId
      triggeringOperationId := triggeringOperationId }]
    drawn := registry.drawn + 1
    onePage := by
      rw [List.map_append, List.nodup_append]
      refine ⟨registry.onePage, List.nodup_singleton _, ?_⟩
      intro a member b isLast same
      simp only [List.map_cons, List.map_nil, List.mem_singleton] at isLast
      rw [same, isLast] at member
      exact isNew member
    oneId := by
      rw [List.map_append, List.nodup_append]
      refine ⟨registry.oneId, List.nodup_singleton _, ?_⟩
      intro a member b isLast same
      simp only [List.map_cons, List.map_nil, List.mem_singleton] at isLast
      obtain ⟨entry, known, isId⟩ := List.mem_map.mp member
      have below := registry.wereDrawn entry known
      rw [isId, same, isLast] at below
      exact Nat.lt_irrefl _ below
    wereDrawn := by
      intro entry member
      rcases List.mem_append.mp member with known | isLast
      · exact Nat.lt_succ_of_lt (registry.wereDrawn entry known)
      · rw [List.mem_singleton.mp isLast]
        exact Nat.lt_succ_self _ }
  else registry

/-- `on_close` of the page -/
def close (page : PageObject) : PageRegistry where
  entries := registry.entries.map fun entry =>
    if entry.page = page then { entry with isOpen := false } else entry
  drawn := registry.drawn
  onePage := by
    have same : (fun entry : PageRegistryEntry => entry.page) ∘ (fun entry =>
        if entry.page = page then { entry with isOpen := false } else entry) = (·.page) := by
      funext entry
      simp only [Function.comp_apply]
      split <;> rfl
    rw [List.map_map, same]
    exact registry.onePage
  oneId := by
    have same : (fun entry : PageRegistryEntry => entry.pageId) ∘ (fun entry =>
        if entry.page = page then { entry with isOpen := false } else entry) = (·.pageId) := by
      funext entry
      simp only [Function.comp_apply]
      split <;> rfl
    rw [List.map_map, same]
    exact registry.oneId
  wereDrawn := by
    intro entry member
    obtain ⟨before, known, rfl⟩ := List.mem_map.mp member
    have := registry.wereDrawn before known
    split <;> exact this

end PageRegistry

/-! ## Dialogs -/

inductive DialogType
  | alert | confirm | prompt | beforeunload
  deriving DecidableEq, Repr

inductive DialogAction
  | accept | dismiss
  deriving DecidableEq, Repr

inductive DialogRequirement
  | required | optional | forbidden
  deriving DecidableEq, Repr

structure Dialog where
  type : DialogType
  message : String
  deriving DecidableEq, Repr

structure DialogContract where
  requirement : DialogRequirement := .forbidden
  dialogType : Option DialogType := none
  message : Option String := none
  messageContains : Bool := false
  action : DialogAction := .dismiss
  promptText : Option String := none
  timeoutMs : Int := 1000
  deriving DecidableEq, Repr

namespace DialogContract

variable (contract : DialogContract) (dialog : Dialog)

def validate : Except PyException Unit := do
  rejectIf (contract.timeoutMs < 1) "dialog timeout_ms must be >= 1"
  rejectIf (contract.requirement ≠ .forbidden && contract.dialogType.isNone)
    "dialog_type is required unless dialogs are forbidden"
  rejectIf (contract.messageContains && contract.message.isNone)
    "message_contains requires message"
  rejectIf (contract.promptText.isSome && contract.dialogType ≠ some .prompt)
    "prompt_text is only valid for prompt dialogs"
  rejectIf (contract.dialogType = some .prompt && contract.action = .accept &&
      contract.promptText.isNone)
    "accepting a prompt requires prompt_text"

/-- `message_ok` -/
def messageOk : Bool :=
  match contract.message with
  | none => true
  | some message =>
      if contract.messageContains then contains message.toList dialog.message.toList
      else message = dialog.message

/-- `authorized`, which `on_dialog` records as `contract_authorized` -/
def authorized : Bool :=
  contract.requirement ≠ .forbidden && some dialog.type = contract.dialogType &&
    contract.messageOk dialog &&
      (dialog.type ≠ .prompt || contract.action = .dismiss || contract.promptText.isSome)

/-- The failure kind of the dialogs of a dispatch, and its message. -/
def failure : List Dialog → Option (String × String)
  | [] =>
      if contract.requirement = .required then
        some ("expected_dialog_not_appeared", "expected dialog did not appear")
      else none
  | [dialog] =>
      if contract.requirement = .forbidden then
        some ("unexpected_dialog", "unexpected dialog appeared and was emergency-dismissed")
      else if some dialog.type ≠ contract.dialogType then
        some ("dialog_type_mismatch", "dialog type did not match declared contract")
      else if !contract.messageOk dialog then
        some ("dialog_message_mismatch", "dialog message did not match declared contract")
      else if contract.dialogType = some .prompt && contract.action = .accept &&
          contract.promptText.isNone then
        some ("prompt_text_missing", "prompt text was required but absent")
      else if !contract.authorized dialog then
        some ("dialog_handling_failed", "dialog was not authorized by the declared contract")
      else none
  | _ :: _ :: _ =>
      some ("multiple_dialogs_opened", "multiple dialogs appeared; exactly one was expected")

end DialogContract

/-! ## The browser -/

inductive RaisedType
  | playwrightTimeout | playwright | authentication | runtimeError | valueError | browserConfig
  | other
  deriving DecidableEq, Repr

/-- An exception; of an `AuthenticationError` the message is its kind. -/
structure Raised where
  type : RaisedType
  message : String
  deriving DecidableEq, Repr

inductive PageEvent
  | opened (page : PageObject)
  | closed (page : PageObject)
  | dialog (dialog : Dialog)
  deriving DecidableEq, Repr

/-- What a dispatch reports about its pages. -/
structure PageEvidence where
  dispatched : Option Bool := none
  activePageIdBefore : Option PageId := none
  selectedActivePageId : Option PageId := none
  switchingOccurred : Option Bool := none
  openerPageId : Option PageId := none
  createdPageIds : List PageId := []
  pageCountBefore : Option Nat := none
  pageCountAfter : Option Nat := none
  popupEventFired : Option Bool := none
  unexpectedPageClassification : Option String := none
  newPageVerificationResults : List Bool := []
  deriving DecidableEq, Repr

structure ActionDispatchResult where
  ok : Bool
  error : Option String := none
  failureKind : Option String := none
  actionEvidence : PageEvidence := {}
  deriving DecidableEq, Repr

inductive BrowserCall
  /-- Whether the page is open and the browser connected. -/
  | isAlive
  /-- What a start does before it asks for the pages of the context. -/
  | launch
  | contextPages
  | newPage
  /-- The authentication capability is bound to the context. -/
  | verifyReady
  /-- The context, the browser and the driver are closed. -/
  | closeBrowser
  | isClosed (page : PageObject)
  | bringToFront (page : PageObject)
  | closePage (page : PageObject)
  /-- The target of a click is resolved and prepared, or a result reports why it is not. -/
  | prepareTarget (operationId : String)
  /-- The click, inside `expect_page` -/
  | clickExpectingPage (operationId : String)
  /-- Whether the deadline of the plan is over. -/
  | deadlineExpired
  | waitForLoadState (page : PageObject)
  | checkExpectation (page : PageObject) (expectation : Declared)
  /-- An action that is no click and manages no pages -/
  | perform (operationId : String)
  /-- Something else, such as an observation -/
  | otherCall

/-- What the call returns. -/
@[reducible] def BrowserCall.Result : BrowserCall → Type
  | isAlive | isClosed _ | deadlineExpired => Bool
  | contextPages => List PageObject
  | newPage => PageObject
  | prepareTarget _ => Option ActionDispatchResult
  | checkExpectation _ _ => List Bool
  | perform _ => ActionDispatchResult
  | launch | verifyReady | closeBrowser | bringToFront _ | closePage _ | clickExpectingPage _
  | waitForLoadState _ | otherCall => Unit

structure Answered (α : Type) where
  events : List PageEvent := []
  result : Except Raised α

def BrowserSig : Sig where
  Call := BrowserCall
  Answer call := Answered call.Result

/-! ## The backend -/

structure PageSession where
  registry : PageRegistry
  /-- `_page` -/
  page : Option PageObject
  pageId : Option PageId
  triggeringOperationId : Option String
  triggeringOpenerPageId : Option PageId
  /-- The dialogs of the dispatch that is running. -/
  observed : List Dialog
  started : Bool

namespace PageSession

/-- A backend that has not started. -/
def new : PageSession where
  registry := ⟨[], 0, List.nodup_nil, List.nodup_nil, by simp⟩
  page := none
  pageId := none
  triggeringOperationId := none
  triggeringOpenerPageId := none
  observed := []
  started := false

/-- Pages that open are those of an operation on the active page. -/
def triggered (s : PageSession) (operationId : String) : PageSession :=
  { s with triggeringOperationId := some operationId, triggeringOpenerPageId := s.pageId }

def untriggered (s : PageSession) : PageSession :=
  { s with triggeringOperationId := none, triggeringOpenerPageId := none }

/-- `_on_context_page`, `on_close` and `on_dialog` -/
def handle (s : PageSession) : PageEvent → PageSession
  | .opened page =>
      { s with registry := s.registry.register page s.triggeringOpenerPageId s.triggeringOperationId }
  | .closed page => { s with registry := s.registry.close page }
  | .dialog dialog => { s with observed := s.observed ++ [dialog] }

end PageSession

abbrev Backend : Type → Type := Act BrowserSig PageSession Raised

/-- A call of the browser, with the events that it delivers. -/
def browser (call : BrowserCall) : Backend call.Result := do
  let answer : Answered call.Result ← Act.ask (S := BrowserSig) call
  modify fun s => answer.events.foldl PageSession.handle s
  Act.ofExcept answer.result

def valueError (message : String) : Raised := ⟨.valueError, message⟩

/-- `entry.lifecycle_state != OPEN or entry.page.is_closed()` -/
def isClosed (entry : PageRegistryEntry) : Backend Bool :=
  if entry.isOpen then browser (.isClosed entry.page) else pure true

/-- `_activate_page` -/
def activatePage (pageId : PageId) : Backend Unit := do
  let s ← get
  match s.registry.entry? pageId with
  | none => throw (valueError ("unknown page_id: " ++ toString pageId))
  | some entry =>
      let closed ← isClosed entry
      if closed then throw (valueError ("page is not open: " ++ toString pageId))
      else
        modify fun s => { s with page := some entry.page, pageId := some entry.pageId }
        browser (.bringToFront entry.page)

inductive PageAction
  | switchToPage (pageId : PageId)
  | switchToOpener
  | closePage (pageId : PageId)
  deriving DecidableEq, Repr

/-- What the action does. -/
def applyPageAction : PageAction → Backend Unit
  | .switchToPage pageId => activatePage pageId
  | .switchToOpener => do
      let s ← get
      match (s.pageId.bind s.registry.entry?).bind (·.openerPageId) with
      | none => throw (valueError "active page has no known opener")
      | some opener => activatePage opener
  | .closePage pageId => do
      let s ← get
      match s.registry.entry? pageId with
      | none => throw (valueError ("unknown page_id: " ++ toString pageId))
      | some entry =>
          if some entry.pageId = s.pageId then
            throw (valueError "close_page cannot close the active page")
          else browser (.closePage entry.page)

/-- The dispatch of `SWITCH_TO_PAGE`, `SWITCH_TO_OPENER` and `CLOSE_PAGE`. -/
def dispatchPageAction (action : PageAction) : Backend ActionDispatchResult := do
  let before := (← get).pageId
  try
    applyPageAction action
    let s ← get
    pure {
      ok := true
      actionEvidence := {
        dispatched := some true
        activePageIdBefore := before
        selectedActivePageId := s.pageId
        switchingOccurred := some (before ≠ s.pageId) } }
  catch e =>
    if e.type = .valueError then
      let s ← get
      pure {
        ok := false
        error := some e.message
        failureKind := some "page_management_failed"
        actionEvidence := {
          dispatched := some false
          activePageIdBefore := before
          selectedActivePageId := s.pageId } }
    else throw e

/-- `_verify_new_page` -/
def verifyNewPage (page : PageObject) (expectations : List Declared) : Backend (List Bool) := do
  try browser (.waitForLoadState page)
  catch e => if e.type = .playwrightTimeout then pure () else throw e
  let closed ← browser (.isClosed page)
  if closed then throw ⟨.runtimeError, "new page closed before verification"⟩
  else checkAll expectations
where
  checkAll : List Declared → Backend (List Bool)
    | [] => pure []
    | expectation :: rest => do
        let results ← browser (.checkExpectation page expectation)
        let more ← checkAll rest
        pure (results ++ more)

structure ClickOperation where
  operationId : String
  pageTransition : PageTransition := {}
  deriving DecidableEq, Repr

/-- The click, inside `expect_page`: either a result that ends the dispatch, or whether a popup was
seen. -/
def clickPage (operation : ClickOperation) (openBefore : List PageId) :
    Backend (Except ActionDispatchResult Bool) := do
  let opener := (← get).pageId
  if operation.pageTransition.policy.expectsNew then
    try
      browser (.clickExpectingPage operation.operationId)
      pure (.ok true)
    catch e =>
      let s ← get
      if e.type = .playwrightTimeout then
        let expired ← browser .deadlineExpired
        pure (.error {
          ok := false
          error := some (if expired then "plan deadline expired while waiting for new page"
            else "expected new page did not open")
          failureKind := some (if expired then "plan_deadline_expired"
            else "expected_new_page_not_opened")
          actionEvidence := {
            pageCountBefore := some openBefore.length
            pageCountAfter := some s.registry.entries.length
            openerPageId := opener
            selectedActivePageId := s.pageId
            popupEventFired := some false
            switchingOccurred := some false } })
      else if s.registry.entries.any (·.triggeringOperationId = some operation.operationId) then
        pure (.ok true)
      else throw e
  else
    try
      browser (.clickExpectingPage operation.operationId)
      pure (.ok true)
    catch e => if e.type = .playwrightTimeout then pure (.ok false) else throw e

/-- The click, after which every page of the context is registered. -/
def clickAndObserve (operation : ClickOperation) (openBefore : List PageId) :
    Backend (Except ActionDispatchResult Bool) := do
  let opener := (← get).pageId
  match ← clickPage operation openBefore with
  | .error result => pure (.error result)
  | .ok popupEventFired =>
      let pages ← browser .contextPages
      modify fun s => { s with
        registry := pages.foldl (fun registry page =>
          registry.register page opener (some operation.operationId)) s.registry }
      pure (.ok popupEventFired)

/-- Whether the new page was closed already. -/
def newPageClosed (entry : PageRegistryEntry) : Backend Bool := do
  try browser (.isClosed entry.page)
  catch e => if e.type = .playwright ∨ e.type = .playwrightTimeout then pure true else throw e

/-- The new page is verified before it may become active: either a result that ends the dispatch, or
the evidence of the verification. -/
def acceptNewPage (operation : ClickOperation) (entry : PageRegistryEntry) (evidence : PageEvidence) :
    Backend (Except ActionDispatchResult PageEvidence) := do
  let closed ← newPageClosed entry
  if closed then
    pure (.error {
      ok := false
      error := some "new page closed before verification"
      failureKind := some "new_page_closed_before_verification"
      actionEvidence := evidence })
  else
    try
      let results ← verifyNewPage entry.page operation.pageTransition.newPageExpectations
      let evidence := { evidence with newPageVerificationResults := results }
      if results.any (!·) then
        pure (.error {
          ok := false
          error := some "new-page expectation failed"
          failureKind := some "new_page_verification_failed"
          actionEvidence := evidence })
      else pure (.ok evidence)
    catch e =>
      if e.type = .runtimeError then
        pure (.error {
          ok := false
          error := some e.message
          failureKind := some "new_page_closed_before_verification"
          actionEvidence := evidence })
      else throw e

/-- `should_switch` -/
def shouldSwitch (transition : PageTransition) : Bool :=
  transition.policy = .expectNewPageAndSwitch ||
    (transition.policy = .allowSameOrNewPage && transition.activateNewPageWhenAllowed)

def activateNewPage (transition : PageTransition) (entry : PageRegistryEntry) : Backend Unit :=
  if shouldSwitch transition then activatePage entry.pageId else pure ()

/-- A click, after its target is prepared. -/
def dispatchClick (operation : ClickOperation) : Backend ActionDispatchResult := do
  let transition := operation.pageTransition
  let s ← get
  let opener := s.pageId
  let openBefore := (s.registry.entries.filter (·.isOpen)).map (·.pageId)
  modify (·.triggered operation.operationId)
  let observed ← (clickAndObserve operation openBefore).andFinally (modify PageSession.untriggered)
  match observed with
  | .error result => pure result
  | .ok popupEventFired =>
      let s ← get
      let created := s.registry.entries.filter fun entry =>
        entry.pageId ∉ openBefore ∧ entry.triggeringOperationId = some operation.operationId
      let evidence : PageEvidence := {
        pageCountBefore := some openBefore.length
        pageCountAfter := some (s.registry.entries.filter (·.isOpen)).length
        openerPageId := opener
        createdPageIds := created.map (·.pageId)
        popupEventFired := some (popupEventFired || !created.isEmpty) }
      let unswitched := { evidence with
        selectedActivePageId := s.pageId, switchingOccurred := some false }
      if transition.policy = .samePage && !created.isEmpty then
        pure {
          ok := false
          error := some "unexpected popup or new page opened"
          failureKind := some "unexpected_new_page"
          actionEvidence := { unswitched with
            unexpectedPageClassification := some "unexpected_new_page" } }
      else if transition.policy.expectsNew && created.length ≠ 1 then
        pure {
          ok := false
          error := some ("expected exactly one new page; observed " ++ toString created.length)
          failureKind := some (if created.length > 1 then "multiple_new_pages_opened"
            else "expected_new_page_not_opened")
          actionEvidence := { unswitched with
            unexpectedPageClassification :=
              some (if created.length > 1 then "multiple_new_pages" else "missing_new_page") } }
      else
        match created with
        | [] => finish opener evidence
        | entry :: _ =>
            match ← acceptNewPage operation entry evidence with
            | .error result => pure result
            | .ok evidence =>
                activateNewPage transition entry
                finish opener evidence
where
  finish (opener : Option PageId) (evidence : PageEvidence) : Backend ActionDispatchResult := do
    let s ← get
    pure {
      ok := true
      actionEvidence := { evidence with
        selectedActivePageId := s.pageId, switchingOccurred := some (opener ≠ s.pageId) } }

inductive Action
  | pages (action : PageAction)
  | click (transition : PageTransition)
  | download
  | other
  deriving DecidableEq, Repr

structure Operation where
  operationId : String
  action : Action
  dialogContract : DialogContract := {}
  deriving DecidableEq, Repr

/-- What an action does, apart from the exceptions that every action shares. -/
def dispatchAction (operation : Operation) : Backend ActionDispatchResult :=
  match operation.action with
  | .pages action => dispatchPageAction action
  | .click transition => do
      match ← browser (.prepareTarget operation.operationId) with
      | some failure => pure failure
      | none => dispatchClick ⟨operation.operationId, transition⟩
  | .download => do
      modify (·.triggered operation.operationId)
      (browser (.perform operation.operationId)).andFinally (modify PageSession.untriggered)
  | .other => browser (.perform operation.operationId)

/-- `_dispatch_core`, with `str.lower` -/
def dispatchCore (lower : List Char → List Char) (operation : Operation) : Backend ActionDispatchResult := do
  try dispatchAction operation
  catch e =>
    if e.type = .authentication then
      pure {
        ok := false
        error := some "authentication boundary failed"
        failureKind := some e.message }
    else if e.type = .playwright ∨ e.type = .playwrightTimeout then
      let message := lower e.message.toList
      pure {
        ok := false
        error := some e.message
        failureKind := some
          (if contains "option".toList message && contains "select".toList message then
            "option_not_found" else "action_dispatch_failed") }
    else throw e

/-- `dispatch` -/
def dispatch (lower : List Char → List Char) (operation : Operation) : Backend ActionDispatchResult := do
  Act.ofExcept (operation.dialogContract.validate.mapError fun e => valueError e.message)
  let s ← get
  if s.page = none then throw ⟨.runtimeError, "PlaywrightBackend not started"⟩
  else
    modify fun s => { s with observed := [] }
    let result ← dispatchCore lower operation
    let s ← get
    match operation.dialogContract.failure s.observed with
    | some (failureKind, error) =>
        pure { result with ok := false, error := some error, failureKind := some failureKind }
    | none => pure result

/-! ## The session -/

/-- `_stop` -/
def stop : Backend Unit := do
  try browser .closeBrowser
  catch _ => pure ()
  modify fun s => { s.untriggered with page := none, pageId := none, started := false }

/-- The first page of the context, or a new one. -/
def firstPage : Backend PageObject := do
  match ← browser .contextPages with
  | page :: _ => pure page
  | [] => browser .newPage

/-- The pages of a start. -/
def openPages : Backend Unit := do
  browser .launch
  let page ← firstPage
  modify fun s => { s with page := some page }
  browser .verifyReady
  modify fun s => { s with registry := s.registry.register page none none }
  modify fun s => { s with pageId := s.registry.pageId? page, started := true }

/-- `is_started` -/
def isStarted : Backend Bool := do
  let s ← get
  if s.started && s.page.isSome then
    try browser .isAlive
    catch _ => pure false
  else pure false

/-- `_start` -/
def start : Backend Unit := do
  let alive ← isStarted
  let s ← get
  if alive then pure ()
  else if s.started then
    throw ⟨.browserConfig, "browser session is closed, crashed, or unusable"⟩
  else
    modify fun s => { s.untriggered with registry := s.registry.cleared }
    try openPages
    catch e =>
      stop
      throw ⟨.browserConfig, e.message⟩

/-- `_select_backend_page` of a stateful session, which has asked for a backend that is active. -/
def selectBackendPage (pageId : PageId) : Backend Unit := do
  let started ← isStarted
  let s ← get
  if !started then throw ⟨.other, "browser session is terminal"⟩
  else if (s.registry.entry? pageId).any (·.isOpen) then activatePage pageId
  else throw ⟨.other, "page ID is invalid or closed"⟩

inductive Method
  | start
  | stop
  | selectPage (pageId : PageId)
  | dispatch (operation : Operation)
  | otherMethod

@[reducible] def Method.Reply : Method → Type
  | .dispatch _ => ActionDispatchResult
  | _ => Unit

/-- The backend, as the owner of its pages. -/
def pageBackend (lower : List Char → List Char) : Component BrowserSig PageSession Raised where
  Method := Method
  Reply := Method.Reply
  body
    | .start => Pages.start
    | .stop => Pages.stop
    | .selectPage pageId => selectBackendPage pageId
    | .dispatch operation => Pages.dispatch lower operation
    | .otherMethod => browser .otherCall

end Dingdongditch.Pages
