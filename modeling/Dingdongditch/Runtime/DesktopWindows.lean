import Mathlib.Data.List.Nodup
import Dingdongditch.Contract.Target
import Dingdongditch.Interaction.System
import Dingdongditch.Text.Surgery

/-!
# Windows of a desktop session

The desktop belongs to everybody: before every native call of a session other processes may
open, change and close windows (`Move`).  A session keeps a ledger of the windows that it
takes for its own.  Which window is its own really, because its launch or activation made
it, is a mark that only the desktop knows, and the session never reads it; nor does it read
the log of the desktop.

A registration looks for one window that was not there before.  Of a launch it asks for the
process, of an activation only for the word "notepad" in the title.
-/

namespace Dingdongditch.WindowsDesktop

open Interaction Text

/-! ## Actions -/

inductive DesktopActionType
  | launchApplication | openPathInExplorer | waitForWindow | focusWindow | activateUiTarget
  | closeWindow
  deriving DecidableEq, Repr

def DesktopActionType.value : DesktopActionType → String
  | .launchApplication => "launch_application"
  | .openPathInExplorer => "open_path_in_explorer"
  | .waitForWindow => "wait_for_window"
  | .focusWindow => "focus_window"
  | .activateUiTarget => "activate_ui_target"
  | .closeWindow => "close_window"

inductive ApprovedApplication
  | explorer | notepad
  deriving DecidableEq, Repr

inductive DesktopNameMatch
  | exact | contains
  deriving DecidableEq, Repr

/-- `not (text and text.strip())` -/
def isBlank (text : String) : Bool := (stripBy isSpace text.toList).isEmpty

structure WindowSelector where
  application : Option ApprovedApplication := none
  title : Option String := none
  titleMatch : DesktopNameMatch := .contains
  ownedOnly : Bool := true
  requireUnique : Bool := true
  deriving DecidableEq, Repr

def WindowSelector.validate (selector : WindowSelector) : Except PyException Unit :=
  rejectIf (selector.application.isNone && selector.title.all isBlank)
    "window selector requires application or title"

structure UITarget where
  name : String
  controlType : String
  nameMatch : DesktopNameMatch := .exact
  requireUnique : Bool := true
  deriving DecidableEq, Repr

def UITarget.validate (target : UITarget) : Except PyException Unit := do
  rejectIf (isBlank target.name) "UI target name is required"
  rejectIf (isBlank target.controlType) "UI target control_type is required"

structure DesktopExpectedState where
  windowPresent : Bool := true
  focused : Option Bool := none
  path : Option String := none
  visibleTarget : Option UITarget := none
  deriving DecidableEq, Repr

structure DesktopAction where
  type : DesktopActionType
  application : Option ApprovedApplication := none
  path : Option String := none
  window : Option WindowSelector := none
  target : Option UITarget := none
  timeoutMs : Int := 10000
  expected : DesktopExpectedState := {}
  deriving DecidableEq, Repr

/-- What the session takes from Python and from the file system. -/
structure DesktopHost where
  /-- `str.lower` -/
  lower : List Char → List Char
  isAbsolute : String → Bool
  /-- The path exists and is a directory. -/
  isDirectory : String → Bool
  /-- `str(Path(path).resolve())` -/
  resolve : String → String
  /-- `Path(path).name` -/
  fileName : String → String

/-- `needle.lower() in hay.lower()` -/
def DesktopHost.mentions (host : DesktopHost) (needle hay : String) : Bool :=
  contains (host.lower needle.toList) (host.lower hay.toList)

def DesktopExpectedState.validate (host : DesktopHost) (expected : DesktopExpectedState) :
    Except PyException Unit := do
  rejectIf (expected.path.any (!host.isAbsolute ·)) "expected path must be absolute"
  expected.visibleTarget.forM UITarget.validate

/-- `value`, of an optional text, is not empty. -/
def isGiven (text : Option String) : Bool := text.any (· ≠ "")

def DesktopAction.validate (host : DesktopHost) (action : DesktopAction) : Except PyException Unit := do
  rejectIf (!(100 ≤ action.timeoutMs && action.timeoutMs ≤ 120000))
    "desktop timeout_ms must be between 100 and 120000"
  action.expected.validate host
  match action.type with
  | .launchApplication =>
      rejectIf action.application.isNone "launch_application requires an approved application"
      rejectIf (isGiven action.path || action.window.isSome || action.target.isSome)
        "launch_application does not accept path/window/target"
  | .openPathInExplorer =>
      rejectIf (!isGiven action.path) "open_path_in_explorer requires path"
      rejectIf (action.path.any (!host.isAbsolute ·)) "Explorer path must be absolute"
      rejectIf (action.path.any (!host.isDirectory ·)) "Explorer path must be an existing directory"
      rejectIf (action.application.isSome || action.window.isSome || action.target.isSome)
        "open_path_in_explorer accepts only path"
  | .waitForWindow | .focusWindow | .closeWindow =>
      rejectIf action.window.isNone (action.type.value ++ " requires window selector")
      action.window.forM WindowSelector.validate
      rejectIf (action.application.isSome || isGiven action.path || action.target.isSome)
        (action.type.value ++ " accepts only window selector")
      rejectIf (action.type = .closeWindow && action.window.any (!·.ownedOnly))
        "close_window requires owned_only=true"
  | .activateUiTarget =>
      rejectIf (action.window.isNone || action.target.isNone)
        "activate_ui_target requires window and target"
      action.window.forM WindowSelector.validate
      action.target.forM UITarget.validate
      rejectIf (action.application.isSome || isGiven action.path)
        "activate_ui_target does not accept application/path"

/-! ## The desktop -/

abbrev Handle : Type := Nat

structure Window where
  handle : Handle
  title : String
  processId : Nat
  /-- The name of its process. -/
  process : String
  visible : Bool := true
  /-- A launch or an activation of the session made it. -/
  own : Bool
  deriving DecidableEq, Repr

/-- What a registration accepts. -/
structure Registration where
  application : ApprovedApplication
  expectedTitle : Option String := none
  expectedProcessId : Option Nat := none
  deriving DecidableEq, Repr

/-- The filters of `_register_new_window` -/
def Registration.accepts (host : DesktopHost) (registration : Registration) (window : Window) : Bool :=
  registration.expectedProcessId.all (window.processId = ·) &&
    registration.expectedTitle.all (fun title => title = "" || host.mentions title window.title) &&
    (registration.application ≠ .notepad ||
      contains "notepad".toList (host.lower window.title.toList))

/-- What has happened on the desktop, as far as ownership is concerned. -/
inductive Entry
  | opened (window : Window)
  /-- A registration read the window, which was not there before. -/
  | inspected (window : Window) (registration : Registration)
  /-- The session closed the window, or tried to. -/
  | closed (window : Window)
  deriving DecidableEq, Repr

structure Desktop where
  windows : List Window
  distinct : (windows.map (·.handle)).Nodup
  log : List Entry

/-- What another process, or a window itself, may do at any time. -/
inductive Move
  | opens (window : Window)
  | changes (handle : Handle) (title : String) (visible : Bool)
  | vanishes (handle : Handle)
  deriving DecidableEq, Repr

namespace Desktop

variable (desktop : Desktop)

def window? (handle : Handle) : Option Window := desktop.windows.find? (·.handle = handle)

def visibleHandles : List Handle := (desktop.windows.filter (·.visible)).map (·.handle)

def record (entry : Entry) : Desktop := { desktop with log := desktop.log ++ [entry] }

/-- A handle that is in use is not given to a second window. -/
def withWindow (window : Window) : Desktop :=
  if fresh : window.handle ∉ desktop.windows.map (·.handle) then {
    windows := desktop.windows ++ [window]
    distinct := by
      rw [List.map_append, List.nodup_append]
      refine ⟨desktop.distinct, List.nodup_singleton _, ?_⟩
      intro a member b isLast same
      rw [List.map_cons, List.map_nil, List.mem_singleton] at isLast
      rw [same, isLast] at member
      exact fresh member
    log := desktop.log ++ [.opened window] }
  else desktop

variable {desktop} in
theorem withWindow_taken {window : Window} (taken : window.handle ∈ desktop.windows.map (·.handle)) :
    desktop.withWindow window = desktop := by
  unfold withWindow
  rw [dif_neg (not_not_intro taken)]

variable {desktop} in
theorem withWindow_windows {window : Window} (fresh : window.handle ∉ desktop.windows.map (·.handle)) :
    (desktop.withWindow window).windows = desktop.windows ++ [window] := by
  unfold withWindow
  rw [dif_pos fresh]

variable {desktop} in
theorem withWindow_log {window : Window} (fresh : window.handle ∉ desktop.windows.map (·.handle)) :
    (desktop.withWindow window).log = desktop.log ++ [.opened window] := by
  unfold withWindow
  rw [dif_pos fresh]

def change (handle : Handle) (title : String) (visible : Bool) : Desktop where
  windows := desktop.windows.map fun window =>
    if window.handle = handle then { window with title := title, visible := visible } else window
  distinct := by
    have same : (fun window : Window => window.handle) ∘ (fun window =>
        if window.handle = handle then { window with title := title, visible := visible }
        else window) = (·.handle) := by
      funext window
      simp only [Function.comp_apply]
      split <;> rfl
    rw [List.map_map, same]
    exact desktop.distinct
  log := desktop.log

def vanish (handle : Handle) : Desktop where
  windows := desktop.windows.filter (·.handle ≠ handle)
  distinct := desktop.distinct.sublist (List.filter_sublist.map _)
  log := desktop.log

def apply (desktop : Desktop) : Move → Desktop
  | .opens window => desktop.withWindow window
  | .changes handle title visible => desktop.change handle title visible
  | .vanishes handle => desktop.vanish handle

/-- A desktop before the session: nothing on it is the session's own. -/
structure Initial where
  windows : List Window
  distinct : (windows.map (·.handle)).Nodup
  foreign : ∀ window ∈ windows, window.own = false

def Initial.shown (initial : Initial) : Desktop := ⟨initial.windows, initial.distinct, []⟩

end Desktop

/-! ## Native calls -/

/-- An exception; a `DesktopBackendError` has a failure kind. -/
structure Raised where
  failureKind : Option String := none
  message : String
  deriving DecidableEq, Repr

def backendError (failureKind message : String) : Raised := ⟨some failureKind, message⟩

inductive NativeCall
  | topLevelWindows
  | windowProcess (handle : Handle)
  | windowTitle (handle : Handle)
  | windowState (handle : Handle)
  | foregroundWindow
  | startApplication (application : ApprovedApplication)
  | descendants (handle : Handle) (target : UITarget)
  | targetProperties (handle : Handle) (target : UITarget)
  | invoke (handle : Handle) (target : UITarget)
  | doubleClick (handle : Handle) (target : UITarget)
  | setFocus (handle : Handle)
  | typeKeys (handle : Handle)
  | addressEdit (handle : Handle)
  | enterPath (handle : Handle) (path : String)
  | addressValues (handle : Handle)
  | close (handle : Handle)
  /-- How often a bounded wait looks before its time is over. -/
  | polls (timeoutMs : Int)
  /-- Something that does not concern windows of the ledger, such as a screenshot -/
  | otherCall
  deriving DecidableEq, Repr

/-- What a call answers, besides what the desktop shows. -/
@[reducible] def NativeCall.Value : NativeCall → Type
  | foregroundWindow => Handle
  | startApplication _ => Nat
  | descendants _ _ => Nat
  | addressEdit _ => Bool
  | addressValues _ => List String
  | polls _ => Nat
  | _ => Unit

structure Answered (α : Type) where
  moves : List Move := []
  result : Except Raised α

def NativeSig : Sig where
  Call := NativeCall
  Answer call := Answered call.Value

/-! ## The session -/

structure OwnedWindow where
  handle : Handle
  application : ApprovedApplication
  processId : Nat
  source : String
  deriving DecidableEq, Repr

inductive LifecycleState
  | notStarted | starting | active | stopping | stopped | failed
  deriving DecidableEq, Repr

structure CleanupError where
  windowHandle : Handle
  processId : Nat
  error : String
  deriving DecidableEq, Repr

structure Session where
  lifecycleState : LifecycleState
  cleanupErrors : List CleanupError
  ownedProcessIds : List Nat
  /-- The ledger -/
  ownedWindows : List OwnedWindow
  baselineHandles : List Handle
  desktop : Desktop

namespace Session

def new (initial : Desktop.Initial) : Session where
  lifecycleState := .notStarted
  cleanupErrors := []
  ownedProcessIds := []
  ownedWindows := []
  baselineHandles := []
  desktop := initial.shown

variable (s : Session)

/-- `_owned_windows.get(handle)` -/
def owned? (handle : Handle) : Option OwnedWindow := s.ownedWindows.find? (·.handle = handle)

def addProcess (processId : Nat) : Session :=
  { s with ownedProcessIds := s.ownedProcessIds.insert processId }

/-- The window goes into the ledger, and its process into the set of processes. -/
def own (window : Window) (application : ApprovedApplication) (source : String) : Session :=
  { s.addProcess window.processId with
    ownedWindows := s.ownedWindows.filter (·.handle ≠ window.handle) ++
      [⟨window.handle, application, window.processId, source⟩] }

/-- `_owned_windows.pop(handle, None)` -/
def release (handle : Handle) : Session :=
  { s with ownedWindows := s.ownedWindows.filter (·.handle ≠ handle) }

def record (entry : Entry) : Session := { s with desktop := s.desktop.record entry }

/-- What has happened on the desktop by the time of a call. -/
def interrupted (moves : List Move) : Session :=
  { s with desktop := moves.foldl Desktop.apply s.desktop }

end Session

abbrev Desk : Type → Type := Act NativeSig Session Raised

/-- A native call, with what happened on the desktop until it. -/
def native (call : NativeCall) : Desk call.Value := do
  let answer : Answered call.Value ← Act.ask (S := NativeSig) call
  modify fun s => s.interrupted answer.moves
  Act.ofExcept answer.result

/-- `_top_level_handles` -/
def topLevelHandles : Desk (List Handle) := do
  native .topLevelWindows
  let s ← get
  pure s.desktop.visibleHandles

/-- The window that has the handle at the time of a call. -/
def look (call : NativeCall) (handle : Handle) : Desk Window := do
  let _ ← native call
  let s ← get
  match s.desktop.window? handle with
  | some window => pure window
  | none => throw { message := "Invalid window handle." }

/-- `_window_info`: the process, the title and the state of a window are read one after another. -/
def windowInfo (handle : Handle) : Desk Window := do
  let first ← look (.windowProcess handle) handle
  let second ← look (.windowTitle handle) handle
  let third ← look (.windowState handle) handle
  pure { third with
    title := second.title, processId := first.processId, process := first.process }

/-- A window is closed by its handle; the call may still raise afterwards. -/
def closeHandle (handle : Handle) : Desk Unit := do
  let answer : Answered Unit ← Act.ask (S := NativeSig) (.close handle)
  modify fun s => s.interrupted answer.moves
  let s ← get
  match s.desktop.window? handle with
  | none => throw { message := "window not found" }
  | some window =>
      modify (·.record (.closed window))
      Act.ofExcept answer.result

section Wait

variable {α : Type}

/-- The loop of a bounded wait, with the turns that are left and the last error. -/
def poll (timeoutMs : Int) (failureKind : String) (predicate : Desk (Option α)) :
    Nat → Option String → Desk α
  | 0, lastError => throw (backendError failureKind ("bounded desktop wait expired after " ++
      toString timeoutMs ++ "ms" ++ (lastError.map (": " ++ ·)).getD ""))
  | turns + 1, lastError => do
      let seen : Except String (Option α) ←
        tryCatch (do let value ← predicate; pure (.ok value)) fun e =>
          if e.failureKind.isSome then throw e else pure (.error e.message)
      match seen with
      | .ok (some value) => pure value
      | .ok none => poll timeoutMs failureKind predicate turns lastError
      | .error message => poll timeoutMs failureKind predicate turns (some message)

/-- `_wait_until` -/
def waitUntil (timeoutMs : Int) (failureKind : String) (predicate : Desk (Option α)) : Desk α := do
  let turns ← native (.polls timeoutMs)
  poll timeoutMs failureKind predicate turns none

end Wait

/-- A predicate that says only yes or no. -/
def holds (answer : Bool) : Option Unit := if answer then some () else none

section Windows

variable (host : DesktopHost)

/-- `_application_matches`, of a selector with this application -/
def applicationMatches (application : ApprovedApplication) (window : Window) : Bool :=
  let process := host.lower window.process.toList
  match application with
  | .explorer => process = "explorer.exe".toList
  | .notepad => process = "notepad.exe".toList

/-- What `_matches_selector` asks of a window that it could read. -/
def selects (selector : WindowSelector) (owned : Option OwnedWindow) (window : Window) : Bool :=
  (selector.application.all fun application =>
    match owned with
    | some owned => owned.application = application
    | none => applicationMatches host application window) &&
  (selector.title.all fun title =>
    title = "" ||
      match selector.titleMatch with
      | .exact => window.title = title
      | .contains => host.mentions title window.title)

/-- `_matches_selector` -/
def matchesSelector (selector : WindowSelector) (handle : Handle) : Desk Bool := do
  let s ← get
  if selector.ownedOnly ∧ s.owned? handle = none then pure false
  else
    try
      let window ← windowInfo handle
      let s ← get
      pure (selects host selector (s.owned? handle) window)
    catch _ => pure false

/-- `find_windows`, after it has its handles; the selector was validated with its action. -/
def matching (selector : WindowSelector) : List Handle → Desk (List Handle)
  | [] => pure []
  | handle :: rest => do
      let isMatch ← matchesSelector host selector handle
      let more ← matching selector rest
      pure (if isMatch then handle :: more else more)

def selectableHandles (selector : WindowSelector) : Desk (List Handle) := do
  let s ← get
  if selector.ownedOnly then pure (s.ownedWindows.map (·.handle)) else topLevelHandles

/-- `discover` of `_resolve_window` -/
def discoverSelected (selector : WindowSelector) : Desk (Option Handle) := do
  let handles ← selectableHandles selector
  let matched ← matching host selector handles
  if selector.requireUnique ∧ matched.length > 1 then
    throw (backendError "window_not_unique"
      ("window selector matched " ++ toString matched.length ++ " windows"))
  else pure matched.head?

/-- `_resolve_window` -/
def resolveWindow (selector : WindowSelector) (timeoutMs : Int) : Desk Handle :=
  waitUntil timeoutMs "window_timeout" (discoverSelected host selector)

/-- Whether a handle is a candidate of a registration. -/
def candidate (before : List Handle) (registration : Registration) (handle : Handle) :
    Desk (List Window) := do
  let s ← get
  if handle ∈ before ∨ s.owned? handle ≠ none then pure []
  else
    try
      let window ← windowInfo handle
      modify (·.record (.inspected window registration))
      pure (if registration.accepts host window then [window] else [])
    catch _ => pure []

def candidates (before : List Handle) (registration : Registration) :
    List Handle → Desk (List Window)
  | [] => pure []
  | handle :: rest => do
      let found ← candidate host before registration handle
      let more ← candidates before registration rest
      pure (found ++ more)

/-- `discover` of `_register_new_window` -/
def discoverNew (before : List Handle) (registration : Registration) (source : String) :
    Desk (Option Handle) := do
  let handles ← topLevelHandles
  let found ← candidates host before registration handles
  match found with
  | [] => pure none
  | [window] => do
      modify (·.own window registration.application source)
      pure (some window.handle)
  | _ => throw (backendError "window_not_unique"
      ("launch produced " ++ toString found.length ++ " candidate windows"))

/-- `_register_new_window` -/
def registerNewWindow (before : List Handle) (registration : Registration) (timeoutMs : Int)
    (source : String) : Desk Handle :=
  waitUntil timeoutMs "window_timeout" (discoverNew host before registration source)

/-- `_launch` -/
def launch (application : ApprovedApplication) (timeoutMs : Int) : Desk Handle := do
  let before ← topLevelHandles
  let launched ← native (.startApplication application)
  modify (·.addProcess launched)
  let registration := { application := application, expectedProcessId := some launched }
  let handle ← registerNewWindow host before registration timeoutMs "launch_application"
  let _ ← windowInfo handle
  pure handle

/-- `_open_explorer` -/
def openExplorer (path : String) (timeoutMs : Int) : Desk Handle := do
  let candidate := host.resolve path
  let handle ← resolveWindow host { application := some .explorer } timeoutMs
  native (.setFocus handle)
  native (.typeKeys handle)
  waitUntil timeoutMs "explorer_address_not_found" (do
    let found ← native (.addressEdit handle)
    pure (holds found))
  native (.enterPath handle candidate)
  waitUntil timeoutMs "explorer_navigation_timeout" (do
    let window ← windowInfo handle
    pure (holds (host.mentions (host.fileName candidate) window.title)))
  let _ ← windowInfo handle
  let s ← get
  match s.owned? handle with
  | some _ => pure handle
  | none => throw { message := toString handle }

/-- What an action gives, or `assert` raises. -/
def given {α : Type} (value : Option α) : Desk α :=
  match value with
  | some value => pure value
  | none => throw { message := "" }

/-- `target.invoke()`, or a double click where that raises -/
def activate (handle : Handle) (target : UITarget) : Desk Unit := do
  native (.targetProperties handle target)
  try native (.invoke handle target)
  catch _ => native (.doubleClick handle target)

/-- `ACTIVATE_UI_TARGET` -/
def activateUiTarget (selector : WindowSelector) (target : UITarget) (action : DesktopAction) :
    Desk Handle := do
  let handle ← resolveWindow host selector action.timeoutMs
  let found ← native (.descendants handle target)
  if target.requireUnique ∧ found ≠ 1 then
    throw (backendError (if found = 0 then "ui_target_not_found" else "ui_target_not_unique")
      ("UI target matched " ++ toString found ++ " controls"))
  else if found = 0 then throw (backendError "ui_target_not_found" "UI target not found")
  else
    let before ← topLevelHandles
    activate handle target
    if action.expected.windowPresent then
      let opened ← registerNewWindow host before { application := .notepad } action.timeoutMs
        "activate_ui_target"
      let _ ← windowInfo opened
      pure opened
    else pure handle

/-- `CLOSE_WINDOW` -/
def closeWindow (selector : WindowSelector) (timeoutMs : Int) : Desk Handle := do
  let handle ← resolveWindow host selector timeoutMs
  let s ← get
  match s.owned? handle with
  | none => throw (backendError "ownership_violation"
      "refusing to close a window not owned by this session")
  | some _ =>
      closeHandle handle
      waitUntil timeoutMs "close_timeout" (do
        let handles ← topLevelHandles
        pure (holds (handle ∉ handles)))
      modify (·.release handle)
      pure handle

/-- What an action does, and the window that it ends with. -/
def perform (action : DesktopAction) : Desk Handle :=
  match action.type with
  | .launchApplication => do
      let application ← given action.application
      launch host application action.timeoutMs
  | .openPathInExplorer => do
      let path ← given action.path
      openExplorer host path action.timeoutMs
  | .waitForWindow => do
      let selector ← given action.window
      let handle ← resolveWindow host selector action.timeoutMs
      let _ ← windowInfo handle
      pure handle
  | .focusWindow => do
      let selector ← given action.window
      let handle ← resolveWindow host selector action.timeoutMs
      native (.setFocus handle)
      waitUntil action.timeoutMs "focus_timeout" (do
        let foreground ← native .foregroundWindow
        pure (holds (foreground = handle)))
      let _ ← windowInfo handle
      pure handle
  | .activateUiTarget => do
      let selector ← given action.window
      let target ← given action.target
      activateUiTarget host selector target action
  | .closeWindow => do
      let selector ← given action.window
      closeWindow host selector action.timeoutMs

/-! ## Verification -/

def verifyFocused (expected : Option Bool) (present : Bool) (handle : Handle) : Desk Bool :=
  match expected with
  | none => pure true
  | some expected =>
      if present then do
        let foreground ← native .foregroundWindow
        pure (decide (foreground = handle) = expected)
      else pure (false = expected)

def verifyTarget (expected : Option UITarget) (handle : Handle) : Desk Bool :=
  match expected with
  | none => pure true
  | some target => do
      let found ← native (.descendants handle target)
      pure (if target.requireUnique then found = 1 else found ≠ 0)

def verifyPath (expected : Option String) (handle : Handle) : Desk Bool :=
  match expected with
  | none => pure true
  | some path => do
      let values ← native (.addressValues handle)
      pure (values.any fun value => value ≠ "" &&
        (host.mentions (host.resolve path) value ||
          host.mentions (host.fileName (host.resolve path)) value))

/-- `_verify_expected` -/
def verifyExpected (expected : DesktopExpectedState) (handle : Handle) : Desk Bool := do
  let handles ← topLevelHandles
  let present := decide (handle ∈ handles)
  let focused ← verifyFocused expected.focused present handle
  let target ← verifyTarget expected.visibleTarget handle
  let path ← verifyPath host expected.path handle
  pure (decide (present = expected.windowPresent) && focused && target && path)

/-! ## Dispatches -/

structure DesktopDispatchResult where
  ok : Bool
  failureKind : Option String := none
  error : Option String := none
  deriving DecidableEq, Repr

/-- `dispatch` -/
def dispatch (action : DesktopAction) : Desk DesktopDispatchResult := do
  Act.ofExcept ((action.validate host).mapError fun e => { message := e.message })
  let s ← get
  if s.lifecycleState ≠ .active then
    throw (backendError "backend_not_active" "desktop backend is not active")
  else
    let _ ← native .foregroundWindow
    try
      let handle ← perform host action
      let passed ← verifyExpected host action.expected handle
      let _ ← native .foregroundWindow
      pure {
        ok := passed
        failureKind := if passed then none else some "verification_failed"
        error := if passed then none
          else some "expected desktop post-action state not verified" }
    catch e =>
      let _ ← native .foregroundWindow
      pure {
        ok := false
        failureKind := some (e.failureKind.getD "desktop_action_failed")
        error := some e.message }

end Windows

/-- `_start` -/
def start : Desk Unit := do
  let s ← get
  if s.lifecycleState = .active then pure ()
  else
    modify fun s => { s with lifecycleState := .starting }
    let handles ← topLevelHandles
    modify fun s => { s with baselineHandles := handles, lifecycleState := .active }

/-- The cleanup of one window of the ledger. -/
def cleanUp (owned : OwnedWindow) : Desk Unit := do
  let handles ← topLevelHandles
  if owned.handle ∈ handles then
    closeHandle owned.handle
    waitUntil 5000 "cleanup_close_timeout" (do
      let handles ← topLevelHandles
      pure (holds (owned.handle ∉ handles)))
    modify (·.release owned.handle)
  else modify (·.release owned.handle)

/-- The loop of `_stop` -/
def cleanUpAll : List OwnedWindow → Desk Unit
  | [] => pure ()
  | owned :: rest => do
      try cleanUp owned
      catch e => modify fun s => { s with
        cleanupErrors := s.cleanupErrors ++ [⟨owned.handle, owned.processId, e.message⟩] }
      cleanUpAll rest

/-- `_stop` -/
def stop : Desk Unit := do
  let s ← get
  if s.lifecycleState = .stopped then pure ()
  else
    modify fun s => { s with lifecycleState := .stopping }
    cleanUpAll s.ownedWindows
    modify fun s => { s with
      lifecycleState := if s.cleanupErrors.isEmpty then .stopped else .failed }

inductive Method
  | start
  | stop
  | dispatch (action : DesktopAction)
  | otherMethod
  deriving DecidableEq, Repr

@[reducible] def Method.Reply : Method → Type
  | .dispatch _ => DesktopDispatchResult
  | _ => Unit

/-- The session, as the user of a desktop that it shares. -/
def desktopSession (host : DesktopHost) : Component NativeSig Session Raised where
  Method := Method
  Reply := Method.Reply
  body
    | .start => WindowsDesktop.start
    | .stop => WindowsDesktop.stop
    | .dispatch action => WindowsDesktop.dispatch host action
    | .otherMethod => native .otherCall

end Dingdongditch.WindowsDesktop
