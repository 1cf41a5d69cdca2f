import Dingdongditch.Contract.Value
import Dingdongditch.Interaction.Scripted
import Dingdongditch.Store.Journal
import Dingdongditch.Text.Surgery

/-!
# Continuity sessions

A `ContinuitySession` records host decisions in a directory: a manifest and
three journals, of commands, of browser bindings and of attached evidence.  Its
state is never kept in memory: every call replays the journals it needs
(`commands`, `bindings`, `evidenceIndex`) before it appends to one of them.

The clock, the receipts that are attached and the outcome of each write are the
environment.  A write either replaces its file or leaves it alone, and it may
raise in both cases.
-/

namespace Dingdongditch.Continuity

open Interaction Text Store
open Text.Json (ReadsFloat)

def CONTINUITY_SCHEMA_VERSION : String := "1.0.0"

/-- `ContinuityError`, a `RuntimeError`. -/
def continuityError (message : String) : PyException := ⟨.runtimeError, message, none⟩

inductive SessionLifecycle
  | active | completed | stopped
  deriving DecidableEq, Repr

inductive CommandState
  | proposed | authorized | dispatched | verified | failed | outcomeUnknown | cancelled
  deriving DecidableEq, Repr

namespace CommandState

def value : CommandState → String
  | .proposed => "proposed"
  | .authorized => "authorized"
  | .dispatched => "dispatched"
  | .verified => "verified"
  | .failed => "failed"
  | .outcomeUnknown => "outcome_unknown"
  | .cancelled => "cancelled"

def all : List CommandState :=
  [.proposed, .authorized, .dispatched, .verified, .failed, .outcomeUnknown, .cancelled]

/-- `CommandState(value)` -/
def ofValue (value : String) : Except PyException CommandState :=
  match all.find? (·.value = value) with
  | some state => .ok state
  | none => .error (.valueError (value ++ " is not a valid CommandState"))

/-- `_COMMAND_TRANSITIONS.get(state, set())` -/
def transitions : CommandState → List CommandState
  | .proposed => [.authorized, .cancelled]
  | .authorized => [.dispatched, .cancelled]
  | .dispatched => [.verified, .failed, .outcomeUnknown]
  | _ => []

@[simp] theorem ofValue_value (state : CommandState) : ofValue state.value = .ok state := by
  cases state <;> rfl

theorem value_injective {state other : CommandState} (same : state.value = other.value) :
    state = other := by
  have read := ofValue_value state
  rw [same, ofValue_value] at read
  exact (Except.ok.inj read).symm

end CommandState

inductive TerminalClassification
  | verified | failed | outcomeUnknown
  deriving DecidableEq, Repr

/-- The state that a command with this evidence ends in. -/
def TerminalClassification.target : TerminalClassification → CommandState
  | .verified => .verified
  | .failed => .failed
  | .outcomeUnknown => .outcomeUnknown

def TerminalClassification.value (c : TerminalClassification) : String := c.target.value

/-- `_identifier` -/
def identifier (name value : String) : Except PyException String :=
  if (stripBy isSpace value.toList).isEmpty then
    .error (.valueError (name ++ " must be a non-empty string"))
  else if value.toList.all fun c => c.isAlphanum || c = '-' || c = '_' then .ok value
  else .error (.valueError (name ++ " contains unsupported characters"))

variable {F : Type}

/-! ## Records -/

/-- `_event` -/
def event (eventType : String) (recordedAt : F) (fields : List (String × Json F)) : Json F :=
  .dict (("schema_version", .str CONTINUITY_SCHEMA_VERSION) :: ("event_type", .str eventType) ::
    ("recorded_at", .float recordedAt) :: fields)

/-- `event[key]` -/
def getItem (event : Json F) (key : String) : Except PyException (Json F) :=
  match event with
  | .dict entries =>
      match entries.lookup key with
      | some value => .ok value
      | none => .error ⟨.other, key, none⟩
  | _ => .error ⟨.other, "indices must be integers", none⟩

/-- `event[key]`, for a key that the journals hold strings under. -/
def getStr (event : Json F) (key : String) : Except PyException String := do
  match ← getItem event key with
  | .str s => return s
  | _ => throw ⟨.other, key, none⟩

/-- `event.get(key, default)`, for a key that the journals hold strings under. -/
def getStrOr (event : Json F) (key : String) (default : Option String) : Option String :=
  match getItem event key with
  | .ok (.str s) => some s
  | _ => default

structure SessionHeader (F : Type) where
  sessionId : String
  createdAt : F
  principalId : String
  objectiveId : String
  objective : Json F
  schemaVersion : String := CONTINUITY_SCHEMA_VERSION
  lifecycleStatus : SessionLifecycle := .active
  ownerGeneration : String
  permissionReference : String

structure CommandRecord (F : Type) where
  commandId : String
  sessionId : String
  plannerGeneration : String
  transportKind : String
  transportPayloadReference : String
  authorizationVersion : String
  createdAt : Json F
  state : CommandState
  receiptReference : Option String := none
  bindingGeneration : Option String := none

structure BrowserBinding (F : Type) where
  bindingId : String
  bindingGeneration : String
  browserProfileReference : String
  backendIdentity : String
  sessionIdentity : String
  leaseOwner : String
  capabilitySnapshot : Json F
  acquiredAt : Json F
  releasedAt : Json F := .null

/-- `binding.released_at is not None` -/
def BrowserBinding.isReleased (binding : BrowserBinding F) : Bool :=
  match binding.releasedAt with
  | .null => false
  | _ => true

/-! ## Replay -/

/-- The record that a `command_created` event makes. -/
def CommandRecord.ofEvent (event : Json F) : Except PyException (CommandRecord F) := do
  return {
    commandId := ← getStr event "command_id"
    sessionId := ← getStr event "session_id"
    plannerGeneration := ← getStr event "planner_generation"
    transportKind := ← getStr event "transport_kind"
    transportPayloadReference := ← getStr event "transport_payload_reference"
    authorizationVersion := ← getStr event "authorization_version"
    createdAt := ← getItem event "created_at"
    state := ← CommandState.ofValue (← getStr event "state") }

/-- The step of `commands` for one event. -/
def replayCommand (records : List (CommandRecord F)) (event : Json F) :
    Except PyException (List (CommandRecord F)) := do
  let commandId ← getStr event "command_id"
  let eventType ← getStr event "event_type"
  if eventType = "command_created" then
    if records.any (·.commandId = commandId) then
      throw (continuityError ("duplicate command creation: " ++ commandId))
    else
      return records ++ [← CommandRecord.ofEvent event]
  else if eventType = "command_state_changed" then
    match records.find? (·.commandId = commandId) with
    | none => throw (continuityError ("invalid command journal chain: " ++ commandId))
    | some current =>
        if current.state.value ≠ (← getStr event "from_state") then
          throw (continuityError ("invalid command journal chain: " ++ commandId))
        else
          let newState ← CommandState.ofValue (← getStr event "state")
          if newState ∉ current.state.transitions then
            throw (continuityError ("invalid persisted command transition: " ++ commandId))
          else
            let changed := { current with
              state := newState
              receiptReference := getStrOr event "receipt_reference" current.receiptReference
              bindingGeneration := getStrOr event "binding_generation" current.bindingGeneration }
            return records.map fun record => if record.commandId = commandId then changed else record
  else return records

/-- The binding that a `binding_acquired` event makes. -/
def BrowserBinding.ofEvent (event : Json F) : Except PyException (BrowserBinding F) := do
  return {
    bindingId := ← getStr event "binding_id"
    bindingGeneration := ← getStr event "binding_generation"
    browserProfileReference := ← getStr event "browser_profile_reference"
    backendIdentity := ← getStr event "backend_identity"
    sessionIdentity := ← getStr event "session_identity"
    leaseOwner := ← getStr event "lease_owner"
    capabilitySnapshot := ← getItem event "capability_snapshot"
    acquiredAt := ← getItem event "acquired_at" }

/-- The step of `bindings` for one event. -/
def replayBinding (bindings : List (BrowserBinding F)) (event : Json F) :
    Except PyException (List (BrowserBinding F)) := do
  let generation ← getStr event "binding_generation"
  let eventType ← getStr event "event_type"
  if eventType = "binding_acquired" then
    if bindings.any (·.bindingGeneration = generation) then
      throw (continuityError "duplicate binding generation")
    else
      return bindings ++ [← BrowserBinding.ofEvent event]
  else if eventType = "binding_released" then
    match bindings.find? (·.bindingGeneration = generation) with
    | none => throw (continuityError "release references unknown binding")
    | some binding =>
        if binding.isReleased then throw (continuityError "binding released more than once")
        else
          let released := { binding with releasedAt := ← getItem event "released_at" }
          return bindings.map fun binding =>
            if binding.bindingGeneration = generation then released else binding
  else return bindings

/-! ## The directory -/

inductive Stream
  | commands | bindings | evidence
  deriving DecidableEq, Repr

def Stream.name : Stream → String
  | .commands => "commands.jsonl"
  | .bindings => "bindings.jsonl"
  | .evidence => "evidence.jsonl"

/-- The directory of a session: the manifest, and the records that were appended
to each journal. -/
structure Disk (F : Type) where
  manifest : SessionHeader F
  commands : List (Json F) := []
  bindings : List (Json F) := []
  evidence : List (Json F) := []

/-- `append_json_line` and `publish_json`. -/
inductive Write (F : Type)
  | append (stream : Stream) (record : Json F)
  | publish (manifest : SessionHeader F)

namespace Disk

def stream (disk : Disk F) : Stream → List (Json F)
  | .commands => disk.commands
  | .bindings => disk.bindings
  | .evidence => disk.evidence

def apply (disk : Disk F) : Write F → Disk F
  | .append .commands record => { disk with commands := disk.commands ++ [record] }
  | .append .bindings record => { disk with bindings := disk.bindings ++ [record] }
  | .append .evidence record => { disk with evidence := disk.evidence ++ [record] }
  | .publish manifest => { disk with manifest }

end Disk

/-- A session object with the directory it owns; `closed` says that nobody holds
the lease of the directory. -/
structure ContinuitySession (F : Type) where
  disk : Disk F
  header : SessionHeader F
  closed : Bool

/-! ## The environment -/

/-- How a write came out; `landed` says whether it replaced its file although it raised. -/
inductive WriteOutcome
  | written
  | raised (e : PyException) (landed : Bool)

inductive ContinuityCall (F : Type)
  | now
  | write (write : Write F)
  /-- `str(Path(reference).resolve())` -/
  | resolve (reference : String)
  /-- The receipt at a path, parsed, with the SHA-256 of its text. -/
  | readReceipt (path : String)

def ContinuityCall.Answer : ContinuityCall F → Type
  | .now => F
  | .write _ => WriteOutcome
  | .resolve _ => String
  | .readReceipt _ => Except PyException (Json F × String)

def ContinuitySig (F : Type) : Sig := ⟨ContinuityCall F, ContinuityCall.Answer⟩

/-- A part of a call of the API of a session. -/
abbrev Journaling (F α : Type) : Type := Act (ContinuitySig F) (ContinuitySession F) PyException α

def now : Journaling F F := Act.ask (S := ContinuitySig F) .now

def writeDisk (write : Write F) : Journaling F Unit := do
  let outcome ← Act.ask (S := ContinuitySig F) (.write write)
  match (outcome : WriteOutcome) with
  | .written => modify fun s => { s with disk := s.disk.apply write }
  | .raised e landed => do
      if landed then modify fun s => { s with disk := s.disk.apply write }
      throw e

/-- `_require_writable` -/
def requireWritable : Journaling F Unit := do
  let s ← get
  if s.closed then throw (continuityError "continuity session owner is closed")
  else if s.header.lifecycleStatus ≠ .active then
    throw (continuityError "terminal continuity session is read-only")

/-- `_append` -/
def append (stream : Stream) (record : Json F) : Journaling F Unit := do
  requireWritable
  writeDisk (.append stream record)

/-! ## Reading the journals -/

variable [Floating F] [ReadsFloat F]

/-- `_read_events` -/
def Disk.readEvents (disk : Disk F) (stream : Stream) : Except PyException (List (Json F)) :=
  match readJournal (journalText (disk.stream stream)) with
  | some events => .ok events
  | none => .error (continuityError ("corrupt continuity stream: " ++ stream.name))

/-- `commands` -/
def Disk.commandRecords (disk : Disk F) : Except PyException (List (CommandRecord F)) := do
  (← disk.readEvents .commands).foldlM replayCommand []

/-- `bindings` -/
def Disk.bindingRecords (disk : Disk F) : Except PyException (List (BrowserBinding F)) := do
  (← disk.readEvents .bindings).foldlM replayBinding []

/-- `active_binding` -/
def Disk.activeBinding (disk : Disk F) : Except PyException (Option (BrowserBinding F)) := do
  match (← disk.bindingRecords).filter (!·.isReleased) with
  | [] => return none
  | [binding] => return some binding
  | _ => throw (continuityError "multiple active browser bindings")

/-- `evidence_index` -/
def Disk.evidenceIndex (disk : Disk F) : Except PyException (List (Json F)) :=
  disk.readEvents .evidence

/-- Read the directory as it is now. -/
def reading {α : Type} (read : Disk F → Except PyException α) : Journaling F α := do
  Act.ofExcept (read (← get).disk)

/-! ## Commands -/

/-- `_command_dict` -/
def CommandRecord.toDict (record : CommandRecord F) : List (String × Json F) :=
  [("command_id", .str record.commandId), ("session_id", .str record.sessionId),
    ("planner_generation", .str record.plannerGeneration),
    ("transport_kind", .str record.transportKind),
    ("transport_payload_reference", .str record.transportPayloadReference),
    ("authorization_version", .str record.authorizationVersion),
    ("created_at", record.createdAt), ("state", .str record.state.value),
    ("receipt_reference", (record.receiptReference.map .str).getD .null),
    ("binding_generation", (record.bindingGeneration.map .str).getD .null)]

structure ProposeRequest where
  commandId : String
  plannerGeneration : String
  transportPayloadReference : String
  authorizationVersion : String

/-- `propose_command` -/
def proposeCommand (request : ProposeRequest) : Journaling F (CommandRecord F) := do
  let commandId ← Act.ofExcept (identifier "command_id" request.commandId)
  let commands ← reading Disk.commandRecords
  if commands.any (·.commandId = commandId) then
    throw (continuityError ("command_id already exists: " ++ commandId))
  else
    let s ← get
    let plannerGeneration ← Act.ofExcept (identifier "planner_generation" request.plannerGeneration)
    let createdAt ← now
    let record : CommandRecord F := {
      commandId
      sessionId := s.header.sessionId
      plannerGeneration
      transportKind := "browser"
      transportPayloadReference := request.transportPayloadReference
      authorizationVersion := request.authorizationVersion
      createdAt := .float createdAt
      state := .proposed }
    if request.transportPayloadReference = "" ∨ request.authorizationVersion = "" then
      throw (.valueError "payload reference and authorization version are required")
    else
      let recordedAt ← now
      append .commands (event "command_created" recordedAt record.toDict)
      return record

/-- `_transition` -/
def transition (commandId : String) (state : CommandState) (detail : List (String × Json F)) :
    Journaling F (CommandRecord F) := do
  let commands ← reading Disk.commandRecords
  match commands.find? (·.commandId = commandId) with
  | none => throw (continuityError ("unknown command_id: " ++ commandId))
  | some current =>
      if state ∉ current.state.transitions then
        throw (continuityError
          ("invalid command transition: " ++ current.state.value ++ " -> " ++ state.value))
      else
        let recordedAt ← now
        append .commands (event "command_state_changed" recordedAt
          (("command_id", .str commandId) :: ("from_state", .str current.state.value) ::
            ("state", .str state.value) :: detail))
        let commands ← reading Disk.commandRecords
        match commands.find? (·.commandId = commandId) with
        | some changed => return changed
        | none => throw ⟨.other, commandId, none⟩

/-- `authorize_command` -/
def authorizeCommand (commandId : String) : Journaling F (CommandRecord F) :=
  transition commandId .authorized []

/-- `record_authorized_command` -/
def recordAuthorizedCommand (request : ProposeRequest) : Journaling F (CommandRecord F) := do
  let record ← proposeCommand request
  authorizeCommand record.commandId

/-- `dispatch_command` -/
def dispatchCommand (commandId bindingGeneration : String) : Journaling F (CommandRecord F) := do
  let binding ← reading Disk.activeBinding
  if binding.all (·.bindingGeneration ≠ bindingGeneration) then
    throw (continuityError "dispatch requires the active browser binding generation")
  else transition commandId .dispatched [("binding_generation", .str bindingGeneration)]

/-- `cancel_command` -/
def cancelCommand (commandId : String) : Journaling F (CommandRecord F) :=
  transition commandId .cancelled []

/-- `mark_outcome_unknown` -/
def markOutcomeUnknown (commandId reason : String) : Journaling F (CommandRecord F) := do
  if reason = "" then throw (.valueError "unknown outcome requires a reason")
  else transition commandId .outcomeUnknown [("reason", .str reason)]

/-- What recovery does with one command of the journal. -/
def recoverCommand (evidence : List (String × Json F)) (command : CommandRecord F) :
    Journaling F Unit := do
  if command.state = .dispatched then
    match evidence.lookup command.commandId with
    | some attached => do
        let classification ← Act.ofExcept (getStr attached "terminal_classification")
        let target ← Act.ofExcept (CommandState.ofValue classification)
        let receiptReference ← Act.ofExcept (getItem attached "receipt_reference")
        let _ ← transition command.commandId target
          [("receipt_reference", receiptReference), ("recovered_from_evidence", .bool true)]
    | none => do
        let _ ← markOutcomeUnknown command.commandId "owner_restart_after_dispatch"

/-- `recover_interrupted_commands`.  Of several records of one command the last
one counts, so they are looked up in reverse. -/
def recoverInterruptedCommands : Journaling F Unit := do
  let index ← reading Disk.evidenceIndex
  let evidence ← Act.ofExcept (index.mapM fun item => do return (← getStr item "command_id", item))
  let commands ← reading Disk.commandRecords
  commands.forM (recoverCommand evidence.reverse)

/-! ## Bindings -/

structure AcquireRequest (F : Type) where
  bindingId : String
  bindingGeneration : String
  browserProfileReference : String
  backendIdentity : String
  sessionIdentity : String
  leaseOwner : String
  capabilitySnapshot : List (String × Json F)

def forbiddenKeys : List String :=
  ["locator", "page", "page_reference", "dom_handle", "playwright", "freshness"]

mutual

/-- `_contains_forbidden_key` -/
def containsForbiddenKey : Json F → Bool
  | .dict entries => entriesForbidden entries
  | .list items => itemsForbidden items
  | _ => false

def itemsForbidden : List (Json F) → Bool
  | [] => false
  | item :: items => containsForbiddenKey item || itemsForbidden items

def entriesForbidden : List (String × Json F) → Bool
  | [] => false
  | (key, value) :: entries =>
      key.toLower ∈ forbiddenKeys || containsForbiddenKey value || entriesForbidden entries

end

/-- The fields of a binding, as `binding.__dict__`. -/
def BrowserBinding.toDict (binding : BrowserBinding F) : List (String × Json F) :=
  [("binding_id", .str binding.bindingId), ("binding_generation", .str binding.bindingGeneration),
    ("browser_profile_reference", .str binding.browserProfileReference),
    ("backend_identity", .str binding.backendIdentity),
    ("session_identity", .str binding.sessionIdentity), ("lease_owner", .str binding.leaseOwner),
    ("capability_snapshot", binding.capabilitySnapshot), ("acquired_at", binding.acquiredAt),
    ("released_at", binding.releasedAt)]

/-- The checks of the arguments of `acquire_browser_binding`. -/
def AcquireRequest.check (request : AcquireRequest F) : Except PyException Unit := do
  let _ ← identifier "binding_id" request.bindingId
  let _ ← identifier "binding_generation" request.bindingGeneration
  let _ ← identifier "backend_identity" request.backendIdentity
  let _ ← identifier "session_identity" request.sessionIdentity
  let _ ← identifier "lease_owner" request.leaseOwner
  if request.browserProfileReference = "" then
    throw (.valueError "browser_profile_reference is required")
  if containsForbiddenKey (.dict request.capabilitySnapshot) then
    throw (.valueError "capability snapshot contains browser-local state")

/-- `acquire_browser_binding` -/
def acquireBrowserBinding (request : AcquireRequest F) : Journaling F (BrowserBinding F) := do
  let active ← reading Disk.activeBinding
  if active.isSome then throw (continuityError "a browser binding is already active")
  else
    Act.ofExcept request.check
    let acquiredAt ← now
    let binding : BrowserBinding F := {
      bindingId := request.bindingId
      bindingGeneration := request.bindingGeneration
      browserProfileReference := request.browserProfileReference
      backendIdentity := request.backendIdentity
      sessionIdentity := request.sessionIdentity
      leaseOwner := request.leaseOwner
      capabilitySnapshot := .dict request.capabilitySnapshot
      acquiredAt := .float acquiredAt }
    let recordedAt ← now
    append .bindings (event "binding_acquired" recordedAt binding.toDict)
    return binding

/-- `release_browser_binding` -/
def releaseBrowserBinding (bindingGeneration : String) : Journaling F (BrowserBinding F) := do
  match ← reading Disk.activeBinding with
  | none => throw (continuityError "binding generation is not active")
  | some binding =>
      if binding.bindingGeneration ≠ bindingGeneration then
        throw (continuityError "binding generation is not active")
      else
        let releasedAt ← now
        let recordedAt ← now
        append .bindings (event "binding_released" recordedAt
          [("binding_id", .str binding.bindingId),
            ("binding_generation", .str binding.bindingGeneration),
            ("released_at", .float releasedAt)])
        return { binding with releasedAt := .float releasedAt }

/-! ## Evidence -/

/-- `receipt.get(key)`, for a receipt that is a dictionary. -/
def getKey (entries : List (String × Json F)) (key : String) : Json F := Json.get entries key

/-- `list(value or [])` -/
def listOrEmpty (value : Json F) : Except PyException (List (Json F)) :=
  match value with
  | .null | .bool false => .ok []
  | .list items => .ok items
  | .str s => .ok (s.toList.map fun c => .str (String.ofList [c]))
  | .dict entries => .ok (entries.map fun entry => .str entry.1)
  | .int n => if n = 0 then .ok [] else .error ⟨.other, "'int' object is not iterable", none⟩
  | .float x =>
      if Floating.eqInt x 0 then .ok [] else .error ⟨.other, "'float' object is not iterable", none⟩
  | .bool true => .error ⟨.other, "'bool' object is not iterable", none⟩

/-- The results of one step of a plan receipt. -/
def stepResults (step : Json F) : Except PyException (List (Json F)) :=
  match step with
  | .dict fields =>
      match getKey fields "receipt" with
      | .dict nested => listOrEmpty (getKey nested "expectation_results")
      | _ => .ok []
  | _ => .ok []

/-- The fact that a passing result states. -/
def verifiedFact (result : Json F) : Except PyException (Option (Json F)) :=
  match result with
  | .dict fields =>
      match getKey fields "result" with
      | .str "pass" => do
          let refs ← listOrEmpty (getKey fields "evidence_refs")
          return some (.dict [("fact_type", .str "verified_expectation"),
            ("expectation_id", getKey fields "expectation_id"),
            ("expectation_type", getKey fields "expectation_type"),
            ("expected", getKey fields "expected"), ("observed", getKey fields "observed"),
            ("evidence_refs", .list refs)])
      | _ => .ok none
  | _ => .ok none

/-- `_verified_facts_from_receipt` -/
def verifiedFactsFromReceipt (receipt : List (String × Json F)) :
    Except PyException (List (Json F)) := do
  let results ← listOrEmpty (getKey receipt "expectation_results")
  let steps ← listOrEmpty (getKey receipt "steps")
  let nested ← steps.mapM stepResults
  let facts ← (results ++ nested.flatten).mapM verifiedFact
  return facts.reduceOption

/-- `_classify_receipt` -/
def classifyReceipt (receipt : List (String × Json F)) :
    Except PyException TerminalClassification :=
  match Json.getOr receipt "plan_verdict" (getKey receipt "verdict") with
  | .str "VERIFIED" => .ok .verified
  | .str "NOT_VERIFIED" | .str "EXECUTION_FAILED" => .ok .failed
  | .str "INDETERMINATE" => .ok .outcomeUnknown
  | .list _ | .dict _ => .error ⟨.other, "unhashable type", none⟩
  | _ => .error (continuityError "referenced artifact is not a recognized DingDongDitch receipt")

structure AttachRequest where
  commandId : String
  receiptReference : String
  bindingGeneration : String
  terminalClassification : TerminalClassification

/-- The record that `attach_receipt` appends. -/
def evidenceRecord (request : AttachRequest) (recordedAt : F) (path schema digest : String)
    (facts : List (Json F)) : Json F :=
  event "receipt_attached" recordedAt
    [("command_id", .str request.commandId), ("receipt_reference", .str path),
      ("receipt_schema", .str schema), ("receipt_sha256", .str digest),
      ("binding_generation", .str request.bindingGeneration),
      ("terminal_classification", .str request.terminalClassification.value),
      ("verified_facts", .list facts)]

/-- `attach_receipt` -/
def attachReceipt (request : AttachRequest) : Journaling F (CommandRecord F) := do
  let commands ← reading Disk.commandRecords
  let command := commands.find? (·.commandId = request.commandId)
  if command.all (·.state ≠ .dispatched) then
    throw (continuityError "receipt can attach only to a dispatched command")
  else if command.bind (·.bindingGeneration) ≠ some request.bindingGeneration then
    throw (continuityError "receipt binding generation does not match dispatch")
  else
    let path ← Act.ask (S := ContinuitySig F) (.resolve request.receiptReference)
    let answer ← Act.ask (S := ContinuitySig F) (.readReceipt path)
    let (receipt, digest) ← Act.ofExcept (answer : Except PyException (Json F × String))
    match receipt with
    | .dict receipt =>
        match getKey receipt "schema_version" with
        | .str schema =>
            if schema = "" then throw (continuityError "referenced receipt has no schema_version")
            else
              let facts ← Act.ofExcept (verifiedFactsFromReceipt receipt)
              let declared ← Act.ofExcept (classifyReceipt receipt)
              if request.terminalClassification ≠ declared then
                throw (continuityError
                  "terminal classification contradicts the DingDongDitch receipt")
              else
                let recordedAt ← now
                append .evidence (evidenceRecord request recordedAt path schema digest facts)
                transition request.commandId request.terminalClassification.target
                  [("receipt_reference", .str path)]
        | _ => throw (continuityError "referenced receipt has no schema_version")
    | _ => throw (.attributeError "object has no attribute 'get'")

/-! ## The session -/

/-- `set_lifecycle` -/
def setLifecycle (status : SessionLifecycle) : Journaling F Unit := do
  requireWritable
  if status = .active then throw (continuityError "session is already active")
  else
    modify fun s => { s with header := { s.header with lifecycleStatus := status } }
    writeDisk (.publish (← get).header)

/-- `close` -/
def close : Journaling F Unit := modify fun s => { s with closed := true }

/-- `ContinuitySession.open`, by a new owner of the directory. -/
def openSession (ownerGeneration : String) (recoverInterrupted : Bool) : Journaling F Unit := do
  let s ← get
  if !s.closed then throw ⟨.other, "lease is held", none⟩
  else if s.disk.manifest.schemaVersion ≠ CONTINUITY_SCHEMA_VERSION then
    throw (continuityError "unsupported continuity schema version")
  else
    let ownerGeneration ← Act.ofExcept (identifier "owner_generation" ownerGeneration)
    let header := { s.disk.manifest with ownerGeneration }
    writeDisk (.publish header)
    modify fun s => { s with header, closed := false }
    if recoverInterrupted then
      tryCatch recoverInterruptedCommands fun e => do
        close
        throw e

structure CreateRequest (F : Type) where
  sessionId : String
  principalId : String
  objectiveId : String
  objective : Json F
  ownerGeneration : String
  permissionReference : String

/-- `ContinuitySession.create`, in an empty directory. -/
def createSession (request : CreateRequest F) (createdAt : F) :
    Except PyException (ContinuitySession F) := do
  let sessionId ← identifier "session_id" request.sessionId
  let principalId ← identifier "principal_id" request.principalId
  let objectiveId ← identifier "objective_id" request.objectiveId
  let ownerGeneration ← identifier "owner_generation" request.ownerGeneration
  if request.permissionReference = "" then
    throw (.valueError "permission_reference must be non-empty")
  let header : SessionHeader F := {
    sessionId
    createdAt
    principalId
    objectiveId
    objective := request.objective
    ownerGeneration
    permissionReference := request.permissionReference }
  return { disk := { manifest := header }, header, closed := false }

/-! ## Lives of a directory -/

/-- The calls of the API. -/
inductive ContinuityMethod (F : Type)
  | proposeCommand (request : ProposeRequest)
  | authorizeCommand (commandId : String)
  | recordAuthorizedCommand (request : ProposeRequest)
  | dispatchCommand (commandId bindingGeneration : String)
  | cancelCommand (commandId : String)
  | markOutcomeUnknown (commandId reason : String)
  | recoverInterruptedCommands
  | acquireBrowserBinding (request : AcquireRequest F)
  | releaseBrowserBinding (bindingGeneration : String)
  | attachReceipt (request : AttachRequest)
  | setLifecycle (status : SessionLifecycle)
  | close
  | openSession (ownerGeneration : String) (recoverInterrupted : Bool)

/-- A call, for its effect. -/
def discard {α : Type} (m : Journaling F α) : Journaling F Unit := do
  let _ ← m

def ContinuityMethod.body : ContinuityMethod F → Journaling F Unit
  | .proposeCommand request => discard (Continuity.proposeCommand request)
  | .authorizeCommand commandId => discard (Continuity.authorizeCommand commandId)
  | .recordAuthorizedCommand request => discard (Continuity.recordAuthorizedCommand request)
  | .dispatchCommand commandId generation =>
      discard (Continuity.dispatchCommand commandId generation)
  | .cancelCommand commandId => discard (Continuity.cancelCommand commandId)
  | .markOutcomeUnknown commandId reason => discard (Continuity.markOutcomeUnknown commandId reason)
  | .recoverInterruptedCommands => Continuity.recoverInterruptedCommands
  | .acquireBrowserBinding request => discard (Continuity.acquireBrowserBinding request)
  | .releaseBrowserBinding generation => discard (Continuity.releaseBrowserBinding generation)
  | .attachReceipt request => discard (Continuity.attachReceipt request)
  | .setLifecycle status => Continuity.setLifecycle status
  | .close => Continuity.close
  | .openSession generation recover => Continuity.openSession generation recover

/-- The writes of a trace that replaced their file. -/
def landed (t : Trace (ContinuitySig F)) : List (Write F) :=
  t.filterMap fun event => match event with
    | ⟨.write write, .written⟩ => some write
    | ⟨.write write, .raised _ true⟩ => some write
    | _ => none

/-- One call of the API, with the part `trace` of it that ran.  A call that is
cut short by the death of its process leaves what it has written. -/
structure LifeStep (F : Type) where
  method : ContinuityMethod F
  before : ContinuitySession F
  trace : Trace (ContinuitySig F)
  after : ContinuitySession F

/-- A call that came to its end. -/
def LifeStep.Complete (step : LifeStep F) : Prop :=
  ∃ r, Act.Runs step.method.body step.before step.trace r step.after

/-- A call cut short: the next owner finds what it wrote. -/
def LifeStep.Cut (step : LifeStep F) : Prop :=
  (∃ later r s', Act.Runs step.method.body step.before (step.trace ++ later) r s') ∧
    step.after = { step.before with
      disk := (landed step.trace).foldl Disk.apply step.before.disk
      closed := true }

/-- A sequence of calls on one directory. -/
inductive Life : ContinuitySession F → List (LifeStep F) → ContinuitySession F → Prop
  | nil (s : ContinuitySession F) : Life s [] s
  | snoc {s : ContinuitySession F} {steps : List (LifeStep F)} (step : LifeStep F)
      (earlier : Life s steps step.before) (called : step.Complete ∨ step.Cut) :
      Life s (steps ++ [step]) step.after

/-- Everything that was written in a sequence of calls, in order. -/
def written (steps : List (LifeStep F)) : List (Write F) := steps.flatMap fun step => landed step.trace

end Dingdongditch.Continuity
