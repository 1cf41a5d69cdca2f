import Dingdongditch.Mcp.Handles

/-!
# Requests

The tools of the server, and its ends of life.  A request calls the handle table,
method by method, and the governed service; other requests run in between.  The
service answers as it likes: what it raises includes the rejection of malformed
arguments and of a proposal that does not parse.  Proposals and rendered results
are documents of a type `D`.
-/

namespace Dingdongditch.Mcp

open Interaction

variable {D : Type}

/-- A preparation of the runtime, with its public form. -/
structure Prepared (D : Type) where
  token : String
  expiresAtMs : Int
  preparedPublic : D

structure SpeculationPrepared (D : Type) where
  token : String
  expiresAtMs : Int
  controlEpoch : Int
  speculationPublic : D

structure SpeculationResult (D : Type) where
  selection : D
  preparedOperation : Option (Prepared D)
  operationResult : Option D

inductive ServiceCall (D : Type)
  /-- `_require_arguments` -/
  | requireArguments
  | observe
  | parseOperation (operation : D)
  | execute (operation : D) (reference : Option (SessionObservation × String))
  /-- `parse_operation`, and the call of the service -/
  | prepare (operation : D)
  | commit (token : HandleValue)
  | prepareSpeculation (plan : D)
  | selectSpeculativeBranch (token : HandleValue)
  | executeSelectedSpeculativeBranch (token : HandleValue)
  /-- The close of the governed session. -/
  | closeSession

/-- The results of the service. -/
def ServiceCall.Result : ServiceCall D → Type
  | .requireArguments => Unit
  | .observe => SessionObservation
  | .parseOperation _ => Unit
  | .execute _ _ => D
  | .prepare _ => Prepared D
  | .commit _ => D
  | .prepareSpeculation _ => SpeculationPrepared D
  | .selectSpeculativeBranch _ => D
  | .executeSelectedSpeculativeBranch _ => SpeculationResult D
  | .closeSession => Unit

def ServiceSig (D : Type) : Sig where
  Call := ServiceCall D
  Answer := fun c => Except Failure c.Result

variable (binding : Binding)

/-- What a request runs on. -/
abbrev RequestSig (D : Type) : Sig := (handleTable binding).calls.sum (ServiceSig D)

abbrev RequestAct (D α : Type) : Type := Act (RequestSig binding D) Unit Failure α

variable {binding}

/-- Call a method of the handle table. -/
def table (method : Method) : RequestAct binding D method.Reply :=
  Act.attempt (S := RequestSig binding D) (.inl method) id

/-- Call the service. -/
def service (c : ServiceCall D) : RequestAct binding D c.Result :=
  Act.attempt (S := RequestSig binding D) (.inr c) id

inductive Reply (D : Type)
  | contract
  | capabilities
  | observation (handle : String) (observed : SessionObservation)
    (recovery : Option (String × Option String))
  | operation (result : D)
  | prepared (handle : String) (prepared : Prepared D)
  | committed (result : D)
  | speculation (handle : String) (prepared : SpeculationPrepared D)
  | selection (handle : Argument) (selection : D)
  | execution (selection : D) (prepared : Option (String × Prepared D)) (result : Option D)
  | none

/-- An element identifier, where one is given. -/
def elementOf : Argument → Except Failure (Option String)
  | .none => .ok none
  | .str s =>
      if s = "" ∨ 256 < s.length then .error (.adapter "invalid_observation_reference")
      else .ok (some s)
  | .other => .error (.adapter "invalid_observation_reference")

/-- Work that holds a reservation of the table. -/
def withReservation {α : Type} (work : Nat → RequestAct binding D α) : RequestAct binding D α := do
  let reservation : Nat ← table .reserve
  Act.andFinally (work reservation) (table (.release reservation))

/-- `_publish_observation` -/
def publishObservation (previous : Option SessionObservation) (previousElementId : Option String) :
    RequestAct binding D (Reply D) := do
  let (handle, observed) ← withReservation fun reservation => do
    let observed : SessionObservation ← service .observe
    let handle : String ← table (.mint .observation (.observation observed) Option.none
      (some observed.controlEpoch) (some reservation))
    return (handle, observed)
  return .observation handle observed (previous.map fun p => (p.observationId, previousElementId))

def observationOf (item : OpaqueHandle) : Except Failure SessionObservation :=
  match item.value with
  | .observation observed => .ok observed
  | .token _ => .error (.adapter "invalid_handle")

/-- `_observe` -/
def observe : RequestAct binding D (Reply D) := do
  service .requireArguments
  publishObservation Option.none Option.none

/-- The observation that `_reobserve` starts from. -/
def previousObservation (handle : Argument) : RequestAct binding D (Option SessionObservation) :=
  match handle with
  | .none => pure Option.none
  | .str s => do
      if s = "" then throw (.adapter "invalid_observation_reference")
      let item : OpaqueHandle ← table (.take (.str s) .observation false)
      let observed ← Act.ofExcept (observationOf item)
      return some observed
  | .other => throw (.adapter "invalid_observation_reference")

/-- `_reobserve` -/
def reobserve (handle elementId : Argument) : RequestAct binding D (Reply D) := do
  service .requireArguments
  let previous ← previousObservation handle
  let elementId ← Act.ofExcept (elementOf elementId)
  if elementId.isSome && previous.isNone then throw (.adapter "invalid_observation_reference")
  publishObservation previous elementId

/-- `_observation_reference` -/
def observationReference (handle elementId : Argument) :
    RequestAct binding D (Option (SessionObservation × String)) :=
  match handle, elementId with
  | .none, .none => pure Option.none
  | .str s, .str e => do
      if e = "" ∨ 256 < e.length then throw (.adapter "invalid_observation_reference")
      let item : OpaqueHandle ← table (.take (.str s) .observation false)
      let observed ← Act.ofExcept (observationOf item)
      return some (observed, e)
  | _, _ => throw (.adapter "invalid_observation_reference")

/-- `_execute` -/
def execute (operation : D) (handle elementId : Argument) : RequestAct binding D (Reply D) := do
  service .requireArguments
  service (.parseOperation operation)
  let reference ← observationReference handle elementId
  let result : D ← service (.execute operation reference)
  return .operation result

/-- `_prepare` -/
def prepare (operation : D) : RequestAct binding D (Reply D) := do
  service .requireArguments
  let (handle, prepared) ← withReservation fun reservation => do
    let prepared : Prepared D ← service (.prepare operation)
    let handle : String ← table (.mint .prepared (.token prepared.token) (some prepared.expiresAtMs)
      Option.none (some reservation))
    return (handle, prepared)
  return .prepared handle prepared

/-- `_commit` -/
def commit (handle : Argument) : RequestAct binding D (Reply D) := do
  service .requireArguments
  let item : OpaqueHandle ← table (.take handle .prepared true)
  let result : D ← service (.commit item.value)
  return .committed result

/-- `_prepare_speculation` -/
def prepareSpeculation (plan : D) : RequestAct binding D (Reply D) := do
  service .requireArguments
  let (handle, prepared) ← withReservation fun reservation => do
    let prepared : SpeculationPrepared D ← service (.prepareSpeculation plan)
    let handle : String ← table (.mint .speculation (.token prepared.token)
      (some prepared.expiresAtMs) (some prepared.controlEpoch) (some reservation))
    return (handle, prepared)
  return .speculation handle prepared

/-- `_select_speculation` -/
def selectSpeculation (handle : Argument) : RequestAct binding D (Reply D) := do
  service .requireArguments
  let item : OpaqueHandle ← table (.take handle .speculation false)
  let selection : D ← service (.selectSpeculativeBranch item.value)
  return .selection handle selection

/-- `_execute_speculation` -/
def executeSpeculation (handle : Argument) : RequestAct binding D (Reply D) := do
  service .requireArguments
  let item : OpaqueHandle ← table (.take handle .speculation true)
  withReservation fun reservation => do
    let result : SpeculationResult D ← service (.executeSelectedSpeculativeBranch item.value)
    match result.preparedOperation with
    | some prepared => do
        let handle : String ← table (.mint .prepared (.token prepared.token)
          (some prepared.expiresAtMs) Option.none (some reservation))
        return .execution result.selection (some (handle, prepared)) result.operationResult
    | Option.none => return .execution result.selection Option.none result.operationResult

inductive Request (D : Type)
  | getContract
  | getCapabilities
  | observe
  | reobserve (previousObservationHandle previousElementId : Argument)
  | execute (operation : D) (observationHandle elementId : Argument)
  | prepare (operation : D)
  | commit (preparedHandle : Argument)
  | prepareSpeculation (speculativePlan : D)
  | selectSpeculativeBranch (speculationHandle : Argument)
  | executeSelectedSpeculativeBranch (speculationHandle : Argument)
  | unknown (name : String)

/-- The handlers of `_call_tool` -/
def handler : Request D → RequestAct binding D (Reply D)
  | .getContract => do
      service .requireArguments
      return .contract
  | .getCapabilities => do
      service .requireArguments
      return .capabilities
  | .observe => observe
  | .reobserve handle elementId => reobserve handle elementId
  | .execute operation handle elementId => execute operation handle elementId
  | .prepare operation => prepare operation
  | .commit handle => commit handle
  | .prepareSpeculation plan => prepareSpeculation plan
  | .selectSpeculativeBranch handle => selectSpeculation handle
  | .executeSelectedSpeculativeBranch handle => executeSpeculation handle
  | .unknown _ => throw (.adapter "unknown_tool")

/-- `call_tool`; what it raises is answered as an error. -/
def callTool (request : Request D) : RequestAct binding D (Reply D) := do
  let closed : Bool ← table .isClosed
  if closed then throw (.adapter "server_closed")
  handler request

/-- `close` -/
def close : RequestAct binding D (Reply D) := do
  let closed : Bool ← table .markClosed
  if closed then return .none
  table .clear
  service .closeSession
  return .none

/-- The end of `run_stdio`. -/
def disconnect : RequestAct binding D (Reply D) := do
  table .clear
  if binding.closeOnDisconnect then close else return .none

/-- What runs on a server. -/
inductive Task (D : Type)
  | tool (request : Request D)
  | close
  | disconnect

def Task.act : Task D → RequestAct binding D (Reply D)
  | .tool request => callTool request
  | .close => Mcp.close
  | .disconnect => Mcp.disconnect

/-- The program of a task, which starts without a state of its own. -/
def Task.program (task : Task D) : Prog (RequestSig binding D) (Except Failure (Reply D) × Unit) :=
  task.act ()

end Dingdongditch.Mcp
