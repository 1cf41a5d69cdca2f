import Dingdongditch.Contract.Value
import Dingdongditch.Interaction.Clients
import Dingdongditch.Text.Dict

/-!
# Opaque handles

The handle table of an MCP server: capabilities under random tokens, with a
bounded number of them live.  A request reserves room before it does any work,
mints its handle into that room, and gives the reservation back.  Dropping all
handles starts a new generation, in which older reservations mean nothing.

Each method holds the lock of the table, so the methods form a component.
-/

namespace Dingdongditch.Mcp

open Interaction Text

def maxMcpHandles : Nat := 128

def maxMcpConsumedHandleTombstones : Nat := 128

def mcpHandleTtlMs : Int := 120000

/-- What a call of the server raises: an `_MCPAdapterError` with its code, or the
exception of a part below. -/
inductive Failure
  | adapter (code : String)
  | raised (e : PyException)
  deriving DecidableEq, Repr

inductive HandleKind
  | observation
  | prepared
  | speculation
  deriving DecidableEq, Repr

def HandleKind.name : HandleKind → String
  | .observation => "observation"
  | .prepared => "prepared"
  | .speculation => "speculation"

/-- `_HANDLE_PREFIX` and the kind -/
def HandleKind.tokenPrefix (kind : HandleKind) : String := "ddd_mcp_" ++ kind.name ++ "_"

/-- What the server reads of a `SessionObservation`. -/
structure SessionObservation where
  observationId : String
  observedAtMs : Int
  controlEpoch : Int
  mutationEpoch : Int
  deriving DecidableEq, Repr

inductive HandleValue
  | observation (observed : SessionObservation)
  /-- The token of a preparation of the runtime. -/
  | token (token : String)
  deriving DecidableEq, Repr

structure OpaqueHandle where
  kind : HandleKind
  principal : String
  sessionId : String
  controlEpoch : Option Int
  expiresAtMs : Int
  value : HandleValue
  consumed : Bool := false
  deriving DecidableEq, Repr

/-- The binding of a server to one principal and one governed session. -/
structure Binding where
  principal : String
  sessionId : String
  closeOnDisconnect : Bool := true

/-- A JSON value given for a handle or an element. -/
inductive Argument
  | none
  | str (s : String)
  | other
  deriving DecidableEq, Repr

structure HandleTable where
  handles : List (String × OpaqueHandle) := []
  consumedHandleTombstones : List (String × Int) := []
  handleReservations : Int := 0
  handleGeneration : Nat := 0
  closed : Bool := false

inductive TableCall
  | now
  /-- `_current_control_epoch` -/
  | controlEpoch
  /-- `secrets.token_urlsafe(32)` -/
  | tokenUrlsafe

/-- What the table asks while it holds the lock. -/
def TableSig : Sig where
  Call := TableCall
  Answer
    | .now => Int
    | .controlEpoch => Except Failure Int
    | .tokenUrlsafe => String

abbrev TableAct (α : Type) : Type := Act TableSig HandleTable Failure α

def reject (bad : Bool) (code : String) : Except Failure Unit :=
  if bad then .error (.adapter code) else .ok ()

def rejectWhen (bad : Bool) (code : String) : TableAct Unit := Act.ofExcept (reject bad code)

/-- `_cleanup_handles` -/
def cleanupHandles : TableAct Unit := do
  let now : Int ← Act.ask (S := TableSig) .now
  modify fun table => { table with
    handles := table.handles.filter fun entry => now < entry.2.expiresAtMs
    consumedHandleTombstones := table.consumedHandleTombstones.filter fun entry => now < entry.2 }

/-- `_clear_handles` -/
def clearHandles : TableAct Unit :=
  modify fun table => { table with
    handles := []
    consumedHandleTombstones := []
    handleReservations := 0
    handleGeneration := table.handleGeneration + 1 }

/-- Whether handles and reservations fill the table. -/
def HandleTable.full (table : HandleTable) : Bool :=
  maxMcpHandles ≤ table.handles.length + table.handleReservations

/-- `_reserve_handle_slot` -/
def reserveHandleSlot : TableAct Nat := do
  cleanupHandles
  let table ← get
  rejectWhen table.full "handle_capacity"
  modify fun table => { table with handleReservations := table.handleReservations + 1 }
  return table.handleGeneration

/-- `_release_handle_slot` -/
def releaseHandleSlot (generation : Nat) : TableAct Unit :=
  modify fun table =>
    if generation = table.handleGeneration ∧ 0 < table.handleReservations then
      { table with handleReservations := table.handleReservations - 1 }
    else table

/-- The end of a handle's life, where none is given. -/
def effectiveExpiry (expiresAtMs : Option Int) : TableAct Int :=
  match expiresAtMs with
  | some expiry => pure expiry
  | none => do
      let now : Int ← Act.ask (S := TableSig) .now
      return now + mcpHandleTtlMs

/-- Enter a handle under a new token. -/
def enterHandle (binding : Binding) (kind : HandleKind) (value : HandleValue) (controlEpoch expiry : Int) :
    TableAct String := do
  let now : Int ← Act.ask (S := TableSig) .now
  rejectWhen (expiry ≤ now) "invalid_handle_lifetime"
  let random : String ← Act.ask (S := TableSig) .tokenUrlsafe
  let token := kind.tokenPrefix ++ random
  modify fun table => { table with
    handles := assign table.handles token {
      kind := kind
      principal := binding.principal
      sessionId := binding.sessionId
      controlEpoch := some controlEpoch
      expiresAtMs := expiry
      value := value } }
  return token

/-- `_mint_handle` -/
def mintHandle (binding : Binding) (kind : HandleKind) (value : HandleValue)
    (expiresAtMs controlEpoch : Option Int) (reservationGeneration : Option Nat) :
    TableAct String := do
  cleanupHandles
  let table ← get
  rejectWhen (reservationGeneration.any (· ≠ table.handleGeneration)) "connection_closed"
  rejectWhen (reservationGeneration.isNone && table.full) "handle_capacity"
  let epoch ← match controlEpoch with
    | some epoch => pure epoch
    | none => Act.attempt (S := TableSig) .controlEpoch id
  let expiry ← effectiveExpiry expiresAtMs
  enterHandle binding kind value epoch expiry

/-- `hmac.compare_digest` on two texts -/
def compareDigest (a b : String) : Except Failure Bool :=
  if a.toList.all (·.toNat < 128) ∧ b.toList.all (·.toNat < 128) then .ok (a = b)
  else .error (.raised
    ⟨.other, "comparing strings with non-ASCII characters is not supported", none⟩)

/-- The handle of a token, up to the control epoch. -/
def HandleTable.find (table : HandleTable) (binding : Binding) (token : String) (kind : HandleKind) :
    Except Failure OpaqueHandle :=
  match (table.handles.lookup token).filter (·.kind = kind) with
  | none => do
      reject (table.consumedHandleTombstones.lookup token).isSome "handle_already_used"
      throw (.adapter "invalid_handle")
  | some item => do
      let samePrincipal ← compareDigest item.principal binding.principal
      reject (!samePrincipal) "invalid_handle"
      let sameSession ← compareDigest item.sessionId binding.sessionId
      reject (!sameSession) "invalid_handle"
      reject item.consumed "handle_already_used"
      return item

/-- A handle is used up: only a tombstone of it stays. -/
def HandleTable.consume (table : HandleTable) (token : String) (item : OpaqueHandle) : HandleTable :=
  let tombstones := assign table.consumedHandleTombstones token item.expiresAtMs
  { table with
    handles := table.handles.filter (·.1 ≠ token)
    consumedHandleTombstones := tombstones.drop (tombstones.length - maxMcpConsumedHandleTombstones) }

/-- The handle is of the current control epoch. -/
def checkControlEpoch (controlEpoch : Option Int) : TableAct Unit :=
  match controlEpoch with
  | none => pure ()
  | some epoch => do
      let current : Int ← Act.attempt (S := TableSig) .controlEpoch id
      rejectWhen (epoch ≠ current) "stale_handle"

def handOver (token : String) (item : OpaqueHandle) (consume : Bool) : TableAct OpaqueHandle := do
  modify fun table => if consume then table.consume token item else table
  return { item with consumed := consume }

/-- `_take_handle` -/
def takeHandle (binding : Binding) (token : Argument) (kind : HandleKind) (consume : Bool) :
    TableAct OpaqueHandle :=
  match token with
  | .str token => do
      rejectWhen (128 < token.length || !kind.tokenPrefix.toList.isPrefixOf token.toList)
        "invalid_handle"
      cleanupHandles
      let table ← get
      let item ← Act.ofExcept (table.find binding token kind)
      checkControlEpoch item.controlEpoch
      handOver token item consume
  | _ => throw (.adapter "invalid_handle")

/-- The calls that hold a lock of the server. -/
inductive Method
  | isClosed
  /-- The first lines of `close`: whether the server was closed before. -/
  | markClosed
  | clear
  | reserve
  | release (generation : Nat)
  | mint (kind : HandleKind) (value : HandleValue) (expiresAtMs controlEpoch : Option Int)
    (reservationGeneration : Option Nat)
  | take (token : Argument) (kind : HandleKind) (consume : Bool)

def Method.Reply : Method → Type
  | .isClosed => Bool
  | .markClosed => Bool
  | .clear => Unit
  | .reserve => Nat
  | .release _ => Unit
  | .mint _ _ _ _ _ => String
  | .take _ _ _ => OpaqueHandle

def body (binding : Binding) : (method : Method) → TableAct method.Reply
  | .isClosed => do return (← get).closed
  | .markClosed => modifyGet fun table => (table.closed, { table with closed := true })
  | .clear => clearHandles
  | .reserve => reserveHandleSlot
  | .release generation => releaseHandleSlot generation
  | .mint kind value expiresAtMs controlEpoch reservationGeneration =>
      mintHandle binding kind value expiresAtMs controlEpoch reservationGeneration
  | .take token kind consume => takeHandle binding token kind consume

def handleTable (binding : Binding) : Component TableSig HandleTable Failure where
  Method := Method
  Reply := Method.Reply
  body := body binding

end Dingdongditch.Mcp
