import Dingdongditch.Text.Json

/-!
# Receipt hashing and chaining

The payloads that the three versions of the chain bind, the entry each version
makes of a public receipt dictionary, and the verification of one receipt and of
a chain.  Public dictionaries are JSON values.  A `none` is an exception: a value
that canonical JSON rejects, or a method that a value does not have.
-/

namespace Dingdongditch

open Text
open Json (Textual)
open Json.Textual (ofText)

/-- A public dictionary with JSON values. -/
abbrev Public (F : Type) (τ : Type := String) : Type := List (String × Json F τ)

/-- What hashing takes from the libraries below it: `sha256(text).hexdigest()`,
`unicodedata.normalize("NFC", s)` and `str(value)`. -/
structure Hashing (F : Type) (τ : Type := String) where
  sha256 : List Char → String
  nfc : τ → τ
  pyStr : Json F τ → τ

/-- NFC leaves ASCII texts alone, and a digest is one. -/
structure Hashing.Lawful {F τ : Type} [Textual τ] (hashing : Hashing F τ) : Prop where
  nfc_ascii : ∀ s : String, (∀ c ∈ s.toList, c.toNat < 128) → hashing.nfc (ofText s) = ofText s
  nfc_sha256 : ∀ text, hashing.nfc (ofText (hashing.sha256 text)) = ofText (hashing.sha256 text)

namespace ReceiptChain

variable {F τ : Type} [Floating F] [Textual τ] [DecidableEq τ]

/-- The truth value of a JSON value. -/
def truthy : Json F τ → Bool
  | .null => false
  | .bool b => b
  | .int n => n ≠ 0
  | .float x => !Floating.eqInt x 0
  | .str s => s ≠ ofText ""
  | .list items => !items.isEmpty
  | .dict entries => !entries.isEmpty

/-- `v or w` -/
def orElse (v w : Json F τ) : Json F τ := if truthy v then v else w

/-- `v or {}`, used as a mapping -/
def orEmpty (v : Json F τ) : Option (Public F τ) :=
  if truthy v then
    match v with
    | .dict entries => some entries
    | _ => none
  else some []

/-- `for item in v or []` -/
def iterate (v : Json F τ) : Option (List (Json F τ)) :=
  if truthy v then
    match v with
    | .list items => some items
    | .str s => some ((Textual.chars s).map .str)
    | .dict entries => some (entries.map fun entry => .str (ofText entry.1))
    | _ => none
  else some []

variable (hashing : Hashing F τ)

/-- The text of a value with sorted keys and strings in normal form. -/
def canonicalText (v : Json F τ) : List Char := (v.normalize hashing.nfc).dumps

/-- `canonical_json_bytes` -/
def canonicalJson (v : Json F τ) : Option (List Char) :=
  if v.isFinite then some (canonicalText hashing v) else none

/-- `_digest` -/
def digest (v : Json F τ) : Option String := (canonicalJson hashing v).map hashing.sha256

/-- `_legacy_digest` -/
def legacyDigest (v : Json F τ) : String := hashing.sha256 (v.normalize id).dumps

/-! ## Artifacts and browser sessions -/

/-- The checksum that an artifact declares. -/
def declaredChecksum (item : Public F τ) : Option τ :=
  let value := orElse (orElse (Json.get item "sha256") (Json.get item "checksum"))
    (Json.get item "checksum_sha256")
  match value with
  | .str s => if s ≠ ofText "" then some s else none
  | _ => none

def artifactId (item : Public F τ) : τ :=
  hashing.pyStr (Json.getOr item "artifact_id" (.str (ofText "")))

/-- `_artifact_hashes_v2` -/
def artifactHashesV2 (receipt : Public F τ) : Option (Json F τ) := do
  let artifacts ← iterate (Json.get receipt "artifacts")
  let hashes := artifacts.filterMap fun item => match item with
    | .dict entries => (declaredChecksum entries).map fun checksum =>
        (artifactId hashing entries, checksum)
    | _ => none
  let ordered := hashes.insertionSort fun a b => if a.1 = b.1 then Textual.le a.2 b.2 else Textual.le a.1 b.1
  return .list (ordered.map fun (id, checksum) =>
    .dict [("artifact_id", .str id), ("sha256", .str checksum)])

def nullable (s : Option τ) : Json F τ := s.elim .null .str

/-- The manifest entry of one artifact. -/
def manifestItem (item : Json F τ) : Option (Json F τ) := do
  let declaration ← digest hashing item
  match item with
  | .dict entries => return .dict [
      ("artifact_id", .str (artifactId hashing entries)),
      ("sha256", nullable (declaredChecksum entries)),
      ("declaration_hash", .str (ofText declaration))]
  | _ => return .dict [
      ("artifact_id", .null), ("sha256", .null), ("declaration_hash", .str (ofText declaration))]

/-- `_artifact_manifest` -/
def artifactManifest (receipt : Public F τ) : Option (Json F τ) := do
  let artifacts ← iterate (Json.get receipt "artifacts")
  let items ← artifacts.mapM (manifestItem hashing)
  return .dict [("count", .int items.length), ("items", .list items)]

/-- `_session_binding_hash` -/
def sessionBindingHash (receipt : Public F τ) : Option (Json F τ) :=
  match Json.get receipt "browser" with
  | .dict browser =>
      let binding := [
        ("browser_session_id", Json.get browser "browser_session_id"),
        ("context_id", Json.get browser "context_id")]
      let bound := binding.any fun entry => match entry.2 with
        | .str s => s ≠ ofText ""
        | _ => false
      if bound then (digest hashing (.dict binding)).map (.str ∘ ofText) else some .null
  | _ => some .null

/-! ## Payloads -/

def presenceFields : List String :=
  ["target_locator", "target_resolution", "failure_kind", "execution_error", "action_evidence",
    "page_precondition", "page_transition", "dispatch_document_url", "authority_decision",
    "transaction", "quorum_verification", "control_epoch", "signed_plan", "identity",
    "mutation_arbitration", "speculation", "expectation_evidence", "artifacts", "browser"]

/-- `_field_presence` -/
def fieldPresence (receipt : Public F τ) : Json F τ :=
  .dict (presenceFields.map fun name => (name, .bool (receipt.any (·.1 == name))))

/-- `_RECEIPT_CHAIN_KNOWN_FIELDS` -/
def knownFields : List String :=
  ["schema_version", "operation_id", "verdict", "action_type", "target_locator",
    "target_resolution", "target_url", "started_at_ms", "finished_at_ms", "action_started_at_ms",
    "action_completed_at_ms", "verification_completed_at_ms", "execution_status",
    "execution_error", "failure_kind", "action_executed_successfully", "action_evidence",
    "page_precondition", "page_transition", "navigation_occurred", "dispatch_document_url",
    "authority_decision", "transaction", "quorum_verification", "control_epoch", "signed_plan",
    "identity", "mutation_arbitration", "speculation", "expectation_results", "freshness",
    "expectation_evidence", "evidence", "artifacts", "runtime_version", "browser", "telemetry",
    "operation_timing", "cleanup", "expectations_declared", "pre_action_observation",
    "post_action_observation", "recovery_attempts", "limitations", "backend_identity",
    "browser_identity", "receipt_chain"]

/-- Fields of the receipt that a payload takes over under their own names. -/
def copied (receipt : Public F τ) (names : List String) : Public F τ :=
  names.map fun name => (name, Json.get receipt name)

def browserFields : List String :=
  ["engine", "channel", "browser_session_id", "context_id", "page_id"]

def boundedEvidence (receipt : Public F τ) : Json F τ :=
  .dict (copied receipt ["expectation_evidence", "evidence"])

def extensions (receipt : Public F τ) : Json F τ :=
  .dict (receipt.filter fun entry => !knownFields.contains entry.1)

/-- `receipt_payload` -/
def receiptPayload (receipt : Public F τ) : Option (Json F τ) := do
  let manifest ← artifactManifest hashing receipt
  let browser ← orEmpty (Json.get receipt "browser")
  return .dict (copied receipt
      ["schema_version", "operation_id", "verdict", "action_type", "target_locator",
        "target_resolution", "target_url", "execution_status", "execution_error", "failure_kind",
        "action_executed_successfully", "action_evidence", "page_precondition", "page_transition",
        "navigation_occurred", "dispatch_document_url", "authority_decision", "transaction",
        "quorum_verification", "signed_plan", "identity", "mutation_arbitration", "speculation",
        "control_epoch", "expectation_results", "freshness"] ++
    [("bounded_evidence", boundedEvidence receipt),
      ("artifact_manifest", manifest),
      ("runtime_version", Json.get receipt "runtime_version"),
      ("browser", .dict (copied browser browserFields)),
      ("field_presence", fieldPresence receipt),
      ("extensions", extensions receipt)])

/-- `_receipt_payload_v2` -/
def receiptPayloadV2 (receipt : Public F τ) : Option (Json F τ) := do
  let hashes ← artifactHashesV2 hashing receipt
  let browser ← orEmpty (Json.get receipt "browser")
  return .dict (copied receipt
      ["schema_version", "operation_id", "verdict", "action_type", "target_locator",
        "target_resolution", "target_url", "execution_status", "execution_error", "failure_kind",
        "action_executed_successfully", "action_evidence", "page_precondition", "page_transition",
        "navigation_occurred", "dispatch_document_url", "authority_decision", "transaction",
        "quorum_verification", "control_epoch", "expectation_results", "freshness"] ++
    [("bounded_evidence", boundedEvidence receipt),
      ("artifact_hashes", hashes),
      ("runtime_version", Json.get receipt "runtime_version"),
      ("browser", .dict (copied browser browserFields)),
      ("field_presence", fieldPresence receipt)])

/-- `_receipt_payload_v1` -/
def receiptPayloadV1 (receipt : Public F τ) : Option (Json F τ) := do
  let hashes ← artifactHashesV2 hashing receipt
  let browser ← orEmpty (Json.get receipt "browser")
  return .dict (copied receipt
      ["schema_version", "operation_id", "verdict", "action_type", "target_locator",
        "target_resolution", "target_url", "execution_status", "failure_kind",
        "action_executed_successfully", "action_evidence", "page_precondition",
        "authority_decision", "transaction", "quorum_verification", "expectation_results",
        "freshness"] ++
    [("bounded_evidence", boundedEvidence receipt),
      ("artifact_hashes", hashes),
      ("runtime_version", Json.get receipt "runtime_version"),
      ("browser", .dict (copied browser browserFields))])

/-! ## Entries -/

/-- The values that a caller passes to the maker of an entry. -/
structure EntryArguments (F : Type) (τ : Type := String) where
  previousReceiptHash : Json F τ := .null
  executionPlanHash : Json F τ := .null
  operationHash : Json F τ := .null
  sessionId : Json F τ := .null

/-- `_make_receipt_chain_entry_v1`, without `receipt_hash`. -/
def entryCoreV1 (receipt : Public F τ) (args : EntryArguments F τ) : Option (Public F τ) := do
  let payload ← receiptPayloadV1 hashing receipt
  let authority ← orEmpty (Json.get receipt "authority_decision")
  let hashes ← artifactHashesV2 hashing receipt
  return [
    ("chain_version", .str (ofText "1")),
    ("previous_receipt_hash", args.previousReceiptHash),
    ("receipt_payload_hash", .str (ofText (legacyDigest hashing payload))),
    ("execution_plan_hash", args.executionPlanHash),
    ("operation_hash", args.operationHash),
    ("policy_hash", Json.get authority "policy_hash"),
    ("evidence_hash", .str (ofText (legacyDigest hashing
      (.dict (copied receipt ["evidence", "expectation_evidence"]))))),
    ("artifact_hashes", hashes),
    ("runtime_version", Json.get receipt "runtime_version"),
    ("receipt_schema_version", Json.get receipt "schema_version")]

/-- `_make_receipt_chain_entry_v2`, without `receipt_hash`. -/
def entryCoreV2 (receipt : Public F τ) (args : EntryArguments F τ) : Option (Public F τ) := do
  let payload ← receiptPayloadV2 hashing receipt
  let authority ← orEmpty (Json.get receipt "authority_decision")
  let hashes ← artifactHashesV2 hashing receipt
  let binding ← sessionBindingHash hashing receipt
  return [
    ("chain_version", .str (ofText "2")),
    ("previous_receipt_hash", args.previousReceiptHash),
    ("receipt_payload_hash", .str (ofText (legacyDigest hashing payload))),
    ("execution_plan_hash", args.executionPlanHash),
    ("operation_hash", args.operationHash),
    ("policy_hash", Json.get authority "policy_hash"),
    ("evidence_hash", .str (ofText (legacyDigest hashing (.dict (copied receipt
      ["evidence", "expectation_evidence", "action_evidence", "quorum_verification"]))))),
    ("artifact_hashes", hashes),
    ("session_binding_hash", binding),
    ("runtime_version", Json.get receipt "runtime_version"),
    ("receipt_schema_version", Json.get receipt "schema_version")]

/-- `make_receipt_chain_entry`, without `receipt_hash`. -/
def entryCore (receipt : Public F τ) (args : EntryArguments F τ) : Option (Public F τ) := do
  let payload ← receiptPayload hashing receipt
  let payloadHash ← digest hashing payload
  let authority ← orEmpty (Json.get receipt "authority_decision")
  let evidenceHash ← digest hashing (.dict (copied receipt
    ["evidence", "expectation_evidence", "action_evidence", "quorum_verification", "signed_plan",
      "identity", "mutation_arbitration", "speculation"]))
  let manifest ← artifactManifest hashing receipt
  let binding ← sessionBindingHash hashing receipt
  return [
    ("chain_version", .str (ofText "3")),
    ("previous_receipt_hash", args.previousReceiptHash),
    ("receipt_payload_hash", .str (ofText payloadHash)),
    ("execution_plan_hash", args.executionPlanHash),
    ("operation_hash", args.operationHash),
    ("policy_hash", Json.get authority "policy_hash"),
    ("evidence_hash", .str (ofText evidenceHash)),
    ("artifact_hashes", manifest),
    ("session_binding_hash", binding),
    ("runtime_version", Json.get receipt "runtime_version"),
    ("receipt_schema_version", Json.get receipt "schema_version"),
    ("session_id", args.sessionId)]

inductive ChainVersion
  | v1 | v2 | v3
  deriving DecidableEq, Repr

namespace ChainVersion

def text : ChainVersion → String
  | .v1 => "1"
  | .v2 => "2"
  | .v3 => "3"

/-- What canonical form does to the strings that a version binds. -/
def form (version : ChainVersion) : τ → τ :=
  match version with
  | .v3 => hashing.nfc
  | _ => id

/-- The digest of the entries of a version. -/
def entryDigest (version : ChainVersion) (v : Json F τ) : Option String :=
  match version with
  | .v3 => digest hashing v
  | _ => some (legacyDigest hashing v)

/-- The payload that a version binds. -/
def payload (version : ChainVersion) (receipt : Public F τ) : Option (Json F τ) :=
  match version with
  | .v1 => receiptPayloadV1 hashing receipt
  | .v2 => receiptPayloadV2 hashing receipt
  | .v3 => receiptPayload hashing receipt

def core (version : ChainVersion) (receipt : Public F τ) (args : EntryArguments F τ) :
    Option (Public F τ) :=
  match version with
  | .v1 => entryCoreV1 hashing receipt args
  | .v2 => entryCoreV2 hashing receipt args
  | .v3 => entryCore hashing receipt args

/-- The maker of a version: its entry, sealed with `receipt_hash`. -/
def make (version : ChainVersion) (receipt : Public F τ) (args : EntryArguments F τ) :
    Option (Public F τ) := do
  let core ← version.core hashing receipt args
  let hash ← version.entryDigest hashing (.dict core)
  return core ++ [("receipt_hash", .str (ofText hash))]

end ChainVersion

/-- `chain_receipt`, for a public dictionary. -/
def chainReceipt (receipt : Public F τ) (args : EntryArguments F τ) : Option (Public F τ) := do
  let entry ← ChainVersion.v3.make hashing receipt args
  return assign receipt "receipt_chain" (.dict entry)

/-! ## Verification -/

/-- The maker that `chain_version` names; a list or a dictionary has no hash. -/
def makerOf : Json F τ → Option (Option ChainVersion)
  | .str s =>
      some (if s = ofText "1" then some .v1 else if s = ofText "2" then some .v2
        else if s = ofText "3" then some .v3 else none)
  | .list _ => none
  | .dict _ => none
  | _ => some none

/-- The arguments that an entry claims to be made with; only the current version
has a session. -/
def claimedArguments (version : ChainVersion) (entry : Public F τ) : EntryArguments F τ where
  previousReceiptHash := Json.get entry "previous_receipt_hash"
  executionPlanHash := Json.get entry "execution_plan_hash"
  operationHash := Json.get entry "operation_hash"
  sessionId := if version = .v3 then Json.get entry "session_id" else .null

/-- `verify_receipt_hash` -/
def verifyReceiptHash (receipt : Public F τ) : Option Bool :=
  match Json.get receipt "receipt_chain" with
  | .dict entry => do
      let maker ← makerOf (Json.get entry "chain_version")
      match maker with
      | none => return false
      | some version => do
          let expected ← version.make hashing receipt (claimedArguments version entry)
          return Json.pyEq (.dict entry) (.dict expected)
  | _ => some false

structure ReceiptChainVerification (τ : Type := String) where
  valid : Bool
  head : Option τ
  reasons : List String := []
  deriving DecidableEq, Repr

/-- What `verify_receipt_chain` keeps from one receipt to the next. -/
structure ChainState (τ : Type := String) where
  previous : Option τ := none
  sessionBinding : Option τ := none
  reasons : List String := []
  deriving DecidableEq, Repr

def ChainState.add (state : ChainState τ) (reason : String) : ChainState τ :=
  { state with reasons := state.reasons ++ [reason] }

def receiptLabel (index : Nat) : String := "receipt[" ++ toString index ++ "]"

/-- The check of the browser session that an entry binds. -/
def checkBinding (index : Nat) (state : ChainState τ) (binding : Json F τ) : ChainState τ :=
  match binding with
  | .null => state
  | .str s =>
      if s = ofText "" then state.add (receiptLabel index ++ " session binding is invalid")
      else match state.sessionBinding with
        | none => { state with sessionBinding := some s }
        | some known =>
            if s = known then state
            else state.add (receiptLabel index ++ " session binding does not match chain")
  | _ => state.add (receiptLabel index ++ " session binding is invalid")

/-- The body of the loop of `verify_receipt_chain`. -/
def chainStep (allowLegacy : Bool) (index : Nat) (state : ChainState τ) (receipt : Public F τ) :
    Option (ChainState τ) :=
  match Json.get receipt "receipt_chain" with
  | .dict entry => do
      let linked :=
        if Json.pyEq (Json.get entry "previous_receipt_hash") (nullable state.previous) then state
        else state.add (receiptLabel index ++ " previous hash does not match chain head")
      let verified ← verifyReceiptHash hashing receipt
      let hashed :=
        if verified then linked else linked.add (receiptLabel index ++ " hash does not verify")
      let bound := checkBinding index hashed (Json.get entry "session_binding_hash")
      return match Json.get entry "receipt_hash" with
        | .str hash => { bound with previous := some hash }
        | _ => bound
  | _ =>
      if allowLegacy then some state
      else some (state.add (receiptLabel index ++ " has no chain entry"))

def chainLoop (allowLegacy : Bool) : Nat → ChainState τ → List (Public F τ) → Option (ChainState τ)
  | _, state, [] => some state
  | index, state, receipt :: receipts => do
      let next ← chainStep hashing allowLegacy index state receipt
      chainLoop allowLegacy (index + 1) next receipts

/-- `verify_receipt_chain` -/
def verifyReceiptChain (receipts : List (Public F τ)) (allowLegacy : Bool := false) :
    Option (ReceiptChainVerification τ) := do
  let last ← chainLoop hashing allowLegacy 0 {} receipts
  return ⟨last.reasons.isEmpty, last.previous, last.reasons⟩

end ReceiptChain

end Dingdongditch
