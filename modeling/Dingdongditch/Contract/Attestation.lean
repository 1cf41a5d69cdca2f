import Dingdongditch.Contract.SignedPlan

/-!
# Execution attestations

A signed statement about a session and its receipt chain, what makes it well
formed, the checkpoint of a chain, and the registry that holds the trusted keys
and the challenges it has consumed.
-/

namespace Dingdongditch

open Text ReceiptChain
open SignedPlan hiding token

variable {F Key : Type} [Floating F]

/-- What the module takes from the host: hashing, the decimal digits of Unicode, and
the check of an Ed25519 signature. -/
structure AttestationHost (F Key : Type) where
  hashing : Hashing F
  toDecimal : Char → Option Nat
  verifies : Key → List UInt8 → List Char → Bool

/-- An `AttestationError` or another `ValueError`, by its message. -/
abbrev AttestationError := String

namespace Attestation

def attestationVersion : String := "1.0"

def attestationAlgorithm : String := "ed25519"

def maxConsumedChallenges : Nat := 4096

/-- `_decode` -/
def decode (value : String) (length : Nat) : Except AttestationError (List UInt8) :=
  match b64decode value with
  | .error _ => .error "attestation key or signature is invalid"
  | .ok bytes =>
      if bytes.length = length then .ok bytes else .error "attestation key or signature is invalid"

/-- `_token` -/
def token (name value : String) (limit : Nat := 192) : Except AttestationError Unit :=
  SignedPlan.token name (some value) limit

/-- `_hash` -/
def hash (toDecimal : Char → Option Nat) (name : String) (value : Option String) :
    Except AttestationError Unit :=
  value.forM (hashHex toDecimal name)

end Attestation

/-! ## Checkpoints -/

/-- An anchor of a receipt chain that the host retains.  The two fields that nothing
checks may hold any value. -/
structure ReceiptChainCheckpoint (F : Type) where
  sessionId : String
  chainLength : Int
  chainHeadHash : Option String
  timestampMs : Int
  chainVersion : Json F := .str "3"
  runtimeVersion : Json F := .null

namespace ReceiptChainCheckpoint

/-- `validate` -/
def validate (c : ReceiptChainCheckpoint F) : Except AttestationError Unit := do
  reject (c.sessionId = "") "receipt checkpoint session_id is required"
  reject (c.chainLength < 0) "receipt checkpoint chain_length must be non-negative"
  reject (c.chainLength = 0 && c.chainHeadHash.isSome) "empty receipt checkpoint cannot have a head hash"
  reject (0 < c.chainLength && c.chainHeadHash.all (·.length ≠ 64))
    "receipt checkpoint head hash is invalid"
  reject (c.timestampMs < 0) "receipt checkpoint timestamp is invalid"

/-- `to_dict` -/
def toDict (c : ReceiptChainCheckpoint F) : Public F := [
  ("session_id", .str c.sessionId),
  ("chain_length", .int c.chainLength),
  ("chain_head_hash", nullable c.chainHeadHash),
  ("timestamp_ms", .int c.timestampMs),
  ("chain_version", c.chainVersion),
  ("runtime_version", c.runtimeVersion)]

end ReceiptChainCheckpoint

namespace ReceiptChain

/-- `receipt.get("receipt_chain") or {}` -/
def chainEntry (receipt : Public F) : Option (Public F) := orEmpty (Json.get receipt "receipt_chain")

/-- The reasons against the receipts up to the length of the checkpoint. -/
def prefixReasons (receipts : List (Public F)) (checkpoint : ReceiptChainCheckpoint F) :
    Option (List String) :=
  if receipts.length < checkpoint.chainLength then
    some ["receipt chain is shorter than the trusted checkpoint"]
  else match receipts[checkpoint.chainLength.toNat - 1]? with
    | some receipt =>
        if checkpoint.chainLength = 0 then some []
        else (chainEntry receipt).map fun entry =>
          if Json.pyEq (Json.get entry "receipt_hash") (nullable checkpoint.chainHeadHash) then []
          else ["receipt checkpoint head does not match the retained prefix"]
    | none => some []

/-- The reasons against the sessions of the receipts. -/
def sessionReasons (sessionId : String) : Nat → List (Public F) → Option (List String)
  | _, [] => some []
  | index, receipt :: receipts => do
      let entry ← chainEntry receipt
      let later ← sessionReasons sessionId (index + 1) receipts
      return if Json.pyEq (Json.get entry "chain_version") (.str "3") &&
          !Json.pyEq (Json.get entry "session_id") (.str sessionId) then
        (receiptLabel index ++ " session does not match checkpoint") :: later
      else later

/-- `verify_receipt_chain_against_checkpoint` -/
def verifyReceiptChainAgainstCheckpoint (hashing : Hashing F) (receipts : List (Public F))
    (checkpoint : ReceiptChainCheckpoint F) : Option ReceiptChainVerification :=
  match checkpoint.validate with
  | .error reason => some ⟨false, none, [reason]⟩
  | .ok () => do
      let verified ← verifyReceiptChain hashing receipts
      let early ← prefixReasons receipts checkpoint
      let sessions ← sessionReasons checkpoint.sessionId 0 receipts
      let reasons := verified.reasons ++ early ++ sessions
      return ⟨reasons.isEmpty, verified.head, reasons⟩

end ReceiptChain

/-! ## Statements -/

inductive AssuranceLevel
  | hostAttested | independentAttester
  deriving DecidableEq, Repr

def AssuranceLevel.value : AssuranceLevel → String
  | .hostAttested => "host_attested"
  | .independentAttester => "independent_attester"

/-- The quorum verdict is the one field that nothing checks. -/
structure ExecutionAttestationStatement (F : Type) where
  version : String
  planHash : Option String
  signedPlanReference : Option (Public F)
  sessionId : String
  identityReference : Option (Public F)
  authorityPolicyHash : Option String
  checkpoint : ReceiptChainCheckpoint F
  receiptChainHead : Option String
  receiptCount : Int
  quorumVerdict : Json F
  artifactManifestHash : Option String
  runtimeVersion : String
  contractVersion : String
  browser : Option (Public F)
  speculationReference : Option (Public F)
  issuedAtMs : Int
  expiresAtMs : Int
  nonce : String
  attesterId : String
  assuranceLevel : AssuranceLevel

namespace ExecutionAttestationStatement

open Attestation

/-- The values that a reference may hold. -/
def isScalar : Json F → Bool
  | .null => true
  | .bool _ => true
  | .int _ => true
  | .str s => s.length ≤ 256
  | _ => false

def checkReference (name : String) (maximum : Nat) (value : Option (Public F)) :
    Except AttestationError Unit :=
  value.forM fun entries => do
    reject (maximum < entries.length) (name ++ " is invalid")
    reject (entries.any fun entry => 96 < entry.1.length || !isScalar entry.2) (name ++ " is invalid")

/-- `validate` -/
def validate (toDecimal : Char → Option Nat) (s : ExecutionAttestationStatement F) :
    Except AttestationError Unit := do
  reject (s.version ≠ attestationVersion) "attestation version is unsupported"
  hash toDecimal "plan hash" s.planHash
  token "session id" s.sessionId
  hash toDecimal "authority policy hash" s.authorityPolicyHash
  s.checkpoint.validate
  reject (s.checkpoint.sessionId ≠ s.sessionId) "checkpoint session does not match attestation session"
  hash toDecimal "receipt chain head" s.receiptChainHead
  reject (s.receiptCount < s.checkpoint.chainLength) "attestation receipt count is invalid"
  reject (s.receiptCount = 0 && s.receiptChainHead.isSome)
    "empty attestation cannot have receipt chain head"
  reject (0 < s.receiptCount && s.receiptChainHead.isNone)
    "non-empty attestation requires receipt chain head"
  reject (s.receiptCount = s.checkpoint.chainLength && s.receiptChainHead ≠ s.checkpoint.chainHeadHash)
    "checkpoint must match an equally long attested chain"
  hash toDecimal "artifact manifest hash" s.artifactManifestHash
  token "runtime version" s.runtimeVersion 64
  token "contract version" s.contractVersion 64
  token "nonce" s.nonce
  token "attester id" s.attesterId
  reject (s.expiresAtMs ≤ s.issuedAtMs || maxLifetimeMs < s.expiresAtMs - s.issuedAtMs)
    "attestation lifetime is invalid"
  checkReference "signed plan reference" 8 s.signedPlanReference
  checkReference "identity reference" 8 s.identityReference
  checkReference "browser metadata" 8 s.browser
  checkReference "speculation reference" 4 s.speculationReference
  s.signedPlanReference.forM fun reference =>
    reject (s.planHash.all fun planHash => !Json.pyEq (Json.get reference "plan_hash") (.str planHash))
      "signed plan reference does not bind plan hash"

def reference (value : Option (Public F)) : Json F := value.elim .null .dict

/-- The dictionary of `to_dict`, for a statement that passed its checks. -/
def fields (s : ExecutionAttestationStatement F) : Public F := [
  ("version", .str s.version),
  ("plan_hash", nullable s.planHash),
  ("signed_plan_reference", reference s.signedPlanReference),
  ("session_id", .str s.sessionId),
  ("identity_reference", reference s.identityReference),
  ("authority_policy_hash", nullable s.authorityPolicyHash),
  ("checkpoint", .dict s.checkpoint.toDict),
  ("receipt_chain_head", nullable s.receiptChainHead),
  ("receipt_count", .int s.receiptCount),
  ("quorum_verdict", s.quorumVerdict),
  ("artifact_manifest_hash", nullable s.artifactManifestHash),
  ("runtime_version", .str s.runtimeVersion),
  ("contract_version", .str s.contractVersion),
  ("browser", reference s.browser),
  ("speculation_reference", reference s.speculationReference),
  ("issued_at_ms", .int s.issuedAtMs),
  ("expires_at_ms", .int s.expiresAtMs),
  ("nonce", .str s.nonce),
  ("attester_id", .str s.attesterId),
  ("assurance_level", .str s.assuranceLevel.value)]

/-- `canonical_bytes` -/
def canonicalBytes (host : AttestationHost F Key) (s : ExecutionAttestationStatement F) :
    Option (List Char) := do
  (s.validate host.toDecimal).toOption
  let canonical ← canonicalJson host.hashing (.dict s.fields)
  return "DINGDONGDITCH:EXECUTION_ATTESTATION:v1\x00".toList ++ canonical

end ExecutionAttestationStatement

structure ExecutionAttestation (F : Type) where
  statement : ExecutionAttestationStatement F
  algorithm : String
  signature : String

/-- `validate` -/
def ExecutionAttestation.validate (toDecimal : Char → Option Nat) (a : ExecutionAttestation F) :
    Except AttestationError Unit := do
  a.statement.validate toDecimal
  reject (a.algorithm ≠ Attestation.attestationAlgorithm) "attestation algorithm is unsupported"
  let _ ← Attestation.decode a.signature 64

/-! ## The registry -/

/-- `(attester_id, nonce)` -/
structure Challenge where
  attesterId : String
  nonce : String
  deriving DecidableEq, Repr

def ExecutionAttestationStatement.challenge (s : ExecutionAttestationStatement F) : Challenge :=
  ⟨s.attesterId, s.nonce⟩

/-- The keys it trusts, each with the level it may state, and the expiry of each
challenge that it has consumed. -/
structure AttesterTrustRegistry (Key : Type) where
  trusted : AList fun _ : String => Key × AssuranceLevel
  consumedChallenges : AList fun _ : Challenge => Int := ∅

/-- The arguments of `verify` besides the attestation, and the time it reads. -/
structure AttestationRequest (F : Type) where
  receipts : Option (List (Public F)) := none
  expectedNonce : Option String := none
  nowMs : Int
  expectedPlanHash : Option String := none
  expectedSessionId : Option String := none
  expectedIdentityReference : Option (Public F) := none
  expectedPolicyHash : Option String := none
  expectedSpeculationReference : Option (Public F) := none
  expectedQuorumVerdict : Option String := none
  expectedRuntimeVersion : Option String := none
  expectedContractVersion : Option String := none
  expectedBrowser : Option (Public F) := none
  consumeChallenge : Bool := false

/-- How `verify` ends without success: with a reason, or by an exception. -/
inductive AttestationRefusal
  | reason (text : String)
  | raised
  deriving DecidableEq, Repr

namespace AttesterTrustRegistry

open ExecutionAttestationStatement

/-- `return False, text`, if `bad` -/
def refuse (bad : Bool) (text : String) : Except AttestationRefusal Unit :=
  if bad then .error (.reason text) else .ok ()

/-- The value of a call that may raise. -/
def raising {α : Type} (value : Option α) : Except AttestationRefusal α :=
  value.elim (.error .raised) .ok

/-- `hmac.compare_digest`, which takes ASCII texts only -/
def compareDigest (s t : String) : Option Bool :=
  if s.toList.all isAscii && t.toList.all isAscii then some (s = t) else none

/-- The comparison with a hash or an identifier that the caller expects. -/
def expectText (value : String) (expected : Option String) (text : String) :
    Except AttestationRefusal Unit :=
  expected.forM fun expected => do
    let same ← raising (compareDigest value expected)
    refuse (!same) text

/-- The comparison with a mapping that the caller expects, in canonical form. -/
def expectReference (hashing : Hashing F) (value expected : Option (Public F)) (text : String) :
    Except AttestationRefusal Unit :=
  expected.forM fun expected => do
    let canonical ← raising (canonicalJson hashing (reference value))
    let canonicalExpected ← raising (canonicalJson hashing (.dict expected))
    refuse (canonical ≠ canonicalExpected) text

/-- `public.verify`, for a signature and a statement that have their bytes -/
def signatureValid (host : AttestationHost F Key) (key : Key) (a : ExecutionAttestation F) : Bool :=
  match Attestation.decode a.signature 64, a.statement.canonicalBytes host with
  | .ok signature, some bytes => host.verifies key signature bytes
  | _, _ => false

/-- The comparison with the receipts that the caller passes. -/
def checkReceipts (hashing : Hashing F) (s : ExecutionAttestationStatement F)
    (receipts : Option (List (Public F))) : Except AttestationRefusal Unit :=
  receipts.forM fun receipts => do
    let checked ← raising (verifyReceiptChainAgainstCheckpoint hashing receipts s.checkpoint)
    refuse (!checked.valid) "receipt_checkpoint_mismatch"
    refuse ((receipts.length : Int) ≠ s.receiptCount || checked.head ≠ s.receiptChainHead)
      "receipt_chain_head_or_count_mismatch"

/-- What `verify` checks before it consumes the challenge. -/
def check (host : AttestationHost F Key) (registry : AttesterTrustRegistry Key)
    (a : ExecutionAttestation F) (request : AttestationRequest F) : Except AttestationRefusal Unit := do
  let s := a.statement
  refuse (!(a.validate host.toDecimal).isOk) "malformed_attestation"
  match registry.trusted.lookup s.attesterId with
  | none => refuse true "untrusted_attester"
  | some (key, expectedLevel) => do
      refuse (s.assuranceLevel ≠ expectedLevel) "assurance_level_mismatch"
      refuse (request.nowMs < s.issuedAtMs || s.expiresAtMs ≤ request.nowMs)
        "attestation_expired_or_not_yet_valid"
      refuse (request.expectedNonce.any (s.nonce ≠ ·)) "challenge_mismatch"
      expectText (s.planHash.getD "") request.expectedPlanHash "plan_hash_mismatch"
      expectText s.sessionId request.expectedSessionId "session_mismatch"
      expectText (s.authorityPolicyHash.getD "") request.expectedPolicyHash "authority_policy_mismatch"
      expectReference host.hashing s.identityReference request.expectedIdentityReference
        "identity_reference_mismatch"
      expectReference host.hashing s.speculationReference request.expectedSpeculationReference
        "speculation_reference_mismatch"
      refuse (request.expectedQuorumVerdict.any fun verdict => !Json.pyEq s.quorumVerdict (.str verdict))
        "quorum_verdict_mismatch"
      refuse (request.expectedRuntimeVersion.any (s.runtimeVersion ≠ ·)) "runtime_version_mismatch"
      refuse (s.contractVersion ≠ request.expectedContractVersion.getD machineContractVersion)
        "contract_version_mismatch"
      expectReference host.hashing s.browser request.expectedBrowser "browser_metadata_mismatch"
      refuse (!signatureValid host key a) "signature_invalid"
      checkReceipts host.hashing s request.receipts

/-- The challenges that have not expired. -/
def prune (challenges : AList fun _ : Challenge => Int) (now : Int) : AList fun _ : Challenge => Int :=
  ⟨challenges.entries.filter fun entry => now < entry.2,
    challenges.nodupKeys.sublist List.filter_sublist⟩

/-- The end of a verification that consumes its challenge. -/
def consume (registry : AttesterTrustRegistry Key) (s : ExecutionAttestationStatement F) (now : Int) :
    Except AttestationRefusal Unit × AttesterTrustRegistry Key :=
  let kept := prune registry.consumedChallenges now
  if s.challenge ∈ kept then
    (.error (.reason "challenge_replayed"), { registry with consumedChallenges := kept })
  else if Attestation.maxConsumedChallenges ≤ kept.entries.length then
    (.error (.reason "challenge_replay_cache_full"), { registry with consumedChallenges := kept })
  else (.ok (), { registry with consumedChallenges := kept.insert s.challenge s.expiresAtMs })

/-- `verify` -/
def verify (host : AttestationHost F Key) (registry : AttesterTrustRegistry Key)
    (a : ExecutionAttestation F) (request : AttestationRequest F) :
    Except AttestationRefusal Unit × AttesterTrustRegistry Key :=
  match registry.check host a request with
  | .error refusal => (.error refusal, registry)
  | .ok () =>
      if request.consumeChallenge then registry.consume a.statement request.nowMs
      else (.ok (), registry)

end AttesterTrustRegistry

end Dingdongditch
