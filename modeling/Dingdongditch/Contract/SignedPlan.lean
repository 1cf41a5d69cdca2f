import Dingdongditch.Contract.Governance
import Dingdongditch.Contract.ReceiptChain
import Dingdongditch.Store.UseCounters
import Dingdongditch.Text.JsonText
import Mathlib.Data.Finset.Basic

/-!
# Signed plans and their verifier

A statement that authorises one plan, what makes it well formed, the bytes that
its signer signs, and the verifier that holds the trusted keys and accounts for
the uses of each `(signer_id, nonce)`.
-/

namespace Dingdongditch

open Text Store ReceiptChain

namespace SignedPlan

/-- What the module takes from the host: hashing, the decimal digits of Unicode,
the check of an Ed25519 signature, and the hash of the canonical form of a plan
document, `none` for a document that has none. -/
structure SigningHost (F Key Document : Type) where
  hashing : Hashing F
  toDecimal : Char → Option Nat
  verifies : Key → List UInt8 → List Char → Bool
  canonicalPlanHash : Document → Option String

/-- A `SignedPlanError`, by its message. -/
abbrev SignedPlanError := String

def reject (bad : Bool) (message : SignedPlanError) : Except SignedPlanError Unit :=
  if bad then .error message else .ok ()

theorem reject_ok {α : Type} {bad : Bool} {message : String} {f : Unit → Except String α} {x : α}
    (checked : (reject bad message >>= f) = .ok x) : bad = false ∧ f () = .ok x := by
  cases bad with
  | true => cases checked
  | false => exact ⟨rfl, checked⟩

def signedPlanVersion : String := "1.0"

def signedPlanAlgorithm : String := "ed25519"

def machineContractVersion : String := "1.0.0"

def maxLifetimeMs : Int := 24 * 60 * 60 * 1000

def maxExecutions : Int := 1024

def maxTrustedSigners : Nat := 128

def maxReplayEntries : Nat := 4096

/-! ## Encodings -/

/-- The value of a character of the base-64 alphabet, of either variant. -/
def base64Value (c : Char) : Option Nat :=
  if 'A' ≤ c ∧ c ≤ 'Z' then some (c.toNat - 'A'.toNat)
  else if 'a' ≤ c ∧ c ≤ 'z' then some (c.toNat - 'a'.toNat + 26)
  else if '0' ≤ c ∧ c ≤ '9' then some (c.toNat - '0'.toNat + 52)
  else if c = '+' ∨ c = '-' then some 62
  else if c = '/' ∨ c = '_' then some 63
  else none

/-- Where `binascii.a2b_base64` is in a group of four characters. -/
structure Base64State where
  quadPos : Nat := 0
  leftChar : Nat := 0
  pads : Nat := 0

/-- `binascii.a2b_base64(s)`, which skips the characters outside its alphabet and
stops at a padding that completes a group. -/
def a2bBase64 (state : Base64State) : List Char → Option (List UInt8)
  | [] => if state.quadPos = 0 then some [] else none
  | c :: rest =>
      if c = '=' then
        if 2 ≤ state.quadPos then
          if 4 ≤ state.quadPos + (state.pads + 1) then some []
          else a2bBase64 { state with pads := state.pads + 1 } rest
        else a2bBase64 state rest
      else match base64Value c with
        | none => a2bBase64 state rest
        | some value =>
            let byte (n : Nat) (next : Nat) (left : Nat) :=
              (a2bBase64 ⟨next, left, 0⟩ rest).map (UInt8.ofNat n :: ·)
            match state.quadPos with
            | 0 => a2bBase64 ⟨1, value, 0⟩ rest
            | 1 => byte (state.leftChar * 4 + value / 16) 2 (value % 16)
            | 2 => byte (state.leftChar * 16 + value / 4) 3 (value % 4)
            | _ => byte (state.leftChar * 64 + value) 0 0

/-- `_b64decode` -/
def b64decode (value : String) : Except SignedPlanError (List UInt8) := do
  reject (value = "" || 256 < value.length) "signature encoding is invalid"
  let padded := value.toList ++ List.replicate ((4 - value.length % 4) % 4) '='
  if padded.any fun c => 128 ≤ c.toNat then throw "signature encoding is invalid"
  match a2bBase64 {} padded with
  | some bytes => return bytes
  | none => throw "signature encoding is invalid"

/-- How `int` reads one character: Unicode spaces and digits as ASCII ones. -/
def intChar (toDecimal : Char → Option Nat) (c : Char) : Char :=
  if c.toNat < 127 then c
  else if isSpace c then ' '
  else match toDecimal c with
    | some d => Char.ofNat ('0'.toNat + d)
    | none => '?'

/-- Digits with single underscores between them. -/
def isHexNumber : List Char → Bool
  | [] => false
  | [c] => Json.isHexDigit c
  | c :: '_' :: rest => Json.isHexDigit c && isHexNumber rest
  | c :: rest => Json.isHexDigit c && isHexNumber rest

/-- The spaces that `int` skips, in ASCII. -/
def isIntSpace (c : Char) : Bool := (9 ≤ c.toNat && c.toNat ≤ 13) || c = ' '

/-- `int(value, 16)` does not raise. -/
def isInt16 (toDecimal : Char → Option Nat) (value : String) : Bool :=
  let text := stripBy isIntSpace (value.toList.map (intChar toDecimal))
  let unsigned := match text with
    | '+' :: rest | '-' :: rest => rest
    | _ => text
  match unsigned with
  | '0' :: 'x' :: '_' :: rest | '0' :: 'X' :: '_' :: rest => isHexNumber rest
  | '0' :: 'x' :: rest | '0' :: 'X' :: rest => isHexNumber rest
  | _ => isHexNumber unsigned

/-- `_token` -/
def token (name : String) (value : Option String) (limit : Nat := 160) :
    Except SignedPlanError Unit :=
  value.forM fun value =>
    reject (value = "" || limit < value.length || value.toList.any isSpace) (name ++ " is invalid")

/-- `_hash_hex` -/
def hashHex (toDecimal : Char → Option Nat) (name value : String) : Except SignedPlanError Unit := do
  reject (value.length ≠ 64) (name ++ " is invalid")
  reject (!isInt16 toDecimal value) (name ++ " is invalid")

end SignedPlan

open SignedPlan

variable {F Key Document : Type} [Floating F] (host : SigningHost F Key Document)

/-! ## The statement -/

namespace SignedPlanAuthority

/-- `validate` -/
def validate (a : SignedPlanAuthority) : Except SignedPlanError Unit := do
  reject (a.version ≠ signedPlanVersion) "signed plan version is unsupported"
  reject (a.algorithm ≠ signedPlanAlgorithm) "signed plan algorithm is unsupported"
  hashHex host.toDecimal "plan_hash" a.planHash
  hashHex host.toDecimal "authority_envelope_hash" a.authorityEnvelopeHash
  token "contract_version" (some a.contractVersion) 48
  token "signer_id" (some a.signerId)
  token "nonce" (some a.nonce)
  token "session_scope" a.sessionScope
  token "agent_identity_id" a.agentIdentityId
  token "policy_version" a.policyVersion 96
  reject (a.issuedAtMs < 0) "signed plan issuance time is invalid"
  reject (a.expiresAtMs ≤ a.issuedAtMs || maxLifetimeMs < a.expiresAtMs - a.issuedAtMs)
    "signed plan lifetime is invalid"
  reject (a.allowedExecutionCount < 1 || maxExecutions < a.allowedExecutionCount)
    "allowed execution count is invalid"
  let signature ← b64decode a.signature
  reject (signature.length ≠ 64) "signature is invalid"

/-- `unsigned_dict` -/
def unsignedDict (a : SignedPlanAuthority) : Public F := [
  ("version", .str a.version),
  ("algorithm", .str a.algorithm),
  ("plan_hash", .str a.planHash),
  ("contract_version", .str a.contractVersion),
  ("authority_envelope_hash", .str a.authorityEnvelopeHash),
  ("signer_id", .str a.signerId),
  ("issued_at_ms", .int a.issuedAtMs),
  ("expires_at_ms", .int a.expiresAtMs),
  ("nonce", .str a.nonce),
  ("session_scope", nullable a.sessionScope),
  ("agent_identity_id", nullable a.agentIdentityId),
  ("allowed_execution_count", .int a.allowedExecutionCount),
  ("policy_version", nullable a.policyVersion)]

/-- `signing_bytes` -/
def signingBytes (a : SignedPlanAuthority) : Option (List Char) := do
  (a.validate host).toOption
  let canonical ← canonicalJson host.hashing (.dict a.unsignedDict)
  return "DINGDONGDITCH:SIGNED_PLAN_AUTHORITY:v1\x00".toList ++ canonical

/-- The statement that is signed: all but the signature. -/
def unsigned (a : SignedPlanAuthority) : SignedPlanAuthority := { a with signature := "" }

end SignedPlanAuthority

/-! ## The verifier -/

/-- `(signer_id, nonce)`, the key of the replay accounting -/
structure ReplayKey where
  signerId : String
  nonce : String
  deriving DecidableEq, Repr

def SignedPlanAuthority.replayKey (a : SignedPlanAuthority) : ReplayKey := ⟨a.signerId, a.nonce⟩

structure SignedPlanVerification where
  valid : Bool
  reason : Option String
  signerId : Option String := none
  planHash : Option String := none
  replayCount : Option Nat := none
  deriving DecidableEq, Repr

def SignedPlanVerification.rejected (a : SignedPlanAuthority) (reason : String)
    (replayCount : Option Nat := none) : SignedPlanVerification :=
  ⟨false, some reason, some a.signerId, some a.planHash, replayCount⟩

structure TrustedPlanVerifier (Key : Type) where
  trusted : AList fun _ : String => Key
  uses : UseCounters ReplayKey := ∅
  revoked : Finset String := ∅

/-- The arguments of `verify` besides the statement, and the time it reads. -/
structure VerifyRequest (Document : Type) where
  document : Document
  authorityEnvelopeHash : String
  sessionScope : Option String := none
  agentIdentityId : Option String := none
  nowMs : Int
  consume : Bool := false

namespace TrustedPlanVerifier

/-- `__init__`, for keys that are already parsed -/
def init (trusted : AList fun _ : String => Key) :
    Except SignedPlanError (TrustedPlanVerifier Key) := do
  reject (maxTrustedSigners < trusted.entries.length) "too many trusted signing identities"
  trusted.keys.forM fun signerId => token "signer_id" (some signerId)
  return { trusted }

/-- `revoke_signer` -/
def revokeSigner (verifier : TrustedPlanVerifier Key) (signerId : String) :
    Except SignedPlanError (TrustedPlanVerifier Key) := do
  token "signer_id" (some signerId)
  reject (signerId ∉ verifier.trusted) "signer is not trusted"
  return { verifier with revoked := insert signerId verifier.revoked }

/-- `replace_signer`, for a key that is already parsed -/
def replaceSigner (verifier : TrustedPlanVerifier Key) (signerId : String) (key : Key) :
    Except SignedPlanError (TrustedPlanVerifier Key) := do
  token "signer_id" (some signerId)
  return { verifier with
    trusted := verifier.trusted.insert signerId key
    revoked := verifier.revoked.erase signerId }

/-- The signature of a statement under a key. -/
def signatureValid (key : Key) (a : SignedPlanAuthority) : Bool :=
  match b64decode a.signature, a.signingBytes host with
  | .ok signature, some bytes => host.verifies key signature bytes
  | _, _ => false

/-- What `verify` checks of a well-formed statement before the replay accounting;
the error is the reason of the rejection. -/
def check (verifier : TrustedPlanVerifier Key) (a : SignedPlanAuthority)
    (request : VerifyRequest Document) : Except String Unit := do
  reject (a.contractVersion ≠ machineContractVersion) "contract_version_mismatch"
  match verifier.trusted.lookup a.signerId with
  | none => throw "untrusted_signer"
  | some key => do
      reject (a.signerId ∈ verifier.revoked) "revoked_signer"
      match host.canonicalPlanHash request.document with
      | none => throw "plan_invalid"
      | some observedPlanHash => do
          reject (a.planHash ≠ observedPlanHash) "plan_hash_mismatch"
          reject (a.authorityEnvelopeHash ≠ request.authorityEnvelopeHash) "authority_hash_mismatch"
          reject (request.nowMs < a.issuedAtMs) "not_yet_valid"
          reject (a.expiresAtMs ≤ request.nowMs) "expired"
          reject (a.sessionScope.isSome && a.sessionScope ≠ request.sessionScope)
            "session_scope_mismatch"
          reject (a.agentIdentityId.isSome && a.agentIdentityId ≠ request.agentIdentityId)
            "identity_scope_mismatch"
          reject (!signatureValid host key a) "signature_invalid"

/-- The replay accounting of `verify`, for a statement that passed its checks. -/
def account (verifier : TrustedPlanVerifier Key) (a : SignedPlanAuthority) (nowMs : Int)
    (consume : Bool) : SignedPlanVerification × TrustedPlanVerifier Key :=
  let kept := verifier.uses.prune nowMs
  let verifier := { verifier with uses := kept }
  let uses := kept.uses a.replayKey
  if a.allowedExecutionCount ≤ uses then
    (.rejected a "replay_limit_exhausted" (some uses), verifier)
  else if consume then
    if (kept.lookup a.replayKey).isNone && maxReplayEntries ≤ kept.entries.length then
      (.rejected a "replay_cache_full" (some uses), verifier)
    else
      (⟨true, none, some a.signerId, some a.planHash, some (uses + 1)⟩,
        { verifier with uses := kept.charge a.replayKey a.expiresAtMs })
  else (⟨true, none, some a.signerId, some a.planHash, some uses⟩, verifier)

/-- `verify` -/
def verify (verifier : TrustedPlanVerifier Key) (a : SignedPlanAuthority)
    (request : VerifyRequest Document) : SignedPlanVerification × TrustedPlanVerifier Key :=
  match a.validate host with
  | .error _ => (⟨false, some "malformed_signed_plan", none, none, none⟩, verifier)
  | .ok () =>
      match verifier.check host a request with
      | .error reason => (.rejected a reason, verifier)
      | .ok () => verifier.account a request.nowMs request.consume

end TrustedPlanVerifier

end Dingdongditch
