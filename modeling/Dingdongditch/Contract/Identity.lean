import Dingdongditch.Contract.SignedPlan
import Dingdongditch.Interaction.System
import Dingdongditch.Text.Dict
import Mathlib.Algebra.Group.Int.Defs

/-!
# Execution identities

Descriptors of identities and the assertions made under them, what makes them
well formed, and the registry that decides which identity an assertion speaks
for.  The methods of the registry are one component; the clock is its only
environment.
-/

namespace Dingdongditch

open Text Interaction ReceiptChain

namespace Identity

/-- What the module takes from the host: hashing, and the check of an Ed25519
signature under the 32 bytes of a public key. -/
structure IdentityHost (F : Type) where
  hashing : Hashing F
  verifies : List UInt8 → List UInt8 → List Char → Bool

/-- An `IdentityError`, by its message. -/
abbrev IdentityError := String

def reject (bad : Bool) (message : IdentityError) : Except IdentityError Unit :=
  SignedPlan.reject bad message

def identityVersion : String := "1.0"

def identityAlgorithm : String := "ed25519"

def maxAssertionMs : Int := 24 * 60 * 60 * 1000

def maxIdentities : Nat := 1024

/-- `_token` -/
def token (name : String) (value : Option String) : Except IdentityError Unit :=
  SignedPlan.token name value

/-- `_decode`: the text is read as ASCII, and what is not base-64 is skipped. -/
def decode (value : String) (length : Nat) : Except IdentityError (List UInt8) := do
  reject (value = "" || 256 < value.length) "identity key or signature is invalid"
  let padded := value.toList ++ List.replicate ((4 - value.length % 4) % 4) '='
  if padded.any fun c => 128 ≤ c.toNat then throw "identity key or signature is invalid"
  match SignedPlan.a2bBase64 {} padded with
  | none => throw "identity key or signature is invalid"
  | some result => do
      reject (result.length ≠ length) "identity key or signature is invalid"
      return result

end Identity

open Identity

/-- `validate` -/
def IdentityKey.validate (key : IdentityKey) : Except IdentityError Unit := do
  token "identity key id" (some key.keyId)
  reject (key.algorithm ≠ identityAlgorithm) "identity key algorithm is unsupported"
  let _ ← decode key.publicKey 32

/-- `validate` -/
def AgentIdentity.validate (identity : AgentIdentity) : Except IdentityError Unit := do
  token "identity id" (some identity.identityId)
  token "identity owner" (some identity.ownerId)
  token "identity issuer" (some identity.issuerId)
  reject (identity.createdAtMs < 0) "identity creation time is invalid"
  reject (identity.version < 1 || 2 ^ 31 - 1 < identity.version) "identity version is invalid"
  reject (identity.keys.isEmpty || 8 < identity.keys.length || ¬ (identity.keys.map (·.keyId)).Nodup)
    "identity keys are invalid"
  identity.keys.forM fun key => key.validate
  reject (32 < identity.capabilityReferences.length ||
      identity.capabilityReferences.any fun item => item = "" || 160 < item.length)
    "identity capability references are invalid"
  reject (¬ identity.capabilityReferences.Nodup)
    "identity capability references contain duplicates"

namespace IdentityAssertion

/-- `validate` -/
def validate (a : IdentityAssertion) : Except IdentityError Unit := do
  reject (a.version ≠ Identity.identityVersion || a.algorithm ≠ identityAlgorithm)
    "identity assertion version or algorithm is unsupported"
  token "identity id" (some a.identityId)
  token "identity key id" (some a.keyId)
  token "identity assertion id" (some a.assertionId)
  token "controller scope" a.controllerScope
  reject (a.identityVersion < 1) "identity assertion version is invalid"
  reject (a.issuedAtMs < 0) "identity assertion issue time is invalid"
  reject (a.expiresAtMs ≤ a.issuedAtMs || maxAssertionMs < a.expiresAtMs - a.issuedAtMs)
    "identity assertion lifetime is invalid"
  let _ ← decode a.signature 64

variable {F : Type} [Floating F]

/-- `unsigned_dict` -/
def unsignedDict (a : IdentityAssertion) : Public F := [
  ("version", .str a.version),
  ("algorithm", .str a.algorithm),
  ("identity_id", .str a.identityId),
  ("identity_version", .int a.identityVersion),
  ("key_id", .str a.keyId),
  ("issued_at_ms", .int a.issuedAtMs),
  ("expires_at_ms", .int a.expiresAtMs),
  ("assertion_id", .str a.assertionId),
  ("controller_scope", nullable a.controllerScope)]

/-- `signing_bytes` -/
def signingBytes (host : IdentityHost F) (a : IdentityAssertion) : Option (List Char) := do
  a.validate.toOption
  let canonical ← canonicalJson host.hashing (.dict a.unsignedDict)
  return "DINGDONGDITCH:IDENTITY_ASSERTION:v1\x00".toList ++ canonical

end IdentityAssertion

/-! ## The registry -/

/-- Reading the clock, in milliseconds. -/
abbrev ClockSig : Sig := ⟨Unit, fun _ => Int⟩

structure IdentityRegistry where
  identities : List (String × AgentIdentity) := []
  revoked : Finset String := ∅

/-- A program of the registry. -/
abbrev RegistryAct (α : Type) : Type := Act ClockSig IdentityRegistry IdentityError α

namespace IdentityRegistry

def rejectWhen (bad : Bool) (message : IdentityError) : RegistryAct Unit :=
  Act.ofExcept (reject bad message)

/-- `register` -/
def register (identity : AgentIdentity) : RegistryAct Unit := do
  Act.ofExcept identity.validate
  let registry ← get
  let current := registry.identities.lookup identity.identityId
  rejectWhen (current.isNone && maxIdentities ≤ registry.identities.length)
    "identity registry capacity is exhausted"
  rejectWhen (current.any fun current => identity.version ≤ current.version)
    "identity version must increase on replacement"
  modify fun registry =>
    { registry with identities := assign registry.identities identity.identityId identity }
  if identity.status = .revoked then
    modify fun registry => { registry with revoked := insert identity.identityId registry.revoked }

/-- `revoke` -/
def revoke (identityId : String) : RegistryAct Unit := do
  Act.ofExcept (token "identity id" (some identityId))
  let registry ← get
  rejectWhen (registry.identities.lookup identityId).isNone "identity is not registered"
  modify fun registry => { registry with revoked := insert identityId registry.revoked }

variable {F : Type} [Floating F] (host : IdentityHost F)

/-- The signature of an assertion under a key. -/
def signatureValid (key : IdentityKey) (a : IdentityAssertion) : Bool :=
  match decode key.publicKey 32, decode a.signature 64, a.signingBytes host with
  | .ok publicKey, .ok signature, some bytes => host.verifies publicKey signature bytes
  | _, _, _ => false

/-- What `verify` checks of an assertion against the identity that it names and the
time. -/
def checkAssertion (identity : AgentIdentity) (a : IdentityAssertion) (controllerId : Option String)
    (current : Int) : Except IdentityError AgentIdentity := do
  reject (current < a.issuedAtMs || a.expiresAtMs ≤ current)
    "identity assertion is not currently valid"
  reject (a.controllerScope.isSome && a.controllerScope ≠ controllerId)
    "identity assertion controller scope does not match"
  match identity.keys.find? (·.keyId = a.keyId) with
  | none => throw "identity assertion key is not trusted"
  | some key => do
      reject (!signatureValid host key a) "identity assertion signature is invalid"
      return identity

/-- `verify` -/
def verify (a : IdentityAssertion) (controllerId : Option String) (nowMs : Option Int) :
    RegistryAct AgentIdentity := do
  Act.ofExcept a.validate
  let registry ← get
  match registry.identities.lookup a.identityId with
  | none => throw "identity is not trusted or has been revoked"
  | some identity => do
      rejectWhen (a.identityId ∈ registry.revoked || identity.status = .revoked)
        "identity is not trusted or has been revoked"
      rejectWhen (a.identityVersion ≠ identity.version) "identity assertion is stale"
      let current ← match nowMs with
        | none => (Act.ask () : RegistryAct Int)
        | some nowMs => pure nowMs
      Act.ofExcept (checkAssertion host identity a controllerId current)

/-- The calls of a registry. -/
inductive Method
  | register (identity : AgentIdentity)
  | revoke (identityId : String)
  | verify (a : IdentityAssertion) (controllerId : Option String) (nowMs : Option Int)

def Method.Reply : Method → Type
  | .register _ => Unit
  | .revoke _ => Unit
  | .verify _ _ _ => AgentIdentity

def body : (method : Method) → RegistryAct method.Reply
  | .register identity => register identity
  | .revoke identityId => revoke identityId
  | .verify a controllerId nowMs => verify host a controllerId nowMs

/-- The calls that the lock of the registry serialises. -/
def component : Component ClockSig IdentityRegistry IdentityError where
  Method := Method
  Reply := Method.Reply
  body := body host

end IdentityRegistry

end Dingdongditch
