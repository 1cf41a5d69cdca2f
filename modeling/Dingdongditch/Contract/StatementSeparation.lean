import Dingdongditch.Contract.AttestationSoundness
import Dingdongditch.Contract.IdentityHistory
import Dingdongditch.Contract.ReplayBound
import Dingdongditch.Text.JsonKeys

/-!
# The statements that are signed

Plans, identity assertions and execution attestations are signed over bytes of one
shape: the name of the kind, then canonical JSON.  The bytes determine the kind and the
canonical text of every field that is signed (`signingBytes_eq_iff`), so that one key may
sign all three kinds: what a verifier accepts was signed as what it is accepted for
(`accepted_was_signed`).
-/

namespace Dingdongditch

open Text Interaction ReceiptChain
open SignedPlan (SigningHost)
open Identity (IdentityHost)

variable {F Key Key' Document : Type} [Floating F] {hashing : Hashing F}

/-! ## The kinds of statements -/

/-- What the three modules take from the host; they share its hashing. -/
structure Verifiers (F Key Key' Document : Type) where
  plans : SigningHost F Key Document
  identities : IdentityHost F
  attestations : AttestationHost F Key'
  sameIdentities : identities.hashing = plans.hashing
  sameAttestations : attestations.hashing = plans.hashing

inductive StatementKind
  | plan | identity | attestation

/-- The name of the kind, in front of the bytes. -/
def StatementKind.domain : StatementKind → List Char
  | .plan => "DINGDONGDITCH:SIGNED_PLAN_AUTHORITY:v1\x00".toList
  | .identity => "DINGDONGDITCH:IDENTITY_ASSERTION:v1\x00".toList
  | .attestation => "DINGDONGDITCH:EXECUTION_ATTESTATION:v1\x00".toList

/-- The first letter of the kind, which tells the names apart. -/
def StatementKind.letter : StatementKind → Char
  | .plan => 'S'
  | .identity => 'I'
  | .attestation => 'E'

/-- The name in front of the bytes tells the kinds apart. -/
theorem StatementKind.domain_separates {kind kind' : StatementKind} {text text' : List Char}
    (same : kind.domain ++ text = kind'.domain ++ text') : kind = kind' := by
  have long : ∀ kind : StatementKind, 14 < kind.domain.length := by
    intro kind
    cases kind <;> decide
  have named : ∀ kind : StatementKind, kind.domain[14]? = some kind.letter := by
    intro kind
    cases kind <;> decide
  have letters : some kind.letter = some kind'.letter := by
    rw [← named, ← named, ← List.getElem?_append_left (long kind), same,
      List.getElem?_append_left (long kind')]
  cases kind <;> cases kind' <;> first | rfl | exact absurd letters (by decide)

/-- A statement that may be signed. -/
inductive SignedStatement (F : Type)
  | plan (authority : SignedPlanAuthority)
  | identity (assertion : IdentityAssertion)
  | attestation (statement : ExecutionAttestationStatement F)

namespace SignedStatement

variable (host : Verifiers F Key Key' Document)

/-- The bytes that are signed; a statement that is not well formed has none. -/
def signingBytes : SignedStatement F → Option (List Char)
  | plan a => a.signingBytes host.plans
  | identity a => a.signingBytes host.identities
  | attestation s => s.canonicalBytes host.attestations

def kind : SignedStatement F → StatementKind
  | plan _ => .plan
  | identity _ => .identity
  | attestation _ => .attestation

/-- The fields that are signed. -/
def fields : SignedStatement F → Public F
  | plan a => a.unsignedDict
  | identity a => a.unsignedDict
  | attestation s => s.fields

/-- The signed content of a statement: its kind, and the canonical text of each field. -/
def content (statement : SignedStatement F) : StatementKind × List (String × List Char) :=
  (statement.kind, Json.fieldTexts host.plans.hashing.nfc statement.fields)

theorem signingBytes_some {statement : SignedStatement F} {bytes : List Char}
    (signs : statement.signingBytes host = some bytes) :
    ∃ text, canonicalJson host.plans.hashing (.dict statement.fields) = some text ∧
      bytes = statement.kind.domain ++ text := by
  cases statement with
  | plan a =>
      obtain ⟨_, -, signs⟩ := Option.bind_eq_some_iff.mp signs
      obtain ⟨text, isText, signs⟩ := Option.bind_eq_some_iff.mp signs
      exact ⟨text, isText, (Option.some.inj signs).symm⟩
  | identity a =>
      obtain ⟨_, -, signs⟩ := Option.bind_eq_some_iff.mp signs
      obtain ⟨text, isText, signs⟩ := Option.bind_eq_some_iff.mp signs
      rw [host.sameIdentities] at isText
      exact ⟨text, isText, (Option.some.inj signs).symm⟩
  | attestation s =>
      obtain ⟨_, -, signs⟩ := Option.bind_eq_some_iff.mp signs
      obtain ⟨text, isText, signs⟩ := Option.bind_eq_some_iff.mp signs
      rw [host.sameAttestations] at isText
      exact ⟨text, isText, (Option.some.inj signs).symm⟩

variable {host}

omit [Floating F] in
/-- Statements of one kind have the same fields, each once. -/
theorem fields_keys {statement statement' : SignedStatement F}
    (kinds : statement.kind = statement'.kind) :
    statement.fields.map (·.1) = statement'.fields.map (·.1) ∧ (statement.fields.map (·.1)).Nodup := by
  cases statement with
  | plan a =>
      cases statement' with
      | plan b => exact ⟨rfl, by simp [fields, SignedPlanAuthority.unsignedDict]⟩
      | identity b => cases kinds
      | attestation t => cases kinds
  | identity a =>
      cases statement' with
      | plan b => cases kinds
      | identity b => exact ⟨rfl, by simp [fields, IdentityAssertion.unsignedDict]⟩
      | attestation t => cases kinds
  | attestation s =>
      cases statement' with
      | plan b => cases kinds
      | identity b => cases kinds
      | attestation t => exact ⟨rfl, by simp [fields, ExecutionAttestationStatement.fields]⟩

/-- Statements of one kind have the same bytes when they have the same content. -/
theorem bytes_eq_iff_of_kind {statement statement' : SignedStatement F} {bytes bytes' : List Char}
    (signs : statement.signingBytes host = some bytes)
    (signs' : statement'.signingBytes host = some bytes') (kinds : statement.kind = statement'.kind) :
    bytes = bytes' ↔ statement.content host = statement'.content host := by
  obtain ⟨text, isText, rfl⟩ := signingBytes_some host signs
  obtain ⟨text', isText', rfl⟩ := signingBytes_some host signs'
  obtain ⟨keys, distinct⟩ := fields_keys kinds
  rw [content, content, kinds, List.append_right_inj, ← canonicalJson_text isText,
    ← canonicalJson_text isText', Prod.mk.injEq, ← Json.dumps_record_eq_iff keys distinct]
  exact ⟨fun same => ⟨rfl, same⟩, And.right⟩

theorem kind_of_bytes {statement statement' : SignedStatement F} {bytes : List Char}
    (signs : statement.signingBytes host = some bytes)
    (signs' : statement'.signingBytes host = some bytes) : statement.kind = statement'.kind := by
  obtain ⟨text, -, split⟩ := signingBytes_some host signs
  obtain ⟨text', -, split'⟩ := signingBytes_some host signs'
  exact StatementKind.domain_separates (split.symm.trans split')

/-- The bytes that are signed determine the content. -/
theorem content_of_bytes {statement statement' : SignedStatement F} {bytes : List Char}
    (signs : statement.signingBytes host = some bytes)
    (signs' : statement'.signingBytes host = some bytes) :
    statement.content host = statement'.content host :=
  (bytes_eq_iff_of_kind signs signs' (kind_of_bytes signs signs')).mp rfl

/-- The bytes that are signed determine the kind and the canonical text of every signed
field, and nothing else. -/
theorem signingBytes_eq_iff {statement statement' : SignedStatement F} {bytes bytes' : List Char}
    (signs : statement.signingBytes host = some bytes)
    (signs' : statement'.signingBytes host = some bytes') :
    bytes = bytes' ↔ statement.content host = statement'.content host := by
  constructor
  · rintro rfl
    exact content_of_bytes signs signs'
  · intro same
    exact (bytes_eq_iff_of_kind signs signs' (congrArg Prod.fst same)).mpr same

end SignedStatement

/-! ## What the verifiers accept -/

section Accepted

variable (host : Verifiers F Key Key' Document)

/-- The statements that the verifiers accept, each with the signatures that are valid
under the key it is accepted for. -/
inductive Accepts : SignedStatement F → (List UInt8 → List Char → Bool) → Prop
  | plan {verifier : TrustedPlanVerifier Key} {a : SignedPlanAuthority} {request : VerifyRequest Document}
      {key : Key} (valid : (verifier.verify host.plans a request).1.valid = true)
      (trusted : verifier.trusted.lookup a.signerId = some key) :
      Accepts (.plan a) (host.plans.verifies key)
  | identity {registry registry' : IdentityRegistry} {a : IdentityAssertion} {controllerId : Option String}
      {nowMs : Option Int} {t : Trace ClockSig} {identity : AgentIdentity} {key : IdentityKey}
      {publicKey : List UInt8}
      (run : Act.Runs (IdentityRegistry.verify host.identities a controllerId nowMs) registry t
        (.ok identity) registry')
      (registered : identity.keys.find? (·.keyId = a.keyId) = some key)
      (decoded : Identity.decode key.publicKey 32 = .ok publicKey) :
      Accepts (.identity a) (host.identities.verifies publicKey)
  | attestation {registry registry' : AttesterTrustRegistry Key'} {a : ExecutionAttestation F}
      {request : AttestationRequest F} {key : Key'} {level : AssuranceLevel}
      (verified : registry.verify host.attestations a request = (.ok (), registry'))
      (trusted : registry.trusted.lookup a.statement.attesterId = some (key, level)) :
      Accepts (.attestation a.statement) (host.attestations.verifies key)

/-- The key signed these statements only. -/
def OnlySigned (signed : Set (SignedStatement F)) (verifies : List UInt8 → List Char → Bool) : Prop :=
  ∀ signature bytes, verifies signature bytes = true →
    ∃ statement ∈ signed, statement.signingBytes host = some bytes

variable {host}

/-- A plan that is accepted carries a signature of its bytes. -/
theorem TrustedPlanVerifier.verify_signed {verifier : TrustedPlanVerifier Key} {a : SignedPlanAuthority}
    {request : VerifyRequest Document} {key : Key} {plans : SigningHost F Key Document}
    (valid : (verifier.verify plans a request).1.valid = true)
    (trusted : verifier.trusted.lookup a.signerId = some key) :
    ∃ signature bytes, a.signingBytes plans = some bytes ∧ plans.verifies key signature bytes = true := by
  unfold verify at valid
  split at valid
  · cases valid
  · split at valid
    · cases valid
    · next checked =>
        unfold check at checked
        obtain ⟨-, checked⟩ := SignedPlan.reject_ok checked
        rw [trusted] at checked
        obtain ⟨-, checked⟩ := SignedPlan.reject_ok checked
        cases hash : plans.canonicalPlanHash request.document with
        | none =>
            rw [hash] at checked
            cases checked
        | some observed =>
            rw [hash] at checked
            obtain ⟨-, checked⟩ := SignedPlan.reject_ok checked
            obtain ⟨-, checked⟩ := SignedPlan.reject_ok checked
            obtain ⟨-, checked⟩ := SignedPlan.reject_ok checked
            obtain ⟨-, checked⟩ := SignedPlan.reject_ok checked
            obtain ⟨-, checked⟩ := SignedPlan.reject_ok checked
            obtain ⟨-, checked⟩ := SignedPlan.reject_ok checked
            have signed : signatureValid plans key a = true := by
              simpa using IdentityRegistry.reject_eq_ok.mp checked
            unfold signatureValid at signed
            split at signed
            · next signature bytes _ isBytes => exact ⟨signature, bytes, isBytes, signed⟩
            · cases signed

/-- An identity assertion that is accepted carries a signature of its bytes. -/
theorem IdentityRegistry.verify_signed {registry registry' : IdentityRegistry} {a : IdentityAssertion}
    {controllerId : Option String} {nowMs : Option Int} {t : Trace ClockSig} {identity : AgentIdentity}
    {key : IdentityKey} {publicKey : List UInt8} {identities : IdentityHost F}
    (run : Act.Runs (verify identities a controllerId nowMs) registry t (.ok identity) registry')
    (registered : identity.keys.find? (·.keyId = a.keyId) = some key)
    (decoded : Identity.decode key.publicKey 32 = .ok publicKey) :
    ∃ signature bytes, a.signingBytes identities = some bytes ∧
      identities.verifies publicKey signature bytes = true := by
  obtain ⟨now, trusts⟩ := (verify_runs run).2 identity rfl
  obtain ⟨key', found, signed⟩ := trusts.signed
  rw [registered] at found
  obtain rfl := Option.some.inj found
  unfold signatureValid at signed
  rw [decoded] at signed
  split at signed
  · next key' signature bytes isKey _ isBytes =>
      obtain rfl := Except.ok.inj isKey
      exact ⟨signature, bytes, isBytes, signed⟩
  · cases signed

/-- An attestation that is accepted carries a signature of its bytes. -/
theorem AttesterTrustRegistry.verify_signed {registry registry' : AttesterTrustRegistry Key'}
    {a : ExecutionAttestation F} {request : AttestationRequest F} {key : Key'} {level : AssuranceLevel}
    {attestations : AttestationHost F Key'}
    (verified : registry.verify attestations a request = (.ok (), registry'))
    (trusted : registry.trusted.lookup a.statement.attesterId = some (key, level)) :
    ∃ signature bytes, a.statement.canonicalBytes attestations = some bytes ∧
      attestations.verifies key signature bytes = true := by
  unfold verify at verified
  cases checked : registry.check attestations a request with
  | error refusal =>
      rw [checked] at verified
      cases verified
  | ok u =>
      unfold check at checked
      obtain ⟨-, checked⟩ := refuse_ok checked
      rw [trusted] at checked
      dsimp only at checked
      obtain ⟨-, checked⟩ := refuse_ok checked
      obtain ⟨-, checked⟩ := refuse_ok checked
      obtain ⟨-, checked⟩ := refuse_ok checked
      obtain ⟨_, -, checked⟩ := bind_eq_ok.mp checked
      obtain ⟨_, -, checked⟩ := bind_eq_ok.mp checked
      obtain ⟨_, -, checked⟩ := bind_eq_ok.mp checked
      obtain ⟨_, -, checked⟩ := bind_eq_ok.mp checked
      obtain ⟨_, -, checked⟩ := bind_eq_ok.mp checked
      obtain ⟨-, checked⟩ := refuse_ok checked
      obtain ⟨-, checked⟩ := refuse_ok checked
      obtain ⟨-, checked⟩ := refuse_ok checked
      obtain ⟨_, -, checked⟩ := bind_eq_ok.mp checked
      obtain ⟨signed, -⟩ := refuse_ok checked
      have signed : signatureValid attestations key a = true := by simpa using signed
      obtain ⟨signature, bytes, -, isBytes, valid⟩ := signatureValid_ok signed
      exact ⟨signature, bytes, isBytes, valid⟩

/-- What a verifier accepts has signing bytes, and a signature of them. -/
theorem Accepts.verifies {statement : SignedStatement F} {verifies : List UInt8 → List Char → Bool}
    (accepts : Accepts host statement verifies) :
    ∃ signature bytes, statement.signingBytes host = some bytes ∧ verifies signature bytes = true := by
  cases accepts with
  | plan valid trusted => exact TrustedPlanVerifier.verify_signed valid trusted
  | identity run registered decoded => exact IdentityRegistry.verify_signed run registered decoded
  | attestation verified trusted => exact AttesterTrustRegistry.verify_signed verified trusted

/-- What a verifier accepts under a key was signed with the key, as a statement of its
own kind with its own content, whatever else the key signs. -/
theorem accepted_was_signed {statement : SignedStatement F}
    {verifies : List UInt8 → List Char → Bool} {signed : Set (SignedStatement F)}
    (accepts : Accepts host statement verifies) (only : OnlySigned host signed verifies) :
    ∃ origin ∈ signed, origin.content host = statement.content host := by
  obtain ⟨signature, bytes, isBytes, valid⟩ := accepts.verifies
  obtain ⟨origin, mem, signs⟩ := only signature bytes valid
  exact ⟨origin, mem, SignedStatement.content_of_bytes signs isBytes⟩

end Accepted

/-! ## One key for all kinds -/

section Sample

open Attestation IdentityRegistry TrustedPlanVerifier

/-- A hash without collisions, and one text that has another canonical form. -/
def composingHashing : Hashing (Fin 10) where
  sha256 text := String.ofList ('x' :: text)
  nfc text := if text = "e\u0301" then "\u00e9" else text
  pyStr _ := ""

/-- A host on which every key has signed these bytes, and nothing else. -/
def signedBytes (signed : Option (List Char)) : Verifiers (Fin 10) Unit Unit Unit where
  plans := { soleHost with
    hashing := composingHashing
    verifies := fun _ _ bytes => signed = some bytes }
  identities := { hashing := composingHashing, verifies := fun _ _ bytes => signed = some bytes }
  attestations := { soleAttestationHost with
    hashing := composingHashing
    verifies := fun _ _ bytes => signed = some bytes }
  sameIdentities := rfl
  sameAttestations := rfl

/-- A statement whose identity reference has this text. -/
def referring (owner : String) : SignedStatement (Fin 10) :=
  .attestation { statementOf [] "nonce" 100 with identityReference := some [("owner", .str owner)] }

theorem SignedStatement.signingBytes_eq_iff_forms : ∃ bytes bytes',
    (referring "\u00e9").signingBytes (signedBytes none) = some bytes ∧
    (referring "e\u0301").signingBytes (signedBytes none) = some bytes' ∧
    (bytes = bytes' ↔
      (referring "\u00e9").content (signedBytes none) =
        (referring "e\u0301").content (signedBytes none)) := by
  have signs : ((referring "\u00e9").signingBytes (signedBytes none)).isSome = true := by decide +kernel
  have signs' : ((referring "e\u0301").signingBytes (signedBytes none)).isSome = true := by decide +kernel
  obtain ⟨bytes, isBytes⟩ := Option.isSome_iff_exists.mp signs
  obtain ⟨bytes', isBytes'⟩ := Option.isSome_iff_exists.mp signs'
  exact ⟨bytes, bytes', isBytes, isBytes', signingBytes_eq_iff isBytes isBytes'⟩

/-- The host whose keys signed the sample plan. -/
def planSigned : Verifiers (Fin 10) Unit Unit Unit :=
  signedBytes ((SignedStatement.plan (soleStatement 100 1)).signingBytes (signedBytes none))

theorem accepted_was_signed_plan :
    ∃ origin ∈ ({.plan (soleStatement 100 1)} : Set (SignedStatement (Fin 10))),
      origin.content planSigned = (SignedStatement.plan (soleStatement 100 1)).content planSigned := by
  have valid : (soleVerifier.verify planSigned.plans (soleStatement 100 1) {
      document := ()
      authorityEnvelopeHash := "00112233445566778899aabbccddeeff00112233445566778899aabbccddeeff"
      nowMs := 0 }).1.valid = true := by decide +kernel
  have only : OnlySigned planSigned {.plan (soleStatement 100 1)} (planSigned.plans.verifies ()) := by
    intro signature bytes signed
    exact ⟨_, rfl, of_decide_eq_true signed⟩
  exact accepted_was_signed (.plan valid (by decide +kernel)) only

end Sample

end Dingdongditch
