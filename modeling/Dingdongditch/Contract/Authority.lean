import Dingdongditch.Contract.Origin
import Dingdongditch.Contract.Operation

/-!
# Authority envelopes and the firewall

An `AuthorityEnvelope` is a host policy that passed its own `validate`: the
structure carries that fact, so the rest of the development never meets an
envelope with an unusable pattern or a duplicate entry.  `AuthorityFirewall.decide` is the pure
policy evaluator that a governed session asks before it dispatches.
-/

namespace Dingdongditch

open Text

/-- The fields of an envelope, before anything has been checked. -/
structure AuthorityPolicy where
  policyId : String
  grantedAuthorities : List ProvenanceClass := [.hostPolicy, .agentReasoning]
  allowedOrigins : List (List Char) := []
  deniedOrigins : List (List Char) := []
  allowedActionTypes : List ActionType := []
  deniedActionTypes : List ActionType := []
  allowedFileNames : List String := []
  allowedSecretReferences : List String := []
  maxUploadBytes : Option Int := none
  irreversibleActionTypes : List ActionType := []
  requirePreparationFor : List ActionType := []
  requiredAuthorityByAction : List (ActionType × ProvenanceClass) := []
  expiresAtMs : Option Int := none
  maxActionCount : Option Int := none
  maxSideEffectCount : Option Int := none
  denyUntrustedForIrreversible : Bool := false
  transferPreparedOperations : Bool := false
  allowFrameActions : Bool := false
  deriving DecidableEq, Repr

namespace AuthorityPolicy

/-- The check that both origin lists go through. -/
def validateOrigins (codec : HostCodec) (field : String) (values : List (List Char)) :
    Except PyException Unit := do
  rejectIf (!values.Nodup) (field ++ " must not contain duplicates")
  rejectIf (values.any fun value => policyOriginPattern codec value = [])
    (field ++ " contains an invalid origin")

/-- The check that every list of non-empty strings goes through. -/
def validateStrings (field : String) (values : List String) : Except PyException Unit := do
  rejectIf (values.any (· = "")) (field ++ " must contain non-empty strings")
  rejectIf (!values.Nodup) (field ++ " must not contain duplicates")

def validateActionTypes (field : String) (values : List ActionType) : Except PyException Unit :=
  rejectIf (!values.Nodup) (field ++ " must not contain duplicates")

def validateLimit (field : String) (value : Option Int) : Except PyException Unit :=
  rejectIf (value.any (· < 0)) (field ++ " must be a non-negative integer when present")

def validate (codec : HostCodec) (policy : AuthorityPolicy) : Except PyException Unit := do
  rejectIf (stripBy isSpace policy.policyId.toList).isEmpty "authority policy_id is required"
  rejectIf policy.grantedAuthorities.isEmpty
    "authority envelope requires at least one granted authority"
  rejectIf (!policy.grantedAuthorities.Nodup) "granted_authorities must not contain duplicates"
  validateOrigins codec "allowed_origins" policy.allowedOrigins
  validateOrigins codec "denied_origins" policy.deniedOrigins
  validateActionTypes "allowed_action_types" policy.allowedActionTypes
  validateActionTypes "denied_action_types" policy.deniedActionTypes
  validateStrings "allowed_file_names" policy.allowedFileNames
  validateStrings "allowed_secret_references" policy.allowedSecretReferences
  validateActionTypes "irreversible_action_types" policy.irreversibleActionTypes
  validateActionTypes "require_preparation_for" policy.requirePreparationFor
  validateLimit "expires_at_ms" policy.expiresAtMs
  validateLimit "max_action_count" policy.maxActionCount
  validateLimit "max_side_effect_count" policy.maxSideEffectCount
  validateLimit "max_upload_bytes" policy.maxUploadBytes

/-- What `__post_init__` stores for the origin lists. -/
def storeOrigins (codec : HostCodec) (values : List (List Char)) : List (List Char) :=
  values.map fun value => policyOriginPattern codec (rstripBy (· = '/') value)

/-- `__post_init__` before its call of `validate`. -/
def normalize (codec : HostCodec) (policy : AuthorityPolicy) : AuthorityPolicy :=
  { policy with
    allowedOrigins := storeOrigins codec policy.allowedOrigins
    deniedOrigins := storeOrigins codec policy.deniedOrigins }

end AuthorityPolicy

/-- A host policy that passed its own validation. -/
structure AuthorityEnvelope (codec : HostCodec) extends AuthorityPolicy where
  valid : toAuthorityPolicy.validate codec = .ok ()

instance (codec : HostCodec) : DecidableEq (AuthorityEnvelope codec) := fun a b =>
  decidable_of_iff (a.toAuthorityPolicy = b.toAuthorityPolicy) <| by
    cases a
    cases b
    simp

variable {codec : HostCodec}

/-- `AuthorityEnvelope(…)` -/
def AuthorityEnvelope.ofPolicy (codec : HostCodec) (policy : AuthorityPolicy) :
    Except PyException (AuthorityEnvelope codec) :=
  match accepted : (policy.normalize codec).validate codec with
  | .ok () => .ok ⟨policy.normalize codec, accepted⟩
  | .error e => .error e

theorem AuthorityEnvelope.ofPolicy_eq_ok {policy : AuthorityPolicy}
    {envelope : AuthorityEnvelope codec} (built : ofPolicy codec policy = .ok envelope) :
    envelope.toAuthorityPolicy = policy.normalize codec := by
  unfold ofPolicy at built
  split at built
  · cases built
    rfl
  · cases built

inductive FirewallOutcome
  | authorized | policyRejected | authorityInsufficient | originNotAllowed | actionNotAllowed
  | authorityExpired | sideEffectBudgetExceeded | provenancePolicyRejected
  deriving DecidableEq, Repr

def FirewallOutcome.value : FirewallOutcome → String
  | .authorized => "AUTHORIZED"
  | .policyRejected => "POLICY_REJECTED"
  | .authorityInsufficient => "AUTHORITY_INSUFFICIENT"
  | .originNotAllowed => "ORIGIN_NOT_ALLOWED"
  | .actionNotAllowed => "ACTION_NOT_ALLOWED"
  | .authorityExpired => "AUTHORITY_EXPIRED"
  | .sideEffectBudgetExceeded => "SIDE_EFFECT_BUDGET_EXCEEDED"
  | .provenancePolicyRejected => "PROVENANCE_POLICY_REJECTED"

structure FirewallDecision where
  outcome : FirewallOutcome
  ruleMatched : String
  reason : Option String
  requiredAuthority : Option ProvenanceClass
  availableAuthorities : List ProvenanceClass
  origin : List Char
  actionType : ActionType
  inputProvenance : List ProvenanceClass
  actionCount : Int
  sideEffectCount : Int
  deriving DecidableEq, Repr

def FirewallDecision.authorized (decision : FirewallDecision) : Bool :=
  decision.outcome = .authorized

/-- What `decide` is told besides the operation and the envelope.
`uploadBytes` is the total size the file system reports for the upload paths,
`none` when it cannot be established. -/
structure DecisionInput where
  currentUrl : String := ""
  effectiveUrl : String := ""
  nowMs : Int
  actionCount : Int
  sideEffectCount : Int
  uploadBytes : Option Int := none
  deriving DecidableEq, Repr

/-- `a or b` on strings. -/
def orElse (a b : String) : String := if a ≠ "" then a else b

/-- The URL whose origin the firewall judges. -/
def decisionUrl (op : Operation) (input : DecisionInput) : String :=
  orElse input.effectiveUrl
    (if op.action.type = .navigate then op.url else orElse input.currentUrl op.url)

/-- Provenance that a planner may not claim for itself. -/
def ProvenanceClass.privileged : ProvenanceClass → Bool
  | .userAuthority | .hostPolicy | .secretProvider | .systemRuntime => true
  | _ => false

def ProvenanceClass.untrusted : ProvenanceClass → Bool
  | .webUntrusted | .thirdPartyContent => true
  | _ => false

/-- The rule of the policy that rejects, as `(outcome, rule, reason)`: the tests
of `AuthorityFirewall.decide` in their order, `none` when all of them pass. -/
def firewallRejection (envelope : AuthorityEnvelope codec) (op : Operation)
    (input : DecisionInput) : Option (FirewallOutcome × String × String) :=
  let action := op.action
  let origin := origin codec (decisionUrl op input).toList
  let irreversible := envelope.irreversibleActionTypes.contains action.type
  let required := envelope.requiredAuthorityByAction.lookup action.type
  let frameTargeted := action.frame.isSome || !action.framePath.isEmpty
  if envelope.expiresAtMs.any (· ≤ input.nowMs) then
    some (.authorityExpired, "expires_at_ms", "authority envelope expired")
  else if op.provenance.any (·.privileged) then
    some (.provenancePolicyRejected, "planner_provenance",
      "privileged provenance must be attached by a host execution boundary")
  else if origin = [] then
    some (.originNotAllowed, "network_origin", "governed actions require an http(s) origin")
  else if envelope.maxActionCount.any (· ≤ input.actionCount) then
    some (.sideEffectBudgetExceeded, "max_action_count", "action budget exhausted")
  else if irreversible && envelope.maxSideEffectCount.any (· ≤ input.sideEffectCount) then
    some (.sideEffectBudgetExceeded, "max_side_effect_count", "side-effect budget exhausted")
  else if !envelope.deniedOrigins.isEmpty && matchesOrigin codec origin envelope.deniedOrigins then
    some (.originNotAllowed, "denied_origins", "origin is denied")
  else if !envelope.allowedOrigins.isEmpty &&
      !matchesOrigin codec origin envelope.allowedOrigins then
    some (.originNotAllowed, "allowed_origins", "origin is not allow-listed")
  else if envelope.deniedActionTypes.contains action.type then
    some (.actionNotAllowed, "denied_action_types", "action type is denied")
  else if !envelope.allowedActionTypes.isEmpty &&
      !envelope.allowedActionTypes.contains action.type then
    some (.actionNotAllowed, "allowed_action_types", "action type is not allow-listed")
  else if frameTargeted && !envelope.allowFrameActions then
    some (.policyRejected, "frame_actions",
      "frame-targeted actions require explicit host authorization")
  else if frameTargeted && origin = [] then
    some (.policyRejected, "frame_origin", "frame origin could not be resolved for authorization")
  else if required.any fun authority => !envelope.grantedAuthorities.contains authority then
    some (.authorityInsufficient, "required_authority_by_action",
      "required authority was not granted")
  else if envelope.denyUntrustedForIrreversible && irreversible &&
      op.provenance.any (·.untrusted) then
    some (.provenancePolicyRejected, "deny_untrusted_for_irreversible",
      "untrusted provenance cannot authorize an irreversible action")
  else if action.secretReference.any (fun secret => !envelope.allowedSecretReferences.isEmpty &&
      !envelope.allowedSecretReferences.contains secret.referenceId) then
    some (.policyRejected, "allowed_secret_references", "secret reference is not allow-listed")
  else if action.uploadAuthorization.any (fun upload => !envelope.allowedFileNames.isEmpty &&
      upload.filePaths.any fun file => !envelope.allowedFileNames.contains file.name) then
    some (.policyRejected, "allowed_file_names", "upload file is not allow-listed")
  else if action.uploadAuthorization.isSome && envelope.maxUploadBytes.isSome &&
      input.uploadBytes.isNone then
    some (.policyRejected, "max_upload_bytes", "upload size cannot be established")
  else if action.uploadAuthorization.isSome && envelope.maxUploadBytes.any fun limit =>
      input.uploadBytes.any (limit < ·) then
    some (.policyRejected, "max_upload_bytes", "upload exceeds declared size limit")
  else none

/-- `AuthorityFirewall.decide` -/
def AuthorityFirewall.decide (envelope : AuthorityEnvelope codec) (op : Operation) (input : DecisionInput) :
    FirewallDecision :=
  let verdict := firewallRejection envelope op input
  { outcome := (verdict.map fun v => v.1).getD .authorized
    ruleMatched := (verdict.map fun v => v.2.1).getD "envelope_authorized"
    reason := verdict.map fun v => v.2.2
    requiredAuthority := envelope.requiredAuthorityByAction.lookup op.action.type
    availableAuthorities := envelope.grantedAuthorities
    origin := origin codec (decisionUrl op input).toList
    actionType := op.action.type
    inputProvenance := op.provenance
    actionCount := input.actionCount
    sideEffectCount := input.sideEffectCount }

end Dingdongditch
