import Dingdongditch.Contract.OriginPolicy
import Dingdongditch.Logic.Rejections

/-!
# What the firewall authorizes

`AuthorityFirewall.decide` runs through a list of checks and reports the first
that applies.  Read without their order they are the conjunction
`AuthorityEnvelope.Permits`: `decide_authorized_iff` says that an operation is
authorized exactly when the envelope permits it, and `decide_antitone` that a
stricter envelope, a later clock, higher counts or more provenance never turn a
rejection into an authorization.
-/

namespace Dingdongditch

open Text Rejections

variable {codec : HostCodec}

namespace Action

/-- The action names a frame of its page. -/
def FrameTargeted (action : Action) : Prop := action.frame.isSome ∨ action.framePath ≠ []

end Action

namespace AuthorityEnvelope

/-- What the operation is authorized for, constraint by constraint. -/
structure Permits (envelope : AuthorityEnvelope codec) (op : Operation) (input : DecisionInput) :
    Prop where
  unexpired : ∀ expiry, envelope.expiresAtMs = some expiry → input.nowMs < expiry
  unprivileged : ∀ label ∈ op.provenance, label.privileged = false
  network : ∃ scheme host, (scheme = http ∨ scheme = https) ∧
    origin codec (decisionUrl op input).toList = scheme ++ "://".toList ++ host
  actions : ∀ limit, envelope.maxActionCount = some limit → input.actionCount < limit
  sideEffects : op.action.type ∈ envelope.irreversibleActionTypes →
    ∀ limit, envelope.maxSideEffectCount = some limit → input.sideEffectCount < limit
  originNotDenied : ∀ pattern ∈ envelope.deniedOrigins,
    matchesPattern codec (origin codec (decisionUrl op input).toList) pattern = false
  originAllowed : envelope.allowedOrigins = [] ∨ ∃ pattern ∈ envelope.allowedOrigins,
    matchesPattern codec (origin codec (decisionUrl op input).toList) pattern = true
  typeNotDenied : op.action.type ∉ envelope.deniedActionTypes
  typeAllowed : envelope.allowedActionTypes = [] ∨ op.action.type ∈ envelope.allowedActionTypes
  frame : op.action.FrameTargeted → envelope.allowFrameActions = true
  authority : ∀ required, envelope.requiredAuthorityByAction.lookup op.action.type = some required →
    required ∈ envelope.grantedAuthorities
  trusted : envelope.denyUntrustedForIrreversible = true →
    op.action.type ∈ envelope.irreversibleActionTypes →
      ∀ label ∈ op.provenance, label.untrusted = false
  secret : ∀ secret, op.action.secretReference = some secret →
    envelope.allowedSecretReferences = [] ∨ secret.referenceId ∈ envelope.allowedSecretReferences
  fileNames : ∀ upload, op.action.uploadAuthorization = some upload →
    envelope.allowedFileNames = [] ∨
      ∀ file ∈ upload.filePaths, file.name ∈ envelope.allowedFileNames
  fileBytes : op.action.uploadAuthorization.isSome →
    ∀ limit, envelope.maxUploadBytes = some limit →
      ∃ total, input.uploadBytes = some total ∧ total ≤ limit

end AuthorityEnvelope

/-! ## The checks as a list -/

section Checks

variable (envelope : AuthorityEnvelope codec) (op : Operation) (input : DecisionInput)

/-- The checks of `decide` in the order of the code. -/
def firewallChecks : List (Check (FirewallOutcome × String × String)) :=
  let action := op.action
  let origin := origin codec (decisionUrl op input).toList
  let irreversible := envelope.irreversibleActionTypes.contains action.type
  let frameTargeted := action.frame.isSome || !action.framePath.isEmpty
  [⟨envelope.expiresAtMs.any (· ≤ input.nowMs),
      (.authorityExpired, "expires_at_ms", "authority envelope expired")⟩,
    ⟨op.provenance.any (·.privileged),
      (.provenancePolicyRejected, "planner_provenance",
        "privileged provenance must be attached by a host execution boundary")⟩,
    ⟨origin = [],
      (.originNotAllowed, "network_origin", "governed actions require an http(s) origin")⟩,
    ⟨envelope.maxActionCount.any (· ≤ input.actionCount),
      (.sideEffectBudgetExceeded, "max_action_count", "action budget exhausted")⟩,
    ⟨irreversible && envelope.maxSideEffectCount.any (· ≤ input.sideEffectCount),
      (.sideEffectBudgetExceeded, "max_side_effect_count", "side-effect budget exhausted")⟩,
    ⟨!envelope.deniedOrigins.isEmpty && matchesOrigin codec origin envelope.deniedOrigins,
      (.originNotAllowed, "denied_origins", "origin is denied")⟩,
    ⟨!envelope.allowedOrigins.isEmpty && !matchesOrigin codec origin envelope.allowedOrigins,
      (.originNotAllowed, "allowed_origins", "origin is not allow-listed")⟩,
    ⟨envelope.deniedActionTypes.contains action.type,
      (.actionNotAllowed, "denied_action_types", "action type is denied")⟩,
    ⟨!envelope.allowedActionTypes.isEmpty && !envelope.allowedActionTypes.contains action.type,
      (.actionNotAllowed, "allowed_action_types", "action type is not allow-listed")⟩,
    ⟨frameTargeted && !envelope.allowFrameActions,
      (.policyRejected, "frame_actions",
        "frame-targeted actions require explicit host authorization")⟩,
    ⟨frameTargeted && origin = [],
      (.policyRejected, "frame_origin", "frame origin could not be resolved for authorization")⟩,
    ⟨(envelope.requiredAuthorityByAction.lookup action.type).any fun authority =>
        !envelope.grantedAuthorities.contains authority,
      (.authorityInsufficient, "required_authority_by_action",
        "required authority was not granted")⟩,
    ⟨envelope.denyUntrustedForIrreversible && irreversible && op.provenance.any (·.untrusted),
      (.provenancePolicyRejected, "deny_untrusted_for_irreversible",
        "untrusted provenance cannot authorize an irreversible action")⟩,
    ⟨action.secretReference.any fun secret => !envelope.allowedSecretReferences.isEmpty &&
        !envelope.allowedSecretReferences.contains secret.referenceId,
      (.policyRejected, "allowed_secret_references", "secret reference is not allow-listed")⟩,
    ⟨action.uploadAuthorization.any fun upload => !envelope.allowedFileNames.isEmpty &&
        upload.filePaths.any fun file => !envelope.allowedFileNames.contains file.name,
      (.policyRejected, "allowed_file_names", "upload file is not allow-listed")⟩,
    ⟨action.uploadAuthorization.isSome && envelope.maxUploadBytes.isSome &&
        input.uploadBytes.isNone,
      (.policyRejected, "max_upload_bytes", "upload size cannot be established")⟩,
    ⟨action.uploadAuthorization.isSome && envelope.maxUploadBytes.any fun limit =>
        input.uploadBytes.any (limit < ·),
      (.policyRejected, "max_upload_bytes", "upload exceeds declared size limit")⟩]

theorem firewallRejection_eq :
    firewallRejection envelope op input = firstRejection (firewallChecks envelope op input) := by
  unfold firewallRejection firewallChecks
  simp only [firstRejection, decide_eq_true_eq]

end Checks

/-! ## One constraint at a time -/

section Constraints

variable {envelope : AuthorityEnvelope codec} {op : Operation} {input : DecisionInput}

/-- A limit that is absent or above the count is not exhausted. -/
theorem any_le_eq_false {limit : Option Int} {count : Int} :
    (limit.any (· ≤ count)) = false ↔ ∀ n, limit = some n → count < n := by
  rcases limit with _ | n
  · simp
  · simp

/-- An empty allow-list restricts nothing. -/
theorem restricts_eq_false {α : Type} {allowed : List α} {listed : Bool} :
    (!allowed.isEmpty && !listed) = false ↔ allowed = [] ∨ listed = true := by
  rcases allowed with _ | ⟨a, allowed⟩
  · simp
  · simp

theorem matchesOrigin_eq_true {origin : List Char} {patterns : List (List Char)} :
    matchesOrigin codec origin patterns = true ↔
      ∃ pattern ∈ patterns, matchesPattern codec origin pattern = true := by
  unfold matchesOrigin
  exact List.any_eq_true

theorem denies_eq_false {origin : List Char} {patterns : List (List Char)} :
    (!patterns.isEmpty && matchesOrigin codec origin patterns) = false ↔
      ∀ pattern ∈ patterns, matchesPattern codec origin pattern = false := by
  unfold matchesOrigin
  rcases patterns with _ | ⟨pattern, patterns⟩
  · simp
  · simp

/-- An origin is that of an http or https URL, or there is none. -/
theorem origin_ne_nil {url : List Char} :
    origin codec url ≠ [] ↔ ∃ scheme host, (scheme = http ∨ scheme = https) ∧
      origin codec url = scheme ++ "://".toList ++ host := by
  constructor
  · intro present
    unfold origin at present ⊢
    split
    · next unsplit => simp [unsplit] at present
    · next parsed isUrl =>
        rw [isUrl] at present
        dsimp only at present ⊢
        split at present
        · exact absurd rfl present
        · next network =>
            rw [not_or] at network
            rw [if_neg (not_or.mpr network)]
            have scheme : lowerAscii parsed.scheme = http ∨ lowerAscii parsed.scheme = https := by
              by_contra other
              exact network.1 (not_or.mp other)
            split at present
            · next encoded port isHost isPort =>
                refine ⟨lowerAscii parsed.scheme,
                  bracketHost (lowerAscii encoded) ++ portSuffix (lowerAscii parsed.scheme) port,
                  scheme, ?_⟩
                simp only [List.append_assoc]
            · exact absurd rfl present
  · rintro ⟨scheme, host, -, eq⟩ empty
    rw [eq] at empty
    simp at empty

theorem frameTargeted_eq_true {action : Action} :
    (action.frame.isSome || !action.framePath.isEmpty) = true ↔ action.FrameTargeted := by
  unfold Action.FrameTargeted
  simp

/-- No check applies exactly when every constraint is met. -/
theorem inert_iff_permits :
    (∀ check ∈ firewallChecks envelope op input, check.applies = false) ↔
      envelope.Permits op input := by
  unfold firewallChecks
  dsimp only
  simp only [List.forall_mem_cons, List.not_mem_nil, false_implies, implies_true, and_true]
  constructor
  · rintro ⟨expiry, claims, network, actions, effects, denied, allowed, deniedType, allowedType,
      frame, -, authority, untrusted, secret, names, measured, size⟩
    have url : origin codec (decisionUrl op input).toList ≠ [] := of_decide_eq_false network
    constructor
    case unexpired => exact any_le_eq_false.mp expiry
    case unprivileged => simpa using claims
    case network => exact origin_ne_nil.mp url
    case actions => exact any_le_eq_false.mp actions
    case sideEffects =>
      intro irreversible
      rw [List.contains_iff_mem.mpr irreversible, Bool.true_and] at effects
      exact any_le_eq_false.mp effects
    case originNotDenied => exact denies_eq_false.mp denied
    case originAllowed =>
      rw [← matchesOrigin_eq_true]
      exact restricts_eq_false.mp allowed
    case typeNotDenied => simpa using deniedType
    case typeAllowed =>
      rw [← List.contains_iff_mem]
      exact restricts_eq_false.mp allowedType
    case frame =>
      intro targeted
      rw [frameTargeted_eq_true.mpr targeted] at frame
      simpa using frame
    case authority =>
      intro required isRequired
      rw [isRequired] at authority
      simpa using authority
    case trusted =>
      intro denies irreversible
      rw [denies, List.contains_iff_mem.mpr irreversible] at untrusted
      simpa using untrusted
    case secret =>
      intro secret_ isSecret
      rw [isSecret] at secret
      rw [← List.contains_iff_mem]
      exact restricts_eq_false.mp secret
    case fileNames =>
      intro upload isUpload
      rw [isUpload] at names
      by_cases open_ : envelope.allowedFileNames = []
      · exact .inl open_
      · exact .inr (by simpa [open_] using names)
    case fileBytes =>
      intro uploads limit isLimit
      rw [uploads, isLimit] at measured size
      rcases isTotal : input.uploadBytes with _ | total
      · rw [isTotal] at measured
        cases measured
      · rw [isTotal] at size
        exact ⟨total, rfl, by simpa using size⟩
  · intro permits
    have url : origin codec (decisionUrl op input).toList ≠ [] := origin_ne_nil.mpr permits.network
    refine ⟨any_le_eq_false.mpr permits.unexpired, by simpa using permits.unprivileged,
      decide_eq_false url, any_le_eq_false.mpr permits.actions, ?_,
      denies_eq_false.mpr permits.originNotDenied, ?_, by simpa using permits.typeNotDenied, ?_, ?_,
      ?_, ?_, ?_, ?_, ?_, ?_, ?_⟩
    · rcases irreversible : envelope.irreversibleActionTypes.contains op.action.type with _ | _
      · rfl
      · exact any_le_eq_false.mpr (permits.sideEffects (List.contains_iff_mem.mp irreversible))
    · apply restricts_eq_false.mpr
      rw [matchesOrigin_eq_true]
      exact permits.originAllowed
    · apply restricts_eq_false.mpr
      rw [List.contains_iff_mem]
      exact permits.typeAllowed
    · rcases targeted : op.action.frame.isSome || !op.action.framePath.isEmpty with _ | _
      · rfl
      · rw [permits.frame (frameTargeted_eq_true.mp targeted)]
        rfl
    · rw [decide_eq_false url, Bool.and_false]
    · rcases isRequired : envelope.requiredAuthorityByAction.lookup op.action.type with _ | required
      · rfl
      · simpa using permits.authority required isRequired
    · rcases denies : envelope.denyUntrustedForIrreversible with _ | _
      · rfl
      · rcases irreversible : envelope.irreversibleActionTypes.contains op.action.type with _ | _
        · rfl
        · simpa using permits.trusted denies (List.contains_iff_mem.mp irreversible)
    · rcases isSecret : op.action.secretReference with _ | secret
      · rfl
      · apply restricts_eq_false.mpr
        rw [List.contains_iff_mem]
        exact permits.secret secret isSecret
    · rcases isUpload : op.action.uploadAuthorization with _ | upload
      · rfl
      · rcases permits.fileNames upload isUpload with open_ | listed
        · simp [open_]
        · simpa using fun _ => listed
    · rcases isUpload : op.action.uploadAuthorization with _ | upload
      · rfl
      · rcases isLimit : envelope.maxUploadBytes with _ | limit
        · rfl
        · obtain ⟨total, isTotal, -⟩ := permits.fileBytes (by rw [isUpload]; rfl) limit isLimit
          rw [isTotal]
          rfl
    · rcases isUpload : op.action.uploadAuthorization with _ | upload
      · rfl
      · rcases isLimit : envelope.maxUploadBytes with _ | limit
        · rfl
        · obtain ⟨total, isTotal, le⟩ := permits.fileBytes (by rw [isUpload]; rfl) limit isLimit
          rw [isTotal]
          simpa using le

theorem report_ne_authorized :
    ∀ check ∈ firewallChecks envelope op input, check.report.1 ≠ .authorized := by
  unfold firewallChecks
  simp

theorem authorized_iff_passes :
    (AuthorityFirewall.decide envelope op input).outcome = .authorized ↔
      firstRejection (firewallChecks envelope op input) = none := by
  unfold AuthorityFirewall.decide
  dsimp only
  rw [firewallRejection_eq]
  constructor
  · intro authorized
    rcases rejection : firstRejection (firewallChecks envelope op input) with _ | report
    · rfl
    · rw [rejection] at authorized
      obtain ⟨check, mem, rfl⟩ := mem_of_firstRejection rejection
      exact absurd authorized (report_ne_authorized check mem)
  · intro passes
    rw [passes]
    rfl

theorem passes_iff_permits :
    firstRejection (firewallChecks envelope op input) = none ↔ envelope.Permits op input := by
  rw [firstRejection_eq_none]
  exact inert_iff_permits

theorem authorized_iff_permits :
    (AuthorityFirewall.decide envelope op input).outcome = .authorized ↔
      envelope.Permits op input :=
  authorized_iff_passes.trans passes_iff_permits

/-- An operation is authorized exactly when the envelope permits it.  The order
of the checks decides which rejection is reported, never whether there is one. -/
theorem decide_authorized_iff (envelope : AuthorityEnvelope codec) (op : Operation)
    (input : DecisionInput) :
    ((AuthorityFirewall.decide envelope op input).outcome = .authorized ↔
      envelope.Permits op input) ∧
    firewallRejection envelope op input = firstRejection (firewallChecks envelope op input) ∧
    ∀ checks, checks.Perm (firewallChecks envelope op input) →
      (firstRejection checks = none ↔ envelope.Permits op input) := by
  refine ⟨authorized_iff_permits, firewallRejection_eq envelope op input, ?_⟩
  intro checks reordered
  exact (firstRejection_perm reordered).trans passes_iff_permits

end Constraints

/-! ## Stricter envelopes -/

/-- An allow-list that leaves no more room: `[]` leaves everything open. -/
def Narrows {α : Type} (strict lax : List α) : Prop := lax = [] ∨ strict ≠ [] ∧ strict ⊆ lax

/-- A limit that leaves no more room: `none` is no limit. -/
def Lowers (strict lax : Option Int) : Prop := ∀ n, lax = some n → ∃ m, strict = some m ∧ m ≤ n

theorem Narrows.refl {α : Type} (allowed : List α) : Narrows allowed allowed := by
  by_cases open_ : allowed = []
  · exact .inl open_
  · exact .inr ⟨open_, List.Subset.refl _⟩

theorem Lowers.refl (limit : Option Int) : Lowers limit limit :=
  fun n isLimit => ⟨n, isLimit, le_refl n⟩

/-- What a narrower allow-list lets through, the wider one does. -/
theorem Narrows.exists {α : Type} {strict lax : List α} (narrows : Narrows strict lax)
    {P : α → Prop} (passes : strict = [] ∨ ∃ a ∈ strict, P a) : lax = [] ∨ ∃ a ∈ lax, P a := by
  rcases narrows with open_ | ⟨restricts, sub⟩
  · exact .inl open_
  · rcases passes with empty | ⟨a, mem, holds⟩
    · exact absurd empty restricts
    · exact .inr ⟨a, sub mem, holds⟩

theorem Narrows.mem {α : Type} {strict lax : List α} (narrows : Narrows strict lax) {a : α}
    (passes : strict = [] ∨ a ∈ strict) : lax = [] ∨ a ∈ lax := by
  rcases narrows with open_ | ⟨restricts, sub⟩
  · exact .inl open_
  · exact .inr (sub (passes.resolve_left restricts))

theorem Lowers.lt {strict lax : Option Int} (lowers : Lowers strict lax) {count count' : Int}
    (more : count ≤ count') (room : ∀ n, strict = some n → count' < n) :
    ∀ n, lax = some n → count < n := by
  intro n isLimit
  obtain ⟨m, isLower, le⟩ := lowers n isLimit
  have := room m isLower
  omega

/-- At least as strict, dimension by dimension. -/
structure AuthorityEnvelope.StricterThan (strict lax : AuthorityEnvelope codec) : Prop where
  granted : strict.grantedAuthorities ⊆ lax.grantedAuthorities
  allowedOrigins : Narrows strict.allowedOrigins lax.allowedOrigins
  deniedOrigins : lax.deniedOrigins ⊆ strict.deniedOrigins
  allowedActionTypes : Narrows strict.allowedActionTypes lax.allowedActionTypes
  deniedActionTypes : lax.deniedActionTypes ⊆ strict.deniedActionTypes
  allowedFileNames : Narrows strict.allowedFileNames lax.allowedFileNames
  allowedSecretReferences : Narrows strict.allowedSecretReferences lax.allowedSecretReferences
  maxUploadBytes : Lowers strict.maxUploadBytes lax.maxUploadBytes
  irreversible : lax.irreversibleActionTypes ⊆ strict.irreversibleActionTypes
  required : ∀ type authority, lax.requiredAuthorityByAction.lookup type = some authority →
    strict.requiredAuthorityByAction.lookup type = some authority
  expiry : Lowers strict.expiresAtMs lax.expiresAtMs
  maxActionCount : Lowers strict.maxActionCount lax.maxActionCount
  maxSideEffectCount : Lowers strict.maxSideEffectCount lax.maxSideEffectCount
  denyUntrusted : lax.denyUntrustedForIrreversible = true →
    strict.denyUntrustedForIrreversible = true
  frames : strict.allowFrameActions = true → lax.allowFrameActions = true

theorem AuthorityEnvelope.StricterThan.refl (envelope : AuthorityEnvelope codec) :
    envelope.StricterThan envelope where
  granted := List.Subset.refl _
  allowedOrigins := Narrows.refl _
  deniedOrigins := List.Subset.refl _
  allowedActionTypes := Narrows.refl _
  deniedActionTypes := List.Subset.refl _
  allowedFileNames := Narrows.refl _
  allowedSecretReferences := Narrows.refl _
  maxUploadBytes := Lowers.refl _
  irreversible := List.Subset.refl _
  required _ _ declared := declared
  expiry := Lowers.refl _
  maxActionCount := Lowers.refl _
  maxSideEffectCount := Lowers.refl _
  denyUntrusted denies := denies
  frames allows := allows

/-- A later decision on the same page, files and URLs. -/
structure DecisionInput.Later (before after : DecisionInput) : Prop where
  currentUrl : after.currentUrl = before.currentUrl
  effectiveUrl : after.effectiveUrl = before.effectiveUrl
  uploadBytes : after.uploadBytes = before.uploadBytes
  nowMs : before.nowMs ≤ after.nowMs
  actionCount : before.actionCount ≤ after.actionCount
  sideEffectCount : before.sideEffectCount ≤ after.sideEffectCount

theorem DecisionInput.Later.refl (input : DecisionInput) : input.Later input :=
  ⟨rfl, rfl, rfl, le_refl _, le_refl _, le_refl _⟩

section Monotone

variable {strict lax : AuthorityEnvelope codec} {op : Operation} {labels : List ProvenanceClass}
  {before after : DecisionInput}

theorem decisionUrl_later (later : before.Later after) :
    decisionUrl { op with provenance := labels } after = decisionUrl op before := by
  unfold decisionUrl
  rw [later.currentUrl, later.effectiveUrl]

/-- What a stricter envelope permits later and with more provenance, a laxer one
permits now. -/
theorem permits_of_stricter (stricter : strict.StricterThan lax) (later : before.Later after)
    (more : op.provenance ⊆ labels)
    (permits : strict.Permits { op with provenance := labels } after) :
    lax.Permits op before := by
  have url : decisionUrl { op with provenance := labels } after = decisionUrl op before :=
    decisionUrl_later later
  constructor
  case unexpired => exact stricter.expiry.lt later.nowMs permits.unexpired
  case unprivileged =>
    intro label mem
    exact permits.unprivileged label (more mem)
  case network =>
    rw [← url]
    exact permits.network
  case actions => exact stricter.maxActionCount.lt later.actionCount permits.actions
  case sideEffects =>
    intro irreversible
    exact stricter.maxSideEffectCount.lt later.sideEffectCount
      (permits.sideEffects (stricter.irreversible irreversible))
  case originNotDenied =>
    intro pattern mem
    rw [← url]
    exact permits.originNotDenied pattern (stricter.deniedOrigins mem)
  case originAllowed =>
    rw [← url]
    exact stricter.allowedOrigins.exists permits.originAllowed
  case typeNotDenied =>
    intro mem
    exact permits.typeNotDenied (stricter.deniedActionTypes mem)
  case typeAllowed => exact stricter.allowedActionTypes.mem permits.typeAllowed
  case frame =>
    intro targeted
    exact stricter.frames (permits.frame targeted)
  case authority =>
    intro required isRequired
    exact stricter.granted (permits.authority required (stricter.required _ _ isRequired))
  case trusted =>
    intro denies irreversible label mem
    exact permits.trusted (stricter.denyUntrusted denies) (stricter.irreversible irreversible) label
      (more mem)
  case secret =>
    intro secret isSecret
    exact stricter.allowedSecretReferences.mem (permits.secret secret isSecret)
  case fileNames =>
    intro upload isUpload
    rcases stricter.allowedFileNames with open_ | ⟨restricts, sub⟩
    · exact .inl open_
    · have listed := (permits.fileNames upload isUpload).resolve_left restricts
      exact .inr fun file mem => sub (listed file mem)
  case fileBytes =>
    intro uploads limit isLimit
    obtain ⟨lower, isLower, le⟩ := stricter.maxUploadBytes limit isLimit
    obtain ⟨total, measured, within⟩ := permits.fileBytes uploads lower isLower
    refine ⟨total, ?_, by omega⟩
    rw [← later.uploadBytes]
    exact measured

end Monotone

/-- A rejection stands under a stricter envelope; higher counts, a later clock
and more provenance do not lift it either. -/
theorem decide_antitone (lax : AuthorityEnvelope codec) (op : Operation) (before : DecisionInput)
    (rejected : (AuthorityFirewall.decide lax op before).outcome ≠ .authorized) :
    (∀ strict : AuthorityEnvelope codec, strict.StricterThan lax →
      (AuthorityFirewall.decide strict op before).outcome ≠ .authorized) ∧
    (∀ after labels, before.Later after → op.provenance ⊆ labels →
      (AuthorityFirewall.decide lax { op with provenance := labels } after).outcome ≠
        .authorized) ∧
    ∀ strict : AuthorityEnvelope codec, strict.StricterThan lax →
      ∀ after labels, before.Later after → op.provenance ⊆ labels →
        (AuthorityFirewall.decide strict { op with provenance := labels } after).outcome ≠
          .authorized := by
  have both : ∀ strict : AuthorityEnvelope codec, strict.StricterThan lax →
      ∀ after labels, before.Later after → op.provenance ⊆ labels →
        (AuthorityFirewall.decide strict { op with provenance := labels } after).outcome ≠
          .authorized := by
    intro strict stricter after labels later more authorized
    have permits := authorized_iff_permits.mp authorized
    exact rejected (authorized_iff_permits.mpr (permits_of_stricter stricter later more permits))
  refine ⟨?_, both lax (.refl lax), both⟩
  intro strict stricter
  exact both strict stricter before op.provenance (.refl before) (List.Subset.refl _)

/-- A policy that denies clicks. -/
def noClicks : AuthorityEnvelope asciiCodec where
  policyId := "host-policy"
  deniedActionTypes := [.click]
  valid := by decide +kernel

/-- The same policy without an open end. -/
def noClicksUntil : AuthorityEnvelope asciiCodec where
  policyId := "host-policy"
  deniedActionTypes := [.click]
  expiresAtMs := some 1000
  valid := by decide +kernel

def clickOn (url : String) : Operation where
  operationId := "op-1"
  url
  action := { type := .click, locator := some { strategy := .css, value := "#send" } }

theorem decide_antitone_noClicks :
    (AuthorityFirewall.decide noClicksUntil (clickOn "https://example.com")
      { nowMs := 0, actionCount := 0, sideEffectCount := 0 }).outcome ≠ .authorized := by
  have rejected : (AuthorityFirewall.decide noClicks (clickOn "https://example.com")
      { nowMs := 0, actionCount := 0, sideEffectCount := 0 }).outcome ≠ .authorized := by
    decide +kernel
  have stricter : noClicksUntil.StricterThan noClicks :=
    { AuthorityEnvelope.StricterThan.refl noClicks with
      expiry := fun _ limit => by cases limit }
  exact (decide_antitone noClicks _ _ rejected).1 noClicksUntil stricter

end Dingdongditch
