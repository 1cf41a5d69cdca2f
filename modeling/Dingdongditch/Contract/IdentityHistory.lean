import Dingdongditch.Contract.ChainSealing
import Dingdongditch.Contract.Identity
import Dingdongditch.Interaction.Scripted

/-!
# What an identity registry trusts over time

A call of the registry enters a descriptor, revokes an identity, or leaves the
registry as it was.  What the registry holds is therefore a function of the calls
that completed (`Reflects`), and an assertion is accepted for the highest version
that was ever registered or for none (`registry_monotone`).
-/

namespace Dingdongditch

open Text Interaction Identity

namespace IdentityRegistry

variable {F : Type} [Floating F] {host : IdentityHost F} {registry registry' : IdentityRegistry}

/-! ## One call -/

/-- The registry with a descriptor entered. -/
def enter (registry : IdentityRegistry) (identity : AgentIdentity) : IdentityRegistry where
  identities := assign registry.identities identity.identityId identity
  revoked :=
    if identity.status = .revoked then insert identity.identityId registry.revoked
    else registry.revoked

/-- A check either raises, or passes on. -/
theorem runs_checked {α : Type} {x : Except IdentityError Unit} {f : Unit → RegistryAct α}
    {t : Trace ClockSig} {r : Except IdentityError α}
    (run : Act.Runs (Act.ofExcept x >>= f) registry t r registry') :
    (∃ e, r = .error e ∧ registry' = registry) ∨
      x = .ok () ∧ Act.Runs (f ()) registry t r registry' := by
  rcases run.ofExcept_bind_inv with ⟨e, -, -, raised, same⟩ | ⟨u, passed, rest⟩
  · exact .inl ⟨e, raised, same⟩
  · exact .inr ⟨passed, rest⟩

theorem reject_eq_ok {bad : Bool} {message : IdentityError} :
    Identity.reject bad message = .ok () ↔ bad = false := by
  cases bad with
  | true => exact ⟨(nomatch ·), (nomatch ·)⟩
  | false => exact ⟨fun _ => rfl, fun _ => rfl⟩

/-- `register` enters a descriptor whose version is new, or changes nothing. -/
theorem register_runs {identity : AgentIdentity} {t : Trace ClockSig} {r : Except IdentityError Unit}
    (run : Act.Runs (register identity) registry t r registry') :
    (∃ e, r = .error e ∧ registry' = registry) ∨
      r = .ok () ∧ registry' = registry.enter identity ∧
        ∀ current, registry.identities.lookup identity.identityId = some current →
          current.version < identity.version := by
  rcases runs_checked run with failed | ⟨-, run⟩
  · exact .inl failed
  have run := run.get_bind_inv
  rcases runs_checked run with failed | ⟨-, run⟩
  · exact .inl failed
  rcases runs_checked run with failed | ⟨newer, run⟩
  · exact .inl failed
  have increases : ∀ current, registry.identities.lookup identity.identityId = some current →
      current.version < identity.version := by
    intro current found
    have passed := reject_eq_ok.mp newer
    simp only [found, Option.any_some, decide_eq_false_iff_not] at passed
    omega
  refine .inr ?_
  have run := run.modify_bind_inv
  split at run
  · next isRevoked =>
      obtain ⟨-, done, entered⟩ := Act.runs_modifyGet.mp run
      refine ⟨done, ?_, increases⟩
      rw [entered, enter, if_pos isRevoked]
  · next notRevoked =>
      obtain ⟨-, done, entered⟩ := Act.runs_pure.mp run
      refine ⟨done, ?_, increases⟩
      rw [entered, enter, if_neg notRevoked]

/-- `revoke` marks a registered identity, or changes nothing. -/
theorem revoke_runs {identityId : String} {t : Trace ClockSig} {r : Except IdentityError Unit}
    (run : Act.Runs (revoke identityId) registry t r registry') :
    (∃ e, r = .error e ∧ registry' = registry) ∨
      r = .ok () ∧ registry' = { registry with revoked := insert identityId registry.revoked } := by
  rcases runs_checked run with failed | ⟨-, run⟩
  · exact .inl failed
  have run := run.get_bind_inv
  rcases runs_checked run with failed | ⟨-, run⟩
  · exact .inl failed
  obtain ⟨-, done, marked⟩ := Act.runs_modifyGet.mp run
  exact .inr ⟨done, marked⟩

/-- What an accepted assertion shows of the identity it is accepted for. -/
structure Trusts (host : IdentityHost F) (registry : IdentityRegistry) (a : IdentityAssertion)
    (controllerId : Option String) (now : Int) (identity : AgentIdentity) : Prop where
  wellFormed : a.validate = .ok ()
  registered : registry.identities.lookup a.identityId = some identity
  unrevoked : a.identityId ∉ registry.revoked
  active : identity.status = .active
  version : a.identityVersion = identity.version
  current : a.issuedAtMs ≤ now ∧ now < a.expiresAtMs
  scope : a.controllerScope = none ∨ a.controllerScope = controllerId
  signed : ∃ key, identity.keys.find? (·.keyId = a.keyId) = some key ∧
    signatureValid host key a = true

theorem checkAssertion_ok {identity accepted : AgentIdentity} {a : IdentityAssertion}
    {controllerId : Option String} {now : Int}
    (checked : checkAssertion host identity a controllerId now = .ok accepted) :
    accepted = identity ∧ (a.issuedAtMs ≤ now ∧ now < a.expiresAtMs) ∧
      (a.controllerScope = none ∨ a.controllerScope = controllerId) ∧
      ∃ key, identity.keys.find? (·.keyId = a.keyId) = some key ∧
        signatureValid host key a = true := by
  obtain ⟨inTime, checked⟩ := SignedPlan.reject_ok checked
  obtain ⟨inScope, checked⟩ := SignedPlan.reject_ok checked
  simp only [Bool.or_eq_false_iff, decide_eq_false_iff_not] at inTime
  have timely : a.issuedAtMs ≤ now ∧ now < a.expiresAtMs := by omega
  have scope : a.controllerScope = none ∨ a.controllerScope = controllerId := by
    cases required : a.controllerScope with
    | none => exact .inl rfl
    | some scope => simpa [required] using inScope
  split at checked
  · cases checked
  · next key found =>
      obtain ⟨signed, same⟩ := SignedPlan.reject_ok checked
      have verifies : signatureValid host key a = true := by simpa using signed
      exact ⟨(Except.ok.inj same).symm, timely, scope, key, found, verifies⟩

/-- `verify` changes nothing, and returns an identity that the assertion shows. -/
theorem verify_runs {a : IdentityAssertion} {controllerId : Option String} {nowMs : Option Int}
    {t : Trace ClockSig} {r : Except IdentityError AgentIdentity}
    (run : Act.Runs (verify host a controllerId nowMs) registry t r registry') :
    registry' = registry ∧
      ∀ identity, r = .ok identity → ∃ now, Trusts host registry a controllerId now identity := by
  have refused : (∃ e, r = .error e ∧ registry' = registry) → registry' = registry ∧
      ∀ identity, r = .ok identity → ∃ now, Trusts host registry a controllerId now identity := by
    rintro ⟨e, raised, same⟩
    refine ⟨same, ?_⟩
    intro identity accepted
    rw [raised] at accepted
    cases accepted
  rcases runs_checked run with failed | ⟨wellFormed, run⟩
  · exact refused failed
  have run := run.get_bind_inv
  split at run
  · obtain ⟨-, raised, same⟩ := Act.runs_throw.mp run
    exact refused ⟨_, raised, same⟩
  · next identity registered =>
      rcases runs_checked run with failed | ⟨trusted, run⟩
      · exact refused failed
      rcases runs_checked run with failed | ⟨fresh, run⟩
      · exact refused failed
      have trusted := reject_eq_ok.mp trusted
      have fresh := reject_eq_ok.mp fresh
      simp only [Bool.or_eq_false_iff, decide_eq_false_iff_not] at trusted fresh
      have active : identity.status = .active := by
        cases status : identity.status with
        | active => rfl
        | revoked => exact absurd status trusted.2
      -- the time is read, or given
      have checked : ∃ now t', Act.Runs
          (Act.ofExcept (checkAssertion host identity a controllerId now) : RegistryAct AgentIdentity)
          registry t' r registry' := by
        cases nowMs with
        | none =>
            obtain ⟨now, rest, -, run⟩ := run.ask_bind_inv
            exact ⟨now, rest, run⟩
        | some now => exact ⟨now, t, run⟩
      obtain ⟨now, t', run⟩ := checked
      obtain ⟨-, outcome, same⟩ := Act.runs_ofExcept.mp run
      refine ⟨same, ?_⟩
      intro accepted isOk
      rw [outcome] at isOk
      obtain ⟨rfl, timely, scope, signed⟩ := checkAssertion_ok isOk
      exact ⟨now, wellFormed, registered, trusted.1, active, by simpa using fresh, timely, scope,
        signed⟩

/-! ## Whole runs -/

/-- A call of a registry that ran to its end. -/
abbrev Step (host : IdentityHost F) : Type := (component host).Step

/-- The descriptor that a call enters. -/
def Step.registers : Step host → Option AgentIdentity
  | ⟨.register identity, _, _, .ok _, _, _⟩ => some identity
  | _ => none

/-- The identity that a call revokes: by `revoke`, or by a revoked descriptor. -/
def Step.revokes : Step host → Option String
  | ⟨.register identity, _, _, .ok _, _, _⟩ =>
      if identity.status = .revoked then some identity.identityId else none
  | ⟨.revoke identityId, _, _, .ok _, _, _⟩ => some identityId
  | _ => none

/-- The assertion that a call accepts, and the identity it is accepted for. -/
def Step.accepts : Step host → Option (IdentityAssertion × AgentIdentity)
  | ⟨.verify a _ _, _, _, .ok identity, _, _⟩ => some (a, identity)
  | _ => none

/-- A call that raised. -/
def Step.Fails (step : Step host) : Prop := step.outcome.isOk = false

/-- What a registry holds, in terms of the calls so far: the highest version of each
identity that was registered, and the identities that were revoked. -/
structure Reflects (past : List (Step host)) (registry : IdentityRegistry) : Prop where
  latest : ∀ identityId identity, registry.identities.lookup identityId = some identity →
    identity.identityId = identityId ∧ identity ∈ past.filterMap Step.registers ∧
      ∀ other ∈ past.filterMap Step.registers, other.identityId = identityId →
        other.version ≤ identity.version
  known : ∀ identity ∈ past.filterMap Step.registers,
    (registry.identities.lookup identity.identityId).isSome = true
  revoked : ∀ identityId, identityId ∈ registry.revoked ↔
    identityId ∈ past.filterMap Step.revokes

namespace Reflects

variable {past : List (Step host)} {step : Step host}

theorem nil : Reflects ([] : List (Step host)) {} where
  latest _ _ found := nomatch found
  known _ mem := nomatch mem
  revoked _ := ⟨fun mem => absurd mem (Finset.notMem_empty _), fun mem => nomatch mem⟩

/-- A call that enters and revokes nothing. -/
theorem idle (reflects : Reflects past registry) (noEntry : step.registers = none)
    (noRevocation : step.revokes = none) : Reflects (past ++ [step]) registry := by
  have entered : (past ++ [step]).filterMap Step.registers = past.filterMap Step.registers := by
    simp [noEntry]
  have marked : (past ++ [step]).filterMap Step.revokes = past.filterMap Step.revokes := by
    simp [noRevocation]
  constructor
  · rw [entered]
    exact reflects.latest
  · rw [entered]
    exact reflects.known
  · rw [marked]
    exact reflects.revoked

/-- A call that marks an identity. -/
theorem revoke {identityId : String} (reflects : Reflects past registry)
    (noEntry : step.registers = none) (marks : step.revokes = some identityId) :
    Reflects (past ++ [step]) { registry with revoked := insert identityId registry.revoked } := by
  have entered : (past ++ [step]).filterMap Step.registers = past.filterMap Step.registers := by
    simp [noEntry]
  have marked : (past ++ [step]).filterMap Step.revokes =
      past.filterMap Step.revokes ++ [identityId] := by
    simp [marks]
  constructor
  · rw [entered]
    exact reflects.latest
  · rw [entered]
    exact reflects.known
  · intro other
    rw [marked, Finset.mem_insert, List.mem_append, List.mem_singleton, reflects.revoked other]
    exact or_comm

/-- A call that enters a descriptor with a new version. -/
theorem enter {identity : AgentIdentity} (reflects : Reflects past registry)
    (enters : step.registers = some identity)
    (marks : step.revokes = if identity.status = .revoked then some identity.identityId else none)
    (increases : ∀ current, registry.identities.lookup identity.identityId = some current →
      current.version < identity.version) :
    Reflects (past ++ [step]) (registry.enter identity) := by
  have entered : (past ++ [step]).filterMap Step.registers =
      past.filterMap Step.registers ++ [identity] := by
    simp [enters]
  have found : ∀ identityId, (registry.enter identity).identities.lookup identityId =
      if identityId = identity.identityId then some identity
      else registry.identities.lookup identityId := fun identityId =>
    lookup_assign _ _ _ _
  constructor
  · intro identityId held isHeld
    rw [found] at isHeld
    rw [entered]
    by_cases same : identityId = identity.identityId
    · subst same
      rw [if_pos rfl] at isHeld
      obtain rfl := Option.some.inj isHeld
      refine ⟨rfl, List.mem_append_right _ (List.mem_singleton_self _), ?_⟩
      intro other mem sameId
      rcases List.mem_append.mp mem with earlier | now
      · -- an earlier version of the same identity is at most the one replaced
        have isKnown := reflects.known other earlier
        rw [sameId] at isKnown
        obtain ⟨current, isCurrent⟩ := Option.isSome_iff_exists.mp isKnown
        have bound := (reflects.latest _ _ isCurrent).2.2 other earlier sameId
        have := increases current isCurrent
        omega
      · rw [List.mem_singleton.mp now]
    · rw [if_neg same] at isHeld
      obtain ⟨named, mem, highest⟩ := reflects.latest _ _ isHeld
      refine ⟨named, List.mem_append_left _ mem, ?_⟩
      intro other otherMem sameId
      rcases List.mem_append.mp otherMem with earlier | now
      · exact highest other earlier sameId
      · rw [List.mem_singleton.mp now] at sameId
        exact absurd sameId.symm same
  · intro other mem
    rw [entered] at mem
    rw [found]
    split
    · rfl
    · next differs =>
        rcases List.mem_append.mp mem with earlier | now
        · exact reflects.known other earlier
        · rw [List.mem_singleton.mp now] at differs
          exact absurd rfl differs
  · intro identityId
    by_cases isRevoked : identity.status = .revoked
    · rw [if_pos isRevoked] at marks
      simp [IdentityRegistry.enter, isRevoked, marks, reflects.revoked, or_comm]
    · rw [if_neg isRevoked] at marks
      simp [IdentityRegistry.enter, isRevoked, marks, reflects.revoked]

/-- The step lemma: one case for each way a call can end. -/
theorem call (past : List (Step host)) (step : Step host) (reflects : Reflects past step.before) :
    Reflects (past ++ [step]) step.after := by
  rcases step with ⟨method, before, t, outcome, after, run⟩
  cases method with
  | register identity =>
      rcases register_runs run with ⟨e, rfl, rfl⟩ | ⟨rfl, rfl, increases⟩
      · exact reflects.idle rfl rfl
      · exact reflects.enter rfl rfl increases
  | revoke identityId =>
      rcases revoke_runs run with ⟨e, rfl, rfl⟩ | ⟨rfl, rfl⟩
      · exact reflects.idle rfl rfl
      · exact reflects.revoke rfl rfl
  | verify a controllerId nowMs =>
      obtain ⟨rfl, -⟩ := verify_runs run
      exact reflects.idle rfl rfl

end Reflects

/-- A call that raises leaves the registry as it was. -/
theorem Step.Fails.unchanged {step : Step host} (fails : step.Fails) : step.after = step.before := by
  rcases step with ⟨method, before, t, outcome, after, run⟩
  cases method with
  | register identity =>
      rcases register_runs run with ⟨e, -, same⟩ | ⟨rfl, -, -⟩
      · exact same
      · cases fails
  | revoke identityId =>
      rcases revoke_runs run with ⟨e, -, same⟩ | ⟨rfl, -⟩
      · exact same
      · cases fails
  | verify a controllerId nowMs => exact (verify_runs run).1

theorem Step.accepts_trusts {step : Step host} {a : IdentityAssertion} {identity : AgentIdentity}
    (accepts : Step.accepts step = some (a, identity)) :
    ∃ controllerId now, Trusts host step.before a controllerId now identity := by
  rcases step with ⟨method, before, t, outcome, after, run⟩
  cases method with
  | register _ => cases accepts
  | revoke _ => cases accepts
  | verify a' controllerId nowMs =>
      cases outcome with
      | error _ => cases accepts
      | ok identity' =>
          cases accepts
          obtain ⟨now, trusts⟩ := (verify_runs run).2 identity rfl
          exact ⟨controllerId, now, trusts⟩

/-- An assertion is accepted only for the highest version that was registered of the
identity that it names, which is active and was never revoked; a call that raises
leaves every later answer as it was. -/
structure Monotone (steps : List (Step host)) : Prop where
  accepted : ∀ earlier step later, steps = earlier ++ step :: later →
    ∀ a identity, Step.accepts step = some (a, identity) →
      identity ∈ earlier.filterMap Step.registers ∧ identity.identityId = a.identityId ∧
      identity.version = a.identityVersion ∧ identity.status = .active ∧
      (∀ other ∈ earlier.filterMap Step.registers, other.identityId = a.identityId →
        other.version ≤ a.identityVersion) ∧
      a.identityId ∉ earlier.filterMap Step.revokes
  unchanged : ∀ step ∈ steps, Step.Fails step → step.after = step.before

theorem registry_monotone {steps : List (Step host)} (run : (component host).Run {} steps registry) :
    Monotone steps where
  accepted := by
    intro earlier step later split a identity accepts
    have reflects := (run.history Reflects.call Reflects.nil).1 earlier step later split
    obtain ⟨controllerId, now, trusts⟩ := Step.accepts_trusts accepts
    obtain ⟨named, mem, highest⟩ := reflects.latest _ _ trusts.registered
    refine ⟨mem, named, trusts.version.symm, trusts.active, ?_, ?_⟩
    · intro other otherMem sameId
      rw [trusts.version]
      exact highest other otherMem sameId
    · intro revoked
      exact trusts.unrevoked ((reflects.revoked _).mpr revoked)
  unchanged _ _ fails := fails.unchanged

/-! ## A rotation and a revocation -/

/-- A host whose keys signed what carries 64 bytes. -/
def rotationHost : IdentityHost (Fin 10) where
  hashing := ReceiptChain.textHashing (Fin 10)
  verifies _ signature _ := signature.length = 64

def rotated (version : Int) : AgentIdentity where
  identityId := "agent"
  ownerId := "owner"
  issuerId := "issuer"
  createdAtMs := 0
  version := version
  keys := [{ keyId := "primary", publicKey := "AAAAAAAAAAAAAAAAAAAAAAAAAAAAAAAAAAAAAAAAAAA" }]

def rotatedAssertion (version : Int) : IdentityAssertion where
  identityId := "agent"
  identityVersion := version
  keyId := "primary"
  issuedAtMs := 0
  expiresAtMs := 100
  assertionId := "a1"
  signature :=
    "AAAAAAAAAAAAAAAAAAAAAAAAAAAAAAAAAAAAAAAAAAAAAAAAAAAAAAAAAAAAAAAAAAAAAAAAAAAAAAAAAAAAAA"

/-- The first version is accepted, then the second only, and none once the identity
is revoked, though a third is registered. -/
def rotation : List Method := [
  .register (rotated 1), .verify (rotatedAssertion 1) none none,
  .register (rotated 2), .verify (rotatedAssertion 1) none none,
  .register (rotated 1), .verify (rotatedAssertion 2) none (some 10),
  .revoke "agent", .verify (rotatedAssertion 2) none none,
  .register (rotated 3), .verify (rotatedAssertion 3) none none]

theorem registry_monotone_rotation : ∃ steps registry, (component rotationHost).Run {} steps registry ∧
    steps.map (·.outcome.isOk) = [true, true, true, false, false, true, true, false, true, false] ∧
    Monotone steps := by
  obtain ⟨steps, registry, run, -, shown⟩ := Component.exists_run (C := component rotationHost)
    (fun (clock : Int) _ => (clock, clock + 1)) rotation {} 0
    (fun steps _ => steps.map (·.outcome.isOk) =
      [true, true, true, false, false, true, true, false, true, false])
    (by decide +kernel)
  exact ⟨steps, registry, run, of_decide_eq_true shown, registry_monotone run⟩

end IdentityRegistry

end Dingdongditch
