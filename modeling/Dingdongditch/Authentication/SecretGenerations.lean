import Dingdongditch.Contract.Operation
import Dingdongditch.Interaction.Clients
import Std.Data.String.ToNat

/-!
# The generations of a secret

`MappingSecretProvider`: a binding names the generation of the value that a secret had
when it was bound, and every rotation begins a new generation.  Each section under the
lock of the provider is one step; `resolve_bound` has two of them, the check of the
binding and the lookup of the value.

Between the sections of one thread the others do what they please.  A binding that passes
its check is of the value that is stored then, whatever was rotated or cleared before
(`IssuedBefore.current`); so a value that is resolved under it is the one that was bound,
or the secret was rotated between the check and the lookup (`resolves_bound_value`).
-/

namespace Dingdongditch.Secrets

open Interaction Text

/-! ## The provider -/

/-- `_values` and `_generation` -/
structure MappingSecretProvider where
  values : List (String × String)
  generation : List (String × Nat)
  deriving DecidableEq, Repr

def authenticationError (message kind : String) : PyException :=
  ⟨.authenticationError, message, some kind⟩

/-- `SecretReference.validate` -/
def validateReference (reference : SecretReference) : Except PyException Unit :=
  if reference.wellFormed then .ok ()
  else .error (authenticationError "secret reference is invalid" "secret_reference_invalid")

/-- `SecretBinding.validate` -/
def validateBinding (binding : SecretBinding) : Except PyException Unit := do
  validateReference ⟨binding.referenceId⟩
  if SecretReference.wellFormed ⟨binding.providerId⟩ &&
      SecretReference.wellFormed ⟨binding.generationId⟩ then .ok ()
  else .error (authenticationError "secret provider returned an invalid opaque binding"
    "secret_binding_unavailable")

/-- A dictionary lookup of a key that it may lack. -/
def item {α : Type} (entries : List (String × α)) (key : String) : Except PyException α :=
  match entries.lookup key with
  | some value => .ok value
  | none => .error ⟨.other, key, none⟩

namespace MappingSecretProvider

/-- `__init__` -/
def make (values : List (String × String)) : MappingSecretProvider where
  values := values
  generation := values.map fun entry => (entry.1, 1)

/-- The label of a generation. -/
def generationId (generation : Nat) : String := "g-" ++ toString generation

variable (providerId : String) (provider : MappingSecretProvider)

/-- `get` -/
def get (name : String) : Except PyException String :=
  match provider.values.lookup name with
  | some value => .ok value
  | none => .error (authenticationError "requested secret was not provided" "secret_not_found")

/-- `bind` -/
def bind (reference : SecretReference) : Except PyException SecretBinding := do
  validateReference reference
  let _ ← provider.get reference.referenceId
  let generation ← item provider.generation reference.referenceId
  return ⟨reference.referenceId, providerId, generationId generation⟩

/-- `assert_bound` -/
def assertBound (reference : SecretReference) (binding : SecretBinding) : Except PyException Unit := do
  validateReference reference
  validateBinding binding
  let expected ← provider.bind providerId reference
  if binding.referenceId ≠ reference.referenceId ∨ binding.providerId ≠ expected.providerId ∨
      binding.generationId ≠ expected.generationId then
    .error (authenticationError "prepared secret generation is no longer available"
      "secret_binding_changed")
  else .ok ()

/-- `replace` -/
def replace (name value : String) : MappingSecretProvider where
  values := assign provider.values name value
  generation := assign provider.generation name ((provider.generation.lookup name).getD 0 + 1)

/-- `clear` -/
def clear : MappingSecretProvider := { provider with values := [] }

end MappingSecretProvider

/-! ## The sections under the lock -/

/-- The provider calls nothing. -/
def NoCalls : Sig where
  Call := Empty
  Answer := fun c => nomatch c

abbrev Provider : Type → Type := Act NoCalls MappingSecretProvider PyException

inductive Section
  | get (name : String)
  | bind (reference : SecretReference)
  | assertBound (reference : SecretReference) (binding : SecretBinding)
  /-- The lookup of `resolve_bound` -/
  | value (reference : SecretReference)
  | replace (name value : String)
  | clear
  deriving DecidableEq, Repr

@[reducible] def Section.Reply : Section → Type
  | .get _ | .value _ => String
  | .bind _ => SecretBinding
  | .assertBound _ _ | .replace _ _ | .clear => Unit

/-- Read the provider. -/
def reading {α : Type} (f : MappingSecretProvider → Except PyException α) : Provider α := do
  let provider ← get
  Act.ofExcept (f provider)

/-- The provider `providerId`, which any number of threads share. -/
def secretProvider (providerId : String) : Component NoCalls MappingSecretProvider PyException where
  Method := Section
  Reply := Section.Reply
  body
    | .get name => reading (·.get name)
    | .bind reference => reading (·.bind providerId reference)
    | .assertBound reference binding => reading (·.assertBound providerId reference binding)
    | .value reference => reading fun provider => item provider.values reference.referenceId
    | .replace name value => modify (·.replace name value)
    | .clear => modify (·.clear)

variable {providerId : String}

abbrev SecretStep (providerId : String) : Type := (secretProvider providerId).Step

/-- What a thread calls. -/
abbrev ThreadSig (providerId : String) : Sig := (secretProvider providerId).calls.sum NoCalls

abbrev Thread (providerId : String) : Type → Type := Act (ThreadSig providerId) Unit PyException

/-- Enter a section. -/
def enter (method : Section) : Thread providerId method.Reply :=
  Act.attempt (S := ThreadSig providerId) (.inl method) id

/-- `resolve_bound` -/
def resolveBound (reference : SecretReference) (binding : SecretBinding) : Thread providerId String := do
  enter (.assertBound reference binding)
  enter (.value reference)

/-! ## What a section does -/

/-- What a section answers, and the provider it leaves. -/
def answered (providerId : String) (provider : MappingSecretProvider) :
    (method : Section) → Except PyException method.Reply × MappingSecretProvider
  | .get name => (provider.get name, provider)
  | .bind reference => (provider.bind providerId reference, provider)
  | .assertBound reference binding => (provider.assertBound providerId reference binding, provider)
  | .value reference => (item provider.values reference.referenceId, provider)
  | .replace name value => (.ok (), provider.replace name value)
  | .clear => (.ok (), provider.clear)

theorem body_eq (provider : MappingSecretProvider) (method : Section) :
    (secretProvider providerId).body method provider = .done (answered providerId provider method) := by
  have reads {α : Type} (f : MappingSecretProvider → Except PyException α) :
      reading f provider = .done (f provider, provider) := by
    unfold reading
    change Act.ofExcept (f provider) provider = _
    cases f provider with
    | ok a => rfl
    | error e => rfl
  cases method with
  | get | bind | assertBound | value => exact reads _
  | replace | clear => rfl

theorem step_answered (step : SecretStep providerId) :
    (step.outcome, step.after) = answered providerId step.before step.method := by
  have run : Prog.Runs (.done (answered providerId step.before step.method)) step.trace
      (step.outcome, step.after) :=
    (body_eq step.before step.method).subst
      (motive := fun p => Prog.Runs p step.trace (step.outcome, step.after)) step.run
  exact (Prog.runs_done.mp run).2

/-- A rotation of the secret `name` -/
def rotates (name : String) (step : SecretStep providerId) : Bool :=
  match step.method with
  | .replace other _ => other == name
  | _ => false

/-- A section rotates the secret, or leaves its generation and shows no other value of it. -/
theorem step_inv (name : String) (step : SecretStep providerId) :
    (rotates name step = true ∧ ∃ value, step.after = step.before.replace name value) ∨
      rotates name step = false ∧
        step.after.generation.lookup name = step.before.generation.lookup name ∧
        ∀ stored, step.after.values.lookup name = some stored →
          step.before.values.lookup name = some stored := by
  have answer := step_answered step
  obtain ⟨method, before, t, outcome, after, run⟩ := step
  have left : after = (answered providerId before method).2 := congrArg Prod.snd answer
  cases method with
  | get | bind | assertBound | value =>
      obtain rfl : after = before := left
      exact .inr ⟨rfl, rfl, fun _ found => found⟩
  | replace other value =>
      obtain rfl : after = before.replace other value := left
      by_cases same : other = name
      · subst same
        exact .inl ⟨beq_self_eq_true other, value, rfl⟩
      · refine .inr ⟨beq_eq_false_iff_ne.mpr same, ?_, ?_⟩
        · exact (lookup_assign ..).trans (if_neg (Ne.symm same))
        · intro stored found
          exact ((lookup_assign ..).trans (if_neg (Ne.symm same))).symm.trans found
  | clear =>
      obtain rfl : after = before.clear := left
      exact .inr ⟨rfl, rfl, fun _ found => nomatch found⟩

/-! ## What a binding says of the values -/

/-- The binding names the generation of the provider, which has the value `value`. -/
structure Current (providerId : String) (provider : MappingSecretProvider) (reference : SecretReference)
    (binding : SecretBinding) (value : String) : Prop where
  value : provider.values.lookup reference.referenceId = some value
  generation : ∃ n, provider.generation.lookup reference.referenceId = some n ∧
    binding = ⟨reference.referenceId, providerId, MappingSecretProvider.generationId n⟩

theorem item_ok {α : Type} {entries : List (String × α)} {key : String} {value : α}
    (found : item entries key = .ok value) : entries.lookup key = some value := by
  unfold item at found
  split at found
  · next known =>
      obtain rfl := Except.ok.inj found
      exact known
  · cases found

theorem MappingSecretProvider.get_ok {provider : MappingSecretProvider} {name value : String}
    (found : provider.get name = .ok value) : provider.values.lookup name = some value := by
  unfold MappingSecretProvider.get at found
  split at found
  · next known =>
      obtain rfl := Except.ok.inj found
      exact known
  · cases found

theorem MappingSecretProvider.bind_ok {provider : MappingSecretProvider} {reference : SecretReference}
    {binding : SecretBinding} (bound : provider.bind providerId reference = .ok binding) :
    ∃ value, Current providerId provider reference binding value := by
  unfold MappingSecretProvider.bind at bound
  obtain ⟨_, -, bound⟩ := bind_eq_ok.mp bound
  obtain ⟨value, found, bound⟩ := bind_eq_ok.mp bound
  obtain ⟨n, generation, bound⟩ := bind_eq_ok.mp bound
  exact ⟨value, get_ok found, n, item_ok generation, (Except.ok.inj bound).symm⟩

theorem MappingSecretProvider.assertBound_ok {provider : MappingSecretProvider}
    {reference : SecretReference} {binding : SecretBinding}
    (bound : provider.assertBound providerId reference binding = .ok ()) :
    ∃ value, Current providerId provider reference binding value := by
  unfold MappingSecretProvider.assertBound at bound
  obtain ⟨_, -, bound⟩ := bind_eq_ok.mp bound
  obtain ⟨_, -, bound⟩ := bind_eq_ok.mp bound
  obtain ⟨expected, isExpected, bound⟩ := bind_eq_ok.mp bound
  obtain ⟨value, current⟩ := bind_ok isExpected
  split at bound
  · cases bound
  · next same =>
      obtain ⟨n, generation, rfl⟩ := current.generation
      push Not at same
      obtain ⟨sameReference, sameProvider, sameGeneration⟩ := same
      refine ⟨value, current.value, n, generation, ?_⟩
      calc binding = ⟨binding.referenceId, binding.providerId, binding.generationId⟩ := rfl
        _ = ⟨reference.referenceId, providerId, generationId n⟩ := by
          rw [sameReference, sameProvider, sameGeneration]

theorem generationId_injective {m n : Nat}
    (same : MappingSecretProvider.generationId m = MappingSecretProvider.generationId n) : m = n := by
  unfold MappingSecretProvider.generationId at same
  have text := congrArg String.toList same
  rw [String.toList_append, String.toList_append] at text
  exact Nat.repr_injective (String.ext (List.append_cancel_left text))

/-- The secret shows no value but `value`. -/
def Shows (name value : String) (provider : MappingSecretProvider) : Prop :=
  ∀ stored, provider.values.lookup name = some stored → stored = value

/-- The secret `name` had the value `value` in its generation `n`: it shows no other one
in that generation. -/
def IssuedBefore (name : String) (n : Nat) (value : String) (provider : MappingSecretProvider) : Prop :=
  ∃ m, provider.generation.lookup name = some m ∧ n ≤ m ∧ (m = n → Shows name value provider)

/-- A section that does not rotate the secret keeps what it shows. -/
theorem Shows.step {name value : String} {step : SecretStep providerId}
    (quiet : rotates name step = false) (shown : Shows name value step.before) :
    Shows name value step.after := by
  rcases step_inv name step with ⟨rotated, -⟩ | ⟨-, -, kept⟩
  · rw [quiet] at rotated
    cases rotated
  · exact fun stored found => shown stored (kept stored found)

theorem IssuedBefore.step {name value : String} {n : Nat} (step : SecretStep providerId)
    (issued : IssuedBefore name n value step.before) : IssuedBefore name n value step.after := by
  obtain ⟨m, generation, atLeast, shown⟩ := issued
  rcases step_inv name step with ⟨-, other, after⟩ | ⟨quiet, same, -⟩
  · refine ⟨m + 1, ?_, by omega, fun eq => absurd eq (by omega)⟩
    rw [after]
    unfold MappingSecretProvider.replace
    rw [lookup_assign, if_pos rfl, generation]
    rfl
  · exact ⟨m, same.trans generation, atLeast, fun eq => (shown eq).step quiet⟩

theorem Current.issuedBefore {provider : MappingSecretProvider} {reference : SecretReference}
    {binding : SecretBinding} {value : String}
    (current : Current providerId provider reference binding value) :
    ∃ n, binding = ⟨reference.referenceId, providerId, MappingSecretProvider.generationId n⟩ ∧
      IssuedBefore reference.referenceId n value provider := by
  obtain ⟨n, generation, isBinding⟩ := current.generation
  refine ⟨n, isBinding, n, generation, Nat.le_refl n, ?_⟩
  intro _ stored found
  exact Option.some.inj (found.symm.trans current.value)

/-- A binding that is current after all is of the value that it was issued for. -/
theorem IssuedBefore.current {provider : MappingSecretProvider} {reference : SecretReference} {n : Nat}
    {bound value : String} (issued : IssuedBefore reference.referenceId n bound provider)
    (current : Current providerId provider reference
      ⟨reference.referenceId, providerId, MappingSecretProvider.generationId n⟩ value) :
    value = bound := by
  obtain ⟨m, generation, -, shown⟩ := issued
  obtain ⟨now, isNow, same⟩ := current.generation
  have sameGeneration : n = now := generationId_injective (SecretBinding.mk.inj same).2.2
  have isM : m = now := Option.some.inj (generation.symm.trans isNow)
  exact shown (isM.trans sameGeneration.symm) value current.value

/-! ## The sections of `resolve_bound` -/

/-- The section called `method` and answered with `outcome`. -/
def IsSection (step : SecretStep providerId) (method : Section)
    (outcome : Except PyException method.Reply) : Prop :=
  step.event = ⟨method, outcome⟩

theorem IsSection.answered {step : SecretStep providerId} {method : Section}
    {outcome : Except PyException method.Reply} (isSection : IsSection step method outcome) :
    (outcome, step.after) = Secrets.answered providerId step.before method := by
  have answer := step_answered step
  obtain ⟨called, before, t, returned, after, run⟩ := step
  unfold IsSection Component.Step.event at isSection
  cases isSection
  exact answer

/-- `resolve_bound` returns what its lookup found after its check passed. -/
theorem resolveBound_runs {reference : SecretReference} {binding : SecretBinding} {value : String}
    {t : Trace (ThreadSig providerId)}
    (run : Act.Runs (@resolveBound providerId reference binding) () t (.ok value) ()) :
    t = [⟨.inl (.assertBound reference binding), .ok ()⟩,
      ⟨.inl (.value reference), .ok value⟩] := by
  obtain ⟨checked, rest, rfl, ⟨e, -, raised, -⟩ | ⟨_, passed, lookup⟩⟩ := run.attempt_bind_inv
  · cases raised
  · obtain ⟨found, rfl, returned, -⟩ := Act.runs_attempt.mp lookup
    rw [show checked = .ok () from passed, show found = .ok value from returned.symm]

theorem left_injective {S T : Sig} {e e' : Event S}
    (same : (Event.left e : Event (S.sum T)) = Event.left e') : e = e' := by
  obtain ⟨c, answer⟩ := e
  obtain ⟨c', answer'⟩ := e'
  cases same
  rfl

/-! ## Runs -/

section

variable {reference : SecretReference} {binding : SecretBinding} {value : String}
  {s s' : MappingSecretProvider} {issue check lookup : SecretStep providerId}
  {earlier before between later : List (SecretStep providerId)}

/-- After its binding was issued, and until it is rotated again after a check that the
binding passed, a secret has the value that was bound. -/
theorem value_of_binding
    (run : Component.Run (secretProvider providerId) s
      (earlier ++ issue :: (before ++ check :: (between ++ lookup :: later))) s')
    (issued : IsSection issue (.bind reference) (.ok binding))
    (checked : IsSection check (.assertBound reference binding) (.ok ()))
    (found : IsSection lookup (.value reference) (.ok value))
    (quiet : ∀ step ∈ between, rotates reference.referenceId step = false) :
    issue.before.values.lookup reference.referenceId = some value := by
  obtain ⟨_, -, run⟩ := run.split
  cases run with
  | cons _ run =>
  obtain ⟨_, untilCheck, run⟩ := run.split
  cases run with
  | cons _ run =>
  obtain ⟨_, untilLookup, run⟩ := run.split
  cases run with
  | cons _ run =>
  obtain ⟨isIssued, leftByIssue⟩ := Prod.mk.inj issued.answered
  obtain ⟨isChecked, leftByCheck⟩ := Prod.mk.inj checked.answered
  obtain ⟨isFound, -⟩ := Prod.mk.inj found.answered
  obtain ⟨bound, current⟩ := MappingSecretProvider.bind_ok isIssued.symm
  obtain ⟨n, isBinding, start⟩ := current.issuedBefore
  have kept : IssuedBefore reference.referenceId n bound check.before :=
    (untilCheck.holds_before (P := fun _ => True) (fun step _ => IssuedBefore.step step)
      (leftByIssue ▸ start) (fun _ _ => trivial)).2
  obtain ⟨stored, still⟩ := MappingSecretProvider.assertBound_ok isChecked.symm
  have same : stored = bound := kept.current (isBinding ▸ still)
  have shown : Shows reference.referenceId bound check.before :=
    fun other isOther => (Option.some.inj (isOther.symm.trans still.value)).trans same
  have last : Shows reference.referenceId bound lookup.before :=
    (untilLookup.holds_before (fun _ quiet => Shows.step quiet) (leftByCheck ▸ shown) quiet).2
  rw [last value (item_ok isFound.symm)]
  exact current.value

/-- A value that `resolve_bound` returns under a binding is the one that was bound, or the
secret was rotated between its check and its lookup, whatever the other threads did. -/
theorem resolves_bound_value {t : Trace (ThreadSig providerId)}
    (resolved : Act.Runs (@resolveBound providerId reference binding) () t (.ok value) ())
    (run : Component.Run (secretProvider providerId) s
      (earlier ++ issue :: (before ++ check :: (between ++ lookup :: later))) s')
    (issued : IsSection issue (.bind reference) (.ok binding))
    (calls : t = [Event.left check.event, Event.left lookup.event]) :
    issue.before.values.lookup reference.referenceId = some value ∨
      ∃ step ∈ between, rotates reference.referenceId step = true := by
  obtain ⟨isCheck, isLookup⟩ := List.cons.inj (calls.symm.trans (resolveBound_runs resolved))
  have checked : IsSection check (.assertBound reference binding) (.ok ()) := left_injective isCheck
  have found : IsSection lookup (.value reference) (.ok value) :=
    left_injective (List.cons.inj isLookup).1
  by_cases rotated : ∃ step ∈ between, rotates reference.referenceId step = true
  · exact .inr rotated
  · refine .inl (value_of_binding run issued checked found ?_)
    intro step mem
    exact Bool.eq_false_iff.mpr fun isRotation => rotated ⟨step, mem, isRotation⟩

end

/-! ## One vault -/

/-- A call of a section on a provider. -/
def sectionStep (provider : MappingSecretProvider) (method : Section) : SecretStep providerId where
  method := method
  before := provider
  trace := []
  outcome := (answered providerId provider method).1
  after := (answered providerId provider method).2
  run := by
    change Prog.Runs ((secretProvider providerId).body method provider) []
      (answered providerId provider method)
    rw [body_eq]
    exact .done _

def vault : MappingSecretProvider := .make [("password", "hunter2"), ("pin", "1234")]

def vaultBinding : SecretBinding := ⟨"password", "vault", MappingSecretProvider.generationId 1⟩

/-- A binding, a rotation of another secret, and the two sections of `resolve_bound`. -/
def bindPassword : SecretStep "vault" := sectionStep vault (.bind ⟨"password"⟩)

def rotatePin : SecretStep "vault" := sectionStep vault (.replace "pin" "4321")

def checkPassword : SecretStep "vault" :=
  sectionStep rotatePin.after (.assertBound ⟨"password"⟩ vaultBinding)

def lookUpPassword : SecretStep "vault" := sectionStep rotatePin.after (.value ⟨"password"⟩)

theorem bindPassword_section : IsSection bindPassword (.bind ⟨"password"⟩) (.ok vaultBinding) :=
  congrArg (Sigma.mk _) (by decide +kernel : vault.bind "vault" ⟨"password"⟩ = .ok vaultBinding)

theorem checkPassword_section :
    IsSection checkPassword (.assertBound ⟨"password"⟩ vaultBinding) (.ok ()) :=
  congrArg (Sigma.mk _)
    (by decide +kernel : rotatePin.after.assertBound "vault" ⟨"password"⟩ vaultBinding = .ok ())

theorem lookUpPassword_section : IsSection lookUpPassword (.value ⟨"password"⟩) (.ok "hunter2") :=
  congrArg (Sigma.mk _) (by decide +kernel : item rotatePin.after.values "password" = .ok "hunter2")

theorem resolvePassword_runs :
    Act.Runs (@resolveBound "vault" ⟨"password"⟩ vaultBinding) ()
      [⟨.inl (.assertBound ⟨"password"⟩ vaultBinding), .ok ()⟩,
        ⟨.inl (.value ⟨"password"⟩), .ok "hunter2"⟩]
      (.ok "hunter2") () := by
  have checked : Act.Runs (@enter "vault" (.assertBound ⟨"password"⟩ vaultBinding)) ()
    [⟨.inl (.assertBound ⟨"password"⟩ vaultBinding), .ok ()⟩] (.ok ()) () :=
    Act.runs_attempt.mpr ⟨_, rfl, rfl, rfl⟩
  exact checked.bind (Act.runs_attempt.mpr ⟨_, rfl, rfl, rfl⟩)

theorem resolves_bound_value_vault :
    bindPassword.before.values.lookup "password" = some "hunter2" ∨
      ∃ step ∈ ([] : List (SecretStep "vault")), rotates "password" step = true := by
  apply @resolves_bound_value "vault" ⟨"password"⟩ vaultBinding "hunter2" vault rotatePin.after
    bindPassword checkPassword lookUpPassword [] [rotatePin] [] []
  · exact resolvePassword_runs
  · exact .cons bindPassword (.cons rotatePin (.cons checkPassword (.cons lookUpPassword (.nil _))))
  · exact bindPassword_section
  · rw [checkPassword_section, lookUpPassword_section]
    rfl

end Dingdongditch.Secrets
