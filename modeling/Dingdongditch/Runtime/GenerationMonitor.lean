import Dingdongditch.Contract.Value
import Dingdongditch.Text.CodePoints

/-!
# Completion of a generated response

`ProgressBasedGenerationMonitor` folds a stream of page observations into a
counter of stable ones and the time of the last progress.  `Tracks` says what the
counter and the last text are, as a function of the observations the monitor has
taken in; `Tracks.run` carries it through every stream.
-/

namespace Dingdongditch.GenerationMonitor

open Text

inductive GenerationStatus
  | observing | completed | generationStalled
  deriving DecidableEq, Repr

/-- The arguments of one call of `observe`. -/
structure Observation where
  observationId : CodePoints := []
  capturedAtMs : Int := 0
  text : CodePoints
  generationActive : Bool
  progressSignals : List CodePoints := []
  fresh : Bool := true
  deriving DecidableEq

/-- One entry of the evidence. -/
structure Sample where
  observationId : CodePoints
  capturedAtMs : Int
  fresh : Bool
  textLength : Nat
  textHash : String
  generationActive : Bool
  progressSignals : List CodePoints
  meaningfulProgress : Bool
  noProgressMs : Int
  stableIdleSamples : Nat
  deriving DecidableEq

structure GenerationMonitorResult where
  status : GenerationStatus
  evidence : List Sample
  deriving DecidableEq

structure ProgressBasedGenerationMonitor where
  baselineText : CodePoints
  noProgressLeaseMs : Int
  stableObservationsRequired : Int
  lease_pos : 1 ≤ noProgressLeaseMs
  required_pos : 1 ≤ stableObservationsRequired
  lastSignature : Option String := none
  lastText : CodePoints := []
  lastProgressAtMs : Option Int := none
  stable : Nat := 0
  evidence : List Sample := []

namespace ProgressBasedGenerationMonitor

/-- `ProgressBasedGenerationMonitor(…)` -/
def make (baselineText : CodePoints) (noProgressLeaseMs stableObservationsRequired : Int) :
    Except PyException ProgressBasedGenerationMonitor :=
  if lease : noProgressLeaseMs < 1 then
    .error (.valueError "no_progress_lease_ms must be positive")
  else if required : stableObservationsRequired < 1 then
    .error (.valueError "stable_observations_required must be positive")
  else
    .ok {
      baselineText, noProgressLeaseMs, stableObservationsRequired
      lease_pos := by omega
      required_pos := by omega }

/-- `text.encode("utf-8")`, digested. -/
def digest (sha256 : String → String) (text : CodePoints) : Except PyException String :=
  match encodeText text with
  | some bytes => .ok (sha256 bytes)
  | none => .error (.valueError "'utf-8' codec can't encode: surrogates not allowed")

/-- What `_signature` digests: the text and the progress signals, joined by NUL. -/
def material (text : CodePoints) (progressSignals : List CodePoints) : CodePoints :=
  List.intercalate [0] (text :: progressSignals)

variable (sha256 : String → String) (monitor : ProgressBasedGenerationMonitor)
  (observation : Observation)

def meaningfulProgress (signature : String) : Bool :=
  monitor.lastSignature.any (signature != ·)

/-- `_last_progress_at_ms` after the observation. -/
def progressAt (signature : String) : Option Int :=
  if observation.fresh && (monitor.lastProgressAtMs.isNone || monitor.meaningfulProgress signature) then
    some observation.capturedAtMs
  else monitor.lastProgressAtMs

/-- The observation counts as one more stable one. -/
def Counts : Prop :=
  observation.fresh = true ∧ observation.text ≠ monitor.baselineText ∧
    observation.text = monitor.lastText ∧ observation.generationActive = false

instance : Decidable (Counts monitor observation) := by
  unfold Counts
  infer_instance

/-- `_stable` after the observation. -/
def stableAfter : Nat := if Counts monitor observation then monitor.stable + 1 else 0

def idleMs (progressAtMs : Option Int) (capturedAtMs : Int) : Int :=
  match progressAtMs with
  | none => 0
  | some at_ => max 0 (capturedAtMs - at_)

def sample (signature textHash : String) : Sample where
  observationId := observation.observationId
  capturedAtMs := observation.capturedAtMs
  fresh := observation.fresh
  textLength := observation.text.length
  textHash := textHash
  generationActive := observation.generationActive
  progressSignals := observation.progressSignals
  meaningfulProgress := monitor.meaningfulProgress signature
  noProgressMs := idleMs (monitor.progressAt observation signature) observation.capturedAtMs
  stableIdleSamples := monitor.stableAfter observation

/-- The monitor after the observation. -/
def advance (signature textHash : String) : ProgressBasedGenerationMonitor :=
  { monitor with
    lastSignature := if observation.fresh then some signature else monitor.lastSignature
    lastText := if observation.fresh then observation.text else monitor.lastText
    lastProgressAtMs := monitor.progressAt observation signature
    stable := monitor.stableAfter observation
    evidence := monitor.evidence ++ [monitor.sample observation signature textHash] }

/-- What the monitor reports, once `advanced`. -/
def status (advanced : ProgressBasedGenerationMonitor) : GenerationStatus :=
  if advanced.stableObservationsRequired ≤ advanced.stable then .completed
  else if observation.fresh && observation.generationActive &&
      decide (advanced.noProgressLeaseMs
        ≤ idleMs advanced.lastProgressAtMs observation.capturedAtMs) then .generationStalled
  else .observing

/-- `monitor.observe(…)`: what it raises leaves the monitor as it was, since the text
encodes wherever the material of the signature does (`encodeText_isSome_of_material`). -/
def observe : Except PyException (ProgressBasedGenerationMonitor × GenerationMonitorResult) := do
  let signature ← digest sha256 (material observation.text observation.progressSignals)
  let textHash ← digest sha256 observation.text
  let advanced := monitor.advance observation signature textHash
  .ok (advanced, ⟨advanced.status observation, advanced.evidence⟩)

/-- The monitor after a call of `observe`, raised or not. -/
def step : ProgressBasedGenerationMonitor :=
  match monitor.observe sha256 observation with
  | .ok (advanced, _) => advanced
  | .error _ => monitor

def run (observations : List Observation) : ProgressBasedGenerationMonitor :=
  observations.foldl (step sha256) monitor

/-! ## One observation -/

theorem encodeText_isSome_of_material {text : CodePoints} {signals : List CodePoints}
    (encodes : (encodeText (material text signals)).isSome) : (encodeText text).isSome := by
  rw [encodeText_isSome_iff] at encodes ⊢
  intro c member
  apply encodes
  unfold material
  cases signals with
  | nil => simpa using member
  | cons signal signals => simp [List.intercalate, member]

/-- `observe` does not raise: the texts of the observation encode. -/
def accepts : Bool := (encodeText (material observation.text observation.progressSignals)).isSome

variable {sha256 monitor observation}

theorem observe_of_accepts (accepted : accepts observation = true) :
    ∃ signature textHash, monitor.observe sha256 observation =
      .ok (monitor.advance observation signature textHash,
        ⟨(monitor.advance observation signature textHash).status observation,
          (monitor.advance observation signature textHash).evidence⟩) := by
  have text := encodeText_isSome_of_material accepted
  unfold accepts at accepted
  rw [Option.isSome_iff_exists] at accepted text
  obtain ⟨bytes, encoded⟩ := accepted
  obtain ⟨textBytes, textEncoded⟩ := text
  use sha256 bytes, sha256 textBytes
  simp only [observe, digest, encoded, textEncoded]
  rfl

theorem observe_of_not_accepts (rejected : accepts observation = false) :
    ∃ error, monitor.observe sha256 observation = .error error := by
  unfold accepts at rejected
  simp only [Option.isSome_eq_false_iff, Option.isNone_iff_eq_none] at rejected
  simp only [observe, digest, rejected]
  exact ⟨_, rfl⟩

theorem observe_ok {advanced : ProgressBasedGenerationMonitor} {result : GenerationMonitorResult}
    (observed : monitor.observe sha256 observation = .ok (advanced, result)) :
    accepts observation = true ∧ ∃ signature textHash,
      advanced = monitor.advance observation signature textHash ∧
      result.status = advanced.status observation := by
  cases accepted : accepts observation with
  | false =>
      obtain ⟨error, raised⟩ := @observe_of_not_accepts sha256 monitor _ accepted
      rw [raised] at observed
      cases observed
  | true =>
      obtain ⟨signature, textHash, returned⟩ :=
        @observe_of_accepts sha256 monitor _ accepted
      rw [returned] at observed
      cases observed
      exact ⟨rfl, signature, textHash, rfl, rfl⟩

theorem step_cases :
    (accepts observation = true ∧ ∃ signature textHash,
        monitor.step sha256 observation = monitor.advance observation signature textHash) ∨
      (accepts observation = false ∧ monitor.step sha256 observation = monitor) := by
  cases accepted : accepts observation with
  | true =>
      obtain ⟨signature, textHash, returned⟩ :=
        @observe_of_accepts sha256 monitor _ accepted
      exact .inl ⟨rfl, signature, textHash, by simp [step, returned]⟩
  | false =>
      obtain ⟨error, raised⟩ :=
        @observe_of_not_accepts sha256 monitor _ accepted
      exact .inr ⟨rfl, by simp [step, raised]⟩

theorem status_completed_iff :
    monitor.status observation = .completed ↔
      monitor.stableObservationsRequired ≤ monitor.stable := by
  unfold status
  split
  · simp [*]
  · split
    · simp [*]
    · simp [*]

/-! ## Every stream -/

/-- The last fresh observation. -/
def lastFresh (seen : List Observation) : Option Observation := (seen.filter (·.fresh)).getLast?

@[simp] theorem lastFresh_nil : lastFresh [] = none := rfl

@[simp] theorem lastFresh_concat (seen : List Observation) (last : Observation) :
    lastFresh (seen ++ [last]) = if last.fresh then some last else lastFresh seen := by
  unfold lastFresh
  cases fresh : last.fresh with
  | true => simp [fresh]
  | false => simp [fresh]

/-- The text of the last fresh observation, and the empty one before the first. -/
def lastFreshText (seen : List Observation) : CodePoints := ((lastFresh seen).map (·.text)).getD []

/-- A stable observation of the text: fresh, inactive and not the baseline. -/
def Quiet (baseline text : CodePoints) (observation : Observation) : Prop :=
  observation.fresh = true ∧ observation.generationActive = false ∧ observation.text = text ∧
    text ≠ baseline

/-- What the monitor knows of the observations it has taken in: its text is that of the
last fresh one, and its counter is the length of a run of quiet ones at their end, before
which the text was the same. -/
structure Tracks (baseline : CodePoints) (required : Int)
    (monitor : ProgressBasedGenerationMonitor) (seen : List Observation) : Prop where
  baselineText : monitor.baselineText = baseline
  stableObservationsRequired : monitor.stableObservationsRequired = required
  lastText : monitor.lastText = lastFreshText seen
  streak : ∃ before latest, seen = before ++ latest ∧ latest.length = monitor.stable ∧
    (∀ o ∈ latest, Quiet baseline monitor.lastText o) ∧ lastFreshText before = monitor.lastText

variable {baseline : CodePoints} {lease required : Int} {seen : List Observation}

theorem Tracks.of_make (made : make baseline lease required = .ok monitor) :
    Tracks baseline required monitor [] := by
  unfold make at made
  split at made
  · cases made
  · split at made
    · cases made
    · cases made
      exact ⟨rfl, rfl, rfl, [], [], by simp [lastFreshText]⟩

theorem Tracks.advance (tracks : Tracks baseline required monitor seen)
    (signature textHash : String) :
    Tracks baseline required (monitor.advance observation signature textHash)
      (seen ++ [observation]) := by
  have text : (monitor.advance observation signature textHash).lastText =
      lastFreshText (seen ++ [observation]) := by
    have known := tracks.lastText
    simp only [ProgressBasedGenerationMonitor.advance, lastFreshText, lastFresh_concat] at known ⊢
    split
    · simp
    · exact known
  refine ⟨tracks.baselineText, tracks.stableObservationsRequired, text, ?_⟩
  by_cases counts : Counts monitor observation
  · obtain ⟨before, latest, split, length, quiet, same⟩ := tracks.streak
    have counted : (monitor.advance observation signature textHash).stable = monitor.stable + 1 := by
      simp [ProgressBasedGenerationMonitor.advance, stableAfter, counts]
    obtain ⟨fresh, changed, unchanged, inactive⟩ := counts
    have kept : (monitor.advance observation signature textHash).lastText = monitor.lastText := by
      simp [ProgressBasedGenerationMonitor.advance, unchanged]
    rw [tracks.baselineText, unchanged] at changed
    refine ⟨before, latest ++ [observation], by simp [split], ?_, ?_, by rw [kept, same]⟩
    · simp [counted, length]
    · intro o member
      rw [kept]
      rw [List.mem_append, List.mem_singleton] at member
      rcases member with member | last
      · exact quiet o member
      · subst last
        exact ⟨fresh, inactive, unchanged, changed⟩
  · have reset : (monitor.advance observation signature textHash).stable = 0 := by
      simp [ProgressBasedGenerationMonitor.advance, stableAfter, counts]
    exact ⟨seen ++ [observation], [], by simp [reset, text]⟩

theorem Tracks.step (tracks : Tracks baseline required monitor seen) :
    Tracks baseline required (monitor.step sha256 observation)
      (seen ++ [observation].filter accepts) := by
  rcases @step_cases sha256 monitor observation with
    ⟨accepted, signature, textHash, stepped⟩ | ⟨rejected, stepped⟩
  · rw [stepped]
    simpa [accepted] using tracks.advance signature textHash
  · rw [stepped]
    simpa [rejected] using tracks

theorem Tracks.run (tracks : Tracks baseline required monitor seen)
    (observations : List Observation) :
    Tracks baseline required (monitor.run sha256 observations)
      (seen ++ observations.filter accepts) := by
  induction observations generalizing monitor seen with
  | nil => simpa [ProgressBasedGenerationMonitor.run] using tracks
  | cons observation observations ih =>
      have next : Tracks baseline required (monitor.step sha256 observation)
          (seen ++ [observation].filter accepts) := tracks.step
      have rest := ih next
      rw [List.append_assoc, ← List.filter_append] at rest
      exact rest

/-- The last `required` observations are consecutive quiet ones, and the fresh one before
them had their text. -/
def Settled (baseline : CodePoints) (required : Int) (text : CodePoints)
    (seen : List Observation) : Prop :=
  ∃ before first latest, seen = before ++ latest ∧ lastFresh before = some first ∧
    first.text = text ∧ (latest.length : Int) = required ∧ ∀ o ∈ latest, Quiet baseline text o

theorem Settled.required_lt {text : CodePoints} (settled : Settled baseline required text seen) :
    required < (seen.filter (·.fresh)).length := by
  obtain ⟨before, first, latest, split, last, -, length, quiet⟩ := settled
  have all : latest.filter (·.fresh) = latest := by
    rw [List.filter_eq_self]
    intro o member
    exact (quiet o member).1
  have some_ : 0 < (before.filter (·.fresh)).length := by
    unfold lastFresh at last
    exact List.length_pos_of_mem (List.mem_of_getLast? last)
  rw [split, List.filter_append, List.length_append, all]
  omega

/-- A counter that has reached `required` on a text that is not empty. -/
theorem Tracks.settled (tracks : Tracks baseline required monitor seen)
    (reached : required ≤ monitor.stable) (positive : 1 ≤ required) (filled : monitor.lastText ≠ []) :
    Settled baseline required monitor.lastText seen := by
  obtain ⟨before, latest, split, length, quiet, same⟩ := tracks.streak
  let early := latest.take (latest.length - required.toNat)
  let late := latest.drop (latest.length - required.toNat)
  have cut : latest = early ++ late := (List.take_append_drop _ _).symm
  have text : lastFreshText (before ++ early) = monitor.lastText := by
    rcases List.eq_nil_or_concat early with empty | ⟨init, last, concat⟩
    · rw [empty, List.append_nil, same]
    · have member : last ∈ latest := by
        rw [cut, concat]
        simp
      have seen := quiet last member
      rw [concat, List.concat_eq_append, ← List.append_assoc, lastFreshText, lastFresh_concat,
        if_pos seen.1]
      exact seen.2.2.1
  obtain ⟨first, last⟩ : ∃ first, lastFresh (before ++ early) = some first := by
    cases last : lastFresh (before ++ early) with
    | none =>
        rw [lastFreshText, last] at text
        exact absurd text.symm filled
    | some first => exact ⟨first, rfl⟩
  refine ⟨before ++ early, first, late, ?_, last, ?_, ?_, ?_⟩
  · rw [split, List.append_assoc, ← cut]
  · rw [lastFreshText, last] at text
    exact text
  · have : late.length = required.toNat := by
      simp only [late, List.length_drop]
      omega
    omega
  · intro o member
    exact quiet o (List.mem_of_mem_drop member)

theorem counts_of_stable (positive : 0 < monitor.stableAfter observation) :
    Counts monitor observation := by
  unfold stableAfter at positive
  by_contra counts
  simp [counts] at positive

/-- A stale or an active observation, and a fresh one whose text is not that of the fresh
observation before, leave the counter at zero. -/
theorem Tracks.reset (tracks : Tracks baseline required monitor seen)
    (signature textHash : String)
    (disturbed : observation.fresh = false ∨ observation.generationActive = true ∨
      ∃ previous, lastFresh seen = some previous ∧ previous.text ≠ observation.text) :
    (monitor.advance observation signature textHash).stable = 0 := by
  by_contra positive
  have counts : Counts monitor observation := counts_of_stable (Nat.pos_of_ne_zero positive)
  obtain ⟨fresh, -, unchanged, inactive⟩ := counts
  rcases disturbed with stale | active | ⟨previous, last, changed⟩
  · simp [fresh] at stale
  · simp [inactive] at active
  · rw [tracks.lastText, lastFreshText, last] at unchanged
    exact changed unchanged.symm

theorem required_pos_of_make (made : make baseline lease required = .ok monitor) :
    1 ≤ required := by
  have tracks := Tracks.of_make made
  rw [← tracks.stableObservationsRequired]
  exact monitor.required_pos

/-- In every stream, a text that is not empty is reported complete only once it is settled,
and every disturbance resets the counter. -/
theorem completed_settled (made : make baseline lease required = .ok monitor)
    (observations : List Observation) {advanced : ProgressBasedGenerationMonitor}
    {result : GenerationMonitorResult}
    (observed : (monitor.run sha256 observations).observe sha256 observation =
      .ok (advanced, result)) :
    (result.status = .completed → observation.text ≠ [] →
      required < ((observations.filter accepts ++ [observation]).filter (·.fresh)).length ∧
      Settled baseline required observation.text (observations.filter accepts ++ [observation])) ∧
    (observation.fresh = false ∨ observation.generationActive = true ∨
        (∃ previous, lastFresh (observations.filter accepts) = some previous ∧
          previous.text ≠ observation.text) →
      advanced.stable = 0) := by
  have tracks : Tracks baseline required (monitor.run sha256 observations)
      ([] ++ observations.filter accepts) := (Tracks.of_make made).run observations
  rw [List.nil_append] at tracks
  obtain ⟨accepted, signature, textHash, same, status⟩ := observe_ok observed
  subst same
  refine ⟨?_, tracks.reset signature textHash⟩
  intro completed filled
  have after := @Tracks.advance _ observation _ _ _ tracks signature textHash
  have positive := required_pos_of_make made
  have reached := status_completed_iff.mp (status ▸ completed)
  rw [after.stableObservationsRequired] at reached
  have counts : Counts (monitor.run sha256 observations) observation := by
    apply counts_of_stable
    have : 1 ≤ (((monitor.run sha256 observations).advance observation signature textHash).stable : Int) := by
      omega
    exact_mod_cast this
  have text : ((monitor.run sha256 observations).advance observation signature textHash).lastText =
      observation.text := by
    simp [ProgressBasedGenerationMonitor.advance, counts.1]
  have settled := after.settled reached positive (by rw [text]; exact filled)
  rw [text] at settled
  exact ⟨settled.required_lt, settled⟩

end ProgressBasedGenerationMonitor

open ProgressBasedGenerationMonitor

/-- An observation of the text `A`. -/
def shown (generationActive : Bool) : Observation := { text := [65], generationActive }

/-- Three inactive observations of a text complete it where two are required. -/
theorem completed_settled_shown :
    Settled [66] 2 [65] ([shown false, shown false].filter accepts ++ [shown false]) :=
  ((@completed_settled id _ (shown false) [66] 1 2 rfl [shown false, shown false] _ _ rfl).1
    (by decide) (by decide)).2

/-- The first of the three observations that complete a text may be an active one. -/
theorem completed_after_active :
    ∃ monitor, make [66] 1 2 = .ok monitor ∧ ∃ advanced result,
      (monitor.run id [shown true, shown false]).observe id (shown false) = .ok (advanced, result) ∧
      result.status = .completed ∧
      ¬ ∀ o ∈ [shown true, shown false, shown false], o.generationActive = false :=
  ⟨_, rfl, _, _, rfl, by decide⟩

end Dingdongditch.GenerationMonitor
