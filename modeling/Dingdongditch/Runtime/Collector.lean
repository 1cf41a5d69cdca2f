import Dingdongditch.Interaction.Within
import Dingdongditch.Runtime.Dispatches
import Dingdongditch.Runtime.Evaluations
import Std.Data.String.ToNat

/-!
# What an execution collects

The collector numbers its signals, and it forgets old ones but never renames one
(`Collects`).  So a signal that was collected is later found under its id, or not at
all, and evidence that was fresh in the evaluation is fresh in the receipt
(`finalFreshness_fresh`).  No stage apart from the participation and the probe of the
guarded target makes the calls that these are named after.
-/

namespace Dingdongditch

open Interaction Text

namespace EvidenceCollector

/-- The id of the `k`th signal. -/
def signalId (c : EvidenceCollector) (k : Nat) : String := c.scopeId ++ "-sig-" ++ toString k

theorem signalId_injective {c : EvidenceCollector} {j k : Nat}
    (same : c.signalId j = c.signalId k) : j = k := by
  unfold signalId at same
  have text := congrArg String.toList same
  simp only [String.toList_append] at text
  exact Nat.repr_injective (String.ext (List.append_cancel_left text))

/-- The signals bear the numbers that were given out. -/
structure Numbered (c : EvidenceCollector) : Prop where
  holds : 0 < c.maxSignals
  numbers : ∀ signal ∈ c.signals, ∃ k < c.nextId, signal.signalId = c.signalId k

/-- The signal was collected, and no other is found under its id. -/
structure Knows (c : EvidenceCollector) (signal : EvidenceSignal) : Prop where
  number : ∃ k < c.nextId, signal.signalId = c.signalId k
  only : ∀ other ∈ c.signals, other.signalId = signal.signalId → other = signal

/-- What a stage may do to the collector. -/
structure Collects (c c' : EvidenceCollector) : Prop where
  numbered : c.Numbered → c'.Numbered
  knows : c.Numbered → ∀ signal, c.Knows signal → c'.Knows signal

instance : Std.Refl Collects := ⟨fun _ => ⟨id, fun _ _ => id⟩⟩

instance : IsTrans EvidenceCollector Collects :=
  ⟨fun _ _ _ first second => ⟨fun numbered => second.numbered (first.numbered numbered),
    fun numbered signal known =>
      second.knows (first.numbered numbered) signal (first.knows numbered signal known)⟩⟩

variable {c : EvidenceCollector} {kind : SignalKind} {collectedAtMs : Int} {payload : SignalPayload}

theorem numbered_empty (scope : String) : ({ scopeId := scope } : EvidenceCollector).Numbered where
  holds := Nat.succ_pos 511
  numbers := by simp

theorem add_numbering : (c.add kind collectedAtMs payload).nextId = c.nextId + 1 ∧
    (c.add kind collectedAtMs payload).scopeId = c.scopeId ∧
    (c.add kind collectedAtMs payload).maxSignals = c.maxSignals := by
  unfold add
  dsimp only
  split
  · exact ⟨rfl, rfl, rfl⟩
  · exact ⟨rfl, rfl, rfl⟩

theorem add_signalId (k : Nat) : (c.add kind collectedAtMs payload).signalId k = c.signalId k := by
  unfold signalId
  rw [add_numbering.2.1]

theorem mem_add {signal : EvidenceSignal} (mem : signal ∈ (c.add kind collectedAtMs payload).signals) :
    signal ∈ c.signals ∨ signal = c.nextSignal kind collectedAtMs payload := by
  have collected : signal ∈ c.signals ++ [c.nextSignal kind collectedAtMs payload] := by
    unfold add at mem
    dsimp only at mem
    split at mem
    · exact List.mem_of_mem_tail mem
    · exact mem
  simpa using collected

theorem Numbered.add (numbered : c.Numbered) : (c.add kind collectedAtMs payload).Numbered := by
  obtain ⟨next, -, max⟩ := @add_numbering c kind collectedAtMs payload
  refine ⟨max ▸ numbered.holds, fun signal mem => ?_⟩
  rcases mem_add mem with old | rfl
  · obtain ⟨k, given, isId⟩ := numbered.numbers signal old
    exact ⟨k, by omega, isId.trans (add_signalId k).symm⟩
  · exact ⟨c.nextId, by omega, (add_signalId _).symm⟩

/-- A signal that is collected is known. -/
theorem Numbered.knows_add (numbered : c.Numbered) :
    (c.add kind collectedAtMs payload).Knows (c.nextSignal kind collectedAtMs payload) := by
  obtain ⟨next, -, -⟩ := @add_numbering c kind collectedAtMs payload
  refine ⟨⟨c.nextId, by omega, (add_signalId _).symm⟩, fun other mem isId => ?_⟩
  rcases mem_add mem with old | rfl
  · obtain ⟨k, given, isOld⟩ := numbered.numbers other old
    have same : k = c.nextId := signalId_injective (isOld.symm.trans isId)
    omega
  · rfl

theorem collects_add : Collects c (c.add kind collectedAtMs payload) := by
  obtain ⟨next, -, -⟩ := @add_numbering c kind collectedAtMs payload
  refine ⟨Numbered.add, fun _ signal known => ?_⟩
  obtain ⟨⟨k, given, isId⟩, only⟩ := known
  refine ⟨⟨k, by omega, isId.trans (add_signalId k).symm⟩, fun other mem same => ?_⟩
  rcases mem_add mem with old | rfl
  · exact only other old same
  · have later : c.nextId = k := signalId_injective (same.trans isId)
    omega

/-- The records that were collected last are the latest. -/
theorem latestNetwork_add (numbered : c.Numbered) (records : List NetworkRecord) :
    (c.add .network collectedAtMs (.records records)).latestNetwork = records := by
  have last : ∃ front, (c.add .network collectedAtMs (.records records)).signals =
      front ++ [c.nextSignal .network collectedAtMs (.records records)] := by
    unfold add
    dsimp only
    split
    · next full =>
        rw [List.length_append, List.length_singleton] at full
        have := numbered.holds
        obtain ⟨first, rest, isList⟩ : ∃ first rest, c.signals = first :: rest := by
          rcases isList : c.signals with _ | ⟨first, rest⟩
          · rw [isList] at full
            simp at full
            omega
          · exact ⟨first, rest, rfl⟩
        rw [isList]
        exact ⟨rest, rfl⟩
    · exact ⟨c.signals, rfl⟩
  obtain ⟨front, isLast⟩ := last
  unfold latestNetwork
  rw [isLast, List.reverse_append]
  rfl

/-- What is found under the id of a known signal is that signal. -/
theorem Knows.find {signal found : EvidenceSignal} (known : c.Knows signal)
    (finds : c.signals.reverse.find? (·.signalId = signal.signalId) = some found) : found = signal :=
  known.only found (by simpa using List.mem_of_find?_eq_some finds)
    (by simpa using List.find?_some finds)

end EvidenceCollector

open EvidenceCollector

/-! ## Evaluations -/

section Evaluations

variable {codec : HostCodec} {ctx : VerificationContext} {s s' : EvidenceCollector}
  {t : Trace QuietSig}

/-- The events that mark where an execution stands. -/
def Landmark (event : Event QuietSig) : Prop :=
  match event.1 with
  | .participateWebauthn _ | .probeGuardedActionTarget _ | .observe => True
  | _ => False

/-- A statement that only adds to the collector, without a landmark. -/
def Collecting {α : Type} (m : Quiet α) : Prop := Act.Within Collects Landmark m

theorem Collecting.bind {α β : Type} {m : Quiet α} {f : α → Quiet β} (first : Collecting m)
    (second : ∀ a, Collecting (f a)) : Collecting (m >>= f) :=
  Act.Within.bind first second

theorem collecting_pure {α : Type} (a : α) : Collecting (pure a) := Act.within_pure a

theorem collecting_throw {α : Type} (halt : Halt) : Collecting (throw halt : Quiet α) :=
  Act.within_throw halt

theorem collecting_attempt {α : Type} {c : QuietCall} (plain : ∀ answer, ¬ Landmark ⟨c, answer⟩)
    (view : QuietSig.Answer c → Except Halt α) :
    Collecting (Act.attempt (S := QuietSig) c view) :=
  (Act.calm_attempt plain view).within

theorem collecting_addSignal {kind : SignalKind} {collectedAtMs : Int} {payload : SignalPayload} :
    Collecting (Quiet.addSignal kind collectedAtMs payload) :=
  Act.within_modifyGet fun _ => collects_add

theorem collecting_monotonicMs : Collecting Quiet.monotonicMs :=
  collecting_attempt (c := .monotonicMs) (fun _ landmark => landmark) _

theorem collecting_evaluateEvidence {e : Expectation} : Collecting (evaluateEvidence codec ctx e) := by
  unfold evaluateEvidence
  split
  · split
    · exact collecting_throw _
    · split
      · exact collecting_pure _
      · exact collecting_pure _
  · exact Collecting.bind (Act.within_ofExcept _) fun _ => collecting_pure _
  · split
    · exact collecting_throw _
    · next locator _ =>
        refine Collecting.bind ?_ fun _ => collecting_pure _
        exact collecting_attempt (c := .readElementState locator e.resolvedFramePath _)
          (fun _ landmark => landmark) _

theorem collecting_evaluateExpectation {index : Nat} {e : Expectation} :
    Collecting (evaluateExpectation codec ctx index e) :=
  collecting_monotonicMs.bind fun _ => collecting_evaluateEvidence.bind fun _ =>
    collecting_addSignal.bind fun _ => collecting_pure _

theorem collecting_evaluateFrom {index : Nat} {expectations : List Expectation} :
    Collecting (evaluateFrom codec ctx index expectations) := by
  induction expectations generalizing index with
  | nil => exact collecting_pure _
  | cons e rest ih =>
      exact collecting_evaluateExpectation.bind fun _ => ih.bind fun _ => collecting_pure _

/-- The result refers to a signal that is known and was fresh. -/
structure Backed (c : EvidenceCollector) (ctx : VerificationContext) (result : ExpectationResult) :
    Prop where
  fresh : result.freshnessOk = some true
  refs : ∃ signal, c.Knows signal ∧ Fresh ctx signal.collectedAtMs ∧
    result.evidenceRefs = [signal.signalId]

theorem Backed.collects {c c' : EvidenceCollector} {result : ExpectationResult}
    (backed : Backed c ctx result) (numbered : c.Numbered) (collects : Collects c c') :
    Backed c' ctx result := by
  obtain ⟨fresh, signal, known, isFresh, refs⟩ := backed
  exact ⟨fresh, signal, collects.knows numbered signal known, isFresh, refs⟩

theorem evaluateExpectation_backed {index : Nat} {e : Expectation} {result : ExpectationResult}
    (run : Act.Runs (evaluateExpectation codec ctx index e) s t (.ok result) s')
    (numbered : s.Numbered) (passed : result.result = .pass) : Backed s' ctx result := by
  obtain ⟨now, u, kind, value, s₁, rfl, evidence, rfl, refs, -, fresh, passes⟩ :=
    evaluateExpectation_run run
  obtain ⟨isFresh, -⟩ := passes.mp passed
  have collected := (collecting_evaluateEvidence _ _ _ _ evidence).1.numbered numbered
  exact ⟨fresh.mpr isFresh, _, collected.knows_add, isFresh, refs⟩

/-- The results that passed are backed by what was collected. -/
theorem evaluateFrom_backed {index : Nat} {expectations : List Expectation}
    {results : List ExpectationResult}
    (run : Act.Runs (evaluateFrom codec ctx index expectations) s t (.ok results) s')
    (numbered : s.Numbered) : ∀ r ∈ results, r.result = .pass → Backed s' ctx r := by
  induction expectations generalizing index s t results with
  | nil =>
      obtain ⟨-, eq, -⟩ := Act.runs_pure.mp run
      cases eq
      simp
  | cons e rest ih =>
      unfold evaluateFrom at run
      obtain ⟨_, result, s₁, _, -, head, loop⟩ := run.bind_ok_inv
      obtain ⟨_, tail, s₂, _, -, others, last⟩ := loop.bind_ok_inv
      obtain ⟨-, eq, rfl⟩ := Act.runs_pure.mp last
      cases eq
      have after := (collecting_evaluateExpectation _ _ _ _ head).1.numbered numbered
      rw [List.forall_mem_cons]
      refine ⟨fun passed => ?_, ih others after⟩
      exact (evaluateExpectation_backed head numbered passed).collects after
        (collecting_evaluateFrom _ _ _ _ others).1

end Evaluations

/-! ## The stages of an execution -/

section Stages

variable {platform : Platform} {op : Operation} {ctx : ExecutionContext} {startedAtMs : Int}

theorem collecting_get : Collecting (get : Quiet EvidenceCollector) := Act.within_get

theorem collecting_pageUrl : Collecting Quiet.pageUrl :=
  collecting_attempt (c := .pageUrl) (fun _ landmark => landmark) _

theorem collecting_failedReceipt {failure : Failure} :
    Collecting (failedReceipt platform op startedAtMs failure) :=
  collecting_monotonicMs.bind fun _ => collecting_get.bind fun _ => collecting_pure _

theorem collecting_fail {α : Type} {failure : Failure} :
    Collecting (fail platform op startedAtMs failure : Quiet α) :=
  collecting_failedReceipt.bind fun _ => collecting_throw _

theorem collecting_validateRequest : Collecting (validateRequest platform op ctx startedAtMs) := by
  unfold validateRequest checkBrowserConfig
  refine Collecting.bind ?_ fun _ => ?_
  · split
    · exact collecting_fail
    · exact collecting_pure _
  · unfold checkContracts
    split
    · exact collecting_pure _
    · split
      · exact collecting_fail
      · exact collecting_throw _

theorem collecting_acquireBackend : Collecting (acquireBackend platform op ctx startedAtMs) := by
  unfold acquireBackend
  split
  · refine Collecting.bind (collecting_attempt (c := .startBackend) (fun _ landmark => landmark) _)
      fun started => ?_
    split
    · exact collecting_pure _
    · split
      · exact collecting_fail
      · exact collecting_throw _
  · refine Collecting.bind (collecting_attempt (c := .isStarted) (fun _ landmark => landmark) _)
      fun started => ?_
    split
    · exact collecting_fail
    · exact collecting_pure _

theorem collecting_enterDocument : Collecting (enterDocument op) := by
  unfold enterDocument
  refine collecting_pageUrl.bind fun url => ?_
  split
  · refine Collecting.bind ?_ fun _ => collecting_pageUrl
    exact collecting_attempt (c := .ensureOnUrl op.url op.timeoutMs) (fun _ landmark => landmark) _
  · exact collecting_pure _

theorem collecting_evaluatePrecondition : Collecting (evaluatePrecondition platform op) := by
  unfold evaluatePrecondition
  split
  · refine collecting_enterDocument.bind fun url => ?_
    split
    · exact collecting_throw _
    · exact collecting_pure _
  · next precondition _ =>
      refine Collecting.bind (collecting_attempt (c := .evaluatePagePrecondition precondition)
        (fun _ landmark => landmark) _) fun evaluation => ?_
      split
      · exact collecting_pure _
      · refine Collecting.bind (collecting_attempt (c := .pageUrl) (fun _ landmark => landmark) _)
          fun url => ?_
        exact collecting_monotonicMs.bind fun _ => collecting_pure _

theorem collecting_checkPrecondition : Collecting (checkPrecondition platform op startedAtMs) := by
  unfold checkPrecondition
  split
  · refine collecting_evaluatePrecondition.bind fun outcome => ?_
    dsimp only
    split
    · exact collecting_fail
    · exact collecting_pure _
  · exact collecting_pure _

theorem collecting_checkPlanDeadline :
    Collecting (checkPlanDeadline platform op ctx startedAtMs) := by
  unfold checkPlanDeadline
  split
  · exact collecting_pure _
  · refine collecting_monotonicMs.bind fun now => ?_
    split
    · exact collecting_fail
    · exact collecting_pure _

theorem collecting_checkObservation :
    Collecting (checkObservation platform op ctx startedAtMs) := by
  unfold checkObservation
  split
  · exact collecting_pure _
  · next reference _ =>
      refine Collecting.bind (collecting_attempt (c := .validateObservationReference reference)
        (fun _ landmark => landmark) _) fun facts => ?_
      dsimp only
      split
      · exact collecting_pure _
      · exact collecting_fail

theorem collecting_evaluateBranches {started : Int} {network : List NetworkRecord}
    {branches : List GuardBranch} :
    Collecting (evaluateBranches platform op started network branches) := by
  induction branches with
  | nil => exact collecting_pure _
  | cons branch rest ih =>
      exact collecting_monotonicMs.bind fun _ => collecting_pageUrl.bind fun _ =>
        collecting_evaluateFrom.bind fun _ => ih.bind fun _ => collecting_pure _

theorem collecting_selectBranch {guard : OperationGuard} :
    Collecting (selectBranch platform op startedAtMs guard) := by
  unfold selectBranch
  refine collecting_monotonicMs.bind fun started => collecting_get.bind fun collector =>
    collecting_evaluateBranches.bind fun records => ?_
  dsimp only
  split
  · exact collecting_fail
  · split
    · exact collecting_fail
    · exact collecting_pure _
    · exact collecting_pure _
    · exact collecting_fail

theorem collecting_pollOnce {started deadline : Int} {expectations : List Expectation}
    {network : List NetworkRecord} :
    Collecting (pollOnce platform op started deadline expectations network) := by
  unfold pollOnce
  refine collecting_monotonicMs.bind fun completed => collecting_pageUrl.bind fun url =>
    Collecting.bind collecting_evaluateFrom fun results => ?_
  split
  · exact collecting_pure _
  · exact collecting_monotonicMs.bind fun _ => collecting_pure _

theorem collecting_attachNetworkArtifact {receipt : ExecutionReceipt} :
    Collecting (attachNetworkArtifact op receipt) := by
  unfold attachNetworkArtifact
  split
  · exact collecting_pure _
  · next request _ =>
      refine Collecting.bind ?_ fun _ => collecting_pure _
      exact collecting_attempt (c := .captureNetworkArtifact op.operationId request)
        (fun _ landmark => landmark) _

theorem collecting_attachScreenshot {receipt : ExecutionReceipt} :
    Collecting (attachScreenshot op ctx receipt) := by
  unfold attachScreenshot
  dsimp only
  split
  · refine Collecting.bind ?_ fun _ => collecting_pure _
    exact collecting_attempt (c := .captureScreenshot op.operationId _)
      (fun _ landmark => landmark) _
  · exact collecting_pure _

theorem collecting_releaseBackend : Collecting (releaseBackend ctx) := by
  unfold releaseBackend
  split
  · exact collecting_pure _
  · exact collecting_attempt (c := .stopBackend) (fun _ landmark => landmark) _

/-- The events of the host and of the probe. -/
def Asking (event : Event QuietSig) : Prop :=
  match event.1 with
  | .participateWebauthn _ | .probeGuardedActionTarget _ => True
  | _ => False

/-- A statement that may observe the page, too. -/
def Surveying {α : Type} (m : Quiet α) : Prop := Act.Within Collects Asking m

theorem Asking.landmark {event : Event QuietSig} (asking : Asking event) : Landmark event := by
  unfold Asking at asking
  unfold Landmark
  split at asking
  · next call => rw [call]; trivial
  · next call => rw [call]; trivial
  · exact asking.elim

theorem Collecting.surveying {α : Type} {m : Quiet α} (collecting : Collecting m) : Surveying m := by
  intro s t r s' run
  obtain ⟨collects, none⟩ := collecting s t r s' run
  refine ⟨collects, ?_⟩
  rintro ⟨event, mem, asking⟩
  exact none ⟨event, mem, asking.landmark⟩

theorem Surveying.bind {α β : Type} {m : Quiet α} {f : α → Quiet β} (first : Surveying m)
    (second : ∀ a, Surveying (f a)) : Surveying (m >>= f) :=
  Act.Within.bind first second

theorem surveying_observe : Surveying Quiet.observe := by
  unfold Quiet.observe
  have asks : Surveying (Act.ask (S := QuietSig) .observe : Quiet BackendObservation) :=
    Act.within_ask fun _ asking => asking
  refine asks.bind fun observation => ?_
  exact (collecting_addSignal.bind fun _ => collecting_addSignal.bind fun _ =>
    collecting_pure _).surveying

/-- An observation is one call, and its records are the latest. -/
theorem observe_inv {s s' : EvidenceCollector} {t : Trace QuietSig} {observation : BackendObservation}
    (run : Act.Runs Quiet.observe s t (.ok observation) s') (numbered : s.Numbered) :
    t = [⟨.observe, observation⟩] ∧ s'.Numbered ∧ s'.latestNetwork = observation.records := by
  unfold Quiet.observe at run
  obtain ⟨answer, _, rfl, collecting⟩ := Act.Runs.ask_bind_inv run
  obtain ⟨_, _, s₁, _, rfl, url, rest⟩ := collecting.bind_ok_inv
  obtain ⟨_, _, s₂, _, rfl, network, last⟩ := rest.bind_ok_inv
  obtain ⟨rfl, eq, rfl⟩ := Act.runs_pure.mp last
  cases eq
  obtain ⟨rfl, -, rfl⟩ := Act.runs_modifyGet.mp url
  obtain ⟨rfl, -, rfl⟩ := Act.runs_modifyGet.mp network
  exact ⟨rfl, numbered.add.add, latestNetwork_add numbered.add _⟩

theorem surveying_prepare : Surveying (prepare platform op ctx startedAtMs) :=
  collecting_checkPrecondition.surveying.bind fun _ =>
    collecting_checkPlanDeadline.surveying.bind fun _ =>
      surveying_observe.bind fun _ => collecting_checkObservation.surveying

theorem surveying_pollExpectations {started deadline : Int} {expectations : List Expectation}
    {polls : Nat} {network : List NetworkRecord} :
    Surveying (pollExpectations platform op started deadline expectations polls network) := by
  induction polls generalizing network with
  | zero =>
      unfold pollExpectations
      refine collecting_pollOnce.surveying.bind fun round => ?_
      dsimp only
      split
      · exact (collecting_pure _).surveying
      · intro s t r s' run
        exact (Act.not_runs_diverge run).elim
  | succ polls ih =>
      unfold pollExpectations
      refine collecting_pollOnce.surveying.bind fun round => ?_
      dsimp only
      split
      · exact (collecting_pure _).surveying
      · refine Surveying.bind ?_ fun _ => surveying_observe.bind fun _ =>
          collecting_get.surveying.bind fun collector => ih
        exact (collecting_attempt (c := .waitForTimeout 50) (fun _ landmark => landmark) _).surveying

theorem surveying_verify {facts : ActionFacts} : Surveying (verify platform op ctx facts) := by
  unfold verify
  refine collecting_get.surveying.bind fun collector =>
    collecting_monotonicMs.surveying.bind fun started => ?_
  split
  · refine collecting_monotonicMs.surveying.bind fun now => ?_
    exact surveying_pollExpectations.bind fun _ => (collecting_pure _).surveying
  · exact (collecting_pure _).surveying

/-- What was collected before the guard. -/
theorem Entered.surveying {s s' : EvidenceCollector} {before : Trace QuietSig}
    {validation : Option ObservationFreshnessResult}
    (entered : Entered platform op ctx s startedAtMs validation before s') :
    Collects s s' ∧ ¬ Happens Asking before := by
  obtain ⟨t₀, s₀, t₁, s₁, t₂, s₂, t₃, rfl, started, checked, acquired, prepared⟩ := entered.stages
  obtain ⟨first, none₀⟩ := collecting_monotonicMs.surveying _ _ _ _ started
  obtain ⟨second, none₁⟩ := collecting_validateRequest.surveying _ _ _ _ checked
  obtain ⟨third, none₂⟩ := collecting_acquireBackend.surveying _ _ _ _ acquired
  obtain ⟨fourth, none₃⟩ := surveying_prepare _ _ _ _ prepared
  refine ⟨trans_of Collects first (trans_of Collects second (trans_of Collects third fourth)), ?_⟩
  rw [happens_append, happens_append, happens_append]
  rintro (happens | happens | happens | happens)
  · exact none₀ happens
  · exact none₁ happens
  · exact none₂ happens
  · exact none₃ happens

end Stages

end Dingdongditch
