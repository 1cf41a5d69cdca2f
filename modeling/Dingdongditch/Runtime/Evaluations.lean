import Dingdongditch.Runtime.Verifier

/-!
# What an evaluation rests on

An evaluation of one expectation reads the clock, then the element of an expectation
on a target, and passes when its evidence is fresh and shows what is expected
(`evaluateExpectation_run`).  Whether all expectations of a list pass can be read off
the events of their evaluation (`Shown`, `evaluateFrom_shown`).
-/

namespace Dingdongditch

open Interaction Text

variable {codec : HostCodec} {ctx : VerificationContext} {s s' : EvidenceCollector}
  {t : Trace QuietSig}

theorem ofBool_pass {ok : Bool} : ResultValue.ofBool ok = .pass ↔ ok = true := by
  cases ok <;> simp [ResultValue.ofBool]

/-- Evidence that is collected at this time is fresh. -/
def Fresh (ctx : VerificationContext) (now : Int) : Prop :=
  ctx.actionStartedAtMs ≤ now ∧ ctx.verificationCompletedAtMs - now ≤ ctx.freshness.maxAgeMs

theorem isSignalFresh_iff {signal : EvidenceSignal} :
    isSignalFresh signal ctx.actionStartedAtMs ctx.verificationCompletedAtMs ctx.freshness = true ↔
      Fresh ctx signal.collectedAtMs := by
  unfold isSignalFresh Fresh
  split
  · simp
    omega
  · simp
    omega

/-- One evaluation: its result refers to the signal that it collects, and passes when
this signal is fresh and the evidence passes. -/
theorem evaluateExpectation_run {index : Nat} {e : Expectation} {result : ExpectationResult}
    (run : Act.Runs (evaluateExpectation codec ctx index e) s t (.ok result) s') :
    ∃ (now : Int) (u : Trace QuietSig) (kind : SignalKind) (value : ResultValue)
      (s₁ : EvidenceCollector), t = ⟨.monotonicMs, now⟩ :: u ∧
      Act.Runs (evaluateEvidence codec ctx e) s u (.ok (kind, value)) s₁ ∧
      s' = s₁.add kind now .other ∧
      result.evidenceRefs = [(s₁.nextSignal kind now .other).signalId] ∧
      result.evidenceTimestampMs = some now ∧
      (result.freshnessOk = some true ↔ Fresh ctx now) ∧
      (result.result = .pass ↔ Fresh ctx now ∧ value = .pass) := by
  unfold evaluateExpectation at run
  obtain ⟨now, rest, rfl, asked⟩ := Act.Runs.ask_bind_inv run
  obtain ⟨u, ⟨kind, value⟩, s₁, v, rfl, evidence, stored⟩ := asked.bind_ok_inv
  obtain ⟨_, signal, _, _, rfl, added, last⟩ := stored.bind_ok_inv
  obtain ⟨rfl, eq, rfl⟩ := Act.runs_modifyGet.mp added
  cases eq
  obtain ⟨rfl, eq, rfl⟩ := Act.runs_pure.mp last
  cases eq
  have fresh := @isSignalFresh_iff ctx (s₁.nextSignal kind now .other)
  refine ⟨now, u, kind, value, s₁, by simp, evidence, rfl, rfl, rfl, ?_, ?_⟩
  · exact (Option.some.injEq _ _).to_iff.trans fresh
  dsimp only
  split
  · next holds => exact ⟨fun passes => ⟨fresh.mp holds, passes⟩, fun both => both.2⟩
  · next fails => exact ⟨nofun, fun both => absurd (fresh.mpr both.1) fails⟩

/-- The evidence of an expectation on a target is one reading. -/
theorem evaluateEvidence_target {e : Expectation} {kind : SignalKind} {value : ResultValue}
    (run : Act.Runs (evaluateEvidence codec ctx e) s t (.ok (kind, value)) s')
    (target : e.targetScoped = true) :
    ∃ (locator : Locator) (names : List String) (state : ElementState),
      e.locator = some locator ∧ s' = s ∧
      t = [⟨.readElementState locator e.resolvedFramePath names, .ok state⟩] ∧
      value = if state.ambiguous then .indeterminate else elementResult e state := by
  unfold evaluateEvidence at run
  cases type : e.type with
  | url | network =>
      rw [Expectation.targetScoped, type] at target
      cases target
  | _ =>
      rw [type] at run
      dsimp only at run
      cases located : e.locator with
      | none =>
          rw [located] at run
          obtain ⟨-, eq, -⟩ := Act.runs_throw.mp run
          cases eq
      | some locator =>
          rw [located] at run
          obtain ⟨u, state, _, v, rfl, reads, last⟩ := run.bind_ok_inv
          obtain ⟨answer, rfl, eq, rfl⟩ := Act.runs_attempt.mp reads
          obtain ⟨rfl, same, rfl⟩ := Act.runs_pure.mp last
          cases same
          have answered : answer = .ok state := Act.mapError_eq_ok.mp eq.symm
          subst answered
          exact ⟨locator, _, state, rfl, rfl, rfl, rfl⟩

/-- What the other expectations rest on. -/
def Observed (codec : HostCodec) (ctx : VerificationContext) (e : Expectation) : Prop :=
  match e.type with
  | .url => ∃ value, e.urlValue = some value ∧ match e.urlMatch with
      | .exact => ctx.postUrl = value
      | .contains => contains value.toList ctx.postUrl.toList = true
  | .network => ∃ located,
      (ctx.postNetwork.filterM fun record => networkUrlMatches codec e record.url) = .ok located ∧
        (((located.filter fun record => (e.networkMethod.map (·.text)).all fun method =>
          method = "" || record.method == some method).filter e.networkAssertion).filter
            (e.postAction ctx.actionStartedAtMs)).length = 1
  | _ => False

/-- The evidence of the other expectations reads no element. -/
theorem evaluateEvidence_other {e : Expectation} {kind : SignalKind} {value : ResultValue}
    (run : Act.Runs (evaluateEvidence codec ctx e) s t (.ok (kind, value)) s')
    (other : e.targetScoped = false) :
    t = [] ∧ s' = s ∧ (value = .pass ↔ Observed codec ctx e) := by
  unfold evaluateEvidence at run
  unfold Observed
  cases type : e.type with
  | url =>
      rw [type] at run
      dsimp only at run ⊢
      cases isValue : e.urlValue with
      | none =>
          rw [isValue] at run
          obtain ⟨-, eq, -⟩ := Act.runs_throw.mp run
          cases eq
      | some text =>
          rw [isValue] at run
          cases match_ : e.urlMatch with
          | exact | contains =>
              rw [match_] at run
              obtain ⟨empty, eq, same⟩ := Act.runs_pure.mp run
              cases eq
              refine ⟨empty, same, ?_⟩
              rw [ofBool_pass]
              simp
  | network =>
      rw [type] at run
      rcases run.ofExcept_bind_inv with ⟨_, -, -, eq, -⟩ | ⟨found, matched, last⟩
      · cases eq
      obtain ⟨empty, eq, same⟩ := Act.runs_pure.mp last
      cases eq
      refine ⟨empty, same, ?_⟩
      obtain ⟨located, isLocated, counted⟩ := bind_eq_ok.mp (Act.mapError_eq_ok.mp matched)
      dsimp only at counted ⊢
      rw [isLocated]
      constructor
      · rintro rfl
        refine ⟨located, rfl, ?_⟩
        split at counted
        · cases counted
        · next one => exact one
        · cases counted
      · rintro ⟨_, same, one⟩
        cases same
        rw [one] at counted
        exact (Except.ok.inj counted).symm
  | _ =>
      rw [Expectation.targetScoped, type] at other
      cases other

/-- The events show what is expected, each on fresh evidence: an expectation on a
target by the state that is reported of its element. -/
inductive Shown (codec : HostCodec) (ctx : VerificationContext) :
    List Expectation → Trace QuietSig → Prop
  | none (t : Trace QuietSig) : Shown codec ctx [] t
  | element {e : Expectation} {rest : List Expectation} {now : Int} {locator : Locator}
      {names : List String} {state : ElementState} {t : Trace QuietSig}
      (target : e.targetScoped = true) (fresh : Fresh ctx now) (unique : state.ambiguous = false)
      (passes : elementResult e state = .pass) (others : Shown codec ctx rest t) :
      Shown codec ctx (e :: rest) (⟨.monotonicMs, now⟩ ::
        ⟨.readElementState locator e.resolvedFramePath names, .ok state⟩ :: t)
  | observed {e : Expectation} {rest : List Expectation} {now : Int} {t : Trace QuietSig}
      (target : e.targetScoped = false) (fresh : Fresh ctx now) (observed : Observed codec ctx e)
      (others : Shown codec ctx rest t) :
      Shown codec ctx (e :: rest) (⟨.monotonicMs, now⟩ :: t)

/-- All expectations pass exactly when the events of their evaluation show them. -/
theorem evaluateFrom_shown {index : Nat} {expectations : List Expectation}
    {results : List ExpectationResult} (later : Trace QuietSig)
    (run : Act.Runs (evaluateFrom codec ctx index expectations) s t (.ok results) s') :
    (∀ r ∈ results, r.result = .pass) ↔ Shown codec ctx expectations (t ++ later) := by
  induction expectations generalizing index s t results with
  | nil =>
      obtain ⟨rfl, eq, -⟩ := Act.runs_pure.mp run
      cases eq
      exact ⟨fun _ => .none _, fun _ => by simp⟩
  | cons e rest ih =>
      unfold evaluateFrom at run
      obtain ⟨u, result, s₁, w, rfl, head, loop⟩ := run.bind_ok_inv
      obtain ⟨v, tail, s₂, x, rfl, others, last⟩ := loop.bind_ok_inv
      obtain ⟨rfl, eq, rfl⟩ := Act.runs_pure.mp last
      cases eq
      obtain ⟨now, u, kind, value, _, rfl, evidence, -, -, -, -, passes⟩ :=
        evaluateExpectation_run head
      rw [List.forall_mem_cons, passes, ih others]
      cases target : e.targetScoped with
      | true =>
          obtain ⟨locator, names, state, -, -, rfl, isValue⟩ := evaluateEvidence_target evidence target
          simp only [List.cons_append, List.nil_append, List.append_nil]
          constructor
          · rintro ⟨⟨fresh, isPass⟩, shown⟩
            rw [isValue] at isPass
            split at isPass
            · cases isPass
            · next unique => exact .element target fresh (by simpa using unique) isPass shown
          · intro shown
            cases shown with
            | element _ fresh unique passes shown =>
                refine ⟨⟨fresh, ?_⟩, shown⟩
                rw [isValue, unique]
                exact passes
            | observed other =>
                rw [target] at other
                cases other
      | false =>
          obtain ⟨rfl, -, isPass⟩ := evaluateEvidence_other evidence target
          simp only [List.cons_append, List.nil_append, List.append_nil]
          rw [isPass]
          constructor
          · rintro ⟨⟨fresh, observed⟩, shown⟩
            exact .observed target fresh observed shown
          · intro shown
            generalize isTrace : (⟨.monotonicMs, now⟩ :: (v ++ later) : Trace QuietSig) = w at shown
            cases shown with
            | element other =>
                rw [target] at other
                cases other
            | observed _ fresh observed shown =>
                cases isTrace
                exact ⟨⟨fresh, observed⟩, shown⟩

end Dingdongditch
