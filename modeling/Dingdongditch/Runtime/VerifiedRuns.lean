import Dingdongditch.Contract.Quorum
import Dingdongditch.Runtime.VerdictTruth

/-!
# The stages behind a verified receipt

Four stages decide what a receipt reports: the verdict of the expectations, the
WebAuthn participation, the legacy guard and the declared quorum.  Each of the
middle ones sets the verdict together with the failure fields, and the quorum
replaces the verdict alone.  So a VERIFIED receipt reports a failure exactly
when an earlier stage reported one and the quorum was reached all the same
(`reports_no_failure_iff`).  What these stages decided on is in the trace of the run
(`Account`).
-/

namespace Dingdongditch

open Interaction Text

variable {platform : Platform} {op : Operation} {ctx : ExecutionContext} {facts : ActionFacts}

/-- The failure fields are empty and the status is the completed one. -/
structure ExecutionReceipt.ReportsNoFailure (receipt : ExecutionReceipt) : Prop where
  kind : receipt.failureKind = none
  error : receipt.executionError = none
  status : receipt.executionStatus = "completed"

/-- The same of a conclusion. -/
structure Conclusion.Clean (c : Conclusion) : Prop where
  kind : c.failureKind = none
  error : c.executionError = none
  status : c.executionStatus = "completed"

/-! ## A quorum that is reached -/

theorem quorum_nonempty {quorum : VerificationQuorum} (valid : quorum.validate none = .ok ()) :
    0 < quorum.requiredCount := by
  unfold VerificationQuorum.validate at valid
  obtain ⟨declared, valid⟩ := rejectIf_bind_ok.mp valid
  obtain ⟨-, valid⟩ := rejectIf_bind_ok.mp valid
  obtain ⟨-, valid⟩ := rejectIf_bind_ok.mp valid
  obtain ⟨-, valid⟩ := rejectIf_bind_ok.mp valid
  obtain ⟨-, valid⟩ := rejectIf_bind_ok.mp valid
  obtain ⟨_, -, valid⟩ := bind_eq_ok.mp valid
  have nonempty : quorum.checks ≠ [] := by simpa using declared
  unfold VerificationQuorum.requiredCount
  cases policy : quorum.policy with
  | all =>
      have := List.length_pos_iff.mpr nonempty
      dsimp only
      omega
  | nOfM =>
      rw [policy] at valid
      have bounded := rejectIf_eq_ok.mp valid
      rcases given : quorum.required with _ | n
      · rw [given] at bounded
        cases bounded
      · rw [given] at bounded
        have : 1 ≤ n ∧ n ≤ (quorum.checks.length : Int) := by simpa using bounded
        dsimp only [Option.getD_some]
        omega

/-- Without results no quorum is reached. -/
theorem results_of_verified {quorum : VerificationQuorum} {results : List ExpectationResult}
    {q : QuorumResult} (evaluated : evaluateQuorum quorum results = .ok q)
    (verified : q.verdict = .verified) : results ≠ [] := by
  have valid : quorum.validate none = .ok () := by
    unfold evaluateQuorum at evaluated
    obtain ⟨_, valid, -⟩ := bind_eq_ok.mp evaluated
    exact valid
  obtain ⟨r, returned, verdict, -⟩ := evaluateQuorum_ok valid results
  obtain rfl : r = q := Except.ok.inj (returned.symm.trans evaluated)
  rw [verdict] at verified
  have reached := quorumVerdict_verified.mp verified
  have positive := quorum_nonempty valid
  have some_ : 0 < quorum.checks.countP (Completions.atLeast (quorumVote results)) := by omega
  obtain ⟨check, -, yes⟩ := List.countP_pos_iff.mp some_
  have passed : quorumVote results check = some true := beq_iff_eq.mp yes
  obtain ⟨item, single, -⟩ := quorumRow_pass (ResultValue.vote_inj passed)
  rintro rfl
  cases single

/-- A conclusion that is VERIFIED after the quorum has the failure fields it had
before. -/
theorem applyQuorum_verified {results : List ExpectationResult} {c c' : Conclusion}
    (concluded : applyQuorum op facts results c = .ok c') (verified : c'.verdict = .verified) :
    c'.failureKind = c.failureKind ∧ c'.executionError = c.executionError ∧
      c'.executionStatus = c.executionStatus ∧
      (c.verdict = .verified ∨ facts.actionOk = true ∧ results ≠ []) := by
  unfold applyQuorum at concluded
  split at concluded
  · cases concluded
    exact ⟨rfl, rfl, rfl, .inl verified⟩
  · next quorum declared =>
      dsimp only [bind, Except.bind, pure, Except.pure] at concluded
      split at concluded
      · cases concluded
        exact ⟨rfl, rfl, rfl, .inl verified⟩
      · next ok =>
          split at concluded
          · cases concluded
          · next q evaluated =>
              have actionOk : facts.actionOk = true := by simpa using ok
              split at concluded
              · cases concluded
                next lost => exact absurd (verified.symm.trans lost) (by decide)
              · cases concluded
                next lost => exact absurd (verified.symm.trans lost) (by decide)
              · cases concluded
                exact ⟨rfl, rfl, rfl, .inr ⟨actionOk, results_of_verified evaluated verified⟩⟩

/-! ## The stages before the quorum -/

/-- The event of a WebAuthn participation with its answer. -/
abbrev webauthnEvent (request : Declared) (status : WebauthnStatus) : Event QuietSig :=
  ⟨.participateWebauthn request, (Except.ok status : Except PyException WebauthnStatus)⟩

/-- A participation is asked for after an action that was performed, or not at all. -/
theorem participateWebauthn_inv {s s' : EvidenceCollector} {t : Trace QuietSig}
    {status : Option WebauthnStatus}
    (run : Act.Runs (participateWebauthn op facts) s t (.ok status) s') :
    s' = s ∧ (status = none ∧ t = [] ∨ facts.actionOk = true ∧ facts.guardedSkip = false ∧
      ∃ request answer, status = some answer ∧ t = [webauthnEvent request answer]) := by
  have unasked {s' : EvidenceCollector}
      (run : Act.Runs (pure none : Quiet (Option WebauthnStatus)) s t (.ok status) s') :
      s' = s ∧ (status = none ∧ t = [] ∨ facts.actionOk = true ∧ facts.guardedSkip = false ∧
        ∃ request answer, status = some answer ∧ t = [webauthnEvent request answer]) := by
    obtain ⟨empty, eq, same⟩ := Act.runs_pure.mp run
    exact ⟨same, .inl ⟨Except.ok.inj eq, empty⟩⟩
  unfold participateWebauthn at run
  split at run
  · exact unasked run
  · next request declared =>
      split at run
      · next performed =>
          rw [Bool.and_eq_true, Bool.not_eq_true'] at performed
          obtain ⟨_, answer, _, _, rfl, asked, run⟩ := run.bind_ok_inv
          obtain ⟨rfl, eq, rfl⟩ := Act.runs_pure.mp run
          obtain ⟨given, rfl, isAnswer, rfl⟩ := Act.runs_attempt.mp asked
          have isOk : given = .ok answer := Act.mapError_eq_ok.mp isAnswer.symm
          subst isOk
          exact ⟨rfl, .inr ⟨performed.1, performed.2, request, answer, Except.ok.inj eq, rfl⟩⟩
      · exact unasked run

/-- What the expectations, the WebAuthn step and the guard conclude. -/
def settled (facts : ActionFacts) (status : Option WebauthnStatus) (verdict : Verdict) :
    Conclusion :=
  applyGuard facts (applyWebauthn facts status
    ⟨verdict, facts.executionStatus, facts.executionError, facts.failureKind, none⟩)

/-- No stage before the quorum reported a failure. -/
structure Undisturbed (facts : ActionFacts) (status : Option WebauthnStatus) (verdict : Verdict) :
    Prop where
  error : facts.executionError = none
  kind : facts.failureKind = none
  webauthn : status = none ∨ status = some .completed
  guard : facts.guardedSkip = true → verdict = .verified

theorem webauthn_status_ne (status : WebauthnStatus) : "webauthn_" ++ status.value ≠ "completed" := by
  cases status <;> decide

/-- A participation that did not complete shows in the status. -/
theorem applyWebauthn_status (facts : ActionFacts) (c : Conclusion) {status : WebauthnStatus}
    (failed : status ≠ .completed) :
    (applyWebauthn facts (some status) c).executionStatus = "webauthn_" ++ status.value := by
  cases status with
  | completed => exact absurd rfl failed
  | rejected | unsupported | timedOut | indeterminate => rfl

theorem settled_clean_iff {status : Option WebauthnStatus} {verdict : Verdict}
    (completed : facts.executionStatus = "completed")
    (asked : status = none ∨ facts.guardedSkip = false)
    (reached : (settled facts status verdict).verdict = .verified ∨
      facts.activeExpectations ≠ []) :
    (settled facts status verdict).Clean ↔ Undisturbed facts status verdict := by
  rcases status with _ | status
  · by_cases unproven : (facts.guardedSkip && verdict != .verified) = true
    · have guarded : settled facts none verdict =
          { settled facts none verdict with executionStatus := "guard_condition_failed" } := by
        unfold settled applyGuard applyWebauthn
        dsimp only
        rw [if_pos unproven]
      constructor
      · intro clean
        have status : "guard_condition_failed" = "completed" :=
          (congrArg Conclusion.executionStatus guarded).symm.trans clean.status
        exact absurd status (by decide)
      · intro undisturbed
        rw [Bool.and_eq_true, bne_iff_ne] at unproven
        exact absurd (undisturbed.guard unproven.1) unproven.2
    · have same : settled facts none verdict =
          ⟨verdict, facts.executionStatus, facts.executionError, facts.failureKind, none⟩ := by
        unfold settled applyGuard applyWebauthn
        dsimp only
        rw [if_neg unproven]
      rw [same]
      constructor
      · intro clean
        refine ⟨clean.error, clean.kind, .inl rfl, fun skipped => ?_⟩
        rw [skipped, Bool.true_and, bne_iff_ne, not_not] at unproven
        exact unproven
      · intro undisturbed
        exact ⟨undisturbed.kind, undisturbed.error, completed⟩
  · have unskipped : facts.guardedSkip = false := asked.resolve_left (by simp)
    have plain (c : Conclusion) : applyGuard facts c = c := by
      unfold applyGuard
      rw [unskipped, Bool.false_and]
      rfl
    unfold settled at reached ⊢
    rw [plain] at reached ⊢
    by_cases isCompleted : status = .completed
    · subst isCompleted
      unfold applyWebauthn at reached ⊢
      dsimp only at reached ⊢
      by_cases declared : facts.activeExpectations = []
      · rw [declared] at reached
        rcases reached with verified | some_
        · cases verified
        · exact absurd rfl some_
      · rw [if_neg (by simpa using declared)]
        constructor
        · intro clean
          exact ⟨clean.error, clean.kind, .inr rfl, fun skipped => by
            rw [unskipped] at skipped; cases skipped⟩
        · intro undisturbed
          exact ⟨undisturbed.kind, undisturbed.error, completed⟩
    · constructor
      · intro clean
        exact absurd ((applyWebauthn_status facts _ isCompleted).symm.trans clean.status)
          (webauthn_status_ne status)
      · intro undisturbed
        rcases undisturbed.webauthn with none_ | some_
        · cases none_
        · exact absurd (Option.some.inj some_) isCompleted

/-! ## The receipt of a run -/

/-- Where the facts of an action come from: the one dispatch of the operation, or
a guarded target that is absent. -/
inductive ActionOrigin (op : Operation) (ctx : ExecutionContext) (s : EvidenceCollector) :
    Trace RuntimeSig → ActionFacts → EvidenceCollector → Prop
  | dispatched (guard : GuardEvidence) (attempts : List RecoveryAttempt)
      (validation : Option ObservationFreshnessResult) (result : ActionDispatchResult)
      (front : Trace RuntimeSig) (s' : EvidenceCollector)
      (branches : ∀ e ∈ rights front, IsGuardDispatch op ctx e)
      (unasked : ∀ request status, Event.left (webauthnEvent request status) ∉ front) :
      ActionOrigin op ctx s (front ++ [Event.right (dispatchEvent op ctx.planTiming (.ok result))])
        (primaryFacts op guard attempts validation result) s'
  | absent (guard : OperationGuard) (expectations : List Expectation) (started completed : Int)
      (probe : Except PyException GuardProbe) (guarded : op.guard = some guard)
      (legacy : guard.whenTargetAbsent = some expectations) :
      ActionOrigin op ctx s
        (([⟨.monotonicMs, started⟩, ⟨.probeGuardedActionTarget op, probe⟩,
          ⟨.monotonicMs, completed⟩] : Trace QuietSig).map Event.left)
        (absentFacts expectations started completed) s

theorem probeGuard_inv {s s' : EvidenceCollector} {t : Trace QuietSig} {startedAtMs : Int}
    {outcome : GuardProbeOutcome}
    (run : Act.Runs (probeGuard platform op startedAtMs) s t (.ok outcome) s') :
    s' = s ∧ ∃ (started : Int) (probe : Except PyException GuardProbe),
      outcome = .targetPresent ∧ t = [⟨.monotonicMs, started⟩, ⟨.probeGuardedActionTarget op, probe⟩] ∨
      ∃ completed : Int, outcome = .targetAbsent started completed ∧
        t = [⟨.monotonicMs, started⟩, ⟨.probeGuardedActionTarget op, probe⟩,
          ⟨.monotonicMs, completed⟩] := by
  unfold probeGuard at run
  obtain ⟨started, rest, rfl, asked⟩ := Act.Runs.ask_bind_inv run
  obtain ⟨probe, last, rfl, decided⟩ := Act.Runs.ask_bind_inv asked
  split at decided
  · exact (fail_not_ok decided).elim
  · split at decided
    · obtain ⟨rfl, eq, rfl⟩ := Act.runs_pure.mp decided
      exact ⟨rfl, started, _, .inl ⟨Except.ok.inj eq, rfl⟩⟩
    · split at decided
      · obtain ⟨completed, _, rfl, returned⟩ := Act.Runs.ask_bind_inv decided
        obtain ⟨rfl, eq, rfl⟩ := Act.runs_pure.mp returned
        exact ⟨rfl, started, _, .inr ⟨completed, Except.ok.inj eq, rfl⟩⟩
      · exact (fail_not_ok decided).elim

/-- The actions of a branch are dispatched without a word with the host. -/
theorem dispatchBranchActions_unasked {s s' : EvidenceCollector} {t : Trace RuntimeSig}
    {startedAtMs : Int} {selection : BranchSelection} {done : List PyVal} {actions : List Action}
    {out : List PyVal × List RecoveryAttempt}
    (run : Act.Runs (dispatchBranchActions platform op ctx startedAtMs selection done actions) s t
      (.ok out) s') (event : Event QuietSig) : Event.left event ∉ t := by
  induction actions generalizing done out s t s' with
  | nil =>
      obtain ⟨rfl, -, -⟩ := Act.runs_pure.mp run
      exact List.not_mem_nil
  | cons action rest ih =>
      unfold dispatchBranchActions at run
      obtain ⟨_, result, _, _, rfl, dispatches, chosen⟩ := run.bind_ok_inv
      obtain ⟨answer, rfl, -, -⟩ := Act.runs_attempt.mp dispatches
      dsimp only at chosen
      split at chosen
      · obtain ⟨_, _, _, _, rfl, others, last⟩ := chosen.bind_ok_inv
        obtain ⟨rfl, -, -⟩ := Act.runs_pure.mp last
        rw [List.append_nil, List.cons_append, List.nil_append, List.mem_cons]
        rintro (same | later)
        · cases congrArg Sigma.fst same
        · exact ih others later
      · obtain ⟨_, _, failed⟩ := chosen.of_left
        exact (fail_not_ok failed).elim

theorem act_origin {s s' : EvidenceCollector} {t : Trace RuntimeSig} {startedAtMs : Int}
    {validation : Option ObservationFreshnessResult}
    (run : Act.Runs (act platform op ctx startedAtMs validation) s t (.ok facts) s') :
    ActionOrigin op ctx s t facts s' := by
  have dispatched {front : Trace RuntimeSig} {guard : GuardEvidence}
      {attempts : List RecoveryAttempt} {s₁ s' : EvidenceCollector} {t : Trace RuntimeSig}
      (branches : ∀ e ∈ rights front, IsGuardDispatch op ctx e)
      (unasked : ∀ request status, Event.left (webauthnEvent request status) ∉ front)
      (run : Act.Runs (dispatchPrimary op ctx guard attempts validation) s₁ t (.ok facts) s') :
      ActionOrigin op ctx s (front ++ t) facts s' := by
    obtain ⟨answer, rfl, isFacts⟩ := runs_dispatchPrimary run
    cases answer with
    | error e => cases isFacts
    | ok result =>
        cases isFacts
        exact .dispatched guard attempts validation result front s' branches unasked
  unfold act at run
  split at run
  · rw [← List.nil_append t]
    exact dispatched (fun _ mem => absurd mem List.not_mem_nil) (fun _ _ => List.not_mem_nil) run
  · next guard guarded =>
      split at run
      · next expectations legacy =>
          obtain ⟨_, outcome, _, rest, rfl, probing, chosen⟩ := run.bind_ok_inv
          obtain ⟨u, rfl, probed⟩ := probing.of_left
          have silent : ∀ e ∈ rights (u.map Event.left : Trace RuntimeSig), IsGuardDispatch op ctx e := by
            rw [rights_map_left]
            exact fun _ mem => absurd mem List.not_mem_nil
          obtain ⟨rfl, started, probe, ⟨rfl, rfl⟩ | ⟨completed, rfl, rfl⟩⟩ := probeGuard_inv probed
          · refine dispatched silent (fun request status mem => ?_) chosen
            obtain ⟨event, known, same⟩ := List.mem_map.mp mem
            simp only [List.mem_cons, List.not_mem_nil, or_false] at known
            rcases known with rfl | rfl
            · cases congrArg Sigma.fst same
            · cases congrArg Sigma.fst same
          · obtain ⟨rfl, eq, rfl⟩ := Act.runs_pure.mp chosen
            cases eq
            exact .absent guard expectations started completed probe guarded legacy
      · next branching =>
          obtain ⟨_, selection, s₁, rest, rfl, selects, chosen⟩ := run.bind_ok_inv
          obtain ⟨u, rfl, selecting⟩ := selects.of_left
          obtain ⟨acting, ⟨records, attempts⟩, s₂, last, rfl, acts, primary⟩ := chosen.bind_ok_inv
          rw [← List.append_assoc]
          refine dispatched (fun e mem => ?_) (fun request status mem => ?_) primary
          · rw [rights_append, rights_map_left, List.nil_append] at mem
            exact ⟨guard, guarded, branching,
              dispatchBranchActions_emits (selectBranch_actions selecting) _ _ _ _ acts e mem⟩
          · rcases List.mem_append.mp mem with early | late
            · obtain ⟨event, known, same⟩ := List.mem_map.mp early
              have landmark : event = webauthnEvent request status := Event.left_injective same
              exact (collecting_selectBranch _ _ _ _ selecting).2 ⟨event, known, by
                rw [landmark]
                trivial⟩
            · exact dispatchBranchActions_unasked acts _ late

theorem ActionOrigin.completed {s s' : EvidenceCollector} {t : Trace RuntimeSig}
    (origin : ActionOrigin op ctx s t facts s') (ok : facts.actionOk = true) :
    facts.executionStatus = "completed" := by
  cases origin with
  | dispatched guard attempts validation result front _ branches =>
      have performed : result.ok = true := ok
      rw [primaryFacts, if_pos performed]
  | absent => rfl

/-- What a VERIFIED receipt of a run was decided from: the stages of the run. -/
structure Account (platform : Platform) (op : Operation) (ctx : ExecutionContext)
    (s : EvidenceCollector) (t : Trace RuntimeSig) (receipt : ExecutionReceipt) where
  facts : ActionFacts
  before : Trace QuietSig
  acting : Trace RuntimeSig
  concluding : Trace QuietSig
  release : Trace QuietSig
  split : t = before.map Event.left ++ (acting ++ (concluding.map Event.left ++
    release.map Event.left))
  s₁ : EvidenceCollector
  s₂ : EvidenceCollector
  enters : EvidenceCollector.Collects s s₁ ∧ ¬ Happens Asking before
  origin : ActionOrigin op ctx s₁ acting facts s₂
  decision : Decision platform op ctx facts s₂ concluding receipt
  released : ¬ Happens Landmark release

theorem exists_account {s s' : EvidenceCollector} {t : Trace RuntimeSig} {receipt : ExecutionReceipt}
    (run : Act.Runs (executeOperation platform op ctx) s t (.ok receipt) s')
    (verified : receipt.verdict = .verified) :
    Nonempty (Account platform op ctx s t receipt) := by
  unfold executeOperation at run
  obtain ⟨_, startedAtMs, s₀, t₁, rfl, clock, execution⟩ := run.bind_ok_inv
  obtain ⟨t₀, rfl, started⟩ := clock.of_left
  have body : Act.Runs (do
      Act.left (T := EffectSig) (validateRequest platform op ctx startedAtMs)
      guardedRun platform op ctx startedAtMs) s₀ t₁ (.ok receipt) s' := by
    rcases Act.runs_tryCatch.mp execution with ⟨_, eq, body⟩ | ⟨_, halt, _, _, rfl, -, handler⟩
    · cases eq
      exact body
    · cases halt with
      | receipt failed =>
          obtain ⟨-, eq, -⟩ := Act.runs_pure.mp handler
          cases eq
          exact absurd verified failed.unverified
      | raised e =>
          obtain ⟨-, eq, -⟩ := Act.runs_throw.mp handler
          cases eq
  obtain ⟨_, _, s₁, t₂, rfl, checking, guarded⟩ := body.bind_ok_inv
  obtain ⟨t₃, rfl, checked⟩ := checking.of_left
  unfold guardedRun at guarded
  obtain ⟨first, r, s₂, second, c, rfl, trying, cleanup, isResult⟩ := Act.runs_andFinally.mp guarded
  obtain ⟨release, rfl, releases⟩ := cleanup.of_left
  have isOk : r = .ok receipt := by
    cases c with
    | ok _ => exact isResult.symm
    | error e => cases isResult
  subst isOk
  have inner : Act.Runs (runOperation platform op ctx startedAtMs) s₁ first (.ok receipt) s₂ := by
    rcases Act.runs_tryCatch.mp trying with ⟨_, eq, inner⟩ | ⟨_, halt, _, _, rfl, -, handler⟩
    · cases eq
      exact inner
    · exact absurd verified ((recovery_shape handler).2 receipt rfl)
  rcases runOperation_inv inner with ⟨-, halt, eq⟩ |
    ⟨t₄, s₃, t₅, validation, s₄, acting, facts, s₅, after, rfl, acquired, prepared, acts, ends⟩
  · cases eq
  rcases ends with ⟨halt, -, -, eq, -⟩ | ⟨known, rfl, concludes⟩
  · cases eq
  obtain ⟨decision⟩ := conclude_decision concludes
  have entered : Entered platform op ctx s startedAtMs validation (t₀ ++ (t₃ ++ (t₄ ++ t₅))) s₄ :=
    ⟨t₀, s₀, t₃, s₁, t₄, s₃, t₅, rfl, started, checked, acquired, prepared⟩
  exact ⟨{
    facts := known
    before := t₀ ++ (t₃ ++ (t₄ ++ t₅))
    acting
    concluding := after
    release
    split := by simp only [List.map_append, List.append_assoc]
    s₁ := s₄
    s₂ := s₅
    enters := entered.surveying
    origin := act_origin acts
    decision
    released := (collecting_releaseBackend _ _ _ _ releases).2 }⟩

namespace Decision

variable {s : EvidenceCollector} {u : Trace QuietSig} {receipt : ExecutionReceipt}

/-- The host was asked for nothing, or for a participation in an action that was performed. -/
theorem unskipped (d : Decision platform op ctx facts s u receipt) :
    d.status = none ∨ facts.actionOk = true ∧ facts.guardedSkip = false := by
  obtain ⟨-, ⟨none_, -⟩ | ⟨ok, unskipped, -⟩⟩ := participateWebauthn_inv d.participates
  · exact .inl none_
  · exact .inr ⟨ok, unskipped⟩

/-- The only participation is the one that the status answers. -/
theorem participation (d : Decision platform op ctx facts s u receipt) (status : WebauthnStatus) :
    (∃ request, webauthnEvent request status ∈ u) ↔ d.status = some status := by
  have plain {request : Declared} {t : Trace QuietSig} (none_ : ¬ Happens Asking t) :
      webauthnEvent request status ∉ t := fun mem => none_ ⟨_, mem, trivial⟩
  have elsewhere (request : Declared) : webauthnEvent request status ∉
      d.observed ++ (d.checked ++ d.rest) := by
    rw [List.mem_append, List.mem_append]
    rintro (mem | mem | mem)
    · exact plain (surveying_observe _ _ _ _ d.observes).2 mem
    · exact plain (surveying_verify _ _ _ _ d.verifies).2 mem
    · exact d.plain ⟨_, mem, trivial⟩
  have asked : (∃ request, webauthnEvent request status ∈ u) ↔
      ∃ request, webauthnEvent request status ∈ d.asked := by
    apply exists_congr
    intro request
    conv_lhs => rw [d.split]
    rw [List.mem_append, or_iff_left (elsewhere request)]
  rw [asked]
  obtain ⟨-, ⟨none_, empty⟩ | ⟨-, -, request, answer, isSome, single⟩⟩ :=
    participateWebauthn_inv d.participates
  · rw [none_, empty]
    simp
  · rw [isSome, single]
    constructor
    · rintro ⟨request', mem⟩
      have same := List.mem_singleton.mp mem
      cases same
      rfl
    · intro same
      cases same
      exact ⟨request, List.mem_singleton_self _⟩

/-- Behind a VERIFIED receipt is an action that was performed, and either a
verdict or a quorum over declared expectations. -/
theorem reached (d : Decision platform op ctx facts s u receipt)
    (verified : receipt.verdict = .verified) :
    facts.actionOk = true ∧ ((settled facts d.status d.verdict).verdict = .verified ∨
      facts.activeExpectations ≠ []) := by
  obtain ⟨isVerified, -⟩ := d.verified verified
  obtain ⟨-, -, -, cause⟩ := applyQuorum_verified d.concluded isVerified
  have ok : facts.actionOk = true := by
    rcases d.unskipped with none_ | ⟨ok, -⟩
    · rcases cause with before | ⟨ok, -⟩
      · rw [none_] at before
        have decided : d.verdict = .verified := (applyGuard_verdict facts _).symm.trans before
        exact (decideVerdict_verified (decided ▸ d.decided)).1
      · exact ok
    · exact ok
  refine ⟨ok, ?_⟩
  rcases cause with before | ⟨-, some_⟩
  · exact .inl before
  · refine .inr fun none_ => some_ ?_
    have ids := verify_ids d.verifies ok
    rw [none_] at ids
    exact List.map_eq_nil_iff.mp ids

/-- The failure fields of a VERIFIED receipt are those of the stages before the
quorum. -/
theorem reports_iff_clean (d : Decision platform op ctx facts s u receipt)
    (verified : receipt.verdict = .verified) :
    receipt.ReportsNoFailure ↔ (settled facts d.status d.verdict).Clean := by
  obtain ⟨isVerified, status, error, kind⟩ := d.verified verified
  obtain ⟨kind', error', status', -⟩ := applyQuorum_verified d.concluded isVerified
  constructor
  · intro reports
    exact ⟨(kind.trans kind').symm.trans reports.kind, (error.trans error').symm.trans reports.error,
      (status.trans status').symm.trans reports.status⟩
  · intro clean
    exact ⟨(kind.trans kind').trans clean.kind, (error.trans error').trans clean.error,
      (status.trans status').trans clean.status⟩

end Decision

/-- A VERIFIED receipt reports no failure exactly when no stage before the quorum
reported one. -/
theorem reports_no_failure_iff {s : EvidenceCollector} {t : Trace RuntimeSig}
    {receipt : ExecutionReceipt} (account : Account platform op ctx s t receipt)
    (verified : receipt.verdict = .verified) :
    receipt.ReportsNoFailure ↔
      Undisturbed account.facts account.decision.status account.decision.verdict := by
  obtain ⟨ok, reached⟩ := account.decision.reached verified
  have unskipped : account.decision.status = none ∨ account.facts.guardedSkip = false :=
    account.decision.unskipped.imp_right And.right
  rw [account.decision.reports_iff_clean verified]
  exact settled_clean_iff (account.origin.completed ok) unskipped reached

/-- The participations of a run are those of its decision. -/
theorem Account.participation {s : EvidenceCollector} {t : Trace RuntimeSig}
    {receipt : ExecutionReceipt} (account : Account platform op ctx s t receipt)
    (status : WebauthnStatus) :
    (∃ request, Event.left (webauthnEvent request status) ∈ t) ↔
      account.decision.status = some status := by
  rw [← account.decision.participation status]
  apply exists_congr
  intro request
  have within {u : Trace QuietSig} :
      Event.left (webauthnEvent request status) ∈ (u.map Event.left : Trace RuntimeSig) ↔
        webauthnEvent request status ∈ u :=
    List.mem_map_of_injective Event.left_injective
  have before : webauthnEvent request status ∉ account.before :=
    fun mem => account.enters.2 ⟨_, mem, trivial⟩
  have release : webauthnEvent request status ∉ account.release :=
    fun mem => account.released ⟨_, mem, trivial⟩
  have acting : Event.left (webauthnEvent request status) ∉ account.acting := by
    intro mem
    obtain ⟨facts, before, acting, _, _, _, _, _, _, origin, _, _⟩ := account
    cases origin with
    | dispatched _ _ _ _ front _ _ unasked =>
        rcases List.mem_append.mp mem with early | last
        · exact unasked request status early
        · cases congrArg Sigma.fst (List.mem_singleton.mp last)
    | absent =>
        rw [within] at mem
        simp only [List.mem_cons, List.not_mem_nil, or_false] at mem
        rcases mem with same | same | same
        · cases congrArg Sigma.fst same
        · cases congrArg Sigma.fst same
        · cases congrArg Sigma.fst same
  conv_lhs => rw [account.split]
  rw [List.mem_append, List.mem_append, List.mem_append, within, within, within]
  constructor
  · rintro (mem | mem | mem | mem)
    · exact absurd mem before
    · exact absurd mem acting
    · exact mem
    · exact absurd mem release
  · intro mem
    exact .inr (.inr (.inl mem))

end Dingdongditch
