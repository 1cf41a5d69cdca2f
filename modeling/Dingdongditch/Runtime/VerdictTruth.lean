import Dingdongditch.Contract.OriginPolicy
import Dingdongditch.Runtime.Collector

/-!
# What a verified receipt says

A run that reports `VERIFIED` ought to have evaluated every declared
expectation, with the result `pass` and on fresh evidence.  Two blocks of
`_decide_verdict` return before the expectations are looked at: the one for
page-management actions, and the one for clicks with a page transition.  Away
from these shortcuts the receipt tells the truth (`conclude_verdictTrue`), and
on them any declared expectation can be ignored (`exists_ignored_expectation`).
-/

namespace Dingdongditch

open Interaction Text

variable {platform : Platform} {op : Operation} {ctx : ExecutionContext} {startedAtMs : Int}

/-! ## One result for each declared expectation -/

section Results

variable {codec : HostCodec} {vctx : VerificationContext} {s s' : EvidenceCollector}
  {t : Trace QuietSig}

theorem evaluateExpectation_id {index : Nat} {e : Expectation} {result : ExpectationResult}
    (run : Act.Runs (evaluateExpectation codec vctx index e) s t (.ok result) s') :
    result.expectationId = e.resolvedId index := by
  unfold evaluateExpectation at run
  obtain ⟨_, now, _, _, -, -, run⟩ := run.bind_ok_inv
  obtain ⟨_, ⟨kind, value⟩, _, _, -, -, run⟩ := run.bind_ok_inv
  obtain ⟨_, signal, _, _, -, -, run⟩ := run.bind_ok_inv
  obtain ⟨-, eq, -⟩ := Act.runs_pure.mp run
  cases eq
  rfl

theorem evaluateFrom_ids {index : Nat} {expectations : List Expectation}
    {results : List ExpectationResult}
    (run : Act.Runs (evaluateFrom codec vctx index expectations) s t (.ok results) s') :
    results.map (·.expectationId) =
      expectations.mapIdx fun k e => e.resolvedId (k + index) := by
  induction expectations generalizing index results s s' t with
  | nil =>
      obtain ⟨-, eq, -⟩ := Act.runs_pure.mp run
      cases eq
      rfl
  | cons e rest ih =>
      unfold evaluateFrom at run
      obtain ⟨_, result, _, _, -, head, run⟩ := run.bind_ok_inv
      obtain ⟨_, tail, _, _, -, loop, run⟩ := run.bind_ok_inv
      obtain ⟨-, eq, -⟩ := Act.runs_pure.mp run
      cases eq
      have shift : (fun k (e : Expectation) => e.resolvedId (k + (index + 1))) =
          fun k e => e.resolvedId (k + 1 + index) := by
        simp [Nat.add_comm, Nat.add_left_comm]
      rw [List.map_cons, List.mapIdx_cons, evaluateExpectation_id head, ih loop, shift]
      simp

theorem evaluateExpectations_ids {expectations : List Expectation}
    {results : List ExpectationResult}
    (run : Act.Runs (evaluateExpectations codec vctx expectations) s t (.ok results) s') :
    results.map (·.expectationId) = expectationIds expectations := by
  unfold evaluateExpectations at run
  rw [evaluateFrom_ids run]
  rfl

theorem pollOnce_ids {actionStarted deadline : Int} {expectations : List Expectation}
    {network : List NetworkRecord} {out : (Int × List ExpectationResult) × Bool}
    (run : Act.Runs (pollOnce platform op actionStarted deadline expectations network)
      s t (.ok out) s') :
    out.1.2.map (·.expectationId) = expectationIds expectations := by
  unfold pollOnce at run
  obtain ⟨_, completed, _, _, -, -, run⟩ := run.bind_ok_inv
  obtain ⟨_, postUrl, _, _, -, -, run⟩ := run.bind_ok_inv
  obtain ⟨_, results, _, _, -, evaluation, run⟩ := run.bind_ok_inv
  have ids : results.map (·.expectationId) = expectationIds expectations :=
    evaluateExpectations_ids evaluation
  split at run
  · obtain ⟨-, eq, -⟩ := Act.runs_pure.mp run
    cases eq
    exact ids
  · obtain ⟨_, now, _, _, -, -, run⟩ := run.bind_ok_inv
    obtain ⟨-, eq, -⟩ := Act.runs_pure.mp run
    cases eq
    exact ids

theorem pollExpectations_ids {actionStarted deadline : Int} {expectations : List Expectation}
    {polls : Nat} {network : List NetworkRecord} {out : Int × List ExpectationResult}
    (run : Act.Runs (pollExpectations platform op actionStarted deadline expectations polls network)
      s t (.ok out) s') :
    out.2.map (·.expectationId) = expectationIds expectations := by
  induction polls generalizing network s t with
  | zero =>
      unfold pollExpectations at run
      obtain ⟨_, ⟨last, finished⟩, _, _, -, round, run⟩ := run.bind_ok_inv
      dsimp only at run
      split at run
      · obtain ⟨-, eq, -⟩ := Act.runs_pure.mp run
        cases eq
        exact pollOnce_ids round
      · exact (Act.not_runs_diverge run).elim
  | succ polls ih =>
      unfold pollExpectations at run
      obtain ⟨_, ⟨last, finished⟩, _, _, -, round, run⟩ := run.bind_ok_inv
      dsimp only at run
      split at run
      · obtain ⟨-, eq, -⟩ := Act.runs_pure.mp run
        cases eq
        exact pollOnce_ids round
      · obtain ⟨_, _, _, _, -, -, run⟩ := run.bind_ok_inv
        obtain ⟨_, _, _, _, -, -, run⟩ := run.bind_ok_inv
        obtain ⟨_, _, _, _, -, -, run⟩ := run.bind_ok_inv
        exact ih run

theorem verify_ids {facts : ActionFacts} {verification : VerificationOutcome}
    (run : Act.Runs (verify platform op ctx facts) s t (.ok verification) s')
    (ok : facts.actionOk = true) :
    verification.results.map (·.expectationId) = expectationIds facts.activeExpectations := by
  unfold verify at run
  obtain ⟨_, collector, _, _, -, -, run⟩ := run.bind_ok_inv
  obtain ⟨_, started, _, _, -, -, run⟩ := run.bind_ok_inv
  split at run
  · obtain ⟨_, now, _, _, -, -, run⟩ := run.bind_ok_inv
    obtain ⟨_, out, _, _, -, loop, run⟩ := run.bind_ok_inv
    obtain ⟨-, eq, -⟩ := Act.runs_pure.mp run
    cases eq
    exact pollExpectations_ids loop
  · next skipped =>
      obtain ⟨-, eq, -⟩ := Act.runs_pure.mp run
      cases eq
      have none : facts.activeExpectations = [] := by
        simpa [ok] using skipped
      rw [none]
      rfl

end Results

/-! ## The decision -/

/-- The evidence on which `_decide_verdict` answers `VERIFIED` before it looks at
the declared expectations. -/
def ShortcutEvidence (type : ActionType) (evidence : PyDict) : Prop :=
  (type.managesPages = true ∧ (evidence.get "dispatched").isTrue = true) ∨
    (type = .click ∧ transitionVerified evidence = .ok true)

theorem expectationVerdict_verified {declared : Nat} {results : List ExpectationResult}
    {stale : List String} (verified : expectationVerdict declared results stale = .verified) :
    stale = [] ∧ ∀ r ∈ results, r.result = .pass := by
  unfold expectationVerdict at verified
  split at verified
  · cases verified
  · split at verified
    · cases verified
    · next fresh =>
        split at verified
        · cases verified
        · split at verified
          · cases verified
          · split at verified
            · next passed =>
                rw [Bool.and_eq_true, List.all_eq_true] at passed
                refine ⟨by simpa using fresh, fun r mem => ?_⟩
                exact of_decide_eq_true (passed.2 r mem)
            · cases verified

theorem waitVerdict_verified {evidence : PyDict} {declared : Nat}
    (verified : waitVerdict evidence declared = some .verified) : declared = 0 := by
  unfold waitVerdict at verified
  split at verified
  · split at verified
    · assumption
    · cases verified
  · split at verified
    · cases verified
    · split at verified
      · assumption
      · cases verified

/-- Why an execution without a shortcut is `VERIFIED`: nothing was declared, or
everything declared passed on fresh evidence. -/
theorem decideVerdict_verified {ok : Bool} {declared : Nat} {results : List ExpectationResult}
    {stale : List String} {type : ActionType} {evidence : Option PyDict}
    (decided : decideVerdict ok declared results stale type evidence = .ok .verified) :
    ok = true ∧ (ShortcutEvidence type (evidence.getD []) ∨ declared = 0 ∨
      (stale = [] ∧ ∀ r ∈ results, r.result = .pass)) := by
  unfold decideVerdict at decided
  dsimp only at decided
  split at decided
  · cases decided
  · next ok =>
      refine ⟨by simpa using ok, ?_⟩
      split at decided
      · next verdict waited =>
          cases decided
          split at waited
          · exact .inr (.inl (waitVerdict_verified waited))
          · cases waited
      · split at decided
        · next pages => exact .inl (.inl (by simpa using pages))
        · split at decided
          · cases completed : downloadCompleted (evidence.getD []) with
            | error e => rw [completed] at decided; cases decided
            | ok complete =>
                rw [completed] at decided
                replace decided := Except.ok.inj decided
                split at decided
                · next both =>
                    rw [Bool.and_eq_true] at both
                    exact .inr (.inl (of_decide_eq_true both.2))
                · exact .inr (.inr (expectationVerdict_verified decided))
          · split at decided
            · next isClick =>
                cases transition : transitionVerified (evidence.getD []) with
                | error e => rw [transition] at decided; cases decided
                | ok passed =>
                    rw [transition] at decided
                    replace decided := Except.ok.inj decided
                    split at decided
                    · next isPassed =>
                        subst isPassed
                        exact .inl (.inr ⟨isClick, transition⟩)
                    · exact .inr (.inr (expectationVerdict_verified decided))
            · exact .inr (.inr (expectationVerdict_verified (Except.ok.inj decided)))

/-- The converse: a shortcut decides whatever the expectations came out as. -/
theorem decideVerdict_of_shortcut {declared : Nat} {results : List ExpectationResult}
    {stale : List String} {type : ActionType} {evidence : Option PyDict}
    (shortcut : ShortcutEvidence type (evidence.getD [])) :
    decideVerdict true declared results stale type evidence = .ok .verified := by
  unfold decideVerdict
  rcases shortcut with ⟨pages, dispatched⟩ | ⟨rfl, transition⟩
  · have notWait : type ≠ .waitFor := by
      rintro rfl
      cases pages
    simp [notWait, pages, dispatched]
  · simp [ActionType.managesPages, transition]

/-! ## After the dispatch -/

/-- What the artifacts of a receipt leave alone. -/
structure SameReport (before after : ExecutionReceipt) : Prop where
  results : after.expectationResults = before.expectationResults
  freshness : after.freshness = before.freshness
  executed : after.actionExecutedSuccessfully = before.actionExecutedSuccessfully
  started : after.actionStartedAtMs = before.actionStartedAtMs
  evidence : after.actionEvidence = before.actionEvidence
  verified : after.verdict = .verified → before.verdict = .verified ∧
    after.executionStatus = before.executionStatus ∧
    after.executionError = before.executionError ∧ after.failureKind = before.failureKind

theorem SameReport.refl (receipt : ExecutionReceipt) : SameReport receipt receipt :=
  ⟨rfl, rfl, rfl, rfl, rfl, fun verified => ⟨verified, rfl, rfl, rfl⟩⟩

theorem SameReport.trans {a b c : ExecutionReceipt} (first : SameReport a b)
    (second : SameReport b c) : SameReport a c where
  results := second.results.trans first.results
  freshness := second.freshness.trans first.freshness
  executed := second.executed.trans first.executed
  started := second.started.trans first.started
  evidence := second.evidence.trans first.evidence
  verified verified := by
    obtain ⟨before, status, error, kind⟩ := second.verified verified
    obtain ⟨start, status', error', kind'⟩ := first.verified before
    exact ⟨start, status.trans status', error.trans error', kind.trans kind'⟩

theorem withScreenshot_sameReport (config : ScreenshotConfig) (shot : ScreenshotFacts)
    (receipt : ExecutionReceipt) : SameReport receipt (receipt.withScreenshot config shot) := by
  unfold ExecutionReceipt.withScreenshot
  dsimp only
  split
  · exact ⟨rfl, rfl, rfl, rfl, rfl, fun verified => by cases verified⟩
  · exact ⟨rfl, rfl, rfl, rfl, rfl, fun verified => ⟨verified, rfl, rfl, rfl⟩⟩

theorem applyGuard_verdict (facts : ActionFacts) (c : Conclusion) :
    (applyGuard facts c).verdict = c.verdict := by
  unfold applyGuard
  split <;> rfl

theorem applyGuard_status {facts : ActionFacts} {c : Conclusion} (verified : c.verdict = .verified) :
    (applyGuard facts c).executionStatus = c.executionStatus := by
  unfold applyGuard
  rw [verified]
  simp

section Conclude

variable {s s' : EvidenceCollector} {t : Trace QuietSig} {facts : ActionFacts}

theorem attachNetworkArtifact_sameReport {before after : ExecutionReceipt}
    (run : Act.Runs (attachNetworkArtifact op before) s t (.ok after) s') :
    SameReport before after := by
  unfold attachNetworkArtifact at run
  split at run
  · obtain ⟨-, eq, -⟩ := Act.runs_pure.mp run
    cases eq
    exact .refl before
  · obtain ⟨_, id, _, _, -, -, run⟩ := run.bind_ok_inv
    obtain ⟨-, eq, -⟩ := Act.runs_pure.mp run
    cases eq
    exact ⟨rfl, rfl, rfl, rfl, rfl, fun verified => ⟨verified, rfl, rfl, rfl⟩⟩

theorem attachScreenshot_sameReport {before after : ExecutionReceipt}
    (run : Act.Runs (attachScreenshot op ctx before) s t (.ok after) s') :
    SameReport before after := by
  unfold attachScreenshot at run
  dsimp only at run
  split at run
  · obtain ⟨_, shot, _, _, -, -, run⟩ := run.bind_ok_inv
    obtain ⟨-, eq, -⟩ := Act.runs_pure.mp run
    cases eq
    exact withScreenshot_sameReport _ shot before
  · obtain ⟨-, eq, -⟩ := Act.runs_pure.mp run
    cases eq
    exact .refl before

/-- What a receipt that is not an early end was decided from: the answer of the host, an
observation of the page, and the verification, in this order. -/
structure Decision (platform : Platform) (op : Operation) (ctx : ExecutionContext)
    (facts : ActionFacts) (s : EvidenceCollector) (t : Trace QuietSig)
    (receipt : ExecutionReceipt) where
  status : Option WebauthnStatus
  observation : BackendObservation
  verification : VerificationOutcome
  verdict : Verdict
  conclusion : Conclusion
  asked : Trace QuietSig
  observed : Trace QuietSig
  checked : Trace QuietSig
  rest : Trace QuietSig
  split : t = asked ++ (observed ++ (checked ++ rest))
  s₁ : EvidenceCollector
  s₂ : EvidenceCollector
  s₃ : EvidenceCollector
  participates : Act.Runs (participateWebauthn op facts) s asked (.ok status) s₁
  observes : Act.Runs Quiet.observe s₁ observed (.ok observation) s₂
  verifies : Act.Runs (verify platform op ctx facts) s₂ checked (.ok verification) s₃
  plain : ¬ Happens Landmark rest
  decided : decideVerdict facts.actionOk facts.activeExpectations.length verification.results
    (if facts.activeExpectations.isEmpty then []
      else (finalFreshness op facts verification s₃.signals).staleSignalIds)
    op.action.type (attachWebauthn status facts.actionEvidence) = .ok verdict
  concluded : applyQuorum op facts verification.results (applyGuard facts (applyWebauthn facts status
    ⟨verdict, facts.executionStatus, facts.executionError, facts.failureKind, none⟩)) =
      .ok conclusion
  results : receipt.expectationResults = verification.results
  freshness : receipt.freshness = finalFreshness op facts verification s₃.signals
  executed : receipt.actionExecutedSuccessfully = (facts.actionOk && !facts.guardedSkip)
  verified : receipt.verdict = .verified → conclusion.verdict = .verified ∧
    receipt.executionStatus = conclusion.executionStatus ∧
    receipt.executionError = conclusion.executionError ∧
    receipt.failureKind = conclusion.failureKind

theorem conclude_decision {receipt : ExecutionReceipt}
    (run : Act.Runs (conclude platform op ctx startedAtMs facts) s t (.ok receipt) s') :
    Nonempty (Decision platform op ctx facts s t receipt) := by
  unfold conclude at run
  obtain ⟨asked, status, s₁, _, rfl, participates, run⟩ := run.bind_ok_inv
  dsimp only at run
  obtain ⟨observed, observation, s₂, _, rfl, observes, run⟩ := run.bind_ok_inv
  obtain ⟨checked, verification, s₃, _, rfl, verifying, run⟩ := run.bind_ok_inv
  obtain ⟨_, collector, _, _, rfl, gets, run⟩ := run.bind_ok_inv
  obtain ⟨_, verdict, _, _, rfl, deciding, run⟩ := run.bind_ok_inv
  obtain ⟨_, conclusion, _, _, rfl, concluding, run⟩ := run.bind_ok_inv
  obtain ⟨clock, finished, _, _, rfl, finishes, run⟩ := run.bind_ok_inv
  obtain ⟨shown, url, _, _, rfl, shows, run⟩ := run.bind_ok_inv
  obtain ⟨sent, first, _, _, rfl, network, run⟩ := run.bind_ok_inv
  obtain ⟨taken, second, _, _, rfl, screenshot, run⟩ := run.bind_ok_inv
  obtain ⟨rfl, eq, -⟩ := Act.runs_pure.mp run
  cases eq
  obtain ⟨rfl, decided, rfl⟩ := Act.runs_ofExcept.mp deciding
  obtain ⟨rfl, concluded, rfl⟩ := Act.runs_ofExcept.mp concluding
  obtain ⟨rfl, collected, rfl⟩ := Act.runs_get.mp gets
  cases collected
  have same := (attachNetworkArtifact_sameReport network).trans
    (attachScreenshot_sameReport screenshot)
  exact ⟨{
    status
    observation
    verification
    verdict
    conclusion
    asked, observed, checked
    rest := _
    split := rfl
    s₁, s₂, s₃ := _
    participates
    observes
    verifies := verifying
    plain := by
      simp only [List.nil_append, List.append_nil, happens_append, not_or]
      exact ⟨(collecting_monotonicMs _ _ _ _ finishes).2, (collecting_pageUrl _ _ _ _ shows).2,
        (collecting_attachNetworkArtifact _ _ _ _ network).2,
        (collecting_attachScreenshot _ _ _ _ screenshot).2⟩
    decided := Act.mapError_eq_ok.mp decided.symm
    concluded := Act.mapError_eq_ok.mp concluded.symm
    results := same.results
    freshness := same.freshness
    executed := same.executed
    verified := same.verified }⟩

theorem participateWebauthn_none {status : Option WebauthnStatus} (noWebauthn : op.webauthn = none)
    (run : Act.Runs (participateWebauthn op facts) s t (.ok status) s') : status = none := by
  unfold participateWebauthn at run
  rw [noWebauthn] at run
  obtain ⟨-, eq, -⟩ := Act.runs_pure.mp run
  exact Except.ok.inj eq

/-- A receipt without quorum and WebAuthn has the verdict of its expectations. -/
theorem conclude_inv {receipt : ExecutionReceipt} (noQuorum : op.verificationQuorum = none)
    (noWebauthn : op.webauthn = none)
    (run : Act.Runs (conclude platform op ctx startedAtMs facts) s t (.ok receipt) s') :
    ∃ verification verdict signals,
      (facts.actionOk = true → verification.results.map (·.expectationId) =
        expectationIds facts.activeExpectations) ∧
      decideVerdict facts.actionOk facts.activeExpectations.length verification.results
        (if facts.activeExpectations.isEmpty then []
          else (finalFreshness op facts verification signals).staleSignalIds)
        op.action.type facts.actionEvidence = .ok verdict ∧
      receipt.expectationResults = verification.results ∧
      receipt.freshness = finalFreshness op facts verification signals ∧
      receipt.actionExecutedSuccessfully = (facts.actionOk && !facts.guardedSkip) ∧
      (receipt.verdict = .verified → verdict = .verified ∧
        receipt.executionStatus = facts.executionStatus) := by
  obtain ⟨d⟩ := conclude_decision run
  have noStatus := participateWebauthn_none noWebauthn d.participates
  have decided := d.decided
  have concluded := d.concluded
  rw [noStatus] at decided concluded
  unfold applyQuorum at concluded
  rw [noQuorum] at concluded
  replace concluded := Except.ok.inj concluded
  refine ⟨d.verification, d.verdict, d.s₃.signals, verify_ids d.verifies, decided, d.results,
    d.freshness, d.executed, fun verified => ?_⟩
  obtain ⟨before, status, -⟩ := d.verified verified
  rw [← concluded] at before status
  have isVerified : d.verdict = .verified := (applyGuard_verdict facts ⟨d.verdict,
    facts.executionStatus, facts.executionError, facts.failureKind, none⟩).symm.trans before
  refine ⟨isVerified, status.trans ?_⟩
  exact applyGuard_status isVerified

end Conclude

/-! ## Verdict truth -/

/-- The outcome of a dispatch that is reported `VERIFIED` whatever the declared
expectations come out as. -/
def Shortcut (op : Operation) (result : ActionDispatchResult) : Prop :=
  result.ok = true ∧ ShortcutEvidence op.action.type (result.actionEvidence.getD [])

/-- Every one of the expectations was evaluated, passed, and passed on evidence
that was not stale. -/
structure AllPassed (expectations : List Expectation) (receipt : ExecutionReceipt) : Prop where
  reported : receipt.expectationResults.map (·.expectationId) = expectationIds expectations
  passed : ∀ r ∈ receipt.expectationResults, r.result = .pass
  fresh : receipt.freshness.staleSignalIds = []

/-- What `VERIFIED` has to mean after a run with the trace `t`: the action
succeeded and the declared expectations passed; or nothing was dispatched
because the guarded target is absent, and the expectations of that branch
passed. -/
def VerdictTrue (op : Operation) (t : Trace RuntimeSig) (receipt : ExecutionReceipt) : Prop :=
  receipt.verdict = .verified → receipt.executionStatus = "completed" ∧
    ((∃ timing result, dispatchEvent op timing (.ok result) ∈ rights t ∧ result.ok = true ∧
        receipt.actionExecutedSuccessfully = true ∧ AllPassed op.expectations receipt) ∨
      (∃ guard expectations, op.guard = some guard ∧
        guard.whenTargetAbsent = some expectations ∧ rights t = [] ∧
        AllPassed expectations receipt))

theorem transitionVerified_congr {a b : PyDict}
    (transition : a.get "page_transition" = b.get "page_transition")
    (results : a.get "new_page_verification_results" = b.get "new_page_verification_results") :
    transitionVerified a = transitionVerified b := by
  unfold transitionVerified
  rw [transition, results]

theorem shortcutEvidence_congr {type : ActionType} {a b : PyDict}
    (same : ∀ key ∈ ["dispatched", "page_transition", "new_page_verification_results"],
      a.get key = b.get key) : ShortcutEvidence type a ↔ ShortcutEvidence type b := by
  unfold ShortcutEvidence
  rw [same "dispatched" (by simp), transitionVerified_congr (same "page_transition" (by simp))
    (same "new_page_verification_results" (by simp))]

/-- The evidence the executor adds is not what the shortcuts read. -/
theorem shortcutEvidence_attach (type : ActionType) (guard : GuardEvidence) (ok : Bool)
    (validation : Option ObservationFreshnessResult) (evidence : Option PyDict) :
    ShortcutEvidence type ((attachObservation validation (guard.attach ok evidence)).getD []) ↔
      ShortcutEvidence type (evidence.getD []) := by
  have attached : ShortcutEvidence type ((guard.attach ok evidence).getD []) ↔
      ShortcutEvidence type (evidence.getD []) := by
    cases guard with
    | none => rfl
    | targetPresent =>
        refine shortcutEvidence_congr fun key mem => PyDict.get_update_of_not_mem ?_ _
        intro entry inEntries same
        subst same
        revert mem inEntries
        simp
        rintro (rfl | rfl | rfl | rfl) <;> simp
    | branches record =>
        refine shortcutEvidence_congr fun key mem => PyDict.get_set_ne ?_ _ _
        rintro rfl
        revert mem
        simp
  cases validation with
  | none => exact attached
  | some v =>
      refine Iff.trans (shortcutEvidence_congr fun key mem => PyDict.get_set_ne ?_ _ _) attached
      rintro rfl
      revert mem
      simp

theorem not_shortcutEvidence_absent (type : ActionType) (expectations : List Expectation)
    (started completed : Int) :
    ¬ ShortcutEvidence type ((absentFacts expectations started completed).actionEvidence.getD []) := by
  rintro (⟨-, dispatched⟩ | ⟨-, transition⟩)
  · cases dispatched
  · cases transition

theorem finalFreshness_of_no_results {facts : ActionFacts} {verification : VerificationOutcome}
    {signals : List EvidenceSignal} (none : verification.results = []) :
    (finalFreshness op facts verification signals).staleSignalIds = [] := by
  unfold finalFreshness evaluateFreshness
  rw [none]
  rfl

theorem conclude_passed {facts : ActionFacts} {receipt : ExecutionReceipt}
    {s s' : EvidenceCollector} {t : Trace QuietSig} (noQuorum : op.verificationQuorum = none)
    (noWebauthn : op.webauthn = none)
    (run : Act.Runs (conclude platform op ctx startedAtMs facts) s t (.ok receipt) s')
    (verified : receipt.verdict = .verified)
    (straight : facts.actionOk = true →
      ShortcutEvidence op.action.type (facts.actionEvidence.getD []) →
      facts.activeExpectations = []) :
    facts.actionOk = true ∧ receipt.executionStatus = facts.executionStatus ∧
      receipt.actionExecutedSuccessfully = !facts.guardedSkip ∧
      AllPassed facts.activeExpectations receipt := by
  obtain ⟨verification, verdict, signals, ids, decided, results, freshness, executed, isVerified⟩ :=
    conclude_inv noQuorum noWebauthn run
  obtain ⟨rfl, status⟩ := isVerified verified
  obtain ⟨ok, reason⟩ := decideVerdict_verified decided
  have ids := ids ok
  rw [ok, Bool.true_and] at executed
  refine ⟨ok, status, executed, ?_⟩
  by_cases declared : facts.activeExpectations = []
  · have none : verification.results = [] := by
      rw [declared] at ids
      exact List.map_eq_nil_iff.mp ids
    refine ⟨by rw [results, ids], ?_, ?_⟩
    · rw [results, none]
      exact fun r mem => (List.not_mem_nil mem).elim
    · rw [freshness, finalFreshness_of_no_results none]
  · rcases reason with shortcut | empty | ⟨fresh, passed⟩
    · exact absurd (straight ok shortcut) declared
    · exact absurd (List.length_eq_zero_iff.mp empty) declared
    · have some_ : facts.activeExpectations.isEmpty = false := by
        simpa using declared
      rw [some_] at fresh
      refine ⟨by rw [results, ids], by rw [results]; exact passed, ?_⟩
      rw [freshness]
      exact fresh

/-- In every run whose own dispatch, if there is one, is not a shortcut around
declared expectations, the verdict is true. -/
theorem executeOperation_verdictTrue (noQuorum : op.verificationQuorum = none)
    (noWebauthn : op.webauthn = none) {s s' : EvidenceCollector} {t : Trace RuntimeSig}
    {receipt : ExecutionReceipt}
    (run : Act.Runs (executeOperation platform op ctx) s t (.ok receipt) s')
    (straight : ∀ timing result, dispatchEvent op timing (.ok result) ∈ rights t →
      op.expectations = [] ∨ ¬ Shortcut op result) : VerdictTrue op t receipt := by
  intro verified
  have shape := executeOperation_shape run
  generalize isResult : Except.ok receipt = r at shape
  cases shape with
  | early _ _ _ failed => exact absurd verified (failed receipt isResult.symm)
  | reached startedAtMs validation before s₁ acting facts s₂ after _ entered acts quiet reports =>
      obtain ⟨actionFacts, u, s₃, rfl, -, concludes⟩ := reports receipt isResult.symm verified
      have events : rights (before.map Event.left ++ acting ++ after) = rights acting := by
        rw [rights_append, rights_append, rights_map_left, quiet, List.append_nil, List.nil_append]
      rw [events] at straight ⊢
      have shape := act_shape acts
      generalize isFacts : Except.ok actionFacts = facts at shape
      cases shape with
      | ended halt _ _ => cases isFacts
      | absent guard expectations started completed _ guarded legacy silent =>
          cases isFacts
          obtain ⟨-, status, -, passed⟩ := conclude_passed noQuorum noWebauthn concludes verified
            fun _ shortcut => absurd shortcut (not_shortcutEvidence_absent _ _ _ _)
          exact ⟨status, .inr ⟨guard, expectations, guarded, legacy, silent, passed⟩⟩
      | primary guard attempts front answer branches _ =>
          cases answer with
          | error e => cases isFacts
          | ok result =>
              cases isFacts
              have here : dispatchEvent op ctx.planTiming (.ok result) ∈
                  rights (front ++ [Event.right (dispatchEvent op ctx.planTiming (.ok result))]) := by
                rw [rights_append]
                exact List.mem_append_right _ List.mem_cons_self
              have declared : result.ok = true → ShortcutEvidence op.action.type
                  ((primaryFacts op guard attempts validation result).actionEvidence.getD []) →
                  op.expectations = [] := by
                intro ok shortcut
                refine (straight ctx.planTiming result here).resolve_right fun notShortcut => ?_
                exact notShortcut ⟨ok, (shortcutEvidence_attach _ _ _ _ _).mp shortcut⟩
              obtain ⟨ok, status, executed, passed⟩ := conclude_passed noQuorum noWebauthn
                concludes verified declared
              have succeeded : result.ok = true := ok
              refine ⟨?_, .inl ⟨ctx.planTiming, result, here, succeeded, executed, passed⟩⟩
              rw [status, primaryFacts, if_pos succeeded]

/-! ## Shortcuts ignore any declared expectation -/

section Ignored

variable {s : EvidenceCollector} {codec : HostCodec} {vctx : VerificationContext}

/-- Whatever a valid expectation demands, some behaviour of a page without a URL
and without network traffic fails it. -/
theorem reaches_failing_evidence {e : Expectation} (valid : e.validate = .ok ())
    (noUrl : vctx.postUrl = "") (noNetwork : vctx.postNetwork = []) :
    Act.Reaches (evaluateEvidence codec vctx e) s fun r s' => s' = s ∧
      ∃ out, r = .ok out ∧ out.2 ≠ .pass := by
  unfold evaluateEvidence
  cases type : e.type with
  | url =>
      have required := Expectation.validate_url valid type
      cases value : e.urlValue with
      | none => rw [value] at required; cases required
      | some text =>
          rw [value] at required
          have nonempty : text ≠ "" := of_decide_eq_true required
          dsimp only
          cases e.urlMatch with
          | exact =>
              refine Act.Reaches.pure ⟨rfl, _, rfl, ?_⟩
              rw [noUrl, ResultValue.ofBool, if_neg (by simpa using Ne.symm nonempty)]
              decide
          | contains =>
              refine Act.Reaches.pure ⟨rfl, _, rfl, ?_⟩
              have absent : contains text.toList "".toList = false := by
                have notNil : text.toList ≠ [] := by
                  simpa using nonempty
                obtain ⟨c, rest, eq⟩ := List.exists_cons_of_ne_nil notNil
                rw [eq]
                rfl
              rw [noUrl, absent]
              decide
  | network =>
      have nothing : networkMatches codec e vctx.postNetwork vctx.actionStartedAtMs = .ok .fail := by
        rw [noNetwork]
        rfl
      dsimp only
      rw [nothing]
      refine Act.Reaches.bind (Act.Reaches.ofExcept ⟨.fail, rfl, ?_⟩)
      exact Act.Reaches.pure ⟨rfl, _, rfl, by decide⟩
  | _ =>
      have located := Expectation.validate_locator valid (by rw [Expectation.targetScoped, type])
      obtain ⟨locator, isLocator⟩ := Option.isSome_iff_exists.mp located
      rw [isLocator]
      let state : ElementState := { ambiguous := true }
      refine Act.Reaches.bind (Act.Reaches.attempt (Except.ok state) ⟨state, rfl, ?_⟩)
      refine Act.Reaches.pure ⟨rfl, _, rfl, ?_⟩
      rw [if_pos rfl]
      decide

theorem reaches_failing_result (noUrl : vctx.postUrl = "") (noNetwork : vctx.postNetwork = [])
    {index : Nat} {e : Expectation} (valid : e.validate = .ok ()) :
    Act.Reaches (evaluateExpectation codec vctx index e) s fun r _ =>
      ∃ result, r = .ok result ∧ result.result ≠ .pass := by
  unfold evaluateExpectation
  refine Act.Reaches.bind (Act.Reaches.ask (S := QuietSig) (c := .monotonicMs) (0 : Int) ⟨_, rfl, ?_⟩)
  refine Act.Reaches.bind ((reaches_failing_evidence valid noUrl noNetwork).mono ?_)
  intro r s' ⟨_, ⟨kind, value⟩, isOk, notPass⟩
  refine ⟨(kind, value), isOk, ?_⟩
  refine Act.Reaches.bind (Act.Reaches.modifyGet ⟨_, rfl, ?_⟩)
  refine Act.Reaches.pure ⟨_, rfl, ?_⟩
  dsimp only
  split
  · exact notPass
  · decide

theorem reaches_failing_results (noUrl : vctx.postUrl = "") (noNetwork : vctx.postNetwork = [])
    {index : Nat} {expectations : List Expectation}
    (valid : ∀ e ∈ expectations, e.validate = .ok ()) :
    Act.Reaches (evaluateFrom codec vctx index expectations) s fun r _ =>
      ∃ results, r = .ok results ∧ results.length = expectations.length ∧
        ∀ result ∈ results, result.result ≠ .pass := by
  induction expectations generalizing index s with
  | nil => exact Act.Reaches.pure ⟨[], rfl, rfl, fun _ mem => (List.not_mem_nil mem).elim⟩
  | cons e rest ih =>
      refine Act.Reaches.bind
        ((reaches_failing_result noUrl noNetwork (valid e List.mem_cons_self)).mono ?_)
      intro _ s₁ ⟨result, isOk, notPass⟩
      refine ⟨result, isOk, Act.Reaches.bind
        ((ih fun e mem => valid e (List.mem_cons_of_mem _ mem)).mono ?_)⟩
      intro _ s₂ ⟨results, isOk, length, failing⟩
      refine ⟨results, isOk, Act.Reaches.pure ⟨result :: results, rfl, by simp [length], ?_⟩⟩
      intro other mem
      rcases List.mem_cons.mp mem with rfl | inRest
      · exact notPass
      · exact failing other inRest

/-- The verification loop may end with nothing passed, at its first evaluation. -/
theorem reaches_failing_poll {actionStarted deadline : Int} {expectations : List Expectation}
    {polls : Nat} (valid : ∀ e ∈ expectations, e.validate = .ok ())
    (declared : expectations ≠ []) :
    Act.Reaches (pollExpectations platform op actionStarted deadline expectations polls []) s
      fun r _ => ∃ completed results, r = .ok (completed, results) ∧ results ≠ [] ∧
        ∀ result ∈ results, result.result ≠ .pass := by
  have round : Act.Reaches (pollOnce platform op actionStarted deadline expectations []) s
      fun r _ => ∃ completed results, r = .ok ((completed, results), true) ∧ results ≠ [] ∧
        ∀ result ∈ results, result.result ≠ .pass := by
    unfold pollOnce
    refine Act.Reaches.bind (Act.Reaches.ask (S := QuietSig) (c := .monotonicMs) (0 : Int)
      ⟨0, rfl, ?_⟩)
    refine Act.Reaches.bind (Act.Reaches.attempt (Except.ok "") ⟨"", rfl, ?_⟩)
    refine Act.Reaches.bind ((reaches_failing_results rfl rfl valid).mono ?_)
    rintro _ s₁ ⟨results, isOk, length, failing⟩
    refine ⟨results, isOk, ?_⟩
    have nonempty : results ≠ [] := by
      intro empty
      rw [empty] at length
      exact declared (List.length_eq_zero_iff.mp length.symm)
    split
    · exact Act.Reaches.pure ⟨0, results, rfl, nonempty, failing⟩
    · refine Act.Reaches.bind (Act.Reaches.ask (S := QuietSig) (c := .monotonicMs) deadline
        ⟨deadline, rfl, ?_⟩)
      refine Act.Reaches.pure ⟨0, results, ?_, nonempty, failing⟩
      rw [decide_eq_true (Int.le_refl deadline)]
  unfold pollExpectations
  refine Act.Reaches.bind (round.mono ?_)
  rintro _ s₁ ⟨completed, results, isOk, nonempty, failing⟩
  exact ⟨_, isOk, Act.Reaches.pure ⟨completed, results, rfl, nonempty, failing⟩⟩

theorem reaches_failing_verify {facts : ActionFacts} (ok : facts.actionOk = true)
    (valid : ∀ e ∈ facts.activeExpectations, e.validate = .ok ())
    (declared : facts.activeExpectations ≠ []) (noNetwork : s.latestNetwork = []) :
    Act.Reaches (verify platform op ctx facts) s fun r _ => ∃ verification, r = .ok verification ∧
      ∃ result ∈ verification.results, result.result ≠ .pass := by
  have some_ : (facts.actionOk && !facts.activeExpectations.isEmpty) = true := by
    simp [ok, declared]
  unfold verify
  refine Act.Reaches.bind (Act.Reaches.get ⟨s, rfl, ?_⟩)
  refine Act.Reaches.bind (Act.Reaches.ask (S := QuietSig) (c := .monotonicMs) (0 : Int)
    ⟨0, rfl, ?_⟩)
  rw [if_pos some_, noNetwork]
  refine Act.Reaches.bind (Act.Reaches.ask (S := QuietSig) (c := .monotonicMs) (0 : Int)
    ⟨0, rfl, ?_⟩)
  refine Act.Reaches.bind ((reaches_failing_poll valid declared).mono ?_)
  intro _ s₁ ⟨completed, results, isOk, nonempty, failing⟩
  refine ⟨_, isOk, Act.Reaches.pure ⟨_, rfl, ?_⟩⟩
  obtain ⟨result, rest, eq⟩ := List.exists_cons_of_ne_nil nonempty
  have mem : result ∈ results := eq ▸ List.mem_cons_self
  exact ⟨result, mem, failing result mem⟩

theorem latestNetwork_add_empty (c : EvidenceCollector) (at_ : Int) :
    (c.add .network at_ (.records [])).latestNetwork = [] := by
  have last : ∀ (after : EvidenceCollector) (signals : List EvidenceSignal),
      after.signals = signals ++ [c.nextSignal .network at_ (.records [])] →
      after.latestNetwork = [] := by
    intro after signals appended
    unfold EvidenceCollector.latestNetwork
    rw [appended, List.reverse_append]
    rfl
  unfold EvidenceCollector.add
  dsimp only
  split
  · cases c.signals with
    | nil => rfl
    | cons signal rest => exact last _ rest (by simp)
  · exact last _ c.signals rfl

/-- The page may show no network traffic. -/
theorem reaches_observe : Act.Reaches Quiet.observe s fun r s' =>
    ∃ observation, r = .ok observation ∧ s'.latestNetwork = [] := by
  let observation : BackendObservation := ⟨0, "", []⟩
  unfold Quiet.observe
  refine Act.Reaches.bind (Act.Reaches.ask (S := QuietSig) (c := .observe) observation ⟨_, rfl, ?_⟩)
  refine Act.Reaches.bind (Act.Reaches.modifyGet ⟨_, rfl, ?_⟩)
  refine Act.Reaches.bind (Act.Reaches.modifyGet ⟨_, rfl, ?_⟩)
  exact Act.Reaches.pure ⟨observation, rfl, latestNetwork_add_empty _ _⟩

theorem reaches_networkArtifact (receipt : ExecutionReceipt) :
    Act.Reaches (attachNetworkArtifact op receipt) s fun r _ => ∃ after, r = .ok after ∧
      after.verdict = receipt.verdict ∧ after.expectationResults = receipt.expectationResults := by
  unfold attachNetworkArtifact
  split
  · exact Act.Reaches.pure ⟨receipt, rfl, rfl, rfl⟩
  · refine Act.Reaches.bind (Act.Reaches.attempt (Except.ok "") ⟨"", rfl, ?_⟩)
    exact Act.Reaches.pure ⟨_, rfl, rfl, rfl⟩

/-- The screenshot may be captured, with its redaction applied. -/
theorem reaches_screenshot (receipt : ExecutionReceipt) :
    Act.Reaches (attachScreenshot op ctx receipt) s fun r _ => ∃ after, r = .ok after ∧
      after.verdict = receipt.verdict ∧ after.expectationResults = receipt.expectationResults := by
  let shot : ScreenshotFacts := ⟨"", true, some "applied", none⟩
  unfold attachScreenshot
  dsimp only
  split
  · refine Act.Reaches.bind (Act.Reaches.attempt (Except.ok shot) ⟨shot, rfl, ?_⟩)
    refine Act.Reaches.pure ⟨_, rfl, ?_⟩
    unfold ExecutionReceipt.withScreenshot
    rw [if_neg (by simp [shot])]
    exact ⟨rfl, rfl⟩
  · exact Act.Reaches.pure ⟨receipt, rfl, rfl, rfl⟩

/-- After a shortcut, the receipt may be `VERIFIED` although some declared
expectation did not pass. -/
theorem reaches_ignored {facts : ActionFacts} (noQuorum : op.verificationQuorum = none)
    (noWebauthn : op.webauthn = none) (ok : facts.actionOk = true)
    (shortcut : ShortcutEvidence op.action.type (facts.actionEvidence.getD []))
    (valid : ∀ e ∈ facts.activeExpectations, e.validate = .ok ())
    (declared : facts.activeExpectations ≠ []) :
    Act.Reaches (conclude platform op ctx startedAtMs facts) s fun r _ =>
      ∃ receipt, r = .ok receipt ∧ receipt.verdict = .verified ∧
        ∃ result ∈ receipt.expectationResults, result.result ≠ .pass := by
  unfold conclude participateWebauthn
  rw [noWebauthn]
  refine Act.Reaches.bind (Act.Reaches.pure ⟨none, rfl, ?_⟩)
  refine Act.Reaches.bind (reaches_observe.mono ?_)
  intro _ s₁ ⟨observation, isOk, noNetwork⟩
  refine ⟨observation, isOk, ?_⟩
  refine Act.Reaches.bind ((reaches_failing_verify ok valid declared noNetwork).mono ?_)
  intro _ s₂ ⟨verification, isOk, failing⟩
  refine ⟨verification, isOk, ?_⟩
  refine Act.Reaches.bind (Act.Reaches.get ⟨s₂, rfl, ?_⟩)
  refine Act.Reaches.bind (Act.Reaches.ofExcept ⟨.verified, ?_, ?_⟩)
  · dsimp only
    rw [ok]
    exact congrArg (Except.mapError Halt.raised) (decideVerdict_of_shortcut shortcut)
  · let base : Conclusion :=
      ⟨.verified, facts.executionStatus, facts.executionError, facts.failureKind, none⟩
    refine Act.Reaches.bind (Act.Reaches.ofExcept ⟨applyGuard facts base, ?_, ?_⟩)
    · unfold applyQuorum
      rw [noQuorum]
      rfl
    · refine Act.Reaches.bind (Act.Reaches.ask (S := QuietSig) (c := .monotonicMs) (0 : Int)
        ⟨0, rfl, ?_⟩)
      refine Act.Reaches.bind (Act.Reaches.attempt (Except.ok "") ⟨"", rfl, ?_⟩)
      refine Act.Reaches.bind ((reaches_networkArtifact _).mono ?_)
      intro _ s₃ ⟨first, isOk, verdict, results⟩
      refine ⟨first, isOk, Act.Reaches.bind ((reaches_screenshot first).mono ?_)⟩
      intro _ s₄ ⟨second, isOk, verdict', results'⟩
      refine ⟨second, isOk, Act.Reaches.pure ⟨_, rfl, ?_, ?_⟩⟩
      · exact (verdict'.trans verdict).trans (applyGuard_verdict facts base)
      · obtain ⟨result, mem, notPass⟩ := failing
        refine ⟨result, ?_, notPass⟩
        have same : second.expectationResults = verification.results := results'.trans results
        exact same ▸ mem

end Ignored

/-- A run that reached a shortcut can end with a `VERIFIED` receipt that is not
true, whatever the operation declares. -/
theorem exists_ignored_expectation (noQuorum : op.verificationQuorum = none)
    (noWebauthn : op.webauthn = none) {s s' : EvidenceCollector} {t : Trace RuntimeSig}
    {r : Except Halt ExecutionReceipt} {timing : Option PlanTiming} {result : ActionDispatchResult}
    (run : Act.Runs (executeOperation platform op ctx) s t r s')
    (reached : dispatchEvent op timing (.ok result) ∈ rights t)
    (shortcut : Shortcut op result) (declared : op.expectations ≠ []) :
    ∃ t receipt s', Act.Runs (executeOperation platform op ctx) s t (.ok receipt) s' ∧
      dispatchEvent op timing (.ok result) ∈ rights t ∧ ¬ VerdictTrue op t receipt := by
  obtain ⟨p⟩ := executeOperation_primary run reached
  have acts : Act.Runs (act platform op ctx p.startedAtMs p.validation) p.s₁ _
      (.ok (primaryFacts op p.guard p.attempts p.validation result)) p.s₂ := p.acts
  have evidence := (shortcutEvidence_attach op.action.type p.guard result.ok p.validation
    result.actionEvidence).mpr shortcut.2
  have valid := Operation.validate_expectations p.entered.valid
  have ignored : Act.Reaches (conclude platform op ctx p.startedAtMs
      (primaryFacts op p.guard p.attempts p.validation result)) p.s₂ fun r _ =>
      ∃ receipt, r = .ok receipt ∧ receipt.verdict = .verified ∧
        ∃ result ∈ receipt.expectationResults, result.result ≠ .pass :=
    reaches_ignored noQuorum noWebauthn shortcut.1 evidence valid declared
  obtain ⟨u, _, s₃, concludes, receipt, rfl, verified, bad, inResults, notPass⟩ := ignored
  obtain ⟨rest, s', silent, whole⟩ := executeOperation_resume p.entered acts concludes
  have reached' : dispatchEvent op timing (.ok result) ∈ rights (p.before.map Event.left ++
      (p.front ++ [Event.right (dispatchEvent op ctx.planTiming (.ok result))]) ++ rest) := by
    rw [rights_append, rights_append, rights_append, rights_map_left, silent, List.append_nil,
      List.nil_append]
    exact p.rights_eq ▸ reached
  refine ⟨_, receipt, s', whole, reached', fun truth => ?_⟩
  rcases (truth verified).2 with ⟨_, _, -, -, -, passed⟩ | ⟨_, _, -, -, silent', -⟩
  · exact notPass (passed.passed bad inResults)
  · rw [silent'] at reached'
    cases reached'

/-- Verdict truth, exactly: it holds of every run that does not dispatch the
operation; and once the operation was dispatched with some outcome, it holds
whatever the environment does afterwards if and only if the operation declares
no expectation, or the outcome is not a shortcut. -/
theorem verdictTrue_iff (platform : Platform) (op : Operation) (ctx : ExecutionContext)
    (noQuorum : op.verificationQuorum = none) (noWebauthn : op.webauthn = none)
    (s : EvidenceCollector) :
    (∀ t receipt s', Act.Runs (executeOperation platform op ctx) s t (.ok receipt) s' →
      (∀ timing result, dispatchEvent op timing (.ok result) ∉ rights t) →
      VerdictTrue op t receipt) ∧
    ∀ timing result,
      (∃ t r s', Act.Runs (executeOperation platform op ctx) s t r s' ∧
        dispatchEvent op timing (.ok result) ∈ rights t) →
      ((∀ t receipt s', Act.Runs (executeOperation platform op ctx) s t (.ok receipt) s' →
          dispatchEvent op timing (.ok result) ∈ rights t → VerdictTrue op t receipt) ↔
        (op.expectations = [] ∨ ¬ Shortcut op result)) := by
  refine ⟨?_, ?_⟩
  · intro t receipt s' run undispatched
    exact executeOperation_verdictTrue noQuorum noWebauthn run fun timing result mem =>
      absurd mem (undispatched timing result)
  · intro timing result ⟨t, r, s', run, reached⟩
    constructor
    · intro holds
      by_contra neither
      obtain ⟨declared, shortcut⟩ := not_or.mp neither
      obtain ⟨t', receipt, s'', run', reached', untrue⟩ := exists_ignored_expectation noQuorum
        noWebauthn run reached (not_not.mp shortcut) declared
      exact untrue (holds t' receipt s'' run' reached')
    · intro condition t receipt s' run reached
      obtain ⟨p⟩ := executeOperation_primary run reached
      refine executeOperation_verdictTrue noQuorum noWebauthn run fun timing' result' mem => ?_
      have same := p.unique mem
      cases same
      exact condition

/-! ## A page switch that ignores its expectation -/

/-- Switch to another page, which is expected to show a given URL. -/
def switchExample : Operation where
  operationId := "switch"
  url := "https://app.test/"
  action := { type := .switchToPage, pageId := some "page-2" }
  expectations := [{ type := .url, urlValue := some "https://app.test/done" }]

/-- The answer of a backend that switched to the page. -/
def switchedExample : ActionDispatchResult where
  ok := true
  error := none
  startedAtMs := 0
  completedAtMs := 0
  actionEvidence := some [("dispatched", .bool true)]

def platformExample : Platform := ⟨asciiCodec, id⟩

def contextExample : ExecutionContext := { maxPolls := 0 }

def collectorExample : EvidenceCollector := { scopeId := "switch" }

theorem switchExample_reached : ∃ t r s',
    Act.Runs (executeOperation platformExample switchExample contextExample) collectorExample t r s' ∧
      dispatchEvent switchExample none (.ok switchedExample) ∈ rights t := by
  obtain ⟨before, s₁, entered⟩ : ∃ before s₁, Entered platformExample switchExample contextExample
      collectorExample 0 none before s₁ :=
    exists_entered ⟨none, "", "", 0, ⟨0, none, .none, .none, .none, .none, ""⟩⟩ (by decide) rfl rfl
      (by decide) rfl fun reference isSome => by cases isSome
  obtain ⟨t, receipt, s', run, events⟩ := exists_dispatched rfl entered (.ok switchedExample)
  exact ⟨t, _, s', run, events ▸ List.mem_singleton.mpr rfl⟩

theorem switchExample_shortcut : Shortcut switchExample switchedExample :=
  ⟨rfl, .inl ⟨rfl, rfl⟩⟩

/-- Not every run that dispatches the page switch reports the truth. -/
theorem verdictTrue_iff_switch :
    ¬ ∀ t receipt s',
      Act.Runs (executeOperation platformExample switchExample contextExample) collectorExample t
        (.ok receipt) s' →
      dispatchEvent switchExample none (.ok switchedExample) ∈ rights t →
      VerdictTrue switchExample t receipt := by
  have exact_ := (verdictTrue_iff platformExample switchExample contextExample rfl rfl
    collectorExample).2 none switchedExample switchExample_reached
  rw [exact_]
  rintro (empty | straight)
  · cases empty
  · exact straight switchExample_shortcut

/-- A run reports `VERIFIED` for a page switch whose URL expectation failed. -/
theorem switch_ignores_expectation :
    ∃ t receipt s', Act.Runs (executeOperation platformExample switchExample contextExample)
      collectorExample t (.ok receipt) s' ∧ ¬ VerdictTrue switchExample t receipt := by
  obtain ⟨_, _, _, run, reached⟩ := switchExample_reached
  obtain ⟨t, receipt, s', run, -, untrue⟩ := exists_ignored_expectation rfl rfl run reached
    switchExample_shortcut (by decide)
  exact ⟨t, receipt, s', run, untrue⟩

end Dingdongditch
