import Dingdongditch.Runtime.Scenario
import Dingdongditch.Runtime.VerifiedRuns
import Mathlib.Data.List.Dedup

/-!
# The failure fields of a verified receipt

Whether the receipt of a run reports a failure can be read off the events of the run:
what the browser answered to the action, what the host answered to a participation,
and what the page showed in the last poll where the target of a guard was absent.
A VERIFIED receipt reports no failure exactly when its run was free of failures
(`verified_reports_no_failure_iff`).
-/

namespace Dingdongditch

open Interaction Text

variable {platform : Platform} {op : Operation} {ctx : ExecutionContext} {facts : ActionFacts}

/-! ## The condition of a guard whose target is absent -/

/-- A guarded target that is absent leaves the verdict to its expectations. -/
theorem decideVerdict_absent (type : ActionType) (expectations : List Expectation)
    (started completed : Int) (declared : Nat) (results : List ExpectationResult)
    (stale : List String) :
    decideVerdict true declared results stale type
      (absentFacts expectations started completed).actionEvidence =
        .ok (expectationVerdict declared results stale) := by
  cases type with
  | waitFor =>
      by_cases none_ : declared = 0
      · subst none_
        rfl
      · have waited : waitVerdict ((absentFacts expectations started completed).actionEvidence.getD [])
            declared = none := if_neg none_
        unfold decideVerdict
        dsimp only
        rw [if_pos rfl, waited]
        rfl
  | _ => rfl

theorem expectationVerdict_eq_verified {declared : Nat} {results : List ExpectationResult}
    {stale : List String} (some_ : declared ≠ 0) (nonempty : results ≠ []) (fresh : stale = [])
    (passed : ∀ r ∈ results, r.result = .pass) :
    expectationVerdict declared results stale = .verified := by
  have noOther (value : ResultValue) (other : value ≠ .pass) :
      results.any (·.result = value) = false := by
    apply List.any_eq_false.mpr
    intro r mem isValue
    exact other ((of_decide_eq_true isValue).symm.trans (passed r mem))
  have all : results.all (·.result = .pass) = true :=
    List.all_eq_true.mpr fun r mem => decide_eq_true (passed r mem)
  have isEmpty : results.isEmpty = false := by simpa using nonempty
  unfold expectationVerdict
  rw [if_neg some_, fresh, noOther .indeterminate (by decide), noOther .fail (by decide), all,
    isEmpty]
  rfl

/-- Results that are backed by what was collected leave nothing stale. -/
theorem finalFreshness_backed {verification : VerificationOutcome} {s : EvidenceCollector}
    {network : List NetworkRecord} {url : String}
    (backed : ∀ r ∈ verification.results,
      Backed s ⟨facts.actionStarted, verification.completed, op.freshness, network, url⟩ r) :
    (finalFreshness op facts verification s.signals).staleSignalIds = [] := by
  have current : verification.results.filter (·.freshnessOk == some false) = [] := by
    rw [List.filter_eq_nil_iff]
    intro r mem isStale
    have fresh := (backed r mem).fresh
    rw [beq_iff_eq, fresh] at isStale
    cases isStale
  have used : (evaluateFreshness op.freshness (some facts.actionStarted)
      (some verification.completed) s.signals
      (verification.results.flatMap (·.evidenceRefs))).staleSignalIds = [] := by
    unfold evaluateFreshness
    dsimp only
    rw [List.filter_eq_nil_iff]
    intro id mem
    obtain ⟨r, inResults, inRefs⟩ := List.mem_flatMap.mp (List.mem_dedup.mp mem)
    obtain ⟨-, signal, known, fresh, refs⟩ := backed r inResults
    rw [refs, List.mem_singleton] at inRefs
    subst inRefs
    cases finds : s.signals.reverse.find? (·.signalId = signal.signalId) with
    | none => simp
    | some found =>
        obtain rfl := known.find finds
        obtain ⟨started, completed⟩ := fresh
        dsimp only at started completed
        simp only [isStale, Option.any_some, Bool.or_eq_true, decide_eq_true_eq]
        omega
  unfold finalFreshness
  dsimp only
  rw [current, used]
  rfl

/-- The clock, as an event reads it. -/
def clockAfter (clock : Option Int) : Event QuietSig → Option Int
  | ⟨.monotonicMs, now⟩ => some now
  | _ => clock

/-- The first call of a kind: the clock that was read last before it, the event, and
what follows. -/
def timedCall (isCall : QuietCall → Bool) (clock : Option Int) :
    Trace QuietSig → Option (Int × Event QuietSig × Trace QuietSig)
  | [] => none
  | event :: rest =>
      if isCall event.1 then clock.map (·, event, rest)
      else timedCall isCall (clockAfter clock event) rest

theorem timedCall_append {isCall : QuietCall → Bool} {clock : Option Int} {front rest : Trace QuietSig}
    {now : Int} {event : Event QuietSig} (clockless : isCall .monotonicMs = false)
    (before : ∀ e ∈ front, isCall e.1 = false) (call : isCall event.1 = true) :
    timedCall isCall clock (front ++ ⟨.monotonicMs, now⟩ :: event :: rest) =
      some (now, event, rest) := by
  induction front generalizing clock with
  | nil => simp [timedCall, clockless, clockAfter, call]
  | cons first front ih =>
      obtain ⟨head, others⟩ := List.forall_mem_cons.mp before
      rw [List.cons_append, timedCall, if_neg (by simp [head])]
      exact ih others

/-- The last observation of the page, and what follows. -/
def sinceObservation : Trace QuietSig → Option (BackendObservation × Trace QuietSig)
  | [] => none
  | ⟨.observe, observation⟩ :: rest => (sinceObservation rest).or (some (observation, rest))
  | _ :: rest => sinceObservation rest

theorem sinceObservation_observe (observation : BackendObservation) (rest : Trace QuietSig) :
    sinceObservation (⟨.observe, observation⟩ :: rest) =
      (sinceObservation rest).or (some (observation, rest)) := rfl

theorem sinceObservation_plain {t : Trace QuietSig} (plain : ¬ Happens Landmark t) :
    sinceObservation t = none := by
  fun_induction sinceObservation t with
  | case1 => rfl
  | case2 observation rest => exact absurd ⟨_, List.mem_cons_self, trivial⟩ plain
  | case3 event rest _ ih =>
      rw [happens_cons, not_or] at plain
      exact ih plain.2

theorem sinceObservation_append {front rest : Trace QuietSig} {observation : BackendObservation}
    (plain : ¬ Happens Landmark rest) :
    sinceObservation (front ++ ⟨.observe, observation⟩ :: rest) = some (observation, rest) := by
  induction front with
  | nil =>
      rw [List.nil_append, sinceObservation_observe, sinceObservation_plain plain]
      rfl
  | cons event front ih =>
      rw [List.cons_append]
      unfold sinceObservation
      split
      · next same => cases same
      · next same =>
          cases same
          rw [ih]
          rfl
      · next same =>
          cases same
          exact ih

def QuietCall.isProbe : QuietCall → Bool
  | .probeGuardedActionTarget _ => true
  | _ => false

def QuietCall.isPageUrl : QuietCall → Bool
  | .pageUrl => true
  | _ => false

/-- The events of a run show the expectations of a guard: those of the last poll, which
reads the clock and the URL first after the last observation of the page, on evidence
that is no older than the probe. -/
def GuardShown (codec : HostCodec) (op : Operation) (expectations : List Expectation)
    (t : Trace QuietSig) : Prop :=
  ∃ (started : Int) (probe : Event QuietSig) (acting : Trace QuietSig)
    (observation : BackendObservation) (events : Trace QuietSig) (completed : Int) (url : String)
    (shown : Trace QuietSig), timedCall QuietCall.isProbe none t = some (started, probe, acting) ∧
      sinceObservation t = some (observation, events) ∧
      timedCall QuietCall.isPageUrl none events =
        some (completed, ⟨.pageUrl, (.ok url : Except PyException String)⟩, shown) ∧
      Shown codec ⟨started, completed, op.freshness, observation.records, url⟩ expectations shown

section Polls

variable {s s' : EvidenceCollector} {t : Trace QuietSig} {network : List NetworkRecord}
  {expectations : List Expectation} {started deadline : Int}

theorem pollOnce_inv {out : Int × List ExpectationResult} {finished : Bool}
    (run : Act.Runs (pollOnce platform op started deadline expectations network) s t
      (.ok (out, finished)) s') :
    ∃ (url : String) (evaluating : Trace QuietSig) (rest : Trace QuietSig),
      t = ⟨.monotonicMs, out.1⟩ :: ⟨.pageUrl, (.ok url : Except PyException String)⟩ ::
        (evaluating ++ rest) ∧
      Act.Runs (evaluateFrom platform.codec ⟨started, out.1, op.freshness, network, url⟩ 0
        expectations) s evaluating (.ok out.2) s' := by
  unfold pollOnce at run
  obtain ⟨completed, _, rfl, reading⟩ := Act.Runs.ask_bind_inv run
  obtain ⟨_, url, _, _, rfl, shows, evaluates⟩ := reading.bind_ok_inv
  obtain ⟨answer, rfl, isUrl, rfl⟩ := Act.runs_attempt.mp shows
  have isOk : answer = .ok url := Act.mapError_eq_ok.mp isUrl.symm
  subst isOk
  obtain ⟨evaluating, results, s₁, rest, rfl, evaluation, decides⟩ := evaluates.bind_ok_inv
  split at decides
  · obtain ⟨rfl, eq, rfl⟩ := Act.runs_pure.mp decides
    cases eq
    exact ⟨url, evaluating, [], rfl, evaluation⟩
  · obtain ⟨now, _, rfl, last⟩ := Act.Runs.ask_bind_inv decides
    obtain ⟨rfl, eq, rfl⟩ := Act.runs_pure.mp last
    cases eq
    exact ⟨url, evaluating, _, rfl, evaluation⟩

/-- The loop ends with a poll: the first one, or one after a last observation. -/
theorem pollExpectations_last {polls : Nat} {out : Int × List ExpectationResult}
    (run : Act.Runs (pollExpectations platform op started deadline expectations polls network) s t
      (.ok out) s') (numbered : s.Numbered) :
    ∃ (front last : Trace QuietSig) (records : List NetworkRecord) (s₁ : EvidenceCollector),
      t = front ++ last ∧ s₁.Numbered ∧
      Act.Runs (pollOnce platform op started deadline expectations records) s₁ last
        (.ok (out, true)) s' ∧
      (front = [] ∧ records = network ∨ ∃ early observation,
        front = early ++ [⟨.observe, (observation : BackendObservation)⟩] ∧
          records = observation.records) := by
  induction polls generalizing network s t with
  | zero =>
      unfold pollExpectations at run
      obtain ⟨poll, ⟨last, finished⟩, s₁, _, rfl, round, decides⟩ := run.bind_ok_inv
      dsimp only at decides
      split at decides
      · next isFinished =>
          obtain ⟨rfl, eq, rfl⟩ := Act.runs_pure.mp decides
          cases eq
          rw [isFinished] at round
          exact ⟨[], poll, network, s, by simp, numbered, round, .inl ⟨rfl, rfl⟩⟩
      · exact (Act.not_runs_diverge decides).elim
  | succ polls ih =>
      unfold pollExpectations at run
      obtain ⟨poll, ⟨last, finished⟩, s₁, _, rfl, round, decides⟩ := run.bind_ok_inv
      dsimp only at decides
      split at decides
      · next isFinished =>
          obtain ⟨rfl, eq, rfl⟩ := Act.runs_pure.mp decides
          cases eq
          rw [isFinished] at round
          exact ⟨[], poll, network, s, by simp, numbered, round, .inl ⟨rfl, rfl⟩⟩
      · obtain ⟨pause, _, s₂, _, rfl, pauses, decides⟩ := decides.bind_ok_inv
        obtain ⟨observing, observation, s₃, _, rfl, observes, decides⟩ := decides.bind_ok_inv
        obtain ⟨_, collector, _, others, rfl, gets, loop⟩ := decides.bind_ok_inv
        obtain ⟨rfl, same, rfl⟩ := Act.runs_get.mp gets
        cases same
        obtain ⟨_, -, -, rfl⟩ := Act.runs_attempt.mp pauses
        have after := (collecting_pollOnce _ _ _ _ round).1.numbered numbered
        obtain ⟨rfl, numbered', latest⟩ := observe_inv observes after
        obtain ⟨front, last, records, s₄, rfl, numbered₄, final, seen⟩ := ih loop numbered'
        refine ⟨poll ++ (pause ++ ([⟨.observe, observation⟩] ++ front)), last, records, s₄,
          by simp, numbered₄, final, .inr ?_⟩
        rcases seen with ⟨rfl, rfl⟩ | ⟨early, observation', rfl, rfl⟩
        · exact ⟨poll ++ pause, observation, by simp, latest⟩
        · exact ⟨poll ++ (pause ++ ([⟨.observe, observation⟩] ++ early)), observation', by simp, rfl⟩

/-- A verification that has something to verify ends with a poll, too. -/
theorem verify_last {verification : VerificationOutcome}
    (run : Act.Runs (verify platform op ctx facts) s t (.ok verification) s')
    (ok : facts.actionOk = true) (declared : facts.activeExpectations ≠ []) (numbered : s.Numbered) :
    ∃ (front last : Trace QuietSig) (records : List NetworkRecord) (s₁ : EvidenceCollector)
      (deadline : Int), t = front ++ last ∧ s₁.Numbered ∧
      Act.Runs (pollOnce platform op facts.actionStarted deadline facts.activeExpectations records)
        s₁ last (.ok ((verification.completed, verification.results), true)) s' ∧
      ((∀ event ∈ front, event.1 = .monotonicMs) ∧ records = s.latestNetwork ∨
        ∃ early observation, front = early ++ [⟨.observe, (observation : BackendObservation)⟩] ∧
          records = observation.records) := by
  unfold verify at run
  obtain ⟨_, collector, _, _, rfl, gets, timing⟩ := run.bind_ok_inv
  obtain ⟨rfl, known, rfl⟩ := Act.runs_get.mp gets
  cases known
  obtain ⟨verificationStarted, _, rfl, deciding⟩ := Act.Runs.ask_bind_inv timing
  have active : (facts.actionOk && !facts.activeExpectations.isEmpty) = true := by
    simpa [ok] using declared
  rw [if_pos active] at deciding
  obtain ⟨now, _, rfl, polling⟩ := Act.Runs.ask_bind_inv deciding
  obtain ⟨polls, ⟨completed, results⟩, _, _, rfl, loop, returned⟩ := polling.bind_ok_inv
  obtain ⟨rfl, eq, rfl⟩ := Act.runs_pure.mp returned
  cases eq
  obtain ⟨front, last, records, s₁, rfl, numbered₁, poll, seen⟩ := pollExpectations_last loop numbered
  refine ⟨[⟨.monotonicMs, verificationStarted⟩, ⟨.monotonicMs, now⟩] ++ front, last, records, s₁, _,
    by simp, numbered₁, poll, ?_⟩
  rcases seen with ⟨rfl, rfl⟩ | ⟨early, observation, rfl, rfl⟩
  · exact .inl ⟨by simp, rfl⟩
  · exact .inr ⟨[⟨.monotonicMs, verificationStarted⟩, ⟨.monotonicMs, now⟩] ++ early, observation,
      by simp, rfl⟩

end Polls

section Absent

variable {expectations : List Expectation} {started completed : Int} {s : EvidenceCollector}
  {u : Trace QuietSig} {receipt : ExecutionReceipt}

/-- The host is not asked about an action that was not performed. -/
theorem Decision.absent_unasked
    (d : Decision platform op ctx (absentFacts expectations started completed) s u receipt) :
    d.s₁ = s ∧ d.status = none ∧ d.asked = [] := by
  obtain ⟨same, none_ | ⟨-, unskipped, -⟩⟩ := participateWebauthn_inv d.participates
  · exact ⟨same, none_⟩
  · cases unskipped

theorem Decision.absent_decided
    (d : Decision platform op ctx (absentFacts expectations started completed) s u receipt) :
    expectationVerdict expectations.length d.verification.results
      (if expectations.isEmpty then [] else (finalFreshness op (absentFacts expectations started
        completed) d.verification d.s₃.signals).staleSignalIds) = d.verdict := by
  have decided := d.decided
  rw [d.absent_unasked.2.1] at decided
  exact Except.ok.inj
    ((decideVerdict_absent op.action.type expectations started completed _ _ _).symm.trans decided)

/-- Behind a VERIFIED receipt about a target that is absent are declared expectations. -/
theorem Decision.absent_declared
    (d : Decision platform op ctx (absentFacts expectations started completed) s u receipt)
    (verified : receipt.verdict = .verified) : expectations ≠ [] := by
  rcases (d.reached verified).2 with before | declared
  · rw [d.absent_unasked.2.1] at before
    have decided : d.verdict = .verified := (applyGuard_verdict _ _).symm.trans before
    rintro rfl
    rw [← d.absent_decided] at decided
    cases decided
  · exact declared

/-- The verdict on a target that is absent is that of the results, where those that
passed are backed by what was collected. -/
theorem Decision.absent_verified_iff
    (d : Decision platform op ctx (absentFacts expectations started completed) s u receipt)
    (declared : expectations ≠ [])
    (backed : ∃ network url, ∀ r ∈ d.verification.results, r.result = .pass →
      Backed d.s₃ ⟨started, d.verification.completed, op.freshness, network, url⟩ r) :
    d.verdict = .verified ↔ ∀ r ∈ d.verification.results, r.result = .pass := by
  have active : expectations.isEmpty = false := by simpa using declared
  rw [← d.absent_decided, active]
  constructor
  · intro verified
    exact (expectationVerdict_verified verified).2
  · intro passed
    have ids : d.verification.results.map (·.expectationId) = expectationIds expectations :=
      verify_ids d.verifies rfl
    apply expectationVerdict_eq_verified
    · exact fun empty => declared (List.length_eq_zero_iff.mp empty)
    · intro empty
      rw [empty] at ids
      have lengths := congrArg List.length ids
      unfold expectationIds at lengths
      rw [List.length_mapIdx] at lengths
      exact declared (List.length_eq_zero_iff.mp lengths.symm)
    · obtain ⟨network, url, backed⟩ := backed
      have all : ∀ r ∈ d.verification.results, Backed d.s₃ ⟨(absentFacts expectations started
          completed).actionStarted, d.verification.completed, op.freshness, network, url⟩ r :=
        fun r mem => backed r mem (passed r mem)
      exact finalFreshness_backed all
    · exact passed

/-- After the last observation come clock reads, the URL of the page, and the evaluation
that the verdict on an absent target rests on. -/
theorem Decision.absent_shown_iff
    (d : Decision platform op ctx (absentFacts expectations started completed) s u receipt)
    (numbered : s.Numbered) (declared : expectations ≠ []) {release : Trace QuietSig}
    (released : ¬ Happens Landmark release) :
    ∃ (front : Trace QuietSig) (observation : BackendObservation) (clocks : Trace QuietSig)
      (polled : Int) (url : String) (shown : Trace QuietSig),
      u ++ release = front ++ ⟨.observe, observation⟩ :: (clocks ++ ⟨.monotonicMs, polled⟩ ::
        ⟨.pageUrl, (.ok url : Except PyException String)⟩ :: shown) ∧
      (∀ event ∈ clocks, event.1 = .monotonicMs) ∧ ¬ Happens Landmark shown ∧
      (d.verdict = .verified ↔ Shown platform.codec
        ⟨started, polled, op.freshness, observation.records, url⟩ expectations shown) := by
  obtain ⟨same, -, unasked⟩ := d.absent_unasked
  obtain ⟨isObserved, numbered₂, latest⟩ := observe_inv d.observes (by rw [same]; exact numbered)
  obtain ⟨front, last, records, s₁, deadline, isChecked, numbered₁, poll, seen⟩ :=
    verify_last d.verifies rfl declared numbered₂
  obtain ⟨url, evaluating, rest, isLast, evaluation⟩ := pollOnce_inv poll
  have backed := d.absent_verified_iff declared
    ⟨records, url, evaluateFrom_backed evaluation numbered₁⟩
  have shown := evaluateFrom_shown (rest ++ (d.rest ++ release)) evaluation
  have plain : ¬ Happens Landmark (evaluating ++ (rest ++ (d.rest ++ release))) := by
    have polled := (collecting_pollOnce _ _ _ _ poll).2
    rw [isLast, happens_cons, happens_cons, happens_append] at polled
    rw [happens_append, happens_append, happens_append]
    rintro (happens | happens | happens | happens)
    · exact polled (.inr (.inr (.inl happens)))
    · exact polled (.inr (.inr (.inr happens)))
    · exact d.plain happens
    · exact released happens
  have trace : u ++ release = ⟨.observe, d.observation⟩ :: (front ++ (⟨.monotonicMs,
      d.verification.completed⟩ :: ⟨.pageUrl, (.ok url : Except PyException String)⟩ ::
        (evaluating ++ (rest ++ (d.rest ++ release))))) := by
    conv_lhs => rw [d.split]
    rw [unasked, isObserved, isChecked, isLast]
    simp only [List.nil_append, List.cons_append, List.append_assoc]
  rw [trace]
  rcases seen with ⟨clocks, rfl⟩ | ⟨early, observation, rfl, rfl⟩
  · refine ⟨[], d.observation, front, _, url, _, rfl, clocks, plain, ?_⟩
    rw [← latest]
    exact backed.trans shown
  · refine ⟨⟨.observe, d.observation⟩ :: early, observation, [], d.verification.completed, url, _,
      by simp, by simp, plain, ?_⟩
    exact backed.trans shown

/-- The condition of a guard whose target is absent is proven when the events show it. -/
theorem Decision.absent_proven_iff
    (d : Decision platform op ctx (absentFacts expectations started completed) s u receipt)
    (numbered : s.Numbered) (declared : expectations ≠ []) {release before : Trace QuietSig}
    (released : ¬ Happens Landmark release) (entered : ¬ Happens Asking before)
    (probe : Except PyException GuardProbe) :
    d.verdict = .verified ↔ GuardShown platform.codec op expectations
      (before ++ ([⟨.monotonicMs, started⟩, ⟨.probeGuardedActionTarget op, probe⟩,
        ⟨.monotonicMs, completed⟩] ++ (u ++ release))) := by
  obtain ⟨front, observation, clocks, polled, url, shown, trace, isClocks, plain, proven⟩ :=
    d.absent_shown_iff numbered declared released
  rw [proven, trace]
  have noProbe : ∀ event ∈ before, QuietCall.isProbe event.1 = false := by
    intro event mem
    rw [← Bool.not_eq_true]
    intro isProbe
    refine entered ⟨event, mem, ?_⟩
    unfold QuietCall.isProbe at isProbe
    unfold Asking
    split at isProbe
    · next call => rw [call]; trivial
    · cases isProbe
  have noUrl : ∀ event ∈ clocks, QuietCall.isPageUrl event.1 = false := by
    intro event mem
    rw [isClocks event mem]
    rfl
  have quiet : ¬ Happens Landmark (clocks ++ ⟨.monotonicMs, polled⟩ ::
      ⟨.pageUrl, (.ok url : Except PyException String)⟩ :: shown) := by
    rw [happens_append, happens_cons, happens_cons]
    rintro (⟨event, mem, landmark⟩ | landmark | landmark | happens)
    · rw [Landmark, isClocks event mem] at landmark
      exact landmark
    · exact landmark
    · exact landmark
    · exact plain happens
  have read : timedCall QuietCall.isPageUrl none (clocks ++ ⟨.monotonicMs, polled⟩ ::
      ⟨.pageUrl, (.ok url : Except PyException String)⟩ :: shown) = some (polled, _, shown) :=
    timedCall_append rfl noUrl rfl
  generalize (clocks ++ ⟨.monotonicMs, polled⟩ ::
    ⟨.pageUrl, (.ok url : Except PyException String)⟩ :: shown : Trace QuietSig) = events at quiet read ⊢
  have probed : timedCall QuietCall.isProbe none (before ++ ⟨.monotonicMs, started⟩ ::
      ⟨.probeGuardedActionTarget op, probe⟩ :: ⟨.monotonicMs, completed⟩ :: (front ++
        ⟨.observe, observation⟩ :: events)) = some (started, _, _) :=
    timedCall_append rfl noProbe rfl
  have since : sinceObservation (before ++ ⟨.monotonicMs, started⟩ ::
      ⟨.probeGuardedActionTarget op, probe⟩ :: ⟨.monotonicMs, completed⟩ :: (front ++
        ⟨.observe, observation⟩ :: events)) = some (observation, events) := by
    have regroup : before ++ ⟨.monotonicMs, started⟩ :: ⟨.probeGuardedActionTarget op, probe⟩ ::
        ⟨.monotonicMs, completed⟩ :: (front ++ ⟨.observe, observation⟩ :: events) =
        (before ++ ⟨.monotonicMs, started⟩ :: ⟨.probeGuardedActionTarget op, probe⟩ ::
          ⟨.monotonicMs, completed⟩ :: front) ++ ⟨.observe, observation⟩ :: events := by simp
    rw [regroup]
    exact sinceObservation_append quiet
  unfold GuardShown
  simp only [List.cons_append, List.nil_append]
  rw [probed, since]
  constructor
  · intro isShown
    exact ⟨started, _, _, observation, events, polled, url, shown, rfl, rfl, read, isShown⟩
  · rintro ⟨started', probe', acting, observation', events', polled', url', shown', isProbe, isSince,
      isRead, isShown⟩
    cases isProbe
    cases isSince
    rw [read] at isRead
    cases isRead
    exact isShown

end Absent

/-- What a run has to look like for its VERIFIED receipt to report no failure: the
browser reported neither an error nor a failure with the action, the host answered
every WebAuthn participation with `completed`, and where the target of a legacy guard
is absent, so that nothing was dispatched, the events show the condition of the guard. -/
structure FailureFree (codec : HostCodec) (op : Operation) (t : Trace RuntimeSig) : Prop where
  dispatch : ∀ timing result, dispatchEvent op timing (.ok result) ∈ rights t →
    result.error = none ∧ result.failureKind = none
  webauthn : ∀ request status, Event.left (webauthnEvent request status) ∈ t → status = .completed
  guard : ∀ guard expectations u, op.guard = some guard →
    guard.whenTargetAbsent = some expectations → t = u.map Event.left →
      GuardShown codec op expectations u

/-- A VERIFIED receipt reports no failure exactly when its run was free of failures. -/
theorem verified_reports_no_failure_iff {scope : String} {s' : EvidenceCollector}
    {t : Trace RuntimeSig} {receipt : ExecutionReceipt}
    (run : Act.Runs (executeOperation platform op ctx) { scopeId := scope } t (.ok receipt) s')
    (verified : receipt.verdict = .verified) :
    receipt.ReportsNoFailure ↔ FailureFree platform.codec op t := by
  obtain ⟨account⟩ := exists_account run verified
  have exactly_ := reports_no_failure_iff account verified
  have webauthn : (account.decision.status = none ∨ account.decision.status = some .completed) ↔
      ∀ request status, Event.left (webauthnEvent request status) ∈ t → status = .completed := by
    constructor
    · intro answered request status mem
      have given := (account.participation status).mp ⟨request, mem⟩
      rw [given] at answered
      rcases answered with none_ | completed
      · cases none_
      · exact Option.some.inj completed
    · intro all
      cases given : account.decision.status with
      | none => exact .inl rfl
      | some status =>
          obtain ⟨request, mem⟩ := (account.participation status).mpr given
          exact .inr (congrArg some (all request status mem))
  obtain ⟨facts, before, acting, concluding, release, split, s₁, s₂, enters, origin, d, released⟩ :=
    account
  dsimp only at exactly_ webauthn
  rw [exactly_]
  have silent {u : Trace QuietSig} : rights (u.map Event.left : Trace RuntimeSig) = [] :=
    rights_map_left u
  cases origin with
  | dispatched guard attempts validation result front _ branches unasked =>
      have only (timing : Option PlanTiming) (answer : Except PyException ActionDispatchResult) :
          dispatchEvent op timing answer ∈ rights t ↔ timing = ctx.planTiming ∧ answer = .ok result := by
        rw [split, rights_append, rights_append, rights_append, rights_append, silent, silent, silent,
          List.nil_append, List.append_nil, List.append_nil, List.mem_append]
        constructor
        · rintro (inFront | isLast)
          · exact ((branches _ inFront).ne _ _ rfl).elim
          · cases List.mem_singleton.mp isLast
            exact ⟨rfl, rfl⟩
        · rintro ⟨rfl, rfl⟩
          exact .inr List.mem_cons_self
      have here : dispatchEvent op ctx.planTiming (.ok result) ∈ rights t :=
        (only _ _).mpr ⟨rfl, rfl⟩
      constructor
      · intro undisturbed
        refine ⟨?_, webauthn.mp undisturbed.webauthn, ?_⟩
        · intro timing other mem
          obtain ⟨-, same⟩ := (only _ _).mp mem
          cases same
          exact ⟨undisturbed.error, undisturbed.kind⟩
        · rintro _ _ u _ _ rfl
          rw [silent] at here
          cases here
      · intro free
        obtain ⟨error, kind⟩ := free.dispatch _ _ here
        exact ⟨error, kind, webauthn.mpr free.webauthn, fun skipped => by cases skipped⟩
  | absent guard expectations started completed probe guarded legacy =>
      have numbered := enters.1.numbered (EvidenceCollector.numbered_empty scope)
      let trace : Trace QuietSig := before ++ ([⟨.monotonicMs, started⟩,
        ⟨.probeGuardedActionTarget op, probe⟩, ⟨.monotonicMs, completed⟩] ++ (concluding ++ release))
      have isTrace : t = trace.map Event.left := by
        rw [split]
        simp only [trace, List.map_append]
      have proven := d.absent_proven_iff numbered (d.absent_declared verified) released enters.2 probe
      constructor
      · intro undisturbed
        refine ⟨?_, webauthn.mp undisturbed.webauthn, ?_⟩
        · intro timing result mem
          rw [isTrace, silent] at mem
          cases mem
        · intro guard' expectations' u guarded' legacy' isEvents
          cases guarded.symm.trans guarded'
          cases legacy.symm.trans legacy'
          obtain rfl : trace = u :=
            List.map_injective_iff.mpr Event.left_injective (isTrace.symm.trans isEvents)
          exact proven.mp (undisturbed.guard rfl)
      · intro free
        refine ⟨rfl, rfl, .inl d.absent_unasked.2.1, fun _ => ?_⟩
        exact proven.mpr (free.guard guard expectations trace guarded legacy isTrace)

/-! ## A rejected passkey -/

namespace Scenario

/-- The page shows a greeting. -/
def greeting : Expectation where
  type := .elementVisible
  locator := some { strategy := .css, value := "#hello" }
  visible := some true
  expectationId := "greeting"

/-- A click after which the page has to show a greeting, with a WebAuthn step and
a quorum over that one check. -/
def signIn : Operation where
  operationId := "sign-in"
  url := url
  action := { type := .click, locator := some { strategy := .css, value := "#sign-in" } }
  expectations := [greeting]
  webauthn := some { name := "webauthn" }
  verificationQuorum := some { policy := .all, checks := [⟨"dom", "greeting", .domState⟩] }

/-- The scripted browser, with its answer to WebAuthn participations. -/
def answering (status : WebauthnStatus) : Script RuntimeSig Scenario := fun w c => match c with
  | .inl (.participateWebauthn _) => ((.ok status : Except PyException WebauthnStatus), w)
  | c => script w c

def started : Scenario where
  dispatches := [.ok { performed with startedAtMs := 0, completedAtMs := 0 }]

def collector : EvidenceCollector := { scopeId := "sign-in" }

end Scenario

open Scenario in
/-- The host rejects the passkey, and the receipt is VERIFIED. -/
theorem rejected_webauthn_verified :
    ∃ t receipt s', Act.Runs (executeOperation scenarioHost.toPlatform signIn { maxPolls := 0 })
        collector t (.ok receipt) s' ∧
      receipt.verdict = .verified ∧ receipt.failureKind = some "webauthn_host_rejected" ∧
      ¬receipt.ReportsNoFailure := by
  obtain ⟨t, r, s', run, shown⟩ := Act.exists_runs (answering .rejected)
    (executeOperation scenarioHost.toPlatform signIn { maxPolls := 0 }) collector started
    (fun _ r _ => match r with
      | .ok receipt => receipt.verdict == .verified &&
          receipt.failureKind == some "webauthn_host_rejected"
      | .error _ => false) (by decide +kernel)
  rcases r with _ | receipt
  · cases shown
  · rw [Bool.and_eq_true, beq_iff_eq, beq_iff_eq] at shown
    refine ⟨t, receipt, s', run, shown.1, shown.2, fun reports => ?_⟩
    have kind := shown.2.symm.trans reports.kind
    cases kind

open Scenario in
theorem verified_reports_no_failure_signIn :
    ∃ t receipt s', Act.Runs (executeOperation scenarioHost.toPlatform signIn { maxPolls := 0 })
        { scopeId := "sign-in" } t (.ok receipt) s' ∧ receipt.verdict = .verified ∧
      (receipt.ReportsNoFailure ↔ FailureFree scenarioHost.codec signIn t) := by
  obtain ⟨t, r, s', run, shown⟩ := Act.exists_runs (answering .completed)
    (executeOperation scenarioHost.toPlatform signIn { maxPolls := 0 }) collector started
    (fun _ r _ => match r with
      | .ok receipt => receipt.verdict == .verified
      | .error _ => false) (by decide +kernel)
  rcases r with _ | receipt
  · cases shown
  · have verified : receipt.verdict = .verified := beq_iff_eq.mp shown
    exact ⟨t, receipt, s', run, verified, verified_reports_no_failure_iff run verified⟩

end Dingdongditch
