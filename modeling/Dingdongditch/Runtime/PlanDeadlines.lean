import Dingdongditch.Contract.ChainSealing
import Dingdongditch.Runtime.PlanTiming
import Mathlib.Logic.Relation

/-!
# Plan deadlines only extend within their caps

`computeVideoEndedExtension` and `applyExtensionDecision` may be called in any
order, with any clock, media element and wait, and a decision may be applied long
after it was made.  The invariant is that the plan deadline is at most the ceiling
of the plan, and that every decision that was issued names a deadline within it
(`Kept`).
-/

namespace Dingdongditch.Timing

open Interaction Text

variable {F : Type}

/-! ## One decision -/

/-- What the calls keep of a decision: the grant is between nothing and the
request, and the plan deadline it names is within the ceiling. -/
structure TimingExtensionDecision.Within (decision : TimingExtensionDecision F)
    (ceiling : Option Int) : Prop where
  nonneg : 0 ≤ decision.grantedExtensionMs
  requested : decision.grantedExtensionMs ≤ decision.requestedExtensionMs
  plan : ∀ deadline limit, decision.resultingPlanDeadlineMs = some deadline →
    ceiling = some limit → deadline ≤ limit

/-- The deadline of a plan is within its ceiling. -/
def PlanTimingState.Capped (timing : PlanTimingState F) : Prop :=
  ∀ deadline limit, timing.planDeadlineMs = some deadline → timing.planCeilingMs = some limit →
    deadline ≤ limit

section Decisions

variable {timing : PlanTimingState F} {base : TimingExtensionDecision F} {wait target : Int}

/-- Nothing is granted beyond what was asked for. -/
theorem granted_le_requested (timing : PlanTimingState F) (wait target : Int) :
    let limit := timing.planCeilingMs.elim target (min target)
    max (max 0 (limit - wait)) (timing.planDeadlineMs.elim 0 fun deadline =>
        max 0 (limit - deadline)) ≤
      max (max 0 (target - wait)) (timing.planDeadlineMs.elim 0 fun deadline =>
        max 0 (target - deadline)) := by
  intro limit
  have le : limit ≤ target := by
    unfold limit
    rcases timing.planCeilingMs with _ | ceiling
    · exact le_refl target
    · exact min_le_left target ceiling
  clear_value limit
  rcases timing.planDeadlineMs with _ | deadline
  · simp only [Option.elim_none]
    omega
  · simp only [Option.elim_some]
    omega

theorem grantExtension_within (capped : timing.Capped) (fresh : base.grantedExtensionMs = 0)
    (resulting : base.resultingPlanDeadlineMs = timing.planDeadlineMs) :
    (grantExtension base timing wait target).Within timing.planCeilingMs := by
  have le := granted_le_requested timing wait target
  have keeps : ∀ deadline limit, base.resultingPlanDeadlineMs = some deadline →
      timing.planCeilingMs = some limit → deadline ≤ limit := by
    intro deadline limit isDeadline isLimit
    exact capped deadline limit (resulting.symm.trans isDeadline) isLimit
  unfold grantExtension
  dsimp only at le ⊢
  split
  · constructor
    · exact le_of_eq fresh.symm
    · dsimp only
      rw [fresh]
      exact le_trans (le_max_left 0 _) (le_max_left _ _)
    · exact keeps
  · split
    · constructor
      · exact le_trans (le_max_left 0 _) (le_max_left _ _)
      · exact le
      · exact keeps
    · constructor
      · exact le_trans (le_max_left 0 _) (le_max_left _ _)
      · exact le
      · intro deadline limit isDeadline isLimit
        dsimp only at isDeadline
        rw [isLimit] at isDeadline
        rcases planned : timing.planDeadlineMs with _ | current
        · rw [planned] at isDeadline
          exact keeps deadline limit isDeadline isLimit
        · rw [planned] at isDeadline
          have within := capped current limit planned isLimit
          dsimp only [Option.elim] at isDeadline
          have isSum := Option.some.inj isDeadline
          omega

/-- A decision without a grant is within every ceiling that holds its plan deadline. -/
theorem TimingExtensionDecision.Within.of_idle {decision : TimingExtensionDecision F}
    {ceiling : Option Int} (granted : decision.grantedExtensionMs = 0)
    (requested : decision.requestedExtensionMs = 0)
    (plan : ∀ deadline limit, decision.resultingPlanDeadlineMs = some deadline →
      ceiling = some limit → deadline ≤ limit) : decision.Within ceiling where
  nonneg := le_of_eq granted.symm
  requested := by rw [granted, requested]
  plan := plan

theorem compute_within [Floating F] {math : FloatMath F} {observed : Public F} {now margin : Int}
    {planTiming : Option (PlanTimingState F)} {decision : TimingExtensionDecision F}
    (capped : timing.Capped)
    (given : planTiming = none ∨ planTiming = some timing)
    (computed : computeVideoEndedExtension math observed now wait planTiming margin =
      .ok decision) :
    decision.Within timing.planCeilingMs := by
  unfold computeVideoEndedExtension at computed
  rcases given with rfl | rfl
  · cases computed
    exact .of_idle rfl rfl fun deadline limit isDeadline => by cases isDeadline
  · have keeps : ∀ deadline limit, (some timing).bind (·.planDeadlineMs) = some deadline →
        timing.planCeilingMs = some limit → deadline ≤ limit := capped
    dsimp only at computed
    split at computed
    · cases computed
      exact .of_idle rfl rfl keeps
    · obtain ⟨duration, -, computed⟩ := bind_eq_ok.mp computed
      obtain ⟨currentTime, -, computed⟩ := bind_eq_ok.mp computed
      obtain ⟨playbackRate, -, computed⟩ := bind_eq_ok.mp computed
      obtain ⟨need, -, computed⟩ := bind_eq_ok.mp computed
      rcases need with reason | needed
      · cases computed
        exact .of_idle rfl rfl keeps
      · cases computed
        exact grantExtension_within capped rfl rfl

/-- What an application leaves of the timing of a plan. -/
structure Extends (before after : PlanTimingState F) : Prop where
  ceiling : after.planCeilingMs = before.planCeilingMs
  enabled : after.adaptiveTimeoutEnabled = before.adaptiveTimeoutEnabled
  absent : before.planDeadlineMs = none → after.planDeadlineMs = none
  present : ∀ deadline, before.planDeadlineMs = some deadline →
    ∃ later, after.planDeadlineMs = some later ∧ deadline ≤ later

theorem Extends.refl (timing : PlanTimingState F) : Extends timing timing where
  ceiling := rfl
  enabled := rfl
  absent none_ := none_
  present deadline isDeadline := ⟨deadline, isDeadline, le_refl deadline⟩

theorem Extends.trans {a b c : PlanTimingState F} (first : Extends a b) (second : Extends b c) :
    Extends a c where
  ceiling := second.ceiling.trans first.ceiling
  enabled := second.enabled.trans first.enabled
  absent none_ := second.absent (first.absent none_)
  present deadline isDeadline := by
    obtain ⟨middle, isMiddle, le⟩ := first.present deadline isDeadline
    obtain ⟨later, isLater, le'⟩ := second.present middle isMiddle
    exact ⟨later, isLater, le.trans le'⟩

/-- A wait deadline is never reduced. -/
theorem wait_le_apply (decision : TimingExtensionDecision F) (wait : Int)
    (planTiming : Option (PlanTimingState F)) :
    wait ≤ (applyExtensionDecision decision wait planTiming).1 := by
  unfold applyExtensionDecision
  dsimp only
  split
  · split
    · exact le_max_left _ _
    · exact le_refl wait
  · exact le_refl wait

/-- One application: the timing it leaves extends the one it was given, and stays
capped if the decision is within the ceiling. -/
theorem apply_extends {decision : TimingExtensionDecision F}
    {planTiming : Option (PlanTimingState F)} {after : PlanTimingState F} (given : planTiming = some timing)
    (applied : (applyExtensionDecision decision wait planTiming).2 = some after) :
    Extends timing after ∧
      (timing.Capped → decision.Within timing.planCeilingMs → after.Capped) := by
  subst given
  unfold applyExtensionDecision at applied
  dsimp only [Option.map_some] at applied
  replace applied := Option.some.inj applied
  subst applied
  rcases planned : timing.planDeadlineMs with _ | deadline
  · refine ⟨⟨rfl, rfl, fun _ => planned, fun d isDeadline => ?_⟩, fun capped _ => capped⟩
    rw [planned] at isDeadline
    cases isDeadline
  rcases named : decision.resultingPlanDeadlineMs with _ | resulting
  · refine ⟨⟨rfl, rfl, fun none_ => none_, fun d isDeadline => ⟨d, isDeadline, le_refl d⟩⟩,
      fun capped _ => capped⟩
  dsimp only
  by_cases grants : 0 < decision.grantedExtensionMs
  · rw [decide_eq_true grants]
    simp only [if_true]
    refine ⟨⟨rfl, rfl, fun none_ => ?_, fun d isDeadline => ⟨_, rfl, ?_⟩⟩,
      fun capped within d limit isDeadline isLimit => ?_⟩
    · rw [planned] at none_
      cases none_
    · rw [planned] at isDeadline
      cases isDeadline
      exact le_max_left _ _
    · cases isDeadline
      exact max_le (capped deadline limit planned isLimit)
        (within.plan resulting limit named isLimit)
  · rw [decide_eq_false grants]
    simp only [Bool.false_eq_true, if_false]
    exact ⟨⟨rfl, rfl, fun none_ => none_, fun d isDeadline => ⟨d, isDeadline, le_refl d⟩⟩,
      fun capped _ => capped⟩

end Decisions

/-! ## Sequences of calls -/

/-- The timing of a plan with the decisions that were computed so far. -/
structure TimingLog (F : Type) where
  timing : PlanTimingState F
  issued : List (TimingExtensionDecision F) := []

/-- One call: an extension is computed from any observation, at any time and for any
wait, or a decision that was issued is applied to any wait. -/
inductive TimingStep [Floating F] (math : FloatMath F) : TimingLog F → TimingLog F → Prop
  | compute {log : TimingLog F} {observed : Public F} {now wait margin : Int}
      {planTiming : Option (PlanTimingState F)} {decision : TimingExtensionDecision F}
      (given : planTiming = none ∨ planTiming = some log.timing)
      (computed :
        computeVideoEndedExtension math observed now wait planTiming margin = .ok decision) :
      TimingStep math log { log with issued := decision :: log.issued }
  | apply {log : TimingLog F} {decision : TimingExtensionDecision F} {wait : Int}
      {after : PlanTimingState F} (issued : decision ∈ log.issued)
      (applied : (applyExtensionDecision decision wait (some log.timing)).2 = some after) :
      TimingStep math log { log with timing := after }

section Runs

variable [Floating F] {math : FloatMath F} {before after log : TimingLog F}

/-- What every sequence of calls keeps. -/
structure Kept (log : TimingLog F) : Prop where
  capped : log.timing.Capped
  within : ∀ decision ∈ log.issued, decision.Within log.timing.planCeilingMs

theorem TimingStep.extends (step : TimingStep math before after) :
    Extends before.timing after.timing := by
  cases step with
  | compute => exact .refl _
  | apply _ applied => exact (apply_extends rfl applied).1

theorem TimingStep.kept (step : TimingStep math before after) (kept : Kept before) :
    Kept after := by
  cases step with
  | compute given computed =>
      refine ⟨kept.capped, ?_⟩
      intro decision mem
      rcases List.mem_cons.mp mem with rfl | known
      · exact compute_within kept.capped given computed
      · exact kept.within decision known
  | apply issued applied =>
      obtain ⟨extends_, stays⟩ := apply_extends rfl applied
      refine ⟨stays kept.capped (kept.within _ issued), ?_⟩
      intro decision mem
      dsimp only
      rw [extends_.ceiling]
      exact kept.within decision mem

abbrev TimingRun (math : FloatMath F) : TimingLog F → TimingLog F → Prop :=
  Relation.ReflTransGen (TimingStep math)

theorem TimingRun.extends (run : TimingRun math before after) :
    Extends before.timing after.timing := by
  induction run with
  | refl => exact .refl _
  | tail _ step ih => exact ih.trans step.extends

theorem TimingRun.kept (run : TimingRun math before after) (kept : Kept before) : Kept after := by
  induction run with
  | refl => exact kept
  | tail _ step ih => exact step.kept ih

end Runs

/-- A validated budget starts within its ceiling. -/
theorem fromPlan_capped {plan : Plan.ExecutionPlan} (valid : plan.validatePlanTiming = .ok ())
    (started : Int) : (PlanTimingState.fromPlan F plan started).Capped := by
  intro deadline limit isDeadline isLimit
  obtain ⟨initial, isInitial, rfl⟩ := Option.map_eq_some_iff.mp isDeadline
  obtain ⟨most, isMost, rfl⟩ := Option.map_eq_some_iff.mp isLimit
  have initial_ : plan.initialPlanTimeoutMs = some initial := isInitial
  have most_ : plan.maxPlanTimeoutMs = some most := isMost
  unfold Plan.ExecutionPlan.validatePlanTiming at valid
  obtain ⟨_, -, valid⟩ := bind_eq_ok.mp valid
  obtain ⟨_, -, valid⟩ := bind_eq_ok.mp valid
  rw [initial_, most_] at valid
  have le : initial ≤ most := by
    rcases adaptive : plan.adaptiveTimeoutEnabled with _ | _
    · rw [adaptive] at valid
      simpa using rejectIf_eq_ok.mp valid
    · rw [adaptive] at valid
      simpa using rejectIf_eq_ok.mp valid
  have start : (PlanTimingState.fromPlan F plan started).planStartedAtMs = started := rfl
  omega

/-! ## The wait loop -/

section Loop

/-- What was called last; a wait starts as after a pause. -/
inductive Turn
  | paused
  | observed
  | read (now : Int)
  deriving DecidableEq, Repr

/-- A pause is allowed right after a reading of the clock below `limit`, and a later
observation right after a pause. -/
def pausesBefore (F : Type) (limit : Int) : Protocol (WaitSig F) Turn where
  start := .paused
  allowed last e := match e with
    | ⟨.pause _, _⟩ => ∃ now, last = .read now ∧ now < limit
    | ⟨.observe, _⟩ => last = .paused
    | _ => True
  move _ e := match e with
    | ⟨.clock, now⟩ => .read now
    | ⟨.pause _, _⟩ => .paused
    | ⟨.observe, _⟩ => .observed

/-- What the loop keeps: the plan timing extends the one the wait started with, and
the deadline of the wait is between its first one and the plan deadline. -/
structure Waiting (start : PlanTimingState F) (first : Int) (s : WaitState F) : Prop where
  timing : ∃ timing deadline, s.planTiming = some timing ∧ timing.Capped ∧ Extends start timing ∧
    timing.planDeadlineMs = some deadline ∧ s.deadline ≤ deadline
  first : first ≤ s.deadline

/-- The loop starts with a deadline that is no later than the one of the plan. -/
theorem begin_waiting {start : PlanTimingState F} (capped : start.Capped) {deadline : Int}
    (planned : start.planDeadlineMs = some deadline) (started timeoutMs : Int) :
    Waiting start (WaitState.begin started timeoutMs (some start)).deadline
      (.begin started timeoutMs (some start)) := by
  refine ⟨⟨start, deadline, rfl, capped, .refl start, planned, ?_⟩, le_refl _⟩
  unfold WaitState.begin
  rw [Option.bind_some, planned]
  exact min_le_right _ _

variable {start : PlanTimingState F} {first : Int} {s s' : WaitState F}

theorem adapt_waiting [Floating F] {math : FloatMath F} {observed : Public F} {now : Int}
    (waiting : Waiting start first s)
    (adapted : adapt math s observed now = .ok s') : Waiting start first s' := by
  obtain ⟨⟨timing, deadline, given, capped, extends_, planned, le⟩, ge⟩ := waiting
  unfold adapt at adapted
  obtain ⟨decision, computed, adapted⟩ := bind_eq_ok.mp adapted
  rw [given] at computed
  have within := compute_within capped (.inr rfl) computed
  split at adapted
  · have later := wait_le_apply decision s.deadline s.planTiming
    rw [given] at adapted later
    rcases applied : applyExtensionDecision decision s.deadline (some timing)
      with ⟨newWait, _ | after⟩
    · unfold applyExtensionDecision at applied
      cases (Prod.mk.inj applied).2
    · rw [applied] at adapted later
      obtain ⟨more, stays⟩ := apply_extends rfl (congrArg Prod.snd applied)
      obtain ⟨d, isLater, grows⟩ := more.present deadline planned
      cases adapted
      dsimp only at later
      refine ⟨⟨after, d, rfl, stays capped within, extends_.trans more, isLater, ?_⟩, ?_⟩
      · dsimp only [Option.bind_some]
        rw [isLater]
        dsimp only
        split
        · exact le_refl d
        · omega
      · dsimp only [Option.bind_some]
        rw [isLater]
        dsimp only
        split
        · omega
        · omega
  · split at adapted
    · cases adapted
      exact ⟨⟨timing, deadline, given, capped, extends_, planned, le⟩, ge⟩
    · cases adapted
      by_cases seen : timing.decisions.any (·.extensionReason = decision.extensionReason) = true
      · refine ⟨⟨timing, deadline, ?_, capped, extends_, planned, le⟩, ge⟩
        rw [given, Option.map_some, if_pos seen]
      · refine ⟨⟨{ timing with decisions := timing.decisions ++ [decision] }, deadline, ?_,
          capped, extends_.trans ⟨rfl, rfl, id, fun d is => ⟨d, is, le_refl d⟩⟩, planned, le⟩, ge⟩
        rw [given, Option.map_some, if_neg seen]

/-- What a wait returns keeps its deadlines. -/
abbrev Returns (start : PlanTimingState F) (first : Int)
    (r : Except PyException (WaitResult × WaitState F)) : Prop :=
  ∀ result s, r = .ok (result, s) → Waiting start first s

theorem finishWait_follows {limit : Int} {last : Turn} {result : Int → WaitResult}
    (waiting : Waiting start first s) :
    (finishWait s result).Follows (pausesBefore F limit) last fun _ => Returns start first := by
  intro now
  refine ⟨trivial, ?_⟩
  intro _ _ eq
  cases eq
  exact waiting

/-- The plan deadline is within the ceiling, so a wait that goes on after the check
has seen the clock below the ceiling. -/
theorem checkDeadlines_follows {limit : Int} (ceiling : start.planCeilingMs = some limit)
    {last : Turn} {next : Prog (WaitSig F) (Except PyException (WaitResult × WaitState F))}
    (waiting : Waiting start first s)
    (rest : next.Follows (pausesBefore F limit) .paused fun _ => Returns start first) :
    (checkDeadlines s next).Follows (pausesBefore F limit) last fun _ => Returns start first := by
  intro (now : Int)
  refine ⟨trivial, ?_⟩
  dsimp only
  split
  · intro _ _ eq
    cases eq
    exact waiting
  · next running =>
      split
      · intro _ _ eq
        cases eq
        exact waiting
      · intro answer
        have before : now < limit := by
          obtain ⟨timing, deadline, given, capped, extends_, planned, -⟩ := waiting.timing
          have within := capped deadline limit planned (extends_.ceiling.trans ceiling)
          rw [given, Option.any_some, PlanTimingState.expired, planned, Option.any_some] at running
          have later : ¬deadline ≤ now := fun le => running (decide_eq_true le)
          omega
        refine ⟨⟨now, rfl, before⟩, ?_⟩
        rcases answer with e | _
        · intro _ _ eq
          cases eq
        · exact rest

/-- The loop pauses only after it saw the clock below the ceiling, observes again only
after a pause, and what it returns keeps the deadlines. -/
theorem waitLoop_follows [Floating F] {math : FloatMath F} {limit : Int}
    (ceiling : start.planCeilingMs = some limit) (polls : Nat) :
    ∀ {s : WaitState F}, Waiting start first s →
      (waitLoop math polls s).Follows (pausesBefore F limit) .paused fun _ => Returns start first := by
  induction polls with
  | zero =>
      intro s _
      trivial
  | succ polls ih =>
      intro s waiting answer
      refine ⟨rfl, ?_⟩
      rcases answer with e | o
      · intro _ _ eq
        cases eq
      have counted : Waiting start first { s with observations := s.observations + 1 } :=
        ⟨waiting.timing, waiting.first⟩
      dsimp only
      split
      · exact finishWait_follows counted
      split
      · exact finishWait_follows counted
      split
      · exact finishWait_follows counted
      split
      · intro now
        refine ⟨trivial, ?_⟩
        dsimp only
        split
        · intro _ _ eq
          cases eq
        · next adapted =>
            have waiting' := adapt_waiting counted adapted
            exact checkDeadlines_follows ceiling waiting' (ih waiting')
      · exact checkDeadlines_follows ceiling counted (ih counted)

/-- An environment whose clock does not go back, and moves on during a pause. -/
structure Ticking {ω : Type} (script : Script (WaitSig F) ω) (time : ω → Int) : Prop where
  reads : ∀ w (now : Int), (script w .clock).1 = now → time w ≤ now ∧ now ≤ time (script w .clock).2
  observes : ∀ w, time w ≤ time (script w .observe).2
  pauses : ∀ w ms, time w < time (script w (.pause ms)).2

section Ends

variable {ω : Type} {script : Script (WaitSig F) ω} {time : ω → Int}

theorem checkDeadlines_returns {limit : Int} (ticking : Ticking script time)
    (ceiling : start.planCeilingMs = some limit) (waiting : Waiting start first s)
    {next : Prog (WaitSig F) (Except PyException (WaitResult × WaitState F))} (w : ω)
    (rest : ∀ w', time w < time w' → time w < limit → (next.play script w').isSome = true) :
    ((checkDeadlines s next).play script w).isSome = true := by
  unfold checkDeadlines
  rw [Prog.play, Option.isSome_map]
  rcases read : script w .clock with ⟨now, w'⟩
  have reads := ticking.reads w now (congrArg Prod.fst read)
  rw [read] at reads
  dsimp only at reads ⊢
  split
  · rfl
  split
  · rfl
  next running _ =>
    obtain ⟨timing, deadline, given, capped, extends_, planned, -⟩ := waiting.timing
    have within := capped deadline limit planned (extends_.ceiling.trans ceiling)
    rw [given, Option.any_some, PlanTimingState.expired, planned, Option.any_some] at running
    have before : ¬deadline ≤ now := fun le => running (decide_eq_true le)
    rw [Prog.play, Option.isSome_map]
    have paused := ticking.pauses w' WAIT_POLL_INTERVAL_MS
    rcases answer : script w' (.pause WAIT_POLL_INTERVAL_MS) with ⟨_ | _, w''⟩
    · rfl
    · rw [answer] at paused
      dsimp only at paused
      apply rest w''
      · omega
      · omega

/-- A wait under a ceiling ends, once the loop may poll as often as there are
milliseconds left. -/
theorem waitLoop_returns [Floating F] {math : FloatMath F} {limit : Int}
    (ticking : Ticking script time) (ceiling : start.planCeilingMs = some limit) (polls : Nat) :
    ∀ {s : WaitState F} {w : ω}, Waiting start first s → (limit - time w).toNat < polls →
      ((waitLoop math polls s).play script w).isSome = true := by
  induction polls with
  | zero =>
      intro s w _ enough
      omega
  | succ polls ih =>
      intro s w waiting enough
      unfold waitLoop
      rw [Prog.play, Option.isSome_map]
      have observed := ticking.observes w
      rcases answer : script w .observe with ⟨_ | o, w'⟩
      · rfl
      rw [answer] at observed
      dsimp only at observed ⊢
      have counted : Waiting start first { s with observations := s.observations + 1 } :=
        ⟨waiting.timing, waiting.first⟩
      split
      · rfl
      split
      · rfl
      split
      · rfl
      split
      · rw [Prog.play, Option.isSome_map]
        rcases read : script w' .clock with ⟨now, v⟩
        have reads := ticking.reads w' now (congrArg Prod.fst read)
        rw [read] at reads
        dsimp only at reads ⊢
        split
        · rfl
        · next adapted =>
            have waiting' := adapt_waiting counted adapted
            apply checkDeadlines_returns ticking ceiling waiting'
            intro w'' moved before
            exact ih waiting' (by omega)
      · apply checkDeadlines_returns ticking ceiling counted
        intro w'' moved before
        exact ih counted (by omega)

end Ends

end Loop

/-! ## From a validated plan -/

/-- A validated plan has a deadline whenever it has a ceiling. -/
theorem initial_of_ceiling {plan : Plan.ExecutionPlan} (valid : plan.validatePlanTiming = .ok ())
    {most : Int} (isMost : plan.maxPlanTimeoutMs = some most) :
    ∃ initial, plan.initialPlanTimeoutMs = some initial := by
  rcases isInitial : plan.initialPlanTimeoutMs with _ | initial
  · unfold Plan.ExecutionPlan.validatePlanTiming at valid
    obtain ⟨_, -, valid⟩ := bind_eq_ok.mp valid
    obtain ⟨_, -, valid⟩ := bind_eq_ok.mp valid
    rw [isInitial, isMost] at valid
    rcases adaptive : plan.adaptiveTimeoutEnabled with _ | _
    · rw [adaptive] at valid
      cases valid
    · rw [adaptive] at valid
      cases valid
  · exact ⟨initial, rfl⟩

/-- From a validated plan, in every sequence of calls: the plan deadline only grows
and stays within the ceiling, and an absent one stays absent; a grant is between
nothing and the request; and no wait deadline is reduced.  A wait pauses only after
it saw the clock below the ceiling, observes again only after a pause, and ends when
the clock moves on. -/
theorem plan_deadlines_only_extend [Floating F] (math : FloatMath F) {plan : Plan.ExecutionPlan}
    (valid : plan.validatePlanTiming = .ok ()) (started : Int) {log : TimingLog F}
    (run : TimingRun math ⟨.fromPlan F plan started, []⟩ log) :
    (plan.initialPlanTimeoutMs = none → log.timing.planDeadlineMs = none) ∧
    (∀ deadline most, log.timing.planDeadlineMs = some deadline →
      plan.maxPlanTimeoutMs = some most → deadline ≤ started + most) ∧
    (∀ decision ∈ log.issued, 0 ≤ decision.grantedExtensionMs ∧
      decision.grantedExtensionMs ≤ decision.requestedExtensionMs) ∧
    (∀ later, TimingRun math log later → ∀ deadline, log.timing.planDeadlineMs = some deadline →
      ∃ deadline', later.timing.planDeadlineMs = some deadline' ∧ deadline ≤ deadline') ∧
    (∀ decision wait, wait ≤ (applyExtensionDecision decision wait (some log.timing)).1) ∧
    ∀ most, plan.maxPlanTimeoutMs = some most → ∀ waitStarted timeoutMs polls,
      let wait := WaitState.begin waitStarted timeoutMs (some log.timing)
      (∀ t out, (waitLoop math polls wait).Runs t out →
        (pausesBefore F (started + most)).Admits .paused t ∧
          ∀ result s, out = .ok (result, s) → Waiting log.timing wait.deadline s) ∧
      ∀ (ω : Type) (script : Script (WaitSig F) ω) (time : ω → Int) (w : ω),
        Ticking script time → (started + most - time w).toNat < polls →
        ((waitLoop math polls wait).play script w).isSome = true := by
  have extends_ := TimingRun.extends run
  have kept : Kept log := TimingRun.kept run ⟨fromPlan_capped valid started, by simp⟩
  have ceiling : log.timing.planCeilingMs = plan.maxPlanTimeoutMs.map (started + ·) :=
    extends_.ceiling
  refine ⟨?_, ?_, ?_, ?_, ?_, ?_⟩
  · intro none_
    apply extends_.absent
    simp [PlanTimingState.fromPlan, none_]
  · intro deadline most isDeadline isMost
    rw [isMost] at ceiling
    exact kept.capped deadline _ isDeadline ceiling
  · intro decision mem
    exact ⟨(kept.within decision mem).nonneg, (kept.within decision mem).requested⟩
  · intro later rest deadline isDeadline
    exact (TimingRun.extends rest).present deadline isDeadline
  · intro decision wait
    exact wait_le_apply decision wait _
  · intro most isMost waitStarted timeoutMs polls wait
    rw [isMost] at ceiling
    obtain ⟨initial, isInitial⟩ := initial_of_ceiling valid isMost
    obtain ⟨deadline, planned, -⟩ := extends_.present (started + initial)
      (by simp [PlanTimingState.fromPlan, isInitial])
    have waiting : Waiting log.timing wait.deadline wait :=
      begin_waiting kept.capped planned waitStarted timeoutMs
    refine ⟨?_, ?_⟩
    · intro t out runs
      exact (waitLoop_follows ceiling polls waiting).admits runs
    · intro ω script time w ticking enough
      exact waitLoop_returns ticking ceiling polls waiting enough

/-! ## A video near its end -/

/-- Arithmetic on the floating-point numbers `0.0` to `9.0`, exact where the result
is one of them. -/
def digitMath : FloatMath (Fin 10) where
  ofValue
    | .float x => .value x
    | .int n => .value (Fin.ofNat 10 n.toNat)
    | _ => .noNumber
  toInt
    | .float x => .ok x
    | .int n => .ok n
    | _ => .error ⟨.other, "TypeError", none⟩
  isInf _ := false
  isNan _ := false
  isNanText _ := false
  nonPositive x := x = 0
  clamp x := x
  zero := 0
  sub x y := x - y
  div x y := x / y
  toMs x := 1000 * x
  ceil x := .ok x

/-- One second, which an observation may extend to two and a half. -/
def shortPlan : Plan.ExecutionPlan where
  planId := "watch"
  operations := []
  browserConfig := ⟨"browser", none⟩
  initialPlanTimeoutMs := some 1000
  adaptiveTimeoutEnabled := true
  maxPlanTimeoutMs := some 2500

/-- The video is at its end, but has not reported it. -/
def nearlyEnded : Public (Fin 10) :=
  [("duration", .float 5), ("currentTime", .float 5), ("playbackRate", .float 1),
    ("paused", .bool false), ("ended", .bool false), ("readyState", .int 4)]

theorem plan_deadlines_only_extend_shortPlan :
    ∃ log : TimingLog (Fin 10),
      TimingRun digitMath ⟨.fromPlan (Fin 10) shortPlan 0, []⟩ log ∧
      log.timing.planDeadlineMs = some 2500 ∧
      (log.issued.map fun d => (d.requestedExtensionMs, d.grantedExtensionMs)) = [(1900, 1500)] ∧
      ∀ deadline most, log.timing.planDeadlineMs = some deadline →
        shortPlan.maxPlanTimeoutMs = some most → deadline ≤ 0 + most := by
  have finds : ((computeVideoEndedExtension digitMath nearlyEnded 900 1000
      (some (.fromPlan (Fin 10) shortPlan 0)) VIDEO_ENDED_ADAPTIVE_MARGIN_MS).toOption.map fun d =>
        (d.requestedExtensionMs, d.grantedExtensionMs,
          (applyExtensionDecision d 1000 (some (.fromPlan (Fin 10) shortPlan 0))).2.bind
            (·.planDeadlineMs))) = some (1900, 1500, some 2500) := by decide +kernel
  rcases computed : computeVideoEndedExtension digitMath nearlyEnded 900 1000
      (some (.fromPlan (Fin 10) shortPlan 0)) VIDEO_ENDED_ADAPTIVE_MARGIN_MS with e | decision
  · rw [computed] at finds
    cases finds
  rw [computed] at finds
  obtain ⟨requested, rest⟩ := Prod.mk.inj (Option.some.inj finds)
  obtain ⟨granted, extended⟩ := Prod.mk.inj rest
  obtain ⟨after, applied, deadline⟩ := Option.bind_eq_some_iff.mp extended
  have run : TimingRun digitMath ⟨.fromPlan (Fin 10) shortPlan 0, []⟩ ⟨after, [decision]⟩ :=
    .tail (.single (.compute (.inr rfl) computed)) (.apply (by simp) applied)
  refine ⟨⟨after, [decision]⟩, run, deadline, by simp [requested, granted], ?_⟩
  exact (plan_deadlines_only_extend digitMath (by decide) 0 run).2.1

/-- A page whose condition does not hold, with a clock that shows the given times. -/
def clockAt : Script (WaitSig (Fin 10)) (List Int)
  | times, .observe => (.ok ⟨some false, [], none⟩, times)
  | times, .clock => (times.headI, times.tail)
  | times, .pause _ => (.ok (), times)

/-- The loop reads the clock before it pauses, so a wait of a second that is polled
one millisecond before the ceiling of its plan ends after the ceiling. -/
theorem waitLoop_past_ceiling :
    ∃ plan : Plan.ExecutionPlan, plan.validatePlanTiming = .ok () ∧
      plan.maxPlanTimeoutMs = some 1000 ∧
      ∃ t result s,
        (waitLoop digitMath 2 (.begin 0 1000 (some (.fromPlan (Fin 10) plan 0)))).Runs t
          (.ok (result, s)) ∧ 0 + 1000 < result.completedAtMs := by
  refine ⟨{ shortPlan with maxPlanTimeoutMs := some 1000 }, by decide, rfl, ?_⟩
  have ends : (((waitLoop digitMath 2 (.begin 0 1000 (some (.fromPlan (Fin 10)
      { shortPlan with maxPlanTimeoutMs := some 1000 } 0)))).play clockAt [999, 1049]).bind
      fun run => run.2.1.toOption.map (·.1.completedAtMs)) = some 1049 := by decide +kernel
  obtain ⟨⟨t, out, w⟩, played, out_⟩ := Option.bind_eq_some_iff.mp ends
  rcases out with e | ⟨result, s⟩
  · cases out_
  · refine ⟨t, result, s, Prog.runs_of_play played, ?_⟩
    have late : result.completedAtMs = 1049 := Option.some.inj out_
    omega

end Dingdongditch.Timing
