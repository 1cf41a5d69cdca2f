import Dingdongditch.Contract.Plan
import Dingdongditch.Contract.ReceiptChain
import Dingdongditch.Interaction.Clients

/-!
# Adaptive plan timing

The deadline of a plan, the extension that a `video_ended` wait may be granted
from what it observes of the media element, and the wait loop that applies it.
What a floating-point computation returns is a parameter: the deadlines are
integers, and nothing below depends on how a duration was rounded.
-/

namespace Dingdongditch.Timing

open Interaction Text

variable {F : Type} [Floating F]

/-- What `float(value)` makes of an observed value.  A `TypeError` or a
`ValueError` is caught where it is called. -/
inductive FloatReading (F : Type)
  | value (x : F)
  | noNumber
  | raises (e : PyException)

/-- The floating-point arithmetic of the extension. -/
structure FloatMath (F : Type) where
  ofValue : Json F → FloatReading F
  /-- `int(value)` -/
  toInt : Json F → Except PyException Int
  isInf : F → Bool
  isNan : F → Bool
  /-- `str(value).lower() == "nan"` -/
  isNanText : Json F → Bool
  /-- `x <= 0` -/
  nonPositive : F → Bool
  /-- `max(0.0, x)` -/
  clamp : F → F
  zero : F
  sub : F → F → F
  div : F → F → F
  /-- `x * 1000.0` -/
  toMs : F → F
  /-- `int(math.ceil(x))` -/
  ceil : F → Except PyException Int

def VIDEO_ENDED_ADAPTIVE_MARGIN_MS : Int := 2000

/-- One adaptive timing decision. -/
structure TimingExtensionDecision (F : Type) where
  conditionType : String
  extensionReason : String
  observedDuration : Option F := none
  observedCurrentTime : Option F := none
  observedPlaybackRate : Option F := none
  requestedExtensionMs : Int := 0
  grantedExtensionMs : Int := 0
  originalWaitDeadlineMs : Option Int := none
  resultingWaitDeadlineMs : Option Int := none
  originalPlanDeadlineMs : Option Int := none
  resultingPlanDeadlineMs : Option Int := none
  maxPlanTimeoutMs : Option Int := none
  ceilingPreventedFullExtension : Bool := false
  adaptiveTimeoutEnabled : Bool := false

/-- The overall plan deadline that the steps of a plan share. -/
structure PlanTimingState (F : Type) where
  initialPlanTimeoutMs : Option Int
  adaptiveTimeoutEnabled : Bool
  maxPlanTimeoutMs : Option Int
  planStartedAtMs : Int
  planDeadlineMs : Option Int
  decisions : List (TimingExtensionDecision F) := []

namespace PlanTimingState

/-- `PlanTimingState.from_plan`, called with the timing fields of the plan. -/
def fromPlan (F : Type) (plan : Plan.ExecutionPlan) (planStartedAtMs : Int) : PlanTimingState F where
  initialPlanTimeoutMs := plan.initialPlanTimeoutMs
  adaptiveTimeoutEnabled := plan.adaptiveTimeoutEnabled
  maxPlanTimeoutMs := plan.maxPlanTimeoutMs
  planStartedAtMs
  planDeadlineMs := plan.initialPlanTimeoutMs.map (planStartedAtMs + ·)

def planCeilingMs (timing : PlanTimingState F) : Option Int :=
  timing.maxPlanTimeoutMs.map (timing.planStartedAtMs + ·)

def expired (timing : PlanTimingState F) (nowMs : Int) : Bool :=
  timing.planDeadlineMs.any (· ≤ nowMs)

end PlanTimingState

/-! ## The extension -/

section Extension

variable (math : FloatMath F)

/-- `_is_finite_number` -/
def isFiniteNumber (value : Json F) : Except PyException Bool :=
  match math.ofValue value with
  | .value x => .ok (Floating.isFinite x)
  | .noNumber => .ok false
  | .raises e => .error e

/-- `float(value) if _is_finite_number(value) else None` -/
def finiteNumber (value : Json F) : Except PyException (Option F) :=
  match math.ofValue value with
  | .value x => .ok (if Floating.isFinite x then some x else none)
  | .noNumber => .ok none
  | .raises e => .error e

/-- Why a duration that is no finite number grants nothing. -/
def durationReason (duration : Json F) : String :=
  match duration with
  | .float x =>
      if math.isInf x then "infinite_duration"
      else if math.isNan x || math.isNanText duration then "nan_duration"
      else "invalid_duration"
  | .null => "invalid_duration"
  | _ => if math.isNanText duration then "nan_duration" else "invalid_duration"

/-- The milliseconds of playback that are left with the margin, or the reason why
nothing is to be granted. -/
def neededMs (observed : Public F) (duration currentTime playbackRate : Option F) (marginMs : Int) :
    Except PyException (String ⊕ Int) := do
  if ReceiptChain.truthy (Json.get observed "ended") then return .inl "already_ended"
  if let .bool true := Json.get observed "loop" then return .inl "looping_media"
  match duration with
  | none => return .inl (durationReason math (Json.get observed "duration"))
  | some duration =>
      if math.nonPositive duration then return .inl "zero_duration"
      match playbackRate with
      | none => return .inl "invalid_playback_rate"
      | some rate =>
          if math.nonPositive rate then return .inl "invalid_playback_rate"
          let current := currentTime.getD math.zero
          if ReceiptChain.truthy (Json.get observed "paused") && math.nonPositive current then
            return .inl "never_started"
          let readyState := Json.get observed "readyState"
          if ← isFiniteNumber math readyState then
            if (← math.toInt readyState) < 1 then return .inl "stalled_or_no_metadata"
          let remaining := math.clamp (math.div (math.sub duration current) rate)
          return .inr ((← math.ceil (math.toMs remaining)) + marginMs)

/-- The grant for a target deadline: both deadlines move towards it, up to the
ceiling of the plan. -/
def grantExtension (base : TimingExtensionDecision F) (timing : PlanTimingState F)
    (waitDeadlineMs targetDeadline : Int) : TimingExtensionDecision F :=
  let waitRequest := max 0 (targetDeadline - waitDeadlineMs)
  let planRequest := timing.planDeadlineMs.elim 0 fun deadline => max 0 (targetDeadline - deadline)
  let requested := max waitRequest planRequest
  let base := { base with requestedExtensionMs := requested }
  if requested ≤ 0 then { base with extensionReason := "no_extension_needed" }
  else
    let capped := timing.planCeilingMs.any (· < targetDeadline)
    let limit := timing.planCeilingMs.elim targetDeadline (min targetDeadline)
    let grantedWait := max 0 (limit - waitDeadlineMs)
    let grantedPlan := timing.planDeadlineMs.elim 0 fun deadline => max 0 (limit - deadline)
    let granted := max grantedWait grantedPlan
    let prevented := capped && granted < requested
    let base :=
      { base with grantedExtensionMs := granted, ceilingPreventedFullExtension := prevented }
    if granted ≤ 0 then
      { base with
        extensionReason := if capped then "ceiling_blocks_extension" else "no_extension_needed" }
    else
      { base with
        extensionReason := if prevented then "video_ended_remaining_playback_capped"
          else "video_ended_remaining_playback"
        resultingWaitDeadlineMs := some (waitDeadlineMs + grantedWait)
        resultingPlanDeadlineMs := match timing.planDeadlineMs with
          | some deadline => some (deadline + grantedPlan)
          | none => base.resultingPlanDeadlineMs }

/-- `compute_video_ended_extension` -/
def computeVideoEndedExtension (observed : Public F) (nowMs waitDeadlineMs : Int)
    (planTiming : Option (PlanTimingState F)) (marginMs : Int) :
    Except PyException (TimingExtensionDecision F) :=
  let base : TimingExtensionDecision F := {
    conditionType := "video_ended"
    extensionReason := "adaptation_disabled"
    originalWaitDeadlineMs := some waitDeadlineMs
    resultingWaitDeadlineMs := some waitDeadlineMs
    originalPlanDeadlineMs := planTiming.bind (·.planDeadlineMs)
    resultingPlanDeadlineMs := planTiming.bind (·.planDeadlineMs)
    maxPlanTimeoutMs := planTiming.bind (·.maxPlanTimeoutMs)
    adaptiveTimeoutEnabled := planTiming.any (·.adaptiveTimeoutEnabled) }
  match planTiming with
  | none => .ok base
  | some timing =>
      if !timing.adaptiveTimeoutEnabled then .ok base
      else do
        let duration ← finiteNumber math (Json.get observed "duration")
        let currentTime ← finiteNumber math (Json.get observed "currentTime")
        let playbackRate ← finiteNumber math (Json.get observed "playbackRate")
        let base :=
          { base with
            observedDuration := duration, observedCurrentTime := currentTime
            observedPlaybackRate := playbackRate }
        match ← neededMs math observed duration currentTime playbackRate marginMs with
        | .inl reason => return { base with extensionReason := reason }
        | .inr needed => return grantExtension base timing waitDeadlineMs (nowMs + needed)

/-- `apply_extension_decision`: the new wait deadline, and the timing state. -/
def applyExtensionDecision (decision : TimingExtensionDecision F) (waitDeadlineMs : Int)
    (planTiming : Option (PlanTimingState F)) : Int × Option (PlanTimingState F) :=
  let grants := decide (0 < decision.grantedExtensionMs)
  let newWait := match decision.resultingWaitDeadlineMs with
    | some deadline => if grants then max waitDeadlineMs deadline else waitDeadlineMs
    | none => waitDeadlineMs
  let extend (timing : PlanTimingState F) : PlanTimingState F :=
    match timing.planDeadlineMs, decision.resultingPlanDeadlineMs with
    | some deadline, some resulting =>
        if grants then { timing with planDeadlineMs := some (max deadline resulting) } else timing
    | _, _ => timing
  (newWait, planTiming.map fun timing =>
    let timing := extend timing
    { timing with decisions := timing.decisions ++ [decision] })

end Extension

/-! ## The wait loop -/

/-- What one look at the condition reports. -/
structure WaitObservation (F : Type) where
  satisfied : Option Bool
  observed : Public F
  failKind : Option String

inductive WaitCall
  | observe | clock
  | pause (ms : Int)

/-- The page and the clock, as the wait loop sees them. -/
abbrev WaitSig (F : Type) : Sig where
  Call := WaitCall
  Answer
    | .observe => Except PyException (WaitObservation F)
    | .clock => Int
    | .pause _ => Except PyException Unit

/-- Failures that end a wait at once. -/
def abortingKinds : List String :=
  ["multiple_after_primary", "multiple_after_constraints", "ambiguous_container", "ambiguous_frame",
    "missing_frame", "detached_frame", "not_a_frame", "target_not_select", "target_not_video"]

def WAIT_POLL_INTERVAL_MS : Int := 50

inductive TimeoutKind
  | planDeadline | waitTimeout
  deriving DecidableEq, Repr

/-- The result of a wait, with what its evidence says of the condition. -/
structure WaitResult where
  ok : Bool
  error : Option String := none
  failureKind : Option String := none
  conditionSatisfied : Bool := false
  timeoutKind : Option TimeoutKind := none
  completedAtMs : Int
  observationCount : Nat
  deriving DecidableEq, Repr

/-- What the loop carries from one poll to the next. -/
structure WaitState (F : Type) where
  deadline : Int
  planTiming : Option (PlanTimingState F)
  observations : Nat := 0

/-- The deadline a wait starts with. -/
def WaitState.begin (started timeoutMs : Int) (planTiming : Option (PlanTimingState F)) :
    WaitState F where
  deadline := match planTiming.bind (·.planDeadlineMs) with
    | some planDeadline => min (started + timeoutMs) planDeadline
    | none => started + timeoutMs
  planTiming

/-- The adaptive block of the loop: what an observation of unfinished media does to
the deadlines. -/
def adapt (math : FloatMath F) (s : WaitState F) (observed : Public F) (nowMs : Int) :
    Except PyException (WaitState F) := do
  let decision ← computeVideoEndedExtension math observed nowMs s.deadline s.planTiming
    VIDEO_ENDED_ADAPTIVE_MARGIN_MS
  if 0 < decision.grantedExtensionMs then
    let (deadline, planTiming) := applyExtensionDecision decision s.deadline s.planTiming
    let deadline := match planTiming.bind (·.planDeadlineMs) with
      | some planDeadline => if planDeadline < deadline then planDeadline else deadline
      | none => deadline
    return { s with deadline, planTiming }
  else if decision.extensionReason ∈
      ["adaptation_disabled", "no_extension_needed", "already_ended"] then return s
  else
    -- a refusal is recorded once for each reason
    return { s with
      planTiming := s.planTiming.map fun timing =>
        if timing.decisions.any (·.extensionReason = decision.extensionReason) then timing
        else { timing with decisions := timing.decisions ++ [decision] } }

/-- Whether the observation is one of unfinished media under adaptive timing. -/
def adapts (s : WaitState F) (o : WaitObservation F) : Bool :=
  s.planTiming.any (·.adaptiveTimeoutEnabled) && o.satisfied == some false &&
    o.failKind.isNone && o.observed.any (·.1 == "duration")

/-- A wait that is over: the clock is read once more for its result. -/
def finishWait (s : WaitState F) (result : Int → WaitResult) :
    Prog (WaitSig F) (Except PyException (WaitResult × WaitState F)) :=
  .call .clock fun now => .done (.ok (result now, s))

/-- The deadline checks at the end of a poll, and what follows the pause. -/
def checkDeadlines (s : WaitState F)
    (next : Prog (WaitSig F) (Except PyException (WaitResult × WaitState F))) :
    Prog (WaitSig F) (Except PyException (WaitResult × WaitState F)) :=
  .call .clock fun (now : Int) =>
    if s.planTiming.any (·.expired now) then
      .done (.ok ({
        ok := true, failureKind := some "plan_deadline_expired", timeoutKind := some .planDeadline
        completedAtMs := now, observationCount := s.observations }, s))
    else if s.deadline ≤ now then
      .done (.ok ({
        ok := true, timeoutKind := some .waitTimeout
        completedAtMs := now, observationCount := s.observations }, s))
    else .call (.pause WAIT_POLL_INTERVAL_MS) fun
      | .error e => .done (.error e)
      | .ok () => next

/-- The loop of `_dispatch_wait_for` for a `video_ended` condition, with a bound on
the polls. -/
def waitLoop (math : FloatMath F) : Nat → WaitState F →
    Prog (WaitSig F) (Except PyException (WaitResult × WaitState F))
  | 0, _ => .diverge
  | polls + 1, s =>
      .call .observe fun
        | .error e => .done (.error e)
        | .ok o =>
            let s := { s with observations := s.observations + 1 }
            if o.failKind.any (· ∈ abortingKinds) then
              finishWait s fun now => {
                ok := false, error := o.failKind, failureKind := o.failKind
                completedAtMs := now, observationCount := s.observations }
            else if o.satisfied = some true then
              finishWait s fun now => {
                ok := true, conditionSatisfied := true
                completedAtMs := now, observationCount := s.observations }
            else if o.satisfied = none ∧ o.failKind = some "wait_observation_failed" then
              finishWait s fun now => {
                ok := false, error := some "wait observation failed", failureKind := o.failKind
                completedAtMs := now, observationCount := s.observations }
            else if adapts s o then
              .call .clock fun (now : Int) =>
                match adapt math s o.observed now with
                | .error e => .done (.error e)
                | .ok s => checkDeadlines s (waitLoop math polls s)
            else checkDeadlines s (waitLoop math polls s)

end Dingdongditch.Timing
