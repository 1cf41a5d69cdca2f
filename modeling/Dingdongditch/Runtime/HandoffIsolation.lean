import Dingdongditch.Runtime.Leases

/-!
# Preparations across a hand-off

An offer invalidates the preparations of a session whose policy does not let them
pass (`offer_closes`), but the offering controller may prepare again before the
recipient claims.  So what a commit executes was prepared under the control epoch
it runs in, or under the one before it and then between the offer and the claim of
that offer, and nothing that was there at an offer is executed after it
(`executions_isolated`).
-/

namespace Dingdongditch

open Interaction Text

variable {host : SessionHost}

/-! ## Where an open preparation comes from -/

/-- Each open preparation of `s` was open in `s₀`, created under the same epoch, or
is new and was created under `epoch`. -/
def Descends (s₀ : SessionRecord host.codec) (epoch : Nat) (s : SessionRecord host.codec) : Prop :=
  ∀ token p, s.preparations.lookup token = some p → p.isPrepared = true →
    (∃ p₀, s₀.preparations.lookup token = some p₀ ∧ p₀.isPrepared = true ∧
      p₀.createdUnder = p.createdUnder) ∨
    (s₀.preparations.lookup token = none ∧ p.createdUnder = epoch)

namespace Descends

variable {s₀ s : SessionRecord host.codec} {epoch : Nat}

theorem refl (s : SessionRecord host.codec) (epoch : Nat) : Descends s epoch s :=
  fun _ p found isPrepared => .inl ⟨p, found, isPrepared, rfl⟩

theorem invalidatePreparations (s : SessionRecord host.codec) :
    Descends s₀ epoch s.invalidatePreparations := by
  intro token p found isPrepared
  rw [s.invalidatePreparations_lookup] at found
  obtain ⟨before, -, rfl⟩ := Option.map_eq_some_iff.mp found
  rw [before.invalidateIfPrepared_isPrepared] at isPrepared
  cases isPrepared

theorem setPreparationStatus (descends : Descends s₀ epoch s) (token : String)
    {status : PreparationStatus} (closed : status = .committed ∨ status = .invalidated) :
    Descends s₀ epoch (s.setPreparationStatus token status) := by
  intro other p found isPrepared
  rw [s.setPreparationStatus_lookup] at found
  obtain ⟨before, known, rfl⟩ := Option.map_eq_some_iff.mp found
  split at isPrepared
  · rw [before.isPrepared_setStatus (by rcases closed with rfl | rfl <;> decide)] at isPrepared
    cases isPrepared
  · next differs =>
      rw [if_neg differs]
      exact descends other before known isPrepared

theorem assign {token : String} {record : PreparedRecord} (descends : Descends s₀ epoch s)
    (fresh : s₀.preparations.lookup token = none) (created : record.createdUnder = epoch) :
    Descends s₀ epoch { s with preparations := Text.assign s.preparations token record } := by
  intro other p found isPrepared
  change (Text.assign s.preparations token record).lookup other = some p at found
  rw [lookup_assign] at found
  split at found
  · next same =>
      subst same
      obtain rfl := Option.some.inj found
      exact .inr ⟨fresh, created⟩
  · exact descends other p found isPrepared

theorem watching (s₀ : SessionRecord host.codec) (epoch : Nat) : Watching (Descends s₀ epoch) where
  touched _ _ before := before
  closed _ _ _ before := before
  terminal _ before := before
  identified _ _ before := before
  advanced s _ _ := invalidatePreparations s
  evidenced _ _ _ before := before
  fingerprinted _ _ before := before
  invalidated s _ := invalidatePreparations s
  refused _ token refusable := refusable.1.setPreparationStatus token (.inr rfl)
  speculating _ _ before := before
  offered _ _ before := before
  identityBound _ _ _ before := before
  planBound _ _ _ before _ := before
  planInstalled _ _ _ _ before _ := before

end Descends

/-- The epoch of `s₀`, and preparations that come from it. -/
def SameEpoch (s₀ s : SessionRecord host.codec) : Prop :=
  s.controlEpoch = s₀.controlEpoch ∧ Descends s₀ s₀.controlEpoch s

theorem SameEpoch.watching (s₀ : SessionRecord host.codec) : Watching (SameEpoch s₀) where
  touched _ _ before := before
  closed _ _ _ before := before
  terminal _ before := before
  identified _ _ before := before
  advanced s _ before := ⟨before.1, .invalidatePreparations s⟩
  evidenced _ _ _ before := before
  fingerprinted _ _ before := before
  invalidated s before := ⟨before.1, .invalidatePreparations s⟩
  refused _ token refusable := ⟨refusable.1.1, refusable.1.2.setPreparationStatus token (.inr rfl)⟩
  speculating _ _ before := before
  offered _ _ before := before
  identityBound _ _ _ before := before
  planBound _ _ _ before _ := before
  planInstalled _ _ _ _ before _ := before

theorem SameEpoch.committing (s₀ : SessionRecord host.codec) : Committing (SameEpoch s₀) where
  toStable := (watching s₀).toStable
  charged s _ _ _ before := by
    unfold SessionRecord.charge
    split
    · exact before
    · exact before
  chained _ _ _ _ before _ := before
  stepped _ before := before
  speculated s _ _ before := by
    unfold SessionRecord.advanceSpeculations
    split
    · exact before
    · exact before
  committing _ token _ before _ _ := ⟨before.1, before.2.setPreparationStatus token (.inl rfl)⟩
  released _ _ before := before
  selected _ _ before := before

/-- A claim prepares nothing. -/
theorem claim_descends {step : SessionStep host} {request : ClaimRequest}
    (claims : step.method = .claimAgentHandoff request) (epoch : Nat) :
    Descends step.before epoch step.after := by
  obtain ⟨call, before, t, outcome, after, run⟩ := step
  obtain rfl := claims
  have stable := (Descends.watching before epoch).toStable
  exact (claimAgentHandoff_keeps stable.toSteady (fun _ _ _ _ same => same) request).left
    _ _ _ _ run (.refl before _)

/-- What a call leaves open was open before it, or was prepared in it. -/
theorem step_descends {step : SessionStep host} (fresh : FreshTokens step) :
    Descends step.before step.before.controlEpoch step.after := by
  by_cases claims : ∃ request, step.method = .claimAgentHandoff request
  · obtain ⟨request, claims⟩ := claims
    exact claim_descends claims _
  · have watching := SameEpoch.watching step.before
    refine (SessionCall.run_keeps watching.toObserving (SameEpoch.committing step.before) step.run
      (fun request _ => prepareAgentHandoff_keeps watching.toObserving watching.offered request)
      (fun request isClaim => (claims ⟨request, isClaim⟩).elim) ?_ ⟨rfl, .refl _ _⟩).2
    intro request u r s s' sub run before
    have stable := watching.toStable
    rcases prepareOperation_run run with stably | ⟨s₁, token, record, stably, prepares, -, drawn, last⟩
    · exact stably _ stable before
    · have same := stably _ stable before
      have unknown := fresh token (mem_drawnTokens (sub _ drawn))
      exact last _ stable ⟨same.1, same.2.assign unknown (prepares.createdUnder.trans same.1)⟩

/-! ## An offer -/

/-- No preparation is open. -/
def SessionRecord.Closed {codec : HostCodec} (s : SessionRecord codec) : Prop :=
  ∀ token p, s.preparations.lookup token = some p → p.isPrepared = false

theorem SessionRecord.invalidatePreparations_closed (s : SessionRecord host.codec) :
    s.invalidatePreparations.Closed := by
  intro token p found
  rw [s.invalidatePreparations_lookup] at found
  obtain ⟨before, -, rfl⟩ := Option.map_eq_some_iff.mp found
  exact before.invalidateIfPrepared_isPrepared

theorem SessionRecord.Closed.stable (codec : HostCodec) :
    Stable fun s : SessionRecord codec => s.Closed where
  touched _ _ closed := closed
  closed _ _ _ closed := closed
  terminal _ closed := closed
  identified _ _ closed := closed
  advanced _ _ closed := by
    intro token p found
    rw [SessionRecord.invalidatePreparations_lookup] at found
    obtain ⟨before, -, rfl⟩ := Option.map_eq_some_iff.mp found
    exact before.invalidateIfPrepared_isPrepared
  evidenced _ _ _ closed := closed
  fingerprinted _ _ closed := closed

/-- An offer that fails leaves the offers alone; one that succeeds leaves no
preparation open, unless the policy lets them pass, and is the only one on offer. -/
theorem prepareAgentHandoff_closes {request : OfferRequest} {s s' : SessionRecord host.codec}
    {t : Trace QuietSig} {r : Except PyException AgentHandoffCheckpoint}
    (run : Act.Runs (prepareAgentHandoff request : Watch host _) s t r s')
    (kept : s.transferable = false) :
    (s'.pendingHandoffs = s.pendingHandoffs ∧ ∃ e, r = .error e) ∨
      (∃ checkpoint, r = .ok checkpoint) ∧ s'.Closed ∧ ∃ offer, s'.pendingHandoffs = [offer] := by
  have stable : Stable fun x : SessionRecord host.codec =>
      x.pendingHandoffs = s.pendingHandoffs ∧ x.transferable = false := {
    touched := fun _ _ same => same
    closed := fun _ _ _ same => same
    terminal := fun _ same => same
    identified := fun _ _ same => same
    advanced := fun _ _ same => same
    evidenced := fun _ _ _ same => same
    fingerprinted := fun _ _ same => same }
  have closed := SessionRecord.Closed.stable host.codec
  unfold prepareAgentHandoff at run
  rcases Stably.check_inv (fun _ _ => checkTtl_keeps _) (fun _ _ holds => holds) run with
    stopped | ⟨t₁, _, s₁, u₁, rfl, stably₁, -, run₁⟩
  · exact .inl ⟨(stopped.1 _ stable ⟨rfl, kept⟩).1, stopped.2⟩
  rcases Stably.check_inv (fun _ _ => validateAgentId_keeps _) stably₁ run₁ with
    stopped | ⟨t₂, _, s₂, u₂, rfl, stably₂, -, run₂⟩
  · exact .inl ⟨(stopped.1 _ stable ⟨rfl, kept⟩).1, stopped.2⟩
  rcases Stably.check_inv (fun _ stable => access_keeps stable.toSteady) stably₂ run₂ with
    stopped | ⟨t₃, _, s₃, u₃, rfl, stably₃, -, run₃⟩
  · exact .inl ⟨(stopped.1 _ stable ⟨rfl, kept⟩).1, stopped.2⟩
  rcases Stably.check_inv (fun _ _ => requireControl_keeps _ _) stably₃ run₃ with
    stopped | ⟨t₄, _, s₄, u₄, rfl, stably₄, -, run₄⟩
  · exact .inl ⟨(stopped.1 _ stable ⟨rfl, kept⟩).1, stopped.2⟩
  rcases Stably.check_inv (fun _ stable => requireIdentity_keeps stable) stably₄ run₄ with
    stopped | ⟨t₅, _, s₅, u₅, rfl, stably₅, -, run₅⟩
  · exact .inl ⟨(stopped.1 _ stable ⟨rfl, kept⟩).1, stopped.2⟩
  rcases Stably.check_inv (fun _ stable => refreshExternalMutation_keeps stable.toSteady) stably₅ run₅
    with stopped | ⟨t₆, _, s₆, u₆, rfl, stably₆, -, run₆⟩
  · exact .inl ⟨(stopped.1 _ stable ⟨rfl, kept⟩).1, stopped.2⟩
  rcases Stably.check_inv (fun _ _ => verifyRecipient_keeps _) stably₆ run₆ with
    stopped | ⟨t₇, descriptor, s₇, u₇, rfl, stably₇, -, run₇⟩
  · exact .inl ⟨(stopped.1 _ stable ⟨rfl, kept⟩).1, stopped.2⟩
  rcases Stably.check_inv (fun _ stable => activeBackend_keeps stable.terminal) stably₇ run₇ with
    stopped | ⟨t₈, _, s₈, u₈, rfl, stably₈, -, run₈⟩
  · exact .inl ⟨(stopped.1 _ stable ⟨rfl, kept⟩).1, stopped.2⟩
  obtain ⟨offers₈, kept₈⟩ := stably₈ _ stable ⟨rfl, kept⟩
  replace run₈ := run₈.modify_bind_inv
  rw [kept₈] at run₈
  have ended : (s₈.invalidatePreparations).Closed := s₈.invalidatePreparations_closed
  rcases Stably.check_inv (fun _ _ => Watch.listPages_keeps) (fun _ _ holds => holds) run₈ with
    stopped | ⟨t₉, _, s₉, u₉, rfl, stably₉, -, run₉⟩
  · exact .inl ⟨(stopped.1 _ stable ⟨offers₈, kept₈⟩).1, stopped.2⟩
  obtain ⟨token, u₁₀, rfl, run₁₀⟩ := run₉.ask_bind_inv
  obtain ⟨now, u₁₁, rfl, run₁₁⟩ := run₁₀.ask_bind_inv
  rcases Stably.check_inv (fun _ _ => Watch.pageUrl_keeps) stably₉ run₁₁ with
    stopped | ⟨t₁₂, _, s₁₂, u₁₂, rfl, stably₁₂, -, run₁₂⟩
  · exact .inl ⟨(stopped.1 _ stable ⟨offers₈, kept₈⟩).1, stopped.2⟩
  replace run₁₂ := run₁₂.get_bind_inv.modify_bind_inv
  have closed₁₂ := stably₁₂ _ closed ended
  rcases run₁₂.bind_inv with ⟨e, -, noted⟩ | ⟨t₁₃, _, s₁₃, u₁₃, rfl, noted, last⟩
  · cases (touch_run noted).1
  obtain ⟨-, rfl, rfl⟩ := Act.runs_pure.mp last
  obtain ⟨-, later, rfl⟩ := touch_run noted
  exact .inr ⟨⟨_, rfl⟩, closed₁₂, _, rfl⟩

/-! ## The steps of a run -/

/-- The policy of a session never changes. -/
theorem step_transferable (step : SessionStep host) (kept : step.before.transferable = false) :
    step.after.transferable = false := by
  have observing : Observing fun s : SessionRecord host.codec => s.transferable = false := {
    touched := fun _ _ kept => kept
    closed := fun _ _ _ kept => kept
    terminal := fun _ kept => kept
    identified := fun _ _ kept => kept
    advanced := fun _ _ kept => kept
    evidenced := fun _ _ _ kept => kept
    fingerprinted := fun _ _ kept => kept
    invalidated := fun _ kept => kept
    refused := fun _ _ refusable => refusable.1
    regraphed := fun _ _ kept _ => kept
    identityBound := fun _ _ _ kept => kept
    planBound := fun _ _ _ kept _ => kept
    planInstalled := fun _ _ _ _ kept _ => kept }
  have committing : Committing fun s : SessionRecord host.codec => s.transferable = false := {
    toStable := observing.toStable
    charged := fun s _ _ _ kept => by
      unfold SessionRecord.charge
      split
      · exact kept
      · exact kept
    chained := fun _ _ _ _ kept _ => kept
    stepped := fun _ kept => kept
    speculated := fun s _ _ kept => by
      unfold SessionRecord.advanceSpeculations
      split
      · exact kept
      · exact kept
    committing := fun _ _ _ kept _ _ => kept
    released := fun _ _ kept => kept
    selected := fun _ _ kept => kept }
  refine step_keeps observing committing (fun _ _ kept => kept) (fun _ _ _ _ kept => kept) ?_ kept
  intro request u r s s' _ run kept
  rcases prepareOperation_run run with stably | ⟨s₁, _, record, stably, -, -, -, last⟩
  · exact stably _ observing.toStable kept
  · have before := stably _ observing.toStable kept
    exact last _ observing.toStable before

/-- The call is an offer that succeeded. -/
def CompletedOffer (step : SessionStep host) : Prop :=
  match step.method, step.outcome with
  | .prepareAgentHandoff _, .ok _ => True
  | _, _ => False

/-- The call is neither an offer nor a claim that succeeded. -/
def LeavesOffers (step : SessionStep host) : Prop :=
  ¬ CompletedOffer step ∧ completedClaim step = none

theorem completedClaim_method {step : SessionStep host} {request : ClaimRequest}
    (completed : completedClaim step = some request) : step.method = .claimAgentHandoff request := by
  obtain ⟨call, before, t, outcome, after, run⟩ := step
  cases call with
  | claimAgentHandoff taken =>
      cases outcome with
      | error e => cases completed
      | ok handoff =>
          obtain rfl := Option.some.inj completed
          rfl
  | _ => cases completed

theorem leavesOffers_of_method {step : SessionStep host}
    (offers : ¬ ∃ request, step.method = .prepareAgentHandoff request)
    (unclaimed : completedClaim step = none) : LeavesOffers step := by
  refine ⟨fun completed => ?_, unclaimed⟩
  cases method : step.method with
  | prepareAgentHandoff request => exact offers ⟨request, method⟩
  | _ =>
      obtain ⟨call, before, t, outcome, after, run⟩ := step
      obtain rfl := method
      exact False.elim completed

/-- The last offer of the past, after which the preparations that are open were prepared. -/
structure Pending (past : List (SessionStep host)) (s : SessionRecord host.codec) : Prop where
  offer : ∃ early o late, past = early ++ o :: late ∧ CompletedOffer o ∧ Progress o.before s ∧
    (∀ l ∈ late, LeavesOffers l) ∧ (∃ token, o.after.offerTokens = [token]) ∧
    s.offerTokens = o.after.offerTokens ∧
    ∀ token p, s.preparations.lookup token = some p → p.isPrepared = true →
      o.before.preparations.lookup token = none
  current : ∀ token p, s.preparations.lookup token = some p → p.isPrepared = true →
    p.createdUnder = s.controlEpoch

/-- The token was prepared after the offer whose claim is the last claim of the lease,
the last offer before it, and before this claim. -/
def PreparedBetween (past : List (SessionStep host)) (token : String) : Prop :=
  ∃ early o mid c late request, past = early ++ o :: mid ++ c :: late ∧ CompletedOffer o ∧
    o.after.offerTokens = [request.handoffToken] ∧ completedClaim c = some request ∧
    (∀ m ∈ mid, LeavesOffers m) ∧ (∀ l ∈ late, completedClaim l = none) ∧
    o.before.preparations.lookup token = none ∧ (c.before.preparations.lookup token).isSome

theorem PreparedBetween.append {past : List (SessionStep host)} {token : String}
    (between : PreparedBetween past token) {step : SessionStep host}
    (unclaimed : completedClaim step = none) : PreparedBetween (past ++ [step]) token := by
  obtain ⟨early, o, mid, c, late, request, rfl, offers, offered, claims, inMid, inLate, unknown,
    known⟩ := between
  refine ⟨early, o, mid, c, late ++ [step], request, by simp, offers, offered, claims, inMid, ?_,
    unknown, known⟩
  intro l member
  rcases List.mem_append.mp member with before | last
  · exact inLate l before
  · rw [List.mem_singleton.mp last]
    exact unclaimed

/-- What holds between the calls of a session whose policy lets no preparation pass. -/
structure Isolated (past : List (SessionStep host)) (s : SessionRecord host.codec) : Prop where
  kept : s.transferable = false
  pending : s.pendingHandoffs ≠ [] → Pending past s
  prepared : ∀ token p, s.preparations.lookup token = some p → p.isPrepared = true →
    p.createdUnder = s.controlEpoch ∨
    (p.createdUnder + 1 = s.controlEpoch ∧ PreparedBetween past token)

theorem Pending.step {past : List (SessionStep host)} {step : SessionStep host}
    (pending : Pending past step.before) (fresh : FreshTokens step) (leaves : LeavesOffers step)
    (epoch : step.after.controlEpoch = step.before.controlEpoch)
    (kept : step.after.pendingHandoffs = step.before.pendingHandoffs) :
    Pending (past ++ [step]) step.after := by
  obtain ⟨early, o, late, rfl, offers, progress, inLate, offered, same, since⟩ := pending.offer
  have descends := step_descends fresh
  have sameTokens : step.after.offerTokens = step.before.offerTokens := by
    unfold SessionRecord.offerTokens
    rw [kept]
  constructor
  · refine ⟨early, o, late ++ [step], by simp, offers, progress.trans (step_progress fresh), ?_,
      offered, sameTokens.trans same, ?_⟩
    · intro l member
      rcases List.mem_append.mp member with before | last
      · exact inLate l before
      · rw [List.mem_singleton.mp last]
        exact leaves
    intro token p found isPrepared
    rcases descends token p found isPrepared with ⟨p₀, found₀, isPrepared₀, -⟩ | ⟨unknown, -⟩
    · exact since token p₀ found₀ isPrepared₀
    · refine Option.eq_none_iff_forall_ne_some.mpr fun old known => ?_
      rcases progress token old known with ⟨p', found', -⟩
      rw [unknown] at found'
      cases found'
  · intro token p found isPrepared
    rw [epoch]
    rcases descends token p found isPrepared with ⟨p₀, found₀, isPrepared₀, same⟩ | ⟨-, created⟩
    · rw [← same]
      exact pending.current token p₀ found₀ isPrepared₀
    · exact created

/-- A call of which the lease and the epoch stay. -/
theorem Isolated.stay {past : List (SessionStep host)} {step : SessionStep host}
    (isolated : Isolated past step.before) (fresh : FreshTokens step) (leaves : LeavesOffers step)
    (epoch : step.after.controlEpoch = step.before.controlEpoch)
    (offers : step.after.pendingHandoffs = step.before.pendingHandoffs) :
    Isolated (past ++ [step]) step.after := by
  refine ⟨step_transferable step isolated.kept, ?_, ?_⟩
  · intro open_
    rw [offers] at open_
    exact (isolated.pending open_).step fresh leaves epoch offers
  · intro token p found isPrepared
    rw [epoch]
    rcases step_descends fresh token p found isPrepared with ⟨p₀, found₀, isPrepared₀, same⟩ | ⟨-, created⟩
    · rw [← same]
      exact (isolated.prepared token p₀ found₀ isPrepared₀).imp_right fun late =>
        ⟨late.1, late.2.append leaves.2⟩
    · exact .inl created

/-- A claim of the lease: what is open was prepared since the offer. -/
theorem Isolated.claim {past : List (SessionStep host)} {step : SessionStep host}
    (isolated : Isolated past step.before) {request : ClaimRequest}
    (claims : step.method = .claimAgentHandoff request)
    (completed : completedClaim step = some request) : Isolated (past ++ [step]) step.after := by
  obtain ⟨known, taken, token, -, lease⟩ := completedClaim_some completed
  have epoch : step.after.controlEpoch = step.before.controlEpoch + 1 :=
    congrArg Lease.controlEpoch lease
  have offered : step.before.pendingHandoffs ≠ [] := by
    intro none
    rw [SessionRecord.offerTokens, none] at known
    cases known
  have pending := isolated.pending offered
  obtain ⟨early, o, late, rfl, offers, -, inLate, ⟨offer, offered⟩, same, since⟩ := pending.offer
  have ofOffer : offer = request.handoffToken := by
    rw [same, offered] at known
    exact (List.mem_singleton.mp known).symm
  refine ⟨step_transferable step isolated.kept, ?_, ?_⟩
  · intro open_
    exact (open_ (List.map_eq_nil_iff.mp taken)).elim
  · intro other p found isPrepared
    rcases claim_descends claims (p.createdUnder + 1) other p found isPrepared with
      ⟨p₀, found₀, isPrepared₀, created⟩ | ⟨-, created⟩
    · refine .inr ⟨?_, early, o, late, step, [], request, by simp, offers, ofOffer ▸ offered,
        completed, inLate, by simp, ?_, ?_⟩
      · rw [epoch, ← created, pending.current other p₀ found₀ isPrepared₀]
      · exact since other p₀ found₀ isPrepared₀
      · rw [found₀]
        rfl
    · omega

/-- An offer that succeeds leaves nothing open. -/
theorem offer_cases {step : SessionStep host} {request : OfferRequest}
    (offering : step.method = .prepareAgentHandoff request) (kept : step.before.transferable = false) :
    (LeavesOffers step ∧ step.after.pendingHandoffs = step.before.pendingHandoffs) ∨
      CompletedOffer step ∧ step.after.Closed ∧ ∃ token, step.after.offerTokens = [token] := by
  obtain ⟨call, before, t, outcome, after, run⟩ := step
  obtain rfl := offering
  obtain ⟨u, rfl, running⟩ := run.of_left
  rcases prepareAgentHandoff_closes running kept with
    ⟨same, e, rfl⟩ | ⟨⟨checkpoint, rfl⟩, closed, offer, offered⟩
  · exact .inl ⟨⟨not_false, rfl⟩, same⟩
  · refine .inr ⟨trivial, closed, offer.1, ?_⟩
    change after.offerTokens = [offer.1]
    unfold SessionRecord.offerTokens
    rw [offered]
    rfl

theorem CompletedOffer.closed {step : SessionStep host} (completed : CompletedOffer step)
    (kept : step.before.transferable = false) : step.after.Closed := by
  cases method : step.method with
  | prepareAgentHandoff request =>
      rcases offer_cases method kept with ⟨leaves, -⟩ | ⟨-, closed, -⟩
      · exact absurd completed leaves.1
      · exact closed
  | _ =>
      obtain ⟨call, before, t, outcome, after, run⟩ := step
      obtain rfl := method
      exact False.elim completed

/-- What was there when an offer was made is not executed afterwards. -/
theorem not_executes_after_offer {o step : SessionStep host} {mid : List (SessionStep host)}
    (completed : CompletedOffer o) (kept : o.before.transferable = false) (fresh : FreshTokens o)
    (run : SessionRun host o.after mid step.before) (freshMid : ∀ m ∈ mid, FreshTokens m)
    {token : String} (known : (o.before.preparations.lookup token).isSome = true) {op : Operation} :
    ¬ Executes step token op := by
  intro executes
  obtain ⟨p, found⟩ := Option.isSome_iff_exists.mp known
  rcases step_progress fresh token p found with ⟨p₁, found₁, -⟩
  have isClosed := completed.closed kept token p₁ found₁
  rcases run_progress run freshMid token p₁ found₁ with ⟨p₂, found₂, advances⟩
  obtain ⟨q, foundQ, isPrepared, -⟩ := executes.before
  obtain rfl := Option.some.inj (found₂.symm.trans foundQ)
  rw [PreparedRecord.isPrepared, advances.terminal isClosed] at isPrepared
  rw [PreparedRecord.isPrepared, isPrepared] at isClosed
  cases isClosed

/-- An offer: nothing that is open outlives it. -/
theorem Isolated.offer {past : List (SessionStep host)} {step : SessionStep host}
    (isolated : Isolated past step.before) (fresh : FreshTokens step) {request : OfferRequest}
    (offering : step.method = .prepareAgentHandoff request) : Isolated (past ++ [step]) step.after := by
  have progress := step_progress fresh
  have epoch : step.after.controlEpoch = step.before.controlEpoch := by
    obtain ⟨call, before, t, outcome, after, run⟩ := step
    obtain rfl := offering
    obtain ⟨u, rfl, running⟩ := run.of_left
    exact congrArg Lease.controlEpoch
      (prepareAgentHandoff_offers before request _ _ _ _ running ⟨rfl, rfl⟩).1
  rcases offer_cases offering isolated.kept with ⟨leaves, same⟩ | ⟨completed, closed, offered⟩
  · exact isolated.stay fresh leaves epoch same
  · have none : ∀ {P : Prop} token p, step.after.preparations.lookup token = some p →
        p.isPrepared = true → P := by
      intro P token p found isPrepared
      rw [closed token p found] at isPrepared
      cases isPrepared
    refine ⟨step_transferable step isolated.kept, ?_, fun token p => none token p⟩
    intro _
    exact ⟨⟨past, step, [], rfl, completed, progress, by simp, offered, rfl, fun token p => none token p⟩,
      fun token p => none token p⟩

theorem Isolated.step {past : List (SessionStep host)} {step : SessionStep host}
    (isolated : Isolated past step.before) (fresh : FreshTokens step) :
    Isolated (past ++ [step]) step.after := by
  by_cases offers : ∃ request, step.method = .prepareAgentHandoff request
  · obtain ⟨request, offering⟩ := offers
    exact isolated.offer fresh offering
  by_cases claims : ∃ request, step.method = .claimAgentHandoff request
  · obtain ⟨request, claiming⟩ := claims
    cases completed : completedClaim step with
    | some taken =>
        exact isolated.claim (completedClaim_method completed) completed
    | none =>
        have refused : RefusedClaim step := by
          obtain ⟨call, before, t, outcome, after, run⟩ := step
          obtain rfl := claiming
          cases outcome with
          | error e => trivial
          | ok handoff => cases completed
        obtain ⟨⟨lease, same⟩, -⟩ := refused.untouched
        exact isolated.stay fresh (leavesOffers_of_method offers completed)
          (congrArg Lease.controlEpoch lease) same
  · have undisturbed : step.before.Undisturbed step.after :=
      step_undisturbed (fun request offering => offers ⟨request, offering⟩)
        fun request claiming => claims ⟨request, claiming⟩
    obtain ⟨lease, same⟩ := undisturbed
    have unclaimed : completedClaim step = none := by
      cases completed : completedClaim step with
      | none => rfl
      | some request => exact (claims ⟨request, completedClaim_method completed⟩).elim
    exact isolated.stay fresh (leavesOffers_of_method offers unclaimed)
      (congrArg Lease.controlEpoch lease) same

/-! ## Runs -/

/-- A session starts without preparations, with the policy of its request. -/
theorem Opened.isolated {request : OpenRequest host.codec} {s : SessionRecord host.codec}
    (opened : Opened request s)
    (kept : request.authorityEnvelope.any (·.transferPreparedOperations) = false) : Isolated [] s := by
  obtain ⟨sessionId, controlToken, scopeKey, now, t, run⟩ := opened
  have steady : Steady fun x : SessionRecord host.codec =>
      x.transferable = false ∧ x.preparations = [] ∧ x.pendingHandoffs = [] := {
    touched := fun _ _ start => start
    closed := fun _ _ _ start => start
    terminal := fun _ start => start
    advanced := fun s _ start => ⟨start.1, by
      change s.preparations.map _ = []
      rw [start.2.1]
      rfl, start.2.2⟩
    evidenced := fun _ _ _ start => start
    fingerprinted := fun _ _ start => start }
  obtain ⟨policy, none, unoffered⟩ := openRecord_keeps steady request _ _ _ _ run ⟨kept, rfl, rfl⟩
  refine ⟨policy, fun offered => (offered unoffered).elim, ?_⟩
  intro token p found
  rw [none] at found
  cases found

/-- When the policy of a session lets no preparation pass, what a commit executes was
prepared under the control epoch of the commit; or under the one before it, between
the offer and the claim that ended that epoch.  What was there when an offer was made is
not executed afterwards. -/
theorem executions_isolated {request : OpenRequest host.codec} {s s' : SessionRecord host.codec}
    {steps : List (SessionStep host)} (opened : Opened request s)
    (kept : request.authorityEnvelope.any (·.transferPreparedOperations) = false)
    (run : SessionRun host s steps s') (fresh : ∀ step ∈ steps, FreshTokens step) :
    (∀ early step late token op, steps = early ++ step :: late → Executes step token op →
      ∃ p, step.before.preparations.lookup token = some p ∧ p.operation = op ∧
        (p.createdUnder = step.before.controlEpoch ∨
          (p.createdUnder + 1 = step.before.controlEpoch ∧ PreparedBetween early token))) ∧
    ∀ early o mid step late token op, steps = early ++ o :: mid ++ step :: late →
      CompletedOffer o → (o.before.preparations.lookup token).isSome = true →
        ¬ Executes step token op := by
  have started : (∀ step ∈ ([] : List (SessionStep host)), FreshTokens step) → Isolated [] s :=
    fun _ => opened.isolated kept
  have history := run.history (I := fun past s => (∀ step ∈ past, FreshTokens step) → Isolated past s)
    (fun past step before fresh => (before fun other mem => fresh other (List.mem_append_left _ mem)).step
      (fresh step (List.mem_append_right _ List.mem_cons_self))) started
  refine ⟨?_, ?_⟩
  · intro early step late token op split executes
    have isolated : Isolated early step.before := history.1 early step late split fun other mem =>
      fresh other (split ▸ List.mem_append_left _ mem)
    obtain ⟨p, found, isPrepared, rfl⟩ := executes.before
    exact ⟨p, found, rfl, isolated.prepared token p found isPrepared⟩
  · intro early o mid step late token op split completed known
    have splitO : steps = early ++ o :: (mid ++ step :: late) := by simp [split]
    have isolated : Isolated early o.before := history.1 early o _ splitO fun other mem =>
      fresh other (splitO ▸ List.mem_append_left _ mem)
    obtain ⟨-, after⟩ := run_split run splitO
    obtain ⟨between, -⟩ := run_split after rfl
    refine not_executes_after_offer completed isolated.kept (fresh o (by simp [splitO])) between ?_ known
    intro m member
    exact fresh m (by simp [splitO, member])

/-! ## A preparation before the offer, and one after it -/

namespace Scenario

/-- The request that opens a governed session for Alice. -/
def guardedLease : OpenRequest scenarioHost.codec where
  authorityEnvelope := some preparedClicks
  agentId := some "alice"

/-- Alice prepares, offers, and prepares again; Bob claims, and commits both. -/
def lateCommit : List (SessionCall scenarioHost) := [
  .prepareOperation (click "a") 30000 ⟨some "alice", some "alice-key"⟩,
  .prepareAgentHandoff { caller := ⟨some "alice", some "alice-key"⟩ },
  .prepareOperation (click "b") 30000 ⟨some "alice", some "alice-key"⟩,
  .claimAgentHandoff { handoffToken := "token-3", newAgentId := "bob" },
  .commitOperation { token := "token-2", caller := ⟨some "bob", some "token-7"⟩ },
  .commitOperation { token := "token-6", caller := ⟨some "bob", some "token-7"⟩ }]

/-- The tokens are fresh, and only the second commit dispatches. -/
def showsLateCommit (steps : List (SessionStep scenarioHost))
    (_ : SessionRecord scenarioHost.codec) : Bool :=
  (steps.all fun step => (drawnTokens step.trace).all fun token =>
    (step.before.preparations.lookup token).isNone) &&
  steps.map (fun step => (rights step.trace).length) == [0, 0, 0, 0, 0, 1]

end Scenario

open Scenario in
theorem executions_isolated_late : ∃ steps s', SessionRun scenarioHost
      (guardedLease.record "session-1" "alice-key" "scope" 0) steps s' ∧
    steps.map (·.method) = lateCommit ∧
    steps.map (fun step => (rights step.trace).length) = [0, 0, 0, 0, 0, 1] ∧
    (∀ early step late token op, steps = early ++ step :: late → Executes step token op →
      ∃ p, step.before.preparations.lookup token = some p ∧ p.operation = op ∧
        (p.createdUnder = step.before.controlEpoch ∨
          (p.createdUnder + 1 = step.before.controlEpoch ∧ PreparedBetween early token))) ∧
    ∀ early o mid step late token op, steps = early ++ o :: mid ++ step :: late →
      CompletedOffer o → (o.before.preparations.lookup token).isSome = true →
        ¬ Executes step token op := by
  obtain ⟨steps, s', run, methods, shown⟩ := Component.exists_run (C := sessionComponent scenarioHost)
    script lateCommit (guardedLease.record "session-1" "alice-key" "scope" 0) {} showsLateCommit
    (by decide +kernel)
  obtain ⟨unused, dispatches⟩ := Bool.and_eq_true_iff.mp shown
  have fresh : ∀ step ∈ steps, FreshTokens step := by
    intro step mem token drawn
    have isNone := List.all_eq_true.mp (List.all_eq_true.mp unused step mem) token drawn
    exact Option.isNone_iff_eq_none.mp isNone
  have started : Opened guardedLease (guardedLease.record "session-1" "alice-key" "scope" 0) :=
    ⟨"session-1", "alice-key", "scope", 0, [], .pure () _⟩
  exact ⟨steps, s', run, methods, eq_of_beq dispatches,
    executions_isolated started (by decide) run fresh⟩

end Dingdongditch
