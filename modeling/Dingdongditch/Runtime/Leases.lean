import Dingdongditch.Interaction.Freshness
import Dingdongditch.Runtime.Preparations

/-!
# The control lease

Who may call a leased session: the pair that `_require_control` accepts, the
offers of `prepare_agent_handoff` and the claims that turn one of them into a new
lease.  A call keeps the lease and the offer, replaces the offer, or hands the
lease over (`SessionStep.tenure`); that one controller is accepted at a time, and
none twice, follows from it and from tokens that are drawn once.
-/

namespace Dingdongditch

open Interaction Text

variable {host : SessionHost}

/-- What `_require_control` reads, and the epoch that counts the hand-offs. -/
structure Lease where
  agentId : Option String
  controlToken : Option String
  controlEpoch : Nat
  deriving DecidableEq, Repr

def SessionRecord.lease {codec : HostCodec} (s : SessionRecord codec) : Lease :=
  ⟨s.agentId, s.controlToken, s.controlEpoch⟩

/-- The pair passes `_require_control`. -/
def SessionRecord.Admits (s : SessionRecord host.codec) (pair : Caller) : Prop :=
  ∃ t s', Act.Runs (requireControl pair.agentId pair.controlToken : Watch host Unit) s t (.ok ()) s'

/-- A session that is leased to an agent has a control token. -/
def SessionRecord.Keyed {codec : HostCodec} (s : SessionRecord codec) : Prop :=
  s.agentId.isSome → s.controlToken.isSome

/-- The lease and the offers of `s₀`. -/
def SessionRecord.Undisturbed (s₀ s : SessionRecord host.codec) : Prop :=
  s.lease = s₀.lease ∧ s.pendingHandoffs = s₀.pendingHandoffs

namespace SessionRecord.Undisturbed

theorem observing (s₀ : SessionRecord host.codec) : Observing (Undisturbed s₀) where
  touched _ _ same := same
  closed _ _ _ same := same
  terminal _ same := same
  identified _ _ same := same
  advanced _ _ same := same
  evidenced _ _ _ same := same
  fingerprinted _ _ same := same
  invalidated _ same := same
  refused _ _ refusable := refusable.1
  regraphed _ _ same _ := same
  identityBound _ _ _ same := same
  planBound _ _ _ same _ := same
  planInstalled _ _ _ _ same _ := same

theorem committing (s₀ : SessionRecord host.codec) : Committing (Undisturbed s₀) where
  toStable := (observing s₀).toStable
  charged s _ _ _ same := by
    unfold SessionRecord.charge
    split
    · exact same
    · exact same
  chained _ _ _ _ same _ := same
  stepped _ same := same
  speculated s _ _ same := by
    unfold SessionRecord.advanceSpeculations
    split
    · exact same
    · exact same
  committing _ _ _ same _ _ := same
  released _ _ same := same
  selected _ _ same := same

theorem prepareOperation {s₀ s s' : SessionRecord host.codec} {request : PrepareRequest}
    {t : Trace QuietSig} {r : Except PyException PreparedOperation}
    (run : Act.Runs (Dingdongditch.prepareOperation request : Watch host PreparedOperation) s t r s')
    (same : Undisturbed s₀ s) : Undisturbed s₀ s' := by
  have stable := (observing s₀).toStable
  rcases prepareOperation_run run with stably | ⟨s₁, token, record, stably, -, -, -, last⟩
  · exact stably _ stable same
  · have entered : Undisturbed s₀ { s₁ with preparations := assign s₁.preparations token record } :=
      stably _ stable same
    exact last _ stable entered

end SessionRecord.Undisturbed

/-- The calls other than those that hand control over leave the lease alone. -/
theorem step_undisturbed {step : SessionStep host}
    (noOffer : ∀ request, step.method ≠ .prepareAgentHandoff request)
    (noClaim : ∀ request, step.method ≠ .claimAgentHandoff request) :
    step.before.Undisturbed step.after := by
  refine SessionCall.run_keeps (SessionRecord.Undisturbed.observing step.before)
    (SessionRecord.Undisturbed.committing step.before) step.run ?_ ?_ ?_ ⟨rfl, rfl⟩
  · exact fun request isOffer => (noOffer request isOffer).elim
  · exact fun request isClaim => (noClaim request isClaim).elim
  · exact fun _ _ _ _ _ _ preparing => SessionRecord.Undisturbed.prepareOperation preparing

/-! ## The calls that hand control over -/

/-- What the checks of a claim may make of a record. -/
def Steadily (s s' : SessionRecord host.codec) : Prop :=
  ∀ I : SessionRecord host.codec → Prop, Steady I → I s → I s'

/-- The lease, the offers and the identity of `s₀`. -/
def SessionRecord.Untouched (s₀ s : SessionRecord host.codec) : Prop :=
  s₀.Undisturbed s ∧ s.identityAssertion = s₀.identityAssertion ∧
    s.identityDescriptor = s₀.identityDescriptor

theorem SessionRecord.Untouched.steady (s₀ : SessionRecord host.codec) : Steady (Untouched s₀) where
  touched _ _ same := same
  closed _ _ _ same := same
  terminal _ same := same
  advanced _ _ same := same
  evidenced _ _ _ same := same
  fingerprinted _ _ same := same

/-- The trace draws the token. -/
abbrev DrawnIn (t : Trace QuietSig) (token : String) : Prop :=
  (⟨.freshToken, token⟩ : Event QuietSig) ∈ t

/-- `_touch` does not fail. -/
theorem touch_run {s s' : SessionRecord host.codec} {t : Trace QuietSig} {r : Except PyException Unit}
    (run : Act.Runs (touch : Watch host Unit) s t r s') :
    r = .ok () ∧ ∃ now, s' = { s with lastActivityAtMs := now } := by
  unfold touch at run
  obtain ⟨now, u, -, noted⟩ := run.ask_bind_inv
  obtain ⟨-, rfl, rfl⟩ := Act.runs_modifyGet.mp noted
  exact ⟨rfl, now, rfl⟩

/-- A claim changes nothing of the lease, or takes the offer that its token names. -/
theorem claimAgentHandoff_run {request : ClaimRequest} {s s' : SessionRecord host.codec}
    {t : Trace QuietSig} {r : Except PyException AgentHandoff}
    (run : Act.Runs (claimAgentHandoff request : Watch host AgentHandoff) s t r s') :
    (∃ e, r = .error e ∧ s.Untouched s') ∨
    ∃ s₁ pending token, s.Untouched s₁ ∧
      s₁.pendingHandoffs.lookup request.handoffToken = some pending ∧ DrawnIn t token ∧
      (s₁.handedOver pending request.newAgentId token).Untouched s' ∧
      r = .ok ⟨request.newAgentId, s₁.controlEpoch + 1, token⟩ := by
  have steady := SessionRecord.Untouched.steady s
  have start : s.Untouched s := ⟨⟨rfl, rfl⟩, rfl, rfl⟩
  unfold claimAgentHandoff at run
  rcases run.bind_inv with ⟨e, rfl, checked⟩ | ⟨t₁, _, s₁, u₁, rfl, checked, run₁⟩
  · exact .inl ⟨e, rfl, validateAgentId_keeps _ _ _ _ _ checked start⟩
  have same₁ := validateAgentId_keeps _ _ _ _ _ checked start
  rcases run₁.bind_inv with ⟨e, rfl, accessed⟩ | ⟨t₂, _, s₂, u₂, rfl, accessed, run₂⟩
  · exact .inl ⟨e, rfl, access_keeps steady _ _ _ _ accessed same₁⟩
  have same₂ := access_keeps steady _ _ _ _ accessed same₁
  replace run₂ := run₂.get_bind_inv
  cases known : s₂.pendingHandoffs.lookup request.handoffToken with
  | none =>
      rw [known] at run₂
      obtain ⟨rfl, rfl, rfl⟩ := Act.runs_throw.mp run₂
      exact .inl ⟨_, rfl, same₂⟩
  | some pending =>
      rw [known] at run₂
      rcases run₂.bind_inv with ⟨e, rfl, checks⟩ | ⟨t₃, _, s₃, u₃, rfl, checks, run₃⟩
      · exact .inl ⟨e, rfl, checkClaim_keeps steady _ _ _ _ _ _ checks same₂⟩
      have same₃ := checkClaim_keeps (SessionRecord.Untouched.steady s₂) _ _ _ _ _ _ checks
        ⟨⟨rfl, rfl⟩, rfl, rfl⟩
      obtain ⟨token, u₄, rfl, run₄⟩ := run₃.ask_bind_inv
      rcases run₄.modify_bind_inv.bind_inv with ⟨e, rfl, noted⟩ | ⟨t₅, _, s₅, u₅, rfl, noted, run₅⟩
      · cases (touch_run noted).1
      obtain ⟨now, rfl⟩ := (touch_run noted).2
      obtain ⟨rfl, rfl, rfl⟩ := Act.runs_pure.mp run₅.get_bind_inv
      have epochs : s₃.controlEpoch = s₂.controlEpoch := congrArg Lease.controlEpoch same₃.1.1
      refine .inr ⟨s₃, pending, token, ?_, ?_, ?_, ⟨⟨rfl, rfl⟩, rfl, rfl⟩, rfl⟩
      · exact checkClaim_keeps steady _ _ _ _ _ _ checks same₂
      · rw [same₃.1.2]
        exact known
      · simp [DrawnIn]

/-- The lease of `s₀`, with its offers or one offer under a token that was drawn. -/
def Offered (s₀ : SessionRecord host.codec) (t : Trace QuietSig) (s : SessionRecord host.codec) :
    Prop :=
  s.lease = s₀.lease ∧ (s.pendingHandoffs = s₀.pendingHandoffs ∨
    ∃ token pending, DrawnIn t token ∧ s.pendingHandoffs = [(token, pending)])

theorem Offered.steady (s₀ : SessionRecord host.codec) (t : Trace QuietSig) :
    Steady (Offered s₀ t) where
  touched _ _ offered := offered
  closed _ _ _ offered := offered
  terminal _ offered := offered
  advanced _ _ offered := offered
  evidenced _ _ _ offered := offered
  fingerprinted _ _ offered := offered

/-- Every run of `m` leaves the lease and at most replaces the offers. -/
def Offers {α : Type} (s₀ : SessionRecord host.codec) (m : Watch host α) : Prop :=
  ∀ s t r s', Act.Runs m s t r s' → s₀.Undisturbed s → Offered s₀ t s'

theorem Offers.after {α β : Type} {s₀ : SessionRecord host.codec} {m : Watch host α}
    {f : α → Watch host β} (first : Act.Keeps s₀.Undisturbed m) (second : ∀ a, Offers s₀ (f a)) :
    Offers s₀ (m >>= f) := by
  intro s t r s' run same
  rcases run.bind_inv with ⟨e, -, inner⟩ | ⟨t₁, a, s₁, u, rfl, inner, next⟩
  · obtain ⟨lease, offers⟩ := first _ _ _ _ inner same
    exact ⟨lease, .inl offers⟩
  · obtain ⟨lease, offers⟩ := second a _ _ _ _ next (first _ _ _ _ inner same)
    refine ⟨lease, offers.imp_right ?_⟩
    rintro ⟨token, pending, drawn, offered⟩
    exact ⟨token, pending, List.mem_append_right _ drawn, offered⟩

/-- An offer replaces the one before it. -/
theorem prepareAgentHandoff_offers (s₀ : SessionRecord host.codec) (request : OfferRequest) :
    Offers s₀ (prepareAgentHandoff request) := by
  have observing := SessionRecord.Undisturbed.observing s₀
  have stable := observing.toStable
  refine .after (checkTtl_keeps _) fun _ => .after (validateAgentId_keeps _) fun _ => ?_
  refine .after (access_keeps stable.toSteady) fun _ => .after (requireControl_keeps _ _) fun _ => ?_
  refine .after (requireIdentity_keeps stable) fun _ => ?_
  refine .after (refreshExternalMutation_keeps stable.toSteady) fun _ => ?_
  refine .after (verifyRecipient_keeps _) fun descriptor => ?_
  refine .after (activeBackend_keeps stable.terminal) fun _ => ?_
  refine .after (Act.keeps_modify fun s same => ?_) fun _ => ?_
  · split
    · exact same
    · exact observing.invalidated s same
  refine .after Watch.listPages_keeps fun _ => ?_
  intro s t r s' run same
  obtain ⟨token, u, rfl, offering⟩ := run.ask_bind_inv
  have drawn : DrawnIn (⟨.freshToken, token⟩ :: u) token := List.mem_cons_self
  refine Act.Keeps.bind (I := Offered s₀ (⟨.freshToken, token⟩ :: u)) Watch.nowMs_keeps (fun now => ?_)
    _ _ _ _ offering ⟨same.1, .inl same.2⟩
  refine Watch.pageUrl_keeps.bind fun _ => Act.keeps_get.bind fun s => ?_
  refine Act.Keeps.bind (Act.keeps_modify fun s offered => ?_) fun _ =>
    (touch_keeps (Offered.steady s₀ _)).bind fun _ => Act.keeps_pure _
  exact ⟨offered.1, .inr ⟨token, _, drawn, rfl⟩⟩

/-! ## The steps of a run -/

/-- The claim that a call completed. -/
def completedClaim (step : SessionStep host) : Option ClaimRequest :=
  match step.method, step.outcome with
  | .claimAgentHandoff request, .ok _ => some request
  | _, _ => none

/-- The call is a claim that was refused. -/
def RefusedClaim (step : SessionStep host) : Prop :=
  match step.method, step.outcome with
  | .claimAgentHandoff _, .error _ => True
  | _, _ => False

/-- The tokens under which control is on offer. -/
def SessionRecord.offerTokens {codec : HostCodec} (s : SessionRecord codec) : List String :=
  s.pendingHandoffs.map (·.1)

/-- What a call may do with the lease and the offers. -/
inductive Tenure (step : SessionStep host) : Prop
  | kept (unclaimed : completedClaim step = none) (lease : step.after.lease = step.before.lease)
      (offers : ∀ token ∈ step.after.offerTokens,
        token ∈ step.before.offerTokens ∨ token ∈ drawnTokens step.trace)
  | handedOver {request : ClaimRequest} {token : String}
      (completed : completedClaim step = some request)
      (known : request.handoffToken ∈ step.before.offerTokens)
      (drawn : token ∈ drawnTokens step.trace)
      (lease : step.after.lease =
        ⟨some request.newAgentId, some token, step.before.controlEpoch + 1⟩)
      (offers : step.after.offerTokens = [])

theorem DrawnIn.mem_drawnTokens {u : Trace QuietSig} {token : String} (drawn : DrawnIn u token) :
    token ∈ drawnTokens (u.map Event.left) :=
  Dingdongditch.mem_drawnTokens (List.mem_map_of_mem drawn)

theorem Tenure.of_undisturbed {step : SessionStep host} (unclaimed : completedClaim step = none)
    (same : step.before.Undisturbed step.after) : Tenure step := by
  refine .kept unclaimed same.1 fun token mem => .inl ?_
  rw [SessionRecord.offerTokens, ← same.2]
  exact mem

theorem mem_keys_of_lookup {β : Type} {entries : List (String × β)} {key : String} {b : β}
    (found : entries.lookup key = some b) : key ∈ entries.map (·.1) := by
  obtain ⟨before, after, rfl, -⟩ := List.lookup_eq_some_iff.mp found
  simp

/-- Each call of the API keeps the lease, or hands it over. -/
theorem step_tenure (step : SessionStep host) : Tenure step := by
  obtain ⟨method, s, t, outcome, s', run⟩ := step
  cases method with
  | claimAgentHandoff request =>
      obtain ⟨u, rfl, claiming⟩ := run.of_left
      rcases claimAgentHandoff_run claiming with
        ⟨e, rfl, same⟩ | ⟨s₁, pending, token, same, known, drawn, after, rfl⟩
      · exact .of_undisturbed rfl same.1
      · have epochs : s₁.controlEpoch = s.controlEpoch := congrArg Lease.controlEpoch same.1.1
        refine .handedOver rfl ?_ drawn.mem_drawnTokens ?_ ?_
        · change request.handoffToken ∈ s.offerTokens
          rw [SessionRecord.offerTokens, ← same.1.2]
          exact mem_keys_of_lookup known
        · refine after.1.1.trans ?_
          rw [← epochs]
          rfl
        · exact congrArg (List.map (·.1)) after.1.2
  | prepareAgentHandoff request =>
      obtain ⟨u, rfl, offering⟩ := run.of_left
      obtain ⟨lease, offers⟩ := prepareAgentHandoff_offers s request _ _ _ _ offering ⟨rfl, rfl⟩
      refine .kept rfl lease ?_
      intro token mem
      rcases offers with same | ⟨drawnToken, pending, drawn, offered⟩
      · left
        change token ∈ s.offerTokens
        rw [SessionRecord.offerTokens, ← same]
        exact mem
      · right
        change token ∈ s'.offerTokens at mem
        rw [SessionRecord.offerTokens, offered] at mem
        rw [List.mem_singleton.mp mem]
        exact drawn.mem_drawnTokens
  | _ =>
      refine .of_undisturbed rfl (step_undisturbed ?_ ?_)
      · intro request other
        cases other
      · intro request other
        cases other

/-- A completed claim takes an offer, and turns it into a lease under a new token. -/
theorem completedClaim_some {step : SessionStep host} {request : ClaimRequest}
    (completed : completedClaim step = some request) :
    request.handoffToken ∈ step.before.offerTokens ∧ step.after.offerTokens = [] ∧
      ∃ token ∈ drawnTokens step.trace, step.after.lease =
        ⟨some request.newAgentId, some token, step.before.controlEpoch + 1⟩ := by
  cases step_tenure step with
  | kept unclaimed lease offers =>
      rw [unclaimed] at completed
      cases completed
  | handedOver completed' known drawn lease offers =>
      obtain rfl := Option.some.inj (completed'.symm.trans completed)
      exact ⟨known, offers, _, drawn, lease⟩

/-- A refused claim changes nothing of the lease or of the identity. -/
theorem RefusedClaim.untouched {step : SessionStep host} (refused : RefusedClaim step) :
    step.before.Untouched step.after := by
  obtain ⟨method, s, t, outcome, s', run⟩ := step
  cases method with
  | claimAgentHandoff request =>
      obtain ⟨u, rfl, claiming⟩ := run.of_left
      rcases claimAgentHandoff_run claiming with ⟨e, rfl, same⟩ | ⟨s₁, pending, token, -, -, -, -, rfl⟩
      · exact same
      · exact refused.elim
  | _ => exact refused.elim

/-- How the lease moves on: a leased session stays leased, and the epoch grows. -/
def Onward (s s' : SessionRecord host.codec) : Prop :=
  (s.agentId.isSome → s'.agentId.isSome) ∧ s.controlEpoch ≤ s'.controlEpoch

theorem initializeMutationMonitor_keeps {I : SessionRecord host.codec → Prop} (steady : Steady I) :
    Act.Keeps I (initializeMutationMonitor : Watch host Unit) := by
  refine Act.keeps_get.bind fun s => ?_
  split
  · refine (activeBackend_keeps steady.terminal).bind fun _ => (Act.keeps_ask _).bind fun state => ?_
    cases (state : Except PyException PyDict) with
    | error e => exact Act.keeps_throw e
    | ok state => exact Act.keeps_modify fun s => steady.fingerprinted s _
  · exact Act.keeps_pure ()

theorem openRecord_keeps {I : SessionRecord host.codec → Prop} (steady : Steady I)
    (request : OpenRequest host.codec) : Act.Keeps I (openRecord request : Watch host Unit) := by
  unfold openRecord
  split
  · refine Act.Keeps.tryCatch (initializeMutationMonitor_keeps steady) fun _ => ?_
    exact (closeRecord_keeps steady _).bind fun _ => Act.keeps_throw _
  · exact Act.keeps_pure _

/-- A session starts without an offer, and with a token if it is leased. -/
theorem Opened.start {request : OpenRequest host.codec} {s : SessionRecord host.codec}
    (opened : Opened request s) : s.offerTokens = [] ∧ s.Keyed := by
  obtain ⟨sessionId, controlToken, scopeKey, now, t, run⟩ := opened
  obtain ⟨⟨lease, offers⟩, -, -⟩ := openRecord_keeps
    (SessionRecord.Untouched.steady (request.record sessionId controlToken scopeKey now))
    request _ _ _ _ run ⟨⟨rfl, rfl⟩, rfl, rfl⟩
  have agent : s.agentId = request.agentId := congrArg Lease.agentId lease
  have token : s.controlToken = request.agentId.map fun _ => controlToken :=
    congrArg Lease.controlToken lease
  refine ⟨by rw [SessionRecord.offerTokens, offers]; rfl, ?_⟩
  rw [SessionRecord.Keyed, agent, token, Option.isSome_map]
  exact id

/-! ## Runs -/

namespace Scenario

end Scenario

end Dingdongditch
