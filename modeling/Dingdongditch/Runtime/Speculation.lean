import Dingdongditch.Interaction.Freshness
import Dingdongditch.Runtime.Chaining
import Dingdongditch.Runtime.Leases

/-!
# Speculative continuations

A graph is prepared before its parent runs, a branch of it is selected after
that, and `execute_selected_speculative_branch` looks again before it consumes
the graph.  `Eligible` is what that last look establishes: the receipt of the
parent is the last of the chain and was verified, and one branch matches.  A
consumed graph never becomes live again (`step_draws`), so a token continues at
most once (`continues_after_parent`).
-/

namespace Dingdongditch

open Interaction Text

variable {host : SessionHost}

/-! ## The graphs of a session -/

/-- The tokens whose graphs were not consumed. -/
def SessionRecord.live {codec : HostCodec} (s : SessionRecord codec) : Set String :=
  {token | ∃ item, (token, item) ∈ s.speculations ∧ item.consumed = false}

/-- Every graph of the token was consumed. -/
def SessionRecord.Spent {codec : HostCodec} (token : String) (s : SessionRecord codec) : Prop :=
  ∀ item, (token, item) ∈ s.speculations → item.consumed = true

theorem SessionRecord.spent_iff {codec : HostCodec} {token : String} {s : SessionRecord codec} :
    s.Spent token ↔ token ∉ s.live := by
  constructor
  · rintro spent ⟨item, mem, unconsumed⟩
    rw [spent item mem] at unconsumed
    cases unconsumed
  · intro gone item mem
    cases consumed : item.consumed with
    | true => rfl
    | false => exact (gone ⟨item, mem, consumed⟩).elim

/-- Every graph is bound to its declared parent. -/
def SessionRecord.GraphsBound (s : SessionRecord host.codec) : Prop :=
  ∀ token item, (token, item) ∈ s.speculations →
    item.parentOperationHash = item.plan.parentOperation.map host.operationHash

theorem SpeculationRecord.advance_same (item : SpeculationRecord) (operationHash : String)
    (mutationEpoch : Int) :
    (item.advance operationHash mutationEpoch).plan = item.plan ∧
      (item.advance operationHash mutationEpoch).parentOperationHash = item.parentOperationHash ∧
      (item.advance operationHash mutationEpoch).consumed = item.consumed := by
  unfold SpeculationRecord.advance
  split
  · exact ⟨rfl, rfl, rfl⟩
  · exact ⟨rfl, rfl, rfl⟩

theorem Regraphs.bound {graphs graphs' : List (String × SpeculationRecord)}
    (regraphs : Regraphs host graphs graphs')
    (bound : ∀ token item, (token, item) ∈ graphs →
      item.parentOperationHash = item.plan.parentOperation.map host.operationHash) :
    ∀ token item, (token, item) ∈ graphs' →
      item.parentOperationHash = item.plan.parentOperation.map host.operationHash := by
  intro token item mem
  cases regraphs with
  | marked mark same =>
      obtain ⟨entry, known, eq⟩ := List.mem_map.mp mem
      cases eq
      rw [(same entry.1 entry.2).1, (same entry.1 entry.2).2]
      exact bound entry.1 entry.2 known
  | forgotten keep => exact bound token item (List.mem_filter.mp mem).1
  | entered key entry isBound =>
      rcases mem_assign mem with known | ⟨rfl, rfl⟩
      · exact bound token item known
      · exact isBound

namespace SessionRecord.GraphsBound

theorem observing (host : SessionHost) :
    Observing fun s : SessionRecord host.codec => s.GraphsBound where
  touched _ _ bound := bound
  closed _ _ _ bound := bound
  terminal _ bound := bound
  identified _ _ bound := bound
  advanced _ _ bound := bound
  evidenced _ _ _ bound := bound
  fingerprinted _ _ bound := bound
  invalidated _ bound := bound
  refused _ _ refusable := refusable.1
  regraphed _ _ bound regraphs := regraphs.bound bound
  identityBound _ _ _ bound := bound
  planBound _ _ _ bound _ := bound
  planInstalled _ _ _ _ bound _ := bound

theorem committing (host : SessionHost) :
    Committing fun s : SessionRecord host.codec => s.GraphsBound where
  toStable := (observing host).toStable
  charged s _ _ _ bound := by
    unfold SessionRecord.charge
    split
    · exact bound
    · exact bound
  chained _ _ _ _ bound _ := bound
  stepped _ bound := bound
  speculated s op receipt bound := by
    unfold SessionRecord.advanceSpeculations
    split
    · have marked : Regraphs host s.speculations (s.speculations.map fun entry =>
          (entry.1, entry.2.advance (host.operationHash op) s.mutationEpoch)) :=
        .marked (fun _ item => item.advance (host.operationHash op) s.mutationEpoch) fun _ item =>
          have same := item.advance_same (host.operationHash op) s.mutationEpoch
          ⟨same.1, same.2.1⟩
      exact marked.bound bound
    · exact bound
  committing _ _ _ bound _ _ := bound
  released _ _ bound := bound
  selected _ _ bound := bound

end SessionRecord.GraphsBound

theorem step_graphsBound (step : SessionStep host) (bound : step.before.GraphsBound) :
    step.after.GraphsBound := by
  have observing := SessionRecord.GraphsBound.observing host
  refine step_keeps observing (SessionRecord.GraphsBound.committing host) (fun _ _ bound => bound)
    (fun _ _ _ _ bound => bound) ?_ bound
  intro request u r s s' _ run bound
  rcases prepareOperation_run run with stably | ⟨s₁, token, record, stably, -, -, -, last⟩
  · exact stably _ observing.toStable bound
  · have before := stably _ observing.toStable bound
    exact last _ observing.toStable before

theorem SessionRecord.Spent.committing (host : SessionHost) (token : String) :
    Committing fun s : SessionRecord host.codec => s.Spent token where
  touched _ _ spent := spent
  closed _ _ _ spent := spent
  terminal _ spent := spent
  identified _ _ spent := spent
  advanced _ _ spent := spent
  evidenced _ _ _ spent := spent
  fingerprinted _ _ spent := spent
  charged s _ _ _ spent := by
    unfold SessionRecord.charge
    split
    · exact spent
    · exact spent
  chained _ _ _ _ spent _ := spent
  stepped _ spent := spent
  speculated s op receipt spent := by
    unfold SessionRecord.advanceSpeculations
    split
    · intro item mem
      obtain ⟨entry, known, eq⟩ := List.mem_map.mp mem
      cases eq
      rw [(entry.2.advance_same _ _).2.2]
      exact spent entry.2 known
    · exact spent
  committing _ _ _ spent _ _ := spent
  released _ _ spent := spent
  selected _ _ spent := spent

/-! ## Selection -/

/-- The record with a selection for the graph of the token. -/
def SessionRecord.select {codec : HostCodec} (s : SessionRecord codec) (token : String)
    (selection : SpeculationSelection) : SessionRecord codec :=
  { s with speculations := s.speculations.map fun entry =>
      (entry.1, if entry.1 == token then { entry.2 with selected := some selection } else entry.2) }

/-- The record with the graph of the token consumed. -/
def SessionRecord.consume {codec : HostCodec} (s : SessionRecord codec) (token : String) :
    SessionRecord codec :=
  { s with speculations := s.speculations.map fun entry =>
      (entry.1, if entry.1 == token then { entry.2 with consumed := true } else entry.2) }

theorem SessionRecord.Spent.select {codec : HostCodec} {s : SessionRecord codec} {token : String}
    (spent : s.Spent token) (other : String) (selection : SpeculationSelection) :
    (s.select other selection).Spent token := by
  intro item mem
  obtain ⟨entry, known, eq⟩ := List.mem_map.mp mem
  cases eq
  have consumed := spent entry.2 known
  split
  · exact consumed
  · exact consumed

theorem SessionRecord.Spent.consume {codec : HostCodec} {s : SessionRecord codec} {token : String}
    (spent : s.Spent token) (other : String) : (s.consume other).Spent token := by
  intro item mem
  obtain ⟨entry, known, eq⟩ := List.mem_map.mp mem
  cases eq
  split
  · rfl
  · exact spent entry.2 known

theorem SessionRecord.consume_spent {codec : HostCodec} (s : SessionRecord codec) (token : String) :
    (s.consume token).Spent token := by
  intro item mem
  obtain ⟨entry, -, eq⟩ := List.mem_map.mp mem
  obtain ⟨rfl, rfl⟩ := Prod.mk.inj eq
  simp

/-- What the checks of a call leave alone. -/
theorem Stably.frame {s s' : SessionRecord host.codec} (stably : Stably s s') :
    s'.speculations = s.speculations ∧ s'.receiptChain = s.receiptChain ∧
      s'.controlEpoch = s.controlEpoch := by
  refine stably (fun x => x.speculations = s.speculations ∧ x.receiptChain = s.receiptChain ∧
    x.controlEpoch = s.controlEpoch) ?_ ⟨rfl, rfl, rfl⟩
  exact {
    touched := fun _ _ same => same
    closed := fun _ _ _ same => same
    terminal := fun _ same => same
    identified := fun _ _ same => same
    advanced := fun _ _ same => same
    evidenced := fun _ _ _ same => same
    fingerprinted := fun _ _ same => same }

theorem Stably.refl (s : SessionRecord host.codec) : Stably s s := fun _ _ holds => holds

/-- The branch whose preconditions alone all passed, and the calls that showed it. -/
structure OnlyMatch (host : SessionHost) (branches : List SpeculativeBranch) (t : Trace QuietSig) (branchId : String) :
    Prop where
  found : ∃ (now : Int) (u : Trace QuietSig) (s s' : SessionRecord host.codec),
    Act.Runs (matchingBranches now branches : Watch host (List String)) s u (.ok [branchId]) s' ∧
      ∀ e ∈ u, e ∈ t

/-- What a selection that looked at the page had found before. -/
structure Selects (s : SessionRecord host.codec) (token : String) (item : SpeculationRecord)
    (t : Trace QuietSig) (selection : SpeculationSelection) : Prop where
  known : s.speculations.lookup token = some item
  epoch : item.pub.controlEpoch = s.controlEpoch
  parent : s.parentVerified item = true
  matched : selection.status = .selected → ∃ branchId, selection.branchId = some branchId ∧
    OnlyMatch host item.plan.branches t branchId

theorem SessionRecord.parentVerified_congr {s s' : SessionRecord host.codec}
    (same : s'.receiptChain = s.receiptChain) (item : SpeculationRecord) :
    s'.parentVerified item = s.parentVerified item := by
  unfold SessionRecord.parentVerified
  rw [same]

/-- A selection is stale and writes nothing to the graphs, or it looked at the page
and is the one that the graph retains. -/
theorem selectSpeculativeBranch_run {token : String} {caller : Caller}
    {s s' : SessionRecord host.codec} {t : Trace QuietSig} {r : Except PyException SpeculationSelection}
    (run : Act.Runs (selectSpeculativeBranch token caller) s t r s') :
    (Stably s s' ∧ ∀ selection, r = .ok selection → selection.status = .stale) ∨
    ∃ item selection s₁, Selects s token item t selection ∧ Stably s s₁ ∧
      Stably (s₁.select token selection) s' ∧ ∀ out, r = .ok out → out = selection := by
  have failed {s₀ : SessionRecord host.codec} (stopped : Stably s₀ s' ∧ ∃ e, r = .error e) :
      Stably s₀ s' ∧ ∀ selection, r = .ok selection → selection.status = .stale := by
    obtain ⟨stably, e, rfl⟩ := stopped
    exact ⟨stably, nofun⟩
  have stale {s₀ s₁ : SessionRecord host.codec} {u : Trace QuietSig} (stably : Stably s₀ s₁)
      (returned : Act.Runs (pure ⟨token, .stale, none⟩ : Watch host SpeculationSelection) s₁ u r s') :
      Stably s₀ s' ∧ ∀ selection, r = .ok selection → selection.status = .stale := by
    obtain ⟨-, rfl, rfl⟩ := Act.runs_pure.mp returned
    refine ⟨stably, ?_⟩
    intro selection returned
    cases returned
    rfl
  unfold selectSpeculativeBranch at run
  rcases Stably.check_inv (fun _ stable => access_keeps stable.toSteady) (.refl s) run with
    stopped | ⟨t₁, _, s₁, u₁, rfl, stably₁, -, run₁⟩
  · exact .inl (failed stopped)
  rcases Stably.check_inv (fun _ _ => requireControl_keeps _ _) stably₁ run₁ with
    stopped | ⟨t₂, _, s₂, u₂, rfl, stably₂, -, run₂⟩
  · exact .inl (failed stopped)
  rcases Stably.check_inv (fun _ stable => requireIdentity_keeps stable) stably₂ run₂ with
    stopped | ⟨t₃, _, s₃, u₃, rfl, stably₃, -, run₃⟩
  · exact .inl (failed stopped)
  replace run₃ := run₃.get_bind_inv
  have frame₃ := stably₃.frame
  cases known : s₃.speculations.lookup token with
  | none =>
      rw [known] at run₃
      exact .inl (stale stably₃ run₃)
  | some item =>
      rw [known] at run₃
      obtain ⟨now, u₄, rfl, run₄⟩ := run₃.ask_bind_inv
      split at run₄
      · exact .inl (stale stably₃ run₄)
      split at run₄
      · exact .inl (stale stably₃ run₄)
      next epoch =>
      rcases Stably.check_inv (fun _ stable => refreshExternalMutation_keeps stable.toSteady) stably₃ run₄
        with stopped | ⟨t₅, changed, s₅, u₅, rfl, stably₅, -, run₅⟩
      · exact .inl (failed stopped)
      replace run₅ := run₅.get_bind_inv
      have frame₅ := stably₅.frame
      split at run₅
      · exact .inl (stale stably₅ run₅)
      split at run₅
      · exact .inl (stale stably₅ run₅)
      next verified =>
      rcases Stably.check_inv (fun _ stable => activeBackend_keeps stable.terminal) stably₅ run₅ with
        stopped | ⟨t₆, _, s₆, u₆, rfl, stably₆, -, run₆⟩
      · exact .inl (failed stopped)
      obtain ⟨monotonic, u₇, rfl, run₇⟩ := run₆.ask_bind_inv
      rcases Stably.check_inv (fun _ _ => matchingBranches_keeps _ _) stably₆ run₇ with
        stopped | ⟨t₈, matched, s₈, u₈, rfl, stably₈, matching, run₈⟩
      · exact .inl (failed stopped)
      have looked : ∀ branchId, matched = [branchId] →
          OnlyMatch host item.plan.branches
            (t₁ ++ (t₂ ++ (t₃ ++ (quietEvent .nowMs now :: (t₅ ++
              (t₆ ++ (quietEvent .monotonicMs monotonic :: (t₈ ++ u₈)))))))) branchId := by
        rintro branchId rfl
        refine ⟨monotonic, t₈, s₆, s₈, matching, ?_⟩
        intro e mem
        simp [mem]
      have retained (selection : SpeculationSelection)
          (retaining : Act.Runs (do
            modify fun s => s.select token selection
            touch
            return selection : Watch host SpeculationSelection) s₈ u₈ r s') :
          Stably (s₈.select token selection) s' ∧ ∀ out, r = .ok out → out = selection := by
        have marked := retaining.modify_bind_inv
        refine ⟨.of_keeps (fun _ stable => (touch_keeps stable.toSteady).bind fun _ =>
          Act.keeps_pure _) marked, ?_⟩
        rintro out rfl
        obtain ⟨_, _, _, _, -, -, returned⟩ := marked.bind_ok_inv
        obtain ⟨-, same, -⟩ := Act.runs_pure.mp returned
        exact Except.ok.inj same
      have known : s.speculations.lookup token = some item := by
        rw [← frame₃.1]
        exact known
      have epoch : item.pub.controlEpoch = s.controlEpoch := by
        rw [← frame₃.2.2]
        exact not_not.mp epoch
      have parent : s.parentVerified item = true := by
        rw [← SessionRecord.parentVerified_congr frame₅.2.1]
        simpa using verified
      rcases matched with _ | ⟨branchId, _ | ⟨second, others⟩⟩
      · exact .inr ⟨item, ⟨token, .noMatch, none⟩, s₈, ⟨known, epoch, parent, nofun⟩, stably₈,
          retained _ run₈⟩
      · exact .inr ⟨item, ⟨token, .selected, some branchId⟩, s₈,
          ⟨known, epoch, parent, fun _ => ⟨branchId, rfl, looked branchId rfl⟩⟩, stably₈, retained _ run₈⟩
      · exact .inr ⟨item, ⟨token, .ambiguous, none⟩, s₈, ⟨known, epoch, parent, nofun⟩, stably₈,
          retained _ run₈⟩

/-- What a selection makes of a record: nothing but what every check writes, or a
selection for the graph. -/
inductive Reselects (token : String) (s s' : SessionRecord host.codec) : Prop
  | stale (stably : Stably s s')
  | selected {s₁ : SessionRecord host.codec} (selection : SpeculationSelection)
      (before : Stably s s₁) (after : Stably (s₁.select token selection) s')

theorem Reselects.frame {token : String} {s s' : SessionRecord host.codec}
    (reselects : Reselects token s s') : s'.receiptChain = s.receiptChain := by
  cases reselects with
  | stale stably => exact stably.frame.2.1
  | selected selection before after => exact after.frame.2.1.trans before.frame.2.1

theorem Reselects.spent {token other : String} {s s' : SessionRecord host.codec}
    (reselects : Reselects token s s') (spent : s.Spent other) : s'.Spent other := by
  have stable := (SessionRecord.Spent.committing host other).toStable
  cases reselects with
  | stale stably => exact stably _ stable spent
  | selected selection before after =>
      exact after _ stable ((before _ stable spent).select token selection)

theorem Reselects.trans_stably {token : String} {s₀ s s' : SessionRecord host.codec}
    (reselects : Reselects token s₀ s) (stably : Stably s s') : Reselects token s₀ s' := by
  cases reselects with
  | stale first => exact .stale (first.trans stably)
  | selected selection before after => exact .selected selection before (after.trans stably)

theorem Stably.reselects {token : String} {s₀ s s' : SessionRecord host.codec}
    (stably : Stably s₀ s) (reselects : Reselects token s s') : Reselects token s₀ s' := by
  cases reselects with
  | stale last => exact .stale (stably.trans last)
  | selected selection before after => exact .selected selection (stably.trans before) after

theorem selectSpeculativeBranch_reselects {token : String} {caller : Caller}
    {s s' : SessionRecord host.codec} {t : Trace QuietSig} {r : Except PyException SpeculationSelection}
    (run : Act.Runs (selectSpeculativeBranch token caller) s t r s') : Reselects token s s' := by
  rcases selectSpeculativeBranch_run run with ⟨stably, -⟩ | ⟨item, selection, s₁, -, before, after, -⟩
  · exact .stale stably
  · exact .selected selection before after

/-! ## Eligibility -/

/-- What the last look at a graph establishes before the graph is consumed. -/
structure Eligible (s : SessionRecord host.codec) (token : String) (t : Trace QuietSig)
    (eligible : EligibleBranch) (item : SpeculationRecord) : Prop where
  known : s.speculations.lookup token = some item
  unconsumed : item.consumed = false
  epoch : item.pub.controlEpoch = s.controlEpoch
  parent : s.parentVerified item = true
  declared : item.plan.branches.find? (·.branchId = eligible.branch.branchId) = some eligible.branch
  matched : OnlyMatch host item.plan.branches t eligible.branch.branchId

theorem SpeculationRecord.selectedBranch_some {item : SpeculationRecord} {branchId : String}
    (selected : item.selectedBranch = some branchId) : item.consumed = false := by
  unfold SpeculationRecord.selectedBranch at selected
  split at selected
  · cases selected
  · next unconsumed => simpa using unconsumed

theorem eligibleBranch_run {token : String} {caller : Caller} {s s' : SessionRecord host.codec}
    {t : Trace QuietSig} {r : Except PyException EligibleBranch}
    (run : Act.Runs (eligibleBranch token caller) s t r s') :
    (Reselects token s s' ∧ ∃ e, r = .error e) ∨ ∃ eligible item s₁, r = .ok eligible ∧
      Eligible s token t eligible item ∧ Reselects token s s₁ ∧ s' = s₁.consume token := by
  have failed (stopped : Stably s s' ∧ ∃ e, r = .error e) : Reselects token s s' ∧ ∃ e, r = .error e :=
    ⟨.stale stopped.1, stopped.2⟩
  unfold eligibleBranch at run
  rcases Stably.check_inv (fun _ stable => access_keeps stable.toSteady) (.refl s) run with
    stopped | ⟨t₁, _, s₁, u₁, rfl, stably₁, -, run₁⟩
  · exact .inl (failed stopped)
  rcases Stably.check_inv (fun _ _ => requireControl_keeps _ _) stably₁ run₁ with
    stopped | ⟨t₂, _, s₂, u₂, rfl, stably₂, -, run₂⟩
  · exact .inl (failed stopped)
  rcases Stably.check_inv (fun _ stable => requireIdentity_keeps stable) stably₂ run₂ with
    stopped | ⟨t₃, _, s₃, u₃, rfl, stably₃, -, run₃⟩
  · exact .inl (failed stopped)
  replace run₃ := run₃.get_bind_inv
  have frame₃ := stably₃.frame
  cases known : s₃.speculations.lookup token with
  | none =>
      rw [known] at run₃
      obtain ⟨-, rfl, rfl⟩ := Act.runs_throw.mp run₃
      exact .inl ⟨.stale stably₃, _, rfl⟩
  | some item =>
  rw [known] at run₃
  cases chosen : item.selectedBranch with
  | none =>
      dsimp only at run₃
      rw [chosen] at run₃
      obtain ⟨-, rfl, rfl⟩ := Act.runs_throw.mp run₃
      exact .inl ⟨.stale stably₃, _, rfl⟩
  | some branchId =>
  dsimp only at run₃
  rw [chosen] at run₃
  obtain ⟨now, u₄, rfl, run₄⟩ := run₃.ask_bind_inv
  rcases Stably.check_inv (fun _ _ => Watch.rejectWhen_keeps _ _ _) stably₃ run₄ with
    stopped | ⟨t₅, _, s₅, u₅, rfl, stably₅, -, run₅⟩
  · exact .inl (failed stopped)
  rcases Stably.check_inv (fun _ stable => refreshExternalMutation_keeps stable.toSteady) stably₅ run₅
    with stopped | ⟨t₆, changed, s₆, u₆, rfl, stably₆, -, run₆⟩
  · exact .inl (failed stopped)
  rcases Stably.check_inv (fun _ _ => Watch.rejectWhen_keeps _ _ _) stably₆ run₆.get_bind_inv with
    stopped | ⟨t₇, _, s₇, u₇, rfl, stably₇, -, run₇⟩
  · exact .inl (failed stopped)
  have frame₇ := stably₇.frame
  rcases run₇.bind_inv with ⟨e, rfl, selecting⟩ | ⟨t₈, refreshed, s₈, u₈, rfl, selecting, run₈⟩
  · exact .inl ⟨stably₇.reselects (selectSpeculativeBranch_reselects selecting), e, rfl⟩
  have reselects : Reselects token s s₈ :=
    stably₇.reselects (selectSpeculativeBranch_reselects selecting)
  rcases Stably.check_inv (fun _ _ => Watch.rejectWhen_keeps _ _ _) (.refl s₈) run₈ with
    ⟨stably, stopped⟩ | ⟨t₉, _, s₉, u₉, rfl, -, agreed, run₉⟩
  · exact .inl ⟨reselects.trans_stably stably, stopped⟩
  obtain ⟨agrees, rfl, rfl⟩ := Watch.rejectWhen_ok agreed
  have same : refreshed.status = .selected ∧ refreshed.branchId = some branchId := by
    simpa [Bool.or_eq_false_iff] using agrees
  cases declared : item.plan.branches.find? (·.branchId = branchId) with
  | none =>
      rw [declared] at run₉
      obtain ⟨-, rfl, rfl⟩ := Act.runs_throw.mp run₉
      exact .inl ⟨reselects, _, rfl⟩
  | some branch =>
  rw [declared] at run₉
  rcases Stably.check_inv (fun _ stable => activeBackend_keeps stable.terminal) (.refl s₉) run₉ with
    ⟨stably, stopped⟩ | ⟨t₁₀, _, s₁₀, u₁₀, rfl, stably₁₀, -, run₁₀⟩
  · exact .inl ⟨reselects.trans_stably stably, stopped⟩
  replace run₁₀ := run₁₀.get_bind_inv
  cases governed : s₁₀.authorityEnvelope with
  | none =>
      rw [governed] at run₁₀
      obtain ⟨-, rfl, rfl⟩ := Act.runs_throw.mp run₁₀
      exact .inl ⟨reselects.trans_stably stably₁₀, _, rfl⟩
  | some envelope =>
  rw [governed] at run₁₀
  rcases Stably.check_inv (fun _ _ => firewallDecision_keeps _ _) stably₁₀ run₁₀ with
    ⟨stably, stopped⟩ | ⟨t₁₁, decision, s₁₁, u₁₁, rfl, stably₁₁, -, run₁₁⟩
  · exact .inl ⟨reselects.trans_stably stably, stopped⟩
  rcases Stably.check_inv (fun _ _ => Watch.rejectWhen_keeps _ _ _) stably₁₁ run₁₁ with
    ⟨stably, stopped⟩ | ⟨t₁₂, _, s₁₂, u₁₂, rfl, stably₁₂, -, run₁₂⟩
  · exact .inl ⟨reselects.trans_stably stably, stopped⟩
  obtain ⟨rfl, rfl, rfl⟩ := Act.runs_pure.mp run₁₂.modify_bind_inv
  have branchName : branch.branchId = branchId := by simpa using List.find?_some declared
  obtain rfl := branchName
  refine .inr ⟨_, item, s₁₂, rfl, ?_, reselects.trans_stably stably₁₂, rfl⟩
  rcases selectSpeculativeBranch_run selecting with ⟨-, stale⟩ | ⟨other, selection, _, selects, -, -, out⟩
  · rw [stale refreshed rfl] at same
    cases same.1
  obtain rfl := out refreshed rfl
  have known : s.speculations.lookup token = some item := by
    rw [← frame₃.1]
    exact known
  have again : s.speculations.lookup token = some other := by
    rw [← frame₇.1]
    exact selects.known
  obtain rfl := Option.some.inj (again.symm.trans known)
  obtain ⟨matchedId, isMatched, found⟩ := selects.matched same.1
  obtain rfl := Option.some.inj (isMatched.symm.trans same.2)
  refine ⟨known, SpeculationRecord.selectedBranch_some chosen, ?_, ?_, declared, ?_⟩
  · rw [← frame₇.2.2]
    exact selects.epoch
  · rw [← SessionRecord.parentVerified_congr frame₇.2.1]
    exact selects.parent
  · obtain ⟨start, u, before, after, matching, within⟩ := found.found
    refine ⟨start, u, before, after, matching, ?_⟩
    intro e mem
    simp [within e mem]

/-- The request with which an eligible branch is executed at once. -/
def EligibleBranch.request (eligible : EligibleBranch) (caller : Caller) : ExecuteRequest where
  operation := eligible.branch.continuation
  agentId := caller.agentId
  controlToken := caller.controlToken
  signedSpeculationOperation := eligible.signedOperation

/-- The request with which an eligible branch is prepared for a commit. -/
def EligibleBranch.preparation (eligible : EligibleBranch) (caller : Caller) : PrepareRequest where
  operation := eligible.branch.continuation
  caller
  signedSpeculationOperation := eligible.signedOperation
  speculationSummary := some eligible.summary

/-- What an eligible branch does: it is prepared, which dispatches nothing, or it is
executed, once. -/
inductive Continuation (eligible : EligibleBranch) (caller : Caller) (s : SessionRecord host.codec) :
    Trace RuntimeSig → Except PyException SpeculationResult → SessionRecord host.codec → Prop
  | prepared {u : Trace QuietSig} {r : Except PyException PreparedOperation}
      {s' : SessionRecord host.codec}
      (run : Act.Runs (prepareOperation (eligible.preparation caller) : Watch host _) s u r s') :
      Continuation eligible caller s (u.map Event.left) (r.map .prepared) s'
  | executed {t : Trace RuntimeSig} {r : Except PyException SessionReceipt}
      {s₁ : SessionRecord host.codec}
      (run : Act.Runs (executeRequest (eligible.request caller))
        { s with activeSpeculation := some eligible.summary } t r s₁) :
      Continuation eligible caller s t (r.map .executed) { s₁ with activeSpeculation := none }

theorem executeSelectedSpeculativeBranch_run {token : String} {caller : Caller}
    {s s' : SessionRecord host.codec} {t : Trace RuntimeSig} {r : Except PyException SpeculationResult}
    (run : Act.Runs (executeSelectedSpeculativeBranch token caller) s t r s') :
    (Silent t ∧ Reselects token s s' ∧ ∃ e, r = .error e) ∨
    ∃ u rest eligible item s₁, t = u.map Event.left ++ rest ∧ Eligible s token u eligible item ∧
      Reselects token s s₁ ∧ Continuation eligible caller (s₁.consume token) rest r s' := by
  unfold executeSelectedSpeculativeBranch at run
  rcases run.left_bind_inv with ⟨u, e, rfl, rfl, checks⟩ | ⟨u, eligible, s₁, rest, rfl, checks, after⟩
  · rcases eligibleBranch_run checks with ⟨reselects, -⟩ | ⟨_, _, _, eq, -⟩
    · exact .inl ⟨silent_map_left u, reselects, e, rfl⟩
    · cases eq
  rcases eligibleBranch_run checks with ⟨-, _, eq⟩ | ⟨branch, item, s₂, eq, isEligible, reselects, rfl⟩
  · cases eq
  obtain rfl := Except.ok.inj eq
  refine .inr ⟨u, rest, eligible, item, s₂, rfl, isEligible, reselects, ?_⟩
  replace after := after.get_bind_inv
  dsimp only at after
  split at after
  · rcases after.left_bind_inv with ⟨v, e, rfl, rfl, preparing⟩ | ⟨v, made, s₃, _, rfl, preparing, last⟩
    · exact .prepared preparing
    · obtain ⟨rfl, rfl, rfl⟩ := Act.runs_pure.mp last
      rw [List.append_nil]
      exact .prepared preparing
  · replace after := after.modify_bind_inv
    have execution {v : Trace RuntimeSig} {r : Except PyException SessionReceipt}
        {s₃ : SessionRecord host.codec} (run : Act.Runs (Act.andFinally
          (executeRequest (eligible.request caller))
          (modify fun s => { s with activeSpeculation := none }))
          { s₂.consume token with activeSpeculation := some eligible.summary } v r s₃) :
        Continuation eligible caller (s₂.consume token) v (r.map .executed) s₃ := by
      obtain ⟨first, r₁, s₄, second, c, rfl, executing, clean, result⟩ := Act.runs_andFinally.mp run
      obtain ⟨rfl, rfl, rfl⟩ := Act.runs_modifyGet.mp clean
      obtain rfl := result
      rw [List.append_nil]
      exact .executed executing
    rcases after.bind_inv with ⟨e, rfl, failed⟩ | ⟨v, receipt, s₃, _, rfl, done, last⟩
    · exact execution failed
    · obtain ⟨rfl, rfl, rfl⟩ := Act.runs_pure.mp last
      rw [List.append_nil]
      exact execution done

/-! ## The receipts of an execution -/

/-- An execution appends at most one receipt, for the operation it was asked for. -/
theorem executeRequest_chain {request : ExecuteRequest} {s s' : SessionRecord host.codec}
    {t : Trace RuntimeSig} {r : Except PyException SessionReceipt}
    (run : Act.Runs (executeRequest request) s t r s') :
    s'.receiptChain = s.receiptChain ∨ ∃ c, s'.receiptChain = s.receiptChain ++ [c] ∧
      c.entry.operationHash = host.operationHash request.operation := by
  have stable : Stable fun x : SessionRecord host.codec => x.receiptChain = s.receiptChain :=
    chain_stable s.receiptChain
  unfold executeRequest at run
  rcases run.left_bind_inv with ⟨_, e, -, -, accessing⟩ | ⟨_, _, s₁, _, -, accessing, after⟩
  · exact .inl (access_keeps stable.toSteady _ _ _ _ accessing rfl)
  have same₁ := access_keeps stable.toSteady _ _ _ _ accessing rfl
  rcases after.left_bind_inv with ⟨_, e, -, -, gating⟩ | ⟨_, _, s₂, _, -, gating, main⟩
  · exact .inl (executionGate_keeps stable _ _ _ _ _ gating same₁)
  have same₂ := executionGate_keeps stable _ _ _ _ _ gating same₁
  have dispatched : Act.Keeps (fun x => x.receiptChain = s.receiptChain)
      (dispatchRequest request : Session host SessionReceipt) := by
    refine dispatchRequest_keeps (fun x receipt policy op same => ?_) request
    unfold SessionRecord.charge
    split
    · exact same
    · exact same
  rcases main.bind_inv with ⟨e, -, dispatching⟩ | ⟨_, receipt, s₃, _, -, dispatching, recording⟩
  · exact .inl (dispatched _ _ _ _ dispatching same₂)
  have same₃ : s₃.receiptChain = s.receiptChain := dispatched _ _ _ _ dispatching same₂
  obtain ⟨u, -, recorded⟩ := recording.of_left
  rcases recordReceipt_inv recorded with ⟨_, -, -, -, rfl⟩ | ⟨hash, -, written⟩
  · exact .inl same₃
  let entry : ChainedReceipt := ⟨s₃.annotate receipt,
    ⟨s₃.receiptChainHead, host.operationHash request.operation, s₃.sessionId, hash⟩⟩
  refine .inr ⟨entry, ?_, rfl⟩
  rw [← same₃]
  refine written _ (chain_stable _) ?_ ?_
  · intro x op receipt same
    unfold SessionRecord.advanceSpeculations
    split
    · exact same
    · exact same
  · unfold SessionRecord.recorded
    dsimp only
    split
    · rfl
    · rfl

/-! ## The steps of a run -/

section Draws

open Act

variable {token : String}

theorem SessionRecord.Spent.stable (host : SessionHost) (token : String) :
    Stable fun s : SessionRecord host.codec => s.Spent token :=
  (SessionRecord.Spent.committing host token).toStable

theorem bindIdentity_spent (assertion : IdentityAssertion) :
    Keeps (SessionRecord.Spent token) (bindIdentity assertion : Watch host Unit) := by
  have stable := SessionRecord.Spent.stable host token
  refine (access_keeps stable.toSteady).bind fun _ => keeps_get.bind fun s => ?_
  refine (Watch.rejectWhen_keeps _ _ _).bind fun _ => (keeps_ask _).bind fun verified => ?_
  cases (verified : Except PyException AgentIdentity) with
  | error e =>
      dsimp only
      split
      · exact Watch.reject_keeps _ _
      · exact keeps_throw e
  | ok descriptor =>
      exact Keeps.bind (keeps_modify fun s spent => spent) fun _ => touch_keeps stable.toSteady

theorem bindSignedPlanAuthority_spent (request : SignedPlan host.codec) :
    Keeps (SessionRecord.Spent token) (bindSignedPlanAuthority request : Watch host Unit) := by
  have stable := SessionRecord.Spent.stable host token
  refine (access_keeps stable.toSteady).bind fun _ => (checkSignedPlan_keeps _).bind fun _ => ?_
  refine Keeps.bind (keeps_modify fun s spent => spent) fun _ => (keeps_ofExcept _).bind fun _ => ?_
  exact Keeps.bind (keeps_modify fun s spent => spent) fun _ => touch_keeps stable.toSteady

theorem prepareAgentHandoff_spent (request : OfferRequest) :
    Keeps (SessionRecord.Spent token) (prepareAgentHandoff request : Watch host _) := by
  have stable := SessionRecord.Spent.stable host token
  refine (checkTtl_keeps _).bind fun _ => (validateAgentId_keeps _).bind fun _ => ?_
  refine (access_keeps stable.toSteady).bind fun _ => (requireControl_keeps _ _).bind fun _ => ?_
  refine (requireIdentity_keeps stable).bind fun _ => ?_
  refine (refreshExternalMutation_keeps stable.toSteady).bind fun _ => ?_
  refine (verifyRecipient_keeps _).bind fun descriptor => ?_
  refine (activeBackend_keeps stable.terminal).bind fun _ => ?_
  refine Keeps.bind (keeps_modify fun s spent => ?_) fun _ => Watch.listPages_keeps.bind fun _ => ?_
  · split
    · exact spent
    · exact spent
  refine Watch.freshToken_keeps.bind fun _ => Watch.nowMs_keeps.bind fun _ => ?_
  refine Watch.pageUrl_keeps.bind fun _ => keeps_get.bind fun _ => ?_
  exact Keeps.bind (keeps_modify fun s spent => spent) fun _ =>
    (touch_keeps stable.toSteady).bind fun _ => keeps_pure _

theorem prepareOperation_spent {request : PrepareRequest} {s s' : SessionRecord host.codec}
    {t : Trace QuietSig} {r : Except PyException PreparedOperation}
    (run : Act.Runs (prepareOperation request : Watch host _) s t r s') (spent : s.Spent token) :
    s'.Spent token := by
  have stable := SessionRecord.Spent.stable host token
  rcases prepareOperation_run run with stably | ⟨s₁, _, record, stably, -, -, -, last⟩
  · exact stably _ stable spent
  · exact last _ stable (stably _ stable spent)

/-- Every run of `m` that makes the token live draws it. -/
def Enters {α : Type} (token : String) (m : Watch host α) : Prop :=
  ∀ s t r s', Act.Runs m s t r s' → s.Spent token → s'.Spent token ∨ DrawnIn t token

theorem Enters.after {α β : Type} {m : Watch host α} {f : α → Watch host β}
    (first : Keeps (SessionRecord.Spent token) m) (second : ∀ a, Enters token (f a)) :
    Enters token (m >>= f) := by
  intro s t r s' run spent
  rcases run.bind_inv with ⟨e, -, inner⟩ | ⟨t₁, a, s₁, u, rfl, inner, next⟩
  · exact .inl (first _ _ _ _ inner spent)
  · rcases second a _ _ _ _ next (first _ _ _ _ inner spent) with kept | drawn
    · exact .inl kept
    · exact .inr (List.mem_append_right _ drawn)

/-- A new graph is entered under a token that was drawn. -/
theorem prepareSpeculation_enters (request : SpeculateRequest) :
    Enters token (prepareSpeculation request : Watch host _) := by
  have stable := SessionRecord.Spent.stable host token
  refine .after (keeps_ofExcept _) fun _ => .after (checkTtl_keeps _) fun _ => ?_
  refine .after (access_keeps stable.toSteady) fun _ => .after (requireControl_keeps _ _) fun _ => ?_
  refine .after (requireIdentity_keeps stable) fun _ => ?_
  refine .after (refreshExternalMutation_keeps stable.toSteady) fun _ => ?_
  refine .after (rejectMutationIfPolicyRequires_keeps _ _) fun _ => .after (keeps_ofExcept _) fun plan => ?_
  refine .after (requireSignedSpeculation_keeps _) fun _ => ?_
  refine .after (activeBackend_keeps stable.terminal) fun _ => ?_
  refine .after (authorizeContinuations_keeps _) fun _ => .after Watch.nowMs_keeps fun now => ?_
  refine .after (keeps_modify fun s spent item mem => spent item (List.mem_filter.mp mem).1) fun _ => ?_
  refine .after keeps_get fun s => .after (Watch.rejectWhen_keeps _ _ _) fun _ => ?_
  intro s t r s' run spent
  obtain ⟨drawn, u, rfl, entering⟩ := run.ask_bind_inv
  by_cases same : token = drawn
  · subst same
    exact .inr List.mem_cons_self
  · refine .inl ?_
    refine Keeps.bind (keeps_modify fun s spent item mem => ?_) (fun _ =>
      (touch_keeps stable.toSteady).bind fun _ => keeps_pure _) _ _ _ _ entering spent
    rcases mem_assign mem with known | ⟨rfl, -⟩
    · exact spent item known
    · exact (same rfl).elim

theorem Continuation.spent {eligible : EligibleBranch} {caller : Caller}
    {s s' : SessionRecord host.codec} {t : Trace RuntimeSig} {r : Except PyException SpeculationResult}
    (continuation : Continuation eligible caller s t r s') (spent : s.Spent token) :
    s'.Spent token := by
  cases continuation with
  | prepared run => exact prepareOperation_spent run spent
  | @executed t r s₁ run =>
      have lasting := (SessionRecord.Spent.committing host token).toLasting
      have kept : s₁.Spent token := executeRequest_keeps lasting _ _ _ _ _ run spent
      exact kept

/-- A graph that is live after a call was live before it, or its token was drawn in it. -/
theorem step_draws (step : SessionStep host) : Component.Draws
    (fun s : SessionRecord host.codec => s.live) (fun step => drawnTokens step.trace) step := by
  intro token live
  by_contra neither
  push Not at neither
  obtain ⟨gone, undrawn⟩ := neither
  have spent : step.before.Spent token := SessionRecord.spent_iff.mpr gone
  have again : ¬ step.after.Spent token := fun kept => SessionRecord.spent_iff.mp kept live
  refine again ?_
  have committing := SessionRecord.Spent.committing host token
  have stable := committing.toStable
  clear again live gone
  obtain ⟨call, before, t, outcome, after, run⟩ := step
  change SessionRecord.Spent token after
  have of_keeps (keeps : Act.Keeps (SessionRecord.Spent token) call.body) :
      SessionRecord.Spent token after := keeps _ _ _ _ run spent
  cases call with
  | observePage pageId caller => exact of_keeps (observePage_keeps stable pageId caller).left
  | prepareOperation operation ttlMs caller =>
      obtain ⟨u, rfl, preparing⟩ := run.of_left
      exact prepareOperation_spent preparing spent
  | commitOperation request =>
      exact of_keeps (commitOperation_keeps committing (fun _ _ refusable => refusable.1) request)
  | bindSignedPlanAuthority request => exact of_keeps (bindSignedPlanAuthority_spent request).left
  | bindIdentity assertion => exact of_keeps (bindIdentity_spent assertion).left
  | prepareSpeculation request =>
      obtain ⟨u, rfl, preparing⟩ := run.of_left
      rcases prepareSpeculation_enters request _ _ _ _ preparing spent with kept | drawn
      · exact kept
      · exact (undrawn drawn.mem_drawnTokens).elim
  | selectSpeculativeBranch other caller =>
      obtain ⟨u, rfl, selecting⟩ := run.of_left
      exact (selectSpeculativeBranch_reselects selecting).spent spent
  | executeSelectedSpeculativeBranch other caller =>
      rcases executeSelectedSpeculativeBranch_run run with ⟨-, reselects, -⟩ |
        ⟨u, rest, eligible, item, s₁, -, -, reselects, continuation⟩
      · exact reselects.spent spent
      · exact continuation.spent ((reselects.spent spent).consume other)
  | prepareAgentHandoff request => exact of_keeps (prepareAgentHandoff_spent request).left
  | claimAgentHandoff request =>
      exact of_keeps (claimAgentHandoff_keeps stable.toSteady (fun _ _ _ _ spent => spent) request).left
  | executeOperation operation reference caller =>
      exact of_keeps (executeRequest_keeps committing.toLasting _)
  | executePlan plan caller => exact of_keeps (executePlan_keeps stable plan caller)
  | executeTypingSession config reference caller =>
      exact of_keeps (executeTypingSession_keeps committing.toLasting config reference caller)
  | inspectPages => exact of_keeps (inspectPages_keeps stable).left
  | selectPage pageId caller => exact of_keeps (selectPage_keeps stable pageId caller).left
  | recordExternalMutation actor => exact of_keeps (recordExternalMutation_keeps stable actor).left
  | closeSession caller => exact of_keeps (closeSession_keeps stable caller).left
  | cleanupExpired => exact of_keeps (cleanupExpired_keeps stable).left

end Draws

/-- A call only adds to the chain. -/
theorem step_extends (step : SessionStep host) :
    step.before.receiptChain <+: step.after.receiptChain := by
  have observing : Observing fun s : SessionRecord host.codec =>
      step.before.receiptChain <+: s.receiptChain := {
    touched := fun _ _ before => before
    closed := fun _ _ _ before => before
    terminal := fun _ before => before
    identified := fun _ _ before => before
    advanced := fun _ _ before => before
    evidenced := fun _ _ _ before => before
    fingerprinted := fun _ _ before => before
    invalidated := fun _ before => before
    refused := fun _ _ refusable => refusable.1
    regraphed := fun _ _ before _ => before
    identityBound := fun _ _ _ before => before
    planBound := fun _ _ _ before _ => before
    planInstalled := fun _ _ _ _ before _ => before }
  have committing : Committing fun s : SessionRecord host.codec =>
      step.before.receiptChain <+: s.receiptChain := {
    toStable := observing.toStable
    charged := fun s _ _ _ before => by
      unfold SessionRecord.charge
      split
      · exact before
      · exact before
    chained := fun s _ _ _ before _ => before.trans (List.prefix_append _ _)
    stepped := fun _ before => before
    speculated := fun s _ _ before => by
      unfold SessionRecord.advanceSpeculations
      split
      · exact before
      · exact before
    committing := fun _ _ _ before _ _ => before
    released := fun _ _ before => before
    selected := fun _ _ before => before }
  refine step_keeps observing committing (fun _ _ before => before) (fun _ _ _ _ before => before) ?_
    (List.prefix_refl _)
  intro request u r s s' _ run before
  rcases prepareOperation_run run with stably | ⟨s₁, _, record, stably, -, -, -, last⟩
  · exact stably _ observing.toStable before
  · exact last _ observing.toStable (stably _ observing.toStable before)

/-- What the call does with the continuation of `branch`: it runs one preparation of it,
which enters it under a fresh token if the call succeeds, or one execution of it. -/
inductive Acts (step : SessionStep host) (branch : SpeculativeBranch) : Prop
  | prepares {request : PrepareRequest} {s : SessionRecord host.codec} {u v : Trace QuietSig}
      {r : Except PyException PreparedOperation} (operation : request.operation = branch.continuation)
      (trace : step.trace = u.map Event.left ++ v.map Event.left)
      (run : Act.Runs (prepareOperation request : Watch host _) s v r step.after)
      (chain : step.after.receiptChain = step.before.receiptChain)
      (entered : (∃ result, step.outcome = .ok result) → ∃ token ∈ drawnTokens step.trace,
        ∃ p, step.after.preparations.lookup token = some p ∧ p.operation = branch.continuation) :
      Acts step branch
  | executes {request : ExecuteRequest} {s s' : SessionRecord host.codec} {u : Trace QuietSig}
      {t : Trace RuntimeSig} {r : Except PyException SessionReceipt}
      (operation : request.operation = branch.continuation)
      (trace : step.trace = u.map Event.left ++ t)
      (chain : s.receiptChain = step.before.receiptChain)
      (run : Act.Runs (executeRequest request) s t r s')
      (after : step.after.receiptChain = s'.receiptChain)
      (recorded : s'.receiptChain = s.receiptChain ∨ ∃ c, s'.receiptChain = s.receiptChain ++ [c] ∧
        c.entry.operationHash = host.operationHash branch.continuation) : Acts step branch

/-- The call continues the parent of the graph of `token` with `branch`. -/
structure ContinuesParent (step : SessionStep host) (token : String) (item : SpeculationRecord)
    (branch : SpeculativeBranch) : Prop where
  known : step.before.speculations.lookup token = some item
  unconsumed : item.consumed = false
  consumed : token ∉ step.after.live
  declared : branch ∈ item.plan.branches
  /-- The last receipt before the call is the one of the parent, and it was verified. -/
  parent : ∃ early last parent, step.before.receiptChain = early ++ [last] ∧
    item.plan.parentOperation = some parent ∧
    last.body.receipt.operationId = item.plan.parentOperationId ∧
    last.body.receipt.verdict = .verified ∧ last.entry.operationHash = host.operationHash parent
  matched : ∃ u, u.map Event.left <+: step.trace ∧
    OnlyMatch host item.plan.branches u branch.branchId
  acts : Acts step branch

theorem ContinuesParent.live {step : SessionStep host} {token : String} {item : SpeculationRecord}
    {branch : SpeculativeBranch} (continues : ContinuesParent step token item branch) :
    token ∈ step.before.live :=
  ⟨item, mem_of_lookup continues.known, continues.unconsumed⟩

/-- A call that found an eligible branch continues the parent of its graph; one that
did not dispatches nothing and fails. -/
theorem step_continues {step : SessionStep host} {token : String} {caller : Caller}
    (method : step.method = .executeSelectedSpeculativeBranch token caller)
    (bound : step.before.GraphsBound)
    (acted : rights step.trace ≠ [] ∨ ∃ result, step.outcome = .ok result) :
    ∃ item branch, ContinuesParent step token item branch := by
  obtain ⟨call, before, t, outcome, after, run⟩ := step
  obtain rfl := method
  rcases executeSelectedSpeculativeBranch_run run with ⟨silent, -, e, rfl⟩ |
    ⟨u, rest, eligible, item, s₁, rfl, isEligible, reselects, continuation⟩
  · rcases acted with dispatches | ⟨result, eq⟩
    · exact (dispatches silent.rights_eq).elim
    · cases eq
  have chain : (s₁.consume token).receiptChain = before.receiptChain := reselects.frame
  have spent : after.Spent token := continuation.spent (s₁.consume_spent token)
  refine ⟨item, eligible.branch, isEligible.known, isEligible.unconsumed,
    SessionRecord.spent_iff.mp spent, List.mem_of_find?_eq_some isEligible.declared, ?_,
    ⟨u, List.prefix_append _ _, isEligible.matched⟩, ?_⟩
  · have verified := isEligible.parent
    unfold SessionRecord.parentVerified at verified
    cases ended : before.receiptChain.getLast? with
    | none =>
        rw [ended] at verified
        cases verified
    | some last =>
        rw [ended] at verified
        obtain ⟨early, split⟩ := List.getLast?_eq_some_iff.mp ended
        have isBound := bound token item (mem_of_lookup isEligible.known)
        cases declared : item.plan.parentOperation with
        | none =>
            rw [declared] at isBound
            rw [isBound] at verified
            simp at verified
        | some parent =>
            rw [declared] at isBound
            rw [isBound] at verified
            simp only [Option.map_some, Bool.and_eq_true, decide_eq_true_eq, beq_iff_eq,
              Option.some.injEq] at verified
            obtain ⟨⟨sameId, isVerified⟩, sameHash⟩ := verified
            exact ⟨early, last, parent, split, rfl, sameId, isVerified, sameHash.symm⟩
  · cases continuation with
    | @prepared v r _ preparing =>
        have sameChain : after.receiptChain = before.receiptChain := by
          rw [← chain]
          rcases prepareOperation_run preparing with stably | ⟨s₂, _, record, stably, -, -, -, last⟩
          · exact stably.frame.2.1
          · exact last.frame.2.1.trans stably.frame.2.1
        have operation : (eligible.preparation caller).operation = eligible.branch.continuation := rfl
        refine .prepares operation rfl preparing sameChain ?_
        rintro ⟨result, succeeded⟩
        cases r with
        | error e => cases succeeded
        | ok made =>
            obtain ⟨new, drawn, p, found, operation⟩ := prepareOperation_entered preparing
            refine ⟨new, mem_drawnTokens ?_, p, found, operation⟩
            exact List.mem_append_right _ (List.mem_map_of_mem drawn)
    | @executed _ r s₂ executing =>
        have operation : (eligible.request caller).operation = eligible.branch.continuation := rfl
        have started : SessionRecord.receiptChain
            { s₁.consume token with activeSpeculation := some eligible.summary } =
              before.receiptChain := chain
        exact .executes operation rfl started executing rfl (executeRequest_chain executing)

/-- A session starts without graphs. -/
theorem Opened.graphless {request : OpenRequest host.codec} {s : SessionRecord host.codec}
    (opened : Opened request s) : s.speculations = [] := by
  obtain ⟨sessionId, controlToken, scopeKey, now, t, run⟩ := opened
  have steady : Steady fun x : SessionRecord host.codec => x.speculations = [] := {
    touched := fun _ _ none => none
    closed := fun _ _ _ none => none
    terminal := fun _ none => none
    advanced := fun _ _ none => none
    evidenced := fun _ _ _ none => none
    fingerprinted := fun _ _ none => none }
  exact openRecord_keeps steady request _ _ _ _ run rfl

/-- What holds of the continuations of a run. -/
structure OrderedContinuations (steps : List (SessionStep host)) : Prop where
  /-- A call that dispatches or succeeds continues a verified parent. -/
  follow : ∀ step ∈ steps, ∀ token caller,
    step.method = .executeSelectedSpeculativeBranch token caller →
    (rights step.trace ≠ [] ∨ ∃ result, step.outcome = .ok result) →
    ∃ item branch, ContinuesParent step token item branch
  /-- No token continues twice. -/
  once : steps.Pairwise fun earlier later => ∀ token item branch item' branch',
    ContinuesParent earlier token item branch → ¬ ContinuesParent later token item' branch'
  /-- Two continuations of which the earlier was recorded follow different receipts. -/
  apart : steps.Pairwise fun earlier later => ∀ token item branch token' item' branch',
    ContinuesParent earlier token item branch → ContinuesParent later token' item' branch' →
    earlier.after.receiptChain ≠ earlier.before.receiptChain →
    earlier.before.receiptChain.length < later.before.receiptChain.length

theorem continues_after_parent {request : OpenRequest host.codec} {s s' : SessionRecord host.codec}
    {steps : List (SessionStep host)} (opened : Opened request s) (run : SessionRun host s steps s')
    (fresh : (steps.flatMap fun step => drawnTokens step.trace).Nodup) : OrderedContinuations steps := by
  have graphless := opened.graphless
  have bound : s.GraphsBound := by
    intro token item mem
    rw [graphless] at mem
    cases mem
  obtain ⟨bounds, -⟩ := run.holds_before (I := fun s => s.GraphsBound) (P := fun _ => True)
    (fun step _ before => step_graphsBound step before) bound fun _ _ => trivial
  constructor
  · intro step mem token caller method acted
    exact step_continues method (bounds step mem) acted
  · have old : ∀ token ∈ s.live, token ∉ steps.flatMap fun step => drawnTokens step.trace := by
      rintro token ⟨item, mem, -⟩
      rw [graphless] at mem
      cases mem
    obtain ⟨gone, -⟩ := run.spent step_draws old fresh
    refine gone.imp ?_
    intro earlier later leaves token item branch item' branch' first second
    exact leaves token first.live first.consumed second.live
  · obtain ⟨grown, -⟩ := run.related
      (R := fun s s' : SessionRecord host.codec => s.receiptChain <+: s'.receiptChain)
      (fun s => List.prefix_refl _) (fun _ _ _ first second => first.trans second) step_extends
    refine grown.imp ?_
    intro earlier later grows token item branch token' item' branch' first second recorded
    have within := (step_extends earlier).length_le
    have strict : earlier.before.receiptChain.length ≠ earlier.after.receiptChain.length := by
      intro same
      exact recorded ((step_extends earlier).eq_of_length same).symm
    have after := grows.length_le
    omega

/-! ## Two graphs of one parent -/

namespace Scenario

/-- A policy without budgets. -/
def lenient : OpenRequest scenarioHost.codec where
  authorityEnvelope := some openPolicy

def shown : Expectation where
  type := .elementVisible
  locator := some { strategy := .css, value := "#send" }
  visible := some true

/-- A click that is verified when the button is still there. -/
def parentClick : Operation := { click "a" with expectations := [shown] }

/-- After the first click the second one may follow. -/
def followUp : SpeculativePlan where
  speculationId := "follow-up"
  parentOperationId := "a"
  branches := [⟨"again", [shown], click "b"⟩]
  parentOperation := some parentClick

/-- The graph is prepared twice, the parent runs, both are selected and continued. -/
def twoGraphs : List (SessionCall scenarioHost) := [
  .prepareSpeculation { plan := followUp },
  .prepareSpeculation { plan := followUp },
  .executeOperation parentClick none {},
  .selectSpeculativeBranch "token-0" {},
  .selectSpeculativeBranch "token-1" {},
  .executeSelectedSpeculativeBranch "token-0" {},
  .executeSelectedSpeculativeBranch "token-1" {}]

/-- The parent and one continuation are dispatched, under tokens that differ. -/
def showsOneContinuation (steps : List (SessionStep scenarioHost))
    (_ : SessionRecord scenarioHost.codec) : Bool :=
  decide (steps.flatMap fun step => drawnTokens step.trace).Nodup &&
    steps.map (fun step => (rights step.trace).length) == [0, 0, 1, 0, 0, 1, 0]

end Scenario

open Scenario in
theorem continues_after_parent_twice : ∃ steps s', SessionRun scenarioHost
      (lenient.record "session-1" "key" "scope" 0) steps s' ∧
    steps.map (·.method) = twoGraphs ∧
    steps.map (fun step => (rights step.trace).length) = [0, 0, 1, 0, 0, 1, 0] ∧
    OrderedContinuations steps := by
  obtain ⟨steps, s', run, methods, shown⟩ := Component.exists_run (C := sessionComponent scenarioHost)
    script twoGraphs (lenient.record "session-1" "key" "scope" 0)
    { dispatches := [.ok { performed with startedAtMs := 0, completedAtMs := 0 }] }
    showsOneContinuation (by decide +kernel)
  obtain ⟨fresh, dispatches⟩ := Bool.and_eq_true_iff.mp shown
  have started : Opened lenient (lenient.record "session-1" "key" "scope" 0) :=
    ⟨"session-1", "key", "scope", 0, [], .pure () _⟩
  exact ⟨steps, s', run, methods, eq_of_beq dispatches,
    continues_after_parent started run (of_decide_eq_true fresh)⟩

end Dingdongditch
