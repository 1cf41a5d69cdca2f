import Dingdongditch.Runtime.Scenario
import Dingdongditch.Runtime.Writes

/-!
# The life of a preparation

A preparation moves from `PREPARED` to `COMMITTED` or to `INVALIDATED` and stays
there (`SessionStep.advances`), a commit executes the operation of its
preparation once or not at all (`CommitRun`), and so a token is executed at most
once in a run of the session (`executes_once`).
-/

namespace Dingdongditch

open Interaction Text

variable {host : SessionHost}

/-! ## Statuses -/

/-- How a preparation may change: its operation stays, and its status moves from
`PREPARED` to one of the other two or not at all. -/
structure PreparedRecord.Advances (p p' : PreparedRecord) : Prop where
  operation : p'.operation = p.operation
  status : p'.pub.status = p.pub.status ∨
    p.pub.status = .prepared ∧ (p'.pub.status = .committed ∨ p'.pub.status = .invalidated)

namespace PreparedRecord.Advances

theorem refl (p : PreparedRecord) : p.Advances p := ⟨rfl, .inl rfl⟩

theorem trans {p p₁ p₂ : PreparedRecord} (first : p.Advances p₁) (second : p₁.Advances p₂) :
    p.Advances p₂ := by
  refine ⟨second.operation.trans first.operation, ?_⟩
  rcases first.status with same | ⟨wasPrepared, closed⟩
  · rw [← same]
    exact second.status
  · rcases second.status with same | ⟨isPrepared, -⟩
    · exact .inr ⟨wasPrepared, same ▸ closed⟩
    · rcases closed with closed | closed
      · rw [closed] at isPrepared
        cases isPrepared
      · rw [closed] at isPrepared
        cases isPrepared

/-- A status that is not `PREPARED` stays. -/
theorem terminal {p p' : PreparedRecord} (advances : p.Advances p')
    (closed : p.isPrepared = false) : p'.pub.status = p.pub.status := by
  rcases advances.status with same | ⟨isPrepared, -⟩
  · exact same
  · rw [PreparedRecord.isPrepared, isPrepared] at closed
    cases closed

theorem setStatus {p : PreparedRecord} (isPrepared : p.isPrepared = true)
    {status : PreparationStatus} (closed : status = .committed ∨ status = .invalidated) :
    p.Advances (p.setStatus status) :=
  ⟨rfl, .inr ⟨of_decide_eq_true isPrepared, closed⟩⟩

theorem invalidateIfPrepared (p : PreparedRecord) : p.Advances p.invalidateIfPrepared := by
  unfold PreparedRecord.invalidateIfPrepared
  split
  · next isPrepared => exact .setStatus isPrepared (.inr rfl)
  · exact .refl p

end PreparedRecord.Advances

/-- Every preparation of `s` is still there in `s'`, and has advanced. -/
def Progress (s s' : SessionRecord host.codec) : Prop :=
  ∀ token p, s.preparations.lookup token = some p →
    ∃ p', s'.preparations.lookup token = some p' ∧ p.Advances p'

namespace Progress

variable {s s₁ s₂ : SessionRecord host.codec}

theorem refl (s : SessionRecord host.codec) : Progress s s :=
  fun _ p found => ⟨p, found, .refl p⟩

theorem trans (first : Progress s s₁) (second : Progress s₁ s₂) : Progress s s₂ := by
  intro token p found
  rcases first token p found with ⟨p₁, found₁, advances₁⟩
  rcases second token p₁ found₁ with ⟨p₂, found₂, advances₂⟩
  exact ⟨p₂, found₂, advances₁.trans advances₂⟩

theorem invalidatePreparations (s : SessionRecord host.codec) :
    Progress s s.invalidatePreparations := by
  intro token p found
  refine ⟨p.invalidateIfPrepared, ?_, .invalidateIfPrepared p⟩
  rw [s.invalidatePreparations_lookup, found]
  rfl

/-- One open preparation is closed. -/
theorem setPreparationStatus {token : String} {p : PreparedRecord}
    (found : s.preparations.lookup token = some p) (isPrepared : p.isPrepared = true)
    {status : PreparationStatus} (closed : status = .committed ∨ status = .invalidated) :
    Progress s (s.setPreparationStatus token status) := by
  intro other q foundOther
  rw [s.setPreparationStatus_lookup, foundOther]
  by_cases same : other = token
  · subst same
    rw [found] at foundOther
    obtain rfl := Option.some.inj foundOther
    refine ⟨p.setStatus status, ?_, .setStatus isPrepared closed⟩
    simp
  · refine ⟨q, ?_, .refl q⟩
    simp [same]

/-- A preparation under a token that no other one has. -/
theorem assign {token : String} {record : PreparedRecord}
    (fresh : s.preparations.lookup token = none) (before : Progress s s₁) :
    Progress s { s₁ with preparations := Text.assign s₁.preparations token record } := by
  intro other p found
  rcases before other p found with ⟨p', found', advances⟩
  have differs : other ≠ token := by
    rintro rfl
    rw [found] at fresh
    cases fresh
  refine ⟨p', ?_, advances⟩
  rw [lookup_assign, if_neg differs]
  exact found'

theorem watching (s₀ : SessionRecord host.codec) : Watching (Progress s₀) where
  touched _ _ before := before
  closed _ _ _ before := before
  terminal _ before := before
  identified _ _ before := before
  advanced s _ before := before.trans (.invalidatePreparations s)
  evidenced _ _ _ before := before
  fingerprinted _ _ before := before
  invalidated s before := before.trans (.invalidatePreparations s)
  refused _ _ refusable := by
    rcases refusable with ⟨before, p, found, isPrepared⟩
    exact before.trans (.setPreparationStatus found isPrepared (.inr rfl))
  speculating _ _ before := before
  offered _ _ before := before
  identityBound _ _ _ before := before
  planBound _ _ _ before _ := before
  planInstalled _ _ _ _ before _ := before

theorem lasting (s₀ : SessionRecord host.codec) : Lasting (Progress s₀) where
  toStable := (watching s₀).toStable
  charged s _ _ _ before := by
    unfold SessionRecord.charge
    split
    · exact before
    · exact before
  chained _ _ _ _ before _ := before
  stepped _ before := before
  speculated s _ _ before := by
    unfold SessionRecord.advanceSpeculations
    split
    · exact before
    · exact before

theorem committing (s₀ : SessionRecord host.codec) : Committing (Progress s₀) where
  toLasting := lasting s₀
  committing _ _ _ before found isPrepared :=
    before.trans (.setPreparationStatus found isPrepared (.inl rfl))
  released _ _ before := before
  selected _ _ before := before

end Progress

/-- The tokens that the environment draws within a trace. -/
def drawnTokens (t : Trace RuntimeSig) : List String :=
  t.filterMap fun e => match e with
    | ⟨.inl .freshToken, token⟩ => some token
    | _ => none

theorem mem_drawnTokens {t : Trace RuntimeSig} {token : String}
    (drawn : Event.left (quietEvent .freshToken token) ∈ t) : token ∈ drawnTokens t :=
  List.mem_filterMap.mpr ⟨_, drawn, rfl⟩

/-- The tokens that are drawn during a call belong to no preparation. -/
def FreshTokens (step : SessionStep host) : Prop :=
  ∀ token ∈ drawnTokens step.trace, step.before.preparations.lookup token = none

theorem step_progress {step : SessionStep host} (fresh : FreshTokens step) :
    Progress step.before step.after := by
  have watching := Progress.watching step.before
  have stable := watching.toStable
  refine step_keeps watching.toObserving (Progress.committing _) watching.offered
    (fun _ _ _ _ before => before) ?_ (.refl _)
  intro request u r s s' sub run before
  rcases prepareOperation_run run with stably | ⟨s₁, token, record, stably, -, -, drawn, last⟩
  · exact stably _ stable before
  · have unknown := fresh token (mem_drawnTokens (sub _ drawn))
    exact last _ stable (.assign unknown (stably _ stable before))

/-- A preparation that succeeds enters its operation under the token that it drew. -/
theorem prepareOperation_entered {request : PrepareRequest} {s s' : SessionRecord host.codec}
    {t : Trace QuietSig} {made : PreparedOperation}
    (run : Act.Runs (prepareOperation request : Watch host _) s t (.ok made) s') :
    ∃ token : String, quietEvent .freshToken token ∈ t ∧
      ∃ p, s'.preparations.lookup token = some p ∧ p.operation = request.operation := by
  have entered (preparations : List (String × PreparedRecord)) (token : String) (record : PreparedRecord) :
      (Text.assign preparations token record).lookup token = some record := by
    rw [lookup_assign, if_pos rfl]
  rcases prepareOperation_cases run with ⟨-, e, failed⟩ | ⟨s₁, token, record, -, -, serves, drawn, last⟩
  · cases failed
  · have progress := last _ (Progress.watching
      { s₁ with preparations := Text.assign s₁.preparations token record }).toStable (.refl _)
    obtain ⟨p, found, advances⟩ := progress token record (entered _ _ _)
    exact ⟨token, drawn, p, found, advances.operation.trans serves.operation⟩

/-- Statuses only move on, over any run. -/
theorem run_progress {s s' : SessionRecord host.codec} {steps : List (SessionStep host)}
    (run : SessionRun host s steps s') (fresh : ∀ step ∈ steps, FreshTokens step) :
    Progress s s' := by
  induction run with
  | nil s => exact .refl s
  | cons step _ ih =>
      have first := step_progress (fresh step List.mem_cons_self)
      exact first.trans (ih fun later mem => fresh later (List.mem_cons_of_mem _ mem))

/-! ## Commits -/

section Commit

variable {request : CommitRequest} {s s' : SessionRecord host.codec} {t : Trace RuntimeSig}

/-- What follows the checks of a commit: the preparation is marked, its operation
is executed, and then the transaction is over. -/
structure Consumption (request : CommitRequest) (prepared : PreparedRecord)
    (s : SessionRecord host.codec) (t : Trace RuntimeSig) (r : Except PyException CommitResult)
    (s' : SessionRecord host.codec) : Prop where
  parts : ∃ (v : Trace RuntimeSig) (w : Trace QuietSig) (executed : Except PyException SessionReceipt)
    (s₂ : SessionRecord host.codec), t = v ++ w.map Event.left ∧
      Act.Runs (executeRequest (prepared.request request.caller))
        (s.committing request.token prepared) v executed s₂ ∧
      r = executed.map (fun receipt => ⟨request.token, true, none, some receipt⟩) ∧
      Stably (s₂.release s.activeSpeculation) s'

/-- The two kinds of runs of `commit_operation`: it dispatches nothing, leaves the
chain and returns `committed = False` if it returns; or its checks pass, and it
executes the operation of the preparation once. -/
inductive CommitRun (request : CommitRequest) (s : SessionRecord host.codec) :
    Trace RuntimeSig → Except PyException CommitResult → SessionRecord host.codec → Prop
  | stopped {u : Trace QuietSig} {r : Except PyException CommitResult}
      {s' : SessionRecord host.codec}
      (refused : ∀ result, r = .ok result → result.committed = false)
      (chain : s'.receiptChain = s.receiptChain) : CommitRun request s (u.map Event.left) r s'
  | executed {u : Trace QuietSig} {v : Trace RuntimeSig} {r : Except PyException CommitResult}
      {prepared : PreparedRecord} {s₁ s' : SessionRecord host.codec}
      (checked : Act.Runs (commitChecks request) s u (.ok (.ok prepared)) s₁)
      (consumed : Consumption request prepared s₁ v r s') :
      CommitRun request s (u.map Event.left ++ v) r s'

/-- The chain stays as it is under every check of a call. -/
theorem chain_stable (chain : List ChainedReceipt) :
    Stable fun s : SessionRecord host.codec => s.receiptChain = chain where
  touched _ _ same := same
  closed _ _ _ same := same
  terminal _ same := same
  identified _ _ same := same
  advanced _ _ same := same
  evidenced _ _ _ same := same
  fingerprinted _ _ same := same

/-- The execution of a commit is one `execute_operation`, and then the
transaction is over. -/
theorem executePrepared_run {prepared : PreparedRecord} {r : Except PyException SessionReceipt}
    (run : Act.Runs (executePrepared request prepared) s t r s') :
    ∃ s₂, Act.Runs (executeRequest (prepared.request request.caller))
        (s.committing request.token prepared) t r s₂ ∧ s' = s₂.release s.activeSpeculation := by
  obtain ⟨first, r₁, s₂, second, c, rfl, execution, clean, result⟩ :=
    Act.runs_andFinally.mp (executePrepared_inv run)
  obtain ⟨rfl, rfl, rfl⟩ := Act.runs_modifyGet.mp clean
  obtain rfl := result
  rw [List.append_nil]
  exact ⟨s₂, execution, rfl⟩

theorem consumption {prepared : PreparedRecord} {r : Except PyException CommitResult}
    (run : Act.Runs (do
      let receipt ← executePrepared request prepared
      Act.left (T := EffectSig) touch
      return (⟨request.token, true, none, some receipt⟩ : CommitResult) : Session host CommitResult)
      s t r s') : Consumption request prepared s t r s' := by
  rcases run.bind_inv with ⟨e, rfl, failed⟩ | ⟨v, receipt, s₂, rest, rfl, done, last⟩
  · obtain ⟨s₃, execution, rfl⟩ := executePrepared_run failed
    exact ⟨t, [], _, s₃, (List.append_nil t).symm, execution, rfl, fun _ _ holds => holds⟩
  · obtain ⟨s₃, execution, rfl⟩ := executePrepared_run done
    rcases last.left_bind_inv with ⟨w, e, -, -, touching⟩ | ⟨w, _, s₄, _, rfl, touching, returned⟩
    · obtain ⟨now, _, -, stamped⟩ := touching.ask_bind_inv
      obtain ⟨-, eq, -⟩ := Act.runs_modifyGet.mp stamped
      cases eq
    · obtain ⟨rfl, rfl, rfl⟩ := Act.runs_pure.mp returned
      have finished : Stably (s₃.release s.activeSpeculation) s' :=
        .of_keeps (fun _ stable => touch_keeps stable.toSteady) touching
      exact ⟨v, w, _, s₃, by rw [List.append_nil], execution, rfl, finished⟩

theorem commitOperation_run {r : Except PyException CommitResult}
    (run : Act.Runs (commitOperation request) s t r s') : CommitRun request s t r s' := by
  have chain {u r s₁} (checks : Act.Runs (commitChecks request) s u r s₁) :
      s₁.receiptChain = s.receiptChain :=
    commitChecks_keeps (chain_stable s.receiptChain) (fun _ _ refusable => refusable.1) request
      _ _ _ _ checks rfl
  unfold commitOperation at run
  rcases run.left_bind_inv with ⟨u, e, rfl, rfl, checks⟩ | ⟨u, checked, s₁, rest, rfl, checks, after⟩
  · refine .stopped ?_ (chain checks)
    intro result eq
    cases eq
  cases checked with
  | error reason =>
      obtain ⟨rfl, rfl, rfl⟩ := Act.runs_pure.mp after
      rw [List.append_nil]
      refine .stopped ?_ (chain checks)
      intro result eq
      cases eq
      rfl
  | ok prepared => exact .executed checks (consumption after)

/-- A commit whose checks pass consumes the preparation. -/
theorem commitOperation_consumption {u : Trace QuietSig} {v : Trace RuntimeSig}
    {r : Except PyException CommitResult} {prepared : PreparedRecord} {s₁ : SessionRecord host.codec}
    (run : Act.Runs (commitOperation request) s (u.map Event.left ++ v) r s')
    (checked : Act.Runs (commitChecks request) s u (.ok (.ok prepared)) s₁) :
    Consumption request prepared s₁ v r s' :=
  consumption (run.bind_resume checked.left)

/-- The status of a preparation that is consumed has left `PREPARED` for good. -/
theorem Consumption.closed {prepared : PreparedRecord} {r : Except PyException CommitResult}
    (consumed : Consumption request prepared s t r s')
    (found : s.preparations.lookup request.token = some prepared) :
    ∃ p, s'.preparations.lookup request.token = some p ∧ p.isPrepared = false := by
  obtain ⟨v, w, executed, s₂, -, execution, -, finished⟩ := consumed.parts
  have marked : (s.committing request.token prepared).preparations.lookup request.token =
      some (prepared.setStatus .committed) := by
    have status := s.setPreparationStatus_lookup request.token request.token .committed
    rw [found, Option.map_some, if_pos (beq_self_eq_true _)] at status
    exact status
  have progress := executeRequest_keeps (Progress.lasting (s.committing request.token prepared)) _
    _ _ _ _ execution (.refl _)
  have last := finished _ (Progress.watching _).toStable progress
  rcases last _ _ marked with ⟨p, foundLast, advances⟩
  refine ⟨p, foundLast, ?_⟩
  have closed : (prepared.setStatus .committed).isPrepared = false :=
    prepared.isPrepared_setStatus (by decide)
  rw [PreparedRecord.isPrepared, advances.terminal closed]
  rfl

end Commit

/-! ## Runs of a session -/

/-- The call is a commit of `token` that executes `op`: its checks pass, and then, among
events that only observe, `execute_operation` runs once, with the token active. -/
def Executes (step : SessionStep host) (token : String) (op : Operation) : Prop :=
  ∃ request prepared s₁ executed s₂, ∃ (u w : Trace QuietSig) (v : Trace RuntimeSig),
    step.method = SessionCall.commitOperation request ∧ request.token = token ∧
    prepared.operation = op ∧ step.trace = u.map Event.left ++ (v ++ w.map Event.left) ∧
    Act.Runs (commitChecks request) step.before u (.ok (.ok prepared)) s₁ ∧
    Act.Runs (executeRequest (prepared.request request.caller)) (s₁.committing token prepared)
      v executed s₂

section Runs

variable {token : String} {op : Operation}

/-- A commit whose checks pass executes the operation of its preparation. -/
theorem executes_of_checks {step : SessionStep host} {request : CommitRequest}
    {prepared : PreparedRecord} {u : Trace QuietSig} {rest : Trace RuntimeSig}
    {s₁ : SessionRecord host.codec} (method : step.method = .commitOperation request)
    (trace : step.trace = u.map Event.left ++ rest)
    (checked : Act.Runs (commitChecks request) step.before u (.ok (.ok prepared)) s₁) :
    Executes step request.token prepared.operation := by
  obtain ⟨call, before, whole, outcome, after, run⟩ := step
  obtain rfl := method
  obtain rfl := trace
  obtain ⟨v, w, executed, s₂, rfl, execution, -, -⟩ := (commitOperation_consumption run checked).parts
  exact ⟨request, prepared, s₁, executed, s₂, u, w, v, rfl, rfl, rfl, rfl, checked, execution⟩

/-- The executed preparation is open before the call. -/
theorem Executes.before {step : SessionStep host} (executes : Executes step token op) :
    ∃ p, step.before.preparations.lookup token = some p ∧ p.isPrepared = true ∧
      p.operation = op := by
  obtain ⟨request, prepared, s₁, executed, s₂, u, w, v, -, rfl, rfl, -, checked, -⟩ := executes
  obtain ⟨settles, committable, -⟩ := commitChecks_ok checked
  have found := settles.preparations _ _ committable.found committable.isPrepared
  exact ⟨prepared, found, committable.isPrepared, rfl⟩

/-- After the call the executed preparation is closed. -/
theorem Executes.after {step : SessionStep host} (executes : Executes step token op) :
    ∃ p, step.after.preparations.lookup token = some p ∧ p.isPrepared = false := by
  obtain ⟨request, prepared, s₁, executed, s₂, u, w, v, method, rfl, -, trace, checked, -⟩ := executes
  obtain ⟨-, committable, -⟩ := commitChecks_ok checked
  obtain ⟨call, before, whole, outcome, after, run⟩ := step
  obtain rfl := method
  obtain rfl := trace
  exact (commitOperation_consumption run checked).closed committable.found

theorem run_split {s s' : SessionRecord host.codec} {steps later : List (SessionStep host)}
    {step : SessionStep host} {early : List (SessionStep host)}
    (run : SessionRun host s steps s') (split : steps = early ++ step :: later) :
    SessionRun host s early step.before ∧ SessionRun host step.after later s' := by
  induction run generalizing early with
  | nil s => cases early <;> cases split
  | cons first rest ih =>
      cases early with
      | nil =>
          obtain ⟨rfl, rfl⟩ := List.cons.inj split
          exact ⟨.nil _, rest⟩
      | cons _ early =>
          obtain ⟨rfl, rfl⟩ := List.cons.inj split
          obtain ⟨before, after⟩ := ih rfl
          exact ⟨.cons _ before, after⟩

/-- A token is executed by one call of a run at most. -/
theorem executes_once {s s' : SessionRecord host.codec} {steps : List (SessionStep host)}
    (run : SessionRun host s steps s') (fresh : ∀ step ∈ steps, FreshTokens step) :
    steps.Pairwise fun first second =>
      ∀ token op op', Executes first token op → ¬ Executes second token op' := by
  induction run with
  | nil s => exact .nil
  | cons first rest ih =>
      have freshRest := fun step mem => fresh step (List.mem_cons_of_mem _ mem)
      refine .cons ?_ (ih freshRest)
      intro second mem token op op' executesFirst executesSecond
      obtain ⟨early, later, split⟩ := List.append_of_mem mem
      obtain ⟨reached, -⟩ := run_split rest split
      have progress := run_progress reached fun other inEarly =>
        freshRest other (by rw [split]; exact List.mem_append_left _ inEarly)
      rcases executesFirst.after with ⟨p, found, closed⟩
      rcases progress token p found with ⟨p', found', advances⟩
      rcases executesSecond.before with ⟨q, foundQ, isPrepared, -⟩
      rw [found'] at foundQ
      obtain rfl := Option.some.inj foundQ
      have status := advances.terminal closed
      rw [PreparedRecord.isPrepared, status] at isPrepared
      rw [PreparedRecord.isPrepared, isPrepared] at closed
      cases closed

/-- What a token executes is the operation that was prepared under it. -/
theorem executes_prepared {s s' : SessionRecord host.codec} {steps : List (SessionStep host)}
    (run : SessionRun host s steps s') (fresh : ∀ step ∈ steps, FreshTokens step)
    {token : String} {p : PreparedRecord} (found : s.preparations.lookup token = some p)
    {step : SessionStep host} (mem : step ∈ steps) {op : Operation}
    (executes : Executes step token op) : op = p.operation := by
  obtain ⟨early, later, split⟩ := List.append_of_mem mem
  obtain ⟨reached, -⟩ := run_split run split
  have progress := run_progress reached fun other inEarly =>
    fresh other (by rw [split]; exact List.mem_append_left _ inEarly)
  rcases progress token p found with ⟨p', found', advances⟩
  rcases executes.before with ⟨q, foundQ, -, rfl⟩
  rw [found'] at foundQ
  obtain rfl := Option.some.inj foundQ
  exact advances.operation

/-- A commit that executes nothing dispatches nothing and appends no receipt, and only
such a commit returns `committed = False`. -/
theorem commit_step_cases {step : SessionStep host} {request : CommitRequest}
    (method : step.method = .commitOperation request) :
    (∃ op, Executes step request.token op) ∨
      rights step.trace = [] ∧ step.after.receiptChain = step.before.receiptChain := by
  obtain ⟨call, before, whole, outcome, after, run⟩ := step
  obtain rfl := method
  cases commitOperation_run run with
  | stopped refused chain => exact .inr ⟨rights_map_left _, chain⟩
  | executed checked consumed => exact .inl ⟨_, executes_of_checks rfl rfl checked⟩

/-- A commit that returns `committed = False` dispatched nothing and appended no receipt. -/
theorem refused_commit {request : CommitRequest} {before after : SessionRecord host.codec}
    {t : Trace RuntimeSig} {result : CommitResult}
    (run : Act.Runs (commitOperation request : Session host CommitResult) before t (.ok result) after)
    (refused : result.committed = false) :
    rights t = [] ∧ after.receiptChain = before.receiptChain := by
  cases commitOperation_run run with
  | stopped _ chain => exact ⟨rights_map_left _, chain⟩
  | executed checked consumed =>
      obtain ⟨v, w, executed, s₂, -, -, eq, -⟩ := consumed.parts
      cases executed with
      | error e => cases eq
      | ok receipt =>
          obtain rfl := Except.ok.inj eq
          cases refused

end Runs

/-! ## A policy that asks for preparations -/

namespace Scenario

/-- A policy that only lets prepared clicks through. -/
def preparedClicks : AuthorityEnvelope scenarioHost.codec where
  policyId := "host-policy"
  requirePreparationFor := [.click]
  valid := by decide +kernel

end Scenario

end Dingdongditch
