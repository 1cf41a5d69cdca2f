import Dingdongditch.Runtime.GovernedDispatch

/-!
# What a preparation token executes

A commit whose checks pass is one `execute_operation` of the prepared operation among
events that only observe (`Executes`); every other dispatch of the session comes from an
execution with no token active, or from a plan.  So a token leads to one execution of
its operation at most, in one call of the run (`executed_at_most_once`).
-/

namespace Dingdongditch

open Interaction Text

variable {host : SessionHost}

/-- Where the dispatch `d` of a call comes from, by the token that is active. -/
inductive UnderToken (step : SessionStep host) (front : Trace RuntimeSig) (d : Event EffectSig) : Prop
  | plan {plan : ExecutionPlan host.codec} {caller : Caller}
      (method : step.method = .executePlan plan caller) : UnderToken step front d
  | free {request : ExecuteRequest} {s : SessionRecord host.codec}
      (inside : Act.Inside (SessionCall.body step.method) step.before front d (executeRequest request) s)
      (none : s.activeCommitToken = none) : UnderToken step front d
  | committed {request : ExecuteRequest} {s : SessionRecord host.codec} {token : String}
      (inside : Act.Inside (SessionCall.body step.method) step.before front d (executeRequest request) s)
      (active : s.activeCommitToken = some token)
      (executes : Executes step token request.operation) : UnderToken step front d

theorem step_underToken {step : SessionStep host} (idle : step.before.Idle)
    {front : Trace RuntimeSig} {d : Event EffectSig} (before : Before step.trace front d) :
    UnderToken step front d := by
  cases step_gated idle before with
  | planned method _ _ => exact .plan method
  | executed gated =>
      obtain ⟨_, _, _, s, -, -, inside, -, -, none | ⟨token, active, executes⟩⟩ := gated.passed
      · exact .free inside none
      · exact .committed inside active executes

/-- Over any run of a session in which drawn tokens are fresh, preparations only move
from `PREPARED` to `COMMITTED` or `INVALIDATED`; what a token executes is the operation
that was prepared under it, in a commit that executes it once, and no two calls execute
the same token; a commit that executes nothing, such as one that returns
`committed = False`, dispatches nothing and appends no receipt; and every dispatch under
a token is one of the execution of its commit. -/
theorem executed_at_most_once {s s' : SessionRecord host.codec} {steps : List (SessionStep host)}
    (idle : s.Idle) (run : SessionRun host s steps s') (fresh : ∀ step ∈ steps, FreshTokens step) :
    Progress s s' ∧
    (∀ token p, s.preparations.lookup token = some p →
      ∀ step ∈ steps, ∀ op, Executes step token op → op = p.operation) ∧
    (steps.Pairwise fun first second =>
      ∀ token op op', Executes first token op → ¬ Executes second token op') ∧
    (∀ step ∈ steps, ∀ request, step.method = .commitOperation request →
      (∃ op, Executes step request.token op) ∨
        rights step.trace = [] ∧ step.after.receiptChain = step.before.receiptChain) ∧
    (∀ step ∈ steps, ∀ front d, Before step.trace front d → UnderToken step front d) ∧
    ∀ request before t result after,
      Act.Runs (commitOperation request : Session host CommitResult) before t (.ok result) after →
      result.committed = false → rights t = [] ∧ after.receiptChain = before.receiptChain := by
  refine ⟨run_progress run fresh, ?_, executes_once run fresh, ?_, ?_, ?_⟩
  · intro token p found step mem op executes
    exact executes_prepared run fresh found mem executes
  · intro step _ request method
    exact commit_step_cases method
  · intro step mem front d before
    obtain ⟨between, -⟩ := run.holds_before (P := fun _ => True) (fun step _ => step_idle step) idle
      fun _ _ => trivial
    exact step_underToken (between step mem) before
  · intro request before t result after committing refused
    exact refused_commit committing refused

/-! ## A click that is prepared and committed twice -/

namespace Scenario

/-- Prepare a click, commit it, and commit it again. -/
def commitTwice : List (SessionCall scenarioHost) := [
  .prepareOperation (click "a") 30000 {},
  .commitOperation { token := "token-2" },
  .commitOperation { token := "token-2" }]

/-- What the run of `commitTwice` shows: fresh tokens, and one dispatch. -/
def showsOneDispatch (steps : List (SessionStep scenarioHost))
    (_ : SessionRecord scenarioHost.codec) : Bool :=
  (steps.all fun step => (drawnTokens step.trace).all fun token =>
    (step.before.preparations.lookup token).isNone) &&
  steps.map (fun step => (rights step.trace).length) == [0, 1, 0]

end Scenario

open Scenario in
theorem executed_at_most_once_click : ∃ steps s', SessionRun scenarioHost
      { opened with authorityEnvelope := some preparedClicks } steps s' ∧
    steps.map (·.method) = commitTwice ∧
    steps.map (fun step => (rights step.trace).length) = [0, 1, 0] ∧
    (steps.Pairwise fun first second =>
      ∀ token op op', Executes first token op → ¬ Executes second token op') ∧
    ∀ step ∈ steps, ∀ front d, Before step.trace front d → UnderToken step front d := by
  obtain ⟨steps, s', run, methods, shown⟩ := Component.exists_run (C := sessionComponent scenarioHost)
    script commitTwice { opened with authorityEnvelope := some preparedClicks } {} showsOneDispatch
    (by decide +kernel)
  obtain ⟨unused, dispatches⟩ := Bool.and_eq_true_iff.mp shown
  have fresh : ∀ step ∈ steps, FreshTokens step := by
    intro step mem token drawn
    have isNone := List.all_eq_true.mp (List.all_eq_true.mp unused step mem) token drawn
    exact Option.isNone_iff_eq_none.mp isNone
  obtain ⟨-, -, once, -, under, -⟩ := executed_at_most_once (s := { opened with
    authorityEnvelope := some preparedClicks }) rfl run fresh
  exact ⟨steps, s', run, methods, eq_of_beq dispatches, once, under⟩

end Dingdongditch
