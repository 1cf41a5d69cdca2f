import Dingdongditch.Contract.Receipt
import Dingdongditch.Logic.Completions

/-!
# What a quorum verdict says

`evaluateQuorum` counts passed and failed checks.  Its verdict is that of every
way the open checks could still turn out: VERIFIED when each of them meets the
quorum, NOT_VERIFIED when none does (`evaluateQuorum_supervaluation`).  A check
counts as passed only on a single fresh result of a kind its evidence source
reports.
-/

namespace Dingdongditch

open Completions Text

variable {quorum : VerificationQuorum} {results results' : List ExpectationResult}

/-- A result as the vote of its check. -/
def ResultValue.vote : ResultValue → Option Bool
  | .pass => some true
  | .fail => some false
  | .indeterminate => none

/-- How far a result is from failing. -/
def ResultValue.rank : ResultValue → Nat
  | .fail => 0
  | .indeterminate => 1
  | .pass => 2

/-- The vote that a list of expectation results gives a check. -/
def quorumVote (results : List ExpectationResult) (check : VerificationCheck) : Option Bool :=
  (quorumRow results check).result.vote

namespace VerificationQuorum

/-- The declared quorum is reached by the checks that `σ` lets pass. -/
def Meets (quorum : VerificationQuorum) (σ : VerificationCheck → Bool) : Prop :=
  match quorum.policy with
  | .all => ∀ check ∈ quorum.checks, σ check = true
  | .nOfM => ∀ n, quorum.required = some n → n ≤ quorum.checks.countP σ

theorem required_isSome (valid : quorum.validate none = .ok ())
    (threshold : quorum.policy = .nOfM) : ∃ n, quorum.required = some n := by
  unfold validate at valid
  obtain ⟨-, valid⟩ := rejectIf_bind_ok.mp valid
  obtain ⟨-, valid⟩ := rejectIf_bind_ok.mp valid
  obtain ⟨-, valid⟩ := rejectIf_bind_ok.mp valid
  obtain ⟨-, valid⟩ := rejectIf_bind_ok.mp valid
  obtain ⟨-, valid⟩ := rejectIf_bind_ok.mp valid
  obtain ⟨_, -, valid⟩ := bind_eq_ok.mp valid
  rw [threshold] at valid
  have declared := rejectIf_eq_ok.mp valid
  rcases given : quorum.required with _ | n
  · rw [given] at declared
    cases declared
  · exact ⟨n, rfl⟩

/-- Meeting a valid quorum is reaching its count. -/
theorem meets_iff (valid : quorum.validate none = .ok ()) (σ : VerificationCheck → Bool) :
    quorum.Meets σ ↔ quorum.requiredCount ≤ quorum.checks.countP σ := by
  unfold Meets requiredCount
  cases policy : quorum.policy with
  | all =>
      dsimp only
      have le := List.countP_le_length (p := σ) (l := quorum.checks)
      have full := List.countP_eq_length (p := σ) (l := quorum.checks)
      constructor
      · intro every
        have := full.mpr every
        omega
      · intro reached
        exact full.mp (by omega)
  | nOfM =>
      obtain ⟨n, declared⟩ := required_isSome valid policy
      rw [declared]
      simp

end VerificationQuorum

/-! ## The counts of the code -/

theorem ResultValue.vote_inj {r r' : ResultValue} (same : r.vote = r'.vote) : r = r' := by
  cases r <;> cases r' <;> first | rfl | cases same

/-- The rows with a result are the checks with its vote. -/
theorem countP_rows (results : List ExpectationResult) (checks : List VerificationCheck)
    (value : ResultValue) :
    (checks.map (quorumRow results)).countP (·.result = value) =
      checks.countP (fun check => quorumVote results check == value.vote) := by
  rw [List.countP_map]
  apply List.countP_congr
  intro check _
  unfold quorumVote
  constructor
  · intro isValue
    rw [of_decide_eq_true isValue, beq_self_eq_true]
  · intro sameVote
    exact decide_eq_true (ResultValue.vote_inj (beq_iff_eq.mp sameVote))

/-- The verdict of `evaluate_quorum` in terms of the votes that are in. -/
def quorumVerdict (quorum : VerificationQuorum) (results : List ExpectationResult) : Verdict :=
  if quorum.requiredCount ≤ quorum.checks.countP (atLeast (quorumVote results)) then .verified
  else if quorum.checks.countP (atMost (quorumVote results)) < quorum.requiredCount then .notVerified
  else .indeterminate

/-- A failed check leaves an ALL quorum out of reach, and only that does. -/
theorem all_out_of_reach (policy : quorum.policy = .all) :
    quorum.checks.countP (atMost (quorumVote results)) < quorum.requiredCount ↔
      0 < quorum.checks.countP (fun check => quorumVote results check == some false) := by
  have split := length_eq_countP (quorumVote results) quorum.checks
  unfold VerificationQuorum.requiredCount
  rw [policy]
  dsimp only
  omega

theorem evaluateQuorum_ok (valid : quorum.validate none = .ok ())
    (results : List ExpectationResult) :
    ∃ r, evaluateQuorum quorum results = .ok r ∧ r.verdict = quorumVerdict quorum results ∧
      r.checks = quorum.checks.map (quorumRow results) := by
  have open_ := countP_atMost (quorumVote results) quorum.checks
  unfold evaluateQuorum quorumVerdict
  rw [valid]
  dsimp only [bind, Except.bind]
  have passed := countP_rows results quorum.checks .pass
  have failed := countP_rows results quorum.checks .fail
  have undecided := countP_rows results quorum.checks .indeterminate
  dsimp only [ResultValue.vote] at passed failed undecided
  rw [passed, failed, undecided]
  change ∃ r, (if quorum.requiredCount ≤ quorum.checks.countP (atLeast (quorumVote results)) then _
    else _) = Except.ok r ∧ _
  by_cases reached : quorum.requiredCount ≤ quorum.checks.countP (atLeast (quorumVote results))
  · rw [if_pos reached, if_pos reached]
    exact ⟨_, rfl, rfl, rfl⟩
  rw [if_neg reached, if_neg reached]
  cases policy : quorum.policy with
  | all =>
      rw [if_congr (all_out_of_reach policy) rfl rfl]
      by_cases anyFailed :
          0 < quorum.checks.countP (fun check => quorumVote results check == some false)
      · rw [if_pos ⟨rfl, anyFailed⟩, if_pos anyFailed]
        exact ⟨_, rfl, rfl, rfl⟩
      · rw [if_neg (fun both => anyFailed both.2), if_neg (fun both => by cases both.1),
          if_neg anyFailed]
        exact ⟨_, rfl, rfl, rfl⟩
  | nOfM =>
      rw [if_neg (fun both => by cases both.1)]
      by_cases short :
          (quorum.checks.countP (atMost (quorumVote results)) : Int) < quorum.requiredCount
      · rw [if_pos short, if_pos ⟨rfl, by unfold atLeast at *; omega⟩]
        exact ⟨_, rfl, rfl, rfl⟩
      · rw [if_neg short, if_neg (fun both => short (by unfold atLeast at *; omega))]
        exact ⟨_, rfl, rfl, rfl⟩

/-! ## What the verdict says -/

theorem quorumVerdict_verified :
    quorumVerdict quorum results = .verified ↔
      quorum.requiredCount ≤ quorum.checks.countP (atLeast (quorumVote results)) := by
  unfold quorumVerdict
  split
  · simp [*]
  · split <;> simp [*]

theorem quorumVerdict_notVerified :
    quorumVerdict quorum results = .notVerified ↔
      quorum.checks.countP (atMost (quorumVote results)) < quorum.requiredCount := by
  have le := (completes_atLeast (quorumVote results) quorum.checks).le_atMost
  unfold quorumVerdict
  split
  · simp only [reduceCtorEq, false_iff]
    omega
  · split <;> simp [*]

theorem quorumVerdict_indeterminate :
    quorumVerdict quorum results = .indeterminate ↔
      quorumVerdict quorum results ≠ .verified ∧ quorumVerdict quorum results ≠ .notVerified := by
  unfold quorumVerdict
  split
  · simp
  · split <;> simp

/-- A check passes on one result only: the single result reported under its
expectation, fresh, and of a kind that its evidence source reports. -/
theorem quorumRow_pass {check : VerificationCheck}
    (passed : (quorumRow results check).result = .pass) :
    ∃ item, results.filter (·.expectationId = check.expectationId) = [item] ∧
      item.result = .pass ∧ item.freshnessOk = some true ∧
      ∃ types, check.evidenceSource.expectationTypes = some types ∧
        item.expectationType ∈ types := by
  unfold quorumRow at passed
  dsimp only at passed
  split at passed
  · next bound =>
      obtain ⟨item, found, valid⟩ := (Option.any_eq_true _ _).mp bound
      rw [found] at passed
      rw [Bool.and_eq_true, beq_iff_eq] at valid
      refine ⟨item, ?_, passed, valid.2, ?_⟩
      · unfold quorumItem at found
        split at found
        · next single =>
            cases found
            exact single
        · cases found
      · rcases supported : check.evidenceSource.expectationTypes with _ | types
        · rw [supported] at valid
          cases valid.1
        · rw [supported] at valid
          exact ⟨types, rfl, List.contains_iff_mem.mp valid.1⟩
  · cases passed

theorem vote_of_rank {r r' : ResultValue} (le : r.rank ≤ r'.rank) (yes : r.vote = some true) :
    r'.vote = some true := by
  have isPass : r = .pass := ResultValue.vote_inj yes
  subst isPass
  cases r' with
  | pass => rfl
  | fail => cases Nat.not_succ_le_zero _ le
  | indeterminate => cases Nat.not_succ_le_zero _ (Nat.le_of_succ_le_succ le)

/-- Raising results of checks keeps a quorum verified. -/
theorem quorumVerdict_mono
    (raised : ∀ check ∈ quorum.checks,
      (quorumRow results check).result.rank ≤ (quorumRow results' check).result.rank)
    (verified : quorumVerdict quorum results = .verified) :
    quorumVerdict quorum results' = .verified := by
  have reached := quorumVerdict_verified.mp verified
  have le : quorum.checks.countP (atLeast (quorumVote results)) ≤
      quorum.checks.countP (atLeast (quorumVote results')) := by
    apply atLeast_mono
    intro check mem yes
    exact vote_of_rank (raised check mem) yes
  apply quorumVerdict_verified.mpr
  omega

/-- The verdict of a valid quorum is the verdict of every way to complete its
open checks; only a single fresh result bound to its check counts as a pass, and
raising a result never takes a verification back. -/
theorem evaluateQuorum_supervaluation (quorum : VerificationQuorum)
    (valid : quorum.validate none = .ok ()) (results : List ExpectationResult) :
    ∃ r, evaluateQuorum quorum results = .ok r ∧
      (r.verdict = .verified ↔
        ∀ σ, Completes (quorumVote results) quorum.checks σ → quorum.Meets σ) ∧
      (r.verdict = .notVerified ↔
        ∀ σ, Completes (quorumVote results) quorum.checks σ → ¬quorum.Meets σ) ∧
      (r.verdict = .indeterminate ↔
        (∃ σ, Completes (quorumVote results) quorum.checks σ ∧ quorum.Meets σ) ∧
        ∃ σ, Completes (quorumVote results) quorum.checks σ ∧ ¬quorum.Meets σ) ∧
      (∀ check ∈ quorum.checks, quorumVote results check = some true →
        ∃ item, results.filter (·.expectationId = check.expectationId) = [item] ∧
          item.result = .pass ∧ item.freshnessOk = some true ∧
          ∃ types, check.evidenceSource.expectationTypes = some types ∧
            item.expectationType ∈ types) ∧
      ∀ results' : List ExpectationResult,
        (∀ check ∈ quorum.checks,
          (quorumRow results check).result.rank ≤ (quorumRow results' check).result.rank) →
        ∀ r', evaluateQuorum quorum results' = .ok r' →
          r.verdict = .verified → r'.verdict = .verified := by
  obtain ⟨r, returned, verdict, -⟩ := evaluateQuorum_ok valid results
  have verified : r.verdict = .verified ↔
      ∀ σ, Completes (quorumVote results) quorum.checks σ → quorum.Meets σ := by
    rw [verdict, quorumVerdict_verified, ← forall_reaches_iff]
    simp only [VerificationQuorum.meets_iff valid]
  have notVerified : r.verdict = .notVerified ↔
      ∀ σ, Completes (quorumVote results) quorum.checks σ → ¬quorum.Meets σ := by
    have reach := @exists_reaches_iff _ (quorumVote results) quorum.checks quorum.requiredCount
    rw [verdict, quorumVerdict_notVerified, ← Int.not_le, ← reach, not_exists]
    simp only [VerificationQuorum.meets_iff valid, not_and]
  refine ⟨r, returned, verified, notVerified, ?_, ?_, ?_⟩
  · rw [verdict, quorumVerdict_indeterminate, ← verdict, ne_eq, ne_eq, verified, notVerified]
    push Not
    exact And.comm
  · intro check _ passed
    exact quorumRow_pass (ResultValue.vote_inj passed)
  · intro results' raised r' returned' isVerified
    obtain ⟨other, isOther, verdict', -⟩ := evaluateQuorum_ok valid results'
    obtain rfl : other = r' := Except.ok.inj (isOther.symm.trans returned')
    rw [verdict] at isVerified
    rw [verdict']
    exact quorumVerdict_mono raised isVerified

/-- Two of three checks. -/
def twoOfThree : VerificationQuorum where
  policy := .nOfM
  checks := [⟨"page", "url", .pageState⟩, ⟨"dom", "text", .domState⟩,
    ⟨"traffic", "request", .network⟩]
  required := some 2

/-- The third result has no fresh evidence. -/
def twoResults : List ExpectationResult :=
  [⟨"url", .url, .pass, [], none, some true⟩, ⟨"text", .text, .pass, [], none, some true⟩,
    ⟨"request", .network, .pass, [], none, none⟩]

theorem twoOfThree_verified :
    ∃ r, evaluateQuorum twoOfThree twoResults = .ok r ∧
      ∀ σ, Completes (quorumVote twoResults) twoOfThree.checks σ → twoOfThree.Meets σ := by
  have valid : twoOfThree.validate none = .ok () := by decide +kernel
  have counted : (evaluateQuorum twoOfThree twoResults).map (·.verdict) = .ok .verified := by
    decide +kernel
  obtain ⟨r, returned, verified, -⟩ := evaluateQuorum_supervaluation twoOfThree valid twoResults
  rw [returned] at counted
  exact ⟨r, returned, verified.mp (Except.ok.inj counted)⟩

end Dingdongditch
