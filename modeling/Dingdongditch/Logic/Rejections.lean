import Mathlib.Data.List.Basic
import Mathlib.Tactic.Common

/-!
# A chain of rejecting checks

A chain of `if check: return rejection` statements reports the first check that
applies.  Whether anything is rejected does not depend on the order of the
checks (`firstRejection_perm`).
-/

namespace Dingdongditch.Rejections

variable {ρ : Type}

/-- A check that applies or not, and what it reports. -/
structure Check (ρ : Type) where
  applies : Bool
  report : ρ

/-- What the first check that applies reports. -/
def firstRejection : List (Check ρ) → Option ρ
  | [] => none
  | check :: checks => if check.applies then some check.report else firstRejection checks

theorem firstRejection_eq_none {checks : List (Check ρ)} :
    firstRejection checks = none ↔ ∀ check ∈ checks, check.applies = false := by
  induction checks with
  | nil => simp [firstRejection]
  | cons check checks ih =>
      rw [firstRejection, List.forall_mem_cons, ← ih]
      by_cases applies : check.applies = true
      · simp [applies]
      · simp [applies]

theorem mem_of_firstRejection {checks : List (Check ρ)} {report : ρ}
    (rejects : firstRejection checks = some report) : ∃ check ∈ checks, check.report = report := by
  induction checks with
  | nil => cases rejects
  | cons check checks ih =>
      rw [firstRejection] at rejects
      split at rejects
      · exact ⟨check, List.mem_cons_self, Option.some.inj rejects⟩
      · obtain ⟨other, mem, same⟩ := ih rejects
        exact ⟨other, List.mem_cons_of_mem _ mem, same⟩

theorem firstRejection_perm {checks checks' : List (Check ρ)} (same : checks.Perm checks') :
    firstRejection checks = none ↔ firstRejection checks' = none := by
  rw [firstRejection_eq_none, firstRejection_eq_none]
  constructor
  · intro passes check mem
    exact passes check (same.mem_iff.mpr mem)
  · intro passes check mem
    exact passes check (same.mem_iff.mp mem)

end Dingdongditch.Rejections
