import Mathlib.Data.List.Basic
import Mathlib.Tactic.Common

/-!
# Thresholds over votes that are not all in

Items vote yes, no or not yet (`none`).  A completion decides every open vote; a
threshold is certain when every completion reaches it and out of reach when none
does.  Both are decided by two completions only: the one that turns every open
vote down (`atLeast`) and the one that grants every open vote (`atMost`).
-/

namespace Dingdongditch.Completions

variable {α : Type} {vote vote' : α → Option Bool} {items : List α} {σ : α → Bool}

/-- A way to decide every vote that respects the votes that are in. -/
def Completes (vote : α → Option Bool) (items : List α) (σ : α → Bool) : Prop :=
  ∀ a ∈ items, ∀ b, vote a = some b → σ a = b

/-- Open votes count as no. -/
def atLeast (vote : α → Option Bool) (a : α) : Bool := vote a == some true

/-- Open votes count as yes. -/
def atMost (vote : α → Option Bool) (a : α) : Bool := vote a != some false

theorem completes_atLeast (vote : α → Option Bool) (items : List α) :
    Completes vote items (atLeast vote) := by
  intro a _ b isIn
  unfold atLeast
  rw [isIn]
  cases b <;> rfl

theorem completes_atMost (vote : α → Option Bool) (items : List α) :
    Completes vote items (atMost vote) := by
  intro a _ b isIn
  unfold atMost
  rw [isIn]
  cases b <;> rfl

theorem Completes.atLeast_le (completes : Completes vote items σ) :
    items.countP (atLeast vote) ≤ items.countP σ := by
  apply List.countP_mono_left
  intro a mem yes
  exact completes a mem true (beq_iff_eq.mp yes)

theorem Completes.le_atMost (completes : Completes vote items σ) :
    items.countP σ ≤ items.countP (atMost vote) := by
  apply List.countP_mono_left
  intro a mem yes
  apply bne_iff_ne.mpr
  intro no
  have refused : σ a = false := completes a mem false no
  rw [refused] at yes
  cases yes

/-- A threshold is certain when the votes that are in reach it. -/
theorem forall_reaches_iff {threshold : Int} :
    (∀ σ, Completes vote items σ → threshold ≤ items.countP σ) ↔
      threshold ≤ items.countP (atLeast vote) := by
  constructor
  · intro certain
    exact certain _ (completes_atLeast vote items)
  · intro reached σ completes
    have := completes.atLeast_le
    omega

/-- A threshold is within reach when the open votes would do. -/
theorem exists_reaches_iff {threshold : Int} :
    (∃ σ, Completes vote items σ ∧ threshold ≤ items.countP σ) ↔
      threshold ≤ items.countP (atMost vote) := by
  constructor
  · rintro ⟨σ, completes, reached⟩
    have := completes.le_atMost
    omega
  · intro reached
    exact ⟨_, completes_atMost vote items, reached⟩

theorem countP_atMost (vote : α → Option Bool) (items : List α) :
    items.countP (atMost vote) =
      items.countP (atLeast vote) + items.countP (fun a => vote a == none) := by
  induction items with
  | nil => rfl
  | cons a items ih =>
      rw [List.countP_cons, List.countP_cons, List.countP_cons, ih]
      unfold atMost atLeast
      rcases vote a with _ | _ | _
      · simp
        omega
      · simp
      · simp
        omega

/-- Every item votes at most once. -/
theorem length_eq_countP (vote : α → Option Bool) (items : List α) :
    items.length = items.countP (atMost vote) + items.countP (fun a => vote a == some false) := by
  rw [List.length_eq_countP_add_countP (p := atMost vote)]
  congr 1
  apply List.countP_congr
  intro a _
  simp [atMost]

/-- No vote that was yes is anything else later. -/
theorem atLeast_mono (kept : ∀ a ∈ items, vote a = some true → vote' a = some true) :
    items.countP (atLeast vote) ≤ items.countP (atLeast vote') := by
  apply List.countP_mono_left
  intro a mem yes
  exact beq_iff_eq.mpr (kept a mem (beq_iff_eq.mp yes))

end Dingdongditch.Completions
