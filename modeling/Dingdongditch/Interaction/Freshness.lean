import Dingdongditch.Interaction.System

/-!
# Names that a run draws

What later calls of a run find, in terms of what an earlier one left: a relation
that every call respects relates them (`Run.related`), and when no name is drawn
twice from the environment, a name that has left the state does not come back
(`Run.spent`).
-/

namespace Dingdongditch.Interaction.Component

variable {S : Sig} {σ ε ν : Type} {C : Component S σ ε}

/-- What every call respects relates the state after a call to all later ones. -/
theorem Run.related {R : σ → σ → Prop} (refl : ∀ s, R s s) (trans : ∀ x y z, R x y → R y z → R x z)
    (respects : ∀ step : C.Step, R step.before step.after) {s s' : σ} {steps : List C.Step}
    (run : Run C s steps s') :
    steps.Pairwise (fun earlier later => R earlier.after later.before) ∧
    ∀ step ∈ steps, R step.after s' := by
  induction run with
  | nil _ => exact ⟨.nil, fun _ mem => (List.not_mem_nil mem).elim⟩
  | @cons step later _ rest ih =>
      have onward := rest.holds_before (I := R step.after) (P := fun _ => True)
        (fun next _ before => trans _ _ _ before (respects next)) (refl _) fun _ _ => trivial
      obtain ⟨pairs, last⟩ := ih
      refine ⟨.cons onward.1 pairs, ?_⟩
      intro other mem
      rcases List.mem_cons.mp mem with rfl | mem
      · exact onward.2
      · exact last other mem

/-- Each name of the state was there before the call, or was drawn in it. -/
def Draws (names : σ → Set ν) (drawn : C.Step → List ν) (step : C.Step) : Prop :=
  ∀ x ∈ names step.after, x ∈ names step.before ∨ x ∈ drawn step

variable {names : σ → Set ν} {drawn : C.Step → List ν} {s s' : σ} {steps : List C.Step}

/-- A name that the state does not have and that is not drawn stays unknown. -/
theorem Run.unknown (draws : ∀ step : C.Step, Draws names drawn step) (run : Run C s steps s')
    {x : ν} (unknown : x ∉ names s) (undrawn : x ∉ steps.flatMap drawn) :
    (∀ step ∈ steps, x ∉ names step.before) ∧ x ∉ names s' := by
  refine run.holds_before (I := fun s => x ∉ names s) (P := fun step => x ∉ drawn step) ?_ unknown ?_
  · intro step undrawn unknown known
    rcases draws step x known with before | fresh
    · exact unknown before
    · exact undrawn fresh
  · intro step mem fresh
    exact undrawn (List.mem_flatMap.mpr ⟨step, mem, fresh⟩)

/-- What the state knows after a call is not drawn later. -/
theorem Draws.old_after {step : C.Step} {later : List ν} (draws : Draws names drawn step)
    (old : ∀ x ∈ names step.before, x ∉ drawn step ++ later)
    (apart : ∀ x ∈ drawn step, ∀ y ∈ later, x ≠ y) : ∀ x ∈ names step.after, x ∉ later := by
  intro x known again
  rcases draws x known with before | drawnHere
  · exact old x before (List.mem_append_right _ again)
  · exact apart x drawnHere x again rfl

/-- What the state knows is not drawn. -/
theorem Run.undrawn (draws : ∀ step : C.Step, Draws names drawn step) (run : Run C s steps s')
    (old : ∀ x ∈ names s, x ∉ steps.flatMap drawn) (fresh : (steps.flatMap drawn).Nodup) :
    ∀ step ∈ steps, ∀ x ∈ names step.before, x ∉ drawn step := by
  induction run with
  | nil _ => exact fun _ mem => (List.not_mem_nil mem).elim
  | @cons step later _ rest ih =>
      rw [List.flatMap_cons] at old fresh
      obtain ⟨-, freshLater, apart⟩ := List.nodup_append.mp fresh
      intro other mem x known
      rcases List.mem_cons.mp mem with rfl | mem
      · exact fun again => old x known (List.mem_append_left _ again)
      · exact ih ((draws step).old_after old apart) freshLater other mem x known

/-- A name that a call takes out of the state never returns. -/
theorem Run.spent (draws : ∀ step : C.Step, Draws names drawn step) (run : Run C s steps s')
    (old : ∀ x ∈ names s, x ∉ steps.flatMap drawn) (fresh : (steps.flatMap drawn).Nodup) :
    steps.Pairwise (fun earlier later => ∀ x ∈ names earlier.before,
      x ∉ names earlier.after → x ∉ names later.before) ∧
    ∀ step ∈ steps, ∀ x ∈ names step.before, x ∉ names step.after → x ∉ names s' := by
  induction run with
  | nil _ => exact ⟨.nil, fun _ mem => (List.not_mem_nil mem).elim⟩
  | @cons step later _ rest ih =>
      rw [List.flatMap_cons] at old fresh
      obtain ⟨-, freshLater, apart⟩ := List.nodup_append.mp fresh
      have gone : ∀ x ∈ names step.before, x ∉ names step.after →
          (∀ other ∈ later, x ∉ names other.before) ∧ x ∉ names _ := fun x known left =>
        rest.unknown draws left fun again => old x known (List.mem_append_right _ again)
      obtain ⟨pairs, last⟩ := ih ((draws step).old_after old apart) freshLater
      refine ⟨.cons (fun other mem x known left => (gone x known left).1 other mem) pairs, ?_⟩
      intro other mem x known left
      rcases List.mem_cons.mp mem with rfl | mem
      · exact (gone x known left).2
      · exact last other mem x known left

end Dingdongditch.Interaction.Component
