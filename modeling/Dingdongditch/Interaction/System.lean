import Dingdongditch.Interaction.Stateful

/-!
# Components and their runs

A `Component` offers methods that share a state; each method is a program over
an uninterpreted environment.  A `Step` is one completed call of a method, and a
`Run` is a sequence of calls in which each starts from the state that the one
before left, so a run is one interleaving of the calls of all clients of a
component that serialises them.  `Run.holds_before` is the invariant rule: what
every admissible call keeps holds before each call of a run.
-/

namespace Dingdongditch.Interaction

variable {S T : Sig} {σ ε α β : Type}

/-- Methods over the interface `S` that share a state. -/
structure Component (S : Sig) (σ ε : Type) where
  Method : Type
  Reply : Method → Type
  body : (m : Method) → Act S σ ε (Reply m)

namespace Component

variable {C : Component S σ ε}

/-- One call of a method that ran to its end. -/
structure Step (C : Component S σ ε) where
  method : C.Method
  before : σ
  trace : Trace S
  outcome : Except ε (C.Reply method)
  after : σ
  run : Act.Runs (C.body method) before trace outcome after

/-- A run of the component: its calls, one after the other. -/
inductive Run (C : Component S σ ε) : σ → List C.Step → σ → Prop
  | nil (s : σ) : Run C s [] s
  | cons (step : C.Step) {steps : List C.Step} {s : σ} (rest : Run C step.after steps s) :
      Run C step.before (step :: steps) s

/-- The invariant rule: what every admissible call keeps holds before each call
of a run, and at its end. -/
theorem Run.holds_before {I : σ → Prop} {P : C.Step → Prop}
    (keeps : ∀ step : C.Step, P step → I step.before → I step.after)
    {s s' : σ} {steps : List C.Step} (run : Run C s steps s') (start : I s)
    (admissible : ∀ step ∈ steps, P step) : (∀ step ∈ steps, I step.before) ∧ I s' := by
  induction run with
  | nil s => exact ⟨fun _ mem => (List.not_mem_nil mem).elim, start⟩
  | cons step rest ih =>
      have kept := keeps step (admissible step List.mem_cons_self) start
      obtain ⟨before, last⟩ := ih kept fun later mem =>
        admissible later (List.mem_cons_of_mem _ mem)
      refine ⟨?_, last⟩
      intro other mem
      rcases List.mem_cons.mp mem with rfl | mem
      · exact start
      · exact before other mem

/-- The history rule: what each call keeps of the calls so far and the state holds
before each call of a run, and at its end. -/
theorem Run.history {I : List C.Step → σ → Prop}
    (keeps : ∀ past (step : C.Step), I past step.before → I (past ++ [step]) step.after)
    {past : List C.Step} {s s' : σ} {steps : List C.Step} (run : Run C s steps s')
    (start : I past s) :
    (∀ earlier step later, steps = earlier ++ step :: later → I (past ++ earlier) step.before) ∧
    I (past ++ steps) s' := by
  induction run generalizing past with
  | nil s =>
      rw [List.append_nil]
      refine ⟨?_, start⟩
      intro earlier step later split
      simp at split
  | cons step rest ih =>
      obtain ⟨before, last⟩ := ih (keeps past step start)
      rw [List.append_assoc] at last
      refine ⟨?_, last⟩
      intro earlier other later split
      rcases earlier with _ | ⟨first, earlier⟩
      · obtain ⟨rfl, -⟩ := List.cons.inj split
        rw [List.append_nil]
        exact start
      · obtain ⟨rfl, tail⟩ := List.cons.inj split
        have holds := before earlier other later tail
        rwa [List.append_assoc] at holds

/-- A run in two parts. -/
theorem Run.split {s s' : σ} {first second : List C.Step} (run : Run C s (first ++ second) s') :
    ∃ s₁, Run C s first s₁ ∧ Run C s₁ second s' := by
  induction first generalizing s with
  | nil => exact ⟨s, .nil s, run⟩
  | cons step first ih =>
      cases run with
      | cons _ rest =>
          obtain ⟨s₁, before, after⟩ := ih rest
          exact ⟨s₁, .cons step before, after⟩

end Component

end Dingdongditch.Interaction
