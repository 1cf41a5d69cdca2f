import Dingdongditch.Interaction.Stateful

/-!
# Delegation

Where in a run of a program another program runs.

* `Before t front d`: the event `d` of the right part occurs in `t` after the
  events of `front`.
* `Prog.Residual p t q`: after the events of `t`, what is left of `p` is `q`.
* `Act.Passes m s early sub s₁`: a run of `m` from `s`, after the events of
  `early`, runs `sub` from the state `s₁`.  The state is determined by `m`, `s`
  and `early`.
* `Act.Delegates I J sub m`: every event of the right part of a run of `m` falls
  in a run of a member of the family `sub` that the run passes.
-/

namespace Dingdongditch.Interaction

variable {S T : Sig} {σ ε α β γ : Type}

/-! ## Traces without an event of the right part -/

/-- Every event of the trace is one of the left part. -/
def Silent (t : Trace (S.sum T)) : Prop := ∃ u : Trace S, t = u.map Event.left

theorem Silent.append {t u : Trace (S.sum T)} (first : Silent t) (second : Silent u) :
    Silent (t ++ u) := by
  obtain ⟨v, rfl⟩ := first
  obtain ⟨w, rfl⟩ := second
  exact ⟨v ++ w, (List.map_append ..).symm⟩

theorem silent_map_left (u : Trace S) : Silent (T := T) (u.map Event.left) := ⟨u, rfl⟩

theorem Silent.rights_eq {t : Trace (S.sum T)} (silent : Silent t) : rights t = [] := by
  obtain ⟨u, rfl⟩ := silent
  exact rights_map_left u

/-! ## What precedes an event -/

/-- The event `d` of the right part occurs in `t` after the events of `front`. -/
def Before (t front : Trace (S.sum T)) (d : Event T) : Prop :=
  ∃ rest, t = front ++ Event.right d :: rest

namespace Before

variable {t u front : Trace (S.sum T)} {d : Event T}

theorem not_map_left {u : Trace S} : ¬ Before (T := T) (u.map Event.left) front d := by
  rintro ⟨rest, eq⟩
  have mem : Event.right d ∈ (u.map Event.left : Trace (S.sum T)) := by
    rw [eq]
    exact List.mem_append_right _ List.mem_cons_self
  have none := mem_rights.mpr mem
  rw [rights_map_left] at none
  exact List.not_mem_nil none

theorem of_append (before : Before (t ++ u) front d) :
    Before t front d ∨ ∃ later, front = t ++ later ∧ Before u later d := by
  obtain ⟨rest, eq⟩ := before
  rcases List.append_eq_append_iff.mp eq with ⟨later, frontEq, uEq⟩ | ⟨later, tEq, eq⟩
  · exact .inr ⟨later, frontEq, rest, uEq⟩
  · cases later with
    | nil =>
        rw [List.append_nil] at tEq
        exact .inr ⟨[], by rw [List.append_nil, tEq], rest, eq.symm⟩
    | cons head later =>
        obtain ⟨rfl, -⟩ := List.cons.inj eq
        exact .inl ⟨later, tEq⟩

theorem mem (before : Before t front d) : Event.right d ∈ t := by
  obtain ⟨rest, rfl⟩ := before
  exact List.mem_append_right _ List.mem_cons_self

theorem mem_rights (before : Before t front d) : d ∈ rights t :=
  Interaction.mem_rights.mpr before.mem

end Before

/-! ## What is left of a program -/

namespace Prog

/-- After the events of `t`, what is left of `p` is `q`. -/
inductive Residual : Prog S α → Trace S → Prog S α → Prop
  | refl (p : Prog S α) : Residual p [] p
  | call {c : S.Call} {next : S.Answer c → Prog S α} {t : Trace S} {q : Prog S α}
      (answer : S.Answer c) (rest : Residual (next answer) t q) :
      Residual (.call c next) (⟨c, answer⟩ :: t) q

theorem bind_done (p : Prog S α) : p.bind .done = p := by
  induction p with
  | done a => rfl
  | diverge => rfl
  | call c next ih => exact congrArg (Prog.call c) (funext ih)

theorem bind_assoc (p : Prog S α) (f : α → Prog S β) (g : β → Prog S γ) :
    (p.bind f).bind g = p.bind fun a => (f a).bind g := by
  induction p with
  | done a => rfl
  | diverge => rfl
  | call c next ih => exact congrArg (Prog.call c) (funext ih)

namespace Residual

variable {p q : Prog S α} {t u : Trace S}

theorem trans {r : Prog S α} (first : Residual p t q) (second : Residual q u r) :
    Residual p (t ++ u) r := by
  induction first with
  | refl _ => exact second
  | call answer _ ih => exact .call answer (ih second)

theorem bind (residual : Residual p t q) (f : α → Prog S β) :
    Residual (p.bind f) t (q.bind f) := by
  induction residual with
  | refl _ => exact .refl _
  | call answer _ ih => exact .call answer ih

/-- What follows a rest that ends in `next`. -/
theorem bind_after {next : β → Prog S α} {q : Prog S β} (residual : Residual p t (q.bind next))
    (f : α → Prog S γ) : Residual (p.bind f) t (q.bind fun b => (next b).bind f) := by
  have extended := residual.bind f
  rwa [Prog.bind_assoc] at extended

theorem of_runs {a : α} (run : Runs p t a) (f : α → Prog S β) : Residual (p.bind f) t (f a) := by
  induction run with
  | done a => exact .refl _
  | call answer _ ih => exact .call answer ih

end Residual

end Prog

/-! ## What a run passes -/

namespace Act

/-- After the events of `early`, a run of `m` from `s` runs `sub` from `s₁`. -/
def Passes (m : Act S σ ε α) (s : σ) (early : Trace S) (sub : Act S σ ε β) (s₁ : σ) : Prop :=
  ∃ next : Except ε β × σ → Prog S (Except ε α × σ),
    Prog.Residual (m s) early ((sub s₁).bind next)

namespace Passes

variable {m : Act S σ ε α} {sub : Act S σ ε β} {s s₁ s₂ : σ} {early late : Trace S}

theorem refl (m : Act S σ ε α) (s : σ) : Passes m s [] m s := by
  refine ⟨.done, ?_⟩
  rw [Prog.bind_done]
  exact .refl _

theorem bind {f : α → Act S σ ε γ} (passes : Passes m s early sub s₁) :
    Passes (m >>= f) s early sub s₁ := by
  obtain ⟨next, residual⟩ := passes
  exact ⟨_, residual.bind_after _⟩

theorem bind_after {f : α → Act S σ ε γ} {a : α} (run : Runs m s early (.ok a) s₁)
    (passes : Passes (f a) s₁ late sub s₂) : Passes (m >>= f) s (early ++ late) sub s₂ := by
  obtain ⟨next, residual⟩ := passes
  exact ⟨next, (Prog.Residual.of_runs run _).trans residual⟩

theorem andFinally {cleanup : Act S σ ε Unit} (passes : Passes m s early sub s₁) :
    Passes (m.andFinally cleanup) s early sub s₁ := by
  obtain ⟨next, residual⟩ := passes
  exact ⟨_, residual.bind_after _⟩

end Passes

/-- The event `d` of the right part, after `front`, falls in a run of `sub` from
`s₁` that a run of `m` from `s` passes. -/
structure Inside (m : Act (S.sum T) σ ε α) (s : σ) (front : Trace (S.sum T)) (d : Event T)
    (sub : Act (S.sum T) σ ε β) (s₁ : σ) : Prop where
  part : ∃ early inner within r s₂, front = early ++ within ∧ Passes m s early sub s₁ ∧
    Runs sub s₁ inner r s₂ ∧ Before inner within d

namespace Inside

variable {m : Act (S.sum T) σ ε α} {sub : Act (S.sum T) σ ε β} {s s₁ s₂ : σ}
  {early front : Trace (S.sum T)} {d : Event T}

theorem bind {f : α → Act (S.sum T) σ ε γ} (inside : Inside m s front d sub s₁) :
    Inside (m >>= f) s front d sub s₁ := by
  obtain ⟨early, inner, within, r, s₂, eq, passes, run, before⟩ := inside.part
  exact ⟨early, inner, within, r, s₂, eq, passes.bind, run, before⟩

theorem bind_after {f : α → Act (S.sum T) σ ε γ} {a : α} (run : Runs m s early (.ok a) s₁)
    (inside : Inside (f a) s₁ front d sub s₂) : Inside (m >>= f) s (early ++ front) d sub s₂ := by
  obtain ⟨middle, inner, within, r, s₃, rfl, passes, inRun, before⟩ := inside.part
  exact ⟨early ++ middle, inner, within, r, s₃, (List.append_assoc _ _ _).symm,
    .bind_after run passes, inRun, before⟩

end Inside

/-- From a state that satisfies `I`, a run of `m` keeps `I`, and each event of
the right part falls in a run of some `sub i` that starts in a state with `J i`. -/
def Delegates {ι : Type} (I : σ → Prop) (J : ι → σ → Prop) (sub : ι → Act (S.sum T) σ ε β)
    (m : Act (S.sum T) σ ε α) : Prop :=
  ∀ s t r s', Runs m s t r s' → I s →
    I s' ∧ ∀ front d, Before t front d → ∃ i s₁, J i s₁ ∧ Inside m s front d (sub i) s₁

section Delegates

variable {ι : Type} {I : σ → Prop} {J : ι → σ → Prop} {sub : ι → Act (S.sum T) σ ε β}

theorem Delegates.bind {m : Act (S.sum T) σ ε α} {f : α → Act (S.sum T) σ ε γ}
    (first : Delegates I J sub m) (second : ∀ a, Delegates I J sub (f a)) :
    Delegates I J sub (m >>= f) := by
  intro s t r s' run holds
  rcases run.bind_inv with ⟨e, -, inner⟩ | ⟨early, a, s₁, late, rfl, inner, next⟩
  · obtain ⟨kept, inFirst⟩ := first s t _ s' inner holds
    refine ⟨kept, fun front d before => ?_⟩
    obtain ⟨i, s₂, allowed, inside⟩ := inFirst front d before
    exact ⟨i, s₂, allowed, inside.bind⟩
  · obtain ⟨kept, inFirst⟩ := first s early _ s₁ inner holds
    obtain ⟨last, inSecond⟩ := second a s₁ late r s' next kept
    refine ⟨last, fun front d before => ?_⟩
    rcases before.of_append with inEarly | ⟨within, rfl, inLate⟩
    · obtain ⟨i, s₂, allowed, inside⟩ := inFirst front d inEarly
      exact ⟨i, s₂, allowed, inside.bind⟩
    · obtain ⟨i, s₂, allowed, inside⟩ := inSecond within d inLate
      exact ⟨i, s₂, allowed, .bind_after inner inside⟩

/-- A part that only makes calls of the left part delegates nothing. -/
theorem Delegates.left {m : Act S σ ε α} (keeps : Keeps I m) :
    Delegates I J sub (m.left (T := T)) := by
  intro s t r s' run holds
  obtain ⟨u, rfl, inner⟩ := run.of_left
  exact ⟨keeps _ _ _ _ inner holds, fun front d before => (Before.not_map_left before).elim⟩

theorem Delegates.pure (a : α) : Delegates I J sub (Pure.pure a : Act (S.sum T) σ ε α) := by
  intro s t r s' run holds
  obtain ⟨rfl, -, rfl⟩ := runs_pure.mp run
  refine ⟨holds, ?_⟩
  rintro front d ⟨rest, eq⟩
  cases front <;> cases eq

/-- A member of the family delegates to itself. -/
theorem Delegates.self {i : ι} (keeps : Keeps I (sub i)) (starts : ∀ s, I s → J i s) :
    Delegates I J sub (sub i) := by
  intro s t r s' run holds
  refine ⟨keeps _ _ _ _ run holds, fun front d before => ⟨i, s, starts s holds, ?_⟩⟩
  exact ⟨[], t, front, r, s', rfl, .refl _ _, run, before⟩

end Delegates

end Act

end Dingdongditch.Interaction
