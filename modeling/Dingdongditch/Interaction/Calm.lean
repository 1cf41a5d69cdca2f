import Dingdongditch.Interaction.Stateful

/-!
# Statements that change nothing

A statement is calm for a kind of event when it leaves the state as it is and its trace
has no such event.  What follows a calm statement runs from the same state, and the run
has an event of that kind exactly when the rest has one (`Calm.bind_inv`).
-/

namespace Dingdongditch.Interaction

variable {S : Sig} {σ ε α β : Type} {bad : Event S → Prop}

/-- An event of the kind `bad` happens. -/
def Happens (bad : Event S → Prop) (t : Trace S) : Prop := ∃ event ∈ t, bad event

theorem not_happens_nil : ¬ Happens bad [] := by simp [Happens]

theorem happens_append {t u : Trace S} : Happens bad (t ++ u) ↔ Happens bad t ∨ Happens bad u := by
  unfold Happens
  constructor
  · intro ⟨event, member, holds⟩
    rcases List.mem_append.mp member with member | member
    · exact .inl ⟨event, member, holds⟩
    · exact .inr ⟨event, member, holds⟩
  · intro either
    rcases either with ⟨event, member, holds⟩ | ⟨event, member, holds⟩
    · exact ⟨event, List.mem_append_left u member, holds⟩
    · exact ⟨event, List.mem_append_right t member, holds⟩

theorem happens_cons {event : Event S} {t : Trace S} :
    Happens bad (event :: t) ↔ bad event ∨ Happens bad t := by simp [Happens]

namespace Act

/-- `m` leaves the state as it is, and no event of the kind `bad` happens in it. -/
def Calm (bad : Event S → Prop) (m : Act S σ ε α) : Prop :=
  ∀ s t r s', Runs m s t r s' → s' = s ∧ ¬ Happens bad t

variable {m : Act S σ ε α} {f : α → Act S σ ε β}

theorem calm_pure (a : α) : Calm bad (Pure.pure a : Act S σ ε α) := by
  intro s t r s' run
  obtain ⟨rfl, -, rfl⟩ := runs_pure.mp run
  exact ⟨rfl, not_happens_nil⟩

theorem calm_throw (e : ε) : Calm bad (throw e : Act S σ ε α) := by
  intro s t r s' run
  obtain ⟨rfl, -, rfl⟩ := runs_throw.mp run
  exact ⟨rfl, not_happens_nil⟩

theorem calm_get : Calm bad (get : Act S σ ε σ) := by
  intro s t r s' run
  obtain ⟨rfl, -, rfl⟩ := runs_get.mp run
  exact ⟨rfl, not_happens_nil⟩

theorem calm_ofExcept (x : Except ε α) : Calm bad (ofExcept x : Act S σ ε α) := by
  intro s t r s' run
  obtain ⟨rfl, -, rfl⟩ := runs_ofExcept.mp run
  exact ⟨rfl, not_happens_nil⟩

theorem calm_attempt {c : S.Call} (harmless : ∀ answer, ¬ bad ⟨c, answer⟩)
    (view : S.Answer c → Except ε α) : Calm bad (attempt c view : Act S σ ε α) := by
  intro s t r s' run
  obtain ⟨answer, rfl, -, rfl⟩ := runs_attempt.mp run
  refine ⟨rfl, ?_⟩
  rw [happens_cons]
  intro happens
  rcases happens with happens | happens
  · exact harmless answer happens
  · exact not_happens_nil happens

theorem calm_ask {c : S.Call} (harmless : ∀ answer, ¬ bad ⟨c, answer⟩) :
    Calm bad (ask c : Act S σ ε (S.Answer c)) :=
  calm_attempt harmless .ok

/-- What follows a calm statement runs from the same state. -/
theorem Calm.bind_inv (calm : Calm bad m) {s s' : σ} {t : Trace S} {r : Except ε β}
    (run : Runs (m >>= f) s t r s') :
    (∃ e, r = .error e ∧ s' = s ∧ ¬ Happens bad t) ∨
      ∃ a first rest, Runs m s first (.ok a) s ∧ Runs (f a) s rest r s' ∧
        (Happens bad t ↔ Happens bad rest) := by
  rcases run.bind_inv with ⟨e, isError, raised⟩ | ⟨first, a, s₁, rest, rfl, returned, next⟩
  · obtain ⟨same, none⟩ := calm _ _ _ _ raised
    exact .inl ⟨e, isError, same, none⟩
  · obtain ⟨rfl, none⟩ := calm _ _ _ _ returned
    refine .inr ⟨a, first, rest, returned, next, ?_⟩
    rw [happens_append]
    constructor
    · intro either
      exact either.resolve_left none
    · intro later
      exact .inr later

theorem Calm.bind_ok_inv (calm : Calm bad m) {s s' : σ} {t : Trace S} {b : β}
    (run : Runs (m >>= f) s t (.ok b) s') :
    ∃ a first rest, Runs m s first (.ok a) s ∧ Runs (f a) s rest (.ok b) s' := by
  rcases calm.bind_inv run with ⟨e, raised, -⟩ | ⟨a, first, rest, returned, next, -⟩
  · cases raised
  · exact ⟨a, first, rest, returned, next⟩

theorem Calm.bind (first : Calm bad m) (second : ∀ a, Calm bad (f a)) : Calm bad (m >>= f) := by
  intro s t r s' run
  rcases first.bind_inv run with ⟨-, -, same, none⟩ | ⟨a, -, rest, -, next, happens⟩
  · exact ⟨same, none⟩
  · obtain ⟨same, none⟩ := second a _ _ _ _ next
    rw [← happens] at none
    exact ⟨same, none⟩

theorem Calm.mapError {ε' : Type} {g : ε → ε'} (calm : Calm bad m) : Calm bad (m.mapError g) := by
  intro s t r s' run
  obtain ⟨inner, run, -⟩ := runs_mapError.mp run
  exact calm _ _ _ _ run

theorem Calm.tryCatch {handler : ε → Act S σ ε α} (calm : Calm bad m)
    (caught : ∀ e, Calm bad (handler e)) : Calm bad (tryCatch m handler) := by
  intro s t r s' run
  rcases runs_tryCatch.mp run with ⟨a, -, run⟩ | ⟨first, e, s₁, second, rfl, raised, handled⟩
  · exact calm _ _ _ _ run
  · obtain ⟨rfl, before⟩ := calm _ _ _ _ raised
    obtain ⟨same, after⟩ := caught e _ _ _ _ handled
    refine ⟨same, ?_⟩
    rw [happens_append]
    intro either
    rcases either with happens | happens
    · exact before happens
    · exact after happens

theorem calm_forM {γ : Type} {xs : List γ} {g : γ → Act S σ ε PUnit} (each : ∀ x, Calm bad (g x)) :
    Calm bad (xs.forM g) := by
  induction xs with
  | nil => exact calm_pure _
  | cons x xs ih => exact (each x).bind fun _ => ih

theorem calm_filterM {γ : Type} {xs : List γ} {g : γ → Act S σ ε Bool} (each : ∀ x, Calm bad (g x)) :
    Calm bad (xs.filterM g) := by
  have loop (acc : List γ) : Calm bad (xs.filterAuxM g acc) := by
    induction xs generalizing acc with
    | nil => exact calm_pure _
    | cons x xs ih => exact (each x).bind fun keep => ih _
  exact (loop []).bind fun _ => calm_pure _

end Act

end Dingdongditch.Interaction
