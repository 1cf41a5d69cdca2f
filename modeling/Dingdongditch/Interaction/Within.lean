import Mathlib.Order.Defs.Unbundled
import Dingdongditch.Interaction.Calm

/-!
# Statements that stay within a relation

A calm statement leaves the state as it is.  A statement is within a relation `R` when it
takes a state to one that `R` relates to it, with no event of a given kind: so are the
statements during which an environment may change only some parts of the state.  A preorder
makes the statements within it compose.
-/

namespace Dingdongditch.Interaction.Act

variable {S : Sig} {σ ε α β : Type} {R : σ → σ → Prop} {bad : Event S → Prop}

/-- `m` stays within `R`, and no event of the kind `bad` happens in it. -/
def Within (R : σ → σ → Prop) (bad : Event S → Prop) (m : Act S σ ε α) : Prop :=
  ∀ s t r s', Runs m s t r s' → R s s' ∧ ¬ Happens bad t

variable {m : Act S σ ε α} {f : α → Act S σ ε β}

theorem within_modifyGet {g : σ → α × σ} (step : ∀ s, R s (g s).2) :
    Within R bad (modifyGet g : Act S σ ε α) := by
  intro s t r s' run
  obtain ⟨rfl, -, rfl⟩ := runs_modifyGet.mp run
  exact ⟨step s, not_happens_nil⟩

theorem within_modify {g : σ → σ} (step : ∀ s, R s (g s)) :
    Within R bad (modify g : Act S σ ε PUnit) :=
  within_modifyGet (g := fun s => ((), g s)) step

section Refl

variable [Std.Refl R]

theorem Calm.within (calm : Calm bad m) : Within R bad m := by
  intro s t r s' run
  obtain ⟨rfl, none⟩ := calm s t r s' run
  exact ⟨refl s', none⟩

theorem within_pure (a : α) : Within R bad (Pure.pure a : Act S σ ε α) :=
  (calm_pure a).within

theorem within_throw (e : ε) : Within R bad (throw e : Act S σ ε α) :=
  (calm_throw e).within

theorem within_get : Within R bad (get : Act S σ ε σ) := calm_get.within

theorem within_ofExcept (x : Except ε α) : Within R bad (ofExcept x : Act S σ ε α) :=
  (calm_ofExcept x).within

theorem within_ask {c : S.Call} (harmless : ∀ answer, ¬ bad ⟨c, answer⟩) :
    Within R bad (ask c : Act S σ ε (S.Answer c)) :=
  (calm_ask harmless).within

end Refl

/-- What follows a statement within a relation starts from a related state. -/
theorem Within.bind_inv (first : Within R bad m) {s s' : σ} {t : Trace S} {r : Except ε β}
    (run : Runs (m >>= f) s t r s') :
    (∃ e, r = .error e ∧ R s s' ∧ ¬ Happens bad t) ∨
      ∃ a s₁ early rest, Runs m s early (.ok a) s₁ ∧ R s s₁ ∧ Runs (f a) s₁ rest r s' ∧
        ¬ Happens bad early ∧ t = early ++ rest := by
  rcases run.bind_inv with ⟨e, isError, raised⟩ | ⟨early, a, s₁, rest, split, returned, next⟩
  · obtain ⟨related, none⟩ := first _ _ _ _ raised
    exact .inl ⟨e, isError, related, none⟩
  · obtain ⟨related, none⟩ := first _ _ _ _ returned
    exact .inr ⟨a, s₁, early, rest, returned, related, next, none, split⟩

section Trans

variable [IsTrans σ R]

theorem Within.bind (first : Within R bad m) (second : ∀ a, Within R bad (f a)) :
    Within R bad (m >>= f) := by
  intro s t r s' run
  rcases first.bind_inv run with ⟨-, -, related, none⟩ | ⟨a, s₁, early, rest, -, before, next, none, rfl⟩
  · exact ⟨related, none⟩
  · obtain ⟨after, none'⟩ := second a _ _ _ _ next
    refine ⟨trans_of R before after, ?_⟩
    rw [happens_append]
    intro either
    exact either.elim none none'

theorem Within.tryCatch {handler : ε → Act S σ ε α} (body : Within R bad m)
    (caught : ∀ e, Within R bad (handler e)) : Within R bad (tryCatch m handler) := by
  intro s t r s' run
  rcases runs_tryCatch.mp run with ⟨a, -, run⟩ | ⟨early, e, s₁, rest, rfl, raised, handled⟩
  · exact body _ _ _ _ run
  · obtain ⟨before, none⟩ := body _ _ _ _ raised
    obtain ⟨after, none'⟩ := caught e _ _ _ _ handled
    refine ⟨trans_of R before after, ?_⟩
    rw [happens_append]
    intro either
    exact either.elim none none'

theorem Within.andFinally {cleanup : Act S σ ε Unit} (body : Within R bad m)
    (last : Within R bad cleanup) : Within R bad (m.andFinally cleanup) := by
  intro s t r s' run
  obtain ⟨early, r₁, s₁, rest, c, rfl, run, clean, -⟩ := runs_andFinally.mp run
  obtain ⟨before, none⟩ := body _ _ _ _ run
  obtain ⟨after, none'⟩ := last _ _ _ _ clean
  refine ⟨trans_of R before after, ?_⟩
  rw [happens_append]
  intro either
  exact either.elim none none'

end Trans

end Dingdongditch.Interaction.Act
