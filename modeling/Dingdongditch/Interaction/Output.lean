import Dingdongditch.Interaction.Stateful

/-!
# What a program puts out

A `Port` reads off each event what it puts out, and which answers are ordinary.
`Act.Outputs` says that a program returns and puts out a given list in all of its
runs with ordinary answers; its rules follow the statements of the program.
`Act.Sends` relates what a program puts out to how it ends, whatever the answers.
-/

namespace Dingdongditch.Interaction

variable {S : Sig} {σ ε α β γ : Type}

/-- What the events of an interface put out, where they are ordinary. -/
structure Port (S : Sig) (γ : Type) where
  output : Event S → List γ
  ordinary : Event S → Prop

/-- What a trace puts out. -/
def Port.sent (port : Port S γ) (t : Trace S) : List γ := t.flatMap port.output

/-- Every answer of a trace is ordinary. -/
def Port.Smooth (port : Port S γ) (t : Trace S) : Prop := ∀ event ∈ t, port.ordinary event

namespace Act

variable {port : Port S γ} {s : σ} {P : α → σ → Prop} {Q : β → σ → Prop} {xs ys : List γ}

/-- In every run with ordinary answers the program returns and puts out `ys`. -/
def Outputs (port : Port S γ) (m : Act S σ ε α) (s : σ) (ys : List γ) (P : α → σ → Prop) : Prop :=
  ∀ t r s', Runs m s t r s' → port.Smooth t → port.sent t = ys ∧ ∃ a, r = .ok a ∧ P a s'

theorem outputs_pure {a : α} (holds : P a s) : Outputs port (Pure.pure a : Act S σ ε α) s [] P := by
  intro t r s' run _
  obtain ⟨rfl, rfl, rfl⟩ := runs_pure.mp run
  exact ⟨rfl, a, rfl, holds⟩

theorem outputs_attempt {c : S.Call} {view : S.Answer c → Except ε α}
    (each : ∀ answer, port.ordinary ⟨c, answer⟩ →
      port.output ⟨c, answer⟩ = ys ∧ ∃ a, view answer = .ok a ∧ P a s) :
    Outputs port (attempt c view) s ys P := by
  intro t r s' run smooth
  obtain ⟨answer, rfl, rfl, rfl⟩ := runs_attempt.mp run
  obtain ⟨sends, a, isOk, holds⟩ := each answer (smooth _ List.mem_cons_self)
  refine ⟨?_, a, isOk, holds⟩
  simpa [Port.sent] using sends

theorem outputs_ask {c : S.Call} {P : S.Answer c → σ → Prop}
    (each : ∀ answer, port.ordinary ⟨c, answer⟩ → port.output ⟨c, answer⟩ = ys ∧ P answer s) :
    Outputs port (ask c : Act S σ ε (S.Answer c)) s ys P := by
  intro t r s' run smooth
  obtain ⟨answer, rfl, rfl, rfl⟩ := runs_ask.mp run
  obtain ⟨sends, holds⟩ := each answer (smooth _ List.mem_cons_self)
  refine ⟨?_, answer, rfl, holds⟩
  simpa [Port.sent] using sends

theorem Outputs.bind {m : Act S σ ε α} {f : α → Act S σ ε β} (first : Outputs port m s xs P)
    (second : ∀ a s', P a s' → Outputs port (f a) s' ys Q) :
    Outputs port (m >>= f) s (xs ++ ys) Q := by
  intro t r s' run smooth
  rcases run.bind_inv with ⟨e, -, failed⟩ | ⟨before, a, s₁, rest, rfl, ran, run⟩
  · obtain ⟨-, a, isOk, -⟩ := first _ _ _ failed smooth
    cases isOk
  · have smoothBefore : port.Smooth before := fun e mem => smooth e (List.mem_append_left _ mem)
    have smoothRest : port.Smooth rest := fun e mem => smooth e (List.mem_append_right _ mem)
    obtain ⟨sentBefore, a', isOk, holds⟩ := first _ _ _ ran smoothBefore
    cases isOk
    obtain ⟨sentRest, result⟩ := second a s₁ holds _ _ _ run smoothRest
    refine ⟨?_, result⟩
    rw [Port.sent, List.flatMap_append]
    exact congrArg₂ (· ++ ·) sentBefore sentRest

/-- A statement that puts out nothing comes first. -/
theorem Outputs.first {m : Act S σ ε α} {f : α → Act S σ ε β} (quiet : Outputs port m s [] P)
    (second : ∀ a s', P a s' → Outputs port (f a) s' ys Q) : Outputs port (m >>= f) s ys Q :=
  quiet.bind second

/-- What follows puts out nothing. -/
theorem Outputs.then {m : Act S σ ε α} {f : α → Act S σ ε β} (first : Outputs port m s xs P)
    (quiet : ∀ a s', P a s' → Outputs port (f a) s' [] Q) : Outputs port (m >>= f) s xs Q := by
  have both := first.bind quiet
  rwa [List.append_nil] at both

theorem Outputs.mono {m : Act S σ ε α} {R : α → σ → Prop} (outputs : Outputs port m s ys P)
    (weaker : ∀ a s', P a s' → R a s') : Outputs port m s ys R := by
  intro t r s' run smooth
  obtain ⟨sends, a, isOk, holds⟩ := outputs t r s' run smooth
  exact ⟨sends, a, isOk, weaker a s' holds⟩

/-! ## Filters -/

theorem outputs_filterAuxM {f : α → Act S σ ε Bool} {g : α → Bool} {xs acc : List α}
    (each : ∀ x ∈ xs, ∀ s, Outputs port (f x) s [] fun b _ => b = g x) :
    Outputs port (xs.filterAuxM f acc) s [] fun r _ => r = (xs.filter g).reverse ++ acc := by
  induction xs generalizing s acc with
  | nil => exact outputs_pure rfl
  | cons x xs ih =>
      obtain ⟨head, tail⟩ := List.forall_mem_cons.mp each
      refine (head s).first fun b s' same => ?_
      subst same
      refine (ih tail).mono fun r _ same => ?_
      rw [same]
      cases kept : g x with
      | true => simp [kept]
      | false => simp [kept]

/-- A filter whose predicate puts out nothing and is known. -/
theorem outputs_filterM {f : α → Act S σ ε Bool} {g : α → Bool} {xs : List α}
    (each : ∀ x ∈ xs, ∀ s, Outputs port (f x) s [] fun b _ => b = g x) :
    Outputs port (xs.filterM f) s [] fun r _ => r = xs.filter g := by
  refine (outputs_filterAuxM each).first fun r s' same => ?_
  subst same
  exact outputs_pure (by simp)

/-! ## Whatever the answers -/

variable {e : ε} {R : List γ → Except ε α → Prop} {T : List γ → Except ε β → Prop}

/-- In every run, what the program has put out and how it ends are as `R` says. -/
def Sends (port : Port S γ) (m : Act S σ ε α) (s : σ) (R : List γ → Except ε α → Prop) : Prop :=
  ∀ t r s', Runs m s t r s' → R (port.sent t) r

theorem sends_pure {a : α} (holds : R [] (.ok a)) :
    Sends port (Pure.pure a : Act S σ ε α) s R := by
  intro t r s' run
  obtain ⟨empty, returned, -⟩ := runs_pure.mp run
  rw [empty, returned]
  exact holds

theorem sends_attempt {c : S.Call} {view : S.Answer c → Except ε α}
    (each : ∀ answer, R (port.output ⟨c, answer⟩) (view answer)) :
    Sends port (attempt c view) s R := by
  intro t r s' run
  obtain ⟨answer, event, returned, -⟩ := runs_attempt.mp run
  rw [event, returned]
  simpa [Port.sent] using each answer

theorem sends_ask {c : S.Call} {R : List γ → Except ε (S.Answer c) → Prop}
    (each : ∀ answer, R (port.output ⟨c, answer⟩) (.ok answer)) :
    Sends port (ask c : Act S σ ε (S.Answer c)) s R := by
  intro t r s' run
  obtain ⟨answer, event, returned, -⟩ := runs_ask.mp run
  rw [event, returned]
  simpa [Port.sent] using each answer

theorem sends_ofExcept {x : Except ε α} (holds : R [] x) :
    Sends port (ofExcept x : Act S σ ε α) s R := by
  intro t r s' run
  obtain ⟨empty, returned, -⟩ := runs_ofExcept.mp run
  rw [empty, returned]
  exact holds

theorem Sends.bind {m : Act S σ ε α} {f : α → Act S σ ε β} (first : Sends port m s R)
    (returns : ∀ xs a s', R xs (.ok a) → Sends port (f a) s' fun ys r => T (xs ++ ys) r)
    (raises : ∀ xs e, R xs (.error e) → T xs (.error e)) : Sends port (m >>= f) s T := by
  intro t r s' run
  rcases run.bind_inv with ⟨e, failed, raised⟩ | ⟨before, a, s₁, rest, split, ran, after⟩
  · rw [failed]
    exact raises _ _ (first _ _ _ raised)
  · have second := returns _ a s₁ (first _ _ _ ran) _ _ _ after
    rw [split, Port.sent, List.flatMap_append]
    exact second

/-- A statement that puts out nothing comes first. -/
theorem Sends.first {m : Act S σ ε α} {f : α → Act S σ ε β}
    (quiet : Sends port m s fun xs _ => xs = []) (second : ∀ a s', Sends port (f a) s' T)
    (raises : ∀ e, T [] (.error e)) : Sends port (m >>= f) s T := by
  refine quiet.bind (T := T) ?_ ?_
  · intro xs a s' empty
    rw [empty]
    exact second a s'
  · intro xs e empty
    rw [empty]
    exact raises e

theorem Sends.mono {m : Act S σ ε α} {R' : List γ → Except ε α → Prop} (sends : Sends port m s R)
    (weaker : ∀ xs r, R xs r → R' xs r) : Sends port m s R' := by
  intro t r s' run
  exact weaker _ _ (sends t r s' run)

end Act

end Dingdongditch.Interaction
