import Dingdongditch.Interaction.Program

/-!
# Stateful programs that may raise

`Act S σ ε α` is a program over the interface `S` that reads and writes a state
`σ` and may raise an `ε`.  The state survives an exception: a handler sees the
state the raising statement left, as in an imperative language.

`Act.Runs` is a run from one state to another.  The lemmas named `Runs.…` build a run
of a program from runs of its parts; those that end in `inv` take one apart.
-/

namespace Dingdongditch.Interaction

/-- A program with a state `σ` that survives exceptions `ε`. -/
def Act (S : Sig) (σ ε α : Type) : Type := σ → Prog S (Except ε α × σ)

namespace Act

variable {S T : Sig} {σ ε α β : Type}

def pure (a : α) : Act S σ ε α := fun s => .done (.ok a, s)

def bind (m : Act S σ ε α) (f : α → Act S σ ε β) : Act S σ ε β := fun s =>
  (m s).bind fun
    | (.ok a, s') => f a s'
    | (.error e, s') => .done (.error e, s')

def throw (e : ε) : Act S σ ε α := fun s => .done (.error e, s)

def tryCatch (m : Act S σ ε α) (handler : ε → Act S σ ε α) : Act S σ ε α := fun s =>
  (m s).bind fun
    | (.ok a, s') => .done (.ok a, s')
    | (.error e, s') => handler e s'

instance : Monad (Act S σ ε) where
  pure := pure
  bind := bind

instance : MonadExceptOf ε (Act S σ ε) where
  throw := throw
  tryCatch := tryCatch

instance : MonadStateOf σ (Act S σ ε) where
  get := fun s => .done (.ok s, s)
  set s' := fun _ => .done (.ok (), s')
  modifyGet f := fun s => .done (.ok (f s).1, (f s).2)

/-- Make the call `c`. -/
def ask (c : S.Call) : Act S σ ε (S.Answer c) := fun s =>
  .call c fun answer => .done (.ok answer, s)

def ofExcept : Except ε α → Act S σ ε α
  | .ok a => pure a
  | .error e => throw e

/-- Make a call whose answer may be an exception, and raise that exception. -/
def attempt (c : S.Call) (view : S.Answer c → Except ε α) : Act S σ ε α := fun s =>
  .call c fun answer => .done (view answer, s)

def diverge : Act S σ ε α := fun _ => .diverge

theorem mapError_eq_ok {ε' : Type} {f : ε → ε'} {x : Except ε α} {a : α} :
    x.mapError f = .ok a ↔ x = .ok a := by
  cases x <;> simp [Except.mapError]

/-- Run `m`, then `cleanup` whatever the outcome of `m`; an exception of
`cleanup` replaces that outcome. -/
def andFinally (m : Act S σ ε α) (cleanup : Act S σ ε Unit) : Act S σ ε α := fun s =>
  (m s).bind fun (r, s') => (cleanup s').bind fun
    | (.ok _, s'') => .done (r, s'')
    | (.error e, s'') => .done (.error e, s'')

/-- Rename the exceptions of a program. -/
def mapError {ε' : Type} (f : ε → ε') (m : Act S σ ε α) : Act S σ ε' α := fun s =>
  (m s).bind fun (r, s') => .done (r.mapError f, s')

/-- Run a program over the left part of an interface. -/
def left (m : Act S σ ε α) : Act (S.sum T) σ ε α := fun s => (m s).left

instance : MonadLift (Act S σ ε) (Act (S.sum T) σ ε) where
  monadLift := left

/-! ## Building and splitting runs -/

/-- `m` runs from `s` with the trace `t` to the outcome `r` and the state `s'`. -/
def Runs (m : Act S σ ε α) (s : σ) (t : Trace S) (r : Except ε α) (s' : σ) : Prop :=
  Prog.Runs (m s) t (r, s')

theorem Runs.pure (a : α) (s : σ) : Runs (Pure.pure a : Act S σ ε α) s [] (.ok a) s :=
  Prog.Runs.done _

theorem Runs.bind {m : Act S σ ε α} {f : α → Act S σ ε β} {s s₁ s₂ : σ} {t u : Trace S}
    {a : α} {r : Except ε β} (first : Runs m s t (.ok a) s₁) (second : Runs (f a) s₁ u r s₂) :
    Runs (m >>= f) s (t ++ u) r s₂ :=
  Prog.Runs.bind first second

theorem Runs.bind_error {m : Act S σ ε α} {f : α → Act S σ ε β} {s s₁ : σ} {t : Trace S} {e : ε}
    (first : Runs m s t (.error e) s₁) : Runs (m >>= f) s t (.error e) s₁ := by
  have ended : Runs (m >>= f) s (t ++ []) (.error e) s₁ := Prog.Runs.bind first (.done _)
  rwa [List.append_nil] at ended

theorem Runs.attempt {c : S.Call} {view : S.Answer c → Except ε α} (answer : S.Answer c)
    (s : σ) : Runs (attempt c view) s [⟨c, answer⟩] (view answer) s :=
  Prog.Runs.call answer (.done _)

theorem Runs.ask {c : S.Call} (answer : S.Answer c) (s : σ) :
    Runs (ask c : Act S σ ε _) s [⟨c, answer⟩] (.ok answer) s :=
  Prog.Runs.call answer (.done _)

theorem Runs.left {m : Act S σ ε α} {s s' : σ} {t : Trace S} {r : Except ε α}
    (run : Runs m s t r s') : Runs (m.left (T := T)) s (t.map Event.left) r s' :=
  Prog.runs_left.mpr ⟨t, rfl, run⟩

theorem Runs.of_left {m : Act S σ ε α} {s s' : σ} {t : Trace (S.sum T)} {r : Except ε α}
    (run : Runs (m.left (T := T)) s t r s') : ∃ u, t = u.map Event.left ∧ Runs m s u r s' :=
  Prog.runs_left.mp run

theorem Runs.bind_inv {m : Act S σ ε α} {f : α → Act S σ ε β} {s s' : σ} {t : Trace S}
    {r : Except ε β} (run : Runs (m >>= f) s t r s') :
    (∃ e, r = .error e ∧ Runs m s t (.error e) s') ∨
      ∃ first a s₁ second, t = first ++ second ∧ Runs m s first (.ok a) s₁ ∧
        Runs (f a) s₁ second r s' := by
  obtain ⟨first, ⟨out, s₁⟩, second, rfl, left, right⟩ := Prog.runs_bind.mp run
  cases out with
  | ok a => exact .inr ⟨first, a, s₁, second, rfl, left, right⟩
  | error e =>
      obtain ⟨rfl, eq⟩ := Prog.runs_done.mp right
      obtain ⟨rfl, rfl⟩ := Prod.mk.injEq .. ▸ eq
      rw [List.append_nil]
      exact .inl ⟨e, rfl, left⟩

/-- A program over the left part, followed by another program. -/
theorem Runs.left_bind_inv {m : Act S σ ε α} {f : α → Act (S.sum T) σ ε β} {s s' : σ}
    {t : Trace (S.sum T)} {r : Except ε β} (run : Runs (m.left (T := T) >>= f) s t r s') :
    (∃ u e, t = u.map Event.left ∧ r = .error e ∧ Runs m s u (.error e) s') ∨
      ∃ u a s₁ rest, t = u.map Event.left ++ rest ∧ Runs m s u (.ok a) s₁ ∧
        Runs (f a) s₁ rest r s' := by
  rcases run.bind_inv with ⟨e, isError, first⟩ | ⟨before, a, s₁, rest, split, first, second⟩
  · obtain ⟨u, quiet, inner⟩ := first.of_left
    exact .inl ⟨u, e, quiet, isError, inner⟩
  · obtain ⟨u, rfl, inner⟩ := first.of_left
    exact .inr ⟨u, a, s₁, rest, split, inner, second⟩

theorem Runs.bind_ok_inv {m : Act S σ ε α} {f : α → Act S σ ε β} {s s' : σ} {t : Trace S}
    {b : β} (run : Runs (m >>= f) s t (.ok b) s') :
    ∃ first a s₁ second, t = first ++ second ∧ Runs m s first (.ok a) s₁ ∧
      Runs (f a) s₁ second (.ok b) s' := by
  rcases run.bind_inv with ⟨e, eq, -⟩ | split
  · cases eq
  · exact split

/-- What follows a statement whose run is known. -/
theorem Runs.bind_resume {m : Act S σ ε α} {f : α → Act S σ ε β} {s s₁ s' : σ} {t u : Trace S}
    {a : α} {r : Except ε β} (run : Runs (m >>= f) s (t ++ u) r s')
    (first : Runs m s t (.ok a) s₁) : Runs (f a) s₁ u r s' := by
  obtain ⟨t', out, u', same, left, right⟩ := Prog.runs_bind.mp run
  obtain ⟨rfl, rfl⟩ := first.unique left same
  obtain rfl := List.append_cancel_left same
  exact right

theorem Runs.get_bind_inv {f : σ → Act S σ ε α} {s s' : σ} {t : Trace S} {r : Except ε α}
    (run : Runs (get >>= f) s t r s') : Runs (f s) s t r s' :=
  run

theorem Runs.modify_bind_inv {g : σ → σ} {f : PUnit → Act S σ ε α} {s s' : σ} {t : Trace S}
    {r : Except ε α} (run : Runs (modify g >>= f) s t r s') : Runs (f ()) (g s) t r s' :=
  run

theorem Runs.ask_bind_inv {c : S.Call} {f : S.Answer c → Act S σ ε α} {s s' : σ} {t : Trace S}
    {r : Except ε α} (run : Runs (Act.ask c >>= f) s t r s') :
    ∃ answer rest, t = ⟨c, answer⟩ :: rest ∧ Runs (f answer) s rest r s' :=
  Prog.runs_call.mp run

theorem runs_pure {a : α} {s s' : σ} {t : Trace S} {r : Except ε α} :
    Runs (Pure.pure a : Act S σ ε α) s t r s' ↔ t = [] ∧ r = .ok a ∧ s' = s := by
  refine Prog.runs_done.trans ?_
  rw [Prod.mk.injEq]

theorem runs_throw {e : ε} {s s' : σ} {t : Trace S} {r : Except ε α} :
    Runs (throw e : Act S σ ε α) s t r s' ↔ t = [] ∧ r = .error e ∧ s' = s :=
  Prog.runs_done.trans (by rw [Prod.mk.injEq])

theorem runs_get {s s' : σ} {t : Trace S} {r : Except ε σ} :
    Runs (get : Act S σ ε σ) s t r s' ↔ t = [] ∧ r = .ok s ∧ s' = s :=
  Prog.runs_done.trans (by rw [Prod.mk.injEq])

theorem runs_modifyGet {f : σ → α × σ} {s s' : σ} {t : Trace S} {r : Except ε α} :
    Runs (modifyGet f : Act S σ ε α) s t r s' ↔ t = [] ∧ r = .ok (f s).1 ∧ s' = (f s).2 :=
  Prog.runs_done.trans (by rw [Prod.mk.injEq])

theorem runs_ofExcept {x r : Except ε α} {s s' : σ} {t : Trace S} :
    Runs (ofExcept x : Act S σ ε α) s t r s' ↔ t = [] ∧ r = x ∧ s' = s := by
  cases x with
  | ok a => exact runs_pure
  | error e => exact runs_throw

theorem Runs.ofExcept_bind_inv {x : Except ε α} {f : α → Act S σ ε β} {s s' : σ} {t : Trace S}
    {r : Except ε β} (run : Runs (ofExcept x >>= f) s t r s') :
    (∃ e, x = .error e ∧ t = [] ∧ r = .error e ∧ s' = s) ∨ ∃ a, x = .ok a ∧ Runs (f a) s t r s' := by
  rcases run.bind_inv with ⟨e, rfl, first⟩ | ⟨before, a, s₁, after, rfl, first, next⟩
  · obtain ⟨rfl, eq, rfl⟩ := runs_ofExcept.mp first
    exact .inl ⟨e, eq.symm, rfl, rfl, rfl⟩
  · obtain ⟨rfl, eq, rfl⟩ := runs_ofExcept.mp first
    exact .inr ⟨a, eq.symm, next⟩

theorem runs_attempt {c : S.Call} {view : S.Answer c → Except ε α} {s s' : σ} {t : Trace S}
    {r : Except ε α} :
    Runs (attempt c view) s t r s' ↔ ∃ answer, t = [⟨c, answer⟩] ∧ r = view answer ∧ s' = s := by
  refine Prog.runs_call.trans ?_
  constructor
  · intro ⟨answer, rest, eq, after⟩
    obtain ⟨rfl, out⟩ := Prog.runs_done.mp after
    cases out
    exact ⟨answer, eq, rfl, rfl⟩
  · intro ⟨answer, eq, isView, same⟩
    exact ⟨answer, [], eq, Prog.runs_done.mpr ⟨rfl, by rw [isView, same]⟩⟩

/-- An answer that raises ends the program, and another one is what follows. -/
theorem Runs.attempt_bind_inv {c : S.Call} {view : S.Answer c → Except ε α}
    {f : α → Act S σ ε β} {s s' : σ} {t : Trace S} {r : Except ε β}
    (run : Runs (Act.attempt c view >>= f) s t r s') :
    ∃ answer rest, t = ⟨c, answer⟩ :: rest ∧
      ((∃ e, view answer = .error e ∧ r = .error e ∧ rest = [] ∧ s' = s) ∨
        ∃ a, view answer = .ok a ∧ Runs (f a) s rest r s') := by
  rcases run.bind_inv with ⟨e, rfl, raised⟩ | ⟨before, a, s₁, rest, rfl, first, next⟩
  · obtain ⟨answer, rfl, isError, rfl⟩ := runs_attempt.mp raised
    exact ⟨answer, [], rfl, .inl ⟨e, isError.symm, rfl, rfl, rfl⟩⟩
  · obtain ⟨answer, rfl, isOk, rfl⟩ := runs_attempt.mp first
    exact ⟨answer, rest, rfl, .inr ⟨a, isOk.symm, next⟩⟩

theorem runs_ask {c : S.Call} {s s' : σ} {t : Trace S} {r : Except ε (S.Answer c)} :
    Runs (ask c) s t r s' ↔ ∃ answer, t = [⟨c, answer⟩] ∧ r = .ok answer ∧ s' = s := by
  have isAttempt : (ask c : Act S σ ε (S.Answer c)) = attempt c .ok := rfl
  rw [isAttempt, runs_attempt]

theorem not_runs_diverge {s s' : σ} {t : Trace S} {r : Except ε α} :
    ¬ Runs (diverge : Act S σ ε α) s t r s' :=
  Prog.not_runs_diverge

theorem runs_tryCatch {m : Act S σ ε α} {handler : ε → Act S σ ε α} {s s' : σ} {t : Trace S}
    {r : Except ε α} :
    Runs (tryCatch m handler) s t r s' ↔
      (∃ a, r = .ok a ∧ Runs m s t (.ok a) s') ∨
        ∃ first e s₁ second, t = first ++ second ∧ Runs m s first (.error e) s₁ ∧
          Runs (handler e) s₁ second r s' := by
  refine Prog.runs_bind.trans ?_
  constructor
  · intro ⟨first, ⟨out, s₁⟩, second, eq, run, after⟩
    cases out with
    | ok a =>
        obtain ⟨rfl, out⟩ := Prog.runs_done.mp after
        cases out
        rw [List.append_nil] at eq
        exact .inl ⟨a, rfl, eq ▸ run⟩
    | error e => exact .inr ⟨first, e, s₁, second, eq, run, after⟩
  · intro cases_
    rcases cases_ with ⟨a, rfl, run⟩ | ⟨first, e, s₁, second, eq, run, after⟩
    · exact ⟨t, _, [], (List.append_nil t).symm, run, .done _⟩
    · exact ⟨first, _, second, eq, run, after⟩

theorem runs_andFinally {m : Act S σ ε α} {cleanup : Act S σ ε Unit} {s s' : σ} {t : Trace S}
    {r : Except ε α} :
    Runs (m.andFinally cleanup) s t r s' ↔
      ∃ first r₁ s₁ second c, t = first ++ second ∧ Runs m s first r₁ s₁ ∧
        Runs cleanup s₁ second c s' ∧
          r = match c with
            | .ok _ => r₁
            | .error e => .error e := by
  refine Prog.runs_bind.trans ?_
  constructor
  · intro ⟨first, ⟨r₁, s₁⟩, second, eq, run, after⟩
    obtain ⟨middle, ⟨c, s₂⟩, rest, rfl, clean, last⟩ := Prog.runs_bind.mp after
    cases c with
    | ok u =>
        obtain ⟨rfl, out⟩ := Prog.runs_done.mp last
        cases out
        rw [List.append_nil] at eq
        exact ⟨first, _, s₁, middle, .ok u, eq, run, clean, rfl⟩
    | error e =>
        obtain ⟨rfl, out⟩ := Prog.runs_done.mp last
        cases out
        rw [List.append_nil] at eq
        exact ⟨first, r₁, s₁, middle, .error e, eq, run, clean, rfl⟩
  · intro ⟨first, r₁, s₁, second, c, eq, run, clean, result⟩
    refine ⟨first, (r₁, s₁), second, eq, run, ?_⟩
    refine Prog.runs_bind.mpr ⟨second, (c, s'), [], (List.append_nil second).symm, clean, ?_⟩
    cases c with
    | ok u =>
        rw [result]
        exact .done _
    | error e =>
        rw [result]
        exact .done _

theorem runs_mapError {ε' : Type} {f : ε → ε'} {m : Act S σ ε α} {s s' : σ} {t : Trace S}
    {r : Except ε' α} :
    Runs (m.mapError f) s t r s' ↔ ∃ inner, Runs m s t inner s' ∧ r = inner.mapError f := by
  refine Prog.runs_bind.trans ?_
  constructor
  · intro ⟨first, ⟨inner, s₁⟩, rest, eq, run, last⟩
    obtain ⟨rfl, out⟩ := Prog.runs_done.mp last
    cases out
    rw [List.append_nil] at eq
    exact ⟨inner, eq ▸ run, rfl⟩
  · intro ⟨inner, run, eq⟩
    exact ⟨t, (inner, s'), [], (List.append_nil t).symm, run, by rw [eq]; exact .done _⟩

theorem runs_set {s s₁ s' : σ} {t : Trace S} {r : Except ε PUnit} :
    Runs (set s₁ : Act S σ ε PUnit) s t r s' ↔ t = [] ∧ r = .ok () ∧ s' = s₁ :=
  Prog.runs_done.trans (by rw [Prod.mk.injEq])

/-! ## Reachable outcomes -/

/-- Some environment takes `m` from `s` to an outcome that satisfies `Q`. -/
def Reaches (m : Act S σ ε α) (s : σ) (Q : Except ε α → σ → Prop) : Prop :=
  ∃ t r s', Runs m s t r s' ∧ Q r s'

section Reaches

variable {s : σ} {Q : Except ε α → σ → Prop}

theorem Reaches.pure {a : α} (holds : Q (.ok a) s) : Reaches (Pure.pure a : Act S σ ε α) s Q :=
  ⟨[], .ok a, s, Runs.pure a s, holds⟩

theorem Reaches.ofExcept {r : Except ε α} (holds : Q r s) :
    Reaches (ofExcept r : Act S σ ε α) s Q :=
  ⟨[], r, s, runs_ofExcept.mpr ⟨rfl, rfl, rfl⟩, holds⟩

theorem Reaches.get {Q : Except ε σ → σ → Prop} (holds : Q (.ok s) s) :
    Reaches (MonadState.get : Act S σ ε σ) s Q :=
  ⟨[], .ok s, s, runs_get.mpr ⟨rfl, rfl, rfl⟩, holds⟩

theorem Reaches.modifyGet {f : σ → α × σ} (holds : Q (.ok (f s).1) (f s).2) :
    Reaches (MonadStateOf.modifyGet f : Act S σ ε α) s Q :=
  ⟨[], .ok (f s).1, (f s).2, runs_modifyGet.mpr ⟨rfl, rfl, rfl⟩, holds⟩

theorem Reaches.attempt {c : S.Call} {view : S.Answer c → Except ε α} (answer : S.Answer c)
    (holds : Q (view answer) s) : Reaches (attempt c view) s Q :=
  ⟨[⟨c, answer⟩], view answer, s, Runs.attempt answer s, holds⟩

theorem Reaches.ask {c : S.Call} {Q : Except ε (S.Answer c) → σ → Prop} (answer : S.Answer c)
    (holds : Q (.ok answer) s) : Reaches (ask c : Act S σ ε (S.Answer c)) s Q :=
  ⟨[⟨c, answer⟩], .ok answer, s, Runs.ask answer s, holds⟩

/-- The outcome of the first statement is a value from which the rest reaches `Q`. -/
theorem Reaches.bind {m : Act S σ ε β} {f : β → Act S σ ε α}
    (first : Reaches m s fun r s' => ∃ b, r = .ok b ∧ Reaches (f b) s' Q) :
    Reaches (m >>= f) s Q := by
  obtain ⟨t, _, s₁, run, b, rfl, u, r, s₂, next, holds⟩ := first
  exact ⟨t ++ u, r, s₂, run.bind next, holds⟩

/-- The outcome of the first statement is an exception, which satisfies `Q`. -/
theorem Reaches.bind_throw {m : Act S σ ε β} {f : β → Act S σ ε α}
    (first : Reaches m s fun r s' => ∃ e, r = .error e ∧ Q (.error e) s') :
    Reaches (m >>= f) s Q := by
  obtain ⟨t, _, s₁, run, e, rfl, holds⟩ := first
  exact ⟨t, .error e, s₁, run.bind_error, holds⟩

theorem Reaches.mono {P : Except ε α → σ → Prop} {m : Act S σ ε α} (reaches : Reaches m s P)
    (imp : ∀ r s', P r s' → Q r s') : Reaches m s Q := by
  obtain ⟨t, r, s', run, holds⟩ := reaches
  exact ⟨t, r, s', run, imp r s' holds⟩

end Reaches

/-! ## The events of one part -/

/-- Every event that `m` makes on the right part of its interface satisfies `P`. -/
def Emits (P : Event T → Prop) (m : Act (S.sum T) σ ε α) : Prop :=
  ∀ s t r s', Runs m s t r s' → ∀ e ∈ rights t, P e

section Emits

variable {P : Event T → Prop}

theorem Emits.of_no_event {m : Act (S.sum T) σ ε α}
    (silent : ∀ s t r s', Runs m s t r s' → t = []) : Emits P m := by
  intro s t r s' run e mem
  rw [silent s t r s' run] at mem
  cases mem

theorem emits_pure (a : α) : Emits P (Pure.pure a : Act (S.sum T) σ ε α) :=
  .of_no_event fun _ _ _ _ run => (runs_pure.mp run).1

theorem emits_throw (e : ε) : Emits P (throw e : Act (S.sum T) σ ε α) :=
  .of_no_event fun _ _ _ _ run => (runs_throw.mp run).1

/-- A program over the left part emits nothing. -/
theorem emits_left (m : Act S σ ε α) : Emits P (m.left (T := T)) := by
  intro s t r s' run e mem
  obtain ⟨u, rfl, -⟩ := run.of_left
  rw [rights_map_left] at mem
  cases mem

theorem emits_attempt {c : T.Call} {view : T.Answer c → Except ε α}
    (holds : ∀ answer, P ⟨c, answer⟩) :
    Emits P (attempt (S := S.sum T) (.inr c) view : Act (S.sum T) σ ε α) := by
  intro s t r s' run e mem
  obtain ⟨answer, rfl, -, -⟩ := runs_attempt.mp run
  rcases List.mem_singleton.mp mem with rfl
  exact holds answer

/-- The second statement may rely on what the first one returns. -/
theorem Emits.bind_of {m : Act (S.sum T) σ ε α} {f : α → Act (S.sum T) σ ε β} (Q : α → Prop)
    (first : Emits P m) (returns : ∀ s t a s', Runs m s t (.ok a) s' → Q a)
    (second : ∀ a, Q a → Emits P (f a)) : Emits P (m >>= f) := by
  intro s t r s' run e mem
  rcases run.bind_inv with ⟨e', -, run⟩ | ⟨before, a, s₁, after, rfl, run, next⟩
  · exact first s t _ s' run e mem
  · rcases List.mem_append.mp (rights_append before after ▸ mem) with inFirst | inSecond
    · exact first s before _ s₁ run e inFirst
    · exact second a (returns s before a s₁ run) s₁ after r s' next e inSecond

theorem Emits.bind {m : Act (S.sum T) σ ε α} {f : α → Act (S.sum T) σ ε β}
    (first : Emits P m) (second : ∀ a, Emits P (f a)) : Emits P (m >>= f) :=
  first.bind_of (fun _ => True) (fun _ _ _ _ _ => trivial) fun a _ => second a

theorem Emits.tryCatch {m : Act (S.sum T) σ ε α} {handler : ε → Act (S.sum T) σ ε α}
    (body : Emits P m) (recovery : ∀ e, Emits P (handler e)) : Emits P (tryCatch m handler) := by
  intro s t r s' run e mem
  rcases runs_tryCatch.mp run with ⟨a, -, run⟩ | ⟨before, e', s₁, after, rfl, run, next⟩
  · exact body s t _ s' run e mem
  · rcases List.mem_append.mp (rights_append before after ▸ mem) with inBody | inHandler
    · exact body s before _ s₁ run e inBody
    · exact recovery e' s₁ after r s' next e inHandler

theorem Emits.andFinally {m : Act (S.sum T) σ ε α} {cleanup : Act (S.sum T) σ ε Unit}
    (body : Emits P m) (last : Emits P cleanup) : Emits P (m.andFinally cleanup) := by
  intro s t r s' run e mem
  obtain ⟨before, r₁, s₁, after, c, rfl, run, clean, -⟩ := runs_andFinally.mp run
  rcases List.mem_append.mp (rights_append before after ▸ mem) with inBody | inCleanup
  · exact body s before r₁ s₁ run e inBody
  · exact last s₁ after c s' clean e inCleanup

theorem Emits.mono {Q : Event T → Prop} {m : Act (S.sum T) σ ε α} (emits : Emits P m)
    (imp : ∀ e, P e → Q e) : Emits Q m :=
  fun s t r s' run e mem => imp e (emits s t r s' run e mem)

end Emits

/-! ## Invariants of the state -/

/-- Every run of `m` from a state that satisfies `I` ends in one that does. -/
def Keeps (I : σ → Prop) (m : Act S σ ε α) : Prop :=
  ∀ s t r s', Runs m s t r s' → I s → I s'

section Keeps

variable {I : σ → Prop}

theorem keeps_pure (a : α) : Keeps I (Pure.pure a : Act S σ ε α) := by
  intro s t r s' run holds
  obtain ⟨-, -, rfl⟩ := runs_pure.mp run
  exact holds

theorem keeps_throw (e : ε) : Keeps I (throw e : Act S σ ε α) := by
  intro s t r s' run holds
  obtain ⟨-, -, rfl⟩ := runs_throw.mp run
  exact holds

theorem keeps_get : Keeps I (get : Act S σ ε σ) := by
  intro s t r s' run holds
  obtain ⟨-, -, rfl⟩ := runs_get.mp run
  exact holds

theorem keeps_modifyGet {f : σ → α × σ} (step : ∀ s, I s → I (f s).2) :
    Keeps I (modifyGet f : Act S σ ε α) := by
  intro s t r s' run holds
  obtain ⟨-, -, rfl⟩ := runs_modifyGet.mp run
  exact step s holds

theorem keeps_modify {f : σ → σ} (step : ∀ s, I s → I (f s)) :
    Keeps I (modify f : Act S σ ε PUnit) :=
  keeps_modifyGet (f := fun s => ((), f s)) step

theorem keeps_ofExcept (x : Except ε α) : Keeps I (ofExcept x : Act S σ ε α) := by
  intro s t r s' run holds
  obtain ⟨-, -, rfl⟩ := runs_ofExcept.mp run
  exact holds

theorem keeps_attempt (c : S.Call) (view : S.Answer c → Except ε α) :
    Keeps I (attempt c view : Act S σ ε α) := by
  intro s t r s' run holds
  obtain ⟨-, -, -, rfl⟩ := runs_attempt.mp run
  exact holds

theorem keeps_ask (c : S.Call) : Keeps I (ask c : Act S σ ε (S.Answer c)) :=
  keeps_attempt c .ok

/-- The second statement may rely on what the first one returns. -/
theorem Keeps.bind_of {m : Act S σ ε α} {f : α → Act S σ ε β} (Q : α → Prop) (first : Keeps I m)
    (returns : ∀ s t a s', Runs m s t (.ok a) s' → Q a) (second : ∀ a, Q a → Keeps I (f a)) :
    Keeps I (m >>= f) := by
  intro s t r s' run holds
  rcases run.bind_inv with ⟨e, -, run⟩ | ⟨before, a, s₁, after, -, run, next⟩
  · exact first s t _ s' run holds
  · exact second a (returns s before a s₁ run) s₁ after r s' next (first s before _ s₁ run holds)

theorem Keeps.bind {m : Act S σ ε α} {f : α → Act S σ ε β} (first : Keeps I m)
    (second : ∀ a, Keeps I (f a)) : Keeps I (m >>= f) :=
  first.bind_of (fun _ => True) (fun _ _ _ _ _ => trivial) fun a _ => second a

theorem Keeps.tryCatch {m : Act S σ ε α} {handler : ε → Act S σ ε α} (body : Keeps I m)
    (recovery : ∀ e, Keeps I (handler e)) : Keeps I (tryCatch m handler) := by
  intro s t r s' run holds
  rcases runs_tryCatch.mp run with ⟨a, -, run⟩ | ⟨before, e, s₁, after, -, run, next⟩
  · exact body s t _ s' run holds
  · exact recovery e s₁ after r s' next (body s before _ s₁ run holds)

theorem Keeps.andFinally {m : Act S σ ε α} {cleanup : Act S σ ε Unit} (body : Keeps I m)
    (last : Keeps I cleanup) : Keeps I (m.andFinally cleanup) := by
  intro s t r s' run holds
  obtain ⟨before, r₁, s₁, after, c, -, run, clean, -⟩ := runs_andFinally.mp run
  exact last s₁ after c s' clean (body s before r₁ s₁ run holds)

theorem Keeps.left {m : Act S σ ε α} (keeps : Keeps I m) : Keeps I (m.left (T := T)) := by
  intro s t r s' run holds
  obtain ⟨u, -, run⟩ := run.of_left
  exact keeps s u r s' run holds

/-- From a state that satisfies `P`, a run ends in one that satisfies `Q`. -/
def Leads (P Q : σ → Prop) (m : Act S σ ε α) : Prop :=
  ∀ s t r s', Runs m s t r s' → P s → Q s'

variable {P Q : σ → Prop}

theorem Keeps.leads {m : Act S σ ε α} (keeps : Keeps P m) (weaken : ∀ s, P s → Q s) :
    Leads P Q m :=
  fun s t r s' run holds => weaken s' (keeps s t r s' run holds)

/-- A statement that keeps `P`, and one that leads from it to `Q`. -/
theorem Keeps.bind_leads {m : Act S σ ε α} {f : α → Act S σ ε β} (first : Keeps P m)
    (weaken : ∀ s, P s → Q s) (second : ∀ a, Leads P Q (f a)) : Leads P Q (m >>= f) := by
  intro s t r s' run holds
  rcases run.bind_inv with ⟨e, -, run⟩ | ⟨before, a, s₁, after, -, run, next⟩
  · exact weaken s' (first s t _ s' run holds)
  · exact second a s₁ after r s' next (first s before _ s₁ run holds)

end Keeps

end Act

end Dingdongditch.Interaction
