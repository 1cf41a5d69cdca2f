import Dingdongditch.Interaction.System

/-!
# Runs against a scripted environment

`Prog.play` answers the calls of a program from a script, a function from the
state of the environment and a call to an answer and the next state.  It
computes one run of the program (`runs_of_play`), so that the existence of a run
with a given property can be evaluated.  A program that `Terminates` has a run
against every script.
-/

namespace Dingdongditch.Interaction

variable {S : Sig} {σ ε α β ω : Type}

/-- An environment with a state of its own. -/
abbrev Script (S : Sig) (ω : Type) : Type := ω → (c : S.Call) → S.Answer c × ω

namespace Prog

/-- The run of a program against a script, with the state it leaves; `none` when
the program does not return. -/
def play (script : Script S ω) : Prog S α → ω → Option (Trace S × α × ω)
  | .done a, w => some ([], a, w)
  | .call c next, w =>
      let answer := script w c
      ((next answer.1).play script answer.2).map fun (t, out) => (⟨c, answer.1⟩ :: t, out)
  | .diverge, _ => none

theorem runs_of_play {script : Script S ω} {p : Prog S α} {w w' : ω} {t : Trace S} {a : α}
    (played : p.play script w = some (t, a, w')) : Runs p t a := by
  induction p generalizing w t with
  | done b =>
      obtain ⟨rfl, rest⟩ := Prod.mk.inj (Option.some.inj played)
      obtain ⟨rfl, -⟩ := Prod.mk.inj rest
      exact .done b
  | diverge => cases played
  | call c next ih =>
      obtain ⟨⟨rest, out⟩, inner, eq⟩ := Option.map_eq_some_iff.mp played
      cases eq
      exact .call _ (ih _ inner)

/-- What is so of every answer of the script is so of every event of the run. -/
theorem play_forall {script : Script S ω} {P : Event S → Prop} (each : ∀ w c, P ⟨c, (script w c).1⟩)
    {p : Prog S α} {w w' : ω} {t : Trace S} {a : α} (played : p.play script w = some (t, a, w')) :
    ∀ event ∈ t, P event := by
  induction p generalizing w t with
  | done b =>
      obtain ⟨rfl, -⟩ := Prod.mk.inj (Option.some.inj played)
      simp
  | diverge => cases played
  | call c next ih =>
      obtain ⟨⟨rest, out⟩, inner, eq⟩ := Option.map_eq_some_iff.mp played
      cases eq
      exact List.forall_mem_cons.mpr ⟨each w c, ih _ inner⟩

/-- A program that returns whatever its environment answers. -/
inductive Terminates : Prog S α → Prop
  | done (a : α) : Terminates (.done a)
  | call {c : S.Call} {next : S.Answer c → Prog S α} (later : ∀ answer, Terminates (next answer)) :
      Terminates (.call c next)

theorem Terminates.bind {p : Prog S α} {f : α → Prog S β} (first : Terminates p)
    (second : ∀ a, Terminates (f a)) : Terminates (p.bind f) := by
  induction first with
  | done a => exact second a
  | call _ ih => exact .call ih

/-- A terminating program has a run with answers of a given kind, where every call
has one. -/
theorem Terminates.exists_runs {p : Prog S α} {P : Event S → Prop} (h : Terminates p)
    (answered : ∀ c, ∃ answer, P ⟨c, answer⟩) : ∃ t a, Runs p t a ∧ ∀ event ∈ t, P event := by
  induction h with
  | done a => exact ⟨[], a, .done a, by simp⟩
  | @call c next _ ih =>
      obtain ⟨answer, holds⟩ := answered c
      obtain ⟨t, a, run, rest⟩ := ih answer
      exact ⟨⟨c, answer⟩ :: t, a, .call answer run, List.forall_mem_cons.mpr ⟨holds, rest⟩⟩

end Prog

namespace Act

/-- A stateful program that returns or raises whatever its environment answers. -/
def Terminates (m : Act S σ ε α) : Prop := ∀ s, (m s).Terminates

theorem terminates_pure (a : α) : Terminates (Pure.pure a : Act S σ ε α) := fun _ => .done _

theorem terminates_throw (e : ε) : Terminates (throw e : Act S σ ε α) := fun _ => .done _

theorem terminates_ask (c : S.Call) : Terminates (ask c : Act S σ ε (S.Answer c)) :=
  fun _ => .call fun _ => .done _

theorem terminates_attempt (c : S.Call) (view : S.Answer c → Except ε α) :
    Terminates (attempt c view : Act S σ ε α) := fun _ => .call fun _ => .done _

theorem terminates_ofExcept (x : Except ε α) : Terminates (ofExcept x : Act S σ ε α) := by
  cases x with
  | ok a => exact terminates_pure a
  | error e => exact terminates_throw e

theorem Terminates.bind {m : Act S σ ε α} {f : α → Act S σ ε β} (first : Terminates m)
    (second : ∀ a, Terminates (f a)) : Terminates (m >>= f) := by
  intro s
  refine (first s).bind fun out => ?_
  rcases out with ⟨_ | a, s'⟩
  · exact .done _
  · exact second a s'

theorem terminates_get : Terminates (get : Act S σ ε σ) := fun _ => .done _

theorem terminates_modify (f : σ → σ) : Terminates (modify f : Act S σ ε PUnit) := fun _ => .done _

theorem Terminates.tryCatch {m : Act S σ ε α} {handler : ε → Act S σ ε α} (body : Terminates m)
    (caught : ∀ e, Terminates (handler e)) : Terminates (tryCatch m handler) := by
  intro s
  refine (body s).bind fun out => ?_
  rcases out with ⟨e | _, s'⟩
  · exact caught e s'
  · exact .done _

theorem terminates_forM {xs : List α} {f : α → Act S σ ε PUnit} (each : ∀ x, Terminates (f x)) :
    Terminates (xs.forM f) := by
  induction xs with
  | nil => exact terminates_pure _
  | cons x xs ih => exact (each x).bind fun _ => ih

theorem terminates_filterM {xs : List α} {f : α → Act S σ ε Bool} (each : ∀ x, Terminates (f x)) :
    Terminates (xs.filterM f) := by
  have inner (acc : List α) : Terminates (xs.filterAuxM f acc) := by
    induction xs generalizing acc with
    | nil => exact terminates_pure _
    | cons x xs ih => exact (each x).bind fun _ => ih _
  exact (inner []).bind fun _ => terminates_pure _

theorem Terminates.andFinally {m : Act S σ ε α} {cleanup : Act S σ ε Unit} (body : Terminates m)
    (after : Terminates cleanup) : Terminates (m.andFinally cleanup) := by
  intro s
  refine (body s).bind fun out => (after out.2).bind fun out' => ?_
  rcases out' with ⟨_ | _, s'⟩
  · exact .done _
  · exact .done _

end Act

/-- A run of a stateful program with a property that can be evaluated. -/
theorem Act.exists_runs (script : Script S ω) (x : Act S σ ε α) (s : σ) (w : ω)
    (P : Trace S → Except ε α → σ → Bool)
    (checked : ((x s).play script w).any (fun (t, (r, s'), _) => P t r s') = true) :
    ∃ t r s', Act.Runs x s t r s' ∧ P t r s' = true := by
  obtain ⟨⟨t, ⟨r, s'⟩, w'⟩, played, holds⟩ := (Option.any_eq_true _ _).mp checked
  exact ⟨t, r, s', Prog.runs_of_play played, holds⟩

/-- The same, with what is so of every answer of the script. -/
theorem Act.exists_answered_runs (script : Script S ω) (x : Act S σ ε α) (s : σ) (w : ω)
    {Q : Event S → Prop} (each : ∀ w c, Q ⟨c, (script w c).1⟩) (P : Trace S → Except ε α → σ → Bool)
    (checked : ((x s).play script w).any (fun (t, (r, s'), _) => P t r s') = true) :
    ∃ t r s', Act.Runs x s t r s' ∧ (∀ event ∈ t, Q event) ∧ P t r s' = true := by
  obtain ⟨⟨t, ⟨r, s'⟩, w'⟩, played, holds⟩ := (Option.any_eq_true _ _).mp checked
  exact ⟨t, r, s', Prog.runs_of_play played, Prog.play_forall each played, holds⟩

namespace Component

variable {C : Component S σ ε}

/-- The calls of a list of methods, one after the other against a script. -/
def play (C : Component S σ ε) (script : Script S ω) : List C.Method → σ → ω → Option (List C.Step × σ)
  | [], s, _ => some ([], s)
  | m :: rest, s, w =>
      match played : ((C.body m) s).play script w with
      | none => none
      | some (t, (outcome, s₁), w₁) =>
          (C.play script rest s₁ w₁).map fun (steps, s') =>
            (⟨m, s, t, outcome, s₁, Prog.runs_of_play played⟩ :: steps, s')

theorem run_of_play {script : Script S ω} {methods : List C.Method} {s s' : σ} {w : ω}
    {steps : List C.Step} (played : C.play script methods s w = some (steps, s')) :
    Run C s steps s' ∧ steps.map (·.method) = methods := by
  induction methods generalizing s w steps with
  | nil =>
      obtain ⟨rfl, rfl⟩ := Prod.mk.inj (Option.some.inj played)
      exact ⟨.nil s, rfl⟩
  | cons m rest ih =>
      unfold play at played
      split at played
      · cases played
      · next t outcome s₁ w₁ single =>
          obtain ⟨⟨later, last⟩, inner, eq⟩ := Option.map_eq_some_iff.mp played
          cases eq
          obtain ⟨run, same⟩ := ih inner
          exact ⟨.cons ⟨m, s, t, outcome, s₁, Prog.runs_of_play single⟩ run, congrArg _ same⟩

/-- A run with a property that can be evaluated. -/
theorem exists_run (script : Script S ω) (methods : List C.Method) (s : σ) (w : ω)
    (P : List C.Step → σ → Bool)
    (checked : (C.play script methods s w).any (fun out => P out.1 out.2) = true) :
    ∃ steps s', Run C s steps s' ∧ steps.map (·.method) = methods ∧ P steps s' = true := by
  obtain ⟨⟨steps, s'⟩, played, holds⟩ := (Option.any_eq_true _ _).mp checked
  obtain ⟨run, same⟩ := run_of_play played
  exact ⟨steps, s', run, same, holds⟩

end Component

end Dingdongditch.Interaction
