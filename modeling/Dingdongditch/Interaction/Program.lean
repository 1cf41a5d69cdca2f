import Mathlib.Data.List.Basic

/-!
# Programs over an uninterpreted environment

A `Prog S α` is a program that talks to its environment only through the calls
of an interface `S`: it returns, makes a call and continues with the answer, or
runs forever without another call.  Nothing constrains the answers, so the set
of runs of a program (`Runs`) ranges over every behaviour of the environment,
and a trace lists the calls with the answers they got.

`Sig.sum`, `Prog.left` and `rights` embed a program over a part of an interface into
a larger one: its trace has events of that part only (`runs_left`).
-/

namespace Dingdongditch.Interaction

/-- An interface to an environment: its calls and the type of each answer. -/
structure Sig where
  Call : Type
  Answer : Call → Type

/-- A call together with the answer it got. -/
abbrev Event (S : Sig) : Type := Σ c : S.Call, S.Answer c

abbrev Trace (S : Sig) : Type := List (Event S)

/-- A program over the interface `S`.  `diverge` never returns and makes no
further call: it stands for a loop that outlives the bound its model was given. -/
inductive Prog (S : Sig) (α : Type) : Type
  | done (a : α)
  | call (c : S.Call) (next : S.Answer c → Prog S α)
  | diverge

variable {S T : Sig} {α β : Type}

/-- What an event shows, if anything, comes before what the later ones show. -/
theorem filterMap_cons_toList (f : α → Option β) (a : α) (l : List α) :
    (a :: l).filterMap f = (f a).toList ++ l.filterMap f := by
  cases found : f a with
  | none => exact List.filterMap_cons_none found
  | some b => exact List.filterMap_cons_some found

namespace Prog

def bind (p : Prog S α) (f : α → Prog S β) : Prog S β :=
  match p with
  | .done a => f a
  | .call c next => .call c fun answer => (next answer).bind f
  | .diverge => .diverge

instance : Monad (Prog S) where
  pure := .done
  bind := bind

@[simp] theorem pure_eq (a : α) : (pure a : Prog S α) = .done a := rfl

@[simp] theorem bind_eq (p : Prog S α) (f : α → Prog S β) : p >>= f = p.bind f := rfl

/-- Make the call `c` and return its answer. -/
def ask (c : S.Call) : Prog S (S.Answer c) := .call c .done

/-! ## Runs -/

/-- `Runs p t a`: some environment answers the calls of `p` as recorded in `t`,
and `p` then returns `a`. -/
inductive Runs : Prog S α → Trace S → α → Prop
  | done (a : α) : Runs (.done a) [] a
  | call {c : S.Call} {next : S.Answer c → Prog S α} {t : Trace S} {a : α}
      (answer : S.Answer c) (rest : Runs (next answer) t a) :
      Runs (.call c next) (⟨c, answer⟩ :: t) a

theorem runs_done {a b : α} {t : Trace S} :
    Runs (.done a) t b ↔ t = [] ∧ b = a := by
  constructor
  · intro run
    cases run
    exact ⟨rfl, rfl⟩
  · rintro ⟨rfl, rfl⟩
    exact .done b

theorem runs_call {c : S.Call} {next : S.Answer c → Prog S α} {t : Trace S} {a : α} :
    Runs (.call c next) t a ↔
      ∃ answer rest, t = ⟨c, answer⟩ :: rest ∧ Runs (next answer) rest a := by
  constructor
  · intro run
    cases run with
    | call answer rest => exact ⟨answer, _, rfl, rest⟩
  · rintro ⟨answer, rest, rfl, run⟩
    exact .call answer run

theorem not_runs_diverge {t : Trace S} {a : α} : ¬ Runs (.diverge) t a := by
  intro run
  cases run

theorem runs_bind {p : Prog S α} {f : α → Prog S β} {t : Trace S} {b : β} :
    Runs (p.bind f) t b ↔
      ∃ first a second, t = first ++ second ∧ Runs p first a ∧ Runs (f a) second b := by
  induction p generalizing t with
  | done a =>
      constructor
      · intro run
        exact ⟨[], a, t, rfl, .done a, run⟩
      · rintro ⟨first, a', second, rfl, left, right⟩
        cases left
        exact right
  | diverge =>
      constructor
      · intro run
        exact (not_runs_diverge run).elim
      · rintro ⟨first, a', second, -, left, -⟩
        exact (not_runs_diverge left).elim
  | call c next ih =>
      constructor
      · intro run
        cases run with
        | call answer rest =>
            obtain ⟨first, a, second, rfl, left, right⟩ := (ih answer).mp rest
            exact ⟨⟨c, answer⟩ :: first, a, second, rfl, .call answer left, right⟩
      · rintro ⟨first, a, second, rfl, left, right⟩
        cases left with
        | call answer rest =>
            exact .call answer ((ih answer).mpr ⟨_, a, second, rfl, rest, right⟩)

theorem Runs.bind {p : Prog S α} {f : α → Prog S β} {first second : Trace S} {a : α} {b : β}
    (left : Runs p first a) (right : Runs (f a) second b) :
    Runs (p.bind f) (first ++ second) b :=
  runs_bind.mpr ⟨first, a, second, rfl, left, right⟩

/-- The answers determine the run. -/
theorem Runs.unique {p : Prog S α} {t t' u u' : Trace S} {a a' : α} (run : Runs p t a)
    (run' : Runs p t' a') (same : t ++ u = t' ++ u') : t = t' ∧ a = a' := by
  induction run generalizing t' with
  | done a =>
      cases run'
      exact ⟨rfl, rfl⟩
  | call answer _ ih =>
      cases run' with
      | call answer' rest' =>
          obtain ⟨event, rest⟩ := List.cons.inj same
          cases event
          obtain ⟨rfl, rfl⟩ := ih rest' rest
          exact ⟨rfl, rfl⟩

end Prog

/-! ## Interfaces with two parts -/

/-- The interface that offers the calls of both parts. -/
def Sig.sum (S T : Sig) : Sig where
  Call := S.Call ⊕ T.Call
  Answer := Sum.elim S.Answer T.Answer

def Event.left (e : Event S) : Event (S.sum T) := ⟨.inl e.1, e.2⟩

def Event.right (e : Event T) : Event (S.sum T) := ⟨.inr e.1, e.2⟩

theorem Event.left_injective : Function.Injective (Event.left : Event S → Event (S.sum T)) := by
  intro e e' same
  cases e
  cases e'
  cases same
  rfl

/-- The events of the right part, in order. -/
def rights : Trace (S.sum T) → Trace T
  | [] => []
  | ⟨.inl _, _⟩ :: t => rights t
  | ⟨.inr c, answer⟩ :: t => ⟨c, answer⟩ :: rights t

@[simp] theorem rights_nil : rights ([] : Trace (S.sum T)) = [] := rfl

@[simp] theorem rights_left (e : Event S) (t : Trace (S.sum T)) :
    rights (Event.left e :: t) = rights t := rfl

@[simp] theorem rights_right (e : Event T) (t : Trace (S.sum T)) :
    rights (Event.right e :: t) = e :: rights t := rfl

@[simp] theorem rights_append (t u : Trace (S.sum T)) :
    rights (t ++ u) = rights t ++ rights u := by
  induction t with
  | nil => rfl
  | cons e t ih =>
      rcases e with ⟨c | c, answer⟩
      · exact ih
      · exact congrArg _ ih

@[simp] theorem rights_map_left (t : Trace S) :
    rights (t.map Event.left : Trace (S.sum T)) = [] := by
  induction t with
  | nil => rfl
  | cons e t ih => exact ih

theorem mem_rights {e : Event T} {t : Trace (S.sum T)} :
    e ∈ rights t ↔ Event.right e ∈ t := by
  induction t with
  | nil => exact iff_of_false List.not_mem_nil List.not_mem_nil
  | cons head t ih =>
      rcases head with ⟨c | c, answer⟩
      · have ne : (Event.right e : Event (S.sum T)) ≠ ⟨.inl c, answer⟩ := by
          intro eq
          cases congrArg Sigma.fst eq
        rw [List.mem_cons, or_iff_right ne]
        exact ih
      · have inj : (Event.right e : Event (S.sum T)) = ⟨.inr c, answer⟩ ↔ e = ⟨c, answer⟩ := by
          constructor
          · intro eq
            cases e
            cases eq
            rfl
          · rintro rfl
            rfl
        rw [List.mem_cons, inj, ← ih]
        exact List.mem_cons

namespace Prog

/-- Run a program of the left part under the larger interface. -/
def left : Prog S α → Prog (S.sum T) α
  | .done a => .done a
  | .call c next => .call (S := S.sum T) (.inl c) fun answer => (next answer).left
  | .diverge => .diverge

theorem runs_left {p : Prog S α} {t : Trace (S.sum T)} {a : α} :
    Runs (p.left (T := T)) t a ↔ ∃ u, t = u.map Event.left ∧ Runs p u a := by
  induction p generalizing t with
  | done b =>
      constructor
      · intro run
        obtain ⟨rfl, rfl⟩ := runs_done.mp run
        exact ⟨[], rfl, .done _⟩
      · rintro ⟨u, rfl, run⟩
        obtain ⟨rfl, rfl⟩ := runs_done.mp run
        exact .done _
  | diverge =>
      constructor
      · intro run
        exact (not_runs_diverge run).elim
      · rintro ⟨u, -, run⟩
        exact (not_runs_diverge run).elim
  | call c next ih =>
      constructor
      · intro run
        obtain ⟨answer, rest, rfl, after⟩ := runs_call.mp run
        obtain ⟨u, rfl, inner⟩ := (ih answer).mp after
        exact ⟨⟨c, answer⟩ :: u, rfl, runs_call.mpr ⟨answer, u, rfl, inner⟩⟩
      · rintro ⟨u, rfl, run⟩
        obtain ⟨answer, rest, rfl, after⟩ := runs_call.mp run
        exact runs_call.mpr ⟨answer, _, rfl, (ih answer).mpr ⟨rest, rfl, after⟩⟩

end Prog

end Dingdongditch.Interaction
