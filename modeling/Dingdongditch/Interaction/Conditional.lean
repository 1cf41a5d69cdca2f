import Dingdongditch.Interaction.Clients

/-!
# Interleavings under a condition

`InterleavedWhen` is an interleaving of clients in which every call of the
component meets a condition on the past of its caller and on the state it is made
in.  `InterleavedWhen.forall_clients` is the rule for what every client has done.
`playTurns` computes the interleaving that a list of turns asks for.
-/

namespace Dingdongditch.Interaction.Component

variable {S T : Sig} {σ ε ρ κ ω : Type} {C : Component S σ ε}

/-- An interleaving whose calls meet a condition. -/
inductive InterleavedWhen (starts : Prog (C.calls.sum T) ρ → Prop)
    (meets : Trace (C.calls.sum T) → C.Step → Prop) :
    σ → List (Client C T ρ) → List C.Step → σ → List (Client C T ρ) → Prop
  | stop (s : σ) (clients : List (Client C T ρ)) : InterleavedWhen starts meets s clients [] s clients
  | start {s s' : σ} {clients clients' : List (Client C T ρ)} {steps : List C.Step}
      {p : Prog (C.calls.sum T) ρ} (admitted : starts p)
      (later : InterleavedWhen starts meets s (clients ++ [⟨[], p⟩]) steps s' clients') :
      InterleavedWhen starts meets s clients steps s' clients'
  | call {s' : σ} {before after clients' : List (Client C T ρ)} {past : Trace (C.calls.sum T)}
      {steps : List C.Step} (step : C.Step) (met : meets past step)
      {next : C.calls.Answer step.method → Prog (C.calls.sum T) ρ}
      (later : InterleavedWhen starts meets step.after
        (before ++ ⟨past ++ [Event.left step.event], next step.outcome⟩ :: after) steps s' clients') :
      InterleavedWhen starts meets step.before
        (before ++ ⟨past, .call (.inl step.method) next⟩ :: after) (step :: steps) s' clients'
  | serve {s s' : σ} {before after clients' : List (Client C T ρ)} {past : Trace (C.calls.sum T)}
      {steps : List C.Step} (e : Event T) {next : T.Answer e.1 → Prog (C.calls.sum T) ρ}
      (later : InterleavedWhen starts meets s
        (before ++ ⟨past ++ [Event.right e], next e.2⟩ :: after) steps s' clients') :
      InterleavedWhen starts meets s (before ++ ⟨past, .call (.inr e.1) next⟩ :: after) steps
        s' clients'
  | finish {s s' : σ} {before after clients' : List (Client C T ρ)} {past : Trace (C.calls.sum T)}
      {steps : List C.Step} {a : ρ}
      (later : InterleavedWhen starts meets s (before ++ after) steps s' clients') :
      InterleavedWhen starts meets s (before ++ ⟨past, .done a⟩ :: after) steps s' clients'

namespace InterleavedWhen

variable {starts : Prog (C.calls.sum T) ρ → Prop} {meets : Trace (C.calls.sum T) → C.Step → Prop}
  {s s' : σ} {steps : List C.Step} {clients clients' : List (Client C T ρ)}

/-- Without the condition it is an interleaving. -/
theorem interleaved (run : InterleavedWhen starts meets s clients steps s' clients') :
    Interleaved starts s clients steps s' clients' := by
  induction run with
  | stop s clients => exact .stop s clients
  | start admitted _ ih => exact .start admitted ih
  | call step _ _ ih => exact .call step ih
  | serve e _ ih => exact .serve e ih
  | finish _ ih => exact .finish ih

open Interleaved in
/-- The rule for what every client has done: it holds of a client that starts, and
is kept by every call that the protocol allows and that meets the condition. -/
theorem forall_clients (protocol : Protocol (C.calls.sum T) κ) (final : κ → Prop)
    (P : Trace (C.calls.sum T) → Prop) (begins : P [])
    (calls : ∀ past (step : C.Step), meets past step →
      protocol.allowed (protocol.holding past) (Event.left step.event) → P past →
      P (past ++ [Event.left step.event]))
    (serves : ∀ past e, protocol.allowed (protocol.holding past) (Event.right e) → P past →
      P (past ++ [Event.right e]))
    (programs : ∀ p, starts p → p.Follows protocol protocol.start fun k _ => final k)
    (run : InterleavedWhen starts meets s clients steps s' clients')
    (follow : ∀ client ∈ clients, Client.Follows protocol final client ∧ P client.past) :
    ∀ client ∈ clients', Client.Follows protocol final client ∧ P client.past := by
  induction run with
  | stop => exact follow
  | start admitted _ ih =>
      apply ih
      intro client mem
      rcases List.mem_append.mp mem with old | new
      · exact follow client old
      · cases List.mem_singleton.mp new
        exact ⟨programs _ admitted, begins⟩
  | @call _ before _ _ past _ step met next _ ih =>
      obtain ⟨caller, holds⟩ := follow _ (List.mem_append_right before List.mem_cons_self)
      obtain ⟨allowed, rest⟩ := caller step.outcome
      apply ih
      exact forall_replaced follow ⟨.next rest, calls past step met allowed holds⟩
  | @serve _ _ before _ _ past _ e next _ ih =>
      obtain ⟨caller, holds⟩ := follow _ (List.mem_append_right before List.mem_cons_self)
      obtain ⟨allowed, rest⟩ := caller e.2
      apply ih
      exact forall_replaced follow ⟨.next rest, serves past e allowed holds⟩
  | @finish _ _ before _ _ _ _ _ _ ih =>
      apply ih
      intro client mem
      rcases List.mem_append.mp mem with left | right
      · exact follow client (List.mem_append_left _ left)
      · exact follow client (List.mem_append_right _ (List.mem_cons_of_mem _ right))

theorem of_started {programs : List (Prog (C.calls.sum T) ρ)} (admitted : ∀ p ∈ programs, starts p)
    (run : InterleavedWhen starts meets s (clients ++ programs.map fun p => ⟨[], p⟩) steps s' clients') :
    InterleavedWhen starts meets s clients steps s' clients' := by
  induction programs generalizing clients with
  | nil =>
      rw [List.map_nil, List.append_nil] at run
      exact run
  | cons p programs ih =>
      apply InterleavedWhen.start (admitted p List.mem_cons_self)
      apply ih
      · exact fun q mem => admitted q (List.mem_cons_of_mem p mem)
      · rw [List.append_assoc]
        exact run

end InterleavedWhen

/-! ## Turns -/

/-- One call of a client, if it has one to make that meets the condition. -/
def playTurn (C : Component S σ ε) (met : Trace (C.calls.sum T) → C.Step → Bool)
    (inner : Script S ω) (outer : Script T ω) (client : Client C T ρ) (s : σ) (w : ω) :
    Option (List C.Step × Client C T ρ × σ × ω) :=
  match client.rest with
  | .call (.inl m) next =>
      match played : ((C.body m) s).play inner w with
      | none => none
      | some (t, (outcome, s₁), w₁) =>
          let step : C.Step := ⟨m, s, t, outcome, s₁, Prog.runs_of_play played⟩
          if met client.past step then
            some ([step], ⟨client.past ++ [Event.left step.event], next outcome⟩, s₁, w₁)
          else none
  | .call (.inr c) next =>
      let answer := outer w c
      some ([], ⟨client.past ++ [Event.right ⟨c, answer.1⟩], next answer.1⟩, s, answer.2)
  | _ => none

/-- Each turn names the client that makes the next call. -/
def playTurns (C : Component S σ ε) (met : Trace (C.calls.sum T) → C.Step → Bool)
    (inner : Script S ω) (outer : Script T ω) :
    List Nat → List (Client C T ρ) → σ → ω → Option (List C.Step × List (Client C T ρ) × σ)
  | [], clients, s, _ => some ([], clients, s)
  | turn :: turns, clients, s, w => do
      let client ← clients[turn]?
      let (steps, client', s₁, w₁) ← playTurn C met inner outer client s w
      let (later, out) ← playTurns C met inner outer turns (clients.set turn client') s₁ w₁
      return (steps ++ later, out)

variable {starts : Prog (C.calls.sum T) ρ → Prop} {meets : Trace (C.calls.sum T) → C.Step → Prop}
  {met : Trace (C.calls.sum T) → C.Step → Bool} {inner : Script S ω} {outer : Script T ω}

/-- A turn, and the interleaving that goes on after it. -/
theorem interleaved_of_playTurn {client client' : Client C T ρ} {s s₁ s' : σ} {w w₁ : ω}
    {first steps : List C.Step} {before after clients' : List (Client C T ρ)}
    (sound : ∀ past step, met past step = true → meets past step)
    (played : playTurn C met inner outer client s w = some (first, client', s₁, w₁))
    (later : InterleavedWhen starts meets s₁ (before ++ client' :: after) steps s' clients') :
    InterleavedWhen starts meets s (before ++ client :: after) (first ++ steps) s' clients' := by
  rcases client with ⟨past, _ | ⟨m | c, next⟩ | _⟩
  · cases played
  · unfold playTurn at played
    dsimp only at played
    split at played
    · cases played
    · next t outcome s₂ w₂ single =>
        split at played
        · next holds =>
            cases played
            exact .call ⟨m, s, t, outcome, s₁, Prog.runs_of_play single⟩ (sound _ _ holds) later
        · cases played
  · cases played
    exact .serve ⟨c, (outer w c).1⟩ later
  · cases played

theorem interleaved_of_playTurns (sound : ∀ past step, met past step = true → meets past step)
    {turns : List Nat} {clients clients' : List (Client C T ρ)} {s s' : σ} {w : ω}
    {steps : List C.Step}
    (played : playTurns C met inner outer turns clients s w = some (steps, clients', s')) :
    InterleavedWhen starts meets s clients steps s' clients' := by
  induction turns generalizing clients s w steps with
  | nil =>
      cases played
      exact .stop _ _
  | cons turn turns ih =>
      obtain ⟨client, found, played⟩ := Option.bind_eq_some_iff.mp played
      obtain ⟨⟨first, client', s₁, w₁⟩, moved, played⟩ := Option.bind_eq_some_iff.mp played
      obtain ⟨⟨later, out⟩, rest, eq⟩ := Option.bind_eq_some_iff.mp played
      cases eq
      obtain ⟨inside, rfl⟩ := List.getElem?_eq_some_iff.mp found
      have split : clients = clients.take turn ++ clients[turn] :: clients.drop (turn + 1) := by
        rw [List.getElem_cons_drop, List.take_append_drop]
      have replaced : clients.set turn client' =
          clients.take turn ++ client' :: clients.drop (turn + 1) := by
        rw [List.set_eq_take_append_cons_drop, if_pos inside]
      rw [replaced] at rest
      have onward := interleaved_of_playTurn sound moved (ih rest)
      rw [← split] at onward
      exact onward

/-- Clients that take turns from their start, as an interleaving with a property that
can be evaluated. -/
theorem exists_interleavedWhen (met : Trace (C.calls.sum T) → C.Step → Bool) (inner : Script S ω)
    (outer : Script T ω)
    (sound : ∀ past step, met past step = true → meets past step)
    {programs : List (Prog (C.calls.sum T) ρ)} (admitted : ∀ p ∈ programs, starts p) (s : σ) (w : ω)
    (turns : List Nat) (P : List C.Step → List (Client C T ρ) → σ → Bool)
    (checked : (playTurns C met inner outer turns (programs.map fun p => ⟨[], p⟩) s w).any
      (fun out => P out.1 out.2.1 out.2.2) = true) :
    ∃ steps s' clients', InterleavedWhen starts meets s [] steps s' clients' ∧
      P steps clients' s' = true := by
  obtain ⟨⟨steps, clients', s'⟩, played, holds⟩ := (Option.any_eq_true _ _).mp checked
  refine ⟨steps, s', clients', ?_, holds⟩
  apply InterleavedWhen.of_started admitted
  exact interleaved_of_playTurns sound played

end Dingdongditch.Interaction.Component
