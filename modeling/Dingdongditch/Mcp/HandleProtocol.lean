import Dingdongditch.Mcp.Requests

/-!
# What a request holds

What a request in flight holds is read off its past: nothing, a reservation, or a
reservation into which a handle was minted (`Claim`).  Every task keeps to the
protocol of claims, whatever the service and the table answer, and so gives back
each of its reservations exactly once.
-/

namespace Dingdongditch.Mcp

open Interaction

variable {binding : Binding} {D : Type}

/-! ## Claims -/

inductive Claim
  | idle
  | reserved (generation : Nat)
  | minted (generation : Nat)
  deriving DecidableEq, Repr

/-- The generation of a reservation that is not given back. -/
def Claim.generation : Claim → Option Nat
  | .idle => none
  | .reserved generation => some generation
  | .minted generation => some generation

/-- The request holds a reservation of the generation. -/
def Claim.holds (generation : Nat) (claim : Claim) : Bool := claim.generation = some generation

/-- The request holds a reservation of the generation without a handle in it. -/
def Claim.reserves (generation : Nat) (claim : Claim) : Bool := claim = .reserved generation

@[simp] theorem holds_idle (generation : Nat) : Claim.idle.holds generation = false := rfl

@[simp] theorem holds_reserved (held generation : Nat) :
    (Claim.reserved held).holds generation = decide (held = generation) := by
  simp [Claim.holds, Claim.generation]

@[simp] theorem holds_minted (held generation : Nat) :
    (Claim.minted held).holds generation = decide (held = generation) := by
  simp [Claim.holds, Claim.generation]

@[simp] theorem reserves_idle (generation : Nat) : Claim.idle.reserves generation = false := rfl

@[simp] theorem reserves_reserved (held generation : Nat) :
    (Claim.reserved held).reserves generation = decide (held = generation) := by
  simp [Claim.reserves]

@[simp] theorem reserves_minted (held generation : Nat) :
    (Claim.minted held).reserves generation = false := rfl

def Claim.move : Claim → Event (RequestSig binding D) → Claim
  | _, ⟨.inl .reserve, .ok generation⟩ => .reserved generation
  | .reserved generation, ⟨.inl (.mint _ _ _ _ _), .ok _⟩ => .minted generation
  | _, ⟨.inl (.release _), _⟩ => .idle
  | claim, _ => claim

/-- A request reserves when it holds nothing, mints into its reservation, gives back
what it holds, and uses up the prepared handles that it takes. -/
def Claim.Allows (claim : Claim) : Event (RequestSig binding D) → Prop
  | ⟨.inl .reserve, _⟩ => claim = .idle
  | ⟨.inl (.mint _ _ _ _ reservation), _⟩ => ∃ generation, claim = .reserved generation ∧
      reservation = some generation
  | ⟨.inl (.release generation), _⟩ => claim.generation = some generation
  | ⟨.inl (.take _ kind consume), _⟩ => kind = .prepared → consume = true
  | _ => True

def protocol (binding : Binding) (D : Type) : Protocol (RequestSig binding D) Claim where
  start := .idle
  allowed := Claim.Allows
  move := Claim.move

/-! ## Requests keep to the protocol -/

section Follows

variable {α β : Type} {claim : Claim} {Q : Claim → Except Failure β → Prop}

theorem follows_service_bind {c : ServiceCall D} {f : c.Result → RequestAct binding D β}
    (raised : ∀ e, Q claim (.error e))
    (next : ∀ a, Act.Follows (protocol binding D) claim (f a) Q) :
    Act.Follows (protocol binding D) claim (service c >>= f) Q :=
  Act.follows_attempt_bind (fun _ => ⟨trivial, rfl⟩) raised next

/-- The calls that leave what a request holds. -/
def Method.neutral : Method → Prop
  | .reserve => False
  | .release _ => False
  | .mint _ _ _ _ _ => False
  | .take _ kind consume => kind = .prepared → consume = true
  | _ => True

theorem neutral_take {token : Argument} {kind : HandleKind} {consume : Bool}
    (once : kind = .prepared → consume = true) : (Method.take token kind consume).neutral := once

theorem follows_table_bind {method : Method} {f : method.Reply → RequestAct binding D β}
    (neutral : method.neutral) (raised : ∀ e, Q claim (.error e))
    (next : ∀ a, Act.Follows (protocol binding D) claim (f a) Q) :
    Act.Follows (protocol binding D) claim (table method >>= f) Q := by
  refine Act.follows_attempt_bind ?_ raised next
  intro answer
  cases method with
  | reserve | release | mint => exact neutral.elim
  | take => exact ⟨neutral, by cases claim <;> rfl⟩
  | isClosed | markClosed | clear => exact ⟨trivial, by cases claim <;> rfl⟩

/-- The request holds nothing. -/
def Idle (claim : Claim) (_ : Except Failure β) : Prop := claim = .idle

/-- The request holds a reservation of the generation. -/
def Holds (generation : Nat) (claim : Claim) (_ : Except Failure β) : Prop :=
  claim.generation = some generation

/-- Minting into a reservation, and what is done with the handle. -/
theorem follows_mint_bind {generation : Nat} {kind : HandleKind} {value : HandleValue}
    {expiresAtMs controlEpoch : Option Int} {f : String → RequestAct binding D β}
    (next : ∀ a, Act.Follows (protocol binding D) (.minted generation) (f a) (Holds generation)) :
    Act.Follows (protocol binding D) (.reserved generation)
      (table (.mint kind value expiresAtMs controlEpoch (some generation)) >>= f)
      (Holds generation) := by
  apply Act.Follows.bind (P := fun k r => match r with
    | .ok _ => k = .minted generation
    | .error _ => k = .reserved generation)
  · apply Act.follows_attempt
    intro answer
    refine ⟨⟨generation, rfl, rfl⟩, ?_⟩
    cases answer with
    | error => rfl
    | ok => rfl
  · rintro _ e rfl
    rfl
  · rintro _ a rfl
    exact next a

/-- A reservation is given back however the work ends. -/
theorem follows_withReservation {work : Nat → RequestAct binding D α}
    (holds : ∀ generation,
      Act.Follows (protocol binding D) (.reserved generation) (work generation) (Holds generation)) :
    Act.Follows (protocol binding D) .idle (withReservation work) Idle := by
  apply Act.Follows.bind (P := fun k r => match r with
    | .ok generation => k = .reserved generation
    | .error _ => k = .idle)
  · apply Act.follows_attempt
    intro answer
    refine ⟨rfl, ?_⟩
    cases answer with
    | error => rfl
    | ok => rfl
  · rintro _ e rfl
    rfl
  · rintro _ generation rfl
    apply (holds generation).andFinally
    intro k r held
    apply Act.follows_attempt
    intro answer
    refine ⟨held, ?_⟩
    cases k <;> rfl

theorem follows_withReservation_bind {work : Nat → RequestAct binding D α}
    {f : α → RequestAct binding D β}
    (holds : ∀ generation,
      Act.Follows (protocol binding D) (.reserved generation) (work generation) (Holds generation))
    (next : ∀ a, Act.Follows (protocol binding D) .idle (f a) Idle) :
    Act.Follows (protocol binding D) .idle (withReservation work >>= f) Idle := by
  apply (follows_withReservation holds).bind
  · rintro _ e rfl
    rfl
  · rintro _ a rfl
    exact next a

theorem follows_pure {a : β} (holds : Q claim (.ok a)) :
    Act.Follows (protocol binding D) claim (pure a : RequestAct binding D β) Q :=
  Act.follows_pure holds

theorem follows_throw {e : Failure} (holds : Q claim (.error e)) :
    Act.Follows (protocol binding D) claim (throw e : RequestAct binding D β) Q :=
  Act.follows_throw holds

end Follows

theorem publishObservation_follows (previous : Option SessionObservation) (element : Option String) :
    Act.Follows (protocol binding D) .idle (publishObservation previous element) Idle := by
  apply follows_withReservation_bind
  · intro generation
    apply follows_service_bind (fun _ => rfl)
    intro observed
    apply follows_mint_bind
    exact fun handle => follows_pure rfl
  · exact fun published => follows_pure rfl

/-- Work that holds nothing, and what follows it. -/
theorem Idle.bind {α β : Type} {m : RequestAct binding D α} {f : α → RequestAct binding D β}
    (first : Act.Follows (protocol binding D) .idle m Idle)
    (next : ∀ a, Act.Follows (protocol binding D) .idle (f a) Idle) :
    Act.Follows (protocol binding D) .idle (m >>= f) Idle := by
  apply first.bind
  · rintro _ e rfl
    rfl
  · rintro _ a rfl
    exact next a

theorem takeObservation_follows {α : Type} (token : String)
    (f : SessionObservation → RequestAct binding D α)
    (next : ∀ a, Act.Follows (protocol binding D) .idle (f a) Idle) :
    Act.Follows (protocol binding D) .idle (do
      let item : OpaqueHandle ← table (.take (.str token) .observation false)
      let observed ← Act.ofExcept (observationOf item)
      f observed) Idle := by
  refine follows_table_bind ?_ (fun _ => rfl) ?_
  · exact neutral_take nofun
  intro item
  apply Act.follows_ofExcept_bind (fun _ => rfl)
  exact fun observed _ => next observed

theorem previousObservation_follows (handle : Argument) :
    Act.Follows (protocol binding D) .idle (previousObservation handle) Idle := by
  cases handle with
  | none => exact follows_pure rfl
  | other => exact follows_throw rfl
  | str s =>
      unfold previousObservation
      dsimp only
      split
      · exact follows_throw rfl
      · exact takeObservation_follows s _ fun observed => follows_pure rfl

theorem observationReference_follows (handle element : Argument) :
    Act.Follows (protocol binding D) .idle (observationReference handle element) Idle := by
  unfold observationReference
  split
  · exact follows_pure rfl
  · split
    · exact follows_throw rfl
    · exact takeObservation_follows _ _ fun observed => follows_pure rfl
  · exact follows_throw rfl

theorem handler_follows (request : Request D) :
    Act.Follows (protocol binding D) .idle (handler request) Idle := by
  cases request with
  | getContract | getCapabilities =>
      apply follows_service_bind (fun _ => rfl)
      exact fun _ => follows_pure rfl
  | observe =>
      apply follows_service_bind (fun _ => rfl)
      exact fun _ => publishObservation_follows _ _
  | reobserve handle element =>
      apply follows_service_bind (fun _ => rfl)
      intro _
      apply (previousObservation_follows handle).bind
      · exact fun _ _ idle => idle
      rintro _ previous rfl
      apply Act.follows_ofExcept_bind (fun _ => rfl)
      intro element _
      dsimp only
      split
      · exact follows_throw rfl
      · exact publishObservation_follows _ _
  | execute operation handle element =>
      apply follows_service_bind (fun _ => rfl)
      intro _
      apply follows_service_bind (fun _ => rfl)
      intro _
      apply Idle.bind (observationReference_follows handle element)
      intro reference
      apply follows_service_bind (fun _ => rfl)
      exact fun result => follows_pure rfl
  | prepare operation =>
      apply follows_service_bind (fun _ => rfl)
      intro _
      apply follows_withReservation_bind
      · intro generation
        apply follows_service_bind (fun _ => rfl)
        intro prepared
        apply follows_mint_bind
        exact fun handle => follows_pure rfl
      · exact fun published => follows_pure rfl
  | commit handle =>
      apply follows_service_bind (fun _ => rfl)
      intro _
      refine follows_table_bind ?_ (fun _ => rfl) ?_
      · exact neutral_take fun _ => rfl
      intro item
      apply follows_service_bind (fun _ => rfl)
      exact fun result => follows_pure rfl
  | prepareSpeculation plan =>
      apply follows_service_bind (fun _ => rfl)
      intro _
      apply follows_withReservation_bind
      · intro generation
        apply follows_service_bind (fun _ => rfl)
        intro prepared
        apply follows_mint_bind
        exact fun handle => follows_pure rfl
      · exact fun published => follows_pure rfl
  | selectSpeculativeBranch handle =>
      apply follows_service_bind (fun _ => rfl)
      intro _
      refine follows_table_bind ?_ (fun _ => rfl) ?_
      · exact neutral_take nofun
      intro item
      apply follows_service_bind (fun _ => rfl)
      exact fun selection => follows_pure rfl
  | executeSelectedSpeculativeBranch handle =>
      apply follows_service_bind (fun _ => rfl)
      intro _
      refine follows_table_bind ?_ (fun _ => rfl) ?_
      · exact neutral_take nofun
      intro item
      apply follows_withReservation
      intro generation
      apply follows_service_bind (fun _ => rfl)
      intro result
      split
      · apply follows_mint_bind
        exact fun handle => follows_pure rfl
      · exact follows_pure rfl
  | unknown name => exact follows_throw rfl

theorem close_follows : Act.Follows (protocol binding D) .idle close Idle := by
  refine follows_table_bind ?_ (fun _ => rfl) ?_
  · exact trivial
  intro closed
  cases closed with
  | true => exact follows_pure rfl
  | false =>
      refine follows_table_bind ?_ (fun _ => rfl) ?_
      · exact trivial
      intro _
      apply follows_service_bind (fun _ => rfl)
      exact fun _ => follows_pure rfl

/-- Every task keeps to the protocol and holds nothing at its end. -/
theorem task_follows (task : Task D) :
    task.program.Follows (protocol binding D) .idle fun claim _ => claim = .idle := by
  have follows : Act.Follows (protocol binding D) .idle task.act Idle := by
    cases task with
    | tool request =>
        refine follows_table_bind ?_ (fun _ => rfl) ?_
        · exact trivial
        intro closed
        cases closed with
        | true => exact follows_throw rfl
        | false => exact handler_follows request
    | close => exact close_follows
    | disconnect =>
        refine follows_table_bind ?_ (fun _ => rfl) ?_
        · exact trivial
        intro _
        split
        · exact close_follows
        · exact follows_pure rfl
  exact follows ()

/-! ## Reservations of one request -/

def reservationOf : Event (RequestSig binding D) → Option Nat
  | ⟨.inl .reserve, .ok generation⟩ => some generation
  | _ => none

def releaseOf : Event (RequestSig binding D) → Option Nat
  | ⟨.inl (.release generation), _⟩ => some generation
  | _ => none

theorem balanced_event {claim : Claim} {e : Event (RequestSig binding D)} (allowed : claim.Allows e) :
    claim.generation.toList ++ (reservationOf e).toList =
      (releaseOf e).toList ++ (claim.move e).generation.toList := by
  rcases e with ⟨method | call, answer⟩
  · cases method with
    | reserve =>
        obtain rfl : claim = .idle := allowed
        cases answer <;> rfl
    | release generation =>
        cases claim with
        | idle => cases allowed
        | reserved held | minted held =>
            cases allowed
            rfl
    | mint =>
        obtain ⟨generation, rfl, -⟩ := allowed
        cases answer <;> rfl
    | isClosed | markClosed | clear | take => cases claim <;> rfl
  · cases claim <;> rfl

/-- What is reserved is given back, up to what is held at the start and the end. -/
theorem balanced {claim : Claim} {t : Trace (RequestSig binding D)}
    (admits : (protocol binding D).Admits claim t) :
    claim.generation.toList ++ t.filterMap reservationOf =
      t.filterMap releaseOf ++ (t.foldl Claim.move claim).generation.toList := by
  induction t generalizing claim with
  | nil => simp
  | cons e t ih =>
      obtain ⟨allowed, rest⟩ := admits
      have head := balanced_event allowed
      calc claim.generation.toList ++ (e :: t).filterMap reservationOf
        _ = claim.generation.toList ++ ((reservationOf e).toList ++ t.filterMap reservationOf) := by
            rw [filterMap_cons_toList]
        _ = (releaseOf e).toList ++ ((claim.move e).generation.toList ++ t.filterMap reservationOf) := by
            rw [← List.append_assoc, head, List.append_assoc]
        _ = (releaseOf e).toList ++ (t.filterMap releaseOf ++
              (t.foldl Claim.move (claim.move e)).generation.toList) := congrArg _ (ih rest)
        _ = (e :: t).filterMap releaseOf ++ ((e :: t).foldl Claim.move claim).generation.toList := by
            rw [filterMap_cons_toList, List.append_assoc]
            rfl

/-- A request gives back each of its reservations exactly once, whatever the
service and the table answer. -/
theorem reservations_returned (task : Task D) {t : Trace (RequestSig binding D)}
    {out : Except Failure (Reply D) × Unit} (run : task.program.Runs t out) :
    t.filterMap releaseOf = t.filterMap reservationOf := by
  obtain ⟨admits, last⟩ := (task_follows task).admits run
  have balance := balanced admits
  rw [show t.foldl Claim.move .idle = .idle from last] at balance
  simpa [Claim.generation] using balance.symm

end Dingdongditch.Mcp
