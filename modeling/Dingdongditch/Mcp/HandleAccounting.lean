import Dingdongditch.Mcp.HandleEffects
import Dingdongditch.Mcp.HandleProtocol

/-!
# The accounts of the handle table

The counters of the table are `Accounted` for by what the requests in flight hold,
in any interleaving of requests with each other, with failures and with the end of
the connection.
-/

namespace Dingdongditch.Mcp

open Interaction

variable {binding : Binding} {D : Type}

/-! ## The counters -/

/-- The counters are those of what the requests in flight hold. -/
structure Accounted (table : HandleTable) (claims : List Claim) : Prop where
  reservations : table.handleReservations =
    (claims.countP (·.holds table.handleGeneration) : Nat)
  room : table.handles.length + claims.countP (·.reserves table.handleGeneration) ≤ maxMcpHandles
  current : ∀ claim ∈ claims, ∀ generation, claim.generation = some generation →
    generation ≤ table.handleGeneration

theorem Accounted.fewer {table table' : HandleTable} {claims : List Claim}
    (accounted : Accounted table claims)
    (handles : table'.handles.length ≤ table.handles.length)
    (reservations : table'.handleReservations = table.handleReservations)
    (generation : table'.handleGeneration = table.handleGeneration) : Accounted table' claims where
  reservations := by
    rw [reservations, generation]
    exact accounted.reservations
  room := by
    have room := accounted.room
    rw [generation]
    omega
  current := by
    rw [generation]
    exact accounted.current

theorem Accounted.trim {table trimmed : HandleTable} {claims : List Claim}
    (accounted : Accounted table claims) (trim : Trimmed table trimmed) : Accounted trimmed claims :=
  accounted.fewer trim.handles.length_le trim.reservations trim.generation

/-- A request that reserves no more than it holds a reservation. -/
theorem countP_reserved_le (claims : List Claim) (generation : Nat) :
    claims.countP (·.reserves generation) ≤ claims.countP (·.holds generation) := by
  apply List.countP_mono_left
  intro claim _ reserved
  rw [of_decide_eq_true reserved]
  exact decide_eq_true rfl

/-- What one request changes of a count. -/
theorem countP_middle (p : Claim → Bool) (before after : List Claim) (claim : Claim) :
    (before ++ claim :: after).countP p =
      before.countP p + after.countP p + if p claim then 1 else 0 := by
  rw [List.countP_append, List.countP_cons, Nat.add_assoc]

variable {table : HandleTable} {before after : List Claim} {claim : Claim}

theorem Accounted.cleared {claims : List Claim} (accounted : Accounted table claims) :
    Accounted table.cleared claims := by
  have none : claims.countP (·.holds (table.handleGeneration + 1)) = 0 := by
    rw [List.countP_eq_zero]
    intro claim mem ahead
    have old := accounted.current claim mem _ (of_decide_eq_true ahead)
    omega
  have unreserved := countP_reserved_le claims (table.handleGeneration + 1)
  constructor
  · exact (congrArg Nat.cast none).symm
  · show 0 + claims.countP (·.reserves (table.handleGeneration + 1)) ≤ maxMcpHandles
    omega
  · intro claim mem generation held
    exact Nat.le_succ_of_le (accounted.current claim mem generation held)

/-- What holds of the claims of the others, and of one more, holds of all. -/
theorem current_replaced {new : Claim} {limit : Nat}
    (current : ∀ other ∈ before ++ claim :: after, ∀ generation, other.generation = some generation →
      generation ≤ limit)
    (own : ∀ generation, new.generation = some generation → generation ≤ limit) :
    ∀ other ∈ before ++ new :: after, ∀ generation, other.generation = some generation →
      generation ≤ limit := by
  intro other mem
  rcases List.mem_append.mp mem with left | right
  · exact current other (List.mem_append_left _ left)
  · rcases List.mem_cons.mp right with rfl | right
    · exact own
    · exact current other (List.mem_append_right _ (List.mem_cons_of_mem _ right))

/-- A request that held nothing takes a reservation. -/
theorem Accounted.reserved (accounted : Accounted table (before ++ .idle :: after))
    (room : table.full = false) :
    Accounted table.reserve (before ++ .reserved table.handleGeneration :: after) := by
  have reservations := accounted.reservations
  have fewer := countP_reserved_le before table.handleGeneration
  have fewer' := countP_reserved_le after table.handleGeneration
  have space := of_decide_eq_false room
  rw [countP_middle] at reservations
  simp at reservations
  constructor
  · show table.handleReservations + 1 =
      ((before ++ _ :: after).countP (·.holds table.handleGeneration) : Nat)
    rw [countP_middle]
    simp
    omega
  · show table.handles.length +
      (before ++ _ :: after).countP (·.reserves table.handleGeneration) ≤ maxMcpHandles
    rw [countP_middle]
    simp
    omega
  · apply current_replaced accounted.current
    intro generation held
    cases held
    exact le_refl table.handleGeneration

/-- A request gives back what it holds. -/
theorem Accounted.released {generation : Nat}
    (accounted : Accounted table (before ++ claim :: after))
    (held : claim.generation = some generation) :
    Accounted (table.release generation) (before ++ .idle :: after) := by
  have reservations := accounted.reservations
  have room := accounted.room
  have holds : claim.holds table.handleGeneration = decide (generation = table.handleGeneration) := by
    cases claim <;> cases held <;> simp
  rw [countP_middle] at reservations room
  rw [holds] at reservations
  unfold HandleTable.release
  by_cases now : generation = table.handleGeneration
  · rw [decide_eq_true now, if_pos rfl] at reservations
    rw [if_pos ⟨now, by omega⟩]
    constructor
    · show table.handleReservations - 1 =
        ((before ++ _ :: after).countP (·.holds table.handleGeneration) : Nat)
      rw [countP_middle]
      simp
      omega
    · show table.handles.length +
        (before ++ _ :: after).countP (·.reserves table.handleGeneration) ≤ maxMcpHandles
      rw [countP_middle]
      simp
      omega
    · exact current_replaced accounted.current nofun
  · rw [decide_eq_false now] at reservations
    rw [if_neg (fun both => now both.1)]
    constructor
    · rw [countP_middle]
      simpa using reservations
    · rw [countP_middle]
      simp
      omega
    · exact current_replaced accounted.current nofun

/-- A request mints a handle into its reservation. -/
theorem Accounted.minted {token : String} {item : OpaqueHandle}
    (accounted : Accounted table (before ++ .reserved table.handleGeneration :: after)) :
    Accounted { table with handles := Text.assign table.handles token item }
      (before ++ .minted table.handleGeneration :: after) := by
  have reservations := accounted.reservations
  have room := accounted.room
  have grown := Text.length_assign_le table.handles token item
  rw [countP_middle] at reservations room
  simp at reservations room
  constructor
  · rw [countP_middle]
    simpa using reservations
  · show (Text.assign table.handles token item).length +
      (before ++ _ :: after).countP (·.reserves table.handleGeneration) ≤ maxMcpHandles
    rw [countP_middle]
    simp
    omega
  · apply current_replaced accounted.current
    intro generation held
    cases held
    exact le_refl table.handleGeneration

theorem Accounted.started {claims : List Claim} (accounted : Accounted table claims) :
    Accounted table (claims ++ [.idle]) := by
  constructor
  · rw [List.countP_append]
    simpa using accounted.reservations
  · rw [List.countP_append]
    simpa using accounted.room
  · intro claim mem
    rcases List.mem_append.mp mem with old | new
    · exact accounted.current claim old
    · cases List.mem_singleton.mp new
      exact nofun

theorem Accounted.ended (accounted : Accounted table (before ++ .idle :: after)) :
    Accounted table (before ++ after) := by
  have reservations := accounted.reservations
  have room := accounted.room
  rw [countP_middle, ← List.countP_append] at reservations room
  refine ⟨by simpa using reservations, by simpa using room, ?_⟩
  intro claim mem
  apply accounted.current
  rcases List.mem_append.mp mem with left | right
  · exact List.mem_append_left _ left
  · exact List.mem_append_right _ (List.mem_cons_of_mem _ right)

theorem accounted_call (step : (handleTable binding).Step) (before : List Claim) (claim : Claim)
    (after : List Claim) (allowed : claim.Allows (D := D) (Event.left step.event))
    (accounted : Accounted step.before (before ++ claim :: after)) :
    Accounted step.after (before ++ claim.move (D := D) (Event.left step.event) :: after) := by
  have effect := effect step
  generalize step.event = e at allowed effect
  generalize step.before = table at accounted effect
  generalize step.after = table' at effect
  cases effect with
  | asked => cases claim <;> exact accounted
  | marked => cases claim <;> exact accounted.fewer le_rfl rfl rfl
  | cleared => cases claim <;> exact accounted.cleared
  | @failed _ method e mayFail trim =>
      have kept := accounted.trim trim
      cases method with
      | reserve | mint | take => cases claim <;> exact kept
      | _ => cases mayFail
  | reserved trim room =>
      obtain rfl : claim = .idle := allowed
      exact (accounted.trim trim).reserved room
  | released generation => cases claim <;> exact accounted.released allowed
  | minted token item trim current =>
      obtain ⟨generation, rfl, rfl⟩ := allowed
      obtain rfl := current generation rfl
      exact (accounted.trim trim).minted
  | taken trim _ => cases claim <;> exact accounted.trim trim
  | consumed trim _ =>
      cases claim <;> exact (accounted.trim trim).fewer (List.length_filter_le _ _) rfl rfl

/-! ## Every interleaving -/

/-- The programs of a server. -/
def IsTask (binding : Binding) (p : Prog (RequestSig binding D) (Except Failure (Reply D) × Unit)) :
    Prop :=
  ∃ task : Task D, p = task.program

/-- A request in flight. -/
abbrev InFlight (binding : Binding) (D : Type) : Type :=
  Component.Client (handleTable binding) (ServiceSig D) (Except Failure (Reply D) × Unit)

/-- The requests run side by side, from the start of the server. -/
abbrev Serves (binding : Binding) (steps : List (handleTable binding).Step) (table : HandleTable)
    (requests : List (InFlight binding D)) : Prop :=
  Component.Interleaved (IsTask binding) {} [] steps table requests

/-- What a request in flight holds. -/
def claimOf (request : InFlight binding D) : Claim :=
  Component.Interleaved.Client.holding (protocol binding D) request

theorem serves_accounted {steps : List (handleTable binding).Step}
    {requests : List (InFlight binding D)} (serves : Serves binding steps table requests) :
    Accounted table (requests.map claimOf) ∧
      ∀ step ∈ steps, ∃ claim : Claim, claim.Allows (D := D) (Event.left step.event) := by
  refine Component.Interleaved.invariant (protocol binding D) (· = .idle) Accounted
    ?_ ?_ ?_ ?_ ?_ serves ?_
  · exact fun _ _ => Accounted.started
  · exact accounted_call
  · intro table before claim after e _ accounted
    cases claim <;> exact accounted
  · rintro table before _ after rfl accounted
    exact accounted.ended
  · rintro _ ⟨task, rfl⟩
    exact task_follows task
  · exact ⟨rfl, Nat.zero_le _, by simp⟩

/-- A request that takes a prepared handle uses it up. -/
theorem prepared_consumed {step : (handleTable binding).Step} {claim : Claim}
    (allowed : claim.Allows (D := D) (Event.left step.event)) {token : String} {consume : Bool}
    (takes : takenHandle step.event = some (token, .prepared, consume)) : consume = true := by
  generalize step.event = e at allowed takes
  rcases e with ⟨method, answer⟩
  cases method with
  | take argument kind consumes =>
      cases argument with
      | str s =>
          cases answer with
          | error => cases takes
          | ok =>
              cases takes
              exact allowed rfl
      | none | other => cases takes
  | _ => cases takes

/-- The handle table in any interleaving of requests, with the tokens distinct. -/
theorem handle_table_governed {steps : List (handleTable binding).Step} {table : HandleTable}
    {requests : List (InFlight binding D)} (serves : Serves binding steps table requests)
    (fresh : (steps.flatMap drawnTokens).Nodup) :
    table.handles.length ≤ maxMcpHandles ∧
    0 ≤ table.handleReservations ∧
    table.handleReservations =
      (requests.countP fun request => (claimOf request).holds table.handleGeneration : Nat) ∧
    (requests = [] → table.handleReservations = 0) ∧
    (steps.Pairwise fun earlier later => ∀ token consume,
      takenHandle earlier.event = some (token, .prepared, consume) →
      ∀ again, takenHandle later.event ≠ some (token, .prepared, again)) ∧
    (steps.Pairwise fun earlier later => ∀ token kind,
      takenHandle earlier.event = some (token, kind, true) →
      ∀ again consume, takenHandle later.event ≠ some (token, again, consume)) ∧
    (∀ early clear late, steps = early ++ clear :: late → IsClear clear.event →
      ∀ mint ∈ early, ∀ take ∈ late, ∀ token, mintedToken mint.event = some token →
      ∀ kind consume, takenHandle take.event ≠ some (token, kind, consume)) ∧
    ∀ (task : Task D) (t : Trace (RequestSig binding D)) (out : Except Failure (Reply D) × Unit),
      task.program.Runs t out → t.filterMap releaseOf = t.filterMap reservationOf := by
  obtain ⟨accounted, allowed⟩ := serves_accounted serves
  have room := accounted.room
  have reservations : table.handleReservations =
      (requests.countP fun request => (claimOf request).holds table.handleGeneration : Nat) := by
    rw [accounted.reservations, List.countP_map]
    rfl
  have once := consumed_once serves.run (Set.eq_empty_of_forall_notMem fun _ => List.not_mem_nil) fresh
  refine ⟨by omega, by omega, reservations, ?_, ?_, once, ?_, fun task t out => reservations_returned task⟩
  · rintro rfl
    exact reservations
  · refine once.imp_of_mem ?_
    intro earlier later mem _ gone token consume takes again
    obtain ⟨claim, allows⟩ := allowed earlier mem
    obtain rfl := prepared_consumed allows takes
    exact gone token .prepared takes .prepared again
  · intro early clear late split clears mint first take second token mints kind consume
    exact dropped serves.run fresh split clears first second mints kind consume

/-! ## A concrete server -/

def exampleBinding : Binding where
  principal := "agent-a"
  sessionId := "session-a"

/-- The clock stands still, and the random texts are numbered. -/
def exampleTable : Script TableSig Nat
  | n, .now => ((1000 : Int), n)
  | n, .controlEpoch => (.ok (3 : Int), n)
  | n, .tokenUrlsafe => (toString n, n + 1)

/-- A service that does what it is asked. -/
def exampleService : Script (ServiceSig Unit) Nat
  | n, .requireArguments => (.ok (), n)
  | n, .observe => (.ok (⟨"observation-1", 1000, 3, 0⟩ : SessionObservation), n)
  | n, .parseOperation _ => (.ok (), n)
  | n, .execute _ _ => (.ok (), n)
  | n, .prepare _ => (.ok (⟨"runtime-token", 5000, ()⟩ : Prepared Unit), n)
  | n, .commit _ => (.ok (), n)
  | n, .prepareSpeculation _ => (.ok (⟨"runtime-token", 5000, 3, ()⟩ : SpeculationPrepared Unit), n)
  | n, .selectSpeculativeBranch _ => (.ok (), n)
  | n, .executeSelectedSpeculativeBranch _ =>
      (.ok (⟨(), some ⟨"runtime-token", 5000, ()⟩, none⟩ : SpeculationResult Unit), n)
  | n, .closeSession => (.ok (), n)

/-- The handles that the calls of some tasks take, one task after the other. -/
theorem exists_serves (tasks : List (Task Unit)) (takes : List (String × HandleKind × Bool))
    (checked : (Component.playClients (handleTable exampleBinding) exampleTable exampleService
      (tasks.map Task.program) {} 0).any (fun out =>
        decide ((out.1.flatMap drawnTokens).Nodup) &&
          decide (out.1.filterMap (fun step => takenHandle step.event) = takes)) = true) :
    ∃ steps table, Serves (D := Unit) exampleBinding steps table [] ∧
      (steps.flatMap drawnTokens).Nodup ∧
      steps.filterMap (fun step => takenHandle step.event) = takes := by
  have admitted : ∀ p ∈ tasks.map Task.program, IsTask exampleBinding p := by
    intro p mem
    obtain ⟨task, -, rfl⟩ := List.mem_map.mp mem
    exact ⟨task, rfl⟩
  obtain ⟨steps, table, serves, holds⟩ := Component.exists_interleaved exampleTable exampleService
    admitted {} 0 (fun steps _ => decide ((steps.flatMap drawnTokens).Nodup) &&
      decide (steps.filterMap (fun step => takenHandle step.event) = takes)) checked
  obtain ⟨fresh, same⟩ := Bool.and_eq_true_iff.mp holds
  exact ⟨steps, table, serves, of_decide_eq_true fresh, of_decide_eq_true same⟩

theorem handle_table_governed_commit :
    ∃ steps table, Serves (D := Unit) exampleBinding steps table [] ∧
      steps.filterMap (fun step => takenHandle step.event) =
        [("ddd_mcp_prepared_0", .prepared, true)] ∧ table.handleReservations = 0 := by
  obtain ⟨steps, table, serves, fresh, takes⟩ := exists_serves
    [.tool (.prepare ()), .tool (.commit (.str "ddd_mcp_prepared_0")), .disconnect]
    [("ddd_mcp_prepared_0", .prepared, true)] (by decide +kernel)
  exact ⟨steps, table, serves, takes, (handle_table_governed serves fresh).2.2.2.1 rfl⟩

/-- A speculation handle is taken for each selection of a branch. -/
theorem speculation_taken_again : ∃ steps table, Serves (D := Unit) exampleBinding steps table [] ∧
    (steps.flatMap drawnTokens).Nodup ∧
    ¬ steps.Pairwise fun earlier later => ∀ token consume,
      takenHandle earlier.event = some (token, .speculation, consume) →
      ∀ again, takenHandle later.event ≠ some (token, .speculation, again) := by
  obtain ⟨steps, table, serves, fresh, takes⟩ := exists_serves
    [.tool (.prepareSpeculation ()), .tool (.selectSpeculativeBranch (.str "ddd_mcp_speculation_0")),
      .tool (.selectSpeculativeBranch (.str "ddd_mcp_speculation_0"))]
    [("ddd_mcp_speculation_0", .speculation, false), ("ddd_mcp_speculation_0", .speculation, false)]
    (by decide +kernel)
  refine ⟨steps, table, serves, fresh, ?_⟩
  intro once
  have pairs : (steps.filterMap fun step => takenHandle step.event).Pairwise fun a b =>
      ¬ (a.2.1 = .speculation ∧ a.1 = b.1 ∧ b.2.1 = .speculation) := by
    refine List.pairwise_filterMap.mpr (once.imp ?_)
    rintro earlier later apart ⟨token, kind, consume⟩ takes' ⟨other, kind', again⟩ retakes ⟨rfl, rfl, rfl⟩
    exact apart token consume takes' again retakes
  rw [takes] at pairs
  simp at pairs

end Dingdongditch.Mcp
