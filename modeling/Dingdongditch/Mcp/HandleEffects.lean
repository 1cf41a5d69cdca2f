import Dingdongditch.Interaction.Freshness
import Dingdongditch.Mcp.Handles
import Dingdongditch.Text.Checks
import Mathlib.Data.Set.Basic

/-!
# What a call does to the handle table

`Effect` lists what each method can do to the table, and `effect` says that it
does nothing else.  A token that was drawn once leaves the table for good: a
handle that was consumed, or minted before all were dropped, is not taken again
(`spent`, `dropped`).
-/

namespace Dingdongditch.Mcp

open Interaction Text

variable {binding : Binding} {table table' : HandleTable}

/-- Some handles have expired. -/
structure Trimmed (table table' : HandleTable) : Prop where
  handles : table'.handles.Sublist table.handles
  reservations : table'.handleReservations = table.handleReservations
  generation : table'.handleGeneration = table.handleGeneration

theorem Trimmed.refl (table : HandleTable) : Trimmed table table := ⟨.refl _, rfl, rfl⟩

/-- The table without the handles that have expired. -/
def HandleTable.live (table : HandleTable) (now : Int) : HandleTable := { table with
  handles := table.handles.filter fun entry => now < entry.2.expiresAtMs
  consumedHandleTombstones := table.consumedHandleTombstones.filter fun entry => now < entry.2 }

theorem live_trimmed (table : HandleTable) (now : Int) : Trimmed table (table.live now) :=
  ⟨List.filter_sublist, rfl, rfl⟩

/-- The table without any handle, in its next generation. -/
def HandleTable.cleared (table : HandleTable) : HandleTable := { table with
  handles := []
  consumedHandleTombstones := []
  handleReservations := 0
  handleGeneration := table.handleGeneration + 1 }

/-- One more reservation. -/
def HandleTable.reserve (table : HandleTable) : HandleTable :=
  { table with handleReservations := table.handleReservations + 1 }

/-- One reservation of the generation less. -/
def HandleTable.release (table : HandleTable) (generation : Nat) : HandleTable :=
  if generation = table.handleGeneration ∧ 0 < table.handleReservations then
    { table with handleReservations := table.handleReservations - 1 }
  else table

/-- The methods that may raise. -/
def Method.mayFail : Method → Bool
  | .reserve => true
  | .mint _ _ _ _ _ => true
  | .take _ _ _ => true
  | _ => false

inductive Effect (binding : Binding) :
    HandleTable → Event (handleTable binding).calls → HandleTable → Prop
  | asked (table : HandleTable) (closed : Bool) : Effect binding table ⟨.isClosed, .ok closed⟩ table
  | marked (table : HandleTable) (closed : Bool) :
    Effect binding table ⟨.markClosed, .ok closed⟩ { table with closed := true }
  | cleared (table : HandleTable) : Effect binding table ⟨.clear, .ok ()⟩ table.cleared
  | failed {table table' : HandleTable} {method : Method} (e : Failure) :
    method.mayFail = true → Trimmed table table' → Effect binding table ⟨method, .error e⟩ table'
  | reserved {table trimmed : HandleTable} : Trimmed table trimmed → trimmed.full = false →
    Effect binding table ⟨.reserve, .ok trimmed.handleGeneration⟩ trimmed.reserve
  | released (table : HandleTable) (generation : Nat) :
    Effect binding table ⟨.release generation, .ok ()⟩ (table.release generation)
  | minted {table trimmed : HandleTable} {kind : HandleKind} {value : HandleValue}
    {expiresAtMs controlEpoch : Option Int} {reservation : Option Nat} (token : String)
    (item : OpaqueHandle) : Trimmed table trimmed →
    (∀ generation, reservation = some generation → generation = trimmed.handleGeneration) →
    Effect binding table
      ⟨.mint kind value expiresAtMs controlEpoch reservation, .ok token⟩
      { trimmed with handles := assign trimmed.handles token item }
  | taken {table trimmed : HandleTable} {token : String} {kind : HandleKind}
    {item reply : OpaqueHandle} : Trimmed table trimmed →
    trimmed.handles.lookup token = some item →
    Effect binding table ⟨.take (.str token) kind false, .ok reply⟩ trimmed
  | consumed {table trimmed : HandleTable} {token : String} {kind : HandleKind}
    {item reply : OpaqueHandle} : Trimmed table trimmed →
    trimmed.handles.lookup token = some item →
    Effect binding table ⟨.take (.str token) kind true, .ok reply⟩ (trimmed.consume token item)

/-! ## Statement by statement -/

section Statements

variable {α β : Type} {t : Trace TableSig} {r : Except Failure β}

theorem runs_cleanup_bind {f : Unit → TableAct β}
    (run : Act.Runs (cleanupHandles >>= f) table t r table') :
    ∃ (now : Int) (rest : Trace TableSig), t = ⟨.now, now⟩ :: rest ∧
      Act.Runs (f ()) (table.live now) rest r table' := by
  obtain ⟨now, rest, rfl, asked⟩ := Act.Runs.ask_bind_inv run
  exact ⟨now, rest, rfl, asked.modify_bind_inv⟩

theorem runs_reject_bind {bad : Bool} {code : String} {f : Unit → TableAct β}
    (run : Act.Runs (rejectWhen bad code >>= f) table t r table') :
    (∃ e, bad = true ∧ t = [] ∧ r = .error e ∧ table' = table) ∨
      bad = false ∧ Act.Runs (f ()) table t r table' := by
  rcases run.ofExcept_bind_inv with ⟨e, rejected, empty, raised, same⟩ | ⟨_, passed, run⟩
  · cases bad with
    | true => exact .inl ⟨e, rfl, empty, raised, same⟩
    | false => cases rejected
  · cases bad with
    | true => cases passed
    | false => exact .inr ⟨rfl, run⟩

theorem runs_attempt_bind {c : TableSig.Call} {view : TableSig.Answer c → Except Failure α}
    {f : α → TableAct β} (run : Act.Runs (Act.attempt c view >>= f) table t r table') :
    (∃ e, r = .error e ∧ table' = table) ∨ ∃ a rest, Act.Runs (f a) table rest r table' := by
  rcases run.bind_inv with ⟨e, rfl, raised⟩ | ⟨before, a, s₁, rest, rfl, first, next⟩
  · obtain ⟨_, -, -, same⟩ := Act.runs_attempt.mp raised
    exact .inl ⟨e, rfl, same⟩
  · obtain ⟨_, -, -, rfl⟩ := Act.runs_attempt.mp first
    exact .inr ⟨a, rest, next⟩

end Statements

/-- A reservation is refused when the table is full, after it was cleaned up. -/
theorem reserve_runs {t : Trace TableSig} {r : Except Failure Nat}
    (run : Act.Runs reserveHandleSlot table t r table') :
    ∃ now : Int, t = [⟨.now, now⟩] ∧
      ((∃ e, (table.live now).full = true ∧ r = .error e ∧ table' = table.live now) ∨
        (table.live now).full = false ∧ r = .ok (table.live now).handleGeneration ∧
          table' = (table.live now).reserve) := by
  obtain ⟨now, rest, rfl, cleaned⟩ := runs_cleanup_bind run
  rcases runs_reject_bind cleaned.get_bind_inv with ⟨e, full, rfl, raised, same⟩ | ⟨room, run⟩
  · exact ⟨now, rfl, .inl ⟨e, full, raised, same⟩⟩
  · obtain ⟨rfl, returned, same⟩ := Act.runs_pure.mp run.modify_bind_inv
    exact ⟨now, rfl, .inr ⟨room, returned, same⟩⟩

theorem reserve_effect {t : Trace TableSig} {r : Except Failure Nat}
    (run : Act.Runs reserveHandleSlot table t r table') :
    Effect binding table ⟨.reserve, r⟩ table' := by
  obtain ⟨now, -, ⟨e, -, rfl, rfl⟩ | ⟨room, rfl, rfl⟩⟩ := reserve_runs run
  · exact .failed e rfl (live_trimmed table now)
  · exact .reserved (live_trimmed table now) room

theorem enterHandle_runs {kind : HandleKind} {value : HandleValue} {epoch expiry : Int}
    {t : Trace TableSig} {r : Except Failure String}
    (run : Act.Runs (enterHandle binding kind value epoch expiry) table t r table') :
    (∃ e, r = .error e ∧ table' = table) ∨ ∃ token item, r = .ok token ∧
      table' = { table with handles := assign table.handles token item } := by
  obtain ⟨now, _, rfl, asked⟩ := Act.Runs.ask_bind_inv run
  rcases runs_reject_bind asked with ⟨e, -, -, failed⟩ | ⟨-, alive⟩
  · exact .inl ⟨e, failed⟩
  · obtain ⟨random, _, rfl, drawn⟩ := Act.Runs.ask_bind_inv alive
    obtain ⟨-, rfl, rfl⟩ := Act.runs_pure.mp drawn.modify_bind_inv
    exact .inr ⟨_, _, rfl, rfl⟩

/-- A handle is minted into the table that was cleaned up. -/
theorem mint_runs {kind : HandleKind} {value : HandleValue} {expiresAtMs controlEpoch : Option Int}
    {reservation : Option Nat} {t : Trace TableSig} {r : Except Failure String}
    (run : Act.Runs (mintHandle binding kind value expiresAtMs controlEpoch reservation)
      table t r table') :
    ∃ (now : Int) (rest : Trace TableSig), t = ⟨.now, now⟩ :: rest ∧
      ((∃ e, r = .error e ∧ table' = table.live now) ∨
        (∀ generation, reservation = some generation → generation = table.handleGeneration) ∧
          ∃ token item, r = .ok token ∧ table' = { table.live now with
            handles := assign (table.live now).handles token item }) := by
  obtain ⟨now, rest, rfl, cleaned⟩ := runs_cleanup_bind run
  refine ⟨now, rest, rfl, ?_⟩
  rcases runs_reject_bind cleaned.get_bind_inv with ⟨e, -, -, failed⟩ | ⟨current, run⟩
  · exact .inl ⟨e, failed⟩
  rcases runs_reject_bind run with ⟨e, -, -, failed⟩ | ⟨-, run⟩
  · exact .inl ⟨e, failed⟩
  have known : ∀ generation, reservation = some generation →
      generation = table.handleGeneration := by
    rintro generation rfl
    have same : ¬generation ≠ table.handleGeneration := of_decide_eq_false current
    exact not_not.mp same
  have aged : ∀ {epoch : Int} {u : Trace TableSig},
      Act.Runs (effectiveExpiry expiresAtMs >>= enterHandle binding kind value epoch)
        (table.live now) u r table' →
      (∃ e, r = .error e ∧ table' = table.live now) ∨ ∃ token item, r = .ok token ∧
        table' = { table.live now with handles := assign (table.live now).handles token item } := by
    intro epoch u run
    cases expiresAtMs with
    | some expiry => exact enterHandle_runs run
    | none =>
        obtain ⟨now, _, rfl, asked⟩ := Act.Runs.ask_bind_inv run
        exact enterHandle_runs asked
  have entered : (∃ e, r = .error e ∧ table' = table.live now) ∨ ∃ token item, r = .ok token ∧
      table' = { table.live now with handles := assign (table.live now).handles token item } := by
    cases controlEpoch with
    | some epoch => exact aged run
    | none =>
        rcases runs_attempt_bind run with failed | ⟨epoch, _, run⟩
        · exact .inl failed
        · exact aged run
  rcases entered with failed | minted
  · exact .inl failed
  · exact .inr ⟨known, minted⟩

theorem mint_effect {kind : HandleKind} {value : HandleValue} {expiresAtMs controlEpoch : Option Int}
    {reservation : Option Nat} {t : Trace TableSig} {r : Except Failure String}
    (run : Act.Runs (mintHandle binding kind value expiresAtMs controlEpoch reservation)
      table t r table') :
    Effect binding table ⟨.mint kind value expiresAtMs controlEpoch reservation, r⟩ table' := by
  obtain ⟨now, _, -, ⟨e, rfl, rfl⟩ | ⟨known, token, item, rfl, rfl⟩⟩ := mint_runs run
  · exact .failed e rfl (live_trimmed table now)
  · exact .minted token item (live_trimmed table now) known

theorem find_eq_ok {token : String} {kind : HandleKind} {item : OpaqueHandle}
    (found : table.find binding token kind = .ok item) : table.handles.lookup token = some item := by
  unfold HandleTable.find at found
  split at found
  · obtain ⟨_, -, impossible⟩ := bind_eq_ok.mp found
    cases impossible
  · next held entry =>
      obtain ⟨_, -, found⟩ := bind_eq_ok.mp found
      obtain ⟨_, -, found⟩ := bind_eq_ok.mp found
      obtain ⟨_, -, found⟩ := bind_eq_ok.mp found
      obtain ⟨_, -, found⟩ := bind_eq_ok.mp found
      obtain ⟨_, -, same⟩ := bind_eq_ok.mp found
      cases same
      exact (Option.filter_eq_some_iff.mp entry).1

theorem checkControlEpoch_bind {epoch : Option Int} {β : Type} {f : Unit → TableAct β}
    {t : Trace TableSig} {r : Except Failure β}
    (run : Act.Runs (checkControlEpoch epoch >>= f) table t r table') :
    (∃ e, r = .error e ∧ table' = table) ∨ ∃ rest, Act.Runs (f ()) table rest r table' := by
  cases epoch with
  | none => exact .inr ⟨t, run⟩
  | some epoch =>
      rcases run.bind_inv with ⟨e, rfl, raised⟩ | ⟨_, _, s₁, rest, rfl, passed, next⟩
      · rcases runs_attempt_bind raised with ⟨_, -, same⟩ | ⟨_, _, compared⟩
        · exact .inl ⟨e, rfl, same⟩
        · exact .inl ⟨e, rfl, (Act.runs_ofExcept.mp compared).2.2⟩
      · rcases runs_attempt_bind passed with ⟨_, impossible, -⟩ | ⟨_, _, compared⟩
        · cases impossible
        · obtain ⟨-, -, rfl⟩ := Act.runs_ofExcept.mp compared
          exact .inr ⟨rest, next⟩

/-- A handle is taken from the table that was cleaned up. -/
theorem take_runs {token : String} {kind : HandleKind} {consume : Bool} {t : Trace TableSig}
    {r : Except Failure OpaqueHandle}
    (run : Act.Runs (takeHandle binding (.str token) kind consume) table t r table') :
    (∃ e, r = .error e ∧ table' = table) ∨
      ∃ (now : Int) (rest : Trace TableSig), t = ⟨.now, now⟩ :: rest ∧
        ((∃ e, r = .error e ∧ table' = table.live now) ∨
          ∃ item, (table.live now).handles.lookup token = some item ∧
            r = .ok { item with consumed := consume } ∧
            table' = if consume then (table.live now).consume token item else table.live now) := by
  rcases runs_reject_bind run with ⟨e, -, -, failed⟩ | ⟨-, run⟩
  · exact .inl ⟨e, failed⟩
  obtain ⟨now, rest, rfl, cleaned⟩ := runs_cleanup_bind run
  refine .inr ⟨now, rest, rfl, ?_⟩
  rcases cleaned.get_bind_inv.ofExcept_bind_inv with ⟨e, -, -, failed⟩ | ⟨item, found, run⟩
  · exact .inl ⟨e, failed⟩
  rcases checkControlEpoch_bind run with failed | ⟨_, run⟩
  · exact .inl failed
  obtain ⟨-, returned, same⟩ := Act.runs_pure.mp run.modify_bind_inv
  exact .inr ⟨item, find_eq_ok found, returned, same⟩

theorem take_effect {argument : Argument} {kind : HandleKind} {consume : Bool} {t : Trace TableSig}
    {r : Except Failure OpaqueHandle}
    (run : Act.Runs (takeHandle binding argument kind consume) table t r table') :
    Effect binding table ⟨.take argument kind consume, r⟩ table' := by
  cases argument with
  | none | other =>
      obtain ⟨-, rfl, rfl⟩ := Act.runs_throw.mp run
      exact .failed _ rfl (.refl _)
  | str token =>
      obtain ⟨e, rfl, rfl⟩ | ⟨now, _, -, ⟨e, rfl, rfl⟩ | ⟨item, known, rfl, rfl⟩⟩ := take_runs run
      · exact .failed e rfl (.refl _)
      · exact .failed e rfl (live_trimmed table now)
      · cases consume with
        | true => exact .consumed (live_trimmed table now) known
        | false => exact .taken (live_trimmed table now) known

/-- A call has one of the listed effects. -/
theorem effect (step : (handleTable binding).Step) :
    Effect binding step.before step.event step.after := by
  rcases step with ⟨method, before, trace, outcome, after, run⟩
  cases method with
  | isClosed =>
      have reads : Act.Runs (get >>= fun table => pure table.closed) before trace outcome after := run
      obtain ⟨-, rfl, rfl⟩ := Act.runs_pure.mp reads.get_bind_inv
      exact .asked _ _
  | markClosed =>
      obtain ⟨-, rfl, rfl⟩ := Act.runs_modifyGet.mp run
      exact .marked _ _
  | clear =>
      obtain ⟨-, rfl, rfl⟩ := Act.runs_modifyGet.mp run
      exact .cleared _
  | reserve => exact reserve_effect run
  | release generation =>
      obtain ⟨-, rfl, rfl⟩ := Act.runs_modifyGet.mp run
      exact .released _ _
  | mint kind value expiresAtMs controlEpoch reservation => exact mint_effect run
  | take token kind consume => exact take_effect run

/-! ## Tokens -/

/-- The token of a handle that a call mints. -/
def mintedToken : Event (handleTable binding).calls → Option String
  | ⟨.mint _ _ _ _ _, .ok token⟩ => some token
  | _ => none

/-- The handle that a call takes, and whether it uses it up. -/
def takenHandle : Event (handleTable binding).calls → Option (String × HandleKind × Bool)
  | ⟨.take (.str token) kind consume, .ok _⟩ => some (token, kind, consume)
  | _ => none

theorem takenHandle_error (method : Method) (failure : Failure) :
    takenHandle (⟨method, .error failure⟩ : Event (handleTable binding).calls) = none := by
  cases method with
  | take argument => cases argument <;> rfl
  | _ => rfl

/-- A call that drops all handles. -/
def IsClear (e : Event (handleTable binding).calls) : Prop := e = ⟨.clear, .ok ()⟩

def HandleTable.tokens (table : HandleTable) : Set String :=
  { token | token ∈ table.handles.map Prod.fst }

theorem token_of_lookup {token : String} {item : OpaqueHandle}
    (found : table.handles.lookup token = some item) : token ∈ table.tokens :=
  List.mem_map.mpr ⟨_, mem_of_lookup found, rfl⟩

theorem Trimmed.tokens (trim : Trimmed table table') : table'.tokens ⊆ table.tokens :=
  fun _ mem => (trim.handles.map Prod.fst).subset mem

variable {e : Event (handleTable binding).calls} {token : String} {kind : HandleKind}

theorem Effect.draws (effect : Effect binding table e table') :
    ∀ x ∈ table'.tokens, x ∈ table.tokens ∨ x ∈ (mintedToken e).toList := by
  intro x mem
  cases effect with
  | asked | marked => exact .inl mem
  | cleared => exact (List.not_mem_nil mem).elim
  | failed _ _ trim => exact .inl (trim.tokens mem)
  | reserved trim _ => exact .inl (trim.tokens mem)
  | released generation =>
      unfold HandleTable.release at mem
      split at mem
      · exact .inl mem
      · exact .inl mem
  | minted token item trim _ =>
      obtain ⟨⟨other, held⟩, entry, rfl⟩ := List.mem_map.mp mem
      rcases mem_assign entry with old | ⟨rfl, -⟩
      · exact .inl (trim.tokens (List.mem_map_of_mem old))
      · exact .inr (List.mem_singleton.mpr rfl)
  | taken trim _ => exact .inl (trim.tokens mem)
  | consumed trim _ =>
      exact .inl (trim.tokens ((List.filter_sublist.map Prod.fst).subset mem))

/-- Only a handle of the table is taken. -/
theorem Effect.taken_known {consume : Bool} (effect : Effect binding table e table')
    (takes : takenHandle e = some (token, kind, consume)) : token ∈ table.tokens := by
  cases effect with
  | taken trim found =>
      cases takes
      exact trim.tokens (token_of_lookup found)
  | consumed trim found =>
      cases takes
      exact trim.tokens (token_of_lookup found)
  | failed =>
      rw [takenHandle_error] at takes
      cases takes
  | _ => cases takes

/-- A handle that is used up leaves the table. -/
theorem Effect.consumed_gone (effect : Effect binding table e table')
    (takes : takenHandle e = some (token, kind, true)) : token ∉ table'.tokens := by
  cases effect with
  | consumed trim found =>
      cases takes
      intro mem
      obtain ⟨⟨other, held⟩, entry, same⟩ := List.mem_map.mp mem
      have apart := (List.mem_filter.mp entry).2
      exact of_decide_eq_true apart same
  | taken => cases takes
  | failed =>
      rw [takenHandle_error] at takes
      cases takes
  | _ => cases takes

theorem Effect.clears (effect : Effect binding table e table') (clears : IsClear e) :
    table'.tokens = ∅ := by
  subst clears
  cases effect
  exact Set.eq_empty_of_forall_notMem fun _ => List.not_mem_nil

/-- The tokens that a call draws. -/
def drawnTokens (step : (handleTable binding).Step) : List String := (mintedToken step.event).toList

/-- A handle that is used up is not taken again. -/
theorem consumed_once {steps : List (handleTable binding).Step}
    (run : Component.Run (handleTable binding) table steps table') (start : table.tokens = ∅)
    (fresh : (steps.flatMap drawnTokens).Nodup) :
    steps.Pairwise fun earlier later => ∀ token kind, takenHandle earlier.event = some (token, kind, true) →
      ∀ again consume, takenHandle later.event ≠ some (token, again, consume) := by
  have old : ∀ x ∈ table.tokens, x ∉ steps.flatMap drawnTokens := by
    rw [start]
    exact fun _ mem => mem.elim
  refine (run.spent (fun step => (effect step).draws) old fresh).1.imp ?_
  intro earlier later gone token kind takes again consume retakes
  exact gone token ((effect earlier).taken_known takes) ((effect earlier).consumed_gone takes)
    ((effect later).taken_known retakes)

/-- A handle that was minted before all were dropped is not taken afterwards. -/
theorem dropped {steps early late : List (handleTable binding).Step} {clear : (handleTable binding).Step}
    (run : Component.Run (handleTable binding) table steps table')
    (fresh : (steps.flatMap drawnTokens).Nodup) (split : steps = early ++ clear :: late)
    (clears : IsClear clear.event) {mint take : (handleTable binding).Step} (first : mint ∈ early)
    (second : take ∈ late) {token : String} (mints : mintedToken mint.event = some token)
    (kind : HandleKind) (consume : Bool) : takenHandle take.event ≠ some (token, kind, consume) := by
  subst split
  obtain ⟨_, -, run⟩ := run.split
  cases run with
  | cons _ onward =>
      have empty : token ∉ clear.after.tokens := by
        rw [(effect clear).clears clears]
        exact id
      have undrawn : token ∉ late.flatMap drawnTokens := by
        rw [List.flatMap_append] at fresh
        intro again
        refine (List.nodup_append.mp fresh).2.2 token ?_ token ?_ rfl
        · exact List.mem_flatMap.mpr ⟨mint, first, by simp [drawnTokens, mints]⟩
        · rw [List.flatMap_cons]
          exact List.mem_append_right _ again
      have unknown := (onward.unknown (fun step => (effect step).draws) empty undrawn).1 take second
      exact fun takes => unknown ((effect take).taken_known takes)

end Dingdongditch.Mcp
