import Dingdongditch.Interaction.Conditional
import Dingdongditch.Mcp.HandleAccounting

/-!
# Handles that are used up

A request uses a handle up before it calls the service with it.  In between, only
the execution of a speculative branch reserves room, which the handle has just
freed: the reservation is refused when other requests have filled the table by then,
and the handle is lost (`speculation_handle_lost`).  Where there is room, every
handle that is used up reaches the service, and a request that does not reach it
leaves all handles in the table (`handles_not_lost`).
-/

namespace Dingdongditch.Mcp

open Interaction Text

variable {binding : Binding} {D : Type}

/-! ## What a request has used up -/

/-- What a request owes to the service: nothing, the value of a handle that it used
up, or one that it gave up after a refused reservation. -/
inductive Spending
  | idle
  | spent (value : HandleValue)
  | lost (value : HandleValue)

def Spending.pending : Spending → Option HandleValue
  | .idle => none
  | .spent value => some value
  | .lost value => some value

/-- The value of a handle that is used up. -/
def spentValue : Event (RequestSig binding D) → Option HandleValue
  | ⟨.inl (.take _ _ true), .ok item⟩ => some item.value
  | _ => none

/-- The value that the service is called with. -/
def servedValue : Event (RequestSig binding D) → Option HandleValue
  | ⟨.inr (.commit value), _⟩ => some value
  | ⟨.inr (.executeSelectedSpeculativeBranch value), _⟩ => some value
  | _ => none

def Spending.move : Spending → Event (RequestSig binding D) → Spending
  | _, ⟨.inl (.take _ _ true), .ok item⟩ => .spent item.value
  | .spent value, ⟨.inl .reserve, .error _⟩ => .lost value
  | _, ⟨.inr (.commit _), _⟩ => .idle
  | _, ⟨.inr (.executeSelectedSpeculativeBranch _), _⟩ => .idle
  | spending, _ => spending

/-- One handle is used up at a time, and the service is called with the value of the
one that was used up. -/
def Spending.Allows (spending : Spending) : Event (RequestSig binding D) → Prop
  | ⟨.inl (.take _ _ consume), _⟩ => consume = true → spending = .idle
  | ⟨.inr (.commit value), _⟩ => spending = .spent value
  | ⟨.inr (.executeSelectedSpeculativeBranch value), _⟩ => spending = .spent value
  | _ => True

def spendingProtocol (binding : Binding) (D : Type) : Protocol (RequestSig binding D) Spending where
  start := .idle
  allowed := Spending.Allows
  move := Spending.move

theorem spending_event {spending : Spending} {e : Event (RequestSig binding D)}
    (allowed : spending.Allows e) :
    spending.pending.toList ++ (spentValue e).toList =
      (servedValue e).toList ++ (spending.move e).pending.toList := by
  rcases e with ⟨method | call, answer⟩
  · cases method with
    | take argument kind consume =>
        cases consume with
        | false => cases spending <;> simp [spentValue, servedValue, Spending.move, Spending.pending]
        | true =>
            obtain rfl : spending = .idle := allowed rfl
            cases answer <;> rfl
    | reserve => cases spending <;> cases answer <;> rfl
    | isClosed | markClosed | clear | release | mint => cases spending <;> rfl
  · cases call with
    | commit | executeSelectedSpeculativeBranch =>
        obtain rfl := allowed
        rfl
    | _ => cases spending <;> rfl

/-! ## Requests keep to the protocol -/

section Follows

variable {α : Type} {spending : Spending}

/-- The calls of the service that do not take the value of a handle that is used up. -/
def ServiceCall.plain : ServiceCall D → Prop
  | .commit _ => False
  | .executeSelectedSpeculativeBranch _ => False
  | _ => True

theorem stays_service_bind {c : ServiceCall D} {f : c.Result → RequestAct binding D α}
    (plain : c.plain) (next : ∀ a, Act.Stays (spendingProtocol binding D) spending (f a)) :
    Act.Stays (spendingProtocol binding D) spending (service c >>= f) := by
  refine Act.Stays.bind (Act.stays_attempt ?_) next
  intro answer
  cases c with
  | commit | executeSelectedSpeculativeBranch => exact plain.elim
  | _ => exact ⟨trivial, by cases spending <;> rfl⟩

/-- The calls of the table that do not use a handle up. -/
def Method.keeps : Method → Prop
  | .take _ _ consume => consume = false
  | _ => True

theorem stays_table {method : Method} (keeps : method.keeps) :
    Act.Stays (spendingProtocol binding D) .idle (table method) := by
  apply Act.stays_attempt
  intro answer
  cases method with
  | take argument kind consume =>
      obtain rfl : consume = false := keeps
      exact ⟨nofun, rfl⟩
  | reserve => cases answer <;> exact ⟨trivial, rfl⟩
  | _ => exact ⟨trivial, rfl⟩

theorem stays_table_bind {method : Method} {f : method.Reply → RequestAct binding D α}
    (keeps : method.keeps) (next : ∀ a, Act.Stays (spendingProtocol binding D) .idle (f a)) :
    Act.Stays (spendingProtocol binding D) .idle (table method >>= f) :=
  (stays_table keeps).bind next

theorem stays_withReservation {work : Nat → RequestAct binding D α}
    (stays : ∀ generation, Act.Stays (spendingProtocol binding D) .idle (work generation)) :
    Act.Stays (spendingProtocol binding D) .idle (withReservation work) := by
  refine stays_table_bind trivial ?_
  intro generation
  exact (stays generation).andFinally (stays_table trivial)

end Follows

theorem publishObservation_stays (previous : Option SessionObservation) (element : Option String) :
    Act.Stays (spendingProtocol binding D) .idle (publishObservation previous element) := by
  apply Act.Stays.bind
  · apply stays_withReservation
    intro generation
    refine stays_service_bind trivial ?_
    intro observed
    refine stays_table_bind trivial ?_
    exact fun handle => Act.stays_pure
  · exact fun published => Act.stays_pure

theorem previousObservation_stays (handle : Argument) :
    Act.Stays (spendingProtocol binding D) .idle (previousObservation handle) := by
  cases handle with
  | none => exact Act.stays_pure
  | other => exact Act.stays_throw
  | str s =>
      unfold previousObservation
      dsimp only
      split
      · exact Act.stays_throw
      · refine stays_table_bind rfl ?_
        intro item
        exact Act.stays_ofExcept.bind fun observed => Act.stays_pure

theorem observationReference_stays (handle element : Argument) :
    Act.Stays (spendingProtocol binding D) .idle (observationReference handle element) := by
  unfold observationReference
  split
  · exact Act.stays_pure
  · split
    · exact Act.stays_throw
    · refine stays_table_bind rfl ?_
      intro item
      exact Act.stays_ofExcept.bind fun observed => Act.stays_pure
  · exact Act.stays_throw

/-- At its end a request owes nothing, or has lost a handle. -/
def Spending.Settled (spending : Spending) : Prop := ∀ value, spending ≠ .spent value

theorem settled_of_stays {α : Type} {m : RequestAct binding D α}
    (stays : Act.Stays (spendingProtocol binding D) .idle m) :
    Act.Follows (spendingProtocol binding D) .idle m fun spending _ => spending.Settled := by
  apply stays.mono
  rintro _ _ rfl
  exact nofun

theorem follows_arguments_bind {β : Type} {f : Unit → RequestAct binding D β}
    (next : Act.Follows (spendingProtocol binding D) .idle (f ()) fun spending _ => spending.Settled) :
    Act.Follows (spendingProtocol binding D) .idle (service .requireArguments >>= f)
      fun spending _ => spending.Settled :=
  Act.follows_attempt_bind (fun _ => ⟨trivial, rfl⟩) (fun _ => nofun) fun _ => next

/-- A handle is used up, and the request goes on with its value. -/
theorem follows_consume {β : Type} {argument : Argument} {kind : HandleKind}
    {f : OpaqueHandle → RequestAct binding D β}
    (next : ∀ item, Act.Follows (spendingProtocol binding D) (.spent item.value) (f item)
      fun spending _ => spending.Settled) :
    Act.Follows (spendingProtocol binding D) .idle (table (.take argument kind true) >>= f)
      fun spending _ => spending.Settled := by
  apply Act.Follows.bind (P := fun spending r => match r with
    | .ok item => spending = .spent item.value
    | .error _ => spending = .idle)
  · apply Act.follows_attempt
    intro answer
    refine ⟨fun _ => rfl, ?_⟩
    cases answer with
    | error => rfl
    | ok => rfl
  · rintro _ e rfl
    exact nofun
  · rintro _ item rfl
    exact next item

theorem commit_settles (handle : Argument) :
    Act.Follows (spendingProtocol binding D) .idle (commit handle)
      fun spending _ => spending.Settled := by
  refine follows_arguments_bind ?_
  apply follows_consume
  intro item
  apply Act.Follows.bind (P := fun spending _ => spending = .idle)
  · apply Act.follows_attempt
    exact fun answer => ⟨rfl, rfl⟩
  · rintro _ e rfl
    exact nofun
  · rintro _ result rfl
    exact settled_of_stays Act.stays_pure

theorem executeSpeculation_settles (handle : Argument) :
    Act.Follows (spendingProtocol binding D) .idle (executeSpeculation handle)
      fun spending _ => spending.Settled := by
  refine follows_arguments_bind ?_
  apply follows_consume
  intro item
  apply Act.Follows.bind (P := fun spending r => match r with
    | .ok _ => spending = .spent item.value
    | .error _ => spending = .lost item.value)
  · apply Act.follows_attempt
    intro answer
    refine ⟨trivial, ?_⟩
    cases answer with
    | error => rfl
    | ok => rfl
  · rintro _ e rfl
    exact nofun
  rintro _ reservation rfl
  apply Act.Follows.andFinally (P := fun spending _ => spending = .idle)
  · apply Act.Follows.bind (P := fun spending _ => spending = .idle)
    · apply Act.follows_attempt
      exact fun answer => ⟨rfl, rfl⟩
    · rintro _ e rfl
      rfl
    · rintro _ result rfl
      split
      · refine stays_table_bind trivial ?_
        exact fun handle => Act.stays_pure
      · exact Act.stays_pure
  · rintro _ r rfl
    exact settled_of_stays (stays_table trivial)

theorem handler_settles (request : Request D) :
    Act.Follows (spendingProtocol binding D) .idle (handler request)
      fun spending _ => spending.Settled := by
  cases request with
  | commit handle => exact commit_settles handle
  | executeSelectedSpeculativeBranch handle => exact executeSpeculation_settles handle
  | getContract | getCapabilities =>
      apply settled_of_stays
      exact stays_service_bind trivial fun _ => Act.stays_pure
  | observe =>
      apply settled_of_stays
      exact stays_service_bind trivial fun _ => publishObservation_stays _ _
  | reobserve handle element =>
      apply settled_of_stays
      refine stays_service_bind trivial ?_
      intro _
      apply (previousObservation_stays handle).bind
      intro previous
      apply Act.stays_ofExcept.bind
      intro element
      dsimp only
      split
      · exact Act.stays_throw
      · exact publishObservation_stays _ _
  | execute operation handle element =>
      apply settled_of_stays
      refine stays_service_bind trivial ?_
      intro _
      refine stays_service_bind trivial ?_
      intro _
      apply (observationReference_stays handle element).bind
      intro reference
      exact stays_service_bind trivial fun result => Act.stays_pure
  | prepare operation =>
      apply settled_of_stays
      refine stays_service_bind trivial ?_
      intro _
      apply Act.Stays.bind
      · apply stays_withReservation
        intro generation
        refine stays_service_bind trivial ?_
        intro prepared
        exact stays_table_bind trivial fun handle => Act.stays_pure
      · exact fun published => Act.stays_pure
  | prepareSpeculation plan =>
      apply settled_of_stays
      refine stays_service_bind trivial ?_
      intro _
      apply Act.Stays.bind
      · apply stays_withReservation
        intro generation
        refine stays_service_bind trivial ?_
        intro prepared
        exact stays_table_bind trivial fun handle => Act.stays_pure
      · exact fun published => Act.stays_pure
  | selectSpeculativeBranch handle =>
      apply settled_of_stays
      refine stays_service_bind trivial ?_
      intro _
      refine stays_table_bind rfl ?_
      intro item
      exact stays_service_bind trivial fun selection => Act.stays_pure
  | unknown name => exact settled_of_stays Act.stays_throw

theorem close_stays : Act.Stays (spendingProtocol binding D) .idle close := by
  refine stays_table_bind trivial ?_
  intro closed
  cases closed with
  | true => exact Act.stays_pure
  | false =>
      refine stays_table_bind trivial ?_
      intro _
      exact stays_service_bind trivial fun _ => Act.stays_pure

theorem task_settles (task : Task D) :
    task.program.Follows (spendingProtocol binding D) .idle fun spending _ => spending.Settled := by
  have follows : Act.Follows (spendingProtocol binding D) .idle task.act
      fun spending _ => spending.Settled := by
    cases task with
    | tool request =>
        refine Act.follows_attempt_bind (fun _ => ⟨trivial, rfl⟩) (fun _ => nofun) ?_
        intro closed
        cases closed with
        | true => exact settled_of_stays Act.stays_throw
        | false => exact handler_settles request
    | close => exact settled_of_stays close_stays
    | disconnect =>
        apply settled_of_stays
        refine stays_table_bind trivial ?_
        intro _
        split
        · exact close_stays
        · exact Act.stays_pure
  exact follows ()

/-! ## Handles in the table -/

/-- Whether a call leaves the handle of a token where it is: it does not use it up,
drop all handles or mint another under the same token, and does not see it expired. -/
structure Spares (step : (handleTable binding).Step) (token : String) (item : OpaqueHandle) :
    Prop where
  unspent : ∀ kind, takenHandle step.event ≠ some (token, kind, true)
  undropped : ¬IsClear step.event
  unminted : mintedToken step.event ≠ some token
  alive : ∀ now : Int, (⟨.now, now⟩ : Event TableSig) ∈ step.trace → now < item.expiresAtMs

variable {table : HandleTable} {token : String} {item : OpaqueHandle}

theorem lookup_live {now : Int} (found : table.handles.lookup token = some item)
    (alive : now < item.expiresAtMs) : (table.live now).handles.lookup token = some item :=
  lookup_filter found (decide_eq_true alive)

/-- A call that spares a handle leaves it in the table. -/
theorem Spares.lookup {step : (handleTable binding).Step} (spares : Spares step token item)
    (found : step.before.handles.lookup token = some item) :
    step.after.handles.lookup token = some item := by
  rcases step with ⟨method, before, trace, outcome, after, run⟩
  obtain ⟨unspent, undropped, unminted, alive⟩ := spares
  dsimp only at found unspent undropped unminted alive ⊢
  cases method with
  | isClosed =>
      have reads : Act.Runs (get >>= fun table => pure table.closed) before trace outcome after := run
      obtain ⟨-, rfl, rfl⟩ := Act.runs_pure.mp reads.get_bind_inv
      exact found
  | markClosed =>
      obtain ⟨-, rfl, rfl⟩ := Act.runs_modifyGet.mp run
      exact found
  | clear =>
      obtain ⟨-, rfl, rfl⟩ := Act.runs_modifyGet.mp run
      exact absurd rfl undropped
  | release generation =>
      obtain ⟨-, rfl, rfl⟩ := Act.runs_modifyGet.mp run
      dsimp only
      split
      · exact found
      · exact found
  | reserve =>
      obtain ⟨now, rfl, ⟨e, -, -, rfl⟩ | ⟨-, -, rfl⟩⟩ := reserve_runs run
      · exact lookup_live found (alive now List.mem_cons_self)
      · exact lookup_live found (alive now List.mem_cons_self)
  | mint kind value expiresAtMs controlEpoch reservation =>
      obtain ⟨now, rest, rfl, ⟨e, -, rfl⟩ | ⟨-, new, entry, rfl, rfl⟩⟩ := mint_runs run
      · exact lookup_live found (alive now List.mem_cons_self)
      · have other : token ≠ new := by
          rintro rfl
          exact unminted rfl
        dsimp only
        rw [lookup_assign, if_neg other]
        exact lookup_live found (alive now List.mem_cons_self)
  | take argument kind consume =>
      cases argument with
      | none | other =>
          obtain ⟨-, -, rfl⟩ := Act.runs_throw.mp run
          exact found
      | str text =>
          obtain ⟨e, -, rfl⟩ | ⟨now, rest, rfl, ⟨e, -, rfl⟩ | ⟨taken, -, rfl, rfl⟩⟩ := take_runs run
          · exact found
          · exact lookup_live found (alive now List.mem_cons_self)
          · have kept := lookup_live found (alive now List.mem_cons_self)
            cases consume with
            | false => exact kept
            | true =>
                have other : token ≠ text := by
                  rintro rfl
                  exact unspent kind rfl
                exact lookup_filter kept (decide_eq_true other)

/-- Whether a handle can be taken depends, up to the control epoch, on the handle. -/
theorem find_of_lookup {table table' : HandleTable} {kind : HandleKind} {reply : OpaqueHandle}
    (usable : table.find binding token kind = .ok reply)
    (same : table'.handles.lookup token = table.handles.lookup token) :
    table'.find binding token kind = .ok reply := by
  have found := find_eq_ok usable
  unfold HandleTable.find at usable ⊢
  rw [same]
  split at usable
  · obtain ⟨_, -, impossible⟩ := bind_eq_ok.mp usable
    cases impossible
  · exact usable

/-- A handle that can be taken stays so while it is spared. -/
theorem usable_of_spared {before after : HandleTable} {steps : List (handleTable binding).Step}
    (run : Component.Run (handleTable binding) before steps after) {kind : HandleKind}
    {reply : OpaqueHandle} (usable : before.find binding token kind = .ok reply)
    (spared : ∀ step ∈ steps, Spares step token reply) :
    after.find binding token kind = .ok reply := by
  induction run with
  | nil => exact usable
  | cons step rest ih =>
      apply ih
      · have found := find_eq_ok usable
        have kept := (spared step List.mem_cons_self).lookup found
        exact find_of_lookup usable (kept.trans found.symm)
      · exact fun later mem => spared later (List.mem_cons_of_mem step mem)

/-! ## Where there is room -/

/-- The times that a call has read. -/
def readings (t : Trace TableSig) : List Int :=
  t.filterMap fun
    | ⟨.now, now⟩ => some now
    | _ => none

/-- A request that has used a handle up finds room for its reservation. -/
def roomy (past : Trace (RequestSig binding D)) (step : (handleTable binding).Step) : Bool :=
  match step.method, (spendingProtocol binding D).holding past with
  | .reserve, .spent _ => (readings step.trace).all fun now => !(step.before.live now).full
  | _, _ => true

/-- The requests run side by side, and each that has used a handle up finds room. -/
abbrev ServesRoomy (binding : Binding) (steps : List (handleTable binding).Step) (table : HandleTable)
    (requests : List (InFlight binding D)) : Prop :=
  Component.InterleavedWhen (IsTask binding) (fun past step => roomy past step = true) {} [] steps
    table requests

/-- What a request has used up is what it called the service with, and what it is
about to. -/
structure Spent (past : Trace (RequestSig binding D)) : Prop where
  balance : past.filterMap spentValue = past.filterMap servedValue ++
    ((spendingProtocol binding D).holding past).pending.toList
  kept : ∀ value, (spendingProtocol binding D).holding past ≠ .lost value

theorem spent_balance {past : Trace (RequestSig binding D)} {e : Event (RequestSig binding D)}
    (allowed : ((spendingProtocol binding D).holding past).Allows e)
    (balance : past.filterMap spentValue = past.filterMap servedValue ++
      ((spendingProtocol binding D).holding past).pending.toList) :
    (past ++ [e]).filterMap spentValue = (past ++ [e]).filterMap servedValue ++
      ((spendingProtocol binding D).holding (past ++ [e])).pending.toList := by
  have moved : (spendingProtocol binding D).holding (past ++ [e]) =
      ((spendingProtocol binding D).holding past).move e := Protocol.holding_append past e
  rw [List.filterMap_append, List.filterMap_append, filterMap_cons_toList, filterMap_cons_toList,
    balance, moved]
  simp only [List.filterMap_nil, List.append_nil, List.append_assoc]
  rw [spending_event allowed]

theorem spent_call {past : Trace (RequestSig binding D)} {step : (handleTable binding).Step}
    (room : roomy past step = true)
    (kept : ∀ value, (spendingProtocol binding D).holding past ≠ .lost value) :
    ∀ value, (spendingProtocol binding D).holding (past ++ [Event.left step.event]) ≠ .lost value := by
  intro value
  rw [Protocol.holding_append]
  unfold roomy at room
  generalize (spendingProtocol binding D).holding past = spending at room kept
  rcases step with ⟨method, before, trace, outcome, after, run⟩
  cases spending with
  | lost value => exact absurd rfl (kept value)
  | idle =>
      cases method with
      | take argument kind consume => cases consume <;> cases outcome <;> exact nofun
      | reserve => cases outcome <;> exact nofun
      | _ => exact nofun
  | spent value =>
      cases method with
      | take argument kind consume => cases consume <;> cases outcome <;> exact nofun
      | reserve =>
          obtain ⟨now, rfl, ⟨e, full, -, -⟩ | ⟨-, rfl, -⟩⟩ := reserve_runs run
          · simp [readings, full] at room
          · exact nofun
      | _ => exact nofun

/-- Where every request that has used a handle up finds room for its reservation, a
handle is used up only by a request that calls the service with it: a request that
does not reach the service uses up none, and a handle that is not used up can still
be taken. -/
theorem handles_not_lost {steps : List (handleTable binding).Step} {table : HandleTable}
    {requests : List (InFlight binding D)} (serves : ServesRoomy binding steps table requests) :
    (∀ request ∈ requests, ∀ out, request.rest = .done out →
      request.past.filterMap spentValue = request.past.filterMap servedValue ∧
        ((∀ e ∈ request.past, servedValue e = none) → ∀ e ∈ request.past, spentValue e = none)) ∧
    ∀ early late middle, steps = early ++ late →
      Component.Run (handleTable binding) {} early middle →
      Component.Run (handleTable binding) middle late table →
      ∀ token kind item, middle.find binding token kind = .ok item →
        (∀ step ∈ late, Spares step token item) → table.find binding token kind = .ok item := by
  refine ⟨?_, ?_⟩
  · intro request mem out ended
    have all := serves.forall_clients (spendingProtocol binding D) Spending.Settled Spent
      ⟨rfl, nofun⟩
      (fun past step met allowed spent =>
        ⟨spent_balance allowed spent.balance, spent_call met spent.kept⟩)
      (fun past e allowed spent => ⟨spent_balance allowed spent.balance, by
        intro value
        rw [Protocol.holding_append]
        have kept := spent.kept
        generalize (spendingProtocol binding D).holding past = spending at kept
        rcases e with ⟨call, answer⟩
        cases spending with
        | lost value => exact absurd rfl (kept value)
        | idle | spent => cases call <;> exact nofun⟩)
      (by
        rintro _ ⟨task, rfl⟩
        exact task_settles task) (by simp)
    obtain ⟨follows, spent⟩ := all request mem
    have settled : ((spendingProtocol binding D).holding request.past).Settled := by
      unfold Component.Interleaved.Client.Follows at follows
      rw [ended] at follows
      exact follows
    have balance := spent.balance
    have paid : ((spendingProtocol binding D).holding request.past).pending = none := by
      cases owes : (spendingProtocol binding D).holding request.past with
      | idle => rfl
      | spent value => exact absurd owes (settled value)
      | lost value => exact absurd owes (spent.kept value)
    rw [paid, Option.toList_none, List.append_nil] at balance
    refine ⟨balance, ?_⟩
    intro unserved
    rw [List.filterMap_eq_nil_iff.mpr unserved] at balance
    exact List.filterMap_eq_nil_iff.mp balance
  · intro early late middle _ _ run token kind item usable spared
    exact usable_of_spared run usable spared

/-! ## A handle that is lost -/

/-- The request has ended. -/
def ended (request : InFlight binding D) : Bool :=
  match request.rest with
  | .done _ => true
  | _ => false

/-- The request was refused for want of room. -/
def refused (request : InFlight binding D) : Bool :=
  match request.rest with
  | .done (.error e, _) => e = .adapter "handle_capacity"
  | _ => false

theorem handles_not_lost_executeSpeculation :
    ∃ steps table, ∃ requests : List (InFlight exampleBinding Unit),
      ServesRoomy exampleBinding steps table requests ∧ ∃ request ∈ requests,
        request.past.filterMap spentValue = [.token "runtime-token"] ∧
        request.past.filterMap servedValue = [.token "runtime-token"] := by
  have admitted : ∀ p ∈ [Task.tool (.prepareSpeculation ()),
      .tool (.executeSelectedSpeculativeBranch (.str "ddd_mcp_speculation_0"))].map Task.program,
      IsTask exampleBinding p := by
    intro p mem
    obtain ⟨task, -, rfl⟩ := List.mem_map.mp mem
    exact ⟨task, rfl⟩
  obtain ⟨steps, table, requests, serves, holds⟩ := Component.exists_interleavedWhen roomy
    exampleTable exampleService (fun _ _ => id) admitted {} 0
    (List.replicate 6 0 ++ List.replicate 7 1)
    (fun _ requests _ => requests.any fun request =>
      ended request && decide (request.past.filterMap spentValue = [.token "runtime-token"]))
    (by decide +kernel)
  obtain ⟨request, mem, both⟩ := List.any_eq_true.mp holds
  obtain ⟨isOver, spent⟩ := Bool.and_eq_true_iff.mp both
  refine ⟨steps, table, requests, serves, request, mem, of_decide_eq_true spent, ?_⟩
  unfold ended at isOver
  split at isOver
  · next out finished =>
      rw [← ((handles_not_lost serves).1 request mem out finished).1]
      exact of_decide_eq_true spent
  · cases isOver

/-- The other requests: one fills the table while the handle is used up. -/
def crowd : List (Task Unit) :=
  .tool (.prepareSpeculation ()) :: List.replicate 127 (.tool .observe) ++
    [.tool (.executeSelectedSpeculativeBranch (.str "ddd_mcp_speculation_0")), .tool .observe]

/-- A speculation is prepared, 127 observations take a reservation each, the handle of
the speculation is taken, and one more observation takes the room that this freed. -/
def crowdTurns : List Nat :=
  List.replicate 6 0 ++ (List.range 127).flatMap (fun i => List.replicate 3 (i + 1)) ++
    List.replicate 3 128 ++ List.replicate 3 129 ++ [128]

theorem speculation_handle_lost :
    ∃ steps table, ∃ requests : List (InFlight exampleBinding Unit),
      Serves exampleBinding steps table requests ∧ (steps.flatMap drawnTokens).Nodup ∧
      ∃ request ∈ requests, refused request = true ∧
        request.past.filterMap spentValue = [.token "runtime-token"] ∧
        request.past.filterMap servedValue = [] ∧
        table.handles = [] := by
  have admitted : ∀ p ∈ crowd.map Task.program, IsTask exampleBinding p := by
    intro p mem
    obtain ⟨task, -, rfl⟩ := List.mem_map.mp mem
    exact ⟨task, rfl⟩
  obtain ⟨steps, table, requests, serves, holds⟩ := Component.exists_interleavedWhen
    (fun _ _ => true) exampleTable exampleService (fun _ _ _ => trivial) admitted {} 0 crowdTurns
    (fun steps requests table => decide ((steps.flatMap drawnTokens).Nodup) &&
      decide (table.handles = []) && requests.any fun request => refused request &&
        decide (request.past.filterMap spentValue = [.token "runtime-token"]) &&
        decide (request.past.filterMap servedValue = [])) (by decide +kernel)
  obtain ⟨both, some⟩ := Bool.and_eq_true_iff.mp holds
  obtain ⟨fresh, empty⟩ := Bool.and_eq_true_iff.mp both
  obtain ⟨request, mem, checks⟩ := List.any_eq_true.mp some
  obtain ⟨both, unserved⟩ := Bool.and_eq_true_iff.mp checks
  obtain ⟨refused_, spent⟩ := Bool.and_eq_true_iff.mp both
  exact ⟨steps, table, requests, serves.interleaved, of_decide_eq_true fresh, request, mem, refused_,
    of_decide_eq_true spent, of_decide_eq_true unserved, of_decide_eq_true empty⟩

end Dingdongditch.Mcp
