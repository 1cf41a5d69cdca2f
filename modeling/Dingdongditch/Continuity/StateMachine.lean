import Dingdongditch.Continuity.Lives
import Mathlib.Data.List.Chain

/-!
# The state machine of the commands

What the journals of a directory say after any calls on it: the states of each
command are a path of its transitions (`Path`), at most one browser binding is
active at any time, and a command was dispatched under the generation that was
active then (`Life.stateMachine`).

`historyOf` and `activeGenerations` say the same of a ledger; here the records
are read as they stand in the files.
-/

namespace Dingdongditch.Continuity

open Interaction Text Store
open Text.Json (ReadsFloat)

variable {F : Type}

/-! ## Reading the files -/

/-- The state that a record gives to a command. -/
def recordedState (commandId : String) (record : Json F) : Option CommandState :=
  match getStr record "command_id", getStr record "state" with
  | .ok id, .ok value => if id = commandId then (CommandState.ofValue value).toOption else none
  | _, _ => none

/-- The states that the journal of commands records for a command, in order. -/
def persistedHistory (records : List (Json F)) (commandId : String) : List CommandState :=
  records.filterMap (recordedState commandId)

/-- The active generations after one more record of the journal of bindings. -/
def recordedActive (active : List String) (record : Json F) : List String :=
  match getStr record "event_type", getStr record "binding_generation" with
  | .ok "binding_acquired", .ok generation => active ++ [generation]
  | .ok "binding_released", .ok generation => active.filter (· ≠ generation)
  | _, _ => active

/-- The generations of the bindings that were acquired and not released. -/
def persistedActive (records : List (Json F)) : List String := records.foldl recordedActive []

theorem recordedState_created (recordedAt : F) (record : CommandRecord F) (commandId : String) :
    recordedState commandId (event "command_created" recordedAt record.toDict) =
      if record.commandId = commandId then some record.state else none := by
  have isId : getStr (event "command_created" recordedAt record.toDict) "command_id" =
      .ok record.commandId := by
    simp [getStr, getItem, event, CommandRecord.toDict, List.lookup_cons, bind, Except.bind, pure, Except.pure]
  have isState : getStr (event "command_created" recordedAt record.toDict) "state" =
      .ok record.state.value := by
    simp [getStr, getItem, event, CommandRecord.toDict, List.lookup_cons, bind, Except.bind, pure, Except.pure]
  rw [recordedState, isId, isState]
  simp [Except.toOption]

theorem changedEvent_state (recordedAt : F) (commandId : String) (source target : CommandState)
    (detail : List (String × Json F)) :
    getStr (changedEvent recordedAt commandId source target detail) "state" = .ok target.value := by
  simp [changedEvent, getStr, getItem, event, List.lookup_cons, bind, Except.bind, pure, Except.pure]

theorem recordedState_changed (recordedAt : F) (other : String) (source target : CommandState)
    (detail : List (String × Json F)) (commandId : String) :
    recordedState commandId (changedEvent recordedAt other source target detail) =
      if other = commandId then some target else none := by
  have isId : getStr (changedEvent recordedAt other source target detail) "command_id" = .ok other := by
    simp [changedEvent, getStr, getItem, event, List.lookup_cons, bind, Except.bind, pure, Except.pure]
  rw [recordedState, isId, changedEvent_state]
  simp [Except.toOption]

/-- The file says of a command what the ledger says. -/
theorem persistedHistory_diskOf (header : SessionHeader F) (entries : List (Entry F))
    (commandId : String) :
    persistedHistory (diskOf header entries).commands commandId = historyOf entries commandId := by
  induction entries using List.reverseRecOn with
  | nil => rfl
  | append_singleton entries e ih =>
      rw [diskOf_commands_snoc, persistedHistory, List.filterMap_append, historyOf,
        List.filterMap_append]
      refine congrArg₂ (· ++ ·) ih ?_
      cases e with
      | created recordedAt record =>
          simp [Entry.commandEvents, recordedState_created, List.filterMap_cons]
      | changed recordedAt other source target detail =>
          simp [Entry.commandEvents, recordedState_changed, List.filterMap_cons]
      | acquired => rfl
      | released => rfl
      | attached => rfl
      | published => rfl

theorem recordedActive_acquired (active : List String) (recordedAt : F) (binding : BrowserBinding F) :
    recordedActive active (event "binding_acquired" recordedAt binding.toDict) =
      active ++ [binding.bindingGeneration] := by
  simp [recordedActive, getStr, getItem, event, BrowserBinding.toDict, List.lookup_cons, bind,
    Except.bind, pure, Except.pure]

theorem recordedActive_released (active : List String) (recordedAt : F)
    (bindingId generation : String) (releasedAt : F) :
    recordedActive active (releasedEvent recordedAt bindingId generation releasedAt) =
      active.filter (· ≠ generation) := by
  simp [recordedActive, releasedEvent, getStr, getItem, event, List.lookup_cons, bind, Except.bind,
    pure, Except.pure]

/-- The file says which bindings are active as the ledger does. -/
theorem persistedActive_diskOf (header : SessionHeader F) (entries : List (Entry F)) :
    persistedActive (diskOf header entries).bindings = activeGenerations entries := by
  induction entries using List.reverseRecOn with
  | nil => rfl
  | append_singleton entries e ih =>
      rw [diskOf_bindings_snoc, persistedActive, List.foldl_append, activeGenerations_snoc, ← ih]
      cases e with
      | acquired recordedAt binding => exact recordedActive_acquired _ recordedAt binding
      | released recordedAt bindingId generation releasedAt =>
          exact recordedActive_released _ recordedAt bindingId generation releasedAt
      | _ => rfl

/-! ## Paths -/

/-- A path of the transitions of a command, from its initial state. -/
structure Path (states : List CommandState) : Prop where
  starts : ∀ state ∈ states.head?, state = .proposed
  follows : states.IsChain fun state next => next ∈ state.transitions

theorem Path.nil : Path [] := ⟨by simp, .nil⟩

theorem Path.snoc {states : List CommandState} {next : CommandState} (path : Path states)
    (first : states = [] → next = .proposed)
    (allowed : ∀ last ∈ states.getLast?, next ∈ last.transitions) : Path (states ++ [next]) := by
  refine ⟨fun state isHead => ?_, List.isChain_append.mpr ⟨path.follows, .singleton _, ?_⟩⟩
  · cases states with
    | nil =>
        obtain rfl : next = state := by simpa using isHead
        exact first rfl
    | cons head rest => exact path.starts state (by simpa using isHead)
  · intro last isLast other isNext
    obtain rfl : next = other := by simpa using isNext
    exact allowed last isLast

/-- A terminal state is the end of a path. -/
theorem Path.absorbing {before after : List CommandState} {state : CommandState}
    (path : Path (before ++ state :: after)) (terminal : state.transitions = []) : after = [] := by
  cases after with
  | nil => rfl
  | cons next after =>
      obtain ⟨-, tail, -⟩ := List.isChain_append.mp path.follows
      obtain ⟨allowed, -⟩ := List.isChain_cons_cons.mp tail
      rw [terminal] at allowed
      cases allowed

/-! ## Lawful ledgers -/

theorem historyOf_snoc (entries : List (Entry F)) (e : Entry F) (commandId : String) :
    historyOf (entries ++ [e]) commandId = historyOf entries commandId ++ historyOf [e] commandId :=
  List.filterMap_append

/-- The state of a command is the last one of its history. -/
theorem stateOf_eq_getLast (entries : List (Entry F)) (commandId : String) :
    stateOf entries commandId = (historyOf entries commandId).getLast? := by
  induction entries using List.reverseRecOn with
  | nil => rfl
  | append_singleton entries e ih =>
      rw [stateOf_snoc, historyOf_snoc, ih]
      cases e with
      | created recordedAt record =>
          by_cases same : record.commandId = commandId <;> simp [stateStep, historyOf, same]
      | changed recordedAt other source target detail =>
          by_cases same : other = commandId <;> simp [stateStep, historyOf, same]
      | _ => simp [stateStep, historyOf]

theorem path_historyOf {header : SessionHeader F} {entries : List (Entry F)}
    (lawful : Follows (Permits header) [] entries) (commandId : String) :
    Path (historyOf entries commandId) := by
  refine Follows.rec_snoc (P := fun entries => Path (historyOf entries commandId)) Path.nil
    (fun entries e _ ih permitted => ?_) entries lawful
  rw [historyOf_snoc]
  cases e with
  | created recordedAt record =>
      obtain ⟨unknown, isProposed, -⟩ := permitted
      by_cases same : record.commandId = commandId
      · rw [same, stateOf_eq_getLast, List.getLast?_eq_none_iff] at unknown
        have step : Path (historyOf entries commandId ++ [record.state]) :=
          ih.snoc (fun _ => isProposed) (by simp [unknown])
        simpa [historyOf, same] using step
      · simpa [historyOf, same] using ih
  | changed recordedAt other source target detail =>
      obtain ⟨isSource, allowed, -⟩ := permitted
      by_cases same : other = commandId
      · rw [same, stateOf_eq_getLast] at isSource
        have step : Path (historyOf entries commandId ++ [target]) := by
          refine ih.snoc (fun empty => ?_) fun last isLast => ?_
          · rw [empty] at isSource
            cases isSource
          · rw [isSource] at isLast
            cases isLast
            exact allowed
        simpa [historyOf, same] using step
      · simpa [historyOf, same] using ih
  | _ => simpa [historyOf] using ih

theorem oneActive {header : SessionHeader F} {entries : List (Entry F)}
    (lawful : Follows (Permits header) [] entries) : (activeGenerations entries).length ≤ 1 := by
  refine Follows.rec_snoc (P := fun entries => (activeGenerations entries).length ≤ 1)
    (Nat.zero_le 1) (fun entries e _ ih permitted => ?_) entries lawful
  rw [activeGenerations_snoc]
  cases e with
  | acquired recordedAt binding =>
      have free : activeGenerations entries = [] := permitted
      simp [activeStep, free]
  | released recordedAt bindingId generation releasedAt =>
      exact Nat.le_trans (List.length_filter_le _ _) ih
  | _ => exact ih

/-- The entry of a record that says it dispatched a command. -/
theorem dispatched_entry {header : SessionHeader F} {before : List (Entry F)} {e : Entry F}
    {record : Json F} (permitted : Permits header before e) (isWrite : e.write = .append .commands record)
    (isDispatched : getStr record "state" = .ok CommandState.dispatched.value) :
    ∃ generation, activeGenerations before = [generation] ∧
      getStr record "binding_generation" = .ok generation := by
  cases e with
  | created recordedAt created =>
      obtain ⟨-, isProposed, -⟩ := permitted
      obtain rfl : event "command_created" recordedAt created.toDict = record := by
        simpa [Entry.write] using isWrite
      simp [getStr, getItem, event, CommandRecord.toDict, List.lookup_cons, bind, Except.bind, pure,
        Except.pure, isProposed, CommandState.value] at isDispatched
  | changed recordedAt commandId source target detail =>
      obtain ⟨-, -, dispatches, -⟩ := permitted
      obtain rfl : changedEvent recordedAt commandId source target detail = record := by
        simpa [Entry.write] using isWrite
      rw [changedEvent_state] at isDispatched
      have isTarget : target = .dispatched := CommandState.value_injective (Except.ok.inj isDispatched)
      obtain ⟨generation, isActive, rfl⟩ := dispatches isTarget
      refine ⟨generation, isActive, ?_⟩
      simp [changedEvent, getStr, getItem, event, List.lookup_cons, bind, Except.bind, pure, Except.pure]
  | acquired => cases isWrite
  | released => cases isWrite
  | attached => cases isWrite
  | published => cases isWrite

/-! ## Every life of a directory -/

/-- What the files say of the commands and bindings, after writing `writes` to a
fresh directory. -/
structure FollowsMachine (start : Disk F) (writes : List (Write F)) : Prop where
  /-- The history of each command is a path of its transitions. -/
  path : ∀ commandId, Path (persistedHistory (writes.foldl Disk.apply start).commands commandId)
  /-- A terminal state is not left. -/
  absorbing : ∀ commandId before state after,
    persistedHistory (writes.foldl Disk.apply start).commands commandId = before ++ state :: after →
      state.transitions = [] → after = []
  /-- At most one binding is active at any time. -/
  oneBinding : ∀ before after, writes = before ++ after →
    (persistedActive (before.foldl Disk.apply start).bindings).length ≤ 1
  /-- A command is dispatched under the generation that is active then. -/
  dispatched : ∀ before record after, writes = before ++ .append .commands record :: after →
    getStr record "state" = .ok CommandState.dispatched.value →
      ∃ generation, persistedActive (before.foldl Disk.apply start).bindings = [generation] ∧
        getStr record "binding_generation" = .ok generation

theorem followsMachine_of_lawful {header : SessionHeader F} {entries : List (Entry F)}
    (lawful : Follows (Permits header) [] entries) :
    FollowsMachine { manifest := header } (entries.map Entry.write) where
  path commandId := by
    have isPath := path_historyOf lawful commandId
    rwa [← persistedHistory_diskOf header] at isPath
  absorbing commandId before state after isHistory terminal := by
    have isPath := path_historyOf lawful commandId
    rw [← persistedHistory_diskOf header] at isPath
    have split : Path (before ++ state :: after) := isHistory ▸ isPath
    exact split.absorbing terminal
  oneBinding before after split := by
    obtain ⟨first, second, rfl, rfl, rfl⟩ := List.map_eq_append_iff.mp split
    obtain ⟨earlier, -⟩ := follows_append.mp lawful
    have one := oneActive earlier
    rwa [← persistedActive_diskOf header] at one
  dispatched before record after split isDispatched := by
    obtain ⟨first, rest, rfl, rfl, isRest⟩ := List.map_eq_append_iff.mp split
    obtain ⟨e, second, rfl, isWrite, -⟩ := List.map_eq_cons_iff.mp isRest
    have permitted := lawful.law_at rfl
    obtain ⟨generation, isActive, isRecord⟩ := dispatched_entry permitted isWrite isDispatched
    refine ⟨generation, ?_, isRecord⟩
    rwa [← persistedActive_diskOf header] at isActive

variable [Floating F] [ReadsFloat F]

/-- Whatever is called on a directory that `create` made, and wherever a call is
cut short, the files follow the state machine of the commands; and `commands`
reads the last state of each history. -/
theorem Life.stateMachine {request : CreateRequest F} {createdAt : F} {s₀ s : ContinuitySession F}
    {steps : List (LifeStep F)} (created : createSession request createdAt = .ok s₀)
    (life : Life s₀ steps s) :
    s.disk = (written steps).foldl Disk.apply s₀.disk ∧ FollowsMachine s₀.disk (written steps) ∧
      ∀ records, s.disk.commandRecords = .ok records → ∀ commandId,
        stateIn records commandId = (persistedHistory s.disk.commands commandId).getLast? := by
  obtain ⟨isDisk, plainHeader, -⟩ := createSession_ok created
  obtain ⟨entries, wrote, lawful, isDisk', -⟩ :=
    Life.ledger False life isDisk ⟨rfl, rfl⟩ plainHeader False.elim
  rw [isDisk, isDisk', wrote]
  refine ⟨rfl, followsMachine_of_lawful lawful.permits, fun records read commandId => ?_⟩
  rw [persistedHistory_diskOf, ← stateOf_eq_getLast, stateIn_replay (commandRecords_diskOf read)]

/-- A command that was proposed, authorized and dispatched. -/
theorem Life.stateMachine_dispatched : ∃ steps s, Life fresh steps s ∧
    FollowsMachine fresh.disk (written steps) ∧
      persistedHistory s.disk.commands "command" = [.proposed, .authorized, .dispatched] := by
  obtain ⟨steps, s, life, -, shown⟩ := exists_life (calmScript .null) fresh () toDispatch
    (fun _ s => persistedHistory s.disk.commands "command" = [.proposed, .authorized, .dispatched])
    (by decide +kernel)
  exact ⟨steps, s, life, (Life.stateMachine created_fresh life).2.1, of_decide_eq_true shown⟩

end Dingdongditch.Continuity
