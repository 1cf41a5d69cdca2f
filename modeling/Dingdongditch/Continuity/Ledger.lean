import Dingdongditch.Continuity.Session
import Dingdongditch.Contract.Target
import Mathlib.Data.List.Induction

/-!
# The ledger of a continuity session

What the writes of a session say, apart from how they are printed: an `Entry` is
one write, and a ledger is the list of all of them in order.  A ledger is
`Lawful` when each entry was permitted by the ones before it.

`stateOf` and `activeGenerations` read a ledger directly.  Replaying the journals
of the directory gives the same answers, whenever it gives an answer at all
(`stateIn_replay`, `active_replay`).
-/

namespace Dingdongditch.Continuity

open Interaction Text Store
open Text.Json (ReadsFloat)

variable {F : Type}

/-- One write, by what it records. -/
inductive Entry (F : Type)
  | created (recordedAt : F) (record : CommandRecord F)
  | changed (recordedAt : F) (commandId : String) (source target : CommandState)
      (detail : List (String × Json F))
  | acquired (recordedAt : F) (binding : BrowserBinding F)
  | released (recordedAt : F) (bindingId bindingGeneration : String) (releasedAt : F)
  | attached (recordedAt : F) (request : AttachRequest) (path schema digest : String)
      (facts : List (Json F))
  | published (manifest : SessionHeader F)

/-- The event of a command that changes its state. -/
def changedEvent (recordedAt : F) (commandId : String) (source target : CommandState)
    (detail : List (String × Json F)) : Json F :=
  event "command_state_changed" recordedAt
    (("command_id", .str commandId) :: ("from_state", .str source.value) ::
      ("state", .str target.value) :: detail)

def releasedEvent (recordedAt : F) (bindingId bindingGeneration : String) (releasedAt : F) : Json F :=
  event "binding_released" recordedAt
    [("binding_id", .str bindingId), ("binding_generation", .str bindingGeneration),
      ("released_at", .float releasedAt)]

def Entry.write : Entry F → Write F
  | .created recordedAt record =>
      .append .commands (event "command_created" recordedAt record.toDict)
  | .changed recordedAt commandId source target detail =>
      .append .commands (changedEvent recordedAt commandId source target detail)
  | .acquired recordedAt binding =>
      .append .bindings (event "binding_acquired" recordedAt binding.toDict)
  | .released recordedAt bindingId generation releasedAt =>
      .append .bindings (releasedEvent recordedAt bindingId generation releasedAt)
  | .attached recordedAt request path schema digest facts =>
      .append .evidence (evidenceRecord request recordedAt path schema digest facts)
  | .published manifest => .publish manifest

/-- The directory that a ledger leaves of a fresh one. -/
def diskOf (header : SessionHeader F) (entries : List (Entry F)) : Disk F :=
  (entries.map Entry.write).foldl Disk.apply { manifest := header }

@[simp] theorem diskOf_nil (header : SessionHeader F) :
    diskOf header ([] : List (Entry F)) = { manifest := header } := rfl

theorem diskOf_append (header : SessionHeader F) (entries more : List (Entry F)) :
    diskOf header (entries ++ more) =
      (more.map Entry.write).foldl Disk.apply (diskOf header entries) := by
  rw [diskOf, List.map_append, List.foldl_append]
  rfl

theorem diskOf_snoc (header : SessionHeader F) (entries : List (Entry F)) (e : Entry F) :
    diskOf header (entries ++ [e]) = (diskOf header entries).apply e.write :=
  diskOf_append header entries [e]

/-! ## Reading a ledger -/

/-- The state of a command after one more entry. -/
def stateStep (commandId : String) (state : Option CommandState) : Entry F → Option CommandState
  | .created _ record => if record.commandId = commandId then some record.state else state
  | .changed _ other _ target _ => if other = commandId then some target else state
  | _ => state

/-- The state of a command. -/
def stateOf (entries : List (Entry F)) (commandId : String) : Option CommandState :=
  entries.foldl (stateStep commandId) none

/-- The generations of the active bindings after one more entry. -/
def activeStep (active : List String) : Entry F → List String
  | .acquired _ binding => active ++ [binding.bindingGeneration]
  | .released _ _ generation _ => active.filter (· ≠ generation)
  | _ => active

/-- The generations of the browser bindings that are active. -/
def activeGenerations (entries : List (Entry F)) : List String := entries.foldl activeStep []

/-- The states that a command went through, in order. -/
def historyOf (entries : List (Entry F)) (commandId : String) : List CommandState :=
  entries.filterMap fun
    | .created _ record => if record.commandId = commandId then some record.state else none
    | .changed _ other _ target _ => if other = commandId then some target else none
    | _ => none

/-- There is attached evidence that a command ended in a state. -/
def Attested (entries : List (Entry F)) (commandId : String) (state : CommandState) : Prop :=
  ∃ recordedAt request path schema digest facts,
    Entry.attached recordedAt request path schema digest facts ∈ entries ∧
      request.commandId = commandId ∧ request.terminalClassification.target = state

theorem stateOf_snoc (entries : List (Entry F)) (e : Entry F) (commandId : String) :
    stateOf (entries ++ [e]) commandId = stateStep commandId (stateOf entries commandId) e := by
  rw [stateOf, List.foldl_append]
  rfl

theorem activeGenerations_snoc (entries : List (Entry F)) (e : Entry F) :
    activeGenerations (entries ++ [e]) = activeStep (activeGenerations entries) e := by
  rw [activeGenerations, List.foldl_append]
  rfl

/-! ## Lawful ledgers -/

/-- What an entry may say after `before`. -/
def Permits (header : SessionHeader F) (before : List (Entry F)) : Entry F → Prop
  | .created _ record =>
      stateOf before record.commandId = none ∧ record.state = .proposed ∧
        record.sessionId = header.sessionId
  | .changed _ commandId source target detail =>
      stateOf before commandId = some source ∧ target ∈ source.transitions ∧
        (target = .dispatched → ∃ generation, activeGenerations before = [generation] ∧
          detail = [("binding_generation", .str generation)]) ∧
        (target = .verified ∨ target = .failed → Attested before commandId target)
  | .acquired _ _ => activeGenerations before = []
  | .released _ _ generation _ => activeGenerations before = [generation]
  | .attached _ request _ _ _ _ => stateOf before request.commandId = some .dispatched
  | .published manifest =>
      manifest.sessionId = header.sessionId ∧ manifest.schemaVersion = header.schemaVersion

/-- Each entry of `more` satisfies `law` after what stands before it. -/
def Follows (law : List (Entry F) → Entry F → Prop) (before : List (Entry F)) :
    List (Entry F) → Prop
  | [] => True
  | e :: more => law before e ∧ Follows law (before ++ [e]) more

section Follows

variable {law : List (Entry F) → Entry F → Prop}

theorem follows_append {before first second : List (Entry F)} :
    Follows law before (first ++ second) ↔
      Follows law before first ∧ Follows law (before ++ first) second := by
  induction first generalizing before with
  | nil => simp [Follows]
  | cons e first ih => simp [Follows, ih, and_assoc]

theorem follows_snoc {before more : List (Entry F)} {e : Entry F} :
    Follows law before (more ++ [e]) ↔ Follows law before more ∧ law (before ++ more) e := by
  rw [follows_append]
  simp [Follows]

/-- The rule of induction over a lawful ledger. -/
theorem Follows.rec_snoc {P : List (Entry F) → Prop} (start : P [])
    (step : ∀ entries e, Follows law [] entries → P entries → law entries e → P (entries ++ [e]))
    (entries : List (Entry F)) (lawful : Follows law [] entries) : P entries := by
  induction entries using List.reverseRecOn with
  | nil => exact start
  | append_singleton entries e ih =>
      obtain ⟨earlier, last⟩ := follows_snoc.mp lawful
      exact step entries e earlier (ih earlier) last

theorem Follows.mono {weaker : List (Entry F) → Entry F → Prop} {before more : List (Entry F)}
    (lawful : Follows law before more) (weaken : ∀ before e, law before e → weaker before e) :
    Follows weaker before more := by
  induction more generalizing before with
  | nil => trivial
  | cons e more ih => exact ⟨weaken before e lawful.1, ih lawful.2⟩

/-- Every entry was lawful after the ones before it. -/
theorem Follows.law_at {entries before after : List (Entry F)} {e : Entry F}
    (lawful : Follows law [] entries) (split : entries = before ++ e :: after) : law before e := by
  rw [split] at lawful
  obtain ⟨-, rest⟩ := follows_append.mp lawful
  exact rest.1

end Follows

/-! ## Replay -/

/-- The record that replaying a `command_created` event makes. -/
def CommandRecord.fresh (record : CommandRecord F) : CommandRecord F :=
  { record with receiptReference := none, bindingGeneration := none }

theorem replayCommand_created (records : List (CommandRecord F)) (recordedAt : F)
    (record : CommandRecord F) :
    replayCommand records (event "command_created" recordedAt record.toDict) =
      if records.any (·.commandId = record.commandId) then
        .error (continuityError ("duplicate command creation: " ++ record.commandId))
      else .ok (records ++ [record.fresh]) := by
  have read : CommandRecord.ofEvent (event "command_created" recordedAt record.toDict) =
      .ok record.fresh := by
    simp [CommandRecord.ofEvent, getStr, getItem, event, CommandRecord.toDict, List.lookup_cons,
      bind, Except.bind, pure, Except.pure]
    rfl
  simp only [replayCommand, read]
  simp [getStr, getItem, event, CommandRecord.toDict, List.lookup_cons, bind, Except.bind, pure, Except.pure]
  rfl

/-- The record that a `command_state_changed` event makes of the current one. -/
def CommandRecord.moved (current : CommandRecord F) (event : Json F) (target : CommandState) :
    CommandRecord F :=
  { current with
    state := target
    receiptReference := getStrOr event "receipt_reference" current.receiptReference
    bindingGeneration := getStrOr event "binding_generation" current.bindingGeneration }

theorem replayCommand_changed (records : List (CommandRecord F)) (recordedAt : F)
    (commandId : String) (source target : CommandState) (detail : List (String × Json F)) :
    replayCommand records (changedEvent recordedAt commandId source target detail) =
      match records.find? (·.commandId = commandId) with
      | none => .error (continuityError ("invalid command journal chain: " ++ commandId))
      | some current =>
          if current.state ≠ source then
            .error (continuityError ("invalid command journal chain: " ++ commandId))
          else if target ∉ current.state.transitions then
            .error (continuityError ("invalid persisted command transition: " ++ commandId))
          else .ok (records.map fun record =>
            if record.commandId = commandId then
              current.moved (changedEvent recordedAt commandId source target detail) target
            else record) := by
  have isId : getStr (changedEvent recordedAt commandId source target detail) "command_id" =
      .ok commandId := by
    simp [changedEvent, getStr, getItem, event, List.lookup_cons, bind, Except.bind, pure, Except.pure]
  have isType : getStr (changedEvent recordedAt commandId source target detail) "event_type" =
      .ok "command_state_changed" := by
    simp [changedEvent, getStr, getItem, event, List.lookup_cons, bind, Except.bind, pure, Except.pure]
  have isSource : getStr (changedEvent recordedAt commandId source target detail) "from_state" =
      .ok source.value := by
    simp [changedEvent, getStr, getItem, event, List.lookup_cons, bind, Except.bind, pure, Except.pure]
  have isTarget : getStr (changedEvent recordedAt commandId source target detail) "state" =
      .ok target.value := by
    simp [changedEvent, getStr, getItem, event, List.lookup_cons, bind, Except.bind, pure, Except.pure]
  have other : ¬ "command_state_changed" = "command_created" := by decide
  simp only [replayCommand, isId, isType, bind, Except.bind, if_neg other, if_true]
  cases records.find? (·.commandId = commandId) with
  | none => rfl
  | some current =>
      by_cases here : current.state = source
      · have same : ¬ current.state.value ≠ source.value := by simp [here]
        simp only [isSource, isTarget, CommandState.ofValue_value, here, ne_eq, not_true, if_false]
        rfl
      · have differs : current.state.value ≠ source.value := fun same =>
          here (CommandState.value_injective same)
        simp only [isSource, here, ne_eq, not_false_eq_true, if_true, differs]
        rfl

/-- The binding that replaying a `binding_acquired` event makes. -/
def BrowserBinding.fresh (binding : BrowserBinding F) : BrowserBinding F :=
  { binding with releasedAt := .null }

theorem replayBinding_acquired (bindings : List (BrowserBinding F)) (recordedAt : F)
    (binding : BrowserBinding F) :
    replayBinding bindings (event "binding_acquired" recordedAt binding.toDict) =
      if bindings.any (·.bindingGeneration = binding.bindingGeneration) then
        .error (continuityError "duplicate binding generation")
      else .ok (bindings ++ [binding.fresh]) := by
  have read : BrowserBinding.ofEvent (event "binding_acquired" recordedAt binding.toDict) =
      .ok binding.fresh := by
    simp [BrowserBinding.ofEvent, getStr, getItem, event, BrowserBinding.toDict, List.lookup_cons,
      bind, Except.bind, pure, Except.pure]
    rfl
  simp only [replayBinding, read]
  simp [getStr, getItem, event, BrowserBinding.toDict, List.lookup_cons, bind, Except.bind, pure, Except.pure]
  rfl

theorem replayBinding_released (bindings : List (BrowserBinding F)) (recordedAt : F)
    (bindingId generation : String) (releasedAt : F) :
    replayBinding bindings (releasedEvent recordedAt bindingId generation releasedAt) =
      match bindings.find? (·.bindingGeneration = generation) with
      | none => .error (continuityError "release references unknown binding")
      | some binding =>
          if binding.isReleased then .error (continuityError "binding released more than once")
          else .ok (bindings.map fun other =>
            if other.bindingGeneration = generation then
              { binding with releasedAt := .float releasedAt }
            else other) := by
  have isGeneration : getStr (releasedEvent recordedAt bindingId generation releasedAt)
      "binding_generation" = .ok generation := by
    simp [releasedEvent, getStr, getItem, event, List.lookup_cons, bind, Except.bind, pure, Except.pure]
  have isType : getStr (releasedEvent recordedAt bindingId generation releasedAt) "event_type" =
      .ok "binding_released" := by
    simp [releasedEvent, getStr, getItem, event, List.lookup_cons, bind, Except.bind, pure, Except.pure]
  have isTime : getItem (releasedEvent recordedAt bindingId generation releasedAt) "released_at" =
      .ok (.float releasedAt) := by
    simp [releasedEvent, getItem, event, List.lookup_cons]
  have other : ¬ "binding_released" = "binding_acquired" := by decide
  simp only [replayBinding, isGeneration, isType, isTime, bind, Except.bind, if_neg other, if_true]
  cases bindings.find? (·.bindingGeneration = generation) with
  | none => rfl
  | some binding => cases binding.isReleased <;> rfl

/-- The state of a command among replayed records. -/
def stateIn (records : List (CommandRecord F)) (commandId : String) : Option CommandState :=
  (records.find? (·.commandId = commandId)).map (·.state)

/-- The generations that are active among replayed bindings. -/
def activeIn (bindings : List (BrowserBinding F)) : List String :=
  (bindings.filter (!·.isReleased)).map (·.bindingGeneration)

theorem stateIn_eq_none {records : List (CommandRecord F)} {commandId : String} :
    stateIn records commandId = none ↔ records.any (·.commandId = commandId) = false := by
  simp [stateIn]

theorem stateIn_snoc (records : List (CommandRecord F)) (record : CommandRecord F)
    (fresh : stateIn records record.commandId = none) (commandId : String) :
    stateIn (records ++ [record]) commandId =
      if record.commandId = commandId then some record.state else stateIn records commandId := by
  unfold stateIn at fresh ⊢
  rw [Option.map_eq_none_iff] at fresh
  rw [List.find?_append]
  by_cases same : record.commandId = commandId
  · subst same
    simp [fresh]
  · simp [same]

theorem stateIn_update_self {records : List (CommandRecord F)} {changed : CommandRecord F}
    (known : stateIn records changed.commandId ≠ none) :
    stateIn (records.map fun record =>
        if record.commandId = changed.commandId then changed else record) changed.commandId =
      some changed.state := by
  induction records with
  | nil => exact absurd rfl known
  | cons record records ih =>
      unfold stateIn at known ih ⊢
      by_cases here : record.commandId = changed.commandId
      · simp [here]
      · rw [List.find?_cons_of_neg (by simpa using here)] at known
        simp only [List.map_cons, here, if_false]
        rw [List.find?_cons_of_neg (by simpa using here)]
        exact ih known

theorem stateIn_update_other (records : List (CommandRecord F)) (changed : CommandRecord F)
    {commandId : String} (other : changed.commandId ≠ commandId) :
    stateIn (records.map fun record =>
        if record.commandId = changed.commandId then changed else record) commandId =
      stateIn records commandId := by
  unfold stateIn
  induction records with
  | nil => rfl
  | cons record records ih =>
      by_cases here : record.commandId = changed.commandId
      · have differs : record.commandId ≠ commandId := here ▸ other
        simp only [List.map_cons, here, if_true]
        rw [List.find?_cons_of_neg (by simpa using other),
          List.find?_cons_of_neg (by simpa using differs)]
        exact ih
      · simp only [List.map_cons, here, if_false]
        by_cases same : record.commandId = commandId
        · rw [List.find?_cons_of_pos (by simpa using same),
            List.find?_cons_of_pos (by simpa using same)]
        · rw [List.find?_cons_of_neg (by simpa using same),
            List.find?_cons_of_neg (by simpa using same)]
          exact ih

/-- The record of one command replaced by another one of it. -/
theorem stateIn_moved {records : List (CommandRecord F)} {other : String} {target : CommandState}
    (known : stateIn records other ≠ none) {changed : CommandRecord F}
    (isOther : changed.commandId = other) (isTarget : changed.state = target) (commandId : String) :
    stateIn (records.map fun record => if record.commandId = other then changed else record)
        commandId = if other = commandId then some target else stateIn records commandId := by
  subst isOther isTarget
  by_cases same : changed.commandId = commandId
  · subst same
    rw [stateIn_update_self known, if_pos rfl]
  · rw [stateIn_update_other records changed same, if_neg same]

/-- What an entry adds to the journal of commands, and to that of bindings. -/
def Entry.commandEvents : Entry F → List (Json F)
  | .created recordedAt record => [event "command_created" recordedAt record.toDict]
  | .changed recordedAt commandId source target detail =>
      [changedEvent recordedAt commandId source target detail]
  | _ => []

def Entry.bindingEvents : Entry F → List (Json F)
  | .acquired recordedAt binding => [event "binding_acquired" recordedAt binding.toDict]
  | .released recordedAt bindingId generation releasedAt =>
      [releasedEvent recordedAt bindingId generation releasedAt]
  | _ => []

theorem diskOf_commands_snoc (header : SessionHeader F) (entries : List (Entry F)) (e : Entry F) :
    (diskOf header (entries ++ [e])).commands =
      (diskOf header entries).commands ++ e.commandEvents := by
  rw [diskOf_snoc]
  cases e <;> simp [Entry.write, Entry.commandEvents, Disk.apply]

theorem diskOf_bindings_snoc (header : SessionHeader F) (entries : List (Entry F)) (e : Entry F) :
    (diskOf header (entries ++ [e])).bindings =
      (diskOf header entries).bindings ++ e.bindingEvents := by
  rw [diskOf_snoc]
  cases e <;> simp [Entry.write, Entry.bindingEvents, Disk.apply]

/-- The replay of the commands of a ledger. -/
def replayedCommands (header : SessionHeader F) (entries : List (Entry F)) :
    Except PyException (List (CommandRecord F)) :=
  (diskOf header entries).commands.foldlM replayCommand []

def replayedBindings (header : SessionHeader F) (entries : List (Entry F)) :
    Except PyException (List (BrowserBinding F)) :=
  (diskOf header entries).bindings.foldlM replayBinding []

theorem replayedCommands_snoc (header : SessionHeader F) (entries : List (Entry F)) (e : Entry F) :
    replayedCommands header (entries ++ [e]) =
      replayedCommands header entries >>= fun records => e.commandEvents.foldlM replayCommand records := by
  rw [replayedCommands, diskOf_commands_snoc, List.foldlM_append]
  rfl

theorem replayedBindings_snoc (header : SessionHeader F) (entries : List (Entry F)) (e : Entry F) :
    replayedBindings header (entries ++ [e]) =
      replayedBindings header entries >>= fun bindings => e.bindingEvents.foldlM replayBinding bindings := by
  rw [replayedBindings, diskOf_bindings_snoc, List.foldlM_append]
  rfl

theorem foldlM_singleton {ε α β : Type} (f : β → α → Except ε β) (b : β) (a : α) :
    [a].foldlM f b = f b a := by
  rw [List.foldlM_cons]
  cases f b a <;> rfl

/-- The step of a replay for one entry: what the records say of each command. -/
theorem stateIn_step {records after : List (CommandRecord F)} {e : Entry F}
    (replayed : e.commandEvents.foldlM replayCommand records = .ok after) (commandId : String) :
    stateIn after commandId = stateStep commandId (stateIn records commandId) e := by
  cases e with
  | created recordedAt record =>
      rw [Entry.commandEvents, foldlM_singleton, replayCommand_created] at replayed
      split at replayed
      · cases replayed
      · next absent =>
          cases replayed
          have unused : records.any (·.commandId = record.commandId) = false := by
            simpa using absent
          have fresh : stateIn records record.fresh.commandId = none := stateIn_eq_none.mpr unused
          rw [stateIn_snoc records record.fresh fresh commandId]
          rfl
  | changed recordedAt other source target detail =>
      rw [Entry.commandEvents, foldlM_singleton, replayCommand_changed] at replayed
      cases found : records.find? (·.commandId = other) with
      | none =>
          rw [found] at replayed
          cases replayed
      | some current =>
          rw [found] at replayed
          dsimp only at replayed
          have isOther : current.commandId = other := by simpa using List.find?_some found
          have known : stateIn records other ≠ none := by
            rw [stateIn, found]
            simp
          split_ifs at replayed
          cases replayed
          have moved : (current.moved (changedEvent recordedAt other source target detail)
              target).commandId = other := isOther
          exact stateIn_moved known moved rfl commandId
  | acquired => cases replayed; rfl
  | released => cases replayed; rfl
  | attached => cases replayed; rfl
  | published => cases replayed; rfl

/-- A replay agrees with the ledger on the state of every command. -/
theorem stateIn_replay {header : SessionHeader F} {entries : List (Entry F)}
    {records : List (CommandRecord F)} (replayed : replayedCommands header entries = .ok records)
    (commandId : String) : stateIn records commandId = stateOf entries commandId := by
  induction entries using List.reverseRecOn generalizing records with
  | nil =>
      cases replayed
      rfl
  | append_singleton entries e ih =>
      rw [replayedCommands_snoc] at replayed
      obtain ⟨before, earlier, last⟩ := bind_eq_ok.mp replayed
      rw [stateIn_step last, ih earlier, stateOf_snoc]

theorem activeIn_release (bindings : List (BrowserBinding F)) {released : BrowserBinding F}
    {generation : String} (isReleased : released.isReleased = true) :
    activeIn (bindings.map fun binding =>
        if binding.bindingGeneration = generation then released else binding) =
      (activeIn bindings).filter (· ≠ generation) := by
  unfold activeIn
  induction bindings with
  | nil => rfl
  | cons binding bindings ih =>
      by_cases here : binding.bindingGeneration = generation
      · simp only [List.map_cons, here, if_true]
        rw [List.filter_cons_of_neg (by simp [isReleased]), ih]
        cases active : binding.isReleased <;> simp [active, here]
      · simp only [List.map_cons, here, if_false]
        cases active : binding.isReleased
        · rw [List.filter_cons_of_pos (by simp [active]), List.filter_cons_of_pos (by simp [active]),
            List.map_cons, List.map_cons, List.filter_cons_of_pos (by simpa using here), ih]
        · rw [List.filter_cons_of_neg (by simp [active]), List.filter_cons_of_neg (by simp [active]), ih]

/-- The step of a replay for one entry: the bindings that are active. -/
theorem activeIn_step {bindings after : List (BrowserBinding F)} {e : Entry F}
    (replayed : e.bindingEvents.foldlM replayBinding bindings = .ok after) :
    activeIn after = activeStep (activeIn bindings) e := by
  cases e with
  | acquired recordedAt binding =>
      rw [Entry.bindingEvents, foldlM_singleton, replayBinding_acquired] at replayed
      split at replayed
      · cases replayed
      · cases replayed
        simp [activeIn, activeStep, BrowserBinding.fresh, BrowserBinding.isReleased]
  | released recordedAt bindingId generation releasedAt =>
      rw [Entry.bindingEvents, foldlM_singleton, replayBinding_released] at replayed
      cases found : bindings.find? (·.bindingGeneration = generation) with
      | none =>
          rw [found] at replayed
          cases replayed
      | some binding =>
          rw [found] at replayed
          dsimp only at replayed
          split at replayed
          · cases replayed
          · cases replayed
            exact activeIn_release _ rfl
  | created => cases replayed; rfl
  | changed => cases replayed; rfl
  | attached => cases replayed; rfl
  | published => cases replayed; rfl

/-- A replay agrees with the ledger on which bindings are active. -/
theorem activeIn_replay {header : SessionHeader F} {entries : List (Entry F)}
    {bindings : List (BrowserBinding F)} (replayed : replayedBindings header entries = .ok bindings) :
    activeIn bindings = activeGenerations entries := by
  induction entries using List.reverseRecOn generalizing bindings with
  | nil =>
      cases replayed
      rfl
  | append_singleton entries e ih =>
      rw [replayedBindings_snoc] at replayed
      obtain ⟨before, earlier, last⟩ := bind_eq_ok.mp replayed
      rw [activeIn_step last, ih earlier, activeGenerations_snoc]

end Dingdongditch.Continuity
