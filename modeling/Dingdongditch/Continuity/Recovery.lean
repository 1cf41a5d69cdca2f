import Dingdongditch.Continuity.Replayable
import Dingdongditch.Continuity.StateMachine

/-!
# Recovery

What `ContinuitySession.open` makes of a directory, whatever its last owner was
doing when it ended.  Where the journals can be read and the session is active,
or no command is dispatched, the new owner finds no dispatched command, and
opening once more changes nothing but the name of the owner.  Otherwise opening
raises: recovery records its findings through `_append`, which refuses to write
for a session that is completed or stopped (`Life.recovers_iff`).
-/

namespace Dingdongditch.Continuity

open Interaction Text Store
open Text.Json (ReadsFloat)

variable {F : Type}

/-! ## Runs whose writes go through -/

/-- A write that replaced its file without an error. -/
def Lands : Event (ContinuitySig F) → Prop
  | ⟨.write _, outcome⟩ => (outcome : WriteOutcome) = .written
  | _ => True

/-- A session that `_require_writable` lets write. -/
def ContinuitySession.Writable (s : ContinuitySession F) : Prop :=
  s.closed = false ∧ s.header.lifecycleStatus = .active

section Rules

variable {s s' : ContinuitySession F} {t : Trace (ContinuitySig F)} {α β : Type}

theorem runs_reading_bind {read : Disk F → Except PyException α} {f : α → Journaling F β} {a : α}
    {r : Except PyException β} (isRead : read s.disk = .ok a)
    (run : Act.Runs (reading read >>= f) s t r s') : Act.Runs (f a) s t r s' := by
  rcases run.bind_inv with ⟨e, rfl, failed⟩ | ⟨before, a', s₁, after, rfl, ran, rest⟩
  · obtain ⟨-, isError, -⟩ := runs_reading.mp failed
    rw [isRead] at isError
    cases isError
  · obtain ⟨rfl, isOk, rfl⟩ := runs_reading.mp ran
    rw [isRead] at isOk
    cases isOk
    exact rest

theorem runs_ofExcept_bind {x : Except PyException α} {f : α → Journaling F β} {a : α}
    {r : Except PyException β} (isOk : x = .ok a) (run : Act.Runs (Act.ofExcept x >>= f) s t r s') :
    Act.Runs (f a) s t r s' := by
  subst isOk
  exact run

theorem runs_reading_bind_ok {read : Disk F → Except PyException α} {f : α → Journaling F β} {b : β}
    (run : Act.Runs (reading read >>= f) s t (.ok b) s') :
    ∃ a, read s.disk = .ok a ∧ Act.Runs (f a) s t (.ok b) s' := by
  cases isRead : read s.disk with
  | ok a => exact ⟨a, rfl, runs_reading_bind isRead run⟩
  | error e =>
      obtain ⟨before, a, s₁, after, rfl, ran, -⟩ := run.bind_ok_inv
      obtain ⟨-, isOk, -⟩ := runs_reading.mp ran
      rw [isRead] at isOk
      cases isOk

theorem runs_ofExcept_bind_ok {x : Except PyException α} {f : α → Journaling F β} {b : β}
    (run : Act.Runs (Act.ofExcept x >>= f) s t (.ok b) s') :
    ∃ a, x = .ok a ∧ Act.Runs (f a) s t (.ok b) s' := by
  rcases run.ofExcept_bind_inv with ⟨e, -, -, isError, -⟩ | found
  · cases isError
  · exact found

theorem runs_now_bind {f : F → Journaling F β} {r : Except PyException β}
    (run : Act.Runs (now >>= f) s t r s') :
    ∃ n rest, t = ⟨ContinuityCall.now, n⟩ :: rest ∧ Act.Runs (f n) s rest r s' := by
  unfold now at run
  exact run.ask_bind_inv

theorem runs_writeDisk_landed {write : Write F} {r : Except PyException Unit}
    (run : Act.Runs (writeDisk write) s t r s') (lands : ∀ event ∈ t, Lands event) :
    r = .ok () ∧ s' = s.wrote write := by
  obtain ⟨outcome, rest, rfl, after⟩ := run.ask_bind_inv
  change WriteOutcome at outcome
  have landed : outcome = .written := lands _ List.mem_cons_self
  subst landed
  obtain ⟨-, rfl, rfl⟩ := Act.runs_modifyGet.mp after
  exact ⟨rfl, rfl⟩

theorem runs_append_landed {stream : Stream} {record : Json F} {r : Except PyException Unit}
    (writable : s.Writable) (run : Act.Runs (append stream record) s t r s')
    (lands : ∀ event ∈ t, Lands event) : r = .ok () ∧ s' = s.wrote (.append stream record) := by
  have allowed : (requireWritable : Journaling F Unit) s = .done (.ok (), s) := by
    simp [requireWritable, writable.1, writable.2, bind, Act.bind, get, getThe, MonadStateOf.get,
      Prog.bind, pure, Act.pure]
  rcases run.bind_inv with ⟨e, rfl, failed⟩ | ⟨before, a, s₁, after, rfl, ran, rest⟩
  · unfold Act.Runs at failed
    rw [allowed] at failed
    obtain ⟨-, same⟩ := Prog.runs_done.mp failed
    cases same
  · obtain ⟨rfl, rfl, -⟩ := runs_requireWritable ran
    exact runs_writeDisk_landed rest lands

/-- Nothing can be appended to a session that is not active. -/
theorem active_of_append {stream : Stream} {record : Json F} {u : Unit}
    (run : Act.Runs (append stream record) s t (.ok u) s') : s.header.lifecycleStatus = .active := by
  obtain ⟨before, a, s₁, after, rfl, ran, -⟩ := run.bind_ok_inv
  obtain ⟨-, -, checked⟩ := runs_requireWritable ran
  exact (checked rfl).2

end Rules

theorem unbroken_snoc {header : SessionHeader F} {entries : List (Entry F)} {e : Entry F}
    (unbroken : ∀ record ∈ (diskOf header entries).commands, Unbroken record)
    (last : ∀ record ∈ e.commandEvents, Unbroken record) :
    ∀ record ∈ (diskOf header (entries ++ [e])).commands, Unbroken record := by
  rw [diskOf_commands_snoc]
  exact List.forall_mem_append.mpr ⟨unbroken, last⟩

/-- An entry that moves a dispatched command on. -/
def Entry.MovesOn (e : Entry F) (commandId : String) : Prop :=
  ∃ recordedAt target detail, e = .changed recordedAt commandId .dispatched target detail ∧
    target ≠ .dispatched

/-- Recovery adds no evidence. -/
theorem evidence_movesOn {header : SessionHeader F} {entries more : List (Entry F)}
    (movesOn : ∀ e ∈ more, ∃ commandId, e.MovesOn commandId) :
    (diskOf header (entries ++ more)).evidence = (diskOf header entries).evidence := by
  induction more using List.reverseRecOn with
  | nil => rw [List.append_nil]
  | append_singleton more e ih =>
      obtain ⟨earlier, last⟩ := List.forall_mem_append.mp movesOn
      obtain ⟨commandId, recordedAt, target, detail, rfl, -⟩ := last e (by simp)
      rw [← List.append_assoc, diskOf_snoc]
      exact ih earlier

/-- A command ends verified or failed with evidence for it. -/
theorem attested_of_stateOf {header : SessionHeader F} {entries : List (Entry F)}
    (lawful : Follows (Permits header) [] entries) {commandId : String} {state : CommandState}
    (ended : state = .verified ∨ state = .failed) (isState : stateOf entries commandId = some state) :
    Attested entries commandId state := by
  revert isState
  refine Follows.rec_snoc (P := fun entries => stateOf entries commandId = some state →
    Attested entries commandId state) (fun isState => nomatch isState)
    (fun entries e _ ih permitted isState => ?_) entries lawful
  rw [stateOf_snoc] at isState
  cases e with
  | created recordedAt record =>
      obtain ⟨-, isProposed, -⟩ := permitted
      change (if record.commandId = commandId then some record.state
        else stateOf entries commandId) = some state at isState
      split_ifs at isState with same
      · rw [isProposed] at isState
        cases isState
        rcases ended with ended | ended <;> cases ended
      · exact (ih isState).append _
  | changed recordedAt other source target detail =>
      obtain ⟨-, -, -, attested⟩ := permitted
      change (if other = commandId then some target else stateOf entries commandId) = some state
        at isState
      split_ifs at isState with same
      · cases isState
        exact (same ▸ attested ended).append _
      · exact (ih isState).append _
  | _ => exact (ih isState).append _

/-- Every record of evidence names its command. -/
theorem evidence_indexed (header : SessionHeader F) (entries : List (Entry F)) :
    ∃ evidence, ((diskOf header entries).evidence.mapM fun item => do
      return (← getStr item "command_id", item) : Except PyException _) = .ok evidence := by
  refine mapM_ok_of_forall fun item mem => ?_
  have isRecord : item ∈ (diskOf header entries).stream .evidence := mem
  obtain ⟨e, -, isWrite⟩ := mem_stream isRecord
  cases e with
  | attached recordedAt request path schema digest facts =>
      obtain rfl : evidenceRecord request recordedAt path schema digest facts = item := by
        simpa [Entry.write] using isWrite
      have isId : getStr (evidenceRecord request recordedAt path schema digest facts) "command_id" =
          .ok request.commandId := by
        simp [evidenceRecord, event, getStr, getItem, List.lookup_cons, bind, Except.bind, pure, Except.pure]
      rw [isId]
      exact ⟨_, rfl⟩
  | created => cases isWrite
  | changed => cases isWrite
  | acquired => cases isWrite
  | released => cases isWrite
  | published => cases isWrite

variable [Floating F] [ReadsFloat F]

/-! ## A transition -/

/-- Moving a dispatched command on, in a session that is active. -/
theorem runs_transition_landed {header : SessionHeader F} {entries : List (Entry F)}
    {s s' : ContinuitySession F} {t : Trace (ContinuitySig F)} {commandId : String}
    {target : CommandState} {detail : List (String × Json F)} {r : Except PyException (CommandRecord F)}
    (isDisk : s.disk = diskOf header entries) (writable : s.Writable)
    (lawful : Follows (Permits header) [] entries)
    (unbroken : ∀ record ∈ (diskOf header entries).commands, Unbroken record)
    (dispatched : stateOf entries commandId = some .dispatched)
    (allowed : target ∈ CommandState.dispatched.transitions)
    (attested : target = .verified ∨ target = .failed → Attested entries commandId target)
    (plain : PlainFields detail) (run : Act.Runs (transition commandId target detail) s t r s')
    (lands : ∀ event ∈ t, Lands event) :
    ∃ recordedAt record, r = .ok record ∧
      s' = s.wrote (Entry.changed recordedAt commandId .dispatched target detail).write ∧
      Permits header entries (.changed recordedAt commandId .dispatched target detail) ∧
      Unbroken (changedEvent recordedAt commandId .dispatched target detail) := by
  obtain ⟨records, read⟩ := commandRecords_ok lawful unbroken
  have replayed := commandRecords_diskOf read
  rw [← stateIn_replay replayed] at dispatched
  obtain ⟨current, found, isDispatched⟩ := find_of_stateIn dispatched
  have isId : current.commandId = commandId := by simpa using List.find?_some found
  rw [← isDisk] at read
  have run := runs_reading_bind read run
  rw [found] at run
  dsimp only at run
  rw [if_neg (by simpa [isDispatched] using allowed)] at run
  obtain ⟨recordedAt, rest, rfl, after⟩ := runs_now_bind run
  rw [isDispatched] at after
  have permitted : Permits header entries (.changed recordedAt commandId .dispatched target detail) := by
    refine ⟨stateIn_replay replayed commandId ▸ dispatched, allowed, ?_, attested⟩
    rintro rfl
    simp [CommandState.transitions] at allowed
  have isPlain := plain_replayedCommands unbroken replayed current (List.mem_of_find?_eq_some found)
  have isUnbroken : Unbroken (changedEvent recordedAt commandId .dispatched target detail) :=
    unbroken_changed (isId ▸ isPlain.commandId) plain
  have lands' : ∀ event ∈ rest, Lands event := fun event mem =>
    lands event (List.mem_cons_of_mem _ mem)
  rcases after.bind_inv with ⟨e, rfl, failed⟩ | ⟨before, u, s₁, last, rfl, ran, final⟩
  · obtain ⟨isOk, -⟩ := runs_append_landed writable failed lands'
    cases isOk
  obtain ⟨-, rfl⟩ := runs_append_landed writable ran fun event mem =>
    lands' event (List.mem_append_left _ mem)
  refine ⟨recordedAt, ?_⟩
  have isDisk' : (s.wrote (Entry.changed recordedAt commandId .dispatched target detail).write).disk =
      diskOf header (entries ++ [.changed recordedAt commandId .dispatched target detail]) := by
    rw [diskOf_snoc, ← isDisk]
    rfl
  obtain ⟨records', read'⟩ := commandRecords_ok (follows_snoc.mpr ⟨lawful, permitted⟩)
    (unbroken_snoc unbroken (List.forall_mem_singleton.mpr isUnbroken))
  have moved : stateIn records' commandId = some target := by
    rw [stateIn_replay (commandRecords_diskOf read'), stateOf_snoc]
    simp [stateStep]
  obtain ⟨changed, found', -⟩ := find_of_stateIn moved
  rw [← isDisk'] at read'
  have final := runs_reading_bind read' final
  rw [found'] at final
  obtain ⟨-, rfl, rfl⟩ := Act.runs_pure.mp final
  exact ⟨changed, rfl, rfl, permitted, isUnbroken⟩

/-! ## The commands, one after the other -/

/-- What recovery adds for a command that it finds dispatched. -/
structure Recovery (header : SessionHeader F) (before : List (Entry F)) (commandId : String)
    (e : Entry F) : Prop where
  movesOn : e.MovesOn commandId
  permitted : Permits header before e
  unbroken : ∀ record ∈ e.commandEvents, Unbroken record

section Loop

variable {header : SessionHeader F} {entries : List (Entry F)} {evidence : List (String × Json F)}

/-- One command: it was not dispatched, or it is moved on. -/
theorem runs_recoverCommand_landed {more : List (Entry F)} {command : CommandRecord F}
    {s s' : ContinuitySession F} {t : Trace (ContinuitySig F)} {r : Except PyException Unit}
    (isDisk : s.disk = diskOf header (entries ++ more))
    (writable : command.state = .dispatched → s.Writable)
    (lawful : Follows (Permits header) [] (entries ++ more))
    (unbroken : ∀ record ∈ (diskOf header (entries ++ more)).commands, Unbroken record)
    (known : stateOf (entries ++ more) command.commandId = some command.state)
    (readable : ∀ record ∈ (diskOf header entries).evidence, Unbroken record)
    (evidences : ∀ item, evidence.lookup command.commandId = some item →
      ∃ (classification : TerminalClassification) (path : String),
        Evidences header entries command.commandId item classification.target path)
    (run : Act.Runs (recoverCommand evidence command) s t r s') (lands : ∀ event ∈ t, Lands event) :
    r = .ok () ∧ (command.state ≠ .dispatched ∧ s' = s ∨
      ∃ e, command.state = .dispatched ∧ Recovery header (entries ++ more) command.commandId e ∧
        s' = s.wrote e.write) := by
  unfold recoverCommand at run
  by_cases dispatched : command.state = .dispatched
  · rw [if_pos dispatched] at run
    rw [dispatched] at known
    have settle {target : CommandState} {detail : List (String × Json F)}
        (allowed : target ∈ CommandState.dispatched.transitions)
        (attested : target = .verified ∨ target = .failed →
          Attested (entries ++ more) command.commandId target) (plain : PlainFields detail)
        (ran : Act.Runs (do let _ ← transition command.commandId target detail) s t r s') :
        r = .ok () ∧ ∃ e, Recovery header (entries ++ more) command.commandId e ∧
          s' = s.wrote e.write := by
      have other : target ≠ .dispatched := by
        rintro rfl
        simp [CommandState.transitions] at allowed
      rcases ran.bind_inv with ⟨err, rfl, failed⟩ | ⟨before, record, s₁, after, rfl, moved, final⟩
      · obtain ⟨_, _, isOk, -⟩ := runs_transition_landed isDisk (writable dispatched) lawful unbroken
          known allowed attested plain failed lands
        cases isOk
      · obtain ⟨recordedAt, _, -, rfl, permitted, isUnbroken⟩ := runs_transition_landed isDisk
          (writable dispatched) lawful unbroken known allowed attested plain moved
          fun event mem => lands event (List.mem_append_left _ mem)
        obtain ⟨-, rfl, rfl⟩ := Act.runs_pure.mp final
        exact ⟨rfl, _, ⟨⟨recordedAt, target, detail, rfl, other⟩, permitted,
          List.forall_mem_singleton.mpr isUnbroken⟩, rfl⟩
    cases found : evidence.lookup command.commandId with
    | some item =>
        obtain ⟨classification, path, isEvidence⟩ := evidences item found
        rw [found] at run
        have run := runs_ofExcept_bind isEvidence.classification run
        have run := runs_ofExcept_bind (CommandState.ofValue_value _) run
        have run := runs_ofExcept_bind isEvidence.reference run
        have plainPath : Plain path :=
          readable item isEvidence.recorded _ (mem_strings_of_getItem isEvidence.reference)
        have plain : PlainFields [("receipt_reference", (.str path : Json F)),
            ("recovered_from_evidence", .bool true)] := by
          simp only [plainFields_cons]
          exact ⟨by decide, unbroken_str plainPath, by decide, unbroken_atom rfl, plainFields_nil⟩
        obtain ⟨rfl, e, recovery, rfl⟩ := settle (by cases classification <;> decide)
          (fun _ => isEvidence.attested.append more) plain run
        exact ⟨rfl, .inr ⟨e, dispatched, recovery, rfl⟩⟩
    | none =>
        rw [found] at run
        have plain : PlainFields [("reason", (.str "owner_restart_after_dispatch" : Json F))] := by
          simp only [plainFields_cons]
          exact ⟨by decide, unbroken_str (by decide), plainFields_nil⟩
        have allowed : CommandState.outcomeUnknown ∈ CommandState.dispatched.transitions := by decide
        obtain ⟨rfl, e, recovery, rfl⟩ := settle allowed (by simp) plain run
        exact ⟨rfl, .inr ⟨e, dispatched, recovery, rfl⟩⟩
  · rw [if_neg dispatched] at run
    obtain ⟨-, rfl, rfl⟩ := Act.runs_pure.mp run
    exact ⟨rfl, .inl ⟨dispatched, rfl⟩⟩

/-- The ledger that recovery leaves. -/
structure Recovered (header : SessionHeader F) (entries more : List (Entry F)) : Prop where
  lawful : Follows (Permits header) [] (entries ++ more)
  unbroken : ∀ record ∈ (diskOf header (entries ++ more)).commands, Unbroken record
  movesOn : ∀ e ∈ more, ∃ commandId, e.MovesOn commandId

/-- A session with the ledger that recovery has come to, of an owner like `s`. -/
structure Stands (header : SessionHeader F) (ledger : List (Entry F)) (s s' : ContinuitySession F) :
    Prop where
  disk : s'.disk = diskOf header ledger
  owner : s'.header = s.header
  closed : s'.closed = s.closed

/-- All commands: afterwards none is dispatched, and nothing was written if none was. -/
theorem runs_recoverCommands_landed {rest : List (CommandRecord F)} {more : List (Entry F)}
    {s s' : ContinuitySession F} {t : Trace (ContinuitySig F)} {r : Except PyException PUnit}
    (isDisk : s.disk = diskOf header (entries ++ more))
    (writable : (∃ command ∈ rest, command.state = .dispatched) → s.Writable)
    (recovered : Recovered header entries more)
    (known : ∀ command ∈ rest, stateOf (entries ++ more) command.commandId = some command.state)
    (distinct : (rest.map (·.commandId)).Nodup)
    (pending : ∀ commandId, stateOf (entries ++ more) commandId = some .dispatched →
      ∃ command ∈ rest, command.commandId = commandId)
    (readable : ∀ record ∈ (diskOf header entries).evidence, Unbroken record)
    (evidences : ∀ commandId item, evidence.lookup commandId = some item →
      ∃ (classification : TerminalClassification) (path : String),
        Evidences header entries commandId item classification.target path)
    (run : Act.Runs (rest.forM (recoverCommand evidence)) s t r s')
    (lands : ∀ event ∈ t, Lands event) :
    r = .ok () ∧ ∃ more', Stands header (entries ++ more') s s' ∧ Recovered header entries more' ∧
      (∀ commandId, stateOf (entries ++ more') commandId ≠ some .dispatched) ∧
      ((∀ command ∈ rest, command.state ≠ .dispatched) → more' = more) := by
  induction rest generalizing more s t with
  | nil =>
      obtain ⟨-, rfl, rfl⟩ := Act.runs_pure.mp run
      refine ⟨rfl, more, ⟨isDisk, rfl, rfl⟩, recovered, fun commandId isDispatched => ?_, fun _ => rfl⟩
      obtain ⟨command, mem, -⟩ := pending commandId isDispatched
      cases mem
  | cons command rest ih =>
      obtain ⟨here, later⟩ := List.forall_mem_cons.mp known
      obtain ⟨notLater, distinct'⟩ := List.nodup_cons.mp distinct
      have other {c : CommandRecord F} (mem : c ∈ rest) : command.commandId ≠ c.commandId :=
        fun same => notLater (List.mem_map.mpr ⟨c, mem, same.symm⟩)
      have writableHere : command.state = .dispatched → s.Writable := fun isDispatched =>
        writable ⟨command, List.mem_cons_self, isDispatched⟩
      have head {u : Trace (ContinuitySig F)} {q : Except PyException Unit} {s₁ : ContinuitySession F}
          (ran : Act.Runs (recoverCommand evidence command) s u q s₁)
          (landed : ∀ event ∈ u, Lands event) :=
        runs_recoverCommand_landed isDisk writableHere recovered.lawful recovered.unbroken here readable
          (evidences command.commandId) ran landed
      rcases run.bind_inv with ⟨err, rfl, failed⟩ | ⟨before, u, s₁, after, rfl, ran, final⟩
      · obtain ⟨isOk, -⟩ := head failed lands
        cases isOk
      have landsBefore : ∀ event ∈ before, Lands event := fun event mem =>
        lands event (List.mem_append_left _ mem)
      have landsAfter : ∀ event ∈ after, Lands event := fun event mem =>
        lands event (List.mem_append_right _ mem)
      obtain ⟨-, ⟨notDispatched, rfl⟩ | ⟨e, isDispatched, recovery, rfl⟩⟩ := head ran landsBefore
      · -- the command was not dispatched: the ledger is as before
        have pending' : ∀ commandId, stateOf (entries ++ more) commandId = some .dispatched →
            ∃ c ∈ rest, c.commandId = commandId := by
          intro commandId isDispatched
          obtain ⟨c, mem, rfl⟩ := pending commandId isDispatched
          rcases List.mem_cons.mp mem with rfl | mem
          · rw [here] at isDispatched
            exact absurd (Option.some.inj isDispatched) notDispatched
          · exact ⟨c, mem, rfl⟩
        have writable' : (∃ c ∈ rest, c.state = .dispatched) → s₁.Writable :=
          fun ⟨c, mem, isDispatched⟩ => writable ⟨c, List.mem_cons_of_mem _ mem, isDispatched⟩
        obtain ⟨isOk, more', stands, recovered', none, silent⟩ :=
          ih isDisk writable' recovered later distinct' pending' final landsAfter
        exact ⟨isOk, more', stands, recovered', none, fun all =>
          silent (List.forall_mem_cons.mp all).2⟩
      · -- the command was moved on: one entry more, about no other command
        have writable' := writableHere isDispatched
        obtain ⟨recordedAt, target, detail, isEntry, notTarget⟩ := recovery.movesOn
        have isLedger : entries ++ (more ++ [e]) = entries ++ more ++ [e] :=
          (List.append_assoc _ _ _).symm
        have state (commandId : String) : stateOf (entries ++ (more ++ [e])) commandId =
            if command.commandId = commandId then some target
            else stateOf (entries ++ more) commandId := by
          rw [isLedger, stateOf_snoc, isEntry]
          rfl
        have recovered' : Recovered header entries (more ++ [e]) := by
          refine ⟨?_, ?_, ?_⟩
          · rw [isLedger]
            exact follows_snoc.mpr ⟨recovered.lawful, recovery.permitted⟩
          · rw [isLedger]
            exact unbroken_snoc recovered.unbroken recovery.unbroken
          · exact List.forall_mem_append.mpr ⟨recovered.movesOn,
              List.forall_mem_singleton.mpr ⟨command.commandId, recovery.movesOn⟩⟩
        have isDisk' : (s.wrote e.write).disk = diskOf header (entries ++ (more ++ [e])) := by
          rw [isLedger, diskOf_snoc, ← isDisk]
          rfl
        have known' : ∀ c ∈ rest, stateOf (entries ++ (more ++ [e])) c.commandId = some c.state := by
          intro c mem
          rw [state, if_neg (other mem)]
          exact later c mem
        have pending' : ∀ commandId, stateOf (entries ++ (more ++ [e])) commandId =
            some .dispatched → ∃ c ∈ rest, c.commandId = commandId := by
          intro commandId isDispatched'
          rw [state] at isDispatched'
          split at isDispatched'
          · exact absurd (Option.some.inj isDispatched') notTarget
          · next differs =>
            obtain ⟨c, mem, rfl⟩ := pending commandId isDispatched'
            rcases List.mem_cons.mp mem with rfl | mem
            · exact absurd rfl differs
            · exact ⟨c, mem, rfl⟩
        obtain ⟨isOk, more', stands, recovered'', none, -⟩ :=
          ih isDisk' (fun _ => writable') recovered' known' distinct' pending' final landsAfter
        exact ⟨isOk, more', ⟨stands.disk, stands.owner, stands.closed⟩, recovered'', none,
          fun all => absurd isDispatched (List.forall_mem_cons.mp all).1⟩

end Loop

/-! ## Opening a directory -/

/-- The journals that recovery reads can be read. -/
def Disk.Recoverable (disk : Disk F) : Prop :=
  (∃ records, disk.commandRecords = .ok records) ∧ ∃ index, disk.evidenceIndex = .ok index

theorem runs_recoverInterrupted_landed {header : SessionHeader F} {entries : List (Entry F)}
    {s s' : ContinuitySession F} {t : Trace (ContinuitySig F)} {r : Except PyException Unit}
    (isDisk : s.disk = diskOf header entries) (lawful : Follows (Permits header) [] entries)
    (recoverable : s.disk.Recoverable)
    (writable : (∃ commandId, stateOf entries commandId = some .dispatched) → s.Writable)
    (run : Act.Runs recoverInterruptedCommands s t r s') (lands : ∀ event ∈ t, Lands event) :
    r = .ok () ∧ ∃ more, Stands header (entries ++ more) s s' ∧ Recovered header entries more ∧
      (∀ commandId, stateOf (entries ++ more) commandId ≠ some .dispatched) ∧
      ((∀ commandId, stateOf entries commandId ≠ some .dispatched) → more = []) := by
  obtain ⟨⟨records, read⟩, index, indexRead⟩ := recoverable
  have run := runs_reading_bind indexRead run
  have isIndex : index = (diskOf header entries).evidence := isDisk ▸ readEvents_eq_ok indexRead
  obtain ⟨evidence, indexed⟩ := evidence_indexed header entries
  rw [← isIndex] at indexed
  have run := runs_ofExcept_bind indexed run
  have run := runs_reading_bind read run
  rw [isDisk] at read indexRead
  have replayed := commandRecords_diskOf read
  have distinct := commandIds_nodup replayed
  have isDisk' : s.disk = diskOf header (entries ++ []) := by rw [List.append_nil, isDisk]
  have known : ∀ command ∈ records, stateOf (entries ++ []) command.commandId = some command.state := by
    intro command mem
    rw [List.append_nil, ← stateIn_replay replayed]
    exact stateIn_of_mem distinct mem
  have pending : ∀ commandId, stateOf (entries ++ []) commandId = some .dispatched →
      ∃ command ∈ records, command.commandId = commandId := by
    intro commandId isDispatched
    rw [List.append_nil, ← stateIn_replay replayed] at isDispatched
    obtain ⟨command, found, -⟩ := find_of_stateIn isDispatched
    exact ⟨command, List.mem_of_find?_eq_some found, by simpa using List.find?_some found⟩
  have unbroken : ∀ record ∈ (diskOf header entries).commands, Unbroken record := by
    obtain ⟨events, isRead, -⟩ := bind_eq_ok.mp read
    exact unbroken_of_readEvents isRead
  have recovered : Recovered header entries [] := by
    refine ⟨?_, ?_, by simp⟩
    · rwa [List.append_nil]
    · rwa [List.append_nil]
  have dispatchedState {command : CommandRecord F} (mem : command ∈ records)
      (isDispatched : command.state = .dispatched) :
      stateOf entries command.commandId = some .dispatched := by
    have isState := known command mem
    rwa [List.append_nil, isDispatched] at isState
  obtain ⟨isOk, more, stands, recovered', none, silent⟩ :=
    runs_recoverCommands_landed isDisk'
      (fun ⟨command, mem, isDispatched⟩ => writable ⟨_, dispatchedState mem isDispatched⟩)
      recovered known distinct pending (unbroken_of_readEvents indexRead)
      (fun _ _ found => evidences_of_lookup indexRead indexed found) run lands
  exact ⟨isOk, more, stands, recovered', none, fun all => silent fun command mem isDispatched =>
    all _ (dispatchedState mem isDispatched)⟩

/-- The header that an owner publishes. -/
def SessionHeader.ownedBy (header : SessionHeader F) (ownerGeneration : String) : SessionHeader F :=
  { header with ownerGeneration }

/-- `open` where the journals can be read, and written as far as recovery needs to. -/
theorem runs_openSession_landed {header : SessionHeader F} {entries : List (Entry F)}
    {s s' : ContinuitySession F} {t : Trace (ContinuitySig F)} {r : Except PyException Unit}
    {owner : String} (isDisk : s.disk = diskOf header entries) (isClosed : s.closed = true)
    (version : header.schemaVersion = CONTINUITY_SCHEMA_VERSION)
    (valid : identifier "owner_generation" owner = .ok owner)
    (lawful : Follows (Permits header) [] entries) (recoverable : s.disk.Recoverable)
    (active : (∃ commandId, stateOf entries commandId = some .dispatched) →
      s.disk.manifest.lifecycleStatus = .active)
    (run : Act.Runs (openSession owner true) s t r s') (lands : ∀ event ∈ t, Lands event) :
    r = .ok () ∧ ∃ more,
      s'.disk = diskOf header (entries ++ [.published (s.disk.manifest.ownedBy owner)] ++ more) ∧
      Recovered header (entries ++ [.published (s.disk.manifest.ownedBy owner)]) more ∧
      (∀ commandId, stateOf (entries ++ [.published (s.disk.manifest.ownedBy owner)] ++ more)
        commandId ≠ some .dispatched) ∧
      ((∀ commandId, stateOf entries commandId ≠ some .dispatched) → more = []) := by
  have run := Act.Runs.get_bind_inv run
  rw [if_neg (by simp [isClosed])] at run
  have isVersion : s.disk.manifest.schemaVersion = CONTINUITY_SCHEMA_VERSION := by
    rw [isDisk, (owned_manifest lawful).2, version]
  rw [if_neg (by simp [isVersion])] at run
  have run := runs_ofExcept_bind valid run
  rcases run.bind_inv with ⟨e, rfl, failed⟩ | ⟨before, u, s₁, after, rfl, ran, final⟩
  · obtain ⟨isOk, -⟩ := runs_writeDisk_landed failed lands
    cases isOk
  obtain ⟨-, rfl⟩ := runs_writeDisk_landed ran fun event mem => lands event (List.mem_append_left _ mem)
  have lands' : ∀ event ∈ after, Lands event := fun event mem =>
    lands event (List.mem_append_right _ mem)
  have final := Act.Runs.modify_bind_inv final
  rw [if_pos rfl] at final
  have isDisk' : (s.disk.apply (.publish (s.disk.manifest.ownedBy owner))) =
      diskOf header (entries ++ [.published (s.disk.manifest.ownedBy owner)]) := by
    rw [diskOf_snoc, isDisk]
    rfl
  have lawful' : Follows (Permits header) [] (entries ++ [.published (s.disk.manifest.ownedBy owner)]) := by
    refine follows_snoc.mpr ⟨lawful, ?_⟩
    have owned := owned_manifest lawful
    rwa [← isDisk] at owned
  have sameState (commandId : String) :
      stateOf (entries ++ [.published (s.disk.manifest.ownedBy owner)]) commandId =
        stateOf entries commandId := by
    rw [stateOf_snoc]
    rfl
  have writable : (∃ commandId, stateOf (entries ++ [.published (s.disk.manifest.ownedBy owner)])
      commandId = some .dispatched) → ContinuitySession.Writable
        ⟨s.disk.apply (.publish (s.disk.manifest.ownedBy owner)), s.disk.manifest.ownedBy owner,
          false⟩ :=
    fun ⟨commandId, isDispatched⟩ =>
      ⟨rfl, active ⟨commandId, (sameState commandId).symm.trans isDispatched⟩⟩
  have recovers {u : Trace (ContinuitySig F)} {q : Except PyException Unit} {s₂ : ContinuitySession F}
      (recovered : Act.Runs recoverInterruptedCommands
        ⟨s.disk.apply (.publish (s.disk.manifest.ownedBy owner)), s.disk.manifest.ownedBy owner,
          false⟩ u q s₂) (landed : ∀ event ∈ u, Lands event) :=
    runs_recoverInterrupted_landed (s := ⟨s.disk.apply (.publish (s.disk.manifest.ownedBy owner)),
      s.disk.manifest.ownedBy owner, false⟩) isDisk' lawful' recoverable writable recovered landed
  rcases Act.runs_tryCatch.mp final with ⟨u', rfl, recovered⟩ | ⟨t', e, s₂, t'', rfl, failed, -⟩
  · obtain ⟨-, more, stands, isRecovered, none, silent⟩ := recovers recovered lands'
    refine ⟨rfl, more, stands.disk, isRecovered, none, fun all => silent fun commandId => ?_⟩
    rw [sameState]
    exact all commandId
  · obtain ⟨isOk, -⟩ := recovers failed fun event mem => lands' event (List.mem_append_left _ mem)
    cases isOk

/-! ## What a recovered directory says -/

/-- The evidence journal says that a command ended as it did. -/
def Disk.Evidenced (disk : Disk F) (record : CommandRecord F) : Prop :=
  ∃ item ∈ disk.evidence, getStr item "command_id" = .ok record.commandId ∧
    getStr item "terminal_classification" = .ok record.state.value

/-- A directory without interrupted commands. -/
def Disk.Settled (disk : Disk F) : Prop :=
  ∃ records, disk.commandRecords = .ok records ∧ ∀ record ∈ records, record.state ≠ .dispatched ∧
    (record.state = .verified ∨ record.state = .failed → disk.Evidenced record)

theorem settled_of_none {header : SessionHeader F} {entries : List (Entry F)}
    (lawful : Follows (Permits header) [] entries)
    (unbroken : ∀ record ∈ (diskOf header entries).commands, Unbroken record)
    (none : ∀ commandId, stateOf entries commandId ≠ some .dispatched) :
    (diskOf header entries).Settled := by
  obtain ⟨records, read⟩ := commandRecords_ok lawful unbroken
  refine ⟨records, read, fun record mem => ?_⟩
  have replayed := commandRecords_diskOf read
  have isState := stateIn_of_mem (commandIds_nodup replayed) mem
  rw [stateIn_replay replayed] at isState
  refine ⟨fun isDispatched => none _ (isDispatched ▸ isState), fun ended => ?_⟩
  obtain ⟨recordedAt, request, path, schema, digest, facts, isEntry, isCommand, isTarget⟩ :=
    attested_of_stateOf lawful ended isState
  have isRecord : evidenceRecord request recordedAt path schema digest facts ∈
      (diskOf header entries).stream .evidence := mem_stream_of isEntry rfl
  refine ⟨_, isRecord, ?_, ?_⟩
  · rw [← isCommand]
    simp [evidenceRecord, event, getStr, getItem, List.lookup_cons, bind, Except.bind, pure, Except.pure]
  · rw [← isTarget]
    simp [evidenceRecord, event, getStr, getItem, List.lookup_cons, bind, Except.bind, pure, Except.pure,
      TerminalClassification.value]

/-! ## Every reachable directory -/

/-- `open` returns whatever the clock says, if its writes go through, and leaves a
session with the property `Q`. -/
def Opens (s : ContinuitySession F) (owner : String) (Q : ContinuitySession F → Prop) : Prop :=
  Act.Terminates (openSession owner true : Journaling F Unit) ∧
    ∀ t r s', Act.Runs (openSession owner true) s t r s' → (∀ event ∈ t, Lands event) →
      r = .ok () ∧ Q s'

/-- A new owner finds no interrupted command, and the next one finds what it left. -/
def Recovers (s : ContinuitySession F) (owner : String) : Prop :=
  Opens s owner fun s' => s'.disk.Settled ∧
    ∀ next, identifier "owner_generation" next = .ok next →
      Opens { s' with closed := true } next fun s'' =>
        s''.disk = { s'.disk with manifest := s'.disk.manifest.ownedBy next }

section Terminates

omit [Floating F] [ReadsFloat F] in
theorem terminates_writeDisk (write : Write F) : Act.Terminates (writeDisk write) := by
  refine (Act.terminates_ask (S := ContinuitySig F) (.write write)).bind fun outcome => ?_
  change WriteOutcome at outcome
  cases outcome with
  | written => exact Act.terminates_modify _
  | raised e landed =>
      cases landed with
      | true => exact (Act.terminates_modify _).bind fun _ => Act.terminates_throw e
      | false => exact Act.terminates_throw e

omit [Floating F] [ReadsFloat F] in
theorem terminates_append (stream : Stream) (record : Json F) :
    Act.Terminates (append stream record) := by
  refine Act.Terminates.bind (Act.terminates_get.bind fun s => ?_) fun _ => terminates_writeDisk _
  split
  · exact Act.terminates_throw _
  split
  · exact Act.terminates_throw _
  · exact Act.terminates_pure _

omit [Floating F] [ReadsFloat F] in
theorem terminates_reading {α : Type} (read : Disk F → Except PyException α) :
    Act.Terminates (reading read) :=
  Act.terminates_get.bind fun s => Act.terminates_ofExcept (read s.disk)

theorem terminates_transition (commandId : String) (state : CommandState)
    (detail : List (String × Json F)) : Act.Terminates (transition commandId state detail) := by
  refine (terminates_reading _).bind fun records => ?_
  split
  · exact Act.terminates_throw _
  split
  · exact Act.terminates_throw _
  refine (Act.terminates_ask (S := ContinuitySig F) .now).bind fun recordedAt => ?_
  refine (terminates_append _ _).bind fun _ => (terminates_reading _).bind fun records' => ?_
  split
  · exact Act.terminates_pure _
  · exact Act.terminates_throw _

theorem terminates_recoverCommand (evidence : List (String × Json F)) (command : CommandRecord F) :
    Act.Terminates (recoverCommand evidence command) := by
  unfold recoverCommand
  split
  case isFalse => exact Act.terminates_pure _
  split
  · refine (Act.terminates_ofExcept _).bind fun _ => (Act.terminates_ofExcept _).bind fun _ => ?_
    exact (Act.terminates_ofExcept _).bind fun _ =>
      (terminates_transition _ _ _).bind fun _ => Act.terminates_pure _
  · exact Act.Terminates.bind (terminates_transition _ _ _) fun _ => Act.terminates_pure _

theorem terminates_openSession (owner : String) (recover : Bool) :
    Act.Terminates (openSession owner recover : Journaling F Unit) := by
  refine Act.terminates_get.bind fun s => ?_
  split
  · exact Act.terminates_throw _
  split
  · exact Act.terminates_throw _
  refine (Act.terminates_ofExcept _).bind fun owner => (terminates_writeDisk _).bind fun _ => ?_
  refine (Act.terminates_modify _).bind fun _ => ?_
  split
  · refine Act.Terminates.tryCatch ?_ fun e =>
      (Act.terminates_modify _).bind fun _ => Act.terminates_throw e
    refine (terminates_reading _).bind fun index => (Act.terminates_ofExcept _).bind fun evidence => ?_
    exact (terminates_reading _).bind fun records =>
      Act.terminates_forM fun command => terminates_recoverCommand _ command
  · exact Act.terminates_pure _

end Terminates

section Refused

variable {s s' : ContinuitySession F} {t : Trace (ContinuitySig F)}

/-- A transition that went through was written by an active session. -/
theorem active_of_transition {commandId : String} {target : CommandState}
    {detail : List (String × Json F)} {record : CommandRecord F}
    (run : Act.Runs (transition commandId target detail) s t (.ok record) s') :
    s.header.lifecycleStatus = .active := by
  obtain ⟨records, -, checked⟩ := runs_reading_bind_ok run
  split at checked
  · obtain ⟨-, isError, -⟩ := Act.runs_throw.mp checked
    cases isError
  split at checked
  · obtain ⟨-, isError, -⟩ := Act.runs_throw.mp checked
    cases isError
  obtain ⟨recordedAt, later, -, timed⟩ := runs_now_bind checked
  obtain ⟨_, _, _, _, -, appended, -⟩ := timed.bind_ok_inv
  exact active_of_append appended

theorem active_of_recoverCommand {evidence : List (String × Json F)} {command : CommandRecord F}
    {u : Unit} (isDispatched : command.state = .dispatched)
    (run : Act.Runs (recoverCommand evidence command) s t (.ok u) s') :
    s.header.lifecycleStatus = .active := by
  unfold recoverCommand at run
  rw [if_pos isDispatched] at run
  split at run
  · obtain ⟨value, -, valued⟩ := runs_ofExcept_bind_ok run
    obtain ⟨target, -, targeted⟩ := runs_ofExcept_bind_ok valued
    obtain ⟨reference, -, referred⟩ := runs_ofExcept_bind_ok targeted
    obtain ⟨_, _, _, _, -, moved, -⟩ := referred.bind_ok_inv
    exact active_of_transition moved
  · obtain ⟨_, _, _, _, -, moved, -⟩ := run.bind_ok_inv
    exact active_of_transition moved

/-- Recovery of a dispatched command is refused to a session that is not active. -/
theorem active_of_recoverCommands {evidence : List (String × Json F)} {rest : List (CommandRecord F)}
    {u : PUnit} (some : ∃ command ∈ rest, command.state = .dispatched)
    (run : Act.Runs (rest.forM (recoverCommand evidence)) s t (.ok u) s') :
    s.header.lifecycleStatus = .active := by
  induction rest generalizing s t with
  | nil =>
      obtain ⟨_, mem, -⟩ := some
      cases mem
  | cons command rest ih =>
      obtain ⟨_, u', s₁, _, rfl, ran, final⟩ := run.bind_ok_inv
      by_cases isDispatched : command.state = .dispatched
      · exact active_of_recoverCommand isDispatched ran
      · unfold recoverCommand at ran
        rw [if_neg isDispatched] at ran
        obtain ⟨rfl, -, rfl⟩ := Act.runs_pure.mp ran
        obtain ⟨c, mem, isDispatched'⟩ := some
        rcases List.mem_cons.mp mem with rfl | mem
        · exact absurd isDispatched' isDispatched
        · exact ih ⟨c, mem, isDispatched'⟩ final

/-- Where `open` returned, the journals could be read, and the session was active or
had no dispatched command. -/
theorem recoverable_of_open {owner : String} {u : Unit} (lands : ∀ event ∈ t, Lands event)
    (run : Act.Runs (openSession owner true) s t (.ok u) s') :
    s.disk.Recoverable ∧ (s.disk.manifest.lifecycleStatus = .active ∨
      ∀ records, s.disk.commandRecords = .ok records → ∀ record ∈ records,
        record.state ≠ .dispatched) := by
  have checked := Act.Runs.get_bind_inv run
  split at checked
  · obtain ⟨-, isError, -⟩ := Act.runs_throw.mp checked
    cases isError
  split at checked
  · obtain ⟨-, isError, -⟩ := Act.runs_throw.mp checked
    cases isError
  obtain ⟨name, -, named⟩ := runs_ofExcept_bind_ok checked
  obtain ⟨before, _, s₁, after, rfl, wrote, published⟩ := named.bind_ok_inv
  obtain ⟨-, rfl⟩ := runs_writeDisk_landed wrote fun event mem =>
    lands event (List.mem_append_left _ mem)
  have opened := Act.Runs.modify_bind_inv published
  rw [if_pos rfl] at opened
  rcases Act.runs_tryCatch.mp opened with ⟨_, -, recovered⟩ | ⟨_, e, _, _, -, -, handled⟩
  · obtain ⟨index, isIndex, indexed⟩ := runs_reading_bind_ok recovered
    obtain ⟨evidence, -, found⟩ := runs_ofExcept_bind_ok indexed
    obtain ⟨records, isRead, each⟩ := runs_reading_bind_ok found
    refine ⟨⟨⟨records, isRead⟩, index, isIndex⟩, ?_⟩
    by_cases some : ∃ command ∈ records, command.state = .dispatched
    · exact .inl (active_of_recoverCommands some each)
    · refine .inr fun records' isRead' record mem isDispatched => some ⟨record, ?_, isDispatched⟩
      have same : records' = records := Except.ok.inj (isRead'.symm.trans isRead)
      exact same ▸ mem
  · obtain ⟨_, _, _, _, -, -, thrown⟩ := handled.bind_ok_inv
    obtain ⟨-, isError, -⟩ := Act.runs_throw.mp thrown
    cases isError

end Refused

/-- A run in which every write goes through. -/
theorem exists_landing (s : ContinuitySession F) (owner : String) :
    ∃ t r s', Act.Runs (openSession owner true) s t r s' ∧ ∀ event ∈ t, Lands event := by
  have answered : ∀ c, ∃ answer, Lands (F := F) ⟨c, answer⟩ := by
    intro c
    cases c with
    | now => exact ⟨s.header.createdAt, trivial⟩
    | write => exact ⟨WriteOutcome.written, rfl⟩
    | resolve reference => exact ⟨reference, trivial⟩
    | readReceipt => exact ⟨(.error ⟨.other, "", none⟩ : Except PyException (Json F × String)), trivial⟩
  obtain ⟨t, ⟨r, s'⟩, run, lands⟩ := (terminates_openSession owner true s).exists_runs answered
  exact ⟨t, r, s', run, lands⟩

/-- Of every directory that calls on a session can leave, however they were cut
short: a new owner recovers it exactly if its journals can be read, and it is
active or has no dispatched command. -/
theorem Life.recovers_iff {request : CreateRequest F} {createdAt : F} {s₀ s : ContinuitySession F}
    {steps : List (LifeStep F)} (created : createSession request createdAt = .ok s₀)
    (life : Life s₀ steps s) (isClosed : s.closed = true) {owner : String}
    (valid : identifier "owner_generation" owner = .ok owner) :
    Recovers s owner ↔ s.disk.Recoverable ∧ (s.disk.manifest.lifecycleStatus = .active ∨
      ∀ records, s.disk.commandRecords = .ok records → ∀ record ∈ records,
        record.state ≠ .dispatched) := by
  obtain ⟨isDisk₀, plainHeader, version⟩ := createSession_ok created
  obtain ⟨entries, -, lawful, isDisk, -⟩ :=
    Life.ledger False life isDisk₀ ⟨rfl, rfl⟩ plainHeader False.elim
  have lawful := lawful.permits
  constructor
  · rintro ⟨-, opens⟩
    obtain ⟨t, r, s', run, lands⟩ := exists_landing s owner
    obtain ⟨rfl, -⟩ := opens t r s' run lands
    exact recoverable_of_open lands run
  · rintro ⟨recoverable, active⟩
    have active' : (∃ commandId, stateOf entries commandId = some .dispatched) →
        s.disk.manifest.lifecycleStatus = .active := by
      rintro ⟨commandId, isDispatched⟩
      rcases active with active | none
      · exact active
      obtain ⟨⟨records, read⟩, -⟩ := recoverable
      have read' := read
      rw [isDisk] at read'
      rw [← stateIn_replay (commandRecords_diskOf read')] at isDispatched
      obtain ⟨record, found, isState⟩ := find_of_stateIn isDispatched
      exact absurd isState (none records read record (List.mem_of_find?_eq_some found))
    refine ⟨terminates_openSession owner true, fun t r s' run lands => ?_⟩
    obtain ⟨isOk, more, isDisk', recovered, none, -⟩ := runs_openSession_landed isDisk isClosed version
      valid lawful recoverable active' run lands
    refine ⟨isOk, ?_, fun next validNext => ⟨terminates_openSession next true,
      fun t' r' s'' run' lands' => ?_⟩⟩
    · rw [isDisk']
      exact settled_of_none recovered.lawful recovered.unbroken none
    · have recoverable' : s'.disk.Recoverable := by
        obtain ⟨-, index, isRead⟩ := recoverable
        have sameEvidence : s'.disk.evidence = s.disk.evidence := by
          rw [isDisk', evidence_movesOn recovered.movesOn, diskOf_snoc, isDisk]
          rfl
        have unbroken : ∀ record ∈ s'.disk.stream .evidence, Unbroken record := by
          intro record mem
          refine unbroken_of_readEvents isRead record ?_
          change record ∈ s'.disk.evidence at mem
          rwa [sameEvidence] at mem
        refine ⟨?_, _, readEvents_unbroken unbroken⟩
        rw [isDisk']
        exact commandRecords_ok recovered.lawful recovered.unbroken
      obtain ⟨isOk', more', isDisk'', -, -, silent⟩ := runs_openSession_landed
        (s := { s' with closed := true }) isDisk' rfl version validNext recovered.lawful recoverable'
        (fun ⟨commandId, isDispatched⟩ => absurd isDispatched (none commandId)) run' lands'
      refine ⟨isOk', ?_⟩
      change s''.disk = s'.disk.apply (.publish (s'.disk.manifest.ownedBy next))
      rw [isDisk'', silent none, List.append_nil, diskOf_snoc, ← isDisk']
      rfl

/-! ## Two ends of a session -/

/-- A session that was active when its owner died after a dispatch. -/
theorem Life.recovers_interrupted : ∃ steps s, Life fresh steps s ∧
    steps.map (·.method) = toDispatch ++ [.close] ∧
      persistedHistory s.disk.commands "command" = [.proposed, .authorized, .dispatched] ∧
        Recovers s "next" := by
  obtain ⟨steps, s, life, isMethods, shown⟩ := exists_life (calmScript .null) fresh ()
    (toDispatch ++ [.close])
    (fun _ s => s.closed && s.disk.commandRecords.isOk && s.disk.evidenceIndex.isOk &&
      s.disk.manifest.lifecycleStatus = .active &&
        persistedHistory s.disk.commands "command" = [.proposed, .authorized, .dispatched])
    (by decide +kernel)
  obtain ⟨shown, isHistory⟩ := Bool.and_eq_true_iff.mp shown
  obtain ⟨shown, active⟩ := Bool.and_eq_true_iff.mp shown
  obtain ⟨shown, indexRead⟩ := Bool.and_eq_true_iff.mp shown
  obtain ⟨isClosed, commandsRead⟩ := Bool.and_eq_true_iff.mp shown
  have isOk {α : Type} {x : Except PyException α} (ok : x.isOk = true) : ∃ a, x = .ok a := by
    cases x with
    | ok a => exact ⟨a, rfl⟩
    | error e => cases ok
  refine ⟨steps, s, life, isMethods, of_decide_eq_true isHistory, ?_⟩
  exact (Life.recovers_iff created_fresh life isClosed rfl).mpr
    ⟨⟨isOk commandsRead, isOk indexRead⟩, .inl (of_decide_eq_true active)⟩

def landsEvent (event : Event (ContinuitySig (Fin 10))) : Bool :=
  match event with
  | ⟨.write _, .raised _ _⟩ => false
  | _ => true

theorem lands_of_landsEvent {event : Event (ContinuitySig (Fin 10))} (shown : landsEvent event = true) :
    Lands event := by
  obtain ⟨call, answer⟩ := event
  cases call with
  | write write =>
      change WriteOutcome at answer
      cases answer with
      | written => rfl
      | raised => cases shown
  | now => trivial
  | resolve => trivial
  | readReceipt => trivial

def refused (r : Except PyException Unit) : Bool :=
  match r with
  | .error e => e = continuityError "terminal continuity session is read-only"
  | .ok _ => false

/-- A session that was completed while a command was dispatched cannot be opened. -/
theorem Life.locked_out : ∃ steps s, Life fresh steps s ∧
    steps.map (·.method) = toDispatch ++ [.setLifecycle .completed, .close] ∧
      ∃ t s', (∀ event ∈ t, Lands event) ∧ Act.Runs (openSession "next" true) s t
        (.error (continuityError "terminal continuity session is read-only")) s' := by
  obtain ⟨steps, s, life, isMethods, shown⟩ := exists_life (calmScript .null) fresh ()
    (toDispatch ++ [.setLifecycle .completed, .close])
    (fun _ s => ((openSession "next" true s).play (calmScript .null) ()).any fun (t, (r, _), _) =>
      refused r && t.all landsEvent)
    (by decide +kernel)
  obtain ⟨⟨t, ⟨r, s'⟩, _⟩, played, holds⟩ := (Option.any_eq_true _ _).mp shown
  obtain ⟨isRefused, lands⟩ := Bool.and_eq_true_iff.mp holds
  cases r with
  | ok u => cases isRefused
  | error e =>
      obtain rfl : e = continuityError "terminal continuity session is read-only" :=
        of_decide_eq_true isRefused
      exact ⟨steps, s, life, isMethods, t, s', fun event mem =>
        lands_of_landsEvent (List.all_eq_true.mp lands event mem), Prog.runs_of_play played⟩

end Dingdongditch.Continuity
