import Dingdongditch.Continuity.Ledger

/-!
# Ledgers that can be read back

A tidy ledger holds no text that `splitlines` would cut, and acquires no
generation twice.  The journals of a lawful and tidy ledger can be replayed
(`replayedCommands_ok`, `replayedBindings_ok`), and the texts that a replay
yields can be written again (`CommandRecord.Plain`, `BrowserBinding.Plain`).
-/

namespace Dingdongditch.Continuity

open Interaction Text Store
open Text.Json (ReadsFloat stringsEntries)

variable {F : Type}

/-- A text that stays on one line. -/
def Plain (text : String) : Prop := ∀ c ∈ text.toList, isSeparator c = false

instance (text : String) : Decidable (Plain text) :=
  inferInstanceAs (Decidable (∀ c ∈ text.toList, isSeparator c = false))

/-- Fields whose names and texts stay on one line. -/
def PlainFields (fields : List (String × Json F)) : Prop := ∀ s ∈ stringsEntries fields, Plain s

theorem plainFields_nil : PlainFields ([] : List (String × Json F)) := by
  intro s mem
  cases mem

theorem plainFields_cons {key : String} {value : Json F} {fields : List (String × Json F)} :
    PlainFields ((key, value) :: fields) ↔ Plain key ∧ Unbroken value ∧ PlainFields fields := by
  unfold PlainFields Unbroken Plain
  simp only [stringsEntries, List.cons_append, List.mem_cons, List.mem_append]
  constructor
  · intro plain
    exact ⟨plain key (.inl rfl), fun s mem => plain s (.inr (.inl mem)),
      fun s mem => plain s (.inr (.inr mem))⟩
  · rintro ⟨isKey, isValue, rest⟩ s (rfl | mem | mem)
    · exact isKey
    · exact isValue s mem
    · exact rest s mem

theorem unbroken_str {text : String} (plain : Plain text) : Unbroken (.str text : Json F) := by
  intro s mem
  rw [Json.strings, List.mem_singleton] at mem
  exact mem ▸ plain

theorem unbroken_atom {v : Json F} (none : v.strings = []) : Unbroken v := by
  intro s mem
  rw [none] at mem
  cases mem

theorem isSeparator_of_ascii {c : Char} (ascii : c.toNat < 0x80) : isSeparator c = false := by
  simp only [isSeparator, decide_eq_false_iff_not, List.mem_cons, List.not_mem_nil, or_false]
  omega

/-- An identifier is a text that stays on one line. -/
theorem plain_of_identifier {name value text : String} (ok : identifier name value = .ok text) :
    text = value ∧ Plain text := by
  unfold identifier at ok
  split_ifs at ok with blank allowed
  cases ok
  refine ⟨rfl, fun c mem => isSeparator_of_ascii ?_⟩
  have here := List.all_eq_true.mp allowed c mem
  simp only [Bool.or_eq_true, decide_eq_true_eq] at here
  rcases here with (word | rfl) | rfl
  · rw [isAlphanum_iff] at word
    omega
  · decide
  · decide

/-! ## Tidy entries -/

/-- The record that an entry adds to a journal. -/
def Entry.records (e : Entry F) : List (Json F) :=
  match e.write with
  | .append _ record => [record]
  | .publish _ => []

/-- The generations that were acquired so far. -/
def generations (entries : List (Entry F)) : List String :=
  entries.filterMap fun
    | .acquired _ binding => some binding.bindingGeneration
    | _ => none

/-- An entry whose record stays on one line, and that acquires no old generation. -/
structure Tidy (before : List (Entry F)) (e : Entry F) : Prop where
  unbroken : ∀ record ∈ e.records, Unbroken record
  unused : ∀ recordedAt binding, e = .acquired recordedAt binding →
    binding.bindingGeneration ∉ generations before

theorem generations_snoc (entries : List (Entry F)) (e : Entry F) :
    generations (entries ++ [e]) = generations entries ++ generations [e] :=
  List.filterMap_append

/-- The texts of an event: those of its fields, and what `_event` adds. -/
theorem unbroken_event {eventType : String} {recordedAt : F} {fields : List (String × Json F)}
    (plainType : Plain eventType) (plain : PlainFields fields) :
    Unbroken (event eventType recordedAt fields) := by
  have all : PlainFields (("schema_version", .str CONTINUITY_SCHEMA_VERSION) ::
      ("event_type", .str eventType) :: ("recorded_at", .float recordedAt) :: fields) := by
    simp only [plainFields_cons]
    exact ⟨by decide, unbroken_str (by decide), by decide, unbroken_str plainType, by decide,
      unbroken_atom rfl, plain⟩
  exact all

/-- A field holds a text of its record. -/
theorem mem_strings_of_lookup {entries : List (String × Json F)} {key s : String}
    (found : entries.lookup key = some (.str s)) : s ∈ stringsEntries entries := by
  induction entries with
  | nil => cases found
  | cons entry entries ih =>
      obtain ⟨name, value⟩ := entry
      rw [List.lookup_cons] at found
      split at found
      · cases found
        simp [stringsEntries, Json.strings]
      · simp [stringsEntries, ih found]

theorem mem_strings_of_getItem {event : Json F} {key s : String}
    (found : getItem event key = .ok (.str s)) : s ∈ event.strings := by
  unfold getItem at found
  split at found
  · split at found
    · next isFound =>
        cases found
        exact mem_strings_of_lookup isFound
    · cases found
  · cases found

/-! ## The journals of a ledger -/

theorem mem_stream_apply {disk : Disk F} {write : Write F} {stream : Stream} {record : Json F}
    (mem : record ∈ (disk.apply write).stream stream) :
    record ∈ disk.stream stream ∨ write = .append stream record := by
  cases write with
  | append other added =>
      cases other <;> cases stream <;> simp_all [Disk.apply, Disk.stream, eq_comm]
  | publish manifest => cases stream <;> exact .inl mem

/-- Every record of the journals was written by an entry. -/
theorem mem_stream {header : SessionHeader F} {entries : List (Entry F)} {stream : Stream}
    {record : Json F} (mem : record ∈ (diskOf header entries).stream stream) :
    ∃ e ∈ entries, e.write = .append stream record := by
  induction entries using List.reverseRecOn with
  | nil => cases stream <;> cases mem
  | append_singleton entries e ih =>
      rw [diskOf_snoc] at mem
      rcases mem_stream_apply mem with earlier | here
      · obtain ⟨e', before, isWrite⟩ := ih earlier
        exact ⟨e', List.mem_append_left _ before, isWrite⟩
      · exact ⟨e, by simp, here⟩

theorem unbroken_stream {header : SessionHeader F} {entries : List (Entry F)}
    (tidy : Follows Tidy [] entries) (stream : Stream) :
    ∀ record ∈ (diskOf header entries).stream stream, Unbroken record := by
  intro record mem
  obtain ⟨e, isEntry, isWrite⟩ := mem_stream mem
  obtain ⟨before, after, split⟩ := List.append_of_mem isEntry
  refine (tidy.law_at split).unbroken record ?_
  simp [Entry.records, isWrite]

/-! ## The texts of a replay -/

/-- A record of a command that can be named in the journal. -/
structure CommandRecord.Plain (record : CommandRecord F) : Prop where
  commandId : Continuity.Plain record.commandId
  bindingGeneration : ∀ generation, record.bindingGeneration = some generation →
    Continuity.Plain generation

structure BrowserBinding.Plain (binding : BrowserBinding F) : Prop where
  bindingId : Continuity.Plain binding.bindingId
  bindingGeneration : Continuity.Plain binding.bindingGeneration

theorem plain_getStrOr {event : Json F} {key generation : String} {default : Option String}
    (unbroken : Unbroken event) (plain : ∀ g, default = some g → Plain g)
    (found : getStrOr event key default = some generation) : Plain generation := by
  unfold getStrOr at found
  split at found
  · next isStr =>
      cases found
      exact unbroken _ (mem_strings_of_getItem isStr)
  · exact plain generation found

theorem plain_commandStep {records after : List (CommandRecord F)} {e : Entry F}
    (tidy : ∀ record ∈ e.commandEvents, Unbroken record) (plain : ∀ record ∈ records, record.Plain)
    (replayed : e.commandEvents.foldlM replayCommand records = .ok after) :
    ∀ record ∈ after, record.Plain := by
  cases e with
  | created recordedAt record =>
      have unbroken : Unbroken (event "command_created" recordedAt record.toDict) :=
        tidy _ List.mem_cons_self
      rw [Entry.commandEvents, foldlM_singleton, replayCommand_created] at replayed
      split at replayed
      · cases replayed
      · cases replayed
        refine List.forall_mem_append.mpr ⟨plain, List.forall_mem_singleton.mpr ⟨?_, ?_⟩⟩
        · refine unbroken _ ?_
          simp [event, CommandRecord.toDict, Json.strings, stringsEntries, CommandRecord.fresh]
        · rintro generation ⟨⟩
  | changed recordedAt commandId source target detail =>
      have unbroken : Unbroken (changedEvent recordedAt commandId source target detail) :=
        tidy _ List.mem_cons_self
      rw [Entry.commandEvents, foldlM_singleton, replayCommand_changed] at replayed
      cases found : records.find? (·.commandId = commandId) with
      | none =>
          rw [found] at replayed
          cases replayed
      | some current =>
          rw [found] at replayed
          dsimp only at replayed
          split_ifs at replayed
          cases replayed
          have isCurrent := plain current (List.mem_of_find?_eq_some found)
          refine List.forall_mem_map.mpr fun record mem => ?_
          split
          · exact ⟨isCurrent.commandId, fun generation isGeneration =>
              plain_getStrOr unbroken isCurrent.bindingGeneration isGeneration⟩
          · exact plain record mem
  | acquired => cases replayed; exact plain
  | released => cases replayed; exact plain
  | attached => cases replayed; exact plain
  | published => cases replayed; exact plain

/-- The texts of replayed commands. -/
theorem plain_replayedCommands {header : SessionHeader F} {entries : List (Entry F)}
    {records : List (CommandRecord F)}
    (unbroken : ∀ record ∈ (diskOf header entries).commands, Unbroken record)
    (replayed : replayedCommands header entries = .ok records) : ∀ record ∈ records, record.Plain := by
  induction entries using List.reverseRecOn generalizing records with
  | nil =>
      cases replayed
      simp
  | append_singleton entries e ih =>
      rw [diskOf_commands_snoc, List.forall_mem_append] at unbroken
      rw [replayedCommands_snoc] at replayed
      obtain ⟨before, isBefore, step⟩ := bind_eq_ok.mp replayed
      exact plain_commandStep unbroken.2 (ih unbroken.1 isBefore) step

theorem plain_bindingStep {bindings after : List (BrowserBinding F)} {e : Entry F}
    (tidy : ∀ record ∈ e.records, Unbroken record) (plain : ∀ binding ∈ bindings, binding.Plain)
    (replayed : e.bindingEvents.foldlM replayBinding bindings = .ok after) :
    ∀ binding ∈ after, binding.Plain := by
  cases e with
  | acquired recordedAt binding =>
      have unbroken : Unbroken (event "binding_acquired" recordedAt binding.toDict) := tidy _ (by
        simp [Entry.records, Entry.write])
      rw [Entry.bindingEvents, foldlM_singleton, replayBinding_acquired] at replayed
      split at replayed
      · cases replayed
      · cases replayed
        refine List.forall_mem_append.mpr ⟨plain, List.forall_mem_singleton.mpr ⟨?_, ?_⟩⟩
        · refine unbroken _ ?_
          simp [event, BrowserBinding.toDict, Json.strings, stringsEntries, BrowserBinding.fresh]
        · refine unbroken _ ?_
          simp [event, BrowserBinding.toDict, Json.strings, stringsEntries, BrowserBinding.fresh]
  | released recordedAt bindingId generation releasedAt =>
      rw [Entry.bindingEvents, foldlM_singleton, replayBinding_released] at replayed
      cases found : bindings.find? (·.bindingGeneration = generation) with
      | none =>
          rw [found] at replayed
          cases replayed
      | some current =>
          rw [found] at replayed
          dsimp only at replayed
          split at replayed
          · cases replayed
          · cases replayed
            have isCurrent := plain current (List.mem_of_find?_eq_some found)
            refine List.forall_mem_map.mpr fun binding mem => ?_
            split
            · exact ⟨isCurrent.bindingId, isCurrent.bindingGeneration⟩
            · exact plain binding mem
  | created => cases replayed; exact plain
  | changed => cases replayed; exact plain
  | attached => cases replayed; exact plain
  | published => cases replayed; exact plain

/-- The texts of replayed bindings. -/
theorem plain_replayedBindings {header : SessionHeader F} {entries : List (Entry F)}
    {bindings : List (BrowserBinding F)} (tidy : Follows Tidy [] entries)
    (replayed : replayedBindings header entries = .ok bindings) :
    ∀ binding ∈ bindings, binding.Plain := by
  induction entries using List.reverseRecOn generalizing bindings with
  | nil =>
      cases replayed
      simp
  | append_singleton entries e ih =>
      obtain ⟨earlier, last⟩ := follows_snoc.mp tidy
      rw [replayedBindings_snoc] at replayed
      obtain ⟨before, isBefore, step⟩ := bind_eq_ok.mp replayed
      exact plain_bindingStep last.unbroken (ih earlier isBefore) step

/-! ## Replay succeeds -/

theorem find_of_stateIn {records : List (CommandRecord F)} {commandId : String} {state : CommandState}
    (known : stateIn records commandId = some state) :
    ∃ current, records.find? (·.commandId = commandId) = some current ∧ current.state = state :=
  Option.map_eq_some_iff.mp known

theorem commandStep_ok {header : SessionHeader F} {entries : List (Entry F)} {e : Entry F}
    {records : List (CommandRecord F)} (permitted : Permits header entries e)
    (agrees : ∀ commandId, stateIn records commandId = stateOf entries commandId) :
    ∃ after, e.commandEvents.foldlM replayCommand records = .ok after := by
  cases e with
  | created recordedAt record =>
      obtain ⟨unknown, -, -⟩ := permitted
      rw [← agrees, stateIn_eq_none] at unknown
      rw [Entry.commandEvents, foldlM_singleton, replayCommand_created, if_neg (by simp [unknown])]
      exact ⟨_, rfl⟩
  | changed recordedAt commandId source target detail =>
      obtain ⟨isSource, allowed, -⟩ := permitted
      rw [← agrees] at isSource
      obtain ⟨current, found, rfl⟩ := find_of_stateIn isSource
      rw [Entry.commandEvents, foldlM_singleton, replayCommand_changed, found]
      simp [allowed]
  | acquired => exact ⟨_, rfl⟩
  | released => exact ⟨_, rfl⟩
  | attached => exact ⟨_, rfl⟩
  | published => exact ⟨_, rfl⟩

/-- The commands of a lawful ledger can be replayed. -/
theorem replayedCommands_ok {header : SessionHeader F} {entries : List (Entry F)}
    (lawful : Follows (Permits header) [] entries) :
    ∃ records, replayedCommands header entries = .ok records := by
  induction entries using List.reverseRecOn with
  | nil => exact ⟨[], rfl⟩
  | append_singleton entries e ih =>
      obtain ⟨earlier, last⟩ := follows_snoc.mp lawful
      obtain ⟨records, replayed⟩ := ih earlier
      obtain ⟨after, step⟩ := commandStep_ok last (stateIn_replay replayed)
      exact ⟨after, by rw [replayedCommands_snoc, replayed]; exact step⟩

/-- Every command has one record. -/
theorem commandIds_nodup {header : SessionHeader F} {entries : List (Entry F)}
    {records : List (CommandRecord F)} (replayed : replayedCommands header entries = .ok records) :
    (records.map (·.commandId)).Nodup := by
  induction entries using List.reverseRecOn generalizing records with
  | nil =>
      cases replayed
      exact List.nodup_nil
  | append_singleton entries e ih =>
      rw [replayedCommands_snoc] at replayed
      obtain ⟨before, isBefore, step⟩ := bind_eq_ok.mp replayed
      have distinct := ih isBefore
      cases e with
      | created recordedAt record =>
          rw [Entry.commandEvents, foldlM_singleton, replayCommand_created] at step
          split at step
          · cases step
          next absent =>
          cases step
          rw [List.map_append]
          refine List.nodup_append.mpr ⟨distinct, List.nodup_singleton _, ?_⟩
          rintro id mem other isLast rfl
          obtain ⟨known, isKnown, same⟩ := List.mem_map.mp mem
          refine absent (List.any_eq_true.mpr ⟨known, isKnown, ?_⟩)
          simpa [CommandRecord.fresh, same] using isLast
      | changed recordedAt commandId source target detail =>
          rw [Entry.commandEvents, foldlM_singleton, replayCommand_changed] at step
          cases found : before.find? (·.commandId = commandId) with
          | none =>
              rw [found] at step
              cases step
          | some current =>
              rw [found] at step
              dsimp only at step
              split_ifs at step
              cases step
              have isCurrent : current.commandId = commandId := by simpa using List.find?_some found
              have sameIds : (before.map fun record => if record.commandId = commandId then
                  current.moved (changedEvent recordedAt commandId source target detail) target
                  else record).map (·.commandId) = before.map (·.commandId) := by
                rw [List.map_map]
                refine List.map_congr_left fun record _ => ?_
                by_cases here : record.commandId = commandId
                · simp [here, CommandRecord.moved, isCurrent]
                · simp [here]
              rwa [sameIds]
      | acquired => cases step; exact distinct
      | released => cases step; exact distinct
      | attached => cases step; exact distinct
      | published => cases step; exact distinct

/-- A replayed record says the state of its command. -/
theorem stateIn_of_mem {records : List (CommandRecord F)} (distinct : (records.map (·.commandId)).Nodup)
    {record : CommandRecord F} (mem : record ∈ records) :
    stateIn records record.commandId = some record.state := by
  unfold stateIn
  cases found : records.find? (·.commandId = record.commandId) with
  | none =>
      have absent := List.find?_eq_none.mp found record mem
      simp at absent
  | some other =>
      have same : other.commandId = record.commandId := by simpa using List.find?_some found
      rw [List.inj_on_of_nodup_map distinct (List.mem_of_find?_eq_some found) mem same]
      rfl

/-- The generations of replayed bindings, released or not. -/
theorem generations_step {bindings after : List (BrowserBinding F)} {e : Entry F}
    (replayed : e.bindingEvents.foldlM replayBinding bindings = .ok after) :
    after.map (·.bindingGeneration) = bindings.map (·.bindingGeneration) ++ generations [e] := by
  cases e with
  | acquired recordedAt binding =>
      rw [Entry.bindingEvents, foldlM_singleton, replayBinding_acquired] at replayed
      split at replayed
      · cases replayed
      · cases replayed
        simp [generations, BrowserBinding.fresh]
  | released recordedAt bindingId generation releasedAt =>
      rw [Entry.bindingEvents, foldlM_singleton, replayBinding_released] at replayed
      cases found : bindings.find? (·.bindingGeneration = generation) with
      | none =>
          rw [found] at replayed
          cases replayed
      | some current =>
          rw [found] at replayed
          dsimp only at replayed
          split at replayed
          · cases replayed
          · cases replayed
            have isCurrent : current.bindingGeneration = generation := by
              simpa using List.find?_some found
            simp only [generations, List.filterMap_cons, List.filterMap_nil, List.append_nil,
              List.map_map]
            refine List.map_congr_left fun binding mem => ?_
            by_cases here : binding.bindingGeneration = generation
            · simp [here, isCurrent]
            · simp [here]
  | created => cases replayed; simp [generations]
  | changed => cases replayed; simp [generations]
  | attached => cases replayed; simp [generations]
  | published => cases replayed; simp [generations]

theorem generations_replay {header : SessionHeader F} {entries : List (Entry F)}
    {bindings : List (BrowserBinding F)} (replayed : replayedBindings header entries = .ok bindings) :
    bindings.map (·.bindingGeneration) = generations entries := by
  induction entries using List.reverseRecOn generalizing bindings with
  | nil =>
      cases replayed
      rfl
  | append_singleton entries e ih =>
      rw [replayedBindings_snoc] at replayed
      obtain ⟨before, isBefore, step⟩ := bind_eq_ok.mp replayed
      rw [generations_step step, ih isBefore, generations_snoc]

/-- Among bindings of different generations, the one that is active is the one
that is found by its generation. -/
theorem find_active {bindings : List (BrowserBinding F)} {generation : String}
    (distinct : (bindings.map (·.bindingGeneration)).Nodup) (active : activeIn bindings = [generation]) :
    ∃ binding, bindings.find? (·.bindingGeneration = generation) = some binding ∧
      binding.isReleased = false := by
  have mem : generation ∈ activeIn bindings := by simp [active]
  obtain ⟨binding, isActive, rfl⟩ := List.mem_map.mp mem
  obtain ⟨member, live⟩ := List.mem_filter.mp isActive
  refine ⟨binding, ?_, by simpa using live⟩
  cases found : bindings.find? (·.bindingGeneration = binding.bindingGeneration) with
  | none =>
      have absent := List.find?_eq_none.mp found binding member
      simp at absent
  | some other =>
      have same : other.bindingGeneration = binding.bindingGeneration := by
        simpa using List.find?_some found
      rw [List.inj_on_of_nodup_map distinct (List.mem_of_find?_eq_some found) member same]

theorem bindingStep_ok {header : SessionHeader F} {entries : List (Entry F)} {e : Entry F}
    {bindings : List (BrowserBinding F)} (permitted : Permits header entries e)
    (tidy : Tidy entries e) (active : activeIn bindings = activeGenerations entries)
    (known : bindings.map (·.bindingGeneration) = generations entries)
    (distinct : (generations entries).Nodup) :
    ∃ after, e.bindingEvents.foldlM replayBinding bindings = .ok after := by
  cases e with
  | acquired recordedAt binding =>
      have unused := tidy.unused recordedAt binding rfl
      have absent : bindings.any (·.bindingGeneration = binding.bindingGeneration) = false := by
        refine List.any_eq_false.mpr fun other mem same => unused ?_
        rw [← known]
        exact List.mem_map.mpr ⟨other, mem, by simpa using same⟩
      rw [Entry.bindingEvents, foldlM_singleton, replayBinding_acquired, if_neg (by simp [absent])]
      exact ⟨_, rfl⟩
  | released recordedAt bindingId generation releasedAt =>
      have isActive : activeIn bindings = [generation] := active.trans permitted
      obtain ⟨binding, found, live⟩ := find_active (known ▸ distinct) isActive
      rw [Entry.bindingEvents, foldlM_singleton, replayBinding_released, found]
      simp [live]
  | created => exact ⟨_, rfl⟩
  | changed => exact ⟨_, rfl⟩
  | attached => exact ⟨_, rfl⟩
  | published => exact ⟨_, rfl⟩

/-- No generation is acquired twice in a tidy ledger. -/
theorem generations_nodup {entries : List (Entry F)} (tidy : Follows Tidy [] entries) :
    (generations entries).Nodup := by
  induction entries using List.reverseRecOn with
  | nil => exact List.nodup_nil
  | append_singleton entries e ih =>
      obtain ⟨earlier, last⟩ := follows_snoc.mp tidy
      rw [generations_snoc]
      cases e with
      | acquired recordedAt binding =>
          have unused : binding.bindingGeneration ∉ generations entries :=
            last.unused recordedAt binding rfl
          refine List.nodup_append.mpr ⟨ih earlier, List.nodup_singleton _, ?_⟩
          rintro generation mem other isLast rfl
          exact unused (List.mem_singleton.mp isLast ▸ mem)
      | _ => simpa [generations] using ih earlier

/-- The bindings of a lawful and tidy ledger can be replayed. -/
theorem replayedBindings_ok {header : SessionHeader F} {entries : List (Entry F)}
    (lawful : Follows (Permits header) [] entries) (tidy : Follows Tidy [] entries) :
    ∃ bindings, replayedBindings header entries = .ok bindings := by
  induction entries using List.reverseRecOn with
  | nil => exact ⟨[], rfl⟩
  | append_singleton entries e ih =>
      obtain ⟨earlier, last⟩ := follows_snoc.mp lawful
      obtain ⟨earlierTidy, lastTidy⟩ := follows_snoc.mp tidy
      obtain ⟨bindings, replayed⟩ := ih earlier earlierTidy
      obtain ⟨after, step⟩ := bindingStep_ok last lastTidy (activeIn_replay replayed)
        (generations_replay replayed) (generations_nodup earlierTidy)
      exact ⟨after, by rw [replayedBindings_snoc, replayed]; exact step⟩

/-! ## Reading the directory -/

variable [Floating F] [ReadsFloat F]

theorem readEvents_eq_ok {disk : Disk F} {stream : Stream} {events : List (Json F)}
    (read : disk.readEvents stream = .ok events) : events = disk.stream stream := by
  unfold Disk.readEvents at read
  split at read
  · next isRead =>
      cases read
      exact readJournal_eq isRead
  · cases read

theorem readEvents_unbroken {disk : Disk F} {stream : Stream}
    (unbroken : ∀ record ∈ disk.stream stream, Unbroken record) :
    disk.readEvents stream = .ok (disk.stream stream) := by
  unfold Disk.readEvents
  rw [readJournal_unbroken unbroken]

theorem unbroken_of_readEvents {disk : Disk F} {stream : Stream} {events : List (Json F)}
    (read : disk.readEvents stream = .ok events) : ∀ record ∈ disk.stream stream, Unbroken record := by
  unfold Disk.readEvents at read
  split at read
  · next isRead => exact unbroken_of_readJournal isRead
  · cases read

theorem commandRecords_diskOf {header : SessionHeader F} {entries : List (Entry F)}
    {records : List (CommandRecord F)}
    (read : (diskOf header entries).commandRecords = .ok records) :
    replayedCommands header entries = .ok records := by
  obtain ⟨events, isRead, replayed⟩ := bind_eq_ok.mp read
  rwa [readEvents_eq_ok isRead] at replayed

theorem bindingRecords_diskOf {header : SessionHeader F} {entries : List (Entry F)}
    {bindings : List (BrowserBinding F)}
    (read : (diskOf header entries).bindingRecords = .ok bindings) :
    replayedBindings header entries = .ok bindings := by
  obtain ⟨events, isRead, replayed⟩ := bind_eq_ok.mp read
  rwa [readEvents_eq_ok isRead] at replayed

theorem activeBinding_diskOf_none {header : SessionHeader F} {entries : List (Entry F)}
    (read : (diskOf header entries).activeBinding = .ok none) : activeGenerations entries = [] := by
  obtain ⟨bindings, isRead, found⟩ := bind_eq_ok.mp read
  rw [← activeIn_replay (bindingRecords_diskOf isRead), activeIn]
  split at found
  · next isActive => rw [isActive]; rfl
  · cases found
  · cases found

theorem activeBinding_diskOf_some {header : SessionHeader F} {entries : List (Entry F)}
    {binding : BrowserBinding F} (read : (diskOf header entries).activeBinding = .ok (some binding)) :
    activeGenerations entries = [binding.bindingGeneration] ∧
      ∃ bindings, replayedBindings header entries = .ok bindings ∧ binding ∈ bindings := by
  obtain ⟨bindings, isRead, found⟩ := bind_eq_ok.mp read
  rw [← activeIn_replay (bindingRecords_diskOf isRead), activeIn]
  split at found
  · cases found
  · next active isActive =>
      cases found
      have mem : binding ∈ bindings.filter (!·.isReleased) := by simp [isActive]
      exact ⟨by rw [isActive]; rfl, bindings, bindingRecords_diskOf isRead, List.mem_of_mem_filter mem⟩
  · cases found

end Dingdongditch.Continuity
