import Dingdongditch.Continuity.Writes

/-!
# What the calls of a session write

Every call of the API keeps the law of the ledger (`keeps_body`): what it writes
was permitted by what stands in the journals, and it brings no text that cannot
be read back unless its arguments or a receipt do.  Each call has one lemma.
-/

namespace Dingdongditch.Continuity

open Interaction Text Store
open Text.Json (ReadsFloat)

variable {F : Type}

/-! ## The law -/

/-- The law of the ledgers of a session: what the calls check, and that the
ledger is `Tidy` if `tidy` is assumed of what comes from outside. -/
def Lawful (header : SessionHeader F) (tidy : Prop) (before : List (Entry F)) (e : Entry F) : Prop :=
  Permits header before e ∧ (tidy → Tidy before e)

section Calls

variable {header : SessionHeader F} {tidy : Prop} {entries : List (Entry F)} {α β : Type}

theorem Follows.permits (lawful : Follows (Lawful header tidy) [] entries) :
    Follows (Permits header) [] entries :=
  lawful.mono fun _ _ => And.left

theorem Follows.isTidy (lawful : Follows (Lawful header tidy) [] entries) (isTidy : tidy) :
    Follows Tidy [] entries :=
  lawful.mono fun _ _ law => law.2 isTidy

/-- An entry that acquires nothing is tidy if its record stays on one line. -/
theorem tidy_of_record {before : List (Entry F)} {e : Entry F} {record : Json F}
    (isRecord : e.records = [record]) (unbroken : Unbroken record)
    (other : ∀ recordedAt binding, e ≠ .acquired recordedAt binding) : Tidy before e := by
  refine ⟨?_, fun recordedAt binding same => absurd same (other recordedAt binding)⟩
  rw [isRecord]
  exact List.forall_mem_singleton.mpr unbroken

theorem lawful_published {s : ContinuitySession F} (owned : Owned header s) :
    Lawful header tidy entries (.published s.header) := by
  refine ⟨owned, fun _ => ⟨?_, ?_⟩⟩
  · rintro record ⟨⟩
  · rintro _ _ ⟨⟩

/-- The manifest of a lawful ledger is about the session it began with. -/
theorem owned_manifest (lawful : Follows (Permits header) [] entries) :
    (diskOf header entries).manifest.sessionId = header.sessionId ∧
      (diskOf header entries).manifest.schemaVersion = header.schemaVersion := by
  induction entries using List.reverseRecOn with
  | nil => exact ⟨rfl, rfl⟩
  | append_singleton entries e ih =>
      obtain ⟨earlier, last⟩ := follows_snoc.mp lawful
      rw [diskOf_snoc]
      cases e with
      | published manifest => exact last
      | _ => exact ih earlier

theorem mem_stream_of {header : SessionHeader F} {entries : List (Entry F)} {e : Entry F}
    {stream : Stream} {record : Json F} (mem : e ∈ entries)
    (isWrite : e.write = .append stream record) :
    record ∈ (diskOf header entries).stream stream := by
  induction entries using List.reverseRecOn with
  | nil => cases mem
  | append_singleton entries last ih =>
      rw [diskOf_snoc]
      have kept {r : Json F} (earlier : r ∈ (diskOf header entries).stream stream) :
          r ∈ ((diskOf header entries).apply last.write).stream stream := by
        cases last.write with
        | append other added => cases other <;> cases stream <;> simp_all [Disk.apply, Disk.stream]
        | publish manifest => cases stream <;> exact earlier
      rcases List.mem_append.mp mem with before | here
      · exact kept (ih before)
      · obtain rfl := List.mem_singleton.mp here
        rw [isWrite]
        cases stream <;> simp [Disk.apply, Disk.stream]

/-- The journal names every generation that was acquired. -/
theorem unused_generation {header : SessionHeader F} {entries : List (Entry F)} {generation : String}
    (unused : ∀ record ∈ (diskOf header entries).bindings,
      getStr record "binding_generation" ≠ .ok generation) : generation ∉ generations entries := by
  intro mem
  obtain ⟨e, isEntry, isGeneration⟩ := List.mem_filterMap.mp mem
  cases e with
  | acquired recordedAt binding =>
      cases isGeneration
      have isRecord : event "binding_acquired" recordedAt binding.toDict ∈
          (diskOf header entries).stream .bindings := mem_stream_of isEntry rfl
      refine unused _ isRecord ?_
      simp [getStr, getItem, event, BrowserBinding.toDict, List.lookup_cons, bind, Except.bind, pure,
        Except.pure]
  | _ => cases isGeneration

theorem plain_state (state : CommandState) : Plain state.value := by
  cases state <;> decide

theorem unbroken_changed {recordedAt : F} {commandId : String} {source target : CommandState}
    {detail : List (String × Json F)} (plainId : Plain commandId) (plain : PlainFields detail) :
    Unbroken (changedEvent recordedAt commandId source target detail) := by
  refine unbroken_event (by decide) ?_
  simp only [plainFields_cons]
  exact ⟨by decide, unbroken_str plainId, by decide, unbroken_str (plain_state source), by decide,
    unbroken_str (plain_state target), plain⟩

theorem Attested.append {commandId : String} {state : CommandState}
    (attested : Attested entries commandId state) (more : List (Entry F)) :
    Attested (entries ++ more) commandId state := by
  obtain ⟨recordedAt, request, path, schema, digest, facts, mem, isCommand, isTarget⟩ := attested
  exact ⟨recordedAt, request, path, schema, digest, facts, List.mem_append_left _ mem, isCommand,
    isTarget⟩

/-- A record of the evidence journal, as recovery reads it. -/
structure Evidences (header : SessionHeader F) (entries : List (Entry F)) (commandId : String)
    (item : Json F) (target : CommandState) (path : String) : Prop where
  attested : Attested entries commandId target
  classification : getStr item "terminal_classification" = .ok target.value
  reference : getItem item "receipt_reference" = .ok (.str path)
  recorded : item ∈ (diskOf header entries).evidence

theorem evidences_of_mem {commandId : String} {item : Json F}
    (mem : item ∈ (diskOf header entries).evidence) (isId : getStr item "command_id" = .ok commandId) :
    ∃ (classification : TerminalClassification) (path : String),
      Evidences header entries commandId item classification.target path := by
  have isRecord : item ∈ (diskOf header entries).stream .evidence := mem
  obtain ⟨e, isEntry, isWrite⟩ := mem_stream isRecord
  cases e with
  | attached recordedAt request path schema digest facts =>
      obtain rfl : evidenceRecord request recordedAt path schema digest facts = item := by
        simpa [Entry.write] using isWrite
      have same : request.commandId = commandId := by
        simpa [evidenceRecord, event, getStr, getItem, List.lookup_cons, bind, Except.bind, pure,
          Except.pure] using isId
      refine ⟨request.terminalClassification, path, ?_, ?_, ?_, mem⟩
      · exact ⟨recordedAt, request, path, schema, digest, facts, isEntry, same, rfl⟩
      · simp [evidenceRecord, event, getStr, getItem, List.lookup_cons, bind, Except.bind, pure,
          Except.pure, TerminalClassification.value]
      · simp [evidenceRecord, event, getItem, List.lookup_cons]
  | created => cases isWrite
  | changed => cases isWrite
  | acquired => cases isWrite
  | released => cases isWrite
  | published => cases isWrite

theorem unbroken_items {items : List (Json F)} :
    Unbroken (.list items : Json F) ↔ ∀ item ∈ items, Unbroken item := by
  induction items with
  | nil => simp [Unbroken, Json.strings, Json.stringsItems]
  | cons item items ih =>
      rw [List.forall_mem_cons, ← ih]
      unfold Unbroken
      simp only [Json.strings, Json.stringsItems, List.mem_append]
      constructor
      · intro all
        exact ⟨fun s mem => all s (.inl mem), fun s mem => all s (.inr mem)⟩
      · rintro ⟨first, rest⟩ s (mem | mem)
        · exact first s mem
        · exact rest s mem

/-! ## The calls -/

variable [Floating F]

/-- An answer whose stored texts stay on one line: of a receipt, the path, the
schema version and the facts. -/
def PlainAnswer : Event (ContinuitySig F) → Prop
  | ⟨.resolve _, path⟩ => Plain path
  | ⟨.readReceipt _, .ok (.dict receipt, digest)⟩ =>
      Unbroken (getKey receipt "schema_version") ∧ Plain digest ∧
        ∀ facts, verifiedFactsFromReceipt receipt = .ok facts → ∀ fact ∈ facts, Unbroken fact
  | _ => True

/-- A program that keeps the law. -/
abbrev Keeps (header : SessionHeader F) (tidy : Prop) (entries : List (Entry F))
    (m : Journaling F α) : Prop :=
  Extends header (fun event => tidy → PlainAnswer event) (Lawful header tidy) entries m

/-- `set_lifecycle` -/
theorem keeps_setLifecycle {status : SessionLifecycle} :
    Keeps header tidy entries (setLifecycle status) := by
  refine Extends.check_bind (fun s t r s' run => ?_) fun _ => ?_
  · obtain ⟨rfl, rfl, -⟩ := runs_requireWritable run
    exact ⟨rfl, rfl⟩
  split
  · exact extends_throw _
  refine Extends.modify_bind (fun s owned => ⟨rfl, owned⟩) ?_
  refine Extends.get_bind fun s _ owned => ?_
  exact (commits_writeDisk (.published s.header)).extend (lawful_published owned)

theorem keeps_close : Keeps header tidy entries (close : Journaling F Unit) :=
  extends_modify _ fun _ owned => ⟨rfl, owned⟩

variable [ReadsFloat F]

/-- A call that, if the journals admit it, stores no text with a separator and
acquires no generation that the journal already names.  Only the texts that
`_identifier` does not check are named here. -/
def ContinuityMethod.Tidy (disk : Disk F) : ContinuityMethod F → Prop
  | .proposeCommand request | .recordAuthorizedCommand request =>
      ∀ records, disk.commandRecords = .ok records → stateIn records request.commandId = none →
        Plain request.transportPayloadReference ∧ Plain request.authorizationVersion
  | .markOutcomeUnknown commandId reason =>
      ∀ records, disk.commandRecords = .ok records →
        stateIn records commandId = some .dispatched → Plain reason
  | .acquireBrowserBinding request => disk.activeBinding = .ok none →
      Plain request.browserProfileReference ∧ PlainFields request.capabilitySnapshot ∧
        ∀ record ∈ disk.bindings, getStr record "binding_generation" ≠ .ok request.bindingGeneration
  | _ => True

/-- `_transition` -/
theorem keeps_transition {commandId : String} {target : CommandState}
    {detail : List (String × Json F)} (lawful : Follows (Lawful header tidy) [] entries)
    (dispatches : target = .dispatched → ∃ generation, activeGenerations entries = [generation] ∧
      detail = [("binding_generation", .str generation)])
    (attested : target = .verified ∨ target = .failed → Attested entries commandId target)
    (plain : tidy → ∀ records source, (diskOf header entries).commandRecords = .ok records →
      stateIn records commandId = some source → target ∈ source.transitions → PlainFields detail) :
    Keeps header tidy entries (transition commandId target detail) := by
  refine Extends.reading_bind fun records read => ?_
  have replayed := commandRecords_diskOf read
  cases found : records.find? (·.commandId = commandId) with
  | none => exact extends_throw _
  | some current =>
      have isId : current.commandId = commandId := by simpa using List.find?_some found
      have isSource : stateIn records commandId = some current.state := by
        rw [stateIn, found]
        rfl
      dsimp only
      split
      · exact extends_throw _
      next allowed =>
      refine Extends.now_bind fun recordedAt => ?_
      have isAllowed : target ∈ current.state.transitions := by simpa using allowed
      have law : Lawful header tidy entries
          (.changed recordedAt commandId current.state target detail) := by
        refine ⟨⟨stateIn_replay replayed commandId ▸ isSource, isAllowed, dispatches, attested⟩,
          fun isTidy => ?_⟩
        have plainDetail := plain isTidy records current.state read isSource isAllowed
        have isPlain := plain_replayedCommands (unbroken_stream (lawful.isTidy isTidy) .commands) replayed current
          (List.mem_of_find?_eq_some found)
        exact tidy_of_record rfl (unbroken_changed (isId ▸ isPlain.commandId) plainDetail)
          (by simp)
      refine (commits_append rfl).bind law (Extends.reading_bind fun records' _ => ?_)
      split
      · exact extends_pure _
      · exact extends_throw _

/-- `propose_command` -/
theorem keeps_proposeCommand {request : ProposeRequest} (plainHeader : Plain header.sessionId)
    (plain : tidy → (ContinuityMethod.proposeCommand request).Tidy (diskOf header entries)) :
    Keeps header tidy entries (proposeCommand request) := by
  refine Extends.ofExcept_bind fun commandId isId => ?_
  obtain ⟨rfl, plainId⟩ := plain_of_identifier isId
  refine Extends.reading_bind fun records read => ?_
  split
  · exact extends_throw _
  next fresh =>
  refine Extends.get_bind fun s _ owned => ?_
  refine Extends.ofExcept_bind fun plannerGeneration isPlanner => ?_
  obtain ⟨-, plainPlanner⟩ := plain_of_identifier isPlanner
  refine Extends.now_bind fun createdAt => ?_
  split
  · exact extends_throw _
  refine Extends.now_bind fun recordedAt => ?_
  have unknown : stateIn records request.commandId = none := by
    rw [stateIn_eq_none]
    simpa using fresh
  have unrecorded : stateOf entries request.commandId = none :=
    stateIn_replay (commandRecords_diskOf read) request.commandId ▸ unknown
  refine (commits_append (e := .created recordedAt _) rfl).bind ⟨⟨unrecorded, rfl, owned.1⟩, ?_⟩
    (extends_pure _)
  intro isTidy
  obtain ⟨plainPayload, plainVersion⟩ := plain isTidy records read unknown
  refine tidy_of_record rfl (unbroken_event (by decide) ?_) (by simp)
  simp only [CommandRecord.toDict, plainFields_cons]
  exact ⟨by decide, unbroken_str plainId, by decide, unbroken_str (owned.1 ▸ plainHeader), by decide,
    unbroken_str plainPlanner, by decide, unbroken_str (by decide), by decide,
    unbroken_str plainPayload, by decide, unbroken_str plainVersion, by decide, unbroken_atom rfl,
    by decide, unbroken_str (by decide), by decide, unbroken_atom rfl, by decide, unbroken_atom rfl,
    plainFields_nil⟩

/-- `record_authorized_command` -/
theorem keeps_recordAuthorizedCommand {request : ProposeRequest} (plainHeader : Plain header.sessionId)
    (lawful : Follows (Lawful header tidy) [] entries)
    (plain : tidy → (ContinuityMethod.proposeCommand request).Tidy (diskOf header entries)) :
    Keeps header tidy entries (recordAuthorizedCommand request) := by
  refine Extends.bind (keeps_proposeCommand plainHeader plain) fun record more follows => ?_
  exact keeps_transition (follows_append.mpr ⟨lawful, follows⟩) (by simp) (by simp) fun _ _ _ _ _ _ => plainFields_nil

/-- `dispatch_command` -/
theorem keeps_dispatchCommand {commandId bindingGeneration : String}
    (lawful : Follows (Lawful header tidy) [] entries) :
    Keeps header tidy entries (dispatchCommand commandId bindingGeneration) := by
  refine Extends.reading_bind fun active read => ?_
  split
  · exact extends_throw _
  next isActive =>
  cases active with
  | none => simp at isActive
  | some binding =>
      have isGeneration : binding.bindingGeneration = bindingGeneration := by simpa using isActive
      obtain ⟨only, bindings, replayed, mem⟩ := activeBinding_diskOf_some read
      refine keeps_transition lawful (fun _ => ⟨bindingGeneration, ?_, rfl⟩) (by simp)
        fun isTidy _ _ _ _ _ => ?_
      · rw [only, isGeneration]
      · have isPlain := plain_replayedBindings (lawful.isTidy isTidy) replayed binding mem
        rw [plainFields_cons, ← isGeneration]
        exact ⟨by decide, unbroken_str isPlain.bindingGeneration, plainFields_nil⟩

/-- `mark_outcome_unknown` -/
theorem keeps_markOutcomeUnknown {commandId reason : String}
    (lawful : Follows (Lawful header tidy) [] entries)
    (plain : tidy →
      (ContinuityMethod.markOutcomeUnknown commandId reason).Tidy (diskOf header entries)) :
    Keeps header tidy entries (markOutcomeUnknown commandId reason) := by
  unfold markOutcomeUnknown
  split
  · exact extends_throw _
  · refine keeps_transition lawful (by simp) (by simp) fun isTidy records source read isSource allowed => ?_
    have dispatched : source = .dispatched := by
      cases source <;> simp [CommandState.transitions] at allowed ⊢
    rw [plainFields_cons]
    exact ⟨by decide, unbroken_str (plain isTidy records read (dispatched ▸ isSource)), plainFields_nil⟩

/-! ### Recovery -/

/-- What recovery finds for a command was attached to it. -/
theorem evidences_of_lookup {index : List (Json F)} {evidence : List (String × Json F)}
    {commandId : String} {item : Json F} (read : (diskOf header entries).evidenceIndex = .ok index)
    (indexed : (index.mapM fun item => do return (← getStr item "command_id", item) :
      Except PyException _) = .ok evidence)
    (found : evidence.reverse.lookup commandId = some item) :
    ∃ (classification : TerminalClassification) (path : String),
      Evidences header entries commandId item classification.target path := by
  obtain ⟨before, after, split, -⟩ := List.lookup_eq_some_iff.mp found
  have mem : (commandId, item) ∈ evidence := by
    rw [← List.mem_reverse, split]
    simp
  obtain ⟨item', isItem, isPair⟩ := mem_of_mapM_eq_ok indexed mem
  obtain ⟨id, isId, same⟩ := bind_eq_ok.mp isPair
  cases same
  have isEvidence : index = (diskOf header entries).evidence := readEvents_eq_ok read
  rw [isEvidence] at isItem
  exact evidences_of_mem isItem isId

theorem keeps_recoverCommand {more : List (Entry F)} {evidence : List (String × Json F)}
    {command : CommandRecord F} (lawful : Follows (Lawful header tidy) [] (entries ++ more))
    (evidences : ∀ item, evidence.lookup command.commandId = some item →
      ∃ (classification : TerminalClassification) (path : String),
        Evidences header entries command.commandId item classification.target path) :
    Keeps header tidy (entries ++ more) (recoverCommand evidence command) := by
  unfold recoverCommand
  split
  case isFalse => exact extends_pure _
  cases found : evidence.lookup command.commandId with
  | some item =>
      obtain ⟨classification, path, isEvidence⟩ := evidences item found
      refine Extends.ofExcept_bind fun value isValue => ?_
      rw [isEvidence.classification] at isValue
      cases isValue
      refine Extends.ofExcept_bind fun target isTarget => ?_
      rw [CommandState.ofValue_value] at isTarget
      cases isTarget
      refine Extends.ofExcept_bind fun reference isReference => ?_
      rw [isEvidence.reference] at isReference
      cases isReference
      have notDispatched : classification.target ≠ .dispatched := by cases classification <;> simp [
        TerminalClassification.target]
      refine Extends.bind (keeps_transition lawful (fun same => absurd same notDispatched)
        (fun _ => isEvidence.attested.append more) fun isTidy _ _ _ _ _ => ?_) fun _ _ _ => extends_pure _
      have unbroken : Unbroken item :=
        unbroken_stream (follows_append.mp (lawful.isTidy isTidy)).1 .evidence item isEvidence.recorded
      have plainPath : Plain path := unbroken _ (mem_strings_of_getItem isEvidence.reference)
      simp only [plainFields_cons]
      exact ⟨by decide, unbroken_str plainPath, by decide, unbroken_atom rfl, plainFields_nil⟩
  | none =>
      exact Extends.bind (keeps_markOutcomeUnknown lawful fun _ _ _ _ => by decide) fun _ _ _ =>
        extends_pure _

/-- `recover_interrupted_commands` -/
theorem keeps_recoverInterruptedCommands (lawful : Follows (Lawful header tidy) [] entries) :
    Keeps header tidy entries recoverInterruptedCommands := by
  refine Extends.reading_bind fun index isIndex => ?_
  refine Extends.ofExcept_bind fun evidence indexed => ?_
  refine Extends.reading_bind fun records _ => ?_
  refine extends_forM fun command _ more follows => ?_
  exact keeps_recoverCommand (follows_append.mpr ⟨lawful, follows⟩) fun item found =>
    evidences_of_lookup isIndex indexed found

/-! ### Bindings -/

/-- `acquire_browser_binding` -/
theorem keeps_acquireBrowserBinding {request : AcquireRequest F}
    (plain : tidy → (ContinuityMethod.acquireBrowserBinding request).Tidy (diskOf header entries)) :
    Keeps header tidy entries (acquireBrowserBinding request) := by
  refine Extends.reading_bind fun active read => ?_
  split
  · exact extends_throw _
  next free =>
  cases active with
  | some binding => simp at free
  | none =>
      refine Extends.ofExcept_bind fun _ checked => ?_
      refine Extends.now_bind fun acquiredAt => ?_
      refine Extends.now_bind fun recordedAt => ?_
      refine (commits_append (e := .acquired recordedAt _) rfl).bind
        ⟨activeBinding_diskOf_none read, fun isTidy => ?_⟩ (extends_pure _)
      obtain ⟨plainProfile, plainSnapshot, unused⟩ := plain isTidy read
      obtain ⟨_, isBinding, checked⟩ := bind_eq_ok.mp checked
      obtain ⟨_, isGeneration, checked⟩ := bind_eq_ok.mp checked
      obtain ⟨_, isBackend, checked⟩ := bind_eq_ok.mp checked
      obtain ⟨_, isSession, checked⟩ := bind_eq_ok.mp checked
      obtain ⟨_, isOwner, -⟩ := bind_eq_ok.mp checked
      refine ⟨List.forall_mem_singleton.mpr (unbroken_event (by decide) ?_), ?_⟩
      · have ofIdentifier {name value text : String} (ok : identifier name value = .ok text) :
            Unbroken (.str value : Json F) := by
          obtain ⟨rfl, isPlain⟩ := plain_of_identifier ok
          exact unbroken_str isPlain
        simp only [BrowserBinding.toDict, plainFields_cons]
        exact ⟨by decide, ofIdentifier isBinding, by decide, ofIdentifier isGeneration, by decide,
          unbroken_str plainProfile, by decide, ofIdentifier isBackend, by decide,
          ofIdentifier isSession, by decide, ofIdentifier isOwner, by decide, plainSnapshot,
          by decide, unbroken_atom rfl, by decide, unbroken_atom rfl, plainFields_nil⟩
      · rintro _ _ ⟨⟩
        exact unused_generation unused

/-- `release_browser_binding` -/
theorem keeps_releaseBrowserBinding {generation : String}
    (lawful : Follows (Lawful header tidy) [] entries) :
    Keeps header tidy entries (releaseBrowserBinding generation) := by
  refine Extends.reading_bind fun active read => ?_
  cases active with
  | none => exact extends_throw _
  | some binding =>
      dsimp only
      split
      · exact extends_throw _
      refine Extends.now_bind fun releasedAt => ?_
      refine Extends.now_bind fun recordedAt => ?_
      obtain ⟨only, bindings, replayed, mem⟩ := activeBinding_diskOf_some read
      refine (commits_append (e := .released recordedAt _ _ releasedAt) rfl).bind
        ⟨only, fun isTidy => ?_⟩ (extends_pure _)
      have isPlain := plain_replayedBindings (lawful.isTidy isTidy) replayed binding mem
      refine tidy_of_record rfl (unbroken_event (by decide) ?_) (by simp)
      simp only [plainFields_cons]
      exact ⟨by decide, unbroken_str isPlain.bindingId, by decide,
        unbroken_str isPlain.bindingGeneration, by decide, unbroken_atom rfl, plainFields_nil⟩

/-! ### Evidence -/

/-- `attach_receipt` -/
theorem keeps_attachReceipt {request : AttachRequest} (lawful : Follows (Lawful header tidy) [] entries) :
    Keeps header tidy entries (attachReceipt request) := by
  refine Extends.reading_bind fun records read => ?_
  have replayed := commandRecords_diskOf read
  dsimp only
  split
  · exact extends_throw _
  next isDispatched =>
  split
  · exact extends_throw _
  next sameGeneration =>
  cases found : records.find? (·.commandId = request.commandId) with
  | none => simp [found] at isDispatched
  | some command =>
      have isId : command.commandId = request.commandId := by simpa using List.find?_some found
      have dispatched : stateOf entries request.commandId = some .dispatched := by
        rw [← stateIn_replay replayed, stateIn, found]
        simpa [found] using isDispatched
      have generation : command.bindingGeneration = some request.bindingGeneration := by
        simpa [found] using sameGeneration
      refine Extends.ask_bind (fun _ => rfl) fun path plainPath => ?_
      change String at path
      refine Extends.ask_bind (fun _ => rfl) fun answer plainAnswer => ?_
      change Except PyException (Json F × String) at answer
      refine Extends.ofExcept_bind fun read isAnswer => ?_
      subst isAnswer
      obtain ⟨receipt, digest⟩ := read
      dsimp only
      cases receipt with
      | dict receipt =>
          dsimp only
          split
          · next schema isSchema =>
            split
            · exact extends_throw _
            refine Extends.ofExcept_bind fun facts isFacts => ?_
            refine Extends.ofExcept_bind fun declared _ => ?_
            split
            · exact extends_throw _
            refine Extends.now_bind fun recordedAt => ?_
            have law : Lawful header tidy entries
                (.attached recordedAt request path schema digest facts) := by
              refine ⟨dispatched, fun isTidy => ?_⟩
              obtain ⟨plainSchema, plainDigest, plainFacts⟩ := plainAnswer isTidy
              have isPlain := plain_replayedCommands (unbroken_stream (lawful.isTidy isTidy) .commands) replayed command
                (List.mem_of_find?_eq_some found)
              refine tidy_of_record rfl (unbroken_event (by decide) ?_) (by simp)
              simp only [plainFields_cons]
              exact ⟨by decide, unbroken_str (isId ▸ isPlain.commandId), by decide,
                unbroken_str (plainPath isTidy), by decide,
                isSchema ▸ plainSchema, by decide, unbroken_str plainDigest, by decide,
                unbroken_str (isPlain.bindingGeneration _ generation), by decide,
                unbroken_str (plain_state _), by decide, unbroken_items.mpr (plainFacts facts isFacts),
                plainFields_nil⟩
            refine (commits_append rfl).bind law (keeps_transition ?_ ?_ ?_ ?_)
            · exact follows_snoc.mpr ⟨lawful, law⟩
            · intro same
              cases classification : request.terminalClassification <;>
                simp [classification, TerminalClassification.target] at same
            · intro _
              exact ⟨recordedAt, request, path, schema, digest, facts, by simp, rfl, rfl⟩
            · intro isTidy _ _ _ _ _
              rw [plainFields_cons]
              exact ⟨by decide, unbroken_str (plainPath isTidy), plainFields_nil⟩
          · exact extends_throw _
      | _ => exact extends_throw _

/-! ### The session -/

/-- `ContinuitySession.open` -/
theorem keeps_openSession {ownerGeneration : String} {recoverInterrupted : Bool}
    (lawful : Follows (Lawful header tidy) [] entries) :
    Keeps header tidy entries (openSession ownerGeneration recoverInterrupted) := by
  refine Extends.get_bind fun s isDisk _ => ?_
  split
  · exact extends_throw _
  split
  · exact extends_throw _
  refine Extends.ofExcept_bind fun ownerGeneration _ => ?_
  have owned : Owned header { s with header := { s.disk.manifest with ownerGeneration } } := by
    rw [isDisk]
    exact owned_manifest lawful.permits
  have law : Lawful header tidy entries (.published _) := lawful_published owned
  refine (commits_writeDisk (.published _)).bind law ?_
  refine Extends.modify_bind (fun _ _ => ⟨rfl, owned⟩) ?_
  split
  · have lawful' := follows_snoc.mpr ⟨lawful, law⟩
    refine Extends.tryCatch (keeps_recoverInterruptedCommands lawful') fun e more _ => ?_
    exact Extends.bind keeps_close fun _ _ _ => extends_throw _
  · exact extends_pure _

/-! ### Every call -/

/-- Every call of the API keeps the law. -/
theorem keeps_body (method : ContinuityMethod F) (plainHeader : Plain header.sessionId)
    (lawful : Follows (Lawful header tidy) [] entries)
    (isTidy : tidy → method.Tidy (diskOf header entries)) :
    Keeps header tidy entries method.body := by
  have effect {α : Type} {m : Journaling F α} (keeps : Keeps header tidy entries m) :
      Keeps header tidy entries (discard m) :=
    Extends.bind keeps fun _ _ _ => extends_pure _
  cases method with
  | proposeCommand request =>
      exact effect (keeps_proposeCommand plainHeader isTidy)
  | authorizeCommand commandId =>
      exact effect (keeps_transition lawful (by simp) (by simp) fun _ _ _ _ _ _ => plainFields_nil)
  | recordAuthorizedCommand request =>
      exact effect (keeps_recordAuthorizedCommand plainHeader lawful isTidy)
  | dispatchCommand commandId generation => exact effect (keeps_dispatchCommand lawful)
  | cancelCommand commandId =>
      exact effect (keeps_transition lawful (by simp) (by simp) fun _ _ _ _ _ _ => plainFields_nil)
  | markOutcomeUnknown commandId reason =>
      exact effect (keeps_markOutcomeUnknown lawful isTidy)
  | recoverInterruptedCommands => exact keeps_recoverInterruptedCommands lawful
  | acquireBrowserBinding request => exact effect (keeps_acquireBrowserBinding isTidy)
  | releaseBrowserBinding generation => exact effect (keeps_releaseBrowserBinding lawful)
  | attachReceipt request => exact effect (keeps_attachReceipt lawful)
  | setLifecycle status => exact keeps_setLifecycle
  | close => exact keeps_close
  | openSession generation recover => exact keeps_openSession lawful

end Calls

end Dingdongditch.Continuity
