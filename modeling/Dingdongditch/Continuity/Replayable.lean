import Dingdongditch.Continuity.Lives

/-!
# Whether the journals can be read

The journals of a directory can be replayed at any time if no call stores a text
with one of the separators of `isSeparator`, and none acquires a generation that
was acquired before (`Life.replayable`).  The writers check neither, and an
append-only journal keeps what it was given: one such call and every later one
fails (`Life.unreadable`).
-/

namespace Dingdongditch.Continuity

open Interaction Text Store
open Text.Json (ReadsFloat)

variable {F : Type} [Floating F] [ReadsFloat F]

/-- The three journals of a directory can be replayed. -/
def Disk.Replayable (disk : Disk F) : Prop :=
  (∃ records, disk.commandRecords = .ok records) ∧ (∃ bindings, disk.bindingRecords = .ok bindings) ∧
    ∃ index, disk.evidenceIndex = .ok index

theorem commandRecords_ok {header : SessionHeader F} {entries : List (Entry F)}
    (lawful : Follows (Permits header) [] entries)
    (unbroken : ∀ record ∈ (diskOf header entries).commands, Unbroken record) :
    ∃ records, (diskOf header entries).commandRecords = .ok records := by
  obtain ⟨records, replayed⟩ := replayedCommands_ok lawful
  have read : (diskOf header entries).readEvents .commands = .ok (diskOf header entries).commands :=
    readEvents_unbroken unbroken
  exact ⟨records, bind_eq_ok.mpr ⟨_, read, replayed⟩⟩

theorem replayable_of_tidy {header : SessionHeader F} {entries : List (Entry F)}
    (lawful : Follows (Permits header) [] entries) (tidy : Follows Tidy [] entries) :
    (diskOf header entries).Replayable := by
  refine ⟨commandRecords_ok lawful (unbroken_stream tidy .commands), ?_, ?_⟩
  · obtain ⟨bindings, replayed⟩ := replayedBindings_ok lawful tidy
    have read : (diskOf header entries).readEvents .bindings = .ok (diskOf header entries).bindings :=
      readEvents_unbroken (unbroken_stream tidy .bindings)
    exact ⟨bindings, bind_eq_ok.mpr ⟨_, read, replayed⟩⟩
  · exact ⟨_, readEvents_unbroken (unbroken_stream tidy .evidence)⟩

/-- After calls that bring nothing untidy from outside, the journals can be
replayed, whatever else the calls did and wherever they were cut short. -/
theorem Life.replayable {request : CreateRequest F} {createdAt : F} {s₀ s : ContinuitySession F}
    {steps : List (LifeStep F)} (created : createSession request createdAt = .ok s₀)
    (life : Life s₀ steps s) (tidy : ∀ step ∈ steps, step.Tidy) : s.disk.Replayable := by
  obtain ⟨isDisk, plainHeader, -⟩ := createSession_ok created
  obtain ⟨entries, -, lawful, isDisk', -⟩ :=
    Life.ledger True life isDisk ⟨rfl, rfl⟩ plainHeader fun _ => tidy
  rw [isDisk']
  exact replayable_of_tidy lawful.permits (lawful.isTidy trivial)

/-- An event without a text. -/
def isQuiet (event : Event (ContinuitySig (Fin 10))) : Bool :=
  match event with
  | ⟨.now, _⟩ | ⟨.write _, _⟩ => true
  | _ => false

theorem plainAnswer_of_isQuiet {event : Event (ContinuitySig (Fin 10))} (quiet : isQuiet event = true) :
    PlainAnswer event := by
  obtain ⟨call, answer⟩ := event
  cases call with
  | now => trivial
  | write => trivial
  | resolve => cases quiet
  | readReceipt => cases quiet

/-- A command that is proposed and authorized. -/
theorem Life.replayable_authorized : ∃ steps s, Life fresh steps s ∧
    steps.map (·.method) = [.recordAuthorizedCommand (proposal "plan.json")] ∧
      s.disk.commands.length = 2 ∧ s.disk.Replayable := by
  obtain ⟨steps, s, life, isMethods, shown⟩ := exists_life (calmScript .null) fresh ()
    [.recordAuthorizedCommand (proposal "plan.json")]
    (fun steps s => s.disk.commands.length = 2 && steps.all fun step => step.trace.all isQuiet)
    (by decide +kernel)
  obtain ⟨two, quiet⟩ := Bool.and_eq_true_iff.mp shown
  refine ⟨steps, s, life, isMethods, of_decide_eq_true two, Life.replayable created_fresh life ?_⟩
  intro step mem
  have isMethod : step.method = .recordAuthorizedCommand (proposal "plan.json") := by
    have inMethods : step.method ∈ steps.map (·.method) := List.mem_map_of_mem mem
    rw [isMethods] at inMethods
    exact List.mem_singleton.mp inMethods
  refine ⟨?_, fun event isEvent => plainAnswer_of_isQuiet ?_⟩
  · rw [isMethod]
    exact fun _ _ _ => ⟨by decide, by decide⟩
  · exact List.all_eq_true.mp (List.all_eq_true.mp quiet step mem) event isEvent

/-! ## What makes a journal unreadable -/

/-- A proposal whose payload reference contains U+2028. -/
def brokenProposal : ContinuityMethod (Fin 10) := .proposeCommand (proposal "plan\u2028.json")

/-- A generation that is acquired, released and acquired again. -/
def reacquire : List (ContinuityMethod (Fin 10)) :=
  [.acquireBrowserBinding tabRequest, .releaseBrowserBinding "generation",
    .acquireBrowserBinding tabRequest]

/-- After the proposal `commands` fails, and after the second acquisition
`bindings` does. -/
theorem Life.unreadable :
    (∃ steps s, Life fresh steps s ∧ steps.map (·.method) = [brokenProposal] ∧
      s.disk.commandRecords.isOk = false) ∧
    (∃ steps s, Life fresh steps s ∧ steps.map (·.method) = reacquire ∧
      s.disk.bindingRecords.isOk = false) := by
  constructor
  · obtain ⟨steps, s, life, isMethods, shown⟩ := exists_life (calmScript .null) fresh ()
      [brokenProposal] (fun _ s => !s.disk.commandRecords.isOk) (by decide +kernel)
    exact ⟨steps, s, life, isMethods, Bool.not_eq_true' _ |>.mp shown⟩
  · obtain ⟨steps, s, life, isMethods, shown⟩ := exists_life (calmScript .null) fresh ()
      reacquire (fun _ s => !s.disk.bindingRecords.isOk) (by decide +kernel)
    exact ⟨steps, s, life, isMethods, Bool.not_eq_true' _ |>.mp shown⟩

end Dingdongditch.Continuity
