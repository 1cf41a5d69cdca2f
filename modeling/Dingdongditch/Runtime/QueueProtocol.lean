import Dingdongditch.Runtime.FileQueue

/-!
# What the operations of the queue do

What each indivisible operation changes (`Effect`), and the protocol that an
operation of the queue keeps: a result is published after the ownership check, and
the claimed file is removed after the result was published.
-/

namespace Dingdongditch.FileQueue

open Interaction Store

variable {P : Type} {directory : String}

/-! ## Events -/

/-- A message that is published. -/
def linked : Event (fileSystem P directory).calls → Option String
  | ⟨.link messageId _, .ok _⟩ => some messageId
  | _ => none

/-- A message that is claimed, under the name of the claimed file. -/
def moved : Event (fileSystem P directory).calls → Option (String × String)
  | ⟨.move messageId unique, .ok true⟩ => some (messageId, unique)
  | _ => none

/-- A claim that passes the ownership check, with the result to publish. -/
def owned : Event (fileSystem P directory).calls → Option (ClaimedMessage P × P)
  | ⟨.owns claim result, .ok true⟩ => some (claim, result)
  | _ => none

/-- A result that is published. -/
def replaced : Event (fileSystem P directory).calls → Option (String × String)
  | ⟨.replaceCompleted messageId content, .ok _⟩ => some (messageId, content)
  | _ => none

/-- A claimed file that is removed. -/
def unlinks : Event (fileSystem P directory).calls → Option (String × String)
  | ⟨.unlinkClaimed file, _⟩ => some file
  | _ => none

/-- The event is none of these. -/
structure Quiet (e : Event (fileSystem P directory).calls) : Prop where
  linked : linked e = none
  moved : moved e = none
  owned : owned e = none
  replaced : replaced e = none
  unlinks : unlinks e = none

/-- The directories are the same. -/
structure Files.Same (files files' : Files) : Prop where
  pending : files'.pending = files.pending
  claimed : files'.claimed = files.claimed
  completed : files'.completed = files.completed

/-! ## Effects -/

inductive Effect (directory : String) :
    Files → Event (fileSystem P directory).calls → Files → Prop
  | quiet {files files' : Files} {e : Event (fileSystem P directory).calls} :
    Quiet e → files.Same files' → Effect directory files e files'
  | linked {files : Files} {messageId content : String} :
    ¬ files.pending.Has messageId → Effect directory files ⟨.link messageId content, .ok ()⟩
      { files with pending := files.pending.write messageId content }
  | moved {files : Files} {messageId unique content : String} :
    files.pending.lookup messageId = some content → Effect directory files
      ⟨.move messageId unique, .ok true⟩ (files.move messageId unique content)
  | owned {files : Files} {claim : ClaimedMessage P} {result : P} :
    claim.directory = directory → files.claimed.Has claim.file →
    Effect directory files ⟨.owns claim result, .ok true⟩ files
  | replaced (files : Files) (messageId content : String) :
    Effect directory files ⟨.replaceCompleted messageId content, .ok ()⟩
      { files with completed := files.completed.write messageId content }
  | unlinked (files : Files) (file : String × String) (outcome : Except Failure Unit) :
    Effect directory files ⟨.unlinkClaimed file, outcome⟩
      { files with claimed := files.claimed.remove file }

theorem quiet_error {method : Method P} {e : Failure} (kept : ∀ file, method ≠ .unlinkClaimed file) :
    Quiet (⟨method, .error e⟩ : Event (fileSystem P directory).calls) := by
  cases method with
  | unlinkClaimed file => exact (kept file rfl).elim
  | _ => constructor <;> rfl

theorem runs_atomically {α : Type} {f : Files → Except Failure α × Files} {files files' : Files}
    {t : Trace NoSig} {r : Except Failure α} (run : Act.Runs (atomically f) files t r files') :
    f files = (r, files') :=
  (Prog.runs_done.mp run).2.symm

theorem effect (step : (fileSystem P directory).Step) :
    Effect directory step.before step.event step.after := by
  rcases step with ⟨method, before, trace, outcome, after, run⟩
  cases method with
  | link messageId content =>
      have result := runs_atomically run
      by_cases present : before.pending.Has messageId
      · rw [if_pos present] at result
        cases result
        exact .quiet (quiet_error nofun) ⟨rfl, rfl, rfl⟩
      · rw [if_neg present] at result
        cases result
        exact .linked present
  | listPending =>
      cases runs_atomically run
      exact .quiet ⟨rfl, rfl, rfl, rfl, rfl⟩ ⟨rfl, rfl, rfl⟩
  | readPending messageId =>
      cases runs_atomically run
      exact .quiet ⟨rfl, rfl, rfl, rfl, rfl⟩ ⟨rfl, rfl, rfl⟩
  | move messageId unique =>
      have result := runs_atomically run
      cases found : before.pending.lookup messageId with
      | none =>
          rw [found] at result
          cases result
          exact .quiet ⟨rfl, rfl, rfl, rfl, rfl⟩ ⟨rfl, rfl, rfl⟩
      | some content =>
          rw [found] at result
          cases result
          exact .moved found
  | owns claim result =>
      have answer := runs_atomically run
      by_cases holds : claim.directory = directory ∧ before.claimed.Has claim.file
      · rw [decide_eq_true holds] at answer
        cases answer
        exact .owned holds.1 holds.2
      · rw [decide_eq_false holds] at answer
        cases answer
        exact .quiet ⟨rfl, rfl, rfl, rfl, rfl⟩ ⟨rfl, rfl, rfl⟩
  | replaceCompleted messageId content =>
      cases runs_atomically run
      exact .replaced _ _ _
  | unlinkClaimed file =>
      cases runs_atomically run
      exact .unlinked _ _ _
  | acquire lock =>
      have run : Prog.Runs (if lock ∈ before.locks then .diverge
        else .done (.ok (), { before with locks := lock :: before.locks })) trace (outcome, after) := run
      by_cases held : lock ∈ before.locks
      · rw [if_pos held] at run
        exact (Prog.not_runs_diverge run).elim
      · rw [if_neg held] at run
        cases (Prog.runs_done.mp run).2
        exact .quiet ⟨rfl, rfl, rfl, rfl, rfl⟩ ⟨rfl, rfl, rfl⟩
  | release lock =>
      cases runs_atomically run
      exact .quiet ⟨rfl, rfl, rfl, rfl, rfl⟩ ⟨rfl, rfl, rfl⟩

/-! ## The protocol -/

/-- How far a completion has come. -/
inductive Holding (P : Type)
  | idle
  /-- The claim passed the ownership check. -/
  | owned (claim : ClaimedMessage P) (result : P)
  /-- The result is published. -/
  | published (claim : ClaimedMessage P) (result : P)

def Holding.move : Holding P → Event (QueueSig P directory) → Holding P
  | _, ⟨.inl (.owns claim result), .ok true⟩ => .owned claim result
  | .owned claim result, ⟨.inl (.replaceCompleted _ _), .ok _⟩ => .published claim result
  | _, ⟨.inl (.unlinkClaimed _), _⟩ => .idle
  | holding, _ => holding

variable (codec : Codec P)

def Holding.Allows (holding : Holding P) : Event (QueueSig P directory) → Prop
  | ⟨.inl (.owns _ _), _⟩ => holding = .idle
  | ⟨.inl (.replaceCompleted messageId content), _⟩ => ∃ claim result,
      holding = .owned claim result ∧ claim.messageId = messageId ∧ codec.dumps result = .ok content
  | ⟨.inl (.unlinkClaimed file), _⟩ => ∃ claim result,
      holding = .published claim result ∧ file = claim.file
  | _ => True

def protocol (directory : String) : Protocol (QueueSig P directory) (Holding P) where
  start := .idle
  allowed := Holding.Allows codec
  move := Holding.move

/-- A completion does not end between its publication and the removal of the file. -/
def Holding.Ended : Holding P → Prop
  | .published _ _ => False
  | _ => True

section Follows

variable {α β : Type} {codec : Codec P} {holding : Holding P} {Q : Holding P → Except Failure β → Prop}

/-- The operations that leave how far a completion has come. -/
def Method.neutral : Method P → Prop
  | .owns _ _ => False
  | .replaceCompleted _ _ => False
  | .unlinkClaimed _ => False
  | _ => True

theorem neutral_event {method : Method P} (neutral : method.neutral)
    (answer : Except Failure method.Reply) :
    (protocol codec directory).allowed holding ⟨.inl method, answer⟩ ∧
      (protocol codec directory).move holding ⟨.inl method, answer⟩ = holding := by
  cases method with
  | owns | replaceCompleted | unlinkClaimed => exact neutral.elim
  | _ => exact ⟨trivial, by cases holding <;> rfl⟩

theorem follows_file_bind {method : Method P} {f : method.Reply → QueueAct P directory β}
    (neutral : method.neutral) (raised : ∀ e, Q holding (.error e))
    (next : ∀ a, Act.Follows (protocol codec directory) holding (f a) Q) :
    Act.Follows (protocol codec directory) holding (file method >>= f) Q :=
  Act.follows_attempt_bind (neutral_event neutral) raised next

theorem follows_world_bind {c : WorldCall} {view : WorldSig.Answer c → Except Failure α}
    {f : α → QueueAct P directory β} (raised : ∀ e, Q holding (.error e))
    (next : ∀ a, Act.Follows (protocol codec directory) holding (f a) Q) :
    Act.Follows (protocol codec directory) holding
      (Act.attempt (S := QueueSig P directory) (.inr c) view >>= f) Q :=
  Act.follows_attempt_bind (fun _ => ⟨trivial, by cases holding <;> rfl⟩) raised next

/-- Work under a lock ends as it would without it. -/
theorem follows_withLock {lock : Lock} {work : QueueAct P directory β}
    (raised : ∀ e, Q holding (.error e))
    (follows : Act.Follows (protocol codec directory) holding work Q) :
    Act.Follows (protocol codec directory) holding (withLock lock work) Q := by
  refine follows_file_bind ?_ raised ?_
  · exact trivial
  intro _
  apply follows.andFinally
  intro k r ended
  apply Act.follows_attempt
  intro answer
  obtain ⟨allowed, same⟩ := @neutral_event P directory codec k (.release lock) trivial answer
  exact ⟨allowed, same ▸ ended⟩

/-- The operation is no completion, or one that has not begun. -/
def Idle (holding : Holding P) (_ : Except Failure β) : Prop := holding = .idle

theorem Idle.bind {m : QueueAct P directory α} {f : α → QueueAct P directory β}
    (first : Act.Follows (protocol codec directory) .idle m Idle)
    (next : ∀ a, Act.Follows (protocol codec directory) .idle (f a) Idle) :
    Act.Follows (protocol codec directory) .idle (m >>= f) Idle := by
  apply first.bind
  · rintro _ e rfl
    rfl
  · rintro _ a rfl
    exact next a

end Follows

variable {codec : Codec P}

theorem follows_done {α : Type} {m : QueueAct P directory α} {f : α → Reply P}
    (first : Act.Follows (protocol codec directory) .idle m Idle) :
    Act.Follows (protocol codec directory) .idle (do return f (← m)) Idle :=
  Idle.bind first fun _ => Act.follows_pure rfl

theorem publish_follows (payload : P) (messageId : Option String) :
    Act.Follows (protocol codec directory) .idle (publish codec payload messageId) Idle := by
  have named : Act.Follows (protocol codec directory) .idle (chooseId messageId) Idle := by
    unfold chooseId
    cases messageId.filter (· ≠ "") with
    | some messageId => exact Act.follows_pure rfl
    | none => exact Act.follows_attempt fun _ => ⟨trivial, rfl⟩
  apply Idle.bind named
  intro messageId
  dsimp only
  split
  · exact Act.follows_throw rfl
  · apply Act.follows_ofExcept_bind (fun _ => rfl)
    intro encoded _
    apply follows_world_bind (fun _ => rfl)
    intro _
    apply follows_file_bind (by trivial) (fun _ => rfl)
    exact fun _ => Act.follows_pure rfl

theorem claimFirst_follows (listed : List String) :
    Act.Follows (protocol codec directory) .idle (claimFirst codec listed) Idle := by
  induction listed with
  | nil => exact Act.follows_pure rfl
  | cons messageId later ih =>
      have reads : Act.Follows (protocol codec directory) .idle (readPublished codec messageId)
          Idle := by
        apply Idle.bind
        · apply follows_withLock (fun _ => rfl)
          exact Act.follows_attempt fun _ => ⟨trivial, rfl⟩
        · intro content
          split
          · exact Act.follows_pure rfl
          · exact Act.follows_throw rfl
      apply Idle.bind reads
      intro payload
      apply follows_world_bind (fun _ => rfl)
      intro unique
      apply follows_file_bind (by trivial) (fun _ => rfl)
      intro got
      cases got with
      | true => exact Act.follows_pure rfl
      | false => exact ih

theorem claim_follows : Act.Follows (protocol codec directory) .idle (claim codec) Idle := by
  apply follows_done
  apply follows_withLock (fun _ => rfl)
  apply follows_file_bind (by trivial) (fun _ => rfl)
  exact fun listed => claimFirst_follows listed

/-- What a completion holds after its ownership check. -/
def Holding.Checked (claim : ClaimedMessage P) (result : P) : Holding P → Except Failure Bool → Prop
  | holding, .ok true => holding = .owned claim result
  | holding, _ => holding = .idle

/-- What a completion holds after the publication. -/
def Holding.Published (claim : ClaimedMessage P) (result : P) : Holding P → Except Failure Unit → Prop
  | holding, .ok _ => holding = .published claim result
  | holding, .error _ => holding = .owned claim result

/-- A completion publishes after the ownership check, and removes the claimed file
after that. -/
theorem complete_follows (claim : ClaimedMessage P) (result : P) :
    Act.Follows (protocol codec directory) .idle (complete codec claim result)
      fun holding _ => holding.Ended := by
  apply Act.Follows.bind (P := Holding.Checked claim result)
  · apply Act.follows_attempt
    intro answer
    refine ⟨rfl, ?_⟩
    rcases answer with e | owned
    · rfl
    · cases owned <;> rfl
  · rintro _ e rfl
    trivial
  intro holding owned checked
  cases owned with
  | false =>
      obtain rfl : holding = .idle := checked
      exact Act.follows_throw trivial
  | true =>
      obtain rfl : holding = .owned claim result := checked
      apply Act.follows_ofExcept_bind (fun _ => trivial)
      intro content encoded
      apply Act.Follows.bind (P := Holding.Published claim result)
      · apply follows_withLock (fun _ => rfl)
        apply follows_world_bind (fun _ => rfl)
        intro _
        apply Act.follows_attempt
        intro answer
        refine ⟨⟨claim, result, rfl, rfl, Act.mapError_eq_ok.mp encoded⟩, ?_⟩
        cases answer <;> rfl
      · rintro _ e rfl
        trivial
      rintro _ _ rfl
      apply Act.Follows.bind (P := fun holding _ => holding = .idle)
      · exact Act.follows_attempt fun _ => ⟨⟨claim, result, rfl, rfl⟩, rfl⟩
      · rintro _ e rfl
        trivial
      · rintro _ _ rfl
        exact Act.follows_pure trivial

/-- Every operation of the queue keeps to the protocol. -/
theorem task_follows (task : Task P) :
    (task.program codec).Follows (protocol codec directory) .idle fun holding _ => holding.Ended := by
  have follows : Act.Follows (protocol codec directory) .idle (task.act codec)
      fun holding _ => holding.Ended := by
    have ended : ∀ (holding : Holding P) (r : Except Failure (Reply P)),
        Idle holding r → holding.Ended := by
      rintro _ _ rfl
      trivial
    cases task with
    | publish payload messageId => exact (publish_follows payload messageId).mono ended
    | claim => exact claim_follows.mono ended
    | complete claimed result => exact complete_follows claimed result
  exact follows ()

end Dingdongditch.FileQueue
