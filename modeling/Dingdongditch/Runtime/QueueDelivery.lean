import Dingdongditch.Interaction.Scripted
import Dingdongditch.Runtime.QueueProtocol

/-!
# Delivery

What the directories of a queue have to do with the operations so far
(`Delivered`), in every interleaving of publishers and workers.  It is kept as long
as the operations are `Orderly`: no message is published under the identifier of
a claimed or completed one, and no claim is completed with two results.
-/

namespace Dingdongditch.FileQueue

open Interaction Store

variable {P : Type} {directory : String} {α : Type}

/-- One of the operations is such an event. -/
def Occurs (past : List (fileSystem P directory).Step)
    (event : Event (fileSystem P directory).calls → Option α) (a : α) : Prop :=
  ∃ step ∈ past, event step.event = some a

variable {past : List (fileSystem P directory).Step} {step : (fileSystem P directory).Step}
  {event : Event (fileSystem P directory).calls → Option α} {a : α}

theorem occurs_append :
    Occurs (past ++ [step]) event a ↔ Occurs past event a ∨ event step.event = some a := by
  constructor
  · rintro ⟨other, mem, occurs⟩
    rcases List.mem_append.mp mem with old | new
    · exact .inl ⟨other, old, occurs⟩
    · cases List.mem_singleton.mp new
      exact .inr occurs
  · rintro (⟨other, mem, occurs⟩ | occurs)
    · exact ⟨other, List.mem_append_left _ mem, occurs⟩
    · exact ⟨step, by simp, occurs⟩

theorem occurs_append_none (none : event step.event = none) :
    Occurs (past ++ [step]) event a ↔ Occurs past event a := by
  rw [occurs_append, none]
  simp

/-- The condition on the operations of publishers and workers. -/
structure Orderly (steps : List (fileSystem P directory).Step) : Prop where
  /-- A message is published under an identifier that is neither claimed nor completed. -/
  fresh : ∀ step ∈ steps, ∀ messageId, linked step.event = some messageId →
    (∀ unique, ¬ step.before.claimed.Has (messageId, unique)) ∧
      ¬ step.before.completed.Has messageId
  /-- A claim passes the ownership check with one result only. -/
  single : ∀ claim result claim' result', Occurs steps owned (claim, result) →
    Occurs steps owned (claim', result') → claim.file = claim'.file → result = result'

/-- No message is claimed twice. -/
def ClaimedOnce (steps : List (fileSystem P directory).Step) : Prop :=
  steps.Pairwise fun earlier later => ∀ file file', moved earlier.event = some file →
    moved later.event = some file' → file.1 ≠ file'.1

/-- No result is replaced by a different one. -/
def ResultsKept (steps : List (fileSystem P directory).Step) : Prop :=
  steps.Pairwise fun earlier later => ∀ result result', replaced earlier.event = some result →
    replaced later.event = some result' → result.1 = result'.1 → result.2 = result'.2

/-- What the directories have to do with the operations so far, and with the
completions that are under way. -/
structure Delivered (codec : Codec P) (past : List (fileSystem P directory).Step) (files : Files)
    (holdings : List (Holding P)) : Prop where
  somewhere : ∀ messageId, Occurs past linked messageId → files.pending.Has messageId ∨
    (∃ unique, files.claimed.Has (messageId, unique)) ∨ files.completed.Has messageId
  pendingOnly : ∀ messageId, files.pending.Has messageId →
    (∀ unique, ¬ files.claimed.Has (messageId, unique)) ∧ ¬ files.completed.Has messageId
  movedOn : ∀ messageId unique, Occurs past moved (messageId, unique) →
    ¬ files.pending.Has messageId ∧
      (files.claimed.Has (messageId, unique) ∨ files.completed.Has messageId)
  movedOnce : ∀ messageId unique unique', Occurs past moved (messageId, unique) →
    Occurs past moved (messageId, unique') → unique = unique'
  claimedMoved : ∀ file, files.claimed.Has file → Occurs past moved file
  ownedMoved : ∀ claim result, Occurs past owned (claim, result) → Occurs past moved claim.file
  completedOwned : ∀ messageId content, files.completed.lookup messageId = some content →
    ∃ claim result, Occurs past owned (claim, result) ∧ claim.messageId = messageId ∧
      codec.dumps result = .ok content
  replacedKept : ∀ messageId content, Occurs past replaced (messageId, content) →
    files.completed.lookup messageId = some content
  underWay : ∀ claim result, .owned claim result ∈ holdings ∨ .published claim result ∈ holdings →
    Occurs past owned (claim, result)
  publishedCompleted : ∀ claim result, .published claim result ∈ holdings →
    files.completed.Has claim.messageId
  both : ∀ messageId unique, files.claimed.Has (messageId, unique) →
    files.completed.Has messageId →
    ∃ claim result, .published claim result ∈ holdings ∧ claim.messageId = messageId
  claims : ClaimedOnce past
  results : ResultsKept past

variable {codec : Codec P} {files files' : Files} {holdings : List (Holding P)}

theorem claimedOnce_append (claims : ClaimedOnce past)
    (apart : ∀ file, moved step.event = some file → ∀ unique, ¬ Occurs past moved (file.1, unique)) :
    ClaimedOnce (past ++ [step]) := by
  refine List.pairwise_append.mpr ⟨claims, List.pairwise_singleton _ _, ?_⟩
  rintro earlier mem later new ⟨id, unique⟩ file' first second
  cases List.mem_singleton.mp new
  rintro rfl
  exact apart file' second unique ⟨earlier, mem, first⟩

theorem resultsKept_append (results : ResultsKept past)
    (same : ∀ result, replaced step.event = some result →
      ∀ content, Occurs past replaced (result.1, content) → content = result.2) :
    ResultsKept (past ++ [step]) := by
  refine List.pairwise_append.mpr ⟨results, List.pairwise_singleton _ _, ?_⟩
  rintro earlier mem later new ⟨id, content⟩ result' first second
  cases List.mem_singleton.mp new
  rintro rfl
  exact same result' second content ⟨earlier, mem, first⟩

theorem Delivered.quiet (delivered : Delivered codec past files holdings) (quiet : Quiet step.event)
    (same : files.Same files') : Delivered codec (past ++ [step]) files' holdings := by
  rcases delivered with ⟨somewhere, pendingOnly, movedOn, movedOnce, claimedMoved, ownedMoved,
    completedOwned, replacedKept, underWay, publishedCompleted, both, claims, results⟩
  constructor
  · simpa only [occurs_append_none quiet.linked, same.pending, same.claimed, same.completed]
  · simpa only [same.pending, same.claimed, same.completed]
  · simpa only [occurs_append_none quiet.moved, same.pending, same.claimed, same.completed]
  · simpa only [occurs_append_none quiet.moved]
  · simpa only [occurs_append_none quiet.moved, same.claimed]
  · simpa only [occurs_append_none quiet.moved, occurs_append_none quiet.owned]
  · simpa only [occurs_append_none quiet.owned, same.completed]
  · simpa only [occurs_append_none quiet.replaced, same.completed]
  · simpa only [occurs_append_none quiet.owned]
  · simpa only [same.completed]
  · simpa only [same.claimed, same.completed]
  · exact claimedOnce_append claims (by simp [quiet.moved])
  · exact resultsKept_append results (by simp [quiet.replaced])

theorem Delivered.linked {messageId content : String} (delivered : Delivered codec past files holdings)
    (event : step.event = ⟨.link messageId content, .ok ()⟩)
    (unclaimed : ∀ unique, ¬ files.claimed.Has (messageId, unique))
    (incomplete : ¬ files.completed.Has messageId) :
    Delivered codec (past ++ [step])
      { files with pending := files.pending.write messageId content } holdings := by
  rcases delivered with ⟨somewhere, pendingOnly, movedOn, movedOnce, claimedMoved, ownedMoved,
    completedOwned, replacedKept, underWay, publishedCompleted, both, claims, results⟩
  have links : FileQueue.linked step.event = some messageId := by rw [event]; rfl
  have moves : moved step.event = none := by rw [event]; rfl
  have owns : owned step.event = none := by rw [event]; rfl
  have replaces : replaced step.event = none := by rw [event]; rfl
  constructor
  · intro id
    rw [occurs_append, links, Directory.has_write]
    rintro (old | new)
    · rcases somewhere id old with pending | later
      · exact .inl (.inr pending)
      · exact .inr later
    · cases new
      exact .inl (.inl rfl)
  · intro id pending
    rcases Directory.has_write.mp pending with rfl | pending
    · exact ⟨unclaimed, incomplete⟩
    · exact pendingOnly id pending
  · intro id unique
    rw [occurs_append_none moves, Directory.has_write]
    intro old
    obtain ⟨gone, on⟩ := movedOn id unique old
    refine ⟨?_, on⟩
    rintro (rfl | pending)
    · rcases on with claimed | completed
      · exact unclaimed unique claimed
      · exact incomplete completed
    · exact gone pending
  · simpa only [occurs_append_none moves]
  · simpa only [occurs_append_none moves]
  · simpa only [occurs_append_none moves, occurs_append_none owns]
  · simpa only [occurs_append_none owns]
  · simpa only [occurs_append_none replaces]
  · simpa only [occurs_append_none owns]
  · exact publishedCompleted
  · exact both
  · exact claimedOnce_append claims (by simp [moves])
  · exact resultsKept_append results (by simp [replaces])

theorem Delivered.moved {messageId unique content : String}
    (delivered : Delivered codec past files holdings)
    (event : step.event = ⟨.move messageId unique, .ok true⟩)
    (found : files.pending.lookup messageId = some content) :
    Delivered codec (past ++ [step]) (files.move messageId unique content) holdings := by
  rcases delivered with ⟨somewhere, pendingOnly, movedOn, movedOnce, claimedMoved, ownedMoved,
    completedOwned, replacedKept, underWay, publishedCompleted, both, claims, results⟩
  have links : FileQueue.linked step.event = none := by rw [event]; rfl
  have moves : FileQueue.moved step.event = some (messageId, unique) := by rw [event]; rfl
  have owns : owned step.event = none := by rw [event]; rfl
  have replaces : replaced step.event = none := by rw [event]; rfl
  have pending := Directory.has_of_lookup found
  obtain ⟨unclaimed, incomplete⟩ := pendingOnly messageId pending
  -- The message was never claimed before, for then it would not be pending.
  have unmoved : ∀ other, ¬ Occurs past FileQueue.moved (messageId, other) := by
    intro other old
    exact (movedOn messageId other old).1 pending
  constructor
  · intro id
    rw [occurs_append_none links]
    intro old
    by_cases same : id = messageId
    · subst same
      exact .inr (.inl ⟨unique, Directory.has_write.mpr (.inl rfl)⟩)
    · rcases somewhere id old with pending | ⟨other, claimed⟩ | completed
      · exact .inl (Directory.has_remove.mpr ⟨same, pending⟩)
      · exact .inr (.inl ⟨other, Directory.has_write.mpr (.inr claimed)⟩)
      · exact .inr (.inr completed)
  · intro id still
    obtain ⟨apart, still⟩ := Directory.has_remove.mp still
    obtain ⟨free, open_⟩ := pendingOnly id still
    refine ⟨?_, open_⟩
    intro other claimed
    rcases Directory.has_write.mp claimed with same | claimed
    · exact apart (Prod.mk.inj same).1
    · exact free other claimed
  · intro id other
    rw [occurs_append, moves]
    rintro (old | new)
    · obtain ⟨gone, on⟩ := movedOn id other old
      refine ⟨fun still => gone (Directory.has_remove.mp still).2, ?_⟩
      rcases on with claimed | completed
      · exact .inl (Directory.has_write.mpr (.inr claimed))
      · exact .inr completed
    · cases new
      exact ⟨fun still => (Directory.has_remove.mp still).1 rfl, .inl (Directory.has_write.mpr (.inl rfl))⟩
  · intro id other other'
    rw [occurs_append, occurs_append, moves]
    rintro (old | new) (old' | new')
    · exact movedOnce id other other' old old'
    · cases new'
      exact (unmoved other old).elim
    · cases new
      exact (unmoved other' old').elim
    · cases new
      cases new'
      rfl
  · intro file claimed
    rw [occurs_append, moves]
    rcases Directory.has_write.mp claimed with rfl | claimed
    · exact .inr rfl
    · exact .inl (claimedMoved file claimed)
  · intro claim result old
    rw [occurs_append_none owns] at old
    exact occurs_append.mpr (.inl (ownedMoved claim result old))
  · simpa only [occurs_append_none owns]
  · simpa only [occurs_append_none replaces]
  · simpa only [occurs_append_none owns]
  · exact publishedCompleted
  · intro id other claimed completed
    rcases Directory.has_write.mp claimed with same | claimed
    · cases same
      exact (incomplete completed).elim
    · exact both id other claimed completed
  · apply claimedOnce_append claims
    rw [moves]
    rintro file new other old
    cases new
    exact unmoved other old
  · exact resultsKept_append results (by simp [replaces])

theorem mem_replaced {before after : List (Holding P)} {old new holding : Holding P}
    (mem : holding ∈ before ++ new :: after) : holding = new ∨ holding ∈ before ++ old :: after := by
  rcases List.mem_append.mp mem with left | right
  · exact .inr (List.mem_append_left _ left)
  · rcases List.mem_cons.mp right with same | right
    · exact .inl same
    · exact .inr (List.mem_append_right _ (List.mem_cons_of_mem _ right))

theorem mem_of_ne {before after : List (Holding P)} {old new holding : Holding P}
    (mem : holding ∈ before ++ old :: after) (ne : holding ≠ old) :
    holding ∈ before ++ new :: after := by
  rcases mem_replaced mem with same | kept
  · exact (ne same).elim
  · exact kept

variable {before after : List (Holding P)} {claim : ClaimedMessage P} {result : P}

theorem Delivered.owned (delivered : Delivered codec past files (before ++ .idle :: after))
    (event : step.event = ⟨.owns claim result, .ok true⟩) (held : files.claimed.Has claim.file) :
    Delivered codec (past ++ [step]) files (before ++ .owned claim result :: after) := by
  rcases delivered with ⟨somewhere, pendingOnly, movedOn, movedOnce, claimedMoved, ownedMoved,
    completedOwned, replacedKept, underWay, publishedCompleted, both, claims, results⟩
  have links : FileQueue.linked step.event = none := by rw [event]; rfl
  have moves : FileQueue.moved step.event = none := by rw [event]; rfl
  have owns : FileQueue.owned step.event = some (claim, result) := by rw [event]; rfl
  have replaces : replaced step.event = none := by rw [event]; rfl
  constructor
  · simpa only [occurs_append_none links]
  · exact pendingOnly
  · simpa only [occurs_append_none moves]
  · simpa only [occurs_append_none moves]
  · simpa only [occurs_append_none moves]
  · intro other result'
    rw [occurs_append_none moves, occurs_append, owns]
    rintro (old | new)
    · exact ownedMoved other result' old
    · cases new
      exact claimedMoved claim.file held
  · intro id content found
    obtain ⟨other, result', old, same, dumped⟩ := completedOwned id content found
    exact ⟨other, result', occurs_append.mpr (.inl old), same, dumped⟩
  · simpa only [occurs_append_none replaces]
  · intro other result' mem
    rw [occurs_append, owns]
    rcases mem with mem | mem
    · rcases mem_replaced mem with new | old
      · cases new
        exact .inr rfl
      · exact .inl (underWay other result' (.inl old))
    · rcases mem_replaced mem with new | old
      · cases new
      · exact .inl (underWay other result' (.inr old))
  · intro other result' mem
    rcases mem_replaced mem with new | old
    · cases new
    · exact publishedCompleted other result' old
  · intro id unique claimed completed
    obtain ⟨other, result', mem, same⟩ := both id unique claimed completed
    exact ⟨other, result', mem_of_ne mem nofun, same⟩
  · exact claimedOnce_append claims (by simp [moves])
  · exact resultsKept_append results (by simp [replaces])

theorem Delivered.replaced {content : String}
    (delivered : Delivered codec past files (before ++ .owned claim result :: after))
    (event : step.event = ⟨.replaceCompleted claim.messageId content, .ok ()⟩)
    (orderly : Orderly (past ++ [step])) (dumped : codec.dumps result = .ok content) :
    Delivered codec (past ++ [step])
      { files with completed := files.completed.write claim.messageId content }
      (before ++ .published claim result :: after) := by
  rcases delivered with ⟨somewhere, pendingOnly, movedOn, movedOnce, claimedMoved, ownedMoved,
    completedOwned, replacedKept, underWay, publishedCompleted, both, claims, results⟩
  have links : FileQueue.linked step.event = none := by rw [event]; rfl
  have moves : FileQueue.moved step.event = none := by rw [event]; rfl
  have owns : FileQueue.owned step.event = none := by rw [event]; rfl
  have replaces : FileQueue.replaced step.event = some (claim.messageId, content) := by rw [event]; rfl
  have checked : Occurs past FileQueue.owned (claim, result) := underWay claim result (.inl (by simp))
  have taken := ownedMoved claim result checked
  -- A result that is there already comes from this claim, and so is the same.
  have known : ∀ old, files.completed.lookup claim.messageId = some old → old = content := by
    intro old found
    obtain ⟨other, result', checked', same, dumped'⟩ := completedOwned _ old found
    have taken' := ownedMoved other result' checked'
    have file : other.file = claim.file := by
      have unique := movedOnce claim.messageId other.unique claim.unique
        (by rw [← same]; exact taken') taken
      exact Prod.ext same unique
    have one := orderly.single other result' claim result (occurs_append.mpr (.inl checked'))
      (occurs_append.mpr (.inl checked)) file
    rw [one, dumped] at dumped'
    cases dumped'
    rfl
  constructor
  · intro id
    rw [occurs_append_none links]
    intro old
    rcases somewhere id old with pending | claimed | completed
    · exact .inl pending
    · exact .inr (.inl claimed)
    · exact .inr (.inr (Directory.has_write.mpr (.inr completed)))
  · intro id pending
    obtain ⟨free, open_⟩ := pendingOnly id pending
    refine ⟨free, ?_⟩
    intro completed
    rcases Directory.has_write.mp completed with rfl | completed
    · exact (movedOn _ _ taken).1 pending
    · exact open_ completed
  · intro id unique
    rw [occurs_append_none moves]
    intro old
    obtain ⟨gone, on⟩ := movedOn id unique old
    refine ⟨gone, ?_⟩
    rcases on with claimed | completed
    · exact .inl claimed
    · exact .inr (Directory.has_write.mpr (.inr completed))
  · simpa only [occurs_append_none moves]
  · simpa only [occurs_append_none moves]
  · simpa only [occurs_append_none moves, occurs_append_none owns]
  · intro id content' found
    simp only [occurs_append_none owns]
    rw [Directory.lookup_write] at found
    split at found
    · next same =>
        cases found
        exact ⟨claim, result, checked, same.symm, dumped⟩
    · exact completedOwned id content' found
  · intro id content' occurs
    rw [Directory.lookup_write]
    rcases occurs_append.mp occurs with old | new
    · have found := replacedKept id content' old
      split
      · next same =>
          subst same
          rw [known content' found]
      · exact found
    · rw [replaces] at new
      cases new
      exact if_pos rfl
  · intro other result' mem
    rw [occurs_append_none owns]
    rcases mem with mem | mem
    · rcases mem_replaced mem with new | old
      · cases new
      · exact underWay other result' (.inl old)
    · rcases mem_replaced mem with new | old
      · cases new
        exact checked
      · exact underWay other result' (.inr old)
  · intro other result' mem
    rcases mem_replaced mem with new | old
    · cases new
      exact Directory.has_write.mpr (.inl rfl)
    · exact Directory.has_write.mpr (.inr (publishedCompleted other result' old))
  · intro id unique claimed completed
    rcases Directory.has_write.mp completed with rfl | completed
    · exact ⟨claim, result, by simp, rfl⟩
    · obtain ⟨other, result', mem, same⟩ := both id unique claimed completed
      exact ⟨other, result', mem_of_ne mem nofun, same⟩
  · exact claimedOnce_append claims (by simp [moves])
  · apply resultsKept_append results
    rw [replaces]
    rintro _ new old occurs
    cases new
    exact known old (replacedKept _ _ occurs)

theorem Delivered.unlinked {outcome : Except Failure Unit}
    (delivered : Delivered codec past files (before ++ .published claim result :: after))
    (event : step.event = ⟨.unlinkClaimed claim.file, outcome⟩) :
    Delivered codec (past ++ [step]) { files with claimed := files.claimed.remove claim.file }
      (before ++ .idle :: after) := by
  rcases delivered with ⟨somewhere, pendingOnly, movedOn, movedOnce, claimedMoved, ownedMoved,
    completedOwned, replacedKept, underWay, publishedCompleted, both, claims, results⟩
  have links : FileQueue.linked step.event = none := by rw [event]; rfl
  have moves : FileQueue.moved step.event = none := by rw [event]; rfl
  have owns : FileQueue.owned step.event = none := by rw [event]; rfl
  have replaces : FileQueue.replaced step.event = none := by rw [event]; rfl
  have completed := publishedCompleted claim result (by simp)
  have taken := ownedMoved claim result (underWay claim result (.inr (by simp)))
  constructor
  · intro id
    rw [occurs_append_none links]
    intro old
    rcases somewhere id old with pending | ⟨unique, claimed⟩ | there
    · exact .inl pending
    · by_cases same : (id, unique) = claim.file
      · obtain ⟨rfl, -⟩ := Prod.mk.inj same
        exact .inr (.inr completed)
      · exact .inr (.inl ⟨unique, Directory.has_remove.mpr ⟨same, claimed⟩⟩)
    · exact .inr (.inr there)
  · intro id pending
    obtain ⟨free, open_⟩ := pendingOnly id pending
    exact ⟨fun unique claimed => free unique (Directory.has_remove.mp claimed).2, open_⟩
  · intro id unique
    rw [occurs_append_none moves]
    intro old
    obtain ⟨gone, on⟩ := movedOn id unique old
    refine ⟨gone, ?_⟩
    rcases on with claimed | there
    · by_cases same : (id, unique) = claim.file
      · obtain ⟨rfl, -⟩ := Prod.mk.inj same
        exact .inr completed
      · exact .inl (Directory.has_remove.mpr ⟨same, claimed⟩)
    · exact .inr there
  · simpa only [occurs_append_none moves]
  · intro file claimed
    rw [occurs_append_none moves]
    exact claimedMoved file (Directory.has_remove.mp claimed).2
  · simpa only [occurs_append_none moves, occurs_append_none owns]
  · simpa only [occurs_append_none owns]
  · simpa only [occurs_append_none replaces]
  · intro other result' mem
    rw [occurs_append_none owns]
    apply underWay
    rcases mem with mem | mem
    · rcases mem_replaced mem with new | old
      · cases new
      · exact .inl old
    · rcases mem_replaced mem with new | old
      · cases new
      · exact .inr old
  · intro other result' mem
    rcases mem_replaced mem with new | old
    · cases new
    · exact publishedCompleted other result' old
  · intro id unique claimed there
    obtain ⟨apart, claimed⟩ := Directory.has_remove.mp claimed
    obtain ⟨other, result', mem, same⟩ := both id unique claimed there
    refine ⟨other, result', mem_of_ne mem ?_, same⟩
    -- Another claimed file of the message would have been claimed a second time.
    intro own
    cases own
    apply apart
    rw [← same]
    exact congrArg _ (movedOnce claim.messageId unique claim.unique
      (by rw [same]; exact claimedMoved _ claimed) taken)
  · exact claimedOnce_append claims (by simp [moves])
  · exact resultsKept_append results (by simp [replaces])

/-- A quiet operation leaves how far a completion has come. -/
theorem move_quiet {e : Event (fileSystem P directory).calls} (quiet : Quiet e) (holding : Holding P) :
    holding.move (Event.left e : Event (QueueSig P directory)) = holding := by
  rcases e with ⟨method, answer⟩
  cases method with
  | owns claim result =>
      rcases answer with failure | checked
      · cases holding <;> rfl
      · cases checked with
        | true => cases quiet.owned
        | false => cases holding <;> rfl
  | replaceCompleted messageId content =>
      cases answer with
      | error => cases holding <;> rfl
      | ok => cases quiet.replaced
  | unlinkClaimed file => cases quiet.unlinks
  | _ => cases holding <;> rfl

theorem delivered_call (past : List (fileSystem P directory).Step) (step : (fileSystem P directory).Step)
    (before : List (Holding P)) (holding : Holding P) (after : List (Holding P))
    (orderly : Orderly (past ++ [step])) (allowed : holding.Allows codec (Event.left step.event))
    (delivered : Delivered codec past step.before (before ++ holding :: after)) :
    Delivered codec (past ++ [step]) step.after
      (before ++ holding.move (Event.left step.event : Event (QueueSig P directory)) :: after) := by
  have does := effect step
  have fresh := orderly.fresh step (by simp)
  generalize isEvent : step.event = e at allowed does fresh ⊢
  generalize step.before = files at delivered does fresh
  generalize step.after = files' at does ⊢
  cases does with
  | quiet quiet same =>
      rw [move_quiet quiet]
      rw [← isEvent] at quiet
      exact delivered.quiet quiet same
  | linked absent =>
      obtain ⟨unclaimed, incomplete⟩ := fresh _ rfl
      have moved := delivered.linked isEvent unclaimed incomplete
      cases holding <;> exact moved
  | moved found =>
      have moved := delivered.moved isEvent found
      cases holding <;> exact moved
  | owned own held =>
      obtain rfl : holding = .idle := allowed
      exact delivered.owned isEvent held
  | replaced messageId content =>
      obtain ⟨claim, result, rfl, rfl, dumped⟩ := allowed
      exact delivered.replaced isEvent orderly dumped
  | unlinked file outcome =>
      obtain ⟨claim, result, rfl, rfl⟩ := allowed
      exact delivered.unlinked isEvent

/-- The completions under way are the same, up to those that hold nothing. -/
theorem Delivered.regroup {holdings' : List (Holding P)}
    (delivered : Delivered codec past files holdings)
    (kept : ∀ claim result, .owned claim result ∈ holdings' ∨ .published claim result ∈ holdings' →
      .owned claim result ∈ holdings ∨ .published claim result ∈ holdings)
    (same : ∀ claim result, .published claim result ∈ holdings' ↔
      .published claim result ∈ holdings) : Delivered codec past files holdings' := by
  rcases delivered with ⟨somewhere, pendingOnly, movedOn, movedOnce, claimedMoved, ownedMoved,
    completedOwned, replacedKept, underWay, publishedCompleted, both, claims, results⟩
  refine ⟨somewhere, pendingOnly, movedOn, movedOnce, claimedMoved, ownedMoved, completedOwned,
    replacedKept, ?_, ?_, ?_, claims, results⟩
  · exact fun claim result mem => underWay claim result (kept claim result mem)
  · exact fun claim result mem => publishedCompleted claim result ((same claim result).mp mem)
  · intro id unique claimed completed
    obtain ⟨claim, result, mem, isOf⟩ := both id unique claimed completed
    exact ⟨claim, result, (same claim result).mpr mem, isOf⟩

theorem not_occurs_nil : ¬ Occurs ([] : List (fileSystem P directory).Step) event a := by
  rintro ⟨step, mem, -⟩
  exact List.not_mem_nil mem

theorem Delivered.empty :
    Delivered codec ([] : List (fileSystem P directory).Step) {} [] := by
  have none : ∀ {κ : Type} [DecidableEq κ] (name : κ), ¬ Directory.Has ([] : Directory κ String) name :=
    fun _ => Bool.false_ne_true
  constructor
  · exact fun _ occurs => (not_occurs_nil occurs).elim
  · exact fun _ has => (none _ has).elim
  · exact fun _ _ occurs => (not_occurs_nil occurs).elim
  · exact fun _ _ _ occurs => (not_occurs_nil occurs).elim
  · exact fun _ has => (none _ has).elim
  · exact fun _ _ occurs => (not_occurs_nil occurs).elim
  · exact fun _ _ found => nomatch found
  · exact fun _ _ occurs => (not_occurs_nil occurs).elim
  · intro claim result mem
    simp at mem
  · intro claim result mem
    simp at mem
  · exact fun _ _ has => (none _ has).elim
  · exact .nil
  · exact .nil

theorem Orderly.shorter {steps later : List (fileSystem P directory).Step}
    (orderly : Orderly (steps ++ later)) : Orderly steps where
  fresh step mem := orderly.fresh step (List.mem_append_left _ mem)
  single claim result claim' result' := by
    rintro ⟨step, mem, occurs⟩ ⟨step', mem', occurs'⟩
    exact orderly.single claim result claim' result' ⟨step, List.mem_append_left _ mem, occurs⟩
      ⟨step', List.mem_append_left _ mem', occurs'⟩

/-! ## Every interleaving -/

/-- The programs of publishers and workers. -/
def IsTask (codec : Codec P) (directory : String)
    (p : Prog (QueueSig P directory) (Except Failure (Reply P) × Unit)) : Prop :=
  ∃ task : Task P, p = task.program codec

abbrev InFlight (P : Type) (directory : String) : Type :=
  Component.Client (fileSystem P directory) WorldSig (Except Failure (Reply P) × Unit)

/-- Publishers and workers side by side on a new queue. -/
abbrev Works (codec : Codec P) (steps : List (fileSystem P directory).Step) (files : Files)
    (inFlight : List (InFlight P directory)) : Prop :=
  Component.Interleaved (IsTask codec directory) {} [] steps files inFlight

theorem works_delivered {steps : List (fileSystem P directory).Step}
    {inFlight : List (InFlight P directory)} (works : Works codec steps files inFlight)
    (orderly : Orderly steps) :
    Delivered codec steps files
      (inFlight.map (Component.Interleaved.Client.holding (protocol codec directory))) := by
  have run := works.history (protocol codec directory) Holding.Ended Orderly (Delivered codec)
    ?_ ?_ delivered_call ?_ ?_ ?_ [] orderly (by simp) ?_
  · exact run
  · exact fun _ _ whole => whole.shorter
  · intro past files holdings delivered
    apply delivered.regroup
    · intro claim result mem
      simpa [protocol] using mem
    · intro claim result
      simp [protocol]
  · intro past files before holding after e _ delivered
    cases holding <;> exact delivered
  · intro past files before holding after ended delivered
    apply delivered.regroup
    · intro claim result mem
      simp only [List.mem_append, List.mem_cons] at mem ⊢
      tauto
    · intro claim result
      have other : Holding.published claim result ≠ holding := by
        rintro rfl
        exact ended
      simp [other]
  · rintro _ ⟨task, rfl⟩
    exact task_follows task
  · exact .empty

/-- How far the completion of a client in flight has come. -/
def holdingOf (codec : Codec P) (client : InFlight P directory) : Holding P :=
  Component.Interleaved.Client.holding (protocol codec directory) client

/-- The message is in exactly one of the directories, and there once. -/
def InOnePlace (files : Files) (messageId : String) : Prop :=
  (files.pending.Has messageId ∧ (∀ unique, ¬ files.claimed.Has (messageId, unique)) ∧
      ¬ files.completed.Has messageId) ∨
    (¬ files.pending.Has messageId ∧ (∃! unique, files.claimed.Has (messageId, unique)) ∧
      ¬ files.completed.Has messageId) ∨
    (¬ files.pending.Has messageId ∧ (∀ unique, ¬ files.claimed.Has (messageId, unique)) ∧
      files.completed.Has messageId)

theorem Delivered.inOnePlace (delivered : Delivered codec past files holdings) {messageId : String}
    (published : Occurs past FileQueue.linked messageId)
    (settled : ∀ claim result, .published claim result ∈ holdings → claim.messageId ≠ messageId) :
    InOnePlace files messageId := by
  have apart : ∀ unique, files.claimed.Has (messageId, unique) → ¬ files.completed.Has messageId := by
    intro unique claimed completed
    obtain ⟨claim, result, mem, same⟩ := delivered.both messageId unique claimed completed
    exact settled claim result mem same
  rcases delivered.somewhere messageId published with pending | ⟨unique, claimed⟩ | completed
  · exact .inl ⟨pending, delivered.pendingOnly messageId pending⟩
  · have taken := delivered.claimedMoved _ claimed
    refine .inr (.inl ⟨(delivered.movedOn _ _ taken).1, ⟨unique, claimed, ?_⟩, apart unique claimed⟩)
    intro other claimed'
    exact delivered.movedOnce _ _ _ (delivered.claimedMoved _ claimed') taken
  · refine .inr (.inr ⟨?_, fun unique claimed => apart unique claimed completed, completed⟩)
    intro pending
    exact (delivered.pendingOnly messageId pending).2 completed

/-- In every orderly interleaving no message is claimed twice, each published one is
in exactly one place unless its completion is just publishing, and a result that was
published stays. -/
theorem queue_delivery (codec : Codec P) {steps : List (fileSystem P directory).Step} {files : Files}
    {inFlight : List (InFlight P directory)} (works : Works codec steps files inFlight)
    (orderly : Orderly steps) :
    ClaimedOnce steps ∧
    (∀ messageId, Occurs steps linked messageId → InOnePlace files messageId ∨
      ∃ client ∈ inFlight, ∃ claim result, holdingOf codec client = .published claim result ∧
        claim.messageId = messageId) ∧
    (inFlight = [] → ∀ messageId, Occurs steps linked messageId → InOnePlace files messageId) ∧
    ResultsKept steps ∧
    ∀ messageId content, Occurs steps replaced (messageId, content) →
      files.completed.lookup messageId = some content := by
  have delivered := works_delivered works orderly
  refine ⟨delivered.claims, ?_, ?_, delivered.results, delivered.replacedKept⟩
  · intro messageId published
    by_cases publishing : ∃ client ∈ inFlight, ∃ claim result,
        holdingOf codec client = .published claim result ∧ claim.messageId = messageId
    · exact .inr publishing
    · refine .inl (delivered.inOnePlace published ?_)
      rintro claim result mem same
      obtain ⟨client, inFlight, holds⟩ := List.mem_map.mp mem
      exact publishing ⟨client, inFlight, claim, result, holds, same⟩
  · rintro rfl messageId published
    exact delivered.inOnePlace published (by simp)

/-! ## Concrete queues -/

/-- Texts as payloads. -/
def textCodec : Codec String where
  dumps text := .ok text
  loads := some

/-- A file system that asks nothing, and numbered identifiers. -/
def exampleFiles : Script NoSig Nat := fun _ call => call.elim

def exampleWorld : Script WorldSig Nat
  | n, .uuid => (toString n, n + 1)
  | n, .writeTemporary _ => (.ok (), n)

/-- A claim of the message `m`. -/
def exampleClaim (unique payload : String) : ClaimedMessage String :=
  ⟨"queue/claimed", "m", unique, payload⟩

/-- A property of the operations of some tasks, one task after the other. -/
theorem exists_works (tasks : List (Task String))
    (Q : List (fileSystem String "queue/claimed").Step → Bool)
    (checked : (Component.playClients (fileSystem String "queue/claimed") exampleFiles exampleWorld
      (tasks.map (Task.program textCodec)) {} 0).any (fun out => Q out.1) = true) :
    ∃ (steps : List (fileSystem String "queue/claimed").Step) (files : Files),
      Works textCodec steps files [] ∧ Q steps = true := by
  have admitted : ∀ p ∈ tasks.map (Task.program textCodec), IsTask textCodec "queue/claimed" p := by
    intro p mem
    obtain ⟨task, -, rfl⟩ := List.mem_map.mp mem
    exact ⟨task, rfl⟩
  exact Component.exists_interleaved exampleFiles exampleWorld admitted {} 0 (fun steps _ => Q steps)
    checked

theorem queue_delivery_once : ∃ (steps : List (fileSystem String "queue/claimed").Step) (files : Files),
    Works textCodec steps files [] ∧ InOnePlace files "m" ∧ files.completed.lookup "m" = some "done" := by
  obtain ⟨steps, files, works, checked⟩ := exists_works
    [.publish "first" (some "m"), .claim, .complete (exampleClaim "0" "first") "done"]
    (fun steps =>
      decide (steps.filterMap (fun step => owned step.event) = [(exampleClaim "0" "first", "done")]) &&
      decide (steps.filterMap (fun step => replaced step.event) = [("m", "done")]) &&
      decide (steps.filterMap (fun step => (linked step.event).map fun messageId =>
        (messageId, step.before.claimed, step.before.completed)) = [("m", [], [])]))
    (by decide +kernel)
  obtain ⟨⟨owns, replaces⟩, links⟩ : (_ ∧ _) ∧ _ := by simpa using checked
  have found : ∀ {β : Type} {f : Event (fileSystem String "queue/claimed").calls → Option β} {b : β},
      Occurs steps f b ↔ b ∈ steps.filterMap fun step => f step.event := by
    intro β f b
    simp [Occurs, List.mem_filterMap]
  have orderly : Orderly steps := by
    constructor
    · intro step mem messageId isLink
      have entry : (messageId, step.before.claimed, step.before.completed) ∈
          steps.filterMap (fun step => (linked step.event).map fun messageId =>
            (messageId, step.before.claimed, step.before.completed)) :=
        List.mem_filterMap.mpr ⟨step, mem, by rw [isLink]; rfl⟩
      rw [links, List.mem_singleton] at entry
      obtain ⟨-, rest⟩ := Prod.mk.inj entry
      obtain ⟨claimed, completed⟩ := Prod.mk.inj rest
      rw [claimed, completed]
      exact ⟨fun _ => Bool.false_ne_true, Bool.false_ne_true⟩
    · intro claim result claim' result' first second _
      rw [found, owns, List.mem_singleton] at first second
      cases first
      cases second
      rfl
  have delivery := queue_delivery textCodec works orderly
  refine ⟨steps, files, works, delivery.2.2.1 rfl "m" ?_, delivery.2.2.2.2 "m" "done" ?_⟩
  · obtain ⟨step, mem, entry⟩ := List.mem_filterMap.mp (links ▸ List.mem_singleton_self _ :
      ("m", [], []) ∈ steps.filterMap (fun step => (linked step.event).map fun messageId =>
        (messageId, step.before.claimed, step.before.completed)))
    obtain ⟨messageId, isLink, same⟩ := Option.map_eq_some_iff.mp entry
    cases (Prod.mk.inj same).1
    exact ⟨step, mem, isLink⟩
  · rw [found, replaces]
    exact List.mem_singleton_self _

/-- An identifier that is published again once its message was claimed: the result
of the second message replaces that of the first. -/
theorem result_replaced : ∃ (steps : List (fileSystem String "queue/claimed").Step) (files : Files),
    Works textCodec steps files [] ∧ ¬ ResultsKept steps := by
  obtain ⟨steps, files, works, checked⟩ := exists_works
    [.publish "first" (some "m"), .claim, .publish "second" (some "m"), .claim,
      .complete (exampleClaim "0" "first") "one", .complete (exampleClaim "1" "second") "two"]
    (fun steps => decide (steps.filterMap (fun step => replaced step.event) =
      [("m", "one"), ("m", "two")])) (by decide +kernel)
  refine ⟨steps, files, works, ?_⟩
  intro kept
  have pairs : (steps.filterMap fun step => replaced step.event).Pairwise fun a b =>
      a.1 = b.1 → a.2 = b.2 :=
    List.pairwise_filterMap.mpr (kept.imp fun same a first b second => same a b first second)
  rw [of_decide_eq_true checked] at pairs
  simp at pairs

end Dingdongditch.FileQueue
