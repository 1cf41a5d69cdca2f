import Dingdongditch.Continuity.Tidy

/-!
# Programs that extend a ledger

`Extends header answered law entries m` says that `m`, started on the directory
of the ledger `entries`, writes only entries that `law` allows where they stand,
whether it comes to its end, raises, or is cut short between two of its writes.
There is one rule for each way to build a program; `Commits` is the rule for the
programs that make a single write.
-/

namespace Dingdongditch.Continuity

open Interaction Text Store

variable {F : Type}

/-- The identity of a session never changes in its owner. -/
def Owned (header : SessionHeader F) (s : ContinuitySession F) : Prop :=
  s.header.sessionId = header.sessionId ∧ s.header.schemaVersion = header.schemaVersion

/-- A program that extends the ledger `entries` by what `law` allows, as long as
`answered` holds of what the environment answers.  The part `t` of a run that
took place is followed by `later`; the state counts when nothing is left. -/
def Extends {α : Type} (header : SessionHeader F) (answered : Event (ContinuitySig F) → Prop)
    (law : List (Entry F) → Entry F → Prop) (entries : List (Entry F)) (m : Journaling F α) : Prop :=
  ∀ s t later r s', s.disk = diskOf header entries → Owned header s →
    Act.Runs m s (t ++ later) r s' → (∀ event ∈ t, answered event) →
      ∃ more, landed t = more.map Entry.write ∧ Follows law entries more ∧
        (later = [] → s'.disk = diskOf header (entries ++ more) ∧ Owned header s')

theorem landed_append (t u : Trace (ContinuitySig F)) : landed (t ++ u) = landed t ++ landed u :=
  List.filterMap_append

section Rules

variable {header : SessionHeader F} {answered : Event (ContinuitySig F) → Prop}
  {law : List (Entry F) → Entry F → Prop} {entries : List (Entry F)} {α β : Type}

/-- A program that neither asks nor changes anything that counts. -/
theorem Extends.of_silent {m : Journaling F α}
    (silent : ∀ s t r s', Act.Runs m s t r s' → Owned header s →
      t = [] ∧ s'.disk = s.disk ∧ Owned header s') : Extends header answered law entries m := by
  intro s t later r s' isDisk owned run holds
  obtain ⟨none, kept, owned'⟩ := silent s _ r s' run owned
  obtain ⟨rfl, rfl⟩ := List.append_eq_nil_iff.mp none
  refine ⟨[], rfl, trivial, fun _ => ⟨?_, owned'⟩⟩
  rw [kept, isDisk, List.append_nil]

theorem extends_pure (a : α) : Extends header answered law entries (pure a : Journaling F α) := by
  refine .of_silent fun s t r s' run owned => ?_
  obtain ⟨rfl, rfl, rfl⟩ := Act.runs_pure.mp run
  exact ⟨rfl, rfl, owned⟩

theorem extends_throw (e : PyException) :
    Extends header answered law entries (throw e : Journaling F α) := by
  refine .of_silent fun s t r s' run owned => ?_
  obtain ⟨rfl, rfl, rfl⟩ := Act.runs_throw.mp run
  exact ⟨rfl, rfl, owned⟩

theorem extends_modify (f : ContinuitySession F → ContinuitySession F)
    (keeps : ∀ s, Owned header s → (f s).disk = s.disk ∧ Owned header (f s)) :
    Extends header answered law entries (modify f : Journaling F PUnit) := by
  refine .of_silent fun s t r s' run owned => ?_
  obtain ⟨rfl, -, rfl⟩ := Act.runs_modifyGet.mp run
  obtain ⟨kept, owned'⟩ := keeps s owned
  exact ⟨rfl, kept, owned'⟩

theorem Extends.modify_bind {f : ContinuitySession F → ContinuitySession F}
    {g : PUnit → Journaling F β}
    (keeps : ∀ s, Owned header s → (f s).disk = s.disk ∧ Owned header (f s))
    (second : Extends header answered law entries (g ())) :
    Extends header answered law entries (modify f >>= g) := by
  intro s t later r s' isDisk owned run holds
  obtain ⟨kept, owned'⟩ := keeps s owned
  exact second (f s) t later r s' (kept.trans isDisk) owned' (Act.Runs.modify_bind_inv run) holds

theorem Extends.get_bind {f : ContinuitySession F → Journaling F β}
    (second : ∀ s, s.disk = diskOf header entries → Owned header s →
      Extends header answered law entries (f s)) :
    Extends header answered law entries (get >>= f) :=
  fun s t later r s' isDisk owned run holds =>
    second s isDisk owned s t later r s' isDisk owned (Act.Runs.get_bind_inv run) holds

theorem Extends.ofExcept_bind {x : Except PyException α} {f : α → Journaling F β}
    (second : ∀ a, x = .ok a → Extends header answered law entries (f a)) :
    Extends header answered law entries (Act.ofExcept x >>= f) := by
  cases x with
  | ok a => exact second a rfl
  | error e => exact extends_throw e

theorem Extends.ask_bind {c : (ContinuitySig F).Call} {f : (ContinuitySig F).Answer c → Journaling F β}
    (quiet : ∀ answer, landed [⟨c, answer⟩] = [])
    (second : ∀ answer, answered ⟨c, answer⟩ → Extends header answered law entries (f answer)) :
    Extends header answered law entries (Act.ask c >>= f) := by
  intro s t later r s' isDisk owned run holds
  obtain ⟨answer, rest, split, after⟩ := run.ask_bind_inv
  cases t with
  | nil =>
      refine ⟨[], rfl, trivial, ?_⟩
      rintro rfl
      cases split
  | cons event t =>
      obtain ⟨rfl, rfl⟩ := List.cons.inj split
      obtain ⟨here, holds'⟩ := List.forall_mem_cons.mp holds
      obtain ⟨more, wrote, follows, final⟩ := second answer here s t later r s' isDisk owned after holds'
      refine ⟨more, ?_, follows, final⟩
      have split : landed (⟨c, answer⟩ :: t) = landed [⟨c, answer⟩] ++ landed t :=
        landed_append [⟨c, answer⟩] t
      rw [split, quiet answer, wrote, List.nil_append]

/-- One program after another, along a run that may be cut within either: what a
part of the first may write, and the ledger that the whole of it leaves. -/
theorem extends_seq {g : Journaling F β} {s₁ s' : ContinuitySession F}
    {t later before after : Trace (ContinuitySig F)} {r : Except PyException β}
    (part : ∀ t gap, before = t ++ gap → (∀ event ∈ t, answered event) →
      ∃ more, landed t = more.map Entry.write ∧ Follows law entries more)
    (whole : (∀ event ∈ before, answered event) →
      ∃ more, landed before = more.map Entry.write ∧ Follows law entries more ∧
        s₁.disk = diskOf header (entries ++ more) ∧ Owned header s₁ ∧
        Extends header answered law (entries ++ more) g)
    (split : t ++ later = before ++ after) (rest : Act.Runs g s₁ after r s')
    (holds : ∀ event ∈ t, answered event) :
    ∃ more, landed t = more.map Entry.write ∧ Follows law entries more ∧
      (later = [] → s'.disk = diskOf header (entries ++ more) ∧ Owned header s') := by
  have passed {gap : Trace (ContinuitySig F)} (isTrace : t = before ++ gap)
      (isRest : after = gap ++ later) :
      ∃ more, landed t = more.map Entry.write ∧ Follows law entries more ∧
        (later = [] → s'.disk = diskOf header (entries ++ more) ∧ Owned header s') := by
    subst isTrace isRest
    obtain ⟨holds₁, holds₂⟩ := List.forall_mem_append.mp holds
    obtain ⟨more, wrote, follows, isDisk₁, owned₁, second⟩ := whole holds₁
    obtain ⟨more', wrote', follows', final'⟩ := second s₁ gap later r s' isDisk₁ owned₁ rest holds₂
    refine ⟨more ++ more', ?_, follows_append.mpr ⟨follows, follows'⟩, ?_⟩
    · rw [landed_append, wrote, wrote', List.map_append]
    · rw [← List.append_assoc]
      exact final'
  rcases List.append_eq_append_iff.mp split with ⟨gap, isBefore, isLater⟩ | ⟨gap, isTrace, isRest⟩
  · by_cases none : later = []
    · subst none
      obtain ⟨rfl, rfl⟩ := List.append_eq_nil_iff.mp isLater.symm
      have isWhole : t = before ++ [] := by rw [isBefore, List.append_nil, List.append_nil]
      exact passed isWhole rfl
    · obtain ⟨more, wrote, follows⟩ := part t gap isBefore holds
      exact ⟨more, wrote, follows, fun absurdly => absurd absurdly none⟩
  · exact passed isTrace isRest

theorem Extends.part {m : Journaling F α} (keeps : Extends header answered law entries m)
    {s s' : ContinuitySession F} {before : Trace (ContinuitySig F)} {r : Except PyException α}
    (isDisk : s.disk = diskOf header entries) (owned : Owned header s)
    (ran : Act.Runs m s before r s') (t gap : Trace (ContinuitySig F)) (split : before = t ++ gap)
    (holds : ∀ event ∈ t, answered event) :
    ∃ more, landed t = more.map Entry.write ∧ Follows law entries more := by
  subst split
  obtain ⟨more, wrote, follows, -⟩ := keeps s t gap r s' isDisk owned ran holds
  exact ⟨more, wrote, follows⟩

theorem Extends.whole {m : Journaling F α} {g : Journaling F β}
    (first : Extends header answered law entries m)
    (second : ∀ more, Follows law entries more → Extends header answered law (entries ++ more) g)
    {s s₁ : ContinuitySession F} {before : Trace (ContinuitySig F)} {r : Except PyException α}
    (isDisk : s.disk = diskOf header entries) (owned : Owned header s)
    (ran : Act.Runs m s before r s₁) (holds : ∀ event ∈ before, answered event) :
    ∃ more, landed before = more.map Entry.write ∧ Follows law entries more ∧
      s₁.disk = diskOf header (entries ++ more) ∧ Owned header s₁ ∧
      Extends header answered law (entries ++ more) g := by
  rw [← List.append_nil before] at ran
  obtain ⟨more, wrote, follows, final⟩ := first s before [] r s₁ isDisk owned ran holds
  obtain ⟨isDisk₁, owned₁⟩ := final rfl
  exact ⟨more, wrote, follows, isDisk₁, owned₁, second more follows⟩

theorem Extends.bind {m : Journaling F α} {f : α → Journaling F β}
    (first : Extends header answered law entries m)
    (second : ∀ a more, Follows law entries more → Extends header answered law (entries ++ more) (f a)) :
    Extends header answered law entries (m >>= f) := by
  intro s t later r s' isDisk owned run holds
  rcases run.bind_inv with ⟨e, rfl, failed⟩ | ⟨before, a, s₁, after, split, ran, rest⟩
  · exact first s t later _ s' isDisk owned failed holds
  · exact extends_seq (first.part isDisk owned ran) (first.whole (second a) isDisk owned ran) split rest holds

theorem Extends.tryCatch {m : Journaling F α} {handler : PyException → Journaling F α}
    (first : Extends header answered law entries m)
    (second : ∀ e more, Follows law entries more →
      Extends header answered law (entries ++ more) (handler e)) :
    Extends header answered law entries (tryCatch m handler) := by
  intro s t later r s' isDisk owned run holds
  rcases Act.runs_tryCatch.mp run with ⟨a, rfl, ran⟩ | ⟨before, e, s₁, after, split, ran, rest⟩
  · exact first s t later _ s' isDisk owned ran holds
  · exact extends_seq (first.part isDisk owned ran) (first.whole (second e) isDisk owned ran) split rest holds

theorem runs_reading {read : Disk F → Except PyException α} {s s' : ContinuitySession F}
    {t : Trace (ContinuitySig F)} {r : Except PyException α} :
    Act.Runs (reading read) s t r s' ↔ t = [] ∧ r = read s.disk ∧ s' = s :=
  Act.runs_ofExcept (x := read s.disk)

theorem Extends.reading_bind {read : Disk F → Except PyException α} {f : α → Journaling F β}
    (second : ∀ a, read (diskOf header entries) = .ok a → Extends header answered law entries (f a)) :
    Extends header answered law entries (reading read >>= f) := by
  intro s t later r s' isDisk owned run holds
  rcases run.bind_inv with ⟨e, rfl, failed⟩ | ⟨before, a, s₁, after, split, ran, rest⟩
  · obtain ⟨none, -, rfl⟩ := runs_reading.mp failed
    obtain ⟨rfl, rfl⟩ := List.append_eq_nil_iff.mp none
    refine ⟨[], rfl, trivial, fun _ => ⟨?_, owned⟩⟩
    rw [isDisk, List.append_nil]
  · obtain ⟨rfl, isRead, rfl⟩ := runs_reading.mp ran
    rw [isDisk] at isRead
    rw [List.nil_append] at split
    subst split
    exact second a isRead.symm s₁ t later r s' isDisk owned rest holds

theorem Extends.now_bind {f : F → Journaling F β}
    (second : ∀ n, Extends header answered law entries (f n)) :
    Extends header answered law entries (now >>= f) :=
  Extends.ask_bind (fun _ => rfl) fun n _ => second n

/-- The state after a write that replaced its file. -/
def ContinuitySession.wrote (s : ContinuitySession F) (write : Write F) : ContinuitySession F :=
  { s with disk := s.disk.apply write }

/-- A check that stands before the rest. -/
theorem Extends.check_bind {m : Journaling F α} {f : α → Journaling F β}
    (silent : ∀ s t r s', Act.Runs m s t r s' → t = [] ∧ s' = s)
    (second : ∀ a, Extends header answered law entries (f a)) :
    Extends header answered law entries (m >>= f) := by
  intro s t later r s' isDisk owned run holds
  rcases run.bind_inv with ⟨e, rfl, failed⟩ | ⟨before, a, s₁, after, split, ran, rest⟩
  · obtain ⟨none, rfl⟩ := silent s _ _ s' failed
    obtain ⟨rfl, rfl⟩ := List.append_eq_nil_iff.mp none
    refine ⟨[], rfl, trivial, fun _ => ⟨?_, owned⟩⟩
    rw [isDisk, List.append_nil]
  · obtain ⟨rfl, rfl⟩ := silent s _ _ s₁ ran
    rw [List.nil_append] at split
    subst split
    exact second a s₁ t later r s' isDisk owned rest holds

/-- A program that makes the write of `e`, unless it raises; it may raise even so. -/
def Commits (e : Entry F) (m : Journaling F Unit) : Prop :=
  ∀ s t r s', Act.Runs m s t r s' → t.length ≤ 1 ∧
    (landed t = [e.write] ∧ s' = s.wrote e.write ∨ landed t = [] ∧ s' = s ∧ r ≠ .ok ())

theorem commits_writeDisk (e : Entry F) : Commits e (writeDisk e.write) := by
  intro s t r s' run
  obtain ⟨outcome, rest, rfl, after⟩ := run.ask_bind_inv
  change WriteOutcome at outcome
  cases outcome with
  | written =>
      obtain ⟨rfl, rfl, rfl⟩ := Act.runs_modifyGet.mp after
      exact ⟨Nat.le_refl 1, .inl ⟨rfl, rfl⟩⟩
  | raised err landed =>
      cases landed with
      | true =>
          have ended : Act.Runs (modify (fun s => s.wrote e.write) >>= fun _ => throw err)
              s rest r s' := after
          have thrown : Act.Runs (throw err) (s.wrote e.write) rest r s' :=
            Act.Runs.modify_bind_inv ended
          obtain ⟨rfl, rfl, rfl⟩ := Act.runs_throw.mp thrown
          exact ⟨Nat.le_refl 1, .inl ⟨rfl, rfl⟩⟩
      | false =>
          obtain ⟨rfl, rfl, rfl⟩ := Act.runs_throw.mp after
          exact ⟨Nat.le_refl 1, .inr ⟨rfl, rfl, by simp⟩⟩

theorem runs_requireWritable {s s' : ContinuitySession F} {t : Trace (ContinuitySig F)}
    {r : Except PyException Unit} (run : Act.Runs requireWritable s t r s') :
    t = [] ∧ s' = s ∧ (r = .ok () → s.closed = false ∧ s.header.lifecycleStatus = .active) := by
  have checked := Act.Runs.get_bind_inv run
  split at checked
  · obtain ⟨rfl, rfl, rfl⟩ := Act.runs_throw.mp checked
    exact ⟨rfl, rfl, fun ok => nomatch ok⟩
  split at checked
  · obtain ⟨rfl, rfl, rfl⟩ := Act.runs_throw.mp checked
    exact ⟨rfl, rfl, fun ok => nomatch ok⟩
  · next isOpen active =>
      obtain ⟨rfl, rfl, rfl⟩ := Act.runs_pure.mp checked
      exact ⟨rfl, rfl, fun _ => ⟨by simpa using isOpen, by simpa using active⟩⟩

theorem commits_append {stream : Stream} {record : Json F} {e : Entry F}
    (isWrite : Write.append stream record = e.write) : Commits e (append stream record) := by
  intro s t r s' run
  unfold append at run
  rw [isWrite] at run
  rcases run.bind_inv with ⟨err, rfl, failed⟩ | ⟨before, a, s₁, after, rfl, ran, rest⟩
  · obtain ⟨rfl, rfl, -⟩ := runs_requireWritable failed
    exact ⟨Nat.zero_le 1, .inr ⟨rfl, rfl, by simp⟩⟩
  · obtain ⟨rfl, rfl, -⟩ := runs_requireWritable ran
    exact commits_writeDisk e s₁ after r s' rest

/-- A write that the ledger permits. -/
theorem Commits.extend {e : Entry F} {m : Journaling F Unit} (commits : Commits e m)
    (lawful : law entries e) : Extends header answered law entries m := by
  intro s t later r s' isDisk owned run holds
  obtain ⟨short, outcome⟩ := commits s (t ++ later) r s' run
  cases t with
  | nil =>
      refine ⟨[], rfl, trivial, ?_⟩
      rintro rfl
      rcases outcome with ⟨wrote, -⟩ | ⟨-, rfl, -⟩
      · cases wrote
      · rw [isDisk, List.append_nil]
        exact ⟨rfl, owned⟩
  | cons first t =>
      have none : t ++ later = [] := by
        rw [List.cons_append, List.length_cons] at short
        exact List.length_eq_zero_iff.mp (by omega)
      obtain ⟨rfl, rfl⟩ := List.append_eq_nil_iff.mp none
      rw [List.append_nil] at outcome
      rcases outcome with ⟨wrote, rfl⟩ | ⟨wrote, rfl, -⟩
      · refine ⟨[e], wrote, ⟨lawful, trivial⟩, fun _ => ⟨?_, owned⟩⟩
        rw [diskOf_snoc, ← isDisk]
        rfl
      · refine ⟨[], wrote, trivial, fun _ => ⟨?_, owned⟩⟩
        rw [isDisk, List.append_nil]

/-- A write that the ledger permits, and the rest after it. -/
theorem Commits.bind {e : Entry F} {m : Journaling F Unit} {f : Unit → Journaling F β}
    (commits : Commits e m) (lawful : law entries e)
    (second : Extends header answered law (entries ++ [e]) (f ())) :
    Extends header answered law entries (m >>= f) := by
  intro s t later r s' isDisk owned run holds
  rcases run.bind_inv with ⟨err, rfl, failed⟩ | ⟨before, a, s₁, after, split, ran, rest⟩
  · exact commits.extend lawful s t later _ s' isDisk owned failed holds
  cases a
  obtain ⟨-, ⟨wrote, rfl⟩ | ⟨-, -, failed⟩⟩ := commits s before _ s₁ ran
  · have first : Extends header answered law entries m := commits.extend lawful
    have isDisk₁ : (s.wrote e.write).disk = diskOf header (entries ++ [e]) := by
      rw [diskOf_snoc, ← isDisk]
      rfl
    have owned₁ : Owned header (s.wrote e.write) := owned
    exact extends_seq (first.part isDisk owned ran)
      (fun _ => ⟨[e], wrote, ⟨lawful, trivial⟩, isDisk₁, owned₁, second⟩) split rest holds
  · exact absurd rfl failed

theorem extends_forM {xs : List α} {f : α → Journaling F PUnit}
    (each : ∀ x ∈ xs, ∀ more, Follows law entries more →
      Extends header answered law (entries ++ more) (f x)) :
    Extends header answered law entries (xs.forM f) := by
  induction xs generalizing entries with
  | nil => exact extends_pure PUnit.unit
  | cons x xs ih =>
      obtain ⟨here, later⟩ := List.forall_mem_cons.mp each
      refine Extends.bind ?_ fun _ more follows => ih fun x' mem more' follows' => ?_
      · simpa using here [] trivial
      · rw [List.append_assoc]
        exact later x' mem (more ++ more') (follows_append.mpr ⟨follows, follows'⟩)

end Rules

end Dingdongditch.Continuity
