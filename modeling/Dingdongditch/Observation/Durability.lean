import Dingdongditch.Contract.ChainSealing
import Dingdongditch.Interaction.Scripted
import Dingdongditch.Observation.Keys
import Dingdongditch.Observation.RecordText
import Mathlib.Algebra.Group.Int.Defs

/-!
# Published observations are loaded again

A record that `observePage` publishes is read back from its text with the content
that was published, passes every check of `admitRecord`, and is found by a new observer
with the same browser binding.  What keeps an observation from being published is
said by `observePage_durable_iff`.  A stored observation that carries a committed
hash has the committed content (`admit_same`).
-/

namespace Dingdongditch.Observation

open Interaction Text

variable {F : Type}

/-! ## Records without repeated keys -/

/-- The parts of a record hold each of their keys once. -/
structure RecordDistinct (record : Record F) : Prop where
  observation : ∀ field, (record.1.value field).Distinct
  commit : Json.DistinctEntries record.2.toDict

def bundle (record : Record F) : List (String × Json F) :=
  [("schema_version", .str "1.0.0"), ("observation", .dict record.1.toDict),
    ("commit", .dict record.2.toDict)]

theorem bundle_distinct {record : Record F} (distinct : RecordDistinct record) :
    (Json.dict (bundle record)).Distinct := by
  have observation : (Json.dict record.1.toDict).Distinct := by
    refine ⟨nodup_toDict record.1, ?_⟩
    apply Json.distinctEntries_iff.mpr
    intro entry mem
    obtain ⟨field, -, rfl⟩ := List.mem_map.mp mem
    exact distinct.observation field
  have commit : (Json.dict record.2.toDict).Distinct := ⟨nodup_commit record.2, distinct.commit⟩
  refine ⟨?_, trivial, observation, commit, trivial⟩
  change ["schema_version", "observation", "commit"].Nodup
  decide

/-! ## The environment -/

/-- The page and the disk answer, and the page returns the capture. -/
def Answered (raw : RawJson F) : Event (ObserveSig F) → Prop
  | ⟨.quiesce _ _, .error _⟩ => False
  | ⟨.publish _ _, .error _⟩ => False
  | ⟨.snapshot _ _ _ _ _, answer⟩ => answer = .ok raw
  | _ => True

/-- The clock of the budget, if the event reads it. -/
def budgetReading : Event (ObserveSig F) → Option Int
  | ⟨.monotonicMs, ms⟩ => some ms
  | _ => none

/-- Every later reading of the clock is within the budget of the first. -/
def WithinBudget (options : PageObservationOptions F) (t : Trace (ObserveSig F)) : Prop :=
  ∀ start later, t.filterMap budgetReading = start :: later →
    ∀ ms ∈ later, ms < start + options.observationBudgetMs

/-- The events are answered, before the deadline. -/
def Timely (raw : RawJson F) (deadline : Int) (t : Trace (ObserveSig F)) : Prop :=
  ∀ event ∈ t, Answered raw event ∧ ∀ ms, budgetReading event = some ms → ms < deadline

section Environment

variable {options : PageObservationOptions F} {raw : RawJson F} {s s' : ObserverState F}
  {t : Trace (ObserveSig F)} {α : Type} {deadline : Int} {r : Except PyException α}

theorem Timely.append {u v : Trace (ObserveSig F)} (timely : Timely raw deadline (u ++ v)) :
    Timely raw deadline v :=
  fun event mem => timely event (List.mem_append_right u mem)

theorem raiseWhen_bind {cond : Bool} {e : PyException} {f : Unit → ObserveAct F α}
    (passes : cond = false) (run : Act.Runs (raiseWhen cond e >>= f) s t r s') :
    Act.Runs (f ()) s t r s' := by
  rw [passes] at run
  exact run

theorem requireBudget_run {phase : String} {out : Except PyException Int}
    (timely : Timely raw deadline t)
    (run : Act.Runs (requireBudget deadline phase) s t out s') :
    ∃ now, t = [⟨.monotonicMs, now⟩] ∧ out = .ok (deadline - now) ∧ s' = s := by
  obtain ⟨(now : Int), rest, rfl, checked⟩ := Act.Runs.ask_bind_inv run
  have soon : now < deadline := (timely _ List.mem_cons_self).2 now rfl
  have remains : decide (deadline - now ≤ 0) = false := decide_eq_false (by omega)
  have passed := raiseWhen_bind (f := fun _ => pure (deadline - now)) remains checked
  obtain ⟨rfl, isOut, rfl⟩ := Act.runs_pure.mp passed
  exact ⟨now, rfl, isOut, rfl⟩

theorem requireBudget_bind {phase : String} {f : Int → ObserveAct F α}
    (timely : Timely raw deadline t)
    (run : Act.Runs (requireBudget deadline phase >>= f) s t r s') :
    ∃ now u, t = ⟨.monotonicMs, now⟩ :: u ∧ Act.Runs (f (deadline - now)) s u r s' := by
  rcases run.bind_inv with ⟨e, rfl, failed⟩ | ⟨u, remaining, s₁, v, rfl, passed, later⟩
  · obtain ⟨now, -, eq, -⟩ := requireBudget_run timely failed
    cases eq
  · have first : Timely raw deadline u := fun event mem => timely event (List.mem_append_left v mem)
    obtain ⟨now, rfl, eq, rfl⟩ := requireBudget_run first passed
    cases eq
    exact ⟨now, v, rfl, later⟩

/-- The page is captured. -/
theorem capturePage_run {out : Except PyException (RawJson F)} (timely : Timely raw deadline t)
    (run : Act.Runs (capturePage options deadline) s t out s') : out = .ok raw ∧ s' = s := by
  obtain ⟨_, u, rfl, quiescing⟩ := requireBudget_bind timely run
  have timely₁ : Timely raw deadline u := timely.append (u := [_])
  obtain ⟨answer, v, rfl, settled⟩ := quiescing.attempt_bind_inv
  have timely₂ : Timely raw deadline v := timely₁.append (u := [_])
  rcases settled with ⟨e, isError, -, -, -⟩ | ⟨_, -, capturing⟩
  · have answered := (timely₁ _ List.mem_cons_self).1
    obtain rfl : answer = .error e := isError
    cases answered
  · obtain ⟨_, w, rfl, evaluating⟩ := requireBudget_bind timely₂ capturing
    obtain ⟨answer', rfl, isOut, rfl⟩ := Act.runs_attempt.mp evaluating
    have answered := (timely₂ _ (List.mem_cons_of_mem _ (List.mem_singleton_self _))).1
    exact ⟨isOut.trans answered, rfl⟩

theorem capturePage_bind {f : RawJson F → ObserveAct F α} (timely : Timely raw deadline t)
    (run : Act.Runs (capturePage options deadline >>= f) s t r s') :
    ∃ u v, t = u ++ v ∧ Act.Runs (f raw) s v r s' := by
  rcases run.bind_inv with ⟨e, rfl, failed⟩ | ⟨u, captured, s₁, v, rfl, passed, later⟩
  · obtain ⟨eq, -⟩ := capturePage_run timely failed
    cases eq
  · have first : Timely raw deadline u := fun event mem => timely event (List.mem_append_left v mem)
    obtain ⟨eq, rfl⟩ := capturePage_run first passed
    cases eq
    exact ⟨u, v, rfl, later⟩

end Environment

variable {backend : Backend} [Floating F]

/-! ## What is published -/

section Published

variable (host : ObserverHost F) (backend : Backend) (options : PageObservationOptions F)
  (capture : Capture F) (moment : Moment) (profile : String)

def publishedObservation : PageObservation F :=
  ⟨sealedValues host backend options capture moment profile⟩

theorem make_sealedValues :
    PageObservation.make (sealedValues host backend options capture moment profile) =
      some (publishedObservation host backend options capture moment profile) := by
  have labels : normalizeProvenance
      (sealedValues host backend options capture moment profile .provenance) =
      some (.list [.str "web_untrusted"]) := rfl
  unfold PageObservation.make
  rw [labels, Option.map_some]
  congr 2
  funext field
  split
  · next isProvenance =>
      rw [isProvenance]
      rfl
  · rfl

theorem unsealed_published :
    (publishedObservation host backend options capture moment profile).unsealed =
      unsealedObservation host backend options capture moment profile := by
  unfold PageObservation.unsealed publishedObservation sealedValues
  congr 1
  funext field
  dsimp only
  split
  · next isHash =>
      rw [isHash]
      rfl
  · rfl

theorem verify_published : verifyObservationHash host.sha256
    (publishedObservation host backend options capture moment profile) = true := by
  unfold verifyObservationHash
  rw [unsealed_published]
  exact pyEq_str.mpr rfl

theorem untrusted_published :
    Untrusted (publishedObservation host backend options capture moment profile) := rfl

/-- The record of the observation. -/
def publishedRecord (snapshotHash : String) (committedAtMs : Int) : Record F :=
  let observation := publishedObservation host backend options capture moment profile
  (observation, commitOf backend capture moment snapshotHash (observation.value .observationHash)
    committedAtMs)

end Published

/-! ## Memory -/

/-- The record of an identifier, after one more is remembered. -/
theorem find_remember {memory : Memory F} {record : Record F} {observationId : String} :
    (memory.remember record).find observationId =
      if Json.pyEq (record.1.value .observationId) (.str observationId) then some record
      else memory.find observationId := by
  unfold Memory.find Memory.remember
  dsimp only
  by_cases isIts : Json.pyEq (record.1.value .observationId) (.str observationId) = true
  · rw [if_pos isIts]
    -- the records under its key are those under the identifier
    rw [pyEq_str_iff.mp isIts]
    split
    · next known =>
        induction memory with
        | nil => cases known
        | cons other memory ih =>
            rw [List.map_cons]
            by_cases same : Json.pyEq (other.1.value .observationId) (.str observationId) = true
            · rw [if_pos same]
              exact List.find?_cons_of_pos isIts
            · rw [if_neg same, List.find?_cons_of_neg (by exact same)]
              rw [List.any_cons, Bool.or_eq_true] at known
              exact ih (known.resolve_left same)
    · next unknown =>
        have none : memory.find? (fun other =>
            Json.pyEq (other.1.value .observationId) (.str observationId)) = none := by
          rw [List.find?_eq_none]
          intro other mem same
          exact unknown (List.any_eq_true.mpr ⟨other, mem, same⟩)
        rw [List.find?_append, none, Option.none_or]
        exact List.find?_cons_of_pos isIts
  · rw [if_neg isIts]
    have other_of_known {other : Record F}
        (known : Json.pyEq (other.1.value .observationId) (record.1.value .observationId) = true) :
        ¬Json.pyEq (other.1.value .observationId) (.str observationId) = true := by
      intro same
      rw [pyEq_str_iff.mp same] at known
      exact isIts (pyEq_str_iff.mpr (eq_str_of_pyEq_right known))
    split
    · next known =>
        clear known
        induction memory with
        | nil => rfl
        | cons other memory ih =>
            rw [List.map_cons]
            by_cases known :
                Json.pyEq (other.1.value .observationId) (record.1.value .observationId) = true
            · rw [if_pos known, List.find?_cons_of_neg (by exact isIts),
                List.find?_cons_of_neg (by exact other_of_known known), ih]
            · rw [if_neg known, List.find?_cons, List.find?_cons, ih]
    · rw [List.find?_append, List.find?_cons_of_neg (by exact isIts), List.find?_nil, Option.or_none]

/-- The only record of an identifier is found. -/
theorem find_foldl_remember {records : List (Record F)} {record : Record F} {observationId : String}
    (only : ∀ other ∈ records, other.1.value .observationId = .str observationId → other = record)
    {memory : Memory F}
    (known : record ∈ records ∧ record.1.value .observationId = .str observationId ∨
      memory.find observationId = some record) :
    Memory.find (records.foldl Memory.remember memory) observationId = some record := by
  induction records generalizing memory with
  | nil =>
      rcases known with ⟨mem, -⟩ | found
      · cases mem
      · exact found
  | cons first records ih =>
      rw [List.foldl_cons]
      apply ih fun other mem => only other (List.mem_cons_of_mem _ mem)
      rw [find_remember]
      by_cases isIts : Json.pyEq (first.1.value .observationId) (.str observationId) = true
      · rw [if_pos isIts, only first List.mem_cons_self (pyEq_str_iff.mp isIts)]
        exact .inr rfl
      · rw [if_neg isIts]
        rcases known with ⟨mem, its⟩ | found
        · rcases List.mem_cons.mp mem with rfl | mem
          · exact absurd (pyEq_str_iff.mpr its) isIts
          · exact .inl ⟨mem, its⟩
        · exact .inr found

/-! ## Captures -/

/-- What the snapshot script returns: the dictionaries hold the fields that are read,
and each of their keys once. -/
structure WellShaped (raw : RawJson F) : Prop where
  signature : hasSignature raw = true
  shape : ∀ value, raw.encode = some value →
    value.Distinct ∧ ∃ capture, Capture.ofJson value = some capture

/-- A profile has a value, and the capture encodes. -/
def Publishable (backend : Backend) (raw : RawJson F) : Prop :=
  (∃ profile, backend.profile = .builtin profile) ∧ raw.Encodable

/-- What was published in a run that ends with an observation. -/
structure Published (host : ObserverHost F) (backend : Backend) (options : PageObservationOptions F)
    (s : ObserverState F) (t : Trace (ObserveSig F)) (s' : ObserverState F) (record : Record F)
    (moment : Moment) : Prop where
  sealed_ : ∃ capture profile snapshotHash committedAtMs, CaptureDistinct capture ∧ record =
    publishedRecord host backend options capture moment profile snapshotHash committedAtMs
  files : s'.files = s.files.write (recordName moment.commitId) (recordText record)
  published : ⟨.publish (recordName moment.commitId) (recordText record), .ok ()⟩ ∈ t
  commitId : ⟨.uuid, moment.commitId⟩ ∈ t
  observationId : ⟨.uuid, moment.observationId⟩ ∈ t

section Captures

variable {host : ObserverHost F} {options : PageObservationOptions F} {raw : RawJson F}
  {s s' : ObserverState F} {t : Trace (ObserveSig F)} {r : Except PyException (PageObservation F)}
  {deadline : Int}

theorem publishDurableCommit_run {commitId : String} {record : Record F} {out : Except PyException Unit}
    (timely : Timely raw deadline t)
    (run : Act.Runs (publishDurableCommit commitId record) s t out s') :
    out = .ok () ∧ s'.files = s.files.write (recordName commitId) (recordText record) ∧
      ⟨.publish (recordName commitId) (recordText record), .ok ()⟩ ∈ t := by
  obtain ⟨answer, rest, rfl, written⟩ := run.attempt_bind_inv
  have answered := (timely _ List.mem_cons_self).1
  rcases written with ⟨e, isError, -, -, -⟩ | ⟨_, isOk, modified⟩
  · obtain rfl : answer = .error e := isError
    cases answered
  · obtain rfl : answer = .ok () := isOk
    obtain ⟨-, isOut, rfl⟩ := Act.runs_modifyGet.mp modified
    exact ⟨isOut, rfl, List.mem_cons_self⟩

/-- A capture that is sealed in time is published. -/
theorem sealAndPublish_run {capture : Capture F} {snapshotHash profile : String} {moment : Moment}
    (timely : Timely raw deadline t)
    (run : Act.Runs (sealAndPublish host backend options deadline capture snapshotHash moment profile)
      s t r s') :
    ∃ record, (∃ committedAtMs, record =
        publishedRecord host backend options capture moment profile snapshotHash committedAtMs) ∧
      r = .ok record.1 ∧
      s'.files = s.files.write (recordName moment.commitId) (recordText record) ∧
      ⟨.publish (recordName moment.commitId) (recordText record), .ok ()⟩ ∈ t := by
  unfold sealAndPublish at run
  rw [make_sealedValues] at run
  obtain ⟨_, u, rfl, counted⟩ := requireBudget_bind timely run
  have timely₁ : Timely raw _ u := timely.append (u := [_])
  obtain ⟨(committedAtMs : Int), v, rfl, committing⟩ := Act.Runs.ask_bind_inv counted
  have timely₂ : Timely raw _ v := timely₁.append (u := [_])
  let record :=
    publishedRecord host backend options capture moment profile snapshotHash committedAtMs
  change Act.Runs (publishDurableCommit moment.commitId record >>= fun _ =>
    rememberRecord record >>= fun _ => pure record.1) s v r s' at committing
  refine ⟨record, ⟨committedAtMs, rfl⟩, ?_⟩
  rcases committing.bind_inv with ⟨e, rfl, failed⟩ | ⟨w, _, s₁, x, rfl, published, remembering⟩
  · obtain ⟨eq, -⟩ := publishDurableCommit_run timely₂ failed
    cases eq
  · have first : Timely raw _ w := fun event mem => timely₂ event (List.mem_append_left x mem)
    obtain ⟨-, written, mem⟩ := publishDurableCommit_run first published
    have remembered := Act.Runs.modify_bind_inv remembering
    obtain ⟨-, isOk, rfl⟩ := Act.runs_pure.mp remembered
    exact ⟨isOk, written, by simp [mem]⟩

/-- One capture that is answered in time is published or cannot be. -/
theorem captureOnce_run {transactionId : String} (shaped : WellShaped raw)
    (answered : ∀ event ∈ t, Answered raw event) (inTime : WithinBudget options t)
    (run : Act.Runs (captureOnce host backend options transactionId) s t r s') :
    (¬Publishable backend raw ∧ ∃ e, r = .error e) ∨ Publishable backend raw ∧
      ∃ record moment, r = .ok record.1 ∧ Published host backend options s t s' record moment := by
  unfold captureOnce at run
  obtain ⟨startedAtMs, t₁, rfl, run₁⟩ := Act.Runs.ask_bind_inv run
  obtain ⟨(start : Int), t₂, rfl, run₂⟩ := Act.Runs.ask_bind_inv run₁
  have timely : Timely raw (start + options.observationBudgetMs) t₂ := by
    intro event mem
    refine ⟨answered event (by simp [mem]), fun ms reading => ?_⟩
    exact inTime start (t₂.filterMap budgetReading) rfl ms (List.mem_filterMap.mpr ⟨event, mem, reading⟩)
  obtain ⟨u, t₃, rfl, run₃⟩ := capturePage_bind timely run₂
  have timely₃ := timely.append
  have run₄ := raiseWhen_bind (by rw [shaped.signature]; rfl) run₃
  obtain ⟨_, t₅, rfl, run₅⟩ := requireBudget_bind timely₃ run₄
  have timely₅ : Timely raw _ t₅ := timely₃.append (u := [_])
  obtain ⟨snapshotId, t₆, rfl, run₆⟩ := Act.Runs.ask_bind_inv run₅
  have timely₆ : Timely raw _ t₆ := timely₅.append (u := [_])
  rcases run₆.ofExcept_bind_inv with ⟨e, failed, -, rfl, -⟩ | ⟨value, encoded, run₇⟩
  · refine .inl ⟨fun publishable => ?_, e, rfl⟩
    obtain ⟨value, encoded⟩ := Option.isSome_iff_exists.mp
      ((RawJson.encode_isSome_iff raw).mpr publishable.2)
    rw [encodeCapture, encoded] at failed
    cases failed
  have isValue : raw.encode = some value := by
    unfold encodeCapture at encoded
    split at encoded
    · next value' found =>
        cases encoded
        exact found
    · cases encoded
  have encodable : raw.Encodable := (RawJson.encode_isSome_iff raw).mp (by rw [isValue]; rfl)
  obtain ⟨distinct, capture, read⟩ := shaped.shape value isValue
  rw [read] at run₇
  have run₈ := requireBudget_bind timely₆ run₇
  obtain ⟨_, t₈, rfl, run₉⟩ := run₈
  have timely₈ : Timely raw _ t₈ := timely₆.append (u := [_])
  obtain ⟨(observationId : String), t₉, rfl, run₁₀⟩ := Act.Runs.ask_bind_inv run₉
  obtain ⟨(commitId : String), t₁₀, rfl, run₁₁⟩ := Act.Runs.ask_bind_inv run₁₀
  obtain ⟨(capturedAtMs : Int), t₁₁, rfl, run₁₂⟩ := Act.Runs.ask_bind_inv run₁₁
  obtain ⟨(timestamp : String), t₁₂, rfl, run₁₃⟩ := Act.Runs.ask_bind_inv run₁₂
  have timely₁₂ : Timely raw _ t₁₂ := timely₈.append (u := [_, _, _, _])
  rcases run₁₃.ofExcept_bind_inv with ⟨e, failed, -, rfl, -⟩ | ⟨profile, named, run₁₄⟩
  · refine .inl ⟨fun publishable => ?_, e, rfl⟩
    obtain ⟨builtin, isBuiltin⟩ := publishable.1
    rw [isBuiltin] at failed
    cases failed
  have isBuiltin : ∃ builtin, backend.profile = .builtin builtin := by
    cases chosen : backend.profile with
    | builtin builtin => exact ⟨builtin, rfl⟩
    | named name =>
        rw [chosen] at named
        cases named
  refine .inr ⟨⟨isBuiltin, encodable⟩, ?_⟩
  obtain ⟨record, ⟨committedAtMs, isRecord⟩, isOk, written, published⟩ :=
    sealAndPublish_run timely₁₂ run₁₄
  refine ⟨record, _, isOk, ⟨⟨capture, profile, _, committedAtMs, captureDistinct read distinct,
    isRecord⟩, written, ?_, ?_, ?_⟩⟩
  · simp [published]
  · simp
  · simp

end Captures

theorem mem_foldl_remember {records : List (Record F)} {memory : Memory F} {record : Record F}
    (mem : record ∈ records.foldl Memory.remember memory) : record ∈ memory ∨ record ∈ records := by
  induction records generalizing memory with
  | nil => exact .inl mem
  | cons first records ih =>
      rcases ih mem with known | later
      · unfold Memory.remember at known
        dsimp only at known
        split at known
        · obtain ⟨other, there, isRecord⟩ := List.mem_map.mp known
          split at isRecord
          · exact .inr (isRecord ▸ List.mem_cons_self)
          · exact .inl (isRecord ▸ there)
        · rcases List.mem_append.mp known with old | new
          · exact .inl old
          · exact .inr (List.mem_singleton.mp new ▸ List.mem_cons_self)
      · exact .inr (List.mem_cons_of_mem _ later)

theorem publishedRecord_distinct {host : ObserverHost F} {options : PageObservationOptions F}
    {capture : Capture F} {moment : Moment} {profile snapshotHash : String} {committedAtMs : Int}
    (distinct : CaptureDistinct capture) : RecordDistinct
      (publishedRecord host backend options capture moment profile snapshotHash committedAtMs) := by
  have binding : (Json.dict (browserBinding (F := F) backend)).Distinct := by
    refine dict_distinct nodup_binding ?_
    simp [browserBinding, Json.Distinct, optionalText_distinct]
  have core : (snapshotCore (F := F) backend capture moment snapshotHash).Distinct := by
    have evidence : (Json.dict (F := F) [("mode", .str "single_browser_evaluation"),
        ("complete", .bool true)]).Distinct := dict_distinct (by simp) (by simp [Json.Distinct])
    refine dict_distinct (by simp) ?_
    intro entry mem
    simp only [List.mem_cons, List.not_mem_nil, or_false] at mem
    rcases mem with rfl | rfl | rfl | rfl | rfl | rfl | rfl
    all_goals first
      | exact binding
      | exact evidence
      | trivial
  refine ⟨sealedValues_distinct distinct, ?_⟩
  exact ⟨trivial, trivial, trivial, trivial, trivial, trivial, trivial, binding,
    dict_distinct (by simp) (by simpa using core), trivial⟩

/-- The commit names the hash of the content. -/
def Committed (sha256 : List Char → String) (record : Record F) : Prop :=
  verifyObservationHash sha256 record.1 = true ∧
    record.2.observationHash = record.1.value .observationHash

theorem observationHash_of_verify {sha256 : List Char → String} {observation : PageObservation F}
    (verified : verifyObservationHash sha256 observation = true) :
    observation.value .observationHash = .str (canonicalHash sha256 observation.unsealed.toDict) :=
  eq_str_of_pyEq_right verified

variable [Json.ReadsFloat F]

/-! ## Stored records -/

/-- A record is read back from its text. -/
theorem recordOf_recordText {record : Record F} (distinct : RecordDistinct record)
    (untrusted : Untrusted record.1) :
    (readPublishedJson (recordText record)).bind recordOf =
      some (.str "1.0.0", normalized record.1, normalizedCommit record.2) := by
  have whole : (Json.dict (bundle record)).Distinct := bundle_distinct distinct
  have read : readPublishedJson (recordText record) =
      some ((Json.dict (bundle record)).normalize id) := by
    unfold readPublishedJson recordText
    rw [Json.loads_render, Option.map_some]
    exact congrArg some (Json.lastWins_of_distinct _ (Json.distinct_normalize _ whole))
  have part (key : String) := subscript_normalize whole.1 key
  have version : subscript ((Json.dict (bundle record)).normalize id) "schema_version" =
      some (.str "1.0.0") := part "schema_version"
  have observation : subscript ((Json.dict (bundle record)).normalize id) "observation" =
      some (.dict (Json.sortEntries (Json.normalizeEntries id record.1.toDict))) := part "observation"
  have commit : subscript ((Json.dict (bundle record)).normalize id) "commit" =
      some (.dict (Json.sortEntries (Json.normalizeEntries id record.2.toDict))) := part "commit"
  rw [read, Option.bind_some]
  unfold recordOf
  rw [version, observation, commit]
  simp only [Option.bind_some, dictOf, Option.bind_eq_bind, fromDict_normalized untrusted,
    commit_fromDict_normalized]
  rfl

/-- A published record passes every check of an observer with its browser binding. -/
theorem admit_published {host : ObserverHost F} {options : PageObservationOptions F}
    {capture : Capture F} {moment : Moment} {profile snapshotHash : String} {committedAtMs : Int}
    {binding : List (String × Json F)} {record : Record F}
    (isRecord : record =
      publishedRecord host backend options capture moment profile snapshotHash committedAtMs)
    (distinct : RecordDistinct record) (identified : moment.commitId ≠ "")
    (same : bindingIdentity binding = bindingIdentity (browserBinding backend)) :
    admitRecord host.sha256 binding (recordName moment.commitId) (recordText record) =
      .ok (some (normalized record.1, normalizedCommit record.2)) := by
  obtain ⟨observation, commit⟩ := record
  obtain ⟨isObservation, isCommit⟩ := Prod.mk.inj isRecord
  have verified : verifyObservationHash host.sha256 (normalized observation) = true := by
    rw [isObservation]
    exact PageObservation.Same.verify host.sha256 (fun field => (normalized_same _ field).symm)
      (verify_published host backend options capture moment profile)
  have untrusted : Untrusted observation := by
    rw [isObservation]
    exact untrusted_published host backend options capture moment profile
  have ids : (normalized observation).value .observationId = .str moment.observationId ∧
      (normalized observation).value .commitId = .str moment.commitId ∧
      (normalized observation).value .observationHash = (normalizedCommit commit).observationHash := by
    rw [isObservation, isCommit]
    exact ⟨rfl, rfl, rfl⟩
  have commitIds : (normalizedCommit commit).observationId = .str moment.observationId ∧
      (normalizedCommit commit).commitId = .str moment.commitId ∧
      ∃ hash, (normalizedCommit commit).observationHash = .str hash := by
    rw [isCommit]
    exact ⟨rfl, rfl, _, rfl⟩
  obtain ⟨observationId, commitId, hash⟩ := ids
  obtain ⟨observationId', commitId', text, isText⟩ := commitIds
  rw [isText] at hash
  have committed : (normalizedCommit commit).browserBinding =
      .dict (Json.sortEntries (Json.normalizeEntries id (browserBinding backend))) := by
    rw [isCommit]
    rfl
  have captured : ((subscript (normalizedCommit commit).evidence "snapshot_core").bind fun core =>
      subscript core "browser_binding") =
      some (.dict (Json.sortEntries (Json.normalizeEntries id (browserBinding backend)))) := by
    rw [isCommit]
    exact snapshotCore_binding
  unfold admitRecord
  rw [recordOf_recordText distinct untrusted]
  dsimp only
  rw [stemOf_recordName identified, observationId, commitId, hash, observationId', commitId', isText,
    committed, captured]
  simp only [pyEq_str.mpr, mappingOf, verified, Bool.not_true, Bool.or_self, Bool.false_eq_true,
    if_false]
  dsimp only [Bind.bind, Except.bind]
  rw [bindingIdentity_normalize, same, sameIdentity_self]
  rfl

/-! ## Loading -/

section Loading

variable {sha256 : List Char → String} {binding : List (String × Json F)}

/-- Files are admitted one by one. -/
theorem admitAll_ok {files : List (String × List Char)} {records : List (Record F)} :
    admitAll sha256 binding files = .ok records →
      ∀ file ∈ files, ∃ admitted, admitRecord sha256 binding file.1 file.2 = .ok admitted := by
  intro loaded
  induction files generalizing records with
  | nil => simp
  | cons file files ih =>
      rcases file with ⟨name, text⟩
      obtain ⟨admitted, first, loaded⟩ := bind_eq_ok.mp loaded
      obtain ⟨others, rest, -⟩ := bind_eq_ok.mp loaded
      intro other mem
      rcases List.mem_cons.mp mem with rfl | mem
      · exact ⟨admitted, first⟩
      · exact ih rest other mem

theorem exists_admitAll {files : List (String × List Char)}
    (each : ∀ file ∈ files, ∃ admitted, admitRecord sha256 binding file.1 file.2 = .ok admitted) :
    ∃ records, admitAll sha256 binding files = .ok records := by
  induction files with
  | nil => exact ⟨[], rfl⟩
  | cons file files ih =>
      rcases file with ⟨name, text⟩
      obtain ⟨admitted, first⟩ := each (name, text) List.mem_cons_self
      obtain ⟨records, rest⟩ := ih fun other mem => each other (List.mem_cons_of_mem _ mem)
      exact ⟨admitted.toList ++ records, bind_eq_ok.mpr ⟨_, first, bind_eq_ok.mpr ⟨_, rest, rfl⟩⟩⟩

theorem mem_admitAll {files : List (String × List Char)} {records : List (Record F)}
    (loaded : admitAll sha256 binding files = .ok records) {record : Record F} :
    record ∈ records ↔ ∃ file ∈ files, admitRecord sha256 binding file.1 file.2 = .ok (some record) := by
  induction files generalizing records with
  | nil =>
      cases loaded
      simp
  | cons file files ih =>
      rcases file with ⟨name, text⟩
      obtain ⟨admitted, first, loaded⟩ := bind_eq_ok.mp loaded
      obtain ⟨others, rest, eq⟩ := bind_eq_ok.mp loaded
      cases eq
      rw [List.mem_append, ih rest, Option.mem_toList, List.exists_mem_cons_iff]
      apply or_congr_left
      rw [first]
      simp

/-- A record of the store that is readable is joined by a new one. -/
theorem load_write {files : Store.Directory String (List Char)} {before : Memory F}
    (readable : loadDurableCommits sha256 binding files = .ok before) {name : String}
    {text : List Char} (isRecord : isRecordFile name = true) {record : Record F}
    (admitted : admitRecord sha256 binding name text = .ok (some record)) {observationId : String}
    (isIts : record.1.value .observationId = .str observationId)
    (unknown : ∀ file ∈ files, ∀ other, admitRecord sha256 binding file.1 file.2 = .ok (some other) →
      other.1.value .observationId ≠ .str observationId) :
    ∃ memory, loadDurableCommits sha256 binding (files.write name text) = .ok memory ∧
      memory.find observationId = some record := by
  obtain ⟨records, loaded, -⟩ := bind_eq_ok.mp readable
  have each := admitAll_ok loaded
  have mem_written {file : String × List Char}
      (mem : file ∈ Json.sortEntries ((files.write name text).filter fun file =>
        isRecordFile file.1)) : file = (name, text) ∨ file ∈ files ∧ isRecordFile file.1 = true := by
    have there := List.mem_filter.mp ((perm_sortEntries _).mem_iff.mp mem)
    rcases List.mem_append.mp there.1 with old | new
    · exact .inr ⟨(List.mem_filter.mp old).1, there.2⟩
    · exact .inl (List.mem_singleton.mp new)
  have readable' : ∀ file ∈ Json.sortEntries ((files.write name text).filter fun file =>
      isRecordFile file.1), ∃ admitted, admitRecord sha256 binding file.1 file.2 = .ok admitted := by
    intro file mem
    rcases mem_written mem with rfl | ⟨old, isFile⟩
    · exact ⟨_, admitted⟩
    · exact each file ((perm_sortEntries _).mem_iff.mpr (List.mem_filter.mpr ⟨old, isFile⟩))
  obtain ⟨records', loaded'⟩ := exists_admitAll readable'
  have written : (name, text) ∈ Json.sortEntries ((files.write name text).filter fun file =>
      isRecordFile file.1) := by
    refine (perm_sortEntries _).mem_iff.mpr (List.mem_filter.mpr ⟨?_, isRecord⟩)
    exact List.mem_append_right _ (List.mem_singleton_self _)
  refine ⟨_, bind_eq_ok.mpr ⟨records', loaded', rfl⟩, find_foldl_remember ?_ (.inl ⟨?_, isIts⟩)⟩
  · intro other mem its
    obtain ⟨file, there, isOther⟩ := (mem_admitAll loaded').mp mem
    rcases mem_written there with rfl | ⟨old, -⟩
    · rw [admitted] at isOther
      exact (Option.some.inj (Except.ok.inj isOther)).symm
    · exact absurd its (unknown file old other isOther)
  · exact (mem_admitAll loaded').mpr ⟨(name, text), written, admitted⟩

end Loading

/-! ## Tampering -/

section Tampering

variable {sha256 : List Char → String} {binding : List (String × Json F)}

/-- What is admitted carries the hash of its content, which its commit names. -/
theorem committed_of_admit {name : String} {text : List Char} {record : Record F}
    (admitted : admitRecord sha256 binding name text = .ok (some record)) : Committed sha256 record := by
  unfold admitRecord at admitted
  split at admitted
  · next version observation commit _ =>
      split at admitted
      · cases admitted
      · next checks =>
          obtain ⟨committed, -, admitted⟩ := bind_eq_ok.mp admitted
          split at admitted
          · obtain ⟨captured, -, admitted⟩ := bind_eq_ok.mp admitted
            split at admitted
            · cases admitted
            · next verifies =>
                split at admitted
                · cases admitted
                · have isRecord : record = (observation, commit) := by
                    split at admitted
                    · cases admitted
                    · cases admitted
                    · cases admitted
                      rfl
                  simp only [Bool.or_eq_true, Bool.not_eq_true', not_or, Bool.not_eq_false] at checks
                  simp only [Bool.or_eq_true, Bool.not_eq_true', not_or, Bool.not_eq_false] at verifies
                  subst isRecord
                  refine ⟨verifies.2, ?_⟩
                  rw [observationHash_of_verify verifies.2]
                  have agrees := checks.2
                  rw [observationHash_of_verify verifies.2] at agrees
                  exact pyEq_str_iff.mp agrees
          · cases admitted
  · cases admitted

theorem same_of_committed (injective : Function.Injective sha256) {a b : Record F}
    (left : Committed sha256 a) (right : Committed sha256 b)
    (agree : a.2.observationHash = b.2.observationHash) : a.1.Same b.1 := by
  have hashes : a.1.value .observationHash = b.1.value .observationHash := by
    rw [← left.2, ← right.2, agree]
  have digests := hashes
  rw [observationHash_of_verify left.1, observationHash_of_verify right.1] at digests
  have texts := injective (Json.str.inj digests)
  have unsealed := PageObservation.same_of_normalize (Json.render_inj texts)
  intro field
  by_cases isHash : field = .observationHash
  · rw [isHash, hashes]
  · have same := unsealed field
    unfold PageObservation.unsealed at same
    simpa [isHash] using same

/-- Every record that is loaded is committed. -/
theorem committed_of_load {files : Store.Directory String (List Char)} {memory : Memory F}
    (loaded : loadDurableCommits sha256 binding files = .ok memory) :
    ∀ record ∈ memory, Committed sha256 record := by
  obtain ⟨records, admitted, eq⟩ := bind_eq_ok.mp loaded
  cases eq
  intro record mem
  rcases mem_foldl_remember mem with none | there
  · cases none
  · obtain ⟨file, -, isRecord⟩ := (mem_admitAll admitted).mp there
    exact committed_of_admit isRecord

end Tampering

/-! ## Durability -/

theorem isRecordFile_recordName (commitId : String) : isRecordFile (recordName commitId) = true := by
  have chars : (recordName commitId).toList = commitId.toList ++ ".json".toList :=
    String.toList_append
  rw [isRecordFile, chars, List.isSuffixOf_iff_suffix]
  exact List.suffix_append _ _

/-- The observation is published with its commit, and a new observer with this binding
loads the two. -/
structure Durable (host : ObserverHost F) (binding : List (String × Json F))
    (t : Trace (ObserveSig F)) (s' : ObserverState F) (observation : PageObservation F) : Prop where
  verified : verifyObservationHash host.sha256 observation = true
  loaded : ∃ (commit : ObservationCommit F) (name observationId : String) (memory : Memory F)
    (stored : Record F),
      ⟨.publish name (recordText (observation, commit)), .ok ()⟩ ∈ t ∧
      observation.value .observationId = .str observationId ∧
      loadDurableCommits host.sha256 binding s'.files = .ok memory ∧
      memory.find observationId = some stored ∧
      stored.1.Same observation ∧ stored.2.Same commit

/-- The identifier names no observation of the store. -/
def Unused (host : ObserverHost F) (binding : List (String × Json F))
    (files : Store.Directory String (List Char)) (identifier : String) : Prop :=
  identifier ≠ "" ∧ ∀ file ∈ files, ∀ other,
    admitRecord host.sha256 binding file.1 file.2 = .ok (some other) →
      other.1.value .observationId ≠ .str identifier

section Durability

variable {host : ObserverHost F} {options : PageObservationOptions F} {raw : RawJson F}
  {s s' : ObserverState F} {t : Trace (ObserveSig F)} {r : Except PyException (PageObservation F)}
  {binding : List (String × Json F)}

/-- What is published is durable. -/
theorem durable_of_published {before : Memory F} {record : Record F} {moment : Moment}
    (same : bindingIdentity binding = bindingIdentity (browserBinding backend))
    (readable : loadDurableCommits host.sha256 binding s.files = .ok before)
    (fresh : ∀ identifier, ⟨.uuid, identifier⟩ ∈ t → Unused host binding s.files identifier)
    (published : Published host backend options s t s' record moment) :
    Durable host binding t s' record.1 := by
  obtain ⟨⟨capture, profile, snapshotHash, committedAtMs, distinct, isRecord⟩, files, event, commitId,
    observationId⟩ := published
  have admitted := admit_published isRecord (isRecord ▸ publishedRecord_distinct distinct)
    (fresh _ commitId).1 same
  have isId : record.1.value .observationId = .str moment.observationId := by
    rw [isRecord]
    rfl
  have isStored : (normalized record.1).value .observationId = .str moment.observationId := by
    change (record.1.value .observationId).normalize id = _
    rw [isId]
    rfl
  obtain ⟨memory, loaded, found⟩ := load_write readable (isRecordFile_recordName moment.commitId)
    admitted isStored (fresh _ observationId).2
  refine ⟨?_, record.2, _, moment.observationId, memory, _, event, isId, ?_, found,
    normalized_same record.1, normalizedCommit_same record.2⟩
  · rw [isRecord]
    exact verify_published host backend options capture moment profile
  · rw [files]
    exact loaded

/-- In a run on a well-shaped capture that is answered within its budget, the
observation is published with a hash that verifies, and a new observer with the same
browser binding loads an equal observation and commit, if and only if the profile is a
member of its enumeration and no text of the capture holds half of a surrogate pair.
Whatever is stored, an observation is admitted under a committed hash only if its
content is what was committed. -/
theorem observePage_durable_iff (injective : Function.Injective host.sha256)
    (valid : options.validate host.math = .ok ()) (started : backend.isStarted = true)
    (shaped : WellShaped raw) (answered : ∀ event ∈ t, Answered raw event)
    (inTime : WithinBudget options t)
    (run : Act.Runs (observePage host backend options) s t r s')
    (same : bindingIdentity binding = bindingIdentity (browserBinding backend)) {before : Memory F}
    (readable : loadDurableCommits host.sha256 binding s.files = .ok before)
    (fresh : ∀ identifier, ⟨.uuid, identifier⟩ ∈ t → Unused host binding s.files identifier) :
    ((∃ observation, r = .ok observation ∧ Durable host binding t s' observation) ↔
      Publishable backend raw) ∧
    ∀ committed : Record F, Committed host.sha256 committed →
      ∀ (reader : List (String × Json F)) (files : Store.Directory String (List Char))
        (memory : Memory F), loadDurableCommits host.sha256 reader files = .ok memory →
        ∀ record ∈ memory, record.2.observationHash = committed.2.observationHash →
          record.1.Same committed.1 := by
  constructor
  · unfold observePage at run
    rw [valid] at run
    have run₁ := raiseWhen_bind (by rw [started]; rfl) run
    obtain ⟨(transactionId : String), t₁, rfl, run₂⟩ := Act.Runs.ask_bind_inv run₁
    obtain ⟨(startedAtMs : Int), t₂, rfl, run₃⟩ := Act.Runs.ask_bind_inv run₂
    have answered₂ : ∀ event ∈ t₂, Answered raw event := fun event mem => answered event (by simp [mem])
    rcases captureOnce_run shaped answered₂ inTime run₃ with
      ⟨blocked, e, rfl⟩ | ⟨publishable, record, moment, rfl, published⟩
    · refine iff_of_false ?_ blocked
      rintro ⟨observation, eq, -⟩
      cases eq
    · obtain ⟨sealed_, files, event, commitId, observationId⟩ := published
      have whole : Published host backend options s (⟨.uuid, transactionId⟩ :: ⟨.nowMs, startedAtMs⟩ :: t₂)
          s' record moment :=
        ⟨sealed_, files, by simp [event], by simp [commitId], by simp [observationId]⟩
      exact iff_of_true ⟨record.1, rfl, durable_of_published same readable fresh whole⟩ publishable
  · intro committed isCommitted reader files memory loaded record mem agree
    exact same_of_committed injective (committed_of_load loaded record mem) isCommitted agree

end Durability

/-! ## An empty page -/

section EmptyPage

/-- A page without elements, under a title. -/
def emptyPage (title : CodePoints) : RawJson (Fin 10) :=
  .dict [
    ("url", .str []), ("title", .str title),
    ("viewport", .dict [("width", .int 800), ("height", .int 600)]),
    ("document", .dict [("height", .int 600), ("scroll_y", .int 0)]),
    ("focus", .null), ("regions", .list []), ("elements", .list []), ("overlays", .list []),
    ("textBlocks", .list []), ("scrollables", .list []), ("totalElements", .int 0),
    ("totalRegions", .int 0), ("textLimitReached", .bool false), ("signature", .str [])]

theorem emptyPage_wellShaped (title : CodePoints) : WellShaped (emptyPage title) := by
  refine ⟨rfl, fun value encoded => ?_⟩
  unfold emptyPage at encoded
  cases isText : encodeText title with
  | none =>
      simp only [RawJson.encode, RawJson.encodeEntries, isText] at encoded
      cases encoded
  | some text =>
      simp only [RawJson.encode, RawJson.encodeEntries, RawJson.encodeItems, isText] at encoded
      cases encoded
      refine ⟨?_, _, rfl⟩
      simp [Json.Distinct, Json.DistinctEntries, Json.DistinctItems]

def wholeNumber : Number (Fin 10) → Int
  | .int n => n
  | .float x => x

local instance neZero_whole : NeZero 10 := ⟨by decide⟩

/-- Arithmetic on whole numbers. -/
def wholeArithmetic : Arithmetic (Fin 10) where
  add a b := .int (wholeNumber a + wholeNumber b)
  sub a b := .int (wholeNumber a - wholeNumber b)
  mul a b := .int (wholeNumber a * wholeNumber b)
  div a b := .int (wholeNumber a / wholeNumber b)
  abs a := .int (wholeNumber a).natAbs
  hypot a b := .int (Nat.sqrt (wholeNumber a ^ 2 + wholeNumber b ^ 2).toNat)
  lt a b := wholeNumber a < wholeNumber b
  le a b := wholeNumber a ≤ wholeNumber b
  hundredths n := Fin.ofNat 10 (n / 100)

def wholeHost : ObserverHost (Fin 10) where
  sha256 := String.ofList
  lower := List.map Char.toLower
  math := wholeArithmetic

def wholeOptions : PageObservationOptions (Fin 10) := { maxRelationshipDistancePx := .int 500 }

def startedBackend (profile : ProfileChoice) : Backend where
  isStarted := true
  profile := profile
  backendIdentity := "playwright"
  browserIdentity := "chromium"
  browserSessionId := some "session"
  contextId := some "context"
  pageId := some "page"
  generation := 1

/-- A clock that stands still, a page that answers, and a disk that takes what it is given. -/
def pageScript (raw : RawJson (Fin 10)) : Script (ObserveSig (Fin 10)) Unit :=
  fun w c => match c with
  | .nowMs => ((0 : Int), w)
  | .monotonicMs => ((0 : Int), w)
  | .uuid => ("identifier", w)
  | .isoNow => ("timestamp", w)
  | .quiesce _ _ => ((.ok () : Except PyException Unit), w)
  | .snapshot _ _ _ _ _ => ((.ok raw : Except PyException (RawJson (Fin 10))), w)
  | .publish _ _ => ((.ok () : Except PyException Unit), w)

def uuidReading : Event (ObserveSig (Fin 10)) → Option String
  | ⟨.uuid, identifier⟩ => some identifier
  | _ => none

/-- What a run on an empty page is asked to satisfy. -/
structure EmptyPageRun (profile : ProfileChoice) (title : CodePoints) (t : Trace (ObserveSig (Fin 10)))
    (r : Except PyException (PageObservation (Fin 10))) (s' : ObserverState (Fin 10)) : Prop where
  run : Act.Runs (observePage wholeHost (startedBackend profile) wholeOptions) ⟨[], []⟩ t r s'
  answered : ∀ event ∈ t, Answered (emptyPage title) event
  inTime : WithinBudget wholeOptions t
  fresh : ∀ identifier, ⟨.uuid, identifier⟩ ∈ t →
    Unused wholeHost (browserBinding (startedBackend profile)) [] identifier

theorem emptyPageRun_of_play {profile : ProfileChoice} {title : CodePoints}
    {t : Trace (ObserveSig (Fin 10))} {r : Except PyException (PageObservation (Fin 10))}
    {s' : ObserverState (Fin 10)}
    (played : (observePage wholeHost (startedBackend profile) wholeOptions ⟨[], []⟩).play
      (pageScript (emptyPage title)) () = some (t, (r, s'), ())) :
    EmptyPageRun profile title t r s' := by
  refine ⟨Prog.runs_of_play played, ?_, ?_, ?_⟩
  · apply Prog.play_forall (P := Answered (emptyPage title)) (fun w c => ?_) played
    cases c with
    | snapshot => rfl
    | _ => trivial
  · have still : ∀ event ∈ t, ∀ ms, budgetReading event = some ms → ms = 0 := by
      apply Prog.play_forall (P := fun event => ∀ ms, budgetReading event = some ms → ms = 0)
        (fun w c => ?_) played
      intro ms reading
      cases c with
      | monotonicMs => exact (Option.some.inj reading).symm
      | _ => cases reading
    intro start later readings ms mem
    have zero (ms : Int) (isReading : ms ∈ t.filterMap budgetReading) : ms = 0 := by
      obtain ⟨event, there, reading⟩ := List.mem_filterMap.mp isReading
      exact still event there ms reading
    rw [zero start (by simp [readings]), zero ms (by simp [readings, mem])]
    decide
  · have named : ∀ event ∈ t, ∀ identifier, uuidReading event = some identifier →
        identifier = "identifier" := by
      apply Prog.play_forall (P := fun event => ∀ identifier, uuidReading event = some identifier →
        identifier = "identifier") (fun w c => ?_) played
      intro identifier reading
      cases c with
      | uuid => exact (Option.some.inj reading).symm
      | _ => cases reading
    intro identifier mem
    rw [named _ mem identifier rfl]
    exact ⟨by decide, by simp⟩

theorem failed_of_play {profile : ProfileChoice} {title : CodePoints}
    (failed : ((observePage wholeHost (startedBackend profile) wholeOptions ⟨[], []⟩).play
      (pageScript (emptyPage title)) ()).any (fun out => out.2.1.1.toOption.isNone) = true) :
    ∃ t e s', EmptyPageRun profile title t (.error e) s' := by
  obtain ⟨⟨t, ⟨r, s'⟩, ⟨⟩⟩, played, isError⟩ := (Option.any_eq_true _ _).mp failed
  cases r with
  | error e => exact ⟨t, e, s', emptyPageRun_of_play played⟩
  | ok observation => cases isError

end EmptyPage

theorem observePage_durable_emptyPage : ∃ t observation s',
    EmptyPageRun (.builtin .default) [] t (.ok observation) s' ∧
      Durable wholeHost (browserBinding (startedBackend (.builtin .default))) t s' observation := by
  obtain ⟨⟨t, ⟨r, s'⟩, ⟨⟩⟩, played⟩ := Option.isSome_iff_exists.mp (by decide +kernel :
    ((observePage wholeHost (startedBackend (.builtin .default)) wholeOptions ⟨[], []⟩).play
      (pageScript (emptyPage [])) ()).isSome = true)
  have seen := emptyPageRun_of_play played
  have durable := (observePage_durable_iff (fun _ _ eq => String.ofList_injective eq) rfl rfl
    (emptyPage_wellShaped []) seen.answered seen.inTime seen.run rfl rfl seen.fresh).1.mpr
    ⟨⟨.default, rfl⟩, (RawJson.encode_isSome_iff _).mp rfl⟩
  obtain ⟨observation, rfl, durable⟩ := durable
  exact ⟨t, observation, s', seen, durable⟩

/-- A title that ends in half of a surrogate pair is not published, and neither is a
page under a profile with a name. -/
theorem observePage_unpublished :
    (∃ t e s', EmptyPageRun (.builtin .default) [0xd83d] t (.error e) s') ∧
      ∃ t e s', EmptyPageRun (.named "work") [] t (.error e) s' := by
  constructor
  · exact failed_of_play (by decide +kernel)
  · exact failed_of_play (by decide +kernel)

end Dingdongditch.Observation
