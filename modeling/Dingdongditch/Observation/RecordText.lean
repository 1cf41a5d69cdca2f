import Dingdongditch.Observation.Observer

/-!
# Observations and commits in their text

A document is printed with its keys sorted, so an observation or a commit that is
read back has its values in normal form: it equals the one that was printed
(`normalized_same`, `normalizedCommit_same`), and carries the same hash.
-/

namespace Dingdongditch.Observation

open Text

variable {F : Type}

/-! ## Observations and their text -/

theorem mem_all (field : ObservationField) : field ∈ ObservationField.all := by
  cases field
  all_goals decide

theorem name_inj {a b : ObservationField} (same : a.name = b.name) : a = b := by
  revert same
  cases a
  all_goals
    cases b
    all_goals decide

theorem nodup_toDict (observation : PageObservation F) :
    (observation.toDict.map (·.1)).Nodup := by
  unfold PageObservation.toDict
  rw [List.map_map]
  exact List.Nodup.map (fun a b same => name_inj same) (by decide)

theorem lookup_toDict (observation : PageObservation F) (field : ObservationField) :
    observation.toDict.lookup field.name = some (observation.value field) := by
  rw [lookup_eq_some_iff (nodup_toDict observation)]
  exact List.mem_map.mpr ⟨field, mem_all field, rfl⟩

theorem PageObservation.Same.normalize_toDict {a b : PageObservation F} (same : a.Same b) :
    (Json.dict a.toDict).normalize id = (Json.dict b.toDict).normalize id := by
  have entries : Json.normalizeEntries id a.toDict = Json.normalizeEntries id b.toDict := by
    rw [Json.normalizeEntries_eq_map, Json.normalizeEntries_eq_map, PageObservation.toDict,
      PageObservation.toDict, List.map_map, List.map_map]
    apply List.map_congr_left
    intro field _
    exact Prod.ext rfl (same field)
  rw [Json.normalize, Json.normalize, entries]

theorem PageObservation.same_of_normalize {a b : PageObservation F}
    (same : (Json.dict a.toDict).normalize id = (Json.dict b.toDict).normalize id) : a.Same b := by
  intro field
  have mem : (field.name, a.value field) ∈ a.toDict := List.mem_map.mpr ⟨field, mem_all field, rfl⟩
  obtain ⟨v, there, eq⟩ := Json.mem_of_normalize_dict same mem
  have found := (lookup_eq_some_iff (nodup_toDict b)).mpr there
  rw [lookup_toDict] at found
  rw [eq, Option.some.inj found]

theorem PageObservation.Same.unsealed {a b : PageObservation F} (same : a.Same b) :
    a.unsealed.Same b.unsealed := by
  intro field
  unfold PageObservation.unsealed
  dsimp only
  split
  · rfl
  · exact same field

/-- The values of an observation as its text has them. -/
def normalized (observation : PageObservation F) : PageObservation F :=
  ⟨fun field => (observation.value field).normalize id⟩

theorem normalized_same (observation : PageObservation F) :
    (normalized observation).Same observation :=
  fun field => Json.normalize_normalize (observation.value field)

/-- The labels of an observation that was captured. -/
def Untrusted (observation : PageObservation F) : Prop :=
  observation.value .provenance = .list [.str "web_untrusted"]

/-! ## Commits and their text -/

theorem nodup_commit (commit : ObservationCommit F) : (commit.toDict.map (·.1)).Nodup := by
  change ObservationCommit.fieldNames.Nodup
  decide

/-- The values of a commit as its text has them. -/
def normalizedCommit (commit : ObservationCommit F) : ObservationCommit F where
  commitId := commit.commitId.normalize id
  transactionId := commit.transactionId.normalize id
  observationId := commit.observationId.normalize id
  snapshotId := commit.snapshotId.normalize id
  observationHash := commit.observationHash.normalize id
  committedAtMs := commit.committedAtMs.normalize id
  browserBinding := commit.browserBinding.normalize id
  evidence := commit.evidence.normalize id

theorem normalizedCommit_same (commit : ObservationCommit F) :
    (normalizedCommit commit).Same commit := by
  unfold ObservationCommit.Same
  have entries : Json.normalizeEntries id (normalizedCommit commit).toDict =
      Json.normalizeEntries id commit.toDict := by
    simp only [normalizedCommit, ObservationCommit.toDict, Json.normalizeEntries,
      Json.normalize_normalize]
  rw [Json.normalize, Json.normalize, entries]

theorem commit_fromDict_normalized (commit : ObservationCommit F) :
    ObservationCommit.fromDict (Json.sortEntries (Json.normalizeEntries id commit.toDict)) =
      some (normalizedCommit commit) := by
  have given (key : String) :
      (Json.sortEntries (Json.normalizeEntries id commit.toDict)).lookup key =
        (commit.toDict.lookup key).map (Json.normalize id) :=
    Json.lookup_normalizeEntries (nodup_commit commit) key
  have known : (Json.sortEntries (Json.normalizeEntries id commit.toDict)).all
      (fun entry => ObservationCommit.fieldNames.contains entry.1) = true := by
    rw [List.all_eq_true]
    intro entry mem
    obtain ⟨v, there, -⟩ := Json.mem_normalize_dict.mp mem
    exact List.contains_iff_mem.mpr (List.mem_map_of_mem (f := (·.1)) there)
  unfold ObservationCommit.fromDict
  simp only [given, known, Bool.not_true, Bool.false_eq_true, if_false]
  rfl

/-! ## Bindings and their text -/

variable {backend : Backend}

theorem nodup_binding : ((browserBinding (F := F) backend).map (·.1)).Nodup := by
  change ["backend_identity", "browser_identity", "browser_session_id", "session_identity",
    "context_id", "page_id", "backend_generation", "binding_generation"].Nodup
  decide

theorem optionalText_normalize (text : Option String) :
    (optionalText (F := F) text).normalize id = optionalText text := by
  cases text
  all_goals rfl

/-- The text of a binding identifies the same browser. -/
theorem bindingIdentity_normalize :
    bindingIdentity (Json.sortEntries (Json.normalizeEntries id (browserBinding (F := F) backend))) =
      bindingIdentity (browserBinding backend) := by
  apply List.map_congr_left
  intro key mem
  have key_value : (browserBinding (F := F) backend).lookup key ∈
      [some (.str backend.backendIdentity), some (.str backend.browserIdentity),
        some (optionalText backend.browserSessionId), some (optionalText backend.contextId),
        some (optionalText backend.pageId), some (.int backend.generation)] := by
    simp only [BINDING_KEYS, List.mem_cons, List.not_mem_nil, or_false] at mem
    rcases mem with rfl | rfl | rfl | rfl | rfl | rfl
    all_goals simp [browserBinding, List.lookup_cons]
  unfold Json.get
  rw [Json.lookup_normalizeEntries nodup_binding]
  simp only [List.mem_cons, List.not_mem_nil, or_false] at key_value
  rcases key_value with eq | eq | eq | eq | eq | eq
  · rw [eq]
    rfl
  · rw [eq]
    rfl
  all_goals
    rw [eq]
    simp only [Option.map_some, Option.getD_some, optionalText_normalize, Json.normalize]

theorem subscript_normalize {entries : List (String × Json F)} (distinct : (entries.map (·.1)).Nodup)
    (key : String) : subscript ((Json.dict entries).normalize id) key =
      (entries.lookup key).map (Json.normalize id) :=
  Json.lookup_normalizeEntries distinct key

/-! ## The names and the binding of a record -/

theorem stemOf_recordName {commitId : String} (identified : commitId ≠ "") :
    stemOf (recordName commitId) = commitId := by
  have chars : (recordName commitId).toList = commitId.toList ++ ".json".toList :=
    String.toList_append
  have other : recordName commitId ≠ ".json" := by
    intro same
    rw [same] at chars
    have none : commitId.toList = [] := by
      have lengths := congrArg List.length chars
      rw [List.length_append] at lengths
      exact List.length_eq_zero_iff.mp (by omega)
    exact identified (String.toList_eq_nil_iff.mp none)
  have five : (".json".toList).length = 5 := rfl
  rw [stemOf, if_neg other, chars, List.length_append, five, Nat.add_sub_cancel,
    List.take_left, String.ofList_toList]

/-- The binding that a snapshot was captured under, in the text of its commit. -/
theorem snapshotCore_binding {capture : Capture F} {moment : Moment}
    {snapshotHash : String} {observationHash : Json F} {committedAtMs : Int} :
    ((subscript (normalizedCommit (commitOf backend capture moment snapshotHash observationHash
      committedAtMs)).evidence "snapshot_core").bind fun core => subscript core "browser_binding") =
      some (.dict (Json.sortEntries (Json.normalizeEntries id (browserBinding backend)))) := by
  have core : subscript ((Json.dict [("snapshot_core",
      snapshotCore backend capture moment snapshotHash)]).normalize id) "snapshot_core" =
      some ((snapshotCore backend capture moment snapshotHash).normalize id) := by
    rw [subscript_normalize (by simp)]
    rfl
  have binding : subscript ((snapshotCore backend capture moment snapshotHash).normalize id)
      "browser_binding" = some ((Json.dict (browserBinding backend)).normalize id) := by
    rw [snapshotCore, subscript_normalize (by simp)]
    rfl
  change (subscript ((Json.dict [("snapshot_core",
    snapshotCore backend capture moment snapshotHash)]).normalize id) "snapshot_core").bind _ = _
  rw [core, Option.bind_some, binding]
  rfl
variable [Floating F]

theorem fromDict_normalized {observation : PageObservation F} (untrusted : Untrusted observation) :
    PageObservation.fromDict (Json.sortEntries (Json.normalizeEntries id observation.toDict)) =
      some (normalized observation) := by
  have given (field : ObservationField) :
      (Json.sortEntries (Json.normalizeEntries id observation.toDict)).lookup field.name =
        some ((observation.value field).normalize id) := by
    rw [Json.lookup_normalizeEntries (nodup_toDict observation), lookup_toDict, Option.map_some]
  have known : ∀ entry ∈ Json.sortEntries (Json.normalizeEntries id observation.toDict),
      ∃ field : ObservationField, field.name = entry.1 := by
    intro entry mem
    obtain ⟨v, there, -⟩ := Json.mem_normalize_dict.mp mem
    obtain ⟨field, -, eq⟩ := List.mem_map.mp there
    exact ⟨field, (Prod.mk.inj eq).1⟩
  unfold PageObservation.fromDict
  simp only [given]
  rw [if_pos]
  · unfold PageObservation.make
    have labels : normalizeProvenance ((observation.value .provenance).normalize id) =
        some (.list [.str "web_untrusted"]) := by
      rw [untrusted]
      rfl
    change Option.map _ (normalizeProvenance ((observation.value .provenance).normalize id)) = _
    rw [labels, Option.map_some]
    congr 2
    funext field
    split
    · next isProvenance =>
        rw [isProvenance, untrusted]
        rfl
    · rfl
  · simp only [Bool.and_eq_true, List.all_eq_true, List.any_eq_true, decide_eq_true_eq]
    refine ⟨fun entry mem => ?_, fun _ _ => rfl⟩
    obtain ⟨field, isName⟩ := known entry mem
    exact ⟨field, mem_all field, isName⟩

/-! ## Equality of values -/

theorem pyEq_str {s t : String} : Json.pyEq (F := F) (.str s) (.str t) = true ↔ s = t := by
  unfold Json.pyEq Json.normalize Json.looseEq
  simp

theorem pyEq_str_iff {v : Json F} {s : String} : Json.pyEq v (.str s) = true ↔ v = .str s := by
  constructor
  · exact Json.eq_str_of_pyEq
  · rintro rfl
    exact pyEq_str.mpr rfl

theorem eq_str_of_pyEq_right {v : Json F} {s : String} (same : Json.pyEq (.str s) v = true) :
    v = .str s := by
  cases v with
  | str t => rw [pyEq_str.mp same]
  | _ => cases same

theorem PageObservation.Same.verify {a b : PageObservation F} (sha256 : List Char → String)
    (same : a.Same b) (verified : verifyObservationHash sha256 a = true) :
    verifyObservationHash sha256 b = true := by
  unfold verifyObservationHash canonicalHash at verified ⊢
  unfold Json.pyEq at verified ⊢
  rw [← same.unsealed.normalize_toDict, ← same .observationHash]
  exact verified

theorem sameIdentity_self : sameIdentity (bindingIdentity (browserBinding (F := F) backend))
    (bindingIdentity (browserBinding backend)) = true := by
  have finite (text : Option String) : (optionalText (F := F) text).isFinite = true := by
    cases text
    all_goals rfl
  have optional (text : Option String) :
      Json.pyEq (optionalText (F := F) text) (optionalText text) = true := Json.pyEq_self (finite text)
  have number : Json.pyEq (.int backend.generation : Json F) (.int backend.generation) = true :=
    Json.pyEq_self rfl
  simp [sameIdentity, bindingIdentity, BINDING_KEYS, browserBinding, Json.get, List.lookup_cons,
    pyEq_str, optional, number]

end Dingdongditch.Observation
