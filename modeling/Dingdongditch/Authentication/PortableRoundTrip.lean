import Dingdongditch.Authentication.PortableState
import Dingdongditch.Contract.ChainSealing
import Dingdongditch.Contract.OriginPolicy

/-!
# What is exported can be imported

A validated storage state is well formed (`WellFormed`), an export keeps it so and
leaves nothing sensitive in it, and a well-formed state without sensitive entries
is what the importer reads back from its document.
-/

namespace Dingdongditch.PortableState

open Text

variable {F : Type} {codec : HostCodec} {allowIndexedDB rejectSensitive : Bool}

theorem rejectWith_bind_ok {α : Type} {bad : Bool} {e : PyException}
    {f : Unit → Except PyException α} {a : α} (passed : (rejectWith bad e >>= f) = .ok a) :
    bad = false ∧ f () = .ok a := by
  cases bad with
  | true => cases passed
  | false => exact ⟨rfl, passed⟩

theorem rejectWith_false {α : Type} {bad : Bool} {e : PyException}
    {f : Unit → Except PyException α} (good : bad = false) : (rejectWith bad e >>= f) = f () := by
  subst good
  rfl

/-! ## The parts of a state -/

/-- A canonical origin is its own canonical form. -/
theorem safeOrigin_again {value : Json F} {origin : String}
    (safe : safeOrigin codec value = .ok origin) :
    safeOrigin codec (.str origin : Json F) = .ok origin := by
  unfold safeOrigin at safe
  split at safe
  · next text =>
      split at safe
      · cases safe
      next parsed split =>
        split at safe
        · cases safe
        next good =>
          cases safe
          simp only [not_or, not_and, Decidable.not_not] at good
          obtain ⟨isScheme, hasNetloc, noUser, -⟩ := good
          have isScheme : parsed.scheme = "http".toList ∨ parsed.scheme = "https".toList := by
            by_cases http : parsed.scheme = "http".toList
            · exact .inl http
            · exact .inr (isScheme http)
          have letters : ∀ c ∈ parsed.scheme, c.isAlpha = true ∧ c.toLower = c := by
            rcases isScheme with is | is
            · rw [is]
              decide
            · rw [is]
              decide
          have nonempty : parsed.scheme ≠ [] := by
            rcases isScheme with is | is
            · rw [is]
              decide
            · rw [is]
              decide
          have again := urlsplit_origin split nonempty letters
          simp only [safeOrigin, String.toList_ofList, again]
          refine if_neg ?_
          rintro (⟨notHttp, notHttps⟩ | empty | user | query | fragment | path)
          · rcases isScheme with is | is
            · exact notHttp is
            · exact notHttps is
          · exact hasNetloc empty
          · exact noUser user
          · exact query rfl
          · exact fragment rfl
          · exact path.1 rfl
  · cases safe

/-- A checked cookie is returned as it is. -/
theorem checkCookie_ok {cookie : Json F} {entries : List (String × Json F)}
    (checked : checkCookie cookie = .ok entries) : cookie = .dict entries := by
  unfold checkCookie at checked
  split at checked
  · split at checked
    · obtain ⟨-, same⟩ := rejectWith_bind_ok checked
      cases same
      rfl
    · cases checked
  · cases checked

/-- A checked item fits its bounds, and is not sensitive where that is refused. -/
theorem checkItem_ok {item : Json F} {pair : String × String}
    (checked : checkItem rejectSensitive item = .ok pair) :
    pair.1.length ≤ 2048 ∧ pair.2.length ≤ 65536 := by
  unfold checkItem at checked
  split at checked
  · split at checked
    · obtain ⟨fits, checked⟩ := rejectWith_bind_ok checked
      obtain ⟨-, same⟩ := rejectWith_bind_ok checked
      cases same
      simp only [Bool.or_eq_false_iff, decide_eq_false_iff_not, not_lt] at fits
      exact fits
    · cases checked
  · cases checked

/-- A fitting item passes, rendered. -/
theorem checkItem_itemJson {pair : String × String} (name : pair.1.length ≤ 2048)
    (value : pair.2.length ≤ 65536) (plain : isSensitive pair = false) :
    checkItem rejectSensitive (itemJson pair : Json F) = .ok pair := by
  have fits : (decide (2048 < pair.1.length) || decide (65536 < pair.2.length)) = false := by
    simp only [Bool.or_eq_false_iff, decide_eq_false_iff_not, not_lt]
    exact ⟨name, value⟩
  have read : checkItem rejectSensitive (itemJson pair : Json F) = (do
      rejectWith (2048 < pair.1.length || 65536 < pair.2.length)
        (sessionInvalid "session file contains oversized local storage")
      rejectWith (rejectSensitive && isSensitive pair)
        (sessionInvalid "session file contains excluded sensitive local storage")
      return pair) := rfl
  rw [read, rejectWith_false fits, plain, Bool.and_false]
  rfl

/-- The databases of an origin, where IndexedDB is allowed. -/
def GoodDatabases (allowIndexedDB : Bool) (databases : Option (List (Json F))) : Prop :=
  ∀ list ∈ databases, allowIndexedDB = true ∧ list.length ≤ 64 ∧ list.all namesDatabase = true

theorem checkIndexedDB_ok {value : Json F} {databases : Option (List (Json F))}
    (checked : checkIndexedDB allowIndexedDB value = .ok databases) :
    GoodDatabases allowIndexedDB databases := by
  unfold checkIndexedDB at checked
  split at checked
  · cases checked
    intro list isList
    cases isList
  · obtain ⟨allowed, checked⟩ := rejectWith_bind_ok checked
    split at checked
    · obtain ⟨good, same⟩ := rejectWith_bind_ok checked
      cases same
      intro list isList
      cases isList
      simp only [Bool.or_eq_false_iff, decide_eq_false_iff_not, not_lt, Bool.not_eq_false'] at good
      exact ⟨by simpa using allowed, good⟩
    · cases checked

theorem checkIndexedDB_list {databases : List (Json F)}
    (good : GoodDatabases allowIndexedDB (some databases)) :
    checkIndexedDB allowIndexedDB (.list databases) = .ok (some databases) := by
  obtain ⟨rfl, few, named⟩ := good databases rfl
  have fits : (decide (64 < databases.length) || !databases.all namesDatabase) = false := by
    simp only [Bool.or_eq_false_iff, decide_eq_false_iff_not, not_lt, Bool.not_eq_false']
    exact ⟨few, named⟩
  have read : checkIndexedDB true (.list databases) = (do
      rejectWith (64 < databases.length || !databases.all namesDatabase)
        (sessionInvalid "session file contains invalid IndexedDB state")
      return some databases) := rfl
  rw [read, rejectWith_false fits]
  rfl

/-! ## A state -/

/-- An origin that the validation returns. -/
structure GoodOrigin (codec : HostCodec) (allowIndexedDB : Bool) (o : PortableOrigin F) : Prop where
  canonical : safeOrigin codec (.str o.origin : Json F) = .ok o.origin
  few : o.localStorage.length ≤ 1024
  bounded : ∀ pair ∈ o.localStorage, pair.1.length ≤ 2048 ∧ pair.2.length ≤ 65536
  databases : GoodDatabases allowIndexedDB o.indexedDB

/-- A state that the validation returns. -/
structure WellFormed (codec : HostCodec) (allowIndexedDB : Bool) (s : StorageState F) : Prop where
  fewCookies : s.cookies.length ≤ 1024
  cookies : ∀ cookie ∈ s.cookies, checkCookie (.dict cookie) = .ok cookie
  fewOrigins : s.origins.length ≤ 256
  origins : ∀ o ∈ s.origins, GoodOrigin codec allowIndexedDB o
  distinct : (s.origins.map (·.origin)).Nodup

/-- A state without sensitive entries. -/
def Clean (s : StorageState F) : Prop :=
  ∀ o ∈ s.origins, ∀ pair ∈ o.localStorage, isSensitive pair = false

theorem checkOrigin_ok {seen : List String} {origin : Json F} {o : PortableOrigin F}
    (checked : checkOrigin codec allowIndexedDB rejectSensitive seen origin = .ok o) :
    GoodOrigin codec allowIndexedDB o ∧ o.origin ∉ seen := by
  unfold checkOrigin at checked
  split at checked
  · split at checked
    · next storage =>
        obtain ⟨canonical, isCanonical, checked⟩ := bind_eq_ok.mp checked
        obtain ⟨fresh, checked⟩ := rejectWith_bind_ok checked
        obtain ⟨few, checked⟩ := rejectWith_bind_ok checked
        obtain ⟨items, areItems, checked⟩ := bind_eq_ok.mp checked
        obtain ⟨databases, areDatabases, same⟩ := bind_eq_ok.mp checked
        cases same
        have fewItems : items.length ≤ 1024 := by
          have := length_of_mapM_eq_ok areItems
          have := of_decide_eq_false few
          omega
        refine ⟨⟨safeOrigin_again isCanonical, fewItems, ?_, checkIndexedDB_ok areDatabases⟩,
          of_decide_eq_false fresh⟩
        intro pair mem
        obtain ⟨item, -, isItem⟩ := mem_of_mapM_eq_ok areItems mem
        exact checkItem_ok isItem
    · cases checked
  · cases checked

theorem checkOrigins_ok {seen : List String} {origins : List (Json F)} {os : List (PortableOrigin F)}
    (checked : checkOrigins codec allowIndexedDB rejectSensitive seen origins = .ok os) :
    os.length = origins.length ∧ (∀ o ∈ os, GoodOrigin codec allowIndexedDB o) ∧
      (os.map (·.origin)).Nodup ∧ ∀ o ∈ os, o.origin ∉ seen := by
  induction origins generalizing seen os with
  | nil =>
      cases checked
      exact ⟨rfl, by simp, by simp, by simp⟩
  | cons origin origins ih =>
      obtain ⟨first, isFirst, checked⟩ := bind_eq_ok.mp checked
      obtain ⟨later, areLater, same⟩ := bind_eq_ok.mp checked
      cases same
      obtain ⟨good, fresh⟩ := checkOrigin_ok isFirst
      obtain ⟨length, goodLater, distinct, freshLater⟩ := ih areLater
      have apart : ∀ o ∈ later, o.origin ∉ seen ∧ o.origin ≠ first.origin := by
        intro o mem
        have := freshLater o mem
        simp only [List.mem_append, List.mem_singleton, not_or] at this
        exact this
      refine ⟨by simp [length], List.forall_mem_cons.mpr ⟨good, goodLater⟩, ?_,
        List.forall_mem_cons.mpr ⟨fresh, fun o mem => (apart o mem).1⟩⟩
      rw [List.map_cons, List.nodup_cons]
      refine ⟨?_, distinct⟩
      intro mem
      obtain ⟨o, isLater, same⟩ := List.mem_map.mp mem
      exact (apart o isLater).2 same

/-- What the validation returns is well formed. -/
theorem validateStorageState_ok {raw : Json F} {s : StorageState F}
    (validated : validateStorageState codec allowIndexedDB rejectSensitive raw = .ok s) :
    WellFormed codec allowIndexedDB s := by
  unfold validateStorageState at validated
  split at validated
  · split at validated
    · obtain ⟨few, validated⟩ := rejectWith_bind_ok validated
      obtain ⟨cookies, areCookies, validated⟩ := bind_eq_ok.mp validated
      obtain ⟨origins, areOrigins, same⟩ := bind_eq_ok.mp validated
      cases same
      simp only [Bool.or_eq_false_iff, decide_eq_false_iff_not, not_lt] at few
      obtain ⟨length, good, distinct, -⟩ := checkOrigins_ok areOrigins
      refine ⟨(length_of_mapM_eq_ok areCookies).trans_le few.1, ?_, length.trans_le few.2, good,
        distinct⟩
      intro cookie mem
      obtain ⟨value, -, isCookie⟩ := mem_of_mapM_eq_ok areCookies mem
      rwa [checkCookie_ok isCookie] at isCookie
    · cases validated
  · cases validated

/-! ## The way back -/

theorem checkOrigin_toJson {seen : List String} {o : PortableOrigin F}
    (good : GoodOrigin codec allowIndexedDB o) (fresh : o.origin ∉ seen)
    (clean : ∀ pair ∈ o.localStorage, isSensitive pair = false) :
    checkOrigin codec allowIndexedDB rejectSensitive seen o.toJson = .ok o := by
  rcases o with ⟨origin, items, databases⟩
  have read : checkOrigin codec allowIndexedDB rejectSensitive seen
      (PortableOrigin.toJson ⟨origin, items, databases⟩ : Json F) = (do
        let canonical ← safeOrigin codec (.str origin : Json F)
        rejectWith (canonical ∈ seen)
          (sessionInvalid "session file contains duplicate storage origins")
        rejectWith (1024 < (items.map (itemJson : _ → Json F)).length)
          (sessionInvalid "session file local storage exceeds entry limits")
        let items ← (items.map (itemJson : _ → Json F)).mapM (checkItem rejectSensitive)
        let databases ← checkIndexedDB allowIndexedDB (databases.elim .null .list)
        return ⟨canonical, items, databases⟩) := by
    cases databases <;> rfl
  have isFresh : decide (origin ∈ seen) = false := decide_eq_false fresh
  have few : decide (1024 < (items.map (itemJson : _ → Json F)).length) = false := by
    rw [List.length_map]
    exact decide_eq_false (Nat.not_lt.mpr good.few)
  have recovered : (items.map (itemJson : _ → Json F)).mapM (checkItem rejectSensitive) =
      .ok items := by
    refine mapM_render ?_
    intro pair mem
    obtain ⟨name, value⟩ := good.bounded pair mem
    exact checkItem_itemJson name value (clean pair mem)
  have databasesAgain : checkIndexedDB allowIndexedDB (databases.elim .null .list) =
      .ok databases := by
    cases databases with
    | none => rfl
    | some list => exact checkIndexedDB_list good.databases
  have canonical : safeOrigin codec (.str origin : Json F) = .ok origin := good.canonical
  rw [read, canonical]
  simp only [bind, Except.bind, rejectWith, isFresh, few, recovered, databasesAgain]
  rfl

theorem checkOrigins_toJson {seen : List String} {os : List (PortableOrigin F)}
    (good : ∀ o ∈ os, GoodOrigin codec allowIndexedDB o) (distinct : (os.map (·.origin)).Nodup)
    (fresh : ∀ o ∈ os, o.origin ∉ seen)
    (clean : ∀ o ∈ os, ∀ pair ∈ o.localStorage, isSensitive pair = false) :
    checkOrigins codec allowIndexedDB rejectSensitive seen (os.map (·.toJson)) = .ok os := by
  induction os generalizing seen with
  | nil => rfl
  | cons o os ih =>
      obtain ⟨goodFirst, goodLater⟩ := List.forall_mem_cons.mp good
      obtain ⟨freshFirst, freshLater⟩ := List.forall_mem_cons.mp fresh
      obtain ⟨cleanFirst, cleanLater⟩ := List.forall_mem_cons.mp clean
      obtain ⟨unlike, distinctLater⟩ := List.nodup_cons.mp distinct
      have later : ∀ other ∈ os, other.origin ∉ seen ++ [o.origin] := by
        intro other mem again
        rcases List.mem_append.mp again with before | same
        · exact freshLater other mem before
        · rw [List.mem_singleton] at same
          exact unlike (List.mem_map.mpr ⟨other, mem, same⟩)
      rw [List.map_cons, checkOrigins, checkOrigin_toJson goodFirst freshFirst cleanFirst]
      have rest := ih goodLater distinctLater later cleanLater
      simp only [bind, Except.bind, rest]
      rfl

/-- A well-formed state without sensitive entries is read back from its document. -/
theorem WellFormed.validate_toJson {s : StorageState F} (good : WellFormed codec allowIndexedDB s)
    (clean : Clean s) :
    validateStorageState codec allowIndexedDB rejectSensitive s.toJson = .ok s := by
  have read : validateStorageState codec allowIndexedDB rejectSensitive s.toJson = (do
      rejectWith (1024 < (s.cookies.map .dict : List (Json F)).length ||
          256 < (s.origins.map (·.toJson)).length)
        (sessionInvalid "session file exceeds portable state entry limits")
      let cookies ← (s.cookies.map .dict).mapM checkCookie
      let origins ← checkOrigins codec allowIndexedDB rejectSensitive [] (s.origins.map (·.toJson))
      return ⟨cookies, origins⟩) := rfl
  have few : (decide (1024 < (s.cookies.map .dict : List (Json F)).length) ||
      decide (256 < (s.origins.map (·.toJson)).length)) = false := by
    simp only [List.length_map, Bool.or_eq_false_iff, decide_eq_false_iff_not, not_lt]
    exact ⟨good.fewCookies, good.fewOrigins⟩
  have cookies : (s.cookies.map .dict).mapM (checkCookie (F := F)) = .ok s.cookies :=
    mapM_render good.cookies
  have origins : checkOrigins codec allowIndexedDB rejectSensitive [] (s.origins.map (·.toJson)) =
      .ok s.origins :=
    checkOrigins_toJson good.origins good.distinct (by simp) clean
  rw [read, rejectWith_false few, cookies, origins]
  rfl

/-! ## Export and import -/

/-- The state that an export writes. -/
def exported (policy : Policy) (raw : StorageState F) : StorageState F where
  cookies := if policy.includeCookies then raw.cookies else []
  origins := raw.origins.map (exportOrigin policy)

theorem buildPortableState_ok {rawState : Json F} {policy : Policy} {createdAtEpochMs : Option Int}
    {nowMs : Int} {document : Document F} {receipt : Receipt}
    (built : buildPortableState codec rawState policy createdAtEpochMs nowMs = .ok (document, receipt)) :
    ∃ raw, validateStorageState codec policy.includeIndexedDB false rawState = .ok raw ∧
      document = ⟨createdAtEpochMs.getD nowMs, policy.features, exported policy raw⟩ := by
  obtain ⟨-, -, built⟩ := bind_eq_ok.mp built
  obtain ⟨raw, validated, same⟩ := bind_eq_ok.mp built
  cases same
  exact ⟨raw, validated, rfl⟩

theorem GoodOrigin.exported {policy : Policy} {o : PortableOrigin F}
    (good : GoodOrigin codec policy.includeIndexedDB o) :
    GoodOrigin codec policy.includeIndexedDB (exportOrigin policy o) := by
  have kept : (exportOrigin policy o).localStorage.Sublist o.localStorage := by
    simp only [exportOrigin]
    split
    · exact List.filter_sublist
    · exact List.nil_sublist _
  refine ⟨good.canonical, kept.length_le.trans good.few,
    fun pair mem => good.bounded pair (kept.subset mem), ?_⟩
  simp only [exportOrigin]
  split
  · exact good.databases
  · intro list isList
    cases isList

/-- An export keeps a state well formed. -/
theorem WellFormed.exported {policy : Policy} {raw : StorageState F}
    (good : WellFormed codec policy.includeIndexedDB raw) :
    WellFormed codec policy.includeIndexedDB (exported policy raw) := by
  have names : ((PortableState.exported policy raw).origins.map (·.origin)) =
      raw.origins.map (·.origin) := by
    simp only [PortableState.exported, List.map_map]
    rfl
  constructor
  · simp only [PortableState.exported]
    split
    · exact good.fewCookies
    · exact Nat.zero_le _
  · intro cookie mem
    simp only [PortableState.exported] at mem
    split at mem
    · exact good.cookies cookie mem
    · cases mem
  · simp only [PortableState.exported, List.length_map]
    exact good.fewOrigins
  · intro o mem
    obtain ⟨raw, isRaw, rfl⟩ := List.mem_map.mp mem
    exact (good.origins raw isRaw).exported
  · rw [names]
    exact good.distinct

/-- An export leaves no sensitive entry in a state. -/
theorem clean_exported (policy : Policy) (raw : StorageState F) : Clean (exported policy raw) := by
  intro o mem pair isPair
  obtain ⟨raw, -, rfl⟩ := List.mem_map.mp mem
  simp only [exportOrigin] at isPair
  split at isPair
  · simpa using (List.mem_filter.mp isPair).2
  · cases isPair

theorem checkFeature_value (feature : Feature) :
    checkFeature (.str feature.value : Json F) = .ok feature := by
  cases feature <;> rfl

/-- A state with IndexedDB is exported under a policy that says so. -/
theorem declares_indexedDB {policy : Policy} {raw : StorageState F}
    (has : (exported policy raw).origins.any (·.indexedDB.isSome) = true) :
    policy.includeIndexedDB = true ∧ Feature.indexedDB ∈ policy.features := by
  obtain ⟨o, mem, isSome⟩ := List.any_eq_true.mp has
  obtain ⟨raw, -, rfl⟩ := List.mem_map.mp mem
  have included : policy.includeIndexedDB = true := by
    by_contra excluded
    simp [exportOrigin, excluded] at isSome
  exact ⟨included, List.mem_filter.mpr ⟨by decide, included⟩⟩

/-- What an import reads in a document whose parts pass their checks. -/
theorem validatePortableDocument_toJson [Floating F] {d : Document F} {maxAgeMs nowMs : Int}
    (allowed : 1 ≤ maxAgeMs ∧ maxAgeMs ≤ 30 * 24 * 60 * 60 * 1000)
    (young : 0 ≤ nowMs - d.createdAtEpochMs ∧ nowMs - d.createdAtEpochMs ≤ maxAgeMs)
    (distinct : d.portableFeatures.Nodup)
    (valid : validateStorageState codec allowIndexedDB true d.storageState.toJson =
      .ok d.storageState)
    (declared : d.storageState.origins.any (·.indexedDB.isSome) = true →
      allowIndexedDB = true ∧ Feature.indexedDB ∈ d.portableFeatures) :
    ∃ receipt, validatePortableDocument codec d.toJson maxAgeMs allowIndexedDB nowMs =
      .ok (d.storageState, receipt) := by
  have inBounds : (decide (maxAgeMs < 1) || decide (30 * 24 * 60 * 60 * 1000 < maxAgeMs)) = false := by
    simp only [Bool.or_eq_false_iff, decide_eq_false_iff_not]
    omega
  have inTime : (decide (nowMs - d.createdAtEpochMs < 0) ||
      decide (maxAgeMs < nowMs - d.createdAtEpochMs)) = false := by
    simp only [Bool.or_eq_false_iff, decide_eq_false_iff_not]
    omega
  have sameSchema : (!Json.pyEq (.int schemaVersion : Json F) (.int schemaVersion) ||
      !Json.pyEq (.str kind : Json F) (.str kind)) = false := rfl
  have features : (d.portableFeatures.map fun feature => (.str feature.value : Json F)).mapM
      checkFeature = .ok d.portableFeatures :=
    mapM_render fun feature _ => checkFeature_value feature
  have unrepeated : decide (¬ d.portableFeatures.Nodup) = false := by simpa using distinct
  have isDeclared : (d.storageState.origins.any (·.indexedDB.isSome) &&
      decide (Feature.indexedDB ∉ d.portableFeatures)) = false := by
    cases has : d.storageState.origins.any (·.indexedDB.isSome) with
    | false => rfl
    | true => simp [(declared has).2]
  have permitted : (d.storageState.origins.any (·.indexedDB.isSome) && !allowIndexedDB) = false := by
    cases has : d.storageState.origins.any (·.indexedDB.isSome) with
    | false => rfl
    | true => simp [(declared has).1]
  refine ⟨{
    direction := "import"
    includedFeatures := d.portableFeatures
    excludedFeatures := Feature.all.filter (· ∉ d.portableFeatures)
    cookieCount := d.storageState.cookies.length
    originCount := d.storageState.origins.length
    stateAgeMs := some (max 0 (nowMs - d.createdAtEpochMs)) }, ?_⟩
  refine (rejectWith_false inBounds).trans ?_
  refine (rejectWith_false sameSchema).trans ?_
  refine (rejectWith_false inTime).trans ?_
  refine bind_eq_ok.mpr ⟨_, features, ?_⟩
  refine (rejectWith_false unrepeated).trans ?_
  refine bind_eq_ok.mpr ⟨_, valid, ?_⟩
  refine (rejectWith_false isDeclared).trans ?_
  refine (rejectWith_false permitted).trans ?_
  rfl

/-- What an export writes is imported as it was written, within its age and with
IndexedDB where the export had it. -/
theorem portable_round_trip [Floating F] {rawState : Json F} {policy : Policy}
    {createdAtEpochMs : Option Int} {exportedAt importedAt maxAgeMs : Int} {document : Document F}
    {receipt : Receipt}
    (built : buildPortableState codec rawState policy createdAtEpochMs exportedAt =
      .ok (document, receipt))
    (allowed : 1 ≤ maxAgeMs ∧ maxAgeMs ≤ 30 * 24 * 60 * 60 * 1000)
    (young : 0 ≤ importedAt - document.createdAtEpochMs ∧
      importedAt - document.createdAtEpochMs ≤ maxAgeMs) :
    ∃ imported, validatePortableDocument codec document.toJson maxAgeMs policy.includeIndexedDB
      importedAt = .ok (document.storageState, imported) := by
  obtain ⟨raw, validated, rfl⟩ := buildPortableState_ok built
  have good := (validateStorageState_ok validated).exported
  have distinct : policy.features.Nodup := List.Nodup.filter _ (by decide)
  exact validatePortableDocument_toJson allowed young distinct
    (good.validate_toJson (clean_exported policy raw)) declares_indexedDB

/-! ## A browser with a token in its local storage -/

def browserState : Json (Fin 10) := .dict [
  ("cookies", .list [.dict [("name", .str "id"), ("value", .str "7"), ("domain", .str "a.example"),
    ("path", .str "/"), ("secure", .bool true)]]),
  ("origins", .list [.dict [("origin", .str "HTTPS://a.example/"),
    ("localStorage", .list [
      .dict [("name", .str "theme"), ("value", .str "dark")],
      .dict [("name", .str "AccessToken"), ("value", .str "x")],
      .dict [("name", .str "greeting"), ("value", .str "Bearer x")]]),
    ("indexedDB", .list [.dict [("name", .str "drafts")]])]])]

/-- The token and the bearer value stay behind; the rest of the origin travels. -/
theorem portable_round_trip_browserState : ∃ document receipt imported,
    buildPortableState asciiCodec browserState { includeIndexedDB := true } none 1000 =
      .ok (document, receipt) ∧
    document.storageState.origins.map (fun o => (o.origin, o.localStorage)) =
      [("https://a.example", [("theme", "dark")])] ∧
    receipt.sensitiveLocalStorageEntriesExcluded = 2 ∧
    validatePortableDocument asciiCodec document.toJson defaultMaxAgeMs true 5000 =
      .ok (document.storageState, imported) := by
  have shown : (buildPortableState asciiCodec browserState { includeIndexedDB := true } none
      1000).toOption.any (fun (document, receipt) => document.createdAtEpochMs = 1000 ∧
        document.storageState.origins.map (fun o => (o.origin, o.localStorage)) =
          [("https://a.example", [("theme", "dark")])] ∧
        receipt.sensitiveLocalStorageEntriesExcluded = 2) = true := by decide +kernel
  obtain ⟨⟨document, receipt⟩, isOk, holds⟩ := (Option.any_eq_true _ _).mp shown
  have built : buildPortableState asciiCodec browserState { includeIndexedDB := true } none 1000 =
      .ok (document, receipt) := by
    cases result : buildPortableState asciiCodec browserState { includeIndexedDB := true } none 1000 with
    | error _ => simp [result, Except.toOption] at isOk
    | ok out => simpa [result, Except.toOption] using isOk
  obtain ⟨created, origins, excluded⟩ := of_decide_eq_true holds
  have young : 0 ≤ 5000 - document.createdAtEpochMs ∧
      5000 - document.createdAtEpochMs ≤ defaultMaxAgeMs := by
    rw [created]
    decide
  obtain ⟨imported, valid⟩ := portable_round_trip built (by decide) young
  exact ⟨document, receipt, imported, built, origins, excluded, valid⟩

end Dingdongditch.PortableState
