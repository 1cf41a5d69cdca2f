import Dingdongditch.Authentication.PortableRoundTrip

/-!
# What the receipt of an import says

The receipt repeats what the document declares.  Its declaration is compared with the state
for IndexedDB only, but a document that an export wrote declares everything that is in it.
-/

namespace Dingdongditch.PortableState

open Text

variable {F : Type} {codec : HostCodec} {allowIndexedDB rejectSensitive : Bool}

/-- The state has something of the feature. -/
def StorageState.holds (s : StorageState F) : Feature → Bool
  | .cookies => !s.cookies.isEmpty
  | .localStorage => s.origins.any (!·.localStorage.isEmpty)
  | .indexedDB => s.origins.any (·.indexedDB.any (!·.isEmpty))

/-- The document declares these features, in this order. -/
def Declares (raw : Json F) (features : List Feature) : Prop :=
  ∃ entries, raw = .dict entries ∧
    Json.get entries "portable_features" = .list (features.map fun feature => .str feature.value)

/-- An export wrote the document. -/
def IsExport (codec : HostCodec) (raw : Json F) : Prop :=
  ∃ rawState policy createdAtEpochMs nowMs document receipt,
    buildPortableState codec rawState policy createdAtEpochMs nowMs = .ok (document, receipt) ∧
      raw = document.toJson

/-! ## Accepted documents -/

theorem checkFeature_ok {item : Json F} {feature : Feature} (checked : checkFeature item = .ok feature) :
    item = .str feature.value := by
  unfold checkFeature at checked
  cases item with
  | str text =>
      simp only at checked
      cases found : Feature.all.find? (·.value = text) with
      | none => simp [found] at checked
      | some other =>
          have isText := List.find?_some found
          simp only [found, Except.ok.injEq] at checked
          simp only [decide_eq_true_iff] at isText
          rw [← isText, checked]
  | _ => simp at checked

theorem value_injective : Function.Injective fun feature : Feature => (.str feature.value : Json F) := by
  intro first second same
  have isFirst : checkFeature (.str first.value : Json F) = .ok first := checkFeature_value first
  rw [show (.str first.value : Json F) = .str second.value from same, checkFeature_value] at isFirst
  exact (Except.ok.inj isFirst).symm

theorem checkFeatures_ok {items : List (Json F)} {features : List Feature}
    (checked : items.mapM checkFeature = .ok features) :
    items = features.map fun feature => .str feature.value := by
  have each := mapM_eq_ok_iff.mp checked
  induction each with
  | nil => rfl
  | cons isFeature rest ih =>
      rw [List.map_cons, ← ih (mapM_eq_ok_iff.mpr rest), checkFeature_ok isFeature]

/-- What an accepted document is made of. -/
theorem validatePortableDocument_ok [Floating F] {raw : Json F} {maxAgeMs nowMs : Int}
    {state : StorageState F} {receipt : Receipt}
    (accepted : validatePortableDocument codec raw maxAgeMs allowIndexedDB nowMs =
      .ok (state, receipt)) :
    ∃ entries features stateAgeMs, raw = .dict entries ∧
      Json.get entries "portable_features" = .list (features.map fun feature => .str feature.value) ∧
      features.Nodup ∧
      validateStorageState codec allowIndexedDB true (Json.get entries "storage_state") = .ok state ∧
      (state.origins.any (·.indexedDB.isSome) = true → Feature.indexedDB ∈ features) ∧
      receipt = {
        direction := "import"
        includedFeatures := features
        excludedFeatures := Feature.all.filter (· ∉ features)
        cookieCount := state.cookies.length
        originCount := state.origins.length
        stateAgeMs := some stateAgeMs } := by
  unfold validatePortableDocument at accepted
  obtain ⟨-, accepted⟩ := rejectWith_bind_ok accepted
  cases raw with
  | dict entries =>
      obtain ⟨-, accepted⟩ := rejectWith_bind_ok accepted
      split at accepted
      · next created _ =>
          obtain ⟨-, accepted⟩ := rejectWith_bind_ok accepted
          split at accepted
          · next items declared =>
              obtain ⟨features, areFeatures, accepted⟩ := bind_eq_ok.mp accepted
              obtain ⟨unrepeated, accepted⟩ := rejectWith_bind_ok accepted
              obtain ⟨checked, isState, accepted⟩ := bind_eq_ok.mp accepted
              obtain ⟨compared, accepted⟩ := rejectWith_bind_ok accepted
              obtain ⟨-, same⟩ := rejectWith_bind_ok accepted
              cases same
              refine ⟨entries, features, _, rfl, ?_, ?_, isState, ?_, rfl⟩
              · rw [declared, checkFeatures_ok areFeatures]
              · simpa using unrepeated
              · intro has
                simpa [has] using compared
          · cases accepted
      · cases accepted
  | _ => cases accepted

/-- A non-empty set of databases is a declared one. -/
theorem has_of_holds_indexedDB {s : StorageState F} (holds : s.holds .indexedDB = true) :
    s.origins.any (·.indexedDB.isSome) = true := by
  obtain ⟨o, member, nonempty⟩ := List.any_eq_true.mp holds
  apply List.any_eq_true.mpr
  refine ⟨o, member, ?_⟩
  cases databases : o.indexedDB with
  | none => simp [databases] at nonempty
  | some list => rfl

/-! ## Exported documents -/

/-- As many items come out of an origin as are written in it. -/
theorem length_of_checkOrigin {seen : List String} {o checked : PortableOrigin F}
    (isChecked : checkOrigin codec allowIndexedDB rejectSensitive seen o.toJson = .ok checked) :
    checked.localStorage.length = o.localStorage.length := by
  have read : checkOrigin codec allowIndexedDB rejectSensitive seen o.toJson = (do
      let canonical ← safeOrigin codec (.str o.origin : Json F)
      rejectWith (canonical ∈ seen)
        (sessionInvalid "session file contains duplicate storage origins")
      rejectWith (1024 < (o.localStorage.map (itemJson : _ → Json F)).length)
        (sessionInvalid "session file local storage exceeds entry limits")
      let items ← (o.localStorage.map (itemJson : _ → Json F)).mapM (checkItem rejectSensitive)
      let databases ← checkIndexedDB allowIndexedDB (o.indexedDB.elim .null .list)
      return ⟨canonical, items, databases⟩) := by
    rcases o with ⟨origin, items, databases⟩
    cases databases <;> rfl
  rw [read] at isChecked
  obtain ⟨canonical, -, isChecked⟩ := bind_eq_ok.mp isChecked
  obtain ⟨-, isChecked⟩ := rejectWith_bind_ok isChecked
  obtain ⟨-, isChecked⟩ := rejectWith_bind_ok isChecked
  obtain ⟨items, areItems, isChecked⟩ := bind_eq_ok.mp isChecked
  obtain ⟨databases, -, same⟩ := bind_eq_ok.mp isChecked
  cases same
  simpa using length_of_mapM_eq_ok areItems

theorem length_of_checkOrigins {seen : List String} {os checked : List (PortableOrigin F)}
    (areChecked : checkOrigins codec allowIndexedDB rejectSensitive seen (os.map (·.toJson)) = .ok checked) :
    ∀ o ∈ checked, ∃ written ∈ os, o.localStorage.length = written.localStorage.length := by
  induction os generalizing seen checked with
  | nil =>
      cases areChecked
      intro o member
      cases member
  | cons first rest ih =>
      obtain ⟨one, isOne, areChecked⟩ := bind_eq_ok.mp areChecked
      obtain ⟨more, areMore, same⟩ := bind_eq_ok.mp areChecked
      cases same
      intro o member
      rcases List.mem_cons.mp member with isFirst | later
      · rw [isFirst]
        exact ⟨first, List.mem_cons_self, length_of_checkOrigin isOne⟩
      · obtain ⟨written, inside, length⟩ := ih areMore o later
        exact ⟨written, List.mem_cons_of_mem first inside, length⟩

theorem validateStorageState_toJson_ok {s state : StorageState F}
    (validated : validateStorageState codec allowIndexedDB rejectSensitive s.toJson = .ok state) :
    state.cookies.length = s.cookies.length ∧
      ∀ o ∈ state.origins, ∃ written ∈ s.origins, o.localStorage.length = written.localStorage.length := by
  have read : validateStorageState codec allowIndexedDB rejectSensitive s.toJson = (do
      rejectWith (1024 < (s.cookies.map .dict : List (Json F)).length ||
          256 < (s.origins.map (·.toJson)).length)
        (sessionInvalid "session file exceeds portable state entry limits")
      let cookies ← (s.cookies.map .dict).mapM checkCookie
      let origins ← checkOrigins codec allowIndexedDB rejectSensitive [] (s.origins.map (·.toJson))
      return ⟨cookies, origins⟩) := rfl
  rw [read] at validated
  obtain ⟨-, validated⟩ := rejectWith_bind_ok validated
  obtain ⟨cookies, areCookies, validated⟩ := bind_eq_ok.mp validated
  obtain ⟨origins, areOrigins, same⟩ := bind_eq_ok.mp validated
  cases same
  have length := length_of_mapM_eq_ok areCookies
  rw [List.length_map] at length
  exact ⟨length, length_of_checkOrigins areOrigins⟩

/-- Cookies and local storage of an exported state are there by the policy. -/
theorem includes_of_holds {policy : Policy} {raw state : StorageState F} {feature : Feature}
    (validated : validateStorageState codec allowIndexedDB rejectSensitive (exported policy raw).toJson =
      .ok state) (holds : state.holds feature = true) (other : feature ≠ .indexedDB) :
    policy.includes feature = true := by
  obtain ⟨cookies, origins⟩ := validateStorageState_toJson_ok validated
  cases feature with
  | cookies =>
      by_contra excluded
      have none : state.cookies.length = 0 := by
        rw [cookies]
        simp only [Policy.includes, Bool.not_eq_true] at excluded
        simp [exported, excluded]
      have empty : state.cookies = [] := List.eq_nil_of_length_eq_zero none
      simp [StorageState.holds, empty] at holds
  | localStorage =>
      by_contra excluded
      obtain ⟨o, member, nonempty⟩ := List.any_eq_true.mp holds
      obtain ⟨written, inside, length⟩ := origins o member
      obtain ⟨source, -, rfl⟩ := List.mem_map.mp inside
      have none : o.localStorage.length = 0 := by
        rw [length]
        simp only [Policy.includes, Bool.not_eq_true] at excluded
        simp [exportOrigin, excluded]
      have empty : o.localStorage = [] := List.eq_nil_of_length_eq_zero none
      simp [empty] at nonempty
  | indexedDB => exact (other rfl).elim

/-! ## The receipt -/

/-- The receipt of an import names the declared features, with the sizes of the state; IndexedDB is among
them where the state has any, and of an exported document everything that the state has. -/
theorem import_receipt_reports [Floating F] {raw : Json F} {maxAgeMs nowMs : Int}
    {state : StorageState F} {receipt : Receipt}
    (accepted : validatePortableDocument codec raw maxAgeMs allowIndexedDB nowMs =
      .ok (state, receipt)) :
    Declares raw receipt.includedFeatures ∧ receipt.includedFeatures.Nodup ∧
      receipt.excludedFeatures = Feature.all.filter (· ∉ receipt.includedFeatures) ∧
      receipt.cookieCount = state.cookies.length ∧ receipt.originCount = state.origins.length ∧
      (state.holds .indexedDB = true → Feature.indexedDB ∈ receipt.includedFeatures) ∧
      (IsExport codec raw →
        ∀ feature, state.holds feature = true → feature ∈ receipt.includedFeatures) := by
  obtain ⟨entries, features, stateAgeMs, rfl, declared, distinct, isState, compared, rfl⟩ :=
    validatePortableDocument_ok accepted
  refine ⟨⟨entries, rfl, declared⟩, distinct, rfl, rfl, rfl, ?_, ?_⟩
  · intro holds
    exact compared (has_of_holds_indexedDB holds)
  · intro ⟨rawState, policy, createdAtEpochMs, exportedAt, document, exportReceipt, built, isDocument⟩ feature holds
    by_cases other : feature = .indexedDB
    · rw [other] at holds ⊢
      exact compared (has_of_holds_indexedDB holds)
    obtain ⟨exporting, -, rfl⟩ := buildPortableState_ok built
    cases isDocument
    have included := includes_of_holds isState holds other
    have again : policy.features = features :=
      List.map_injective_iff.mpr value_injective (Json.list.inj declared)
    rw [← again]
    exact List.mem_filter.mpr ⟨by cases feature <;> decide, included⟩

/-! ## Two documents -/

/-- What an export of a browser with one cookie and one entry writes. -/
def browserDocument : Document (Fin 10) where
  createdAtEpochMs := 1000
  portableFeatures := [.cookies, .localStorage]
  storageState := {
    cookies := [[("name", .str "id"), ("value", .str "7"), ("domain", .str "a.example"),
      ("path", .str "/")]]
    origins := [⟨"https://a.example", [("theme", "dark")], none⟩] }

theorem import_receipt_browserDocument :
    ∃ state receipt, validatePortableDocument asciiCodec browserDocument.toJson defaultMaxAgeMs false
        5000 = .ok (state, receipt) ∧
      receipt.includedFeatures = [.cookies, .localStorage] ∧ receipt.excludedFeatures = [.indexedDB] ∧
      receipt.cookieCount = state.cookies.length ∧ receipt.originCount = state.origins.length := by
  have shown : (validatePortableDocument asciiCodec browserDocument.toJson defaultMaxAgeMs false
      5000).toOption.any (fun (_, receipt) => receipt.includedFeatures = [.cookies, .localStorage]) = true := by
    decide +kernel
  cases accepted : validatePortableDocument asciiCodec browserDocument.toJson defaultMaxAgeMs false
      5000 with
  | error e => simp [accepted, Except.toOption] at shown
  | ok imported =>
      obtain ⟨state, receipt⟩ := imported
      obtain ⟨-, -, excluded, cookies, origins, -⟩ := import_receipt_reports accepted
      have included : receipt.includedFeatures = [.cookies, .localStorage] := by
        simpa [accepted, Except.toOption] using shown
      rw [included] at excluded
      exact ⟨state, receipt, rfl, included, excluded, cookies, origins⟩

/-- An empty browser is exported as one with cookies, and its import says that it brought some. -/
theorem empty_browser_imports_cookies :
    ∃ document exportReceipt state receipt,
      buildPortableState asciiCodec (.dict [("cookies", .list []), ("origins", .list [])] : Json (Fin 10)) {}
        none 1000 = .ok (document, exportReceipt) ∧
      validatePortableDocument asciiCodec document.toJson defaultMaxAgeMs false 5000 =
        .ok (state, receipt) ∧
      Feature.cookies ∈ receipt.includedFeatures ∧ state.holds .cookies = false :=
  ⟨_, _, ⟨[], []⟩, _, rfl, rfl, by decide, rfl⟩

end Dingdongditch.PortableState
