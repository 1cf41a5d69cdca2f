import Dingdongditch.Contract.ChainBinding

/-!
# What the hash of a receipt does not cover

Two current receipts with one hash agree on every field that the payload takes
over, and nothing else ties them together: several fields are known to the chain
but are in no payload, and of the browser only five entries are.  So they agree on
all the fields that are meant to be covered exactly when they agree on those
(`sameHash_agree_iff`).
-/

namespace Dingdongditch.ReceiptChain

open Text
open Json (Textual)
open Json.Textual (ofText)

/-- `ExecutionReceipt`, with the JSON form of each field. -/
structure PublicReceipt (F : Type) (τ : Type := String) [Textual τ] where
  schemaVersion : Json F τ := .str (ofText "1.8.0")
  operationId : Json F τ
  verdict : Json F τ
  actionType : Json F τ
  targetLocator : Json F τ := .null
  targetResolution : Json F τ := .null
  targetUrl : Json F τ
  startedAtMs : Json F τ
  finishedAtMs : Json F τ
  actionStartedAtMs : Json F τ := .null
  actionCompletedAtMs : Json F τ := .null
  verificationCompletedAtMs : Json F τ := .null
  executionStatus : Json F τ
  executionError : Json F τ := .null
  failureKind : Json F τ := .null
  actionExecutedSuccessfully : Json F τ
  actionEvidence : Json F τ := .null
  pagePrecondition : Json F τ := .null
  navigationOccurred : Json F τ := .bool false
  dispatchDocumentUrl : Json F τ := .null
  telemetry : List (Json F τ) := []
  operationTiming : Json F τ := .null
  expectationEvidence : List (Json F τ) := []
  artifacts : List (Json F τ) := []
  cleanup : Json F τ := .null
  pageTransition : Json F τ := .null
  authorityDecision : Json F τ := .null
  transaction : Json F τ := .null
  quorumVerification : Json F τ := .null
  controlEpoch : Json F τ := .null
  receiptChain : Option (Public F τ) := none
  signedPlan : Json F τ := .null
  identity : Json F τ := .null
  mutationArbitration : Json F τ := .null
  speculation : Json F τ := .null
  expectationsDeclared : Json F τ
  preActionObservation : Json F τ := .null
  postActionObservation : Json F τ := .null
  expectationResults : List (Json F τ) := []
  evidence : List (Json F τ) := []
  freshness : Json F τ
  recoveryAttempts : List (Json F τ) := []
  limitations : List (Json F τ) := []
  backendIdentity : Json F τ
  browserIdentity : Json F τ
  browser : Json F τ := .null
  runtimeVersion : Json F τ

variable {F τ : Type} [Textual τ]

/-- `ExecutionReceipt.to_dict` -/
def PublicReceipt.toDict (r : PublicReceipt F τ) : Public F τ :=
  [("schema_version", r.schemaVersion),
    ("operation_id", r.operationId),
    ("verdict", r.verdict),
    ("action_type", r.actionType),
    ("target_locator", r.targetLocator),
    ("target_resolution", r.targetResolution),
    ("target_url", r.targetUrl),
    ("started_at_ms", r.startedAtMs),
    ("finished_at_ms", r.finishedAtMs),
    ("action_started_at_ms", r.actionStartedAtMs),
    ("action_completed_at_ms", r.actionCompletedAtMs),
    ("verification_completed_at_ms", r.verificationCompletedAtMs),
    ("execution_status", r.executionStatus),
    ("execution_error", r.executionError),
    ("failure_kind", r.failureKind),
    ("action_executed_successfully", r.actionExecutedSuccessfully),
    ("action_evidence", r.actionEvidence),
    ("page_precondition", r.pagePrecondition),
    ("navigation_occurred", r.navigationOccurred),
    ("dispatch_document_url", r.dispatchDocumentUrl),
    ("telemetry", .list r.telemetry),
    ("operation_timing", r.operationTiming),
    ("expectation_evidence", .list r.expectationEvidence),
    ("artifacts", .list r.artifacts),
    ("cleanup", r.cleanup),
    ("page_transition", r.pageTransition),
    ("authority_decision", r.authorityDecision),
    ("transaction", r.transaction),
    ("quorum_verification", r.quorumVerification),
    ("control_epoch", r.controlEpoch),
    ("receipt_chain", r.receiptChain.elim .null .dict),
    ("signed_plan", r.signedPlan),
    ("identity", r.identity),
    ("mutation_arbitration", r.mutationArbitration),
    ("speculation", r.speculation),
    ("expectations_declared", r.expectationsDeclared),
    ("pre_action_observation", r.preActionObservation),
    ("post_action_observation", r.postActionObservation),
    ("expectation_results", .list r.expectationResults),
    ("evidence", .list r.evidence),
    ("freshness", r.freshness),
    ("recovery_attempts", .list r.recoveryAttempts),
    ("limitations", .list r.limitations),
    ("backend_identity", r.backendIdentity),
    ("browser_identity", r.browserIdentity),
    ("browser", r.browser),
    ("runtime_version", r.runtimeVersion)]

/-- The known fields that are deliberately excluded: timings, telemetry and cleanup. -/
def excludedFields : List String :=
  ["started_at_ms", "finished_at_ms", "action_started_at_ms", "action_completed_at_ms",
    "verification_completed_at_ms", "telemetry", "operation_timing", "cleanup"]

/-- The fields that the hash is meant to cover. -/
def coveredFields : List String := knownFields.filter fun name => !excludedFields.contains name

/-- The fields whose values the hash does not determine. -/
def unboundFields : List String :=
  ["expectations_declared", "pre_action_observation", "post_action_observation",
    "recovery_attempts", "limitations", "backend_identity", "browser_identity", "browser",
    "receipt_chain"]

/-- The receipts have the same fields among `names`, by their canonical texts. -/
def Agree [Floating F] (hashing : Hashing F τ) (names : List String)
    (r r' : PublicReceipt F τ) : Prop :=
  ∀ name ∈ names, canonicalText hashing (Json.get r.toDict name) =
    canonicalText hashing (Json.get r'.toDict name)

/-- The receipt verifies as a current one, with this hash. -/
def VerifiedAs [Floating F] [DecidableEq τ] (hashing : Hashing F τ) (r : PublicReceipt F τ) (hash : String) : Prop :=
  verifyReceiptHash hashing r.toDict = some true ∧
    ∃ entry, r.receiptChain = some entry ∧ Json.get entry "chain_version" = .str (ofText "3") ∧
      Json.get entry "receipt_hash" = .str (ofText hash)

section Fields

omit [Textual τ] in
theorem mem_copied {receipt : Public F τ} {names : List String} {name : String} (mem : name ∈ names) :
    (name, Json.get receipt name) ∈ copied receipt names :=
  List.mem_map_of_mem (f := fun name => (name, Json.get receipt name)) mem

omit [Textual τ] in
theorem copied_keys (receipt : Public F τ) (names : List String) :
    (copied receipt names).map (·.1) = names := by
  rw [copied, List.map_map]
  exact List.map_id names

omit [Textual τ] in
theorem lookup_copied {receipt : Public F τ} {names : List String} (distinct : names.Nodup)
    {name : String} (mem : name ∈ names) :
    (copied receipt names).lookup name = some (Json.get receipt name) :=
  (lookup_eq_some_iff (by rwa [copied_keys])).mpr (mem_copied mem)

/-- The fields that the payload copies under their own names. -/
def payloadFields : List String :=
  ["schema_version", "operation_id", "verdict", "action_type", "target_locator",
    "target_resolution", "target_url", "execution_status", "execution_error", "failure_kind",
    "action_executed_successfully", "action_evidence", "page_precondition", "page_transition",
    "navigation_occurred", "dispatch_document_url", "authority_decision", "transaction",
    "quorum_verification", "signed_plan", "identity", "mutation_arbitration", "speculation",
    "control_epoch", "expectation_results", "freshness"]

variable [Floating F] [DecidableEq τ] {hashing : Hashing F τ}

omit [DecidableEq τ] in
/-- The digest of a value determines its canonical text. -/
theorem digest_inj (injective : Function.Injective hashing.sha256) {v v' : Json F τ} {hash : String}
    (hashed : digest hashing v = some hash) (hashed' : digest hashing v' = some hash) :
    canonicalText hashing v = canonicalText hashing v' := by
  have entry : ChainVersion.v3.entryDigest hashing v = some hash := hashed
  have entry' : ChainVersion.v3.entryDigest hashing v' = some hash := hashed'
  exact entryDigest_inj injective entry entry'

/-- What the payload of a receipt content. -/
structure PayloadOf (hashing : Hashing F τ) (receipt entries : Public F τ) (manifest : Json F τ) : Prop where
  isManifest : artifactManifest hashing receipt = some manifest
  keys : (entries.map (·.1)).Nodup
  copied : ∀ name ∈ payloadFields, entries.lookup name = some (Json.get receipt name)
  evidence : entries.lookup "bounded_evidence" = some (boundedEvidence receipt)
  artifacts : entries.lookup "artifact_manifest" = some manifest
  runtime : entries.lookup "runtime_version" = some (Json.get receipt "runtime_version")

theorem payloadOf_receiptPayload {receipt : Public F τ} {payload : Json F τ}
    (made : receiptPayload hashing receipt = some payload) :
    ∃ entries manifest, payload = .dict entries ∧ PayloadOf hashing receipt entries manifest := by
  obtain ⟨manifest, isManifest, rest⟩ := Option.bind_eq_some_iff.mp made
  obtain ⟨browser, -, ends⟩ := Option.bind_eq_some_iff.mp rest
  cases ends
  refine ⟨_, manifest, rfl, isManifest, ?_, ?_, rfl, rfl, rfl⟩
  · rw [List.map_append, copied_keys]
    show (payloadFields ++ ["bounded_evidence", "artifact_manifest", "runtime_version", "browser",
      "field_presence", "extensions"]).Nodup
    decide
  · intro name mem
    have found : (copied receipt payloadFields).lookup name = some (Json.get receipt name) :=
      lookup_copied (by decide) mem
    rw [List.lookup_append]
    show ((copied receipt payloadFields).lookup name).or _ = _
    rw [found]
    rfl

end Fields

/-! ## Artifacts -/

section Artifacts

variable [Floating F] [DecidableEq τ] {hashing : Hashing F τ}

theorem iterate_list (items : List (Json F τ)) : iterate (.list items) = some items := by
  cases items with
  | nil => rfl
  | cons item items => rfl

/-- The manifest entry of an artifact shows the digest of its declaration. -/
theorem manifestItem_declaration {item manifest : Json F τ}
    (made : manifestItem hashing item = some manifest) :
    ∃ hash entries, digest hashing item = some hash ∧ manifest = .dict entries ∧
      (entries.map (·.1)).Nodup ∧ entries.lookup "declaration_hash" = some (.str (ofText hash)) := by
  obtain ⟨hash, isHash, rest⟩ := Option.bind_eq_some_iff.mp made
  split at rest
  · cases rest
    exact ⟨hash, _, isHash, rfl, by simp, rfl⟩
  · cases rest
    exact ⟨hash, _, isHash, rfl, by simp, rfl⟩

theorem manifestItem_inj (lawful : hashing.Lawful) (injective : Function.Injective hashing.sha256)
    {item item' manifest manifest' : Json F τ} (made : manifestItem hashing item = some manifest)
    (made' : manifestItem hashing item' = some manifest')
    (same : canonicalText hashing manifest = canonicalText hashing manifest') :
    canonicalText hashing item = canonicalText hashing item' := by
  obtain ⟨hash, entries, isHash, rfl, distinct, found⟩ := manifestItem_declaration made
  obtain ⟨hash', entries', isHash', rfl, distinct', found'⟩ := manifestItem_declaration made'
  obtain ⟨u, mem, eq⟩ := Json.dumps_entry same ((lookup_eq_some_iff distinct).mp found)
  have isU := (lookup_eq_some_iff distinct').mpr mem
  rw [found'] at isU
  obtain rfl := Option.some.inj isU
  have plain {v : Json F τ} {hash : String} (isHash : digest hashing v = some hash) :
      hashing.nfc (ofText hash) = ofText hash := by
    have entry : ChainVersion.v3.entryDigest hashing v = some hash := isHash
    have form : ChainVersion.v3.form hashing (ofText hash) = ofText hash := form_digest lawful entry
    exact form
  rw [Json.normalize, Json.normalize, plain isHash, plain isHash'] at eq
  obtain rfl := Json.ofText_inj_of_dumps eq
  exact digest_inj injective isHash isHash'

theorem manifestItems_inj (lawful : hashing.Lawful) (injective : Function.Injective hashing.sha256)
    {items items' manifests manifests' : List (Json F τ)}
    (made : items.mapM (manifestItem hashing) = some manifests)
    (made' : items'.mapM (manifestItem hashing) = some manifests')
    (same : List.Forall₂ (fun v w => canonicalText hashing v = canonicalText hashing w)
      manifests manifests') :
    List.Forall₂ (fun v w => canonicalText hashing v = canonicalText hashing w) items items' := by
  induction items generalizing items' manifests manifests' with
  | nil =>
      rw [List.mapM_nil] at made
      cases made
      cases items' with
      | nil => exact .nil
      | cons item' items' =>
          rw [List.mapM_cons] at made'
          obtain ⟨manifest, -, rest⟩ := Option.bind_eq_some_iff.mp made'
          obtain ⟨later, -, ends⟩ := Option.bind_eq_some_iff.mp rest
          cases ends
          cases same
  | cons item items ih =>
      rw [List.mapM_cons] at made
      obtain ⟨manifest, isManifest, rest⟩ := Option.bind_eq_some_iff.mp made
      obtain ⟨later, isLater, ends⟩ := Option.bind_eq_some_iff.mp rest
      cases ends
      cases items' with
      | nil =>
          rw [List.mapM_nil] at made'
          cases made'
          cases same
      | cons item' items' =>
          rw [List.mapM_cons] at made'
          obtain ⟨manifest', isManifest', rest'⟩ := Option.bind_eq_some_iff.mp made'
          obtain ⟨later', isLater', ends'⟩ := Option.bind_eq_some_iff.mp rest'
          cases ends'
          cases same with
          | cons head tail =>
              exact .cons (manifestItem_inj lawful injective isManifest isManifest' head)
                (ih isLater isLater' tail)

theorem artifacts_eq (lawful : hashing.Lawful) (injective : Function.Injective hashing.sha256)
    {receipt receipt' : Public F τ} {items items' : List (Json F τ)} {manifest manifest' : Json F τ}
    (isList : Json.get receipt "artifacts" = .list items)
    (isList' : Json.get receipt' "artifacts" = .list items')
    (made : artifactManifest hashing receipt = some manifest)
    (made' : artifactManifest hashing receipt' = some manifest')
    (same : canonicalText hashing manifest = canonicalText hashing manifest') :
    canonicalText hashing (.list items) = canonicalText hashing (.list items') := by
  unfold artifactManifest at made made'
  rw [isList, iterate_list] at made
  rw [isList', iterate_list] at made'
  simp only [Option.bind_eq_bind, Option.bind_some] at made made'
  obtain ⟨manifests, isManifests, ends⟩ := Option.bind_eq_some_iff.mp made
  obtain ⟨manifests', isManifests', ends'⟩ := Option.bind_eq_some_iff.mp made'
  cases ends
  cases ends'
  obtain ⟨u, mem, eq⟩ := Json.dumps_entry same
    (List.mem_cons_of_mem _ (List.mem_singleton_self ("items", Json.list manifests)))
  have isU : u = .list manifests' := by simpa using mem
  subst isU
  exact Json.dumps_list_iff.mpr
    (manifestItems_inj lawful injective isManifests isManifests' (Json.dumps_list_iff.mp eq))

end Artifacts

/-! ## The fields of two receipts with one hash -/

section SameHash

variable [Floating F] [DecidableEq τ] {hashing : Hashing F τ} {r r' : PublicReceipt F τ} {hash : String}

theorem sealed_of_verifiedAs (verified : VerifiedAs hashing r hash) :
    ∃ entry core, Sealed hashing r.toDict .v3 entry core hash := by
  obtain ⟨valid, entry, isEntry, isVersion, isHash⟩ := verified
  obtain ⟨version, entry', core, hash', isSealed⟩ := sealed_of_verifyReceiptHash valid
  have found : Json.get r.toDict "receipt_chain" = r.receiptChain.elim .null .dict := rfl
  have same : entry = entry' := by
    have eq := found.symm.trans isSealed.found
    rw [isEntry] at eq
    exact Json.dict.inj eq
  subst same
  have isV3 : version = .v3 := by
    have texts := Json.ofText_inj (Json.str.inj (isVersion.symm.trans isSealed.isVersion))
    cases version with
    | v3 => rfl
    | _ => exact absurd texts (by decide)
  have sameHash : hash' = hash :=
    Json.ofText_inj (Json.str.inj (isSealed.receiptHash.symm.trans isHash))
  subst isV3 sameHash
  exact ⟨entry, core, isSealed⟩

/-- The fields that the hash of a receipt determines. -/
theorem bound_agree (lawful : hashing.Lawful) (injective : Function.Injective hashing.sha256)
    (verified : VerifiedAs hashing r hash) (verified' : VerifiedAs hashing r' hash) :
    Agree hashing
      (payloadFields ++ ["expectation_evidence", "evidence", "artifacts", "runtime_version"]) r r' := by
  obtain ⟨entry, core, isSealed⟩ := sealed_of_verifiedAs verified
  obtain ⟨entry', core', isSealed'⟩ := sealed_of_verifiedAs verified'
  obtain ⟨payload, payload', isPayload, isPayload', same⟩ :=
    payload_eq lawful injective isSealed isSealed'
  obtain ⟨entries, manifest, rfl, content⟩ := payloadOf_receiptPayload isPayload
  obtain ⟨entries', manifest', rfl, content'⟩ := payloadOf_receiptPayload isPayload'
  have agree : ∀ {key v v'}, entries.lookup key = some v → entries'.lookup key = some v' →
      canonicalText hashing v = canonicalText hashing v' := by
    intro key v v' found found'
    obtain ⟨u, mem, eq⟩ :=
      Json.dumps_entry same ((lookup_eq_some_iff content.keys).mp found)
    have isU := (lookup_eq_some_iff content'.keys).mpr mem
    rw [found'] at isU
    rw [Option.some.inj isU]
    exact eq
  have evidence := agree content.evidence content'.evidence
  have ofEvidence : ∀ name ∈ ["expectation_evidence", "evidence"],
      canonicalText hashing (Json.get r.toDict name) =
        canonicalText hashing (Json.get r'.toDict name) := by
    intro name mem
    obtain ⟨u, inEvidence, eq⟩ := Json.dumps_entry evidence (mem_copied mem)
    have isU := (lookup_eq_some_iff (by rw [copied_keys]; decide)).mpr inEvidence
    rw [lookup_copied (by decide) mem] at isU
    rw [Option.some.inj isU]
    exact eq
  intro name mem
  rcases List.mem_append.mp mem with isCopied | other
  · exact agree (content.copied name isCopied) (content'.copied name isCopied)
  · simp only [List.mem_cons, List.not_mem_nil, or_false] at other
    rcases other with rfl | rfl | rfl | rfl
    · exact ofEvidence _ (by simp)
    · exact ofEvidence _ (by simp)
    · exact artifacts_eq lawful injective rfl rfl content.isManifest content'.isManifest
        (agree content.artifacts content'.artifacts)
    · exact agree content.runtime content'.runtime

/-- Two receipts with one hash agree on every field that the hash is meant to cover
exactly when they agree on the fields that are in no payload, on the browser and on
the chain field itself. -/
theorem sameHash_agree_iff (lawful : hashing.Lawful) (injective : Function.Injective hashing.sha256)
    (verified : VerifiedAs hashing r hash) (verified' : VerifiedAs hashing r' hash) :
    Agree hashing coveredFields r r' ↔ Agree hashing unboundFields r r' := by
  have bound := bound_agree lawful injective verified verified'
  have split : ∀ name ∈ coveredFields, name ∈ payloadFields ++ ["expectation_evidence", "evidence",
      "artifacts", "runtime_version"] ∨ name ∈ unboundFields := by decide
  have covered : ∀ name ∈ unboundFields, name ∈ coveredFields := by decide
  constructor
  · intro agree name mem
    exact agree name (covered name mem)
  · intro agree name mem
    rcases split name mem with isBound | isUnbound
    · exact bound name isBound
    · exact agree name isUnbound

/-- `chain_receipt`, for a receipt object. -/
def PublicReceipt.chain (hashing : Hashing F τ) (r : PublicReceipt F τ) (args : EntryArguments F τ) :
    Option (PublicReceipt F τ) := do
  let entry ← ChainVersion.v3.make hashing r.toDict args
  return { r with receiptChain := some entry }

theorem PublicReceipt.chain_ok {chained : PublicReceipt F τ} {args : EntryArguments F τ}
    (made : r.chain hashing args = some chained) :
    ∃ entry, ChainVersion.v3.make hashing r.toDict args = some entry ∧
      chained = { r with receiptChain := some entry } := by
  obtain ⟨entry, isEntry, ends⟩ := Option.bind_eq_some_iff.mp made
  cases ends
  exact ⟨entry, isEntry, rfl⟩

/-- A receipt that was chained verifies, with the digest that its entry shows. -/
theorem verifiedAs_chain {entry : Public F τ} {args : EntryArguments F τ}
    (made : ChainVersion.v3.make hashing r.toDict args = some entry) :
    ∃ hash : String, Json.get entry "receipt_hash" = .str (ofText hash) ∧
      VerifiedAs hashing { r with receiptChain := some entry } hash := by
  have dictionary : chainReceipt hashing r.toDict args =
      some (assign r.toDict "receipt_chain" (.dict entry)) := by
    rw [chainReceipt, made]
    rfl
  have toDict : ({ r with receiptChain := some entry } : PublicReceipt F τ).toDict =
      assign r.toDict "receipt_chain" (.dict entry) := rfl
  obtain ⟨entry', core, hash, isSealed, -, -⟩ := sealed_chainReceipt dictionary
  have found : Json.get (assign r.toDict "receipt_chain" (.dict entry)) "receipt_chain" =
      .dict entry := by
    rw [Json.get, lookup_assign, if_pos rfl]
    rfl
  have same : entry = entry' := Json.dict.inj (found.symm.trans isSealed.found)
  subst same
  refine ⟨hash, isSealed.receiptHash, ?_, entry, rfl, isSealed.isVersion, isSealed.receiptHash⟩
  rw [toDict]
  exact verifyReceiptHash_of_sealed isSealed

/-- Two receipts whose entries are made alike verify with one hash. -/
theorem verifiedAs_chain_pair {chained chained' : PublicReceipt F τ} {args : EntryArguments F τ}
    (alike : entryCore hashing r.toDict args = entryCore hashing r'.toDict args)
    (made : r.chain hashing args = some chained) (made' : r'.chain hashing args = some chained') :
    ∃ hash, VerifiedAs hashing chained hash ∧ VerifiedAs hashing chained' hash := by
  obtain ⟨entry, isEntry, rfl⟩ := PublicReceipt.chain_ok made
  obtain ⟨entry', isEntry', rfl⟩ := PublicReceipt.chain_ok made'
  have same : ChainVersion.v3.make hashing r.toDict args =
      ChainVersion.v3.make hashing r'.toDict args := by
    unfold ChainVersion.make ChainVersion.core
    rw [alike]
  rw [same, isEntry'] at isEntry
  cases isEntry
  obtain ⟨hash, shown, verified⟩ := verifiedAs_chain (same.trans isEntry')
  obtain ⟨hash', shown', verified'⟩ := verifiedAs_chain isEntry'
  have eq : hash = hash' := Json.ofText_inj (Json.str.inj (shown.symm.trans shown'))
  subst eq
  exact ⟨hash, verified, verified'⟩

end SameHash

/-! ## Fields that no hash covers -/

/-- The receipt of a click that reports `limitations`. -/
def limitedReceipt (limitations : List (Json (Fin 10))) : PublicReceipt (Fin 10) where
  operationId := .str "op-1"
  verdict := .str "verified"
  actionType := .str "click"
  targetUrl := .str "https://app.test/"
  startedAtMs := .int 1
  finishedAtMs := .int 2
  executionStatus := .str "completed"
  actionExecutedSuccessfully := .bool true
  expectationsDeclared := .int 1
  freshness := .dict []
  limitations := limitations
  backendIdentity := .str "playwright"
  browserIdentity := .str "chromium"
  runtimeVersion := .str "1.0"

/-- Two sealed receipts that differ in what they report as a limitation. -/
theorem limitedReceipt_pair :
    ∃ r r' : PublicReceipt (Fin 10), ∃ hash, VerifiedAs (textHashing (Fin 10)) r hash ∧
      VerifiedAs (textHashing (Fin 10)) r' hash ∧
      r.limitations = [.str "page was not observed"] ∧ r'.limitations = [] := by
  have isSome : ((limitedReceipt [.str "page was not observed"]).chain (textHashing (Fin 10))
      {}).isSome = true := by decide
  have isSome' : ((limitedReceipt []).chain (textHashing (Fin 10)) {}).isSome = true := by decide
  have alike : entryCore (textHashing (Fin 10))
      (limitedReceipt [.str "page was not observed"]).toDict {} =
        entryCore (textHashing (Fin 10)) (limitedReceipt []).toDict {} := rfl
  obtain ⟨chained, made⟩ := Option.isSome_iff_exists.mp isSome
  obtain ⟨chained', made'⟩ := Option.isSome_iff_exists.mp isSome'
  obtain ⟨hash, verified, verified'⟩ := verifiedAs_chain_pair alike made made'
  obtain ⟨_, _, rfl⟩ := PublicReceipt.chain_ok made
  obtain ⟨_, _, rfl⟩ := PublicReceipt.chain_ok made'
  exact ⟨_, _, hash, verified, verified', rfl, rfl⟩

/-- Removing a reported limitation leaves the hash of a receipt as it was. -/
theorem limitations_not_covered :
    Function.Injective (textHashing (Fin 10)).sha256 ∧
      ∃ r r' : PublicReceipt (Fin 10), ∃ hash, VerifiedAs (textHashing (Fin 10)) r hash ∧
        VerifiedAs (textHashing (Fin 10)) r' hash ∧
        ¬ Agree (textHashing (Fin 10)) coveredFields r r' := by
  obtain ⟨r, r', hash, verified, verified', limited, unlimited⟩ := limitedReceipt_pair
  refine ⟨textHashing_injective, r, r', hash, verified, verified', fun agree => ?_⟩
  have same := agree "limitations" (by decide)
  rw [show Json.get r.toDict "limitations" = .list r.limitations from rfl,
    show Json.get r'.toDict "limitations" = .list r'.limitations from rfl, limited, unlimited] at same
  cases same

theorem sameHash_agree_iff_limitations :
    ∃ r r' : PublicReceipt (Fin 10), (Agree (textHashing (Fin 10)) coveredFields r r' ↔
      Agree (textHashing (Fin 10)) unboundFields r r') := by
  obtain ⟨r, r', hash, verified, verified', -, -⟩ := limitedReceipt_pair
  exact ⟨r, r', sameHash_agree_iff textHashing_lawful textHashing_injective verified verified'⟩

end Dingdongditch.ReceiptChain
