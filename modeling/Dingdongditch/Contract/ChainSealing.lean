import Dingdongditch.Contract.ReceiptChain
import Dingdongditch.Text.JsonText

/-!
# A sealed receipt verifies

The entry of a receipt does not read the chain field, so the entry that
`chain_receipt` makes is the one that verification makes again
(`verifyReceiptHash_chainReceipt`), and a receipt sealed on the head of a chain
that verifies extends it (`chainStep_chainReceipt`).
-/

namespace Dingdongditch.ReceiptChain

open Text
open Json (Textual)
open Json.Textual (ofText)

variable {F τ : Type}

/-! ## Entries that verify -/

section Makers

variable [Textual τ] [DecidableEq τ]

theorem makerOf_some {v : Json F τ} {version : ChainVersion}
    (named : makerOf v = some (some version)) : v = .str (ofText version.text) := by
  cases v with
  | str s =>
      simp only [makerOf, Option.some.injEq] at named
      split at named
      · next is => cases named; rw [is]; rfl
      · split at named
        · next is => cases named; rw [is]; rfl
        · split at named
          · next is => cases named; rw [is]; rfl
          · cases named
  | _ => cases named

theorem makerOf_text (version : ChainVersion) :
    makerOf (.str (ofText version.text) : Json F τ) = some (some version) := by
  have apart : ∀ {s t : String}, s ≠ t → (ofText s : τ) ≠ ofText t := fun differ same =>
    differ (Json.ofText_inj same)
  cases version with
  | v1 => simp [makerOf, ChainVersion.text]
  | v2 => simp [makerOf, ChainVersion.text, apart (s := "2") (t := "1") (by decide)]
  | v3 =>
      simp [makerOf, ChainVersion.text, apart (s := "3") (t := "1") (by decide),
        apart (s := "3") (t := "2") (by decide)]

end Makers

section Sealing

variable [Floating F] [Textual τ] [DecidableEq τ] {hashing : Hashing F τ}

/-- The receipt verifies: its entry is the one its version makes of it, with the
arguments that the entry claims and the digest `hash`. -/
structure Sealed (hashing : Hashing F τ) (receipt : Public F τ) (version : ChainVersion)
    (entry core : Public F τ) (hash : String) : Prop where
  found : Json.get receipt "receipt_chain" = .dict entry
  isVersion : Json.get entry "chain_version" = .str (ofText version.text)
  made : version.core hashing receipt (claimedArguments version entry) = some core
  hashed : version.entryDigest hashing (.dict core) = some hash
  same : Json.pyEq (.dict entry) (.dict (core ++ [("receipt_hash", .str (ofText hash))])) = true

theorem sealed_of_verifyReceiptHash {receipt : Public F τ}
    (verified : verifyReceiptHash hashing receipt = some true) :
    ∃ version entry core hash, Sealed hashing receipt version entry core hash := by
  unfold verifyReceiptHash at verified
  split at verified
  · next entry found =>
      cases named : makerOf (Json.get entry "chain_version") with
      | none => simp [named] at verified
      | some maker =>
          cases maker with
          | none => simp [named] at verified
          | some version =>
              simp only [named, Option.bind_eq_bind, Option.bind_some] at verified
              obtain ⟨expected, making, same⟩ := Option.bind_eq_some_iff.mp verified
              obtain ⟨core, made, hashing'⟩ := Option.bind_eq_some_iff.mp making
              obtain ⟨hash, hashed, sealing⟩ := Option.bind_eq_some_iff.mp hashing'
              cases sealing
              exact ⟨version, entry, core, hash, found, makerOf_some named, made, hashed,
                Option.some.inj same⟩
  · cases verified

/-! ## The core of an entry -/

/-- The keys of an entry, in the order in which its version makes them. -/
def ChainVersion.keys : ChainVersion → List String
  | .v1 => ["chain_version", "previous_receipt_hash", "receipt_payload_hash",
      "execution_plan_hash", "operation_hash", "policy_hash", "evidence_hash", "artifact_hashes",
      "runtime_version", "receipt_schema_version"]
  | .v2 => ["chain_version", "previous_receipt_hash", "receipt_payload_hash",
      "execution_plan_hash", "operation_hash", "policy_hash", "evidence_hash", "artifact_hashes",
      "session_binding_hash", "runtime_version", "receipt_schema_version"]
  | .v3 => ["chain_version", "previous_receipt_hash", "receipt_payload_hash",
      "execution_plan_hash", "operation_hash", "policy_hash", "evidence_hash", "artifact_hashes",
      "session_binding_hash", "runtime_version", "receipt_schema_version", "session_id"]

/-- What the core of an entry says, whatever its version. -/
structure CoreOf (hashing : Hashing F τ) (version : ChainVersion) (receipt : Public F τ)
    (args : EntryArguments F τ) (core : Public F τ) (payload : Json F τ) (payloadHash : String) :
    Prop where
  isPayload : version.payload hashing receipt = some payload
  hashed : version.entryDigest hashing payload = some payloadHash
  keys : core.map (·.1) = version.keys
  isVersion : core.lookup "chain_version" = some (.str (ofText version.text))
  previous : core.lookup "previous_receipt_hash" = some args.previousReceiptHash
  payloadHash : core.lookup "receipt_payload_hash" = some (.str (ofText payloadHash))
  plan : core.lookup "execution_plan_hash" = some args.executionPlanHash
  operation : core.lookup "operation_hash" = some args.operationHash
  session : version = .v3 → core.lookup "session_id" = some args.sessionId
  binding : version = .v3 → ∃ b, sessionBindingHash hashing receipt = some b ∧
    core.lookup "session_binding_hash" = some b

theorem coreOf_core {version : ChainVersion} {receipt core : Public F τ} {args : EntryArguments F τ}
    (made : version.core hashing receipt args = some core) :
    ∃ payload payloadHash, CoreOf hashing version receipt args core payload payloadHash := by
  cases version with
  | v1 =>
      obtain ⟨payload, isPayload, made⟩ := Option.bind_eq_some_iff.mp made
      obtain ⟨authority, -, made⟩ := Option.bind_eq_some_iff.mp made
      obtain ⟨hashes, -, made⟩ := Option.bind_eq_some_iff.mp made
      cases made
      exact ⟨payload, _, isPayload, rfl, rfl, rfl, rfl, rfl, rfl, rfl, nofun, nofun⟩
  | v2 =>
      obtain ⟨payload, isPayload, made⟩ := Option.bind_eq_some_iff.mp made
      obtain ⟨authority, -, made⟩ := Option.bind_eq_some_iff.mp made
      obtain ⟨hashes, -, made⟩ := Option.bind_eq_some_iff.mp made
      obtain ⟨binding, -, made⟩ := Option.bind_eq_some_iff.mp made
      cases made
      exact ⟨payload, _, isPayload, rfl, rfl, rfl, rfl, rfl, rfl, rfl, nofun, nofun⟩
  | v3 =>
      obtain ⟨payload, isPayload, made⟩ := Option.bind_eq_some_iff.mp made
      obtain ⟨payloadHash, hashed, made⟩ := Option.bind_eq_some_iff.mp made
      obtain ⟨authority, -, made⟩ := Option.bind_eq_some_iff.mp made
      obtain ⟨evidenceHash, -, made⟩ := Option.bind_eq_some_iff.mp made
      obtain ⟨manifest, -, made⟩ := Option.bind_eq_some_iff.mp made
      obtain ⟨binding, isBinding, made⟩ := Option.bind_eq_some_iff.mp made
      cases made
      exact ⟨payload, payloadHash, isPayload, hashed, rfl, rfl, rfl, rfl, rfl, rfl, fun _ => rfl,
        fun _ => ⟨binding, isBinding, rfl⟩⟩

theorem ChainVersion.keys_nodup (version : ChainVersion) : version.keys.Nodup := by
  cases version <;> decide

theorem ChainVersion.receiptHash_not_mem_keys (version : ChainVersion) :
    "receipt_hash" ∉ version.keys := by
  cases version <;> decide

/-- The entry of a receipt that verifies shows the digest of its core. -/
theorem Sealed.receiptHash {receipt entry core : Public F τ} {version : ChainVersion} {hash : String}
    (isSealed : Sealed hashing receipt version entry core hash) :
    Json.get entry "receipt_hash" = .str (ofText hash) := by
  obtain ⟨payload, payloadHash, coreOf⟩ := coreOf_core isSealed.made
  have fresh : "receipt_hash" ∉ core.map (·.1) := by
    rw [coreOf.keys]
    exact version.receiptHash_not_mem_keys
  have distinct : (List.map Prod.fst (core ++ [("receipt_hash", Json.str (ofText hash))])).Nodup := by
    rw [List.map_append, List.nodup_append]
    refine ⟨coreOf.keys ▸ version.keys_nodup, List.nodup_singleton _, ?_⟩
    intro key mem other isOther
    rw [List.mem_singleton.mp isOther]
    rintro rfl
    exact fresh mem
  have last : (core ++ [("receipt_hash", Json.str (ofText hash))]).lookup "receipt_hash" = some (.str (ofText hash)) :=
    (lookup_eq_some_iff distinct).mpr (List.mem_append_right _ (List.mem_singleton_self _))
  obtain ⟨u, found, same⟩ := Json.lookup_of_pyEq isSealed.same distinct last
  rw [Json.get, found, Json.eq_str_of_pyEq same]
  rfl

end Sealing

/-! ## A receipt without its chain field -/

/-- The receipts differ at most in their chain field. -/
structure SameFacts (receipt receipt' : Public F τ) : Prop where
  get : ∀ name, name ≠ "receipt_chain" → Json.get receipt name = Json.get receipt' name
  present : ∀ name, name ≠ "receipt_chain" →
    receipt.any (·.1 == name) = receipt'.any (·.1 == name)
  extensions : extensions receipt = extensions receipt'

/-- The unknown fields of a receipt are untouched by an assignment to a known one. -/
theorem extensions_assign {name : String} (known : knownFields.contains name = true)
    (receipt : Public F τ) (v : Json F τ) : extensions (assign receipt name v) = extensions receipt := by
  unfold extensions assign
  split
  · rw [List.filter_map]
    have kept : (fun entry : String × Json F τ => !knownFields.contains entry.1) ∘
        (fun entry => if entry.1 == name then (name, v) else entry) =
          fun entry => !knownFields.contains entry.1 := by
      funext entry
      by_cases same : entry.1 = name
      · simp [Function.comp, same]
      · simp [Function.comp, same]
    rw [kept]
    have unchanged : ∀ entry ∈ receipt.filter fun entry => !knownFields.contains entry.1,
        (if entry.1 == name then (name, v) else entry) = entry := by
      intro entry mem
      have unknown := (List.mem_filter.mp mem).2
      have differs : ¬ (entry.1 == name) = true := by
        intro same
        rw [eq_of_beq same, known] at unknown
        cases unknown
      exact if_neg differs
    rw [List.map_congr_left unchanged, List.map_id']
  · have dropped : List.filter (fun entry : String × Json F τ => !knownFields.contains entry.1)
        [(name, v)] = [] := by
      rw [List.filter_cons, known]
      rfl
    rw [List.filter_append, dropped, List.append_nil]

theorem sameFacts_assign (receipt : Public F τ) (v : Json F τ) :
    SameFacts (assign receipt "receipt_chain" v) receipt where
  get name differs := by
    rw [Json.get, lookup_assign, if_neg differs]
    rfl
  present name differs := any_assign receipt v differs
  extensions := extensions_assign (by decide) receipt v

namespace SameFacts

variable {receipt receipt' : Public F τ} (same : SameFacts receipt receipt')

include same

theorem copied {names : List String} (apart : "receipt_chain" ∉ names) :
    copied receipt names = copied receipt' names := by
  refine List.map_congr_left fun name mem => ?_
  rw [same.get name fun eq => apart (eq ▸ mem)]

theorem fieldPresence : fieldPresence receipt = fieldPresence receipt' := by
  refine congrArg Json.dict (List.map_congr_left fun name mem => ?_)
  have apart : name ≠ "receipt_chain" := by
    rintro rfl
    exact absurd mem (by decide)
  rw [same.present name apart]

variable [Floating F] [Textual τ] [DecidableEq τ] {hashing : Hashing F τ}

theorem artifactManifest : artifactManifest hashing receipt = artifactManifest hashing receipt' := by
  unfold ReceiptChain.artifactManifest
  rw [same.get "artifacts" (by decide)]

theorem sessionBindingHash :
    sessionBindingHash hashing receipt = sessionBindingHash hashing receipt' := by
  unfold ReceiptChain.sessionBindingHash
  rw [same.get "browser" (by decide)]

theorem receiptPayload : receiptPayload hashing receipt = receiptPayload hashing receipt' := by
  unfold ReceiptChain.receiptPayload boundedEvidence
  rw [same.artifactManifest, same.get "browser" (by decide), same.copied (by decide),
    same.copied (by decide), same.get "runtime_version" (by decide), same.fieldPresence,
    same.extensions]

theorem entryCore (args : EntryArguments F τ) :
    entryCore hashing receipt args = entryCore hashing receipt' args := by
  unfold ReceiptChain.entryCore
  rw [same.receiptPayload, same.get "authority_decision" (by decide), same.copied (by decide),
    same.artifactManifest, same.sessionBindingHash, same.get "runtime_version" (by decide),
    same.get "schema_version" (by decide)]

end SameFacts

/-! ## Sealing -/

variable [Floating F] [Textual τ] [DecidableEq τ] {hashing : Hashing F τ}

/-- What `chain_receipt` makes of a receipt. -/
theorem chainReceipt_ok {receipt chained : Public F τ} {args : EntryArguments F τ}
    (made : chainReceipt hashing receipt args = some chained) :
    ∃ core hash, entryCore hashing receipt args = some core ∧
      digest hashing (.dict core) = some hash ∧
      chained = assign receipt "receipt_chain" (.dict (core ++ [("receipt_hash", .str (ofText hash))])) := by
  obtain ⟨entry, making, ends⟩ := Option.bind_eq_some_iff.mp made
  obtain ⟨core, isCore, hashed⟩ := Option.bind_eq_some_iff.mp making
  obtain ⟨hash, isHash, isEntry⟩ := Option.bind_eq_some_iff.mp hashed
  cases isEntry
  cases ends
  exact ⟨core, hash, isCore, isHash, rfl⟩

/-- A receipt that `chain_receipt` made verifies, as a current one with the
arguments it was made with. -/
theorem sealed_chainReceipt {receipt chained : Public F τ} {args : EntryArguments F τ}
    (made : chainReceipt hashing receipt args = some chained) :
    ∃ entry core hash, Sealed hashing chained .v3 entry core hash ∧
      claimedArguments .v3 entry = args ∧
      sessionBindingHash hashing receipt = some (Json.get entry "session_binding_hash") := by
  obtain ⟨core, hash, isCore, isHash, rfl⟩ := chainReceipt_ok made
  have isCore3 : ChainVersion.v3.core hashing receipt args = some core := isCore
  obtain ⟨payload, payloadHash, coreOf⟩ := coreOf_core isCore3
  have read : ∀ {key v}, core.lookup key = some v →
      Json.get (core ++ [("receipt_hash", .str (ofText hash))]) key = v := by
    intro key v found
    rw [Json.get, List.lookup_append, found]
    rfl
  have claimed : claimedArguments .v3 (core ++ [("receipt_hash", .str (ofText hash))]) = args := by
    simp only [claimedArguments, read coreOf.previous, read coreOf.plan, read coreOf.operation,
      read (coreOf.session rfl), if_true]
  have finite : (Json.dict (core ++ [("receipt_hash", .str (ofText hash))])).isFinite = true := by
    obtain ⟨text, canonical, -⟩ := Option.map_eq_some_iff.mp isHash
    unfold canonicalJson at canonical
    split at canonical
    · next finite =>
        have all := Json.isFiniteEntries_iff.mp finite
        refine Json.isFiniteEntries_iff.mpr fun entry mem => ?_
        rcases List.mem_append.mp mem with inCore | isLast
        · exact all entry inCore
        · rw [List.mem_singleton.mp isLast]
          rfl
    · cases canonical
  obtain ⟨binding, isBinding, bound⟩ := coreOf.binding rfl
  refine ⟨_, core, hash, ⟨?_, read coreOf.isVersion, ?_, isHash, Json.pyEq_self finite⟩, claimed,
    by rw [read bound, isBinding]⟩
  · rw [Json.get, lookup_assign, if_pos rfl]
    rfl
  · rw [claimed]
    exact ((sameFacts_assign receipt _).entryCore args).trans isCore

theorem verifyReceiptHash_of_sealed {receipt entry core : Public F τ} {version : ChainVersion}
    {hash : String} (isSealed : Sealed hashing receipt version entry core hash) :
    verifyReceiptHash hashing receipt = some true := by
  have made : version.make hashing receipt (claimedArguments version entry) =
      some (core ++ [("receipt_hash", .str (ofText hash))]) := by
    simp only [ChainVersion.make, isSealed.made, isSealed.hashed, Option.bind_eq_bind,
      Option.bind_some]
    rfl
  unfold verifyReceiptHash
  rw [isSealed.found]
  simp only [isSealed.isVersion, makerOf_text, Option.bind_eq_bind, Option.bind_some, made]
  exact congrArg some isSealed.same

/-- A receipt that `chain_receipt` made verifies. -/
theorem verifyReceiptHash_chainReceipt {receipt chained : Public F τ} {args : EntryArguments F τ}
    (made : chainReceipt hashing receipt args = some chained) :
    verifyReceiptHash hashing chained = some true := by
  obtain ⟨entry, core, hash, isSealed, -, -⟩ := sealed_chainReceipt made
  exact verifyReceiptHash_of_sealed isSealed

/-- Sealed with the head of a chain as its previous hash, a receipt extends the
chain, as far as the browser session it binds is the one of the chain. -/
theorem chainStep_chainReceipt {receipt chained : Public F τ} {args : EntryArguments F τ}
    {index : Nat} {state : ChainState τ} (made : chainReceipt hashing receipt args = some chained)
    (linked : args.previousReceiptHash = nullable state.previous) :
    ∃ entry core hash binding, Sealed hashing chained .v3 entry core hash ∧
      claimedArguments .v3 entry = args ∧ sessionBindingHash hashing receipt = some binding ∧
      chainStep hashing false index state chained = some
        { checkBinding index state binding with previous := some (ofText hash) } := by
  obtain ⟨entry, core, hash, isSealed, claimed, bound⟩ := sealed_chainReceipt made
  refine ⟨entry, core, hash, _, isSealed, claimed, bound, ?_⟩
  have previous : Json.get entry "previous_receipt_hash" = nullable state.previous := by
    rw [← linked, ← claimed]
    rfl
  have same : Json.pyEq (nullable state.previous) (nullable state.previous : Json F τ) = true := by
    cases state.previous <;> exact Json.pyEq_self rfl
  unfold chainStep
  rw [isSealed.found]
  simp only [previous, same, if_true, verifyReceiptHash_of_sealed isSealed, Option.bind_eq_bind,
    Option.bind_some, isSealed.receiptHash]
  rfl

/-! ## A concrete number type and hash -/

/-- The floating-point numbers `0.0` to `9.0`. -/
instance : Floating (Fin 10) where
  repr d := [Json.hexDigit d, '.', '0']
  isFinite _ := true
  eq d e := d = e
  eqInt d n := (d : Int) = n
  eq_self _ _ := decide_eq_true rfl
  repr_inj := by decide
  repr_head d := ⟨Json.hexDigit d, ['.', '0'], rfl, by revert d; decide⟩
  repr_chars := by decide
  repr_ne_int d n := Json.ne_int_of_mem (c := '.') (by simp) rfl (by decide) n

instance : Json.ReadsFloat (Fin 10) where
  parse text := (List.finRange 10).find? fun d => Floating.repr d = text
  parse_repr := by decide
  repr_chars := by decide
  repr_ne_word := by decide

/-- A hash without collisions: the text itself. -/
def textHashing (F : Type) (τ : Type := String) [Textual τ] : Hashing F τ where
  sha256 := String.ofList
  nfc := id
  pyStr _ := ofText ""

theorem textHashing_lawful {F τ : Type} [Textual τ] : (textHashing F τ).Lawful :=
  ⟨fun _ _ => rfl, fun _ => rfl⟩

theorem textHashing_injective {F τ : Type} [Textual τ] : Function.Injective (textHashing F τ).sha256 :=
  fun _ _ eq => String.ofList_injective eq

end Dingdongditch.ReceiptChain
