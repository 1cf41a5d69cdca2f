import Dingdongditch.Contract.ChainSealing
import Dingdongditch.Text.CodePoints

/-!
# A chain head binds the whole chain

When SHA-256 has no collisions, two chains that verify and have one head agree
receipt by receipt: on the version, the canonical texts of the bound payload, the
operation hash and the session id, and on the previous hash
(`verifyReceiptChain_binds`).  The proof walks both chains backwards from the head;
the versions cannot be mixed up because each entry binds its own `chain_version`, and
the start cannot be mistaken for a receipt because no digest is `None`.  The payloads
themselves may differ where canonical JSON prints them alike (`halves_share_head`).
-/

namespace Dingdongditch.ReceiptChain

open Text
open Json (Textual)
open Json.Textual (ofText)

variable {F τ : Type} [Floating F] [Textual τ] {hashing : Hashing F τ}

/-! ## What a digest determines -/

/-- The canonical text of a value that a version binds. -/
def ChainVersion.canonical (hashing : Hashing F τ) (version : ChainVersion) (v : Json F τ) : List Char :=
  (v.normalize (version.form hashing)).dumps

/-- A digest determines the canonical text of what it is the digest of. -/
theorem entryDigest_inj (injective : Function.Injective hashing.sha256)
    {version version' : ChainVersion} {v v' : Json F τ} {hash : String}
    (hashed : version.entryDigest hashing v = some hash)
    (hashed' : version'.entryDigest hashing v' = some hash) :
    version.canonical hashing v = version'.canonical hashing v' := by
  have text : ∀ {version : ChainVersion} {v : Json F τ},
      version.entryDigest hashing v = some hash →
        hash = hashing.sha256 (version.canonical hashing v) := by
    intro version v hashed
    cases version with
    | v1 => exact (Option.some.inj hashed).symm
    | v2 => exact (Option.some.inj hashed).symm
    | v3 =>
        obtain ⟨bytes, canonical, rfl⟩ := Option.map_eq_some_iff.mp hashed
        unfold canonicalJson at canonical
        split at canonical
        · cases canonical
          rfl
        · cases canonical
  exact injective ((text hashed).symm.trans (text hashed'))

theorem isDigest_of_entryDigest {version : ChainVersion} {v : Json F τ} {hash : String}
    (hashed : version.entryDigest hashing v = some hash) : ∃ text, hash = hashing.sha256 text := by
  cases version with
  | v3 =>
      obtain ⟨bytes, -, rfl⟩ := Option.map_eq_some_iff.mp hashed
      exact ⟨bytes, rfl⟩
  | _ => exact ⟨_, (Option.some.inj hashed).symm⟩

section Lawful

variable (lawful : hashing.Lawful)

include lawful

omit [Floating F] in
theorem form_text (version version' : ChainVersion) :
    version.form hashing (ofText version'.text) = ofText version'.text := by
  cases version with
  | v3 => exact lawful.nfc_ascii _ (by cases version' <;> decide)
  | _ => rfl

omit [Floating F] in
theorem form_sha256 (version : ChainVersion) (text : List Char) :
    version.form hashing (ofText (hashing.sha256 text)) = ofText (hashing.sha256 text) := by
  cases version with
  | v3 => exact lawful.nfc_sha256 text
  | _ => rfl

theorem form_digest {version version' : ChainVersion} {v : Json F τ} {hash : String}
    (hashed : version.entryDigest hashing v = some hash) :
    version'.form hashing (ofText hash) = ofText hash := by
  obtain ⟨text, rfl⟩ := isDigest_of_entryDigest hashed
  exact form_sha256 lawful version' text

end Lawful

/-! ## What a receipt binds -/

/-- What the hash of a receipt binds: canonical texts, and the previous hash itself. -/
structure BoundValues (F : Type) (τ : Type := String) where
  version : ChainVersion
  payload : List Char
  operationHash : List Char
  sessionId : List Char
  previousReceiptHash : Json F τ

variable [DecidableEq τ]

def boundValues (hashing : Hashing F τ) (receipt : Public F τ) : Option (BoundValues F τ) :=
  match Json.get receipt "receipt_chain" with
  | .dict entry => do
      let maker ← makerOf (Json.get entry "chain_version")
      let version ← maker
      let payload ← version.payload hashing receipt
      return {
        version
        payload := version.canonical hashing payload
        operationHash := version.canonical hashing (Json.get entry "operation_hash")
        sessionId := version.canonical hashing (Json.get entry "session_id")
        previousReceiptHash := Json.get entry "previous_receipt_hash" }
  | _ => none

theorem Sealed.boundValues {receipt entry core : Public F τ} {version : ChainVersion} {hash : String}
    {payload : Json F τ} (isSealed : Sealed hashing receipt version entry core hash)
    (isPayload : version.payload hashing receipt = some payload) :
    boundValues hashing receipt = some {
      version
      payload := version.canonical hashing payload
      operationHash := version.canonical hashing (Json.get entry "operation_hash")
      sessionId := version.canonical hashing (Json.get entry "session_id")
      previousReceiptHash := Json.get entry "previous_receipt_hash" } := by
  unfold ReceiptChain.boundValues
  rw [isSealed.found]
  dsimp only
  rw [isSealed.isVersion, makerOf_text]
  simp only [Option.bind_eq_bind, Option.bind_some, isPayload]
  rfl

/-- An entry of an older version has no session. -/
theorem Sealed.sessionId_old {receipt entry core : Public F τ} {version : ChainVersion} {hash : String}
    (isSealed : Sealed hashing receipt version entry core hash) (old : version ≠ .v3) :
    Json.get entry "session_id" = .null := by
  obtain ⟨payload, payloadHash, coreOf⟩ := coreOf_core isSealed.made
  have absent : "session_id" ∉ List.map Prod.fst (core ++ [("receipt_hash", Json.str (ofText hash))]) := by
    rw [List.map_append, coreOf.keys]
    cases version with
    | v3 => exact absurd rfl old
    | _ => simp [ChainVersion.keys]
  rw [Json.get, Json.lookup_eq_none_of_pyEq isSealed.same absent]
  rfl

section SameHash

variable {receipt receipt' entry entry' core core' : Public F τ} {version version' : ChainVersion}
  {hash : String}

/-- Two receipts that verify with one hash have one version, and the values under
one key of their cores have one canonical text. -/
theorem core_agree (lawful : hashing.Lawful) (injective : Function.Injective hashing.sha256)
    (isSealed : Sealed hashing receipt version entry core hash)
    (isSealed' : Sealed hashing receipt' version' entry' core' hash) :
    version = version' ∧ ∀ {key v v'}, core.lookup key = some v → core'.lookup key = some v' →
      version.canonical hashing v = version.canonical hashing v' := by
  obtain ⟨payload, payloadHash, coreOf⟩ := coreOf_core isSealed.made
  obtain ⟨payload', payloadHash', coreOf'⟩ := coreOf_core isSealed'.made
  have canonical := entryDigest_inj injective isSealed.hashed isSealed'.hashed
  have distinct : (core.map (·.1)).Nodup := coreOf.keys ▸ version.keys_nodup
  have distinct' : (core'.map (·.1)).Nodup := coreOf'.keys ▸ version'.keys_nodup
  have agree : ∀ {key v v'}, core.lookup key = some v → core'.lookup key = some v' →
      version.canonical hashing v = version'.canonical hashing v' := by
    intro key v v' found found'
    obtain ⟨u, mem, same⟩ :=
      Json.dumps_entry canonical ((lookup_eq_some_iff distinct).mp found)
    have isU := (lookup_eq_some_iff distinct').mpr mem
    rw [found'] at isU
    rw [ChainVersion.canonical, same, Option.some.inj isU]
    rfl
  have texts : version.text = version'.text := by
    have eq := agree coreOf.isVersion coreOf'.isVersion
    unfold ChainVersion.canonical at eq
    rw [Json.normalize, Json.normalize, form_text lawful, form_text lawful] at eq
    exact Json.ofText_inj_of_dumps eq
  have same : version = version' := by
    cases version <;> cases version' <;> first | rfl | exact absurd texts (by decide)
  subst same
  exact ⟨rfl, agree⟩

/-- The hash of a receipt determines the canonical text of its payload. -/
theorem payload_eq (lawful : hashing.Lawful) (injective : Function.Injective hashing.sha256)
    (isSealed : Sealed hashing receipt version entry core hash)
    (isSealed' : Sealed hashing receipt' version entry' core' hash) :
    ∃ payload payload', version.payload hashing receipt = some payload ∧
      version.payload hashing receipt' = some payload' ∧
      version.canonical hashing payload = version.canonical hashing payload' := by
  obtain ⟨payload, payloadHash, coreOf⟩ := coreOf_core isSealed.made
  obtain ⟨payload', payloadHash', coreOf'⟩ := coreOf_core isSealed'.made
  obtain ⟨-, agree⟩ := core_agree lawful injective isSealed isSealed'
  have eq := agree coreOf.payloadHash coreOf'.payloadHash
  unfold ChainVersion.canonical at eq
  rw [Json.normalize, Json.normalize, form_digest lawful coreOf.hashed,
    form_digest lawful coreOf'.hashed] at eq
  have eq := Json.ofText_inj_of_dumps eq
  exact ⟨payload, payload', coreOf.isPayload, coreOf'.isPayload,
    entryDigest_inj injective coreOf.hashed (eq ▸ coreOf'.hashed)⟩

/-- What may link a receipt to the one before: `None` or a digest. -/
def IsLink (hashing : Hashing F τ) (v : Json F τ) : Prop :=
  v = .null ∨ ∃ text, v = .str (ofText (hashing.sha256 text))

omit [Floating F] [DecidableEq τ] in
/-- Canonical form leaves a link as it is. -/
theorem IsLink.normalize (lawful : hashing.Lawful) {v : Json F τ} (link : IsLink hashing v) :
    v.normalize (version.form hashing) = v := by
  rcases link with rfl | ⟨text, rfl⟩
  · rfl
  · exact congrArg Json.str (form_sha256 lawful version text)

omit [DecidableEq τ] in
/-- A link is determined by its canonical text. -/
theorem IsLink.eq_of_canonical (lawful : hashing.Lawful) {v v' : Json F τ} (link : IsLink hashing v)
    (link' : IsLink hashing v') (same : version.canonical hashing v = version.canonical hashing v') :
    v = v' := by
  unfold ChainVersion.canonical at same
  rw [link.normalize lawful, link'.normalize lawful] at same
  rcases link with rfl | ⟨text, rfl⟩
  · rcases link' with rfl | ⟨text', rfl⟩
    · rfl
    · cases Json.literals_eq same
  · rcases link' with rfl | ⟨text', rfl⟩
    · cases Json.literals_eq same
    · rw [Json.ofText_inj_of_dumps same]

/-- Two receipts that verify with one hash bind the same values, as soon as the
previous hash of each is `None` or a digest. -/
theorem boundValues_eq (lawful : hashing.Lawful) (injective : Function.Injective hashing.sha256)
    (isSealed : Sealed hashing receipt version entry core hash)
    (isSealed' : Sealed hashing receipt' version' entry' core' hash)
    (link : IsLink hashing (Json.get entry "previous_receipt_hash"))
    (link' : IsLink hashing (Json.get entry' "previous_receipt_hash")) :
    Json.get entry "previous_receipt_hash" = Json.get entry' "previous_receipt_hash" ∧
      ∃ b, boundValues hashing receipt = some b ∧ boundValues hashing receipt' = some b := by
  obtain ⟨_, _, coreOf⟩ := coreOf_core isSealed.made
  obtain ⟨_, _, coreOf'⟩ := coreOf_core isSealed'.made
  obtain ⟨rfl, agree⟩ := core_agree lawful injective isSealed isSealed'
  obtain ⟨payload, payload', isPayload, isPayload', payloads⟩ :=
    payload_eq lawful injective isSealed isSealed'
  have previous : Json.get entry "previous_receipt_hash" = Json.get entry' "previous_receipt_hash" :=
    link.eq_of_canonical lawful link' (agree coreOf.previous coreOf'.previous)
  have operations : version.canonical hashing (Json.get entry "operation_hash") =
      version.canonical hashing (Json.get entry' "operation_hash") :=
    agree coreOf.operation coreOf'.operation
  have sessions : version.canonical hashing (Json.get entry "session_id") =
      version.canonical hashing (Json.get entry' "session_id") := by
    by_cases current : version = .v3
    · subst current
      exact agree (coreOf.session rfl) (coreOf'.session rfl)
    · rw [isSealed.sessionId_old current, isSealed'.sessionId_old current]
  refine ⟨previous, _, isSealed.boundValues isPayload, ?_⟩
  rw [isSealed'.boundValues isPayload', payloads, previous, sessions, operations]

end SameHash

/-! ## Chains that verify -/

/-- A chain of receipts that verify, each with the hash of the one before as its
previous hash, and the head of the chain. -/
inductive Chain (hashing : Hashing F τ) : List (Public F τ) → Option τ → Prop
  | nil : Chain hashing [] none
  | snoc {receipts : List (Public F τ)} {previous head : Option τ} {receipt entry core : Public F τ}
      {version : ChainVersion} {hash : String} (rest : Chain hashing receipts previous)
      (isSealed : Sealed hashing receipt version entry core hash)
      (linked : Json.get entry "previous_receipt_hash" = nullable previous)
      (isHead : head = some (ofText hash)) : Chain hashing (receipts ++ [receipt]) head

theorem Chain.isLink {receipts : List (Public F τ)} {head : Option τ}
    (chain : Chain hashing receipts head) : IsLink hashing (nullable head) := by
  cases chain with
  | nil => exact .inl rfl
  | snoc rest isSealed linked isHead =>
      obtain ⟨text, rfl⟩ := isDigest_of_entryDigest isSealed.hashed
      exact .inr ⟨text, congrArg nullable isHead⟩

omit [Floating F] [Textual τ] [DecidableEq τ] in
theorem nullable_inj {head head' : Option τ}
    (eq : (nullable head : Json F τ) = nullable head') : head = head' := by
  cases head with
  | none =>
      cases head' with
      | none => rfl
      | some h => cases eq
  | some h =>
      cases head' with
      | none => cases eq
      | some h' => rw [Json.str.inj eq]

/-- The head of a chain determines what every receipt of the chain binds. -/
theorem Chain.binds (lawful : hashing.Lawful) (injective : Function.Injective hashing.sha256)
    {receipts receipts' : List (Public F τ)} {head : Option τ}
    (chain : Chain hashing receipts head) (chain' : Chain hashing receipts' head) :
    List.Forall₂ (fun receipt receipt' => ∃ b, boundValues hashing receipt = some b ∧
      boundValues hashing receipt' = some b) receipts receipts' := by
  induction chain generalizing receipts' with
  | nil =>
      cases chain' with
      | nil => exact .nil
      | snoc rest' isSealed' linked' isHead' => cases isHead'
  | snoc rest isSealed linked isHead ih =>
      cases chain' with
      | nil => cases isHead
      | snoc rest' isSealed' linked' isHead' =>
          obtain rfl := Json.ofText_inj (Option.some.inj (isHead.symm.trans isHead'))
          obtain ⟨previous, bound⟩ := boundValues_eq lawful injective isSealed isSealed'
            (linked ▸ rest.isLink) (linked' ▸ rest'.isLink)
          rw [linked, linked'] at previous
          have same := nullable_inj previous
          subst same
          exact List.rel_append (ih rest') (.cons bound .nil)

/-! ## The verification establishes a chain -/

omit [Floating F] [Textual τ] [DecidableEq τ] in
theorem ChainState.add_reasons_ne (state : ChainState τ) (reason : String) :
    (state.add reason).reasons ≠ [] := by
  simp [ChainState.add]

omit [Floating F] in
/-- The check of the browser session removes no reason. -/
theorem checkBinding_ok {index : Nat} {state : ChainState τ} {binding : Json F τ}
    (ok : (checkBinding index state binding).reasons = []) : state.reasons = [] := by
  unfold checkBinding at ok
  split at ok
  · exact ok
  · split at ok
    · exact absurd ok (state.add_reasons_ne _)
    · split at ok
      · exact ok
      · split at ok
        · exact ok
        · exact absurd ok (state.add_reasons_ne _)
  · exact absurd ok (state.add_reasons_ne _)

/-- A step of the loop that ends without a reason: the receipt verifies, is linked
to the head before it, and becomes the head. -/
theorem chainStep_ok {index : Nat} {state next : ChainState τ} {receipt : Public F τ}
    (step : chainStep hashing false index state receipt = some next) (ok : next.reasons = []) :
    state.reasons = [] ∧ ∃ version entry core hash, Sealed hashing receipt version entry core hash ∧
      Json.get entry "previous_receipt_hash" = nullable state.previous ∧
      next.previous = some (ofText hash) := by
  unfold chainStep at step
  split at step
  · next entry found =>
      obtain ⟨verified, check, ends⟩ := Option.bind_eq_some_iff.mp step
      have bounded : (checkBinding index (if verified then
          (if Json.pyEq (Json.get entry "previous_receipt_hash") (nullable state.previous) then state
            else state.add (receiptLabel index ++ " previous hash does not match chain head"))
          else (if Json.pyEq (Json.get entry "previous_receipt_hash") (nullable state.previous)
            then state
            else state.add (receiptLabel index ++ " previous hash does not match chain head")).add
              (receiptLabel index ++ " hash does not verify"))
          (Json.get entry "session_binding_hash")).reasons = [] := by
        have ends := Option.some.inj ends
        rw [← ends] at ok
        split at ok
        · exact ok
        · exact ok
      have hashed := checkBinding_ok bounded
      cases verified with
      | false => exact absurd hashed (ChainState.add_reasons_ne _ _)
      | true =>
          rw [if_pos rfl] at hashed
          split at hashed
          · next linked =>
              obtain ⟨version, entry', core, hash, isSealed⟩ := sealed_of_verifyReceiptHash check
              have sameEntry : entry = entry' := Json.dict.inj (found.symm.trans isSealed.found)
              subst sameEntry
              refine ⟨hashed, version, entry, core, hash, isSealed, ?_, ?_⟩
              · cases isPrevious : state.previous with
                | none =>
                    rw [isPrevious] at linked
                    exact Json.eq_null_of_pyEq linked
                | some previous =>
                    rw [isPrevious] at linked
                    exact Json.eq_str_of_pyEq linked
              · have ends := Option.some.inj ends
                rw [← ends, isSealed.receiptHash]
          · exact absurd hashed (ChainState.add_reasons_ne _ _)
  · cases step
    exact absurd ok (state.add_reasons_ne _)

/-- A loop that ends without a reason never had one. -/
theorem chainLoop_reasons {index : Nat} {state last : ChainState τ} {later : List (Public F τ)}
    (loop : chainLoop hashing false index state later = some last) (ok : last.reasons = []) :
    state.reasons = [] := by
  induction later generalizing index state with
  | nil =>
      cases loop
      exact ok
  | cons receipt later ih =>
      obtain ⟨next, step, rest⟩ := Option.bind_eq_some_iff.mp loop
      exact (chainStep_ok step (ih rest)).1

theorem chainLoop_append (hashing : Hashing F τ) (allowLegacy : Bool) {index : Nat}
    {state : ChainState τ} {first : List (Public F τ)} (second : List (Public F τ)) :
    chainLoop hashing allowLegacy index state (first ++ second) =
      (chainLoop hashing allowLegacy index state first).bind fun middle =>
        chainLoop hashing allowLegacy (index + first.length) middle second := by
  induction first generalizing index state with
  | nil => rfl
  | cons receipt rest ih =>
      simp only [List.cons_append, chainLoop]
      cases chainStep hashing allowLegacy index state receipt with
      | none => rfl
      | some next =>
          simp only [Option.bind_eq_bind, Option.bind_some]
          rw [ih, List.length_cons, Nat.add_assoc, Nat.add_comm 1 rest.length]

theorem chainLoop_chain {index : Nat} {state last : ChainState τ}
    {receipts later : List (Public F τ)}
    (loop : chainLoop hashing false index state later = some last) (ok : last.reasons = [])
    (chain : Chain hashing receipts state.previous) :
    Chain hashing (receipts ++ later) last.previous := by
  induction later generalizing index state receipts with
  | nil =>
      cases loop
      rw [List.append_nil]
      exact chain
  | cons receipt later ih =>
      obtain ⟨next, step, rest⟩ := Option.bind_eq_some_iff.mp loop
      obtain ⟨-, version, entry, core, hash, isSealed, linked, head⟩ :=
        chainStep_ok step (chainLoop_reasons rest ok)
      have grown : Chain hashing (receipts ++ [receipt]) next.previous := by
        rw [head]
        exact .snoc chain isSealed linked rfl
      have extended := ih rest grown
      rwa [List.append_assoc] at extended

theorem chain_of_verifyReceiptChain {receipts : List (Public F τ)} {result : ReceiptChainVerification τ}
    (verified : verifyReceiptChain hashing receipts = some result) (valid : result.valid = true) :
    Chain hashing receipts result.head := by
  obtain ⟨last, loop, ends⟩ := Option.bind_eq_some_iff.mp verified
  cases ends
  exact chainLoop_chain loop (List.isEmpty_iff.mp valid) .nil

/-- Two chains that verify and have one head have one length and bind, receipt by
receipt, the same version, payload, operation hash and session id, by their canonical
texts, and the same previous hash. -/
theorem verifyReceiptChain_binds (lawful : hashing.Lawful)
    (injective : Function.Injective hashing.sha256) {receipts receipts' : List (Public F τ)}
    {result result' : ReceiptChainVerification τ}
    (verified : verifyReceiptChain hashing receipts = some result) (valid : result.valid = true)
    (verified' : verifyReceiptChain hashing receipts' = some result') (valid' : result'.valid = true)
    (heads : result.head = result'.head) :
    receipts.length = receipts'.length ∧
      List.Forall₂ (fun receipt receipt' => ∃ b, boundValues hashing receipt = some b ∧
        boundValues hashing receipt' = some b) receipts receipts' := by
  have chain := chain_of_verifyReceiptChain verified valid
  have chain' := chain_of_verifyReceiptChain verified' valid'
  rw [← heads] at chain'
  have bound := chain.binds lawful injective chain'
  exact ⟨bound.length_eq, bound⟩

/-- A first receipt without a browser is a chain that verifies, with the hash that the
receipt shows as its head. -/
theorem verifyReceiptChain_first {receipt chained : Public F τ} {args : EntryArguments F τ}
    (made : chainReceipt hashing receipt args = some chained)
    (first : args.previousReceiptHash = .null) (noBrowser : Json.get receipt "browser" = .null) :
    ∃ entry hash, Json.get chained "receipt_chain" = .dict entry ∧
      Json.get entry "receipt_hash" = .str (ofText hash) ∧
      verifyReceiptChain hashing [chained] = some ⟨true, some (ofText hash), []⟩ := by
  obtain ⟨entry, core, hash, binding, isSealed, -, bound, step⟩ :=
    @chainStep_chainReceipt _ _ _ _ _ hashing receipt chained args 0 {} made first
  rw [sessionBindingHash, noBrowser] at bound
  cases bound
  refine ⟨entry, hash, isSealed.found, isSealed.receiptHash, ?_⟩
  unfold verifyReceiptChain
  simp only [chainLoop, step, Option.bind_eq_bind, Option.bind_some]
  rfl

theorem verifyReceiptChain_binds_single :
    ∃ chained : Public (Fin 10), ∃ result,
      verifyReceiptChain (textHashing (Fin 10)) [chained] = some result ∧ result.valid = true ∧
      List.Forall₂ (fun receipt receipt' => ∃ b,
        boundValues (textHashing (Fin 10)) receipt = some b ∧
        boundValues (textHashing (Fin 10)) receipt' = some b) [chained] [chained] := by
  have made : (chainReceipt (textHashing (Fin 10)) [("operation_id", .str "op-1")]
      { operationHash := .str "op", sessionId := .str "session" }).isSome = true := by decide
  obtain ⟨chained, isChained⟩ := Option.isSome_iff_exists.mp made
  obtain ⟨entry, hash, -, -, verified⟩ := verifyReceiptChain_first isChained rfl rfl
  exact ⟨chained, _, verified, rfl, (verifyReceiptChain_binds textHashing_lawful
    textHashing_injective verified rfl verified rfl rfl).2⟩

/-! ## Two operations with one canonical text -/

/-- The two halves of a pair, as characters of their own. -/
def halves : CodePoints := [⟨0xd83d, by decide⟩, ⟨0xde00, by decide⟩]

/-- The character that the pair stands for. -/
def whole : CodePoints := [⟨0x1f600, by decide⟩]

def operationReceipt (operationId : CodePoints) : Public (Fin 10) CodePoints :=
  [("operation_id", .str operationId)]

/-- The fields of the payload of the receipt. -/
def operationFields (operationId : CodePoints) : Public (Fin 10) CodePoints :=
  match receiptPayload (textHashing (Fin 10) CodePoints) (operationReceipt operationId) with
  | some (.dict entries) => entries
  | _ => []

/-- The operation that a payload names. -/
def payloadOperation : Json (Fin 10) CodePoints → Option CodePoints
  | .dict entries => (Json.get entries "operation_id").asText
  | _ => none

/-- The halves of a surrogate pair are printed as the character is that the pair stands for. -/
theorem digest_halves :
    digest (textHashing (Fin 10) CodePoints) (.dict (operationFields halves)) =
      digest (textHashing (Fin 10) CodePoints) (.dict (operationFields whole)) := by
  have literals : (Json.str halves : Json (Fin 10) CodePoints).dumps =
      (Json.str whole : Json (Fin 10) CodePoints).dumps := by decide
  have fields : ∀ operationId, Json.fieldTexts id (operationFields operationId) =
      ("schema_version", "null".toList) ::
        ("operation_id", (Json.str operationId : Json (Fin 10) CodePoints).dumps) ::
          Json.fieldTexts id ((operationFields []).drop 2) := fun _ => rfl
  have texts : canonicalText (textHashing (Fin 10) CodePoints) (.dict (operationFields halves)) =
      canonicalText (textHashing (Fin 10) CodePoints) (.dict (operationFields whole)) :=
    Json.dumps_of_fieldTexts ((fields halves).trans (literals ▸ (fields whole).symm))
  rw [digest, digest, canonicalJson, canonicalJson, texts]
  rfl

theorem make_halves :
    ChainVersion.v3.make (textHashing (Fin 10) CodePoints) (operationReceipt halves) {} =
      ChainVersion.v3.make (textHashing (Fin 10) CodePoints) (operationReceipt whole) {} := by
  have isPayload : ∀ operationId, receiptPayload (textHashing (Fin 10) CodePoints)
      (operationReceipt operationId) = some (.dict (operationFields operationId)) := fun _ => rfl
  have cores : entryCore (textHashing (Fin 10) CodePoints) (operationReceipt halves) {} =
      entryCore (textHashing (Fin 10) CodePoints) (operationReceipt whole) {} := by
    unfold entryCore
    rw [isPayload, isPayload]
    simp only [Option.bind_eq_bind, Option.bind_some, digest_halves]
    rfl
  rw [ChainVersion.make, ChainVersion.core, cores]
  rfl

/-- Canonical JSON prints the halves of a surrogate pair as it prints the character that
the pair stands for: chains with one head bind payloads that differ in the operation. -/
theorem halves_share_head :
    (textHashing (Fin 10) CodePoints).Lawful ∧
      Function.Injective (textHashing (Fin 10) CodePoints).sha256 ∧
      ∃ chained chained' : Public (Fin 10) CodePoints, ∃ head,
        verifyReceiptChain (textHashing (Fin 10) CodePoints) [chained] = some ⟨true, head, []⟩ ∧
        verifyReceiptChain (textHashing (Fin 10) CodePoints) [chained'] = some ⟨true, head, []⟩ ∧
        ∃ payload payload', receiptPayload (textHashing (Fin 10) CodePoints) chained = some payload ∧
          receiptPayload (textHashing (Fin 10) CodePoints) chained' = some payload' ∧
          payload.normalize (textHashing (Fin 10) CodePoints).nfc ≠
            payload'.normalize (textHashing (Fin 10) CodePoints).nfc := by
  have isSome : (ChainVersion.v3.make (textHashing (Fin 10) CodePoints) (operationReceipt whole)
      {}).isSome = true := by decide
  obtain ⟨entry, made'⟩ := Option.isSome_iff_exists.mp isSome
  have made := make_halves.trans made'
  have sealedAs : ∀ {operationId}, ChainVersion.v3.make (textHashing (Fin 10) CodePoints)
      (operationReceipt operationId) {} = some entry →
      chainReceipt (textHashing (Fin 10) CodePoints) (operationReceipt operationId) {} =
        some (assign (operationReceipt operationId) "receipt_chain" (.dict entry)) := by
    intro operationId made
    rw [chainReceipt, made]
    rfl
  have bound : ∀ operationId, receiptPayload (textHashing (Fin 10) CodePoints)
      (assign (operationReceipt operationId) "receipt_chain" (.dict entry)) =
        some (.dict (operationFields operationId)) := fun operationId =>
    (sameFacts_assign (operationReceipt operationId) _).receiptPayload
  obtain ⟨_, hash, found, shown, verified⟩ := verifyReceiptChain_first (sealedAs made) rfl rfl
  obtain ⟨_, hash', found', shown', verified'⟩ := verifyReceiptChain_first (sealedAs made') rfl rfl
  have shows : ∀ {operationId shownEntry}, Json.get (assign (operationReceipt operationId)
      "receipt_chain" (.dict entry)) "receipt_chain" = .dict shownEntry → entry = shownEntry := by
    intro operationId shownEntry found
    rw [Json.get, lookup_assign, if_pos rfl] at found
    exact Json.dict.inj found
  obtain rfl := shows found
  obtain rfl := shows found'
  have sameHash : hash = hash' := Json.ofText_inj (Json.str.inj (shown.symm.trans shown'))
  refine ⟨textHashing_lawful, textHashing_injective, _, _, _, verified, sameHash ▸ verified', _, _,
    bound halves, bound whole, fun same => ?_⟩
  have operations := congrArg payloadOperation same
  exact absurd operations (by decide +kernel)

end Dingdongditch.ReceiptChain
