import Dingdongditch.Contract.Attestation
import Dingdongditch.Contract.ChainBinding
import Dingdongditch.Contract.Target

/-!
# What a verified attestation says about its receipts

A verification with receipts that succeeds establishes a valid chain that extends
the attested checkpoint and ends in the attested head, a trusted signature over
the canonical form of the statement, and the values that the caller expects
(`verify_sound`).
-/

namespace Dingdongditch

open Text ReceiptChain SignedPlan
open AttesterTrustRegistry (refuse raising expectText expectReference compareDigest signatureValid
  checkReceipts)
open ExecutionAttestationStatement (reference)

variable {F Key : Type} [Floating F]

/-! ## The chain up to a checkpoint -/

section Checkpoint

variable {hashing : Hashing F} {receipts : List (Public F)} {checkpoint : ReceiptChainCheckpoint F}

/-- The head of a chain is the hash that its last receipt carries. -/
theorem Chain.last_hash {before chain : List (Public F)} {receipt : Public F} {head : Option String}
    (verified : Chain hashing chain head) (split : chain = before ++ [receipt]) :
    ∃ entry hash, Json.get receipt "receipt_chain" = .dict entry ∧
      Json.get entry "receipt_hash" = .str hash ∧ head = some hash := by
  cases verified with
  | nil => simp at split
  | @snoc _ _ _ last entry core version hash rest isSealed linked isHead =>
      obtain ⟨-, same⟩ := List.append_inj' split rfl
      obtain rfl := List.singleton_inj.mp same
      exact ⟨entry, hash, isSealed.found, isSealed.receiptHash, isHead⟩

/-- A part of a chain that verifies verifies. -/
theorem verifyReceiptChain_take {result : ReceiptChainVerification}
    (verified : verifyReceiptChain hashing receipts = some result) (valid : result.valid = true)
    (n : Nat) : ∃ head, verifyReceiptChain hashing (receipts.take n) = some ⟨true, head, []⟩ := by
  obtain ⟨last, loop, ends⟩ := Option.bind_eq_some_iff.mp verified
  cases ends
  rw [← List.take_append_drop n receipts, chainLoop_append] at loop
  obtain ⟨middle, first, second⟩ := Option.bind_eq_some_iff.mp loop
  have noReasons := chainLoop_reasons second (List.isEmpty_iff.mp valid)
  refine ⟨middle.previous, ?_⟩
  unfold verifyReceiptChain
  simp only [first, Option.bind_eq_bind, Option.bind_some, noReasons, List.isEmpty_nil]
  rfl

theorem chainEntry_of_found {receipt entry : Public F}
    (found : Json.get receipt "receipt_chain" = .dict entry) : chainEntry receipt = some entry := by
  unfold chainEntry orEmpty truthy
  rw [found]
  cases entry with
  | nil => rfl
  | cons entry entries => rfl

omit [Floating F] in
/-- What a checkpoint of the right form says of its head. -/
theorem checkpoint_head (valid : checkpoint.validate = .ok ()) :
    0 ≤ checkpoint.chainLength ∧ (checkpoint.chainLength = 0 → checkpoint.chainHeadHash = none) := by
  unfold ReceiptChainCheckpoint.validate at valid
  obtain ⟨-, valid⟩ := reject_ok valid
  obtain ⟨nonneg, valid⟩ := reject_ok valid
  obtain ⟨empty, -⟩ := reject_ok valid
  refine ⟨by simpa using nonneg, ?_⟩
  intro isEmpty
  simpa [isEmpty] using empty

theorem sessionReasons_nil {sessionId : String} {index : Nat}
    (none : sessionReasons sessionId index receipts = some []) :
    ∀ receipt ∈ receipts, ∀ entry, Json.get receipt "receipt_chain" = .dict entry →
      Json.get entry "chain_version" = .str "3" → Json.get entry "session_id" = .str sessionId := by
  induction receipts generalizing index with
  | nil =>
      intro receipt mem
      cases mem
  | cons first rest ih =>
      obtain ⟨entry, isEntry, none⟩ := Option.bind_eq_some_iff.mp none
      obtain ⟨later, isLater, none⟩ := Option.bind_eq_some_iff.mp none
      have none := Option.some.inj none
      split at none
      · cases none
      · next agree =>
          intro receipt mem entry' found isThree
          rcases List.mem_cons.mp mem with rfl | inRest
          · obtain rfl := Option.some.inj ((chainEntry_of_found found).symm.trans isEntry)
            rw [isThree] at agree
            have same : Json.pyEq (.str "3" : Json F) (.str "3") = true := Json.pyEq_self rfl
            rw [same, Bool.true_and, Bool.not_eq_true, Bool.not_eq_false'] at agree
            exact Json.eq_str_of_pyEq agree
          · rw [none] at isLater
            exact ih isLater receipt inRest entry' found isThree

/-- What a chain that verifies against a checkpoint is: it verifies, its start up to
the length of the checkpoint ends in the head of the checkpoint, and its receipts
carry the session. -/
theorem verifyAgainstCheckpoint_valid {result : ReceiptChainVerification}
    (checked : verifyReceiptChainAgainstCheckpoint hashing receipts checkpoint = some result)
    (valid : result.valid = true) :
    verifyReceiptChain hashing receipts = some ⟨true, result.head, []⟩ ∧
    (∃ n : Nat, (n : Int) = checkpoint.chainLength ∧ n ≤ receipts.length ∧
      verifyReceiptChain hashing (receipts.take n) = some ⟨true, checkpoint.chainHeadHash, []⟩) ∧
    ∀ receipt ∈ receipts, ∀ entry, Json.get receipt "receipt_chain" = .dict entry →
      Json.get entry "chain_version" = .str "3" →
        Json.get entry "session_id" = .str checkpoint.sessionId := by
  unfold verifyReceiptChainAgainstCheckpoint at checked
  split at checked
  · cases checked
    cases valid
  · next wellFormed =>
      obtain ⟨verified, isVerified, checked⟩ := Option.bind_eq_some_iff.mp checked
      obtain ⟨early, isEarly, checked⟩ := Option.bind_eq_some_iff.mp checked
      obtain ⟨sessions, isSessions, checked⟩ := Option.bind_eq_some_iff.mp checked
      obtain rfl := Option.some.inj checked
      obtain ⟨noReasons, noSessions⟩ := List.append_eq_nil_iff.mp (List.isEmpty_iff.mp valid)
      obtain ⟨noFaults, rfl⟩ := List.append_eq_nil_iff.mp noReasons
      subst noSessions
      have whole : verified = ⟨true, verified.head, []⟩ := by
        obtain ⟨last, -, ends⟩ := Option.bind_eq_some_iff.mp isVerified
        obtain rfl := Option.some.inj ends
        have noReason : last.reasons = [] := noFaults
        rw [noReason]
        rfl
      have isValid : verified.valid = true := by rw [whole]
      refine ⟨by rw [isVerified, ← whole], ?_, sessionReasons_nil isSessions⟩
      obtain ⟨nonneg, emptyHead⟩ := checkpoint_head wellFormed
      unfold prefixReasons at isEarly
      split at isEarly
      · cases isEarly
      · next long =>
          refine ⟨checkpoint.chainLength.toNat, by omega, by omega, ?_⟩
          obtain ⟨head, taken⟩ := verifyReceiptChain_take isVerified isValid checkpoint.chainLength.toNat
          suffices same : head = checkpoint.chainHeadHash by rw [taken, same]
          by_cases isEmpty : checkpoint.chainLength = 0
          · rw [isEmpty] at taken
            cases taken
            exact (emptyHead isEmpty).symm
          · have inside : checkpoint.chainLength.toNat - 1 < receipts.length := by omega
            rw [List.getElem?_eq_getElem inside] at isEarly
            dsimp only at isEarly
            rw [if_neg isEmpty] at isEarly
            have split : receipts.take checkpoint.chainLength.toNat =
                receipts.take (checkpoint.chainLength.toNat - 1) ++
                  [receipts[checkpoint.chainLength.toNat - 1]] := by
              have positive : checkpoint.chainLength.toNat =
                  checkpoint.chainLength.toNat - 1 + 1 := by omega
              conv_lhs => rw [positive]
              exact List.take_succ_eq_append_getElem inside
            obtain ⟨entry, hash, found, isHash, isHead⟩ :=
              Chain.last_hash (chain_of_verifyReceiptChain taken rfl) split
            rw [chainEntry_of_found found, Option.map_some, isHash] at isEarly
            have sameHash := Option.some.inj isEarly
            split at sameHash
            · next agree =>
                refine Eq.trans (show head = some hash from isHead) ?_
                cases isAnchor : checkpoint.chainHeadHash with
                | none =>
                    rw [isAnchor] at agree
                    cases Json.eq_null_of_pyEq agree
                | some anchor =>
                    rw [isAnchor] at agree
                    exact congrArg some (Json.str.inj (Json.eq_str_of_pyEq agree))
            · cases sameHash

end Checkpoint

/-! ## The checks of a verification -/

section Checks

variable {host : AttestationHost F Key} {registry : AttesterTrustRegistry Key}
  {a : ExecutionAttestation F} {request : AttestationRequest F}

theorem refuse_ok {α : Type} {bad : Bool} {text : String} {f : Unit → Except AttestationRefusal α} {x : α}
    (checked : (refuse bad text >>= f) = .ok x) : bad = false ∧ f () = .ok x := by
  cases bad with
  | true => cases checked
  | false => exact ⟨rfl, checked⟩

theorem raising_ok {α β : Type} {value : Option α} {f : α → Except AttestationRefusal β} {x : β}
    (checked : (raising value >>= f) = .ok x) : ∃ v, value = some v ∧ f v = .ok x := by
  cases value with
  | none => cases checked
  | some v => exact ⟨v, rfl, checked⟩

theorem expectText_ok {value : String} {expected : Option String} {text : String}
    (checked : expectText value expected text = .ok ()) : ∀ x, expected = some x → x = value := by
  rintro x rfl
  obtain ⟨same, compared, checked⟩ := raising_ok checked
  have isSame : same = true := by
    cases same with
    | true => rfl
    | false => cases checked
  unfold compareDigest at compared
  split at compared
  · rw [isSame] at compared
    exact (of_decide_eq_true (Option.some.inj compared)).symm
  · cases compared

theorem canonicalJson_text {hashing : Hashing F} {v : Json F} {text : List Char}
    (canonical : canonicalJson hashing v = some text) : canonicalText hashing v = text := by
  unfold canonicalJson at canonical
  split at canonical
  · exact Option.some.inj canonical
  · cases canonical

theorem expectReference_ok {hashing : Hashing F} {value expected : Option (Public F)} {text : String}
    (checked : expectReference hashing value expected text = .ok ()) :
    ∀ d, expected = some d →
      canonicalText hashing (.dict d) = canonicalText hashing (reference value) := by
  rintro d rfl
  obtain ⟨canonical, isCanonical, checked⟩ := raising_ok checked
  obtain ⟨canonicalExpected, isExpected, checked⟩ := raising_ok checked
  by_cases same : canonical = canonicalExpected
  · rw [same] at isCanonical
    exact (canonicalJson_text isExpected).trans (canonicalJson_text isCanonical).symm
  · simp [refuse, same] at checked

theorem checkReceipts_ok {hashing : Hashing F} {s : ExecutionAttestationStatement F}
    {receipts : List (Public F)} (checked : checkReceipts hashing s (some receipts) = .ok ()) :
    (receipts.length : Int) = s.receiptCount ∧ ∃ result,
      verifyReceiptChainAgainstCheckpoint hashing receipts s.checkpoint = some result ∧
      result.valid = true ∧ result.head = s.receiptChainHead := by
  obtain ⟨result, isResult, checked⟩ := raising_ok checked
  obtain ⟨valid, checked⟩ := refuse_ok checked
  by_cases counted : (receipts.length : Int) = s.receiptCount
  · by_cases headed : result.head = s.receiptChainHead
    · exact ⟨counted, result, isResult, by simpa using valid, headed⟩
    · simp [refuse, headed] at checked
  · simp [refuse, counted] at checked

/-- What a verified attestation says of the receipts it was verified with. -/
structure AttestationHolds (host : AttestationHost F Key) (registry : AttesterTrustRegistry Key)
    (a : ExecutionAttestation F) (request : AttestationRequest F) (receipts : List (Public F)) :
    Prop where
  chain : verifyReceiptChain host.hashing receipts = some ⟨true, a.statement.receiptChainHead, []⟩
  sessions : ∀ receipt ∈ receipts, ∀ entry, Json.get receipt "receipt_chain" = .dict entry →
    Json.get entry "chain_version" = .str "3" →
      Json.get entry "session_id" = .str a.statement.sessionId
  count : (receipts.length : Int) = a.statement.receiptCount
  checkpoint : ∃ n : Nat, (n : Int) = a.statement.checkpoint.chainLength ∧ n ≤ receipts.length ∧
    verifyReceiptChain host.hashing (receipts.take n) =
      some ⟨true, a.statement.checkpoint.chainHeadHash, []⟩
  signed : ∃ key signature bytes,
    registry.trusted.lookup a.statement.attesterId = some (key, a.statement.assuranceLevel) ∧
    Attestation.decode a.signature 64 = .ok signature ∧
    a.statement.canonicalBytes host = some bytes ∧ host.verifies key signature bytes = true ∧
    ∀ other : ExecutionAttestationStatement F, other.canonicalBytes host = some bytes → ∀ name,
      canonicalText host.hashing (Json.get other.fields name) =
        canonicalText host.hashing (Json.get a.statement.fields name)
  window : a.statement.issuedAtMs ≤ request.nowMs ∧ request.nowMs < a.statement.expiresAtMs
  nonce : ∀ nonce, request.expectedNonce = some nonce → nonce = a.statement.nonce
  planHash : ∀ hash, request.expectedPlanHash = some hash → hash = a.statement.planHash.getD ""
  sessionId : ∀ id, request.expectedSessionId = some id → id = a.statement.sessionId
  policyHash : ∀ hash, request.expectedPolicyHash = some hash →
    hash = a.statement.authorityPolicyHash.getD ""
  identityReference : ∀ d, request.expectedIdentityReference = some d →
    canonicalText host.hashing (.dict d) =
      canonicalText host.hashing (reference a.statement.identityReference)
  speculationReference : ∀ d, request.expectedSpeculationReference = some d →
    canonicalText host.hashing (.dict d) =
      canonicalText host.hashing (reference a.statement.speculationReference)
  quorumVerdict : ∀ verdict, request.expectedQuorumVerdict = some verdict →
    a.statement.quorumVerdict = .str verdict
  runtimeVersion : ∀ version, request.expectedRuntimeVersion = some version →
    version = a.statement.runtimeVersion
  contractVersion : request.expectedContractVersion.getD machineContractVersion =
    a.statement.contractVersion
  browser : ∀ d, request.expectedBrowser = some d →
    canonicalText host.hashing (.dict d) = canonicalText host.hashing (reference a.statement.browser)

theorem any_ne_false {expected : Option String} {value : String}
    (checked : (expected.any (value ≠ ·)) = false) : ∀ x, expected = some x → x = value := by
  rintro x rfl
  have same : value = x := by simpa using checked
  exact same.symm

/-- The signature of a statement under a trusted key. -/
theorem signatureValid_ok {key : Key} (valid : signatureValid host key a = true) :
    ∃ signature bytes, Attestation.decode a.signature 64 = .ok signature ∧
      a.statement.canonicalBytes host = some bytes ∧ host.verifies key signature bytes = true := by
  unfold signatureValid at valid
  split at valid
  · next signature bytes decoded canonical => exact ⟨signature, bytes, decoded, canonical, valid⟩
  · cases valid

/-- The bytes that are signed determine the canonical text of every field. -/
theorem canonicalBytes_inj {s other : ExecutionAttestationStatement F} {bytes : List Char}
    (first : s.canonicalBytes host = some bytes) (second : other.canonicalBytes host = some bytes)
    (name : String) : canonicalText host.hashing (Json.get other.fields name) =
      canonicalText host.hashing (Json.get s.fields name) := by
  obtain ⟨_, -, first⟩ := Option.bind_eq_some_iff.mp first
  obtain ⟨text, canonical, first⟩ := Option.bind_eq_some_iff.mp first
  obtain ⟨_, -, second⟩ := Option.bind_eq_some_iff.mp second
  obtain ⟨text', canonical', second⟩ := Option.bind_eq_some_iff.mp second
  have same := (Option.some.inj second).trans (Option.some.inj first).symm
  obtain rfl := List.append_cancel_left same
  have alike := (canonicalJson_text canonical').trans (canonicalJson_text canonical).symm
  have distinct : ∀ statement : ExecutionAttestationStatement F,
      (statement.fields.map (·.1)).Nodup := by
    intro statement
    simp [ExecutionAttestationStatement.fields]
  exact Json.dumps_get alike (distinct other) (distinct s) name

/-- The session of a checkpoint of a statement is the session of the statement. -/
theorem checkpoint_session {s : ExecutionAttestationStatement F} {toDecimal : Char → Option Nat}
    (valid : s.validate toDecimal = .ok ()) : s.checkpoint.sessionId = s.sessionId := by
  unfold ExecutionAttestationStatement.validate at valid
  obtain ⟨-, valid⟩ := reject_ok valid
  obtain ⟨_, -, valid⟩ := bind_eq_ok.mp valid
  obtain ⟨_, -, valid⟩ := bind_eq_ok.mp valid
  obtain ⟨_, -, valid⟩ := bind_eq_ok.mp valid
  obtain ⟨_, -, valid⟩ := bind_eq_ok.mp valid
  obtain ⟨same, -⟩ := reject_ok valid
  simpa using same

/-- The checks of a verification with receipts. -/
theorem check_sound {receipts : List (Public F)} (checked : registry.check host a request = .ok ())
    (given : request.receipts = some receipts) : AttestationHolds host registry a request receipts := by
  unfold AttesterTrustRegistry.check at checked
  obtain ⟨wellFormed, checked⟩ := refuse_ok checked
  have valid : a.statement.validate host.toDecimal = .ok () := by
    cases isValid : a.validate host.toDecimal with
    | error e =>
        rw [isValid] at wellFormed
        cases wellFormed
    | ok _ =>
        obtain ⟨_, statementValid, -⟩ := bind_eq_ok.mp isValid
        exact statementValid
  cases trusted : registry.trusted.lookup a.statement.attesterId with
  | none =>
      rw [trusted] at checked
      cases checked
  | some pair =>
      obtain ⟨key, level⟩ := pair
      rw [trusted] at checked
      dsimp only at checked
      obtain ⟨sameLevel, checked⟩ := refuse_ok checked
      obtain ⟨alive, checked⟩ := refuse_ok checked
      obtain ⟨nonce, checked⟩ := refuse_ok checked
      obtain ⟨_, planHash, checked⟩ := bind_eq_ok.mp checked
      obtain ⟨_, sessionId, checked⟩ := bind_eq_ok.mp checked
      obtain ⟨_, policyHash, checked⟩ := bind_eq_ok.mp checked
      obtain ⟨_, identityReference, checked⟩ := bind_eq_ok.mp checked
      obtain ⟨_, speculationReference, checked⟩ := bind_eq_ok.mp checked
      obtain ⟨quorumVerdict, checked⟩ := refuse_ok checked
      obtain ⟨runtimeVersion, checked⟩ := refuse_ok checked
      obtain ⟨contractVersion, checked⟩ := refuse_ok checked
      obtain ⟨_, browser, checked⟩ := bind_eq_ok.mp checked
      obtain ⟨signed, checked⟩ := refuse_ok checked
      rw [given] at checked
      obtain ⟨counted, result, isResult, resultValid, headed⟩ := checkReceipts_ok checked
      obtain ⟨chain, anchored, sessions⟩ := verifyAgainstCheckpoint_valid isResult resultValid
      obtain ⟨signature, bytes, decoded, canonical, verifies⟩ :=
        signatureValid_ok (by simpa using signed : signatureValid host key a = true)
      have isLevel : level = a.statement.assuranceLevel := by
        have same : a.statement.assuranceLevel = level := by simpa using sameLevel
        exact same.symm
      rw [Bool.or_eq_false_iff] at alive
      constructor
      case chain => rw [chain, headed]
      case sessions =>
        rw [checkpoint_session valid] at sessions
        exact sessions
      case count => exact counted
      case checkpoint => exact anchored
      case signed =>
        rw [isLevel] at trusted
        exact ⟨key, signature, bytes, trusted, decoded, canonical, verifies,
          fun other same => canonicalBytes_inj canonical same⟩
      case window =>
        have issued := of_decide_eq_false alive.1
        have unexpired := of_decide_eq_false alive.2
        omega
      case nonce => exact any_ne_false nonce
      case planHash => exact expectText_ok planHash
      case sessionId => exact expectText_ok sessionId
      case policyHash => exact expectText_ok policyHash
      case identityReference => exact expectReference_ok identityReference
      case speculationReference => exact expectReference_ok speculationReference
      case quorumVerdict =>
        intro verdict expected
        rw [expected] at quorumVerdict
        exact Json.eq_str_of_pyEq (by simpa using quorumVerdict)
      case runtimeVersion => exact any_ne_false runtimeVersion
      case contractVersion =>
        have same : a.statement.contractVersion =
            request.expectedContractVersion.getD machineContractVersion := by
          simpa using contractVersion
        exact same.symm
      case browser => exact expectReference_ok browser

/-- A verification with receipts that succeeds is sound for them. -/
theorem verify_sound {receipts : List (Public F)} {registry' : AttesterTrustRegistry Key}
    (verified : registry.verify host a request = (.ok (), registry'))
    (given : request.receipts = some receipts) : AttestationHolds host registry a request receipts := by
  unfold AttesterTrustRegistry.verify at verified
  cases checked : registry.check host a request with
  | error refusal =>
      rw [checked] at verified
      cases verified
  | ok _ => exact check_sound checked given

end Checks

/-! ## An attested receipt -/

namespace Attestation

/-- A polynomial digest of 64 hexadecimal digits. -/
def polynomialDigest (text : List Char) : String :=
  let code := text.foldl (fun h c => (h * 65599 + c.toNat) % 16 ^ 64) 5381
  let digits := Nat.toDigits 16 code
  String.ofList (List.replicate (64 - digits.length) '0' ++ digits)

/-- A host with one key, which signed what carries 64 bytes, and one text that has
another canonical form. -/
def soleAttestationHost : AttestationHost (Fin 10) Unit where
  hashing := {
    sha256 := polynomialDigest
    nfc := fun text => if text = "e\u0301" then "\u00e9" else text
    pyStr := fun _ => "" }
  toDecimal _ := none
  verifies _ signature _ := signature.length = 64

def soleRegistry : AttesterTrustRegistry Unit where
  trusted := AList.singleton "host" ((), .hostAttested)

/-- A receipt that starts the chain of the session. -/
def firstReceipt : Public (Fin 10) :=
  (chainReceipt soleAttestationHost.hashing [("operation_id", .str "op-1")]
    { operationHash := .str "op", sessionId := .str "session" }).getD []

/-- A statement about a session with these receipts, from an empty checkpoint on. -/
def statementOf (receipts : List (Public (Fin 10))) (nonce : String) (expiresAtMs : Int) :
    ExecutionAttestationStatement (Fin 10) where
  version := "1.0"
  planHash := none
  signedPlanReference := none
  sessionId := "session"
  identityReference := some [("owner", .str "\u00e9")]
  authorityPolicyHash := none
  checkpoint := { sessionId := "session", chainLength := 0, chainHeadHash := none, timestampMs := 0 }
  receiptChainHead := (verifyReceiptChain soleAttestationHost.hashing receipts).bind (·.head)
  receiptCount := receipts.length
  quorumVerdict := .null
  artifactManifestHash := none
  runtimeVersion := "1.0.0"
  contractVersion := "1.0.0"
  browser := none
  speculationReference := none
  issuedAtMs := 0
  expiresAtMs
  nonce
  attesterId := "host"
  assuranceLevel := .hostAttested

def signedBySole (statement : ExecutionAttestationStatement (Fin 10)) : ExecutionAttestation (Fin 10) where
  statement
  algorithm := "ed25519"
  signature :=
    "AAAAAAAAAAAAAAAAAAAAAAAAAAAAAAAAAAAAAAAAAAAAAAAAAAAAAAAAAAAAAAAAAAAAAAAAAAAAAAAAAAAAAA"

end Attestation

open Attestation in
theorem verify_sound_firstReceipt : AttestationHolds soleAttestationHost soleRegistry
    (signedBySole (statementOf [firstReceipt] "nonce" 100))
    { receipts := some [firstReceipt], nowMs := 10, expectedSessionId := some "session" }
    [firstReceipt] := by
  have verified : (soleRegistry.verify soleAttestationHost
      (signedBySole (statementOf [firstReceipt] "nonce" 100))
      { receipts := some [firstReceipt], nowMs := 10, expectedSessionId := some "session" }).1.isOk =
        true := by decide +kernel
  cases outcome : soleRegistry.verify soleAttestationHost
      (signedBySole (statementOf [firstReceipt] "nonce" 100))
      { receipts := some [firstReceipt], nowMs := 10, expectedSessionId := some "session" } with
  | mk result registry' =>
      cases result with
      | error refusal =>
          rw [outcome] at verified
          cases verified
      | ok _ => exact verify_sound outcome rfl

open Attestation in
/-- An expected hash that is empty matches a statement without the hash, and an
expected mapping matches one with another form of its texts. -/
theorem verify_accepts_other_forms :
    (soleRegistry.verify soleAttestationHost (signedBySole (statementOf [] "nonce" 100))
      { receipts := some [], nowMs := 10, expectedPlanHash := some "", expectedPolicyHash := some ""
        expectedIdentityReference := some [("owner", .str "e\u0301")] }).1.isOk = true ∧
    (statementOf [] "nonce" 100).planHash = none ∧
    (statementOf [] "nonce" 100).authorityPolicyHash = none ∧
    (statementOf [] "nonce" 100).identityReference = some [("owner", .str "\u00e9")] ∧
    "e\u0301" ≠ "\u00e9" := by
  refine ⟨by decide +kernel, rfl, rfl, rfl, by decide⟩

end Dingdongditch
