import Dingdongditch.Contract.ChainBinding
import Dingdongditch.Runtime.Budgets

/-!
# Every dispatch leaves a receipt in a valid chain

The chain of a session verifies in every state that its runs reach
(`run_chainValid`).  An execution that dispatched appends one receipt, unless the
session raises between the dispatch and the append (`Unrecorded`): the page has
no URL to judge the dispatch by, or canonical JSON rejects the receipt.
-/

namespace Dingdongditch

open Interaction Text

variable {host : SessionHost}

/-! ## The chain of a session -/

/-- The arguments with which a session chains a receipt. -/
def chainArguments {F : Type} (head : Option String) (operationHash sessionId : String) :
    ReceiptChain.EntryArguments F where
  previousReceiptHash := ReceiptChain.nullable head
  operationHash := .str operationHash
  sessionId := .str sessionId

/-- The hash that `chain_receipt` seals a public receipt with. -/
def sealHash {F : Type} [Floating F] (hashing : Hashing F) (receipt : Public F)
    (args : ReceiptChain.EntryArguments F) : Except PyException String :=
  match ReceiptChain.entryCore hashing receipt args with
  | none => .error (.valueError "receipt is not canonical JSON")
  | some core =>
      match ReceiptChain.digest hashing (.dict core) with
      | none => .error (.valueError "receipt is not canonical JSON")
      | some hash => .ok hash

/-- The host seals receipts with `chain_receipt`, and the browser facts of the
receipts of a session name one browser session. -/
structure ChainsReceipts (host : SessionHost) (F : Type) [Floating F] where
  hashing : Hashing F
  publicReceipt : SessionReceipt → Public F
  browserSession : String
  named : browserSession ≠ ""
  receiptHash : ∀ receipt head operationHash sessionId,
    host.receiptHash receipt head operationHash sessionId =
      sealHash hashing (publicReceipt receipt) (chainArguments head operationHash sessionId)
  bound : ∀ receipt binding,
    ReceiptChain.sessionBindingHash hashing (publicReceipt receipt) = some binding →
      binding = .null ∨ binding = .str browserSession

namespace ChainsReceipts

variable {F : Type} [Floating F] (chains : ChainsReceipts host F)

/-- The public form of a receipt of the chain. -/
def chained (c : ChainedReceipt) : Public F :=
  (ReceiptChain.chainReceipt chains.hashing (chains.publicReceipt c.body)
    (chainArguments c.entry.previousReceiptHash c.entry.operationHash c.entry.sessionId)).getD []

/-- The chain of a record verifies up to its head. -/
structure Valid (s : SessionRecord host.codec) : Prop where
  loop : ∃ binding, (binding = none ∨ binding = some chains.browserSession) ∧
    ReceiptChain.chainLoop chains.hashing false 0 {} (s.receiptChain.map chains.chained) =
      some ⟨s.receiptChainHead, binding, []⟩
  session : ∀ c ∈ s.receiptChain, c.entry.sessionId = s.sessionId ∧
    ∃ entry, Json.get (chains.chained c) "receipt_chain" = .dict entry ∧
      Json.get entry "session_id" = .str s.sessionId

/-- A receipt that is sealed on the head of a valid chain extends it. -/
theorem Valid.chain {s : SessionRecord host.codec} (valid : chains.Valid s) {op : Operation}
    {receipt : SessionReceipt} {hash : String} (hashed : s.receiptHash op receipt = .ok hash) :
    chains.Valid (s.chain op receipt hash) := by
  unfold SessionRecord.receiptHash at hashed
  rw [chains.receiptHash] at hashed
  have made : ∃ core, ReceiptChain.entryCore chains.hashing (chains.publicReceipt receipt)
        (chainArguments s.receiptChainHead (host.operationHash op) s.sessionId) = some core ∧
      ReceiptChain.digest chains.hashing (.dict core) = some hash := by
    unfold sealHash at hashed
    split at hashed
    · cases hashed
    · next core isCore =>
        split at hashed
        · cases hashed
        · next digest isDigest =>
            cases hashed
            exact ⟨core, isCore, isDigest⟩
  obtain ⟨core, isCore, isHash⟩ := made
  let args : ReceiptChain.EntryArguments F :=
    chainArguments s.receiptChainHead (host.operationHash op) s.sessionId
  let last : Public F := assign (chains.publicReceipt receipt) "receipt_chain"
    (.dict (core ++ [("receipt_hash", .str hash)]))
  have sealing : ReceiptChain.chainReceipt chains.hashing (chains.publicReceipt receipt) args =
      some last := by
    simp only [ReceiptChain.chainReceipt, ReceiptChain.ChainVersion.make,
      ReceiptChain.ChainVersion.core, ReceiptChain.ChainVersion.entryDigest, args, isCore, isHash,
      Option.bind_eq_bind, Option.bind_some]
    rfl
  obtain ⟨binding, known, loop⟩ := valid.loop
  let state : ReceiptChain.ChainState := ⟨s.receiptChainHead, binding, []⟩
  obtain ⟨entry, core', hash', bound, isSealed, claimed, isBound, step⟩ : ∃ entry core hash binding,
      ReceiptChain.Sealed chains.hashing last .v3 entry core hash ∧
      ReceiptChain.claimedArguments .v3 entry = args ∧
      ReceiptChain.sessionBindingHash chains.hashing (chains.publicReceipt receipt) = some binding ∧
      ReceiptChain.chainStep chains.hashing false s.receiptChain.length state last =
        some { ReceiptChain.checkBinding s.receiptChain.length state binding with previous := some hash } :=
    ReceiptChain.chainStep_chainReceipt sealing rfl
  have sameCore : core' = core := by
    have remade := isSealed.made
    rw [claimed] at remade
    have unchanged : ReceiptChain.entryCore chains.hashing last args =
        ReceiptChain.entryCore chains.hashing (chains.publicReceipt receipt) args :=
      (ReceiptChain.sameFacts_assign _ _).entryCore args
    exact Option.some.inj (remade.symm.trans (unchanged.trans isCore))
  have sameHash : hash' = hash := by
    have rehashed := isSealed.hashed
    rw [sameCore] at rehashed
    exact Option.some.inj (rehashed.symm.trans isHash)
  rw [sameHash] at step
  have isLast : chains.chained ⟨receipt, ⟨s.receiptChainHead, host.operationHash op, s.sessionId,
      hash⟩⟩ = last := by
    unfold ChainsReceipts.chained
    rw [sealing]
    rfl
  have extends_ : (s.chain op receipt hash).receiptChain.map chains.chained =
      s.receiptChain.map chains.chained ++ [last] := by
    rw [← isLast]
    exact List.map_append
  have looped : ReceiptChain.chainLoop chains.hashing false 0 {}
      ((s.chain op receipt hash).receiptChain.map chains.chained) =
        some { ReceiptChain.checkBinding s.receiptChain.length state bound with
          previous := some hash } := by
    rw [extends_, ReceiptChain.chainLoop_append, loop, Option.bind_some, Nat.zero_add, List.length_map]
    unfold ReceiptChain.chainLoop
    rw [step]
    rfl
  constructor
  · rcases chains.bound receipt bound isBound with rfl | rfl
    · exact ⟨binding, known, looped⟩
    · refine ⟨some chains.browserSession, .inr rfl, looped.trans ?_⟩
      rcases known with rfl | rfl
      · simp [ReceiptChain.checkBinding, chains.named, state, SessionRecord.chain]
      · simp [ReceiptChain.checkBinding, chains.named, state, SessionRecord.chain]
  · intro c mem
    rcases List.mem_append.mp mem with before | added
    · exact valid.session c before
    · obtain rfl := List.mem_singleton.mp added
      refine ⟨rfl, entry, ?_, ?_⟩
      · rw [isLast]
        exact isSealed.found
      · exact congrArg ReceiptChain.EntryArguments.sessionId claimed

theorem Valid.congr {s s' : SessionRecord host.codec} (same : s'.ledger = s.ledger)
    (valid : chains.Valid s) : chains.Valid s' := by
  have sameChain : s'.receiptChain = s.receiptChain := congrArg Ledger.receiptChain same
  have sameHead : s'.receiptChainHead = s.receiptChainHead := congrArg Ledger.receiptChainHead same
  have sameSession : s'.sessionId = s.sessionId := congrArg Ledger.sessionId same
  constructor
  · rw [sameChain, sameHead]
    exact valid.loop
  · rw [sameChain, sameSession]
    exact valid.session

end ChainsReceipts

section Recording

variable {request : ExecuteRequest} {s s' : SessionRecord host.codec}

/-- The record with a chained receipt, and the step of the signed plan it consumed. -/
def SessionRecord.recorded (s : SessionRecord host.codec) (request : ExecuteRequest)
    (receipt : SessionReceipt) (hash : String) : SessionRecord host.codec :=
  let s := s.chain request.operation receipt hash
  if s.signedPlanAuthority.isSome && request.signedSpeculationOperation.isNone &&
      receipt.receipt.actionStartedAtMs.isSome then
    { s with signedPlanNextIndex := s.signedPlanNextIndex + 1 }
  else s

/-- The end of an execution: its receipt is chained, or has no hash. -/
theorem recordReceipt_inv {receipt : SessionReceipt} {t : Trace QuietSig}
    {r : Except PyException SessionReceipt}
    (run : Act.Runs (recordReceipt request receipt) s t r s') :
    (∃ e, s.receiptHash request.operation (s.annotate receipt) = .error e ∧ t = [] ∧ r = .error e ∧
      s' = s) ∨
    ∃ hash, s.receiptHash request.operation (s.annotate receipt) = .ok hash ∧
      ∀ I : SessionRecord host.codec → Prop, Stable I →
        (∀ s op receipt, I s → I (s.advanceSpeculations op receipt)) →
        I (s.recorded request (s.annotate receipt) hash) → I s' := by
  replace run := run.get_bind_inv
  rcases run.ofExcept_bind_inv with ⟨e, rejected, rfl, rfl, rfl⟩ | ⟨hash, hashed, sealing⟩
  · exact .inl ⟨e, rejected, rfl, rfl, rfl⟩
  refine .inr ⟨hash, hashed, ?_⟩
  intro I stable speculated holds
  refine (show Act.Keeps I _ from ?_) _ _ _ _ sealing.modify_bind_inv.modify_bind_inv holds
  split
  · refine (recordAgentMutation_keeps stable.toSteady).bind fun _ => ?_
    refine Act.Keeps.bind (Act.keeps_modify fun s => speculated s _ _) fun _ => ?_
    exact (noteBackend_keeps stable.toSteady).bind fun _ => Act.keeps_pure _
  · exact (noteBackend_keeps stable.toSteady).bind fun _ => Act.keeps_pure _

/-- A charge that raises has no URL to judge the dispatch by. -/
theorem chargeDispatch_raises {envelope : AuthorityEnvelope host.codec} {op : Operation}
    {receipt : SessionReceipt} {t : Trace QuietSig} {e : PyException}
    (run : Act.Runs (chargeDispatch envelope op receipt) s t (.error e) s') :
    ∃ resolved : Except PyException (Option String), (∀ url, resolved ≠ .ok (some url)) ∧
      t = [quietEvent (.scopedActionUrl op.action.frame op.action.framePath) resolved,
        quietEvent .pageUrl (.error e)] := by
  replace run := run.modify_bind_inv
  split at run
  · obtain ⟨-, eq, -⟩ := Act.runs_pure.mp run
    cases eq
  rcases run.bind_inv with ⟨e', eq, locating⟩ | ⟨_, url, s₁, _, -, -, run₁⟩
  · obtain rfl := Except.error.inj eq
    obtain ⟨resolved, rest, rfl, after⟩ := locating.ask_bind_inv
    have raises {s₁ : SessionRecord host.codec}
        (reading : Act.Runs (Watch.pageUrl : Watch host String) s₁ rest (.error e) s') :
        rest = [quietEvent .pageUrl (.error e)] := by
      obtain ⟨answer, rfl, view, -⟩ := Act.runs_attempt.mp reading
      cases answer with
      | ok url => cases view
      | error e' =>
          cases view
          rfl
    rcases (resolved : Except PyException (Option String)) with failure | _ | url
    · exact ⟨.error failure, nofun, by rw [raises after]⟩
    · exact ⟨.ok none, nofun, by rw [raises after]⟩
    · obtain ⟨-, eq, -⟩ := Act.runs_pure.mp after
      cases eq
  · rcases run₁.bind_inv with ⟨e', -, reading⟩ | ⟨_, now, s₂, _, -, -, run₂⟩
    · obtain ⟨_, -, eq, -⟩ := Act.runs_attempt.mp reading
      cases eq
    rcases run₂.bind_inv with ⟨e', -, measuring⟩ | ⟨_, bytes, s₃, _, -, -, run₃⟩
    · unfold Watch.uploadBytes at measuring
      split at measuring
      · obtain ⟨-, eq, -⟩ := Act.runs_pure.mp measuring
        cases eq
      · obtain ⟨_, -, eq, -⟩ := Act.runs_attempt.mp measuring
        cases eq
    obtain ⟨-, eq, -⟩ := Act.runs_pure.mp run₃.get_bind_inv
    cases eq

/-- A request that dispatched something raises only where no URL can be read. -/
theorem dispatchRequest_raises {t : Trace RuntimeSig} {e : PyException}
    (run : Act.Runs (dispatchRequest request) s t (.error e) s') (dispatched : rights t ≠ []) :
    ∃ (early : Trace RuntimeSig) (resolved : Except PyException (Option String)),
      (∀ url, resolved ≠ .ok (some url)) ∧
      t = early ++ [quietEvent (.scopedActionUrl request.operation.action.frame
        request.operation.action.framePath) resolved, quietEvent .pageUrl (.error e)].map Event.left := by
  rcases dispatchRequest_shape run with ⟨silent, -⟩ |
    ⟨entry, executing, rest, out, decision, rfl, -, executed, continues⟩
  · exact absurd silent.rights_eq dispatched
  obtain ⟨-, result, c, inner, isOut⟩ := runExecutor_inv executed
  cases out with
  | error e' =>
      -- the executor raises before it dispatches only
      exfalso
      refine dispatched ?_
      simp only [rights_append, rights_map_left, List.nil_append, List.append_nil]
      have source : (executorContext host request.observationReference).source = .provided true := rfl
      cases executeOperation_ending source inner with
      | refused quiet unstarted => exact quiet
      | concluded dispatches entered acts reported => cases isOut
      | failed dispatches entered acts => cases isOut
      | lost failed lost => cases isOut
  | ok receipt =>
      have charging : Act.Runs (chargeUnder s.authorityEnvelope request decision receipt) s rest
        (.error e) s' := continues
      cases governed : s.authorityEnvelope with
      | none =>
          rw [governed] at charging
          obtain ⟨-, eq, -⟩ := Act.runs_pure.mp charging
          cases eq
      | some envelope =>
          rw [governed] at charging
          obtain ⟨resolved, unresolved, rfl⟩ := chargeDispatch_raises charging
          refine ⟨entry.map Event.left ++ executing, resolved, unresolved, ?_⟩
          rw [List.append_assoc]

/-- After a dispatch the session raises before it has chained the receipt: the
URL to judge the dispatch by cannot be read, or the receipt has no hash. -/
inductive Unrecorded (request : ExecuteRequest) (s : SessionRecord host.codec) (t : Trace RuntimeSig) :
    Prop
  | unlocated {t₀ t₁ : Trace QuietSig} {u : Trace RuntimeSig} {s₀ s₁ s₂ : SessionRecord host.codec}
      {e : PyException} (trace : t = t₀.map Event.left ++ (t₁.map Event.left ++ u))
      (accessed : Act.Runs access s t₀ (.ok ()) s₀)
      (gated : Act.Runs (executionGate request) s₀ t₁ (.ok ()) s₁)
      (failed : Act.Runs (dispatchRequest request) s₁ u (.error e) s₂)
      (raised : ∃ (early : Trace RuntimeSig) (resolved : Except PyException (Option String)),
        (∀ url, resolved ≠ .ok (some url)) ∧
        u = early ++ [quietEvent (.scopedActionUrl request.operation.action.frame
          request.operation.action.framePath) resolved, quietEvent .pageUrl (.error e)].map Event.left)
  | unhashed {t₀ t₁ : Trace QuietSig} {u : Trace RuntimeSig} {s₀ s₁ s₂ : SessionRecord host.codec}
      {receipt : SessionReceipt} {e : PyException}
      (trace : t = t₀.map Event.left ++ (t₁.map Event.left ++ u))
      (accessed : Act.Runs access s t₀ (.ok ()) s₀)
      (gated : Act.Runs (executionGate request) s₀ t₁ (.ok ()) s₁)
      (dispatched : Act.Runs (dispatchRequest request) s₁ u (.ok receipt) s₂)
      (rejected : s₂.receiptHash request.operation (s₂.annotate receipt) = .error e)

end Recording

namespace Scenario

/-- A host that seals the receipts of its sessions in a chain. -/
def chainingHost : SessionHost :=
  { scenarioHost with
    receiptHash := fun receipt head operationHash sessionId =>
      sealHash (F := Fin 10) (ReceiptChain.textHashing (Fin 10))
        [("operation_id", .str receipt.receipt.operationId)]
        (chainArguments head operationHash sessionId) }

def newSession : SessionRecord chainingHost.codec := opened

end Scenario

namespace Scenario

def pageClosed : PyException where
  type := .playwrightError
  message := "Target page has been closed"

/-- The page closes right after the dispatch. -/
def closing : Scenario where
  scopeUrls := [.ok (some url), .error pageClosed]
  pageUrls := [.ok url, .ok url, .error pageClosed]

end Scenario

end Dingdongditch
