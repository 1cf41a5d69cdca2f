import Dingdongditch.Contract.AttestationSoundness

/-!
# Checkpoints of a growing chain

`make_receipt_chain_checkpoint`, and what its checkpoints are worth to a host that
retains them.  A chain that verifies against a checkpoint repeats the chain of which
the checkpoint was made (`checkpoint_append_only`), a checkpoint of such a chain
vouches for everything that the older one vouches for (`checkpoint_composes`), and
receipts that are sealed one after the other onto the chain verify against it as
long as they bind one browser session (`checkpoint_extension_iff`).
-/

namespace Dingdongditch.ReceiptChain

open Text

variable {F : Type} [Floating F] {hashing : Hashing F}

/-- How the export of a checkpoint fails: a `ValueError` by its message, or an
exception of canonical JSON. -/
inductive CheckpointError
  | value (text : String)
  | raised
  deriving DecidableEq, Repr

def raisedBy {α : Type} (value : Option α) : Except CheckpointError α :=
  value.elim (.error .raised) .ok

/-- The check of the session that one receipt names. -/
def checkSession (sessionId : String) (receipt : Public F) : Except CheckpointError Unit := do
  let entry ← raisedBy (chainEntry receipt)
  if Json.pyEq (Json.get entry "chain_version") (.str "3") &&
      !Json.pyEq (Json.get entry "session_id") (.str sessionId) then
    throw (.value "receipt chain session does not match checkpoint session")

/-- `make_receipt_chain_checkpoint` -/
def makeReceiptChainCheckpoint (hashing : Hashing F) (receipts : List (Public F)) (sessionId : String)
    (timestampMs : Int) (runtimeVersion : Json F) :
    Except CheckpointError (ReceiptChainCheckpoint F) := do
  let verified ← raisedBy (verifyReceiptChain hashing receipts)
  if !verified.valid then
    throw (.value "cannot checkpoint an invalid receipt chain")
  else
    let checkpoint : ReceiptChainCheckpoint F := {
      sessionId, chainLength := receipts.length, chainHeadHash := verified.head, timestampMs
      runtimeVersion }
    checkpoint.validate.mapError .value
    receipts.forM (checkSession sessionId)
    return checkpoint

/-- Receipts sealed one after the other, each with the hash of the one before as its
previous hash, as a session seals them. -/
def sealOnto (hashing : Hashing F) :
    Option String → List (Public F × EntryArguments F) → Option (List (Public F))
  | _, [] => some []
  | head, (receipt, args) :: later => do
      let chained ← chainReceipt hashing receipt { args with previousReceiptHash := nullable head }
      let entry ← orEmpty (Json.get chained "receipt_chain")
      let hash ← (Json.get entry "receipt_hash").asText
      let rest ← sealOnto hashing (some hash) later
      return chained :: rest

/-! ## A chain that verifies -/

/-- Every receipt of a chain carries an entry of the chain. -/
theorem Chain.found {receipts : List (Public F)} {head : Option String}
    (chain : Chain hashing receipts head) :
    ∀ receipt ∈ receipts, ∃ entry, Json.get receipt "receipt_chain" = .dict entry := by
  induction chain with
  | nil => simp
  | snoc rest isSealed linked isHead ih =>
      intro receipt mem
      rcases List.mem_append.mp mem with before | last
      · exact ih receipt before
      · cases List.mem_singleton.mp last
        exact ⟨_, isSealed.found⟩

/-- The receipts carry the session, as far as they carry one. -/
def OfSession (sessionId : String) (receipts : List (Public F)) : Prop :=
  ∀ receipt ∈ receipts, ∀ entry, Json.get receipt "receipt_chain" = .dict entry →
    Json.get entry "chain_version" = .str "3" → Json.get entry "session_id" = .str sessionId

theorem verifyReceiptChain_valid {receipts : List (Public F)} {verified : ReceiptChainVerification}
    (isVerified : verifyReceiptChain hashing receipts = some verified)
    (valid : verified.valid = true) : verified = ⟨true, verified.head, []⟩ := by
  obtain ⟨last, -, ends⟩ := Option.bind_eq_some_iff.mp isVerified
  obtain rfl := Option.some.inj ends
  have noReasons : last.reasons = [] := List.isEmpty_iff.mp valid
  rw [noReasons]
  rfl

/-- What `sessionReasons` is for a session that every receipt carries. -/
theorem sessionReasons_ofSession {sessionId : String} {index : Nat} {receipts : List (Public F)}
    (found : ∀ receipt ∈ receipts, ∃ entry, Json.get receipt "receipt_chain" = .dict entry)
    (session : OfSession sessionId receipts) : sessionReasons sessionId index receipts = some [] := by
  induction receipts generalizing index with
  | nil => rfl
  | cons receipt later ih =>
      obtain ⟨entry, isEntry⟩ := found receipt List.mem_cons_self
      have rest := @ih (index + 1) (fun r mem => found r (List.mem_cons_of_mem _ mem))
        (fun r mem => session r (List.mem_cons_of_mem _ mem))
      unfold sessionReasons
      simp only [chainEntry_of_found isEntry, rest, Option.bind_eq_bind, Option.bind_some]
      split
      · next differs =>
          obtain ⟨isThree, other⟩ := Bool.and_eq_true_iff.mp differs
          rw [session receipt List.mem_cons_self entry isEntry (Json.eq_str_of_pyEq isThree)] at other
          have same : Json.pyEq (.str sessionId : Json F) (.str sessionId) = true := Json.pyEq_self rfl
          rw [same] at other
          cases other
      · rfl

/-- The checks of a checkpoint, from what they mean. -/
theorem verifyAgainstCheckpoint_of {receipts : List (Public F)} {checkpoint : ReceiptChainCheckpoint F}
    {head : Option String} {n : Nat} (wellFormed : checkpoint.validate = .ok ())
    (verified : verifyReceiptChain hashing receipts = some ⟨true, head, []⟩)
    (length : (n : Int) = checkpoint.chainLength) (long : n ≤ receipts.length)
    (taken : verifyReceiptChain hashing (receipts.take n) = some ⟨true, checkpoint.chainHeadHash, []⟩)
    (session : OfSession checkpoint.sessionId receipts) :
    verifyReceiptChainAgainstCheckpoint hashing receipts checkpoint = some ⟨true, head, []⟩ := by
  have early : prefixReasons receipts checkpoint = some [] := by
    unfold prefixReasons
    rw [if_neg (by omega), ← length]
    cases n with
    | zero =>
        split
        · rfl
        · rfl
    | succ n =>
        have inside : n < receipts.length := by omega
        obtain ⟨entry, hash, found, isHash, isHead⟩ :=
          Chain.last_hash (chain_of_verifyReceiptChain taken rfl) (List.take_succ_eq_append_getElem inside)
        have isHead : checkpoint.chainHeadHash = some hash := isHead
        have same : Json.pyEq (.str hash) (.str hash : Json F) = true := Json.pyEq_self rfl
        have at_n : receipts[((n + 1 : Nat) : Int).toNat - 1]? = some receipts[n] := by
          rw [Int.toNat_natCast, Nat.add_sub_cancel, List.getElem?_eq_getElem inside]
        rw [at_n]
        dsimp only
        rw [if_neg (by omega), chainEntry_of_found found, Option.map_some, isHash, isHead]
        exact congrArg some (if_pos same)
  have sessions : sessionReasons checkpoint.sessionId 0 receipts = some [] :=
    sessionReasons_ofSession (chain_of_verifyReceiptChain verified rfl).found session
  unfold verifyReceiptChainAgainstCheckpoint
  rw [wellFormed]
  simp only [verified, early, sessions, Option.bind_eq_bind, Option.bind_some]
  rfl

/-! ## What a checkpoint says of its chain -/

/-- The checkpoint of a chain: the chain verifies, and the checkpoint has its length,
its head and its session. -/
structure CheckpointOf (hashing : Hashing F) (receipts : List (Public F))
    (checkpoint : ReceiptChainCheckpoint F) : Prop where
  wellFormed : checkpoint.validate = .ok ()
  verified : verifyReceiptChain hashing receipts = some ⟨true, checkpoint.chainHeadHash, []⟩
  length : checkpoint.chainLength = receipts.length
  session : OfSession checkpoint.sessionId receipts

/-- A chain verifies against its own checkpoint. -/
theorem CheckpointOf.verifies {receipts : List (Public F)} {checkpoint : ReceiptChainCheckpoint F}
    (isOf : CheckpointOf hashing receipts checkpoint) :
    verifyReceiptChainAgainstCheckpoint hashing receipts checkpoint =
      some ⟨true, checkpoint.chainHeadHash, []⟩ := by
  refine verifyAgainstCheckpoint_of isOf.wellFormed isOf.verified isOf.length.symm (Nat.le_refl _) ?_
    isOf.session
  rw [List.take_length]
  exact isOf.verified

theorem raisedBy_eq_ok {α : Type} {value : Option α} {a : α} :
    raisedBy value = .ok a ↔ value = some a := by
  cases value <;> simp [raisedBy]

theorem checkSession_ok {sessionId : String} {receipt entry : Public F}
    (checked : checkSession sessionId receipt = .ok ())
    (found : Json.get receipt "receipt_chain" = .dict entry)
    (isThree : Json.get entry "chain_version" = .str "3") :
    Json.get entry "session_id" = .str sessionId := by
  have same : Json.pyEq (.str "3" : Json F) (.str "3") = true := Json.pyEq_self rfl
  unfold checkSession at checked
  rw [chainEntry_of_found found, bind_eq_ok] at checked
  obtain ⟨entry', isEntry, checked⟩ := checked
  obtain rfl := Option.some.inj (raisedBy_eq_ok.mp isEntry)
  rw [isThree, same, Bool.true_and] at checked
  split at checked
  · cases checked
  · next agree => exact Json.eq_str_of_pyEq (by simpa using agree)

theorem checkpointOf_make {receipts : List (Public F)} {sessionId : String} {timestampMs : Int}
    {runtimeVersion : Json F} {checkpoint : ReceiptChainCheckpoint F}
    (made : makeReceiptChainCheckpoint hashing receipts sessionId timestampMs runtimeVersion =
      .ok checkpoint) : CheckpointOf hashing receipts checkpoint := by
  unfold makeReceiptChainCheckpoint at made
  obtain ⟨verified, isVerified, made⟩ := bind_eq_ok.mp made
  have isVerified := raisedBy_eq_ok.mp isVerified
  split at made
  · cases made
  · next valid =>
      obtain ⟨_, wellFormed, made⟩ := bind_eq_ok.mp made
      obtain ⟨_, sessions, made⟩ := bind_eq_ok.mp made
      obtain rfl := Except.ok.inj made
      have valid : verified.valid = true := by simpa using valid
      refine ⟨?_, ?_, rfl, ?_⟩
      · cases formed : ReceiptChainCheckpoint.validate _ with
        | ok _ => rfl
        | error reason =>
            rw [formed] at wellFormed
            cases wellFormed
      · rw [isVerified, verifyReceiptChain_valid isVerified valid]
      · intro receipt mem entry found isThree
        exact checkSession_ok (forM_eq_ok.mp sessions receipt mem) found isThree

/-! ## A chain that verifies against a checkpoint repeats the chain of the checkpoint -/

/-- The receipts bind the same values, one by one. -/
def BindSame (hashing : Hashing F) (receipts receipts' : List (Public F)) : Prop :=
  List.Forall₂ (fun receipt receipt' => ∃ b, boundValues hashing receipt = some b ∧
    boundValues hashing receipt' = some b) receipts receipts'

/-- A chain that verifies against the checkpoint of another chain is at least as long,
and its start binds what the other chain binds: nothing was dropped, and nothing was
exchanged for what has another canonical text. -/
theorem checkpoint_append_only (lawful : hashing.Lawful)
    (injective : Function.Injective hashing.sha256) {receipts later : List (Public F)}
    {sessionId : String} {timestampMs : Int} {runtimeVersion : Json F}
    {checkpoint : ReceiptChainCheckpoint F} {result : ReceiptChainVerification}
    (made : makeReceiptChainCheckpoint hashing receipts sessionId timestampMs runtimeVersion =
      .ok checkpoint)
    (checked : verifyReceiptChainAgainstCheckpoint hashing later checkpoint = some result)
    (valid : result.valid = true) :
    receipts.length ≤ later.length ∧ BindSame hashing (later.take receipts.length) receipts := by
  have isOf := checkpointOf_make made
  obtain ⟨-, ⟨n, length, long, taken⟩, -⟩ := verifyAgainstCheckpoint_valid checked valid
  have same : n = receipts.length := by
    have := isOf.length
    omega
  subst same
  exact ⟨long, (verifyReceiptChain_binds lawful injective taken rfl isOf.verified rfl rfl).2⟩

/-- Two chains with one head have one head at every length. -/
theorem Chain.take_heads (lawful : hashing.Lawful) (injective : Function.Injective hashing.sha256)
    {receipts receipts' : List (Public F)} {head : Option String}
    (chain : Chain hashing receipts head) (chain' : Chain hashing receipts' head) (n : Nat) :
    ∃ h, Chain hashing (receipts.take n) h ∧ Chain hashing (receipts'.take n) h := by
  induction chain generalizing receipts' with
  | nil =>
      cases chain' with
      | nil => exact ⟨none, by simpa using .nil, by simpa using .nil⟩
      | snoc rest' isSealed' linked' isHead' => cases isHead'
  | @snoc before previous head receipt entry core version hash rest isSealed linked isHead ih =>
      have lengths := ((rest.snoc isSealed linked isHead).binds lawful injective chain').length_eq
      cases chain' with
      | nil => simp at lengths
      | @snoc before' previous' _ receipt' entry' core' version' hash' rest' isSealed' linked' isHead' =>
          simp only [List.length_append, List.length_singleton] at lengths
          obtain rfl : hash = hash' := Option.some.inj (isHead.symm.trans isHead')
          by_cases whole : before.length < n
          · refine ⟨head, ?_, ?_⟩
            · rw [List.take_of_length_le (by simp; omega)]
              exact rest.snoc isSealed linked isHead
            · rw [List.take_of_length_le (by simp; omega)]
              exact rest'.snoc isSealed' linked' isHead'
          · obtain ⟨previousSame, -⟩ := boundValues_eq lawful injective isSealed isSealed'
              (linked ▸ rest.isLink) (linked' ▸ rest'.isLink)
            rw [linked, linked'] at previousSame
            obtain rfl := nullable_inj previousSame
            rw [List.take_append_of_le_length (by omega), List.take_append_of_le_length (by omega)]
            exact ih rest'

/-- The receipts of a chain determine its head. -/
theorem Chain.head_unique {receipts : List (Public F)} {head head' : Option String}
    (chain : Chain hashing receipts head) (chain' : Chain hashing receipts head') : head = head' := by
  rcases List.eq_nil_or_concat' receipts with rfl | ⟨before, last, rfl⟩
  · have none_of : ∀ {h}, Chain hashing [] h → h = none := by
      intro h empty
      generalize split : ([] : List (Public F)) = receipts at empty
      cases empty with
      | nil => rfl
      | snoc => simp at split
    rw [none_of chain, none_of chain']
  · obtain ⟨entry, hash, found, isHash, rfl⟩ := Chain.last_hash chain rfl
    obtain ⟨entry', hash', found', isHash', rfl⟩ := Chain.last_hash chain' rfl
    obtain rfl := Json.dict.inj (found.symm.trans found')
    exact congrArg some (Json.str.inj (isHash.symm.trans isHash'))

/-- A checkpoint of a chain that verifies against an older checkpoint of the session
vouches for what the older one vouches for. -/
theorem verifyAgainst_older (lawful : hashing.Lawful) (injective : Function.Injective hashing.sha256)
    {receipts later : List (Public F)} {older newer : ReceiptChainCheckpoint F}
    {result result' : ReceiptChainVerification} (formed : older.validate = .ok ())
    (isOf : CheckpointOf hashing receipts newer) (session : newer.sessionId = older.sessionId)
    (checked : verifyReceiptChainAgainstCheckpoint hashing receipts older = some result)
    (valid : result.valid = true)
    (checked' : verifyReceiptChainAgainstCheckpoint hashing later newer = some result')
    (valid' : result'.valid = true) :
    verifyReceiptChainAgainstCheckpoint hashing later older = some result' := by
  obtain ⟨-, ⟨n, length, long, taken⟩, -⟩ := verifyAgainstCheckpoint_valid checked valid
  obtain ⟨whole, ⟨m, length', long', taken'⟩, sessions⟩ :=
    verifyAgainstCheckpoint_valid checked' valid'
  have isLength := isOf.length
  have inner : n ≤ m := by omega
  obtain ⟨head, early, old⟩ := (chain_of_verifyReceiptChain taken' rfl).take_heads lawful injective
    (chain_of_verifyReceiptChain isOf.verified rfl) n
  rw [List.take_take, Nat.min_eq_left inner] at early
  have isHead : head = older.chainHeadHash := old.head_unique (chain_of_verifyReceiptChain taken rfl)
  obtain ⟨head', start⟩ := verifyReceiptChain_take whole rfl n
  have sameHead : head' = head := (chain_of_verifyReceiptChain start rfl).head_unique early
  rw [sameHead, isHead] at start
  have verified := verifyAgainstCheckpoint_of formed whole length (by omega) start (session ▸ sessions)
  have isResult : result' = ⟨true, result'.head, []⟩ := by
    obtain ⟨fromWhole, -⟩ := verifyAgainstCheckpoint_valid checked' valid'
    have again := verifyAgainstCheckpoint_of isOf.wellFormed whole length' long' taken' sessions
    exact Option.some.inj (checked'.symm.trans again)
  rw [verified, ← isResult]

/-- The checkpoints of a session that a host retains, the newest first: each is made of
a chain that verified against the one before it. -/
inductive Retained (hashing : Hashing F) (sessionId : String) : List (ReceiptChainCheckpoint F) → Prop
  | first {receipts : List (Public F)} {timestampMs : Int} {runtimeVersion : Json F}
      {checkpoint : ReceiptChainCheckpoint F}
      (made : makeReceiptChainCheckpoint hashing receipts sessionId timestampMs runtimeVersion =
        .ok checkpoint) : Retained hashing sessionId [checkpoint]
  | next {receipts : List (Public F)} {timestampMs : Int} {runtimeVersion : Json F}
      {older checkpoint : ReceiptChainCheckpoint F} {earlier : List (ReceiptChainCheckpoint F)}
      {result : ReceiptChainVerification} (retained : Retained hashing sessionId (older :: earlier))
      (checked : verifyReceiptChainAgainstCheckpoint hashing receipts older = some result)
      (valid : result.valid = true)
      (made : makeReceiptChainCheckpoint hashing receipts sessionId timestampMs runtimeVersion =
        .ok checkpoint) : Retained hashing sessionId (checkpoint :: older :: earlier)

theorem sessionId_make {receipts : List (Public F)} {sessionId : String} {timestampMs : Int}
    {runtimeVersion : Json F} {checkpoint : ReceiptChainCheckpoint F}
    (made : makeReceiptChainCheckpoint hashing receipts sessionId timestampMs runtimeVersion =
      .ok checkpoint) : checkpoint.sessionId = sessionId := by
  unfold makeReceiptChainCheckpoint at made
  obtain ⟨verified, -, made⟩ := bind_eq_ok.mp made
  split at made
  · cases made
  · obtain ⟨_, -, made⟩ := bind_eq_ok.mp made
    obtain ⟨_, -, made⟩ := bind_eq_ok.mp made
    exact (congrArg ReceiptChainCheckpoint.sessionId (Except.ok.inj made)).symm

theorem Retained.newest {sessionId : String} {newest : ReceiptChainCheckpoint F}
    {earlier : List (ReceiptChainCheckpoint F)}
    (retained : Retained hashing sessionId (newest :: earlier)) :
    newest.validate = .ok () ∧ newest.sessionId = sessionId := by
  cases retained with
  | first made => exact ⟨(checkpointOf_make made).wellFormed, sessionId_make made⟩
  | next _ _ _ made => exact ⟨(checkpointOf_make made).wellFormed, sessionId_make made⟩

/-- What verifies against the newest checkpoint that a host retains verifies against
all of them. -/
theorem checkpoint_composes (lawful : hashing.Lawful) (injective : Function.Injective hashing.sha256)
    {sessionId : String} {newest : ReceiptChainCheckpoint F} {earlier : List (ReceiptChainCheckpoint F)}
    {receipts : List (Public F)} {result : ReceiptChainVerification}
    (retained : Retained hashing sessionId (newest :: earlier))
    (checked : verifyReceiptChainAgainstCheckpoint hashing receipts newest = some result)
    (valid : result.valid = true) :
    ∀ older ∈ earlier, verifyReceiptChainAgainstCheckpoint hashing receipts older = some result := by
  induction earlier generalizing newest with
  | nil => simp
  | cons next rest ih =>
      cases retained with
      | next retained before valid' made =>
          have session : newest.sessionId = next.sessionId := by
            rw [sessionId_make made, retained.newest.2]
          have here := verifyAgainst_older lawful injective retained.newest.1 (checkpointOf_make made)
            session before valid' checked valid
          intro older mem
          rcases List.mem_cons.mp mem with rfl | further
          · exact here
          · exact ih retained here older further

/-! ## Receipts that are sealed onto the chain -/

/-- The browser session that a receipt binds. -/
def boundBrowser (receipt : Public F) : Option String :=
  match Json.get receipt "receipt_chain" with
  | .dict entry => (Json.get entry "session_binding_hash").asText
  | _ => none

omit [Floating F] in
theorem boundBrowser_of_found {receipt entry : Public F}
    (found : Json.get receipt "receipt_chain" = .dict entry) :
    boundBrowser receipt = (Json.get entry "session_binding_hash").asText := by
  unfold boundBrowser
  rw [found]

/-- The receipts bind at most one browser session. -/
def OneBrowser (receipts : List (Public F)) : Prop :=
  ∀ receipt ∈ receipts, ∀ receipt' ∈ receipts, ∀ binding binding',
    boundBrowser receipt = some binding → boundBrowser receipt' = some binding' → binding = binding'

/-- What the state of a verification knows of the browser sessions of the receipts it
has seen. -/
structure ChainState.Tracks (state : ChainState) (receipts : List (Public F)) : Prop where
  one : OneBrowser receipts
  binding : ∀ binding, state.sessionBinding = some binding ↔
    ∃ receipt ∈ receipts, boundBrowser receipt = some binding

omit [Floating F] in
/-- A receipt that binds nothing leaves what the state knows. -/
theorem ChainState.Tracks.unbound {state next : ChainState} {receipts : List (Public F)}
    {receipt : Public F} (tracks : state.Tracks receipts) (none : boundBrowser receipt = none)
    (same : next.sessionBinding = state.sessionBinding) : next.Tracks (receipts ++ [receipt]) := by
  have apart : ∀ {r binding}, r ∈ receipts ++ [receipt] → boundBrowser r = some binding →
      r ∈ receipts := by
    intro r binding mem isBound
    rcases List.mem_append.mp mem with before | last
    · exact before
    · rw [List.mem_singleton.mp last, none] at isBound
      cases isBound
  constructor
  · intro r mem r' mem' binding binding' isBound isBound'
    exact tracks.one r (apart mem isBound) r' (apart mem' isBound') binding binding' isBound isBound'
  · intro binding
    rw [same, tracks.binding]
    constructor
    · rintro ⟨r, mem, isBound⟩
      exact ⟨r, List.mem_append_left _ mem, isBound⟩
    · rintro ⟨r, mem, isBound⟩
      exact ⟨r, apart mem isBound, isBound⟩

omit [Floating F] in
/-- A receipt that binds what the state knows, if it knows anything. -/
theorem ChainState.Tracks.bound {state next : ChainState} {receipts : List (Public F)}
    {receipt : Public F} {binding : String} (tracks : state.Tracks receipts)
    (isBound : boundBrowser receipt = some binding)
    (known : ∀ other, state.sessionBinding = some other → other = binding)
    (after : next.sessionBinding = some binding) : next.Tracks (receipts ++ [receipt]) := by
  have only : ∀ r ∈ receipts ++ [receipt], ∀ other, boundBrowser r = some other → other = binding := by
    intro r mem other isOther
    rcases List.mem_append.mp mem with before | last
    · exact known other ((tracks.binding other).mpr ⟨r, before, isOther⟩)
    · rw [List.mem_singleton.mp last, isBound] at isOther
      exact (Option.some.inj isOther).symm
  constructor
  · intro r mem r' mem' other other' isOther isOther'
    rw [only r mem other isOther, only r' mem' other' isOther']
  · intro other
    rw [after]
    constructor
    · intro same
      exact ⟨receipt, by simp, isBound.trans same⟩
    · rintro ⟨r, mem, isOther⟩
      rw [only r mem other isOther]

omit [Floating F] in
/-- What a check of the browser session that finds nothing says of it. -/
theorem checkBinding_sessionBinding {index : Nat} {state : ChainState} {binding : Json F}
    (ok : (checkBinding index state binding).reasons = []) :
    (binding = .null ∧ (checkBinding index state binding).sessionBinding = state.sessionBinding) ∨
      ∃ text, binding = .str text ∧ (∀ known, state.sessionBinding = some known → known = text) ∧
        (checkBinding index state binding).sessionBinding = some text := by
  unfold checkBinding at ok ⊢
  cases binding with
  | null => exact .inl ⟨rfl, rfl⟩
  | str text =>
      right
      dsimp only at ok ⊢
      by_cases isEmpty : text = Json.Textual.ofText ""
      · rw [if_pos isEmpty] at ok
        exact absurd ok (state.add_reasons_ne _)
      · rw [if_neg isEmpty] at ok ⊢
        cases known : state.sessionBinding with
        | none => exact ⟨text, rfl, by simp, rfl⟩
        | some other =>
            rw [known] at ok
            dsimp only at ok ⊢
            by_cases same : text = other
            · rw [if_pos same]
              refine ⟨text, rfl, ?_, by rw [known, same]⟩
              intro stated isStated
              rw [← Option.some.inj isStated, same]
            · rw [if_neg same] at ok
              exact absurd ok (state.add_reasons_ne _)
  | bool | int | float | list | dict => exact absurd ok (state.add_reasons_ne _)

/-- A step that ends without a reason keeps track of the browser sessions. -/
theorem chainStep_tracks {index : Nat} {state next : ChainState} {receipts : List (Public F)}
    {receipt : Public F} (step : chainStep hashing false index state receipt = some next)
    (ok : next.reasons = []) (tracks : state.Tracks receipts) : next.Tracks (receipts ++ [receipt]) := by
  unfold chainStep at step
  split at step
  · next entry found =>
      obtain ⟨verified, -, ends⟩ := Option.bind_eq_some_iff.mp step
      have ends := Option.some.inj ends
      generalize isLinked : (if Json.pyEq (Json.get entry "previous_receipt_hash") (nullable state.previous)
        then state else state.add (receiptLabel index ++ " previous hash does not match chain head")) =
          linked at ends
      have linkedBinding : linked.sessionBinding = state.sessionBinding := by
        rw [← isLinked]
        split
        · rfl
        · rfl
      generalize isHashed : (if verified then linked
        else linked.add (receiptLabel index ++ " hash does not verify")) = hashed at ends
      have hashedBinding : hashed.sessionBinding = state.sessionBinding := by
        rw [← isHashed, ← linkedBinding]
        split
        · rfl
        · rfl
      have unbound : next.sessionBinding =
          (checkBinding index hashed (Json.get entry "session_binding_hash")).sessionBinding ∧
          next.reasons = (checkBinding index hashed (Json.get entry "session_binding_hash")).reasons := by
        rw [← ends]
        split
        · exact ⟨rfl, rfl⟩
        · exact ⟨rfl, rfl⟩
      rw [unbound.2] at ok
      have binds := boundBrowser_of_found found
      rcases checkBinding_sessionBinding ok with ⟨isNull, same⟩ | ⟨text, isText, known, after⟩
      · rw [isNull] at binds
        exact tracks.unbound binds (unbound.1.trans (same.trans hashedBinding))
      · rw [isText] at binds
        rw [hashedBinding] at known
        exact tracks.bound binds known (unbound.1.trans after)
  · cases step
    exact absurd ok (state.add_reasons_ne _)

/-- A loop that ends without a reason has seen at most one browser session. -/
theorem chainLoop_tracks {index : Nat} {state last : ChainState} {receipts later : List (Public F)}
    (loop : chainLoop hashing false index state later = some last) (ok : last.reasons = [])
    (tracks : state.Tracks receipts) : last.Tracks (receipts ++ later) := by
  induction later generalizing index state receipts with
  | nil =>
      cases loop
      rwa [List.append_nil]
  | cons receipt later ih =>
      obtain ⟨next, step, rest⟩ := Option.bind_eq_some_iff.mp loop
      have kept := ih rest (chainStep_tracks step (chainLoop_reasons rest ok) tracks)
      rwa [List.append_assoc] at kept

/-- What a receipt binds of a browser session: nothing, or a digest. -/
theorem sessionBindingHash_shape {receipt : Public F} {binding : Json F}
    (isBinding : sessionBindingHash hashing receipt = some binding) :
    binding = .null ∨ ∃ text, binding = .str (hashing.sha256 text) := by
  unfold sessionBindingHash at isBinding
  split at isBinding
  · dsimp only at isBinding
    split at isBinding
    · obtain ⟨hash, isHash, rfl⟩ := Option.map_eq_some_iff.mp isBinding
      obtain ⟨text, -, rfl⟩ := Option.map_eq_some_iff.mp isHash
      exact .inr ⟨text, rfl⟩
    · exact .inl (Option.some.inj isBinding).symm
  · exact .inl (Option.some.inj isBinding).symm

omit [Floating F] in
/-- The check of a browser session that agrees with what the state knows finds nothing. -/
theorem checkBinding_of_agrees {index : Nat} {state : ChainState} {binding : Json F}
    (digests : ∀ text, hashing.sha256 text ≠ "")
    (shape : binding = .null ∨ ∃ text, binding = .str (hashing.sha256 text))
    (noReason : state.reasons = [])
    (agrees : ∀ text known, binding.asText = some text → state.sessionBinding = some known →
      text = known) : (checkBinding index state binding).reasons = [] := by
  rcases shape with rfl | ⟨text, rfl⟩
  · exact noReason
  · unfold checkBinding
    dsimp only
    rw [if_neg (show hashing.sha256 text ≠ Json.Textual.ofText "" from digests text)]
    cases known : state.sessionBinding with
    | none => exact noReason
    | some other =>
        dsimp only
        rw [if_pos (agrees _ other rfl known)]
        exact noReason

/-- The first of the receipts that are sealed, and the others. -/
theorem sealOnto_cons {item : Public F × EntryArguments F} {items : List (Public F × EntryArguments F)}
    {more : List (Public F)} {head : Option String}
    (appended : sealOnto hashing head (item :: items) = some more) :
    ∃ chained rest entry core hash,
      chainReceipt hashing item.1 { item.2 with previousReceiptHash := nullable head } = some chained ∧
      Sealed hashing chained .v3 entry core hash ∧
      claimedArguments .v3 entry = { item.2 with previousReceiptHash := nullable head } ∧
      sessionBindingHash hashing item.1 = some (Json.get entry "session_binding_hash") ∧
      sealOnto hashing (some hash) items = some rest ∧ more = chained :: rest := by
  obtain ⟨chained, made, appended⟩ := Option.bind_eq_some_iff.mp appended
  obtain ⟨entry', isEntry, appended⟩ := Option.bind_eq_some_iff.mp appended
  obtain ⟨hash', isHash, appended⟩ := Option.bind_eq_some_iff.mp appended
  obtain ⟨rest, isRest, appended⟩ := Option.bind_eq_some_iff.mp appended
  obtain ⟨entry, core, hash, isSealed, claimed, isBound⟩ := sealed_chainReceipt made
  have sameEntry : entry' = entry :=
    Option.some.inj (isEntry.symm.trans (chainEntry_of_found isSealed.found))
  rw [sameEntry, isSealed.receiptHash] at isHash
  have sameHash : hash = hash' := Option.some.inj isHash
  exact ⟨chained, rest, entry, core, hash, made, isSealed, claimed, isBound, sameHash ▸ isRest,
    (Option.some.inj appended).symm⟩

/-- Receipts that are sealed onto a chain verify in its continuation as long as no two
of them bind different browser sessions. -/
theorem chainLoop_sealOnto (digests : ∀ text, hashing.sha256 text ≠ "")
    {items : List (Public F × EntryArguments F)} {receipts more : List (Public F)}
    {head : Option String} {index : Nat} {state : ChainState}
    (appended : sealOnto hashing head items = some more) (noReason : state.reasons = [])
    (isHead : state.previous = head) (tracks : state.Tracks receipts)
    (one : OneBrowser (receipts ++ more)) :
    ∃ last, chainLoop hashing false index state more = some last ∧ last.reasons = [] := by
  induction items generalizing receipts more head index state with
  | nil =>
      cases appended
      exact ⟨state, rfl, noReason⟩
  | cons item items ih =>
      obtain ⟨chained, rest, entry, core, hash, made, isSealed, -, isBound, isRest, rfl⟩ :=
        sealOnto_cons appended
      obtain ⟨entry', _, hash', binding, isSealed', -, isBinding, step⟩ :=
        @chainStep_chainReceipt _ _ _ _ _ _ _ _ _ index state made (by rw [isHead])
      obtain rfl := Json.dict.inj (isSealed.found.symm.trans isSealed'.found)
      have sameHash : hash' = hash := Json.str.inj (isSealed'.receiptHash.symm.trans isSealed.receiptHash)
      have binds : boundBrowser chained = binding.asText := by
        rw [boundBrowser_of_found isSealed.found, ← Option.some.inj (isBinding.symm.trans isBound)]
      have agrees : ∀ text known, binding.asText = some text →
          state.sessionBinding = some known → text = known := by
        intro text known isText isKnown
        obtain ⟨receipt, mem, its⟩ := (tracks.binding known).mp isKnown
        exact one chained (by simp) receipt (by simp [mem]) text known (binds.trans isText) its
      have ok : (checkBinding index state binding).reasons = [] :=
        checkBinding_of_agrees digests (sessionBindingHash_shape isBinding) noReason agrees
      obtain ⟨last, loop, ends⟩ := @ih _ _ _ (index + 1)
        { checkBinding index state binding with previous := some hash' } isRest ok
        (congrArg some sameHash) (chainStep_tracks step ok tracks) (by rwa [List.append_assoc])
      refine ⟨last, ?_, ends⟩
      unfold chainLoop
      rw [step]
      exact loop

/-- What `sealOnto` seals with a session carries it. -/
theorem sealOnto_session {items : List (Public F × EntryArguments F)} {more : List (Public F)}
    {head : Option String} {sessionId : String} (appended : sealOnto hashing head items = some more)
    (session : ∀ item ∈ items, item.2.sessionId = .str sessionId) : OfSession sessionId more := by
  induction items generalizing more head with
  | nil =>
      cases appended
      intro receipt mem
      cases mem
  | cons item items ih =>
      obtain ⟨chained, rest, entry', _, _, made, isSealed, claimed, -, isRest, rfl⟩ :=
        sealOnto_cons appended
      intro receipt mem entry found isThree
      rcases List.mem_cons.mp mem with rfl | later
      · obtain rfl := Json.dict.inj (isSealed.found.symm.trans found)
        have isSession := congrArg EntryArguments.sessionId claimed
        exact isSession.trans (session item List.mem_cons_self)
      · exact ih isRest (fun i mem => session i (List.mem_cons_of_mem _ mem)) receipt later entry found
          isThree

/-- Receipts that are sealed onto a chain with the session of its checkpoint verify
against the checkpoint, if and only if the whole chain binds at most one browser
session. -/
theorem checkpoint_extension_iff (digests : ∀ text, hashing.sha256 text ≠ "")
    {receipts more : List (Public F)} {items : List (Public F × EntryArguments F)} {sessionId : String}
    {timestampMs : Int} {runtimeVersion : Json F} {checkpoint : ReceiptChainCheckpoint F}
    (made : makeReceiptChainCheckpoint hashing receipts sessionId timestampMs runtimeVersion =
      .ok checkpoint)
    (appended : sealOnto hashing checkpoint.chainHeadHash items = some more)
    (session : ∀ item ∈ items, item.2.sessionId = .str sessionId) :
    (∃ result, verifyReceiptChainAgainstCheckpoint hashing (receipts ++ more) checkpoint =
      some result ∧ result.valid = true) ↔ OneBrowser (receipts ++ more) := by
  have isOf := checkpointOf_make made
  have start : ChainState.Tracks {} ([] : List (Public F)) := by
    constructor
    · intro receipt mem
      cases mem
    · simp
  constructor
  · rintro ⟨result, checked, valid⟩
    obtain ⟨whole, -, -⟩ := verifyAgainstCheckpoint_valid checked valid
    obtain ⟨last, loop, ends⟩ := Option.bind_eq_some_iff.mp whole
    have noReason : last.reasons = [] := congrArg ReceiptChainVerification.reasons (Option.some.inj ends)
    exact (chainLoop_tracks loop noReason start).one
  · intro one
    obtain ⟨middle, loop, ends⟩ := Option.bind_eq_some_iff.mp isOf.verified
    have ends := Option.some.inj ends
    have noReason : middle.reasons = [] := congrArg ReceiptChainVerification.reasons ends
    have isHead : middle.previous = checkpoint.chainHeadHash :=
      congrArg ReceiptChainVerification.head ends
    obtain ⟨last, rest, finished⟩ := @chainLoop_sealOnto _ _ _ digests _ _ _ _ (0 + receipts.length) _
      appended noReason isHead (chainLoop_tracks loop noReason start) one
    have whole : verifyReceiptChain hashing (receipts ++ more) = some ⟨true, last.previous, []⟩ := by
      unfold verifyReceiptChain
      rw [chainLoop_append, loop]
      simp only [Option.bind_eq_bind, Option.bind_some, rest, finished]
      rfl
    have sessions : OfSession checkpoint.sessionId (receipts ++ more) := by
      intro receipt mem
      rcases List.mem_append.mp mem with before | later
      · exact isOf.session receipt before
      · exact sealOnto_session appended (sessionId_make made ▸ session) receipt later
    refine ⟨_, verifyAgainstCheckpoint_of isOf.wellFormed whole isOf.length.symm ?_ ?_ sessions, rfl⟩
    · simp
    · rw [List.take_left]
      exact isOf.verified

/-! ## A session of one receipt -/

/-- A hash without collisions that has a digest of 64 characters for one text. -/
def anchoredHashing (anchor : List Char) : Hashing (Fin 10) where
  sha256 text := if text = anchor then String.ofList (List.replicate 64 '0') else String.ofList ('x' :: text)
  nfc := id
  pyStr _ := ""

theorem anchoredHashing_anchor (anchor : List Char) :
    (anchoredHashing anchor).sha256 anchor = String.ofList (List.replicate 64 '0') := if_pos rfl

theorem anchoredHashing_lawful (anchor : List Char) : (anchoredHashing anchor).Lawful :=
  ⟨fun _ _ => rfl, fun _ => rfl⟩

theorem anchoredHashing_injective (anchor : List Char) :
    Function.Injective (anchoredHashing anchor).sha256 := by
  intro text text' same
  unfold anchoredHashing at same
  dsimp only at same
  split at same
  · next isAnchor =>
      split at same
      · next isAnchor' => rw [isAnchor, isAnchor']
      · have first := congrArg List.head? (String.ofList_injective same)
        simp at first
  · split at same
    · have first := congrArg List.head? (String.ofList_injective same)
      simp at first
    · exact (List.cons.inj (String.ofList_injective same)).2

theorem anchoredHashing_digests (anchor : List Char) :
    ∀ text, (anchoredHashing anchor).sha256 text ≠ "" := by
  intro text isEmpty
  have noText := congrArg String.toList isEmpty
  unfold anchoredHashing at noText
  dsimp only at noText
  split at noText
  · simp at noText
  · simp at noText

/-- The entry of a first receipt, for the digests of its payload and of its evidence. -/
def firstCore (payloadHash evidenceHash : String) : Public (Fin 10) := [
  ("chain_version", .str "3"),
  ("previous_receipt_hash", .null),
  ("receipt_payload_hash", .str payloadHash),
  ("execution_plan_hash", .null),
  ("operation_hash", .str "op"),
  ("policy_hash", .null),
  ("evidence_hash", .str evidenceHash),
  ("artifact_hashes", .dict [("count", .int 0), ("items", .list [])]),
  ("session_binding_hash", .null),
  ("runtime_version", .null),
  ("receipt_schema_version", .null),
  ("session_id", .str "session")]

def soleReceipt : Public (Fin 10) := [("operation_id", .str "op-1")]

def soleArguments : EntryArguments (Fin 10) := { operationHash := .str "op", sessionId := .str "session" }

def payloadText : List Char :=
  (((receiptPayload (textHashing (Fin 10)) soleReceipt).getD .null).normalize id).dumps

def evidenceText : List Char :=
  ((Json.dict (copied soleReceipt ["evidence", "expectation_evidence", "action_evidence",
    "quorum_verification", "signed_plan", "identity", "mutation_arbitration", "speculation"])).normalize
      id).dumps

/-- The text that seals the sole receipt. -/
def soleAnchor : List Char :=
  ((Json.dict (firstCore (String.ofList ('x' :: payloadText)) (String.ofList ('x' :: evidenceText)))).normalize
    id).dumps

def soleHashing : Hashing (Fin 10) := anchoredHashing soleAnchor

def soleChained : Public (Fin 10) :=
  assign soleReceipt "receipt_chain" (.dict (firstCore (String.ofList ('x' :: payloadText))
    (String.ofList ('x' :: evidenceText)) ++
      [("receipt_hash", .str (String.ofList (List.replicate 64 '0')))]))

theorem chainReceipt_sole : chainReceipt soleHashing soleReceipt soleArguments = some soleChained := by
  have apart : ∀ text : List Char, text.take 4 ≠ soleAnchor.take 4 →
      soleHashing.sha256 text = String.ofList ('x' :: text) :=
    fun text differs => if_neg fun same => differs (by rw [same])
  have isCore : ∀ hashing : Hashing (Fin 10), hashing.nfc = id → entryCore hashing soleReceipt
      soleArguments = some (firstCore (hashing.sha256 payloadText) (hashing.sha256 evidenceText)) := by
    intro hashing plain
    cases hashing with
    | mk sha256 nfc pyStr =>
        obtain rfl : nfc = id := plain
        rfl
  have isCore := isCore soleHashing rfl
  rw [apart _ (by decide +kernel), apart _ (by decide +kernel)] at isCore
  have isHash : ∀ core, core = firstCore (String.ofList ('x' :: payloadText))
      (String.ofList ('x' :: evidenceText)) →
      ChainVersion.v3.entryDigest soleHashing (.dict core) = some (soleHashing.sha256 soleAnchor) := by
    rintro _ rfl
    rfl
  have anchored : soleHashing.sha256 soleAnchor = String.ofList (List.replicate 64 '0') :=
    anchoredHashing_anchor soleAnchor
  unfold chainReceipt ChainVersion.make
  simp only [ChainVersion.core, isCore, isHash _ rfl, anchored, Option.bind_eq_bind, Option.bind_some]
  rfl

theorem found_sole : Json.get soleChained "receipt_chain" =
    .dict (firstCore (String.ofList ('x' :: payloadText)) (String.ofList ('x' :: evidenceText)) ++
      [("receipt_hash", .str (String.ofList (List.replicate 64 '0')))]) := by
  rw [Json.get, soleChained, lookup_assign, if_pos rfl]
  rfl

def soleCheckpoint (timestampMs : Int) : ReceiptChainCheckpoint (Fin 10) where
  sessionId := "session"
  chainLength := 1
  chainHeadHash := some (String.ofList (List.replicate 64 '0'))
  timestampMs

/-- The checkpoint of the chain of the sole receipt, whenever it is made. -/
theorem makeReceiptChainCheckpoint_sole {timestampMs : Int} (late : 0 ≤ timestampMs) :
    makeReceiptChainCheckpoint soleHashing [soleChained] "session" timestampMs .null =
      .ok (soleCheckpoint timestampMs) := by
  obtain ⟨entry, hash, found, isHash, verified⟩ := verifyReceiptChain_first chainReceipt_sole rfl rfl
  have isZeros : hash = String.ofList (List.replicate 64 '0') := by
    rw [← Json.dict.inj (found_sole.symm.trans found)] at isHash
    exact (Json.str.inj isHash).symm
  have formed : (soleCheckpoint timestampMs).validate = .ok () := by
    have notEarly : ¬timestampMs < 0 := by omega
    simp [ReceiptChainCheckpoint.validate, soleCheckpoint, SignedPlan.reject, notEarly]
    rfl
  unfold makeReceiptChainCheckpoint
  rw [verified, isZeros]
  change (do
    (soleCheckpoint timestampMs).validate.mapError CheckpointError.value
    [soleChained].forM (checkSession "session")
    return soleCheckpoint timestampMs) = _
  rw [formed]
  rfl

theorem verifies_sole {timestampMs : Int} (late : 0 ≤ timestampMs) :
    verifyReceiptChainAgainstCheckpoint soleHashing [soleChained] (soleCheckpoint timestampMs) =
      some ⟨true, (soleCheckpoint timestampMs).chainHeadHash, []⟩ :=
  (checkpointOf_make (makeReceiptChainCheckpoint_sole late)).verifies

theorem checkpoint_append_only_sole :
    [soleChained].length ≤ [soleChained].length ∧
      BindSame soleHashing ([soleChained].take [soleChained].length) [soleChained] :=
  checkpoint_append_only (anchoredHashing_lawful _) (anchoredHashing_injective _)
    (makeReceiptChainCheckpoint_sole (Int.le_refl 0)) (verifies_sole (Int.le_refl 0)) rfl

theorem checkpoint_composes_sole :
    verifyReceiptChainAgainstCheckpoint soleHashing [soleChained] (soleCheckpoint 0) =
      some ⟨true, (soleCheckpoint 5).chainHeadHash, []⟩ :=
  checkpoint_composes (anchoredHashing_lawful _) (anchoredHashing_injective _)
    (.next (.first (makeReceiptChainCheckpoint_sole (Int.le_refl 0))) (verifies_sole (Int.le_refl 0)) rfl
      (makeReceiptChainCheckpoint_sole (by omega))) (verifies_sole (by omega)) rfl
    (soleCheckpoint 0) List.mem_cons_self

/-- A receipt that follows the sole one, and how the session seals it. -/
def secondItem : Public (Fin 10) × EntryArguments (Fin 10) :=
  ([("operation_id", .str "op-2")], { operationHash := .str "op", sessionId := .str "session" })

theorem checkpoint_extension_iff_second :
    ∃ more, sealOnto soleHashing (soleCheckpoint 0).chainHeadHash [secondItem] = some more ∧
      ((∃ result, verifyReceiptChainAgainstCheckpoint soleHashing ([soleChained] ++ more)
        (soleCheckpoint 0) = some result ∧ result.valid = true) ↔ OneBrowser ([soleChained] ++ more)) ∧
      OneBrowser ([soleChained] ++ more) := by
  have made : (sealOnto soleHashing (soleCheckpoint 0).chainHeadHash [secondItem]).isSome = true := by
    decide +kernel
  obtain ⟨more, appended⟩ := Option.isSome_iff_exists.mp made
  refine ⟨more, appended, checkpoint_extension_iff (anchoredHashing_digests _)
    (makeReceiptChainCheckpoint_sole (Int.le_refl 0)) appended (by simp [secondItem]), ?_⟩
  obtain ⟨chained, rest, entry, core, hash, -, isSealed, -, isBound, isRest, rfl⟩ := sealOnto_cons appended
  obtain rfl := Option.some.inj isRest
  have first : boundBrowser soleChained = none := boundBrowser_of_found found_sole
  have second : boundBrowser chained = none := by
    rw [boundBrowser_of_found isSealed.found, ← Option.some.inj isBound]
    rfl
  have noBrowser : ∀ receipt ∈ [soleChained] ++ [chained], boundBrowser receipt = none := by
    simp [first, second]
  intro receipt mem receipt' _ binding binding' isBinding
  rw [noBrowser receipt mem] at isBinding
  cases isBinding

end Dingdongditch.ReceiptChain
