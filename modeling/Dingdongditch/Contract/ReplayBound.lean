import Dingdongditch.Contract.ChainSealing
import Dingdongditch.Contract.SignedPlan

/-!
# How often a signed statement is accepted

A run of the verifier is a list of its calls.  The replay cache keeps one counter
for each `(signer_id, nonce)`, with the expiry of the statement that was consumed
last, so a statement with an earlier expiry makes the cache forget a longer-lived
one.  While no consumed statement does that, every statement is accepted at most
`allowed_execution_count` times; and a pair is accepted no more often than any of
its accepted statements allows, as long as a statement is only presented while
the earlier ones of its pair are cached and not used up.
-/

namespace Dingdongditch

open Text Store SignedPlan ReceiptChain

variable {F Key Document : Type} [Floating F] (host : SigningHost F Key Document)

inductive VerifierCall (Key Document : Type)
  | verify (authority : SignedPlanAuthority) (request : VerifyRequest Document)
  | revokeSigner (signerId : String)
  | replaceSigner (signerId : String) (key : Key)

/-- The clock value that a call reads. -/
def VerifierCall.nowMs : VerifierCall Key Document → Option Int
  | .verify _ request => some request.nowMs
  | _ => none

namespace TrustedPlanVerifier

/-- The verifier after a call; a call that raises leaves it as it was. -/
def step (verifier : TrustedPlanVerifier Key) :
    VerifierCall Key Document → TrustedPlanVerifier Key
  | .verify a request => (verifier.verify host a request).2
  | .revokeSigner signerId => (verifier.revokeSigner signerId).toOption.getD verifier
  | .replaceSigner signerId key => (verifier.replaceSigner signerId key).toOption.getD verifier

/-- The statement that a call accepts and consumes. -/
def accepts (verifier : TrustedPlanVerifier Key) :
    VerifierCall Key Document → List SignedPlanAuthority
  | .verify a request =>
      if request.consume && (verifier.verify host a request).1.valid then [a] else []
  | _ => []

def run (verifier : TrustedPlanVerifier Key) (calls : List (VerifierCall Key Document)) :
    TrustedPlanVerifier Key :=
  calls.foldl (step host) verifier

/-- The statements that a run accepts and consumes, in order. -/
def accepted (verifier : TrustedPlanVerifier Key) :
    List (VerifierCall Key Document) → List SignedPlanAuthority
  | [] => []
  | call :: calls => verifier.accepts host call ++ accepted (verifier.step host call) calls

/-- The clock does not go back. -/
def Chronological (calls : List (VerifierCall Key Document)) : Prop :=
  (calls.filterMap VerifierCall.nowMs).Pairwise (· ≤ ·)

/-- A consuming call whose statement passes every check before the accounting. -/
structure Presents (verifier : TrustedPlanVerifier Key) (a : SignedPlanAuthority)
    (request : VerifyRequest Document) : Prop where
  consume : request.consume = true
  wellFormed : a.validate host = .ok ()
  checked : verifier.check host a request = .ok ()

/-- A presented statement that its counter still admits does not expire before
that counter. -/
def KeepsExpiry (verifier : TrustedPlanVerifier Key) (call : VerifierCall Key Document) : Prop :=
  ∀ a request, call = .verify a request → verifier.Presents host a request →
    ∀ n e, verifier.uses.lookup a.replayKey = some (n, e) → request.nowMs < e →
      n < a.allowedExecutionCount → e ≤ a.expiresAtMs

/-- The cache has no place for a pair that it does not hold. -/
def Full (verifier : TrustedPlanVerifier Key) (nowMs : Int) (key : ReplayKey) : Prop :=
  (verifier.uses.prune nowMs).lookup key = none ∧
    maxReplayEntries ≤ (verifier.uses.prune nowMs).entries.length

/-- A statement is presented only while the pair it shares with a statement of
`past` is cached, and is not admitted once the latter is used up. -/
def RespectsPast (verifier : TrustedPlanVerifier Key) (past : List SignedPlanAuthority)
    (call : VerifierCall Key Document) : Prop :=
  ∀ a request, call = .verify a request → verifier.Presents host a request →
    ∀ b ∈ past, b.replayKey = a.replayKey → verifier.Full request.nowMs a.replayKey ∨
      ∃ n e, verifier.uses.lookup a.replayKey = some (n, e) ∧ request.nowMs < e ∧
        (n < a.allowedExecutionCount → n < b.allowedExecutionCount)

/-! ## What one call does -/

section Step

variable {host} {verifier : TrustedPlanVerifier Key} {a : SignedPlanAuthority}
  {request : VerifyRequest Document} {call : VerifierCall Key Document}

/-- A statement that passes the checks has not expired. -/
theorem alive_of_check (checked : verifier.check host a request = .ok ()) :
    request.nowMs < a.expiresAtMs := by
  unfold check at checked
  replace checked := (reject_ok checked).2
  cases trusted : verifier.trusted.lookup a.signerId with
  | none => rw [trusted] at checked; cases checked
  | some key =>
      rw [trusted] at checked
      replace checked := (reject_ok checked).2
      cases hash : host.canonicalPlanHash request.document with
      | none => rw [hash] at checked; cases checked
      | some observed =>
          rw [hash] at checked
          replace checked := (reject_ok checked).2
          replace checked := (reject_ok checked).2
          replace checked := (reject_ok checked).2
          have alive := of_decide_eq_false (reject_ok checked).1
          omega

/-- What the accounting does: it prunes the cache, and charges the counter of a
statement that it accepts and consumes. -/
theorem account_cases (nowMs : Int) (consume : Bool) :
    ((consume && (verifier.account a nowMs consume).1.valid) = false ∧
      (verifier.account a nowMs consume).2.uses = verifier.uses.prune nowMs) ∨
    ((consume && (verifier.account a nowMs consume).1.valid) = true ∧
      ((verifier.uses.prune nowMs).uses a.replayKey : Int) < a.allowedExecutionCount ∧
      ¬ verifier.Full nowMs a.replayKey ∧
      (verifier.account a nowMs consume).2.uses =
        (verifier.uses.prune nowMs).charge a.replayKey a.expiresAtMs) := by
  unfold account
  dsimp only
  split
  · left
    simp [SignedPlanVerification.rejected]
  · next admitted =>
      split
      · next consumed =>
          split
          · left
            simp [SignedPlanVerification.rejected]
          · next place =>
              right
              refine ⟨by rw [consumed]; rfl, by omega, ?_, rfl⟩
              rintro ⟨absent, full⟩
              apply place
              rw [absent, decide_eq_true full]
              rfl
      · next kept =>
          left
          simp [kept]

omit [Floating F] in
theorem uses_of_revokeSigner {verifier' : TrustedPlanVerifier Key} {signerId : String}
    (revoked : verifier.revokeSigner signerId = .ok verifier') : verifier'.uses = verifier.uses := by
  unfold revokeSigner at revoked
  cases named : token "signer_id" (some signerId) with
  | error _ => rw [named] at revoked; cases revoked
  | ok _ =>
      rw [named] at revoked
      obtain ⟨-, rest⟩ := reject_ok revoked
      cases rest
      rfl

omit [Floating F] in
theorem uses_of_replaceSigner {verifier' : TrustedPlanVerifier Key} {signerId : String} {key : Key}
    (replaced : verifier.replaceSigner signerId key = .ok verifier') :
    verifier'.uses = verifier.uses := by
  unfold replaceSigner at replaced
  cases named : token "signer_id" (some signerId) with
  | error _ => rw [named] at replaced; cases replaced
  | ok _ =>
      rw [named] at replaced
      cases replaced
      rfl

/-- What a call does to the cache: nothing, or it prunes the cache at the time of
the call, or it accepts a statement and charges its counter. -/
theorem step_cases (host : SigningHost F Key Document) (verifier : TrustedPlanVerifier Key)
    (call : VerifierCall Key Document) :
    (verifier.accepts host call = [] ∧ (verifier.step host call).uses = verifier.uses) ∨
    (∃ nowMs, call.nowMs = some nowMs ∧ verifier.accepts host call = [] ∧
      (verifier.step host call).uses = verifier.uses.prune nowMs) ∨
    (∃ a request, call = .verify a request ∧ verifier.Presents host a request ∧
      verifier.accepts host call = [a] ∧
      ((verifier.uses.prune request.nowMs).uses a.replayKey : Int) < a.allowedExecutionCount ∧
      ¬ verifier.Full request.nowMs a.replayKey ∧
      (verifier.step host call).uses =
        (verifier.uses.prune request.nowMs).charge a.replayKey a.expiresAtMs) := by
  cases call with
  | verify a request =>
      cases wellFormed : a.validate host with
      | error _ =>
          left
          simp [accepts, step, verify, wellFormed]
      | ok _ =>
          cases checked : verifier.check host a request with
          | error reason =>
              left
              simp [accepts, step, verify, wellFormed, checked, SignedPlanVerification.rejected]
          | ok _ =>
              have verified : verifier.verify host a request =
                  verifier.account a request.nowMs request.consume := by
                simp only [verify, wellFormed, checked]
              right
              rcases verifier.account_cases (a := a) request.nowMs request.consume with
                ⟨refused, uses⟩ | ⟨accepted, admitted, place, uses⟩
              · left
                refine ⟨request.nowMs, rfl, ?_, ?_⟩
                · rw [accepts, verified, refused]
                  rfl
                · rw [step, verified, uses]
              · right
                have consume : request.consume = true := (Bool.and_eq_true_iff.mp accepted).1
                refine ⟨a, request, rfl, ⟨consume, wellFormed, checked⟩, ?_, admitted, place, ?_⟩
                · rw [accepts, verified, accepted]
                  rfl
                · rw [step, verified, uses]
  | revokeSigner signerId =>
      left
      refine ⟨rfl, ?_⟩
      rw [step]
      cases revoked : verifier.revokeSigner signerId with
      | error _ => rfl
      | ok verifier' => exact uses_of_revokeSigner revoked
  | replaceSigner signerId key =>
      left
      refine ⟨rfl, ?_⟩
      rw [step]
      cases replaced : verifier.replaceSigner signerId key with
      | error _ => rfl
      | ok verifier' => exact uses_of_replaceSigner replaced

end Step

/-! ## What a run accepts -/

section Run

variable {host} {start : TrustedPlanVerifier Key} {calls : List (VerifierCall Key Document)}
  {call : VerifierCall Key Document}

theorem run_snoc : start.run host (calls ++ [call]) = (start.run host calls).step host call := by
  rw [run, List.foldl_append]
  rfl

theorem accepted_snoc : start.accepted host (calls ++ [call]) =
    start.accepted host calls ++ (start.run host calls).accepts host call := by
  induction calls generalizing start with
  | nil => simp [accepted, run]
  | cons first calls ih => simp [accepted, run, ih]

omit [Floating F] in
theorem Chronological.of_snoc (chronological : Chronological (calls ++ [call])) :
    Chronological calls ∧ ∀ nowMs, call.nowMs = some nowMs →
      ∀ earlier ∈ calls.filterMap VerifierCall.nowMs, earlier ≤ nowMs := by
  unfold Chronological at chronological ⊢
  rw [List.filterMap_append, List.pairwise_append] at chronological
  refine ⟨chronological.1, ?_⟩
  intro nowMs now earlier mem
  exact chronological.2.2 earlier mem nowMs (by simp [now])

/-- How the replay accounting sees a statement. -/
def statements : TicketKind ReplayKey SignedPlanAuthority where
  key := SignedPlanAuthority.replayKey
  expiry := SignedPlanAuthority.expiresAtMs

/-- Each call of a run, with the calls before it. -/
def EachStep (calls : List (VerifierCall Key Document))
    (P : List (VerifierCall Key Document) → VerifierCall Key Document → Prop) : Prop :=
  ∀ earlier call later, calls = earlier ++ call :: later → P earlier call

omit [Floating F] in
theorem EachStep.of_snoc
    {P : List (VerifierCall Key Document) → VerifierCall Key Document → Prop}
    (each : EachStep (calls ++ [call]) P) : EachStep calls P ∧ P calls call := by
  constructor
  · rintro earlier step later rfl
    exact each earlier step (later ++ [call]) (by simp)
  · exact each calls call [] rfl

omit [Floating F] in
theorem eachStep_cons
    {P : List (VerifierCall Key Document) → VerifierCall Key Document → Prop} :
    EachStep (call :: calls) P ↔ P [] call ∧ EachStep calls fun earlier => P (call :: earlier) := by
  constructor
  · intro each
    refine ⟨each [] call calls rfl, ?_⟩
    rintro earlier step later rfl
    exact each (call :: earlier) step later rfl
  · rintro ⟨first, rest⟩ earlier step later split
    cases earlier with
    | nil =>
        obtain ⟨rfl, -⟩ := List.cons.inj split
        exact first
    | cons _ earlier =>
        obtain ⟨rfl, rfl⟩ := List.cons.inj split
        exact rest earlier step later rfl

omit [Floating F] in
theorem eachStep_nil
    {P : List (VerifierCall Key Document) → VerifierCall Key Document → Prop} :
    EachStep [] P := by
  intro earlier step later split
  cases earlier <;> cases split

/-- The statements that a run accepted are covered by the cache, and each was
accepted within its limit. -/
theorem covered_run (chronological : Chronological calls)
    (keeps : EachStep calls fun earlier call => (start.run host earlier).KeepsExpiry host call) :
    (∀ nowMs, (∀ earlier ∈ calls.filterMap VerifierCall.nowMs, earlier ≤ nowMs) →
      Covered statements ((start.accepted host calls).map (·.unsigned)) (start.run host calls).uses
        nowMs) ∧
    ∀ a ∈ start.accepted host calls,
      (((start.accepted host calls).map (·.unsigned)).count a.unsigned : Int) ≤
        a.allowedExecutionCount := by
  induction calls using List.reverseRecOn with
  | nil =>
      refine ⟨?_, by simp [accepted]⟩
      intro nowMs _ ticket charged
      simp [accepted] at charged
  | append_singleton calls call ih =>
      obtain ⟨earlierChronological, latest⟩ := chronological.of_snoc
      obtain ⟨earlierKeeps, keepsLast⟩ := keeps.of_snoc
      obtain ⟨covered, within⟩ := ih earlierChronological earlierKeeps
      have coveredAt : ∀ nowMs, (∀ t ∈ (calls ++ [call]).filterMap VerifierCall.nowMs, t ≤ nowMs) →
          Covered statements ((start.accepted host calls).map (·.unsigned))
            (start.run host calls).uses nowMs := by
        intro nowMs passed
        apply covered nowMs
        intro t mem
        apply passed t
        rw [List.filterMap_append]
        exact List.mem_append_left _ mem
      rw [run_snoc, accepted_snoc]
      rcases step_cases host (start.run host calls) call with
        ⟨refused, uses⟩ | ⟨nowMs, now, refused, uses⟩ |
        ⟨a, request, rfl, presents, accepts, admitted, -, uses⟩
      · rw [refused, uses, List.append_nil]
        exact ⟨coveredAt, within⟩
      · rw [refused, uses, List.append_nil]
        refine ⟨?_, within⟩
        intro later passed
        have reached : nowMs ≤ later := by
          apply passed nowMs
          rw [List.filterMap_append]
          simp [now]
        exact (covered nowMs (latest nowMs now)).prune.mono reached
      · have unexpired := alive_of_check presents.checked
        have alive : request.nowMs < statements.expiry a.unsigned := unexpired
        have pruned := (covered request.nowMs (latest request.nowMs rfl)).prune
        have counted := pruned.count_le_uses alive
        rw [accepts, uses, List.map_append]
        constructor
        · intro later passed
          have reached : request.nowMs ≤ later := by
            apply passed request.nowMs
            rw [List.filterMap_append]
            simp [VerifierCall.nowMs]
          have charged : Covered statements _ _ request.nowMs :=
            pruned.charge alive ?_
          exact charged.mono reached
          intro n e found
          obtain ⟨cached, unexpired⟩ := UseCounters.lookup_prune.mp found
          have used : ((start.run host calls).uses.prune request.nowMs).uses a.replayKey = n :=
            UseCounters.uses_of_lookup found
          rw [used] at admitted
          exact keepsLast a request rfl presents n e cached unexpired admitted
        · intro b mem
          rw [List.count_append]
          by_cases same : b.unsigned = a.unsigned
          · have limit : b.unsigned.allowedExecutionCount = a.unsigned.allowedExecutionCount := by
              rw [same]
            change b.allowedExecutionCount = a.allowedExecutionCount at limit
            have one : ([a].map (·.unsigned)).count b.unsigned = 1 := by simp [same]
            have key : statements.key a.unsigned = a.replayKey := rfl
            rw [key] at counted
            rw [same] at one ⊢
            omega
          · have earlier : b ∈ start.accepted host calls := by
              rcases List.mem_append.mp mem with mem | mem
              · exact mem
              · exact absurd (congrArg _ (List.mem_singleton.mp mem)) same
            have none : ([a].map (·.unsigned)).count b.unsigned = 0 := by
              simp [Ne.symm same]
            have counted := within b earlier
            omega

/-- The cache has counted every accepted statement of a pair, and the pair was
accepted within the limit of each of them. -/
theorem tallied_run
    (respects : EachStep calls fun earlier call =>
      (start.run host earlier).RespectsPast host (start.accepted host earlier) call) :
    Tallied statements (start.accepted host calls) (start.run host calls).uses ∧
    ∀ b ∈ start.accepted host calls,
      (((start.accepted host calls).map (·.replayKey)).count b.replayKey : Int) ≤
        b.allowedExecutionCount := by
  induction calls using List.reverseRecOn with
  | nil =>
      refine ⟨?_, by simp [accepted]⟩
      intro key n e _
      simp [accepted]
  | append_singleton calls call ih =>
      obtain ⟨earlierRespects, respectsLast⟩ := respects.of_snoc
      obtain ⟨tallied, within⟩ := ih earlierRespects
      rw [run_snoc, accepted_snoc]
      rcases step_cases host (start.run host calls) call with
        ⟨refused, uses⟩ | ⟨nowMs, now, refused, uses⟩ |
        ⟨a, request, rfl, presents, accepts, admitted, place, uses⟩
      · rw [refused, uses, List.append_nil]
        exact ⟨tallied, within⟩
      · rw [refused, uses, List.append_nil]
        exact ⟨tallied.prune, within⟩
      · have cached : ∀ b ∈ start.accepted host calls, b.replayKey = a.replayKey → ∃ n e,
            ((start.run host calls).uses.prune request.nowMs).lookup a.replayKey = some (n, e) ∧
              (n : Int) < b.allowedExecutionCount := by
          intro b mem same
          rcases respectsLast a request rfl presents b mem same with
            full | ⟨n, e, found, unexpired, respected⟩
          · exact absurd full place
          · have kept := UseCounters.lookup_prune.mpr ⟨found, unexpired⟩
            rw [UseCounters.uses_of_lookup kept] at admitted
            exact ⟨n, e, kept, respected admitted⟩
        have kept : ∀ b ∈ start.accepted host calls,
            statements.key b = statements.key a → ∃ n e,
              ((start.run host calls).uses.prune request.nowMs).lookup (statements.key a) =
                some (n, e) := by
          intro b mem same
          rcases cached b mem same with ⟨n, e, found, -⟩
          exact ⟨n, e, found⟩
        rw [accepts, uses]
        refine ⟨tallied.prune.charge kept a.expiresAtMs, ?_⟩
        intro b mem
        rw [List.map_append, List.count_append]
        have counted : ((start.accepted host calls).map (·.replayKey)).count a.replayKey ≤
            ((start.run host calls).uses.prune request.nowMs).uses a.replayKey :=
          tallied.prune.count_le_uses kept
        by_cases sameKey : b.replayKey = a.replayKey
        · have one : ([a].map (·.replayKey)).count a.replayKey = 1 := by simp
          rw [sameKey]
          rcases List.mem_append.mp mem with earlier | last
          · rcases cached b earlier sameKey with ⟨n, e, found, within⟩
            rw [UseCounters.uses_of_lookup found] at counted
            omega
          · obtain rfl := List.mem_singleton.mp last
            omega
        · have earlier : b ∈ start.accepted host calls := by
            rcases List.mem_append.mp mem with mem | mem
            · exact mem
            · exact absurd (congrArg _ (List.mem_singleton.mp mem)) sameKey
          have none : ([a].map (·.replayKey)).count b.replayKey = 0 := by
            simp [Ne.symm sameKey]
          have counted := within b earlier
          omega

/-- In a run in which the clock does not go back, no consumed statement shortens
the life of its counter, and none is presented after the counter of an earlier
accepted one of its pair is gone or used up, every statement is accepted within
its own limit and every pair within the limit of each of its statements. -/
theorem accepted_within_limits (chronological : Chronological calls)
    (keeps : EachStep calls fun earlier call => (start.run host earlier).KeepsExpiry host call)
    (respects : EachStep calls fun earlier call =>
      (start.run host earlier).RespectsPast host (start.accepted host earlier) call) :
    ∀ a ∈ start.accepted host calls,
      (((start.accepted host calls).map (·.unsigned)).count a.unsigned : Int) ≤
        a.allowedExecutionCount ∧
      (((start.accepted host calls).map (·.replayKey)).count a.replayKey : Int) ≤
        a.allowedExecutionCount := by
  intro a accepted
  obtain ⟨-, within⟩ := covered_run chronological keeps
  obtain ⟨-, pairWithin⟩ := tallied_run respects
  exact ⟨within a accepted, pairWithin a accepted⟩

/-! ## A shorter-lived statement of the same pair -/

/-- A host with one document and one key, which signed what carries 64 bytes. -/
def soleHost : SigningHost (Fin 10) Unit Unit where
  hashing := textHashing (Fin 10)
  toDecimal _ := none
  verifies _ signature _ := signature.length = 64
  canonicalPlanHash _ := some "00112233445566778899aabbccddeeff00112233445566778899aabbccddeeff"

def soleStatement (expiresAtMs allowedExecutionCount : Int) : SignedPlanAuthority where
  version := "1.0"
  algorithm := "ed25519"
  planHash := "00112233445566778899aabbccddeeff00112233445566778899aabbccddeeff"
  contractVersion := "1.0.0"
  authorityEnvelopeHash := "00112233445566778899aabbccddeeff00112233445566778899aabbccddeeff"
  signerId := "release"
  issuedAtMs := 0
  expiresAtMs := expiresAtMs
  nonce := "n1"
  signature :=
    "AAAAAAAAAAAAAAAAAAAAAAAAAAAAAAAAAAAAAAAAAAAAAAAAAAAAAAAAAAAAAAAAAAAAAAAAAAAAAAAAAAAAAA"
  allowedExecutionCount := allowedExecutionCount

def consumeAt (nowMs : Int) (a : SignedPlanAuthority) : VerifierCall Unit Unit :=
  .verify a {
    document := ()
    authorityEnvelopeHash := "00112233445566778899aabbccddeeff00112233445566778899aabbccddeeff"
    nowMs := nowMs
    consume := true }

def soleVerifier : TrustedPlanVerifier Unit where
  trusted := AList.singleton "release" ()

/-- Two calls with one statement, of which the second is a replay. -/
theorem accepted_within_limits_replay :
    soleVerifier.accepted soleHost
        [consumeAt 0 (soleStatement 100 1), consumeAt 1 (soleStatement 100 1)] =
      [soleStatement 100 1] ∧
    ∀ a ∈ soleVerifier.accepted soleHost
        [consumeAt 0 (soleStatement 100 1), consumeAt 1 (soleStatement 100 1)],
      (((soleVerifier.accepted soleHost
        [consumeAt 0 (soleStatement 100 1), consumeAt 1 (soleStatement 100 1)]).map
          (·.unsigned)).count a.unsigned : Int) ≤ a.allowedExecutionCount ∧
      (((soleVerifier.accepted soleHost
        [consumeAt 0 (soleStatement 100 1), consumeAt 1 (soleStatement 100 1)]).map
          (·.replayKey)).count a.replayKey : Int) ≤ a.allowedExecutionCount := by
  have cached : (soleVerifier.run soleHost [consumeAt 0 (soleStatement 100 1)]).uses.lookup
      (soleStatement 100 1).replayKey = some (1, 100) := by decide +kernel
  have acceptedFirst : soleVerifier.accepted soleHost [consumeAt 0 (soleStatement 100 1)] =
      [soleStatement 100 1] := by decide +kernel
  refine ⟨by decide +kernel, accepted_within_limits ?_ ?_ ?_⟩
  · simp [Chronological, consumeAt, VerifierCall.nowMs]
  · refine eachStep_cons.mpr ⟨?_, eachStep_cons.mpr ⟨?_, eachStep_nil⟩⟩
    · intro a request _ _ n e found
      cases found
    · intro a request isCall _ n e found _ _
      obtain ⟨rfl, -⟩ := VerifierCall.verify.inj isCall
      rw [cached] at found
      obtain ⟨-, rfl⟩ := Prod.mk.inj (Option.some.inj found)
      exact Int.le_refl _
  · refine eachStep_cons.mpr ⟨?_, eachStep_cons.mpr ⟨?_, eachStep_nil⟩⟩
    · intro a request _ _ b mem
      cases mem
    · intro a request isCall _ b mem _
      obtain ⟨rfl, rfl⟩ := VerifierCall.verify.inj isCall
      rw [acceptedFirst] at mem
      obtain rfl := List.mem_singleton.mp mem
      exact .inr ⟨1, 100, cached, by decide, id⟩

/-- A statement with one use is accepted at 0 and again at 60: in between, a
statement of its pair that expires at 50 replaced the expiry of their counter. -/
theorem shorterLived_forgets_use :
    Chronological [consumeAt 0 (soleStatement 100 1), consumeAt 0 (soleStatement 50 2),
      consumeAt 60 (soleStatement 100 1)] ∧
    soleStatement 100 1 ∈ soleVerifier.accepted soleHost
      [consumeAt 0 (soleStatement 100 1), consumeAt 0 (soleStatement 50 2),
        consumeAt 60 (soleStatement 100 1)] ∧
    (soleStatement 100 1).allowedExecutionCount <
      ((soleVerifier.accepted soleHost
        [consumeAt 0 (soleStatement 100 1), consumeAt 0 (soleStatement 50 2),
          consumeAt 60 (soleStatement 100 1)]).count (soleStatement 100 1) : Int) := by
  have accepted : soleVerifier.accepted soleHost
      [consumeAt 0 (soleStatement 100 1), consumeAt 0 (soleStatement 50 2),
        consumeAt 60 (soleStatement 100 1)] =
      [soleStatement 100 1, soleStatement 50 2, soleStatement 100 1] := by decide +kernel
  rw [accepted]
  refine ⟨?_, by simp, by decide⟩
  simp [Chronological, consumeAt, VerifierCall.nowMs]

end Run

end TrustedPlanVerifier

end Dingdongditch
