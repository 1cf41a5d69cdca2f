import Dingdongditch.Contract.AttestationSoundness

/-!
# Single use of attestation challenges

A run of the registry is a list of its verifications.  The registry forgets a
challenge at the expiry of the statement it was accepted with, so a challenge is
accepted once exactly if no statement that bears it is presented after that
(`challenges_accepted_once_iff`).
-/

namespace Dingdongditch

open Text

variable {F Key : Type} [Floating F]

/-- One call of `verify`. -/
structure AttestationCall (F : Type) where
  attestation : ExecutionAttestation F
  request : AttestationRequest F

namespace AttesterTrustRegistry

variable (host : AttestationHost F Key)

/-- The registry after a call. -/
def step (registry : AttesterTrustRegistry Key) (call : AttestationCall F) : AttesterTrustRegistry Key :=
  (registry.verify host call.attestation call.request).2

/-- The statement whose challenge a call accepts and consumes. -/
def accepts (registry : AttesterTrustRegistry Key) (call : AttestationCall F) :
    List (ExecutionAttestationStatement F) :=
  if call.request.consumeChallenge && (registry.verify host call.attestation call.request).1.isOk then
    [call.attestation.statement]
  else []

def run (registry : AttesterTrustRegistry Key) (calls : List (AttestationCall F)) :
    AttesterTrustRegistry Key :=
  calls.foldl (step host) registry

/-- The statements that a run accepts and consumes, in order. -/
def accepted (registry : AttesterTrustRegistry Key) :
    List (AttestationCall F) → List (ExecutionAttestationStatement F)
  | [] => []
  | call :: calls => registry.accepts host call ++ accepted (registry.step host call) calls

/-- A consuming call whose attestation passes every check, while there is room. -/
structure Presents (registry : AttesterTrustRegistry Key) (call : AttestationCall F) : Prop where
  consuming : call.request.consumeChallenge = true
  checked : registry.check host call.attestation call.request = .ok ()
  room : (prune registry.consumedChallenges call.request.nowMs).entries.length <
    Attestation.maxConsumedChallenges

/-- No call presents a challenge after the expiry of a statement that it was
accepted with. -/
def NoneOutlived (registry : AttesterTrustRegistry Key) (calls : List (AttestationCall F)) : Prop :=
  ∀ earlier call later, calls = earlier ++ call :: later →
    (registry.run host earlier).Presents host call → ∀ s ∈ registry.accepted host earlier,
      s.challenge = call.attestation.statement.challenge → call.request.nowMs < s.expiresAtMs

/-- The cache holds what was accepted until it expires, and nothing else. -/
structure Tracks (registry : AttesterTrustRegistry Key) (past : List (ExecutionAttestationStatement F))
    (now : Int) : Prop where
  remembers : ∀ s ∈ past, now < s.expiresAtMs →
    registry.consumedChallenges.lookup s.challenge = some s.expiresAtMs
  origin : ∀ challenge expiry, registry.consumedChallenges.lookup challenge = some expiry →
    ∃ s ∈ past, s.challenge = challenge ∧ s.expiresAtMs = expiry

section Step

variable {host} {registry : AttesterTrustRegistry Key} {call : AttestationCall F}
  {past : List (ExecutionAttestationStatement F)} {now : Int}

omit [Floating F] in
theorem lookup_prune {challenges : AList fun _ : Challenge => Int} {key : Challenge} {expiry : Int} :
    (prune challenges now).lookup key = some expiry ↔
      challenges.lookup key = some expiry ∧ now < expiry := by
  have mem : (⟨key, expiry⟩ : Sigma fun _ : Challenge => Int) ∈ (prune challenges now).entries ↔
      ⟨key, expiry⟩ ∈ challenges.entries ∧ now < expiry := by
    simp [prune, List.mem_filter]
  rw [← Option.mem_def, ← Option.mem_def, AList.mem_lookup_iff, AList.mem_lookup_iff]
  exact mem

theorem mem_prune {challenges : AList fun _ : Challenge => Int} {key : Challenge} :
    key ∈ prune challenges now ↔ ∃ expiry, challenges.lookup key = some expiry ∧ now < expiry := by
  rw [← AList.lookup_isSome, Option.isSome_iff_exists]
  exact exists_congr fun expiry => lookup_prune

/-- What a call does to the cache: it accepts nothing, and at most prunes; or it
accepts a statement whose challenge the pruned cache does not hold. -/
theorem step_cases (host : AttestationHost F Key) (registry : AttesterTrustRegistry Key)
    (call : AttestationCall F) :
    (registry.accepts host call = [] ∧
      ((registry.step host call).consumedChallenges = registry.consumedChallenges ∨
        (registry.step host call).consumedChallenges =
          prune registry.consumedChallenges call.request.nowMs) ∧
      (registry.Presents host call →
        call.attestation.statement.challenge ∈ prune registry.consumedChallenges call.request.nowMs)) ∨
    (registry.Presents host call ∧ registry.accepts host call = [call.attestation.statement] ∧
      call.attestation.statement.challenge ∉ prune registry.consumedChallenges call.request.nowMs ∧
      (registry.step host call).consumedChallenges =
        (prune registry.consumedChallenges call.request.nowMs).insert
          call.attestation.statement.challenge call.attestation.statement.expiresAtMs) := by
  unfold accepts step verify
  cases checked : registry.check host call.attestation call.request with
  | error refusal =>
      refine .inl ⟨?_, .inl rfl, ?_⟩
      · simp [Except.isOk, Except.toBool]
      · intro presents
        cases checked.symm.trans presents.checked
  | ok _ =>
      cases consuming : call.request.consumeChallenge with
      | false =>
          refine .inl ⟨rfl, .inl rfl, ?_⟩
          intro presents
          cases consuming.symm.trans presents.consuming
      | true =>
          dsimp only
          rw [if_pos rfl, Bool.true_and]
          unfold consume
          dsimp only
          split
          · next known => exact .inl ⟨rfl, .inr rfl, fun _ => known⟩
          · next unknown =>
              split
              · next full =>
                  refine .inl ⟨rfl, .inr rfl, ?_⟩
                  intro presents
                  have room := presents.room
                  omega
              · next room => exact .inr ⟨⟨consuming, checked, by omega⟩, rfl, unknown, rfl⟩

/-- The cache goes on to hold what was accepted. -/
theorem Tracks.step (tracks : registry.Tracks past now) (later : now ≤ call.request.nowMs)
    (fresh : registry.accepts host call = [call.attestation.statement] →
      ∀ s ∈ past, s.challenge ≠ call.attestation.statement.challenge) :
    (registry.step host call).Tracks (past ++ registry.accepts host call) call.request.nowMs := by
  have pruned : ∀ challenge expiry,
      (prune registry.consumedChallenges call.request.nowMs).lookup challenge = some expiry →
        ∃ s ∈ past, s.challenge = challenge ∧ s.expiresAtMs = expiry :=
    fun challenge expiry found => tracks.origin challenge expiry (lookup_prune.mp found).1
  have kept : ∀ s ∈ past, call.request.nowMs < s.expiresAtMs →
      (prune registry.consumedChallenges call.request.nowMs).lookup s.challenge = some s.expiresAtMs := by
    intro s mem alive
    exact lookup_prune.mpr ⟨tracks.remembers s mem (by omega), alive⟩
  rcases step_cases host registry call with ⟨none, same | prunes, -⟩ | ⟨-, one, -, inserted⟩
  · rw [none, List.append_nil]
    constructor
    · intro s mem alive
      rw [same]
      exact tracks.remembers s mem (by omega)
    · rw [same]
      exact tracks.origin
  · rw [none, List.append_nil]
    constructor
    · rw [prunes]
      exact kept
    · rw [prunes]
      exact pruned
  · have distinct := fresh one
    rw [one]
    constructor
    · intro s mem alive
      rw [inserted]
      rcases List.mem_append.mp mem with earlier | last
      · rw [AList.lookup_insert_ne (distinct s earlier)]
        exact kept s earlier alive
      · obtain rfl := List.mem_singleton.mp last
        exact AList.lookup_insert _
    · intro challenge expiry found
      rw [inserted] at found
      by_cases isNew : challenge = call.attestation.statement.challenge
      · rw [isNew, AList.lookup_insert] at found
        exact ⟨_, List.mem_append_right _ (List.mem_singleton_self _), isNew.symm, Option.some.inj found⟩
      · rw [AList.lookup_insert_ne isNew] at found
        obtain ⟨s, mem, sameChallenge, sameExpiry⟩ := pruned challenge expiry found
        exact ⟨s, List.mem_append_left _ mem, sameChallenge, sameExpiry⟩

end Step

/-! ## Runs -/

section Run

variable {host} {registry : AttesterTrustRegistry Key} {calls : List (AttestationCall F)}
  {call : AttestationCall F}

theorem run_snoc : registry.run host (calls ++ [call]) = (registry.run host calls).step host call := by
  rw [run, List.foldl_append]
  rfl

theorem accepted_snoc : registry.accepted host (calls ++ [call]) =
    registry.accepted host calls ++ (registry.run host calls).accepts host call := by
  induction calls generalizing registry with
  | nil => simp [accepted, run]
  | cons first calls ih => simp [accepted, run, ih]

theorem NoneOutlived.of_snoc (none : registry.NoneOutlived host (calls ++ [call])) :
    registry.NoneOutlived host calls ∧
      ((registry.run host calls).Presents host call → ∀ s ∈ registry.accepted host calls,
        s.challenge = call.attestation.statement.challenge → call.request.nowMs < s.expiresAtMs) := by
  constructor
  · rintro earlier step later rfl
    exact none earlier step (later ++ [call]) (by simp)
  · exact none calls call [] rfl

theorem NoneOutlived.snoc (none : registry.NoneOutlived host calls)
    (last : (registry.run host calls).Presents host call → ∀ s ∈ registry.accepted host calls,
      s.challenge = call.attestation.statement.challenge → call.request.nowMs < s.expiresAtMs) :
    registry.NoneOutlived host (calls ++ [call]) := by
  intro earlier step later split
  rcases List.eq_nil_or_concat later with rfl | ⟨before, final, rfl⟩
  · obtain ⟨rfl, same⟩ := List.append_inj' split rfl
    obtain rfl := List.singleton_inj.mp same
    exact last
  · rw [List.concat_eq_append, ← List.cons_append, ← List.append_assoc] at split
    obtain ⟨rfl, -⟩ := List.append_inj' split rfl
    exact none earlier step before rfl

/-- A statement that a call accepts is new exactly if it does not outlive a past one. -/
theorem fresh_iff {past : List (ExecutionAttestationStatement F)} {now : Int}
    (tracks : registry.Tracks past now) (later : now ≤ call.request.nowMs)
    (single : (past.map (·.challenge)).Nodup) :
    (registry.accepts host call = [call.attestation.statement] →
      ∀ s ∈ past, s.challenge ≠ call.attestation.statement.challenge) ↔
    (registry.Presents host call → ∀ s ∈ past,
      s.challenge = call.attestation.statement.challenge → call.request.nowMs < s.expiresAtMs) := by
  constructor
  · intro fresh presents s mem same
    rcases step_cases host registry call with ⟨-, -, known⟩ | ⟨-, one, -, -⟩
    · -- the challenge is cached, with the expiry of the one statement that bears it
      obtain ⟨expiry, found, alive⟩ := mem_prune.mp (known presents)
      obtain ⟨s', mem', sameChallenge, rfl⟩ := tracks.origin _ _ found
      have identical : s = s' :=
        List.inj_on_of_nodup_map single mem mem' (same.trans sameChallenge.symm)
      rw [identical]
      exact alive
    · exact absurd same (fresh one s mem)
  · intro none one s mem same
    rcases step_cases host registry call with ⟨nothing, -, -⟩ | ⟨presents, -, unknown, -⟩
    · rw [nothing] at one
      cases one
    · have alive := none presents s mem same
      refine unknown (mem_prune.mpr ⟨s.expiresAtMs, ?_, alive⟩)
      rw [← same]
      exact tracks.remembers s mem (by omega)

theorem nodup_snoc : ((registry.accepted host (calls ++ [call])).map (·.challenge)).Nodup ↔
    ((registry.accepted host calls).map (·.challenge)).Nodup ∧
      ((registry.run host calls).accepts host call = [call.attestation.statement] →
        ∀ s ∈ registry.accepted host calls, s.challenge ≠ call.attestation.statement.challenge) := by
  rw [accepted_snoc, List.map_append, List.nodup_append]
  rcases step_cases host (registry.run host calls) call with ⟨nothing, -, -⟩ | ⟨-, one, -, -⟩
  · simp [nothing]
  · simp [one]

omit [Floating F] in
theorem Tracks.mono {past : List (ExecutionAttestationStatement F)} {now now' : Int}
    (tracks : registry.Tracks past now) (later : now ≤ now') : registry.Tracks past now' :=
  ⟨fun s mem alive => tracks.remembers s mem (by omega), tracks.origin⟩

/-- While every challenge was accepted once, the cache tracks what was accepted. -/
theorem tracks_run (fresh : registry.consumedChallenges = ∅)
    (chronological : (calls.map (·.request.nowMs)).Pairwise (· ≤ ·))
    (single : ((registry.accepted host calls).map (·.challenge)).Nodup) {now : Int}
    (passed : ∀ call ∈ calls, call.request.nowMs ≤ now) :
    (registry.run host calls).Tracks (registry.accepted host calls) now := by
  induction calls using List.reverseRecOn generalizing now with
  | nil =>
      constructor
      · intro s mem
        cases mem
      · intro challenge expiry found
        rw [show (registry.run host []).consumedChallenges = ∅ from fresh, AList.lookup_empty] at found
        cases found
  | append_singleton calls call ih =>
      rw [List.map_append, List.pairwise_append] at chronological
      obtain ⟨earlier, -, ordered⟩ := chronological
      obtain ⟨singleBefore, isNew⟩ := nodup_snoc.mp single
      have before : ∀ c ∈ calls, c.request.nowMs ≤ call.request.nowMs := by
        intro c mem
        exact ordered _ (List.mem_map_of_mem mem) _ (List.mem_singleton_self _)
      have tracks := ih earlier singleBefore before
      have last := tracks.step (Int.le_refl _) isNew
      rw [run_snoc, accepted_snoc]
      exact last.mono (passed call (List.mem_append_right _ (List.mem_singleton_self _)))

/-- In a run in which the clock does not go back, every challenge is accepted once
exactly if none is presented after the expiry of a statement it was accepted with. -/
theorem challenges_accepted_once_iff (fresh : registry.consumedChallenges = ∅)
    (chronological : (calls.map (·.request.nowMs)).Pairwise (· ≤ ·)) :
    ((registry.accepted host calls).map (·.challenge)).Nodup ↔ registry.NoneOutlived host calls := by
  induction calls using List.reverseRecOn with
  | nil =>
      refine iff_of_true List.nodup_nil ?_
      intro earlier call later split
      simp at split
  | append_singleton calls call ih =>
      have whole := chronological
      rw [List.map_append, List.pairwise_append] at chronological
      obtain ⟨earlier, -, ordered⟩ := chronological
      have before : ∀ c ∈ calls, c.request.nowMs ≤ call.request.nowMs := by
        intro c mem
        exact ordered _ (List.mem_map_of_mem mem) _ (List.mem_singleton_self _)
      rw [nodup_snoc]
      constructor
      · rintro ⟨single, isNew⟩
        have tracks : (registry.run host calls).Tracks (registry.accepted host calls)
            call.request.nowMs := tracks_run fresh earlier single before
        exact ((ih earlier).mp single).snoc ((fresh_iff tracks (Int.le_refl _) single).mp isNew)
      · intro none
        obtain ⟨noneBefore, last⟩ := none.of_snoc
        have single := (ih earlier).mpr noneBefore
        have tracks : (registry.run host calls).Tracks (registry.accepted host calls)
            call.request.nowMs := tracks_run fresh earlier single before
        exact ⟨single, (fresh_iff tracks (Int.le_refl _) single).mpr last⟩

end Run

/-! ## Two statements with one nonce -/

open Attestation

/-- The verification that consumes the challenge of a statement. -/
def challengeAt (nowMs expiresAtMs : Int) : AttestationCall (Fin 10) where
  attestation := signedBySole (statementOf [] "nonce" expiresAtMs)
  request := { nowMs, consumeChallenge := true }

/-- Two verifications of one statement, of which the second is a replay. -/
theorem challenges_accepted_once_replay :
    (soleRegistry.accepted soleAttestationHost [challengeAt 0 100, challengeAt 1 100]).length = 1 ∧
    soleRegistry.NoneOutlived soleAttestationHost [challengeAt 0 100, challengeAt 1 100] := by
  have accepted : ((soleRegistry.accepted soleAttestationHost
      [challengeAt 0 100, challengeAt 1 100]).map (·.challenge)).length = 1 ∧
      ((soleRegistry.accepted soleAttestationHost
        [challengeAt 0 100, challengeAt 1 100]).map (·.challenge)).Nodup := by
    decide +kernel
  refine ⟨by simpa using accepted.1, ?_⟩
  exact (challenges_accepted_once_iff rfl (by decide)).mp accepted.2

/-- A challenge is accepted at 0, with a statement that expires at 10, and again at
15, with one that expires at 20 and bears it all the time. -/
theorem longerLived_reuses_challenge :
    ([challengeAt 0 10, challengeAt 15 20].map (·.request.nowMs)).Pairwise (· ≤ ·) ∧
    (soleRegistry.accepted soleAttestationHost [challengeAt 0 10, challengeAt 15 20]).map (·.challenge) =
      [⟨"host", "nonce"⟩, ⟨"host", "nonce"⟩] ∧
    [challengeAt 0 10, challengeAt 15 20].all (fun call => call.request.nowMs < 20) = true ∧
    (challengeAt 15 20).attestation.statement.expiresAtMs = 20 := by
  refine ⟨by decide, by decide +kernel, by decide, rfl⟩

end AttesterTrustRegistry

end Dingdongditch
