import Mathlib.Data.List.AList
import Mathlib.Data.List.Count

/-!
# Counters of uses that expire

A counter belongs to a key; it holds the number of uses so far and the time at
which it is forgotten.  Tickets of a type `τ` are charged to the counter of
their key, up to a limit of their own, while they have not expired.

Several tickets may share a key, and the counter keeps the expiry of the ticket
that was charged last.  `Covered` is the invariant under which a ticket is not
charged beyond its limit, and `Tallied` the one under which a counter has not
missed a charge; both say which charges keep them.
-/

namespace Dingdongditch.Store

variable {κ τ : Type} [DecidableEq κ] [DecidableEq τ]

/-- For each key the number of uses and the expiry. -/
abbrev UseCounters (κ : Type) : Type := AList fun _ : κ => Nat × Int

namespace UseCounters

/-- Forget the counters that have expired. -/
def prune (counters : UseCounters κ) (now : Int) : UseCounters κ where
  entries := counters.entries.filter fun entry => now < entry.2.2
  nodupKeys := counters.nodupKeys.sublist List.filter_sublist

def uses (counters : UseCounters κ) (key : κ) : Nat := (counters.lookup key).elim 0 (·.1)

def charge (counters : UseCounters κ) (key : κ) (expiry : Int) : UseCounters κ :=
  counters.insert key (counters.uses key + 1, expiry)

theorem lookup_prune {counters : UseCounters κ} {now : Int} {key : κ} {n : Nat} {e : Int} :
    (counters.prune now).lookup key = some (n, e) ↔
      counters.lookup key = some (n, e) ∧ now < e := by
  have mem : (⟨key, n, e⟩ : Sigma fun _ : κ => Nat × Int) ∈ (counters.prune now).entries ↔
      ⟨key, n, e⟩ ∈ counters.entries ∧ now < e := by
    simp [prune, List.mem_filter]
  rw [← Option.mem_def, ← Option.mem_def, AList.mem_lookup_iff, AList.mem_lookup_iff]
  exact mem

theorem uses_of_lookup {counters : UseCounters κ} {key : κ} {n : Nat} {e : Int}
    (found : counters.lookup key = some (n, e)) : counters.uses key = n := by
  rw [uses, found]
  rfl

theorem lookup_charge_self (counters : UseCounters κ) (key : κ) (expiry : Int) :
    (counters.charge key expiry).lookup key = some (counters.uses key + 1, expiry) :=
  AList.lookup_insert counters

theorem lookup_charge_ne (counters : UseCounters κ) {key other : κ} (expiry : Int)
    (differs : other ≠ key) : (counters.charge key expiry).lookup other = counters.lookup other :=
  AList.lookup_insert_ne differs

end UseCounters

/-! ## A ticket is charged within its limit -/

/-- What a ticket is charged to and until when. -/
structure TicketKind (κ τ : Type) where
  key : τ → κ
  expiry : τ → Int

variable (kind : TicketKind κ τ) {past : List τ} {counters : UseCounters κ} {now now' : Int}
  {ticket : τ}

/-- The counter of every charged ticket that has not expired outlives the ticket
and has counted each of its charges. -/
def Covered (past : List τ) (counters : UseCounters κ) (now : Int) : Prop :=
  ∀ ticket ∈ past, now < kind.expiry ticket → ∃ n e,
    counters.lookup (kind.key ticket) = some (n, e) ∧ past.count ticket ≤ n ∧
      kind.expiry ticket ≤ e

namespace Covered

variable {kind}

theorem mono (covered : Covered kind past counters now) (passed : now ≤ now') :
    Covered kind past counters now' := by
  intro ticket charged alive
  have aliveNow : now < kind.expiry ticket := by omega
  exact covered ticket charged aliveNow

theorem prune (covered : Covered kind past counters now) :
    Covered kind past (counters.prune now) now := by
  intro ticket charged alive
  rcases covered ticket charged alive with ⟨n, e, found, counted, outlives⟩
  have aliveEntry : now < e := by omega
  exact ⟨n, e, UseCounters.lookup_prune.mpr ⟨found, aliveEntry⟩, counted, outlives⟩

/-- The charges of a ticket that has not expired are among the uses of its key. -/
theorem count_le_uses (covered : Covered kind past counters now)
    (alive : now < kind.expiry ticket) : past.count ticket ≤ counters.uses (kind.key ticket) := by
  by_cases charged : ticket ∈ past
  · rcases covered ticket charged alive with ⟨n, e, found, counted, -⟩
    rw [UseCounters.uses_of_lookup found]
    exact counted
  · rw [List.count_eq_zero_of_not_mem charged]
    exact Nat.zero_le _

/-- A charge that does not shorten the life of its counter. -/
theorem charge (covered : Covered kind past counters now) (alive : now < kind.expiry ticket)
    (outlives : ∀ n e, counters.lookup (kind.key ticket) = some (n, e) →
      e ≤ kind.expiry ticket) :
    Covered kind (past ++ [ticket])
      (counters.charge (kind.key ticket) (kind.expiry ticket)) now := by
  intro other charged aliveOther
  have counted := covered.count_le_uses alive
  by_cases same : other = ticket
  · subst same
    refine ⟨_, _, counters.lookup_charge_self _ _, ?_, Int.le_refl _⟩
    rw [List.count_append, List.count_singleton_self]
    omega
  · have earlier : other ∈ past := by
      rcases List.mem_append.mp charged with mem | mem
      · exact mem
      · exact absurd (List.mem_singleton.mp mem) same
    have count : (past ++ [ticket]).count other = past.count other := by
      rw [List.count_append, List.count_singleton, beq_false_of_ne (Ne.symm same)]
      rfl
    rw [count]
    rcases covered other earlier aliveOther with ⟨n, e, found, countedOther, outlivesOther⟩
    by_cases sameKey : kind.key other = kind.key ticket
    · rw [sameKey] at found ⊢
      refine ⟨_, _, counters.lookup_charge_self _ _, ?_, ?_⟩
      · rw [UseCounters.uses_of_lookup found]
        omega
      · have := outlives n e found
        omega
    · exact ⟨n, e, (counters.lookup_charge_ne _ sameKey).trans found, countedOther, outlivesOther⟩

end Covered

/-! ## A counter misses no charge -/

/-- Every counter has counted every charge to its key. -/
def Tallied (past : List τ) (counters : UseCounters κ) : Prop :=
  ∀ key n e, counters.lookup key = some (n, e) → (past.map kind.key).count key ≤ n

namespace Tallied

variable {kind}

omit [DecidableEq τ] in
theorem prune (tallied : Tallied kind past counters) :
    Tallied kind past (counters.prune now) := by
  intro key n e found
  exact tallied key n e (UseCounters.lookup_prune.mp found).1

omit [DecidableEq τ] in
/-- The charges to a key that still has its counter, or that never had one. -/
theorem count_le_uses (tallied : Tallied kind past counters)
    (kept : ∀ other ∈ past, kind.key other = kind.key ticket →
      ∃ n e, counters.lookup (kind.key ticket) = some (n, e)) :
    (past.map kind.key).count (kind.key ticket) ≤ counters.uses (kind.key ticket) := by
  by_cases charged : kind.key ticket ∈ past.map kind.key
  · rcases List.mem_map.mp charged with ⟨other, mem, sameKey⟩
    rcases kept other mem sameKey with ⟨n, e, found⟩
    rw [UseCounters.uses_of_lookup found]
    exact tallied _ n e found
  · rw [List.count_eq_zero_of_not_mem charged]
    exact Nat.zero_le _

omit [DecidableEq τ] in
theorem charge (tallied : Tallied kind past counters)
    (kept : ∀ other ∈ past, kind.key other = kind.key ticket →
      ∃ n e, counters.lookup (kind.key ticket) = some (n, e)) (expiry : Int) :
    Tallied kind (past ++ [ticket]) (counters.charge (kind.key ticket) expiry) := by
  intro key n e found
  rw [List.map_append, List.count_append]
  by_cases same : key = kind.key ticket
  · subst same
    rw [counters.lookup_charge_self] at found
    obtain ⟨rfl, -⟩ := Prod.mk.inj (Option.some.inj found)
    have counted := tallied.count_le_uses kept
    have one : ([ticket].map kind.key).count (kind.key ticket) = 1 := by simp
    omega
  · rw [counters.lookup_charge_ne _ same] at found
    have counted := tallied key n e found
    have none : ([ticket].map kind.key).count key = 0 := by simp [Ne.symm same]
    omega

end Tallied

end Dingdongditch.Store
