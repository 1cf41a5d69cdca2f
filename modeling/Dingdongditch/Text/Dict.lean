import Mathlib.Data.List.Basic
import Mathlib.Data.String.Basic

/-!
# Insertion-ordered dictionaries

A dictionary is an association list; `List.lookup` reads it and `assign` is the
assignment `d[key] = value`, which keeps the place of an existing key.
-/

namespace Dingdongditch.Text

variable {α β : Type}

/-- `d[key] = value` on an association list. -/
def assign (entries : List (String × α)) (key : String) (value : α) : List (String × α) :=
  if entries.any (·.1 == key) then
    entries.map fun entry => if entry.1 == key then (key, value) else entry
  else entries ++ [(key, value)]

/-- `key in d` -/
theorem any_eq_isSome_lookup (d : List (String × α)) (key : String) :
    d.any (·.1 == key) = (d.lookup key).isSome := by
  induction d with
  | nil => rfl
  | cons entry d ih =>
      rcases entry with ⟨k, v⟩
      rw [List.any_cons, List.lookup_cons, ih]
      by_cases same : key = k
      · subst same
        simp
      · rw [beq_eq_false_iff_ne.mpr same, beq_eq_false_iff_ne.mpr (Ne.symm same)]
        rfl

theorem lookup_map_assign (d : List (String × α)) (key other : String) (value : α) :
    (d.map fun entry => if entry.1 == key then (key, value) else entry).lookup other =
      if other = key then (d.lookup key).map fun _ => value else d.lookup other := by
  induction d with
  | nil => simp
  | cons entry d ih =>
      rcases entry with ⟨k, v⟩
      by_cases isKey : k = key
      · subst isKey
        by_cases eq : other = k
        · subst eq
          simp
        · rw [if_neg eq] at ih ⊢
          rw [List.map_cons, List.lookup_cons, List.lookup_cons, beq_self_eq_true, if_pos rfl,
            beq_eq_false_iff_ne.mpr eq]
          exact ih
      · have head : (if (k == key) = true then (key, value) else (k, v)) = (k, v) := by
          rw [beq_eq_false_iff_ne.mpr isKey]
          rfl
        rw [List.map_cons, head]
        by_cases eq : other = key
        · subst eq
          rw [if_pos rfl] at ih ⊢
          rw [List.lookup_cons, List.lookup_cons, beq_eq_false_iff_ne.mpr (Ne.symm isKey)]
          exact ih
        · rw [if_neg eq] at ih ⊢
          rw [List.lookup_cons, List.lookup_cons, ih]

/-- Reading back a dictionary after one assignment. -/
theorem lookup_assign (d : List (String × α)) (key other : String) (value : α) :
    (assign d key value).lookup other = if other = key then some value else d.lookup other := by
  unfold assign
  rw [any_eq_isSome_lookup]
  split
  · next present =>
      rw [lookup_map_assign]
      obtain ⟨old, found⟩ := Option.isSome_iff_exists.mp present
      rw [found]
      rfl
  · next absent =>
      have none : d.lookup key = none := Option.not_isSome_iff_eq_none.mp absent
      rw [List.lookup_append]
      by_cases same : other = key
      · subst same
        rw [none, if_pos rfl]
        simp
      · rw [if_neg same, List.lookup_cons, beq_eq_false_iff_ne.mpr same]
        exact Option.or_none

theorem any_assign (d : List (String × α)) {key other : String} (value : α)
    (differs : other ≠ key) : (assign d key value).any (·.1 == other) = d.any (·.1 == other) := by
  rw [any_eq_isSome_lookup, any_eq_isSome_lookup, lookup_assign, if_neg differs]

theorem mem_assign {entries : List (String × α)} {key other : String} {value a : α}
    (mem : (other, a) ∈ assign entries key value) :
    (other, a) ∈ entries ∨ (other = key ∧ a = value) := by
  unfold assign at mem
  split at mem
  · obtain ⟨⟨k, v⟩, known, eq⟩ := List.mem_map.mp mem
    split at eq
    · cases eq
      exact .inr ⟨rfl, rfl⟩
    · cases eq
      exact .inl known
  · rcases List.mem_append.mp mem with known | new
    · exact .inl known
    · cases List.mem_singleton.mp new
      exact .inr ⟨rfl, rfl⟩

theorem length_assign_le (entries : List (String × α)) (key : String) (value : α) :
    (assign entries key value).length ≤ entries.length + 1 := by
  unfold assign
  split
  · rw [List.length_map]
    omega
  · rw [List.length_append, List.length_singleton]

/-- Assignment keeps the keys distinct. -/
theorem nodup_keys_assign {entries : List (String × α)} (key : String) (value : α)
    (distinct : (entries.map Prod.fst).Nodup) :
    ((assign entries key value).map Prod.fst).Nodup := by
  unfold assign
  split
  · have keys : (entries.map fun entry => if entry.1 == key then (key, value) else entry).map
        Prod.fst = entries.map Prod.fst := by
      rw [List.map_map]
      apply List.map_congr_left
      intro entry _
      by_cases same : entry.1 = key
      · simp [same]
      · simp [same]
    rw [keys]
    exact distinct
  · next absent =>
      rw [List.map_append]
      apply List.nodup_append.mpr ⟨distinct, by simp, ?_⟩
      intro other known b isKey same
      obtain rfl := List.mem_singleton.mp isKey
      obtain ⟨entry, mem, rfl⟩ := List.mem_map.mp known
      exact absent (List.any_eq_true.mpr ⟨entry, mem, beq_iff_eq.mpr same⟩)

theorem mem_of_lookup {entries : List (String × α)} {key : String} {a : α}
    (found : entries.lookup key = some a) : (key, a) ∈ entries := by
  obtain ⟨before, after, rfl, -⟩ := List.lookup_eq_some_iff.mp found
  simp

/-- An entry that is read passes a filter that keeps it. -/
theorem lookup_filter {entries : List (String × α)} {key : String} {a : α}
    {p : String × α → Bool} (found : entries.lookup key = some a) (keeps : p (key, a) = true) :
    (entries.filter p).lookup key = some a := by
  obtain ⟨before, after, rfl, others⟩ := List.lookup_eq_some_iff.mp found
  rw [List.filter_append, List.filter_cons_of_pos keeps]
  apply List.lookup_eq_some_iff.mpr ⟨before.filter p, after.filter p, rfl, ?_⟩
  intro entry mem
  exact others entry (List.mem_of_mem_filter mem)

/-- An update of the values of a dictionary. -/
theorem lookup_map_value (f : String → α → β) (entries : List (String × α)) (key : String) :
    (entries.map fun entry => (entry.1, f entry.1 entry.2)).lookup key =
      (entries.lookup key).map (f key) := by
  induction entries with
  | nil => rfl
  | cons entry entries ih =>
      rcases entry with ⟨k, a⟩
      rw [List.map_cons, List.lookup_cons, List.lookup_cons]
      cases same : key == k with
      | true =>
          obtain rfl := eq_of_beq same
          rfl
      | false => exact ih

/-- Reading a dictionary whose keys are distinct. -/
theorem lookup_eq_some_iff {entries : List (String × α)}
    (distinct : (entries.map (·.1)).Nodup) {key : String} {a : α} :
    entries.lookup key = some a ↔ (key, a) ∈ entries := by
  induction entries with
  | nil => simp
  | cons entry entries ih =>
      rcases entry with ⟨k, b⟩
      rw [List.map_cons, List.nodup_cons] at distinct
      rw [List.lookup_cons, List.mem_cons]
      cases same : key == k with
      | true =>
          obtain rfl := eq_of_beq same
          have absent : (key, a) ∉ entries := fun mem =>
            distinct.1 (List.mem_map_of_mem (f := (·.1)) mem)
          simp [absent, eq_comm]
      | false =>
          have other : key ≠ k := fun eq => by rw [eq, beq_self_eq_true] at same; cases same
          simp [other, ih distinct.2]

end Dingdongditch.Text
