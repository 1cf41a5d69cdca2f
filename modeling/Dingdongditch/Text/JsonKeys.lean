import Dingdongditch.Text.Json

/-!
# Keys of JSON dictionaries

A dictionary holds each key once: `Distinct` says so of every dictionary of a value,
and `lastWins` is what remains of a document that repeats keys.  A value with
distinct keys is left as it is (`lastWins_of_distinct`), and its normal form has the
same entries (`lookup_normalizeEntries`).
-/

namespace Dingdongditch.Text

section Assignment

variable {α : Type}

/-- New keys are appended in order. -/
theorem foldl_assign {entries more : List (String × α)}
    (distinct : ((entries ++ more).map (·.1)).Nodup) :
    more.foldl (fun d entry => assign d entry.1 entry.2) entries = entries ++ more := by
  induction more generalizing entries with
  | nil => simp
  | cons entry more ih =>
      have fresh : entries.any (·.1 == entry.1) = false := by
        rw [List.any_eq_false]
        intro other mem same
        rw [List.map_append, List.map_cons, List.nodup_append] at distinct
        exact distinct.2.2 _ (List.mem_map_of_mem (f := (·.1)) mem) _ List.mem_cons_self
          (eq_of_beq same)
      have appended : assign entries entry.1 entry.2 = entries ++ [entry] := by
        simp [assign, fresh]
      have split : entries ++ entry :: more = (entries ++ [entry]) ++ more := by simp
      rw [List.foldl_cons, appended, split, ih (split ▸ distinct)]

/-- Entries are sorted by key. -/
theorem pairwise_sortEntries (entries : List (String × α)) :
    (Json.sortEntries entries).Pairwise fun a b => a.1 ≤ b.1 := by
  have total : Std.Total fun a b : String × α => a.1 ≤ b.1 := ⟨fun a b => le_total a.1 b.1⟩
  have trans : IsTrans (String × α) fun a b => a.1 ≤ b.1 := ⟨fun _ _ _ ab bc => le_trans ab bc⟩
  exact List.pairwise_insertionSort _ entries

theorem sortEntries_of_sorted {entries : List (String × α)}
    (sorted : entries.Pairwise fun a b => a.1 ≤ b.1) : Json.sortEntries entries = entries :=
  sorted.insertionSort_eq

theorem perm_sortEntries (entries : List (String × α)) : (Json.sortEntries entries).Perm entries :=
  List.perm_insertionSort _ _

end Assignment

namespace Json

variable {F : Type} {f : String → String}

mutual

/-- Every dictionary of the value holds each of its keys once. -/
def Distinct : Json F → Prop
  | .list items => DistinctItems items
  | .dict entries => (entries.map (·.1)).Nodup ∧ DistinctEntries entries
  | _ => True

def DistinctItems : List (Json F) → Prop
  | [] => True
  | item :: items => Distinct item ∧ DistinctItems items

def DistinctEntries : List (String × Json F) → Prop
  | [] => True
  | (_, value) :: entries => Distinct value ∧ DistinctEntries entries

end

mutual

/-- The keys of all dictionaries inside a value. -/
def keysWithin : Json F → List String
  | .list items => keysWithinItems items
  | .dict entries => keysWithinEntries entries
  | _ => []

def keysWithinItems : List (Json F) → List String
  | [] => []
  | item :: items => keysWithin item ++ keysWithinItems items

def keysWithinEntries : List (String × Json F) → List String
  | [] => []
  | (key, value) :: entries => key :: (keysWithin value ++ keysWithinEntries entries)

end

mutual

/-- A document as it is read, where the last of the values under one key counts. -/
def lastWins : Json F → Json F
  | .list items => .list (lastWinsItems items)
  | .dict entries =>
      .dict ((lastWinsEntries entries).foldl (fun d entry => assign d entry.1 entry.2) [])
  | .null => .null
  | .bool b => .bool b
  | .int n => .int n
  | .float x => .float x
  | .str s => .str s

def lastWinsItems : List (Json F) → List (Json F)
  | [] => []
  | item :: items => lastWins item :: lastWinsItems items

def lastWinsEntries : List (String × Json F) → List (String × Json F)
  | [] => []
  | (key, value) :: entries => (key, lastWins value) :: lastWinsEntries entries

end

theorem distinctItems_iff {items : List (Json F)} :
    DistinctItems items ↔ ∀ item ∈ items, item.Distinct := by
  induction items with
  | nil => simp [DistinctItems]
  | cons item items ih => simp [DistinctItems, ih]

theorem distinctEntries_iff {entries : List (String × Json F)} :
    DistinctEntries entries ↔ ∀ entry ∈ entries, entry.2.Distinct := by
  induction entries with
  | nil => simp [DistinctEntries]
  | cons entry entries ih => simp [DistinctEntries, ih]

mutual

theorem lastWins_of_distinct : (v : Json F) → v.Distinct → v.lastWins = v
  | .null, _ => rfl
  | .bool _, _ => rfl
  | .int _, _ => rfl
  | .float _, _ => rfl
  | .str _, _ => rfl
  | .list items, distinct => by
      rw [lastWins, lastWinsItems_of_distinct items distinct]
  | .dict entries, distinct => by
      rw [lastWins, lastWinsEntries_of_distinct entries distinct.2, foldl_assign distinct.1,
        List.nil_append]

theorem lastWinsItems_of_distinct : (items : List (Json F)) → DistinctItems items →
    lastWinsItems items = items
  | [], _ => rfl
  | item :: items, distinct => by
      rw [lastWinsItems, lastWins_of_distinct item distinct.1,
        lastWinsItems_of_distinct items distinct.2]

theorem lastWinsEntries_of_distinct : (entries : List (String × Json F)) → DistinctEntries entries →
    lastWinsEntries entries = entries
  | [], _ => rfl
  | (_, value) :: entries, distinct => by
      rw [lastWinsEntries, lastWins_of_distinct value distinct.1,
        lastWinsEntries_of_distinct entries distinct.2]

end

mutual

theorem distinct_normalize : (v : Json F) → v.Distinct → (v.normalize f).Distinct
  | .null, _ => trivial
  | .bool _, _ => trivial
  | .int _, _ => trivial
  | .float _, _ => trivial
  | .str _, _ => trivial
  | .list items, distinct => distinctItems_normalize items distinct
  | .dict entries, distinct => by
      refine ⟨(keys_sortEntries entries).nodup_iff.mpr distinct.1, ?_⟩
      apply distinctEntries_iff.mpr
      intro entry mem
      exact distinctEntries_iff.mp (distinctEntries_normalize entries distinct.2) entry
        ((perm_sortEntries _).mem_iff.mp mem)

theorem distinctItems_normalize : (items : List (Json F)) → DistinctItems items →
    DistinctItems (normalizeItems f items)
  | [], _ => trivial
  | item :: items, distinct =>
      ⟨distinct_normalize item distinct.1, distinctItems_normalize items distinct.2⟩

theorem distinctEntries_normalize : (entries : List (String × Json F)) → DistinctEntries entries →
    DistinctEntries (normalizeEntries f entries)
  | [], _ => trivial
  | (_, value) :: entries, distinct =>
      ⟨distinct_normalize value distinct.1, distinctEntries_normalize entries distinct.2⟩

end

/-- Entries whose values are normal forms are the entries of a normal form. -/
theorem normalizeEntries_of_normal {entries : List (String × Json F)}
    (normal : ∀ entry ∈ entries, entry.2.normalize id = entry.2) :
    normalizeEntries id entries = entries := by
  rw [normalizeEntries_eq_map]
  conv => rhs; rw [← List.map_id entries]
  apply List.map_congr_left
  intro entry mem
  rw [normal entry mem, id_eq]

mutual

theorem normalize_normalize : (v : Json F) → (v.normalize id).normalize id = v.normalize id
  | .null => rfl
  | .bool _ => rfl
  | .int _ => rfl
  | .float _ => rfl
  | .str _ => rfl
  | .list items => by
      rw [normalize, normalize, normalizeItems_normalize items]
  | .dict entries => by
      have normal : normalizeEntries id (sortEntries (normalizeEntries id entries)) =
          sortEntries (normalizeEntries id entries) := by
        apply normalizeEntries_of_normal
        intro entry mem
        exact normal_of_mem_normalizeEntries entries entry ((perm_sortEntries _).mem_iff.mp mem)
      rw [normalize, normalize, normal, sortEntries_of_sorted (pairwise_sortEntries _)]

theorem normalizeItems_normalize : (items : List (Json F)) →
    normalizeItems id (normalizeItems id items) = normalizeItems id items
  | [] => rfl
  | item :: items => by
      rw [normalizeItems, normalizeItems, normalize_normalize item, normalizeItems_normalize items]

theorem normal_of_mem_normalizeEntries : (entries : List (String × Json F)) →
    ∀ entry ∈ normalizeEntries id entries, entry.2.normalize id = entry.2
  | [], _, mem => absurd mem List.not_mem_nil
  | (key, value) :: entries, entry, mem => by
      rcases List.mem_cons.mp mem with rfl | mem
      · exact normalize_normalize value
      · exact normal_of_mem_normalizeEntries entries entry mem

end

theorem lookup_normalizeEntries {entries : List (String × Json F)}
    (distinct : (entries.map (·.1)).Nodup) (key : String) :
    (sortEntries (normalizeEntries f entries)).lookup key =
      (entries.lookup key).map (normalize f) := by
  have sorted : ((sortEntries (normalizeEntries f entries)).map (·.1)).Nodup :=
    (keys_sortEntries entries).nodup_iff.mpr distinct
  ext u
  rw [lookup_eq_some_iff sorted, mem_normalize_dict, Option.map_eq_some_iff]
  simp only [lookup_eq_some_iff distinct]
  constructor
  · rintro ⟨v, mem, rfl⟩
    exact ⟨v, mem, rfl⟩
  · rintro ⟨v, mem, rfl⟩
    exact ⟨v, mem, rfl⟩

end Json

end Dingdongditch.Text
