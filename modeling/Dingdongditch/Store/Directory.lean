import Mathlib.Data.List.Basic

/-!
# Directories

The files of a directory, by name.  Writing a file replaces the one of that name.
-/

namespace Dingdongditch.Store

variable {κ α : Type} [DecidableEq κ]

abbrev Directory (κ α : Type) : Type := List (κ × α)

namespace Directory

variable {files : Directory κ α} {name other : κ} {content : α}

/-- The file is there. -/
def Has (files : Directory κ α) (name : κ) : Prop := (files.lookup name).isSome

instance : Decidable (files.Has name) := inferInstanceAs (Decidable (_ = true))

def remove (files : Directory κ α) (name : κ) : Directory κ α := files.filter (·.1 ≠ name)

def write (files : Directory κ α) (name : κ) (content : α) : Directory κ α :=
  files.remove name ++ [(name, content)]

theorem lookup_remove : (files.remove name).lookup other =
    if other = name then none else files.lookup other := by
  unfold remove
  induction files with
  | nil => simp
  | cons file files ih =>
      rcases file with ⟨key, value⟩
      by_cases removed : key = name
      · subst removed
        rw [List.filter_cons_of_neg (by simp), ih, List.lookup_cons]
        by_cases same : other = key
        · rw [if_pos same, if_pos same]
        · rw [if_neg same, if_neg same, beq_eq_false_iff_ne.mpr same]
      · rw [List.filter_cons_of_pos (by simpa using removed), List.lookup_cons, List.lookup_cons, ih]
        by_cases same : other = key
        · subst same
          simp [removed]
        · rw [beq_eq_false_iff_ne.mpr same]

theorem lookup_write : (files.write name content).lookup other =
    if other = name then some content else files.lookup other := by
  unfold write
  rw [List.lookup_append, lookup_remove, List.lookup_cons]
  by_cases same : other = name
  · subst same
    simp
  · rw [if_neg same, if_neg same, beq_eq_false_iff_ne.mpr same]
    exact Option.or_none

theorem has_remove : (files.remove name).Has other ↔ other ≠ name ∧ files.Has other := by
  unfold Has
  rw [lookup_remove]
  by_cases same : other = name
  · simp [same]
  · simp [same]

theorem has_write : (files.write name content).Has other ↔ other = name ∨ files.Has other := by
  unfold Has
  rw [lookup_write]
  by_cases same : other = name
  · simp [same]
  · simp [same]

theorem has_of_lookup (found : files.lookup name = some content) : files.Has name := by
  unfold Has
  rw [found]
  rfl

end Directory

end Dingdongditch.Store
