import Mathlib.Data.List.Basic
import Mathlib.Data.List.Infix

/-!
# String surgery on character lists

The string methods of the source language, on lists of characters: stripping,
splitting at the first or last separator, substring search and counting.  Each
operation has the lemmas that say what it does to a string put together with
`++`, which is how the strings of the development are built.
-/

namespace Dingdongditch.Text

/-- A property of the members of a text is decided on these, not on all characters. -/
instance decidableForallMem {p : Char → Prop} [DecidablePred p] (text : List Char) :
    Decidable (∀ c ∈ text, p c) :=
  List.decidableBAll p text

/-! ## Letters and digits of ASCII -/

theorem isUpper_iff {c : Char} : c.isUpper = true ↔ 65 ≤ c.toNat ∧ c.toNat ≤ 90 :=
  decide_eq_true_iff (p := c.val ≥ 'A'.val ∧ c.val ≤ 'Z'.val)

theorem isLower_iff {c : Char} : c.isLower = true ↔ 97 ≤ c.toNat ∧ c.toNat ≤ 122 :=
  Bool.and_eq_true_iff.trans (and_congr decide_eq_true_iff decide_eq_true_iff)

theorem isDigit_iff {c : Char} : c.isDigit = true ↔ 48 ≤ c.toNat ∧ c.toNat ≤ 57 :=
  Bool.and_eq_true_iff.trans (and_congr decide_eq_true_iff decide_eq_true_iff)

theorem isAlpha_iff {c : Char} : c.isAlpha = true ↔ c.isUpper = true ∨ c.isLower = true :=
  Bool.or_eq_true_iff

theorem isAlphanum_iff {c : Char} : c.isAlphanum = true ↔
    ((65 ≤ c.toNat ∧ c.toNat ≤ 90) ∨ (97 ≤ c.toNat ∧ c.toNat ≤ 122)) ∨
      (48 ≤ c.toNat ∧ c.toNat ≤ 57) := by
  rw [← isUpper_iff, ← isLower_iff, ← isDigit_iff, ← isAlpha_iff]
  exact Bool.or_eq_true_iff

/-! ## Strings -/

/-- Characters that `str.strip` and the regular-expression class `\s` drop. -/
def isSpace (c : Char) : Bool :=
  let n := c.toNat
  (9 ≤ n && n ≤ 13) || (28 ≤ n && n ≤ 32) || n = 0x85 || n = 0xA0 || n = 0x1680 ||
    (0x2000 ≤ n && n ≤ 0x200A) || n = 0x2028 || n = 0x2029 || n = 0x202F || n = 0x205F ||
    n = 0x3000

def lstripBy (p : Char → Bool) (s : List Char) : List Char := s.dropWhile p

def rstripBy (p : Char → Bool) (s : List Char) : List Char := (s.reverse.dropWhile p).reverse

def stripBy (p : Char → Bool) (s : List Char) : List Char := rstripBy p (lstripBy p s)

/-- `needle in hay` -/
def contains (needle hay : List Char) : Bool := hay.tails.any (needle.isPrefixOf ·)

/-- `s.partition(c)` for a one-character separator; `none` when it is absent. -/
def partition (c : Char) : List Char → Option (List Char × List Char)
  | [] => none
  | x :: s =>
      if x = c then some ([], s)
      else (partition c s).map fun (before, after) => (x :: before, after)

/-- `s.rpartition(c)` for a one-character separator; `none` when it is absent. -/
def rpartition (c : Char) (s : List Char) : Option (List Char × List Char) :=
  (partition c s.reverse).map fun (after, before) => (before.reverse, after.reverse)

/-- `s.split(sep, 1)`, as the text before and after the first occurrence. -/
def splitFirst (sep : List Char) : List Char → Option (List Char × List Char)
  | [] => if sep = [] then some ([], []) else none
  | x :: s =>
      if sep.isPrefixOf (x :: s) then some ([], (x :: s).drop sep.length)
      else (splitFirst sep s).map fun (before, after) => (x :: before, after)

/-- Split before the first character that is one of `stops`. -/
def breakAt (stops : List Char) : List Char → List Char × List Char
  | [] => ([], [])
  | x :: s => if x ∈ stops then ([], x :: s) else (x :: (breakAt stops s).1, (breakAt stops s).2)

/-! ## Stripping -/

theorem rstripBy_append_of_last {p : Char → Bool} {c : Char} (kept : p c = false)
    (s : List Char) : rstripBy p (s ++ [c]) = s ++ [c] := by
  unfold rstripBy
  rw [List.reverse_append]
  simp [kept]

theorem lstripBy_eq_self {p : Char → Bool} {c : Char} (kept : p c = false) (s : List Char) :
    lstripBy p (c :: s) = c :: s := by
  simp [lstripBy, kept]

/-! ## Splitting -/

theorem partition_append {c : Char} {before : List Char} (fresh : c ∉ before)
    (after : List Char) : partition c (before ++ c :: after) = some (before, after) := by
  induction before with
  | nil => simp [partition]
  | cons x before ih =>
      have ne : x ≠ c := fun eq => fresh (eq ▸ List.mem_cons_self)
      have rest := ih fun mem => fresh (List.mem_cons_of_mem _ mem)
      simp [partition, ne, rest]

theorem partition_eq_none {c : Char} {s : List Char} (fresh : c ∉ s) :
    partition c s = none := by
  induction s with
  | nil => rfl
  | cons x s ih =>
      have ne : x ≠ c := fun eq => fresh (eq ▸ List.mem_cons_self)
      simp [partition, ne, ih fun mem => fresh (List.mem_cons_of_mem _ mem)]

theorem rpartition_eq_none {c : Char} {s : List Char} (fresh : c ∉ s) :
    rpartition c s = none := by
  rw [rpartition, partition_eq_none (by simpa using fresh)]
  rfl

theorem rpartition_append {c : Char} {after : List Char} (fresh : c ∉ after)
    (before : List Char) : rpartition c (before ++ c :: after) = some (before, after) := by
  have reversed : (before ++ c :: after).reverse = after.reverse ++ c :: before.reverse := by
    simp
  rw [rpartition, reversed, partition_append (by simpa using fresh)]
  simp

theorem contains_iff {needle hay : List Char} : contains needle hay = true ↔ needle <:+: hay := by
  unfold contains
  rw [List.infix_iff_prefix_suffix]
  simp only [List.any_eq_true, List.mem_tails, List.isPrefixOf_iff_prefix]
  constructor
  · intro ⟨rest, isSuffix, isPrefix⟩
    exact ⟨rest, isPrefix, isSuffix⟩
  · intro ⟨rest, isPrefix, isSuffix⟩
    exact ⟨rest, isSuffix, isPrefix⟩

section Separator

variable {c : Char} {sep : List Char}

theorem isPrefixOf_eq_false {x : Char} (ne : x ≠ c) (s : List Char) :
    (c :: sep).isPrefixOf (x :: s) = false := by
  simp [List.isPrefixOf, Ne.symm ne]

theorem splitFirst_eq_none {s : List Char} (fresh : c ∉ s) : splitFirst (c :: sep) s = none := by
  induction s with
  | nil => rfl
  | cons x s ih =>
      have ne : x ≠ c := fun eq => fresh (eq ▸ List.mem_cons_self)
      have tail := ih fun mem => fresh (List.mem_cons_of_mem _ mem)
      rw [splitFirst, isPrefixOf_eq_false ne, tail]
      rfl

theorem splitFirst_append {before : List Char} (fresh : c ∉ before) (after : List Char) :
    splitFirst (c :: sep) (before ++ c :: sep ++ after) = some (before, after) := by
  induction before with
  | nil =>
      have found : (c :: sep).isPrefixOf (c :: (sep ++ after)) = true :=
        List.isPrefixOf_iff_prefix.mpr (List.prefix_append (c :: sep) after)
      rw [List.nil_append, List.cons_append, splitFirst, if_pos found]
      simp
  | cons x before ih =>
      have ne : x ≠ c := fun eq => fresh (eq ▸ List.mem_cons_self)
      have tail := ih fun mem => fresh (List.mem_cons_of_mem _ mem)
      rw [List.cons_append, List.cons_append, splitFirst, isPrefixOf_eq_false ne, tail]
      rfl

theorem contains_eq_false {s : List Char} (fresh : c ∉ s) : contains (c :: sep) s = false := by
  induction s with
  | nil => rfl
  | cons x s ih =>
      have ne : x ≠ c := fun eq => fresh (eq ▸ List.mem_cons_self)
      have tail := ih fun mem => fresh (List.mem_cons_of_mem _ mem)
      unfold contains at tail ⊢
      rw [List.tails_cons, List.any_cons, isPrefixOf_eq_false ne, tail]
      rfl

end Separator

theorem breakAt_append {stops s rest : List Char} {c : Char} (stop : c ∈ stops)
    (fresh : ∀ x ∈ s, x ∉ stops) : breakAt stops (s ++ c :: rest) = (s, c :: rest) := by
  induction s with
  | nil => exact if_pos stop
  | cons x s ih =>
      have tail := ih fun y mem => fresh y (List.mem_cons_of_mem _ mem)
      rw [List.cons_append, breakAt, if_neg (fresh x List.mem_cons_self), tail]

theorem breakAt_eq_self {stops s : List Char} (fresh : ∀ x ∈ s, x ∉ stops) :
    breakAt stops s = (s, []) := by
  induction s with
  | nil => rfl
  | cons x s ih =>
      have tail := ih fun y mem => fresh y (List.mem_cons_of_mem _ mem)
      rw [breakAt, if_neg (fresh x List.mem_cons_self), tail]

theorem breakAt_fresh {stops : List Char} (s : List Char) : ∀ x ∈ (breakAt stops s).1, x ∉ stops := by
  induction s with
  | nil =>
      intro x mem
      cases mem
  | cons y s ih =>
      unfold breakAt
      split
      · intro x mem
        cases mem
      · next kept =>
          intro x mem
          rcases List.mem_cons.mp mem with rfl | mem
          · exact kept
          · exact ih x mem

theorem breakAt_subset {stops : List Char} (s : List Char) : (breakAt stops s).1 ⊆ s := by
  induction s with
  | nil => exact List.Subset.refl _
  | cons y s ih =>
      unfold breakAt
      split
      · exact List.nil_subset _
      · exact List.cons_subset_cons y ih

theorem partition_subset {c : Char} {s before after : List Char}
    (split : partition c s = some (before, after)) : after ⊆ s := by
  induction s generalizing before with
  | nil => cases split
  | cons x s ih =>
      unfold partition at split
      split at split
      · cases split
        exact List.subset_cons_self _ _
      · obtain ⟨⟨before', after'⟩, inner, eq⟩ := Option.map_eq_some_iff.mp split
        cases eq
        exact List.Subset.trans (ih inner) (List.subset_cons_self _ _)

end Dingdongditch.Text
