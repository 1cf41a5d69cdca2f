import Mathlib.Data.List.Forall2

/-!
# Checking the elements of a list

A check is a function into `Except`; it may return its input in another form.
`mapM_eq_ok_iff` reads off what a successful pass over a list says of its
elements, and `mapM_render` is the round trip: where the check recovers each
element from its rendering, the pass recovers the list.
-/

namespace Dingdongditch.Text

variable {ε α β : Type}

theorem bind_eq_ok {x : Except ε α} {f : α → Except ε β} {b : β} :
    (x >>= f) = .ok b ↔ ∃ a, x = .ok a ∧ f a = .ok b := by
  cases x with
  | ok a => simp [bind, Except.bind]
  | error e => simp [bind, Except.bind]

theorem forM_eq_ok {f : α → Except ε PUnit} {xs : List α} :
    xs.forM f = .ok () ↔ ∀ x ∈ xs, f x = .ok () := by
  induction xs with
  | nil => exact iff_of_true rfl fun x mem => (List.not_mem_nil mem).elim
  | cons x xs ih =>
      have step : (x :: xs).forM f = f x >>= fun _ => xs.forM f := rfl
      rw [step, bind_eq_ok, List.forall_mem_cons, ← ih]
      constructor
      · intro ⟨_, head, tail⟩
        exact ⟨head, tail⟩
      · intro ⟨head, tail⟩
        exact ⟨(), head, tail⟩

variable {f : α → Except ε β} {xs : List α} {ys : List β}

theorem mapM_eq_ok_iff : xs.mapM f = .ok ys ↔ List.Forall₂ (fun x y => f x = .ok y) xs ys := by
  induction xs generalizing ys with
  | nil =>
      constructor
      · intro mapped
        cases mapped
        exact .nil
      · intro pairs
        cases pairs
        rfl
  | cons x xs ih =>
      rw [List.mapM_cons]
      constructor
      · intro mapped
        obtain ⟨y, first, mapped⟩ := bind_eq_ok.mp mapped
        obtain ⟨later, rest, isList⟩ := bind_eq_ok.mp mapped
        cases isList
        exact .cons first (ih.mp rest)
      · intro pairs
        cases pairs with
        | cons first rest =>
            rw [first, ih.mpr rest]
            rfl

theorem length_of_mapM_eq_ok (mapped : xs.mapM f = .ok ys) : ys.length = xs.length :=
  (mapM_eq_ok_iff.mp mapped).length_eq.symm

theorem mem_of_mapM_eq_ok (mapped : xs.mapM f = .ok ys) {y : β} (mem : y ∈ ys) :
    ∃ x ∈ xs, f x = .ok y := by
  have pairs := mapM_eq_ok_iff.mp mapped
  obtain ⟨i, bound, rfl⟩ := List.mem_iff_getElem.mp mem
  have inside : i < xs.length := by
    rw [pairs.length_eq]
    exact bound
  exact ⟨xs[i], List.getElem_mem inside, pairs.get inside bound⟩

theorem mapM_ok_of_forall (each : ∀ x ∈ xs, ∃ y, f x = .ok y) : ∃ ys, xs.mapM f = .ok ys := by
  induction xs with
  | nil => exact ⟨[], rfl⟩
  | cons x xs ih =>
      obtain ⟨⟨y, here⟩, later⟩ := List.forall_mem_cons.mp each
      obtain ⟨ys, rest⟩ := ih later
      exact ⟨y :: ys, mapM_eq_ok_iff.mpr (.cons here (mapM_eq_ok_iff.mp rest))⟩

/-- The round trip of a list, from that of its elements. -/
theorem mapM_render {render : β → α} (recovers : ∀ y ∈ ys, f (render y) = .ok y) :
    (ys.map render).mapM f = .ok ys := by
  rw [mapM_eq_ok_iff, List.forall₂_map_left_iff]
  exact List.forall₂_same.mpr recovers

end Dingdongditch.Text
