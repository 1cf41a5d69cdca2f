import Mathlib.Data.List.Basic

/-!
# Cursors

A cursor stands at a position `0, 1, …`, and items pass it one after the other.
An item that consumes moves the cursor to the next position, and an item that
takes the position of the cursor has to consume it.  The items that take are
then at strictly increasing positions, and find every earlier one consumed.
-/

namespace Dingdongditch.Interaction

variable {α : Type} {position : α → Nat} {takes consumes : α → Prop} {start stop : Nat} {items : List α}

/-- The items pass a cursor that goes from `start` to `stop`. -/
inductive Walk (position : α → Nat) (takes consumes : α → Prop) : Nat → List α → Nat → Prop
  | nil (start : Nat) : Walk position takes consumes start [] start
  | pass {start stop : Nat} {a : α} {rest : List α} (here : position a = start) (leaves : ¬ takes a)
      (later : Walk position takes consumes start rest stop) :
      Walk position takes consumes start (a :: rest) stop
  | step {start stop : Nat} {a : α} {rest : List α} (here : position a = start) (consumed : consumes a)
      (later : Walk position takes consumes (start + 1) rest stop) :
      Walk position takes consumes start (a :: rest) stop

namespace Walk

theorem append {middle : Nat} {later : List α} (first : Walk position takes consumes start items middle)
    (second : Walk position takes consumes middle later stop) :
    Walk position takes consumes start (items ++ later) stop := by
  induction first with
  | nil start => exact second
  | pass here leaves _ ih => exact .pass here leaves (ih second)
  | step here consumed _ ih => exact .step here consumed (ih second)

theorem le_position (walk : Walk position takes consumes start items stop) :
    ∀ a ∈ items, start ≤ position a := by
  induction walk with
  | nil start => simp
  | pass here leaves _ ih =>
      intro a mem
      rcases List.mem_cons.mp mem with rfl | later
      · omega
      · exact ih a later
  | step here consumed _ ih =>
      intro a mem
      rcases List.mem_cons.mp mem with rfl | later
      · omega
      · have beyond := ih a later
        omega

/-- No position is taken twice, and the positions are taken in their order. -/
theorem increasing (walk : Walk position takes consumes start items stop) :
    items.Pairwise fun a b => takes a → position a < position b := by
  induction walk with
  | nil start => exact .nil
  | pass here leaves _ ih =>
      refine List.pairwise_cons.mpr ⟨?_, ih⟩
      intro b _ taken
      exact absurd taken leaves
  | step here consumed later ih =>
      refine List.pairwise_cons.mpr ⟨?_, ih⟩
      intro b mem _
      have beyond := later.le_position b mem
      omega

/-- Every position before that of an item was consumed by an earlier item. -/
theorem consumed_before (walk : Walk position takes consumes start items stop) {before after : List α}
    {a : α} (split : items = before ++ a :: after) {earlier : Nat} (from_ : start ≤ earlier)
    (below : earlier < position a) : ∃ b ∈ before, position b = earlier ∧ consumes b := by
  induction walk generalizing before with
  | nil start => simp at split
  | pass here leaves later ih =>
      rcases List.cons_eq_append_iff.mp split with ⟨rfl, same⟩ | ⟨rest, rfl, rfl⟩
      · cases same
        omega
      · obtain ⟨b, mem, at_, consumed⟩ := ih rfl from_
        exact ⟨b, List.mem_cons_of_mem _ mem, at_, consumed⟩
  | @step start stop c rest here consumed later ih =>
      rcases List.cons_eq_append_iff.mp split with ⟨rfl, same⟩ | ⟨rest, rfl, rfl⟩
      · cases same
        omega
      · rcases Nat.lt_or_eq_of_le from_ with beyond | rfl
        · obtain ⟨b, mem, at_, used⟩ := ih rfl beyond
          exact ⟨b, List.mem_cons_of_mem _ mem, at_, used⟩
        · exact ⟨c, List.mem_cons_self, here, consumed⟩

end Walk

end Dingdongditch.Interaction
