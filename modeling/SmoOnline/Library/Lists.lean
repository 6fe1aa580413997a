import Mathlib.Data.List.Basic

/-! Functions of a list that only ask what holds of its items: two questions with the same answers
at each item leave the same.
-/

namespace Lists

variable {Item : Type} {left right : Item → Bool} {items : List Item}

theorem takeWhile_congr (same : ∀ item ∈ items, left item = right item)
    : items.takeWhile left = items.takeWhile right := by
  induction items with
  | nil => rfl
  | cons head tail ih =>
      have first := same head List.mem_cons_self
      have rest := ih fun item later => same item (List.mem_cons_of_mem head later)
      rw [List.takeWhile_cons, List.takeWhile_cons, first, rest]

theorem all_congr_mem (same : ∀ item ∈ items, left item = right item)
    : items.all left = items.all right := by
  rw [Bool.eq_iff_iff, List.all_eq_true, List.all_eq_true]
  exact forall₂_congr fun item member => by rw [same item member]

theorem eraseP_congr (same : ∀ item ∈ items, left item = right item)
    : items.eraseP left = items.eraseP right := by
  induction items with
  | nil => rfl
  | cons head tail ih =>
      have first := same head List.mem_cons_self
      have rest := ih (fun item later => same item (List.mem_cons_of_mem head later))
      rw [List.eraseP_cons, List.eraseP_cons, first, rest]

/-- Items that are each written to in a way that does not count, by induction on them. -/
theorem countP_mapIdx {holds : Item → Bool} {write : Nat → Item → Item} (items : List Item)
    (same : ∀ index item, holds (write index item) = holds item)
    : (items.mapIdx write).countP holds = items.countP holds := by
  induction items generalizing write with
  | nil => rfl
  | cons head later ih =>
      rw [List.mapIdx_cons, List.countP_cons, List.countP_cons, same,
        ih fun index item => same (index + 1) item]

end Lists
