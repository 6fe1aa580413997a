import Mathlib.Data.List.Basic

/-! Streams of items that tell where they end: a reader that cuts one after the other off the front
of what it has not read yet stays at the boundaries between them, whatever is sent behind.
-/

namespace Delimited

variable {α : Type}

/-- `next` cuts the item off each stream that begins with it. -/
def Delimits (next : List α → Option (List α)) (item : List α) : Prop :=
  ∀ rest, next (item ++ rest) = some item

/-- What was read of the items are the first ones. -/
structure Boundary (items : List (List α)) (count position : Nat) : Prop where
  inside : count ≤ items.length
  position : position = (items.take count).flatten.length

namespace Boundary

variable {items : List (List α)} {count position : Nat}

theorem start (items : List (List α)) : Boundary items 0 0 := ⟨Nat.zero_le _, by simp⟩

/-- More items at the end leave what was read as it is. -/
theorem append (boundary : Boundary items count position) (more : List (List α))
    : Boundary (items ++ more) count position where
  inside := by
    rw [List.length_append]
    exact Nat.le_add_right_of_le boundary.inside
  position := by
    rw [List.take_append_of_le_length boundary.inside]
    exact boundary.position

/-- What has not been read are the other items. -/
theorem drop_flatten (boundary : Boundary items count position)
    : items.flatten.drop position = (items.drop count).flatten := by
  have parts : (items.take count).flatten ++ (items.drop count).flatten = items.flatten := by
    rw [← List.flatten_append, List.take_append_drop]
  rw [boundary.position, ← parts, List.drop_left]

/-- What is cut off next is the next item, and leads to the boundary behind it. -/
theorem next {cut : List α → Option (List α)} {item : List α}
    (boundary : Boundary items count position)
    (delimits : ∀ item ∈ items, Delimits cut item) (nothing : cut [] = none)
    (taken : cut (items.flatten.drop position) = some item)
    : items[count]? = some item ∧ Boundary items (count + 1) (position + item.length) := by
  rw [boundary.drop_flatten] at taken
  cases unread : items.drop count with
  | nil =>
      rw [unread, List.flatten_nil, nothing] at taken
      cases taken
  | cons first rest =>
      have found : items[count]? = some first := by
        rw [← List.head?_drop, unread, List.head?_cons]
      rw [unread, List.flatten_cons, delimits first (List.mem_of_getElem? found)] at taken
      obtain rfl := Option.some.inj taken
      refine ⟨found, (List.getElem?_eq_some_iff.mp found).1, ?_⟩
      rw [List.take_add_one, found, Option.toList_some, List.flatten_append, List.length_append,
        ← boundary.position, List.flatten_singleton]

end Boundary

end Delimited
