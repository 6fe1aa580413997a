import Mathlib.Data.List.Basic
import Mathlib.Logic.Function.Basic

/-! Messages under way on links that keep their order. -/

namespace Links

variable {Link Message : Type} [DecidableEq Link]

/-- Put a message on one link, behind the others. -/
def put (links : Link → List Message) (link : Link) (message : Message)
    : Link → List Message :=
  Function.update links link (links link ++ [message])

/-- Put a message on each of some links. -/
def putAll (links : Link → List Message) (targets : List Link) (message : Link → Message)
    : Link → List Message :=
  fun link => if link ∈ targets then links link ++ [message link] else links link

/-- Take the oldest message from a link. -/
def take (links : Link → List Message) (link : Link)
    : Option (Message × (Link → List Message)) :=
  match links link with
  | [] => none
  | message :: later => some (message, Function.update links link later)

variable {links rest : Link → List Message} {link target : Link} {message other : Message}

theorem mem_put
    : other ∈ put links target message link
      ↔ other ∈ links link ∨ link = target ∧ other = message := by
  unfold put
  rw [Function.update_apply]
  split_ifs with same
  · subst same
    simp
  · simp [same]

theorem mem_putAll {targets : List Link} {message : Link → Message}
    : other ∈ putAll links targets message link
      ↔ other ∈ links link ∨ link ∈ targets ∧ other = message link := by
  unfold putAll
  split_ifs with target
  · simp [target]
  · simp [target]

theorem take_eq_some
    : take links target = some (message, rest)
      ↔ ∃ later, links target = message :: later ∧ rest = Function.update links target later := by
  unfold take
  cases links target with
  | nil => simp
  | cons first later =>
      constructor
      · intro taken
        obtain ⟨rfl, rfl⟩ := Prod.mk.inj (Option.some.inj taken)
        exact ⟨later, rfl, rfl⟩
      · rintro ⟨behind, same, rfl⟩
        obtain ⟨rfl, rfl⟩ := List.cons.inj same
        rfl

/-- What is taken was under way. -/
theorem mem_of_take (taken : take links target = some (message, rest))
    : message ∈ links target := by
  obtain ⟨later, found, _⟩ := take_eq_some.mp taken
  rw [found]
  exact List.mem_cons_self

/-- What is left was under way. -/
theorem mem_of_mem_rest (taken : take links target = some (message, rest))
    (left : other ∈ rest link)
    : other ∈ links link := by
  obtain ⟨later, found, rfl⟩ := take_eq_some.mp taken
  rw [Function.update_apply] at left
  split_ifs at left with same
  · subst same
    rw [found]
    exact List.mem_cons_of_mem _ left
  · exact left

/-- What was under way is taken or left. -/
theorem taken_or_left (taken : take links target = some (message, rest))
    (under : other ∈ links link)
    : link = target ∧ other = message ∨ other ∈ rest link := by
  obtain ⟨later, found, rfl⟩ := take_eq_some.mp taken
  rw [Function.update_apply]
  split_ifs with same
  · subst same
    rw [found] at under
    exact (List.mem_cons.mp under).imp_left fun first => ⟨rfl, first⟩
  · exact .inr under

end Links
