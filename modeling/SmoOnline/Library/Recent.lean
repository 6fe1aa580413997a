import Mathlib.Data.List.Basic

/-! What a task with a timer has seen last. The timer counts some of the items of a history, the
last item first, and the task is done at one that finds it run out.
-/

namespace Recent

variable {Item : Type} (counts : Item → Bool)

/-- An item of the history holds, with fewer than so many that count behind it. -/
def Within (limit : Nat) (history : List Item) (Holds : Item → Prop) : Prop :=
  ∃ later item earlier,
    history = later ++ item :: earlier ∧ later.countP counts < limit ∧ Holds item

/-- The timer has not run out for the first time, or the task was done when it began to count. -/
structure Timed (limit timer : Nat) (history : List Item) (Holds : Item → Prop) : Prop where
  inside : timer ≤ limit
  done : timer = history.countP counts ∨ Within counts timer history Holds

variable {counts} {limit timer : Nat} {history : List Item} {item : Item} {Holds : Item → Prop}

theorem Within.now (positive : 0 < limit) (holds : Holds item)
    : Within counts limit (item :: history) Holds :=
  ⟨[], item, history, rfl, positive, holds⟩

theorem Within.later (within : Within counts limit history Holds) (counted : counts item = true)
    : Within counts (limit + 1) (item :: history) Holds := by
  obtain ⟨later, seen, earlier, rfl, few, holds⟩ := within
  refine ⟨item :: later, seen, earlier, rfl, ?_, holds⟩
  rw [List.countP_cons_of_pos counted]
  omega

theorem Within.aside (within : Within counts limit history Holds) (uncounted : counts item = false)
    : Within counts limit (item :: history) Holds := by
  obtain ⟨later, seen, earlier, rfl, few, holds⟩ := within
  refine ⟨item :: later, seen, earlier, rfl, ?_, holds⟩
  rwa [List.countP_cons_of_neg (by simp [uncounted])]

theorem Within.mono {more : Nat} {Weaker : Item → Prop} (within : Within counts limit history Holds)
    (le : limit ≤ more) (weaken : ∀ item, Holds item → Weaker item)
    : Within counts more history Weaker := by
  obtain ⟨later, seen, earlier, split, few, holds⟩ := within
  exact ⟨later, seen, earlier, split, Nat.lt_of_lt_of_le few le, weaken seen holds⟩

theorem Timed.start : Timed counts limit 0 [] Holds := ⟨Nat.zero_le _, .inl rfl⟩

/-- Once the timer has run out, the task was done not long ago. -/
theorem Timed.within (timed : Timed counts limit timer history Holds)
    (passed : limit < history.countP counts)
    : Within counts limit history Holds := by
  rcases timed.done with first | within
  · have inside := timed.inside
    omega
  · exact within.mono timed.inside fun _ holds => holds

/-- The task is done. -/
theorem Timed.reset (positive : 0 < limit) (holds : Holds item)
    : Timed counts limit 1 (item :: history) Holds :=
  ⟨positive, .inr (.now Nat.one_pos holds)⟩

/-- The task is done by the way, where the timer does not count. -/
theorem Timed.extra (timed : Timed counts limit timer history Holds)
    (uncounted : counts item = false) {Other : Item → Prop} (holds : Other item)
    : Timed counts limit timer (item :: history) Other := by
  refine ⟨timed.inside, timed.done.imp (fun first => ?_) fun within => ?_⟩
  · rw [List.countP_cons_of_neg (by simp [uncounted]), first]
  · obtain ⟨later, -, -, -, few, -⟩ := within
    exact .now (Nat.zero_lt_of_lt few) holds

theorem Timed.aside (timed : Timed counts limit timer history Holds)
    (uncounted : counts item = false)
    : Timed counts limit timer (item :: history) Holds := by
  refine ⟨timed.inside, timed.done.imp (fun first => ?_) fun within => within.aside uncounted⟩
  rw [List.countP_cons_of_neg (by simp [uncounted]), first]

theorem Timed.mono {Weaker : Item → Prop} (timed : Timed counts limit timer history Holds)
    (weaken : ∀ item, Holds item → Weaker item)
    : Timed counts limit timer history Weaker :=
  ⟨timed.inside, timed.done.imp id fun within => within.mono (Nat.le_refl _) weaken⟩

end Recent
