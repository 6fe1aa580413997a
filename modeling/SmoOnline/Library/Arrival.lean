import Mathlib.Algebra.Order.Archimedean.Basic
import Mathlib.Data.List.Induction
import SmoOnline.Library.Runs

/-! Runs that come home. A distance is left until then, and every step lowers it by a fixed amount
unless it comes home.
-/

namespace Runs

section Arrival

variable {State Event Distance : Type} [AddCommGroup Distance] [LinearOrder Distance]
  [IsOrderedAddMonoid Distance]

/-- Every step comes home or nearer to it by the gain, and none leaves it. -/
structure Nears (step : State → Event → Option State) (Allowed : State → Event → Prop)
    (Home : State → Prop) (distance : State → Distance) (gain : Distance) : Prop where
  nonneg : ∀ state, 0 ≤ distance state
  nearer
    : ∀ {state event next},
        Allowed state event → step state event = some next
        → Home next ∨ distance next + gain ≤ distance state
  stays
    : ∀ {state event next},
        Home state → Allowed state event → step state event = some next → Home next

variable {step : State → Event → Option State} {Allowed : State → Event → Prop}
  {Home : State → Prop} {distance : State → Distance} {gain : Distance}

/-- The run lemma, by induction on the events. -/
theorem Nears.run (nears : Nears step Allowed Home distance gain) {start state : State}
    {events : List Event} (run : Run step Allowed start events state)
    : Home state ∨ distance state + events.length • gain ≤ distance start := by
  induction run with
  | nil => exact .inr (by simp)
  | @snoc events middle event next before allowed taken ih =>
      obtain home | far := ih
      · exact .inl (nears.stays home allowed taken)
      · obtain home | nearer := nears.nearer allowed taken
        · exact .inl home
        · refine .inr ?_
          rw [List.length_append, List.length_singleton, succ_nsmul, add_comm (_ • gain),
            ← add_assoc]
          exact (add_le_add_left nearer _).trans far

/-- From anywhere a number of steps suffices. -/
theorem Nears.comes_home [Archimedean Distance] (nears : Nears step Allowed Home distance gain)
    (positive : 0 < gain) (start : State)
    : ∃ steps : Nat, ∀ events state,
        Run step Allowed start events state → steps ≤ events.length → Home state := by
  obtain ⟨bound, far⟩ := Archimedean.arch (distance start) positive
  refine ⟨bound + 1, fun events state run enough => (nears.run run).resolve_right fun left => ?_⟩
  have less : (bound + 1) • gain ≤ distance start := calc
    (bound + 1) • gain ≤ events.length • gain := nsmul_le_nsmul_left positive.le enough
    _ ≤ distance state + events.length • gain := le_add_of_nonneg_left (nears.nonneg state)
    _ ≤ distance start := left
  rw [succ_nsmul] at less
  exact absurd (less.trans far) (not_le.mpr (lt_add_of_pos_right _ positive))

end Arrival

/-- A step that refuses no event has a run of any events, by induction from the last one. -/
theorem run_foldl {State Event : Type} (next : State → Event → State) (start : State)
    (events : List Event)
    : AnyRun (fun state event => some (next state event)) start events
        (events.foldl next start) := by
  induction events using List.reverseRecOn with
  | nil => exact .nil
  | append_singleton events event ih =>
      rw [List.foldl_append]
      exact ih.snoc trivial rfl

end Runs
