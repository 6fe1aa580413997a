import Mathlib.Algebra.Order.Field.Basic
import Mathlib.Tactic.Ring

/-! Shares of a way in some time, where all that is known of the way is its square `apart`. A share
of it that is taken as if that were its length keeps to a speed, or to the one that takes all of the
way in a catch-up time, under conditions on the two.
-/

namespace Shares

variable {Number : Type} [Field Number] [LinearOrder Number] [IsStrictOrderedRing Number]

/-- The square of the larger one is the larger square. -/
theorem sq_max {first second : Number} (first_nonneg : 0 ≤ first) (second_nonneg : 0 ≤ second)
    : max first second ^ 2 = max (first ^ 2) (second ^ 2) := by
  obtain less | less := le_total first second
  · rw [max_eq_right less, max_eq_right (pow_le_pow_left₀ first_nonneg less 2)]
  · rw [max_eq_left less, max_eq_left (pow_le_pow_left₀ second_nonneg less 2)]

variable {share apart time speed catchup : Number}

/-- A share of the way that is in proportion to the time keeps to the speed for the catch-up. -/
theorem share_sq_le (nonneg : 0 ≤ share) (apart_nonneg : 0 ≤ apart)
    (proportion : share ≤ time / catchup)
    : share ^ 2 * apart ≤ time ^ 2 * (apart / catchup ^ 2) := calc
  share ^ 2 * apart ≤ (time / catchup) ^ 2 * apart :=
    mul_le_mul_of_nonneg_right (pow_le_pow_left₀ nonneg proportion 2) apart_nonneg
  _ = time ^ 2 * (apart / catchup ^ 2) := by rw [div_pow]; ring

/-- Where a share keeps to one of the speeds. -/
theorem share_sq_le_max (nonneg : 0 ≤ share) (le_one : share ≤ 1) (apart_nonneg : 0 ≤ apart)
    (catchup_pos : 0 < catchup) (way : share * apart ≤ time * max speed (apart / catchup))
    (keeps
      : apart = 0 ∨ time = 0 ∨ 1 ≤ apart ∨ speed ≤ apart / catchup ∨ catchup ≤ time
        ∨ apart ≤ (time * speed) ^ 2)
    : share ^ 2 * apart ≤ time ^ 2 * max (speed ^ 2) (apart / catchup ^ 2) := by
  have by_speed (bound : share ^ 2 * apart ≤ (time * speed) ^ 2)
      : share ^ 2 * apart ≤ time ^ 2 * max (speed ^ 2) (apart / catchup ^ 2) := by
    rw [mul_pow] at bound
    exact bound.trans (mul_le_mul_of_nonneg_left (le_max_left _ _) (sq_nonneg time))
  have by_catchup (proportion : share ≤ time / catchup)
      : share ^ 2 * apart ≤ time ^ 2 * max (speed ^ 2) (apart / catchup ^ 2) :=
    (share_sq_le nonneg apart_nonneg proportion).trans
      (mul_le_mul_of_nonneg_left (le_max_right _ _) (sq_nonneg time))
  obtain zero | positive := apart_nonneg.eq_or_lt
  · apply by_speed
    rw [← zero, mul_zero]
    exact sq_nonneg _
  have of_larger (larger : speed ≤ apart / catchup) : share ≤ time / catchup := by
    rw [max_eq_right larger, ← mul_div_assoc, mul_div_right_comm] at way
    exact le_of_mul_le_mul_right way positive
  obtain zero | still | far | larger | long | reached := keeps
  · exact absurd zero positive.ne'
  · rw [still, zero_mul] at way
    refine by_catchup ?_
    rw [still, zero_div]
    exact nonpos_of_mul_nonpos_left way positive
  · obtain larger | smaller := le_total speed (apart / catchup)
    · exact by_catchup (of_larger larger)
    · rw [max_eq_left smaller] at way
      apply by_speed
      calc share ^ 2 * apart ≤ share ^ 2 * apart * apart :=
            le_mul_of_one_le_right (mul_nonneg (sq_nonneg share) apart_nonneg) far
        _ = (share * apart) ^ 2 := by ring
        _ ≤ (time * speed) ^ 2 := pow_le_pow_left₀ (mul_nonneg nonneg apart_nonneg) way 2
  · exact by_catchup (of_larger larger)
  · exact by_catchup (le_one.trans ((one_le_div catchup_pos).mpr long))
  · apply by_speed
    exact (mul_le_of_le_one_left apart_nonneg (pow_le_one₀ nonneg le_one)).trans reached

/-- Elsewhere it is above both. -/
theorem max_lt_share_sq (apart_pos : 0 < apart) (time_pos : 0 < time) (near : apart < 1)
    (speed_pos : 0 < speed) (catchup_pos : 0 < catchup) (smaller : apart / catchup < speed)
    (short : time < catchup) (left : (time * speed) ^ 2 < apart)
    (way : share * apart = min (time * speed) apart)
    : time ^ 2 * max (speed ^ 2) (apart / catchup ^ 2) < share ^ 2 * apart := by
  have share_pos : 0 < share := by
    have moved : 0 < share * apart := way ▸ lt_min (mul_pos time_pos speed_pos) apart_pos
    exact pos_of_mul_pos_left moved apart_pos.le
  have above_speed : time ^ 2 * speed ^ 2 < share ^ 2 * apart := by
    obtain least | least := min_choice (time * speed) apart
    · calc time ^ 2 * speed ^ 2 = share ^ 2 * apart * apart := by
            rw [← mul_pow, ← way.trans least]
            ring
        _ < share ^ 2 * apart :=
            mul_lt_of_lt_one_right (mul_pos (pow_pos share_pos 2) apart_pos) near
    · have whole : share = 1 := (mul_eq_right₀ apart_pos.ne').mp (way.trans least)
      rwa [whole, one_pow, one_mul, ← mul_pow]
  have above_catchup : time ^ 2 * (apart / catchup ^ 2) < share ^ 2 * apart := by
    have proportion : time / catchup < share := by
      refine lt_of_mul_lt_mul_right ?_ apart_pos.le
      rw [way]
      refine lt_min ?_ (mul_lt_of_lt_one_left apart_pos ((div_lt_one catchup_pos).mpr short))
      rw [div_mul_eq_mul_div, mul_div_assoc]
      exact mul_lt_mul_of_pos_left smaller time_pos
    calc time ^ 2 * (apart / catchup ^ 2) = (time / catchup) ^ 2 * apart := by rw [div_pow]; ring
      _ < share ^ 2 * apart :=
          mul_lt_mul_of_pos_right
            (pow_lt_pow_left₀ proportion (div_pos time_pos catchup_pos).le two_ne_zero) apart_pos
  obtain larger | larger := max_choice (speed ^ 2) (apart / catchup ^ 2)
  · rwa [larger]
  · rwa [larger]

end Shares
