import Mathlib.Algebra.Order.Ring.Rat
import Mathlib.Data.Rat.Floor
import Mathlib.Tactic.Linarith
import Mathlib.Tactic.Ring
import SmoOnline.Library.Arrival
import SmoOnline.Library.Shares

/-! `VisualUtils::SmoothMove`, over exact rationals. A puppet goes straight to where its player is,
comes there in finitely many frames, and does so faster than its speed when it is near.
-/

namespace SmoOnline.Mod

open Runs Shares

-----------------------------------------------------------------------------------------
-- Vectors
-----------------------------------------------------------------------------------------

/-- `sead::Vector3f` -/
structure Vector3f where
  x : ℚ
  y : ℚ
  z : ℚ
  deriving DecidableEq

namespace Vector3f

def add (first second : Vector3f) : Vector3f :=
  ⟨first.x + second.x, first.y + second.y, first.z + second.z⟩

def sub (first second : Vector3f) : Vector3f :=
  ⟨first.x - second.x, first.y - second.y, first.z - second.z⟩

def scale (vector : Vector3f) (factor : ℚ) : Vector3f :=
  ⟨vector.x * factor, vector.y * factor, vector.z * factor⟩

def dot (first second : Vector3f) : ℚ :=
  first.x * second.x + first.y * second.y + first.z * second.z

/-- The square of the distance. -/
def distanceSq (position target : Vector3f) : ℚ :=
  (target.sub position).dot (target.sub position)

/-- The point on the way to a target behind a share of the way. -/
def towards (position target : Vector3f) (share : ℚ) : Vector3f :=
  position.add ((target.sub position).scale share)

variable (position target : Vector3f)

theorem distanceSq_nonneg : 0 ≤ position.distanceSq target :=
  add_nonneg (add_nonneg (mul_self_nonneg _) (mul_self_nonneg _)) (mul_self_nonneg _)

theorem distanceSq_eq_zero_iff : position.distanceSq target = 0 ↔ position = target := by
  constructor
  · intro zero
    have x := mul_self_nonneg (target.x - position.x)
    have y := mul_self_nonneg (target.y - position.y)
    have z := mul_self_nonneg (target.z - position.z)
    simp only [distanceSq, dot, sub] at zero
    have same_x := sub_eq_zero.mp (mul_self_eq_zero.mp (le_antisymm (by linarith) x))
    have same_y := sub_eq_zero.mp (mul_self_eq_zero.mp (le_antisymm (by linarith) y))
    have same_z := sub_eq_zero.mp (mul_self_eq_zero.mp (le_antisymm (by linarith) z))
    cases position
    cases target
    exact congr (congr (congrArg mk same_x.symm) same_y.symm) same_z.symm
  · rintro rfl
    simp [distanceSq, dot, sub]

@[simp] theorem towards_one : position.towards target 1 = target := by
  simp [towards, add, sub, scale]

/-- The way taken, and the way left. -/
theorem distanceSq_towards (share : ℚ)
    : position.distanceSq (position.towards target share)
      = share ^ 2 * position.distanceSq target := by
  simp only [distanceSq, towards, add, sub, scale, dot]
  ring

theorem towards_distanceSq (share : ℚ)
    : (position.towards target share).distanceSq target
      = (1 - share) ^ 2 * position.distanceSq target := by
  simp only [distanceSq, towards, add, sub, scale, dot]
  ring

end Vector3f

-----------------------------------------------------------------------------------------
-- One call
-----------------------------------------------------------------------------------------

/-- `Transform`; a rotation that may be a null pointer is an `Option`. -/
structure Transform (Rotation : Type) where
  position : Vector3f
  rotation : Rotation

namespace VisualUtils

/-- `k_MinSmoothSpeed` -/
def kMinSmoothSpeed : ℚ := 1 / 10

/-- `k_TargetCatchupTime` -/
def kTargetCatchupTime : ℚ := 1 / 5

/-- The closing speed in use at a `posDiffMag`. -/
def speedInUse (posDiffMag closingSpeed : ℚ) : ℚ :=
  let diffSpeed := max kMinSmoothSpeed (posDiffMag / kTargetCatchupTime)
  max closingSpeed diffSpeed

/-- `SmoothMove` on the position, and the closing speed that it returns. -/
def movePosition (position target : Vector3f) (timeDelta closingSpeed : ℚ) : Vector3f × ℚ :=
  let posDiff := target.sub position
  let posDiffMag := posDiff.dot posDiff
  if posDiffMag > 0 then
    let closingSpeed := speedInUse posDiffMag closingSpeed
    let maxMove := timeDelta * closingSpeed
    let moveDist := min maxMove posDiffMag
    let posDiff := posDiff.scale (moveDist / posDiffMag)
    (position.add posDiff, if moveDist = posDiffMag then 0 else closingSpeed)
  else (position, 0)

section Rotations

variable {Quatf : Type} (quatAngle : Quatf → Quatf → ℚ) (slerpTo : Quatf → Quatf → ℚ → Quatf)

/-- `SmoothMove` on a rotation. -/
def moveRotation (rotation target : Quatf) (timeDelta maxAngularSpeed : ℚ) : Quatf :=
  let angleDiff := quatAngle target rotation
  if angleDiff > 0 then
    let maxAngleMove := timeDelta * maxAngularSpeed
    let angleMove := min maxAngleMove angleDiff
    slerpTo rotation target (angleMove / angleDiff)
  else rotation

/-- `VisualUtils::SmoothMove`: what it leaves in `moveTransform`, and the closing speed that it
returns. Angles and interpolations of rotations are not rational.
-/
def smoothMove (moveTransform : Transform (Option Quatf)) (targetTransform : Transform Quatf)
    (timeDelta closingSpeed maxAngularSpeed : ℚ)
    : Transform (Option Quatf) × ℚ :=
  let (position, closingSpeed) :=
    movePosition moveTransform.position targetTransform.position timeDelta closingSpeed
  let rotation := moveTransform.rotation.map fun rotation =>
    moveRotation quatAngle slerpTo rotation targetTransform.rotation timeDelta maxAngularSpeed
  (⟨position, rotation⟩, closingSpeed)

end Rotations

theorem speedInUse_ge (posDiffMag closingSpeed : ℚ)
    : kMinSmoothSpeed ≤ speedInUse posDiffMag closingSpeed :=
  (le_max_left _ _).trans (le_max_right _ _)

theorem kMinSmoothSpeed_pos : 0 < kMinSmoothSpeed := by
  norm_num [kMinSmoothSpeed]

theorem speedInUse_pos (posDiffMag closingSpeed : ℚ) : 0 < speedInUse posDiffMag closingSpeed :=
  kMinSmoothSpeed_pos.trans_le (speedInUse_ge _ _)

/-- A call takes the position a share of the way, and it returns zero if that is all of it. -/
structure Moves (position target : Vector3f) (timeDelta closingSpeed share : ℚ) : Prop where
  nonneg : 0 ≤ share
  le_one : share ≤ 1
  arrived : position = target → share = 1
  way
    : share * position.distanceSq target
      = min (timeDelta * speedInUse (position.distanceSq target) closingSpeed)
          (position.distanceSq target)
  moved
    : movePosition position target timeDelta closingSpeed
      = (position.towards target share,
          if share = 1 then 0 else speedInUse (position.distanceSq target) closingSpeed)

/-- The spec of the position part. -/
theorem exists_moves (position target : Vector3f) {timeDelta closingSpeed : ℚ}
    (time_nonneg : 0 ≤ timeDelta)
    : ∃ share, Moves position target timeDelta closingSpeed share := by
  have move_nonneg := mul_nonneg time_nonneg
    (speedInUse_pos (position.distanceSq target) closingSpeed).le
  obtain zero | positive := (position.distanceSq_nonneg target).eq_or_lt
  · have same := (position.distanceSq_eq_zero_iff target).mp zero.symm
    refine ⟨1, zero_le_one, le_refl 1, fun _ => rfl, ?_, ?_⟩
    · rw [← zero, mul_zero, min_eq_right]
      rwa [← zero] at move_nonneg
    · rw [movePosition, if_neg, position.towards_one, if_pos rfl, same]
      exact zero.symm.not_gt
  · refine ⟨min (timeDelta * speedInUse (position.distanceSq target) closingSpeed)
      (position.distanceSq target) / position.distanceSq target, ?_, ?_, ?_, ?_, ?_⟩
    · exact div_nonneg (le_min move_nonneg positive.le) positive.le
    · exact div_le_one_of_le₀ (min_le_right _ _) positive.le
    · intro same
      exact absurd ((position.distanceSq_eq_zero_iff target).mpr same) positive.ne'
    · exact div_mul_cancel₀ _ positive.ne'
    · simp only [div_eq_one_iff_eq positive.ne']
      exact if_pos positive

section Calls

variable {position target : Vector3f} {timeDelta closingSpeed share : ℚ}

/-- The position comes to the target by all of the way only. -/
theorem Moves.towards_eq_iff (moves : Moves position target timeDelta closingSpeed share)
    : position.towards target share = target ↔ share = 1 := by
  constructor
  · intro there
    have left := (Vector3f.distanceSq_eq_zero_iff _ _).mpr there
    rw [Vector3f.towards_distanceSq, mul_eq_zero, Vector3f.distanceSq_eq_zero_iff] at left
    obtain none_left | same := left
    · exact (sub_eq_zero.mp (pow_eq_zero_iff two_ne_zero |>.mp none_left)).symm
    · exact moves.arrived same
  · rintro rfl
    exact position.towards_one target

/-- The closing speed returned is zero at the target only. -/
theorem Moves.speed_eq_zero_iff (moves : Moves position target timeDelta closingSpeed share)
    : (movePosition position target timeDelta closingSpeed).2 = 0
      ↔ (movePosition position target timeDelta closingSpeed).1 = target := by
  rw [moves.moved, moves.towards_eq_iff]
  exact ite_eq_left_iff.trans
    ⟨fun speed => by_contra fun way => (speedInUse_pos _ _).ne' (speed way),
      fun whole way => absurd whole way⟩

/-- A call that does not arrive makes the square of the distance less by the product of the time and
the speed.
-/
theorem Moves.distanceSq_add_le (moves : Moves position target timeDelta closingSpeed share)
    (way_left : share ≠ 1)
    : (position.towards target share).distanceSq target
        + timeDelta * speedInUse (position.distanceSq target) closingSpeed
      ≤ position.distanceSq target := by
  have apart : position ≠ target := fun same => way_left (moves.arrived same)
  have positive : 0 < position.distanceSq target :=
    (position.distanceSq_nonneg target).lt_of_ne' fun zero =>
      apart ((position.distanceSq_eq_zero_iff target).mp zero)
  have not_capped : share * position.distanceSq target ≠ position.distanceSq target :=
    fun capped => way_left ((mul_eq_right₀ positive.ne').mp capped)
  have way : share * position.distanceSq target
      = timeDelta * speedInUse (position.distanceSq target) closingSpeed := by
    obtain least | least := min_choice
      (timeDelta * speedInUse (position.distanceSq target) closingSpeed)
      (position.distanceSq target)
    · exact moves.way.trans least
    · exact absurd (moves.way.trans least) not_capped
  have square : (1 - share) ^ 2 ≤ 1 - share := by
    rw [pow_two]
    exact mul_le_of_le_one_left (sub_nonneg.mpr moves.le_one) (sub_le_self _ moves.nonneg)
  rw [Vector3f.towards_distanceSq, ← way]
  have less := mul_le_mul_of_nonneg_right square positive.le
  linarith

end Calls

-----------------------------------------------------------------------------------------
-- Frames
-----------------------------------------------------------------------------------------

section Frames

variable {Quatf : Type} (quatAngle : Quatf → Quatf → ℚ) (slerpTo : Quatf → Quatf → ℚ → Quatf)

/-- A puppet and its closing speed. -/
structure Follower (Quatf : Type) where
  transform : Transform (Option Quatf)
  closingSpeed : ℚ

/-- The other arguments of a call. -/
structure SmoothFrame where
  timeDelta : ℚ
  maxAngularSpeed : ℚ

/-- A call for a target; the speed that it returns is fed back. -/
def follow (target : Transform Quatf) (follower : Follower Quatf) (frame : SmoothFrame)
    : Follower Quatf :=
  let moved := smoothMove quatAngle slerpTo follower.transform target frame.timeDelta
    follower.closingSpeed frame.maxAngularSpeed
  ⟨moved.1, moved.2⟩

variable (target : Transform Quatf)

/-- What a call does to the position of the puppet. -/
theorem follow_moves {follower : Follower Quatf} {frame : SmoothFrame}
    (time_nonneg : 0 ≤ frame.timeDelta)
    : ∃ share,
        Moves follower.transform.position target.position frame.timeDelta follower.closingSpeed
          share
        ∧ (follow quatAngle slerpTo target follower frame).transform.position
          = follower.transform.position.towards target.position share := by
  obtain ⟨share, moves⟩ := @exists_moves follower.transform.position target.position
    frame.timeDelta follower.closingSpeed time_nonneg
  exact ⟨share, moves, congrArg Prod.fst moves.moved⟩

/-- What is left of the way to a fixed target gets less with every frame of some length. -/
theorem follow_nears {least : ℚ} (positive : 0 < least)
    : Nears (fun follower frame => some (follow quatAngle slerpTo target follower frame))
        (fun _ frame => least ≤ frame.timeDelta)
        (fun follower => follower.transform.position = target.position)
        (fun follower => follower.transform.position.distanceSq target.position)
        (least * kMinSmoothSpeed) where
  nonneg follower := Vector3f.distanceSq_nonneg _ _
  nearer := by
    intro follower frame next long taken
    obtain rfl := Option.some.inj taken
    have time_nonneg := positive.le.trans long
    obtain ⟨share, moves, place⟩ := @follow_moves _ quatAngle slerpTo target follower frame
      time_nonneg
    rw [place]
    by_cases whole : share = 1
    · exact .inl (moves.towards_eq_iff.mpr whole)
    · have gain : least * kMinSmoothSpeed
          ≤ frame.timeDelta * speedInUse
              (follower.transform.position.distanceSq target.position) follower.closingSpeed :=
        mul_le_mul long (speedInUse_ge _ _) kMinSmoothSpeed_pos.le time_nonneg
      exact .inr ((add_le_add_right gain _).trans (moves.distanceSq_add_le whole))
  stays := by
    intro follower frame next there long taken
    obtain rfl := Option.some.inj taken
    obtain ⟨share, moves, place⟩ := @follow_moves _ quatAngle slerpTo target follower frame
      (positive.le.trans long)
    exact place.trans (moves.towards_eq_iff.mpr (moves.arrived there))

/-- A puppet goes to a target straight, without passing it, and with a closing speed that is zero
where it arrives; frames of some length, however short, bring it there in the end.
-/
theorem smoothMove_arrives
    : (∀ (moveTransform : Transform (Option Quatf)) (timeDelta closingSpeed maxAngularSpeed : ℚ),
        0 ≤ timeDelta
        → let moved := smoothMove quatAngle slerpTo moveTransform target timeDelta closingSpeed
            maxAngularSpeed
          (∃ share,
            0 ≤ share ∧ share ≤ 1
            ∧ moved.1.position = moveTransform.position.towards target.position share)
          ∧ (moved.2 = 0 ↔ moved.1.position = target.position))
      ∧ ∀ least : ℚ,
        0 < least
        → ∀ start : Follower Quatf,
          ∃ calls : Nat, ∀ frames : List SmoothFrame,
            (∀ frame ∈ frames, least ≤ frame.timeDelta)
            → calls ≤ frames.length
            → (frames.foldl (follow quatAngle slerpTo target) start).transform.position
              = target.position := by
  constructor
  · intro moveTransform timeDelta closingSpeed maxAngularSpeed time_nonneg
    obtain ⟨share, moves⟩ := @exists_moves moveTransform.position target.position timeDelta
      closingSpeed time_nonneg
    exact ⟨⟨share, moves.nonneg, moves.le_one, congrArg Prod.fst moves.moved⟩,
      moves.speed_eq_zero_iff⟩
  · intro least positive start
    obtain ⟨calls, arrives⟩ := (follow_nears quatAngle slerpTo target positive).comes_home
      (mul_pos positive kMinSmoothSpeed_pos) start
    refine ⟨calls, fun frames long enough => arrives frames _ ?_ enough⟩
    exact (run_foldl (follow quatAngle slerpTo target) start frames).of_events long

/-- A player a tenth from a puppet, which looks where he does. -/
theorem smoothMove_arrives_tenth
    : let player : Transform (ℚ × ℚ × ℚ × ℚ) := ⟨⟨1 / 10, 0, 0⟩, (0, 0, 0, 1)⟩
      let puppet : Follower (ℚ × ℚ × ℚ × ℚ) := ⟨⟨⟨0, 0, 0⟩, some (0, 0, 0, 1)⟩, 0⟩
      let moved := smoothMove (fun _ _ => 0) (fun rotation _ _ => rotation) puppet.transform
        player (1 / 60) 0 1440
      (moved.2 = 0 ↔ moved.1.position = ⟨1 / 10, 0, 0⟩)
      ∧ ∃ calls : Nat,
        ((List.replicate calls ⟨1 / 60, 1440⟩).foldl
          (follow (fun _ _ => 0) (fun rotation _ _ => rotation) player) puppet).transform.position
          = ⟨1 / 10, 0, 0⟩ := by
  intro player puppet moved
  obtain ⟨call, arrives⟩ := smoothMove_arrives (fun _ _ => 0) (fun rotation _ _ => rotation) player
  refine ⟨(call puppet.transform (1 / 60) 0 1440 (by norm_num)).2, ?_⟩
  obtain ⟨calls, run⟩ := arrives (1 / 60) (by norm_num) puppet
  refine ⟨calls, run _ ?_ List.length_replicate.ge⟩
  intro frame member
  rw [List.eq_of_mem_replicate member]

end Frames

-----------------------------------------------------------------------------------------
-- Speed
-----------------------------------------------------------------------------------------

section Keeping

variable {Quatf : Type} (quatAngle : Quatf → Quatf → ℚ) (slerpTo : Quatf → Quatf → ℚ → Quatf)
  (moveTransform : Transform (Option Quatf)) (targetTransform : Transform Quatf)
  (timeDelta closingSpeed maxAngularSpeed : ℚ)

/-- The square of the speed that a call is to use: the largest of its closing speed, the least one,
and the one that takes the distance in the catch-up time.
-/
def rightSpeedSq (position target : Vector3f) (closingSpeed : ℚ) : ℚ :=
  max (max (closingSpeed ^ 2) (kMinSmoothSpeed ^ 2))
    (position.distanceSq target / kTargetCatchupTime ^ 2)

/-- A call moves the position no further than that speed takes it, in squares. -/
def KeepsSpeed : Prop :=
  moveTransform.position.distanceSq
      (smoothMove quatAngle slerpTo moveTransform targetTransform timeDelta closingSpeed
        maxAngularSpeed).1.position
    ≤ timeDelta ^ 2 * rightSpeedSq moveTransform.position targetTransform.position closingSpeed

/-- The speed is kept where the distance is none or one at least, where no time passes or as much
as a catch-up takes, where the square of the distance over the catch-up time is not below the speed,
and where the speed takes the position all of the way in the frame.
-/
theorem keepsSpeed_iff (time_nonneg : 0 ≤ timeDelta) (speed_nonneg : 0 ≤ closingSpeed)
    : KeepsSpeed quatAngle slerpTo moveTransform targetTransform timeDelta closingSpeed
        maxAngularSpeed
      ↔ let apart := moveTransform.position.distanceSq targetTransform.position
        let speed := max closingSpeed kMinSmoothSpeed
        apart = 0 ∨ timeDelta = 0 ∨ 1 ≤ apart ∨ speed ≤ apart / kTargetCatchupTime
        ∨ kTargetCatchupTime ≤ timeDelta ∨ apart ≤ (timeDelta * speed) ^ 2 := by
  have catchup_pos : 0 < kTargetCatchupTime := by norm_num [kTargetCatchupTime]
  have speed_pos : 0 < max closingSpeed kMinSmoothSpeed :=
    kMinSmoothSpeed_pos.trans_le (le_max_right _ _)
  have apart_nonneg := moveTransform.position.distanceSq_nonneg targetTransform.position
  obtain ⟨share, moves⟩ := @exists_moves moveTransform.position targetTransform.position timeDelta
    closingSpeed time_nonneg
  have place : (smoothMove quatAngle slerpTo moveTransform targetTransform timeDelta closingSpeed
      maxAngularSpeed).1.position
      = moveTransform.position.towards targetTransform.position share :=
    congrArg Prod.fst moves.moved
  have way := moves.way
  rw [speedInUse, ← max_assoc] at way
  rw [KeepsSpeed, place, Vector3f.distanceSq_towards, rightSpeedSq,
    ← sq_max speed_nonneg kMinSmoothSpeed_pos.le]
  dsimp only
  constructor
  · contrapose!
    rintro ⟨apart, moving, near, smaller, short, left⟩
    have apart_pos := apart_nonneg.lt_of_ne' apart
    rw [max_eq_left smaller.le] at way
    exact max_lt_share_sq apart_pos (time_nonneg.lt_of_ne' moving) near speed_pos catchup_pos
      smaller short left way
  · exact share_sq_le_max moves.nonneg moves.le_one apart_nonneg catchup_pos
      (way.trans_le (min_le_left _ _))

end Keeping

/-- A player two away from a puppet, which looks where he does. -/
theorem keepsSpeed_two
    : KeepsSpeed (fun _ _ => 0) (fun rotation _ _ => rotation)
        ⟨⟨0, 0, 0⟩, some ((0, 0, 0, 1) : ℚ × ℚ × ℚ × ℚ)⟩ ⟨⟨2, 0, 0⟩, (0, 0, 0, 1)⟩ (1 / 60) 0
        1440 := by
  refine (keepsSpeed_iff _ _ _ _ _ _ 1440 (by norm_num) (le_refl 0)).mpr ?_
  refine .inr (.inr (.inl ?_))
  norm_num [Vector3f.distanceSq, Vector3f.sub, Vector3f.dot]

/-- A player a tenth away: the puppet moves a sixtieth in a frame of that length, at twice the speed
that takes it there in the catch-up time.
-/
theorem not_keepsSpeed_tenth
    : ¬KeepsSpeed (fun _ _ => 0) (fun rotation _ _ => rotation)
        ⟨⟨0, 0, 0⟩, some ((0, 0, 0, 1) : ℚ × ℚ × ℚ × ℚ)⟩ ⟨⟨1 / 10, 0, 0⟩, (0, 0, 0, 1)⟩ (1 / 60) 0
        1440 := by
  norm_num [KeepsSpeed, smoothMove, movePosition, speedInUse, rightSpeedSq, kMinSmoothSpeed,
    kTargetCatchupTime, Vector3f.distanceSq, Vector3f.sub, Vector3f.add, Vector3f.scale,
    Vector3f.dot]

end VisualUtils

end SmoOnline.Mod
