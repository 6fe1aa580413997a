import Mathlib.Algebra.Order.Ring.Rat
import Mathlib.Tactic.Linarith
import SmoOnline.Library.Runs
import SmoOnline.Mod.HideAndSeek

/-! The game-mode timer over whole runs of `updateTimer`. A timer stays in range, and one that
counts down stops at zero, unless a second is taken off `0:00:00` or a second is added to the
last time that the hours can hold. One that counts up neither loses nor gains time.
-/

namespace SmoOnline.Mod

open Runs

-----------------------------------------------------------------------------------------
-- What a time shows
-----------------------------------------------------------------------------------------

namespace GameTime

variable {F : Type} (time : GameTime F)

/-- The three fields as a clock shows them. -/
structure InRange : Prop where
  seconds_nonneg : 0 ≤ time.mSeconds
  seconds_lt : time.mSeconds < 60
  minutes_nonneg : 0 ≤ time.mMinutes
  minutes_lt : time.mMinutes < 60
  hours_nonneg : 0 ≤ time.mHours

/-- `0:00:00` -/
def ShowsZero : Prop :=
  time.mSeconds = 0 ∧ time.mMinutes = 0 ∧ time.mHours = 0

/-- The last second that the hours can hold. -/
def ShowsLast : Prop :=
  time.mSeconds = 59 ∧ time.mMinutes = 59 ∧ time.mHours = Int32.maxValue

instance : Decidable time.ShowsZero := by unfold ShowsZero; infer_instance

instance : Decidable time.ShowsLast := by unfold ShowsLast; infer_instance

variable {time}

/-- Range and zero are about the three fields, whatever the fraction. -/
theorem inRange_mMilliseconds (fraction : F)
    : InRange { time with mMilliseconds := fraction } ↔ time.InRange :=
  ⟨fun inRange => ⟨inRange.1, inRange.2, inRange.3, inRange.4, inRange.5⟩,
    fun inRange => ⟨inRange.1, inRange.2, inRange.3, inRange.4, inRange.5⟩⟩

/-- A second more leaves the range at the last time only. -/
theorem inRange_secondMore_iff (inRange : time.InRange)
    : time.secondMore.InRange ↔ ¬time.ShowsLast := by
  obtain ⟨seconds_nonneg, seconds_lt, minutes_nonneg, minutes_lt, hours_nonneg⟩ := inRange
  unfold secondMore ShowsLast
  split_ifs with more carries
  · refine ⟨fun _ => by grind, fun _ => ?_⟩
    constructor <;> grind
  · refine ⟨fun _ => by grind, fun _ => ?_⟩
    constructor <;> grind
  · have full : time.mSeconds = 59 ∧ time.mMinutes = 59 := by grind
    constructor
    · rintro ⟨-, -, -, -, more_hours⟩ ⟨-, -, last⟩
      have negative : ¬(0 : Int32) ≤ Int32.maxValue + 1 := by decide
      exact negative (last ▸ more_hours)
    · intro notLast
      have hours : time.mHours ≠ 2147483647 := fun last => notLast ⟨full.1, full.2, last⟩
      constructor <;> grind

/-- A second less is what the fields do not have at zero only. -/
theorem secondLess_snd (inRange : time.InRange) : time.secondLess.2 = decide time.ShowsZero := by
  obtain ⟨seconds_nonneg, seconds_lt, minutes_nonneg, minutes_lt, hours_nonneg⟩ := inRange
  unfold secondLess ShowsZero
  grind

theorem inRange_secondLess (inRange : time.InRange) (notZero : ¬time.ShowsZero)
    : time.secondLess.1.InRange := by
  obtain ⟨seconds_nonneg, seconds_lt, minutes_nonneg, minutes_lt, hours_nonneg⟩ := inRange
  unfold ShowsZero at notZero
  unfold secondLess
  dsimp only
  split_ifs with less borrows hours
  · constructor <;> grind
  · constructor <;> grind
  · constructor <;> grind
  · exact absurd (by grind) notZero

/-- A second less than zero shows minutes below zero. -/
theorem not_inRange_secondLess (showsZero : time.ShowsZero) : ¬time.secondLess.1.InRange := by
  obtain ⟨seconds, minutes, hours⟩ := showsZero
  rintro ⟨-, -, minutes_nonneg, -, -⟩
  simp [secondLess, seconds, minutes, hours] at minutes_nonneg

end GameTime

-----------------------------------------------------------------------------------------
-- What an update does
-----------------------------------------------------------------------------------------

/-- One call of `updateTimer`: the buttons, and a frame time below a second. -/
structure TimerTick where
  pad : Pad := {}
  deltaTime : ℚ
  nonneg : 0 ≤ deltaTime
  lt_one : deltaTime < 1

namespace GameModeTimer

open GameTime (InRange ShowsZero ShowsLast)

/-- A timer takes any update. -/
def step (timer : GameModeTimer ℚ) (tick : TimerTick) : Option (GameModeTimer ℚ) :=
  some (timer.updateTimer tick.pad tick.deltaTime)

section Conditions

variable (timer : GameModeTimer ℚ) (tick : TimerTick)

/-- The fields in range, and a fraction of a second beside them. -/
structure NormalForm : Prop where
  inRange : timer.mTime.InRange
  fraction_nonneg : 0 ≤ timer.mTime.mMilliseconds
  fraction_lt : timer.mTime.mMilliseconds < 1

/-- The buttons edit the time, which takes the fraction back to zero. -/
def Edits (pad : Pad) : Prop :=
  timer.mIsUseControl
    ∧ (if pad.holdL then pad.triggerDown else pad.holdRight || pad.triggerLeft) = true

/-- The fraction comes to a whole second. -/
def Ticks : Prop :=
  timer.mIsEnabled ∧ ¬timer.Edits tick.pad ∧ 1 ≤ timer.mTime.mMilliseconds + tick.deltaTime

/-- A second is taken off a timer that shows zero. -/
def RunsOut : Prop :=
  timer.mIsCountUp = false ∧ timer.Ticks tick ∧ timer.mTime.ShowsZero

/-- A second is added to the last time, by a button or by the clock. -/
def Overflows : Prop :=
  timer.mTime.ShowsLast
    ∧ ((timer.mIsUseControl ∧ tick.pad.holdL = false ∧ tick.pad.holdRight)
      ∨ (timer.mIsCountUp ∧ timer.Ticks tick))

/-- Neither of both. -/
def Counts : Prop :=
  ¬timer.RunsOut tick ∧ ¬timer.Overflows tick

end Conditions

-----------------------------------------------------------------------------------------
-- The buttons
-----------------------------------------------------------------------------------------

variable {timer : GameModeTimer ℚ} {tick : TimerTick} {time : GameTime ℚ} {pad : Pad}

/-- The time that `updateTimer` goes on from. -/
def edited (timer : GameModeTimer ℚ) (pad : Pad) : GameTime ℚ :=
  if timer.mIsUseControl then controlled pad timer.mTime else timer.mTime

theorem edited_of_not_edits (not_edits : ¬timer.Edits pad) : timer.edited pad = timer.mTime := by
  unfold edited
  split_ifs with control
  · cases held : pad.holdL <;> simp_all [Edits, controlled]
  · rfl

/-- What the button to the right does to a time. -/
def moreHeld (pad : Pad) (time : GameTime ℚ) : GameTime ℚ :=
  if pad.holdRight then { time.secondMore with mMilliseconds := 0 } else time

/-- What the button to the left does to a time. -/
def lessPressed (pad : Pad) (time : GameTime ℚ) : GameTime ℚ :=
  if pad.triggerLeft then
    let whole := { time with mMilliseconds := 0 }
    if whole.mMinutes ≠ 0 then
      if whole.secondLess.2 then { whole.secondLess.1 with mMinutes := 0 } else whole.secondLess.1
    else whole
  else time

theorem controlled_of_not_held (not_held : pad.holdL = false) (time : GameTime ℚ)
    : controlled pad time = lessPressed pad (moreHeld pad time) := by
  simp [controlled, not_held, lessPressed, moreHeld]

theorem secondLess_mMilliseconds (time : GameTime ℚ)
    : time.secondLess.1.mMilliseconds = time.mMilliseconds := by
  unfold GameTime.secondLess
  dsimp only
  split_ifs <;> rfl

theorem edited_fraction (edits : timer.Edits pad) : (timer.edited pad).mMilliseconds = 0 := by
  obtain ⟨control, buttons⟩ := edits
  rw [edited, if_pos control]
  cases held : pad.holdL with
  | true =>
      have cleared : pad.triggerDown = true := by simpa [held] using buttons
      simp [controlled, held, cleared]
  | false =>
      rw [controlled_of_not_held held]
      unfold lessPressed
      dsimp only
      split_ifs with left minutes nothing
      · exact secondLess_mMilliseconds _
      · exact secondLess_mMilliseconds _
      · rfl
      · have right : pad.holdRight = true := by simpa [held, left] using buttons
        simp [moreHeld, right]

/-- The button to the left asks for minutes first, so it never takes the last second. -/
theorem inRange_lessPressed (inRange : time.InRange) : (lessPressed pad time).InRange := by
  have whole : InRange { time with mMilliseconds := (0 : ℚ) } :=
    (GameTime.inRange_mMilliseconds 0).mpr inRange
  have some_left (minutes : time.mMinutes ≠ 0)
      : ¬ShowsZero { time with mMilliseconds := (0 : ℚ) } :=
    fun zero => minutes zero.2.1
  unfold lessPressed
  dsimp only
  split_ifs with left minutes nothing
  · rw [GameTime.secondLess_snd whole] at nothing
    exact absurd (of_decide_eq_true nothing) (some_left minutes)
  · exact GameTime.inRange_secondLess whole (some_left minutes)
  · exact whole
  · exact inRange

/-- The button to the right takes the last time out of range, and no other. -/
theorem inRange_moreHeld_iff (inRange : time.InRange)
    : (moreHeld pad time).InRange ↔ ¬(time.ShowsLast ∧ pad.holdRight) := by
  unfold moreHeld
  split_ifs with right
  · rw [GameTime.inRange_mMilliseconds, GameTime.inRange_secondMore_iff inRange]
    simp [right]
  · simp [right, inRange]

/-- The button to the left does not bring a time back into range whose hours are below zero. -/
theorem inRange_lessPressed_moreHeld_iff (inRange : time.InRange)
    : (lessPressed pad (moreHeld pad time)).InRange ↔ (moreHeld pad time).InRange := by
  refine ⟨fun less => ?_, inRange_lessPressed⟩
  by_contra out
  obtain ⟨⟨seconds, minutes, hours⟩, right⟩ :=
    not_not.mp (mt (inRange_moreHeld_iff inRange).mpr out)
  have negative : ¬(0 : Int32) ≤ Int32.maxValue + 1 := by decide
  apply negative
  simpa [lessPressed, moreHeld, right, GameTime.secondMore, seconds, minutes, hours]
    using less.hours_nonneg

/-- The buttons take nothing out of range but a second that they add to the last time. -/
theorem inRange_edited_iff (inRange : timer.mTime.InRange)
    : (timer.edited pad).InRange
      ↔ ¬(timer.mTime.ShowsLast ∧ timer.mIsUseControl ∧ pad.holdL = false ∧ pad.holdRight) := by
  unfold edited
  split_ifs with control
  · cases held : pad.holdL with
    | true =>
        have kept : (controlled pad timer.mTime).InRange := by
          unfold controlled
          rw [if_pos held]
          split_ifs
          · exact ⟨by decide, by decide, by decide, by decide, by decide⟩
          · exact inRange
        simp [kept]
    | false =>
        rw [controlled_of_not_held held, inRange_lessPressed_moreHeld_iff inRange,
          inRange_moreHeld_iff inRange]
        simp [control]
  · simp [control, inRange]

-----------------------------------------------------------------------------------------
-- One update
-----------------------------------------------------------------------------------------

/-- `updateTimer` on the time that the buttons leave. -/
theorem updateTimer_edited (timer : GameModeTimer ℚ) (pad : Pad) (deltaTime : ℚ)
    : timer.updateTimer pad deltaTime
      = if timer.mIsEnabled then
          if timer.mIsCountUp then
            { timer with mTime := countUp deltaTime (timer.edited pad) }
          else { timer with mTime := timer.edited pad }.countDown deltaTime
        else { timer with mTime := timer.edited pad } := by
  obtain ⟨_, _, control, _⟩ := timer
  cases control <;> rfl

/-- Without a second the fields are those that the buttons leave. -/
theorem updateTimer_of_not_ticks (normal : timer.NormalForm) (not_ticks : ¬timer.Ticks tick)
    : ∃ fraction,
        0 ≤ fraction ∧ fraction < 1
        ∧ timer.updateTimer tick.pad tick.deltaTime
          = { timer with mTime := { timer.edited tick.pad with mMilliseconds := fraction } } := by
  have bounds : 0 ≤ (timer.edited tick.pad).mMilliseconds
      ∧ (timer.edited tick.pad).mMilliseconds < 1
      ∧ (timer.mIsEnabled → (timer.edited tick.pad).mMilliseconds + tick.deltaTime < 1) := by
    by_cases edits : timer.Edits tick.pad
    · have lt_one := tick.lt_one
      rw [edited_fraction edits]
      exact ⟨le_refl 0, zero_lt_one, fun _ => by linarith⟩
    · rw [edited_of_not_edits edits]
      refine ⟨normal.fraction_nonneg, normal.fraction_lt, fun enabled => ?_⟩
      exact not_le.mp fun whole => not_ticks ⟨enabled, edits, whole⟩
  obtain ⟨nonneg, lt_one, stays⟩ := bounds
  rw [updateTimer_edited]
  split_ifs with enabled up
  · have below := not_le.mpr (stays enabled)
    exact ⟨_, add_nonneg nonneg tick.nonneg, stays enabled, by rw [countUp, if_neg below]⟩
  · have below := not_le.mpr (stays enabled)
    exact ⟨_, add_nonneg nonneg tick.nonneg, stays enabled, by simp [countDown, below]⟩
  · exact ⟨_, nonneg, lt_one, rfl⟩

/-- A second comes when the buttons leave the time alone. -/
theorem updateTimer_of_ticks (ticks : timer.Ticks tick)
    : timer.updateTimer tick.pad tick.deltaTime
      = if timer.mIsCountUp then
          { timer with
            mTime :=
              { timer.mTime.secondMore with
                mMilliseconds := timer.mTime.mMilliseconds + tick.deltaTime - 1 } }
        else
          { timer with
            mTime :=
              { timer.mTime.secondLess.1 with
                mMilliseconds := timer.mTime.mMilliseconds + tick.deltaTime - 1 }
            mIsEnabled := !timer.mTime.secondLess.2 } := by
  obtain ⟨enabled, not_edits, whole⟩ := ticks
  rw [updateTimer_edited, edited_of_not_edits not_edits, if_pos enabled]
  split_ifs with up
  · rw [countUp, if_pos whole]
  · simp [countDown, whole]

-----------------------------------------------------------------------------------------
-- Runs
-----------------------------------------------------------------------------------------

/-- What an update of a timer is to do: it stays in range; where a second is taken off a timer at
zero the timer stops and shows zero; and it shows zero wherever it stops.
-/
structure Proper (timer : GameModeTimer ℚ) (tick : TimerTick) (next : GameModeTimer ℚ) : Prop where
  inRange : next.mTime.InRange
  stops : timer.RunsOut tick → next.mIsEnabled = false ∧ next.mTime.ShowsZero
  stopped : timer.mIsEnabled → next.mIsEnabled = false → next.mTime.ShowsZero

/-- A second that comes leaves the fraction in its bounds. -/
theorem fraction_of_ticks (normal : timer.NormalForm) (ticks : timer.Ticks tick)
    : 0 ≤ timer.mTime.mMilliseconds + tick.deltaTime - 1
      ∧ timer.mTime.mMilliseconds + tick.deltaTime - 1 < 1 := by
  have below := normal.fraction_lt
  have lt_one := tick.lt_one
  have whole := ticks.2.2
  exact ⟨by linarith, by linarith⟩

/-- Where no second comes, only the buttons can take the time out of range. -/
theorem proper_iff_of_not_ticks (normal : timer.NormalForm) (not_ticks : ¬timer.Ticks tick)
    : Proper timer tick (timer.updateTimer tick.pad tick.deltaTime) ↔ timer.Counts tick := by
  obtain ⟨fraction, -, -, same⟩ := updateTimer_of_not_ticks normal not_ticks
  have runs : ¬timer.RunsOut tick := fun runs => not_ticks runs.2.1
  have pressed : timer.Counts tick ↔ (timer.edited tick.pad).InRange := by
    rw [inRange_edited_iff normal.inRange, Counts, Overflows]
    simp [runs, not_ticks]
  rw [same, pressed]
  constructor
  · exact fun proper => (GameTime.inRange_mMilliseconds fraction).mp proper.inRange
  · intro inRange
    refine ⟨(GameTime.inRange_mMilliseconds fraction).mpr inRange, (absurd · runs), ?_⟩
    intro enabled stopped
    exact absurd (enabled.symm.trans stopped) (by decide)

/-- Where a second comes, the time goes out of range at the last time or below zero. -/
theorem proper_iff_of_ticks (normal : timer.NormalForm) (ticks : timer.Ticks tick)
    : Proper timer tick (timer.updateTimer tick.pad tick.deltaTime) ↔ timer.Counts tick := by
  have enabled := ticks.1
  have unpressed : ¬(timer.mIsUseControl ∧ tick.pad.holdL = false ∧ tick.pad.holdRight) := by
    rintro ⟨control, held, right⟩
    exact ticks.2.1 ⟨control, by simp [held, right]⟩
  rw [updateTimer_of_ticks ticks]
  split_ifs with up
  · have runs : ¬timer.RunsOut tick := fun ⟨down, _⟩ => by simp [up] at down
    have counts : timer.Counts tick ↔ ¬timer.mTime.ShowsLast := by
      simp [Counts, Overflows, runs, up, ticks]
    rw [counts, ← GameTime.inRange_secondMore_iff normal.inRange]
    constructor
    · exact fun proper => (GameTime.inRange_mMilliseconds _).mp proper.inRange
    · intro inRange
      refine ⟨(GameTime.inRange_mMilliseconds _).mpr inRange, (absurd · runs), ?_⟩
      intro _ stopped
      exact absurd (enabled.symm.trans stopped) (by decide)
  · have down : timer.mIsCountUp = false := by simpa using up
    have counts : timer.Counts tick ↔ ¬timer.mTime.ShowsZero := by
      simp [Counts, RunsOut, Overflows, unpressed, down, ticks]
    rw [counts]
    constructor
    · intro proper zero
      exact GameTime.not_inRange_secondLess zero
        ((GameTime.inRange_mMilliseconds _).mp proper.inRange)
    · intro notZero
      have inRange := GameTime.inRange_secondLess normal.inRange notZero
      have goes_on : timer.mTime.secondLess.2 = false := by
        rw [GameTime.secondLess_snd normal.inRange]
        simpa using notZero
      refine ⟨(GameTime.inRange_mMilliseconds _).mpr inRange, ?_, ?_⟩
      · exact fun runs => absurd runs.2.2 notZero
      · intro _ stopped
        simp [goes_on] at stopped

/-- The step lemma: an update does what it is to do exactly if no second is taken off zero or
added to the last time.
-/
theorem proper_iff (normal : timer.NormalForm)
    : Proper timer tick (timer.updateTimer tick.pad tick.deltaTime) ↔ timer.Counts tick := by
  by_cases ticks : timer.Ticks tick
  · exact proper_iff_of_ticks normal ticks
  · exact proper_iff_of_not_ticks normal ticks

/-- The timer is then in normal form again. -/
theorem normalForm_updateTimer (normal : timer.NormalForm) (counts : timer.Counts tick)
    : (timer.updateTimer tick.pad tick.deltaTime).NormalForm := by
  have inRange := ((proper_iff normal).mpr counts).inRange
  by_cases ticks : timer.Ticks tick
  · obtain ⟨nonneg, lt_one⟩ := fraction_of_ticks normal ticks
    rw [updateTimer_of_ticks ticks] at inRange ⊢
    split_ifs at inRange ⊢
    · exact ⟨inRange, nonneg, lt_one⟩
    · exact ⟨inRange, nonneg, lt_one⟩
  · obtain ⟨fraction, nonneg, lt_one, same⟩ := updateTimer_of_not_ticks normal ticks
    rw [same] at inRange ⊢
    exact ⟨inRange, nonneg, lt_one⟩

/-- A timer in normal form does what it is to do along a whole run exactly if no update of the run
takes a second off `0:00:00` or adds one to the last time.
-/
theorem run_counts_iff (normal : timer.NormalForm) {ticks : List TimerTick}
    {after : GameModeTimer ℚ}
    : Run step Counts timer ticks after
      ↔ Run step
          (fun before tick => ∀ next, step before tick = some next → Proper before tick next)
          timer ticks after := by
  apply Run.congr NormalForm normal
  · intro before tick next normal counts taken
    obtain rfl := Option.some.inj taken
    exact normalForm_updateTimer normal counts
  · intro before tick next normal taken
    simp [step, proper_iff normal]

/-- A frame of a game at sixty frames a second. -/
def frame : TimerTick where
  deltaTime := 1 / 60
  nonneg := by norm_num
  lt_one := by norm_num

/-- A timer counting down that is about to take its next second. -/
def countingDown (seconds : Int32) : GameModeTimer ℚ where
  mIsCountUp := false
  mIsEnabled := true
  mTime := { mMilliseconds := 63 / 64, mSeconds := seconds }

theorem ticks_countingDown (seconds : Int32) : (countingDown seconds).Ticks frame := by
  refine ⟨rfl, ?_, by norm_num [countingDown, frame]⟩
  simp [Edits, frame]

theorem normalForm_countingDown {seconds : Int32}
    (inRange : (countingDown seconds).mTime.InRange)
    : (countingDown seconds).NormalForm where
  inRange := inRange
  fraction_nonneg := by norm_num [countingDown]
  fraction_lt := by norm_num [countingDown]

/-- The fifth second is taken off as it is to be, and one from `0:00:00` is not. -/
theorem run_counts_iff_five
    : Run step
        (fun before tick => ∀ next, step before tick = some next → Proper before tick next)
        (countingDown 5) [frame] ((countingDown 5).updateTimer frame.pad frame.deltaTime)
      ∧ ¬Run step
          (fun before tick => ∀ next, step before tick = some next → Proper before tick next)
          (countingDown 0) [frame] ((countingDown 0).updateTimer frame.pad frame.deltaTime) := by
  have five : (countingDown 5).NormalForm :=
    normalForm_countingDown ⟨by decide, by decide, by decide, by decide, by decide⟩
  have none_left : (countingDown 0).NormalForm :=
    normalForm_countingDown ⟨by decide, by decide, by decide, by decide, by decide⟩
  constructor
  · refine (run_counts_iff five).mp (Run.single ⟨?_, ?_⟩ rfl)
    · exact fun runsOut => absurd runsOut.2.2 (by decide)
    · exact fun overflows => absurd overflows.1 (by decide)
  · intro proper
    have counts := ((run_counts_iff none_left).mpr proper).allowed_of_single
    exact counts.1 ⟨rfl, ticks_countingDown 0, by decide⟩

/-- A timer that counts down shows `0:-1:59` a second after it showed zero. -/
theorem countDown_below_zero
    : ∃ timer after : GameModeTimer ℚ,
        timer.NormalForm ∧ timer.mIsCountUp = false ∧ timer.mTime.ShowsZero
        ∧ AnyRun step timer [frame] after
        ∧ ¬after.mTime.InRange ∧ after.mIsEnabled = false ∧ ¬after.mTime.ShowsZero
        ∧ after.mTime.mSeconds = 59 ∧ after.mTime.mMinutes = -1 := by
  have run
      : AnyRun step (countingDown 0) [frame]
          ((countingDown 0).updateTimer frame.pad frame.deltaTime) :=
    Run.single trivial rfl
  rw [updateTimer_of_ticks (ticks_countingDown 0)] at run
  refine ⟨countingDown 0, _, normalForm_countingDown ⟨?_, ?_, ?_, ?_, ?_⟩, rfl, ?_, run, ?_, rfl,
    ?_, rfl, rfl⟩
  · decide
  · decide
  · decide
  · decide
  · decide
  · decide
  · exact fun inRange => absurd inRange.minutes_nonneg (by decide)
  · decide

-----------------------------------------------------------------------------------------
-- Counting up
-----------------------------------------------------------------------------------------

/-- `Time::deltaTime`, which a load may make longer than a second. -/
structure FrameTime where
  deltaTime : ℚ
  nonneg : 0 ≤ deltaTime

/-- `Time::calcTime`, for a span since the time before. -/
def calcTime (nanoSeconds : ℤ) : FrameTime where
  deltaTime := |(nanoSeconds : ℚ) / 1000000000|
  nonneg := abs_nonneg _

/-- `updateTimer` without buttons. -/
def countStep (timer : GameModeTimer ℚ) (frame : FrameTime) : Option (GameModeTimer ℚ) :=
  some (timer.updateTimer {} frame.deltaTime)

/-- All of the time, in seconds. -/
def total (timer : GameModeTimer ℚ) : ℚ :=
  3600 * timer.mTime.mHours.toInt + 60 * timer.mTime.mMinutes.toInt + timer.mTime.mSeconds.toInt
    + timer.mTime.mMilliseconds

/-- A timer that is counting up; its fraction may be behind by whole seconds. -/
structure CountsUp (timer : GameModeTimer ℚ) : Prop where
  enabled : timer.mIsEnabled = true
  up : timer.mIsCountUp = true
  seconds_nonneg : 0 ≤ timer.mTime.mSeconds
  seconds_lt : timer.mTime.mSeconds < 60
  minutes_nonneg : 0 ≤ timer.mTime.mMinutes
  minutes_lt : timer.mTime.mMinutes < 60
  fraction_nonneg : 0 ≤ timer.mTime.mMilliseconds

/-- The frame does not carry into hours that can hold no more. -/
def StaysInHours (timer : GameModeTimer ℚ) (frame : FrameTime) : Prop :=
  ¬(timer.mTime.ShowsLast ∧ 1 ≤ timer.mTime.mMilliseconds + frame.deltaTime)

/-- The sum of frame times. -/
def elapsed (frames : List FrameTime) : ℚ := (frames.map FrameTime.deltaTime).sum

theorem toInt_add_one {field : Int32} (room : field ≠ Int32.maxValue)
    : (field + 1).toInt = field.toInt + 1 := by
  have below := field.toInt_lt
  have above := field.le_toInt
  have last : field.toInt ≠ 2147483647 := fun same => room (Int32.toInt_inj.mp same)
  rw [Int32.toInt_add]
  have one : (1 : Int32).toInt = 1 := rfl
  rw [one, Int.bmod_eq_of_le (by omega) (by omega)]

/-- The seconds that the three fields of a time come to. -/
def fieldSeconds (time : GameTime ℚ) : ℤ :=
  3600 * time.mHours.toInt + 60 * time.mMinutes.toInt + time.mSeconds.toInt

/-- A carry through the fields adds a second to them. -/
theorem fieldSeconds_secondMore (seconds_lt : time.mSeconds < 60) (minutes_lt : time.mMinutes < 60)
    (notLast : ¬time.ShowsLast)
    : fieldSeconds time.secondMore = fieldSeconds time + 1 := by
  have sixty : (60 : Int32).toInt = 60 := rfl
  have zero : (0 : Int32).toInt = 0 := rfl
  have seconds := Int32.lt_iff_toInt_lt.mp seconds_lt
  have minutes := Int32.lt_iff_toInt_lt.mp minutes_lt
  have room {field : Int32} (below : field < 60) : (field + 1).toInt = field.toInt + 1 := by
    refine toInt_add_one fun last => ?_
    rw [last] at below
    exact absurd below (by decide)
  unfold fieldSeconds GameTime.secondMore
  split_ifs with more carries
  · rw [room seconds_lt]
    dsimp only
    omega
  · rw [Int32.lt_iff_toInt_lt, room seconds_lt] at more
    rw [room minutes_lt]
    dsimp only
    omega
  · rw [Int32.lt_iff_toInt_lt, room seconds_lt] at more
    rw [Int32.lt_iff_toInt_lt, room minutes_lt] at carries
    have hours : time.mHours ≠ Int32.maxValue := by
      intro last
      refine notLast ⟨?_, ?_, last⟩
      · exact Int32.toInt_inj.mp (show time.mSeconds.toInt = 59 by omega)
      · exact Int32.toInt_inj.mp (show time.mMinutes.toInt = 59 by omega)
    rw [toInt_add_one hours]
    dsimp only
    omega

theorem edited_nothing (timer : GameModeTimer ℚ) : timer.edited {} = timer.mTime :=
  edited_of_not_edits (by simp [Edits])

/-- One frame: its time is added, whether or not a second is carried. -/
theorem countStep_total {timer : GameModeTimer ℚ} {frame : FrameTime} (counts : timer.CountsUp)
    (stays : timer.StaysInHours frame)
    : (timer.updateTimer {} frame.deltaTime).total = timer.total + frame.deltaTime := by
  rw [updateTimer_edited, edited_nothing, if_pos counts.enabled, if_pos counts.up, countUp]
  split_ifs with whole
  · have notLast : ¬timer.mTime.ShowsLast := fun last => stays ⟨last, whole⟩
    have more : ((fieldSeconds timer.mTime.secondMore : ℤ) : ℚ) = fieldSeconds timer.mTime + 1 := by
      exact_mod_cast fieldSeconds_secondMore counts.seconds_lt counts.minutes_lt notLast
    simp only [fieldSeconds, Int.cast_add, Int.cast_mul, Int.cast_ofNat] at more
    simp only [total]
    linarith
  · simp only [total]
    linarith

/-- The timer goes on counting up, and a frame of a second at most leaves no second behind. -/
theorem countStep_counts {timer : GameModeTimer ℚ} {frame : FrameTime} (counts : timer.CountsUp)
    : (timer.updateTimer {} frame.deltaTime).CountsUp
      ∧ (frame.deltaTime ≤ 1
        → timer.mTime.mMilliseconds < 1
        → (timer.updateTimer {} frame.deltaTime).mTime.mMilliseconds < 1) := by
  obtain ⟨enabled, up, seconds_nonneg, seconds_lt, minutes_nonneg, minutes_lt, nonneg⟩ := counts
  have frame_nonneg := frame.nonneg
  rw [updateTimer_edited, edited_nothing, if_pos enabled, if_pos up, countUp]
  split_ifs with whole
  · refine ⟨?_, fun short below => by dsimp only; linarith⟩
    have left : 0 ≤ timer.mTime.mMilliseconds + frame.deltaTime - 1 := by linarith
    have zero : (0 : Int32) ≤ 0 ∧ (0 : Int32) < 60 := by decide
    unfold GameTime.secondMore
    split_ifs with more carries
    · exact ⟨enabled, up, by dsimp only; grind, more, minutes_nonneg, minutes_lt, left⟩
    · exact ⟨enabled, up, zero.1, zero.2, by dsimp only; grind, carries, left⟩
    · exact ⟨enabled, up, zero.1, zero.2, zero.1, zero.2, left⟩
  · refine ⟨?_, fun _ _ => not_le.mp whole⟩
    exact ⟨enabled, up, seconds_nonneg, seconds_lt, minutes_nonneg, minutes_lt,
      add_nonneg nonneg frame_nonneg⟩

theorem elapsed_concat (frames : List FrameTime) (frame : FrameTime)
    : elapsed (frames ++ [frame]) = elapsed frames + frame.deltaTime := by
  simp [elapsed]

/-- The run lemma, by induction on the frames: no time is lost or gained. -/
theorem run_counts_up {timer after : GameModeTimer ℚ} {frames : List FrameTime}
    (counts : timer.CountsUp) (run : Run countStep StaysInHours timer frames after)
    : after.CountsUp ∧ after.total = timer.total + elapsed frames := by
  induction run with
  | nil => exact ⟨counts, by simp [elapsed]⟩
  | snoc before stays taken ih =>
      obtain ⟨going, same⟩ := ih
      obtain rfl := Option.some.inj taken
      refine ⟨(countStep_counts going).1, ?_⟩
      rw [countStep_total going stays, same, elapsed_concat, add_assoc]

/-- With frames of a second at most there is never a second behind. -/
theorem run_fraction_lt {timer after : GameModeTimer ℚ} {frames : List FrameTime}
    (counts : timer.CountsUp) (below : timer.mTime.mMilliseconds < 1)
    (run : Run countStep StaysInHours timer frames after)
    (short : ∀ frame ∈ frames, frame.deltaTime ≤ 1)
    : after.mTime.mMilliseconds < 1 := by
  induction run with
  | nil => exact below
  | @snoc frames middle frame next before stays taken ih =>
      obtain rfl := Option.some.inj taken
      have earlier := ih fun frame member => short frame (List.mem_append_left _ member)
      have last := short frame (List.mem_append_right _ (List.mem_singleton_self _))
      exact (countStep_counts (run_counts_up counts before).1).2 last earlier

/-- Frames that do not bring the hours to their end make a run, by induction from the last one. -/
theorem run_of_total_lt {timer : GameModeTimer ℚ} {frames : List FrameTime}
    (counts : timer.CountsUp) (fits : timer.total + elapsed frames < 3600 * 2 ^ 31)
    : ∃ after, Run countStep StaysInHours timer frames after := by
  induction frames using List.reverseRecOn with
  | nil => exact ⟨timer, .nil⟩
  | append_singleton frames frame ih =>
      rw [elapsed_concat] at fits
      have frame_nonneg := frame.nonneg
      obtain ⟨before, run⟩ := ih (by linarith)
      refine ⟨_, run.snoc ?_ rfl⟩
      rintro ⟨⟨seconds, minutes, hours⟩, whole⟩
      have same := (run_counts_up counts run).2
      have fields : before.mTime.mSeconds.toInt = 59 ∧ before.mTime.mMinutes.toInt = 59
          ∧ before.mTime.mHours.toInt = 2147483647 := by
        rw [seconds, minutes, hours]
        decide
      rw [total, fields.1, fields.2.1, fields.2.2] at same
      norm_num at same fits
      linarith

/-- Counting up neither loses nor gains time: in every run short of the end of the hours the time
grows by the sum of the frame times, and as long as no frame was longer than a second the fraction
is below one. Frames that come to less than the end of the hours make such a run.
-/
theorem run_keeps_time (timer : GameModeTimer ℚ) (counts : timer.CountsUp)
    (below : timer.mTime.mMilliseconds < 1) (frames : List FrameTime)
    : (∀ after,
        Run countStep StaysInHours timer frames after
        → after.total = timer.total + elapsed frames
          ∧ ((∀ frame ∈ frames, frame.deltaTime ≤ 1) → after.mTime.mMilliseconds < 1))
      ∧ (timer.total + elapsed frames < 3600 * 2 ^ 31
        → ∃ after, Run countStep StaysInHours timer frames after) :=
  ⟨fun _ run => ⟨(run_counts_up counts run).2, run_fraction_lt counts below run⟩,
    run_of_total_lt counts⟩

/-- A timer of a new mode that was switched on. -/
theorem run_keeps_time_new
    : ∃ after,
        Run countStep StaysInHours new.enableTimer [calcTime 2500000000, calcTime 0, calcTime 0]
          after
        ∧ after.total = 5 / 2 := by
  have counts : (new : GameModeTimer ℚ).enableTimer.CountsUp :=
    ⟨rfl, rfl, by decide, by decide, by decide, by decide, le_refl _⟩
  have start : (new : GameModeTimer ℚ).enableTimer.total = 0 := by
    simp [total, enableTimer, new]
  have times : elapsed [calcTime 2500000000, calcTime 0, calcTime 0] = 5 / 2 := by
    norm_num [elapsed, calcTime]
  obtain ⟨kept, made⟩ := run_keeps_time new.enableTimer counts zero_lt_one
    [calcTime 2500000000, calcTime 0, calcTime 0]
  obtain ⟨after, run⟩ := made (by rw [start, times]; norm_num)
  exact ⟨after, run, by rw [(kept after run).1, start, times, zero_add]⟩

end GameModeTimer

end SmoOnline.Mod
