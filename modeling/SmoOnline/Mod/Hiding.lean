import SmoOnline.Mod.HideAndSeek
import Mathlib.Data.Rat.Defs

/-! A player's role and timer over the frames, the Tag packets in between and the times at which
the mode begins anew. The packets change the role in the info, the frames count in the timer.
-/

namespace SmoOnline.Mod

open Runs

-----------------------------------------------------------------------------------------
-- Runs of the mode
-----------------------------------------------------------------------------------------

/-- What happens to the mode: a Tag packet about our player comes from the network thread. -/
inductive HidingEvent (F : Type)
  | begin
  | finish
  | tagInf (announced : Announced) (isIt : Bool) (seconds minutes : UInt32)
  | frame (inputs : FrameInputs F)
  deriving DecidableEq, Repr

/-- The last role and the last time that packets have announced since there was a frame. -/
structure TagNews where
  state : Option Bool := none
  time : Option (UInt32 × UInt32) := none
  deriving DecidableEq, Repr

def TagNews.hear (heard : TagNews) (announced : Announced) (isIt : Bool) (seconds minutes : UInt32)
    : TagNews where
  state := if announced.state then some isIt else heard.state
  time := if announced.time then some (seconds, minutes) else heard.time

/-- The mode, with what was heard. -/
structure Hiding (F : Type) where
  mode : HideAndSeekMode F
  heard : TagNews := {}
  deriving DecidableEq, Repr

namespace GameModeTimer

variable {F : Type} (timer : GameModeTimer F)

/-- The timer set to a time that was announced. -/
def showing (time : UInt32 × UInt32) : GameModeTimer F :=
  { timer with
    mTime := { timer.mTime with mSeconds := time.1.toInt32, mMinutes := time.2.toInt32 } }

def Shows (time : UInt32 × UInt32) : Prop :=
  timer.mTime.mSeconds = time.1.toInt32 ∧ timer.mTime.mMinutes = time.2.toInt32

instance (time : UInt32 × UInt32) : Decidable (timer.Shows time) :=
  inferInstanceAs (Decidable (_ ∧ _))

variable {timer}

theorem Shows.showing_eq {time : UInt32 × UInt32} (shows : timer.Shows time)
    : timer.showing time = timer := by
  rw [showing, ← shows.1, ← shows.2]

end GameModeTimer

namespace HideAndSeekMode

variable {F : Type} (mode : HideAndSeekMode F)

/-- The timer runs exactly for a player who is not it. -/
def InStep : Prop := mode.mModeTimer.mIsEnabled = !mode.mInfo.mIsPlayerIt

instance : Decidable mode.InStep := inferInstanceAs (Decidable (_ = _))

variable [OfNat F 5] [LE F] [DecidableLE F]

/-- A seeker tags the player in this frame. -/
def IsTagged (inputs : FrameInputs F) : Prop :=
  mode.mInfo.mIsPlayerIt = false ∧ 5 ≤ mode.mInvulnTime ∧ inputs.isYukimaru = false
    ∧ ∃ sight ∈ inputs.puppets, sight.tags = true

instance (inputs : FrameInputs F) : Decidable (mode.IsTagged inputs) :=
  inferInstanceAs (Decidable (_ ∧ _ ∧ _ ∧ _))

end HideAndSeekMode

namespace Hiding

variable {F : Type} [Add F] [Sub F] [OfNat F 0] [OfNat F 1] [OfNat F 5] [LE F] [DecidableLE F]
  (player : Hiding F)

/-- The manager calls `update` of an active mode only. -/
def step : HidingEvent F → Option (Hiding F)
  | .begin => some { mode := player.mode.begin }
  | .finish => some { player with mode := player.mode.finish }
  | .tagInf announced isIt seconds minutes =>
      some
        { mode := player.mode.updateTagInfo (.announcing announced isIt seconds minutes)
          heard := player.heard.hear announced isIt seconds minutes }
  | .frame inputs =>
      if player.mode.mIsActive then some { mode := player.mode.update inputs } else none

/-- After a frame the timer runs exactly for a player who is not it, and the frame has counted on
from the time that was announced before it, if one was.
-/
def FrameKeeps (event : HidingEvent F) (next : Hiding F) : Prop :=
  ∀ inputs, event = .frame inputs
    → next.mode.InStep
      ∧ ∀ time ∈ player.heard.time,
        next.mode.mInfo.mHidingTime
          = ({ player.mode with
              mModeTimer := player.mode.mModeTimer.showing time }.update inputs).mModeTimer.mTime

/-- Before a frame the last role announced is the one the timer runs for, unless a seeker tags the
player, and the last time announced is the one the timer shows.
-/
def Untold (event : HidingEvent F) : Prop :=
  ∀ inputs, event = .frame inputs
    → (∀ isIt ∈ player.heard.state,
        player.mode.mModeTimer.mIsEnabled = !isIt ∨ player.mode.IsTagged inputs)
      ∧ ∀ time ∈ player.heard.time, player.mode.mModeTimer.Shows time

-- the two instances are named, as types of words have instances that try every word
instance (event : HidingEvent F) : Decidable (player.Untold event) :=
  match event with
  | .frame inputs =>
      @decidable_of_iff _
        ((∀ isIt ∈ player.heard.state,
            player.mode.mModeTimer.mIsEnabled = !isIt ∨ player.mode.IsTagged inputs)
          ∧ ∀ time ∈ player.heard.time, player.mode.mModeTimer.Shows time)
        ⟨fun untold _ same => HidingEvent.frame.inj same ▸ untold,
          fun untold => untold inputs rfl⟩
        (@instDecidableAnd _ _ (Option.decidableForallMem _) (Option.decidableForallMem _))
  | .begin => isTrue (by rintro _ ⟨⟩)
  | .finish => isTrue (by rintro _ ⟨⟩)
  | .tagInf _ _ _ _ => isTrue (by rintro _ ⟨⟩)

end Hiding

-----------------------------------------------------------------------------------------
-- What each part of a frame does to role and timer
-----------------------------------------------------------------------------------------

namespace GameModeTimer

variable {F : Type} [Add F] [Sub F] [OfNat F 0] [OfNat F 1] [LE F] [DecidableLE F]
  {timer : GameModeTimer F}

/-- A timer that counts up changes nothing but its time. -/
theorem updateTimer_eq (countsUp : timer.mIsCountUp = true) (pad : Pad) (deltaTime : F)
    : ∃ mTime, timer.updateTimer pad deltaTime = { timer with mTime } := by
  obtain ⟨_, _, control, _⟩ := timer
  cases countsUp
  cases control with
  | false =>
      simp only [updateTimer, Bool.false_eq_true, if_false, if_true]
      split_ifs
      · exact ⟨_, rfl⟩
      · exact ⟨_, rfl⟩
  | true =>
      simp only [updateTimer, if_true, timerControl]
      split_ifs
      · exact ⟨_, rfl⟩
      · exact ⟨_, rfl⟩

end GameModeTimer

namespace HideAndSeekMode

variable {F : Type} {mode : HideAndSeekMode F}

/-- The loop over the puppets leaves what it can only set. -/
theorem checkPuppets_seeker {isYukimaru : Bool} (puppets : List PuppetSight)
    (isIt : mode.mInfo.mIsPlayerIt = true) (stopped : mode.mModeTimer.mIsEnabled = false)
    : let after := puppets.foldl (fun mode sight => mode.checkPuppet isYukimaru sight) mode
      after.mInfo.mIsPlayerIt = true ∧ after.mModeTimer.mIsEnabled = false := by
  induction puppets generalizing mode with
  | nil => exact ⟨isIt, stopped⟩
  | cons sight puppets ih =>
      simp only [List.foldl_cons]
      apply ih
      · rw [checkPuppet]
        split_ifs
        · rfl
        · exact isIt
      · rw [checkPuppet]
        split_ifs
        · rfl
        · exact stopped

theorem checkPuppets_mIsCountUp (mode : HideAndSeekMode F) (isYukimaru : Bool)
    (puppets : List PuppetSight)
    : (puppets.foldl (fun mode sight => mode.checkPuppet isYukimaru sight)
        mode).mModeTimer.mIsCountUp
      = mode.mModeTimer.mIsCountUp := by
  induction puppets generalizing mode with
  | nil => rfl
  | cons sight puppets ih =>
      rw [List.foldl_cons, ih, checkPuppet]
      split_ifs <;> rfl

/-- One seeker who tags the player is enough. -/
theorem checkPuppets_tagged (mode : HideAndSeekMode F) {puppets : List PuppetSight}
    {sight : PuppetSight}
    (member : sight ∈ puppets) (tags : sight.tags = true)
    : let after := puppets.foldl (fun mode sight => mode.checkPuppet false sight) mode
      after.mInfo.mIsPlayerIt = true ∧ after.mModeTimer.mIsEnabled = false := by
  obtain ⟨first, later, rfl⟩ := List.append_of_mem member
  simp only [List.foldl_append, List.foldl_cons]
  apply checkPuppets_seeker
  · rw [checkPuppet, if_pos ⟨tags, by decide⟩]
    rfl
  · rw [checkPuppet, if_pos ⟨tags, by decide⟩]
    rfl

/-- Where no seeker tags the player the loop does nothing. -/
theorem checkPuppets_untagged {isYukimaru : Bool} {puppets : List PuppetSight}
    (none : isYukimaru = false → ∀ sight ∈ puppets, sight.tags = false)
    : puppets.foldl (fun mode sight => mode.checkPuppet isYukimaru sight) mode = mode := by
  induction puppets with
  | nil => rfl
  | cons sight puppets ih =>
      have nothing : mode.checkPuppet isYukimaru sight = mode := by
        rw [checkPuppet, if_neg]
        rintro ⟨tags, walks⟩
        have untagged := none (by simpa using walks) sight List.mem_cons_self
        exact absurd tags (by simp [untagged])
      rw [List.foldl_cons, nothing]
      exact ih fun walks sight member => none walks sight (List.mem_cons_of_mem _ member)

/-- The button flips both. -/
theorem toggle_inStep_iff [OfNat F 0] (mode : HideAndSeekMode F)
    : mode.toggle.mModeTimer.mIsCountUp = mode.mModeTimer.mIsCountUp
      ∧ (mode.toggle.InStep ↔ mode.InStep) := by
  simp only [toggle, InStep, setPlayerTagState, sendTagInfPacket, GameModeTimer.toggleTimer]
  cases mode.mInfo.mIsPlayerIt <;> simp

theorem begin_inStep [OfNat F 0] (mode : HideAndSeekMode F)
    : mode.begin.mModeTimer.mIsCountUp = mode.mModeTimer.mIsCountUp ∧ mode.begin.InStep := by
  simp only [begin, InStep]
  cases mode.mInfo.mIsPlayerIt <;> exact ⟨rfl, rfl⟩

variable [Add F] [Sub F] [OfNat F 0] [OfNat F 1] [OfNat F 5] [LE F] [DecidableLE F]

/-- For a player who hides: role and timer are in step afterwards if they were, or if a seeker tags
the player. The timer goes on counting up.
-/
theorem updateHiding_inStep_iff (countsUp : mode.mModeTimer.mIsCountUp = true)
    (hides : mode.mInfo.mIsPlayerIt = false) (inputs : FrameInputs F)
    : (mode.updateHiding inputs).mModeTimer.mIsCountUp = true
      ∧ ((mode.updateHiding inputs).InStep ↔ mode.InStep ∨ mode.IsTagged inputs) := by
  by_cases vulnerable : 5 ≤ mode.mInvulnTime
  · have up := (checkPuppets_mIsCountUp mode inputs.isYukimaru inputs.puppets).trans countsUp
    simp only [updateHiding, if_pos vulnerable]
    obtain ⟨mTime, updated⟩ := GameModeTimer.updateTimer_eq up inputs.pad inputs.deltaTime
    rw [updated]
    refine ⟨up, ?_⟩
    by_cases tagged : mode.IsTagged inputs
    · obtain ⟨_, _, walks, sight, member, tags⟩ := id tagged
      obtain ⟨isIt, stopped⟩ := checkPuppets_tagged mode member tags
      rw [walks]
      simp only [tagged, or_true, InStep, isIt, stopped, Bool.not_true]
    · have untagged
          : inputs.isYukimaru = false → ∀ sight ∈ inputs.puppets, sight.tags = false := by
        intro walks sight member
        cases tags : sight.tags with
        | false => rfl
        | true => exact absurd ⟨hides, vulnerable, walks, sight, member, tags⟩ tagged
      rw [checkPuppets_untagged untagged]
      simp only [tagged, or_false, InStep]
  · have untagged : ¬mode.IsTagged inputs := fun tagged => vulnerable tagged.2.1
    simp only [updateHiding, if_neg vulnerable]
    obtain ⟨mTime, updated⟩ := GameModeTimer.updateTimer_eq countsUp inputs.pad inputs.deltaTime
    rw [updated]
    refine ⟨countsUp, ?_⟩
    simp only [untagged, or_false, InStep]

/-- Role and timer are in step after a frame if they were before it, or if a seeker tags the player
in it.
-/
theorem update_inStep_iff (countsUp : mode.mModeTimer.mIsCountUp = true) (inputs : FrameInputs F)
    : (mode.update inputs).mModeTimer.mIsCountUp = true
      ∧ ((mode.update inputs).InStep ↔ mode.InStep ∨ mode.IsTagged inputs) := by
  have hidden
      : let after := if mode.mInfo.mIsPlayerIt then mode else mode.updateHiding inputs
        after.mModeTimer.mIsCountUp = true
        ∧ (after.InStep ↔ mode.InStep ∨ mode.IsTagged inputs) := by
    cases role : mode.mInfo.mIsPlayerIt with
    | false => exact updateHiding_inStep_iff countsUp role inputs
    | true =>
        have untagged : ¬mode.IsTagged inputs := fun tagged => by
          simp [tagged.1] at role
        simp only [if_true, untagged, or_false]
        exact ⟨countsUp, trivial⟩
  simp only [update]
  generalize (if mode.mInfo.mIsPlayerIt then mode else mode.updateHiding inputs) = after at hidden ⊢
  obtain ⟨stillUp, same⟩ := hidden
  by_cases pressed : inputs.pad.triggerUp ∧ ¬inputs.pad.holdZL
  · obtain ⟨up, toggled⟩ := toggle_inStep_iff after
    rw [if_pos pressed]
    exact ⟨up.trans stillUp, toggled.trans same⟩
  · rw [if_neg pressed]
    exact ⟨stillUp, same⟩

end HideAndSeekMode

-----------------------------------------------------------------------------------------
-- Runs
-----------------------------------------------------------------------------------------

namespace Hiding

variable {F : Type} [Add F] [Sub F] [OfNat F 0] [OfNat F 1] [OfNat F 5] [LE F] [DecidableLE F]

/-- What is known between frames: the role is the last that was announced, and where none was, the
timer runs for the role there is.
-/
structure Follows (player : Hiding F) : Prop where
  countsUp : player.mode.mModeTimer.mIsCountUp = true
  told : ∀ isIt ∈ player.heard.state, player.mode.mInfo.mIsPlayerIt = isIt
  untold : player.mode.mIsActive = true → player.heard.state = none → player.mode.InStep

/-- A frame of a mode of which this is known keeps what it should under the condition. -/
theorem Follows.frame {player next : Hiding F} {event : HidingEvent F} (follows : player.Follows)
    (untold : player.Untold event) (taken : player.step event = some next)
    : player.FrameKeeps event next := by
  rintro inputs rfl
  obtain ⟨role, time⟩ := untold inputs rfl
  rw [step] at taken
  split_ifs at taken with active
  obtain rfl := Option.some.inj taken
  constructor
  · rw [(HideAndSeekMode.update_inStep_iff follows.countsUp inputs).2]
    cases heard : player.heard.state with
    | none => exact Or.inl (follows.untold active heard)
    | some isIt =>
        rcases role isIt heard with runs | tagged
        · exact Or.inl (runs.trans (congrArg not (follows.told isIt heard).symm))
        · exact Or.inr tagged
  · intro shown heard
    rw [(time shown heard).showing_eq]
    rfl

theorem Follows.step {player next : Hiding F} {event : HidingEvent F} (follows : player.Follows)
    (untold : player.Untold event) (taken : player.step event = some next)
    : next.Follows := by
  have keeps := follows.frame untold taken
  cases event with
  | begin =>
      obtain rfl := Option.some.inj taken
      obtain ⟨up, inStep⟩ := HideAndSeekMode.begin_inStep player.mode
      exact ⟨up.trans follows.countsUp, nofun, fun _ _ => inStep⟩
  | finish =>
      obtain rfl := Option.some.inj taken
      exact ⟨follows.countsUp, follows.told, nofun⟩
  | tagInf announced isIt seconds minutes =>
      obtain rfl := Option.some.inj taken
      rw [HideAndSeekMode.updateTagInfo_announcing]
      simp only [TagNews.hear]
      cases announced.state with
      | false => exact ⟨follows.countsUp, follows.told, follows.untold⟩
      | true =>
          refine ⟨follows.countsUp, ?_, nofun⟩
          rintro role heard
          exact Option.some.inj heard
  | frame inputs =>
      rw [Hiding.step] at taken
      split_ifs at taken with active
      obtain rfl := Option.some.inj taken
      obtain ⟨up, _⟩ := HideAndSeekMode.update_inStep_iff follows.countsUp inputs
      exact ⟨up, nofun, fun _ _ => (keeps inputs rfl).1⟩

/-- After every frame of a run the timer runs exactly for a player who is not it, and the frame has
counted on from the time that was announced, where before each frame the last role announced was the
one the timer ran for, or a seeker tags the player in the frame, and the last time announced was
the one the timer showed.
-/
theorem frames_keep (info : Option (HideAndSeekInfo F)) {events : List (HidingEvent F)}
    {player : Hiding F}
    (run : Run step Untold { mode := HideAndSeekMode.init info } events player)
    : Run step (fun before event => Into step (before.FrameKeeps event) before event)
        { mode := HideAndSeekMode.init info } events player := by
  have known : Follows { mode := HideAndSeekMode.init info } := by
    cases info with
    | none => exact ⟨rfl, nofun, nofun⟩
    | some info => exact ⟨rfl, nofun, nofun⟩
  refine Run.mono_using known Follows.step ?_ run
  intro before event next follows untold taken other again
  obtain rfl := Option.some.inj (taken.symm.trans again)
  exact follows.frame untold taken

/-- A frame at sixty-four a second in which nothing is pressed and nobody is near. -/
def quietFrame : FrameInputs Rat where
  deltaTime := 1 / 64

/-- The mode as it is for a player who starts the game. -/
def firstRound : Hiding Rat where
  mode := HideAndSeekMode.init none

def knownRound : List (HidingEvent Rat) :=
  [.begin, .frame quietFrame, .tagInf ⟨true, true⟩ false 0 0, .frame quietFrame]

/-- A role and a time that the player has already, and that the next frame keeps. -/
theorem frames_keep_known
    : ∃ player,
        Run step (fun before event => Into step (before.FrameKeeps event) before event) firstRound
          knownRound player := by
  obtain ⟨player, executed⟩
      : ∃ player,
          executeChecked step (fun before event => decide (before.Untold event)) firstRound
            knownRound
          = some player :=
    Option.isSome_iff_exists.mp (by decide +kernel)
  exact ⟨player, frames_keep none (executeChecked_run (fun _ _ => of_decide_eq_true) executed)⟩

/-- A role that is announced between two frames leaves the timer as it is, and a time that is
announced is lost.
-/
theorem told_not_kept
    : (∃ before after,
        AnyRun step firstRound [.begin, .tagInf ⟨true, false⟩ true 0 0] before
        ∧ step before (.frame quietFrame) = some after
        ∧ ¬before.FrameKeeps (.frame quietFrame) after)
      ∧ ∃ before after,
        AnyRun step firstRound [.begin, .tagInf ⟨false, true⟩ false 30 2] before
        ∧ step before (.frame quietFrame) = some after
        ∧ ¬before.FrameKeeps (.frame quietFrame) after := by
  constructor
  · obtain ⟨before, after, run, taken, outOfStep⟩ :=
      @exists_run_step _ _ step firstRound [.begin, .tagInf ⟨true, false⟩ true 0 0]
        (.frame quietFrame) (fun _ after => ¬after.mode.InStep) inferInstance (by decide +kernel)
    exact ⟨before, after, run, taken, fun keeps => outOfStep (keeps _ rfl).1⟩
  · obtain ⟨before, after, run, taken, lost⟩ :=
      @exists_run_step _ _ step firstRound [.begin, .tagInf ⟨false, true⟩ false 30 2]
        (.frame quietFrame)
        (fun before after =>
          ¬∀ time ∈ before.heard.time,
            after.mode.mInfo.mHidingTime
            = ({ before.mode with
                mModeTimer :=
                  before.mode.mModeTimer.showing time }.update quietFrame).mModeTimer.mTime)
        (fun _ _ => @instDecidableNot _ (Option.decidableForallMem _)) (by decide +kernel)
    exact ⟨before, after, run, taken, fun keeps => lost (keeps _ rfl).2⟩

end Hiding

end SmoOnline.Mod
