import SmoOnline.Library.Runs
import SmoOnline.Mod.Client

/-! Being tagged in capture the flag: how long a player is protected from it after the mode has
begun, and what becomes of the player and of the flag that the player holds. `F` is what a `float`
is, of which nothing but its operations is used. What the player sees is left out.
-/

namespace SmoOnline.Mod

open Runs

-----------------------------------------------------------------------------------------
-- The mode
-----------------------------------------------------------------------------------------

/-- `class CaptureTheFlagMode`: what it has in common with the client, its timers, and how often the
player was sent home.
-/
structure CaptureTheFlagMode (F : Type) where
  client : Client
  mIsActive : Bool := false
  mIsFirstFrame : Bool := true
  mInvulnTime : F
  m_teleportTimer : F
  sentHome : Nat := 0

/-- What a frame reads of one puppet: its entry, whether it is within the tag distance of the player
and in the player's dimension, and whether the player is dead by then.
-/
structure Pursuer where
  isConnected : Bool := true
  isInSameStage : Bool := true
  ctfTeam : FlagTeam
  isNear : Bool := true
  isPlayerDead : Bool := false
  deriving DecidableEq, Repr

/-- A puppet of another team that is near tags a living player. -/
def Pursuer.tags (puppet : Pursuer) (playerTeam : FlagTeam) : Bool :=
  puppet.isConnected && puppet.isInSameStage
    && !(puppet.ctfTeam == playerTeam || puppet.ctfTeam == .invalid)
    && (puppet.isNear && !puppet.isPlayerDead)

/-- What the game tells a frame: whether there is a player in the scene other than the racer in the
snow, and the entries of the puppets, of which there may be one that is missing.
-/
structure ModeFrame (F : Type) where
  deltaTime : F
  hasPlayer : Bool := true
  inputs : Inputs := {}
  puppets : List (Option Pursuer) := []

/-- The entries before the first that is missing. -/
def ModeFrame.seen {F : Type} (frame : ModeFrame F) : List Pursuer :=
  (frame.puppets.takeWhile Option.isSome).reduceOption

/-- The player is on the wrong side, and a puppet there tags it. -/
def ModeFrame.Catches {F : Type} (frame : ModeFrame F) (playerTeam : FlagTeam) : Prop :=
  frame.hasPlayer = true
  ∧ frame.inputs.teamSide ≠ playerTeam
  ∧ ∃ puppet ∈ frame.seen, puppet.tags playerTeam = true

instance {F : Type} (frame : ModeFrame F) (playerTeam : FlagTeam)
    : Decidable (frame.Catches playerTeam) :=
  inferInstanceAs (Decidable (_ ∧ _ ∧ _))

namespace CaptureTheFlagMode

-----------------------------------------------------------------------------------------
-- Being tagged
-----------------------------------------------------------------------------------------

section Tags

variable {F : Type} (mode : CaptureTheFlagMode F)

def playerTeam : FlagTeam := mode.client.info.playerTeam

def heldFlag : FlagTeam := mode.client.info.heldFlag

/-- `queueHomeTeleport`, with a player in the scene. -/
def queueHomeTeleport : CaptureTheFlagMode F := { mode with sentHome := mode.sentHome + 1 }

/-- `processPlayerTagged`, both of whose conditions are the same. -/
def processPlayerTagged : CaptureTheFlagMode F :=
  if getOpposingTeam mode.playerTeam = some mode.heldFlag then mode
  else if getOpposingTeam mode.playerTeam = some mode.heldFlag then
    { mode with client := mode.client.respawnHeldFlag }.queueHomeTeleport
  else mode.queueHomeTeleport

/-- What the loop over the puppets does for one of them. -/
def checkPuppet (puppet : Pursuer) : CaptureTheFlagMode F :=
  if puppet.tags mode.playerTeam then mode.processPlayerTagged else mode

/-- The modes in which the loop calls `processPlayerTagged`, in order. -/
def taggedBy (mode : CaptureTheFlagMode F) : List Pursuer → List (CaptureTheFlagMode F)
  | [] => []
  | puppet :: rest =>
      (if puppet.tags mode.playerTeam then [mode] else [])
        ++ (mode.checkPuppet puppet).taggedBy rest

/-- What is to become of a player who is tagged: the other team's flag is released and the player
sent home, the own team's is kept and the player stays, and without a flag the player is sent home.
-/
structure TagIsRight : Prop where
  released
    : getOpposingTeam mode.playerTeam = some mode.heldFlag
      → mode.processPlayerTagged.heldFlag = .invalid
        ∧ mode.processPlayerTagged.client.lastFlagHoldStatePacket
          = { isHeld := false, flagTeam := mode.heldFlag }
        ∧ mode.processPlayerTagged.client.sendQueue
          = mode.client.sendQueue ++ [.lastFlagHoldStatePacket]
        ∧ mode.processPlayerTagged.sentHome = mode.sentHome + 1
  kept
    : mode.heldFlag = mode.playerTeam
      → mode.heldFlag ≠ .invalid
      → mode.processPlayerTagged.heldFlag = mode.heldFlag
        ∧ mode.processPlayerTagged.sentHome = mode.sentHome
  withoutFlag
    : mode.heldFlag = .invalid → mode.processPlayerTagged.sentHome = mode.sentHome + 1

/-- The player has no flag, or no team. -/
def HoldsNone : Prop := mode.heldFlag = .invalid ∨ mode.playerTeam = .invalid

instance : Decidable mode.HoldsNone := inferInstanceAs (Decidable (_ ∨ _))

theorem processPlayerTagged_of_opposing
    (opposing : getOpposingTeam mode.playerTeam = some mode.heldFlag)
    : mode.processPlayerTagged = mode :=
  if_pos opposing

theorem processPlayerTagged_of_not_opposing
    (other : getOpposingTeam mode.playerTeam ≠ some mode.heldFlag)
    : mode.processPlayerTagged = mode.queueHomeTeleport := by
  rw [processPlayerTagged, if_neg other, if_neg other]

/-- A tag takes no flag from anybody. -/
theorem client_processPlayerTagged : mode.processPlayerTagged.client = mode.client := by
  by_cases opposing : getOpposingTeam mode.playerTeam = some mode.heldFlag
  · rw [mode.processPlayerTagged_of_opposing opposing]
  · rw [mode.processPlayerTagged_of_not_opposing opposing]
    rfl

theorem client_checkPuppet (puppet : Pursuer) : (mode.checkPuppet puppet).client = mode.client := by
  unfold checkPuppet
  split_ifs
  · exact mode.client_processPlayerTagged
  · rfl

/-- A tag is handled right exactly for a player who holds no flag or has no team. -/
theorem tagIsRight_iff : mode.TagIsRight ↔ mode.HoldsNone := by
  have opposing_cases
      : mode.HoldsNone
        ∨ getOpposingTeam mode.playerTeam = some mode.heldFlag
        ∨ mode.heldFlag = mode.playerTeam ∧ mode.heldFlag ≠ .invalid := by
    unfold HoldsNone
    cases mode.playerTeam <;> cases mode.heldFlag <;> decide
  constructor
  · intro right
    rcases opposing_cases with none | opposing | ⟨own, flag⟩
    · exact none
    · have home := (right.released opposing).2.2.2
      rw [mode.processPlayerTagged_of_opposing opposing] at home
      exact absurd home (Nat.succ_ne_self _).symm
    · have stays := (right.kept own flag).2
      have other : getOpposingTeam mode.playerTeam ≠ some mode.heldFlag := by
        rw [own]
        cases mode.playerTeam <;> decide
      rw [mode.processPlayerTagged_of_not_opposing other] at stays
      exact absurd stays (Nat.succ_ne_self _)
  · intro none
    have other : getOpposingTeam mode.playerTeam ≠ some mode.heldFlag := by
      rcases none with none | none
      · rw [none]
        cases mode.playerTeam <;> decide
      · rw [none]
        cases mode.heldFlag <;> decide
    rw [HoldsNone] at none
    constructor
    · exact fun opposing => absurd opposing other
    · intro own flag
      rw [own] at flag none
      exact absurd (or_self_iff.mp none) flag
    · rw [mode.processPlayerTagged_of_not_opposing other]
      exact fun _ => rfl

/-- Every tag of a loop finds the client as it was before the loop, by induction on the puppets. -/
theorem client_of_mem_taggedBy {tagged : CaptureTheFlagMode F} {puppets : List Pursuer}
    (member : tagged ∈ mode.taggedBy puppets)
    : tagged.client = mode.client := by
  induction puppets generalizing mode with
  | nil => cases member
  | cons puppet rest ih =>
      rcases List.mem_append.mp member with first | later
      · split_ifs at first
        · rw [List.mem_singleton.mp first]
        · cases first
      · exact (ih _ later).trans (mode.client_checkPuppet puppet)

/-- There is a tag exactly if there is a puppet that tags, by induction on the puppets. -/
theorem taggedBy_ne_nil_iff (puppets : List Pursuer)
    : mode.taggedBy puppets ≠ [] ↔ ∃ puppet ∈ puppets, puppet.tags mode.playerTeam = true := by
  induction puppets generalizing mode with
  | nil => simp [taggedBy]
  | cons puppet rest ih =>
      have team : (mode.checkPuppet puppet).playerTeam = mode.playerTeam := by
        rw [playerTeam, client_checkPuppet, playerTeam]
      rw [taggedBy, ne_eq, List.append_eq_nil_iff, not_and_or, ← ne_eq, ← ne_eq, ih, team]
      simp

/-- The calls in order make up the loop, by induction on the puppets. -/
theorem foldl_taggedBy (puppets : List Pursuer)
    : (mode.taggedBy puppets).foldl (fun _ tagged => tagged.processPlayerTagged) mode
      = puppets.foldl checkPuppet mode := by
  induction puppets generalizing mode with
  | nil => rfl
  | cons puppet rest ih =>
      rw [taggedBy, List.foldl_append, List.foldl_cons, ← ih]
      congr 1
      unfold checkPuppet
      split_ifs <;> rfl

/-- The loop leaves the client as it was. -/
theorem client_foldl_checkPuppet (puppets : List Pursuer)
    : (puppets.foldl checkPuppet mode).client = mode.client := by
  induction puppets generalizing mode with
  | nil => rfl
  | cons puppet rest ih => exact (ih _).trans (mode.client_checkPuppet puppet)

end Tags

-----------------------------------------------------------------------------------------
-- Frames
-----------------------------------------------------------------------------------------

section Frames

variable {F : Type} [Add F] [Sub F] [OfNat F 0] [OfNat F 5] [LE F] [DecidableLE F] [LT F]
  [DecidableLT F] (mode : CaptureTheFlagMode F) (frame : ModeFrame F)

/-- A new mode; what the client knows already is anything. -/
def new (client : Client) : CaptureTheFlagMode F where
  client
  mInvulnTime := 0
  m_teleportTimer := 0

def begin : CaptureTheFlagMode F :=
  { mode with mIsFirstFrame := true, mInvulnTime := 0, mIsActive := true }

/-- `CaptureTheFlagMode::end` -/
def finish : CaptureTheFlagMode F := { mode with mInvulnTime := 0, mIsActive := false }

/-- `isInvulnerable` -/
def IsInvulnerable : Prop := 5 ≤ mode.mInvulnTime

instance : Decidable mode.IsInvulnerable := inferInstanceAs (Decidable (_ ≤ _))

def checkTagged : CaptureTheFlagMode F :=
  if mode.IsInvulnerable then { mode with mInvulnTime := mode.mInvulnTime + frame.deltaTime }
  else if frame.inputs.teamSide = mode.playerTeam then mode
  else frame.seen.foldl checkPuppet mode

/-- What follows on `checkTagged` in a frame. -/
def playOn : CaptureTheFlagMode F :=
  { mode with
    client :=
      ((mode.client.checkPickUpOrDropFlag frame.inputs).sendFlagHoldStateUpdateIfHeld).checkWin
        frame.inputs }

/-- The frame gets to `checkTagged`. -/
def Checks : Prop := ¬0 < mode.m_teleportTimer ∧ frame.hasPlayer = true

instance : Decidable (mode.Checks frame) := inferInstanceAs (Decidable (_ ∧ _))

def update : CaptureTheFlagMode F :=
  if 0 < mode.m_teleportTimer then
    { mode with m_teleportTimer := mode.m_teleportTimer - frame.deltaTime }
  else
    let mode := { mode with mIsFirstFrame := false }
    if frame.hasPlayer then (mode.checkTagged frame).playOn frame else mode

/-- The modes in which a frame calls `processPlayerTagged`. -/
def tags : List (CaptureTheFlagMode F) :=
  if mode.Checks frame ∧ ¬mode.IsInvulnerable ∧ frame.inputs.teamSide ≠ mode.playerTeam then
    { mode with mIsFirstFrame := false }.taggedBy frame.seen
  else []

/-- The branch of `updateCTFPlayerTeamAssignment` for our player. -/
def updateCTFPlayerTeamAssignment (team : FlagTeam) (shouldHoldTeamFlag : Bool)
    : CaptureTheFlagMode F :=
  if mode.client.isModeActive then
    { mode with
      client :=
        { mode.client with
          info :=
            { mode.client.info with
              playerTeam := team
              heldFlag := if shouldHoldTeamFlag then team else mode.heldFlag } } }
  else mode

/-- `updateCTFGameState`, of which the time of the round is left out. -/
def updateCTFGameState (resetGame : Bool) : CaptureTheFlagMode F :=
  if mode.client.isModeActive ∧ resetGame then
    { mode with client := { mode.client with info := {} } }
  else mode

omit [Add F] [Sub F] in
/-- A frame has tags exactly if the player is not protected and is caught. -/
theorem tags_ne_nil_iff
    : mode.tags frame ≠ []
      ↔ ¬0 < mode.m_teleportTimer ∧ ¬mode.IsInvulnerable ∧ frame.Catches mode.playerTeam := by
  rw [tags, ModeFrame.Catches]
  split_ifs with checked
  · obtain ⟨⟨timer, player⟩, invulnerable, side⟩ := checked
    rw [taggedBy_ne_nil_iff]
    exact ⟨fun caught => ⟨timer, invulnerable, player, side, caught⟩, fun caught => caught.2.2.2.2⟩
  · refine iff_of_false (fun none => none rfl) ?_
    rintro ⟨timer, invulnerable, player, side, -⟩
    exact checked ⟨⟨timer, player⟩, invulnerable, side⟩

omit [Sub F] in
/-- What the puppets do to the player in a frame are its tags. -/
theorem checkTagged_eq_tags (checks : mode.Checks frame) (unprotected : ¬mode.IsInvulnerable)
    : { mode with mIsFirstFrame := false }.checkTagged frame
      = (mode.tags frame).foldl (fun _ tagged => tagged.processPlayerTagged)
          { mode with mIsFirstFrame := false } := by
  have still : ¬IsInvulnerable { mode with mIsFirstFrame := false } := unprotected
  rw [checkTagged, if_neg still, tags]
  by_cases side : frame.inputs.teamSide = mode.playerTeam
  · have untagged
        : ¬(mode.Checks frame ∧ ¬mode.IsInvulnerable
            ∧ frame.inputs.teamSide ≠ mode.playerTeam) :=
      fun caught => caught.2.2 side
    rw [if_neg untagged]
    exact if_pos side
  · have tagged
        : mode.Checks frame ∧ ¬mode.IsInvulnerable ∧ frame.inputs.teamSide ≠ mode.playerTeam :=
      ⟨checks, unprotected, side⟩
    rw [if_pos tagged, foldl_taggedBy]
    exact if_neg side

omit [Add F] [Sub F] in
theorem client_of_mem_tags {tagged : CaptureTheFlagMode F} (member : tagged ∈ mode.tags frame)
    : tagged.client = mode.client := by
  rw [tags] at member
  split_ifs at member
  · exact client_of_mem_taggedBy { mode with mIsFirstFrame := false } member
  · cases member

omit [Sub F] [OfNat F 0] [LT F] [DecidableLT F] in
theorem client_checkTagged : (mode.checkTagged frame).client = mode.client := by
  unfold checkTagged
  split_ifs
  · rfl
  · rfl
  · exact mode.client_foldl_checkPuppet frame.seen

/-- What a frame makes of the client is what it is elsewhere, whoever tags the player. -/
theorem client_update (checks : mode.Checks frame)
    : (mode.update frame).client = mode.client.update frame.inputs := by
  rw [update, if_neg checks.1, if_pos checks.2, playOn, client_checkTagged, Client.update,
    Client.checkTagged_eq]

-----------------------------------------------------------------------------------------
-- One step
-----------------------------------------------------------------------------------------

/-- Between frames the mode begins or ends, it is switched on or off, and packets are read. -/
inductive Event (F : Type)
  | begin
  | finish
  | toggleActive
  | update (frame : ModeFrame F)
  | playerTeamAssignment (team : FlagTeam) (shouldHoldTeamFlag : Bool)
  | gameState (resetGame : Bool)
  | readPacket (packet : Packet)

/-- There are only frames of a mode that has begun. -/
def step (mode : CaptureTheFlagMode F) : Event F → Option (CaptureTheFlagMode F)
  | .begin => some mode.begin
  | .finish => some mode.finish
  | .toggleActive =>
      some
        { mode with client := { mode.client with isModeActive := !mode.client.isModeActive } }
  | .update frame => if mode.mIsActive then some (mode.update frame) else none
  | .playerTeamAssignment team shouldHoldTeamFlag =>
      some (mode.updateCTFPlayerTeamAssignment team shouldHoldTeamFlag)
  | .gameState resetGame => some (mode.updateCTFGameState resetGame)
  | .readPacket packet =>
      some { mode with client := mode.client.readPacket mode.mIsFirstFrame packet }

/-- What a frame does with its tags: each is processed in the mode that it finds, and the client
comes out of the frame as of one of the game elsewhere.
-/
structure TakesTags (mode : CaptureTheFlagMode F) (frame : ModeFrame F) : Prop where
  processed
    : ¬mode.IsInvulnerable
      → { mode with mIsFirstFrame := false }.checkTagged frame
        = (mode.tags frame).foldl (fun _ tagged => tagged.processPlayerTagged)
            { mode with mIsFirstFrame := false }
  client : (mode.update frame).client = mode.client.update frame.inputs

/-- Every tag of a frame is handled right. -/
def TagsAreRight (mode : CaptureTheFlagMode F) : Event F → Prop
  | .update frame => ∀ tagged ∈ mode.tags frame, tagged.TagIsRight
  | _ => True

/-- No frame catches a player who has a team and holds a flag. -/
def CaughtWithoutFlag (mode : CaptureTheFlagMode F) : Event F → Prop
  | .update frame =>
      ¬0 < mode.m_teleportTimer
      → ¬mode.IsInvulnerable
      → frame.Catches mode.playerTeam
      → mode.HoldsNone
  | _ => True

omit [Add F] [Sub F] in
/-- The tags of a frame are handled right where the player holds no flag. -/
theorem tagsAreRight_iff (event : Event F)
    : mode.CaughtWithoutFlag event ↔ mode.TagsAreRight event := by
  cases event with
  | update frame =>
      have same {tagged : CaptureTheFlagMode F} (member : tagged ∈ mode.tags frame)
          : tagged.TagIsRight ↔ mode.HoldsNone := by
        rw [tagIsRight_iff, HoldsNone, HoldsNone, heldFlag, playerTeam,
          mode.client_of_mem_tags frame member, heldFlag, playerTeam]
      constructor
      · intro without tagged member
        have tagging := (mode.tags_ne_nil_iff frame).mp (List.ne_nil_of_mem member)
        exact (same member).mpr (without tagging.1 tagging.2.1 tagging.2.2)
      · intro right timer invulnerable caught
        have tagging := (mode.tags_ne_nil_iff frame).mpr ⟨timer, invulnerable, caught⟩
        obtain ⟨tagged, member⟩ := List.exists_mem_of_ne_nil _ tagging
        exact (same member).mp (right tagged member)
  | _ => exact Iff.rfl

/-- In the runs in which no player who holds a flag is caught, and in no others, every tag is
handled right. The tags are what the frames do with the player.
-/
theorem run_tagsAreRight_iff (client : Client) (events : List (Event F))
    (mode : CaptureTheFlagMode F)
    : (Run step CaughtWithoutFlag (new client) events mode
        ↔ Run step TagsAreRight (new client) events mode)
      ∧ ∀ frame, mode.Checks frame → mode.TakesTags frame := by
  constructor
  · exact Run.congr (fun _ => True) trivial (fun _ _ _ => trivial) fun _ _ => tagsAreRight_iff _ _
  · intro frame checks
    exact ⟨mode.checkTagged_eq_tags frame checks, mode.client_update frame checks⟩

/-- A frame of a player on the other side who comes upon one of the blue team. -/
def caughtFrame : ModeFrame Int where
  deltaTime := 0
  inputs := { teamSide := .blue }
  puppets := [some { ctfTeam := .blue }]

/-- A frame of a player who picks up a flag on the other side. -/
def pickUpFrame : ModeFrame Int where
  deltaTime := 0
  inputs := { buttonPress := true, near := fun _ => true, teamSide := .blue }

/-- A player who is caught with the other team's flag keeps it and is not sent home, and the captain
who is caught with the own team's flag is sent home.
-/
theorem tagged_with_flag
    : (∃ mode,
        AnyRun step (new {}) [.begin, .playerTeamAssignment .red false, .update pickUpFrame] mode
        ∧ mode.heldFlag = .blue
        ∧ mode.tags caughtFrame ≠ []
        ∧ (mode.update caughtFrame).heldFlag = .blue
        ∧ (mode.update caughtFrame).sentHome = mode.sentHome)
      ∧ ∃ mode,
          AnyRun step (new {}) [.begin, .playerTeamAssignment .red true] mode
          ∧ mode.heldFlag = .red
          ∧ mode.tags caughtFrame ≠ []
          ∧ (mode.update caughtFrame).sentHome = mode.sentHome + 1 :=
  ⟨exists_run _ (by decide), exists_run _ (by decide)⟩

end Frames

-----------------------------------------------------------------------------------------
-- Protection
-----------------------------------------------------------------------------------------

/-- The mode, and the frame times of `checkTagged` since it began, added up until they come to five
seconds.
-/
structure Protected (F : Type) where
  mode : CaptureTheFlagMode F
  checkedTime : F

namespace Protected

section Frames

variable {F : Type} [Add F] [Sub F] [OfNat F 0] [OfNat F 5] [LE F] [DecidableLE F] [LT F]
  [DecidableLT F] (guarded : Protected F)

/-- A new mode. -/
def new (client : Client) : Protected F where
  mode := .new client
  checkedTime := 0

/-- The time is over. -/
def IsOver : Prop := 5 ≤ guarded.checkedTime

instance : Decidable guarded.IsOver := inferInstanceAs (Decidable (_ ≤ _))

/-- The time that has been checked after an event. -/
def timeAfter : Event F → F
  | .begin => 0
  | .update frame =>
      if guarded.mode.Checks frame ∧ ¬guarded.IsOver then guarded.checkedTime + frame.deltaTime
      else guarded.checkedTime
  | _ => guarded.checkedTime

def step (guarded : Protected F) (event : Event F) : Option (Protected F) :=
  (guarded.mode.step event).map fun mode => { mode, checkedTime := guarded.timeAfter event }

/-- Before the time is over the player is not processed as tagged. -/
def Spares (guarded : Protected F) : Event F → Prop
  | .update frame => ¬guarded.IsOver → guarded.mode.tags frame = []
  | _ => True

/-- After it a player who is caught is. -/
def Exposes (guarded : Protected F) : Event F → Prop
  | .update frame =>
      guarded.IsOver → frame.Catches guarded.mode.playerTeam → guarded.mode.tags frame ≠ []
  | _ => True

/-- Before the time is over nobody catches the player. -/
def NotCaught (guarded : Protected F) : Event F → Prop
  | .update frame => ¬guarded.IsOver → ¬frame.Catches guarded.mode.playerTeam
  | _ => True

/-- Nothing protects: both timers are zero. -/
def TimersAreZero (guarded : Protected F) : Prop :=
  guarded.mode.mInvulnTime = 0 ∧ guarded.mode.m_teleportTimer = 0

theorem timers_foldl_checkPuppet {F : Type} (mode : CaptureTheFlagMode F) (puppets : List Pursuer)
    : (puppets.foldl checkPuppet mode).mInvulnTime = mode.mInvulnTime
      ∧ (puppets.foldl checkPuppet mode).m_teleportTimer = mode.m_teleportTimer := by
  induction puppets generalizing mode with
  | nil => exact ⟨rfl, rfl⟩
  | cons puppet rest ih =>
      obtain ⟨invuln, teleport⟩ := ih (mode.checkPuppet puppet)
      have first
          : (mode.checkPuppet puppet).mInvulnTime = mode.mInvulnTime
            ∧ (mode.checkPuppet puppet).m_teleportTimer = mode.m_teleportTimer := by
        unfold checkPuppet processPlayerTagged
        split_ifs <;> exact ⟨rfl, rfl⟩
      exact ⟨invuln.trans first.1, teleport.trans first.2⟩

omit [Sub F] [OfNat F 0] [LT F] [DecidableLT F] in
theorem timers_checkTagged (mode : CaptureTheFlagMode F) (frame : ModeFrame F)
    (unprotected : ¬mode.IsInvulnerable)
    : (mode.checkTagged frame).mInvulnTime = mode.mInvulnTime
      ∧ (mode.checkTagged frame).m_teleportTimer = mode.m_teleportTimer := by
  rw [checkTagged, if_neg unprotected]
  split_ifs
  · exact ⟨rfl, rfl⟩
  · exact timers_foldl_checkPuppet mode frame.seen

variable (five : ¬(5 : F) ≤ 0) (zero : ¬(0 : F) < 0)
include five zero

/-- The timers are zero after every event, since a player is only taken for protected when one of
them is not.
-/
theorem timersAreZero_step {event : Event F} {next : Protected F} (zeros : guarded.TimersAreZero)
    (taken : guarded.step event = some next)
    : next.TimersAreZero := by
  obtain ⟨mode, stepped, rfl⟩ := Option.map_eq_some_iff.mp taken
  obtain ⟨invuln, teleport⟩ := zeros
  cases event with
  | begin =>
      obtain rfl := Option.some.inj stepped
      exact ⟨rfl, teleport⟩
  | finish =>
      obtain rfl := Option.some.inj stepped
      exact ⟨rfl, teleport⟩
  | toggleActive =>
      obtain rfl := Option.some.inj stepped
      exact ⟨invuln, teleport⟩
  | update frame =>
      rw [CaptureTheFlagMode.step] at stepped
      split_ifs at stepped
      obtain rfl := Option.some.inj stepped
      have unprotected : ¬guarded.mode.IsInvulnerable := by
        rwa [IsInvulnerable, invuln]
      rw [TimersAreZero, update, if_neg (by rwa [teleport])]
      split_ifs
      · have checked :=
          timers_checkTagged { guarded.mode with mIsFirstFrame := false } frame unprotected
        exact ⟨checked.1.trans invuln, checked.2.trans teleport⟩
      · exact ⟨invuln, teleport⟩
  | playerTeamAssignment team shouldHoldTeamFlag =>
      obtain rfl := Option.some.inj stepped
      unfold updateCTFPlayerTeamAssignment
      split_ifs <;> exact ⟨invuln, teleport⟩
  | gameState resetGame =>
      obtain rfl := Option.some.inj stepped
      unfold updateCTFGameState
      split_ifs <;> exact ⟨invuln, teleport⟩
  | readPacket packet =>
      obtain rfl := Option.some.inj stepped
      exact ⟨invuln, teleport⟩

omit [Add F] [Sub F] in
/-- Where the timers are zero, a player is tagged exactly when caught. -/
theorem tags_ne_nil_iff_catches (zeros : guarded.TimersAreZero) (frame : ModeFrame F)
    : guarded.mode.tags frame ≠ [] ↔ frame.Catches guarded.mode.playerTeam := by
  rw [tags_ne_nil_iff, IsInvulnerable, zeros.1, zeros.2]
  exact ⟨fun tagged => tagged.2.2, fun caught => ⟨zero, five, caught⟩⟩

/-- In the runs in which nobody catches the player before the time is over, and in no others, the
player is spared until then; after it the player is tagged when caught.
-/
theorem run_spares_iff (client : Client) (events : List (Event F)) (guarded : Protected F)
    : (Run step NotCaught (new client) events guarded
        ↔ Run step Spares (new client) events guarded)
      ∧ (AnyRun step (new client) events guarded → ∀ event, guarded.Exposes event) := by
  constructor
  · refine Run.congr TimersAreZero ⟨rfl, rfl⟩
      (fun zeros _ taken => timersAreZero_step _ five zero zeros taken) ?_
    intro guarded event next zeros _
    cases event with
    | update frame =>
        refine forall_congr' fun early => ?_
        rw [← tags_ne_nil_iff_catches guarded five zero zeros frame, not_not]
    | _ => exact Iff.rfl
  · intro run event
    have zeros : guarded.TimersAreZero :=
      run.invariant ⟨rfl, rfl⟩ fun zeros _ taken => timersAreZero_step _ five zero zeros taken
    cases event with
    | update frame =>
        exact fun _ caught => (tags_ne_nil_iff_catches guarded five zero zeros frame).mpr caught
    | _ => trivial

end Frames

/-- A player whom nobody comes upon for six seconds is spared, and tagged then. -/
theorem run_spares_six
    : ∃ guarded,
        Run step Spares (new {} : Protected Int)
          [.begin, .playerTeamAssignment .red false, .update { deltaTime := 6 }] guarded
        ∧ guarded.IsOver
        ∧ guarded.mode.tags caughtFrame ≠ [] := by
  have alone {playerTeam : FlagTeam}
      : ¬({ deltaTime := 6 } : ModeFrame Int).Catches playerTeam := by
    rintro ⟨-, -, puppet, member, -⟩
    cases member
  have run
      : Run step NotCaught (new {} : Protected Int)
          ([] ++ [.begin] ++ [.playerTeamAssignment .red false] ++ [.update { deltaTime := 6 }])
          _ :=
    ((Run.nil.snoc trivial rfl).snoc trivial rfl).snoc (fun _ => alone) rfl
  exact ⟨_, (run_spares_iff (by decide) (by decide) {} _ _).1.mp run, by decide, by decide⟩

/-- A player is tagged in the first frame. -/
theorem tagged_at_once
    : ∃ guarded,
        AnyRun step (new {} : Protected Int) [.begin, .playerTeamAssignment .red false] guarded
        ∧ guarded.mode.mIsActive = true
        ∧ guarded.checkedTime = 0
        ∧ guarded.mode.tags caughtFrame ≠ [] :=
  exists_run _ (by decide)

end Protected

end CaptureTheFlagMode

end SmoOnline.Mod
