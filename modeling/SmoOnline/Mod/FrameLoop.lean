import Mathlib.Data.List.Induction
import SmoOnline.Library.Recent
import SmoOnline.Mod.CaptureSync
import SmoOnline.Mod.Suppression

/-! When a game tells of its player. Every frame counts two timers on, and a sender is called when
its timer has run out: of the player each third frame, of the stage each sixtieth and as a stage is
entered. What the queue may refuse is a matter of the senders.
-/

namespace SmoOnline.Mod

open Runs Span Recent

-----------------------------------------------------------------------------------------
-- Frames
-----------------------------------------------------------------------------------------

/-- What a frame finds of the player. -/
structure Frame (Value : Type) where
  /-- the player is not a `PlayerActorHakoniwa` -/
  isYukimaru : Bool := false
  player : Value
  /-- `getCurrentHackName()` -/
  hackName : Option Bytes := none
  /-- where the cap flies, if it does -/
  cap : Option Value := none
  game : Value

/-- The frames and the stages that a game goes through. -/
inductive Moment (Value : Type)
  | frame (frame : Frame Value)
  | stageInit (game : Value)

def Moment.isFrame {Value : Type} : Moment Value → Bool
  | .frame _ => true
  | .stageInit _ => false

def Moment.game {Value : Type} : Moment Value → Value
  | .frame found => found.game
  | .stageInit game => game

structure FrameLoop (Value : Type) where
  ticking : Ticking Value
  pInfSendTimer : Nat := 0
  gameInfSendTimer : Nat := 0

namespace FrameLoop

/-- The frames from one `sendPlayerInfPacket` to the next, and from one `sendGameInfPacket`. -/
def playerFrames : Nat := 3

def gameFrames : Nat := 60

variable {Value : Type} (loop : FrameLoop Value)

/-- What `updatePlayerInfo` sends when `pInfSendTimer` has run out. -/
def playerTicks (frame : Frame Value) : List (Tick Value) :=
  if frame.isYukimaru then [.sendPlayerInfPacket frame.player false]
  else
    [.sendPlayerInfPacket frame.player frame.hackName.isSome, .sendHackCapInfPacket frame.cap,
      .sendCaptureInfPacket ((frame.hackName.map tryConvertName).getD [])]

/-- What it sends when `gameInfSendTimer` has run out. -/
def gameTick (frame : Frame Value) : Tick Value :=
  if frame.isYukimaru then .sendGameInfPacketOfStage frame.game else .sendGameInfPacket frame.game

def ticks (frame : Frame Value) : List (Tick Value) :=
  (if playerFrames ≤ loop.pInfSendTimer then playerTicks frame else [])
  ++ if gameFrames ≤ loop.gameInfSendTimer then [gameTick frame] else []

variable [DecidableEq Value]

/-- `updatePlayerInfo` -/
def updatePlayerInfo (frame : Frame Value) : Option (FrameLoop Value) :=
  (execute Ticking.step loop.ticking ((loop.ticks frame).map .tick)).map fun ticking =>
    { ticking
      pInfSendTimer := (if playerFrames ≤ loop.pInfSendTimer then 0 else loop.pInfSendTimer) + 1
      gameInfSendTimer :=
        (if gameFrames ≤ loop.gameInfSendTimer then 0 else loop.gameInfSendTimer) + 1 }

/-- A call of a sender, or what else happens to the queue. -/
def tell (event : TickEvent Value) : Option (FrameLoop Value) :=
  (loop.ticking.step event).map fun ticking => { loop with ticking }

/-- A game with one user, from its first frame on. -/
def initial (userId : Guid) : FrameLoop Value where
  ticking := { client := { mUserID := userId } }

end FrameLoop

inductive FrameEvent (Value : Type)
  /-- `hakoniwaSequenceHook` -/
  | frame (frame : Frame Value)
  /-- `stageInitHook` -/
  | stageInit (game : Value)
  /-- a moon of the player -/
  | sendShineCollectPacket (shineID : Int32)
  | other (event : OtherEvent)

namespace FrameLoop

variable {Value : Type} [DecidableEq Value]

def step (loop : FrameLoop Value) : FrameEvent Value → Option (FrameLoop Value)
  | .frame frame => loop.updatePlayerInfo frame
  | .stageInit game => loop.tell (.tick (.sendGameInfPacketOfStage game))
  | .sendShineCollectPacket shineID => loop.tell (.tick (.sendShineCollectPacket shineID))
  | .other event => loop.tell (.other event)

end FrameLoop

def FrameEvent.moment {Value : Type} : FrameEvent Value → Option (Moment Value)
  | .frame found => some (.frame found)
  | .stageInit game => some (.stageInit game)
  | .sendShineCollectPacket _ | .other _ => none

namespace Ticking

variable {Value : Type} [DecidableEq Value] {ticking next : Ticking Value} {tick : Tick Value}

end Ticking

-----------------------------------------------------------------------------------------
-- Frame by frame
-----------------------------------------------------------------------------------------

namespace FrameLoop

variable {Value : Type} {loop next : FrameLoop Value} {history : List (Moment Value)}

/-- The player was told of as one of the last moments found it, and the stage. -/
structure Told (loop : FrameLoop Value) (history : List (Moment Value)) : Prop where
  remembers : loop.ticking.Remembers
  player
    : Timed Moment.isFrame playerFrames loop.pInfSendTimer history fun moment =>
        ∃ frame, moment = .frame frame
          ∧ loop.ticking.offered .playerInf = some (.playerInf frame.player)
  game
    : Timed Moment.isFrame gameFrames loop.gameInfSendTimer history fun moment =>
        loop.ticking.offered .gameInf = some (.gameInf moment.game)

variable [DecidableEq Value]

end FrameLoop

end SmoOnline.Mod
