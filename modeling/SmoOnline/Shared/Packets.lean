import SmoOnline.Shared.Header

/-! The packet structs: each one's size, its stores and its reads, offset by offset.
A `Serialize` is the list of its statements; a `Deserialize` is refused where a slice or a
read of it throws.
-/

namespace SmoOnline

open Span Utf8

/-- `Constants.CostumeNameSize`, which `ConnectPacket` also uses for the player name. -/
def costumeNameSize : Nat := 0x20

/-- `Encoding.UTF8.GetString(..).TrimNullTerm()`. -/
def getNullTerm (octets : Bytes) : Text := cString (decode octets)

/-- `Encoding.UTF8.GetString(..).TrimEnd('\0')`. -/
def getTrimmed (octets : Bytes) : Text := trimNuls (decode octets)

structure InitPacket where
  maxPlayers : UInt16
  deriving DecidableEq, Repr

namespace InitPacket

def size : Nat := 2

def serialize (packet : InitPacket) : List Store := [.write 0 packet.maxPlayers]

def deserialize (data : Bytes) : Option InitPacket := do
  let maxPlayers ← readAt UInt16 data 0
  return { maxPlayers }

end InitPacket

structure PlayerPacket where
  position : Vector3
  rotation : Quaternion
  animationBlendWeights : List UInt32
  act : UInt16
  subAct : UInt16
  deriving DecidableEq, Repr

namespace PlayerPacket

def size : Nat := 0x38

def serialize (packet : PlayerPacket) : List Store := [
  .write 0 packet.position (some 12),
  .write 12 packet.rotation (some 28),
  .copy 28 (packet.animationBlendWeights.flatMap toBytes) (some 52),
  .write 52 packet.act (some 54),
  .write 54 packet.subAct (some 56)
]

def deserialize (data : Bytes) : Option PlayerPacket := do
  let position ← readAt Vector3 data 0 12
  let rotation ← readAt Quaternion data 12 28
  let weights ← slice? data 28 52
  let act ← readAt UInt16 data 52 54
  let subAct ← readAt UInt16 data 54 56
  return {
    position
    rotation
    animationBlendWeights := readMany UInt32 6 weights
    act
    subAct
  }

end PlayerPacket

structure CapPacket where
  position : Vector3
  rotation : Quaternion
  capOut : Bool
  capAnim : Text
  deriving DecidableEq, Repr

namespace CapPacket

def nameSize : Nat := 0x30

def size : Nat := 0x50

def serialize (packet : CapPacket) : List Store := [
  .write 0 packet.position,
  .write 12 packet.rotation,
  .write 28 packet.capOut,
  .copy 32 (encode packet.capAnim) (some (32 + nameSize))
]

def deserialize (data : Bytes) : Option CapPacket := do
  let position ← readAt Vector3 data 0
  let rotation ← readAt Quaternion data 12
  let capOut ← readAt Bool data 28
  let capAnim ← slice? data 32 (32 + nameSize)
  return { position, rotation, capOut, capAnim := getTrimmed capAnim }

end CapPacket

structure GamePacket where
  is2d : Bool
  scenarioNum : UInt8
  stage : Text
  deriving DecidableEq, Repr

namespace GamePacket

def stageSize : Nat := 0x40

def size : Nat := 0x42

def serialize (packet : GamePacket) : List Store := [
  .write 0 packet.is2d,
  .write 1 packet.scenarioNum,
  .copy 2 (encode packet.stage) (some (2 + stageSize))
]

def deserialize (data : Bytes) : Option GamePacket := do
  let is2d ← readAt Bool data 0
  let scenarioNum ← readAt UInt8 data 1
  let stage ← slice? data 2 (2 + stageSize)
  return { is2d, scenarioNum, stage := getTrimmed stage }

end GamePacket

/-- `[Flags] enum TagUpdate : byte`: `Time = 1`, `State = 2`. -/
structure TagUpdate where
  value : UInt8
  deriving DecidableEq, Repr

namespace TagUpdate

def time : TagUpdate := ⟨1⟩
def state : TagUpdate := ⟨2⟩

/-- `(update & flag) != 0`. -/
def has (update flag : TagUpdate) : Bool := update.value &&& flag.value != 0

end TagUpdate

instance : Blittable TagUpdate := Blittable.via TagUpdate.value TagUpdate.mk (fun _ => rfl)

@[simp] theorem size_tagUpdate : Blittable.size TagUpdate = 1 := rfl

structure TagPacket where
  updateType : TagUpdate
  isIt : Bool
  seconds : UInt8
  minutes : UInt16
  deriving DecidableEq, Repr

namespace TagPacket

def size : Nat := 6

def serialize (packet : TagPacket) : List Store := [
  .write 0 packet.updateType,
  .write 1 packet.isIt,
  .write 2 packet.seconds,
  .write 4 packet.minutes
]

def deserialize (data : Bytes) : Option TagPacket := do
  let updateType ← readAt TagUpdate data 0
  let isIt ← readAt Bool data 1
  let seconds ← readAt UInt8 data 2
  let minutes ← readAt UInt16 data 4
  return { updateType, isIt, seconds, minutes }

end TagPacket

/-- `enum ConnectionTypes`: `FirstConnection`, `Reconnecting`, or any other `int`. -/
structure ConnectionType where
  value : Int32
  deriving DecidableEq, Repr

namespace ConnectionType

def firstConnection : ConnectionType := ⟨0⟩
def reconnecting : ConnectionType := ⟨1⟩

end ConnectionType

instance : Blittable ConnectionType :=
  Blittable.via ConnectionType.value ConnectionType.mk (fun _ => rfl)

@[simp] theorem size_connectionType : Blittable.size ConnectionType = 4 := rfl

structure ConnectPacket where
  connectionType : ConnectionType
  maxPlayers : UInt16
  clientName : Text
  deriving DecidableEq, Repr

namespace ConnectPacket

def size : Nat := 6 + costumeNameSize

def serialize (packet : ConnectPacket) : List Store := [
  .write 0 packet.connectionType,
  .write 4 packet.maxPlayers,
  .copy 6 (encode packet.clientName) (some (6 + costumeNameSize))
]

def deserialize (data : Bytes) : Option ConnectPacket := do
  let connectionType ← readAt ConnectionType data 0
  let maxPlayers ← readAt UInt16 data 4
  let clientName ← slice? data 6 (6 + costumeNameSize)
  return { connectionType, maxPlayers, clientName := getNullTerm clientName }

end ConnectPacket

structure DisconnectPacket where
  deriving DecidableEq, Repr

namespace DisconnectPacket

def size : Nat := 0

def serialize (_ : DisconnectPacket) : List Store := []

def deserialize (_ : Bytes) : Option DisconnectPacket := some {}

end DisconnectPacket

structure CostumePacket where
  bodyName : Text
  capName : Text
  deriving DecidableEq, Repr

namespace CostumePacket

def size : Nat := costumeNameSize * 2

def serialize (packet : CostumePacket) : List Store := [
  .copy 0 (encode packet.bodyName) (some costumeNameSize),
  .copy costumeNameSize (encode packet.capName)
]

def deserialize (data : Bytes) : Option CostumePacket := do
  let bodyName ← slice? data 0 costumeNameSize
  let capName ← slice? data costumeNameSize data.length
  return { bodyName := getNullTerm bodyName, capName := getNullTerm capName }

end CostumePacket

structure ShinePacket where
  shineId : Int32
  deriving DecidableEq, Repr

namespace ShinePacket

def size : Nat := 4

def serialize (packet : ShinePacket) : List Store := [.write 0 packet.shineId]

def deserialize (data : Bytes) : Option ShinePacket := do
  let shineId ← readAt Int32 data 0
  return { shineId }

end ShinePacket

structure CapturePacket where
  modelName : Text
  deriving DecidableEq, Repr

namespace CapturePacket

def size : Nat := costumeNameSize

def serialize (packet : CapturePacket) : List Store :=
  [.copy 0 (encode packet.modelName) (some costumeNameSize)]

def deserialize (data : Bytes) : Option CapturePacket := do
  let modelName ← slice? data 0 costumeNameSize
  return { modelName := getNullTerm modelName }

end CapturePacket

structure ChangeStagePacket where
  stage : Text
  id : Text
  scenario : Int8
  subScenarioType : UInt8
  deriving DecidableEq, Repr

namespace ChangeStagePacket

def idSize : Nat := 0x10

def stageSize : Nat := 0x30

def size : Nat := 0x44

def serialize (packet : ChangeStagePacket) : List Store := [
  .copy 0 (encode packet.stage) (some stageSize),
  .copy stageSize (encode packet.id) (some (idSize + stageSize)),
  .write (idSize + stageSize) packet.scenario (some (idSize + stageSize + 1)),
  .write (idSize + stageSize + 1) packet.subScenarioType (some (idSize + stageSize + 2))
]

def deserialize (data : Bytes) : Option ChangeStagePacket := do
  let stage ← slice? data 0 stageSize
  let id ← slice? data stageSize (idSize + stageSize)
  let scenario ← readAt Int8 data (idSize + stageSize) (idSize + stageSize + 1)
  let subScenarioType ← readAt UInt8 data (idSize + stageSize + 1) (idSize + stageSize + 2)
  return { stage := getNullTerm stage, id := getNullTerm id, scenario, subScenarioType }

end ChangeStagePacket

structure CaptureTheFlagPlayerTeamAssignmentPacket where
  team : CaptureTheFlagTeam
  shouldHoldTeamFlag : Bool
  deriving DecidableEq, Repr

namespace CaptureTheFlagPlayerTeamAssignmentPacket

def size : Nat := 2

/-- `Marshal.SizeOf<bool>()`: the size of an unmanaged `BOOL`, not of the one-octet `bool`. -/
def marshalSizeOfBool : Nat := 4

def serialize (packet : CaptureTheFlagPlayerTeamAssignmentPacket) : List Store := [
  .write 0 packet.team (some 1),
  .write 1 packet.shouldHoldTeamFlag (some (1 + marshalSizeOfBool))
]

def deserialize (data : Bytes) : Option CaptureTheFlagPlayerTeamAssignmentPacket := do
  let team ← readAt UInt8 data 0 1
  let shouldHoldTeamFlag ← readAt Bool data 1 (1 + marshalSizeOfBool)
  return { team := ⟨team⟩, shouldHoldTeamFlag }

end CaptureTheFlagPlayerTeamAssignmentPacket

structure CaptureTheFlagGameStatePacket where
  seconds : UInt8
  minutes : UInt16
  resetGame : Bool
  deriving DecidableEq, Repr

namespace CaptureTheFlagGameStatePacket

def size : Nat := 4

def serialize (packet : CaptureTheFlagGameStatePacket) : List Store :=
  let resetGame : UInt8 := if packet.resetGame then 1 else 0
  [
    .write 0 packet.seconds (some 1),
    .write 1 packet.minutes (some 3),
    .write 3 resetGame (some 4)
  ]

def deserialize (data : Bytes) : Option CaptureTheFlagGameStatePacket := do
  let seconds ← readAt UInt8 data 0 1
  let minutes ← readAt UInt16 data 1 3
  let resetGame ← readAt UInt8 data 3 4
  return { seconds, minutes, resetGame := resetGame == 1 }

end CaptureTheFlagGameStatePacket

structure FlagHoldStatePacket where
  isHeld : Bool
  team : CaptureTheFlagTeam
  deriving DecidableEq, Repr

namespace FlagHoldStatePacket

def size : Nat := 2

def serialize (packet : FlagHoldStatePacket) : List Store :=
  let isHeld : UInt8 := if packet.isHeld then 1 else 0
  [.write 0 isHeld (some 1), .write 1 packet.team (some 2)]

def deserialize (data : Bytes) : Option FlagHoldStatePacket := do
  let isHeld ← readAt UInt8 data 0 1
  let team ← readAt UInt8 data 1 2
  return { isHeld := isHeld == 1, team := ⟨team⟩ }

end FlagHoldStatePacket

structure FlagDroppedPositionPacket where
  team : CaptureTheFlagTeam
  position : Vector3
  rotation : Quaternion
  scenarioNum : Int32
  stage : Text
  deriving DecidableEq, Repr

namespace FlagDroppedPositionPacket

def stageSize : Nat := 0x40

def size : Nat := 4 + 12 + 16 + 4 + stageSize

/-- The one octet of the team goes into a slice of four. -/
def serialize (packet : FlagDroppedPositionPacket) : List Store := [
  .write 0 packet.team (some 4),
  .write 4 packet.position (some 16),
  .write 16 packet.rotation (some 32),
  .write 32 packet.scenarioNum (some 36),
  .copy 36 (encode packet.stage) (some (36 + stageSize))
]

/-- The team is read as an `int` and cut to its low octet. -/
def deserialize (data : Bytes) : Option FlagDroppedPositionPacket := do
  let team ← readAt UInt32 data 0 4
  let position ← readAt Vector3 data 4 16
  let rotation ← readAt Quaternion data 16 32
  let scenarioNum ← readAt Int32 data 32 36
  let stage ← slice? data 36 (36 + stageSize)
  return { team := ⟨team.toUInt8⟩, position, rotation, scenarioNum, stage := getTrimmed stage }

end FlagDroppedPositionPacket

structure CaptureTheFlagWinPacket where
  winningTeam : CaptureTheFlagTeam
  deriving DecidableEq, Repr

namespace CaptureTheFlagWinPacket

def size : Nat := 1

def serialize (packet : CaptureTheFlagWinPacket) : List Store :=
  [.write 0 packet.winningTeam (some 1)]

def deserialize (data : Bytes) : Option CaptureTheFlagWinPacket := do
  let winningTeam ← readAt UInt8 data 0 1
  return { winningTeam := ⟨winningTeam⟩ }

end CaptureTheFlagWinPacket

structure UnhandledPacket where
  data : Bytes
  deriving DecidableEq, Repr

namespace UnhandledPacket

def size : Nat := 0

def serialize (packet : UnhandledPacket) : List Store := [.copy 0 packet.data]

def deserialize (data : Bytes) : Option UnhandledPacket := some { data }

end UnhandledPacket

/-- The structs with a `PacketAttribute`, the keys of `Constants.PacketMap`. -/
inductive PacketKind
  | unhandled
  | init
  | player
  | cap
  | game
  | tag
  | connect
  | disconnect
  | costume
  | shine
  | capture
  | changeStage
  | captureTheFlagPlayerTeamAssignment
  | captureTheFlagGameState
  | flagHoldState
  | flagDroppedPosition
  | captureTheFlagWin
  deriving DecidableEq, Repr

/-- A packet value together with its struct. -/
inductive Packet
  | unhandled (packet : UnhandledPacket)
  | init (packet : InitPacket)
  | player (packet : PlayerPacket)
  | cap (packet : CapPacket)
  | game (packet : GamePacket)
  | tag (packet : TagPacket)
  | connect (packet : ConnectPacket)
  | disconnect (packet : DisconnectPacket)
  | costume (packet : CostumePacket)
  | shine (packet : ShinePacket)
  | capture (packet : CapturePacket)
  | changeStage (packet : ChangeStagePacket)
  | captureTheFlagPlayerTeamAssignment (packet : CaptureTheFlagPlayerTeamAssignmentPacket)
  | captureTheFlagGameState (packet : CaptureTheFlagGameStatePacket)
  | flagHoldState (packet : FlagHoldStatePacket)
  | flagDroppedPosition (packet : FlagDroppedPositionPacket)
  | captureTheFlagWin (packet : CaptureTheFlagWinPacket)
  deriving DecidableEq, Repr

/-- `Constants.PacketMap[type].Type`. -/
def PacketKind.type : PacketKind → PacketType
  | .unhandled => .unknown
  | .init => .init
  | .player => .player
  | .cap => .cap
  | .game => .game
  | .tag => .tag
  | .connect => .connect
  | .disconnect => .disconnect
  | .costume => .costume
  | .shine => .shine
  | .capture => .capture
  | .changeStage => .changeStage
  | .captureTheFlagPlayerTeamAssignment => .captureTheFlagPlayerTeamAssignment
  | .captureTheFlagGameState => .captureTheFlagGameState
  | .flagHoldState => .flagHoldState
  | .flagDroppedPosition => .flagDroppedPosition
  | .captureTheFlagWin => .captureTheFlagWin

def PacketKind.all : List PacketKind := [
  .unhandled, .init, .player, .cap, .game, .tag, .connect, .disconnect, .costume, .shine,
  .capture, .changeStage, .captureTheFlagPlayerTeamAssignment, .captureTheFlagGameState,
  .flagHoldState, .flagDroppedPosition, .captureTheFlagWin
]

/-- `Constants.PacketIdMap`; `none` where its lookup throws. -/
def packetIdMap (type : PacketType) : Option PacketKind :=
  PacketKind.all.find? (fun kind => kind.type == type)

/-- `Size` of a struct, the same for all of its values. -/
def PacketKind.size : PacketKind → Nat
  | .unhandled => UnhandledPacket.size
  | .init => InitPacket.size
  | .player => PlayerPacket.size
  | .cap => CapPacket.size
  | .game => GamePacket.size
  | .tag => TagPacket.size
  | .connect => ConnectPacket.size
  | .disconnect => DisconnectPacket.size
  | .costume => CostumePacket.size
  | .shine => ShinePacket.size
  | .capture => CapturePacket.size
  | .changeStage => ChangeStagePacket.size
  | .captureTheFlagPlayerTeamAssignment => CaptureTheFlagPlayerTeamAssignmentPacket.size
  | .captureTheFlagGameState => CaptureTheFlagGameStatePacket.size
  | .flagHoldState => FlagHoldStatePacket.size
  | .flagDroppedPosition => FlagDroppedPositionPacket.size
  | .captureTheFlagWin => CaptureTheFlagWinPacket.size

/-- `Deserialize` on a fresh value of a struct. -/
def PacketKind.deserialize : PacketKind → Bytes → Option Packet
  | .unhandled, data => (UnhandledPacket.deserialize data).map .unhandled
  | .init, data => (InitPacket.deserialize data).map .init
  | .player, data => (PlayerPacket.deserialize data).map .player
  | .cap, data => (CapPacket.deserialize data).map .cap
  | .game, data => (GamePacket.deserialize data).map .game
  | .tag, data => (TagPacket.deserialize data).map .tag
  | .connect, data => (ConnectPacket.deserialize data).map .connect
  | .disconnect, data => (DisconnectPacket.deserialize data).map .disconnect
  | .costume, data => (CostumePacket.deserialize data).map .costume
  | .shine, data => (ShinePacket.deserialize data).map .shine
  | .capture, data => (CapturePacket.deserialize data).map .capture
  | .changeStage, data => (ChangeStagePacket.deserialize data).map .changeStage
  | .captureTheFlagPlayerTeamAssignment, data =>
      (CaptureTheFlagPlayerTeamAssignmentPacket.deserialize data).map
        .captureTheFlagPlayerTeamAssignment
  | .captureTheFlagGameState, data =>
      (CaptureTheFlagGameStatePacket.deserialize data).map .captureTheFlagGameState
  | .flagHoldState, data => (FlagHoldStatePacket.deserialize data).map .flagHoldState
  | .flagDroppedPosition, data =>
      (FlagDroppedPositionPacket.deserialize data).map .flagDroppedPosition
  | .captureTheFlagWin, data =>
      (CaptureTheFlagWinPacket.deserialize data).map .captureTheFlagWin

namespace Packet

def kind : Packet → PacketKind
  | .unhandled _ => .unhandled
  | .init _ => .init
  | .player _ => .player
  | .cap _ => .cap
  | .game _ => .game
  | .tag _ => .tag
  | .connect _ => .connect
  | .disconnect _ => .disconnect
  | .costume _ => .costume
  | .shine _ => .shine
  | .capture _ => .capture
  | .changeStage _ => .changeStage
  | .captureTheFlagPlayerTeamAssignment _ => .captureTheFlagPlayerTeamAssignment
  | .captureTheFlagGameState _ => .captureTheFlagGameState
  | .flagHoldState _ => .flagHoldState
  | .flagDroppedPosition _ => .flagDroppedPosition
  | .captureTheFlagWin _ => .captureTheFlagWin

def size (packet : Packet) : Nat := packet.kind.size

def type (packet : Packet) : PacketType := packet.kind.type

def serialize : Packet → List Store
  | .unhandled packet => packet.serialize
  | .init packet => packet.serialize
  | .player packet => packet.serialize
  | .cap packet => packet.serialize
  | .game packet => packet.serialize
  | .tag packet => packet.serialize
  | .connect packet => packet.serialize
  | .disconnect packet => packet.serialize
  | .costume packet => packet.serialize
  | .shine packet => packet.serialize
  | .capture packet => packet.serialize
  | .changeStage packet => packet.serialize
  | .captureTheFlagPlayerTeamAssignment packet => packet.serialize
  | .captureTheFlagGameState packet => packet.serialize
  | .flagHoldState packet => packet.serialize
  | .flagDroppedPosition packet => packet.serialize
  | .captureTheFlagWin packet => packet.serialize

end Packet

end SmoOnline
