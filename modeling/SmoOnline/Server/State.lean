import Mathlib.Logic.Function.Basic
import SmoOnline.Shared.Packets

/-! What the server keeps: its settings, the sessions of its sockets, the client table and the
tables of the game. Everything it has written to a socket is recorded in order.
-/

namespace SmoOnline

open Span Utf8

-----------------------------------------------------------------------------------------
-- Settings
-----------------------------------------------------------------------------------------

structure ServerTable where
  maxPlayers : UInt16 := 8
  deriving DecidableEq, Repr

structure ScenarioTable where
  mergeEnabled : Bool := false
  deriving DecidableEq, Repr

structure BannedPlayers where
  enabled : Bool := false
  players : List Guid := []
  ipAddresses : List String := []
  deriving DecidableEq, Repr

/-- An enumeration, whose values need not have a name: `Enum.TryParse` takes any number. -/
structure FlipOptions where
  value : Int32
  deriving DecidableEq, Repr

namespace FlipOptions

def both : FlipOptions := ⟨0⟩

def self : FlipOptions := ⟨1⟩

def others : FlipOptions := ⟨2⟩

end FlipOptions

structure FlipTable where
  enabled : Bool := true
  players : List Guid := []
  pov : FlipOptions := .both
  deriving DecidableEq, Repr

structure ShineTable where
  enabled : Bool := true
  deriving DecidableEq, Repr

structure PersistShinesTable where
  enabled : Bool := false
  deriving DecidableEq, Repr

structure Settings where
  server : ServerTable := {}
  flip : FlipTable := {}
  scenario : ScenarioTable := {}
  banList : BannedPlayers := {}
  shines : ShineTable := {}
  persistShines : PersistShinesTable := {}
  deriving DecidableEq, Repr

-----------------------------------------------------------------------------------------
-- Clients
-----------------------------------------------------------------------------------------

/-- The number of an accepted socket. One handler serves it, and the one `Client` object of
that handler which the client table can hold goes by the same number.
-/
abbrev SocketId := Nat

/-- The text is neither in brackets nor has the one colon that stands before a port. -/
def IsAddress (text : String) : Prop :=
  text.toList.head? ≠ some '[' ∧ text.toList.count ':' ≠ 1

instance (text : String) : Decidable (IsAddress text) := inferInstanceAs (Decidable (_ ∧ _))

/-- An end point, with the text of its address. -/
structure IPEndPoint where
  address : String
  port : Nat
  isAddress : IsAddress address := by decide
  deriving DecidableEq, Repr

/-- Where no connection comes from. -/
def IPEndPoint.nowhere : IPEndPoint where
  address := ""
  port := 0

/-- `IPEndPoint.ToString()`, which puts an IPv6 address in brackets. -/
def IPEndPoint.toString (endPoint : IPEndPoint) : String :=
  if ':' ∈ endPoint.address.toList then
    "[" ++ endPoint.address ++ "]:" ++ Nat.repr endPoint.port
  else endPoint.address ++ ":" ++ Nat.repr endPoint.port

structure Time where
  minutes : UInt16
  seconds : UInt8
  whenSet : Nat
  deriving DecidableEq, Repr

/-- `Client.Metadata`, one field for each key in use; a key that is not there is `none`, and
reading it through the indexer throws.
-/
structure Metadata where
  shineSync : Option (List Int32) := none
  loadedSave : Option Bool := none
  scenario : Option UInt8 := none
  is2d : Option Bool := none
  speedrun : Option Bool := none
  lastGamePacket : Option GamePacket := none
  seeking : Option Bool := none
  time : Option Time := none
  deriving DecidableEq, Repr

/-- The objects that a reconnected client takes over from its predecessor: its metadata and
its logger, whose name is the client's.
-/
structure Profile where
  metadata : Metadata := {}
  name : Text := "Unknown User".toList
  deriving DecidableEq, Repr

/-- Where the handler of a socket stands. Memory holds the frame read last. -/
inductive Phase
  /-- no socket of this number was accepted yet -/
  | idle
  | reading (first : Bool)
  /-- the first frame was read; the handler waits for the lock on the client table -/
  | connecting (memory : Bytes) (connect : ConnectPacket)
  /-- entered in the table, `ClientJoined` not yet raised; the handler holds the lock -/
  | calling (memory : Bytes)
  | joined (memory : Bytes)
  /-- the other players still to be announced, and whether one announcement threw -/
  | replaying (memory : Bytes) (others : List SocketId) (faulted : Bool)
  | dispatching (memory : Bytes)
  /-- out of the loop, the epilogue still to run -/
  | failing
  | ended
  deriving DecidableEq, Repr

/-- A socket, its handler and the handler's `Client`. -/
structure Session where
  phase : Phase := .idle
  socketConnected : Bool := false
  remote : IPEndPoint := .nowhere
  id : Guid := .empty
  connected : Bool := false
  currentCostume : Option CostumePacket := none
  profile : SocketId
  deriving DecidableEq, Repr

-----------------------------------------------------------------------------------------
-- Game tables
-----------------------------------------------------------------------------------------

/-- The static dictionaries of `GameModeManager`. -/
structure PlayerMaps where
  positions : Guid → Option Vector3 := fun _ => none
  rotations : Guid → Option Quaternion := fun _ => none
  scenarioNums : Guid → Option UInt8 := fun _ => none
  stages : Guid → Option Text := fun _ => none

def Vector3.zero : Vector3 := { x := 0, y := 0, z := 0 }

def Quaternion.zero : Quaternion := { x := 0, y := 0, z := 0, w := 0 }

namespace PlayerMaps

def updatePlayerTransform (maps : PlayerMaps) (user : Guid) (pos : Vector3)
    (rot : Quaternion)
    : PlayerMaps :=
  { maps with
    positions := Function.update maps.positions user (some pos)
    rotations := Function.update maps.rotations user (some rot) }

def updatePlayerStage (maps : PlayerMaps) (user : Guid) (scenarioNum : UInt8) (stage : Text)
    : PlayerMaps :=
  { maps with
    scenarioNums := Function.update maps.scenarioNums user (some scenarioNum)
    stages := Function.update maps.stages user (some stage) }

def getLastPosition (maps : PlayerMaps) (user : Guid) : Vector3 :=
  (maps.positions user).getD .zero

def getLastRotation (maps : PlayerMaps) (user : Guid) : Quaternion :=
  (maps.rotations user).getD .zero

def getLastScenarioNum (maps : PlayerMaps) (user : Guid) : UInt8 :=
  (maps.scenarioNums user).getD 0

def getLastStage (maps : PlayerMaps) (user : Guid) : Text := (maps.stages user).getD []

end PlayerMaps

structure FlagState where
  team : CaptureTheFlagTeam
  holder : Option Guid := none
  position : Vector3 := .zero
  rotation : Quaternion := .zero
  scenarioNum : UInt8 := 0
  stage : Text := []
  deriving DecidableEq, Repr

/-- The dictionaries of a running `CaptureTheFlagMode`, times in milliseconds. -/
structure CaptureTheFlagMode where
  flagStates : CaptureTheFlagTeam → Option FlagState
  lastFlagUpdateTime : CaptureTheFlagTeam → Option Nat

namespace CaptureTheFlagMode

/-- The constructor: both flags at home, both times zero. -/
def new : CaptureTheFlagMode where
  flagStates :=
    Function.update
      (Function.update (fun _ => none) .redTeam (some { team := .redTeam }))
      .blueTeam (some { team := .blueTeam })
  lastFlagUpdateTime :=
    Function.update (Function.update (fun _ => none) .redTeam (some 0)) .blueTeam (some 0)

def updateFlagData (mode : CaptureTheFlagMode) (flagState : FlagState) (now : Nat)
    : CaptureTheFlagMode where
  flagStates := Function.update mode.flagStates flagState.team (some flagState)
  lastFlagUpdateTime := Function.update mode.lastFlagUpdateTime flagState.team (some now)

end CaptureTheFlagMode

-----------------------------------------------------------------------------------------
-- The server
-----------------------------------------------------------------------------------------

/-- Why octets were written. The server has no such record; statements refer to it. -/
inductive Cause
  | greeting
  /-- the announcement of another player to a joiner -/
  | replay (other : SocketId)
  /-- the last `GamePacket` of another player, sent to a joiner -/
  | lastGame (other : SocketId)
  /-- a frame passed on as it was read -/
  | relay (sender : SocketId)
  /-- a copy that `PacketHandler` made of a packet it was given -/
  | handler (sender : SocketId)
  | farewell (session : SocketId)
  | shineSync
  /-- the console or a running game mode -/
  | server
  deriving DecidableEq, Repr

/-- One write to a socket. -/
structure Sent where
  socket : SocketId
  data : Bytes
  cause : Cause
  deriving DecidableEq, Repr

/-- Work that was started and not awaited. -/
inductive PendingTask
  /-- `Broadcast(new DisconnectPacket(), client)` -/
  | farewell (session : SocketId)
  | syncShineBag
  | clientSyncShineBag (session : SocketId)
  /-- the rest of the loop of `ClientSyncShineBag` -/
  | sendShines (session : SocketId) (shines : List Int32)
  /-- the same behind the write of a moon, which is still to be put into the client's bag -/
  | recordShine (session : SocketId) (shine : Int32) (rest : List Int32)
  deriving DecidableEq, Repr

structure ServerState where
  settings : Settings := {}
  clients : List SocketId := []
  session : SocketId → Session := fun socket => { profile := socket }
  profile : SocketId → Profile := fun _ => {}
  /-- the handler inside `lock (Clients)` -/
  lockHolder : Option SocketId := none
  shineBag : List Int32 := []
  savedShines : List Int32 := []
  players : PlayerMaps := {}
  gameMode : Option CaptureTheFlagMode := none
  tasks : List PendingTask := []
  sent : List Sent := []

namespace ServerState

def metadata (state : ServerState) (socket : SocketId) : Metadata :=
  (state.profile (state.session socket).profile).metadata

def name (state : ServerState) (socket : SocketId) : Text :=
  (state.profile (state.session socket).profile).name

def setSession (state : ServerState) (socket : SocketId) (session : Session) : ServerState :=
  { state with session := Function.update state.session socket session }

def setPhase (state : ServerState) (socket : SocketId) (phase : Phase) : ServerState :=
  state.setSession socket { state.session socket with phase }

/-- `Dispose` or any other end of a connection: the socket is not connected from now on. -/
def disconnect (state : ServerState) (socket : SocketId) : ServerState :=
  state.setSession socket { state.session socket with socketConnected := false }

def setProfile (state : ServerState) (socket : SocketId) (profile : Profile) : ServerState :=
  { state with
    profile := Function.update state.profile (state.session socket).profile profile }

def setMetadata (state : ServerState) (socket : SocketId) (metadata : Metadata)
    : ServerState :=
  state.setProfile socket
    { state.profile (state.session socket).profile with metadata }

def setName (state : ServerState) (socket : SocketId) (name : Text) : ServerState :=
  state.setProfile socket { state.profile (state.session socket).profile with name }

def emit (state : ServerState) (writes : List Sent) : ServerState :=
  { state with sent := state.sent ++ writes }

def addTask (state : ServerState) (task : PendingTask) : ServerState :=
  { state with tasks := state.tasks ++ [task] }

/-- `PersistShines`, whose text is made when it is called. -/
def persistShines (state : ServerState) : ServerState :=
  if state.settings.persistShines.enabled then { state with savedShines := state.shineBag }
  else state

/-- `SyncShineBag` up to the end of `PersistShines`. -/
def syncShineBag (state : ServerState) : ServerState :=
  state.persistShines.addTask .syncShineBag

/-- `Clients.Where(c => c.Connected)`. -/
def connectedClients (state : ServerState) : List SocketId :=
  state.clients.filter (fun socket => (state.session socket).connected)

/-- `Server.ClientsConnected`. -/
def clientsConnected (state : ServerState) : List SocketId :=
  state.clients.filter fun socket =>
    (state.metadata socket).lastGamePacket.isSome && (state.session socket).connected

/-- The clients that a sender's packets go to: connected, and not equal to the sender, which
clients are by their Ids.
-/
def recipients (state : ServerState) (sender : SocketId) : List SocketId :=
  state.clients.filter fun socket =>
    (state.session socket).connected
      && (state.session socket).id != (state.session sender).id

/-- `FindExistingClient`. -/
def findExistingClient (state : ServerState) (id : Guid) : Option SocketId :=
  state.clients.find? (fun socket => (state.session socket).id == id)

-----------------------------------------------------------------------------------------
-- Sessions after an update
-----------------------------------------------------------------------------------------

section updates

variable (state : ServerState) (socket other : SocketId)

theorem session_setSession (session : Session)
    : (state.setSession socket session).session other
      = if other = socket then session else state.session other :=
  Function.update_apply _ _ _ _

@[simp] theorem phase_setPhase (phase : Phase)
    : ((state.setPhase socket phase).session other).phase
      = if other = socket then phase else (state.session other).phase := by
  rw [setPhase, session_setSession]
  split_ifs <;> rfl

@[simp] theorem id_setPhase (phase : Phase)
    : ((state.setPhase socket phase).session other).id = (state.session other).id := by
  rw [setPhase, session_setSession]
  split_ifs with same <;> simp [same]

@[simp] theorem connected_setPhase (phase : Phase)
    : ((state.setPhase socket phase).session other).connected
      = (state.session other).connected := by
  rw [setPhase, session_setSession]
  split_ifs with same <;> simp [same]

@[simp] theorem socketConnected_setPhase (phase : Phase)
    : ((state.setPhase socket phase).session other).socketConnected
      = (state.session other).socketConnected := by
  rw [setPhase, session_setSession]
  split_ifs with same <;> simp [same]

@[simp] theorem profile_setPhase (phase : Phase)
    : ((state.setPhase socket phase).session other).profile
      = (state.session other).profile := by
  rw [setPhase, session_setSession]
  split_ifs with same <;> simp [same]

@[simp] theorem phase_disconnect
    : ((state.disconnect socket).session other).phase = (state.session other).phase := by
  rw [disconnect, session_setSession]
  split_ifs with same <;> simp [same]

@[simp] theorem id_disconnect
    : ((state.disconnect socket).session other).id = (state.session other).id := by
  rw [disconnect, session_setSession]
  split_ifs with same <;> simp [same]

@[simp] theorem connected_disconnect
    : ((state.disconnect socket).session other).connected
      = (state.session other).connected := by
  rw [disconnect, session_setSession]
  split_ifs with same <;> simp [same]

@[simp] theorem profile_disconnect
    : ((state.disconnect socket).session other).profile
      = (state.session other).profile := by
  rw [disconnect, session_setSession]
  split_ifs with same <;> simp [same]

@[simp] theorem remote_disconnect
    : ((state.disconnect socket).session other).remote = (state.session other).remote := by
  rw [disconnect, session_setSession]
  split_ifs with same <;> simp [same]

@[simp] theorem socketConnected_disconnect
    : ((state.disconnect socket).session other).socketConnected
      = if other = socket then false else (state.session other).socketConnected := by
  rw [disconnect, session_setSession]
  split_ifs <;> rfl

end updates

/-- Disconnecting sockets one after the other changes nothing else, by induction on them. -/
theorem foldl_disconnect (sockets : List SocketId) (state : ServerState) (other : SocketId)
    : (sockets.foldl disconnect state).clients = state.clients
      ∧ (sockets.foldl disconnect state).lockHolder = state.lockHolder
      ∧ (sockets.foldl disconnect state).tasks = state.tasks
      ∧ (sockets.foldl disconnect state).sent = state.sent
      ∧ (sockets.foldl disconnect state).profile = state.profile
      ∧ (sockets.foldl disconnect state).settings = state.settings
      ∧ (sockets.foldl disconnect state).session other
        = { state.session other with
            socketConnected :=
              (state.session other).socketConnected && decide (other ∉ sockets) } := by
  induction sockets generalizing state with
  | nil => simp
  | cons socket rest ih =>
      obtain ⟨clients, lockHolder, tasks, sent, profile, settings, session⟩ :=
        ih (state.disconnect socket)
      refine ⟨clients, lockHolder, tasks, sent, profile, settings, ?_⟩
      rw [List.foldl_cons, session, disconnect, session_setSession]
      by_cases same : other = socket
      · simp [same]
      · simp [same]

end ServerState

end SmoOnline
