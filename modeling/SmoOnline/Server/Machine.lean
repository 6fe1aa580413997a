import SmoOnline.Library.Runs
import SmoOnline.Server.Handler
import SmoOnline.Server.Replay

/-! The server as a machine: the handlers of its sockets, the tasks it started, the console and
a running game mode, each advancing by events. An event that does not apply is refused.
Handlers advance from one `await` or `lock` to the next, so one event is one stretch of code
that no other handler interrupts.
-/

namespace SmoOnline

open Span Utf8

/-- The packets that the console and the game mode send on their own. -/
def PacketKind.originated : PacketKind → Bool
  | .changeStage | .shine | .tag | .captureTheFlagPlayerTeamAssignment
  | .captureTheFlagGameState | .flagDroppedPosition => true
  | _ => false

/-- What can happen next. -/
inductive Event
  | accept (socket : SocketId) (remote : IPEndPoint)
  /-- a whole frame has been read into memory, also from what a closed socket still held -/
  | receive (socket : SocketId) (memory : Bytes)
  /-- the connection is over for the reader: no octet came, or reading threw -/
  | endRead (socket : SocketId)
  | join (socket : SocketId)
  | clientJoined (socket : SocketId)
  | snapshot (socket : SocketId)
  | replay (socket : SocketId) (other : SocketId)
  | replayDone (socket : SocketId)
  | dispatch (socket : SocketId) (now : Nat)
  | epilogue (socket : SocketId)
  /-- the socket is no longer connected: its peer, the network or the `rejoin` command -/
  | close (socket : SocketId)
  | task (index : Nat)
  /-- the timer or the `shine sync` command -/
  | timer
  /-- `loadsettings` or any command that sets a setting -/
  | configure (settings : Settings)
  | maxPlayers (count : UInt16)
  | ban (socket : SocketId)
  | shineClear
  | startGameMode
  | sendFromServer (socket : SocketId) (packet : Packet)
  | broadcastFromServer (packet : Packet)
  | broadcastForClient (socket : SocketId) (packet : Packet)

namespace ServerState

-----------------------------------------------------------------------------------------
-- The handler of a socket
-----------------------------------------------------------------------------------------

/-- `Listen` and the start of `HandleSocket`: a `Client` of its own and the `InitPacket`. -/
def accept (state : ServerState) (runtime : Runtime) (socket : SocketId)
    (remote : IPEndPoint)
    : Option ServerState :=
  match (state.session socket).phase with
  | .idle =>
      let opened := state.setSession socket {
        phase := .reading true
        socketConnected := true
        remote
        profile := socket
      }
      let init := .init { maxPlayers := state.settings.server.maxPlayers }
      some (opened.emit (opened.sendPacket runtime socket .empty init .greeting))
  | _ => none

/-- The next frame: its checks, and on a first frame the wait for the lock. -/
def receive (state : ServerState) (runtime : Runtime) (socket : SocketId) (memory : Bytes)
    : Option ServerState :=
  match (state.session socket).phase, PacketHeader.deserialize memory with
  | .reading first, some header =>
      if memory.length = runtime.rent (headerSize + header.packetSize.toInt.toNat) then
        some (state.setPhase socket
          (match inbound first (state.session socket).id memory with
            | .refused => .failing
            | .joining connect => .connecting memory connect
            | .packet => .dispatching memory))
      else none
  | _, _ => none

def endRead (state : ServerState) (socket : SocketId) : Option ServerState :=
  match (state.session socket).phase with
  | .reading _ => some ((state.disconnect socket).setPhase socket .failing)
  | _ => none

/-- The reconnect path: the handler's `Client` takes over the entry of its Id. -/
def takeOver (state : ServerState) (socket : SocketId) (memory : Bytes)
    (connect : ConnectPacket) (oldClient : SocketId)
    : ServerState :=
  let copied := state.setSession socket {
    state.session socket with
    phase := .joined memory
    id := (state.session oldClient).id
    connected := true
    currentCostume := (state.session oldClient).currentCostume
    profile := (state.session oldClient).profile
  }
  -- `Clients.Remove` takes the first entry that equals the old client
  let replaced := {
    copied with
    clients :=
      state.clients.eraseP (fun client =>
          (state.session client).id == (state.session oldClient).id)
        ++ [socket]
  }
  let disposed :=
    if (state.session oldClient).connected then replaced.disconnect oldClient else replaced
  disposed.setName socket connect.clientName

/-- The path of a first connection, up to `ClientJoined`. -/
def register (state : ServerState) (socket : SocketId) (memory : Bytes)
    (connect : ConnectPacket) (id : Guid)
    : ServerState :=
  let entered := state.setSession socket {
    state.session socket with
    phase := .calling memory
    id
    connected := true
  }
  let toDisconnect :=
    state.clients.filter fun client =>
      (state.session client).id == id && (state.session client).connected
  let stale := toDisconnect.foldl disconnect entered
  ({ stale with
      clients := state.clients.filter (fun client => (state.session client).id != id) ++ [socket]
      lockHolder := some socket }).setName socket connect.clientName

/-- The part of the join inside `lock (Clients)`. -/
def join (state : ServerState) (socket : SocketId) : Option ServerState :=
  match (state.session socket).phase, state.lockHolder with
  | .connecting memory connect, none =>
      match PacketHeader.deserialize memory with
      | none => none
      | some header =>
          if state.connectedClients.length = state.settings.server.maxPlayers.toNat then
            some (state.setPhase socket .failing)
          else if connect.connectionType != .firstConnection
              && connect.connectionType != .reconnecting then
            some (state.setPhase socket .failing)
          else
            match state.findExistingClient header.id with
            | some oldClient => some (state.takeOver socket memory connect oldClient)
            | none => some (state.register socket memory connect header.id)
  | _, _ => none

/-- The ban test of the `ClientJoined` handler. -/
def banned (state : ServerState) (socket : SocketId) : Bool :=
  state.settings.banList.enabled
    && (state.settings.banList.players.contains (state.session socket).id
      || state.settings.banList.ipAddresses.contains (state.session socket).remote.address)

/-- The last game packets of the players that are there, sent to a joiner. -/
def lastGamePackets (state : ServerState) (runtime : Runtime) (socket : SocketId)
    : List Sent :=
  state.clientsConnected.flatMap fun client =>
    match (state.metadata client).lastGamePacket with
    | none => []
    | some packet =>
        state.sendPacket runtime socket (state.session client).id (.game packet)
          (.lastGame client)

/-- The `ClientJoined` handler, which throws for a banned player, and the end of the lock. -/
def clientJoined (state : ServerState) (runtime : Runtime) (socket : SocketId)
    : Option ServerState :=
  match (state.session socket).phase with
  | .calling memory =>
      let released := { state with lockHolder := none }
      if state.banned socket then some (released.setPhase socket .failing)
      else
        let known := released.setMetadata socket {
          released.metadata socket with
          shineSync := some []
          loadedSave := some false
          scenario := some 0
          is2d := some false
          speedrun := some false
        }
        let welcomed := known.emit (known.lastGamePackets runtime socket)
        some (welcomed.setPhase socket (.joined memory))
  | _ => none

/-- The players to be announced: the connected clients of other Ids. -/
def otherConnectedPlayers (state : ServerState) (id : Guid) : List SocketId :=
  state.clients.filter fun client =>
    (state.session client).id != id && (state.session client).connected

def snapshot (state : ServerState) (socket : SocketId) : Option ServerState :=
  match (state.session socket).phase with
  | .joined memory =>
      match PacketHeader.deserialize memory with
      | none => none
      | some header =>
          some (state.setPhase socket
            (.replaying memory (state.otherConnectedPlayers header.id) false))
  | _ => none

/-- The announcement of one other player, which throws where its frames cannot be built or
sent.
-/
def replay (state : ServerState) (runtime : Runtime) (socket other : SocketId)
    : Option ServerState :=
  match (state.session socket).phase with
  | .replaying memory others faulted =>
      if other ∈ others then
        let announced := announcement runtime state.settings.server.maxPlayers
          (state.session other).id (state.name other) (state.session other).currentCostume
        let writes :=
          announced.1.flatMap (fun frame => state.sendMemory socket frame (.replay other))
        let threw := !announced.2 || !(state.session socket).socketConnected
        some ((state.emit writes).setPhase socket
          (.replaying memory (others.erase other) (faulted || threw)))
      else none
  | _ => none

/-- The end of the announcements: all were sent, or one threw and the rest may be left out. -/
def replayDone (state : ServerState) (socket : SocketId) : Option ServerState :=
  match (state.session socket).phase with
  | .replaying memory others faulted =>
      if faulted then some (state.setPhase socket .failing)
      else if others.isEmpty then some (state.setPhase socket (.dispatching memory))
      else none
  | _ => none

def dispatch (state : ServerState) (runtime : Runtime) (socket : SocketId) (now : Nat)
    : Option ServerState :=
  match (state.session socket).phase with
  | .dispatching memory =>
      some ((state.dispatchFrame runtime now socket memory).setPhase socket (.reading false))
  | _ => none

/-- The end of `HandleSocket`: a client that was connected is said goodbye to, in a task. -/
def epilogue (state : ServerState) (socket : SocketId) : Option ServerState :=
  match (state.session socket).phase with
  | .failing =>
      let ended := state.setSession socket {
        state.session socket with
        phase := .ended
        connected := false
        socketConnected := false
      }
      some (if (state.session socket).connected then ended.addTask (.farewell socket) else ended)
  | _ => none

-----------------------------------------------------------------------------------------
-- Tasks, the console and the game mode
-----------------------------------------------------------------------------------------

/-- One moon of `ClientSyncShineBag` up to its awaited write, or the end of the loop where the
client is gone or the write throws.
-/
def sendShine (state : ServerState) (runtime : Runtime) (socket : SocketId) (shine : Int32)
    (rest : List Int32)
    : ServerState :=
  if (state.session socket).connected && (state.session socket).socketConnected then
    let id := (state.session socket).id
    let sent := state.emit
      (state.sendPacket runtime socket id (.shine { shineId := shine }) .shineSync)
    sent.addTask (.recordShine socket shine rest)
  else state

/-- Behind the write: the moon goes into the client's bag, and the loop goes on. -/
def recordShine (state : ServerState) (socket : SocketId) (shine : Int32) (rest : List Int32)
    : ServerState :=
  let bagged := state.setMetadata socket {
    state.metadata socket with
    shineSync := (state.metadata socket).shineSync.map (shine :: ·)
  }
  bagged.addTask (.sendShines socket rest)

def runTask (state : ServerState) (runtime : Runtime) : PendingTask → ServerState
  | .farewell socket =>
      state.emit
        (state.broadcastPacket runtime (.disconnect {}) socket (.farewell socket))
  | .syncShineBag =>
      { state with
        tasks := state.tasks ++ state.clientsConnected.map .clientSyncShineBag }
  | .clientSyncShineBag socket =>
      match state.missingShines socket with
      | none => state
      | some shines => state.addTask (.sendShines socket shines)
  | .sendShines _ [] => state
  | .sendShines socket (shine :: rest) => state.sendShine runtime socket shine rest
  | .recordShine socket shine rest => state.recordShine socket shine rest

def task (state : ServerState) (runtime : Runtime) (index : Nat) : Option ServerState :=
  match state.tasks[index]? with
  | none => none
  | some pending =>
      some ({ state with tasks := state.tasks.eraseIdx index }.runTask runtime pending)

/-- A socket that was accepted can be closed at any time. -/
def close (state : ServerState) (socket : SocketId) : Option ServerState :=
  match (state.session socket).phase with
  | .idle => none
  | _ => some (state.disconnect socket)

def setMaxPlayers (state : ServerState) (count : UInt16) : ServerState :=
  let settings := { state.settings with server := { maxPlayers := count } }
  state.clients.foldl disconnect { state with settings }

/-- The task of the `ban` command for one player; a packet that cannot be sent ends it. -/
def ban (state : ServerState) (runtime : Runtime) (socket : SocketId) : Option ServerState :=
  if socket ∈ state.clients ∧ (state.session socket).socketConnected then
    let session := state.session socket
    let ejection := .changeStage {
      stage := "$ejected".toList
      id := "$agogus/banned4lyfe".toList
      scenario := 69
      subScenarioType := 21
    }
    let told := state.emit (state.sendPacket runtime socket session.id ejection .server)
    let list := state.settings.banList
    let banList := {
      list with
      players := list.players ++ [session.id]
      ipAddresses := list.ipAddresses ++ [session.remote.toString]
    }
    some ({ told with settings := { state.settings with banList } }.disconnect socket)
  else none

/-- `shine clear`, whose loop stops at a client without a bag. -/
def shineClear (state : ServerState) : ServerState :=
  let bagged := state.clients.takeWhile fun client =>
    (state.metadata client).shineSync.isSome
  let cleared := bagged.foldl
    (fun state client =>
      state.setMetadata client { state.metadata client with shineSync := some [] })
    { state with shineBag := [] }
  cleared.persistShines

def sendFromServer (state : ServerState) (runtime : Runtime) (socket : SocketId)
    (packet : Packet)
    : Option ServerState :=
  if packet.kind.originated ∧ socket ∈ state.clients then
    some (state.emit
      (state.sendPacket runtime socket (state.session socket).id packet .server))
  else none

def broadcastFromServer (state : ServerState) (runtime : Runtime) (packet : Packet)
    : Option ServerState :=
  if packet.kind.originated then
    some (state.emit (state.broadcastToAll runtime packet .server))
  else none

def broadcastForClient (state : ServerState) (runtime : Runtime) (socket : SocketId)
    (packet : Packet)
    : Option ServerState :=
  if packet.kind.originated ∧ socket ∈ state.clients then
    some (state.emit (state.broadcastPacket runtime packet socket .server))
  else none

/-- One event. -/
def step (runtime : Runtime) (state : ServerState) : Event → Option ServerState
  | .accept socket remote => state.accept runtime socket remote
  | .receive socket memory => state.receive runtime socket memory
  | .endRead socket => state.endRead socket
  | .join socket => state.join socket
  | .clientJoined socket => state.clientJoined runtime socket
  | .snapshot socket => state.snapshot socket
  | .replay socket other => state.replay runtime socket other
  | .replayDone socket => state.replayDone socket
  | .dispatch socket now => state.dispatch runtime socket now
  | .epilogue socket => state.epilogue socket
  | .close socket => state.close socket
  | .task index => state.task runtime index
  | .timer => some state.syncShineBag
  | .configure settings => some { state with settings }
  | .maxPlayers count => some (state.setMaxPlayers count)
  | .ban socket => state.ban runtime socket
  | .shineClear => some state.shineClear
  | .startGameMode => some { state with gameMode := some .new }
  | .sendFromServer socket packet => state.sendFromServer runtime socket packet
  | .broadcastFromServer packet => state.broadcastFromServer runtime packet
  | .broadcastForClient socket packet => state.broadcastForClient runtime socket packet

/-- The server before its first connection, with some settings and the moons it loaded. -/
def initial (settings : Settings) (shines : List Int32) : ServerState :=
  { settings, shineBag := shines, savedShines := shines }

end ServerState

/-- The memory a Connect frame is read into, zero behind the frame. -/
def connectMemory (runtime : Runtime) (id : Guid) (connectionType : ConnectionType)
    (clientName : Text)
    : Bytes :=
  (runtime.filled id (.connect { connectionType, maxPlayers := 8, clientName })).1

/-- The end point that a player of an arrival comes from. -/
def comesFrom (socket : SocketId) : IPEndPoint where
  address := "10.0.0.1"
  port := 4000 + socket

/-- A player comes in without an obstacle: from the accepted socket to the Connect frame that
is passed on, with an announcement of each of the others.
-/
def arrival (runtime : Runtime) (socket : SocketId) (id : Guid)
    (connectionType : ConnectionType) (clientName : Text) (others : List SocketId)
    : List Event :=
  [.accept socket (comesFrom socket),
    .receive socket (connectMemory runtime id connectionType clientName),
    .join socket]
  ++ (if connectionType = .firstConnection then [.clientJoined socket] else [])
  ++ [.snapshot socket] ++ others.map (.replay socket ·)
  ++ [.replayDone socket, .dispatch socket 0]

/-- Mario comes in, and Luigi after him. -/
def duet : List Event :=
  arrival .pooled 1 ⟨7⟩ .firstConnection "Mario".toList []
    ++ arrival .pooled 2 ⟨8⟩ .firstConnection "Luigi".toList [1]

end SmoOnline
