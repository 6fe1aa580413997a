import SmoOnline.Server.Send

/-! `PacketHandler`: what the server does with a packet before it passes it on.
A handler changes the state as it goes; what it changed before it throws stays changed.
-/

namespace SmoOnline

open Span Utf8

/-- How a handler ends: it asks for the frame to be passed on, it has sent what was to be
sent, or it throws, after which the frame is passed on all the same.
-/
inductive Outcome
  | relay
  | handled
  | threw
  deriving DecidableEq, Repr

namespace ServerState

/-- `ClientSyncShineBag`, up to its first write: the moons it will send. -/
def missingShines (state : ServerState) (socket : SocketId) : Option (List Int32) := do
  guard state.settings.shines.enabled
  let speedrun ← (state.metadata socket).speedrun
  guard !speedrun
  let clientBag ← (state.metadata socket).shineSync
  return state.shineBag.filter (fun shine => shine ∉ clientBag)

/-- The inner `switch` on the stage, and whether it returned. -/
def enterStage (state : ServerState) (socket : SocketId) (packet : GamePacket)
    : ServerState × Bool :=
  let metadata := state.metadata socket
  if packet.stage = "CapWorldHomeStage".toList ∧ packet.scenarioNum = 0 then
    let state := state.setMetadata socket { metadata with speedrun := some true }
    match metadata.shineSync with
    | none => (state, false)
    | some _ =>
        let cleared :=
          state.setMetadata socket { state.metadata socket with shineSync := some [] }
        ({ cleared with shineBag := [] }, true)
  else if packet.stage = "WaterfallWorldHomeStage".toList then
    match metadata.speedrun with
    | none => (state, false)
    | some wasSpeedrun =>
        let state := state.setMetadata socket { metadata with speedrun := some false }
        (if wasSpeedrun then state.addTask (.clientSyncShineBag socket) else state, true)
  else (state, true)

/-- The copy of a game packet for one recipient, with the recipient's own scenario. -/
def mergeScenario (state : ServerState) (packet : GamePacket) (target : SocketId)
    : Option Packet := do
  let scenarioNum ← (state.metadata target).scenario
  return .game { packet with scenarioNum }

def handleGame (state : ServerState) (runtime : Runtime) (socket : SocketId)
    (packet : GamePacket)
    : ServerState × Outcome :=
  let known := state.setMetadata socket {
    state.metadata socket with
    scenario := some packet.scenarioNum
    is2d := some packet.is2d
    lastGamePacket := some packet
  }
  let placed := {
    known with
    players :=
      known.players.updatePlayerStage (state.session socket).id packet.scenarioNum
        packet.stage
  }
  match placed.enterStage socket packet with
  | (entered, false) => (entered, .threw)
  | (entered, true) =>
      if entered.settings.scenario.mergeEnabled then
        match entered.broadcastReplace runtime socket (.handler socket)
          (entered.mergeScenario packet) with
        | (writes, true) => (entered.emit writes, .handled)
        | (writes, false) => (entered.emit writes, .threw)
      else (entered, .relay)

def handleTag (state : ServerState) (now : Nat) (socket : SocketId) (packet : TagPacket)
    : ServerState × Outcome :=
  let metadata := state.metadata socket
  let metadata :=
    if packet.updateType.has .state then { metadata with seeking := some packet.isIt }
    else metadata
  let metadata :=
    if packet.updateType.has .time then
      let time := { minutes := packet.minutes, seconds := packet.seconds, whenSet := now }
      { metadata with time := some time }
    else metadata
  (state.setMetadata socket metadata, .relay)

def handleCostume (state : ServerState) (socket : SocketId) (packet : CostumePacket)
    : ServerState × Outcome :=
  let dressed := state.setSession socket {
    state.session socket with
    currentCostume := some packet
  }
  let syncing := dressed.addTask (.clientSyncShineBag socket)
  (syncing.setMetadata socket { syncing.metadata socket with loadedSave := some true }, .relay)

/-- `HashSet<int>.Add`. -/
def addShine (state : ServerState) (shine : Int32) : ServerState :=
  if shine ∈ state.shineBag then state
  else { state with shineBag := state.shineBag ++ [shine] }

def handleShine (state : ServerState) (socket : SocketId) (packet : ShinePacket)
    : ServerState × Outcome :=
  if !state.settings.shines.enabled then (state, .handled)
  else
    match (state.metadata socket).loadedSave with
    | none => (state, .threw)
    | some false => (state, .relay)
    | some true =>
        match (state.metadata socket).shineSync with
        | none => (state, .threw)
        | some playerBag =>
            let added := state.addShine packet.shineId
            if packet.shineId ∈ playerBag then (added, .relay)
            else
              let bagged := added.setMetadata socket {
                added.metadata socket with
                shineSync := some (packet.shineId :: playerBag)
              }
              (bagged.syncShineBag, .relay)

/-- The sender of a player packet is flipped for all others. -/
def flipsSender (state : ServerState) (socket : SocketId) : Bool :=
  state.settings.flip.enabled
    && (state.settings.flip.pov = .both || state.settings.flip.pov = .others)
    && state.settings.flip.players.contains (state.session socket).id

/-- The flipped recipients of a player packet see its sender flipped. -/
def flipsRecipients (state : ServerState) (socket : SocketId) : Bool :=
  state.settings.flip.enabled
    && (state.settings.flip.pov = .both || state.settings.flip.pov = .self)
    && !state.settings.flip.players.contains (state.session socket).id

def flip (runtime : Runtime) (is2d : Bool) (packet : PlayerPacket) : PlayerPacket :=
  { packet with
    position := runtime.raise is2d packet.position
    rotation := runtime.turn packet.rotation }

/-- The copy of a player packet for one recipient. -/
def flipFor (state : ServerState) (runtime : Runtime) (socket : SocketId)
    (packet : PlayerPacket) (target : SocketId)
    : Option Packet :=
  if state.settings.flip.players.contains (state.session target).id then
    (state.metadata socket).is2d.map fun is2d => .player (flip runtime is2d packet)
  else some (.player packet)

def handlePlayer (state : ServerState) (runtime : Runtime) (socket : SocketId)
    (packet : PlayerPacket)
    : ServerState × Outcome :=
  let remember (state : ServerState) (packet : PlayerPacket) : ServerState :=
    { state with
      players :=
        state.players.updatePlayerTransform (state.session socket).id packet.position
          packet.rotation }
  if state.flipsSender socket then
    match (state.metadata socket).is2d with
    | none => (state, .threw)
    | some is2d =>
        let flipped := flip runtime is2d packet
        let writes :=
          state.broadcastPacket runtime (.player flipped) socket (.handler socket)
        (remember (state.emit writes) flipped, .handled)
  else if state.flipsRecipients socket then
    match state.broadcastReplace runtime socket (.handler socket)
      (state.flipFor runtime socket packet) with
    | (writes, true) => (remember (state.emit writes) packet, .handled)
    | (writes, false) => (state.emit writes, .threw)
  else (state, .relay)

/-- What a player's hold says about its flag: the holder and where they were seen last. -/
def flagState (state : ServerState) (socket : SocketId) (packet : FlagHoldStatePacket)
    : FlagState :=
  let id := (state.session socket).id
  {
    team := packet.team
    holder := if packet.isHeld then some id else none
    position := state.players.getLastPosition id
    rotation := state.players.getLastRotation id
    scenarioNum := state.players.getLastScenarioNum id
    stage := state.players.getLastStage id
  }

def handleFlagHoldState (state : ServerState) (runtime : Runtime) (now : Nat)
    (socket : SocketId) (packet : FlagHoldStatePacket)
    : ServerState × Outcome :=
  let id := (state.session socket).id
  let writes :=
    state.broadcastPacket runtime (.flagHoldState packet) socket (.handler socket)
      ++ state.sendPacket runtime socket id (.flagHoldState packet) (.handler socket)
  let gameMode := state.gameMode.map fun mode =>
    mode.updateFlagData (state.flagState socket packet) now
  ({ state.emit writes with gameMode }, .handled)

def handleCaptureTheFlagWin (state : ServerState) (runtime : Runtime) (socket : SocketId)
    (packet : CaptureTheFlagWinPacket)
    : ServerState × Outcome :=
  let writes :=
    state.broadcastToAll runtime (.captureTheFlagWin packet) (.handler socket)
  (state.emit writes, .handled)

/-- `PacketHandler` for a packet of the client of `socket`, at time `now`. -/
def packetHandler (state : ServerState) (runtime : Runtime) (now : Nat) (socket : SocketId)
    : Packet → ServerState × Outcome
  | .game packet => state.handleGame runtime socket packet
  | .tag packet => state.handleTag now socket packet
  | .costume packet => state.handleCostume socket packet
  | .shine packet => state.handleShine socket packet
  | .player packet => state.handlePlayer runtime socket packet
  | .flagHoldState packet => state.handleFlagHoldState runtime now socket packet
  | .captureTheFlagWin packet => state.handleCaptureTheFlagWin runtime socket packet
  | _ => (state, .relay)

/-- Decoding and handling a frame, inside one `try`. -/
def handleFrame (state : ServerState) (runtime : Runtime) (now : Nat) (socket : SocketId)
    (memory : Bytes)
    : ServerState × Outcome :=
  match decodeFrame memory with
  | none => (state, .threw)
  | some packet => state.packetHandler runtime now socket packet

/-- Handling a frame and passing it on unless the handler has sent what was to be sent. -/
def dispatchFrame (state : ServerState) (runtime : Runtime) (now : Nat) (socket : SocketId)
    (memory : Bytes)
    : ServerState :=
  match state.handleFrame runtime now socket memory with
  | (handled, .handled) => handled
  | (handled, _) => handled.emit (handled.broadcastMemory memory socket (.relay socket))

end ServerState

end SmoOnline
