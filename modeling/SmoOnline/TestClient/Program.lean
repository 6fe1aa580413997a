import SmoOnline.Server.Machine

/-! The test clients: each of them connects to the server like a player, and gives back under an Id
of its own what it hears of another player. The first follows a player, each of the others the one
before it. The server and all of its test clients are one machine, which is joined by the octets
that both sides have written and not read yet.
-/

namespace SmoOnline

open Span Utf8

-----------------------------------------------------------------------------------------
-- A test client
-----------------------------------------------------------------------------------------

def reboundPackets : List PacketType :=
  [.player, .cap, .capture, .costume, .tag, .game, .flagHoldState]

/-- The arguments of `S`. -/
structure TestRole where
  n : Text
  otherId : Guid
  ownId : Guid

/-- A header and the octets that it counts, once a stream has brought them. -/
def wholeFrame (stream : Bytes) : Option Bytes :=
  match PacketHeader.deserialize stream with
  | none => none
  | some header =>
      let size := headerSize + header.packetSize.toInt.toNat
      if size ≤ stream.length then some (stream.take size) else none

structure TestClient where
  started : Bool := false
  /-- `S` has returned or thrown -/
  ended : Bool := false
  /-- how many octets of the server's stream were read -/
  taken : Nat := 0
  /-- the frames behind a `Task.Delay(1000)` that has not passed -/
  delayed : List Bytes := []
  /-- what each `WriteAsync` has written -/
  written : List Bytes := []
  /-- how many octets of it the server has read -/
  reached : Nat := 0

namespace TestRole

variable (role : TestRole)

def connect : Packet :=
  .connect { connectionType := .reconnecting, maxPlayers := 0, clientName := role.n }

/-- What is written of a frame in memory, if the slice does not throw. -/
def rebound (memory : Bytes) (header : PacketHeader) : Option Bytes :=
  let header := { header with id := role.ownId }
  relayedFrame (header.octets ++ memory.drop headerSize) header

def follows (header : PacketHeader) : Bool :=
  header.id = role.otherId && reboundPackets.contains header.type

end TestRole

namespace TestClient

variable (client : TestClient)

/-- What the server has not read of the stream. -/
def unread : Bytes := client.written.flatten.drop client.reached

/-- A `WriteAsync` of the loop, whose exception nobody catches. -/
def write (frame : Bytes) (fails : Bool) : TestClient :=
  if fails then { client with ended := true }
  else { client with written := client.written ++ [frame] }

/-- The start of `S`. -/
def connect (runtime : Runtime) (role : TestRole) : Option TestClient :=
  if client.started then none
  else
    match runtime.filled role.ownId role.connect with
    | (memory, true) =>
        let frame := memory.take (headerSize + role.connect.size)
        some ({ client with started := true }.write frame false)
    | (_, false) => some { client with started := true, ended := true }

/-- The part of the loop behind `Read`. -/
def handle (role : TestRole) (memory : Bytes) (header : PacketHeader) (fails : Bool)
    : TestClient :=
  if !role.follows header then client
  else if header.type = .player then
    { client with delayed := client.delayed ++ (role.rebound memory header).toList }
  else
    match role.rebound memory header with
    | none => { client with ended := true }
    | some frame => client.write frame fails

/-- One turn of the loop, where the stream has brought enough for it. A packet that does not fit
into the memory is not read, since the slice to read it into throws.
-/
def read (runtime : Runtime) (role : TestRole) (stream : Bytes) (fails : Bool)
    : Option TestClient :=
  if !client.started || client.ended then none
  else
    match PacketHeader.deserialize (stream.drop client.taken) with
    | none => none
    | some header =>
        if runtime.rent 0xFF < headerSize + header.packetSize.toInt.toNat then
          some { client with ended := true }
        else
          (wholeFrame (stream.drop client.taken)).map fun octets =>
            let memory := octets ++ zeros (runtime.rent 0xFF - octets.length)
            { client with taken := client.taken + octets.length }.handle role memory header fails

/-- The end of a `Task.Delay(1000)`. What the task throws is logged. -/
def rebound (index : Nat) (fails : Bool) : Option TestClient :=
  client.delayed[index]?.map fun frame =>
    { client with
      delayed := client.delayed.eraseIdx index
      written := if fails then client.written else client.written ++ [frame] }

/-- The loop is left: no octet came, or `ReadAsync` threw. -/
def lose : Option TestClient :=
  if client.started then some { client with ended := true } else none

end TestClient

-----------------------------------------------------------------------------------------
-- The server with its test clients
-----------------------------------------------------------------------------------------

/-- The frame in a handler's memory. -/
def heldFrame (memory : Bytes) : Option Bytes :=
  (PacketHeader.deserialize memory).bind (relayedFrame memory)

/-- The frame that a handler is to dispatch. -/
def Phase.dispatches : Phase → Option Bytes
  | .dispatching memory => heldFrame memory
  | _ => none

structure TestSetup where
  server : ServerState
  testClient : SocketId → TestClient := fun _ => {}
  /-- The frames that the handlers have dispatched. The server has no such record; statements
  refer to it.
  -/
  dispatched : List (SocketId × Bytes) := []

inductive TestEvent
  | server (event : Event)
  | connect (socket : SocketId)
  | read (socket : SocketId) (fails : Bool)
  | rebound (socket : SocketId) (index : Nat) (fails : Bool)
  | lose (socket : SocketId)

namespace TestSetup

variable (setup : TestSetup)

def setClient (socket : SocketId) (client : TestClient) : TestSetup :=
  { setup with testClient := Function.update setup.testClient socket client }

/-- What the server has written to a socket. -/
def heard (socket : SocketId) : List Bytes :=
  (setup.server.sent.filter fun message => message.socket = socket).map Sent.data

/-- What the event takes from a test client's stream, or adds to what was dispatched. -/
def carry (roles : SocketId → Option TestRole) : Event → Option TestSetup
  | .receive socket memory =>
      if (roles socket).isNone then some setup
      else
        let client := setup.testClient socket
        match wholeFrame client.unread with
        | none => none
        | some frame =>
            if memory.take frame.length = frame then
              some (setup.setClient socket
                { client with reached := client.reached + frame.length })
            else none
  | .dispatch socket _ =>
      let frame := (setup.server.session socket).phase.dispatches
      some { setup with dispatched := setup.dispatched ++ frame.toList.map (socket, ·) }
  | _ => some setup

def ofClient (roles : SocketId → Option TestRole) (socket : SocketId)
    (act : TestRole → TestClient → Option TestClient)
    : Option TestSetup :=
  (roles socket).bind fun role =>
    (act role (setup.testClient socket)).map (setup.setClient socket)

/-- One event, where `roles` are the sockets of the test clients. -/
def step (runtime : Runtime) (roles : SocketId → Option TestRole) (setup : TestSetup)
    : TestEvent → Option TestSetup
  | .server event =>
      (setup.carry roles event).bind fun carried =>
        (setup.server.step runtime event).map fun server => { carried with server }
  | .connect socket => setup.ofClient roles socket fun role client => client.connect runtime role
  | .read socket fails =>
      setup.ofClient roles socket fun role client =>
        client.read runtime role (setup.heard socket).flatten fails
  | .rebound socket index fails =>
      setup.ofClient roles socket fun _ client => client.rebound index fails
  | .lose socket => setup.ofClient roles socket fun _ client => client.lose

def initial (settings : Settings) (shines : List Int32) : TestSetup where
  server := .initial settings shines

end TestSetup

-----------------------------------------------------------------------------------------
-- The chain
-----------------------------------------------------------------------------------------

/-- `tmp[0]++` -/
def incrementFirst (id : Guid) : Guid :=
  match toBytes id with
  | first :: rest => ofBytes ((first + 1) :: rest)
  | [] => id

/-- The Ids of the chain, from the player's on. -/
def chainId (baseOtherId : Guid) : Nat → Guid
  | 0 => baseOtherId
  | i + 1 => incrementFirst (chainId baseOtherId i)

/-- The `i`-th call of `S`. -/
def chainRole (baseOtherId : Guid) (i : Nat) : TestRole where
  n := "Sussy ".toList ++ (toString i).toList
  otherId := chainId baseOtherId i
  ownId := chainId baseOtherId (i + 1)

/-- `Guid.Parse("8ca3fcdd-2940-1000-b5f8-579301fcbfbb")` -/
def baseOtherId : Guid :=
  ofBytes [0xdd, 0xfc, 0xa3, 0x8c, 0x40, 0x29, 0x00, 0x10, 0xb5, 0xf8, 0x57, 0x93, 0x01, 0xfc,
    0xbf, 0xbb]

end SmoOnline
