import SmoOnline.Server.Frame
import SmoOnline.Server.State

/-! How the server writes: typed packets, frames passed on, and broadcasts of both kinds.
A write to a socket that is not connected throws and leaves nothing; the callers log that and
go on with their other recipients.
-/

namespace SmoOnline

open Span Utf8

namespace ServerState

/-- One `SendAsync`. -/
def write (state : ServerState) (socket : SocketId) (data : Bytes) (cause : Cause)
    : List Sent :=
  if (state.session socket).socketConnected then [{ socket, data, cause }] else []

/-- `Client.Send<T>(packet, sender)`, where `id` is the sender's Id or the client's own. -/
def sendPacket (state : ServerState) (runtime : Runtime) (socket : SocketId) (id : Guid)
    (packet : Packet) (cause : Cause)
    : List Sent :=
  state.write socket (runtime.typedFrame id packet) cause

/-- `Client.Send(data, sender)`. -/
def sendMemory (state : ServerState) (socket : SocketId) (data : Bytes) (cause : Cause)
    : List Sent :=
  match PacketHeader.deserialize data with
  | none => []
  | some header =>
      if !(state.session socket).connected && header.type != .connect then []
      else
        match relayedFrame data header with
        | none => []
        | some frame => state.write socket frame cause

/-- `Broadcast(data, sender)`. -/
def broadcastMemory (state : ServerState) (data : Bytes) (sender : SocketId) (cause : Cause)
    : List Sent :=
  (state.recipients sender).flatMap (fun socket => state.sendMemory socket data cause)

/-- `Broadcast<T>(packet, sender)`. -/
def broadcastPacket (state : ServerState) (runtime : Runtime) (packet : Packet)
    (sender : SocketId) (cause : Cause)
    : List Sent :=
  match runtime.filled (state.session sender).id packet with
  | (memory, true) => state.broadcastMemory memory sender cause
  | (_, false) => []

/-- `Broadcast<T>(packet)`: to everyone, each copy under its recipient's own Id. -/
def broadcastToAll (state : ServerState) (runtime : Runtime) (packet : Packet)
    (cause : Cause)
    : List Sent :=
  state.connectedClients.flatMap fun socket =>
    match runtime.filled (state.session socket).id packet with
    | (memory, true) => state.sendMemory socket memory cause
    | (_, false) => []

/-- The loop of `BroadcastReplace`: the copies sent before a replacer throws, and whether
none did.
-/
def sendReplaced (state : ServerState) (runtime : Runtime) (id : Guid) (cause : Cause)
    (replacer : SocketId → Option Packet)
    : List SocketId → List Sent × Bool
  | [] => ([], true)
  | socket :: rest =>
      match replacer socket with
      | none => ([], false)
      | some packet =>
          let later := sendReplaced state runtime id cause replacer rest
          (state.sendPacket runtime socket id packet cause ++ later.1, later.2)

/-- `BroadcastReplace`. -/
def broadcastReplace (state : ServerState) (runtime : Runtime) (sender : SocketId)
    (cause : Cause) (replacer : SocketId → Option Packet)
    : List Sent × Bool :=
  state.sendReplaced runtime (state.session sender).id cause replacer (state.recipients sender)

end ServerState

end SmoOnline
