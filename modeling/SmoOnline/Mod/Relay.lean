import SmoOnline.Server.Relay
import SmoOnline.Server.Sends
import SmoOnline.Mod.Machine

/-! What the server between the clients relays is what its packet handler writes: each packet
that a handler puts on a link is one frame to that client, from which it is read back.
-/

namespace SmoOnline.Mod

open Span

def FlagTeam.wire : FlagTeam → CaptureTheFlagTeam
  | .invalid => ⟨0⟩
  | .red => ⟨1⟩
  | .blue => ⟨2⟩

/-- The server's packet of what a player sends. -/
def CTFPacket.wire : CTFPacket → Option SmoOnline.Packet
  | .flagHoldState isHeld flagTeam =>
      some (.flagHoldState { isHeld, team := flagTeam.wire })
  | .win winningTeam => some (.captureTheFlagWin { winningTeam := winningTeam.wire })
  | .flagDroppedPosition _ => none

/-- The players are the clients of the server, and their sockets are open. -/
structure Serves (state : ServerState) (game : GameState) : Prop where
  players : game.players = state.connectedClients
  connected : ∀ player ∈ game.players, (state.session player).socketConnected = true
  tidy : Tidy state

/-- The frame of what a client is told. -/
def frameOf (runtime : Runtime) (state : ServerState) (packet : SmoOnline.Packet)
    (told : Packet)
    : Bytes :=
  runtime.typedFrame (state.session told.userId).id packet

variable {state : ServerState} {game : GameState} {runtime : Runtime} {player : SocketId}
  {packet : CTFPacket} {wire : SmoOnline.Packet}

/-- The packets of the players are read back from their frames. -/
theorem frameOf_faithful (encoded : packet.wire = some wire) (told : Packet)
    : ∃ body,
        EncodesFaithfully (state.session told.userId).id wire
          (frameOf runtime state wire told) body := by
  refine (runtime.encodesFaithfully_iff (state.session told.userId).id wire).mpr ?_
  cases packet with
  | flagHoldState isHeld flagTeam =>
      obtain rfl := Option.some.inj encoded
      trivial
  | win winningTeam =>
      obtain rfl := Option.some.inj encoded
      trivial
  | flagDroppedPosition flagTeam => cases encoded

/-- The recipients of a player's broadcast are the other players. -/
theorem Serves.mem_recipients (serves : Serves state game) (member : player ∈ game.players)
    {recipient : SocketId}
    : recipient ∈ state.recipients player ↔ recipient ∈ game.players ∧ recipient ≠ player := by
  rw [serves.players] at member ⊢
  have sender := (ServerState.mem_connectedClients.mp member).1
  rw [ServerState.mem_recipients, ServerState.mem_connectedClients]
  constructor
  · rintro ⟨there, connected, apart⟩
    refine ⟨⟨there, connected⟩, ?_⟩
    rintro rfl
    exact apart rfl
  · rintro ⟨⟨there, connected⟩, apart⟩
    exact ⟨there, connected, fun same => apart (serves.tidy.distinct _ there _ sender same)⟩

/-- What the relay puts on a player's link. -/
theorem sends_relay (encoded : packet.wire = some wire) {recipient : SocketId}
    (there : recipient ∈ game.players)
    : (game.relay player packet).sends (some player, recipient)
      = game.sends (some player, recipient)
        ++ [{
          userId := match packet with
            | .win _ => recipient
            | _ => player
          body := packet
        }] := by
  have link : (some player, recipient) ∈ game.sendsOf (some player) :=
    List.mem_map_of_mem there
  cases packet with
  | flagHoldState isHeld flagTeam => simp [GameState.relay, Links.putAll, link]
  | win winningTeam => simp [GameState.relay, Links.putAll, link]
  | flagDroppedPosition flagTeam => cases encoded

/-- A hold goes to each player once, to the sender by the second send. -/
theorem filter_holdWrites (serves : Serves state game) (member : player ∈ game.players)
    (packet : FlagHoldStatePacket) {recipient : SocketId} (there : recipient ∈ game.players)
    : (state.broadcastPacket runtime (.flagHoldState packet) player (.handler player)
          ++ state.sendPacket runtime player (state.session player).id (.flagHoldState packet)
            (.handler player)).filter
        (fun message => message.socket = recipient)
      = [{
          socket := recipient
          data := runtime.typedFrame (state.session player).id (.flagHoldState packet)
          cause := .handler player
        }] := by
  have completes :=
    @Runtime.filled_completes runtime (state.session player).id (.flagHoldState packet) trivial
      nofun
  have isOpen := serves.connected recipient there
  have others :=
    @filter_writes state _ (ServerState.recipients_nodup serves.tidy player)
      (fun _ => runtime.typedFrame (state.session player).id (.flagHoldState packet))
      (.handler player) recipient
  have own :=
    @filter_writes state [player] (List.pairwise_singleton _ player)
      (fun _ => runtime.typedFrame (state.session player).id (.flagHoldState packet))
      (.handler player) recipient
  rw [List.flatMap_singleton] at own
  rw [List.filter_append, ServerState.broadcastPacket_eq _ completes]
  simp only [ServerState.sendPacket]
  rw [others, own]
  have mem := @Serves.mem_recipients state game player serves member recipient
  by_cases same : recipient = player
  · subst same
    simp [mem, isOpen]
  · simp [mem, same, there, isOpen]

/-- A win goes to each player once, under the player's own Id. -/
theorem filter_winWrites (serves : Serves state game) (packet : CaptureTheFlagWinPacket)
    {recipient : SocketId} (there : recipient ∈ game.players)
    : (state.broadcastToAll runtime (.captureTheFlagWin packet) (.handler player)).filter
        (fun message => message.socket = recipient)
      = [{
          socket := recipient
          data := runtime.typedFrame (state.session recipient).id (.captureTheFlagWin packet)
          cause := .handler player
        }] := by
  have completes (id : Guid) :=
    @Runtime.filled_completes runtime id (.captureTheFlagWin packet) trivial nofun
  have isOpen := serves.connected recipient there
  have nodup : state.connectedClients.Nodup := serves.tidy.nodup.filter _
  rw [ServerState.broadcastToAll_eq _ completes, filter_writes state nodup]
  rw [serves.players] at there
  exact if_pos ⟨there, isOpen⟩

/-- Handling a player's packet writes one frame to each player, which is the frame of the packet
that the relay puts on the player's link.
-/
theorem handler_relays (serves : Serves state game) (now : Nat)
    (member : player ∈ game.players) (encoded : packet.wire = some wire)
    : ∃ writes,
        (state.packetHandler runtime now player wire).1.sent = state.sent ++ writes
        ∧ (state.packetHandler runtime now player wire).2 = .handled
        ∧ ∀ recipient ∈ game.players,
            ∃ told,
              told.body = packet
              ∧ (game.relay player packet).sends (some player, recipient)
                = game.sends (some player, recipient) ++ [told]
              ∧ writes.filter (fun message => message.socket = recipient)
                = [{
                    socket := recipient
                    data := frameOf runtime state wire told
                    cause := .handler player
                  }] := by
  have puts := @sends_relay game player packet wire encoded
  cases packet with
  | flagHoldState isHeld flagTeam =>
      obtain rfl := Option.some.inj encoded
      refine ⟨_, rfl, rfl, ?_⟩
      intro recipient there
      exact ⟨_, rfl, puts there, filter_holdWrites serves member _ there⟩
  | win winningTeam =>
      obtain rfl := Option.some.inj encoded
      refine ⟨_, rfl, rfl, ?_⟩
      intro recipient there
      exact ⟨_, rfl, puts there, filter_winWrites serves _ there⟩
  | flagDroppedPosition flagTeam => cases encoded

end SmoOnline.Mod
