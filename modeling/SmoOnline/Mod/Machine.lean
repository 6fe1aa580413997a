import SmoOnline.Library.Links
import SmoOnline.Library.Runs
import SmoOnline.Mod.Client

/-! A game of Capture the Flag over the network: the clients, the server between them and the
packets under way. The server has a handler for each client, which sends what it relays to one
recipient after the other, independently of the other handlers.
-/

namespace SmoOnline.Mod

open Runs Links

/-- Who sends: the handler of a client, or the server for the game mode. -/
abbrev Handler := Option SocketId

structure GameState where
  /-- the clients that are connected -/
  players : List SocketId
  client : SocketId → Client
  /-- from each client to its handler -/
  uplinks : SocketId → List CTFPacket := fun _ => []
  /-- from each handler to each recipient, still to be sent -/
  sends : Handler × SocketId → List Packet := fun _ => []
  /-- from the server to each client -/
  downlinks : SocketId → List Packet := fun _ => []
  /-- the holders in the flag data of the game mode -/
  flagHolder : FlagTeam → Option SocketId := fun _ => none

inductive Event
  | frame (player : SocketId) (inputs : Inputs)
  /-- The send thread of a client takes the next address from its queue. -/
  | trySendQueue (player : SocketId)
  /-- A handler reads a packet of its client. -/
  | handle (player : SocketId)
  | send (handler : Handler) (recipient : SocketId)
  | deliver (player : SocketId) (isFirstFrame : Bool)
  /-- The game mode sends the position of a flag that nobody holds. -/
  | sendFlagPacket (flagTeam : FlagTeam)

namespace GameState

variable (state : GameState)

def setClient (player : SocketId) (client : Client) : GameState :=
  { state with client := Function.update state.client player client }

def frame (player : SocketId) (inputs : Inputs) : Option GameState :=
  if player ∈ state.players ∧ (state.client player).isModeActive then
    some (state.setClient player ((state.client player).update inputs))
  else none

def trySendQueue (player : SocketId) : Option GameState :=
  if player ∈ state.players then
    match (state.client player).sendQueue with
    | [] => none
    | slot :: later =>
        let sent := state.setClient player { state.client player with sendQueue := later }
        some { sent with uplinks := put state.uplinks player ((state.client player).slot slot) }
  else none

/-- The links from a handler to all players. -/
def sendsOf (handler : Handler) : List (Handler × SocketId) :=
  state.players.map fun player => (handler, player)

/-- A hold goes to the others and back to the sender, under the sender's Id, and a win to
everybody under their own.
-/
def relay (player : SocketId) : CTFPacket → GameState
  | .flagHoldState isHeld flagTeam =>
      { state with
        sends :=
          putAll state.sends (state.sendsOf (some player)) fun _ =>
            { userId := player, body := .flagHoldState isHeld flagTeam }
        flagHolder :=
          Function.update state.flagHolder flagTeam (if isHeld then some player else none) }
  | .win winningTeam =>
      { state with
        sends :=
          putAll state.sends (state.sendsOf (some player)) fun link =>
            { userId := link.2, body := .win winningTeam } }
  | .flagDroppedPosition flagTeam =>
      { state with
        sends :=
          putAll state.sends
            ((state.sendsOf (some player)).filter fun link => link.2 ≠ player) fun _ =>
            { userId := player, body := .flagDroppedPosition flagTeam } }

def handle (player : SocketId) : Option GameState :=
  match take state.uplinks player with
  | none => none
  | some (packet, uplinks) => some ({ state with uplinks }.relay player packet)

def send (handler : Handler) (recipient : SocketId) : Option GameState :=
  match take state.sends (handler, recipient) with
  | none => none
  | some (packet, sends) =>
      some { state with sends, downlinks := put state.downlinks recipient packet }

def deliver (player : SocketId) (isFirstFrame : Bool) : Option GameState :=
  match take state.downlinks player with
  | none => none
  | some (packet, downlinks) =>
      some ({ state with downlinks }.setClient player
        ((state.client player).readPacket isFirstFrame packet))

def sendFlagPacket (flagTeam : FlagTeam) : Option GameState :=
  if flagTeam ≠ .invalid ∧ state.flagHolder flagTeam = none then
    some { state with
      sends :=
        putAll state.sends (state.sendsOf none) fun link =>
          { userId := link.2, body := .flagDroppedPosition flagTeam } }
  else none

/-- One event. -/
def step : Event → Option GameState
  | .frame player inputs => state.frame player inputs
  | .trySendQueue player => state.trySendQueue player
  | .handle player => state.handle player
  | .send handler recipient => state.send handler recipient
  | .deliver player isFirstFrame => state.deliver player isFirstFrame
  | .sendFlagPacket flagTeam => state.sendFlagPacket flagTeam

-----------------------------------------------------------------------------------------
-- What the events do
-----------------------------------------------------------------------------------------

variable {state} {next : GameState} {player : SocketId}

theorem frame_eq_some {inputs : Inputs} (taken : state.frame player inputs = some next)
    : player ∈ state.players
      ∧ (state.client player).isModeActive
      ∧ next = state.setClient player ((state.client player).update inputs) := by
  unfold frame at taken
  split_ifs at taken with active
  exact ⟨active.1, active.2, (Option.some.inj taken).symm⟩

theorem trySendQueue_eq_some (taken : state.trySendQueue player = some next)
    : player ∈ state.players
      ∧ ∃ slot later,
          (state.client player).sendQueue = slot :: later
          ∧ next
            = { state.setClient player { state.client player with sendQueue := later } with
                uplinks := put state.uplinks player ((state.client player).slot slot) } := by
  unfold trySendQueue at taken
  split_ifs at taken with member
  split at taken
  · cases taken
  · next slot later queue =>
      exact ⟨member, slot, later, queue, (Option.some.inj taken).symm⟩

theorem handle_eq_some (taken : state.handle player = some next)
    : ∃ packet rest,
        take state.uplinks player = some (packet, rest)
        ∧ next = { state with uplinks := rest }.relay player packet := by
  unfold handle at taken
  split at taken
  · cases taken
  · next packet rest found => exact ⟨packet, rest, found, (Option.some.inj taken).symm⟩

theorem send_eq_some {handler : Handler} (taken : state.send handler player = some next)
    : ∃ packet rest,
        take state.sends (handler, player) = some (packet, rest)
        ∧ next
          = { state with sends := rest, downlinks := put state.downlinks player packet } := by
  unfold send at taken
  split at taken
  · cases taken
  · next packet rest found => exact ⟨packet, rest, found, (Option.some.inj taken).symm⟩

theorem deliver_eq_some {isFirstFrame : Bool}
    (taken : state.deliver player isFirstFrame = some next)
    : ∃ packet rest,
        take state.downlinks player = some (packet, rest)
        ∧ next
          = { state with downlinks := rest }.setClient player
              ((state.client player).readPacket isFirstFrame packet) := by
  unfold deliver at taken
  split at taken
  · cases taken
  · next packet rest found => exact ⟨packet, rest, found, (Option.some.inj taken).symm⟩

theorem sendFlagPacket_eq_some {flagTeam : FlagTeam}
    (taken : state.sendFlagPacket flagTeam = some next)
    : next
      = { state with
          sends :=
            putAll state.sends (state.sendsOf none) fun link =>
              { userId := link.2, body := .flagDroppedPosition flagTeam } } := by
  unfold sendFlagPacket at taken
  split_ifs at taken
  exact (Option.some.inj taken).symm

/-- What a handler relays changes no client. -/
@[simp] theorem client_relay (packet : CTFPacket)
    : (state.relay player packet).client = state.client := by
  cases packet <;> rfl

@[simp] theorem players_relay (packet : CTFPacket)
    : (state.relay player packet).players = state.players := by
  cases packet <;> rfl

/-- What an event makes of the clients. -/
theorem client_of_step {event : Event} (taken : state.step event = some next)
    : next.players = state.players
      ∧ match event with
        | .frame player inputs =>
            player ∈ state.players
            ∧ next.client
              = Function.update state.client player ((state.client player).update inputs)
        | .trySendQueue player =>
            ∃ later,
              next.client
              = Function.update state.client player
                  { state.client player with sendQueue := later }
        | .deliver player isFirstFrame =>
            ∃ packet ∈ state.downlinks player,
              next.client
              = Function.update state.client player
                  ((state.client player).readPacket isFirstFrame packet)
        | _ => next.client = state.client := by
  cases event with
  | frame player inputs =>
      obtain ⟨member, _, rfl⟩ := frame_eq_some taken
      exact ⟨rfl, member, rfl⟩
  | trySendQueue player =>
      obtain ⟨_, slot, later, _, rfl⟩ := trySendQueue_eq_some taken
      exact ⟨rfl, later, rfl⟩
  | handle player =>
      obtain ⟨packet, rest, _, rfl⟩ := handle_eq_some taken
      exact ⟨by simp, by simp⟩
  | send handler recipient =>
      obtain ⟨packet, rest, _, rfl⟩ := send_eq_some taken
      exact ⟨rfl, rfl⟩
  | deliver player isFirstFrame =>
      obtain ⟨packet, rest, found, rfl⟩ := deliver_eq_some taken
      exact ⟨rfl, packet, mem_of_take found, rfl⟩
  | sendFlagPacket flagTeam =>
      obtain rfl := sendFlagPacket_eq_some taken
      exact ⟨rfl, rfl⟩

end GameState

/-- What a player queued comes to its handler, and from there to some recipients. -/
def passOn (player : SocketId) (recipients : List SocketId) : List Event :=
  [.trySendQueue player, .handle player]
  ++ recipients.flatMap fun recipient =>
      [.send (some player) recipient, .deliver recipient false]

end SmoOnline.Mod
