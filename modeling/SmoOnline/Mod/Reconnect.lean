import SmoOnline.Library.Runs
import Mathlib.Logic.Function.Basic

/-! Reconnecting while the send thread runs. Sockets are told apart by how often a socket had been
closed before they were opened, queued packets by how often before they were queued. What the
packets say is not looked into.
-/

namespace SmoOnline.Mod

open Runs

/-- `socket_log_state` -/
inductive LogState
  | uninitialized
  | connected
  | unavailable
  | disconnected
  deriving DecidableEq, Repr

/-- The threads that open and close connections. -/
inductive ConnectionThread
  | game
  | sendFunc
  | recvFunc
  | readFunc
  deriving DecidableEq, Repr

/-- Where a thread is in `closeSocket` and `init`: `restartConnection` goes on after a socket that
could not be closed, `tryReconnect` does not.
-/
inductive Connecting
  | outside
  | closing (isRestart : Bool)
  | opening
  | connecting
  /-- about to send the packet with which `init` presents the player -/
  | presenting
  deriving DecidableEq, Repr

/-- A packet in the queue, with the closes there were before. -/
structure Queued (Packet : Type) where
  packet : Packet
  closes : Nat
  deriving DecidableEq, Repr

/-- Where the send thread is: before the check of the state, between it and the two calls to
`nn::socket::Send`, in `tryReconnect`, or before the packet is freed.
-/
inductive SendTurn (Packet : Type)
  | waiting
  | popped (packet : Queued Packet)
  | checked (packet : Queued Packet)
  | prefixed (packet : Queued Packet)
  | reconnecting (packet : Queued Packet)
  | done (packet : Queued Packet)
  deriving DecidableEq, Repr

/-- The packet of which the send thread has something left to write. -/
def SendTurn.toWrite {Packet : Type} : SendTurn Packet → List (Queued Packet)
  | .popped packet | .checked packet | .prefixed packet => [packet]
  | .waiting | .reconnecting _ | .done _ => []

/-- A call to `nn::socket::Send` for a packet of the queue: on the socket opened after so many
closes.
-/
structure SendCall (Packet : Type) where
  packet : Queued Packet
  opened : Nat
  deriving DecidableEq, Repr

/-- The connection of a player's game. -/
structure Connection (Packet : Type) where
  state : LogState := .uninitialized
  /-- The calls of `closeSocket` so far. -/
  closes : Nat := 0
  /-- The closes before `socket_log_socket` was opened. -/
  opened : Nat := 0
  /-- The server is at the other end of `socket_log_socket`. -/
  isOpen : Bool := false
  mSendQueue : List (Queued Packet) := []
  turn : SendTurn Packet := .waiting
  thread : ConnectionThread → Connecting := fun _ => .outside
  calls : List (SendCall Packet) := []

/-- What happens next. Whatever a thread gives to `queuePacket` is queued at one moment. -/
inductive ConnectionEvent (Packet : Type)
  /-- a sender of the game or `resendInitPackets` -/
  | queuePacket (packet : Packet)
  /-- `init` for the first connection -/
  | startConnection
  | restartConnection (playerDC : Packet)
  /-- a receiving call or a sending one of another thread has failed -/
  | tryReconnect (thread : ConnectionThread)
  | closeSocket (thread : ConnectionThread) (isSuccess : Bool)
  /-- there is no network, or no socket -/
  | noSocket (thread : ConnectionThread) (isNetworkAvailable : Bool)
  | socket (thread : ConnectionThread)
  | connect (thread : ConnectionThread) (isSuccess : Bool)
  | present (thread : ConnectionThread) (isSent : Bool)
  /-- the server or the network ends the connection -/
  | disconnect
  | pop
  | checkState
  | sendData
  | sendDataFails
  | reconnected
  | free
  deriving DecidableEq, Repr

namespace Connection

/-- `maxBufSize` -/
def maxBufSize : Nat := 100

variable {Packet : Type} (connection : Connection Packet)

def queuePacket (packet : Packet) : Connection Packet :=
  if connection.state = .connected ∧ connection.mSendQueue.length < maxBufSize then
    { connection with
      mSendQueue := connection.mSendQueue ++ [{ packet, closes := connection.closes }] }
  else connection

/-- A thread goes on. -/
def goes (thread : ConnectionThread) (next : Connecting) : Connection Packet :=
  { connection with thread := Function.update connection.thread thread next }

/-- A call to `nn::socket::Send` that succeeds. -/
def write (packet : Queued Packet) (turn : SendTurn Packet) : Connection Packet :=
  { connection with
    turn
    calls := connection.calls ++ [{ packet, opened := connection.opened }] }

/-- One event. -/
def step : ConnectionEvent Packet → Option (Connection Packet)
  | .queuePacket packet => some (connection.queuePacket packet)
  | .startConnection =>
      if connection.thread .game = .outside then some (connection.goes .game .opening) else none
  | .restartConnection playerDC =>
      if connection.thread .game = .outside then
        some ((connection.queuePacket playerDC).goes .game (.closing true))
      else none
  | .tryReconnect thread =>
      if connection.thread thread = .outside ∧ thread ≠ .sendFunc then
        some (connection.goes thread (.closing false))
      else none
  | .closeSocket thread isSuccess =>
      match connection.thread thread with
      | .closing isRestart =>
          some
            ({ connection with
                state := .disconnected
                closes := connection.closes + 1
                isOpen := false }.goes thread
              (if isSuccess ∨ isRestart then .opening else .outside))
      | _ => none
  | .noSocket thread isNetworkAvailable =>
      if connection.thread thread = .opening then
        some
          ({ connection with
              state := .unavailable
              isOpen := connection.isOpen && !isNetworkAvailable }.goes thread .outside)
      else none
  | .socket thread =>
      if connection.thread thread = .opening then
        some
          ({ connection with opened := connection.closes, isOpen := false }.goes thread
            .connecting)
      else none
  | .connect thread isSuccess =>
      if connection.thread thread = .connecting then
        if isSuccess then
          some ({ connection with state := .connected, isOpen := true }.goes thread .presenting)
        else some ({ connection with state := .unavailable }.goes thread .outside)
      else none
  | .present thread isSent =>
      if connection.thread thread = .presenting then
        some (connection.goes thread (if isSent then .outside else .closing false))
      else none
  | .disconnect => some { connection with isOpen := false }
  | .pop =>
      match connection.turn, connection.mSendQueue with
      | .waiting, packet :: later =>
          some { connection with turn := .popped packet, mSendQueue := later }
      | _, _ => none
  | .checkState =>
      match connection.turn with
      | .popped packet =>
          some { connection with
            turn := if connection.state = .connected then .checked packet else .done packet }
      | _ => none
  | .sendData =>
      if connection.isOpen then
        match connection.turn with
        | .checked packet => some (connection.write packet (.prefixed packet))
        | .prefixed packet => some (connection.write packet (.done packet))
        | _ => none
      else none
  | .sendDataFails =>
      match connection.turn with
      | .checked packet | .prefixed packet =>
          some ({ connection with turn := .reconnecting packet }.goes .sendFunc (.closing false))
      | _ => none
  | .reconnected =>
      match connection.turn with
      | .reconnecting packet =>
          if connection.thread .sendFunc = .outside then
            some { connection with turn := .done packet }
          else none
      | _ => none
  | .free =>
      match connection.turn with
      | .done _ => some { connection with turn := .waiting }
      | _ => none

/-- The packets of the queue of which something is left to write. -/
def toWrite : List (Queued Packet) := connection.turn.toWrite ++ connection.mSendQueue

/-- What is left to write was queued after every close before the socket was opened. -/
def NothingStale : Prop := ∀ packet ∈ connection.toWrite, connection.opened ≤ packet.closes

/-- No packet was written on a socket that was opened after a close before which the packet was
queued.
-/
def NeverCrosses : Prop := ∀ call ∈ connection.calls, call.opened ≤ call.packet.closes

instance : Decidable connection.NothingStale :=
  inferInstanceAs (Decidable (∀ packet ∈ connection.toWrite, connection.opened ≤ packet.closes))

instance : Decidable connection.NeverCrosses :=
  inferInstanceAs
    (Decidable (∀ call ∈ connection.calls, call.opened ≤ call.packet.closes))

/-- A socket is connected only where nothing is left from before a close. -/
def ConnectsFresh : ConnectionEvent Packet → Prop
  | .connect thread isSuccess =>
      connection.thread thread = .connecting → isSuccess = true → connection.NothingStale
  | _ => True

instance (event : ConnectionEvent Packet) : Decidable (connection.ConnectsFresh event) :=
  match event with
  | .connect _ _ => inferInstanceAs (Decidable (_ → _ → _))
  | .queuePacket _ | .startConnection | .restartConnection _ | .tryReconnect _
  | .closeSocket _ _ | .noSocket _ _ | .socket _ | .present _ _ | .disconnect | .pop
  | .checkState | .sendData | .sendDataFails | .reconnected | .free => isTrue trivial

/-- Nothing has crossed, and nothing can on the socket there is. -/
structure Fresh : Prop where
  opened : connection.opened ≤ connection.closes
  unwritten : connection.isOpen = true → connection.NothingStale
  written : connection.NeverCrosses

-----------------------------------------------------------------------------------------
-- Steps
-----------------------------------------------------------------------------------------

variable {connection} {next : Connection Packet}

/-- A step that opens no socket, and after which no more is left to write. -/
theorem Fresh.narrow (fresh : connection.Fresh) (opened : next.opened = connection.opened)
    (closes : connection.closes ≤ next.closes)
    (isOpen : next.isOpen = true → connection.isOpen = true)
    (toWrite : next.toWrite ⊆ connection.toWrite) (calls : next.calls = connection.calls)
    : next.Fresh where
  opened := by
    rw [opened]
    exact Nat.le_trans fresh.opened closes
  unwritten still packet left := by
    rw [opened]
    exact fresh.unwritten (isOpen still) packet (toWrite left)
  written := by
    rw [NeverCrosses, calls]
    exact fresh.written

/-- A thread that goes on opens, writes and queues nothing by that. -/
theorem Fresh.goes (fresh : connection.Fresh) (thread : ConnectionThread) (turn : Connecting)
    : (connection.goes thread turn).Fresh :=
  fresh.narrow rfl (Nat.le_refl _) id (List.Subset.refl _) rfl

/-- A packet is queued after all closes that there were. -/
theorem Fresh.queuePacket (fresh : connection.Fresh) (packet : Packet)
    : (connection.queuePacket packet).Fresh := by
  rw [Connection.queuePacket]
  split_ifs
  · refine ⟨fresh.opened, fun isOpen queued left => ?_, fresh.written⟩
    rw [toWrite, ← List.append_assoc] at left
    rcases List.mem_append.mp left with before | added
    · exact fresh.unwritten isOpen queued before
    · obtain rfl := List.mem_singleton.mp added
      exact fresh.opened
  · exact fresh

/-- On an open socket, what is left to write belongs to it. -/
theorem Fresh.write (fresh : connection.Fresh) (isOpen : connection.isOpen = true)
    {packet : Queued Packet} {turn : SendTurn Packet}
    (before : connection.turn.toWrite = [packet]) (after : turn.toWrite ⊆ [packet])
    : (connection.write packet turn).Fresh where
  opened := fresh.opened
  unwritten _ other left := by
    apply fresh.unwritten isOpen
    rcases List.mem_append.mp left with turn | queued
    · exact List.mem_append_left _ (before ▸ after turn)
    · exact List.mem_append_right _ queued
  written call member := by
    rcases List.mem_append.mp member with earlier | added
    · exact fresh.written call earlier
    · obtain rfl := List.mem_singleton.mp added
      apply fresh.unwritten isOpen
      rw [toWrite, before]
      exact List.mem_append_left _ (List.mem_singleton_self _)

/-- A step keeps packets from crossing, where a socket is connected with nothing left from before
a close.
-/
theorem Fresh.step {event : ConnectionEvent Packet} (fresh : connection.Fresh)
    (connects : connection.ConnectsFresh event) (taken : connection.step event = some next)
    : next.Fresh := by
  cases event with
  | queuePacket packet =>
      obtain rfl := Option.some.inj taken
      exact fresh.queuePacket packet
  | startConnection =>
      rw [Connection.step] at taken
      split_ifs at taken
      obtain rfl := Option.some.inj taken
      exact fresh.goes _ _
  | restartConnection playerDC =>
      rw [Connection.step] at taken
      split_ifs at taken
      obtain rfl := Option.some.inj taken
      exact (fresh.queuePacket playerDC).goes _ _
  | tryReconnect thread =>
      rw [Connection.step] at taken
      split_ifs at taken
      obtain rfl := Option.some.inj taken
      exact fresh.goes _ _
  | closeSocket thread isSuccess =>
      rw [Connection.step] at taken
      split at taken
      · obtain rfl := Option.some.inj taken
        exact fresh.narrow rfl (Nat.le_succ _) nofun (List.Subset.refl _) rfl
      · cases taken
  | noSocket thread isNetworkAvailable =>
      rw [Connection.step] at taken
      split_ifs at taken
      obtain rfl := Option.some.inj taken
      exact fresh.narrow rfl (Nat.le_refl _) (fun still => (Bool.and_eq_true_iff.mp still).1)
        (List.Subset.refl _) rfl
  | socket thread =>
      rw [Connection.step] at taken
      split_ifs at taken
      obtain rfl := Option.some.inj taken
      exact ⟨Nat.le_refl _, nofun, fresh.written⟩
  | connect thread isSuccess =>
      rw [Connection.step] at taken
      split_ifs at taken with connecting success
      · obtain rfl := Option.some.inj taken
        exact ⟨fresh.opened, fun _ => connects connecting success, fresh.written⟩
      · obtain rfl := Option.some.inj taken
        exact fresh.narrow rfl (Nat.le_refl _) id (List.Subset.refl _) rfl
  | present thread isSent =>
      rw [Connection.step] at taken
      split_ifs at taken
      · obtain rfl := Option.some.inj taken
        exact fresh.goes _ _
      · obtain rfl := Option.some.inj taken
        exact fresh.goes _ _
  | disconnect =>
      obtain rfl := Option.some.inj taken
      exact fresh.narrow rfl (Nat.le_refl _) nofun (List.Subset.refl _) rfl
  | pop =>
      rw [Connection.step] at taken
      split at taken
      · next packet later waiting queue =>
          obtain rfl := Option.some.inj taken
          refine fresh.narrow rfl (Nat.le_refl _) id ?_ rfl
          rw [toWrite, toWrite, waiting, queue]
          exact List.Subset.refl _
      · cases taken
  | checkState =>
      rw [Connection.step] at taken
      split at taken
      · next packet popped =>
          obtain rfl := Option.some.inj taken
          refine fresh.narrow rfl (Nat.le_refl _) id ?_ rfl
          rw [toWrite, toWrite, popped]
          dsimp only
          split_ifs
          · exact List.Subset.refl _
          · exact List.subset_append_right _ _
      · cases taken
  | sendData =>
      rw [Connection.step] at taken
      split_ifs at taken with isOpen
      split at taken
      · next packet checked =>
          obtain rfl := Option.some.inj taken
          exact fresh.write isOpen (by rw [checked]; rfl) (List.Subset.refl _)
      · next packet prefixed =>
          obtain rfl := Option.some.inj taken
          exact fresh.write isOpen (by rw [prefixed]; rfl) (List.nil_subset _)
      · cases taken
  | sendDataFails =>
      rw [Connection.step] at taken
      split at taken
      · obtain rfl := Option.some.inj taken
        exact fresh.narrow rfl (Nat.le_refl _) id (List.subset_append_right _ _) rfl
      · obtain rfl := Option.some.inj taken
        exact fresh.narrow rfl (Nat.le_refl _) id (List.subset_append_right _ _) rfl
      · cases taken
  | reconnected =>
      rw [Connection.step] at taken
      split at taken
      · split_ifs at taken
        obtain rfl := Option.some.inj taken
        exact fresh.narrow rfl (Nat.le_refl _) id (List.subset_append_right _ _) rfl
      · cases taken
  | free =>
      rw [Connection.step] at taken
      split at taken
      · obtain rfl := Option.some.inj taken
        exact fresh.narrow rfl (Nat.le_refl _) id (List.subset_append_right _ _) rfl
      · cases taken

/-- No packet crosses a reconnect, where every socket is connected with nothing left in the queue
or in the hands of the send thread that was queued before a close.
-/
theorem neverCrosses_of_connectsFresh {events : List (ConnectionEvent Packet)}
    (run : Run step ConnectsFresh {} events connection)
    : connection.NeverCrosses :=
  (run.invariant ⟨Nat.le_refl _, nofun, nofun⟩ Fresh.step).written

-----------------------------------------------------------------------------------------
-- Saying goodbye
-----------------------------------------------------------------------------------------

/-- The packets of a game that is restarted. -/
inductive Word
  | playerInf
  | playerDC
  deriving DecidableEq, Repr

/-- The first connection. -/
def connects : List (ConnectionEvent Word) :=
  [.startConnection, .socket .game, .connect .game true, .present .game true]

/-- The send thread sends a packet. -/
def sends : List (ConnectionEvent Word) := [.pop, .checkState, .sendData, .sendData, .free]

/-- A restart on the game's thread after the goodbye is queued. -/
def reopens : List (ConnectionEvent Word) :=
  [.closeSocket .game true, .socket .game, .connect .game true, .present .game true]

/-- The send thread says goodbye before the socket is closed. -/
theorem goodbye_in_time
    : ∃ connection : Connection Word,
        AnyRun step {} (connects ++ [.restartConnection .playerDC] ++ sends ++ reopens) connection
        ∧ connection.calls.length = 2
        ∧ connection.NeverCrosses := by
  obtain ⟨connection, executed, calls⟩ :=
    (Option.any_eq_true (fun connection : Connection Word => decide (connection.calls.length = 2))
      (executeChecked step (fun connection event => decide (connection.ConnectsFresh event)) {}
        (connects ++ [.restartConnection .playerDC] ++ sends ++ reopens))).mp (by decide)
  have run : Run step ConnectsFresh {} _ connection :=
    executeChecked_run (fun _ _ => of_decide_eq_true) executed
  exact ⟨connection, run.mono fun _ => trivial, of_decide_eq_true calls,
    neverCrosses_of_connectsFresh run⟩

/-- The send thread comes to it when the next connection is there, and the server is told goodbye
on that.
-/
theorem goodbye_too_late
    : ∃ connection : Connection Word,
        AnyRun step {} (connects ++ [.restartConnection .playerDC] ++ reopens ++ sends) connection
        ∧ { packet := ⟨.playerDC, 0⟩, opened := 1 } ∈ connection.calls
        ∧ ¬connection.NeverCrosses :=
  exists_run (fun connection : Connection Word =>
    { packet := ⟨.playerDC, 0⟩, opened := 1 } ∈ connection.calls ∧ ¬connection.NeverCrosses)
    (by decide)

end Connection

end SmoOnline.Mod
