import SmoOnline.Server.Changes

/-! What the phase of a handler says of its session in every reachable state: the frame it
holds, whether its client is connected, and whether the client has an entry in the table.
-/

namespace SmoOnline

open Span Utf8 Runs

/-- The frame that a handler holds. -/
def Phase.memory : Phase → Option Bytes
  | .connecting memory _ | .calling memory | .joined memory | .replaying memory _ _
  | .dispatching memory => some memory
  | _ => none

theorem Phase.memory_of_entering {phase : Phase} {memory : Bytes}
    (entering : phase.entering = some memory)
    : phase.memory = some memory := by
  cases phase <;> first | exact entering | cases entering

/-- In the game: from the client table to the end of the loop. -/
def Phase.seated : Phase → Bool
  | .calling _ | .joined _ | .replaying .. | .dispatching _ | .reading false => true
  | _ => false

/-- A whole header, and the range it counts inside of the memory. -/
structure Framed (memory : Bytes) (header : PacketHeader) : Prop where
  read : PacketHeader.deserialize memory = some header
  start : 0 ≤ (headerSize : Int) + header.packetSize.toInt
  stop : (headerSize : Int) + header.packetSize.toInt ≤ memory.length

theorem Framed.relayedFrame {memory : Bytes} {header : PacketHeader}
    (framed : Framed memory header)
    : relayedFrame memory header
      = some (memory.take ((headerSize : Int) + header.packetSize.toInt).toNat) :=
  if_pos ⟨framed.start, framed.stop⟩

/-- A Connect frame, as the first frame of a socket is. -/
structure Greets (memory : Bytes) (header : PacketHeader) : Prop where
  framed : Framed memory header
  type : header.type = .connect
  whole : 0 ≤ header.packetSize.toInt

/-- What holds of a session by its phase. -/
structure Session.Sound (session : Session) : Prop where
  framed : ∀ memory, session.phase.memory = some memory → ∃ header, Framed memory header
  connecting
    : ∀ memory connect,
        session.phase = .connecting memory connect → ∃ header, Greets memory header
  entering
    : ∀ memory,
        session.phase.entering = some memory
        → ∃ header, Greets memory header ∧ header.id = session.id
  dispatching
    : ∀ memory,
        session.phase = .dispatching memory
        → ∃ header,
            Framed memory header ∧ (header.id = session.id ∨ session.id = .empty)
  connected : session.phase.seated = true → session.connected = true
  ended : session.phase = .ended → session.connected = false

/-- Sessions are sound; who is connected over an open socket has an entry; and only sessions
that ended are still to be said goodbye to.
-/
structure Seated (state : ServerState) : Prop where
  sound : ∀ socket, (state.session socket).Sound
  entry
    : ∀ socket,
        (state.session socket).connected = true
        → (state.session socket).socketConnected = true
        → socket ∈ state.clients
  farewell : ∀ socket ∈ state.farewells, (state.session socket).phase = .ended

theorem Session.Sound.congr {before after : Session} (sound : before.Sound)
    (phase : after.phase = before.phase) (id : after.id = before.id)
    (connected : after.connected = before.connected)
    : after.Sound := by
  obtain ⟨framed, connecting, entering, dispatching, connects, ended⟩ := sound
  constructor <;> simp only [phase, id, connected] <;> assumption

/-- A phase that holds no frame says nothing of the session, seats and ends aside. -/
theorem Session.Sound.of_idle {session : Session} (memory : session.phase.memory = none)
    (connected : session.phase.seated = true → session.connected = true)
    (ended : session.phase = .ended → session.connected = false)
    : session.Sound where
  framed _ held := by rw [memory] at held; cases held
  connecting _ _ phase := by rw [phase] at memory; cases memory
  entering _ held := by
    rw [Phase.memory_of_entering held] at memory
    cases memory
  dispatching _ phase := by rw [phase] at memory; cases memory
  connected := connected
  ended := ended

/-- Before its first frame and out of the loop nothing is asked of a session. -/
theorem Session.Sound.of_outside {session : Session}
    (phase : session.phase = .reading true ∨ session.phase = .failing)
    : session.Sound := by
  rcases phase with phase | phase
  all_goals exact .of_idle (by rw [phase]; rfl) (by rw [phase]; nofun) (by rw [phase]; nofun)

theorem Session.Sound.of_connecting {session : Session} {memory : Bytes}
    {connect : ConnectPacket} {header : PacketHeader}
    (phase : session.phase = .connecting memory connect) (greets : Greets memory header)
    : session.Sound := by
  constructor <;> simp only [phase, Phase.memory, Phase.entering, Phase.seated]
  · intro _ same
    obtain rfl := Option.some.inj same
    exact ⟨header, greets.framed⟩
  · intro _ _ same
    obtain ⟨rfl, rfl⟩ := Phase.connecting.inj same
    exact ⟨header, greets⟩
  all_goals simp

theorem Session.Sound.of_entering {session : Session} {memory : Bytes} {header : PacketHeader}
    (phase : session.phase.entering = some memory) (greets : Greets memory header)
    (id : header.id = session.id) (connected : session.connected = true)
    : session.Sound := by
  have held := Phase.memory_of_entering phase
  refine {
    framed := fun _ same => ⟨header, ?_⟩
    connecting := fun _ _ same => by rw [same] at phase; cases phase
    entering := fun _ same => ⟨header, ?_, id⟩
    dispatching := fun _ same => by rw [same] at phase; cases phase
    connected := fun _ => connected
    ended := fun same => by rw [same] at phase; cases phase
  }
  · obtain rfl := Option.some.inj (held.symm.trans same)
    exact greets.framed
  · obtain rfl := Option.some.inj (phase.symm.trans same)
    exact greets

theorem Session.Sound.of_dispatching {session : Session} {memory : Bytes}
    {header : PacketHeader} (phase : session.phase = .dispatching memory)
    (framed : Framed memory header) (id : header.id = session.id ∨ session.id = .empty)
    (connected : session.connected = true)
    : session.Sound := by
  constructor <;> simp only [phase, Phase.memory, Phase.entering, Phase.seated]
  · intro _ same
    obtain rfl := Option.some.inj same
    exact ⟨header, framed⟩
  · simp
  · simp
  · intro _ same
    obtain rfl := Phase.dispatching.inj same
    exact ⟨header, framed, id⟩
  · exact fun _ => connected
  · simp

-----------------------------------------------------------------------------------------
-- The checks on a frame
-----------------------------------------------------------------------------------------

theorem inbound_joining_greets {first : Bool} {id : Guid} {memory : Bytes}
    {connect : ConnectPacket} (joining : inbound first id memory = .joining connect)
    : ∃ header, Greets memory header := by
  unfold inbound at joining
  split at joining
  · cases joining
  · next header read =>
      dsimp only at joining
      split_ifs at joining with short isFirst type
      split at joining
      · cases joining
      · next other decoded =>
          obtain ⟨payload, sliced, _⟩ := Option.bind_eq_some_iff.mp decoded
          unfold slice? at sliced
          split_ifs at sliced with inside
          exact ⟨header, ⟨read, by omega, by omega⟩, by simpa using type, by omega⟩

theorem inbound_packet {first : Bool} {id : Guid} {memory : Bytes}
    (passed : inbound first id memory = .packet)
    : first = false
      ∧ ∃ header,
          PacketHeader.deserialize memory = some header
          ∧ 0 ≤ (headerSize : Int) + header.packetSize.toInt
          ∧ (header.id = id ∨ id = .empty) := by
  unfold inbound at passed
  split at passed
  · cases passed
  · next header read =>
      dsimp only at passed
      split_ifs at passed with short isFirst type foreign
      · split at passed <;> cases passed
      · refine ⟨by simpa using isFirst, header, read, by omega, ?_⟩
        simp only [Bool.and_eq_true, bne_iff_ne, ne_eq, not_and, not_not] at foreign
        by_cases own : header.id = id
        · exact .inl own
        · exact .inr (foreign own)

-----------------------------------------------------------------------------------------
-- Every reachable state
-----------------------------------------------------------------------------------------

/-- Rented memory has room for the range of a frame that was read into it. -/
theorem Framed.of_rented {runtime : Runtime} {memory : Bytes} {header : PacketHeader}
    (read : PacketHeader.deserialize memory = some header)
    (length : memory.length = runtime.rent (headerSize + header.packetSize.toInt.toNat))
    (start : 0 ≤ (headerSize : Int) + header.packetSize.toInt)
    : Framed memory header := by
  have room := runtime.le_rent (headerSize + header.packetSize.toInt.toNat)
  exact ⟨read, start, by omega⟩

section step

variable {runtime : Runtime} {state next : ServerState} {event : Event}

/-- Every change keeps a session sound. Witness: a handler holds the frame it read until it
has passed it on, and only the two paths of a join connect a client.
-/
theorem Session.Sound.change {socket : SocketId} (sound : (state.session socket).Sound)
    (taken : state.step runtime event = some next)
    (change : Change state socket (next.session socket) event)
    : (next.session socket).Sound := by
  cases change with
  | accept _ phase => exact .of_outside (.inl phase)
  | @receive memory first was phase id connected =>
      obtain ⟨_, header, _, read, length, _⟩ := ServerState.receive_cases taken
      generalize outcome : inbound first (state.session socket).id memory = checked at phase
      cases checked with
      | refused => exact .of_outside (.inr phase)
      | joining connect =>
          obtain ⟨counted, greets⟩ := inbound_joining_greets outcome
          exact .of_connecting phase greets
      | packet =>
          obtain ⟨rfl, counted, again, start, own⟩ := inbound_packet outcome
          obtain rfl := Option.some.inj (read.symm.trans again)
          have seated := sound.connected (by rw [was]; rfl)
          exact .of_dispatching phase (.of_rented read length start) (id.symm ▸ own)
            (connected.trans seated)
  | endRead _ _ phase => exact .of_outside (.inr phase)
  | refuse _ _ _ phase => exact .of_outside (.inr phase)
  | enter memory connect header was read phase id connected =>
      obtain ⟨counted, greets⟩ := sound.connecting memory connect was
      obtain rfl := Option.some.inj (read.symm.trans greets.framed.read)
      have entering : (next.session socket).phase.entering = some memory := by
        rcases phase with phase | phase <;> rw [phase] <;> rfl
      exact .of_entering entering greets id.symm connected
  | clientJoined memory was phase id connected =>
      obtain ⟨header, greets, own⟩ := sound.entering memory (by rw [was]; rfl)
      have seated := sound.connected (by rw [was]; rfl)
      split_ifs at phase
      · exact .of_outside (.inr phase)
      · exact .of_entering (by rw [phase]; rfl) greets (own.trans id.symm)
          (connected.trans seated)
  | snapshot memory _ was phase id connected =>
      obtain ⟨header, greets, own⟩ := sound.entering memory (by rw [was]; rfl)
      have seated := sound.connected (by rw [was]; rfl)
      exact .of_entering (by rw [phase]; rfl) greets (own.trans id.symm) (connected.trans seated)
  | replay memory _ _ _ _ was phase id connected =>
      obtain ⟨header, greets, own⟩ := sound.entering memory (by rw [was]; rfl)
      have seated := sound.connected (by rw [was]; rfl)
      exact .of_entering (by rw [phase]; rfl) greets (own.trans id.symm) (connected.trans seated)
  | replayDone memory _ _ was phase id connected =>
      obtain ⟨header, greets, own⟩ := sound.entering memory (by rw [was]; rfl)
      have seated := sound.connected (by rw [was]; rfl)
      rcases phase with phase | phase
      · exact .of_outside (.inr phase)
      · exact .of_dispatching phase greets.framed (.inl (own.trans id.symm))
          (connected.trans seated)
  | dispatch _ was phase _ connected =>
      have seated := sound.connected (by rw [was]; rfl)
      exact .of_idle (by rw [phase]; rfl) (fun _ => connected.trans seated)
        (by rw [phase]; nofun)
  | epilogue _ phase _ connected =>
      exact .of_idle (by rw [phase]; rfl) (by rw [phase]; nofun) fun _ => connected

/-- Every step keeps the seats. -/
theorem Seated.step (tidy : Tidy state) (seated : Seated state)
    (taken : state.step runtime event = some next)
    : Seated next where
  sound socket := by
    rcases ServerState.step_change tidy taken socket with ⟨_, same⟩ | change
    · exact (seated.sound socket).congr same.phase same.id same.connected
    · exact (seated.sound socket).change taken change
  entry socket connected isOpen := by
    have effect := ServerState.step_effect tidy taken
    rcases effect.connects socket connected with was | entry
    · rcases effect.opens socket isOpen with wasOpen | ⟨remote, rfl⟩
      · exact effect.stays socket (seated.entry socket was wasOpen) connected isOpen
      · obtain ⟨idle, _⟩ := ServerState.accept_cases taken
        have joined := tidy.joined_of_connected was
        rw [idle] at joined
        cases joined
    · exact entry
  farewell socket pending := by
    rcases (ServerState.step_effect tidy taken).owes socket pending with before | rfl
    · exact ServerState.ended_kept tidy taken (seated.farewell socket before)
    · rcases ServerState.step_change tidy taken socket with ⟨other, _⟩ | change
      · exact absurd rfl other
      · cases change with
        | epilogue _ phase => exact phase

end step

theorem Seated.initial (settings : Settings) (shines : List Int32)
    : Seated (.initial settings shines) where
  sound _ := .of_idle rfl (fun seated => by cases seated) (fun ended => by cases ended)
  entry _ connected := by cases connected
  farewell _ member := absurd member List.not_mem_nil

/-- The seats are kept in every reachable state, by induction on the run. -/
theorem Seated.of_run {runtime : Runtime} {settings : Settings} {shines : List Int32}
    {Allowed : ServerState → Event → Prop} {events : List Event} {state : ServerState}
    (run
      : Run (ServerState.step runtime) Allowed (.initial settings shines) events state)
    : Seated state :=
  run.invariant_using Tidy.of_run (initial settings shines)
    fun tidy seated _ taken => seated.step tidy taken

end SmoOnline
