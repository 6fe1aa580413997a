import SmoOnline.Server.Table

/-! What a step makes of each session: the handler that takes the event moves on, and of all
other sessions phase, Id and connection stay.
-/

namespace SmoOnline

open Span Utf8 Runs

/-- The first frame of a handler that is past the client table and has not passed it on. -/
def Phase.entering : Phase → Option Bytes
  | .calling memory | .joined memory | .replaying memory _ _ => some memory
  | _ => none

/-- Phase, Id and connection are as before. -/
structure SameSeat (before after : Session) : Prop where
  phase : after.phase = before.phase
  id : after.id = before.id
  connected : after.connected = before.connected

theorem SameSeat.refl (session : Session) : SameSeat session session := ⟨rfl, rfl, rfl⟩

/-- The handler that takes an event. -/
def Event.handler : Event → Option SocketId
  | .accept socket _ | .receive socket _ | .endRead socket | .join socket
  | .clientJoined socket | .snapshot socket | .replay socket _ | .replayDone socket
  | .dispatch socket _ | .epilogue socket => some socket
  | _ => none

/-- What an event makes of the session of the handler that takes it. -/
inductive Change (state : ServerState) (socket : SocketId) (after : Session) : Event → Prop
  | accept {remote : IPEndPoint} (was : (state.session socket).phase = .idle)
    (phase : after.phase = .reading true) (id : after.id = .empty)
    (connected : after.connected = false)
    : Change state socket after (.accept socket remote)
  | receive {memory : Bytes} (first : Bool) (was : (state.session socket).phase = .reading first)
    (phase
      : after.phase
        = (match inbound first (state.session socket).id memory with
          | .refused => .failing
          | .joining connect => .connecting memory connect
          | .packet => .dispatching memory))
    (id : after.id = (state.session socket).id)
    (connected : after.connected = (state.session socket).connected)
    : Change state socket after (.receive socket memory)
  | endRead (first : Bool) (was : (state.session socket).phase = .reading first)
    (phase : after.phase = .failing) (id : after.id = (state.session socket).id)
    (connected : after.connected = (state.session socket).connected)
    : Change state socket after (.endRead socket)
  | refuse (memory : Bytes) (connect : ConnectPacket)
    (was : (state.session socket).phase = .connecting memory connect)
    (phase : after.phase = .failing) (id : after.id = (state.session socket).id)
    (connected : after.connected = (state.session socket).connected)
    : Change state socket after (.join socket)
  | enter (memory : Bytes) (connect : ConnectPacket) (header : PacketHeader)
    (was : (state.session socket).phase = .connecting memory connect)
    (read : PacketHeader.deserialize memory = some header)
    (phase : after.phase = .calling memory ∨ after.phase = .joined memory)
    (id : after.id = header.id) (connected : after.connected = true)
    : Change state socket after (.join socket)
  | clientJoined (memory : Bytes) (was : (state.session socket).phase = .calling memory)
    (phase : after.phase = if state.banned socket then .failing else .joined memory)
    (id : after.id = (state.session socket).id)
    (connected : after.connected = (state.session socket).connected)
    : Change state socket after (.clientJoined socket)
  | snapshot (memory : Bytes) (others : List SocketId)
    (was : (state.session socket).phase = .joined memory)
    (phase : after.phase = .replaying memory others false)
    (id : after.id = (state.session socket).id)
    (connected : after.connected = (state.session socket).connected)
    : Change state socket after (.snapshot socket)
  | replay {other : SocketId} (memory : Bytes) (others rest : List SocketId)
    (faulted threw : Bool) (was : (state.session socket).phase = .replaying memory others faulted)
    (phase : after.phase = .replaying memory rest threw)
    (id : after.id = (state.session socket).id)
    (connected : after.connected = (state.session socket).connected)
    : Change state socket after (.replay socket other)
  | replayDone (memory : Bytes) (others : List SocketId) (faulted : Bool)
    (was : (state.session socket).phase = .replaying memory others faulted)
    (phase : after.phase = .failing ∨ after.phase = .dispatching memory)
    (id : after.id = (state.session socket).id)
    (connected : after.connected = (state.session socket).connected)
    : Change state socket after (.replayDone socket)
  | dispatch {now : Nat} (memory : Bytes)
    (was : (state.session socket).phase = .dispatching memory)
    (phase : after.phase = .reading false) (id : after.id = (state.session socket).id)
    (connected : after.connected = (state.session socket).connected)
    : Change state socket after (.dispatch socket now)
  | epilogue (was : (state.session socket).phase = .failing) (phase : after.phase = .ended)
    (id : after.id = (state.session socket).id) (connected : after.connected = false)
    : Change state socket after (.epilogue socket)

/-- What becomes of a session past its join. -/
structure StaysPast (before after : Session) (event : Event) (socket : SocketId) : Prop where
  joined : after.phase.fresh = false
  id : after.id = before.id
  connected
    : after.connected = before.connected
      ∨ event = .epilogue socket ∧ after.connected = false

/-- No change leads back before the join, and only the epilogue ends the connection. -/
theorem Change.past {state : ServerState} {socket : SocketId} {after : Session} {event : Event}
    (change : Change state socket after event)
    (joined : (state.session socket).phase.fresh = false)
    : StaysPast (state.session socket) after event socket := by
  cases change with
  | accept was => rw [was] at joined; cases joined
  | refuse _ _ was => rw [was] at joined; cases joined
  | enter _ _ _ was => rw [was] at joined; cases joined
  | endRead _ _ phase id connected => exact ⟨phase ▸ rfl, id, .inl connected⟩
  | snapshot _ _ _ phase id connected => exact ⟨phase ▸ rfl, id, .inl connected⟩
  | replay _ _ _ _ _ _ phase id connected => exact ⟨phase ▸ rfl, id, .inl connected⟩
  | dispatch _ _ phase id connected => exact ⟨phase ▸ rfl, id, .inl connected⟩
  | epilogue _ phase id connected => exact ⟨phase ▸ rfl, id, .inr ⟨rfl, connected⟩⟩
  | clientJoined _ _ phase id connected =>
      refine ⟨?_, id, .inl connected⟩
      rw [phase]
      split_ifs <;> rfl
  | replayDone _ _ _ _ phase id connected =>
      refine ⟨?_, id, .inl connected⟩
      rcases phase with phase | phase <;> rw [phase] <;> rfl
  | @receive memory first was phase id connected =>
      refine ⟨?_, id, .inl connected⟩
      cases first with
      | true => rw [was] at joined; cases joined
      | false =>
          rw [phase]
          cases checked : inbound false (state.session socket).id memory with
          | refused => rfl
          | joining connect => cases inbound_joining checked
          | packet => rfl

theorem Change.running {state : ServerState} {event : Event} {socket : SocketId}
    {after : Session} (change : Change state socket after event)
    : (state.session socket).phase ≠ .ended := by
  intro ended
  cases change <;> simp_all

theorem Change.ends {state : ServerState} {event : Event} {socket : SocketId}
    {after : Session}
    (change : Change state socket after event) (ended : after.phase = .ended)
    : event = .epilogue socket := by
  cases change with
  | epilogue => rfl
  | receive _ _ phase => rw [phase] at ended; split at ended <;> cases ended
  | clientJoined _ _ phase => rw [phase] at ended; split_ifs at ended
  | enter _ _ _ _ _ phase => rcases phase with phase | phase <;> simp [phase] at ended
  | replayDone _ _ _ _ phase => rcases phase with phase | phase <;> simp [phase] at ended
  | accept _ phase => simp [phase] at ended
  | endRead _ _ phase => simp [phase] at ended
  | refuse _ _ _ phase => simp [phase] at ended
  | snapshot _ _ _ phase => simp [phase] at ended
  | replay _ _ _ _ _ _ phase => simp [phase] at ended
  | dispatch _ _ phase => simp [phase] at ended

theorem Quiet.sameSeat {before after : ServerState} (quiet : Quiet before after)
    (socket : SocketId)
    : SameSeat (before.session socket) (after.session socket) :=
  ⟨quiet.phase socket, quiet.id socket, quiet.connected socket⟩

/-- An event leaves the seats of handlers that do not take it, and changes that of the one that
does.
-/
def SeatStep (state : ServerState) (event : Event) (socket : SocketId) (after : Session)
    : Prop :=
  (event.handler ≠ some socket ∧ SameSeat (state.session socket) after)
  ∨ Change state socket after event

theorem SameSeat.disconnect (state : ServerState) (socket other : SocketId)
    : SameSeat (state.session other) ((state.disconnect socket).session other) :=
  ⟨by simp, by simp, by simp⟩

theorem mem_farewells {state : ServerState} {socket : SocketId}
    : socket ∈ state.farewells ↔ .farewell socket ∈ state.tasks := by
  simp only [ServerState.farewells, List.mem_filterMap]
  constructor
  · rintro ⟨task, pending, same⟩
    cases task with
    | farewell session =>
        obtain rfl := Option.some.inj same
        exact pending
    | _ => cases same
  · exact fun pending => ⟨_, pending, rfl⟩

namespace ServerState

/-- The state after an epilogue. -/
theorem epilogue_result {state next : ServerState} {actor : SocketId}
    (taken : state.epilogue actor = some next)
    : (state.session actor).phase = .failing
      ∧ next.clients = state.clients
      ∧ (∀ socket,
        next.session socket
          = if socket = actor then
              { state.session actor with
                phase := .ended
                connected := false
                socketConnected := false }
            else state.session socket)
      ∧ ∀ socket,
          socket ∈ next.farewells
            ↔ socket ∈ state.farewells
              ∨ socket = actor ∧ (state.session actor).connected = true := by
  obtain ⟨failing, rfl⟩ := epilogue_cases taken
  have session (socket : SocketId) := state.session_setSession actor socket {
    state.session actor with
    phase := .ended
    connected := false
    socketConnected := false
  }
  dsimp only
  cases connected : (state.session actor).connected with
  | true =>
      refine ⟨failing, rfl, session, fun socket => ?_⟩
      rw [if_pos rfl, mem_farewells, mem_farewells, addTask, List.mem_append,
        List.mem_singleton, PendingTask.farewell.injEq]
      simp [setSession]
  | false =>
      refine ⟨failing, rfl, session, fun socket => ?_⟩
      rw [if_neg Bool.false_ne_true]
      simp [farewells, setSession]

/-- Where an event moves one handler to another phase, the other sessions stay. -/
theorem setPhase_change {before state : ServerState} {event : Event} {actor socket : SocketId}
    {phase : Phase} (handler : event.handler = some actor)
    (sessions : state.session = before.session)
    (change
      : ∀ after : Session,
          after.phase = phase
          → after.id = (before.session actor).id
          → after.connected = (before.session actor).connected
          → Change before actor after event)
    : SeatStep before event socket ((state.setPhase actor phase).session socket) := by
  rw [← sessions] at change
  by_cases same : socket = actor
  · subst same
    exact .inr (change _ (by simp) (by simp) (by simp))
  · refine .inl ⟨fun taken => same (Option.some.inj (taken.symm.trans handler)), ?_⟩
    rw [← sessions]
    exact ⟨by simp [same], by simp, by simp⟩

theorem join_change {state next : ServerState} {actor : SocketId} (tidy : Tidy state)
    (taken : state.join actor = some next) (socket : SocketId)
    : SeatStep state (.join actor) socket (next.session socket) := by
  have apart (same : socket ≠ actor) : some actor ≠ some socket :=
    fun taken => same (Option.some.inj taken).symm
  obtain ⟨memory, connect, header, connecting, _, read, refused | refused | taken | entered⟩ :=
    join_cases taken
  · obtain ⟨_, rfl⟩ := refused
    exact setPhase_change rfl rfl fun _ => .refuse memory connect connecting
  · obtain ⟨_, _, _, rfl⟩ := refused
    exact setPhase_change rfl rfl fun _ => .refuse memory connect connecting
  · obtain ⟨_, _, oldClient, found, rfl⟩ := taken
    obtain ⟨entry, oldId⟩ := findExistingClient_some found
    have outside := (tidy.fresh actor (by rw [connecting]; rfl)).1
    by_cases same : socket = actor
    · subst same
      rw [state.session_takeOver_self memory connect (ne_of_mem_of_not_mem entry outside)]
      exact .inr (.enter memory connect header connecting read (.inr rfl) oldId rfl)
    · rw [state.session_takeOver_other memory connect oldClient same]
      exact .inl ⟨apart same, rfl, rfl, rfl⟩
  · obtain ⟨_, _, missing, rfl⟩ := entered
    rw [state.session_register actor memory connect missing]
    split_ifs with same
    · subst same
      exact .inr (.enter memory connect header connecting read (.inl rfl) rfl rfl)
    · exact .inl ⟨apart same, .refl _⟩

/-- Every step changes the session of its handler as the event says and no other's seat. -/
theorem step_change {runtime : Runtime} {state next : ServerState} {event : Event}
    (tidy : Tidy state) (taken : state.step runtime event = some next) (socket : SocketId)
    : SeatStep state event socket (next.session socket) := by
  have apart {actor : SocketId} (same : socket ≠ actor) : some actor ≠ some socket :=
    fun taken => same (Option.some.inj taken).symm
  have nobody : (none : Option SocketId) ≠ some socket := nofun
  cases event with
  | accept actor remote =>
      obtain ⟨idle, writes, rfl, _⟩ := accept_cases taken
      have session := state.session_setSession actor socket {
        phase := .reading true
        socketConnected := true
        remote
        profile := actor
      }
      simp only [emit, session]
      split_ifs with same
      · subst same
        exact .inr (.accept idle rfl rfl rfl)
      · exact .inl ⟨apart same, .refl _⟩
  | receive actor memory =>
      obtain ⟨first, _, reading, _, _, rfl⟩ := receive_cases taken
      exact setPhase_change rfl rfl fun _ => .receive first reading
  | endRead actor =>
      obtain ⟨⟨first, reading⟩, rfl⟩ := endRead_cases taken
      by_cases same : socket = actor
      · subst same
        exact .inr (.endRead first reading (by simp) (by simp) (by simp))
      · exact .inl ⟨apart same, by simp [same], by simp, by simp⟩
  | join actor => exact join_change tidy taken socket
  | clientJoined actor =>
      obtain ⟨memory, calling, ⟨banned, rfl⟩ | ⟨allowed, metadata, writes, rfl, _⟩⟩ :=
        clientJoined_cases taken
      · exact setPhase_change rfl rfl fun after phase => .clientJoined memory calling
          (by simpa [banned] using phase)
      · exact setPhase_change rfl rfl fun after phase => .clientJoined memory calling
          (by simpa [allowed] using phase)
  | snapshot actor =>
      obtain ⟨memory, _, joined, _, rfl⟩ := snapshot_cases taken
      exact setPhase_change rfl rfl fun _ => .snapshot memory _ joined
  | replay actor other =>
      obtain ⟨memory, others, faulted, threw, replaying, _, _, rfl⟩ := replay_cases taken
      exact setPhase_change rfl rfl fun _ => .replay memory others _ faulted _ replaying
  | replayDone actor =>
      obtain ⟨memory, others, faulted, replaying, ⟨_, rfl⟩ | ⟨_, _, rfl⟩⟩ :=
        replayDone_cases taken
      · exact setPhase_change rfl rfl fun _ phase =>
          .replayDone memory others faulted replaying (.inl phase)
      · exact setPhase_change rfl rfl fun _ phase =>
          .replayDone memory others faulted replaying (.inr phase)
  | dispatch actor now =>
      obtain ⟨memory, dispatching, rfl⟩ := dispatch_cases taken
      have quiet := state.dispatchFrame_quiet runtime now actor memory
      by_cases same : socket = actor
      · subst same
        exact .inr (.dispatch memory dispatching (by simp) (by simp [quiet.id])
          (by simp [quiet.connected]))
      · refine .inl ⟨apart same, ?_⟩
        exact ⟨by simp [same, quiet.phase], by simp [quiet.id], by simp [quiet.connected]⟩
  | epilogue actor =>
      obtain ⟨failing, _, session, _⟩ := epilogue_result taken
      rw [session]
      split_ifs with same
      · subst same
        exact .inr (.epilogue failing rfl rfl rfl)
      · exact .inl ⟨apart same, .refl _⟩
  | close actor =>
      obtain ⟨_, rfl⟩ := close_cases taken
      exact .inl ⟨nobody, .disconnect state actor socket⟩
  | task index =>
      obtain ⟨pending, _, rfl⟩ := task_cases taken
      have quiet := runTask_quiet { state with tasks := state.tasks.eraseIdx index } runtime pending
      exact .inl ⟨nobody, quiet.sameSeat socket⟩
  | timer =>
      obtain rfl := Option.some.inj taken
      exact .inl ⟨nobody, state.syncShineBag_quiet.sameSeat socket⟩
  | configure settings =>
      obtain rfl := Option.some.inj taken
      exact .inl ⟨nobody, .refl _⟩
  | maxPlayers count =>
      obtain rfl := Option.some.inj taken
      rw [session_setMaxPlayers]
      exact .inl ⟨nobody, rfl, rfl, rfl⟩
  | ban actor =>
      obtain ⟨_, _, _, _, rfl⟩ := ban_cases taken
      exact .inl ⟨nobody, .disconnect _ actor socket⟩
  | shineClear =>
      obtain rfl := Option.some.inj taken
      exact .inl ⟨nobody, state.shineClear_quiet.sameSeat socket⟩
  | startGameMode =>
      obtain rfl := Option.some.inj taken
      exact .inl ⟨nobody, .refl _⟩
  | sendFromServer _ _ | broadcastFromServer _ | broadcastForClient _ _ =>
      exact .inl ⟨nobody, (server_sends_quiet rfl taken).sameSeat socket⟩

theorem ended_kept {runtime : Runtime} {state next : ServerState} {event : Event}
    (tidy : Tidy state) (taken : state.step runtime event = some next) {socket : SocketId}
    (ended : (state.session socket).phase = .ended)
    : (next.session socket).phase = .ended := by
  rcases step_change tidy taken socket with ⟨_, same⟩ | change
  · exact same.phase.trans ended
  · exact absurd ended change.running

end ServerState

-----------------------------------------------------------------------------------------
-- Sockets, the table and goodbyes
-----------------------------------------------------------------------------------------

/-- Only an accepted socket opens, only a join changes the table and connects a client, and
goodbyes come from an epilogue and go when they are run.
-/
structure StepEffect (state : ServerState) (event : Event) (next : ServerState) : Prop where
  opens
    : ∀ socket,
        (next.session socket).socketConnected = true
        → (state.session socket).socketConnected = true ∨ ∃ remote, event = .accept socket remote
  connects
    : ∀ socket,
        (next.session socket).connected = true
        → (state.session socket).connected = true ∨ socket ∈ next.clients
  clients
    : next.clients = state.clients
      ∨ ∃ socket,
          event = .join socket
          ∧ (next.session socket).phase.entering.isSome = true
          ∧ (next.clients = state.clients ++ [socket]
            ∨ ∃ oldClient, next.clients = state.clients.erase oldClient ++ [socket])
  stays
    : ∀ socket ∈ state.clients,
        (next.session socket).connected = true
        → (next.session socket).socketConnected = true
        → socket ∈ next.clients
  owes : ∀ socket ∈ next.farewells, socket ∈ state.farewells ∨ event = .epilogue socket
  farewells
    : ∀ socket ∈ state.farewells,
        socket ∈ next.farewells
        ∨ ∃ index, event = .task index ∧ state.tasks[index]? = some (.farewell socket)
  leaves
    : ∀ socket,
        event = .epilogue socket
        → (state.session socket).connected = true
        → socket ∈ next.farewells

/-- An event other than a join and an epilogue that opens no socket. -/
theorem StepEffect.of_kept {state next : ServerState} {event : Event}
    (sessions
      : ∀ socket,
          ((next.session socket).socketConnected = true
            → (state.session socket).socketConnected = true)
          ∧ ((next.session socket).connected = true
            → (state.session socket).connected = true))
    (clients : next.clients = state.clients) (farewells : next.farewells = state.farewells)
    (remains : ∀ socket, event ≠ .epilogue socket)
    : StepEffect state event next where
  opens socket isOpen := .inl ((sessions socket).1 isOpen)
  connects socket connected := .inl ((sessions socket).2 connected)
  clients := .inl clients
  stays _ entry _ _ := clients ▸ entry
  owes _ pending := .inl (farewells ▸ pending)
  farewells _ pending := .inl (farewells ▸ pending)
  leaves socket left := absurd left (remains socket)

theorem StepEffect.of_quiet {state next : ServerState} {event : Event}
    (quiet : Quiet state next) (remains : ∀ socket, event ≠ .epilogue socket)
    : StepEffect state event next :=
  .of_kept
    (fun socket => ⟨(quiet.socketConnected socket ▸ ·), (quiet.connected socket ▸ ·)⟩)
    quiet.clients quiet.farewells remains

theorem StepEffect.of_setPhase {before state : ServerState} {event : Event} {socket : SocketId}
    {phase : Phase} (quiet : Quiet before state) (remains : ∀ socket, event ≠ .epilogue socket)
    : StepEffect before event (state.setPhase socket phase) := by
  refine .of_kept (fun other => ?_) quiet.clients quiet.farewells remains
  rw [ServerState.socketConnected_setPhase, ServerState.connected_setPhase,
    quiet.socketConnected, quiet.connected]
  exact ⟨id, id⟩

namespace ServerState

theorem takeOver_effect {state : ServerState} {actor oldClient : SocketId} (tidy : Tidy state)
    (unjoined : (state.session actor).phase.fresh = true) (memory : Bytes)
    (connect : ConnectPacket) (entry : oldClient ∈ state.clients)
    : StepEffect state (.join actor) (state.takeOver actor memory connect oldClient) := by
  have outside := (tidy.fresh actor unjoined).1
  have self := state.session_takeOver_self memory connect (ne_of_mem_of_not_mem entry outside)
  have others {other : SocketId} (apart : other ≠ actor) :=
    state.session_takeOver_other memory connect oldClient apart
  have members (socket : SocketId) :=
    @mem_takeOver state actor tidy memory connect oldClient entry socket
  have farewells
      : (state.takeOver actor memory connect oldClient).farewells = state.farewells :=
    congrArg (List.filterMap PendingTask.farewell?)
      (state.takeOver_rest actor memory connect oldClient).2.2.1
  refine {
    opens := fun socket isOpen => .inl ?_
    connects := fun socket connected => ?_
    clients := .inr ⟨actor, rfl, by rw [self]; rfl,
      .inr ⟨oldClient, clients_takeOver tidy memory connect entry⟩⟩
    stays := fun socket member connected isOpen => ?_
    owes := fun socket pending => .inl (farewells ▸ pending)
    farewells := fun socket pending => .inl (farewells ▸ pending)
    leaves := nofun
  }
  · by_cases same : socket = actor
    · subst same
      rw [self] at isOpen
      exact isOpen
    · rw [others same] at isOpen
      exact (Bool.and_eq_true_iff.mp isOpen).1
  · by_cases same : socket = actor
    · exact .inr ((members socket).mpr (.inl same))
    · rw [others same] at connected
      exact .inl connected
  · have apart : socket ≠ actor := ne_of_mem_of_not_mem member outside
    rw [others apart] at connected isOpen
    refine (members socket).mpr (.inr ⟨member, ?_⟩)
    -- the old client's socket was closed
    rintro rfl
    have closed := (Bool.and_eq_true_iff.mp isOpen).2
    rw [connected] at closed
    simp at closed

theorem register_effect {state : ServerState} {actor : SocketId} (memory : Bytes)
    (connect : ConnectPacket) {id : Guid} (missing : state.findExistingClient id = none)
    : StepEffect state (.join actor) (state.register actor memory connect id) := by
  have session := state.session_register actor memory connect missing
  have table : (state.register actor memory connect id).clients = state.clients ++ [actor] := by
    rw [register_eq memory connect missing]
    rfl
  have farewells
      : (state.register actor memory connect id).farewells = state.farewells := by
    rw [register_eq memory connect missing]
    rfl
  refine {
    opens := fun socket isOpen => .inl ?_
    connects := fun socket connected => ?_
    clients := .inr ⟨actor, rfl, by rw [session, if_pos rfl]; rfl, .inl table⟩
    stays := fun socket member _ _ => table ▸ List.mem_append_left _ member
    owes := fun socket pending => .inl (farewells ▸ pending)
    farewells := fun socket pending => .inl (farewells ▸ pending)
    leaves := nofun
  }
  · rw [session] at isOpen
    split_ifs at isOpen with same
    · rw [same]
      exact isOpen
    · exact isOpen
  · rw [session] at connected
    split_ifs at connected with same
    · rw [same, table]
      exact .inr (List.mem_append_right _ (List.mem_singleton_self _))
    · exact .inl connected

theorem join_effect {state next : ServerState} {actor : SocketId} (tidy : Tidy state)
    (taken : state.join actor = some next)
    : StepEffect state (.join actor) next := by
  obtain ⟨memory, connect, header, connecting, _, read, refused | refused | taken | entered⟩ :=
    join_cases taken
  · obtain ⟨_, rfl⟩ := refused
    exact .of_setPhase (.refl state) nofun
  · obtain ⟨_, _, _, rfl⟩ := refused
    exact .of_setPhase (.refl state) nofun
  · obtain ⟨_, _, oldClient, found, rfl⟩ := taken
    exact takeOver_effect tidy (by rw [connecting]; rfl) memory connect
      (findExistingClient_some found).1
  · obtain ⟨_, _, missing, rfl⟩ := entered
    exact register_effect memory connect missing

theorem epilogue_effect {state next : ServerState} {actor : SocketId}
    (taken : state.epilogue actor = some next)
    : StepEffect state (.epilogue actor) next := by
  obtain ⟨_, clients, session, pending⟩ := epilogue_result taken
  refine {
    opens := fun socket isOpen => .inl ?_
    connects := fun socket connected => .inl ?_
    clients := .inl clients
    stays := fun _ entry _ _ => clients ▸ entry
    owes := fun socket owed => ((pending socket).mp owed).imp_right fun ⟨same, _⟩ => same ▸ rfl
    farewells := fun socket owed => .inl ((pending socket).mpr (.inl owed))
    leaves := fun socket left connected => ?_
  }
  · rw [session] at isOpen
    split_ifs at isOpen
    exact isOpen
  · rw [session] at connected
    split_ifs at connected
    exact connected
  · obtain rfl := Event.epilogue.inj left
    exact (pending _).mpr (.inr ⟨rfl, connected⟩)

theorem task_effect {runtime : Runtime} {state next : ServerState} {index : Nat}
    (taken : state.task runtime index = some next)
    : StepEffect state (.task index) next := by
  obtain ⟨pending, found, rfl⟩ := task_cases taken
  have quiet := runTask_quiet { state with tasks := state.tasks.eraseIdx index } runtime pending
  refine {
    opens := fun socket isOpen => .inl (quiet.socketConnected socket ▸ isOpen)
    connects := fun socket connected => .inl (quiet.connected socket ▸ connected)
    clients := .inl quiet.clients
    stays := fun socket entry _ _ => ?_
    owes := fun socket owed => .inl ?_
    farewells := fun socket owed => ?_
    leaves := nofun
  }
  · rw [quiet.clients]
    exact entry
  · rw [quiet.farewells] at owed
    exact ((List.eraseIdx_sublist _ _).filterMap PendingTask.farewell?).subset owed
  · rw [quiet.farewells]
    obtain ⟨place, there⟩ := List.mem_iff_getElem?.mp (mem_farewells.mp owed)
    by_cases same : place = index
    · subst same
      exact .inr ⟨place, rfl, there⟩
    · refine .inl (mem_farewells.mpr (List.mem_eraseIdx_iff_getElem?.mpr ⟨place, same, there⟩))

/-- The effect of every step, by events. -/
theorem step_effect {runtime : Runtime} {state next : ServerState} {event : Event}
    (tidy : Tidy state) (taken : state.step runtime event = some next)
    : StepEffect state event next := by
  cases event with
  | accept actor remote =>
      obtain ⟨_, writes, rfl, _⟩ := accept_cases taken
      refine {
        opens := fun socket isOpen => ?_
        connects := fun socket connected => .inl ?_
        clients := .inl rfl
        stays := fun _ entry _ _ => entry
        owes := fun socket pending => .inl pending
        farewells := fun socket pending => .inl pending
        leaves := by simp
      }
      · simp only [emit, state.session_setSession] at isOpen
        split_ifs at isOpen with same
        · subst same
          exact .inr ⟨remote, rfl⟩
        · exact .inl isOpen
      · simp only [emit, state.session_setSession] at connected
        split_ifs at connected
        exact connected
  | receive actor memory =>
      obtain ⟨_, _, _, _, _, rfl⟩ := receive_cases taken
      exact .of_setPhase (.refl state) (by simp)
  | endRead actor =>
      obtain ⟨_, rfl⟩ := endRead_cases taken
      exact .of_kept (fun _ => ⟨by simp, by simp⟩) rfl rfl (by simp)
  | join actor => exact join_effect tidy taken
  | clientJoined actor =>
      obtain ⟨_, _, ⟨_, rfl⟩ | ⟨_, metadata, writes, rfl, _⟩⟩ := clientJoined_cases taken
      all_goals
        refine .of_kept (fun _ => ?_) rfl rfl (by simp)
        rw [socketConnected_setPhase, connected_setPhase]
        exact ⟨id, id⟩
  | snapshot actor =>
      obtain ⟨_, _, _, _, rfl⟩ := snapshot_cases taken
      exact .of_setPhase (.refl state) (by simp)
  | replay actor other =>
      obtain ⟨_, _, _, _, _, _, _, rfl⟩ := replay_cases taken
      exact .of_setPhase (.of_session_eq rfl rfl rfl rfl rfl) (by simp)
  | replayDone actor =>
      obtain ⟨_, _, _, _, ⟨_, rfl⟩ | ⟨_, _, rfl⟩⟩ := replayDone_cases taken
      · exact .of_setPhase (.refl state) (by simp)
      · exact .of_setPhase (.refl state) (by simp)
  | dispatch actor now =>
      obtain ⟨memory, _, rfl⟩ := dispatch_cases taken
      exact .of_setPhase (state.dispatchFrame_quiet runtime now actor memory) (by simp)
  | epilogue actor => exact epilogue_effect taken
  | close actor =>
      obtain ⟨_, rfl⟩ := close_cases taken
      exact .of_kept (fun _ => ⟨by simp, by simp⟩) rfl rfl (by simp)
  | task index => exact task_effect taken
  | timer =>
      obtain rfl := Option.some.inj taken
      exact .of_quiet state.syncShineBag_quiet (by simp)
  | configure settings =>
      obtain rfl := Option.some.inj taken
      exact .of_kept (fun _ => ⟨id, id⟩) rfl rfl (by simp)
  | maxPlayers count =>
      obtain rfl := Option.some.inj taken
      obtain ⟨clients, _, tasks, _⟩ := state.setMaxPlayers_rest count
      refine .of_kept (fun _ => ?_) clients
        (congrArg (List.filterMap PendingTask.farewell?) tasks) (by simp)
      rw [session_setMaxPlayers]
      exact ⟨fun isOpen => (Bool.and_eq_true_iff.mp isOpen).1, id⟩
  | ban actor =>
      obtain ⟨_, _, _, _, rfl⟩ := ban_cases taken
      refine .of_kept (fun socket => ?_) rfl rfl (by simp)
      rw [socketConnected_disconnect, connected_disconnect]
      refine ⟨fun isOpen => ?_, id⟩
      split_ifs at isOpen
      exact isOpen
  | shineClear =>
      obtain rfl := Option.some.inj taken
      exact .of_quiet state.shineClear_quiet (by simp)
  | startGameMode =>
      obtain rfl := Option.some.inj taken
      exact .of_kept (fun _ => ⟨id, id⟩) rfl rfl (by simp)
  | sendFromServer _ _ | broadcastFromServer _ | broadcastForClient _ _ =>
      exact .of_quiet (server_sends_quiet rfl taken) (by simp)

end ServerState

end SmoOnline
