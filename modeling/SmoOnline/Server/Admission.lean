import SmoOnline.Server.Identity

/-! Who is let in, and what a refused attempt leaves behind. Only the path of a first
connection raises `ClientJoined`, which holds the ban test; a player whose Id has an entry is
let in by the other path. And an attempt that `ClientJoined` refuses has its entry already.
-/

namespace SmoOnline

open Span Utf8 Runs

/-- The ban list is in force and names the Id. -/
def Settings.bans (settings : Settings) (id : Guid) : Bool :=
  settings.banList.enabled && settings.banList.players.contains id

/-- The server is full or the connection type is neither of the two. -/
def ServerState.TurnsAway (state : ServerState) (connect : ConnectPacket) : Prop :=
  state.connectedClients.length = state.settings.server.maxPlayers.toNat
  ∨ connect.connectionType ≠ .firstConnection ∧ connect.connectionType ≠ .reconnecting

instance (state : ServerState) (connect : ConnectPacket) : Decidable (state.TurnsAway connect) :=
  inferInstanceAs (Decidable (_ ∨ _))

-----------------------------------------------------------------------------------------
-- Banned players
-----------------------------------------------------------------------------------------

/-- When `ClientJoined` is raised for the socket, the ban of its Id still stands. -/
def BanStands (socket : SocketId) (state : ServerState) (event : Event) : Prop :=
  event = .clientJoined socket → state.settings.bans (state.session socket).id = true

/-- The handler of the socket never gets past the join and ends with its client not connected;
nothing it read was handed on.
-/
structure KeptOut (state : ServerState) (socket : SocketId) : Prop where
  phase
    : (∃ memory, (state.session socket).phase = .calling memory)
      ∨ (state.session socket).phase = .failing
      ∨ (state.session socket).phase = .ended
  ended : (state.session socket).phase = .ended → (state.session socket).connected = false
  silent
    : ∀ message ∈ state.sent, message.cause ≠ .relay socket ∧ message.cause ≠ .handler socket

theorem ServerState.banned_of_bans {state : ServerState} {socket : SocketId}
    (bans : state.settings.bans (state.session socket).id = true)
    : state.banned socket = true := by
  obtain ⟨enabled, named⟩ := Bool.and_eq_true_iff.mp bans
  rw [banned, enabled, named]
  rfl

/-- Once out, a client stays out while `ClientJoined` finds it banned. Witness: from inside the
join only `ClientJoined` leads on, and the ban test stops it.
-/
theorem KeptOut.step {runtime : Runtime} {state next : ServerState} {event : Event}
    {socket : SocketId} (tidy : Tidy state) (seated : Seated state)
    (keptOut : KeptOut state socket)
    (banned : event = .clientJoined socket → state.banned socket = true)
    (taken : state.step runtime event = some next)
    : KeptOut next socket := by
  have ended := (seated.step tidy taken).sound socket |>.ended
  have silent
      : ∀ message ∈ next.sent,
        message.cause ≠ .relay socket ∧ message.cause ≠ .handler socket := by
    obtain ⟨writes, sent, justified⟩ := ServerState.step_writes taken
    intro message member
    rw [sent] at member
    rcases List.mem_append.mp member with before | added
    · exact keptOut.silent message before
    · have notDispatching (memory : Bytes)
          : (state.session socket).phase ≠ .dispatching memory := by
        intro dispatching
        rcases keptOut.phase with ⟨_, calling⟩ | failing | done
        · rw [dispatching] at calling; cases calling
        · rw [dispatching] at failing; cases failing
        · rw [dispatching] at done; cases done
      cases justified message added with
      | relay sender now memory header cause _ dispatching =>
          rw [cause]
          refine ⟨fun same => ?_, nofun⟩
          obtain rfl := Cause.relay.inj same
          exact notDispatching memory dispatching
      | handler sender now memory cause _ dispatching =>
          rw [cause]
          refine ⟨nofun, fun same => ?_⟩
          obtain rfl := Cause.handler.inj same
          exact notDispatching memory dispatching
      | greeting _ cause => rw [cause]; exact ⟨nofun, nofun⟩
      | replay _ _ _ cause => rw [cause]; exact ⟨nofun, nofun⟩
      | lastGame _ _ cause => rw [cause]; exact ⟨nofun, nofun⟩
      | farewell _ _ cause => rw [cause]; exact ⟨nofun, nofun⟩
      | shineSync _ _ _ cause => rw [cause]; exact ⟨nofun, nofun⟩
      | server _ _ cause => rw [cause]; exact ⟨nofun, nofun⟩
  refine ⟨?_, ended, silent⟩
  rcases ServerState.step_change tidy taken socket with ⟨_, same⟩ | change
  · rw [same.phase]
    exact keptOut.phase
  · cases change with
    | clientJoined memory was phase =>
        rw [phase, banned rfl]
        exact .inr (.inl rfl)
    | epilogue was phase => exact .inr (.inr phase)
    | accept was | receive _ was | endRead _ was | refuse _ _ was | enter _ _ _ was
    | snapshot _ _ was | replay _ _ _ _ _ was | replayDone _ _ _ was | dispatch _ was =>
        rcases keptOut.phase with ⟨_, calling⟩ | failing | done
        · rw [was] at calling; cases calling
        · rw [was] at failing; cases failing
        · rw [was] at done; cases done

/-- A handler that has not joined has had nothing handed on. -/
theorem Attributed.silent {state : ServerState} (attributed : Attributed state)
    {socket : SocketId} (unjoined : (state.session socket).phase.fresh = true)
    : ∀ message ∈ state.sent,
        message.cause ≠ .relay socket ∧ message.cause ≠ .handler socket := by
  intro message member
  refine ⟨fun cause => ?_, fun cause => ?_⟩
  · have joined := ((attributed message member socket).1 cause).joined
    rw [unjoined] at joined
    cases joined
  · have joined := ((attributed message member socket).2 cause).joined
    rw [unjoined] at joined
    cases joined

namespace ServerState

variable {before after : ServerState} {socket : SocketId} {memory : Bytes}
  {connect : ConnectPacket} {header : PacketHeader}

theorem join_turnsAway (connecting : (before.session socket).phase = .connecting memory connect)
    (turnsAway : before.TurnsAway connect) (taken : before.join socket = some after)
    : after = before.setPhase socket .failing := by
  obtain ⟨_, _, _, again, _, _, ⟨_, rfl⟩ | ⟨_, _, _, rfl⟩ | ⟨full, valid, _⟩ | ⟨full, valid, _⟩⟩ :=
    join_cases taken
  all_goals obtain ⟨rfl, rfl⟩ := Phase.connecting.inj (connecting.symm.trans again)
  · rfl
  · rfl
  all_goals
    rcases turnsAway with atCapacity | ⟨notFirst, notAgain⟩
    · exact absurd atCapacity full
    · exact absurd valid (by simp [notFirst, notAgain])

theorem join_welcome (connecting : (before.session socket).phase = .connecting memory connect)
    (read : PacketHeader.deserialize memory = some header)
    (welcome : ¬before.TurnsAway connect) (taken : before.join socket = some after)
    : (∃ oldClient,
        before.findExistingClient header.id = some oldClient
        ∧ after = before.takeOver socket memory connect oldClient)
      ∨ before.findExistingClient header.id = none
        ∧ after = before.register socket memory connect header.id := by
  obtain ⟨_, _, _, again, _, readAgain, full | invalid | ⟨_, _, entry⟩ | ⟨_, _, missing⟩⟩ :=
    join_cases taken
  all_goals
    obtain ⟨rfl, rfl⟩ := Phase.connecting.inj (connecting.symm.trans again)
    obtain rfl := Option.some.inj (read.symm.trans readAgain)
  · exact absurd (.inl full.1) welcome
  · exact absurd (.inr ⟨invalid.2.1, invalid.2.2.1⟩) welcome
  · exact .inl entry
  · exact .inr missing

/-- An entry of its Id leads an attempt past the ban test. -/
theorem joined_of_entry (tidy : Tidy before)
    (connecting : (before.session socket).phase = .connecting memory connect)
    (read : PacketHeader.deserialize memory = some header)
    (welcome : ¬before.TurnsAway connect) (entry : before.findExistingClient header.id ≠ none)
    (taken : before.join socket = some after)
    : (after.session socket).phase = .joined memory := by
  have outside := (tidy.fresh socket (by rw [connecting]; rfl)).1
  rcases join_welcome connecting read welcome taken with ⟨oldClient, found, rfl⟩ | ⟨missing, _⟩
  · have differs : oldClient ≠ socket :=
      ne_of_mem_of_not_mem (findExistingClient_some found).1 outside
    rw [before.session_takeOver_self memory connect differs]
  · exact absurd missing entry

/-- An attempt under an Id without entry enters it and comes to `ClientJoined`. -/
theorem join_missing (connecting : (before.session socket).phase = .connecting memory connect)
    (read : PacketHeader.deserialize memory = some header)
    (welcome : ¬before.TurnsAway connect) (missing : before.findExistingClient header.id = none)
    (taken : before.join socket = some after)
    : after.session socket
        = { before.session socket with
            phase := .calling memory
            id := header.id
            connected := true }
      ∧ after.sent = before.sent
      ∧ after.settings = before.settings := by
  rcases join_welcome connecting read welcome taken with ⟨_, found, _⟩ | ⟨_, rfl⟩
  · rw [missing] at found
    cases found
  · have session := before.session_register socket memory connect missing socket
    rw [if_pos rfl] at session
    refine ⟨session, ?_⟩
    rw [register_eq memory connect missing]
    exact ⟨rfl, rfl⟩

end ServerState

/-- An attempt that is turned away, or that registers a new entry, is not in yet. -/
theorem KeptOut.of_join {before after : ServerState} {socket : SocketId} {memory : Bytes}
    {connect : ConnectPacket} {header : PacketHeader}
    (connecting : (before.session socket).phase = .connecting memory connect)
    (read : PacketHeader.deserialize memory = some header)
    (silent
      : ∀ message ∈ before.sent,
          message.cause ≠ .relay socket ∧ message.cause ≠ .handler socket)
    (kept : before.TurnsAway connect ∨ before.findExistingClient header.id = none)
    (taken : before.join socket = some after)
    : KeptOut after socket := by
  by_cases turnsAway : before.TurnsAway connect
  · obtain rfl := ServerState.join_turnsAway connecting turnsAway taken
    exact ⟨.inr (.inl (by simp)), by simp, silent⟩
  · have missing := kept.resolve_left turnsAway
    obtain ⟨session, sent, _⟩ :=
      ServerState.join_missing connecting read turnsAway missing taken
    refine ⟨.inl ⟨memory, by rw [session]⟩, fun done => ?_, by rw [sent]; exact silent⟩
    rw [session] at done
    cases done

theorem KeptOut.not_joined {state : ServerState} {socket : SocketId} {memory : Bytes}
    (keptOut : KeptOut state socket)
    : (state.session socket).phase ≠ .joined memory := by
  intro joined
  rcases keptOut.phase with ⟨_, calling⟩ | failing | done
  · rw [joined] at calling; cases calling
  · rw [joined] at failing; cases failing
  · rw [joined] at done; cases done

/-- An attempt whose ban stands is kept out for good exactly when it is turned away or its Id
has no entry. Witness: an entry leads it past the ban test.
-/
theorem keptOut_iff {runtime : Runtime} {settings : Settings} {shines : List Int32}
    {events : List Event} {before after : ServerState} {socket : SocketId} {memory : Bytes}
    {connect : ConnectPacket} {header : PacketHeader}
    (run : AnyRun (ServerState.step runtime) (.initial settings shines) events before)
    (connecting : (before.session socket).phase = .connecting memory connect)
    (read : PacketHeader.deserialize memory = some header)
    (taken : before.join socket = some after)
    : (∀ later state,
        Run (ServerState.step runtime) (BanStands socket) after later state
        → KeptOut state socket)
      ↔ before.TurnsAway connect ∨ before.findExistingClient header.id = none := by
  have joined : before.step runtime (.join socket) = some after := taken
  constructor
  · intro keptOut
    by_contra let_in
    simp only [not_or] at let_in
    exact (keptOut [] _ .nil).not_joined
      (ServerState.joined_of_entry (Tidy.of_run run) connecting read let_in.1 let_in.2 taken)
  · intro kept later state continues
    have unjoined : (before.session socket).phase.fresh = true := by rw [connecting]; rfl
    have silent := (Attributed.of_run run).silent unjoined
    have start : KeptOut after socket := .of_join connecting read silent kept taken
    have reached {steps : List Event} {current : ServerState}
        (continues : Run (ServerState.step runtime) (BanStands socket) after steps current)
        : Tidy current ∧ Seated current := by
      have whole := (run.snoc trivial joined).trans (continues.mono fun _ => trivial)
      exact ⟨Tidy.of_run whole, Seated.of_run whole⟩
    refine @Run.invariant_using _ _ _ _ _ _ (fun current => KeptOut current socket) reached
      start ?_ _ _ continues
    intro current event next ⟨tidy, seated⟩ keptOut stands taken
    exact keptOut.step tidy seated (fun raised => ServerState.banned_of_bans (stands raised)) taken

/-- Settings that ban one Id. -/
def banning (id : Guid) : Settings := { banList := { enabled := true, players := [id] } }

/-- A first attempt under a banned Id: nobody with this Id is there, and it stays out. -/
theorem first_attempt_kept_out
    : ∃ before after,
        AnyRun (ServerState.step .pooled) (.initial (banning ⟨9⟩) [])
          (duet ++ (arrival .pooled 3 ⟨9⟩ .firstConnection "Bowser".toList []).take 2) before
        ∧ before.join 3 = some after
        ∧ ∀ later state,
            Run (ServerState.step .pooled) (BanStands 3) after later state → KeptOut state 3 := by
  have run := @execute_get_run _ _ (ServerState.step .pooled) (.initial (banning ⟨9⟩) [])
    (duet ++ (arrival .pooled 3 ⟨9⟩ .firstConnection "Bowser".toList []).take 2) (by decide)
  have joins
      : (((execute (ServerState.step .pooled) (.initial (banning ⟨9⟩) [])
          (duet ++ (arrival .pooled 3 ⟨9⟩ .firstConnection "Bowser".toList []).take 2)).get
            (by decide)).join 3).isSome = true := by
    decide
  refine ⟨_, _, run, (Option.some_get joins).symm, ?_⟩
  refine (@keptOut_iff .pooled (banning ⟨9⟩) [] _ _ _ 3
    (connectMemory .pooled ⟨9⟩ .firstConnection "Bowser".toList)
    { connectionType := .firstConnection, maxPlayers := 8, clientName := "Bowser".toList }
    { id := ⟨9⟩, type := .connect, packetSize := 38 } run ?_ ?_
    (Option.some_get joins).symm).mpr (.inr ?_)
  · decide
  · decide
  · decide

/-- The second attempt finds the entry that the first one left, and the banned player is in
the game: connected, in the table, and his Connect frame passed on to both others.
-/
theorem second_attempt_let_in
    : ∃ state,
        AnyRun (ServerState.step .pooled) (.initial (banning ⟨9⟩) [])
          (duet
            ++ (arrival .pooled 3 ⟨9⟩ .firstConnection "Bowser".toList []).take 4
            ++ [.epilogue 3, .task 0]
            ++ arrival .pooled 4 ⟨9⟩ .reconnecting "Bowser".toList [1, 2])
          state
        ∧ state.settings.bans ⟨9⟩ = true
        ∧ (state.session 4).id = ⟨9⟩
        ∧ 4 ∈ state.clients
        ∧ (state.session 4).connected = true
        ∧ (state.session 4).phase = .reading false
        ∧ (state.sent.filter fun message => message.cause = .relay 4).map Sent.socket = [1, 2] :=
  ⟨_, execute_get_run (by decide), by decide, by decide, by decide, by decide, by decide,
    by decide⟩

-----------------------------------------------------------------------------------------
-- Refused attempts
-----------------------------------------------------------------------------------------

/-- A refused attempt to the end of its handler: turned away under the lock, or thrown out by
`ClientJoined`, and then said goodbye to, as its client was connected.
-/
inductive Refusal (runtime : Runtime) (before : ServerState) (socket : SocketId)
    : ServerState → Prop
  | turnedAway {refused after : ServerState} (joined : before.join socket = some refused)
    (ended : refused.epilogue socket = some after)
    : Refusal runtime before socket after
  | thrownOut {called refused ended after : ServerState} {index : Nat}
    (joined : before.join socket = some called)
    (thrown : called.clientJoined runtime socket = some refused)
    (left : refused.epilogue socket = some ended)
    (pending : ended.tasks[index]? = some (.farewell socket))
    (told : ended.task runtime index = some after)
    : Refusal runtime before socket after

/-- The attempt left no trace: the table and what is known of its clients are as before, no
other socket was closed, and nobody else was sent anything.
-/
structure Traceless (before after : ServerState) (socket : SocketId) : Prop where
  clients : after.clients = before.clients
  entries
    : ∀ client ∈ before.clients,
        (after.session client).id = (before.session client).id
        ∧ (after.session client).connected = (before.session client).connected
        ∧ after.metadata client = before.metadata client
  sockets
    : ∀ other ≠ socket,
        (after.session other).socketConnected = (before.session other).socketConnected
  silent : ∀ message ∈ after.sent.drop before.sent.length, message.socket = socket

/-- Leaving the loop without having joined leaves no trace. -/
theorem Traceless.of_turnedAway {before after : ServerState} {socket : SocketId}
    (outside : socket ∉ before.clients)
    (unconnected : (before.session socket).connected = false)
    (ended : (before.setPhase socket .failing).epilogue socket = some after)
    : Traceless before after socket := by
  obtain ⟨_, rfl⟩ := ServerState.epilogue_cases ended
  have kept (other : SocketId) (apart : other ≠ socket)
      : (((before.setPhase socket .failing).setSession socket {
            (before.setPhase socket .failing).session socket with
            phase := .ended
            connected := false
            socketConnected := false
          }).session other)
        = before.session other := by
    rw [ServerState.session_setSession, if_neg apart, ServerState.setPhase,
      ServerState.session_setSession, if_neg apart]
  dsimp only
  rw [if_neg (by simp [unconnected])]
  refine {
    clients := rfl
    entries := fun client entry => ?_
    sockets := fun other apart => by rw [kept other apart]
    silent := fun message member => ?_
  }
  · have apart : client ≠ socket := ne_of_mem_of_not_mem entry outside
    simp only [ServerState.metadata]
    rw [kept client apart]
    exact ⟨rfl, rfl, rfl⟩
  · have nothing : before.sent.drop before.sent.length = [] := List.drop_length
    change message ∈ before.sent.drop before.sent.length at member
    rw [nothing] at member
    exact absurd member List.not_mem_nil

/-- Being thrown out changes the table by no more than the join did. -/
theorem clients_of_thrownOut {runtime : Runtime} {called refused ended after : ServerState}
    {socket : SocketId} {index : Nat}
    (thrown : called.clientJoined runtime socket = some refused)
    (left : refused.epilogue socket = some ended)
    (told : ended.task runtime index = some after)
    : after.clients = called.clients := by
  have throwing : refused.clients = called.clients := by
    obtain ⟨_, _, ⟨_, rfl⟩ | ⟨_, _, _, rfl, _⟩⟩ := ServerState.clientJoined_cases thrown
    · rfl
    · rfl
  have leaving : ended.clients = refused.clients := by
    obtain ⟨_, rfl⟩ := ServerState.epilogue_cases left
    dsimp only
    split_ifs <;> rfl
  have telling : after.clients = ended.clients := by
    obtain ⟨pending, _, rfl⟩ := ServerState.task_cases told
    exact (ServerState.runTask_quiet _ runtime pending).clients
  rw [telling, leaving, throwing]

/-- A refused attempt leaves no trace exactly when it is turned away. Witness: whoever reaches
`ClientJoined` has an entry, which stays.
-/
theorem traceless_iff {runtime : Runtime} {settings : Settings} {shines : List Int32}
    {events : List Event} {before after : ServerState} {socket : SocketId} {memory : Bytes}
    {connect : ConnectPacket}
    (run : AnyRun (ServerState.step runtime) (.initial settings shines) events before)
    (connecting : (before.session socket).phase = .connecting memory connect)
    (refusal : Refusal runtime before socket after)
    : Traceless before after socket ↔ before.TurnsAway connect := by
  have tidy := Tidy.of_run run
  obtain ⟨outside, unconnected, _⟩ := tidy.fresh socket (by rw [connecting]; rfl)
  cases refusal with
  | turnedAway joined ended =>
      have failing := (ServerState.epilogue_cases ended).1
      obtain ⟨_, _, header, again, _, _, ⟨full, rfl⟩ | ⟨_, notFirst, notAgain, rfl⟩
        | ⟨_, _, oldClient, found, rfl⟩ | ⟨_, _, missing, rfl⟩⟩ :=
        ServerState.join_cases joined
      all_goals obtain ⟨rfl, rfl⟩ := Phase.connecting.inj (connecting.symm.trans again)
      · exact iff_of_true (.of_turnedAway outside unconnected ended) (.inl full)
      · exact iff_of_true (.of_turnedAway outside unconnected ended)
          (.inr ⟨notFirst, notAgain⟩)
      · have entry := (ServerState.findExistingClient_some found).1
        rw [before.session_takeOver_self memory connect (ne_of_mem_of_not_mem entry outside)]
          at failing
        cases failing
      · rw [before.session_register socket memory connect missing, if_pos rfl] at failing
        cases failing
  | @thrownOut called refused ended _ index joined thrown left pending told =>
      obtain ⟨_, calling, _⟩ := ServerState.clientJoined_cases thrown
      obtain ⟨_, _, header, again, _, _, ⟨_, rfl⟩ | ⟨_, _, _, rfl⟩
        | ⟨_, _, oldClient, found, rfl⟩ | ⟨notFull, valid, missing, rfl⟩⟩ :=
        ServerState.join_cases joined
      all_goals obtain ⟨rfl, rfl⟩ := Phase.connecting.inj (connecting.symm.trans again)
      · simp at calling
      · simp at calling
      · have entry := (ServerState.findExistingClient_some found).1
        rw [before.session_takeOver_self memory connect (ne_of_mem_of_not_mem entry outside)]
          at calling
        cases calling
      · refine iff_of_false (fun traceless => ?_) ?_
        · have clients := clients_of_thrownOut thrown left told
          rw [traceless.clients, ServerState.register_eq memory connect missing] at clients
          exact outside (clients ▸ List.mem_append_right _ (List.mem_singleton_self _))
        · rintro (full | ⟨notFirst, notAgain⟩)
          · exact notFull full
          · rcases valid with first | second
            · exact notFirst first
            · exact notAgain second

/-- Executing the handler's events is a refused attempt where the client was turned away. -/
theorem Refusal.of_executed {runtime : Runtime} {before after : ServerState}
    {socket : SocketId}
    (executed
      : execute (ServerState.step runtime) before [.join socket, .epilogue socket]
        = some after)
    : Refusal runtime before socket after := by
  obtain ⟨refused, joined, rest⟩ := execute_cons_eq_some executed
  obtain ⟨ended, left, last⟩ := execute_cons_eq_some rest
  obtain rfl := Option.some.inj last
  exact .turnedAway joined left

/-- Executing them with `ClientJoined` is one where it threw. -/
theorem Refusal.of_executed_throwing {runtime : Runtime} {before ended after : ServerState}
    {socket : SocketId} {index : Nat}
    (executed
      : execute (ServerState.step runtime) before
          [.join socket, .clientJoined socket, .epilogue socket]
        = some ended)
    (pending : ended.tasks[index]? = some (.farewell socket))
    (told : ended.task runtime index = some after)
    : Refusal runtime before socket after := by
  obtain ⟨called, joined, rest⟩ := execute_cons_eq_some executed
  obtain ⟨refused, thrown, rest⟩ := execute_cons_eq_some rest
  obtain ⟨left, epilogue, last⟩ := execute_cons_eq_some rest
  obtain rfl := Option.some.inj last
  exact .thrownOut joined thrown epilogue pending told

/-- A third player at a server for two is turned away without a trace. -/
theorem third_of_two_leaves_no_trace
    : ∃ before after,
        AnyRun (ServerState.step .pooled) (.initial { server := { maxPlayers := 2 } } [])
          (duet ++ (arrival .pooled 3 ⟨9⟩ .firstConnection "Bowser".toList []).take 2) before
        ∧ Refusal .pooled before 3 after
        ∧ Traceless before after 3 := by
  obtain ⟨after, executed⟩
      : ∃ after,
          execute (ServerState.step .pooled) (.initial { server := { maxPlayers := 2 } } [])
            (duet ++ (arrival .pooled 3 ⟨9⟩ .firstConnection "Bowser".toList []).take 2
              ++ [.join 3, .epilogue 3])
          = some after :=
    Option.isSome_iff_exists.mp (by decide)
  obtain ⟨before, reached, refused⟩ :=
    Option.bind_eq_some_iff.mp ((execute_append _ _ _).symm.trans executed)
  have run := execute_run reached
  refine ⟨before, after, run, .of_executed refused, ?_⟩
  have connecting :=
    execute_holds (fun state => (state.session 3).phase
        = .connecting (connectMemory .pooled ⟨9⟩ .firstConnection "Bowser".toList)
          { connectionType := .firstConnection, maxPlayers := 8, clientName := "Bowser".toList })
      reached (by decide)
  have full := execute_holds (fun state => state.connectedClients.length = 2) reached (by decide)
  have room :=
    execute_holds (fun state => state.settings.server.maxPlayers = 2) reached (by decide)
  refine (traceless_iff run connecting (.of_executed refused)).mpr (.inl ?_)
  rw [full, room]
  rfl

/-- A banned player is thrown out, and afterwards has an entry, and both others were told that
he has left.
-/
theorem thrown_out_leaves_traces
    : ∃ before after,
        AnyRun (ServerState.step .pooled) (.initial (banning ⟨9⟩) [])
          (duet ++ (arrival .pooled 3 ⟨9⟩ .firstConnection "Bowser".toList []).take 2) before
        ∧ Refusal .pooled before 3 after
        ∧ before.clients = [1, 2]
        ∧ after.clients = [1, 2, 3]
        ∧ (after.sent.drop 4).map (fun message => (message.socket, message.cause))
          = [(3, .greeting), (1, .farewell 3), (2, .farewell 3)]
        ∧ ¬Traceless before after 3 := by
  obtain ⟨after, executed⟩
      : ∃ after,
          execute (ServerState.step .pooled) (.initial (banning ⟨9⟩) [])
            (duet ++ (arrival .pooled 3 ⟨9⟩ .firstConnection "Bowser".toList []).take 2
              ++ [.join 3, .clientJoined 3, .epilogue 3] ++ [.task 0])
          = some after :=
    Option.isSome_iff_exists.mp (by decide)
  obtain ⟨ended, thrown, last⟩ :=
    Option.bind_eq_some_iff.mp ((execute_append _ _ _).symm.trans executed)
  obtain ⟨before, reached, refused⟩ :=
    Option.bind_eq_some_iff.mp ((execute_append _ _ _).symm.trans thrown)
  obtain ⟨told, taken, done⟩ := execute_cons_eq_some last
  obtain rfl := Option.some.inj done
  have tableBefore := execute_holds (fun state => state.clients = [1, 2]) reached (by decide)
  have tableAfter := execute_holds (fun state => state.clients = [1, 2, 3]) executed (by decide)
  have pending :=
    execute_holds (fun state => state.tasks[0]? = some (.farewell 3)) thrown (by decide)
  have written :=
    execute_holds (fun state => (state.sent.drop 4).map (fun message =>
        (message.socket, message.cause))
      = [(3, .greeting), (1, .farewell 3), (2, .farewell 3)]) executed (by decide)
  refine ⟨before, told, execute_run reached, ?_, tableBefore, tableAfter, written, ?_⟩
  · exact .of_executed_throwing refused pending taken
  · intro traceless
    have same := traceless.clients
    rw [tableBefore, tableAfter] at same
    cases same

end SmoOnline
