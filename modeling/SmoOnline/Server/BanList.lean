import SmoOnline.Server.Keys
import SmoOnline.Server.Admission

/-! The ban list, which only grows while nobody sets the settings, and whom it keeps out.
`ClientJoined`, which alone looks at it, compares the address of the socket without its port, and it
is not raised at all for a player whose Id has an entry.
-/

namespace SmoOnline

open Span Utf8 Runs

-----------------------------------------------------------------------------------------
-- The list
-----------------------------------------------------------------------------------------

namespace ServerState

variable {runtime : Runtime} {state next : ServerState} {event : Event}

theorem settings_foldl_disconnect (sockets : List SocketId) (state : ServerState)
    : (sockets.foldl disconnect state).settings = state.settings := by
  induction sockets generalizing state with
  | nil => rfl
  | cons socket sockets ih => exact ih (state.disconnect socket)

/-- The rest of a task of the command for a player whose socket is connected. -/
theorem ban_banList {socket : SocketId} (taken : state.ban runtime socket = some next)
    : next.settings.banList
      = { state.settings.banList with
          players := state.settings.banList.players ++ [(state.session socket).id]
          ipAddresses :=
            state.settings.banList.ipAddresses ++ [(state.session socket).remote.toString] } := by
  unfold ban at taken
  split_ifs at taken
  obtain rfl := Option.some.inj taken
  rfl

/-- The ban list is set with the other settings or gains an entry by a ban. -/
theorem step_banList (taken : state.step runtime event = some next)
    : next.settings.banList = state.settings.banList
      ∨ (∃ settings, event = .configure settings ∧ next.settings = settings)
      ∨ ∃ socket, event = .ban socket ∧ state.ban runtime socket = some next := by
  cases event with
  | join socket =>
      obtain ⟨_, _, _, _, _, _, ⟨_, rfl⟩ | ⟨_, _, _, rfl⟩ | ⟨_, _, _, _, rfl⟩ | ⟨_, _, _, rfl⟩⟩ :=
        join_cases taken
      · exact .inl rfl
      · exact .inl rfl
      · unfold takeOver
        dsimp only
        split_ifs <;> exact .inl rfl
      · exact .inl (congrArg Settings.banList (settings_foldl_disconnect _ _))
  | clientJoined socket =>
      obtain ⟨_, _, ⟨_, rfl⟩ | ⟨_, _, _, rfl, _⟩⟩ := clientJoined_cases taken
      · exact .inl rfl
      · exact .inl rfl
  | dispatch socket now =>
      obtain ⟨memory, _, rfl⟩ := dispatch_cases taken
      have quiet := state.dispatchFrame_quiet runtime now socket memory
      exact .inl (congrArg Settings.banList quiet.settings)
  | epilogue socket =>
      obtain ⟨_, rfl⟩ := epilogue_cases taken
      dsimp only
      split_ifs <;> exact .inl rfl
  | task index =>
      obtain ⟨pending, _, rfl⟩ := task_cases taken
      exact .inl (congrArg Settings.banList (runTask_quiet _ runtime pending).settings)
  | timer =>
      obtain rfl := Option.some.inj taken
      exact .inl (congrArg Settings.banList state.syncShineBag_quiet.settings)
  | configure settings =>
      obtain rfl := Option.some.inj taken
      exact .inr (.inl ⟨settings, rfl, rfl⟩)
  | maxPlayers count =>
      obtain rfl := Option.some.inj taken
      have same := congrArg Settings.banList (settings_foldl_disconnect state.clients
        { state with settings := { state.settings with server := { maxPlayers := count } } })
      exact .inl same
  | ban socket => exact .inr (.inr ⟨socket, rfl, taken⟩)
  | shineClear =>
      obtain rfl := Option.some.inj taken
      exact .inl (congrArg Settings.banList state.shineClear_quiet.settings)
  | startGameMode =>
      obtain rfl := Option.some.inj taken
      exact .inl rfl
  | _ =>
      obtain ⟨_, _, rfl⟩ := bare_cases rfl taken
      exact .inl rfl

theorem remote_takeOver (socket : SocketId) (memory : Bytes) (connect : ConnectPacket)
    (oldClient other : SocketId)
    : ((state.takeOver socket memory connect oldClient).session other).remote
      = (state.session other).remote := by
  unfold takeOver
  dsimp only [setName, setProfile]
  have copied (session : Session) (same : session.remote = (state.session socket).remote)
      : ((state.setSession socket session).session other).remote
        = (state.session other).remote := by
    rw [session_setSession]
    split_ifs with own
    · rw [same, own]
    · rfl
  split_ifs
  · rw [remote_disconnect]
    exact copied _ rfl
  · exact copied _ rfl

/-- The remote end point of a socket stays the same once it is accepted. -/
theorem step_remote (taken : state.step runtime event = some next) (socket : SocketId)
    (accepted : (state.session socket).phase ≠ .idle)
    : (next.session socket).remote = (state.session socket).remote := by
  have moved (before : ServerState) (actor : SocketId) (phase : Phase)
      : ((before.setPhase actor phase).session socket).remote
        = (before.session socket).remote := by
    rw [setPhase, session_setSession]
    split_ifs with same
    · rw [same]
    · rfl
  cases event with
  | accept actor remote =>
      obtain ⟨idle, _, rfl, _⟩ := accept_cases taken
      have apart : socket ≠ actor := fun same => accepted (same ▸ idle)
      simp only [emit, session_setSession, if_neg apart]
  | receive actor memory =>
      obtain ⟨_, _, _, _, _, rfl⟩ := receive_cases taken
      exact moved state actor _
  | endRead actor =>
      obtain ⟨_, rfl⟩ := endRead_cases taken
      rw [moved, remote_disconnect]
  | join actor =>
      obtain ⟨memory, connect, _, _, _, _, ⟨_, rfl⟩ | ⟨_, _, _, rfl⟩ | ⟨_, _, oldClient, _, rfl⟩
        | ⟨_, _, missing, rfl⟩⟩ := join_cases taken
      · exact moved state actor _
      · exact moved state actor _
      · rw [remote_takeOver]
      · rw [state.session_register actor memory connect missing]
        split_ifs with same
        · rw [same]
        · rfl
  | clientJoined actor =>
      obtain ⟨_, _, ⟨_, rfl⟩ | ⟨_, _, _, rfl, _⟩⟩ := clientJoined_cases taken
      · exact moved { state with lockHolder := none } actor _
      · exact moved _ actor _
  | snapshot actor =>
      obtain ⟨_, _, _, _, rfl⟩ := snapshot_cases taken
      exact moved state actor _
  | replay actor other =>
      obtain ⟨_, _, _, _, _, _, _, rfl⟩ := replay_cases taken
      exact moved _ actor _
  | replayDone actor =>
      obtain ⟨_, _, _, _, ⟨_, rfl⟩ | ⟨_, _, rfl⟩⟩ := replayDone_cases taken
      · exact moved state actor _
      · exact moved state actor _
  | dispatch actor now =>
      obtain ⟨memory, _, rfl⟩ := dispatch_cases taken
      rw [moved, (state.dispatchFrame_quiet runtime now actor memory).remote]
  | epilogue actor =>
      obtain ⟨_, _, session, _⟩ := epilogue_result taken
      rw [session]
      split_ifs with same
      · rw [same]
      · rfl
  | close actor =>
      obtain ⟨_, rfl⟩ := close_cases taken
      exact remote_disconnect state actor socket
  | task index =>
      obtain ⟨pending, _, rfl⟩ := task_cases taken
      exact (runTask_quiet { state with tasks := state.tasks.eraseIdx index } runtime
        pending).remote socket
  | timer =>
      obtain rfl := Option.some.inj taken
      exact state.syncShineBag_quiet.remote socket
  | maxPlayers count =>
      obtain rfl := Option.some.inj taken
      rw [session_setMaxPlayers]
  | ban actor =>
      obtain ⟨_, _, _, _, rfl⟩ := ban_cases taken
      exact remote_disconnect _ actor socket
  | shineClear =>
      obtain rfl := Option.some.inj taken
      exact state.shineClear_quiet.remote socket
  | configure _ | startGameMode =>
      obtain rfl := Option.some.inj taken
      rfl
  | sendFromServer _ _ | broadcastFromServer _ | broadcastForClient _ _ =>
      exact (server_sends_quiet rfl taken).remote socket

end ServerState

/-- The ban list is in force and has the Id or the address. -/
structure Settings.Bans (settings : Settings) (id : Guid) (address : String) : Prop where
  enabled : settings.banList.enabled = true
  listed : id ∈ settings.banList.players ∨ address ∈ settings.banList.ipAddresses

theorem ServerState.banned_iff {state : ServerState} {socket : SocketId}
    : state.banned socket = true
      ↔ state.settings.Bans (state.session socket).id (state.session socket).remote.address := by
  simp only [banned, Bool.and_eq_true, Bool.or_eq_true, List.contains_iff_mem]
  constructor
  · rintro ⟨enabled, listed⟩
    exact ⟨enabled, listed⟩
  · rintro ⟨enabled, listed⟩
    exact ⟨enabled, listed⟩

/-- Where the settings are set, the ban list stays as it is. -/
def KeepsBans (state : ServerState) (event : Event) : Prop :=
  ∀ settings, event = .configure settings → settings.banList = state.settings.banList

/-- Who is on the list stays there. -/
theorem Settings.Bans.step {runtime : Runtime} {state next : ServerState} {event : Event}
    {id : Guid} {address : String} (bans : state.settings.Bans id address)
    (keeps : KeepsBans state event) (taken : state.step runtime event = some next)
    : next.settings.Bans id address := by
  rcases ServerState.step_banList taken with same | ⟨settings, rfl, rfl⟩ | ⟨socket, _, banned⟩
  · exact ⟨same ▸ bans.enabled, same ▸ bans.listed⟩
  · have same := keeps _ rfl
    exact ⟨same ▸ bans.enabled, same ▸ bans.listed⟩
  · have added := ServerState.ban_banList banned
    refine ⟨added ▸ bans.enabled, ?_⟩
    rw [added]
    exact bans.listed.imp (List.mem_append_left _) (List.mem_append_left _)

/-- If `ClientJoined` is still to be raised for the socket, it will find it banned. -/
def BannedAtCall (state : ServerState) (socket : SocketId) : Prop :=
  ∀ memory, (state.session socket).phase = .calling memory → state.banned socket = true

theorem BannedAtCall.step {runtime : Runtime} {state next : ServerState} {event : Event}
    {socket : SocketId} (tidy : Tidy state) (keptOut : KeptOut state socket)
    (banned : BannedAtCall state socket) (keeps : KeepsBans state event)
    (taken : state.step runtime event = some next)
    : BannedAtCall next socket := by
  intro memory calling
  rcases ServerState.step_change tidy taken socket with ⟨_, same⟩ | change
  · have before : (state.session socket).phase = .calling memory := same.phase.symm.trans calling
    have remote := ServerState.step_remote taken socket (by rw [before]; nofun)
    have bans := (ServerState.banned_iff.mp (banned memory before)).step keeps taken
    rw [ServerState.banned_iff, same.id, remote]
    exact bans
  · have outside := keptOut.phase
    cases change with
    | enter _ _ _ was => simp [was] at outside
    | receive _ was => simp [was] at outside
    | clientJoined _ was phase => rw [phase] at calling; split_ifs at calling
    | accept _ phase | endRead _ _ phase | refuse _ _ _ phase | snapshot _ _ _ phase
    | replay _ _ _ _ _ _ phase | dispatch _ _ phase | epilogue _ phase =>
        rw [phase] at calling
        cases calling
    | replayDone _ _ _ _ phase =>
        rcases phase with phase | phase <;> rw [phase] at calling <;> cases calling

end SmoOnline
