import SmoOnline.Server.GameTables

/-! Who holds a flag and who is there. Only the packets of players say who holds a flag; a player
who leaves says nothing, and the server does not say it for them.
-/

namespace SmoOnline

open Span Utf8 Runs

variable {runtime : Runtime} {state next : ServerState} {event : Event}

namespace ServerState

-----------------------------------------------------------------------------------------
-- Who is there
-----------------------------------------------------------------------------------------

/-- The player's entry is that of a connected client. -/
def IsPresent (state : ServerState) (id : Guid) : Prop :=
  ∃ client ∈ state.clients, (state.session client).id = id ∧ (state.session client).connected = true

/-- The player holds a flag, as the game mode has it. -/
def Holds (state : ServerState) (id : Guid) : Prop :=
  ∃ mode team flag,
    state.gameMode = some mode ∧ mode.flagStates team = some flag ∧ flag.holder = some id

/-- The client whose entry is there when its epilogue runs. -/
def leaver (state : ServerState) : Event → Option SocketId
  | .epilogue socket =>
      if socket ∈ state.clients ∧ (state.session socket).connected = true then some socket
      else none
  | _ => none

theorem isPresent_join {actor : SocketId} (tidy : Tidy state)
    (taken : state.step runtime (.join actor) = some next) {id : Guid} {client : SocketId}
    (member : client ∈ state.clients) (sameId : (next.session client).id = id)
    (connected : (next.session client).connected = true)
    (wasId : (state.session client).id = id)
    : next.IsPresent id := by
  obtain ⟨memory, connect, header, connecting, -, -, refused | refused | taken | entered⟩ :=
    join_cases taken
  · obtain ⟨-, rfl⟩ := refused
    exact ⟨client, member, sameId, connected⟩
  · obtain ⟨-, -, -, rfl⟩ := refused
    exact ⟨client, member, sameId, connected⟩
  · obtain ⟨-, -, oldClient, found, rfl⟩ := taken
    obtain ⟨entry, -⟩ := findExistingClient_some found
    have outside := (tidy.fresh actor (by rw [connecting]; rfl)).1
    by_cases replaced : client = oldClient
    · subst replaced
      have self := state.session_takeOver_self memory connect (ne_of_mem_of_not_mem entry outside)
      refine ⟨actor, (mem_takeOver tidy memory connect entry).mpr (.inl rfl), ?_, ?_⟩
      · rw [self]
        exact wasId
      · rw [self]
    · exact ⟨client, (mem_takeOver tidy memory connect entry).mpr (.inr ⟨member, replaced⟩),
        sameId, connected⟩
  · obtain ⟨-, -, missing, rfl⟩ := entered
    refine ⟨client, ?_, sameId, connected⟩
    rw [register_eq memory connect missing]
    exact List.mem_append_left _ member

/-- A player stays present until the epilogue of the client whose entry it is. -/
theorem isPresent_kept (tidy : Tidy state) (taken : state.step runtime event = some next)
    {id : Guid} (present : state.IsPresent id)
    (stays : ∀ client, state.leaver event = some client → (state.session client).id ≠ id)
    : next.IsPresent id := by
  obtain ⟨client, member, wasId, connected⟩ := present
  have joined := tidy.joined_of_mem member
  have sameId := (joined_kept tidy taken joined).2.trans wasId
  have remains : (next.session client).connected = true := by
    rcases connected_kept tidy taken joined with same | ⟨rfl, -⟩
    · exact same.trans connected
    · exact absurd wasId (stays client (if_pos ⟨member, connected⟩))
  rcases (step_effect tidy taken).clients with same | ⟨actor, rfl, -, -⟩
  · exact ⟨client, same ▸ member, sameId, remains⟩
  · exact isPresent_join tidy taken member sameId remains wasId

/-- With the epilogue the player is gone, since no other entry has the Id. -/
theorem not_isPresent_of_leaver (tidy : Tidy state) (taken : state.step runtime event = some next)
    {client : SocketId} (leaves : state.leaver event = some client)
    : ¬next.IsPresent (state.session client).id := by
  cases event with
  | epilogue socket =>
      simp only [leaver] at leaves
      split_ifs at leaves with there
      obtain rfl := Option.some.inj leaves
      obtain ⟨-, table, session, -⟩ := epilogue_result taken
      rintro ⟨other, member, sameId, connected⟩
      rw [table] at member
      rw [session] at sameId connected
      by_cases same : other = socket
      · rw [if_pos same] at connected
        exact Bool.false_ne_true connected
      · rw [if_neg same] at sameId
        exact same (tidy.distinct other member socket there.1 sameId)
  | _ => cases leaves

/-- A packet brings nobody in. -/
theorem isPresent_before {socket : SocketId} {now : Nat}
    (taken : state.step runtime (.dispatch socket now) = some next) {id : Guid}
    (present : next.IsPresent id)
    : state.IsPresent id := by
  obtain ⟨memory, -, rfl⟩ := dispatch_cases taken
  have quiet := state.dispatchFrame_quiet runtime now socket memory
  obtain ⟨client, member, sameId, connected⟩ := present
  rw [id_setPhase, quiet.id] at sameId
  rw [connected_setPhase, quiet.connected] at connected
  exact ⟨client, quiet.clients ▸ member, sameId, connected⟩

-----------------------------------------------------------------------------------------
-- Holders
-----------------------------------------------------------------------------------------

/-- Whoever holds a flag is there. -/
def HoldersPresent (state : ServerState) : Prop := ∀ id, state.Holds id → state.IsPresent id

/-- A flag is taken only by a player who is there, and no player leaves while holding one. -/
def KeepsHolders (state : ServerState) : Event → Prop
  | .dispatch socket _ =>
      ∀ packet,
        state.dispatched socket = some (.flagHoldState packet)
        → packet.isHeld = true
        → state.gameMode.isSome = true
        → state.IsPresent (state.session socket).id
  | .epilogue socket =>
      socket ∈ state.clients
      → (state.session socket).connected = true
      → ¬state.Holds (state.session socket).id
  | _ => True

/-- Who holds a flag after a packet about one held it before or is the packet's player. -/
theorem holds_updateFlagData {mode : CaptureTheFlagMode} {flagState : FlagState} {now : Nat}
    {team : CaptureTheFlagTeam} {flag : FlagState} {id : Guid}
    (there : (mode.updateFlagData flagState now).flagStates team = some flag)
    (holder : flag.holder = some id)
    : (flag = flagState ∧ flagState.holder = some id) ∨ mode.flagStates team = some flag := by
  simp only [CaptureTheFlagMode.updateFlagData, Function.update_apply] at there
  split_ifs at there
  · cases there
    exact .inl ⟨rfl, holder⟩
  · exact .inr there

theorem holds_dispatch {socket : SocketId} {now : Nat}
    (taken : state.step runtime (.dispatch socket now) = some next) {id : Guid}
    (holds : next.Holds id)
    : state.Holds id
      ∨ ∃ packet,
          state.dispatched socket = some (.flagHoldState packet)
          ∧ packet.isHeld = true
          ∧ state.gameMode.isSome = true
          ∧ id = (state.session socket).id := by
  obtain ⟨mode, team, flag, running, there, holder⟩ := holds
  rw [gameMode_step taken, gameModeAfter] at running
  split at running
  · next packet dispatched =>
      obtain ⟨before, was, rfl⟩ := Option.map_eq_some_iff.mp running
      rcases holds_updateFlagData there holder with ⟨-, held⟩ | kept
      · right
        simp only [flagState] at held
        split_ifs at held with isHeld
        exact ⟨packet, dispatched, isHeld, by rw [was]; rfl, (Option.some.inj held).symm⟩
      · exact .inl ⟨before, team, flag, was, kept, holder⟩
  · exact .inl ⟨mode, team, flag, running, there, holder⟩

/-- A hold is remembered. -/
theorem holds_of_dispatched {socket : SocketId} {now : Nat}
    (taken : state.step runtime (.dispatch socket now) = some next)
    {packet : FlagHoldStatePacket}
    (dispatched : state.dispatched socket = some (.flagHoldState packet))
    (isHeld : packet.isHeld = true) (running : state.gameMode.isSome = true)
    : next.Holds (state.session socket).id := by
  obtain ⟨mode, runs⟩ := Option.isSome_iff_exists.mp running
  refine ⟨mode.updateFlagData (state.flagState socket packet) now, packet.team,
    state.flagState socket packet, ?_, Function.update_self _ _ _, ?_⟩
  · rw [gameMode_step taken, gameModeAfter, dispatched, runs]
    rfl
  · exact if_pos isHeld

/-- A step that is no packet's makes nobody a holder. -/
theorem holds_before (taken : state.step runtime event = some next)
    (quiet : ∀ socket now, event ≠ .dispatch socket now) {id : Guid} (holds : next.Holds id)
    : state.Holds id := by
  obtain ⟨mode, team, flag, running, there, holder⟩ := holds
  rw [gameMode_step taken] at running
  cases event with
  | dispatch socket now => exact absurd rfl (quiet socket now)
  | startGameMode =>
      cases running
      simp only [CaptureTheFlagMode.new, Function.update_apply] at there
      split_ifs at there <;> cases there <;> cases holder
  | _ => exact ⟨mode, team, flag, running, there, holder⟩

/-- One step: while whoever holds a flag is there, this is so after the step exactly where the
step keeps it.
-/
theorem holders_step (tidy : Tidy state) (present : state.HoldersPresent)
    (taken : state.step runtime event = some next)
    : state.KeepsHolders event ↔ next.HoldersPresent := by
  cases event with
  | dispatch socket now =>
      have kept {id : Guid} (there : state.IsPresent id) : next.IsPresent id :=
        isPresent_kept tidy taken there fun client leaves => by cases leaves
      constructor
      · intro keeps id holds
        rcases holds_dispatch taken holds with before | ⟨packet, dispatched, isHeld, running, rfl⟩
        · exact kept (present id before)
        · exact kept (keeps packet dispatched isHeld running)
      · intro after packet dispatched isHeld running
        exact isPresent_before taken (after _ (holds_of_dispatched taken dispatched isHeld running))
  | epilogue socket =>
      have before {id : Guid} (holds : next.Holds id) : state.Holds id :=
        holds_before taken (fun _ _ same => by cases same) holds
      constructor
      · intro keeps id holds
        apply isPresent_kept tidy taken (present id (before holds))
        intro client leaves sameId
        simp only [leaver] at leaves
        split_ifs at leaves with there
        obtain rfl := Option.some.inj leaves
        exact keeps there.1 there.2 (sameId ▸ before holds)
      · intro after entry connected holds
        have leaves : state.leaver (.epilogue socket) = some socket := if_pos ⟨entry, connected⟩
        apply not_isPresent_of_leaver tidy taken leaves
        apply after
        obtain ⟨mode, team, flag, running, rest⟩ := holds
        exact ⟨mode, team, flag, (gameMode_step taken).trans running, rest⟩
  | _ =>
      refine iff_of_true trivial ?_
      intro id holds
      have before := holds_before taken (fun _ _ same => by cases same) holds
      exact isPresent_kept tidy taken (present id before) fun client leaves => by cases leaves

theorem holdersPresent_initial (settings : Settings) (shines : List Int32)
    : (initial settings shines).HoldersPresent := by
  rintro id ⟨mode, team, flag, running, -⟩
  cases running

end ServerState

open ServerState

/-- In every run whoever holds a flag is there after each step exactly where each step takes no
flag for who is not there, and lets nobody leave who holds one.
-/
theorem holdersPresent_iff (runtime : Runtime) (settings : Settings) (shines : List Int32)
    {events : List Event} {state : ServerState}
    : Run (step runtime) KeepsHolders (initial settings shines) events state
      ↔ Run (step runtime) (Into (step runtime) HoldersPresent) (initial settings shines) events
          state :=
  Run.into_iff_using (Tidy.initial settings shines) (holdersPresent_initial settings shines)
    (fun tidy _ _ taken => tidy.step taken)
    fun tidy present taken => holders_step tidy present taken

/-- Mario takes the red flag and leaves. -/
def leavesWithFlag : List Event :=
  arrival .pooled 1 ⟨7⟩ .firstConnection "Mario".toList []
    ++ [.startGameMode, .receive 1 (frameOf ⟨7⟩ .flagHoldState [1, 1]), .dispatch 1 0, .endRead 1,
      .epilogue 1]

/-- The flag that Mario left with is still held. -/
theorem holder_left
    : ∃ state,
        AnyRun (step .pooled) (initial {} []) leavesWithFlag state
        ∧ state.Holds ⟨7⟩
        ∧ ¬state.IsPresent ⟨7⟩
        ∧ ¬state.HoldersPresent := by
  obtain ⟨state, run, held, away⟩ := @exists_run _ _ (step .pooled) (initial {} []) leavesWithFlag
    (fun state =>
      ((state.gameMode.bind fun mode => mode.flagStates .redTeam).bind FlagState.holder) = some ⟨7⟩
      ∧ ∀ client ∈ state.clients,
          ¬((state.session client).id = ⟨7⟩ ∧ (state.session client).connected = true))
    _ (by decide)
  have holds : state.Holds ⟨7⟩ := by
    obtain ⟨flag, there, holder⟩ := Option.bind_eq_some_iff.mp held
    obtain ⟨mode, running, there⟩ := Option.bind_eq_some_iff.mp there
    exact ⟨mode, .redTeam, flag, running, there, holder⟩
  have absent : ¬state.IsPresent ⟨7⟩ := by
    rintro ⟨client, member, there⟩
    exact away client member there
  exact ⟨state, run, holds, absent, fun present => absent (present ⟨7⟩ holds)⟩

end SmoOnline
