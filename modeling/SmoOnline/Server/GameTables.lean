import SmoOnline.Server.Entries

/-! The game tables: the flags of a running game, and where the players were seen last. What each
event makes of them.
-/

namespace SmoOnline

open Span Utf8 Runs

variable {runtime : Runtime} {state next : ServerState} {event : Event}

namespace ServerState

/-- The packet that a handler is about to dispatch. -/
def dispatched (state : ServerState) (socket : SocketId) : Option Packet :=
  match (state.session socket).phase with
  | .dispatching memory => decodeFrame memory
  | _ => none

/-- What an event makes of the game mode: a new one, or a flag of it that a player holds or
does not.
-/
def gameModeAfter (state : ServerState) : Event → Option CaptureTheFlagMode
  | .dispatch socket now =>
      match state.dispatched socket with
      | some (.flagHoldState packet) =>
          state.gameMode.map fun mode =>
            mode.updateFlagData (state.flagState socket packet) now
      | _ => state.gameMode
  | .startGameMode => some .new
  | _ => state.gameMode

/-- No copy of a player packet for a recipient asks for a 2D flag that is not known. -/
def copiesAll (state : ServerState) (socket : SocketId) : Bool :=
  (state.recipients socket).all fun target =>
    !state.settings.flip.players.contains (state.session target).id
      || (state.metadata socket).is2d.isSome

/-- The packet that the handler of a player packet records, if it records one. -/
def recordedPlayer (state : ServerState) (runtime : Runtime) (socket : SocketId)
    (packet : PlayerPacket)
    : Option PlayerPacket :=
  if state.flipsSender socket then
    (state.metadata socket).is2d.map fun is2d => flip runtime is2d packet
  else if state.flipsRecipients socket && state.copiesAll socket then some packet
  else none

/-- What an event makes of the players' last positions and stages. -/
def playersAfter (state : ServerState) (runtime : Runtime) : Event → PlayerMaps
  | .dispatch socket _ =>
      match state.dispatched socket with
      | some (.player packet) =>
          match state.recordedPlayer runtime socket packet with
          | some kept =>
              state.players.updatePlayerTransform (state.session socket).id kept.position
                kept.rotation
          | none => state.players
      | some (.game packet) =>
          state.players.updatePlayerStage (state.session socket).id packet.scenarioNum packet.stage
      | _ => state.players
  | _ => state.players

/-- Both tables. -/
def tables (state : ServerState) : Option CaptureTheFlagMode × PlayerMaps :=
  (state.gameMode, state.players)

-----------------------------------------------------------------------------------------
-- The tables after a step
-----------------------------------------------------------------------------------------

theorem tables_persistShines (state : ServerState)
    : state.persistShines.tables = state.tables := by
  unfold persistShines
  split_ifs <;> rfl

theorem tables_foldl_disconnect (sockets : List SocketId) (state : ServerState)
    : (sockets.foldl disconnect state).tables = state.tables := by
  induction sockets generalizing state with
  | nil => rfl
  | cons socket rest ih => exact ih (state.disconnect socket)

theorem tables_enterStage (state : ServerState) (socket : SocketId) (packet : GamePacket)
    : (state.enterStage socket packet).1.tables = state.tables := by
  unfold enterStage
  dsimp only
  split_ifs
  · cases (state.metadata socket).shineSync <;> rfl
  · cases (state.metadata socket).speedrun with
    | none => rfl
    | some wasSpeedrun => cases wasSpeedrun <;> rfl
  · rfl

theorem tables_handleGame (state : ServerState) (runtime : Runtime) (socket : SocketId)
    (packet : GamePacket)
    : (state.handleGame runtime socket packet).1.tables
      = (state.gameMode,
          state.players.updatePlayerStage (state.session socket).id packet.scenarioNum
            packet.stage) := by
  unfold handleGame
  dsimp only
  generalize placed
    : ({ state.setMetadata socket _ with players := _ } : ServerState) = known
  have first
      : known.tables
        = (state.gameMode,
            state.players.updatePlayerStage (state.session socket).id packet.scenarioNum
              packet.stage) :=
    placed ▸ rfl
  have second := tables_enterStage known socket packet
  generalize known.enterStage socket packet = stage at second ⊢
  obtain ⟨entered, returned⟩ := stage
  refine Eq.trans ?_ (second.trans first)
  cases returned with
  | false => rfl
  | true =>
      dsimp only
      split_ifs
      · rcases entered.broadcastReplace runtime socket (.handler socket)
          (entered.mergeScenario packet) with ⟨writes, completed⟩
        cases completed <;> rfl
      · rfl

theorem tables_handleShine (state : ServerState) (socket : SocketId) (packet : ShinePacket)
    : (state.handleShine socket packet).1.tables = state.tables := by
  have added : (state.addShine packet.shineId).tables = state.tables := by
    unfold addShine
    split_ifs <;> rfl
  unfold handleShine
  split_ifs
  · rfl
  · cases (state.metadata socket).loadedSave with
    | none => rfl
    | some loaded =>
        cases loaded with
        | false => rfl
        | true =>
            cases (state.metadata socket).shineSync with
            | none => rfl
            | some playerBag =>
                dsimp only
                split_ifs
                · exact added
                · exact (tables_persistShines _).trans added

/-- The loop of `BroadcastReplace` ends where every recipient has a copy. -/
theorem sendReplaced_snd (state : ServerState) (runtime : Runtime) (id : Guid) (cause : Cause)
    (replacer : SocketId → Option Packet) (sockets : List SocketId)
    : (state.sendReplaced runtime id cause replacer sockets).2
      = sockets.all fun socket => (replacer socket).isSome := by
  induction sockets with
  | nil => rfl
  | cons socket rest ih =>
      rw [sendReplaced, List.all_cons, ← ih]
      cases replacer socket <;> rfl

theorem isSome_flipFor (state : ServerState) (runtime : Runtime) (socket : SocketId)
    (packet : PlayerPacket) (target : SocketId)
    : (state.flipFor runtime socket packet target).isSome
      = (!state.settings.flip.players.contains (state.session target).id
          || (state.metadata socket).is2d.isSome) := by
  unfold flipFor
  split_ifs with flipped
  · rw [Option.isSome_map, flipped]
    rfl
  · rw [Bool.not_eq_true] at flipped
    rw [flipped]
    rfl

theorem tables_handlePlayer (state : ServerState) (runtime : Runtime) (socket : SocketId)
    (packet : PlayerPacket)
    : (state.handlePlayer runtime socket packet).1.tables
      = (state.gameMode,
          match state.recordedPlayer runtime socket packet with
          | some kept =>
              state.players.updatePlayerTransform (state.session socket).id kept.position
                kept.rotation
          | none => state.players) := by
  unfold handlePlayer recordedPlayer
  dsimp only
  by_cases flipped : state.flipsSender socket = true
  · rw [if_pos flipped, if_pos flipped]
    cases (state.metadata socket).is2d <;> rfl
  · rw [if_neg flipped, if_neg flipped]
    by_cases flips : state.flipsRecipients socket = true
    · have completes
          : (state.broadcastReplace runtime socket (.handler socket)
              (state.flipFor runtime socket packet)).2
            = state.copiesAll socket := by
        rw [broadcastReplace, sendReplaced_snd, copiesAll]
        simp only [isSome_flipFor]
      rw [if_pos flips, flips, Bool.true_and, ← completes]
      rcases state.broadcastReplace runtime socket (.handler socket)
        (state.flipFor runtime socket packet) with ⟨writes, completed⟩
      cases completed <;> rfl
    · rw [if_neg flips, if_neg (by simp [flips])]
      rfl

/-- A frame changes the tables by the packets of players about them. -/
theorem tables_dispatchFrame (state : ServerState) (runtime : Runtime) (now : Nat)
    (socket : SocketId) {memory : Bytes}
    (dispatching : (state.session socket).phase = .dispatching memory)
    : (state.dispatchFrame runtime now socket memory).tables
      = (state.gameModeAfter (.dispatch socket now),
          state.playersAfter runtime (.dispatch socket now)) := by
  have handled
      : (state.handleFrame runtime now socket memory).1.tables
        = (state.gameModeAfter (.dispatch socket now),
            state.playersAfter runtime (.dispatch socket now)) := by
    simp only [gameModeAfter, playersAfter, dispatched, dispatching, handleFrame]
    cases decodeFrame memory with
    | none => rfl
    | some packet =>
        cases packet with
        | game packet => exact tables_handleGame state runtime socket packet
        | shine packet => exact tables_handleShine state socket packet
        | player packet => exact tables_handlePlayer state runtime socket packet
        | _ => rfl
  rw [← handled]
  unfold dispatchFrame
  rcases state.handleFrame runtime now socket memory with ⟨after, outcome⟩
  cases outcome <;> rfl

theorem tables_join {socket : SocketId} (taken : state.join socket = some next)
    : next.tables = state.tables := by
  obtain ⟨memory, connect, header, -, -, -, refused | refused | taken | entered⟩ := join_cases taken
  · obtain ⟨-, rfl⟩ := refused
    rfl
  · obtain ⟨-, -, -, rfl⟩ := refused
    rfl
  · obtain ⟨-, -, oldClient, -, rfl⟩ := taken
    unfold takeOver
    dsimp only [setName, setProfile]
    split_ifs <;> rfl
  · obtain ⟨-, -, missing, rfl⟩ := entered
    rw [register_eq memory connect missing]
    rfl

theorem tables_runTask (state : ServerState) (runtime : Runtime) (task : PendingTask)
    : (state.runTask runtime task).tables = state.tables := by
  cases task with
  | clientSyncShineBag socket =>
      simp only [runTask]
      cases state.missingShines socket <;> rfl
  | sendShines socket shines =>
      cases shines with
      | nil => rfl
      | cons shine rest =>
          simp only [runTask, sendShine]
          split_ifs <;> rfl
  | _ => rfl

theorem tables_shineClear (state : ServerState)
    : state.shineClear.tables = state.tables := by
  have cleared (clients : List SocketId) (start : ServerState)
      : (clients.foldl
          (fun state client =>
            state.setMetadata client { state.metadata client with shineSync := some [] })
          start).tables = start.tables := by
    induction clients generalizing start with
    | nil => rfl
    | cons client rest ih =>
        exact ih (start.setMetadata client { start.metadata client with shineSync := some [] })
  exact (tables_persistShines _).trans (cleared _ _)

/-- Every step makes of the tables what its event says. -/
theorem tables_step (taken : state.step runtime event = some next)
    : next.tables = (state.gameModeAfter event, state.playersAfter runtime event) := by
  cases event with
  | join socket => exact tables_join taken
  | clientJoined socket =>
      obtain ⟨memory, -, ⟨-, rfl⟩ | ⟨-, metadata, writes, rfl, -⟩⟩ := clientJoined_cases taken
      · rfl
      · rfl
  | dispatch socket now =>
      obtain ⟨memory, dispatching, rfl⟩ := dispatch_cases taken
      exact tables_dispatchFrame state runtime now socket dispatching
  | epilogue socket =>
      obtain ⟨-, rfl⟩ := epilogue_cases taken
      dsimp only
      split_ifs <;> rfl
  | task index =>
      obtain ⟨pending, -, rfl⟩ := task_cases taken
      exact tables_runTask _ runtime pending
  | timer =>
      obtain rfl := Option.some.inj taken
      exact tables_persistShines state
  | configure settings =>
      obtain rfl := Option.some.inj taken
      rfl
  | maxPlayers count =>
      obtain rfl := Option.some.inj taken
      exact tables_foldl_disconnect _ _
  | ban socket =>
      obtain ⟨-, _, _, -, rfl⟩ := ban_cases taken
      rfl
  | shineClear =>
      obtain rfl := Option.some.inj taken
      exact tables_shineClear state
  | startGameMode =>
      obtain rfl := Option.some.inj taken
      rfl
  | _ =>
      obtain ⟨_, _, rfl⟩ := bare_cases rfl taken
      rfl

theorem gameMode_step (taken : state.step runtime event = some next)
    : next.gameMode = state.gameModeAfter event :=
  congrArg Prod.fst (tables_step taken)

theorem players_step (taken : state.step runtime event = some next)
    : next.players = state.playersAfter runtime event :=
  congrArg Prod.snd (tables_step taken)

end ServerState

end SmoOnline
