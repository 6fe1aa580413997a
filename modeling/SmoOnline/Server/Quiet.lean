import SmoOnline.Server.Machine

/-! What handling a packet and running a task leave alone: the client table, the lock, and of
every session all but its costume. Writes are only ever appended.
-/

namespace SmoOnline

open Span Utf8

/-- The session that a task says goodbye for. -/
def PendingTask.farewell? : PendingTask → Option SocketId
  | .farewell session => some session
  | _ => none

/-- The sessions whose goodbye is still to be broadcast. -/
def ServerState.farewells (state : ServerState) : List SocketId :=
  state.tasks.filterMap PendingTask.farewell?

/-- The second state differs in what packets and tasks may change: costumes, profiles, the
game's tables, tasks other than goodbyes, and writes added to those before.
-/
structure Quiet (before after : ServerState) : Prop where
  settings : after.settings = before.settings
  clients : after.clients = before.clients
  lockHolder : after.lockHolder = before.lockHolder
  phase : ∀ socket, (after.session socket).phase = (before.session socket).phase
  socketConnected
    : ∀ socket, (after.session socket).socketConnected = (before.session socket).socketConnected
  remote : ∀ socket, (after.session socket).remote = (before.session socket).remote
  id : ∀ socket, (after.session socket).id = (before.session socket).id
  connected : ∀ socket, (after.session socket).connected = (before.session socket).connected
  profile : ∀ socket, (after.session socket).profile = (before.session socket).profile
  farewells : after.farewells = before.farewells

namespace Quiet

theorem refl (state : ServerState) : Quiet state state := by constructor <;> intros <;> rfl

theorem trans {first second third : ServerState} (left : Quiet first second)
    (right : Quiet second third)
    : Quiet first third where
  settings := right.settings.trans left.settings
  clients := right.clients.trans left.clients
  lockHolder := right.lockHolder.trans left.lockHolder
  phase socket := (right.phase socket).trans (left.phase socket)
  socketConnected socket := (right.socketConnected socket).trans (left.socketConnected socket)
  remote socket := (right.remote socket).trans (left.remote socket)
  id socket := (right.id socket).trans (left.id socket)
  connected socket := (right.connected socket).trans (left.connected socket)
  profile socket := (right.profile socket).trans (left.profile socket)
  farewells := right.farewells.trans left.farewells

/-- States with the same table, lock and sessions differ quietly. -/
theorem of_session_eq {before after : ServerState} (settings : after.settings = before.settings)
    (clients : after.clients = before.clients) (lockHolder : after.lockHolder = before.lockHolder)
    (session : after.session = before.session)
    (farewells : after.farewells = before.farewells)
    : Quiet before after := by
  constructor <;> first | assumption | (intro socket; rw [session])

/-- A costume is no part of a session that others depend on. -/
theorem setCostume (state : ServerState) (socket : SocketId) (costume : CostumePacket)
    : Quiet state
        (state.setSession socket
          { state.session socket with currentCostume := some costume }) := by
  constructor <;> first | rfl | skip
  all_goals
    intro other
    simp only [ServerState.setSession, Function.update_apply]
    split_ifs with same
    · rw [same]
    · rfl

/-- Only a goodbye is a task that others depend on. -/
theorem addTask (state : ServerState) (task : PendingTask) (other : task.farewell? = none)
    : Quiet state (state.addTask task) := by
  refine of_session_eq rfl rfl rfl rfl ?_
  simp [ServerState.farewells, ServerState.addTask, other]

end Quiet

namespace ServerState

theorem persistShines_quiet (state : ServerState) : Quiet state state.persistShines := by
  unfold persistShines
  split_ifs
  · exact .of_session_eq rfl rfl rfl rfl rfl
  · exact .refl state

theorem syncShineBag_quiet (state : ServerState) : Quiet state state.syncShineBag :=
  state.persistShines_quiet.trans (.addTask _ .syncShineBag rfl)

theorem enterStage_quiet (state : ServerState) (socket : SocketId) (packet : GamePacket)
    : Quiet state (state.enterStage socket packet).1 := by
  unfold enterStage
  dsimp only
  split_ifs
  · cases (state.metadata socket).shineSync <;> exact .of_session_eq rfl rfl rfl rfl rfl
  · cases (state.metadata socket).speedrun with
    | none => exact .refl state
    | some wasSpeedrun =>
        cases wasSpeedrun with
        | false => exact .of_session_eq rfl rfl rfl rfl rfl
        | true =>
            refine .trans ?_ (.addTask _ (.clientSyncShineBag socket) rfl)
            exact .of_session_eq rfl rfl rfl rfl rfl
  · exact .refl state

theorem handleGame_quiet (state : ServerState) (runtime : Runtime) (socket : SocketId)
    (packet : GamePacket)
    : Quiet state (state.handleGame runtime socket packet).1 := by
  unfold handleGame
  dsimp only
  generalize placed
    : ({ state.setMetadata socket _ with players := _ } : ServerState) = known
  have first : Quiet state known := placed ▸ .of_session_eq rfl rfl rfl rfl rfl
  have second := enterStage_quiet known socket packet
  generalize known.enterStage socket packet = stage at second ⊢
  obtain ⟨entered, returned⟩ := stage
  refine first.trans (second.trans ?_)
  cases returned with
  | false => exact .refl entered
  | true =>
      dsimp only
      split_ifs
      · rcases entered.broadcastReplace runtime socket (.handler socket)
          (entered.mergeScenario packet) with ⟨writes, completed⟩
        cases completed <;> exact .of_session_eq rfl rfl rfl rfl rfl
      · exact .refl entered

theorem handleCostume_quiet (state : ServerState) (socket : SocketId) (packet : CostumePacket)
    : Quiet state (state.handleCostume socket packet).1 :=
  (Quiet.setCostume state socket packet).trans
    ((Quiet.addTask _ (.clientSyncShineBag socket) rfl).trans
      (.of_session_eq rfl rfl rfl rfl rfl))

theorem handleShine_quiet (state : ServerState) (socket : SocketId) (packet : ShinePacket)
    : Quiet state (state.handleShine socket packet).1 := by
  have added : Quiet state (state.addShine packet.shineId) := by
    unfold addShine
    split_ifs
    · exact .refl state
    · exact .of_session_eq rfl rfl rfl rfl rfl
  unfold handleShine
  split_ifs
  · exact .refl state
  · cases (state.metadata socket).loadedSave with
    | none => exact .refl state
    | some loaded =>
        cases loaded with
        | false => exact .refl state
        | true =>
            cases (state.metadata socket).shineSync with
            | none => exact .refl state
            | some playerBag =>
                dsimp only
                split_ifs
                · exact added
                · refine added.trans (.trans ?_ (syncShineBag_quiet _))
                  exact .of_session_eq rfl rfl rfl rfl rfl

theorem handlePlayer_quiet (state : ServerState) (runtime : Runtime) (socket : SocketId)
    (packet : PlayerPacket)
    : Quiet state (state.handlePlayer runtime socket packet).1 := by
  unfold handlePlayer
  dsimp only
  split_ifs
  · cases (state.metadata socket).is2d with
    | none => exact .refl state
    | some is2d => exact .of_session_eq rfl rfl rfl rfl rfl
  · rcases state.broadcastReplace runtime socket (.handler socket)
      (state.flipFor runtime socket packet) with ⟨writes, completed⟩
    cases completed <;> exact .of_session_eq rfl rfl rfl rfl rfl
  · exact .refl state

/-- No packet makes a handler change the table, by the kinds of packets. -/
theorem packetHandler_quiet (state : ServerState) (runtime : Runtime) (now : Nat)
    (socket : SocketId) (packet : Packet)
    : Quiet state (state.packetHandler runtime now socket packet).1 := by
  cases packet with
  | game packet => exact state.handleGame_quiet runtime socket packet
  | tag packet => exact .of_session_eq rfl rfl rfl rfl rfl
  | costume packet => exact state.handleCostume_quiet socket packet
  | shine packet => exact state.handleShine_quiet socket packet
  | player packet => exact state.handlePlayer_quiet runtime socket packet
  | flagHoldState packet => exact .of_session_eq rfl rfl rfl rfl rfl
  | captureTheFlagWin packet => exact .of_session_eq rfl rfl rfl rfl rfl
  | _ => exact .refl state

theorem handleFrame_quiet (state : ServerState) (runtime : Runtime) (now : Nat)
    (socket : SocketId) (memory : Bytes)
    : Quiet state (state.handleFrame runtime now socket memory).1 := by
  unfold handleFrame
  cases decodeFrame memory with
  | none => exact .refl state
  | some packet => exact state.packetHandler_quiet runtime now socket packet

theorem dispatchFrame_quiet (state : ServerState) (runtime : Runtime) (now : Nat)
    (socket : SocketId) (memory : Bytes)
    : Quiet state (state.dispatchFrame runtime now socket memory) := by
  have handled := state.handleFrame_quiet runtime now socket memory
  unfold dispatchFrame
  generalize state.handleFrame runtime now socket memory = handling at handled ⊢
  obtain ⟨after, outcome⟩ := handling
  refine handled.trans ?_
  cases outcome <;> exact .of_session_eq rfl rfl rfl rfl rfl

theorem runTask_quiet (state : ServerState) (runtime : Runtime) (task : PendingTask)
    : Quiet state (state.runTask runtime task) := by
  cases task with
  | farewell socket => exact .of_session_eq rfl rfl rfl rfl rfl
  | syncShineBag =>
      refine .of_session_eq rfl rfl rfl rfl ?_
      simp [runTask, farewells, PendingTask.farewell?]
  | clientSyncShineBag socket =>
      simp only [runTask]
      cases state.missingShines socket with
      | none => exact .refl state
      | some shines => exact .addTask state (.sendShines socket shines) rfl
  | sendShines socket shines =>
      cases shines with
      | nil => exact .refl state
      | cons shine rest =>
          simp only [runTask, sendShine]
          split_ifs
          · refine .trans ?_ (.addTask _ (.recordShine socket shine rest) rfl)
            exact .of_session_eq rfl rfl rfl rfl rfl
          · exact .refl state
  | recordShine socket shine rest =>
      refine .trans ?_ (.addTask _ (.sendShines socket rest) rfl)
      exact .of_session_eq rfl rfl rfl rfl rfl

theorem shineClear_quiet (state : ServerState) : Quiet state state.shineClear := by
  have cleared (clients : List SocketId) (start : ServerState)
      : Quiet start (clients.foldl
          (fun state client =>
            state.setMetadata client { state.metadata client with shineSync := some [] })
          start) := by
    induction clients generalizing start with
    | nil => exact .refl start
    | cons client rest ih =>
        have first
            : Quiet start (start.setMetadata client
                { start.metadata client with shineSync := some [] }) :=
          .of_session_eq rfl rfl rfl rfl rfl
        exact first.trans (ih _)
  have emptied : Quiet state { state with shineBag := [] } := .of_session_eq rfl rfl rfl rfl rfl
  exact emptied.trans ((cleared _ _).trans (persistShines_quiet _))

end ServerState

end SmoOnline
