import SmoOnline.Server.Table

/-! Moon sync: the set of moons, what each player's metadata keeps of it, and the tasks that
carry it to the players. Every step of the server is one of the changes listed here, from
which all statements on moons follow.
-/

namespace SmoOnline

open Span Utf8 Runs

/-- What moon sync reads of a player's metadata. -/
structure Moons where
  shineSync : Option (List Int32)
  loadedSave : Option Bool
  speedrun : Option Bool
  /-- whether there is a `lastGamePacket` -/
  playing : Bool
  deriving DecidableEq, Repr

/-- The moons of a player's bag. -/
def Moons.bag (moons : Moons) : List Int32 := moons.shineSync.getD []

theorem Moons.bag_cons {moons : Moons} {playerBag : List Int32} {shine : Int32}
    (bag : moons.shineSync = some playerBag)
    : ({ moons with shineSync := some (shine :: playerBag) } : Moons).bag = shine :: moons.bag := by
  rw [Moons.bag, Moons.bag, bag]
  rfl

theorem Moons.bag_cleared (moons : Moons) (speedrun : Option Bool) (playing : Bool)
    : ({ moons with
          shineSync := moons.shineSync.map fun _ => []
          speedrun
          playing } : Moons).bag
      = [] := by
  rw [Moons.bag]
  cases moons.shineSync <;> rfl

theorem Moons.mem_bag_recorded {moons : Moons} {shine other : Int32}
    (member
      : other ∈ ({ moons with shineSync := moons.shineSync.map (shine :: ·) } : Moons).bag)
    : other = shine ∨ other ∈ moons.bag := by
  unfold Moons.bag at member ⊢
  cases bag : moons.shineSync with
  | none => simp [bag] at member
  | some playerBag => simpa [bag] using member

theorem Moons.bag_recorded {moons : Moons} {shine other : Int32} (member : other ∈ moons.bag)
    : other ∈ ({ moons with shineSync := moons.shineSync.map (shine :: ·) } : Moons).bag := by
  unfold Moons.bag at member ⊢
  cases bag : moons.shineSync with
  | none => simp [bag] at member
  | some playerBag =>
      rw [bag] at member
      exact List.mem_cons_of_mem shine member

/-- The moons of the server, of its file and of all players, and the tasks in progress.
A player is known by the profile that its sessions share.
-/
structure MoonStore where
  players : SocketId → Moons
  shineBag : List Int32
  savedShines : List Int32
  tasks : List PendingTask

def Metadata.moons (metadata : Metadata) : Moons where
  shineSync := metadata.shineSync
  loadedSave := metadata.loadedSave
  speedrun := metadata.speedrun
  playing := metadata.lastGamePacket.isSome

namespace ServerState

/-- The player of a socket. -/
def playerOf (state : ServerState) (socket : SocketId) : SocketId := (state.session socket).profile

def moonStore (state : ServerState) : MoonStore where
  players player := (state.profile player).metadata.moons
  shineBag := state.shineBag
  savedShines := state.savedShines
  tasks := state.tasks

/-- The moons of the player of a socket. -/
def moonsOf (state : ServerState) (socket : SocketId) : Moons :=
  state.moonStore.players (state.playerOf socket)

/-- `ClientSyncShineBag` sends the moons that are missing from a bag, if moons are on and the
player is not on a new save.
-/
theorem missingShines_eq_some {state : ServerState} {socket : SocketId} {shines : List Int32}
    : state.missingShines socket = some shines
      ↔ state.settings.shines.enabled = true
        ∧ (state.moonsOf socket).speedrun = some false
        ∧ ∃ clientBag,
            (state.moonsOf socket).shineSync = some clientBag
            ∧ shines = state.shineBag.filter fun shine => shine ∉ clientBag := by
  unfold ServerState.missingShines guard
  simp only [Option.bind_eq_bind, Option.bind_eq_some_iff]
  constructor
  · rintro ⟨_, enabled, speedrun, was, _, plain, clientBag, bag, same⟩
    split_ifs at enabled with on
    cases speedrun with
    | true => cases plain
    | false => exact ⟨on, was, clientBag, bag, (Option.some.inj same).symm⟩
  · rintro ⟨on, plain, clientBag, bag, rfl⟩
    exact ⟨(), if_pos on, false, plain, (), rfl, clientBag, bag, rfl⟩

section updates

variable (state : ServerState) (socket : SocketId)

@[simp] theorem moonStore_shineBag : state.moonStore.shineBag = state.shineBag := rfl

@[simp] theorem moonStore_savedShines : state.moonStore.savedShines = state.savedShines := rfl

@[simp] theorem moonStore_tasks : state.moonStore.tasks = state.tasks := rfl

@[simp] theorem moonStore_setSession (session : Session)
    : (state.setSession socket session).moonStore = state.moonStore := rfl

@[simp] theorem moonStore_setPhase (phase : Phase)
    : (state.setPhase socket phase).moonStore = state.moonStore := rfl

@[simp] theorem moonStore_disconnect
    : (state.disconnect socket).moonStore = state.moonStore := rfl

@[simp] theorem moonStore_emit (writes : List Sent)
    : (state.emit writes).moonStore = state.moonStore := rfl

@[simp] theorem moonStore_addTask (task : PendingTask)
    : (state.addTask task).moonStore
      = { state.moonStore with tasks := state.tasks ++ [task] } := rfl

@[simp] theorem moonStore_setMetadata (metadata : Metadata)
    : (state.setMetadata socket metadata).moonStore
      = { state.moonStore with
          players :=
            Function.update state.moonStore.players (state.playerOf socket) metadata.moons } := by
  simp only [moonStore, setMetadata, setProfile, MoonStore.mk.injEq, and_true]
  funext player
  rw [Function.update_apply, Function.update_apply, playerOf]
  split_ifs <;> rfl

@[simp] theorem playerOf_setMetadata (metadata : Metadata) (other : SocketId)
    : (state.setMetadata socket metadata).playerOf other = state.playerOf other := rfl

@[simp] theorem tasks_setMetadata (metadata : Metadata)
    : (state.setMetadata socket metadata).tasks = state.tasks := rfl

@[simp] theorem metadata_setMetadata (metadata : Metadata)
    : (state.setMetadata socket metadata).metadata socket = metadata := by
  simp [ServerState.metadata, setMetadata, setProfile]

@[simp] theorem moonStore_setName (name : Text)
    : (state.setName socket name).moonStore = state.moonStore := by
  simp only [moonStore, setName, setProfile, MoonStore.mk.injEq, and_true]
  funext player
  rw [Function.update_apply]
  split_ifs with same
  · rw [same]
  · rfl

theorem moonsOf_eq : state.moonsOf socket = (state.metadata socket).moons := rfl

end updates

/-- The sockets whose clients' bags `shine clear` reaches. -/
def bagged (state : ServerState) : List SocketId :=
  state.clients.takeWhile fun client => (state.metadata client).shineSync.isSome

/-- The handler of a moon finds it in its player's bag or puts it there. -/
def keepsShine (state : ServerState) (socket : SocketId) : Bool :=
  state.settings.shines.enabled
    && (state.moonsOf socket).loadedSave == some true
    && (state.moonsOf socket).shineSync.isSome

end ServerState

/-- Events that have nothing to do with moons. -/
def Event.aside : Event → Bool
  | .dispatch .. | .task _ | .timer | .shineClear => false
  | _ => true

/-- The event is of another kind, or a packet that moon sync does not read. -/
def Event.LeavesMoons (state : ServerState) (event : Event) : Prop :=
  event.aside = true
  ∨ ∃ socket now memory,
      event = .dispatch socket now
      ∧ (state.session socket).phase = .dispatching memory
      ∧ (∀ packet, decodeFrame memory ≠ some (.game packet))
      ∧ ∀ packet, decodeFrame memory = some (.shine packet) → state.keepsShine socket = false

/-- What an event makes of the moons: most leave them alone. -/
inductive MoonStep (state : ServerState) : Event → MoonStore → Prop
  | rest {event : Event} (leaves : event.LeavesMoons state)
    : MoonStep state event state.moonStore
  | leave {socket : SocketId}
    : MoonStep state (.epilogue socket)
        { state.moonStore with tasks := state.tasks ++ [.farewell socket] }
  /-- `ClientJoined` makes the bag and the flags of a new player. -/
  | welcome {socket : SocketId} (memory : Bytes)
    (calling : (state.session socket).phase = .calling memory)
    : MoonStep state (.clientJoined socket)
        { state.moonStore with
          players := Function.update state.moonStore.players (state.playerOf socket) {
            state.moonsOf socket with
            shineSync := some []
            loadedSave := some false
            speedrun := some false
          } }
  /-- The stage of a new save: the player's bag, if there is one, and the set are cleared. -/
  | newSave {socket : SocketId} {now : Nat} (memory : Bytes) (packet : GamePacket)
    (dispatching : (state.session socket).phase = .dispatching memory)
    (decoded : decodeFrame memory = some (.game packet))
    (enters : packet.stage = "CapWorldHomeStage".toList ∧ packet.scenarioNum = 0)
    : MoonStep state (.dispatch socket now)
        { state.moonStore with
          players := Function.update state.moonStore.players (state.playerOf socket) {
            state.moonsOf socket with
            shineSync := (state.moonsOf socket).shineSync.map fun _ => []
            speedrun := some true
            playing := true
          }
          shineBag := if (state.moonsOf socket).shineSync.isSome then [] else state.shineBag }
  /-- The stage that ends a new save, where the flag was there to be read. -/
  | cascade {socket : SocketId} {now : Nat} (memory : Bytes) (packet : GamePacket)
    (wasSpeedrun : Bool)
    (dispatching : (state.session socket).phase = .dispatching memory)
    (decoded : decodeFrame memory = some (.game packet))
    (enters : packet.stage = "WaterfallWorldHomeStage".toList)
    (was : (state.moonsOf socket).speedrun = some wasSpeedrun)
    : MoonStep state (.dispatch socket now)
        { state.moonStore with
          players := Function.update state.moonStore.players (state.playerOf socket) {
            state.moonsOf socket with
            speedrun := some false
            playing := true
          }
          tasks := state.tasks ++ (if wasSpeedrun then [.clientSyncShineBag socket] else []) }
  /-- Any other game packet. -/
  | play {socket : SocketId} {now : Nat} (memory : Bytes) (packet : GamePacket)
    (dispatching : (state.session socket).phase = .dispatching memory)
    (decoded : decodeFrame memory = some (.game packet))
    (elsewhere : ¬(packet.stage = "CapWorldHomeStage".toList ∧ packet.scenarioNum = 0))
    : MoonStep state (.dispatch socket now)
        { state.moonStore with
          players := Function.update state.moonStore.players (state.playerOf socket) {
            state.moonsOf socket with
            playing := true
          } }
  | dress {socket : SocketId} {now : Nat} (memory : Bytes) (packet : CostumePacket)
    (dispatching : (state.session socket).phase = .dispatching memory)
    (decoded : decodeFrame memory = some (.costume packet))
    : MoonStep state (.dispatch socket now)
        { state.moonStore with
          players := Function.update state.moonStore.players (state.playerOf socket) {
            state.moonsOf socket with
            loadedSave := some true
          }
          tasks := state.tasks ++ [.clientSyncShineBag socket] }
  /-- A moon that the player's bag has already: only the set is added to. -/
  | collectKnown {socket : SocketId} {now : Nat} (memory : Bytes) (packet : ShinePacket)
    (playerBag : List Int32)
    (dispatching : (state.session socket).phase = .dispatching memory)
    (decoded : decodeFrame memory = some (.shine packet))
    (enabled : state.settings.shines.enabled = true)
    (loaded : (state.moonsOf socket).loadedSave = some true)
    (bag : (state.moonsOf socket).shineSync = some playerBag)
    (known : packet.shineId ∈ playerBag)
    : MoonStep state (.dispatch socket now)
        { state.moonStore with shineBag := (state.addShine packet.shineId).shineBag }
  /-- A moon that is new to the player's bag is put there, saved and synced. -/
  | collect {socket : SocketId} {now : Nat} (memory : Bytes) (packet : ShinePacket)
    (playerBag : List Int32)
    (dispatching : (state.session socket).phase = .dispatching memory)
    (decoded : decodeFrame memory = some (.shine packet))
    (enabled : state.settings.shines.enabled = true)
    (loaded : (state.moonsOf socket).loadedSave = some true)
    (bag : (state.moonsOf socket).shineSync = some playerBag)
    (unknown : packet.shineId ∉ playerBag)
    : MoonStep state (.dispatch socket now)
        { players := Function.update state.moonStore.players (state.playerOf socket) {
            state.moonsOf socket with
            shineSync := some (packet.shineId :: playerBag)
          }
          shineBag := (state.addShine packet.shineId).shineBag
          savedShines := (state.addShine packet.shineId).persistShines.savedShines
          tasks := state.tasks ++ [.syncShineBag] }
  | timer
    : MoonStep state .timer
        { state.moonStore with
          savedShines := state.persistShines.savedShines
          tasks := state.tasks ++ [.syncShineBag] }
  | farewell {index : Nat} (socket : SocketId)
    (found : state.tasks[index]? = some (.farewell socket))
    : MoonStep state (.task index)
        { state.moonStore with tasks := state.tasks.eraseIdx index }
  /-- `SyncShineBag` reaches every player that is connected and in a stage. -/
  | fanOut {index : Nat} (found : state.tasks[index]? = some .syncShineBag)
    : MoonStep state (.task index)
        { state.moonStore with
          tasks :=
            state.tasks.eraseIdx index ++ state.clientsConnected.map .clientSyncShineBag }
  | decline {index : Nat} (socket : SocketId)
    (found : state.tasks[index]? = some (.clientSyncShineBag socket))
    (missing : state.missingShines socket = none)
    : MoonStep state (.task index)
        { state.moonStore with tasks := state.tasks.eraseIdx index }
  | begin {index : Nat} (socket : SocketId) (shines : List Int32)
    (found : state.tasks[index]? = some (.clientSyncShineBag socket))
    (missing : state.missingShines socket = some shines)
    : MoonStep state (.task index)
        { state.moonStore with
          tasks := state.tasks.eraseIdx index ++ [.sendShines socket shines] }
  | finish {index : Nat} (socket : SocketId)
    (found : state.tasks[index]? = some (.sendShines socket []))
    : MoonStep state (.task index)
        { state.moonStore with tasks := state.tasks.eraseIdx index }
  /-- The loop ends where its client is gone or the write throws. -/
  | stop {index : Nat} (socket : SocketId) (shine : Int32) (rest : List Int32)
    (found : state.tasks[index]? = some (.sendShines socket (shine :: rest)))
    (gone
      : ((state.session socket).connected && (state.session socket).socketConnected) = false)
    : MoonStep state (.task index)
        { state.moonStore with tasks := state.tasks.eraseIdx index }
  | send {index : Nat} (socket : SocketId) (shine : Int32) (rest : List Int32)
    (found : state.tasks[index]? = some (.sendShines socket (shine :: rest)))
    (there
      : (state.session socket).connected = true ∧ (state.session socket).socketConnected = true)
    : MoonStep state (.task index)
        { state.moonStore with
          tasks := state.tasks.eraseIdx index ++ [.recordShine socket shine rest] }
  | record {index : Nat} (socket : SocketId) (shine : Int32) (rest : List Int32)
    (found : state.tasks[index]? = some (.recordShine socket shine rest))
    : MoonStep state (.task index)
        { state.moonStore with
          players := Function.update state.moonStore.players (state.playerOf socket) {
            state.moonsOf socket with
            shineSync := (state.moonsOf socket).shineSync.map (shine :: ·)
          }
          tasks := state.tasks.eraseIdx index ++ [.sendShines socket rest] }
  /-- `shine clear` -/
  | clear
    : MoonStep state .shineClear
        { state.moonStore with
          players := fun player =>
            if player ∈ state.bagged.map state.playerOf then
              { state.moonStore.players player with shineSync := some [] }
            else state.moonStore.players player
          shineBag := []
          savedShines := if state.settings.persistShines.enabled then [] else state.savedShines }

namespace ServerState

variable {state next : ServerState} {runtime : Runtime} {socket : SocketId}

/-- A step that leaves the moons alone. -/
theorem moonStep_of_eq {event : Event} {store : MoonStore} (same : store = state.moonStore)
    (leaves : event.LeavesMoons state)
    : MoonStep state event store :=
  same ▸ .rest leaves

theorem enterStage_newSave {packet : GamePacket}
    (enters : packet.stage = "CapWorldHomeStage".toList ∧ packet.scenarioNum = 0)
    : (state.enterStage socket packet).1.moonStore
      = { state.moonStore with
          players := Function.update state.moonStore.players (state.playerOf socket) {
            state.moonsOf socket with
            shineSync := (state.moonsOf socket).shineSync.map fun _ => []
            speedrun := some true
          }
          shineBag := if (state.moonsOf socket).shineSync.isSome then [] else state.shineBag }
    := by
  have bag : (state.moonsOf socket).shineSync = (state.metadata socket).shineSync := rfl
  rw [bag, enterStage, if_pos enters]
  cases shineSync : (state.metadata socket).shineSync with
  | none => simp [moonsOf_eq, Metadata.moons, shineSync]
  | some playerBag =>
      have emptied (known : ServerState)
          : ({ known with shineBag := [] } : ServerState).moonStore
            = { known.moonStore with shineBag := [] } := rfl
      refine (emptied _).trans ?_
      simp [moonsOf_eq, Metadata.moons, shineSync]

theorem enterStage_cascade {packet : GamePacket} {wasSpeedrun : Bool}
    (enters : packet.stage = "WaterfallWorldHomeStage".toList)
    (was : (state.moonsOf socket).speedrun = some wasSpeedrun)
    : (state.enterStage socket packet).1.moonStore
      = { state.moonStore with
          players := Function.update state.moonStore.players (state.playerOf socket) {
            state.moonsOf socket with
            speedrun := some false
          }
          tasks := state.tasks ++ (if wasSpeedrun then [.clientSyncShineBag socket] else []) }
    := by
  have flag : (state.metadata socket).speedrun = some wasSpeedrun := was
  have elsewhere
      : ¬(packet.stage = "CapWorldHomeStage".toList ∧ packet.scenarioNum = 0) := by
    rw [enters]
    simp
  rw [enterStage, if_neg elsewhere, if_pos enters, flag]
  cases wasSpeedrun <;> simp [moonsOf_eq, Metadata.moons]

theorem enterStage_rest {packet : GamePacket}
    (new : ¬(packet.stage = "CapWorldHomeStage".toList ∧ packet.scenarioNum = 0))
    (rest
      : packet.stage ≠ "WaterfallWorldHomeStage".toList
        ∨ (state.moonsOf socket).speedrun = none)
    : (state.enterStage socket packet).1.moonStore = state.moonStore := by
  rw [enterStage, if_neg new]
  rcases rest with elsewhere | unset
  · rw [if_neg elsewhere]
  · have flag : (state.metadata socket).speedrun = none := unset
    rw [flag]
    split_ifs <;> rfl

-----------------------------------------------------------------------------------------
-- What handling a frame makes of the moons
-----------------------------------------------------------------------------------------

variable {now : Nat} {memory : Bytes}

/-- A game packet makes its player one who is playing, and enters the stage. -/
theorem handleGame_moonStore (state : ServerState) (runtime : Runtime) (socket : SocketId)
    (packet : GamePacket)
    : ∃ known : ServerState,
        known.playerOf socket = state.playerOf socket
        ∧ known.moonsOf socket = { state.moonsOf socket with playing := true }
        ∧ known.moonStore
          = { state.moonStore with
              players := Function.update state.moonStore.players (state.playerOf socket)
                { state.moonsOf socket with playing := true } }
        ∧ (state.handleGame runtime socket packet).1.moonStore
          = (known.enterStage socket packet).1.moonStore := by
  unfold handleGame
  dsimp only
  generalize placed
    : ({ state.setMetadata socket _ with players := _ } : ServerState) = known
  have player : known.playerOf socket = state.playerOf socket := placed ▸ rfl
  have store
      : known.moonStore
        = { state.moonStore with
            players := Function.update state.moonStore.players (state.playerOf socket)
              { state.moonsOf socket with playing := true } } := by
    rw [← placed]
    exact moonStore_setMetadata state socket _
  have own : known.moonsOf socket = { state.moonsOf socket with playing := true } := by
    rw [moonsOf, store, player]
    exact Function.update_self _ _ _
  refine ⟨known, player, own, store, ?_⟩
  generalize known.enterStage socket packet = stage
  obtain ⟨after, returned⟩ := stage
  cases returned with
  | false => rfl
  | true =>
      dsimp only
      split_ifs
      · rcases after.broadcastReplace runtime socket (.handler socket)
          (after.mergeScenario packet) with ⟨writes, completed⟩
        cases completed <;> rfl
      · rfl

theorem handleGame_newSave {packet : GamePacket}
    (enters : packet.stage = "CapWorldHomeStage".toList ∧ packet.scenarioNum = 0)
    : (state.handleGame runtime socket packet).1.moonStore
      = { state.moonStore with
          players := Function.update state.moonStore.players (state.playerOf socket) {
            state.moonsOf socket with
            shineSync := (state.moonsOf socket).shineSync.map fun _ => []
            speedrun := some true
            playing := true
          }
          shineBag := if (state.moonsOf socket).shineSync.isSome then [] else state.shineBag }
    := by
  obtain ⟨known, player, own, store, handled⟩ :=
    handleGame_moonStore state runtime socket packet
  have kept : known.shineBag = state.shineBag := congrArg MoonStore.shineBag store
  rw [handled, enterStage_newSave enters, own, store, player, Function.update_idem, kept]

theorem handleGame_moons {packet : GamePacket}
    (dispatching : (state.session socket).phase = .dispatching memory)
    (decoded : decodeFrame memory = some (.game packet))
    : MoonStep state (.dispatch socket now)
        (state.handleGame runtime socket packet).1.moonStore := by
  by_cases cap : packet.stage = "CapWorldHomeStage".toList ∧ packet.scenarioNum = 0
  · rw [handleGame_newSave cap]
    exact .newSave memory packet dispatching decoded cap
  · obtain ⟨known, player, own, store, handled⟩ :=
      handleGame_moonStore state runtime socket packet
    rw [handled]
    by_cases waterfall : packet.stage = "WaterfallWorldHomeStage".toList
    · cases was : (state.moonsOf socket).speedrun with
      | none =>
          rw [enterStage_rest cap (.inr (by rw [own]; exact was)), store]
          exact .play memory packet dispatching decoded cap
      | some wasSpeedrun =>
          have kept : known.tasks = state.tasks := congrArg MoonStore.tasks store
          rw [enterStage_cascade waterfall (by rw [own]; exact was), own, store, player,
            Function.update_idem, kept]
          exact .cascade memory packet wasSpeedrun dispatching decoded waterfall was
    · rw [enterStage_rest cap (.inl waterfall), store]
      exact .play memory packet dispatching decoded cap

theorem handleCostume_moons {packet : CostumePacket}
    (dispatching : (state.session socket).phase = .dispatching memory)
    (decoded : decodeFrame memory = some (.costume packet))
    : MoonStep state (.dispatch socket now) (state.handleCostume socket packet).1.moonStore := by
  have step := @MoonStep.dress state socket now memory packet dispatching decoded
  have dressed
      : (state.handleCostume socket packet).1.moonStore
        = { state.moonStore with
            players := Function.update state.moonStore.players (state.playerOf socket) {
              state.moonsOf socket with
              loadedSave := some true
            }
            tasks := state.tasks ++ [.clientSyncShineBag socket] } := by
    unfold handleCostume
    dsimp only
    generalize worn
      : state.setSession socket
          { state.session socket with currentCostume := some packet } = known
    have player : known.playerOf socket = state.playerOf socket := by
      rw [← worn, playerOf, session_setSession, if_pos rfl]
      rfl
    have metadata : known.metadata socket = state.metadata socket := by
      have profiles : known.profile = state.profile := worn ▸ rfl
      change (known.profile (known.playerOf socket)).metadata = _
      rw [player, profiles]
      rfl
    have store : known.moonStore = state.moonStore := worn ▸ rfl
    have tasks : known.tasks = state.tasks := worn ▸ rfl
    have kept : (known.addTask (.clientSyncShineBag socket)).metadata socket
        = state.metadata socket := metadata
    have kept_player : (known.addTask (.clientSyncShineBag socket)).playerOf socket
        = state.playerOf socket := player
    rw [moonStore_setMetadata, moonStore_addTask, store, tasks, kept, kept_player]
    rfl
  rw [dressed]
  exact step

theorem addShine_moonStore (state : ServerState) (shine : Int32)
    : (state.addShine shine).moonStore
      = { state.moonStore with shineBag := (state.addShine shine).shineBag } := by
  unfold addShine
  split_ifs <;> rfl

theorem addShine_metadata (state : ServerState) (shine : Int32) (socket : SocketId)
    : (state.addShine shine).metadata socket = state.metadata socket := by
  unfold addShine
  split_ifs <;> rfl

theorem syncShineBag_moonStore (state : ServerState)
    : state.syncShineBag.moonStore
      = { state.moonStore with
          savedShines := state.persistShines.savedShines
          tasks := state.tasks ++ [.syncShineBag] } := by
  unfold syncShineBag persistShines
  split_ifs <;> rfl

theorem collect_moonStore (state : ServerState) (socket : SocketId) (shine : Int32)
    (playerBag : List Int32)
    : ((state.addShine shine).setMetadata socket {
          (state.addShine shine).metadata socket with
          shineSync := some (shine :: playerBag)
        }).syncShineBag.moonStore
      = { players := Function.update state.moonStore.players (state.playerOf socket) {
            state.moonsOf socket with
            shineSync := some (shine :: playerBag)
          }
          shineBag := (state.addShine shine).shineBag
          savedShines := (state.addShine shine).persistShines.savedShines
          tasks := state.tasks ++ [.syncShineBag] } := by
  have saved (metadata : Metadata)
      : ((state.addShine shine).setMetadata socket metadata).persistShines.savedShines
        = (state.addShine shine).persistShines.savedShines := by
    simp only [persistShines]
    split_ifs <;> first | rfl | contradiction
  have player : (state.addShine shine).playerOf socket = state.playerOf socket := by
    unfold addShine
    split_ifs <;> rfl
  have tasks : (state.addShine shine).tasks = state.tasks := by
    unfold addShine
    split_ifs <;> rfl
  rw [syncShineBag_moonStore, saved, moonStore_setMetadata, addShine_moonStore, player,
    addShine_metadata, tasks_setMetadata, tasks]
  rfl

theorem handleShine_moons {packet : ShinePacket}
    (dispatching : (state.session socket).phase = .dispatching memory)
    (decoded : decodeFrame memory = some (.shine packet))
    : MoonStep state (.dispatch socket now) (state.handleShine socket packet).1.moonStore := by
  have unkept (lost : state.keepsShine socket = false)
      : Event.LeavesMoons state (.dispatch socket now) := by
    refine .inr ⟨socket, now, memory, rfl, dispatching, ?_, fun _ _ => lost⟩
    rw [decoded]
    nofun
  unfold handleShine
  split_ifs with disabled
  · exact .rest (unkept (by simp_all [keepsShine]))
  · cases loaded : (state.metadata socket).loadedSave with
    | none => exact .rest (unkept (by simp [keepsShine, moonsOf_eq, Metadata.moons, loaded]))
    | some save =>
        cases save with
        | false => exact .rest (unkept (by simp [keepsShine, moonsOf_eq, Metadata.moons, loaded]))
        | true =>
            cases bag : (state.metadata socket).shineSync with
            | none => exact .rest (unkept (by simp [keepsShine, moonsOf_eq, Metadata.moons, bag]))
            | some playerBag =>
                have enabled : state.settings.shines.enabled = true := by simpa using disabled
                dsimp only
                split_ifs with known
                · have added := addShine_moonStore state packet.shineId
                  rw [added]
                  exact .collectKnown memory packet playerBag dispatching decoded enabled loaded
                    bag known
                · rw [collect_moonStore state socket packet.shineId playerBag]
                  exact .collect memory packet playerBag dispatching decoded enabled loaded
                    bag known

theorem handlePlayer_moonStore (runtime : Runtime) (packet : PlayerPacket)
    : (state.handlePlayer runtime socket packet).1.moonStore = state.moonStore := by
  unfold handlePlayer
  dsimp only
  split_ifs
  · cases (state.metadata socket).is2d <;> rfl
  · rcases state.broadcastReplace runtime socket (.handler socket)
      (state.flipFor runtime socket packet) with ⟨writes, completed⟩
    cases completed <;> rfl
  · rfl

/-- A tag packet sets keys that moon sync does not read. -/
theorem handleTag_moonStore (now : Nat) (packet : TagPacket)
    : (state.handleTag now socket packet).1.moonStore = state.moonStore := by
  have same (metadata : Metadata) (moons : metadata.moons = (state.metadata socket).moons)
      : (state.setMetadata socket metadata).moonStore = state.moonStore := by
    rw [moonStore_setMetadata, moons, ← moonsOf_eq, moonsOf, Function.update_eq_self]
  unfold handleTag
  dsimp only
  apply same
  split_ifs <;> rfl

/-- Handling a frame, by the kinds of packets. -/
theorem handleFrame_moons
    (dispatching : (state.session socket).phase = .dispatching memory)
    : MoonStep state (.dispatch socket now)
        (state.handleFrame runtime now socket memory).1.moonStore := by
  have other (packet : Option Packet) (decoded : decodeFrame memory = packet)
      (games : ∀ game, packet ≠ some (.game game)) (shines : ∀ shine, packet ≠ some (.shine shine))
      : Event.LeavesMoons state (.dispatch socket now) := by
    subst decoded
    refine .inr ⟨socket, now, memory, rfl, dispatching, games, fun shine same => ?_⟩
    exact absurd same (shines shine)
  unfold handleFrame
  cases decoded : decodeFrame memory with
  | none => exact .rest (other none decoded (by simp) (by simp))
  | some packet =>
      cases packet with
      | game packet => exact handleGame_moons dispatching decoded
      | costume packet => exact handleCostume_moons dispatching decoded
      | shine packet => exact handleShine_moons dispatching decoded
      | tag packet =>
          exact moonStep_of_eq (handleTag_moonStore now packet)
            (other _ decoded (by simp) (by simp))
      | player packet =>
          exact moonStep_of_eq (handlePlayer_moonStore runtime packet)
            (other _ decoded (by simp) (by simp))
      | _ => exact .rest (other _ decoded (by simp) (by simp))

-----------------------------------------------------------------------------------------
-- What a step makes of the moons
-----------------------------------------------------------------------------------------

theorem dispatchFrame_moonStore (state : ServerState) (runtime : Runtime) (now : Nat)
    (socket : SocketId) (memory : Bytes)
    : (state.dispatchFrame runtime now socket memory).moonStore
      = (state.handleFrame runtime now socket memory).1.moonStore := by
  unfold dispatchFrame
  rcases state.handleFrame runtime now socket memory with ⟨handled, outcome⟩
  cases outcome <;> rfl

/-- The moons behind a handled packet. -/
theorem dispatch_moonStore {packet : Packet}
    (dispatching : (state.session socket).phase = .dispatching memory)
    (decoded : decodeFrame memory = some packet)
    (taken : state.step runtime (.dispatch socket now) = some next)
    : next.moonStore = (state.packetHandler runtime now socket packet).1.moonStore := by
  obtain ⟨held, again, rfl⟩ := dispatch_cases taken
  obtain rfl := Phase.dispatching.inj (dispatching.symm.trans again)
  rw [moonStore_setPhase, dispatchFrame_moonStore, handleFrame, decoded]

/-- Running a task that has been taken from the list. -/
theorem task_moons {index : Nat} (taken : state.task runtime index = some next)
    : MoonStep state (.task index) next.moonStore := by
  obtain ⟨pending, found, rfl⟩ := task_cases taken
  cases pending with
  | farewell socket => exact .farewell socket found
  | syncShineBag => exact .fanOut found
  | clientSyncShineBag socket =>
      have same
          : ({ state with tasks := state.tasks.eraseIdx index } : ServerState).missingShines socket
            = state.missingShines socket := rfl
      simp only [runTask, same]
      cases missing : state.missingShines socket with
      | none => exact .decline socket found missing
      | some shines => exact .begin socket shines found missing
  | sendShines socket shines =>
      cases shines with
      | nil => exact .finish socket found
      | cons shine rest =>
          simp only [runTask, sendShine]
          split_ifs with there
          · exact .send socket shine rest found (Bool.and_eq_true_iff.mp there)
          · exact .stop socket shine rest found (Bool.eq_false_iff.mpr there)
  | recordShine socket shine rest =>
      have step := @MoonStep.record state index socket shine rest found
      simp only [runTask, recordShine, moonStore_addTask, moonStore_setMetadata,
        tasks_setMetadata]
      exact step

theorem clear_moonStore (sockets : List SocketId) (start : ServerState)
    : (sockets.foldl
        (fun state client =>
          state.setMetadata client { state.metadata client with shineSync := some [] })
        start).moonStore
      = { start.moonStore with
          players := fun player =>
            if player ∈ sockets.map start.playerOf then
              { start.moonStore.players player with shineSync := some [] }
            else start.moonStore.players player } := by
  induction sockets generalizing start with
  | nil =>
      simp
      rfl
  | cons socket rest ih =>
      have kept (metadata : Metadata)
          : (start.setMetadata socket metadata).playerOf = start.playerOf := rfl
      rw [List.foldl_cons, ih, kept, moonStore_setMetadata]
      simp only [MoonStore.mk.injEq, and_true]
      funext player
      rw [Function.update_apply, List.map_cons]
      by_cases own : player = start.playerOf socket
      · subst own
        simp [Metadata.moons, moonStore, ServerState.metadata, playerOf]
      · simp [own]

theorem clear_settings (sockets : List SocketId) (start : ServerState)
    : (sockets.foldl
        (fun state client =>
          state.setMetadata client { state.metadata client with shineSync := some [] })
        start).settings
      = start.settings := by
  induction sockets generalizing start with
  | nil => rfl
  | cons socket rest ih => exact ih _

theorem disconnect_moonStore (sockets : List SocketId) (start : ServerState)
    : (sockets.foldl disconnect start).moonStore = start.moonStore := by
  induction sockets generalizing start with
  | nil => rfl
  | cons socket rest ih => exact ih _

theorem shineClear_moons (state : ServerState)
    : MoonStep state .shineClear state.shineClear.moonStore := by
  have step := @MoonStep.clear state
  have store := clear_moonStore state.bagged { state with shineBag := [] }
  have settings := clear_settings state.bagged { state with shineBag := [] }
  unfold shineClear
  dsimp only
  change MoonStep state .shineClear (persistShines (state.bagged.foldl _ _)).moonStore
  generalize state.bagged.foldl _ _ = cleared at store settings ⊢
  have saved
      : cleared.persistShines.moonStore
        = { cleared.moonStore with
            savedShines :=
              if cleared.settings.persistShines.enabled then cleared.shineBag
              else cleared.savedShines } := by
    unfold persistShines
    split_ifs <;> rfl
  have bag : cleared.shineBag = [] := congrArg MoonStore.shineBag store
  have file : cleared.savedShines = state.savedShines := congrArg MoonStore.savedShines store
  rw [saved, bag, file, settings, store]
  exact step

/-- Every step is one of the changes, by events. -/
theorem step_moons {event : Event} (taken : state.step runtime event = some next)
    : MoonStep state event next.moonStore := by
  cases event with
  | join socket =>
      obtain ⟨memory, connect, header, _, _, _, ⟨_, rfl⟩ | ⟨_, _, _, rfl⟩
        | ⟨_, _, oldClient, _, rfl⟩ | ⟨_, _, missing, rfl⟩⟩ := join_cases taken
      · exact .rest (.inl rfl)
      · exact .rest (.inl rfl)
      · refine moonStep_of_eq ?_ (.inl rfl)
        unfold takeOver
        dsimp only
        rw [moonStore_setName]
        split_ifs <;> rfl
      · rw [register_eq memory connect missing]
        exact moonStep_of_eq (moonStore_setName _ _ _) (.inl rfl)
  | clientJoined socket =>
      obtain ⟨memory, calling, ⟨_, rfl⟩ | ⟨_, metadata, writes, rfl, made, _⟩⟩ :=
        clientJoined_cases taken
      · exact .rest (.inl rfl)
      · have step := @MoonStep.welcome state socket memory calling
        have released
            : ({ state with lockHolder := none } : ServerState).moonStore = state.moonStore := rfl
        rw [moonStore_setPhase, moonStore_emit, moonStore_setMetadata, made, released]
        exact step
  | dispatch socket now =>
      obtain ⟨memory, dispatching, rfl⟩ := dispatch_cases taken
      rw [moonStore_setPhase, dispatchFrame_moonStore]
      exact handleFrame_moons dispatching
  | epilogue socket =>
      obtain ⟨_, rfl⟩ := epilogue_cases taken
      dsimp only
      split_ifs
      · exact .leave
      · exact .rest (.inl rfl)
  | task index => exact task_moons taken
  | timer =>
      obtain rfl := Option.some.inj taken
      rw [syncShineBag_moonStore]
      exact .timer
  | configure settings =>
      obtain rfl := Option.some.inj taken
      exact .rest (.inl rfl)
  | maxPlayers count =>
      obtain rfl := Option.some.inj taken
      exact moonStep_of_eq (disconnect_moonStore _ _) (.inl rfl)
  | ban socket =>
      obtain ⟨_, _, _, _, rfl⟩ := ban_cases taken
      exact .rest (.inl rfl)
  | shineClear =>
      obtain rfl := Option.some.inj taken
      exact shineClear_moons state
  | startGameMode =>
      obtain rfl := Option.some.inj taken
      exact .rest (.inl rfl)
  | _ =>
      obtain ⟨_, _, rfl⟩ := bare_cases rfl taken
      exact .rest (.inl rfl)

end ServerState

/-- The game of a player sends a packet, which is handled at once. -/
def exchange (socket : SocketId) (id : Guid) (packet : Packet) : List Event :=
  [.receive socket (Runtime.pooled.filled id packet).1, .dispatch socket 0]

/-- The game packet of a new save. -/
def newSavePacket : Packet :=
  .game { is2d := false, scenarioNum := 0, stage := "CapWorldHomeStage".toList }

def costumePacket : Packet := .costume { bodyName := "Mario".toList, capName := "Mario".toList }

end SmoOnline
