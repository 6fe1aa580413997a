import SmoOnline.Server.Admission
import SmoOnline.Server.Deliveries

/-! Moon sync converges. One `SyncShineBag` that nothing comes between brings the whole set to
every player in a stage, and a bag holds only what its player was sent or has reported, as
long as players are in stages only with a bag and no bag is cleared behind a moon's write.
-/

namespace SmoOnline

open Span Utf8 Runs Ledger

/-- The task has sent a moon that is still to go into the bag. -/
def PendingTask.Records : PendingTask → Prop
  | .recordShine _ _ _ => True
  | _ => False

instance : DecidablePred PendingTask.Records := fun task => by
  cases task with
  | recordShine => exact .isTrue trivial
  | _ => exact .isFalse id

namespace ServerState

/-- A moon was sent to the player and is still to go into its bag. -/
def waitsToRecord (state : ServerState) (player : SocketId) : Prop :=
  ∃ task ∈ loadsOf state.playerOf state.tasks player, task.Records

instance (state : ServerState) (player : SocketId) : Decidable (state.waitsToRecord player) :=
  inferInstanceAs (Decidable (∃ task ∈ loadsOf _ _ _, _))

end ServerState

/-- A game packet is handled only for a player with a bag, and a bag is cleared only when no
moon waits to go there.
-/
def KeepsBags (state : ServerState) : Event → Prop
  | .dispatch socket _ =>
      ((state.heldGame socket).isSome = true → (state.moonsOf socket).shineSync.isSome = true)
      ∧ (state.startsSave socket = true → ¬state.waitsToRecord (state.playerOf socket))
  | .shineClear => ∀ client ∈ state.bagged, ¬state.waitsToRecord (state.playerOf client)
  | _ => True

instance (state : ServerState) : DecidablePred (KeepsBags state)
  | .dispatch socket _ =>
      inferInstanceAs
        (Decidable
          (((state.heldGame socket).isSome = true
              → (state.moonsOf socket).shineSync.isSome = true)
            ∧ (state.startsSave socket = true → ¬state.waitsToRecord (state.playerOf socket))))
  | .shineClear =>
      inferInstanceAs
        (Decidable (∀ client ∈ state.bagged, ¬state.waitsToRecord (state.playerOf client)))
  | .accept _ _ | .receive _ _ | .endRead _ | .join _ | .clientJoined _ | .snapshot _
  | .replay _ _ | .replayDone _ | .epilogue _ | .close _ | .task _ | .timer | .configure _
  | .maxPlayers _ | .ban _ | .startGameMode | .sendFromServer _ _ | .broadcastFromServer _
  | .broadcastForClient _ _ => .isTrue trivial

/-- Only tasks run that come behind the first ones. -/
def OnlyTasksFrom (count : Nat) : Event → Prop
  | .task index => count ≤ index
  | _ => False

instance (count : Nat) : DecidablePred (OnlyTasksFrom count)
  | .task index => inferInstanceAs (Decidable (count ≤ index))
  | .accept _ _ | .receive _ _ | .endRead _ | .join _ | .clientJoined _ | .snapshot _
  | .replay _ _ | .replayDone _ | .epilogue _ | .close _ | .dispatch _ _ | .timer | .configure _
  | .maxPlayers _ | .ban _ | .shineClear | .startGameMode | .sendFromServer _ _
  | .broadcastFromServer _ | .broadcastForClient _ _ => .isFalse id

/-- `SyncShineBag` was called in the first state and has run to completion in the last, with no
other event in between.
-/
structure SyncCompletes (runtime : Runtime) (before : ServerState × List MoonEntry)
    (events : List Event) (after : ServerState × List MoonEntry)
    : Prop where
  run
    : Run (ledgerStep runtime) (fun _ => OnlyTasksFrom before.1.tasks.length)
        (before.1.syncShineBag, before.2) events after
  done : after.1.tasks.length = before.1.tasks.length

/-- Every connected player who is in a stage and not on a new save has all moons of the set,
and of each moon in its bag the ledger tells that it was sent or reported.
-/
def Converged (state : ServerState) (notes : List MoonEntry) : Prop :=
  ∀ client ∈ state.clients,
    (state.session client).connected = true
    → (state.moonsOf client).playing = true
    → (state.moonsOf client).speedrun ≠ some true
    → (∀ shine ∈ state.shineBag, shine ∈ (state.moonsOf client).bag)
      ∧ ∀ shine ∈ (state.moonsOf client).bag,
          ∃ kind, Holds notes kind (state.playerOf client) shine

/-- No send to a connected client fails. -/
def SendsReach (state : ServerState) : Prop :=
  ∀ client ∈ state.clients,
    (state.session client).connected = true → (state.session client).socketConnected = true

section bags

variable {runtime : Runtime} {state next : ServerState} {notes : List MoonEntry} {event : Event}

-----------------------------------------------------------------------------------------
-- Where the moons of a bag come from
-----------------------------------------------------------------------------------------

/-- A moon in a bag was there, or is reported and kept, or was sent and waited to go there. -/
theorem MoonStep.bag_from {store : MoonStore} (moons : MoonStep state event store)
    {player : SocketId} {shine : Int32} (bagged : shine ∈ (store.players player).bag)
    : shine ∈ (state.moonStore.players player).bag
      ∨ (∃ socket now memory,
          event = .dispatch socket now
          ∧ (state.session socket).phase = .dispatching memory
          ∧ shineIn memory = some shine
          ∧ player = state.playerOf socket)
      ∨ ∃ index socket rest,
          event = .task index
          ∧ state.tasks[index]? = some (.recordShine socket shine rest)
          ∧ player = state.playerOf socket := by
  have update {socket : SocketId} {moons : Moons}
      (bagged
        : shine ∈ (Function.update state.moonStore.players (state.playerOf socket) moons
            player).bag)
      : shine ∈ (state.moonStore.players player).bag
        ∨ player = state.playerOf socket ∧ shine ∈ moons.bag := by
    rw [Function.update_apply] at bagged
    split_ifs at bagged with own
    · exact .inr ⟨own, bagged⟩
    · exact .inl bagged
  have kept {socket : SocketId} {moons : Moons}
      (bagged
        : shine ∈ (Function.update state.moonStore.players (state.playerOf socket) moons
            player).bag)
      (same : moons.shineSync = (state.moonsOf socket).shineSync)
      : shine ∈ (state.moonStore.players player).bag := by
    rcases update bagged with old | ⟨rfl, new⟩
    · exact old
    · rw [Moons.bag, same] at new
      exact new
  cases moons with
  | welcome =>
      rcases update bagged with old | ⟨_, new⟩
      · exact .inl old
      · exact absurd new List.not_mem_nil
  | newSave =>
      rcases update bagged with old | ⟨_, new⟩
      · exact .inl old
      · rw [Moons.bag_cleared] at new
        exact absurd new List.not_mem_nil
  | cascade => exact .inl (kept bagged rfl)
  | play => exact .inl (kept bagged rfl)
  | dress => exact .inl (kept bagged rfl)
  | @collect socket now memory packet playerBag dispatching decoded _ _ bag _ =>
      rcases update bagged with old | ⟨own, new⟩
      · exact .inl old
      · rw [Moons.bag_cons bag] at new
        rcases List.mem_cons.mp new with rfl | old
        · have found := shineIn_eq_some.mpr decoded
          exact .inr (.inl ⟨socket, now, memory, rfl, dispatching, found, own⟩)
        · exact .inl (own ▸ old)
  | @record index socket sent rest found =>
      rcases update bagged with old | ⟨own, new⟩
      · exact .inl old
      · rcases Moons.mem_bag_recorded new with rfl | old
        · exact .inr (.inr ⟨index, socket, rest, rfl, found, own⟩)
        · exact .inl (own ▸ old)
  | clear =>
      dsimp only at bagged
      split_ifs at bagged
      · exact absurd bagged List.not_mem_nil
      · exact .inl bagged
  | _ => exact .inl bagged

/-- A moon that waits to go into a bag did so before, or is sent in the step. -/
theorem MoonStep.waits_from {store : MoonStore} (moons : MoonStep state event store)
    {socket : SocketId} {shine : Int32} {rest : List Int32}
    (waits : .recordShine socket shine rest ∈ store.tasks)
    : .recordShine socket shine rest ∈ state.tasks
      ∨ ∃ index,
          event = .task index
          ∧ state.tasks[index]? = some (.sendShines socket (shine :: rest))
          ∧ (state.session socket).connected = true
          ∧ (state.session socket).socketConnected = true := by
  have erased {index : Nat} {task : PendingTask} (kept : task ∈ state.tasks.eraseIdx index)
      : task ∈ state.tasks :=
    List.mem_of_mem_eraseIdx kept
  cases moons with
  | send client sent later found there =>
      rcases List.mem_append.mp waits with old | new
      · exact .inl (erased old)
      · obtain ⟨rfl, rfl, rfl⟩ := PendingTask.recordShine.inj (List.mem_singleton.mp new)
        exact .inr ⟨_, rfl, found, there⟩
  | leave => exact .inl (by simpa using waits)
  | cascade _ _ wasSpeedrun => cases wasSpeedrun <;> exact .inl (by simpa using waits)
  | dress => exact .inl (by simpa using waits)
  | collect => exact .inl (by simpa using waits)
  | timer => exact .inl (by simpa using waits)
  | fanOut =>
      rcases List.mem_append.mp waits with old | new
      · exact .inl (erased old)
      · simp at new
  | begin =>
      rcases List.mem_append.mp waits with old | new
      · exact .inl (erased old)
      · simp at new
  | record =>
      rcases List.mem_append.mp waits with old | new
      · exact .inl (erased old)
      · simp at new
  | farewell => exact .inl (erased waits)
  | decline => exact .inl (erased waits)
  | finish => exact .inl (erased waits)
  | stop => exact .inl (erased waits)
  | _ => exact .inl waits

-----------------------------------------------------------------------------------------
-- What the ledger tells of every bag
-----------------------------------------------------------------------------------------

/-- Who is in a stage has a bag, and the ledger tells of each moon in a bag, or on the way
there, that it was sent or reported.
-/
structure Accounted (state : ServerState) (notes : List MoonEntry) : Prop where
  bagged
    : ∀ player,
        (state.moonStore.players player).playing = true
        → (state.moonStore.players player).shineSync.isSome = true
  told
    : ∀ player,
        ∀ shine ∈ (state.moonStore.players player).bag, ∃ kind, Holds notes kind player shine
  waiting
    : ∀ socket shine rest,
        .recordShine socket shine rest ∈ state.tasks
        → ∃ kind, Holds notes kind (state.playerOf socket) shine

/-- A player comes into a stage by a game packet. -/
theorem MoonStep.plays {store : MoonStore} (moons : MoonStep state event store)
    {player : SocketId} (playing : (store.players player).playing = true)
    : (state.moonStore.players player).playing = true
      ∨ ∃ socket now memory packet,
          event = .dispatch socket now
          ∧ (state.session socket).phase = .dispatching memory
          ∧ decodeFrame memory = some (.game packet)
          ∧ player = state.playerOf socket := by
  have update {socket : SocketId} {moons : Moons}
      (playing
        : (Function.update state.moonStore.players (state.playerOf socket) moons
            player).playing = true)
      : (state.moonStore.players player).playing = true
        ∨ player = state.playerOf socket ∧ moons.playing = true := by
    rw [Function.update_apply] at playing
    split_ifs at playing with own
    · exact .inr ⟨own, playing⟩
    · exact .inl playing
  have kept {socket : SocketId} {moons : Moons}
      (playing
        : (Function.update state.moonStore.players (state.playerOf socket) moons
            player).playing = true)
      (same : moons.playing = (state.moonsOf socket).playing)
      : (state.moonStore.players player).playing = true := by
    rcases update playing with old | ⟨rfl, new⟩
    · exact old
    · exact same.symm.trans new
  cases moons with
  | newSave memory packet dispatching decoded =>
      rcases update playing with old | ⟨own, _⟩
      · exact .inl old
      · exact .inr ⟨_, _, memory, packet, rfl, dispatching, decoded, own⟩
  | cascade memory packet _ dispatching decoded =>
      rcases update playing with old | ⟨own, _⟩
      · exact .inl old
      · exact .inr ⟨_, _, memory, packet, rfl, dispatching, decoded, own⟩
  | play memory packet dispatching decoded =>
      rcases update playing with old | ⟨own, _⟩
      · exact .inl old
      · exact .inr ⟨_, _, memory, packet, rfl, dispatching, decoded, own⟩
  | welcome => exact .inl (kept playing rfl)
  | dress => exact .inl (kept playing rfl)
  | collect => exact .inl (kept playing rfl)
  | record => exact .inl (kept playing rfl)
  | clear =>
      dsimp only at playing
      split_ifs at playing <;> exact .inl playing
  | _ => exact .inl playing

/-- Nobody's account is cleared while a moon waits to go into its bag. -/
theorem KeepsBags.unwaited {player : SocketId} (keeps : KeepsBags state event)
    (cleared : .clear player ∈ moonNotes state event next)
    : ¬state.waitsToRecord player := by
  rcases ServerState.clear_cases cleared with ⟨socket, now, rfl, starts, rfl⟩
    | ⟨rfl, client, bagged, rfl⟩
  · exact keeps.2 starts
  · exact keeps client bagged

/-- Every step that keeps the bags keeps what the ledger tells of them. -/
theorem Accounted.step (tidy : Tidy state) (keyed : Keyed state)
    (accounted : Accounted state notes) (keeps : KeepsBags state event)
    (taken : state.step runtime event = some next)
    : Accounted next (notes ++ moonNotes state event next) where
  bagged player playing := by
    have moons := ServerState.step_moons taken
    have had : (state.moonStore.players player).shineSync.isSome = true := by
      rcases moons.plays playing with before | ⟨socket, now, memory, packet, rfl, dispatching,
        decoded, rfl⟩
      · exact accounted.bagged player before
      · apply keeps.1
        rw [ServerState.heldGame_eq_some.mpr ⟨memory, dispatching, decoded⟩]
        rfl
    rcases moons.bag player with same | ⟨_, _, _, _, _, bag, _⟩
    · exact same.trans had
    · rw [bag]
      rfl
  told player shine bagged := by
    have kept : .clear player ∉ moonNotes state event next := by
      intro cleared
      rw [ServerState.bag_of_cleared cleared taken] at bagged
      exact absurd bagged List.not_mem_nil
    rcases (ServerState.step_moons taken).bag_from bagged with old
      | ⟨socket, now, memory, rfl, dispatching, found, rfl⟩ | ⟨index, socket, rest, rfl, found, rfl⟩
    · obtain ⟨kind, held⟩ := accounted.told player shine old
      exact ⟨kind, held.append kept⟩
    · obtain ⟨relays, noted, _⟩ := ServerState.notes_of_shine dispatching found taken
      refine ⟨.reported (state.keepsShine socket), holds_append.mpr (.inl ?_)⟩
      refine holds_of_mem ?_ kept
      rw [noted]
      exact List.mem_cons_self
    · obtain ⟨kind, held⟩ := accounted.waiting socket shine rest (List.mem_of_getElem? found)
      exact ⟨kind, held.append kept⟩
  waiting socket shine rest waits := by
    have player := ServerState.playerOf_joined tidy taken
      (task_served tidy keyed taken waits rfl)
    rw [player]
    rcases (ServerState.step_moons taken).waits_from waits with old
      | ⟨index, rfl, found, there⟩
    · obtain ⟨kind, held⟩ := accounted.waiting socket shine rest old
      refine ⟨kind, held.append fun cleared => keeps.unwaited cleared ?_⟩
      exact ⟨_, mem_loadsOf.mpr ⟨old, rfl⟩, trivial⟩
    · rcases ServerState.notes_task taken with ⟨client, other, later, again, _, _, noted⟩
        | ⟨_, nothing⟩
      · obtain ⟨rfl, both⟩ :=
          PendingTask.sendShines.inj (Option.some.inj (found.symm.trans again))
        obtain ⟨rfl, rfl⟩ := List.cons.inj both
        refine ⟨.synced, holds_append.mpr (.inl ?_)⟩
        rw [noted]
        exact holds_of_mem (List.mem_singleton_self _) (by simp)
      · exact absurd there (nothing socket shine rest found)

end bags

-----------------------------------------------------------------------------------------
-- What moon sync brings
-----------------------------------------------------------------------------------------

/-- The task will bring the moon to the client. -/
def PendingTask.Brings (client : SocketId) (shine : Int32) : PendingTask → Prop
  | .syncShineBag => True
  | .clientSyncShineBag socket => socket = client
  | .sendShines socket shines => socket = client ∧ shine ∈ shines
  | .recordShine socket sent rest => socket = client ∧ shine ∈ sent :: rest
  | .farewell _ => False

/-- The moon is in the client's bag, or one of the tasks behind the first ones brings it. -/
def Arrives (count : Nat) (client : SocketId) (shine : Int32) (state : ServerState) : Prop :=
  shine ∈ (state.moonsOf client).bag
  ∨ ∃ task ∈ state.tasks.drop count, task.Brings client shine

/-- Moon sync reaches the client. -/
structure Syncs (state : ServerState) (client : SocketId) : Prop where
  enabled : state.settings.shines.enabled = true
  entry : client ∈ state.clients
  connected : (state.session client).connected = true
  isOpen : (state.session client).socketConnected = true
  playing : (state.moonsOf client).playing = true
  speedrun : (state.moonsOf client).speedrun = some false
  bagged : (state.moonsOf client).shineSync.isSome = true

/-- What tasks leave as it is. -/
structure TaskKeeps (before after : ServerState) : Prop where
  settings : after.settings = before.settings
  clients : after.clients = before.clients
  connected : ∀ client, (after.session client).connected = (before.session client).connected
  isOpen
    : ∀ client, (after.session client).socketConnected = (before.session client).socketConnected
  player : ∀ client, after.playerOf client = before.playerOf client
  shineBag : after.shineBag = before.shineBag
  playing
    : ∀ player,
        (after.moonStore.players player).playing = (before.moonStore.players player).playing
  speedrun
    : ∀ player,
        (after.moonStore.players player).speedrun = (before.moonStore.players player).speedrun

theorem TaskKeeps.trans {first second third : ServerState} (left : TaskKeeps first second)
    (right : TaskKeeps second third)
    : TaskKeeps first third where
  settings := right.settings.trans left.settings
  clients := right.clients.trans left.clients
  connected client := (right.connected client).trans (left.connected client)
  isOpen client := (right.isOpen client).trans (left.isOpen client)
  player client := (right.player client).trans (left.player client)
  shineBag := right.shineBag.trans left.shineBag
  playing player := (right.playing player).trans (left.playing player)
  speedrun player := (right.speedrun player).trans (left.speedrun player)

section sync

variable {runtime : Runtime} {state next : ServerState} {index count : Nat}

theorem task_keeps (taken : state.step runtime (.task index) = some next)
    : TaskKeeps state next := by
  have moons := ServerState.step_moons taken
  have moonwise
      : next.moonStore.shineBag = state.shineBag
        ∧ ∀ player,
            (next.moonStore.players player).playing
              = (state.moonStore.players player).playing
            ∧ (next.moonStore.players player).speedrun
              = (state.moonStore.players player).speedrun := by
    generalize next.moonStore = store at moons
    cases moons with
    | rest leaves => rcases leaves with aside | ⟨_, _, _, same, _⟩ <;> contradiction
    | @record index socket shine rest found =>
        refine ⟨rfl, fun player => ?_⟩
        dsimp only
        rw [Function.update_apply]
        split_ifs with own
        · subst own
          exact ⟨rfl, rfl⟩
        · exact ⟨rfl, rfl⟩
    | _ => exact ⟨rfl, fun _ => ⟨rfl, rfl⟩⟩
  obtain ⟨pending, _, rfl⟩ := ServerState.task_cases taken
  have quiet := ServerState.runTask_quiet { state with tasks := state.tasks.eraseIdx index }
    runtime pending
  exact {
    settings := quiet.settings
    clients := quiet.clients
    connected := quiet.connected
    isOpen := quiet.socketConnected
    player := quiet.profile
    shineBag := moonwise.1
    playing := fun player => (moonwise.2 player).1
    speedrun := fun player => (moonwise.2 player).2
  }

/-- The tasks behind the first ones, where one of them is replaced. -/
theorem drop_replaced {tasks new : List PendingTask} {task : PendingTask}
    (late : count ≤ index) (found : tasks[index]? = some task)
    : (tasks.eraseIdx index ++ new).drop count
        = (tasks.eraseIdx index).drop count ++ new
      ∧ ∀ other ∈ tasks.drop count, other = task ∨ other ∈ (tasks.eraseIdx index).drop count := by
  obtain ⟨inside, rfl⟩ := List.getElem?_eq_some_iff.mp found
  have front : count ≤ (tasks.take index).length := by
    rw [List.length_take]
    omega
  have whole : tasks = tasks.take index ++ tasks[index] :: tasks.drop (index + 1) := by
    rw [← List.drop_eq_getElem_cons inside, List.take_append_drop]
  have erased
      : (tasks.eraseIdx index).drop count
        = (tasks.take index).drop count ++ tasks.drop (index + 1) := by
    rw [List.eraseIdx_eq_take_drop_succ, List.drop_append_of_le_length front]
  constructor
  · apply List.drop_append_of_le_length
    rw [List.length_eraseIdx_of_lt inside]
    omega
  · intro other member
    rw [whole, List.drop_append_of_le_length front] at member
    rw [erased, List.mem_append]
    rcases List.mem_append.mp member with before | after
    · exact .inr (.inl before)
    · rcases List.mem_cons.mp after with same | behind
      · exact .inl same
      · exact .inr (.inr behind)

theorem Syncs.step {client : SocketId} (syncs : Syncs state client)
    (taken : state.step runtime (.task index) = some next)
    : Syncs next client := by
  have keeps := task_keeps taken
  have own (player : SocketId) (same : player = state.playerOf client)
      : next.moonsOf client = next.moonStore.players player := by
    rw [same, ServerState.moonsOf, keeps.player]
  constructor
  · exact keeps.settings ▸ syncs.enabled
  · exact keeps.clients ▸ syncs.entry
  · exact (keeps.connected client).trans syncs.connected
  · exact (keeps.isOpen client).trans syncs.isOpen
  · rw [own _ rfl]
    exact (keeps.playing _).trans syncs.playing
  · rw [own _ rfl]
    exact (keeps.speedrun _).trans syncs.speedrun
  · rw [own _ rfl]
    rcases (ServerState.step_moons taken).bag (state.playerOf client) with same | ⟨_, _, welcome, _⟩
    · exact same.trans syncs.bagged
    · cases welcome

/-- A bag loses no moon to a task. -/
theorem bag_grows {player : SocketId} {shine : Int32}
    (taken : state.step runtime (.task index) = some next)
    (bagged : shine ∈ (state.moonStore.players player).bag)
    : shine ∈ (next.moonStore.players player).bag := by
  have moons := ServerState.step_moons taken
  generalize next.moonStore = store at moons
  cases moons with
  | rest leaves => rcases leaves with aside | ⟨_, _, _, same, _⟩ <;> contradiction
  | @record index socket sent rest found =>
      dsimp only
      rw [Function.update_apply]
      split_ifs with own
      · subst own
        exact Moons.bag_recorded bagged
      · exact bagged
  | _ => exact bagged

/-- `ClientSyncShineBag` starts to send what is missing from the bag of a client it reaches. -/
theorem Syncs.missing {client : SocketId} (syncs : Syncs state client)
    : state.missingShines client
      = some (state.shineBag.filter fun shine => shine ∉ (state.moonsOf client).bag) := by
  obtain ⟨playerBag, bag⟩ := Option.isSome_iff_exists.mp syncs.bagged
  apply ServerState.missingShines_eq_some.mpr
  refine ⟨syncs.enabled, syncs.speedrun, playerBag, bag, ?_⟩
  rw [Moons.bag, bag]
  rfl

/-- A task behind the first ones takes every moon a step on towards its client's bag. -/
theorem Arrives.step {client : SocketId} {shine : Int32} (late : count ≤ index)
    (syncs : Syncs state client) (inSet : shine ∈ state.shineBag)
    (arrives : Arrives count client shine state)
    (taken : state.step runtime (.task index) = some next)
    : Arrives count client shine next := by
  have own : next.moonsOf client = next.moonStore.players (state.playerOf client) := by
    rw [ServerState.moonsOf, (task_keeps taken).player]
  rcases arrives with bagged | ⟨task, behind, brings⟩
  · left
    rw [own]
    exact bag_grows taken bagged
  · have moons := ServerState.step_moons taken
    unfold Arrives
    rw [own, ← ServerState.moonStore_tasks]
    generalize next.moonStore = store at moons
    -- the task is another one, or the one that runs and hands over to `new`
    have hands {ran : PendingTask} {new : List PendingTask}
        (found : state.tasks[index]? = some ran)
        (handed : task = ran → ∃ later ∈ new, later.Brings client shine)
        : ∃ later ∈ (state.tasks.eraseIdx index ++ new).drop count,
            later.Brings client shine := by
      obtain ⟨dropped, others⟩ := @drop_replaced index count state.tasks new ran late found
      rw [dropped]
      rcases others task behind with same | still
      · obtain ⟨later, member, bringsLater⟩ := handed same
        exact ⟨later, List.mem_append_right _ member, bringsLater⟩
      · exact ⟨task, List.mem_append_left _ still, brings⟩
    have ends {ran : PendingTask} (found : state.tasks[index]? = some ran)
        (idle : ¬ran.Brings client shine)
        : ∃ later ∈ (state.tasks.eraseIdx index).drop count, later.Brings client shine := by
      have kept := @hands ran [] found fun same => absurd (same ▸ brings) idle
      rwa [List.append_nil] at kept
    cases moons with
    | rest leaves => rcases leaves with aside | ⟨_, _, _, same, _⟩ <;> contradiction
    | farewell socket found => exact .inr (ends found id)
    | fanOut found =>
        refine .inr (hands found fun _ => ⟨.clientSyncShineBag client, ?_, rfl⟩)
        apply List.mem_map_of_mem
        apply List.mem_filter.mpr
        exact ⟨syncs.entry, Bool.and_eq_true_iff.mpr ⟨syncs.playing, syncs.connected⟩⟩
    | decline socket found missing =>
        refine .inr (ends found ?_)
        rintro rfl
        rw [syncs.missing] at missing
        cases missing
    | begin socket shines found missing =>
        by_cases bagged : shine ∈ (state.moonsOf client).bag
        · exact .inl bagged
        · refine .inr (hands found ?_)
          rintro rfl
          obtain rfl : socket = client := brings
          rw [syncs.missing] at missing
          obtain rfl := Option.some.inj missing
          refine ⟨_, List.mem_singleton_self _, rfl, ?_⟩
          exact List.mem_filter.mpr ⟨inSet, decide_eq_true bagged⟩
    | finish socket found => exact .inr (ends found fun both => absurd both.2 List.not_mem_nil)
    | stop socket sent rest found gone =>
        refine .inr (ends found ?_)
        rintro ⟨rfl, _⟩
        rw [syncs.connected, syncs.isOpen] at gone
        cases gone
    | send socket sent rest found there =>
        refine .inr (hands found ?_)
        rintro rfl
        exact ⟨_, List.mem_singleton_self _, brings⟩
    | record socket sent rest found =>
        by_cases now : socket = client ∧ shine = sent
        · obtain ⟨rfl, rfl⟩ := now
          left
          dsimp only
          rw [Function.update_self]
          obtain ⟨playerBag, bag⟩ := Option.isSome_iff_exists.mp syncs.bagged
          rw [Moons.bag, bag]
          exact List.mem_cons_self
        · refine .inr (hands found ?_)
          rintro rfl
          obtain ⟨rfl, member⟩ := brings
          rcases List.mem_cons.mp member with same | later
          · exact absurd ⟨rfl, same⟩ now
          · exact ⟨_, List.mem_singleton_self _, rfl, later⟩

-----------------------------------------------------------------------------------------
-- One whole moon sync
-----------------------------------------------------------------------------------------

/-- While moon sync runs, the tasks leave as it is what decides who is synced, and every moon of
the set arrives at every client that is.
-/
structure Syncing (start state : ServerState) : Prop where
  keeps : TaskKeeps start state
  syncs : ∀ client, Syncs start client → Syncs state client
  arrives
    : ∀ client,
        Syncs start client
        → ∀ shine ∈ start.shineBag, Arrives start.tasks.length client shine state

theorem syncShineBag_keeps (state : ServerState) : TaskKeeps state state.syncShineBag := by
  have quiet := state.syncShineBag_quiet
  have moonwise := state.syncShineBag_moonStore
  exact {
    settings := quiet.settings
    clients := quiet.clients
    connected := quiet.connected
    isOpen := quiet.socketConnected
    player := quiet.profile
    shineBag := congrArg MoonStore.shineBag moonwise
    playing := fun player => congrArg (fun store => (store.players player).playing) moonwise
    speedrun := fun player => congrArg (fun store => (store.players player).speedrun) moonwise
  }

theorem Syncing.start (state : ServerState) : Syncing state state.syncShineBag := by
  have moonwise := state.syncShineBag_moonStore
  have keeps := syncShineBag_keeps state
  have own (client : SocketId) : state.syncShineBag.moonsOf client = state.moonsOf client := by
    rw [ServerState.moonsOf, keeps.player, moonwise]
    rfl
  have tasks : state.syncShineBag.tasks = state.tasks ++ [.syncShineBag] :=
    congrArg MoonStore.tasks moonwise
  refine ⟨keeps, ?_, ?_⟩
  · intro client syncs
    constructor
    · exact keeps.settings ▸ syncs.enabled
    · exact keeps.clients ▸ syncs.entry
    · exact (keeps.connected client).trans syncs.connected
    · exact (keeps.isOpen client).trans syncs.isOpen
    · exact (own client).symm ▸ syncs.playing
    · exact (own client).symm ▸ syncs.speedrun
    · exact (own client).symm ▸ syncs.bagged
  · intro client _ shine _
    refine .inr ⟨.syncShineBag, ?_, trivial⟩
    rw [tasks, List.drop_left]
    exact List.mem_singleton_self _

theorem Syncing.step {start : ServerState} (syncing : Syncing start state)
    (late : start.tasks.length ≤ index)
    (taken : state.step runtime (.task index) = some next)
    : Syncing start next where
  keeps := syncing.keeps.trans (task_keeps taken)
  syncs client syncs := (syncing.syncs client syncs).step taken
  arrives client syncs shine inSet := by
    have arrives := syncing.arrives client syncs shine inSet
    refine arrives.step late (syncing.syncs client syncs) ?_ taken
    rw [syncing.keeps.shineBag]
    exact inSet

/-- When moon sync has completed, every client that it reaches has the whole set. -/
theorem SyncCompletes.converged {before after : ServerState × List MoonEntry}
    {events : List Event} (completes : SyncCompletes runtime before events after)
    : TaskKeeps before.1 after.1
      ∧ ∀ client,
          Syncs before.1 client
          → ∀ shine ∈ before.1.shineBag, shine ∈ (after.1.moonsOf client).bag := by
  have syncing : Syncing before.1 after.1 := by
    refine @Run.invariant _ _ _ _ _ (fun recorded => Syncing before.1 recorded.1)
      (Syncing.start before.1) ?_ _ _ completes.run
    intro recorded event next syncing allowed taken
    obtain ⟨stepped, _⟩ := recording_cases taken
    cases event with
    | task index => exact syncing.step allowed stepped
    | _ => cases allowed
  refine ⟨syncing.keeps, ?_⟩
  intro client syncs shine inSet
  rcases syncing.arrives client syncs shine inSet with bagged | ⟨task, behind, _⟩
  · exact bagged
  · rw [← completes.done, List.drop_length] at behind
    exact absurd behind List.not_mem_nil

/-- Moon sync takes only steps that keep the bags. -/
theorem SyncCompletes.keepsBags {before after : ServerState × List MoonEntry}
    {events : List Event} (completes : SyncCompletes runtime before events after)
    : Run (ledgerStep runtime) (fun recorded event => KeepsBags recorded.1 event) before
        (.timer :: events) after := by
  have first : ledgerStep runtime before .timer = some (before.1.syncShineBag, before.2) := by
    have taken : before.1.step runtime .timer = some before.1.syncShineBag := rfl
    have noted := ServerState.notes_aside taken (by simp) (by simp)
    simp [ledgerStep, recording, taken, noted, ServerState.heard]
  have later
      : Run (ledgerStep runtime) (fun recorded event => KeepsBags recorded.1 event)
          (before.1.syncShineBag, before.2) events after := by
    refine completes.run.mono ?_
    intro recorded event allowed
    cases event with
    | task index => trivial
    | _ => cases allowed
  exact (Run.single trivial first).trans later

end sync

/-- What the ledger tells of the bags in every state that is reached while bags are kept. -/
theorem Accounted.of_run {runtime : Runtime} {settings : Settings} {shines : List Int32}
    {events : List Event} {recorded : ServerState × List MoonEntry}
    (run
      : Run (ledgerStep runtime) (fun recorded event => KeepsBags recorded.1 event)
          (.initial settings shines, []) events recorded)
    : Accounted recorded.1 recorded.2 := by
  refine @Run.invariant_using _ _ _ _ _ (fun recorded => Tidy recorded.1 ∧ Keyed recorded.1)
    (fun recorded => Accounted recorded.1 recorded.2) ?_ ?_ ?_ _ _ run
  · intro events recorded before
    exact ⟨Tidy.of_run before.forget, Keyed.of_run before.forget⟩
  · exact {
      bagged := fun _ playing => by cases playing
      told := fun _ _ bagged => absurd bagged List.not_mem_nil
      waiting := fun _ _ _ waits => absurd waits List.not_mem_nil
    }
  · rintro ⟨state, notes⟩ event ⟨next, more⟩ ⟨tidy, keyed⟩ accounted keeps taken
    obtain ⟨stepped, same⟩ := recording_cases taken
    dsimp only at stepped same
    subst same
    exact accounted.step tidy keyed keeps stepped

/-- Moon sync converges: in every state that is reached while bags are kept, one that completes
and whose sends reach everyone brings the whole set to every player in a stage, and the ledger
tells of every moon in a bag.
-/
theorem converges_of_run {runtime : Runtime} {settings : Settings} {shines : List Int32}
    {events later : List Event} {before after : ServerState × List MoonEntry}
    (run
      : Run (ledgerStep runtime) (fun recorded event => KeepsBags recorded.1 event)
          (.initial settings shines, []) events before)
    (enabled : before.1.settings.shines.enabled = true) (reach : SendsReach before.1)
    (completes : SyncCompletes runtime before later after)
    : Converged after.1 after.2 := by
  obtain ⟨keeps, complete⟩ := completes.converged
  intro client entry connected playing slow
  have own : after.1.moonsOf client = after.1.moonStore.players (before.1.playerOf client) := by
    rw [ServerState.moonsOf, keeps.player]
  rw [own] at playing slow
  rw [keeps.playing] at playing
  rw [keeps.speedrun] at slow
  rw [keeps.clients] at entry
  rw [keeps.connected] at connected
  constructor
  · intro shine inSet
    rw [keeps.shineBag] at inSet
    refine complete client ?_ shine inSet
    have bagged := (Accounted.of_run run).bagged _ playing
    have flagged := (Keyed.of_run run.forget).flagged _ bagged
    obtain ⟨flag, speedrun⟩ := Option.isSome_iff_exists.mp flagged
    have unset : flag = false := by
      rw [speedrun] at slow
      exact Bool.eq_false_iff.mpr fun set => slow (congrArg some set)
    exact {
      enabled := enabled
      entry := entry
      connected := connected
      isOpen := reach client entry connected
      playing := playing
      speedrun := speedrun.trans (congrArg some unset)
      bagged := bagged
    }
  · exact (Accounted.of_run (run.trans completes.keepsBags)).told (after.1.playerOf client)

/-- Mario has collected moon 5, and Luigi is in a stage. Moon sync brings it to Luigi. -/
theorem sync_brings_moon_to_luigi
    : ∃ before after,
        Run (ledgerStep .pooled) (fun recorded event => KeepsBags recorded.1 event)
          (.initial {} [], [])
          (arrival .pooled 1 ⟨7⟩ .firstConnection "Mario".toList []
            ++ exchange 1 ⟨7⟩ costumePacket
            ++ exchange 1 ⟨7⟩ (.shine { shineId := 5 })
            ++ arrival .pooled 2 ⟨8⟩ .firstConnection "Luigi".toList [1]
            ++ exchange 2 ⟨8⟩ stagePacket)
          before
        ∧ SyncCompletes .pooled before [.task 2, .task 2, .task 2, .task 2, .task 2] after
        ∧ (before.1.moonsOf 2).bag = []
        ∧ (after.1.moonsOf 2).bag = [5]
        ∧ Converged after.1 after.2 := by
  let events :=
    arrival .pooled 1 ⟨7⟩ .firstConnection "Mario".toList []
      ++ exchange 1 ⟨7⟩ costumePacket
      ++ exchange 1 ⟨7⟩ (.shine { shineId := 5 })
      ++ arrival .pooled 2 ⟨8⟩ .firstConnection "Luigi".toList [1]
      ++ exchange 2 ⟨8⟩ stagePacket
  have executes
      : (executeChecked (ledgerStep .pooled)
          (fun recorded event => KeepsBags recorded.1 event)
          (.initial {} [], []) events).any
          (fun before =>
            (executeChecked (ledgerStep .pooled)
              (fun _ event => OnlyTasksFrom before.1.tasks.length event)
              (before.1.syncShineBag, before.2)
              [.task 2, .task 2, .task 2, .task 2, .task 2]).any
              fun after =>
                (after.1.tasks.length = before.1.tasks.length
                ∧ before.1.settings.shines.enabled = true
                ∧ (∀ client ∈ before.1.clients,
                    (before.1.session client).connected = true
                    → (before.1.session client).socketConnected = true)
                ∧ (before.1.moonsOf 2).bag = []
                ∧ (after.1.moonsOf 2).bag = [5] : Bool))
        = true := by decide +kernel
  obtain ⟨before, executed, syncs⟩ := (Option.any_eq_true _ _).mp executes
  obtain ⟨after, synced, found⟩ := (Option.any_eq_true _ _).mp syncs
  obtain ⟨done, enabled, reach, empty, whole⟩ := of_decide_eq_true found
  have run := executeChecked_run (fun _ _ => of_decide_eq_true) executed
  have completes : SyncCompletes .pooled before _ after :=
    ⟨executeChecked_run (fun _ _ => of_decide_eq_true) synced, done⟩
  exact ⟨before, after, run, completes, empty, whole, converges_of_run run enabled reach completes⟩

/-- Luigi was banned when he came in first, and the entry that he left let him in again. He is
in a stage, without a bag and without the flag of a new save, and moon sync passes him by.
-/
theorem sync_passes_luigi_by
    : ∃ before after,
        AnyRun (ledgerStep .pooled) (.initial (banning ⟨8⟩) [], [])
          (arrival .pooled 1 ⟨7⟩ .firstConnection "Mario".toList []
            ++ exchange 1 ⟨7⟩ costumePacket
            ++ exchange 1 ⟨7⟩ (.shine { shineId := 5 })
            ++ (arrival .pooled 2 ⟨8⟩ .firstConnection "Luigi".toList []).take 4
            ++ [.epilogue 2, .task 2]
            ++ arrival .pooled 3 ⟨8⟩ .reconnecting "Luigi".toList [1]
            ++ exchange 3 ⟨8⟩ stagePacket)
          before
        ∧ before.1.settings.shines.enabled = true
        ∧ SendsReach before.1
        ∧ SyncCompletes .pooled before [.task 2, .task 2] after
        ∧ ¬Converged after.1 after.2 := by
  let events :=
    arrival .pooled 1 ⟨7⟩ .firstConnection "Mario".toList []
      ++ exchange 1 ⟨7⟩ costumePacket
      ++ exchange 1 ⟨7⟩ (.shine { shineId := 5 })
      ++ (arrival .pooled 2 ⟨8⟩ .firstConnection "Luigi".toList []).take 4
      ++ [.epilogue 2, .task 2]
      ++ arrival .pooled 3 ⟨8⟩ .reconnecting "Luigi".toList [1]
      ++ exchange 3 ⟨8⟩ stagePacket
  have executes
      : (execute (ledgerStep .pooled) (.initial (banning ⟨8⟩) [], []) events).any
          (fun before =>
            (executeChecked (ledgerStep .pooled)
              (fun _ event => OnlyTasksFrom before.1.tasks.length event)
              (before.1.syncShineBag, before.2) [.task 2, .task 2]).any
              fun after =>
                (after.1.tasks.length = before.1.tasks.length
                ∧ before.1.settings.shines.enabled = true
                ∧ (∀ client ∈ before.1.clients,
                    (before.1.session client).connected = true
                    → (before.1.session client).socketConnected = true)
                ∧ 3 ∈ after.1.clients
                ∧ (after.1.session 3).connected = true
                ∧ (after.1.moonsOf 3).playing = true
                ∧ (after.1.moonsOf 3).speedrun ≠ some true
                ∧ 5 ∈ after.1.shineBag
                ∧ 5 ∉ (after.1.moonsOf 3).bag : Bool))
        = true := by decide +kernel
  obtain ⟨before, executed, syncs⟩ := (Option.any_eq_true _ _).mp executes
  obtain ⟨after, synced, found⟩ := (Option.any_eq_true _ _).mp syncs
  obtain ⟨done, enabled, reach, entry, connected, playing, slow, inSet, missing⟩ :=
    of_decide_eq_true found
  have completes : SyncCompletes .pooled before _ after :=
    ⟨executeChecked_run (fun _ _ => of_decide_eq_true) synced, done⟩
  refine ⟨before, after, execute_run executed, enabled, reach, completes, fun converged => ?_⟩
  exact missing ((converged 3 entry connected playing slow).1 5 inSet)

end SmoOnline
