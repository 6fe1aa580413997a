import SmoOnline.Server.Keys
import SmoOnline.Server.Moons

/-! Whose moons a socket's client has, and which keys of them are there. A client that takes
over an entry becomes the player of that entry; the keys are made behind a first join and stay.
-/

namespace SmoOnline

open Span Utf8 Runs

/-- The client that a task of moon sync serves. -/
def PendingTask.client? : PendingTask → Option SocketId
  | .clientSyncShineBag socket | .sendShines socket _ | .recordShine socket _ _ => some socket
  | .farewell _ | .syncShineBag => none

/-- The client whose bag a task has read. -/
def PendingTask.loader? : PendingTask → Option SocketId
  | .sendShines socket _ | .recordShine socket _ _ => some socket
  | .farewell _ | .syncShineBag | .clientSyncShineBag _ => none

theorem PendingTask.client?_of_loader? {task : PendingTask} {socket : SocketId}
    (loads : task.loader? = some socket)
    : task.client? = some socket := by
  cases task <;> first | exact loads | cases loads

namespace ServerState

variable {runtime : Runtime} {state next : ServerState} {event : Event}

@[simp] theorem playerOf_setPhase (socket other : SocketId) (phase : Phase)
    : (state.setPhase socket phase).playerOf other = state.playerOf other :=
  profile_setPhase state socket other phase

/-- A session is of the same player behind every step, or its client has taken over the entry
of a player.
-/
theorem step_player (tidy : Tidy state) (taken : state.step runtime event = some next)
    (socket : SocketId)
    : next.playerOf socket = state.playerOf socket
      ∨ ∃ oldClient,
          event = .join socket
          ∧ state.lockHolder = none
          ∧ (state.session socket).phase.fresh = true
          ∧ oldClient ∈ state.clients
          ∧ next.playerOf socket = state.playerOf oldClient
          ∧ next.clients = state.clients.erase oldClient ++ [socket]
          ∧ ∃ memory, (next.session socket).phase = .joined memory := by
  rcases step_kept tidy taken with kept | ⟨actor, rfl⟩
  · exact .inl (kept.profile socket)
  have fresh := joiner_fresh taken
  obtain ⟨memory, connect, header, connecting, free, _, ⟨_, rfl⟩ | ⟨_, _, _, rfl⟩
    | ⟨_, _, oldClient, found, rfl⟩ | ⟨_, _, missing, rfl⟩⟩ := join_cases taken
  · exact .inl (playerOf_setPhase _ _ _)
  · exact .inl (playerOf_setPhase _ _ _)
  · have entry := (findExistingClient_some found).1
    by_cases same : socket = actor
    · subst same
      have outside := (tidy.fresh socket fresh).1
      have self := state.session_takeOver_self memory connect
        (ne_of_mem_of_not_mem entry outside)
      refine .inr ⟨oldClient, rfl, free, fresh, entry, ?_, ?_, memory, ?_⟩
      · rw [playerOf, self]
        rfl
      · exact clients_takeOver tidy memory connect entry
      · rw [self]
    · refine .inl ?_
      rw [playerOf, state.session_takeOver_other memory connect oldClient same]
      rfl
  · refine .inl ?_
    rw [playerOf, state.session_register actor memory connect missing]
    split_ifs with same
    · subst same
      rfl
    · rfl

/-- A client that has joined is of one player for good. -/
theorem playerOf_joined (tidy : Tidy state) (taken : state.step runtime event = some next)
    {socket : SocketId} (joined : (state.session socket).phase.fresh = false)
    : next.playerOf socket = state.playerOf socket := by
  rcases step_player tidy taken socket with same | ⟨_, _, _, fresh, _⟩
  · exact same
  · rw [fresh] at joined
    cases joined

end ServerState

section keys

variable {runtime : Runtime} {state next : ServerState} {event : Event}

-----------------------------------------------------------------------------------------
-- The keys of a player
-----------------------------------------------------------------------------------------

/-- A player has a bag behind a step if it had one before, or if it is welcomed. -/
theorem MoonStep.bag {store : MoonStore} (moons : MoonStep state event store)
    (player : SocketId)
    : (store.players player).shineSync.isSome = (state.moonStore.players player).shineSync.isSome
      ∨ ∃ socket memory,
          event = .clientJoined socket
          ∧ (state.session socket).phase = .calling memory
          ∧ player = state.playerOf socket
          ∧ (store.players player).shineSync = some []
          ∧ (store.players player).speedrun = some false := by
  have update {socket : SocketId} {moons : Moons}
      (own : (state.moonsOf socket).shineSync.isSome = moons.shineSync.isSome)
      : (Function.update state.moonStore.players (state.playerOf socket) moons
          player).shineSync.isSome
        = (state.moonStore.players player).shineSync.isSome := by
    rw [Function.update_apply]
    split_ifs with same
    · rw [same]
      exact own.symm
    · rfl
  cases moons with
  | @welcome socket memory calling =>
      by_cases own : player = state.playerOf socket
      · subst own
        refine .inr ⟨socket, memory, rfl, calling, rfl, ?_, ?_⟩ <;> simp
      · left
        dsimp only
        rw [Function.update_of_ne own]
  | newSave => exact .inl (update (by simp))
  | cascade => exact .inl (update rfl)
  | play => exact .inl (update rfl)
  | dress => exact .inl (update rfl)
  | collect _ _ _ _ _ _ _ bag _ => exact .inl (update (by simp [bag]))
  | record => exact .inl (update (by simp))
  | clear =>
      left
      dsimp only
      split_ifs with bagged
      · obtain ⟨client, member, rfl⟩ := List.mem_map.mp bagged
        have has := List.mem_takeWhile_imp member
        exact has.symm
      · rfl
  | _ => exact .inl rfl

/-- No step takes the flag of a new save from a player who has it. -/
theorem MoonStep.speedrun {store : MoonStore} (moons : MoonStep state event store)
    (player : SocketId)
    (has : (state.moonStore.players player).speedrun.isSome = true)
    : (store.players player).speedrun.isSome = true := by
  have update {socket : SocketId} {moons : Moons}
      (own : (state.moonsOf socket).speedrun.isSome = true → moons.speedrun.isSome = true)
      : (Function.update state.moonStore.players (state.playerOf socket) moons
          player).speedrun.isSome
        = true := by
    rw [Function.update_apply]
    split_ifs with same
    · subst same
      exact own has
    · exact has
  cases moons with
  | welcome => exact update fun _ => rfl
  | newSave => exact update fun _ => rfl
  | cascade => exact update fun _ => rfl
  | play => exact update id
  | dress => exact update id
  | collect => exact update id
  | record => exact update id
  | clear =>
      dsimp only
      split_ifs <;> exact has
  | _ => exact has

/-- A step keeps a task, starts one that serves nobody or a client that has joined, or goes on
with one for the same client, who has a bag that it reads.
-/
theorem MoonStep.task {store : MoonStore} (tidy : Tidy state)
    (moons : MoonStep state event store) {task : PendingTask} (pending : task ∈ store.tasks)
    : task ∈ state.tasks
      ∨ task.client? = none
      ∨ (∃ socket,
          task = .clientSyncShineBag socket ∧ (state.session socket).phase.fresh = false)
      ∨ ∃ socket earlier,
          earlier ∈ state.tasks
          ∧ earlier.client? = some socket
          ∧ task.client? = some socket
          ∧ (earlier.loader? = some socket ∨ (state.missingShines socket).isSome = true) := by
  have dispatched {socket : SocketId} {memory : Bytes}
      (dispatching : (state.session socket).phase = .dispatching memory)
      : (state.session socket).phase.fresh = false := by
    rw [dispatching]
    rfl
  have erased {index : Nat} {task : PendingTask} (kept : task ∈ state.tasks.eraseIdx index)
      : task ∈ state.tasks :=
    List.mem_of_mem_eraseIdx kept
  have added {tasks new : List PendingTask} (member : task ∈ tasks ++ new)
      (kept : task ∈ tasks → task ∈ state.tasks)
      : task ∈ state.tasks ∨ task ∈ new :=
    (List.mem_append.mp member).imp_left kept
  cases moons with
  | leave =>
      rcases added pending id with kept | new
      · exact .inl kept
      · rw [List.mem_singleton.mp new]
        exact .inr (.inl rfl)
  | cascade memory packet wasSpeedrun dispatching =>
      rcases added pending id with kept | new
      · exact .inl kept
      · split_ifs at new
        · exact .inr (.inr (.inl ⟨_, List.mem_singleton.mp new, dispatched dispatching⟩))
        · exact absurd new List.not_mem_nil
  | dress memory packet dispatching =>
      rcases added pending id with kept | new
      · exact .inl kept
      · exact .inr (.inr (.inl ⟨_, List.mem_singleton.mp new, dispatched dispatching⟩))
  | collect =>
      rcases added pending id with kept | new
      · exact .inl kept
      · rw [List.mem_singleton.mp new]
        exact .inr (.inl rfl)
  | timer =>
      rcases added pending id with kept | new
      · exact .inl kept
      · rw [List.mem_singleton.mp new]
        exact .inr (.inl rfl)
  | fanOut =>
      rcases added pending erased with kept | new
      · exact .inl kept
      · obtain ⟨client, member, rfl⟩ := List.mem_map.mp new
        have entry := List.mem_of_mem_filter member
        exact .inr (.inr (.inl ⟨client, rfl, tidy.joined_of_mem entry⟩))
  | begin socket shines found missing =>
      rcases added pending erased with kept | new
      · exact .inl kept
      · rw [List.mem_singleton.mp new]
        refine .inr (.inr (.inr ⟨socket, _, List.mem_of_getElem? found, rfl, rfl, .inr ?_⟩))
        rw [missing]
        rfl
  | send socket shine rest found =>
      rcases added pending erased with kept | new
      · exact .inl kept
      · rw [List.mem_singleton.mp new]
        exact .inr (.inr (.inr ⟨socket, _, List.mem_of_getElem? found, rfl, rfl, .inl rfl⟩))
  | record socket shine rest found =>
      rcases added pending erased with kept | new
      · exact .inl kept
      · rw [List.mem_singleton.mp new]
        exact .inr (.inr (.inr ⟨socket, _, List.mem_of_getElem? found, rfl, rfl, .inl rfl⟩))
  | farewell => exact .inl (erased pending)
  | decline => exact .inl (erased pending)
  | finish => exact .inl (erased pending)
  | stop => exact .inl (erased pending)
  | _ => exact .inl pending

/-- Moons are missing from a bag. -/
theorem bag_of_missingShines {socket : SocketId}
    (missing : (state.missingShines socket).isSome = true)
    : (state.moonsOf socket).shineSync.isSome = true := by
  obtain ⟨shines, found⟩ := Option.isSome_iff_exists.mp missing
  obtain ⟨_, _, clientBag, bag, _⟩ := ServerState.missingShines_eq_some.mp found
  rw [bag]
  rfl

-----------------------------------------------------------------------------------------
-- The keys in every reachable state
-----------------------------------------------------------------------------------------

/-- Tasks serve clients that have joined, and those that have read a bag serve players who
have one; a player who is not welcomed yet has none and one session only; and whoever has a
bag has the flag of a new save.
-/
structure Keyed (state : ServerState) : Prop where
  served
    : ∀ task ∈ state.tasks,
        ∀ socket, task.client? = some socket → (state.session socket).phase.fresh = false
  loaded
    : ∀ task ∈ state.tasks,
        ∀ socket,
          task.loader? = some socket → (state.moonsOf socket).shineSync.isSome = true
  fresh
    : ∀ socket,
        (state.session socket).phase.fresh = true
        → (state.moonsOf socket).shineSync.isSome = false
  calling
    : ∀ socket memory,
        (state.session socket).phase = .calling memory
        → (state.moonsOf socket).shineSync.isSome = false
          ∧ ∀ other, state.playerOf other = state.playerOf socket → other = socket
  flagged
    : ∀ player,
        (state.moonStore.players player).shineSync.isSome = true
        → (state.moonStore.players player).speedrun.isSome = true

theorem Keyed.initial (settings : Settings) (shines : List Int32)
    : Keyed (.initial settings shines) where
  served _ pending := absurd pending List.not_mem_nil
  loaded _ pending := absurd pending List.not_mem_nil
  fresh _ _ := rfl
  calling _ _ calling := by cases calling
  flagged _ has := by cases has

/-- A player has a bag as before a step, welcomes aside. -/
theorem bag_kept (tidy : Tidy state) (taken : state.step runtime event = some next)
    {socket : SocketId} (joined : (state.session socket).phase.fresh = false)
    (has : (state.moonsOf socket).shineSync.isSome = true)
    (keyed : Keyed state)
    : (next.moonsOf socket).shineSync.isSome = true := by
  rw [ServerState.moonsOf, ServerState.playerOf_joined tidy taken joined]
  rcases (ServerState.step_moons taken).bag (state.playerOf socket)
    with same | ⟨welcomed, memory, _, calling, own, _⟩
  · exact same.trans has
  · obtain ⟨bare, alone⟩ := keyed.calling welcomed memory calling
    obtain rfl := alone socket own
    rw [bare] at has
    cases has

/-- A player without a bag has none behind a step that does not welcome it. -/
theorem bare_kept (taken : state.step runtime event = some next) {player : SocketId}
    (bare : (state.moonStore.players player).shineSync.isSome = false)
    (others
      : ∀ socket memory,
          event = .clientJoined socket → (state.session socket).phase = .calling memory
          → player ≠ state.playerOf socket)
    : (next.moonStore.players player).shineSync.isSome = false := by
  rcases (ServerState.step_moons taken).bag player
    with same | ⟨socket, memory, welcomes, calling, own, _⟩
  · exact same.trans bare
  · exact absurd own (others socket memory welcomes calling)

/-- Tasks serve clients that had joined before the step that starts them. -/
theorem task_served (tidy : Tidy state) (keyed : Keyed state)
    (taken : state.step runtime event = some next) {task : PendingTask}
    (pending : task ∈ next.tasks) {socket : SocketId} (serves : task.client? = some socket)
    : (state.session socket).phase.fresh = false := by
  rcases (ServerState.step_moons taken).task tidy pending
    with kept | nobody | ⟨client, rfl, joined⟩ | ⟨client, earlier, kept, served, same, _⟩
  · exact keyed.served task kept socket serves
  · rw [nobody] at serves
    cases serves
  · obtain rfl := Option.some.inj serves
    exact joined
  · obtain rfl := Option.some.inj (same.symm.trans serves)
    exact keyed.served earlier kept client served

/-- Every step keeps the keys. Witness: nobody joins while a client is about to be welcomed, so
that its player stays without a bag and without another session until then.
-/
theorem Keyed.step (tidy : Tidy state) (locked : Locked state) (keyed : Keyed state)
    (taken : state.step runtime event = some next)
    : Keyed next where
  served task pending socket serves :=
    (ServerState.joined_kept tidy taken (task_served tidy keyed taken pending serves)).1
  loaded task pending socket loads := by
    have serves := PendingTask.client?_of_loader? loads
    rcases (ServerState.step_moons taken).task tidy pending
      with kept | nobody | ⟨client, rfl, joined⟩ | ⟨client, earlier, kept, served, same, reads⟩
    · exact bag_kept tidy taken (keyed.served task kept socket serves)
        (keyed.loaded task kept socket loads) keyed
    · rw [nobody] at serves
      cases serves
    · cases loads
    · obtain rfl := Option.some.inj (same.symm.trans serves)
      refine bag_kept tidy taken (keyed.served earlier kept client served) ?_ keyed
      rcases reads with loaded | missing
      · exact keyed.loaded earlier kept client loaded
      · exact bag_of_missingShines missing
  fresh socket fresh := by
    have was : (state.session socket).phase.fresh = true := by
      by_contra joined
      have kept := (ServerState.joined_kept tidy taken (Bool.eq_false_iff.mpr joined)).1
      rw [fresh] at kept
      cases kept
    have player : next.playerOf socket = state.playerOf socket := by
      rcases ServerState.step_player tidy taken socket with same | ⟨_, _, _, _, _, _, _, _, phase⟩
      · exact same
      · rw [phase] at fresh
        cases fresh
    rw [ServerState.moonsOf, player]
    refine bare_kept taken (keyed.fresh socket was) ?_
    rintro welcomed memory _ calling own
    obtain rfl := (keyed.calling welcomed memory calling).2 socket own
    rw [calling] at was
    cases was
  calling socket memory calling := by
    rcases ServerState.calling_before tidy taken calling with ⟨other, was⟩ | ⟨rfl, was⟩
    · obtain ⟨bare, alone⟩ := keyed.calling socket memory was
      have player := ServerState.playerOf_joined tidy taken (by rw [was]; rfl)
      constructor
      · rw [ServerState.moonsOf, player]
        refine bare_kept taken bare ?_
        rintro welcomed again rfl _ own
        obtain rfl := alone welcomed own.symm
        exact other rfl
      · intro client same
        rcases ServerState.step_player tidy taken client with kept | ⟨_, _, free, _⟩
        · exact alone client (kept.symm.trans (same.trans player))
        · rw [(locked socket memory was).1] at free
          cases free
    · have player : next.playerOf socket = state.playerOf socket := by
        rcases ServerState.step_player tidy taken socket
          with same | ⟨_, _, _, _, _, _, _, _, phase⟩
        · exact same
        · rw [phase] at calling
          cases calling
      constructor
      · rw [ServerState.moonsOf, player]
        exact bare_kept taken (keyed.fresh socket was) (by rintro _ _ ⟨⟩)
      · intro client same
        rcases ServerState.step_player tidy taken client with kept | ⟨_, joins, _⟩
        · rcases tidy.shared client socket (kept.symm.trans (same.trans player))
            with equal | ⟨_, _, joined⟩
          · exact equal
          · rw [was] at joined
            cases joined
        · exact (Event.join.inj joins).symm
  flagged player has := by
    have moons := ServerState.step_moons taken
    rcases moons.bag player with same | ⟨_, _, _, _, _, _, flag⟩
    · exact moons.speedrun player (keyed.flagged player (same.symm.trans has))
    · rw [flag]
      rfl

theorem Keyed.of_run {settings : Settings} {shines : List Int32} {events : List Event}
    (run : AnyRun (ServerState.step runtime) (.initial settings shines) events state)
    : Keyed state := by
  refine run.invariant_using
    (fun before => And.intro (Tidy.of_run before) (Locked.of_run before))
    (.initial settings shines) ?_
  rintro state event next ⟨tidy, locked⟩ keyed _ taken
  exact keyed.step tidy locked taken

end keys

end SmoOnline
