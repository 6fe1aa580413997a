import SmoOnline.Server.MoonLedger

/-! What comes to a player on a new save. Until the player is in Cascade, moon sync sends it
nothing, as long as none was under way when the save started; frames of moons are passed on to
it like to any other player.
-/

namespace SmoOnline

open Span Utf8 Runs

/-- By the type in their header, the octets are a Shine packet. -/
def IsShineFrame (data : Bytes) : Prop :=
  ∃ header ∈ PacketHeader.deserialize data, header.type = .shine

instance : DecidablePred IsShineFrame := fun data =>
  inferInstanceAs (Decidable (∃ header ∈ PacketHeader.deserialize data, header.type = .shine))

namespace ServerState

/-- A handler is about to handle the game packet that sets the flag of a new save. -/
def EntersCap (state : ServerState) (socket : SocketId) : Prop :=
  ∃ packet ∈ state.heldGame socket,
    packet.stage = "CapWorldHomeStage".toList ∧ packet.scenarioNum = 0

/-- A handler is about to handle the game packet that takes the flag back. -/
def EntersCascade (state : ServerState) (socket : SocketId) : Prop :=
  ∃ packet ∈ state.heldGame socket, packet.stage = "WaterfallWorldHomeStage".toList

/-- A handler is about to handle a Shine packet. -/
def HoldsShineFrame (state : ServerState) (socket : SocketId) : Prop :=
  match (state.session socket).phase with
  | .dispatching memory => IsShineFrame memory
  | _ => False

end ServerState

/-- The player stays on its new save. -/
def StaysOnNewSave (player : SocketId) (state : ServerState) : Event → Prop
  | .dispatch socket _ => state.EntersCascade socket → state.playerOf socket ≠ player
  | _ => True

/-- No Shine packet is handled that would be passed on to the player. -/
def PassesBy (player : SocketId) (state : ServerState) : Event → Prop
  | .dispatch socket _ =>
      state.HoldsShineFrame socket
      → ∀ client ∈ state.reached socket, state.playerOf client ≠ player
  | _ => True

section decidable

variable (state : ServerState) (player socket : SocketId)

instance : Decidable (state.EntersCap socket) :=
  inferInstanceAs (Decidable (∃ packet ∈ state.heldGame socket, _ ∧ _))

instance : Decidable (state.EntersCascade socket) :=
  inferInstanceAs (Decidable (∃ packet ∈ state.heldGame socket, _))

instance : Decidable (state.HoldsShineFrame socket) := by
  unfold ServerState.HoldsShineFrame
  generalize (state.session socket).phase = phase
  exact match phase with
    | .dispatching memory => inferInstanceAs (Decidable (IsShineFrame memory))
    | .idle | .reading _ | .connecting _ _ | .calling _ | .joined _ | .replaying _ _ _
    | .failing | .ended => .isFalse id

instance : DecidablePred (StaysOnNewSave player state)
  | .dispatch handler _ =>
      inferInstanceAs (Decidable (state.EntersCascade handler → state.playerOf handler ≠ player))
  | .accept _ _ | .receive _ _ | .endRead _ | .join _ | .clientJoined _ | .snapshot _
  | .replay _ _ | .replayDone _ | .epilogue _ | .close _ | .task _ | .timer | .configure _
  | .maxPlayers _ | .ban _ | .shineClear | .startGameMode | .sendFromServer _ _
  | .broadcastFromServer _ | .broadcastForClient _ _ => .isTrue trivial

instance : DecidablePred (PassesBy player state)
  | .dispatch handler _ =>
      inferInstanceAs
        (Decidable
          (state.HoldsShineFrame handler
            → ∀ client ∈ state.reached handler, state.playerOf client ≠ player))
  | .accept _ _ | .receive _ _ | .endRead _ | .join _ | .clientJoined _ | .snapshot _
  | .replay _ _ | .replayDone _ | .epilogue _ | .close _ | .task _ | .timer | .configure _
  | .maxPlayers _ | .ban _ | .shineClear | .startGameMode | .sendFromServer _ _
  | .broadcastFromServer _ | .broadcastForClient _ _ => .isTrue trivial

end decidable

-----------------------------------------------------------------------------------------
-- Shine packets
-----------------------------------------------------------------------------------------

theorem isShineFrame_of_read {data : Bytes} {header : PacketHeader}
    (read : PacketHeader.deserialize data = some header)
    : IsShineFrame data ↔ header.type = .shine := by
  simp [IsShineFrame, read]

theorem not_isShineFrame_typed {data : Bytes} {id : Guid} {packet : Packet}
    (read : PacketHeader.deserialize data = some (typedHeader id packet))
    (other : packet.kind ≠ .shine)
    : ¬IsShineFrame data := by
  rw [isShineFrame_of_read read]
  exact fun same => other (@PacketKind.type_injective _ .shine same)

section steps

variable {runtime : Runtime} {state next : ServerState} {event : Event}

/-- A Shine packet is one that is passed on, a moon of moon sync, or the console's. -/
theorem Justified.shine_from {message : Sent}
    (justified : Justified runtime state event message) (shine : IsShineFrame message.data)
    : message.cause = .server
      ∨ (∃ sender now,
          event = .dispatch sender now
          ∧ state.HoldsShineFrame sender
          ∧ message.socket ∈ state.reached sender)
      ∨ ∃ index sent rest,
          event = .task index
          ∧ state.tasks[index]? = some (.sendShines message.socket (sent :: rest)) := by
  have typed {id : Guid} {packet : Packet}
      (data : message.data = runtime.typedFrame id packet)
      : packet.kind = .shine := by
    by_contra other
    refine @not_isShineFrame_typed _ id packet ?_ other shine
    rw [data, Runtime.deserialize_typedFrame]
  cases justified with
  | server _ _ cause => exact .inl cause
  | relay sender now memory header _ happens dispatching read relayed _ recipient isOpen =>
      refine .inr (.inl ⟨sender, now, happens, ?_, ?_⟩)
      · obtain ⟨counted, again, type⟩ := shine
        obtain rfl := header_relayedFrame read relayed again
        rw [ServerState.HoldsShineFrame, dispatching]
        exact (isShineFrame_of_read read).mpr type
      · exact List.mem_filter.mpr ⟨recipient, isOpen⟩
  | shineSync index sent rest _ happens pending =>
      exact .inr (.inr ⟨index, sent, rest, happens, pending⟩)
  | greeting packet _ kind data =>
      rw [typed data] at kind
      cases kind
  | replay other packet body _ _ kind data =>
      refine absurd shine (@not_isShineFrame_typed _ (state.session other).id packet ?_ ?_)
      · rw [data, PacketHeader.deserialize_octets]
      · rcases kind with kind | kind <;> simp [kind]
  | lastGame other packet _ data => cases typed data
  | handler sender now memory _ _ _ copy =>
      cases copy with
      | own packet kind data =>
          rw [typed data] at kind
          rcases kind with kind | kind | kind <;> cases kind
      | win packet _ data => cases typed data
  | farewell sender index _ _ _ _ data => cases typed data

/-- A loop of moon sync goes on, or starts with the moons that are missing from a bag. -/
theorem MoonStep.loads {store : MoonStore} (moons : MoonStep state event store)
    {task : PendingTask} (pending : task ∈ store.tasks) {socket : SocketId}
    (loads : task.loader? = some socket)
    : (∃ shines, state.missingShines socket = some shines)
      ∨ ∃ earlier ∈ state.tasks,
          earlier.loader? = some socket ∧ task.owed <:+ earlier.owed := by
  have kept {tasks : List PendingTask} (before : ∀ other ∈ tasks, other ∈ state.tasks)
      (member : task ∈ tasks)
      : ∃ earlier ∈ state.tasks, earlier.loader? = some socket ∧ task.owed <:+ earlier.owed :=
    ⟨task, before task member, loads, List.suffix_rfl⟩
  have erased {index : Nat} : ∀ other ∈ state.tasks.eraseIdx index, other ∈ state.tasks :=
    fun _ => List.mem_of_mem_eraseIdx
  have added {tasks new : List PendingTask} (before : ∀ other ∈ tasks, other ∈ state.tasks)
      (member : task ∈ tasks ++ new)
      : (∃ earlier ∈ state.tasks, earlier.loader? = some socket ∧ task.owed <:+ earlier.owed)
        ∨ task ∈ new :=
    (List.mem_append.mp member).imp_left (kept before)
  -- tasks that have read no bag
  have idle {tasks new : List PendingTask} (before : ∀ other ∈ tasks, other ∈ state.tasks)
      (member : task ∈ tasks ++ new) (unloaded : ∀ other ∈ new, other.loader? = none)
      : ∃ earlier ∈ state.tasks, earlier.loader? = some socket ∧ task.owed <:+ earlier.owed := by
    rcases added before member with old | new
    · exact old
    · rw [unloaded task new] at loads
      cases loads
  cases moons with
  | leave => exact .inr (idle (fun _ => id) pending (by simp [PendingTask.loader?]))
  | cascade _ _ wasSpeedrun =>
      exact .inr (idle (fun _ => id) pending
        (by cases wasSpeedrun <;> simp [PendingTask.loader?]))
  | dress => exact .inr (idle (fun _ => id) pending (by simp [PendingTask.loader?]))
  | collect => exact .inr (idle (fun _ => id) pending (by simp [PendingTask.loader?]))
  | timer => exact .inr (idle (fun _ => id) pending (by simp [PendingTask.loader?]))
  | fanOut => exact .inr (idle erased pending (by simp [PendingTask.loader?]))
  | begin client shines found missing =>
      rcases added erased pending with old | new
      · exact .inr old
      · rw [List.mem_singleton.mp new] at loads
        obtain rfl := Option.some.inj loads
        exact .inl ⟨shines, missing⟩
  | send client sent rest found =>
      rcases added erased pending with old | new
      · exact .inr old
      · obtain rfl := List.mem_singleton.mp new
        exact .inr ⟨_, List.mem_of_getElem? found, loads, List.suffix_cons _ _⟩
  | record client sent rest found =>
      rcases added erased pending with old | new
      · exact .inr old
      · obtain rfl := List.mem_singleton.mp new
        exact .inr ⟨_, List.mem_of_getElem? found, loads, List.suffix_rfl⟩
  | farewell => exact .inr (kept erased pending)
  | decline => exact .inr (kept erased pending)
  | finish => exact .inr (kept erased pending)
  | stop => exact .inr (kept erased pending)
  | _ => exact .inr (kept (fun _ => id) pending)

/-- Only a welcome and the packet of Cascade take back the flag of a new save. -/
theorem MoonStep.stays {store : MoonStore} (moons : MoonStep state event store)
    {player : SocketId} (set : (state.moonStore.players player).speedrun = some true)
    (stays : StaysOnNewSave player state event)
    (unwelcomed
      : ∀ socket memory,
          (state.session socket).phase = .calling memory → player ≠ state.playerOf socket)
    : (store.players player).speedrun = some true := by
  have update {socket : SocketId} {moons : Moons}
      (own
        : player = state.playerOf socket
          → (state.moonsOf socket).speedrun = some true
          → moons.speedrun = some true)
      : (Function.update state.moonStore.players (state.playerOf socket) moons
          player).speedrun
        = some true := by
    rw [Function.update_apply]
    split_ifs with same
    · subst same
      exact own rfl set
    · exact set
  cases moons with
  | welcome memory calling => exact update fun own => absurd own (unwelcomed _ memory calling)
  | newSave => exact update fun _ _ => rfl
  | cascade memory packet _ dispatching decoded enters =>
      refine update fun own => absurd own.symm (stays ⟨packet, ?_, enters⟩)
      exact ServerState.heldGame_eq_some.mpr ⟨memory, dispatching, decoded⟩
  | play => exact update fun _ => id
  | dress => exact update fun _ => id
  | collect => exact update fun _ => id
  | record => exact update fun _ => id
  | clear =>
      dsimp only
      split_ifs <;> exact set
  | _ => exact set

/-- Nothing is missing from the bag of a player on a new save. -/
theorem missingShines_of_speedrun {socket : SocketId}
    (set : (state.moonsOf socket).speedrun = some true)
    : state.missingShines socket = none := by
  cases missing : state.missingShines socket with
  | none => rfl
  | some shines =>
      obtain ⟨_, plain, _⟩ := ServerState.missingShines_eq_some.mp missing
      cases set.symm.trans plain

end steps

-----------------------------------------------------------------------------------------
-- On a new save
-----------------------------------------------------------------------------------------

/-- The client of a socket is on a new save since some messages were sent: its flag is set,
nothing is on its way to it, and no Shine packet but the console's was sent to it.
-/
structure OnNewSave (socket : SocketId) (before : List Sent) (state : ServerState) : Prop where
  joined : (state.session socket).phase.fresh = false
  welcomed : ∀ memory, (state.session socket).phase ≠ .calling memory
  flagged : (state.moonsOf socket).speedrun = some true
  idle : state.owed (state.playerOf socket) = []
  withheld
    : ∃ later,
        state.sent = before ++ later
        ∧ ∀ message ∈ later,
            IsShineFrame message.data
            → message.cause = .server
              ∨ (state.session message.socket).phase.fresh = false
                ∧ state.playerOf message.socket ≠ state.playerOf socket

section stay

variable {runtime : Runtime} {state next : ServerState} {event : Event} {socket : SocketId}
  {before : List Sent}

theorem mem_owed {player : SocketId} {shine : Int32}
    : shine ∈ state.owed player
      ↔ ∃ task ∈ state.tasks,
          task.loader?.map state.playerOf = some player ∧ shine ∈ task.owed := by
  simp [ServerState.owed, loadsOf, and_assoc]

/-- No moon comes on its way to a player on a new save. -/
theorem OnNewSave.idle_step (tidy : Tidy state) (keyed : Keyed state)
    (stays : OnNewSave socket before state) (taken : state.step runtime event = some next)
    : next.owed (next.playerOf socket) = [] := by
  apply List.eq_nil_iff_forall_not_mem.mpr
  intro shine owed
  obtain ⟨task, pending, loads, shineOwed⟩ := mem_owed.mp owed
  obtain ⟨client, loader, own⟩ := Option.map_eq_some_iff.mp loads
  have joined := task_served tidy keyed taken pending (PendingTask.client?_of_loader? loader)
  rw [ServerState.playerOf_joined tidy taken joined,
    ServerState.playerOf_joined tidy taken stays.joined] at own
  rcases (ServerState.step_moons taken).loads pending loader with ⟨shines, missing⟩
    | ⟨earlier, was, served, suffix⟩
  · rw [missingShines_of_speedrun] at missing
    · cases missing
    · rw [ServerState.moonsOf, own]
      exact stays.flagged
  · have still : shine ∈ state.owed (state.playerOf socket) := by
      refine mem_owed.mpr ⟨earlier, was, ?_, suffix.subset shineOwed⟩
      rw [served, ← own]
      rfl
    rw [stays.idle] at still
    exact absurd still List.not_mem_nil

/-- While the client stays on its new save and Shine packets pass it by, it is sent none. -/
theorem OnNewSave.step (tidy : Tidy state) (keyed : Keyed state)
    (stays : OnNewSave socket before state)
    (kept : StaysOnNewSave (state.playerOf socket) state event)
    (passed : PassesBy (state.playerOf socket) state event)
    (taken : state.step runtime event = some next)
    : OnNewSave socket before next where
  joined := (ServerState.joined_kept tidy taken stays.joined).1
  welcomed memory calling := by
    rcases ServerState.calling_before tidy taken calling with ⟨_, was⟩ | ⟨_, fresh⟩
    · exact stays.welcomed memory was
    · rw [stays.joined] at fresh
      cases fresh
  flagged := by
    rw [ServerState.moonsOf, ServerState.playerOf_joined tidy taken stays.joined]
    refine (ServerState.step_moons taken).stays stays.flagged kept ?_
    intro client memory calling own
    obtain rfl := (keyed.calling client memory calling).2 socket own
    exact stays.welcomed memory calling
  idle := stays.idle_step tidy keyed taken
  withheld := by
    obtain ⟨later, sent, withheld⟩ := stays.withheld
    obtain ⟨writes, more, justified⟩ := ServerState.step_writes taken
    refine ⟨later ++ writes, by rw [more, sent, List.append_assoc], ?_⟩
    intro message member shine
    have known
        : message.cause = .server
          ∨ (state.session message.socket).phase.fresh = false
            ∧ state.playerOf message.socket ≠ state.playerOf socket := by
      rcases List.mem_append.mp member with old | new
      · exact withheld message old shine
      · rcases (justified message new).shine_from shine with server
          | ⟨sender, now, rfl, holds, reached⟩ | ⟨index, sent, rest, rfl, found⟩
        · exact .inl server
        · have recipient := (List.mem_filter.mp reached).1
          refine .inr ⟨tidy.joined_of_mem ?_, passed holds _ reached⟩
          exact (ServerState.mem_recipients.mp recipient).1
        · have pending := List.mem_of_getElem? found
          refine .inr ⟨keyed.served _ pending _ rfl, fun own => ?_⟩
          have owed : sent ∈ state.owed (state.playerOf socket) :=
            mem_owed.mpr ⟨_, pending, congrArg some own, List.mem_cons_self⟩
          rw [stays.idle] at owed
          exact absurd owed List.not_mem_nil
    refine known.imp_right fun foreign => ?_
    obtain ⟨joined, other⟩ := foreign
    refine ⟨(ServerState.joined_kept tidy taken joined).1, ?_⟩
    rw [ServerState.playerOf_joined tidy taken joined,
      ServerState.playerOf_joined tidy taken stays.joined]
    exact other

end stay

/-- The player of a socket was sent no Shine packet but the console's since the messages that
had been sent before.
-/
def Withheld (socket : SocketId) (before : List Sent) (state : ServerState) : Prop :=
  ∀ message ∈ state.sent.drop before.length,
    IsShineFrame message.data
    → state.playerOf message.socket = state.playerOf socket
    → message.cause = .server

instance (socket : SocketId) (before : List Sent) (state : ServerState)
    : Decidable (Withheld socket before state) :=
  inferInstanceAs (Decidable (∀ message ∈ state.sent.drop before.length, _ → _ → _))

/-- Behind the stage of a new save the player is on it, and was sent nothing yet. -/
theorem OnNewSave.opened {runtime : Runtime} {before start : ServerState} {socket : SocketId}
    {now : Nat} (tidy : Tidy before) (enters : before.EntersCap socket)
    (idle : before.owed (before.playerOf socket) = [])
    (opened : before.step runtime (.dispatch socket now) = some start)
    : OnNewSave socket start.sent start := by
  obtain ⟨packet, held, stage⟩ := enters
  obtain ⟨memory, dispatching, decoded⟩ := ServerState.heldGame_eq_some.mp held
  have joined : (before.session socket).phase.fresh = false := by
    rw [dispatching]
    rfl
  have player := ServerState.playerOf_joined tidy opened joined
  have store := (ServerState.dispatch_moonStore dispatching decoded opened).trans
    (ServerState.handleGame_newSave stage)
  have same : start.playerOf = before.playerOf := by
    funext client
    rcases ServerState.step_player tidy opened client with same | ⟨_, joins, _⟩
    · exact same
    · cases joins
  refine {
    joined := (ServerState.joined_kept tidy opened joined).1
    welcomed := ?_
    flagged := ?_
    idle := ?_
    withheld := ⟨[], by simp, fun _ member => absurd member List.not_mem_nil⟩
  }
  · intro memory calling
    rcases ServerState.calling_before tidy opened calling with ⟨other, _⟩ | ⟨joins, _⟩
    · exact other rfl
    · cases joins
  · rw [ServerState.moonsOf, player, store]
    simp
  · have tasks : start.tasks = before.tasks := congrArg MoonStore.tasks store
    rw [ServerState.owed, tasks, same]
    exact idle

/-- From the game packet that enters Cap on, a client to whom moon sync was sending nothing is
sent no moon, until its player enters Cascade and as long as Shine packets pass it by.
-/
theorem withheld_of_run {runtime : Runtime} {settings : Settings} {shines : List Int32}
    {earlier later : List Event} {before start state : ServerState} {socket : SocketId}
    {now : Nat}
    (run : AnyRun (ServerState.step runtime) (.initial settings shines) earlier before)
    (enters : before.EntersCap socket) (idle : before.owed (before.playerOf socket) = [])
    (opened : before.step runtime (.dispatch socket now) = some start)
    (continues
      : Run (ServerState.step runtime)
          (fun current event =>
            StaysOnNewSave (start.playerOf socket) current event
            ∧ PassesBy (start.playerOf socket) current event)
          start later state)
    : Withheld socket start.sent state := by
  have opens := OnNewSave.opened (Tidy.of_run run) enters idle opened
  have known {events : List Event} {current : ServerState}
      (before : Run (ServerState.step runtime)
        (fun current event =>
          StaysOnNewSave (start.playerOf socket) current event
          ∧ PassesBy (start.playerOf socket) current event)
        start events current)
      : Tidy current ∧ Keyed current := by
    have whole := (run.snoc trivial opened).trans (before.mono fun _ => trivial)
    exact ⟨Tidy.of_run whole, Keyed.of_run whole⟩
  have stays
      : OnNewSave socket start.sent state ∧ state.playerOf socket = start.playerOf socket := by
    refine @Run.invariant_using _ _ _ _ _ _
      (fun current =>
        OnNewSave socket start.sent current ∧ current.playerOf socket = start.playerOf socket)
      known ⟨opens, rfl⟩ ?_ _ _ continues
    rintro current event next ⟨tidy, keyed⟩ ⟨stays, own⟩ ⟨kept, passed⟩ taken
    refine ⟨stays.step tidy keyed (own.symm ▸ kept) (own.symm ▸ passed) taken, ?_⟩
    exact (ServerState.playerOf_joined tidy taken stays.joined).trans own
  obtain ⟨messages, sent, withheld⟩ := stays.1.withheld
  intro message member shine own
  rw [sent, List.drop_left] at member
  rcases withheld message member shine with server | ⟨_, other⟩
  · exact server
  · exact absurd own other

/-- Luigi enters Cap and loses his connection before Mario collects moon 6. He is back when the
moon is synced, and is not sent it.
-/
theorem returned_luigi_is_spared
    : ∃ before start state,
        AnyRun (ServerState.step .pooled) (.initial {} [])
          (duet ++ (exchange 2 ⟨8⟩ newSavePacket).take 1) before
        ∧ before.step .pooled (.dispatch 2 0) = some start
        ∧ Run (ServerState.step .pooled)
            (fun current event =>
              StaysOnNewSave (start.playerOf 2) current event
              ∧ PassesBy (start.playerOf 2) current event)
            start
            (exchange 1 ⟨7⟩ costumePacket
              ++ [.close 2]
              ++ exchange 1 ⟨7⟩ (.shine { shineId := 6 })
              ++ arrival .pooled 3 ⟨8⟩ .reconnecting "Luigi".toList [1]
              ++ [.task 1, .task 1])
            state
        ∧ state.shineBag = [6]
        ∧ (state.playerOf 3 = state.playerOf 2 ∧ (state.session 3).socketConnected = true)
        ∧ Withheld 2 start.sent state := by
  have executes
      : (execute (ServerState.step .pooled) (.initial {} [])
          (duet ++ (exchange 2 ⟨8⟩ newSavePacket).take 1)).any
          (fun before =>
            before.EntersCap 2
            && decide (before.owed (before.playerOf 2) = [])
            && (before.step .pooled (.dispatch 2 0)).any
              fun start =>
                (executeChecked (ServerState.step .pooled)
                  (fun current event =>
                    StaysOnNewSave (start.playerOf 2) current event
                    ∧ PassesBy (start.playerOf 2) current event)
                  start
                  (exchange 1 ⟨7⟩ costumePacket
                    ++ [.close 2]
                    ++ exchange 1 ⟨7⟩ (.shine { shineId := 6 })
                    ++ arrival .pooled 3 ⟨8⟩ .reconnecting "Luigi".toList [1]
                    ++ [.task 1, .task 1])).any
                  fun state =>
                    (state.shineBag = [6]
                    ∧ state.playerOf 3 = state.playerOf 2
                    ∧ (state.session 3).socketConnected = true : Bool))
        = true := by decide +kernel
  obtain ⟨before, executed, found⟩ := (Option.any_eq_true _ _).mp executes
  simp only [Bool.and_eq_true, decide_eq_true_eq] at found
  obtain ⟨⟨enters, idle⟩, opens⟩ := found
  obtain ⟨start, opened, continues⟩ := (Option.any_eq_true _ _).mp opens
  obtain ⟨state, continued, holds⟩ := (Option.any_eq_true _ _).mp continues
  obtain ⟨bag, returned⟩ := of_decide_eq_true holds
  have run := execute_run executed
  have later := executeChecked_run (fun _ _ => of_decide_eq_true) continued
  exact ⟨before, start, state, run, opened, later, bag, returned,
    withheld_of_run run enters idle opened later⟩

/-- Luigi enters Cap, and the moon that Mario collects is passed on to him. -/
theorem luigi_gets_moon_on_new_save
    : ∃ before start state,
        AnyRun (ServerState.step .pooled) (.initial {} [])
          (duet ++ (exchange 2 ⟨8⟩ newSavePacket).take 1) before
        ∧ before.EntersCap 2
        ∧ before.step .pooled (.dispatch 2 0) = some start
        ∧ Run (ServerState.step .pooled) (StaysOnNewSave (start.playerOf 2)) start
            (exchange 1 ⟨7⟩ costumePacket ++ exchange 1 ⟨7⟩ (.shine { shineId := 5 })) state
        ∧ state.settings.shines.enabled = true
        ∧ ¬Withheld 2 start.sent state := by
  have executes
      : (execute (ServerState.step .pooled) (.initial {} [])
          (duet ++ (exchange 2 ⟨8⟩ newSavePacket).take 1)).any
          (fun before =>
            before.EntersCap 2
            && (before.step .pooled (.dispatch 2 0)).any
              fun start =>
                (executeChecked (ServerState.step .pooled)
                  (fun current event => StaysOnNewSave (start.playerOf 2) current event)
                  start
                  (exchange 1 ⟨7⟩ costumePacket
                    ++ exchange 1 ⟨7⟩ (.shine { shineId := 5 }))).any
                  fun state =>
                    (state.settings.shines.enabled = true
                    ∧ ¬Withheld 2 start.sent state : Bool))
        = true := by decide +kernel
  obtain ⟨before, executed, found⟩ := (Option.any_eq_true _ _).mp executes
  simp only [Bool.and_eq_true, decide_eq_true_eq] at found
  obtain ⟨enters, opens⟩ := found
  obtain ⟨start, opened, continues⟩ := (Option.any_eq_true _ _).mp opens
  obtain ⟨state, continued, holds⟩ := (Option.any_eq_true _ _).mp continues
  have later := executeChecked_run (fun _ _ => of_decide_eq_true) continued
  exact ⟨before, start, state, execute_run executed, enters, opened, later,
    of_decide_eq_true holds⟩

end SmoOnline
