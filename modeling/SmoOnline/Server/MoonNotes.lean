import SmoOnline.Library.Ledger
import SmoOnline.Server.MoonKeys
import SmoOnline.Server.News
import SmoOnline.Server.Relay
import SmoOnline.Server.Sends

/-! The ledger of moons: which moons each player was sent and reported, and when its bag was
cleared. The server keeps no such record; the statements on moon sync are about it.
-/

namespace SmoOnline

open Span Utf8 Runs Ledger

/-- The moon in a frame that decodes to a moon. -/
def shineIn (data : Bytes) : Option Int32 :=
  match decodeFrame data with
  | some (.shine packet) => some packet.shineId
  | _ => none

/-- How a player came by a moon: a frame passed on, moon sync, or a moon of its own, which the
handler has kept in the player's bag or has not.
-/
inductive MoonKind
  | relayed
  | synced
  | reported (kept : Bool)
  deriving DecidableEq, Repr

/-- The server sends the moon to the player. -/
def MoonKind.Delivers : MoonKind → Prop
  | .relayed | .synced => True
  | .reported _ => False

abbrev MoonEntry := Entry MoonKind SocketId Int32

namespace ServerState

/-- The moon in the frame that a handler is about to handle. -/
def heldShine (state : ServerState) (socket : SocketId) : Option Int32 :=
  match (state.session socket).phase with
  | .dispatching memory => shineIn memory
  | _ => none

/-- The game packet that a handler is about to handle. -/
def heldGame (state : ServerState) (socket : SocketId) : Option GamePacket :=
  match (state.session socket).phase with
  | .dispatching memory =>
      match decodeFrame memory with
      | some (.game packet) => some packet
      | _ => none
  | _ => none

/-- A handler is about to handle the game packet of a new save, with a bag to clear. -/
def startsSave (state : ServerState) (socket : SocketId) : Bool :=
  match (state.session socket).phase with
  | .dispatching memory =>
      match decodeFrame memory with
      | some (.game packet) =>
          packet.stage = "CapWorldHomeStage".toList
            && packet.scenarioNum = 0
            && (state.moonsOf socket).shineSync.isSome
      | _ => false
  | _ => false

/-- What a write gives to a player, as far as moon sync and frames passed on go. -/
def delivery (state : ServerState) (message : Sent) : Option MoonEntry :=
  match message.cause with
  | .relay _ => (shineIn message.data).map (.put .relayed (state.playerOf message.socket))
  | .shineSync => (shineIn message.data).map (.put .synced (state.playerOf message.socket))
  | _ => none

/-- The moon in the frame that a handler is about to pass on. -/
def passedShine (state : ServerState) (socket : SocketId) : Option Int32 :=
  match (state.session socket).phase with
  | .dispatching memory => do
      let header ← PacketHeader.deserialize memory
      let frame ← relayedFrame memory header
      shineIn frame
  | _ => none

/-- The clears and reports of an event. -/
def heard (state : ServerState) : Event → List MoonEntry
  | .dispatch socket _ =>
      (if state.startsSave socket then [.clear (state.playerOf socket)] else [])
        ++ (state.heldShine socket).toList.map
          (.put (.reported (state.keepsShine socket)) (state.playerOf socket))
  | .shineClear => state.bagged.map fun client => .clear (state.playerOf client)
  | _ => []

end ServerState

/-- The entries that a step adds to the ledger. -/
def moonNotes (state : ServerState) (event : Event) (next : ServerState) : List MoonEntry :=
  state.heard event ++ (next.sent.drop state.sent.length).filterMap state.delivery

/-- The server with the ledger of its moons. -/
abbrev ledgerStep (runtime : Runtime)
    : ServerState × List MoonEntry → Event → Option (ServerState × List MoonEntry) :=
  recording (ServerState.step runtime) moonNotes

-----------------------------------------------------------------------------------------
-- Moons in frames
-----------------------------------------------------------------------------------------

theorem shineIn_eq_some {data : Bytes} {shine : Int32}
    : shineIn data = some shine ↔ decodeFrame data = some (.shine { shineId := shine }) := by
  unfold shineIn
  constructor
  · intro found
    split at found
    · next packet decoded =>
        obtain rfl := Option.some.inj found
        exact decoded
    · cases found
  · intro decoded
    rw [decoded]

/-- A moon that arrives in a frame passed on is the one that was handled. -/
theorem shineIn_relayedFrame {memory frame : Bytes} {header : PacketHeader} {shine : Int32}
    (read : PacketHeader.deserialize memory = some header)
    (relayed : relayedFrame memory header = some frame) (found : shineIn frame = some shine)
    : shineIn memory = some shine := by
  rw [shineIn_eq_some] at found ⊢
  simp only [decodeFrame, Option.bind_eq_bind, Option.bind_eq_some_iff] at found ⊢
  obtain ⟨counted, again, kind, type, payload, body, back⟩ := found
  obtain rfl := header_relayedFrame read relayed again
  refine ⟨counted, read, kind, type, payload, ?_, back⟩
  unfold relayedFrame at relayed
  dsimp only at relayed
  split_ifs at relayed with inside
  obtain rfl := Option.some.inj relayed
  unfold slice? at body ⊢
  rw [List.length_take] at body
  split_ifs at body with room
  obtain rfl := Option.some.inj body
  rw [if_pos ⟨room.1, by omega⟩]
  simp only [slice, List.drop_take, List.take_take]
  congr 2
  omega

/-- A typed moon arrives as it is. -/
theorem shineIn_typedFrame (runtime : Runtime) (id : Guid) (shine : Int32)
    : shineIn (runtime.typedFrame id (.shine { shineId := shine })) = some shine := by
  obtain ⟨body, faithful⟩ :=
    (runtime.encodesFaithfully_iff id (.shine { shineId := shine })).mpr trivial
  rw [shineIn_eq_some, faithful.data, decodeFrame_typed faithful.length]
  exact faithful.decodes

-----------------------------------------------------------------------------------------
-- What each step notes
-----------------------------------------------------------------------------------------

namespace ServerState

variable {runtime : Runtime} {state next : ServerState}

theorem shineIn_of_passedShine {socket : SocketId} {memory : Bytes} {shine : Int32}
    (dispatching : (state.session socket).phase = .dispatching memory)
    (passed : state.passedShine socket = some shine)
    : shineIn memory = some shine := by
  simp only [passedShine, dispatching, Option.bind_eq_bind, Option.bind_eq_some_iff] at passed
  obtain ⟨header, read, frame, relayed, found⟩ := passed
  exact shineIn_relayedFrame read relayed found

/-- The recipients that a frame passed on reaches. -/
def reached (state : ServerState) (sender : SocketId) : List SocketId :=
  (state.recipients sender).filter fun client => (state.session client).socketConnected

theorem flatMap_write (sockets : List SocketId) (data : Bytes) (cause : Cause)
    : (sockets.flatMap fun socket => state.write socket data cause)
      = (sockets.filter fun socket => (state.session socket).socketConnected).map
          fun socket => { socket, data, cause } := by
  induction sockets with
  | nil => rfl
  | cons socket rest ih =>
      rw [List.flatMap_cons, ih, write]
      cases isOpen : (state.session socket).socketConnected <;> simp [isOpen]

/-- The entries that frames passed on add: none, or the moon for everybody who is reached. -/
theorem relays_noted {memory : Bytes} {sender : SocketId}
    (dispatching : (state.session sender).phase = .dispatching memory)
    : (state.broadcastMemory memory sender (.relay sender)).filterMap state.delivery = []
      ∨ ∃ shine,
          state.passedShine sender = some shine
          ∧ (state.broadcastMemory memory sender (.relay sender)).filterMap state.delivery
            = (state.reached sender).map fun client =>
                .put .relayed (state.playerOf client) shine := by
  cases read : PacketHeader.deserialize memory with
  | none =>
      left
      simp [broadcastMemory, sendMemory, read]
  | some header =>
      cases relayed : relayedFrame memory header with
      | none =>
          left
          simp [broadcastMemory, sendMemory, read, relayed]
      | some frame =>
          rw [broadcastMemory_eq read relayed, flatMap_write, List.filterMap_map]
          cases found : shineIn frame with
          | none =>
              left
              apply List.filterMap_eq_nil_iff.mpr
              intro client _
              simp [delivery, found]
          | some shine =>
              refine .inr ⟨shine, by simp [passedShine, dispatching, read, relayed, found], ?_⟩
              rw [← List.filterMap_eq_map]
              apply List.filterMap_congr
              intro client _
              simp [delivery, found]

theorem notes_dispatch {socket : SocketId} {now : Nat} {memory : Bytes}
    (dispatching : (state.session socket).phase = .dispatching memory)
    (taken : state.step runtime (.dispatch socket now) = some next)
    : ∃ relays,
        moonNotes state (.dispatch socket now) next
          = state.heard (.dispatch socket now) ++ relays
        ∧ (relays = []
          ∨ ∃ shine,
              state.passedShine socket = some shine
              ∧ state.settings.shines.enabled = true
              ∧ relays
                = (state.reached socket).map fun client =>
                    .put .relayed (state.playerOf client) shine) := by
  obtain ⟨held, again, rfl⟩ := dispatch_cases taken
  obtain rfl := Phase.dispatching.inj (dispatching.symm.trans again)
  obtain ⟨copies, made, _, sent⟩ := state.dispatchFrame_sent runtime now socket memory
  have unheard : copies.filterMap state.delivery = [] := by
    apply List.filterMap_eq_nil_iff.mpr
    intro message member
    simp [delivery, (made message member).1]
  refine ⟨_, rfl, ?_⟩
  have written
      : ((state.dispatchFrame runtime now socket memory).setPhase socket (.reading false)).sent
        = state.sent ++ copies
          ++ (if (state.handleFrame runtime now socket memory).2 = .handled then []
              else state.broadcastMemory memory socket (.relay socket)) := sent
  rw [written, List.append_assoc, List.drop_left, List.filterMap_append, unheard, List.nil_append]
  split_ifs with handled
  · exact .inl rfl
  · rcases relays_noted dispatching with none | ⟨shine, passed, relays⟩
    · exact .inl none
    · refine .inr ⟨shine, passed, ?_, relays⟩
      by_contra disabled
      have found := shineIn_eq_some.mp (shineIn_of_passedShine dispatching passed)
      exact handled (by simp [handleFrame, found, packetHandler, handleShine, disabled])

theorem heldGame_eq_some {socket : SocketId} {packet : GamePacket}
    : state.heldGame socket = some packet
      ↔ ∃ memory,
          (state.session socket).phase = .dispatching memory
          ∧ decodeFrame memory = some (.game packet) := by
  unfold heldGame
  constructor
  · intro held
    split at held
    · next memory dispatching =>
        split at held
        · next game decoded =>
            obtain rfl := Option.some.inj held
            exact ⟨memory, dispatching, decoded⟩
        · cases held
    · cases held
  · rintro ⟨memory, dispatching, decoded⟩
    simp [dispatching, decoded]

theorem startsSave_of_game {socket : SocketId} {memory : Bytes} {packet : GamePacket}
    (dispatching : (state.session socket).phase = .dispatching memory)
    (decoded : decodeFrame memory = some (.game packet))
    : state.startsSave socket = true
      ↔ (packet.stage = "CapWorldHomeStage".toList ∧ packet.scenarioNum = 0)
        ∧ (state.moonsOf socket).shineSync.isSome = true := by
  simp only [startsSave, dispatching, decoded, Bool.and_eq_true, decide_eq_true_eq]

theorem startsSave_cases {socket : SocketId} (starts : state.startsSave socket = true)
    : ∃ memory packet,
        (state.session socket).phase = .dispatching memory
        ∧ decodeFrame memory = some (.game packet)
        ∧ (packet.stage = "CapWorldHomeStage".toList ∧ packet.scenarioNum = 0)
        ∧ (state.moonsOf socket).shineSync.isSome = true := by
  unfold startsSave at starts
  split at starts
  · next memory dispatching =>
      split at starts
      · next packet decoded =>
          simp only [Bool.and_eq_true, decide_eq_true_eq] at starts
          exact ⟨memory, packet, dispatching, decoded, starts.1, starts.2⟩
      · cases starts
  · cases starts

/-- Frames of other packets start no save. -/
theorem startsSave_of_other {socket : SocketId} {memory : Bytes}
    (dispatching : (state.session socket).phase = .dispatching memory)
    (other : ∀ packet, decodeFrame memory ≠ some (.game packet))
    : state.startsSave socket = false := by
  simp only [startsSave, dispatching]

theorem shineIn_eq_none {memory : Bytes}
    (other : ∀ packet, decodeFrame memory ≠ some (.shine packet))
    : shineIn memory = none := by
  cases found : shineIn memory with
  | none => rfl
  | some shine => exact absurd (shineIn_eq_some.mp found) (other _)

/-- A frame of a moon notes the report and whom it is passed on to. -/
theorem notes_of_shine {socket : SocketId} {now : Nat} {memory : Bytes} {shine : Int32}
    (dispatching : (state.session socket).phase = .dispatching memory)
    (found : shineIn memory = some shine)
    (taken : state.step runtime (.dispatch socket now) = some next)
    : ∃ relays,
        moonNotes state (.dispatch socket now) next
          = .put (.reported (state.keepsShine socket)) (state.playerOf socket) shine :: relays
        ∧ (relays = []
          ∨ state.passedShine socket = some shine
            ∧ state.settings.shines.enabled = true
            ∧ relays
              = (state.reached socket).map fun client =>
                  .put .relayed (state.playerOf client) shine) := by
  obtain ⟨relays, notes, passedOn⟩ := notes_dispatch dispatching taken
  have heard
      : state.heard (.dispatch socket now)
        = [.put (.reported (state.keepsShine socket)) (state.playerOf socket) shine] := by
    simp [ServerState.heard, startsSave, heldShine, dispatching, found, shineIn_eq_some.mp found]
  rw [heard] at notes
  refine ⟨relays, notes, passedOn.imp_right ?_⟩
  rintro ⟨other, passed, enabled, relayed⟩
  have same := shineIn_of_passedShine dispatching passed
  obtain rfl := Option.some.inj (found.symm.trans same)
  exact ⟨passed, enabled, relayed⟩

/-- Any other frame notes at most that a bag is cleared. -/
theorem notes_of_other {socket : SocketId} {now : Nat} {memory : Bytes}
    (dispatching : (state.session socket).phase = .dispatching memory)
    (other : shineIn memory = none)
    (taken : state.step runtime (.dispatch socket now) = some next)
    : moonNotes state (.dispatch socket now) next
      = if state.startsSave socket then [.clear (state.playerOf socket)] else [] := by
  obtain ⟨relays, notes, passedOn⟩ := notes_dispatch dispatching taken
  have none : relays = [] := by
    rcases passedOn with none | ⟨shine, passed, _⟩
    · exact none
    · rw [shineIn_of_passedShine dispatching passed] at other
      cases other
  rw [notes, none]
  simp [ServerState.heard, heldShine, dispatching, other]

/-- A task notes the moon it sends, and nothing else. -/
theorem notes_task {index : Nat} (taken : state.step runtime (.task index) = some next)
    : (∃ socket shine rest,
          state.tasks[index]? = some (.sendShines socket (shine :: rest))
          ∧ (state.session socket).connected = true
          ∧ (state.session socket).socketConnected = true
          ∧ moonNotes state (.task index) next
            = [.put .synced (state.playerOf socket) shine])
      ∨ moonNotes state (.task index) next = []
        ∧ ∀ socket shine rest,
            state.tasks[index]? = some (.sendShines socket (shine :: rest))
            → ¬((state.session socket).connected = true
                ∧ (state.session socket).socketConnected = true) := by
  obtain ⟨pending, found, rfl⟩ := task_cases taken
  have silent {after : ServerState} {writes : List Sent} (sent : after.sent = state.sent ++ writes)
      (unheard : ∀ message ∈ writes, state.delivery message = none)
      : moonNotes state (.task index) after = [] := by
    rw [moonNotes, sent, List.drop_left, List.filterMap_eq_nil_iff.mpr unheard]
    rfl
  have unwritten {after : ServerState} (sent : after.sent = state.sent)
      : moonNotes state (.task index) after = [] :=
    silent (sent.trans (List.append_nil _).symm) fun _ member => absurd member List.not_mem_nil
  cases pending with
  | farewell socket =>
      refine .inr ⟨silent rfl fun message member => ?_, fun _ _ _ same => ?_⟩
      · simp [delivery, (mem_broadcastPacket member).2.1]
      · rw [found] at same
        cases same
  | syncShineBag =>
      refine .inr ⟨unwritten rfl, fun _ _ _ same => ?_⟩
      rw [found] at same
      cases same
  | clientSyncShineBag socket =>
      refine .inr ⟨unwritten ?_, fun _ _ _ same => ?_⟩
      · simp only [runTask]
        generalize missingShines _ socket = missing
        cases missing <;> rfl
      · rw [found] at same
        cases same
  | recordShine socket shine rest =>
      refine .inr ⟨unwritten rfl, fun _ _ _ same => ?_⟩
      rw [found] at same
      cases same
  | sendShines socket shines =>
      cases shines with
      | nil =>
          refine .inr ⟨unwritten rfl, fun _ _ _ same => ?_⟩
          rw [found] at same
          cases same
      | cons shine rest =>
          simp only [runTask, sendShine]
          split_ifs with there
          · obtain ⟨connected, isOpen⟩ := Bool.and_eq_true_iff.mp there
            refine .inl ⟨socket, shine, rest, found, connected, isOpen, ?_⟩
            simp [moonNotes, heard, emit, addTask, sendPacket, write, isOpen, delivery,
              shineIn_typedFrame]
          · refine .inr ⟨unwritten rfl, fun _ _ _ same => ?_⟩
            rw [found] at same
            obtain ⟨rfl, _⟩ := PendingTask.sendShines.inj (Option.some.inj same)
            exact fun both => there (Bool.and_eq_true_iff.mpr both)

/-- Events of other kinds write no moons. -/
theorem notes_aside {event : Event} (taken : state.step runtime event = some next)
    (packets : ∀ socket now, event ≠ .dispatch socket now) (tasks : ∀ index, event ≠ .task index)
    : moonNotes state event next = state.heard event := by
  obtain ⟨writes, sent, justified⟩ := step_writes taken
  rw [moonNotes, sent, List.drop_left]
  have unheard : writes.filterMap state.delivery = [] := by
    apply List.filterMap_eq_nil_iff.mpr
    intro message member
    cases justified message member with
    | relay sender now _ _ _ happens => exact absurd happens (packets sender now)
    | handler sender now _ _ happens => exact absurd happens (packets sender now)
    | shineSync index _ _ _ happens => exact absurd happens (tasks index)
    | farewell _ index _ happens => exact absurd happens (tasks index)
    | greeting _ cause => simp [delivery, cause]
    | replay _ _ _ cause => simp [delivery, cause]
    | lastGame _ _ cause => simp [delivery, cause]
    | server _ _ cause => simp [delivery, cause]
  rw [unheard, List.append_nil]

/-- Accounts are cleared by a new save and by `shine clear`. -/
theorem clear_cases {event : Event} {player : SocketId}
    (cleared : .clear player ∈ moonNotes state event next)
    : (∃ socket now,
          event = .dispatch socket now
          ∧ state.startsSave socket = true
          ∧ player = state.playerOf socket)
      ∨ event = .shineClear ∧ ∃ client ∈ state.bagged, player = state.playerOf client := by
  rcases List.mem_append.mp cleared with heard | delivered
  · cases event with
    | dispatch socket now =>
        rcases List.mem_append.mp heard with save | report
        · split_ifs at save with starts
          · refine .inl ⟨socket, now, rfl, starts, ?_⟩
            exact Entry.clear.inj (List.mem_singleton.mp save)
          · exact absurd save List.not_mem_nil
        · simp at report
    | shineClear =>
        obtain ⟨client, bagged, same⟩ := List.mem_map.mp heard
        exact .inr ⟨rfl, client, bagged, (Entry.clear.inj same).symm⟩
    | _ => exact absurd heard List.not_mem_nil
  · obtain ⟨message, _, delivery⟩ := List.mem_filterMap.mp delivered
    unfold ServerState.delivery at delivery
    split at delivery <;> simp at delivery

/-- Whose account is cleared has no moon in its bag. -/
theorem bag_of_cleared {event : Event} {player : SocketId}
    (cleared : .clear player ∈ moonNotes state event next)
    (taken : state.step runtime event = some next)
    : (next.moonStore.players player).bag = [] := by
  rcases clear_cases cleared with ⟨socket, now, rfl, starts, rfl⟩ | ⟨rfl, client, bagged, rfl⟩
  · obtain ⟨memory, packet, dispatching, decoded, enters, _⟩ := startsSave_cases starts
    have store := (dispatch_moonStore dispatching decoded taken).trans
      (handleGame_newSave enters)
    rw [store]
    dsimp only
    rw [Function.update_self, Moons.bag_cleared]
  · have moons := step_moons taken
    generalize next.moonStore = store at moons
    cases moons with
    | rest leaves => rcases leaves with aside | ⟨_, _, _, same, _⟩ <;> contradiction
    | clear =>
        dsimp only
        rw [if_pos (List.mem_map_of_mem bagged)]
        rfl

end ServerState

end SmoOnline
