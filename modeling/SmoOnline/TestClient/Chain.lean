import SmoOnline.TestClient.Rebound

/-! The chain of test clients: what each of them is told of the one before it goes through the
server, which passes packets of some kinds on but never makes one of them.
-/

namespace SmoOnline

open Span Utf8 Runs Delimited

-----------------------------------------------------------------------------------------
-- Packets that the server only passes on
-----------------------------------------------------------------------------------------

/-- The server makes no packet of this kind. -/
def PacketKind.relayedOnly : PacketKind → Bool
  | .cap | .capture => true
  | _ => false

def isOf (id : Guid) (type : PacketType) (frame : Bytes) : Bool :=
  (PacketHeader.deserialize frame).any fun header => header.id = id && header.type = type

/-- What the frames of one kind under one Id carry. -/
def payloads (id : Guid) (type : PacketType) (frames : List Bytes) : List Bytes :=
  (frames.filter (isOf id type)).map (List.drop headerSize)

/-- What an event gives to a handler to dispatch. -/
def Event.dispatches (state : ServerState) : Event → List Bytes
  | .dispatch sender _ => (state.session sender).phase.dispatches.toList
  | _ => []

section

variable {runtime : Runtime} {state next : ServerState} {event : Event} {message : Sent}
variable {kind : PacketKind} {id : Guid} {socket : SocketId}

theorem isOf_typed {packet : Packet} {other : Guid} {body : Bytes} (apart : packet.kind ≠ kind)
    : isOf id kind.type ((typedHeader other packet).octets ++ body) = false := by
  have types : (typedHeader other packet).type ≠ kind.type :=
    fun same => apart (PacketKind.type_injective same)
  simp [isOf, types]

theorem isOf_typedFrame {packet : Packet} {other : Guid} (apart : packet.kind ≠ kind)
    : isOf id kind.type (runtime.typedFrame other packet) = false := by
  obtain ⟨body, frame, -⟩ := runtime.typedFrame_eq other packet
  rw [frame, isOf_typed apart]

theorem HandlerCopy.not_isOf {sender : SocketId} (copy : HandlerCopy runtime state sender message)
    (relayed : kind.relayedOnly = true)
    : isOf id kind.type message.data = false := by
  cases copy with
  | own packet made data =>
      rw [data]
      refine isOf_typedFrame fun same => ?_
      rcases made with made | made | made <;> rw [← same, made] at relayed <;> cases relayed
  | win packet _ data =>
      rw [data]
      refine isOf_typedFrame fun same => ?_
      rw [← same] at relayed
      cases relayed

/-- Where nothing is dispatched nothing of these kinds is written. -/
theorem Justified.not_isOf (justified : Justified runtime state event message)
    (relayed : kind.relayedOnly = true) (undispatched : ∀ sender now, event ≠ .dispatch sender now)
    : isOf id kind.type message.data = false := by
  have apart (packet : Packet) (other : packet.kind.relayedOnly = false) : packet.kind ≠ kind := by
    rintro rfl
    rw [relayed] at other
    cases other
  cases justified with
  | greeting packet _ made data =>
      rw [data]
      exact isOf_typedFrame (apart packet (by rw [made]; rfl))
  | replay _ packet _ _ _ made data =>
      rw [data]
      refine isOf_typed (apart packet ?_)
      rcases made with made | made <;> rw [made] <;> rfl
  | lastGame _ packet _ data =>
      rw [data]
      exact isOf_typedFrame (apart (.game packet) rfl)
  | relay _ _ _ _ _ happens => exact absurd happens (undispatched _ _)
  | handler _ _ _ _ happens => exact absurd happens (undispatched _ _)
  | farewell _ _ _ _ _ _ data =>
      rw [data]
      exact isOf_typedFrame (apart (.disconnect {}) rfl)
  | shineSync _ shine _ _ _ _ data =>
      rw [data]
      exact isOf_typedFrame (apart (.shine { shineId := shine }) rfl)
  | server _ packet _ originated data =>
      rw [data]
      refine isOf_typedFrame (apart packet ?_)
      cases made : packet.kind <;> rw [made] at originated <;> first | rfl | cases originated

/-- A step sends a client at most what it dispatches. -/
theorem step_relays (tidy : Tidy state) (seated : Seated state) (relayed : kind.relayedOnly = true)
    (stepped : state.step runtime event = some next) (socket : SocketId)
    : ∃ writes,
        next.sent = state.sent ++ writes
        ∧ (((writes.filter fun message => message.socket = socket).map Sent.data).filter
              (isOf id kind.type)).Sublist
            ((event.dispatches state).filter (isOf id kind.type)) := by
  by_cases dispatches : ∃ sender now, event = .dispatch sender now
  · obtain ⟨sender, now, rfl⟩ := dispatches
    obtain ⟨memory, dispatching, rfl⟩ := ServerState.dispatch_cases stepped
    obtain ⟨copies, made, -, sent⟩ := state.dispatchFrame_sent runtime now sender memory
    obtain ⟨header, framed, -⟩ := (seated.sound sender).dispatching memory dispatching
    have held : (Event.dispatch sender now).dispatches state
        = [memory.take ((headerSize : Int) + header.packetSize.toInt).toNat] := by
      simp [Event.dispatches, dispatching, Phase.dispatches, heldFrame, framed.read,
        framed.relayedFrame]
    have copies_apart
        : ((copies.filter fun message => message.socket = socket).map Sent.data).filter
            (isOf id kind.type)
          = [] := by
      rw [List.filter_eq_nil_iff]
      intro data member
      obtain ⟨message, copied, rfl⟩ := List.mem_map.mp member
      have apart : isOf id kind.type message.data = false :=
        (made message (List.mem_filter.mp copied).1).2.not_isOf relayed
      simp [apart]
    refine ⟨_, sent.trans (List.append_assoc _ _ _), ?_⟩
    rw [List.filter_append, List.map_append, List.filter_append, copies_apart, List.nil_append,
      held]
    refine List.Sublist.filter _ ?_
    split_ifs
    · exact List.nil_sublist _
    · rw [ServerState.broadcastMemory_eq framed.read framed.relayedFrame,
        filter_writes state (ServerState.recipients_nodup tidy sender)]
      split_ifs
      · exact .refl _
      · exact List.nil_sublist _
  · obtain ⟨writes, sent, justified⟩ := ServerState.step_writes stepped
    refine ⟨writes, sent, ?_⟩
    have none_of
        : ((writes.filter fun message => message.socket = socket).map Sent.data).filter
            (isOf id kind.type)
          = [] := by
      rw [List.filter_eq_nil_iff]
      intro data member
      obtain ⟨message, written, rfl⟩ := List.mem_map.mp member
      have apart : isOf id kind.type message.data = false :=
        (justified message (List.mem_filter.mp written).1).not_isOf relayed
          fun sender now happens => dispatches ⟨sender, now, happens⟩
      simp [apart]
    rw [none_of]
    exact List.nil_sublist _

end

-----------------------------------------------------------------------------------------
-- From one player to the next
-----------------------------------------------------------------------------------------

namespace TestSetup

variable {runtime : Runtime} {roles : SocketId → Option TestRole} {setup next : TestSetup}
variable {socket : SocketId} {role : TestRole} {kind : PacketKind} {id : Guid}
variable {settings : Settings} {shines : List Int32} {events : List TestEvent}

/-- All frames that were dispatched, for whatever socket. -/
def frames (setup : TestSetup) : List Bytes := setup.dispatched.map Prod.snd

theorem frames_carry {event : Event} (carries : setup.carry roles event = some next)
    : next.frames = setup.frames ++ event.dispatches setup.server := by
  cases event with
  | receive actor memory =>
      simp only [carry] at carries
      split_ifs at carries
      · obtain rfl := Option.some.inj carries
        exact (List.append_nil _).symm
      · split at carries
        · cases carries
        · split_ifs at carries
          obtain rfl := Option.some.inj carries
          exact (List.append_nil _).symm
  | dispatch actor now =>
      obtain rfl := Option.some.inj carries
      simp [frames, Event.dispatches, Function.comp_def]
  | _ =>
      obtain rfl := Option.some.inj carries
      exact (List.append_nil _).symm

/-- A client is sent of these kinds what the handlers have dispatched, in the order in which they
have, and nothing twice.
-/
theorem heard_dispatched (run : AnyRun (step runtime roles) (initial settings shines) events setup)
    (relayed : kind.relayedOnly = true) (socket : SocketId)
    : ((setup.heard socket).filter (isOf id kind.type)).Sublist
        (setup.frames.filter (isOf id kind.type)) := by
  induction run with
  | nil => exact .refl _
  | @snoc events setup event next before _ taken ih =>
      rcases step_cases taken with ⟨serverEvent, rfl⟩ | ⟨_, _, _, -, -⟩
      · obtain ⟨carried, carries, stepped, same⟩ := server_cases taken
        obtain ⟨serverEvents, serverRun⟩ := server_run before
        obtain ⟨writes, sent, passed⟩ :=
          step_relays (.of_run serverRun) (.of_run serverRun) relayed stepped socket
        have frames_eq : next.frames = setup.frames ++ serverEvent.dispatches setup.server := by
          rw [same]
          have carried_frames := frames_carry carries
          exact carried_frames
        rw [frames_eq, heard, sent, List.filter_append, List.map_append, List.filter_append,
          List.filter_append]
        exact ih.append passed
      · exact ih

/-- A rebounded frame carries what its original carries. -/
theorem payloads_copy (relayed : kind.relayedOnly = true) (frame : Bytes)
    : payloads role.ownId kind.type (role.copy frame).toList
      = payloads role.otherId kind.type [frame] := by
  have rebounds : kind.type ∈ reboundPackets := by
    cases kind <;> first | decide | cases relayed
  cases read : PacketHeader.deserialize frame with
  | none => simp [TestRole.copy, payloads, isOf, read]
  | some header =>
      rw [TestRole.copy_eq read]
      by_cases other : header.id = role.otherId
      · by_cases type : header.type = kind.type
        · simp [TestRole.follows, payloads, isOf, read, other, type, rebounds]
        · cases followed : role.follows header <;> simp [payloads, isOf, read, type]
      · simp [TestRole.follows, payloads, isOf, read, other]

theorem payloads_append (type : PacketType) (first later : List Bytes)
    : payloads id type (first ++ later) = payloads id type first ++ payloads id type later := by
  simp [payloads]

theorem payloads_copies (relayed : kind.relayedOnly = true) (frames : List Bytes)
    : payloads role.ownId kind.type (frames.filterMap role.copy)
      = payloads role.otherId kind.type frames := by
  rw [List.filterMap_eq_flatMap_toList]
  induction frames with
  | nil => rfl
  | cons frame rest ih =>
      rw [List.flatMap_cons, payloads_append, payloads_copy relayed, ih, ← payloads_append,
        List.singleton_append]

theorem payloads_sublist {first later : List Bytes} {type : PacketType}
    (kept : (first.filter (isOf id type)).Sublist (later.filter (isOf id type)))
    : (payloads id type first).Sublist (payloads id type later) :=
  kept.map _

theorem atOnce_of_isOf (relayed : kind.relayedOnly = true) {frame : Bytes}
    (is_of : isOf id kind.type frame = true)
    : atOnce frame = true := by
  have apart : kind.type ≠ .player := by
    cases kind <;> first | decide | cases relayed
  cases read : PacketHeader.deserialize frame with
  | none => simp [isOf, read] at is_of
  | some header =>
      obtain ⟨-, type⟩ : header.id = id ∧ header.type = kind.type := by
        simpa [isOf, read] using is_of
      simp [atOnce, read, type, apart]

/-- Of these kinds, a test client has written what it was to give back, in that order. -/
theorem payloads_written (linked : setup.Linked runtime role socket)
    (relayed : kind.relayedOnly = true)
    : (payloads role.ownId kind.type (setup.testClient socket).written).Sublist
        (payloads role.otherId kind.type (setup.heard socket)) := by
  obtain ⟨count, -, answers⟩ := linked.follows
  cases written : (setup.testClient socket).written with
  | nil => exact List.nil_sublist _
  | cons first rest =>
      have connects := answers.greets first (by rw [written]; rfl)
      have in_order := answers.inOrder
      rw [written, List.tail_cons] at in_order
      have at_once (frames : List Bytes)
          : (frames.filter atOnce).filter (isOf role.ownId kind.type)
            = frames.filter (isOf role.ownId kind.type) := by
        rw [List.filter_filter]
        refine List.filter_congr fun frame _ => ?_
        cases is_of : isOf role.ownId kind.type frame with
        | false => rfl
        | true => rw [atOnce_of_isOf relayed is_of, Bool.and_true]
      have rest_kept := in_order.filter (isOf role.ownId kind.type)
      rw [at_once, at_once] at rest_kept
      have no_connect : isOf role.ownId kind.type first = false := by
        rw [connects]
        refine isOf_typedFrame fun same => ?_
        rw [← same] at relayed
        cases relayed
      have copies := payloads_sublist rest_kept
      rw [payloads_copies relayed] at copies
      rw [payloads, List.filter_cons_of_neg (by simp [no_connect])]
      refine copies.trans (payloads_sublist ?_)
      exact (List.take_sublist _ _).filter _

def isUnder (id : Guid) (frame : Bytes) : Bool :=
  (PacketHeader.deserialize frame).any fun header => header.id = id

/-- Nobody else has spoken under the Id. -/
def SpeaksAlone (setup : TestSetup) (socket : SocketId) (id : Guid) : Prop :=
  ∀ entry ∈ setup.dispatched, isUnder id entry.2 = true → entry.1 = socket

theorem frames_of_speaksAlone (alone : setup.SpeaksAlone socket id) (type : PacketType)
    : setup.frames.filter (isOf id type) = (setup.dispatchedBy socket).filter (isOf id type) := by
  rw [frames, dispatchedBy, List.filter_map, List.filter_map, List.filter_filter]
  congr 1
  refine List.filter_congr fun entry member => ?_
  cases is_of : isOf id type entry.2 with
  | false => simp [is_of]
  | true =>
      have under : isUnder id entry.2 = true := by
        cases read : PacketHeader.deserialize entry.2 <;> simp_all [isOf, isUnder]
      simp [is_of, alone entry member under]

/-- What goes out under a test client's Id went out before under that of the player it follows. -/
theorem payloads_follow (run : AnyRun (step runtime roles) (initial settings shines) events setup)
    (whole : WritesWholeFrames setup.server) (known : roles socket = some role)
    (alone : setup.SpeaksAlone socket role.ownId) (relayed : kind.relayedOnly = true)
    : (payloads role.ownId kind.type setup.frames).Sublist
        (payloads role.otherId kind.type setup.frames) := by
  have linked := linked_of_run run whole known
  have dispatched := linked.serves.dispatched_first.sublist.filter (isOf role.ownId kind.type)
  rw [← frames_of_speaksAlone alone] at dispatched
  calc
    (payloads role.ownId kind.type setup.frames).Sublist
        (payloads role.ownId kind.type (setup.testClient socket).written) :=
      payloads_sublist dispatched
    List.Sublist _ (payloads role.otherId kind.type (setup.heard socket)) :=
      payloads_written linked relayed
    List.Sublist _ (payloads role.otherId kind.type setup.frames) :=
      payloads_sublist (heard_dispatched run relayed socket)

/-- Under the Ids of a chain goes out, of the packets that the server only passes on, what its
player has sent, in the same order and nothing twice, as long as nobody else speaks under them.
-/
theorem chain_follows {base : Guid} {sockets : Nat → SocketId} {count : Nat}
    (run : AnyRun (step runtime roles) (initial settings shines) events setup)
    (whole : WritesWholeFrames setup.server) (relayed : kind.relayedOnly = true)
    (chain : ∀ i < count, roles (sockets i) = some (chainRole base i))
    (alone : ∀ i < count, setup.SpeaksAlone (sockets i) (chainId base (i + 1)))
    : ∀ i ≤ count,
        (payloads (chainId base i) kind.type setup.frames).Sublist
          (payloads base kind.type setup.frames) := by
  intro i within
  induction i with
  | zero => exact .refl _
  | succ i ih =>
      have follows := payloads_follow run whole (chain i within) (alone i within) relayed
      exact follows.trans (ih (Nat.le_of_lt within))

instance (setup : TestSetup) (socket : SocketId) (id : Guid)
    : Decidable (setup.SpeaksAlone socket id) :=
  inferInstanceAs (Decidable (∀ entry ∈ setup.dispatched, _ → _))

/-- Mario throws his cap, and two of the chain after him. -/
def capGoesRound : List TestEvent :=
  (arrival .pooled 1 baseOtherId .firstConnection "Mario".toList []).map .server
  ++ sussyArrives 2 [1] ++ sussyArrives 3 [1, 2]
  ++ passedOn 1 baseOtherId marioThrows ++ List.replicate 4 (.read 2 false)
  ++ passedOn 2 (chainId baseOtherId 1) marioThrows ++ List.replicate 5 (.read 3 false)
  ++ passedOn 3 (chainId baseOtherId 2) marioThrows

theorem chain_follows_mario
    : ∃ setup,
        AnyRun (step .pooled sussyRoles) (initial {} []) capGoesRound setup
        ∧ (payloads (chainId baseOtherId 2) .cap setup.frames).length = 1
        ∧ (payloads (chainId baseOtherId 2) .cap setup.frames).Sublist
            (payloads baseOtherId .cap setup.frames) := by
  obtain ⟨setup, run, whole, alone, heard⟩
      : ∃ setup,
          AnyRun (step .pooled sussyRoles) (initial {} []) capGoesRound setup
          ∧ WritesWholeFrames setup.server
          ∧ (∀ i < 7, setup.SpeaksAlone (i + 2) (chainId baseOtherId (i + 1)))
          ∧ (payloads (chainId baseOtherId 2) .cap setup.frames).length = 1 :=
    exists_run _ (by decide +kernel)
  have chain : ∀ i < 7, sussyRoles (i + 2) = some (chainRole baseOtherId i) := by
    intro i within
    rw [sussyRoles, if_pos ⟨Nat.le_add_left 2 i, Nat.add_lt_add_right within 2⟩,
      Nat.add_sub_cancel]
  have relayed : PacketKind.cap.relayedOnly = true := rfl
  exact ⟨setup, run, heard, chain_follows run whole relayed chain alone 2 (by decide)⟩

end TestSetup

end SmoOnline
