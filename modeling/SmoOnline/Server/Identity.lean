import SmoOnline.Server.Seats
import SmoOnline.Server.Writes

/-! Under which Ids the server passes frames on. A session keeps the Id of its Connect frame,
and unless that is the empty Id, every frame passed on for it bears this Id. A win goes out
under the Id of each player it goes to.
-/

namespace SmoOnline

open Span Utf8 Runs

/-- The octets start with the Id, as far as they go. -/
def Bears (id : Guid) (data : Bytes) : Prop := data.take 16 <+: toBytes id

instance (id : Guid) (data : Bytes) : Decidable (Bears id data) :=
  inferInstanceAs (Decidable (data.take 16 <+: toBytes id))

theorem take_octets (header : PacketHeader) (rest : Bytes)
    : (header.octets ++ rest).take 16 = toBytes header.id := by
  have length : (toBytes header.id).length = 16 := Blittable.length_toBytes header.id
  rw [PacketHeader.octets, List.append_assoc, List.append_assoc, List.take_left' length]

/-- Octets that hold a header bear an Id exactly when the header does. -/
theorem bears_iff {id : Guid} {data : Bytes} {header : PacketHeader}
    (read : PacketHeader.deserialize data = some header)
    : Bears id data ↔ header.id = id := by
  have front : data = header.octets ++ data.drop headerSize := by
    rw [PacketHeader.octets_of_deserialize read, List.take_append_drop]
  rw [Bears, front, take_octets]
  constructor
  · intro starts
    have same := starts.eq_of_length
      ((Blittable.length_toBytes header.id).trans (Blittable.length_toBytes id).symm)
    have back : (ofBytes (toBytes header.id) : Guid) = ofBytes (toBytes id) :=
      congrArg ofBytes same
    rwa [ofBytes_toBytes, ofBytes_toBytes] at back
  · rintro rfl
    exact List.prefix_rfl

/-- A frame passed on bears the Id in its header, also where it is cut. -/
theorem bears_relayedFrame {memory frame : Bytes} {header : PacketHeader}
    (read : PacketHeader.deserialize memory = some header)
    (relayed : relayedFrame memory header = some frame)
    : Bears header.id frame := by
  have whole := (bears_iff read).mpr rfl
  unfold relayedFrame at relayed
  dsimp only at relayed
  split_ifs at relayed
  obtain rfl := Option.some.inj relayed
  rw [Bears, List.take_take, Nat.min_comm, ← List.take_take]
  exact (List.take_prefix _ _).trans whole

/-- A handler past its join stays past it and keeps its Id. -/
theorem ServerState.joined_kept {runtime : Runtime} {state next : ServerState} {event : Event}
    (tidy : Tidy state) (taken : state.step runtime event = some next) {socket : SocketId}
    (joined : (state.session socket).phase.fresh = false)
    : (next.session socket).phase.fresh = false
      ∧ (next.session socket).id = (state.session socket).id := by
  rcases step_change tidy taken socket with ⟨_, same⟩ | change
  · exact ⟨same.phase ▸ joined, same.id⟩
  · exact ⟨(change.past joined).joined, (change.past joined).id⟩

theorem inbound_foreign {id : Guid} {memory : Bytes} {header : PacketHeader}
    (read : PacketHeader.deserialize memory = some header) (foreign : header.id ≠ id)
    (nonempty : id ≠ .empty)
    : inbound false id memory = .refused := by
  simp [inbound, read, foreign, nonempty]

/-- A relayed frame came in by a session past its join and bears its Id, empty Ids aside. -/
structure RelayAttributed (state : ServerState) (sender : SocketId) (message : Sent) : Prop where
  joined : (state.session sender).phase.fresh = false
  bears : (state.session sender).id ≠ .empty → Bears (state.session sender).id message.data

/-- A copy made for a session past its join bears the session's Id, and a win that of its
receiver.
-/
structure CopyAttributed (state : ServerState) (sender : SocketId) (message : Sent) : Prop where
  joined : (state.session sender).phase.fresh = false
  bears
    : ∃ header,
        PacketHeader.deserialize message.data = some header
        ∧ (header.id = (state.session sender).id
          ∨ header.type = .captureTheFlagWin
            ∧ (state.session message.socket).phase.fresh = false
            ∧ header.id = (state.session message.socket).id)

/-- All relays and copies so far are attributed. -/
def Attributed (state : ServerState) : Prop :=
  ∀ message ∈ state.sent,
    ∀ sender,
      (message.cause = .relay sender → RelayAttributed state sender message)
      ∧ (message.cause = .handler sender → CopyAttributed state sender message)

/-- What is attributed stays so, since Ids stay. -/
theorem Attributed.kept {runtime : Runtime} {state next : ServerState} {event : Event}
    (tidy : Tidy state) (taken : state.step runtime event = some next) {sender : SocketId}
    {message : Sent}
    (attributed
      : (message.cause = .relay sender → RelayAttributed state sender message)
        ∧ (message.cause = .handler sender → CopyAttributed state sender message))
    : (message.cause = .relay sender → RelayAttributed next sender message)
      ∧ (message.cause = .handler sender → CopyAttributed next sender message) := by
  refine ⟨fun cause => ?_, fun cause => ?_⟩
  · obtain ⟨joined, bears⟩ := attributed.1 cause
    obtain ⟨still, id⟩ := ServerState.joined_kept tidy taken joined
    exact ⟨still, id.symm ▸ bears⟩
  · obtain ⟨joined, header, read, own⟩ := attributed.2 cause
    obtain ⟨still, id⟩ := ServerState.joined_kept tidy taken joined
    refine ⟨still, header, read, ?_⟩
    rcases own with own | ⟨win, receiverJoined, receiverId⟩
    · exact .inl (id.symm ▸ own)
    · obtain ⟨receiverStill, receiverKept⟩ :=
        ServerState.joined_kept tidy taken receiverJoined
      exact .inr ⟨win, receiverStill, receiverKept.symm ▸ receiverId⟩

/-- A justified message is attributed where it is written. -/
theorem Justified.attributed {runtime : Runtime} {state : ServerState} {event : Event}
    {message : Sent} (tidy : Tidy state) (seated : Seated state)
    (justified : Justified runtime state event message) (sender : SocketId)
    : (message.cause = .relay sender → RelayAttributed state sender message)
      ∧ (message.cause = .handler sender → CopyAttributed state sender message) := by
  cases justified with
  | relay source now memory header cause _ dispatching read relayed =>
      rw [cause]
      refine ⟨fun same => ?_, fun same => by cases same⟩
      obtain rfl := Cause.relay.inj same
      refine ⟨by rw [dispatching]; rfl, fun nonempty => ?_⟩
      obtain ⟨counted, framed, own | empty⟩ :=
        (seated.sound source).dispatching memory dispatching
      · obtain rfl := Option.some.inj (read.symm.trans framed.read)
        exact own ▸ bears_relayedFrame read relayed
      · exact absurd empty nonempty
  | handler source now memory cause _ dispatching copy =>
      rw [cause]
      refine ⟨fun same => (by cases same), fun same => ?_⟩
      obtain rfl := Cause.handler.inj same
      refine ⟨by rw [dispatching]; rfl, ?_⟩
      cases copy with
      | own packet _ data =>
          rw [data]
          exact ⟨_, runtime.deserialize_typedFrame _ _, .inl rfl⟩
      | win packet receiver data =>
          rw [data]
          have entry := (ServerState.mem_connectedClients.mp receiver).1
          exact ⟨_, runtime.deserialize_typedFrame _ _,
            .inr ⟨rfl, tidy.joined_of_mem entry, rfl⟩⟩
  | greeting _ cause | replay _ _ _ cause | lastGame _ _ cause | farewell _ _ cause
  | shineSync _ _ _ cause | server _ _ cause =>
      rw [cause]
      exact ⟨fun same => (by cases same), fun same => by cases same⟩

theorem Attributed.step {runtime : Runtime} {state next : ServerState} {event : Event}
    (tidy : Tidy state) (seated : Seated state) (attributed : Attributed state)
    (taken : state.step runtime event = some next)
    : Attributed next := by
  obtain ⟨writes, sent, justified⟩ := ServerState.step_writes taken
  intro message member sender
  rw [sent] at member
  rcases List.mem_append.mp member with before | added
  · exact Attributed.kept tidy taken (attributed message before sender)
  · exact Attributed.kept tidy taken ((justified message added).attributed tidy seated sender)

/-- Every frame passed on is attributed, by induction on the run. -/
theorem Attributed.of_run {runtime : Runtime} {settings : Settings} {shines : List Int32}
    {Allowed : ServerState → Event → Prop} {events : List Event} {state : ServerState}
    (run
      : Run (ServerState.step runtime) Allowed (.initial settings shines) events state)
    : Attributed state := by
  refine run.invariant_using (fun before => And.intro (Tidy.of_run before) (Seated.of_run before))
    (fun _ member => absurd member List.not_mem_nil) ?_
  intro before event after ⟨tidy, seated⟩ attributed _ taken
  exact attributed.step tidy seated taken

/-- Nobody speaks for another, as far as the server sees to it. -/
structure KeepsIdentities (runtime : Runtime) (state : ServerState) : Prop where
  /-- a relay bears the Id of its session, empty Ids aside -/
  relays
    : ∀ message ∈ state.sent,
        ∀ sender,
          message.cause = .relay sender
          → (state.session sender).id ≠ .empty
          → Bears (state.session sender).id message.data
  /-- a copy bears the Id of its session, and a win that of its receiver -/
  copies
    : ∀ message ∈ state.sent,
        ∀ sender,
          message.cause = .handler sender
          → ∃ header,
              PacketHeader.deserialize message.data = some header
              ∧ (header.id = (state.session sender).id
                ∨ header.type = .captureTheFlagWin
                  ∧ header.id = (state.session message.socket).id)
  /-- a session enters under the Id of its Connect frame -/
  registered
    : ∀ socket memory connect header next,
        (state.session socket).phase = .connecting memory connect
        → PacketHeader.deserialize memory = some header
        → state.join socket = some next
        → (next.session socket).phase = .failing ∨ (next.session socket).id = header.id
  /-- and keeps it -/
  kept
    : ∀ socket event next,
        (state.session socket).phase.fresh = false
        → state.step runtime event = some next
        → (next.session socket).id = (state.session socket).id
  /-- a frame under another Id ends its session, empty Ids aside -/
  foreign
    : ∀ socket memory header next,
        (state.session socket).phase = .reading false
        → PacketHeader.deserialize memory = some header
        → header.id ≠ (state.session socket).id
        → (state.session socket).id ≠ .empty
        → state.receive runtime socket memory = some next
        → (next.session socket).phase = .failing
  /-- connected clients with open sockets have different Ids -/
  exclusive
    : ∀ left right,
        left ≠ right
        → (state.session left).connected = true
        → (state.session left).socketConnected = true
        → (state.session right).connected = true
        → (state.session right).socketConnected = true
        → (state.session left).id ≠ (state.session right).id

/-- Identities are kept in every reachable state. -/
theorem keepsIdentities_of_run {runtime : Runtime} {settings : Settings} {shines : List Int32}
    {events : List Event} {state : ServerState}
    (run : AnyRun (ServerState.step runtime) (.initial settings shines) events state)
    : KeepsIdentities runtime state := by
  have tidy := Tidy.of_run run
  have seated := Seated.of_run run
  have attributed := Attributed.of_run run
  refine {
    relays := fun message member sender cause => ((attributed message member sender).1 cause).bears
    copies := fun message member sender cause => ?_
    registered := fun socket memory connect header next connecting read taken => ?_
    kept := fun socket event next joined taken =>
      (ServerState.joined_kept tidy taken joined).2
    foreign := fun socket memory header next reading read foreign nonempty taken => ?_
    exclusive := fun left right differ leftConnected leftOpen rightConnected rightOpen same => ?_
  }
  · obtain ⟨header, read, own | ⟨win, _, receiver⟩⟩ :=
      ((attributed message member sender).2 cause).bears
    · exact ⟨header, read, .inl own⟩
    · exact ⟨header, read, .inr ⟨win, receiver⟩⟩
  · rcases ServerState.join_change tidy taken socket with ⟨other, _⟩ | change
    · exact absurd rfl other
    · cases change with
      | refuse _ _ _ phase => exact .inl phase
      | enter _ _ counted was again _ id _ =>
          obtain ⟨rfl, rfl⟩ := Phase.connecting.inj (was.symm.trans connecting)
          obtain rfl := Option.some.inj (read.symm.trans again)
          exact .inr id
  · obtain ⟨first, _, was, _, _, rfl⟩ := ServerState.receive_cases taken
    obtain rfl := Phase.reading.inj (reading.symm.trans was)
    rw [inbound_foreign read foreign nonempty]
    simp
  · exact differ (tidy.distinct left (seated.entry left leftConnected leftOpen) right
      (seated.entry right rightConnected rightOpen) same)

/-- Two players come in, and their identities are kept. -/
theorem duet_keeps_identities
    : ∃ state,
        AnyRun (ServerState.step .pooled) (.initial {} []) duet state
        ∧ KeepsIdentities .pooled state := by
  have run := @execute_get_run _ _ (ServerState.step .pooled) (.initial {} []) duet (by decide)
  exact ⟨_, run, keepsIdentities_of_run run⟩

/-- A frame in memory: a header and a payload of the same length, zero behind them. -/
def frameOf (id : Guid) (type : PacketType) (payload : Bytes) : Bytes :=
  ({ id, type, packetSize := Int16.ofNat payload.length } : PacketHeader).octets ++ payload
    ++ zeros (12 - payload.length)

/-- Frames go out under other Ids: a player under the empty Id sends one under Luigi's, as
Luigi's own session has; Mario's old session, still connected, passes on a frame after his
new one has taken its place; and a win of Mario's reaches Luigi under Luigi's Id.
-/
theorem frames_under_other_ids
    : (∃ state,
        AnyRun (ServerState.step .pooled) (.initial {} [])
          (arrival .pooled 1 .empty .firstConnection "Nobody".toList []
            ++ arrival .pooled 2 ⟨8⟩ .firstConnection "Luigi".toList [1]
            ++ [.receive 1 (frameOf ⟨8⟩ .tag (zeros 6)), .dispatch 1 0])
          state
        ∧ (state.session 1).id = .empty
        ∧ (∃ message ∈ state.sent, message.cause = .relay 1 ∧ Bears ⟨8⟩ message.data)
        ∧ (state.session 2).id = ⟨8⟩
        ∧ ∃ message ∈ state.sent, message.cause = .relay 2 ∧ Bears ⟨8⟩ message.data)
      ∧ (∃ state,
        AnyRun (ServerState.step .pooled) (.initial {} [])
          (duet
            ++ [.receive 1 (frameOf ⟨7⟩ .tag (zeros 6))]
            ++ arrival .pooled 3 ⟨7⟩ .reconnecting "Mario".toList [2]
            ++ [.dispatch 1 0])
          state
        ∧ (state.session 1).connected = true
        ∧ (state.session 3).connected = true
        ∧ ∀ socket ∈ [1, 3],
            ∃ message ∈ state.sent.drop 5,
              message.cause = .relay socket ∧ Bears ⟨7⟩ message.data)
      ∧ ∃ state,
        AnyRun (ServerState.step .pooled) (.initial {} [])
          (duet ++ [.receive 1 (frameOf ⟨7⟩ .captureTheFlagWin [1, 0, 0, 0]), .dispatch 1 0])
          state
        ∧ ∃ message ∈ state.sent,
            message.cause = .handler 1 ∧ message.socket = 2 ∧ Bears ⟨8⟩ message.data := by
  refine ⟨⟨_, execute_get_run (by decide), ?_⟩, ⟨_, execute_get_run (by decide), ?_⟩,
    ⟨_, execute_get_run (by decide), ?_⟩⟩
  · decide
  · decide
  · decide

end SmoOnline
