import SmoOnline.Server.Framing
import SmoOnline.Server.Identity

/-! What the players are told of each other: that somebody connected, by his Connect frame or
an announcement, and that he left, by a goodbye.
-/

namespace SmoOnline

open Span Utf8 Runs

/-- What one message tells of a player. -/
inductive News
  | connect
  | disconnect
  deriving DecidableEq, Repr

/-- What a message tells the client of a socket of the player with an Id. -/
def Sent.news (socket : SocketId) (id : Guid) (message : Sent) : Option News :=
  match PacketHeader.deserialize message.data with
  | none => none
  | some header =>
      if message.socket = socket ∧ header.id = id then
        if header.type = .connect then some .connect
        else if header.type = .disconnect then some .disconnect
        else none
      else none

/-- What the client of a socket was told last of the player with an Id. -/
def ServerState.lastNews (state : ServerState) (socket : SocketId) (id : Guid) : Option News :=
  (state.sent.filterMap (Sent.news socket id)).getLast?

theorem news_of_read {message : Sent} {header : PacketHeader}
    (read : PacketHeader.deserialize message.data = some header)
    : message.news message.socket header.id
      = if header.type = .connect then some .connect
        else if header.type = .disconnect then some .disconnect
        else none := by
  simp [Sent.news, read]

theorem news_eq_some {socket : SocketId} {id : Guid} {message : Sent} {news : News}
    (tells : message.news socket id = some news)
    : message.socket = socket
      ∧ ∃ header,
          PacketHeader.deserialize message.data = some header
          ∧ header.id = id
          ∧ (header.type = .connect ∧ news = .connect
            ∨ header.type = .disconnect ∧ news = .disconnect) := by
  unfold Sent.news at tells
  split at tells
  · cases tells
  · next header read =>
      split_ifs at tells with about connect disconnect
      · exact ⟨about.1, header, read, about.2, .inl ⟨connect, (Option.some.inj tells).symm⟩⟩
      · exact ⟨about.1, header, read, about.2, .inr ⟨disconnect, (Option.some.inj tells).symm⟩⟩

/-- A typed frame tells something only if its packet is a Connect or a Disconnect packet. -/
theorem news_typed {socket : SocketId} {id own : Guid} {packet : Packet} {message : Sent}
    {news : News}
    (read : PacketHeader.deserialize message.data = some (typedHeader own packet))
    (tells : message.news socket id = some news)
    : own = id
      ∧ (packet.kind = .connect ∧ news = .connect
        ∨ packet.kind = .disconnect ∧ news = .disconnect) := by
  obtain ⟨_, header, again, about, kind⟩ := news_eq_some tells
  obtain rfl := Option.some.inj (read.symm.trans again)
  refine ⟨about, kind.imp (And.imp_left fun type => ?_) (And.imp_left fun type => ?_)⟩
  · exact @PacketKind.type_injective _ .connect type
  · exact @PacketKind.type_injective _ .disconnect type

/-- A header read from a frame that was passed on is the one it was passed on under. -/
theorem header_relayedFrame {memory frame : Bytes} {header counted : PacketHeader}
    (read : PacketHeader.deserialize memory = some header)
    (relayed : relayedFrame memory header = some frame)
    (again : PacketHeader.deserialize frame = some counted)
    : counted = header := by
  by_cases whole : 0 ≤ header.packetSize.toInt
  · have back := deserialize_relayedFrame read relayed whole
    exact Option.some.inj (again.symm.trans back)
  · -- a cut frame is too short to hold a header
    unfold relayedFrame at relayed
    dsimp only at relayed
    split_ifs at relayed
    obtain rfl := Option.some.inj relayed
    rw [PacketHeader.deserialize_eq_none (by rw [List.length_take]; omega)] at again
    cases again

/-- What a dispatched frame may be: a Connect frame of the session's own Id, or none of the two
kinds that tell something.
-/
def Session.Genuine (session : Session) : Prop :=
  ∀ memory header,
    session.phase = .dispatching memory
    → PacketHeader.deserialize memory = some header
    → header.type ≠ .disconnect
      ∧ (header.type = .connect → header.id = session.id ∧ 0 ≤ header.packetSize.toInt)

/-- Where news comes from: a Connect frame passed on, a goodbye, or an announcement. -/
inductive NewsFrom (state : ServerState) (socket : SocketId) (id : Guid)
    : Event → News → Prop
  | relay {now : Nat} (sender : SocketId) (memory : Bytes)
    (dispatching : (state.session sender).phase = .dispatching memory)
    (own : (state.session sender).id = id)
    : NewsFrom state socket id (.dispatch sender now) .connect
  | farewell {index : Nat} (left : SocketId)
    (pending : state.tasks[index]? = some (.farewell left))
    (own : (state.session left).id = id)
    : NewsFrom state socket id (.task index) .disconnect
  | replay (other : SocketId) (own : (state.session other).id = id)
    : NewsFrom state socket id (.replay socket other) .connect

/-- The news in a justified message, by its justification. -/
theorem Justified.news {runtime : Runtime} {state : ServerState} {event : Event}
    {message : Sent} {socket : SocketId} {id : Guid} {news : News}
    (genuine : ∀ sender, (state.session sender).Genuine)
    (justified : Justified runtime state event message)
    (tells : message.news socket id = some news)
    : NewsFrom state socket id event news := by
  have typed {own : Guid} {packet : Packet}
      (data : message.data = runtime.typedFrame own packet) :=
    news_typed (data ▸ runtime.deserialize_typedFrame own packet) tells
  cases justified with
  | greeting packet _ kind data =>
      obtain ⟨_, other | other⟩ := typed data <;>
        rw [kind] at other <;> cases other.1
  | replay other packet body _ happens kind data _ =>
      obtain rfl := (news_eq_some tells).1
      subst happens
      obtain ⟨own, connect | disconnect⟩ := news_typed
        (data ▸ PacketHeader.deserialize_octets _ _) tells
      · obtain ⟨_, rfl⟩ := connect
        exact .replay other own
      · rcases kind with kind | kind <;> rw [kind] at disconnect <;> cases disconnect.1
  | lastGame other packet _ data =>
      obtain ⟨_, ⟨kind, _⟩ | ⟨kind, _⟩⟩ := typed data <;> cases kind
  | relay sender now memory header _ happens dispatching read relayed _ _ _ =>
      subst happens
      obtain ⟨notDisconnect, connects⟩ := genuine sender memory header dispatching read
      obtain ⟨_, counted, again, about, kind⟩ := news_eq_some tells
      obtain rfl := header_relayedFrame read relayed again
      rcases kind with ⟨connect, rfl⟩ | ⟨disconnect, _⟩
      · exact .relay sender memory dispatching ((connects connect).1.symm.trans about)
      · exact absurd disconnect notDisconnect
  | handler sender now memory _ _ _ copy =>
      cases copy with
      | own packet kind data =>
          obtain ⟨_, ⟨other, _⟩ | ⟨other, _⟩⟩ := typed data <;>
            rw [other] at kind <;> simp at kind
      | win packet _ data =>
          obtain ⟨_, ⟨kind, _⟩ | ⟨kind, _⟩⟩ := typed data <;> cases kind
  | farewell sender index _ happens pending _ data =>
      subst happens
      obtain ⟨own, ⟨kind, _⟩ | ⟨_, rfl⟩⟩ := typed data
      · cases kind
      · exact .farewell sender pending own
  | shineSync _ _ _ _ _ _ data =>
      obtain ⟨_, ⟨kind, _⟩ | ⟨kind, _⟩⟩ := typed data <;> cases kind
  | server own packet _ originated data =>
      obtain ⟨_, ⟨kind, _⟩ | ⟨kind, _⟩⟩ := typed data <;>
        rw [kind] at originated <;> cases originated

/-- A step tells a client nothing new of a player, or something that the event accounts for. -/
theorem lastNews_step {runtime : Runtime} {state next : ServerState} {event : Event}
    (genuine : ∀ sender, (state.session sender).Genuine)
    (taken : state.step runtime event = some next) (socket : SocketId) (id : Guid)
    : next.lastNews socket id = state.lastNews socket id
      ∨ ∃ news,
          next.lastNews socket id = some news ∧ NewsFrom state socket id event news := by
  obtain ⟨writes, sent, justified⟩ := ServerState.step_writes taken
  rw [ServerState.lastNews, ServerState.lastNews, sent, List.filterMap_append]
  rcases List.eq_nil_or_concat (writes.filterMap (Sent.news socket id)) with none | ⟨_, news, some⟩
  · rw [none, List.append_nil]
    exact .inl rfl
  · refine .inr ⟨news, by simp [some], ?_⟩
    have told : news ∈ writes.filterMap (Sent.news socket id) := by simp [some]
    obtain ⟨message, member, tells⟩ := List.mem_filterMap.mp told
    exact (justified message member).news genuine tells

/-- Where a step writes news to a client, its last news changes to news of the step. -/
theorem lastNews_of_written {runtime : Runtime} {state next : ServerState} {event : Event}
    (genuine : ∀ sender, (state.session sender).Genuine)
    (taken : state.step runtime event = some next) {writes : List Sent}
    (sent : next.sent = state.sent ++ writes) {message : Sent} (member : message ∈ writes)
    {socket : SocketId} {id : Guid} {news : News} (tells : message.news socket id = some news)
    : ∃ last, next.lastNews socket id = some last ∧ NewsFrom state socket id event last := by
  obtain ⟨added, same, justified⟩ := ServerState.step_writes taken
  obtain rfl := List.append_cancel_left (sent.symm.trans same)
  rw [ServerState.lastNews, sent, List.filterMap_append]
  have told : news ∈ writes.filterMap (Sent.news socket id) :=
    List.mem_filterMap.mpr ⟨message, member, tells⟩
  rcases List.eq_nil_or_concat (writes.filterMap (Sent.news socket id)) with none | ⟨_, last, some⟩
  · rw [none] at told
    exact absurd told List.not_mem_nil
  · refine ⟨last, by simp [some], ?_⟩
    have lastTold : last ∈ writes.filterMap (Sent.news socket id) := by simp [some]
    obtain ⟨source, written, tellsLast⟩ := List.mem_filterMap.mp lastTold
    exact (justified source written).news genuine tellsLast

/-- A Connect frame is passed on whatever becomes of its packet. -/
theorem connect_passedOn {runtime : Runtime} {state : ServerState} {now : Nat}
    {socket : SocketId} {memory : Bytes} {header : PacketHeader}
    (read : PacketHeader.deserialize memory = some header) (type : header.type = .connect)
    : (state.handleFrame runtime now socket memory).2 ≠ .handled := by
  have kind : packetIdMap header.type = some .connect := by rw [type]; rfl
  unfold ServerState.handleFrame
  cases decoded : decodeFrame memory with
  | none => simp
  | some packet =>
      simp only [decodeFrame, read, kind, Option.bind_eq_bind, Option.bind_some,
        Option.bind_eq_some_iff] at decoded
      obtain ⟨payload, _, back⟩ := decoded
      obtain ⟨connect, _, rfl⟩ := Option.map_eq_some_iff.mp back
      simp [ServerState.packetHandler]

end SmoOnline
