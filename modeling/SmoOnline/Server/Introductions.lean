import SmoOnline.Server.Deliveries
import SmoOnline.Server.News

/-! In which order a client is told of another player. It hears of a player first by a Connect
packet if nothing else is handled for that player between the client's entry into the table
and the announcements.
-/

namespace SmoOnline

open Span Utf8 Runs

/-- The type of the packet by which a message tells the client of a socket of an Id. -/
def Sent.about (socket : SocketId) (id : Guid) (message : Sent) : Option PacketType :=
  match PacketHeader.deserialize message.data with
  | none => none
  | some header => if message.socket = socket ∧ header.id = id then some header.type else none

namespace ServerState

/-- What the client of a socket was told of an Id, by the types of the packets in order. -/
def told (state : ServerState) (socket : SocketId) (id : Guid) : List PacketType :=
  state.sent.filterMap (Sent.about socket id)

/-- Handling the frame makes nobody hear of its sender: a moon while moons are disabled, and a
win, which goes to each client under its own Id.
-/
def Swallows (state : ServerState) (memory : Bytes) : Prop :=
  match decodeFrame memory with
  | some (.shine _) => state.settings.shines.enabled = false
  | some (.captureTheFlagWin _) => True
  | _ => False

/-- A handler is about to handle a frame that bears an Id, is no Connect packet and comes to
others.
-/
def SpeaksAs (state : ServerState) (sender : SocketId) (id : Guid) : Prop :=
  match (state.session sender).phase with
  | .dispatching memory =>
      ¬state.Swallows memory
      ∧ ∃ header ∈ PacketHeader.deserialize memory, header.id = id ∧ header.type ≠ .connect
  | _ => False

end ServerState

/-- The first packet with an Id that came to a socket is a Connect packet. -/
def IntroducedFirst (state : ServerState) (socket : SocketId) (id : Guid) : Prop :=
  ∀ type ∈ (state.told socket id).head?, type = .connect

/-- The event sends a packet with an Id, and no Connect packet, to a socket: as the last game
packet of a player that is there, for a player who handles it, or on leaving.
-/
def Names (socket : SocketId) (id : Guid) (state : ServerState) : Event → Prop
  | .clientJoined joiner =>
      joiner = socket
      ∧ state.banned joiner = false
      ∧ ∃ client ∈ state.clientsConnected, (state.session client).id = id
  | .dispatch sender _ => socket ∈ state.recipients sender ∧ state.SpeaksAs sender id
  | .task index =>
      match state.tasks[index]? with
      | some (.farewell left) =>
          (state.session left).id = id ∧ socket ∈ state.recipients left
      | _ => False
  | .broadcastForClient sender _ =>
      (state.session sender).id = id ∧ socket ∈ state.recipients sender
  | _ => False

/-- Nothing but a Connect packet is sent to a socket with an Id that it was not told of. -/
def Introduces (socket : SocketId) (id : Guid) (state : ServerState) (event : Event) : Prop :=
  state.told socket id = [] → ¬Names socket id state event

section decidable

variable (state : ServerState) (socket : SocketId) (id : Guid)

instance (memory : Bytes) : Decidable (state.Swallows memory) := by
  unfold ServerState.Swallows
  split <;> infer_instance

instance (sender : SocketId) : Decidable (state.SpeaksAs sender id) := by
  unfold ServerState.SpeaksAs
  split <;> infer_instance

instance : DecidablePred (Names socket id state) := fun event => by
  unfold Names
  split
  · infer_instance
  · infer_instance
  · split <;> infer_instance
  · infer_instance
  · infer_instance

instance (event : Event) : Decidable (Introduces socket id state event) :=
  inferInstanceAs (Decidable (_ → ¬_))

end decidable

-----------------------------------------------------------------------------------------
-- What a message tells
-----------------------------------------------------------------------------------------

section messages

variable {socket : SocketId} {id : Guid} {message : Sent} {type : PacketType}

theorem about_eq_some
    : message.about socket id = some type
      ↔ message.socket = socket
        ∧ ∃ header,
            PacketHeader.deserialize message.data = some header
            ∧ header.id = id
            ∧ header.type = type := by
  unfold Sent.about
  cases read : PacketHeader.deserialize message.data with
  | none => simp
  | some header => simp [and_assoc]

theorem about_typed {runtime : Runtime} {own : Guid} {packet : Packet}
    (data : message.data = runtime.typedFrame own packet)
    (tells : message.about socket id = some type)
    : message.socket = socket ∧ own = id := by
  obtain ⟨here, header, read, about, _⟩ := about_eq_some.mp tells
  rw [data, Runtime.deserialize_typedFrame, Option.some.injEq] at read
  subst read
  exact ⟨here, about⟩

theorem told_append {state next : ServerState} {writes : List Sent}
    (sent : next.sent = state.sent ++ writes)
    : next.told socket id = state.told socket id ++ writes.filterMap (Sent.about socket id) := by
  rw [ServerState.told, sent, List.filterMap_append]
  rfl

theorem told_cons {state next : ServerState} {rest : List Sent}
    (sent : next.sent = state.sent ++ message :: rest)
    (tells : message.about socket id = some type)
    : ∃ more, next.told socket id = state.told socket id ++ type :: more :=
  ⟨_, by rw [told_append sent, List.filterMap_cons_some tells]⟩

end messages

-----------------------------------------------------------------------------------------
-- Whom the copies of a handler go to
-----------------------------------------------------------------------------------------

/-- A copy of a packet goes to others under its player's Id, or to anybody under their own. -/
inductive CopyTo (runtime : Runtime) (state : ServerState) (sender : SocketId)
    (packet : Packet) (message : Sent)
    : Prop
  | others (copy : Packet)
    (kind : packet.kind = .game ∨ packet.kind = .player ∨ packet.kind = .flagHoldState)
    (recipient : message.socket ∈ state.recipients sender)
    (data : message.data = runtime.typedFrame (state.session sender).id copy)
  | own (copy : Packet) (receiver : message.socket ∈ state.clients ∨ message.socket = sender)
    (data : message.data = runtime.typedFrame (state.session message.socket).id copy)

def CopiesTo (runtime : Runtime) (state : ServerState) (sender : SocketId) (packet : Packet)
    (after : ServerState)
    : Prop :=
  ∃ writes,
    after.sent = state.sent ++ writes
    ∧ ∀ message ∈ writes, CopyTo runtime state sender packet message

namespace ServerState

variable (state : ServerState) (runtime : Runtime) (now : Nat) (socket : SocketId)

variable {state} in
theorem copiesTo_of_sent_eq {packet : Packet} {after : ServerState}
    (same : after.sent = state.sent)
    : CopiesTo runtime state socket packet after :=
  ⟨[], by rw [same, List.append_nil], fun _ member => absurd member List.not_mem_nil⟩

theorem handleGame_copies (packet : GamePacket)
    : CopiesTo runtime state socket (.game packet)
        (state.handleGame runtime socket packet).1 := by
  unfold handleGame
  dsimp only
  generalize placed
    : ({ state.setMetadata socket _ with players := _ } : ServerState) = known
  have first : Quiet state known := placed ▸ .of_session_eq rfl rfl rfl rfl rfl
  have knownSent : known.sent = state.sent := placed ▸ rfl
  have second := enterStage_quiet known socket packet
  have stageSent := enterStage_sent known socket packet
  generalize known.enterStage socket packet = stage at second stageSent ⊢
  obtain ⟨entered, returned⟩ := stage
  have quiet := first.trans second
  have sent : entered.sent = state.sent := stageSent.trans knownSent
  cases returned with
  | false => exact copiesTo_of_sent_eq runtime socket sent
  | true =>
      dsimp only
      split_ifs
      · have copies
            : ∀ message ∈ (entered.broadcastReplace runtime socket (.handler socket)
                (entered.mergeScenario packet)).1,
              CopyTo runtime state socket (.game packet) message := by
          intro message member
          obtain ⟨recipient, _, merged, _, data⟩ := mem_sendReplaced member
          rw [quiet.id] at data
          rw [quiet.recipients] at recipient
          exact .others merged (.inl rfl) recipient data
        generalize entered.broadcastReplace runtime socket (.handler socket)
          (entered.mergeScenario packet) = replaced at copies ⊢
        obtain ⟨writes, completed⟩ := replaced
        cases completed <;> exact ⟨writes, congrArg (· ++ writes) sent, copies⟩
      · exact copiesTo_of_sent_eq runtime socket sent

theorem handlePlayer_copies (packet : PlayerPacket)
    : CopiesTo runtime state socket (.player packet)
        (state.handlePlayer runtime socket packet).1 := by
  unfold handlePlayer
  dsimp only
  split_ifs
  · cases (state.metadata socket).is2d with
    | none => exact copiesTo_of_sent_eq runtime socket rfl
    | some is2d =>
        refine ⟨_, rfl, fun message member => ?_⟩
        obtain ⟨recipient, _, data⟩ := mem_broadcastPacket member
        exact .others _ (.inr (.inl rfl)) recipient data
  · have copies
        : ∀ message ∈ (state.broadcastReplace runtime socket (.handler socket)
            (state.flipFor runtime socket packet)).1,
          CopyTo runtime state socket (.player packet) message := by
      intro message member
      obtain ⟨recipient, _, flipped, _, data⟩ := mem_sendReplaced member
      exact .others flipped (.inr (.inl rfl)) recipient data
    generalize state.broadcastReplace runtime socket (.handler socket)
      (state.flipFor runtime socket packet) = replaced at copies ⊢
    obtain ⟨writes, completed⟩ := replaced
    cases completed <;> exact ⟨writes, rfl, copies⟩
  · exact copiesTo_of_sent_eq runtime socket rfl

/-- Whom the copies that handling a packet makes go to, by the kinds of packets. -/
theorem packetHandler_copies (packet : Packet)
    : CopiesTo runtime state socket packet
        (state.packetHandler runtime now socket packet).1 := by
  cases packet with
  | game packet => exact state.handleGame_copies runtime socket packet
  | shine packet => exact copiesTo_of_sent_eq runtime socket (state.handleShine_sent socket packet)
  | player packet => exact state.handlePlayer_copies runtime socket packet
  | flagHoldState packet =>
      refine ⟨_, rfl, fun message member => ?_⟩
      rcases List.mem_append.mp member with toOthers | toSelf
      · obtain ⟨recipient, _, data⟩ := mem_broadcastPacket toOthers
        exact .others _ (.inr (.inr rfl)) recipient data
      · obtain ⟨_, rfl⟩ := mem_write toSelf
        exact .own _ (.inr rfl) rfl
  | captureTheFlagWin packet =>
      refine ⟨_, rfl, fun message member => ?_⟩
      obtain ⟨receiver, _, data⟩ := mem_broadcastToAll member
      exact .own _ (.inl (mem_connectedClients.mp receiver).1) data
  | _ => exact copiesTo_of_sent_eq runtime socket rfl

end ServerState

-----------------------------------------------------------------------------------------
-- What a step tells
-----------------------------------------------------------------------------------------

/-- A step tells a client nothing of an Id, or it names it, or it tells of it by a Connect
packet to begin with.
-/
def StepTells (socket : SocketId) (id : Guid) (state : ServerState) (event : Event)
    (next : ServerState)
    : Prop :=
  next.told socket id = state.told socket id
  ∨ Names socket id state event
  ∨ (state.session socket).phase.fresh = false
    ∧ ∃ rest, next.told socket id = state.told socket id ++ .connect :: rest

section steps

variable {runtime : Runtime} {state next : ServerState} {event : Event} {socket : SocketId}
  {id : Guid}

theorem StepTells.of_sent_eq (same : next.sent = state.sent)
    : StepTells socket id state event next :=
  .inl (by rw [ServerState.told, same]; rfl)

/-- It is enough to look at each message of the step. -/
theorem StepTells.of_writes {writes : List Sent} (sent : next.sent = state.sent ++ writes)
    (each
      : ∀ message ∈ writes,
          ∀ type,
            message.about socket id = some type
            → Names socket id state event
              ∨ (state.session socket).phase.fresh = false ∧ type = .connect)
    : StepTells socket id state event next := by
  have told := @told_append socket id state next writes sent
  cases heard : writes.filterMap (Sent.about socket id) with
  | nil =>
      rw [heard, List.append_nil] at told
      exact .inl told
  | cons type rest =>
      have member : type ∈ writes.filterMap (Sent.about socket id) := heard ▸ List.mem_cons_self
      obtain ⟨message, written, tells⟩ := List.mem_filterMap.mp member
      rcases each message written type tells with names | ⟨joined, rfl⟩
      · exact .inr (.inl names)
      · exact .inr (.inr ⟨joined, rest, heard ▸ told⟩)

/-- A frame whose header says so holds a Connect packet. -/
theorem kind_of_connect {memory : Bytes} {header : PacketHeader}
    (read : PacketHeader.deserialize memory = some header)
    (type : header.type = .connect) {packet : Packet} (decoded : decodeFrame memory = some packet)
    : packet.kind = .connect := by
  have kind : packetIdMap header.type = some .connect := by rw [type]; rfl
  simp only [decodeFrame, read, kind, Option.bind_eq_bind, Option.bind_some,
    Option.bind_eq_some_iff] at decoded
  obtain ⟨payload, _, back⟩ := decoded
  obtain ⟨connect, _, rfl⟩ := Option.map_eq_some_iff.mp back
  rfl

/-- A frame that bears an Id is of the Id's own player, empty Ids aside. -/
theorem header_of_session (seated : Seated state) {sender : SocketId} {memory : Bytes}
    {header : PacketHeader} (dispatching : (state.session sender).phase = .dispatching memory)
    (read : PacketHeader.deserialize memory = some header)
    (own : (state.session sender).id ≠ .empty)
    : header.id = (state.session sender).id := by
  obtain ⟨counted, framed, same | empty⟩ := (seated.sound sender).dispatching memory dispatching
  · obtain rfl := Option.some.inj (read.symm.trans framed.read)
    exact same
  · exact absurd empty own

theorem not_swallows {memory : Bytes} {packet : Packet} (decoded : decodeFrame memory = some packet)
    (shine : packet.kind ≠ .shine) (win : packet.kind ≠ .captureTheFlagWin)
    : ¬state.Swallows memory := by
  rw [ServerState.Swallows, decoded]
  cases packet <;> first | exact id | exact absurd rfl shine | exact absurd rfl win

/-- What is swallowed is not passed on. -/
theorem handled_of_swallows {now : Nat} {sender : SocketId} {memory : Bytes}
    (swallowed : state.Swallows memory)
    : (state.handleFrame runtime now sender memory).2 = .handled := by
  unfold ServerState.Swallows at swallowed
  unfold ServerState.handleFrame
  split at swallowed
  · next packet decoded =>
      rw [decoded]
      simp [ServerState.packetHandler, ServerState.handleShine, swallowed]
  · next packet decoded =>
      rw [decoded]
      rfl
  · exact absurd swallowed id

/-- A copy that a handler makes names its player to those it goes to. -/
theorem copy_tells (tidy : Tidy state) (seated : Seated state) (named : id ≠ .empty)
    (apart : (state.session socket).phase.fresh = false → (state.session socket).id ≠ id)
    {sender : SocketId} {now : Nat} {memory : Bytes} {packet : Packet} {message : Sent}
    {type : PacketType} (dispatching : (state.session sender).phase = .dispatching memory)
    (decoded : decodeFrame memory = some packet)
    (copied : CopyTo runtime state sender packet message)
    (tells : message.about socket id = some type)
    : Names socket id state (.dispatch sender now) := by
  cases copied with
  | own copy receiver data =>
      obtain ⟨rfl, own⟩ := about_typed data tells
      refine absurd own (apart ?_)
      rcases receiver with entry | rfl
      · exact tidy.joined_of_mem entry
      · rw [dispatching]
        rfl
  | others copy kind recipient data =>
      obtain ⟨rfl, own⟩ := about_typed data tells
      obtain ⟨header, framed, _⟩ := (seated.sound sender).dispatching memory dispatching
      have about := header_of_session seated dispatching framed.read (own ▸ named)
      refine ⟨recipient, ?_⟩
      rw [ServerState.SpeaksAs, dispatching]
      refine ⟨not_swallows decoded ?_ ?_, header, framed.read, about.trans own, ?_⟩
      · rcases kind with kind | kind | kind <;> rw [kind] <;> nofun
      · rcases kind with kind | kind | kind <;> rw [kind] <;> nofun
      · intro connect
        rw [kind_of_connect framed.read connect decoded] at kind
        rcases kind with kind | kind | kind <;> cases kind

theorem dispatch_tells (tidy : Tidy state) (seated : Seated state) (named : id ≠ .empty)
    (apart : (state.session socket).phase.fresh = false → (state.session socket).id ≠ id)
    {sender : SocketId} {now : Nat}
    (taken : state.step runtime (.dispatch sender now) = some next)
    : StepTells socket id state (.dispatch sender now) next := by
  obtain ⟨memory, dispatching, rfl⟩ := ServerState.dispatch_cases taken
  obtain ⟨copies, _, handled, sent⟩ := state.dispatchFrame_sent runtime now sender memory
  refine .of_writes (sent.trans (List.append_assoc _ _ _)) ?_
  intro message member type tells
  rcases List.mem_append.mp member with copied | passedOn
  · left
    cases decoded : decodeFrame memory with
    | none =>
        simp only [ServerState.handleFrame, decoded] at handled
        rw [List.append_right_eq_self.mp handled.symm] at copied
        exact absurd copied List.not_mem_nil
    | some packet =>
        obtain ⟨writes, same, addressed⟩ := state.packetHandler_copies runtime now sender packet
        simp only [ServerState.handleFrame, decoded] at handled
        obtain rfl := List.append_cancel_left (handled.symm.trans same)
        exact copy_tells tidy seated named apart dispatching decoded (addressed message copied)
          tells
  · split_ifs at passedOn with handledIt
    · exact absurd passedOn List.not_mem_nil
    · obtain ⟨recipient, _, _, header, read, relayed⟩ :=
        ServerState.mem_broadcastMemory passedOn
      obtain ⟨rfl, counted, again, about, rfl⟩ := about_eq_some.mp tells
      obtain rfl := header_relayedFrame read relayed again
      by_cases connect : counted.type = .connect
      · exact .inr ⟨tidy.joined_of_mem (ServerState.mem_recipients.mp recipient).1, connect⟩
      · refine .inl ⟨recipient, ?_⟩
        rw [ServerState.SpeaksAs, dispatching]
        exact ⟨fun swallowed => handledIt (handled_of_swallows swallowed), counted, read, about,
          connect⟩

theorem clientsConnected_setMetadata {joiner : SocketId} {metadata : Metadata}
    (kept : metadata.lastGamePacket = (state.metadata joiner).lastGamePacket)
    : (state.setMetadata joiner metadata).clientsConnected = state.clientsConnected := by
  refine List.filter_congr fun client _ => ?_
  have same
      : ((state.setMetadata joiner metadata).metadata client).lastGamePacket
        = (state.metadata client).lastGamePacket := by
    simp only [ServerState.metadata, ServerState.setMetadata, ServerState.setProfile]
    rw [Function.update_apply]
    split_ifs with own
    · rw [own]
      exact kept
    · rfl
  rw [same]
  rfl

theorem clientJoined_tells {joiner : SocketId}
    (taken : state.step runtime (.clientJoined joiner) = some next)
    : StepTells socket id state (.clientJoined joiner) next := by
  simp only [ServerState.step, ServerState.clientJoined] at taken
  split at taken
  · next memory calling =>
      split_ifs at taken with banned
      · obtain rfl := Option.some.inj taken
        exact .of_sent_eq rfl
      · obtain rfl := Option.some.inj taken
        refine .of_writes rfl ?_
        intro message member type tells
        obtain ⟨client, inside, sent⟩ := List.mem_flatMap.mp member
        have there : client ∈ state.clientsConnected := by
          rw [clientsConnected_setMetadata] at inside
          · exact inside
          · rfl
        split at sent
        · exact absurd sent List.not_mem_nil
        · next packet game =>
            obtain ⟨_, rfl⟩ := ServerState.mem_write sent
            obtain ⟨rfl, own⟩ := about_typed rfl tells
            exact .inl ⟨rfl, Bool.eq_false_iff.mpr banned, client, there, own⟩
  · cases taken

theorem Runtime.headerSize_le_rentZero (runtime : Runtime) (count : Nat)
    : headerSize ≤ (runtime.rentZero (headerSize + count)).length := by
  have room := runtime.le_rent (headerSize + count)
  rw [rentZero, length_zeros]
  omega

/-- The frames of an announcement start with a Connect frame. -/
theorem announcement_head (maxPlayers : UInt16) (name : Text)
    (currentCostume : Option CostumePacket)
    : (announcement runtime maxPlayers id name currentCostume).1 = []
      ∨ ∃ frame rest,
          (announcement runtime maxPlayers id name currentCostume).1 = frame :: rest
          ∧ PacketHeader.deserialize frame
            = some (typedHeader id (.connect (announcingConnect maxPlayers name))) := by
  have first {memory filled : Bytes} {completes : Bool} (room : headerSize ≤ memory.length)
      (fills
        : fillPacket (typedHeader id (.connect (announcingConnect maxPlayers name)))
            (announcingConnect maxPlayers name).serialize memory
          = (filled, completes))
      : PacketHeader.deserialize (filled.take (headerSize + ConnectPacket.size))
        = some (typedHeader id (.connect (announcingConnect maxPlayers name))) := by
    rw [fillPacket_eq _ _ room] at fills
    obtain ⟨rfl, _⟩ := Prod.mk.inj fills
    rw [List.take_append, List.take_of_length_le (by simp)]
    exact PacketHeader.deserialize_octets _ _
  unfold announcement
  dsimp only
  split
  · exact .inl rfl
  · next filled fills =>
      right
      have read := first (runtime.headerSize_le_rentZero _) fills
      cases currentCostume with
      | none => exact ⟨_, _, rfl, read⟩
      | some costume =>
          dsimp only
          split <;> exact ⟨_, _, rfl, read⟩

/-- Nothing is sent over a closed socket. -/
theorem sendMemory_closed {joiner : SocketId} {data : Bytes} {cause : Cause}
    (closed : (state.session joiner).socketConnected = false)
    : state.sendMemory joiner data cause = [] := by
  apply List.eq_nil_iff_forall_not_mem.mpr
  intro message member
  rw [(ServerState.mem_sendMemory member).1] at closed
  cases closed

/-- The first frame of an announcement is sent whole over an open socket. -/
theorem sendMemory_head {maxPlayers : UInt16} {own : Guid} {name : Text}
    {currentCostume : Option CostumePacket} {frame : Bytes} {header : PacketHeader}
    {joiner : SocketId} {cause : Cause}
    (announced : frame ∈ (announcement runtime maxPlayers own name currentCostume).1)
    (read : PacketHeader.deserialize frame = some header) (connect : header.type = .connect)
    (isOpen : (state.session joiner).socketConnected = true)
    : state.sendMemory joiner frame cause = [{ socket := joiner, data := frame, cause }] := by
  obtain ⟨packet, body, _, rfl, length⟩ := mem_announcement announced
  rw [PacketHeader.deserialize_octets, Option.some.injEq] at read
  subst read
  have whole := @relayedFrame_whole (typedHeader own packet) body
    (by rw [length, toInt_typedHeader_packetSize])
  simp [ServerState.sendMemory, ServerState.write, connect, whole, isOpen]

/-- An announcement goes to the joiner under its player's Id. -/
theorem announcement_about {maxPlayers : UInt16} {own : Guid} {name : Text}
    {currentCostume : Option CostumePacket} {joiner : SocketId} {cause : Cause}
    {message : Sent} {type : PacketType}
    (member
      : message ∈ (announcement runtime maxPlayers own name currentCostume).1.flatMap
          fun frame => state.sendMemory joiner frame cause)
    (tells : message.about socket id = some type)
    : joiner = socket ∧ own = id := by
  obtain ⟨frame, announced, sent⟩ := List.mem_flatMap.mp member
  obtain ⟨packet, body, _, rfl, _⟩ := mem_announcement announced
  obtain ⟨_, header, cut, read, relayed, rfl⟩ := ServerState.mem_sendMemory sent
  obtain ⟨here, counted, again, about, _⟩ := about_eq_some.mp tells
  obtain rfl := header_relayedFrame read relayed again
  rw [PacketHeader.deserialize_octets, Option.some.injEq] at read
  subst read
  exact ⟨here, about⟩

/-- An announcement tells of its player by a Connect packet to begin with. -/
theorem replay_tells {joiner other : SocketId}
    (taken : state.step runtime (.replay joiner other) = some next)
    : StepTells socket id state (.replay joiner other) next := by
  obtain ⟨memory, others, faulted, _, replaying, _, _, rfl⟩ := ServerState.replay_cases taken
  by_cases here : joiner = socket ∧ (state.session other).id = id
  · obtain ⟨rfl, rfl⟩ := here
    rcases @announcement_head runtime (state.session other).id
      state.settings.server.maxPlayers (state.name other) (state.session other).currentCostume
      with none | ⟨frame, rest, some, read⟩
    · refine .of_sent_eq ?_
      rw [none]
      exact List.append_nil _
    · by_cases isOpen : (state.session joiner).socketConnected = true
      · have head := @sendMemory_head runtime state _ _ _ _ frame _ joiner (.replay other)
          (some ▸ List.mem_cons_self) read rfl isOpen
        right
        right
        constructor
        · rw [replaying]
          rfl
        · rw [some, List.flatMap_cons, head]
          exact told_cons rfl (about_eq_some.mpr ⟨rfl, _, read, rfl, rfl⟩)
      · refine .of_sent_eq ?_
        have silent : (frame :: rest).flatMap
            (fun frame => state.sendMemory joiner frame (.replay other)) = [] :=
          List.flatMap_eq_nil_iff.mpr fun _ _ =>
            sendMemory_closed (Bool.eq_false_iff.mpr isOpen)
        rw [some, silent]
        exact List.append_nil _
  · refine .of_writes rfl ?_
    intro message member type tells
    exact absurd (announcement_about member tells) here

theorem task_tells (keyed : Keyed state)
    (apart : (state.session socket).phase.fresh = false → (state.session socket).id ≠ id)
    {index : Nat} (taken : state.step runtime (.task index) = some next)
    : StepTells socket id state (.task index) next := by
  obtain ⟨pending, found, rfl⟩ := ServerState.task_cases taken
  cases pending with
  | farewell left =>
      refine .of_writes rfl ?_
      intro message member type tells
      obtain ⟨recipient, _, data⟩ := ServerState.mem_broadcastPacket member
      obtain ⟨rfl, own⟩ := about_typed data tells
      left
      simp only [Names, found]
      exact ⟨own, recipient⟩
  | sendShines client shines =>
      cases shines with
      | nil => exact .of_sent_eq rfl
      | cons shine rest =>
          simp only [ServerState.runTask, ServerState.sendShine]
          split_ifs
          · refine .of_writes rfl ?_
            intro message member type tells
            obtain ⟨_, rfl⟩ := ServerState.mem_write member
            obtain ⟨rfl, own⟩ := about_typed rfl tells
            exact absurd own (apart (keyed.served _ (List.mem_of_getElem? found) client rfl))
          · exact .of_sent_eq rfl
  | clientSyncShineBag client =>
      simp only [ServerState.runTask]
      generalize ServerState.missingShines _ client = missing
      cases missing <;> exact .of_sent_eq rfl
  | syncShineBag => exact .of_sent_eq rfl
  | recordShine => exact .of_sent_eq rfl

/-- What a step tells, by events. -/
theorem step_tells (tidy : Tidy state) (seated : Seated state) (keyed : Keyed state)
    (named : id ≠ .empty)
    (apart : (state.session socket).phase.fresh = false → (state.session socket).id ≠ id)
    (taken : state.step runtime event = some next)
    : StepTells socket id state event next := by
  -- the console sends to clients under their own Ids
  have own {client : SocketId} {packet : Packet} {cause : Cause} {message : Sent}
      {type : PacketType} (entry : client ∈ state.clients)
      (sent : message ∈ state.sendPacket runtime client (state.session client).id packet cause)
      (tells : message.about socket id = some type)
      : False := by
    obtain ⟨_, rfl⟩ := ServerState.mem_write sent
    obtain ⟨rfl, same⟩ := about_typed rfl tells
    exact apart (tidy.joined_of_mem entry) same
  cases event with
  | accept client remote =>
      obtain ⟨_, writes, rfl, greets⟩ := ServerState.accept_cases taken
      refine .of_writes rfl ?_
      intro message member type tells
      obtain ⟨_, packet, _, data⟩ := greets message member
      exact absurd (about_typed data tells).2.symm named
  | clientJoined joiner => exact clientJoined_tells taken
  | replay joiner other => exact replay_tells taken
  | dispatch sender now => exact dispatch_tells tidy seated named apart taken
  | task index => exact task_tells keyed apart taken
  | ban client =>
      obtain ⟨entry, _, _, _, rfl⟩ := ServerState.ban_cases taken
      refine .of_writes rfl ?_
      intro message member type tells
      exact (own entry member tells).elim
  | sendFromServer client packet =>
      simp only [ServerState.step, ServerState.sendFromServer] at taken
      split_ifs at taken with allowed
      obtain rfl := Option.some.inj taken
      refine .of_writes rfl ?_
      intro message member type tells
      exact (own allowed.2 member tells).elim
  | broadcastFromServer packet =>
      simp only [ServerState.step, ServerState.broadcastFromServer] at taken
      split_ifs at taken with allowed
      obtain rfl := Option.some.inj taken
      refine .of_writes rfl ?_
      intro message member type tells
      obtain ⟨receiver, _, data⟩ := ServerState.mem_broadcastToAll member
      obtain ⟨rfl, same⟩ := about_typed data tells
      have entry := (ServerState.mem_connectedClients.mp receiver).1
      exact absurd same (apart (tidy.joined_of_mem entry))
  | broadcastForClient sender packet =>
      simp only [ServerState.step, ServerState.broadcastForClient] at taken
      split_ifs at taken with allowed
      obtain rfl := Option.some.inj taken
      refine .of_writes rfl ?_
      intro message member type tells
      obtain ⟨recipient, _, data⟩ := ServerState.mem_broadcastPacket member
      obtain ⟨rfl, same⟩ := about_typed data tells
      exact .inl ⟨same, recipient⟩
  | _ => exact .of_sent_eq (ServerState.sent_silent rfl taken)

theorem told_grows (taken : state.step runtime event = some next)
    : ∃ more, next.told socket id = state.told socket id ++ more := by
  obtain ⟨writes, sent, _⟩ := ServerState.step_writes taken
  exact ⟨_, told_append sent⟩

end steps

-----------------------------------------------------------------------------------------
-- The first that a client is told of a player
-----------------------------------------------------------------------------------------

/-- Before its client has joined, a socket was told of nobody, and whom it was told of since,
it was told of by a Connect packet first.
-/
structure Introduced (socket : SocketId) (id : Guid) (state : ServerState) : Prop where
  outside : (state.session socket).phase.fresh = true → state.told socket id = []
  first : IntroducedFirst state socket id

theorem Introduced.step {runtime : Runtime} {state next : ServerState} {event : Event}
    {socket : SocketId} {id : Guid} (tidy : Tidy state) (seated : Seated state)
    (keyed : Keyed state) (named : id ≠ .empty)
    (apart : (state.session socket).phase.fresh = false → (state.session socket).id ≠ id)
    (introduced : Introduced socket id state) (introduces : Introduces socket id state event)
    (taken : state.step runtime event = some next)
    : Introduced socket id next := by
  have joined_before (fresh : (next.session socket).phase.fresh = true)
      : (state.session socket).phase.fresh = true := by
    by_contra joined
    have still := (ServerState.joined_kept tidy taken (Bool.eq_false_iff.mpr joined)).1
    rw [fresh] at still
    cases still
  -- what comes first stays first
  have kept (some : state.told socket id ≠ []) : IntroducedFirst next socket id := by
    obtain ⟨more, told⟩ := @told_grows runtime state next event socket id taken
    intro type head
    rw [told, List.head?_append_of_ne_nil _ some] at head
    exact introduced.first type head
  rcases step_tells tidy seated keyed named apart taken with same | names | ⟨joined, rest, told⟩
  · constructor
    · intro fresh
      rw [same]
      exact introduced.outside (joined_before fresh)
    · intro type head
      rw [same] at head
      exact introduced.first type head
  · have some : state.told socket id ≠ [] := fun none => introduces none names
    exact ⟨fun fresh => absurd (introduced.outside (joined_before fresh)) some, kept some⟩
  · constructor
    · intro fresh
      rw [joined_before fresh] at joined
      cases joined
    · by_cases none : state.told socket id = []
      · intro type head
        rw [told, none] at head
        exact (Option.some.inj head).symm
      · exact kept none

/-- Where nothing else is sent of an Id that a client was not told of yet, the first packet
that comes to the client with the Id of another player is a Connect packet. The empty Id, under
which every client is greeted, is nobody's.
-/
theorem introducedFirst_of_run {runtime : Runtime} {settings : Settings} {shines : List Int32}
    {events : List Event} {state : ServerState} {socket : SocketId} {id : Guid}
    (run
      : Run (ServerState.step runtime) (Introduces socket id) (.initial settings shines) events
          state)
    (named : id ≠ .empty) (apart : (state.session socket).id ≠ id)
    : IntroducedFirst state socket id := by
  have introduced
      : ((state.session socket).phase.fresh = false → (state.session socket).id ≠ id)
        → Introduced socket id state := by
    refine @Run.invariant_using _ _ _ _ _
      (fun current => Tidy current ∧ Seated current ∧ Keyed current)
      (fun current =>
        ((current.session socket).phase.fresh = false → (current.session socket).id ≠ id)
        → Introduced socket id current)
      ?_ ?_ ?_ _ _ run
    · intro events current before
      have whole : AnyRun (ServerState.step runtime) (.initial settings shines) events current :=
        before.mono fun _ => trivial
      exact ⟨Tidy.of_run whole, Seated.of_run whole, Keyed.of_run whole⟩
    · exact fun _ => ⟨fun _ => rfl, fun type head => by cases head⟩
    · rintro current event next ⟨tidy, seated, keyed⟩ introduced introduces taken own
      have before (joined : (current.session socket).phase.fresh = false)
          : (current.session socket).id ≠ id := by
        obtain ⟨still, same⟩ := ServerState.joined_kept tidy taken joined
        exact same ▸ own still
      exact (introduced before).step tidy seated keyed named before introduces taken
  exact (introduced fun _ => apart).first

/-- Mario enters a stage when Luigi has been told of him. -/
theorem mario_introduced_before_his_stage
    : ∃ state,
        Run (ServerState.step .pooled) (Introduces 2 ⟨7⟩) (.initial {} [])
          (duet ++ exchange 1 ⟨7⟩ stagePacket) state
        ∧ state.told 2 ⟨7⟩ = [.connect, .game]
        ∧ IntroducedFirst state 2 ⟨7⟩ := by
  have executes
      : (executeChecked (ServerState.step .pooled) (fun state event => Introduces 2 ⟨7⟩ state event)
          (.initial {} []) (duet ++ exchange 1 ⟨7⟩ stagePacket)).any
          (fun state =>
            (state.told 2 ⟨7⟩ = [.connect, .game] ∧ (state.session 2).id ≠ ⟨7⟩ : Bool))
        = true := by decide +kernel
  obtain ⟨state, executed, holds⟩ := (Option.any_eq_true _ _).mp executes
  obtain ⟨told, apart⟩ := of_decide_eq_true holds
  have run := executeChecked_run (fun _ _ => of_decide_eq_true) executed
  exact ⟨state, run, told, introducedFirst_of_run run (by decide) apart⟩

/-- Mario is in a stage when Luigi joins, and Luigi is sent his game packet first. -/
theorem mario_stage_before_his_introduction
    : ∃ before state,
        AnyRun (ServerState.step .pooled) (.initial {} [])
          (arrival .pooled 1 ⟨7⟩ .firstConnection "Mario".toList []
            ++ exchange 1 ⟨7⟩ stagePacket
            ++ (arrival .pooled 2 ⟨8⟩ .firstConnection "Luigi".toList [1]).take 2)
          before
        ∧ 1 ∈ before.connectedClients
        ∧ (before.session 1).id = ⟨7⟩
        ∧ AnyRun (ServerState.step .pooled) before
            ((arrival .pooled 2 ⟨8⟩ .firstConnection "Luigi".toList [1]).drop 2) state
        ∧ state.told 2 ⟨7⟩ = [.game, .connect]
        ∧ ¬IntroducedFirst state 2 ⟨7⟩ := by
  have executes
      : (execute (ServerState.step .pooled) (.initial {} [])
          (arrival .pooled 1 ⟨7⟩ .firstConnection "Mario".toList []
            ++ exchange 1 ⟨7⟩ stagePacket
            ++ (arrival .pooled 2 ⟨8⟩ .firstConnection "Luigi".toList [1]).take 2)).any
          (fun before =>
            decide (1 ∈ before.connectedClients ∧ (before.session 1).id = ⟨7⟩)
            && (execute (ServerState.step .pooled) before
                ((arrival .pooled 2 ⟨8⟩ .firstConnection "Luigi".toList [1]).drop 2)).any
              fun state => (state.told 2 ⟨7⟩ = [.game, .connect] : Bool))
        = true := by decide +kernel
  obtain ⟨before, executed, found⟩ := (Option.any_eq_true _ _).mp executes
  obtain ⟨there, joins⟩ := Bool.and_eq_true_iff.mp found
  obtain ⟨connected, own⟩ := of_decide_eq_true there
  obtain ⟨state, continued, holds⟩ := (Option.any_eq_true _ _).mp joins
  have told := of_decide_eq_true holds
  refine ⟨before, state, execute_run executed, connected, own, execute_run continued, told, ?_⟩
  intro first
  have connect := first .game (by rw [told]; rfl)
  cases connect

end SmoOnline
