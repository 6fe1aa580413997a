import SmoOnline.Server.Table

/-! What the server writes: every write of a step is one of the kinds listed here, with the
frame it carries and what the state was like when it was made.
-/

namespace SmoOnline

open Span Utf8

/-- The frames of an announcement are the typed frames of its player, up to their payloads. -/
theorem mem_announcement {runtime : Runtime} {maxPlayers : UInt16} {id : Guid} {name : Text}
    {currentCostume : Option CostumePacket} {frame : Bytes}
    (member : frame ∈ (announcement runtime maxPlayers id name currentCostume).1)
    : ∃ packet body,
        (packet.kind = .connect ∨ packet.kind = .costume)
        ∧ frame = (typedHeader id packet).octets ++ body
        ∧ body.length = packet.size := by
  cases currentCostume with
  | none =>
      obtain ⟨body, frameEq, length⟩ :=
        runtime.typedFrame_eq id (.connect (announcingConnect maxPlayers name))
      rw [announcement_none] at member
      split_ifs at member
      · obtain rfl := List.mem_singleton.mp member
        exact ⟨_, body, .inl rfl, frameEq, length⟩
      · exact absurd member List.not_mem_nil
  | some costume =>
      by_cases short : (encode name).length ≤ costumeNameSize
      · have connectLength := @length_connectBuffer maxPlayers name _ short (Nat.le_refl _)
        have costumeLength :=
          @length_connectBuffer maxPlayers name CostumePacket.size short (by decide)
        rw [announcement_eq runtime maxPlayers id costume short] at member
        dsimp only at member
        split_ifs at member
        · rcases List.mem_pair.mp member with rfl | rfl
          · exact ⟨_, _, .inl rfl, rfl, connectLength⟩
          · exact ⟨.costume costume, _, .inr rfl, rfl,
              by rw [length_runStores, costumeLength]; rfl⟩
        · obtain rfl := List.mem_singleton.mp member
          exact ⟨_, _, .inl rfl, rfl, connectLength⟩
      · rw [announcement_throws runtime maxPlayers id _ (Nat.lt_of_not_le short)] at member
        exact absurd member List.not_mem_nil

/-- A frame of exactly the octets its header counts is sent whole. -/
theorem relayedFrame_whole {header : PacketHeader} {body : Bytes}
    (length : (body.length : Int) = header.packetSize.toInt)
    : relayedFrame (header.octets ++ body) header = some (header.octets ++ body) := by
  have total : (header.octets ++ body).length = headerSize + body.length := by
    rw [List.length_append, PacketHeader.length_octets]
  unfold relayedFrame
  dsimp only
  rw [if_pos (by omega), List.take_of_length_le (by omega)]

/-- A sendable packet goes into its memory whole. -/
theorem Runtime.filled_completes (runtime : Runtime) (id : Guid) {packet : Packet}
    (sendable : packet.Sendable) (other : packet.kind ≠ .captureTheFlagPlayerTeamAssignment)
    : (runtime.filled id packet).2 = true := by
  have room := runtime.le_rent (headerSize + packet.size)
  have filled := @fillPacket_eq (typedHeader id packet) packet.serialize
    (runtime.rentZero (headerSize + packet.size))
    (by rw [Runtime.rentZero, length_zeros]; omega)
  have fits
      : ∀ store ∈ packet.serialize,
        store.Fits
          ((runtime.rentZero (headerSize + packet.size)).drop headerSize).length := by
    rw [List.length_drop, Runtime.rentZero, length_zeros]
    exact (Packet.deserialize_serialize sendable other (by omega)).1
  rw [Runtime.filled, filled]
  exact (runStores_completes_iff _ _).mpr fits

namespace ServerState

variable {state : ServerState} {runtime : Runtime}

theorem mem_write {socket : SocketId} {data : Bytes} {cause : Cause} {message : Sent}
    (member : message ∈ state.write socket data cause)
    : (state.session socket).socketConnected = true ∧ message = { socket, data, cause } := by
  unfold write at member
  split_ifs at member with openSocket
  · exact ⟨openSocket, List.mem_singleton.mp member⟩
  · exact absurd member List.not_mem_nil

theorem mem_sendMemory {socket : SocketId} {data : Bytes} {cause : Cause} {message : Sent}
    (member : message ∈ state.sendMemory socket data cause)
    : (state.session socket).socketConnected = true
      ∧ ∃ header frame,
          PacketHeader.deserialize data = some header
          ∧ relayedFrame data header = some frame
          ∧ message = { socket, data := frame, cause } := by
  unfold sendMemory at member
  split at member
  · exact absurd member List.not_mem_nil
  · next header read =>
      split_ifs at member
      · exact absurd member List.not_mem_nil
      · split at member
        · exact absurd member List.not_mem_nil
        · next frame relayed =>
            obtain ⟨isOpen, same⟩ := mem_write member
            exact ⟨isOpen, header, frame, read, relayed, same⟩

/-- A connected client is sent a frame unless its header's range is outside of the memory. -/
theorem sendMemory_of_connected {socket : SocketId} {data frame : Bytes} {cause : Cause}
    {header : PacketHeader} (connected : (state.session socket).connected = true)
    (read : PacketHeader.deserialize data = some header)
    (relayed : relayedFrame data header = some frame)
    : state.sendMemory socket data cause = state.write socket frame cause := by
  simp [sendMemory, read, connected, relayed]

/-- Sending a connected client the memory of a typed packet is sending it the packet. -/
theorem sendMemory_filled {socket : SocketId} {id : Guid} {packet : Packet} {cause : Cause}
    (connected : (state.session socket).connected = true)
    : state.sendMemory socket (runtime.filled id packet).1 cause
      = state.sendPacket runtime socket id packet cause :=
  sendMemory_of_connected connected (runtime.deserialize_filled id packet)
    (runtime.relayedFrame_filled id packet)

theorem mem_recipients {sender socket : SocketId}
    : socket ∈ state.recipients sender
      ↔ socket ∈ state.clients
        ∧ (state.session socket).connected = true
        ∧ (state.session socket).id ≠ (state.session sender).id := by
  simp [recipients]

theorem mem_connectedClients {socket : SocketId}
    : socket ∈ state.connectedClients
      ↔ socket ∈ state.clients ∧ (state.session socket).connected = true := by
  simp [connectedClients]

/-- A broadcast of a packet that can be stored sends it to each recipient. -/
theorem broadcastPacket_eq {packet : Packet} {sender : SocketId} (cause : Cause)
    (completes : (runtime.filled (state.session sender).id packet).2 = true)
    : state.broadcastPacket runtime packet sender cause
      = (state.recipients sender).flatMap fun socket =>
          state.sendPacket runtime socket (state.session sender).id packet cause := by
  have both
      : runtime.filled (state.session sender).id packet
        = ((runtime.filled (state.session sender).id packet).1, true) :=
    Prod.ext rfl completes
  rw [broadcastPacket, both]
  exact List.flatMap_congr fun socket member =>
    sendMemory_filled (mem_recipients.mp member).2.1

theorem broadcastPacket_throws {packet : Packet} {sender : SocketId} (cause : Cause)
    (throws : (runtime.filled (state.session sender).id packet).2 = false)
    : state.broadcastPacket runtime packet sender cause = [] := by
  have both
      : runtime.filled (state.session sender).id packet
        = ((runtime.filled (state.session sender).id packet).1, false) :=
    Prod.ext rfl throws
  rw [broadcastPacket, both]

/-- What a broadcast of a packet writes, if it can be stored. -/
theorem mem_broadcastPacket {packet : Packet} {sender : SocketId} {cause : Cause}
    {message : Sent} (member : message ∈ state.broadcastPacket runtime packet sender cause)
    : message.socket ∈ state.recipients sender
      ∧ message.cause = cause
      ∧ message.data = runtime.typedFrame (state.session sender).id packet := by
  cases completes : (runtime.filled (state.session sender).id packet).2 with
  | false =>
      rw [broadcastPacket_throws cause completes] at member
      exact absurd member List.not_mem_nil
  | true =>
      rw [broadcastPacket_eq cause completes] at member
      obtain ⟨socket, recipient, sent⟩ := List.mem_flatMap.mp member
      obtain ⟨_, rfl⟩ := mem_write sent
      exact ⟨recipient, rfl, rfl⟩

theorem mem_broadcastToAll {packet : Packet} {cause : Cause} {message : Sent}
    (member : message ∈ state.broadcastToAll runtime packet cause)
    : message.socket ∈ state.connectedClients
      ∧ message.cause = cause
      ∧ message.data = runtime.typedFrame (state.session message.socket).id packet := by
  obtain ⟨socket, recipient, sent⟩ := List.mem_flatMap.mp member
  split at sent
  · next memory filled =>
      have front : (runtime.filled (state.session socket).id packet).1 = memory :=
        congrArg Prod.fst filled
      rw [← front, sendMemory_filled (mem_connectedClients.mp recipient).2] at sent
      obtain ⟨_, rfl⟩ := mem_write sent
      exact ⟨recipient, rfl, rfl⟩
  · exact absurd sent List.not_mem_nil

theorem mem_sendReplaced {id : Guid} {cause : Cause} {replacer : SocketId → Option Packet}
    {sockets : List SocketId} {message : Sent}
    (member : message ∈ (state.sendReplaced runtime id cause replacer sockets).1)
    : message.socket ∈ sockets
      ∧ message.cause = cause
      ∧ ∃ packet,
          replacer message.socket = some packet
          ∧ message.data = runtime.typedFrame id packet := by
  induction sockets with
  | nil => exact absurd member List.not_mem_nil
  | cons socket rest ih =>
      rw [sendReplaced] at member
      split at member
      · exact absurd member List.not_mem_nil
      · next packet replaced =>
          rcases List.mem_append.mp member with sent | later
          · obtain ⟨_, rfl⟩ := mem_write sent
            exact ⟨List.mem_cons_self, rfl, packet, replaced, rfl⟩
          · obtain ⟨inside, rest⟩ := ih later
            exact ⟨List.mem_cons_of_mem _ inside, rest⟩

theorem mem_broadcastMemory {data : Bytes} {sender : SocketId} {cause : Cause}
    {message : Sent} (member : message ∈ state.broadcastMemory data sender cause)
    : message.socket ∈ state.recipients sender
      ∧ (state.session message.socket).socketConnected = true
      ∧ message.cause = cause
      ∧ ∃ header,
          PacketHeader.deserialize data = some header
          ∧ relayedFrame data header = some message.data := by
  obtain ⟨socket, recipient, sent⟩ := List.mem_flatMap.mp member
  obtain ⟨isOpen, header, frame, read, relayed, rfl⟩ := mem_sendMemory sent
  exact ⟨recipient, isOpen, rfl, header, read, relayed⟩

end ServerState

/-- States that differ quietly have the same recipients. -/
theorem Quiet.recipients {before after : ServerState} (quiet : Quiet before after)
    (sender : SocketId)
    : after.recipients sender = before.recipients sender := by
  simp only [ServerState.recipients, quiet.clients, quiet.connected, quiet.id]

theorem Quiet.write {before after : ServerState} (quiet : Quiet before after)
    (socket : SocketId) (data : Bytes) (cause : Cause)
    : after.write socket data cause = before.write socket data cause := by
  simp only [ServerState.write, quiet.socketConnected]

theorem Quiet.sendMemory {before after : ServerState} (quiet : Quiet before after)
    (socket : SocketId) (data : Bytes) (cause : Cause)
    : after.sendMemory socket data cause = before.sendMemory socket data cause := by
  simp only [ServerState.sendMemory, quiet.connected, quiet.write]

theorem Quiet.broadcastMemory {before after : ServerState} (quiet : Quiet before after)
    (data : Bytes) (sender : SocketId) (cause : Cause)
    : after.broadcastMemory data sender cause = before.broadcastMemory data sender cause := by
  simp only [ServerState.broadcastMemory, quiet.recipients, quiet.sendMemory]

-----------------------------------------------------------------------------------------
-- What handling a packet writes
-----------------------------------------------------------------------------------------

/-- A copy that a handler makes: of a packet under its sender's Id, or of a win under the Id
of the player it goes to.
-/
inductive HandlerCopy (runtime : Runtime) (state : ServerState) (sender : SocketId)
    (message : Sent)
    : Prop
  | own (packet : Packet)
    (kind
      : packet.kind = .game ∨ packet.kind = .player ∨ packet.kind = .flagHoldState)
    (data : message.data = runtime.typedFrame (state.session sender).id packet)
  | win (packet : CaptureTheFlagWinPacket)
    (receiver : message.socket ∈ state.connectedClients)
    (data
      : message.data
        = runtime.typedFrame (state.session message.socket).id (.captureTheFlagWin packet))

/-- The second state has the writes of the first and copies that the sender's handler made. -/
def AppendsCopies (runtime : Runtime) (sender : SocketId) (before after : ServerState)
    : Prop :=
  ∃ writes,
    after.sent = before.sent ++ writes
    ∧ ∀ message ∈ writes,
        message.cause = .handler sender ∧ HandlerCopy runtime before sender message

theorem AppendsCopies.of_sent_eq {runtime : Runtime} {sender : SocketId}
    {before after : ServerState} (same : after.sent = before.sent)
    : AppendsCopies runtime sender before after :=
  ⟨[], by rw [same, List.append_nil], fun _ member => absurd member List.not_mem_nil⟩

namespace ServerState

variable (state : ServerState) (runtime : Runtime) (now : Nat) (socket : SocketId)

theorem enterStage_sent (packet : GamePacket)
    : (state.enterStage socket packet).1.sent = state.sent := by
  unfold enterStage
  dsimp only
  split_ifs
  · cases (state.metadata socket).shineSync <;> rfl
  · cases (state.metadata socket).speedrun with
    | none => rfl
    | some wasSpeedrun => cases wasSpeedrun <;> rfl
  · rfl

theorem handleGame_appends (packet : GamePacket)
    : AppendsCopies runtime socket state (state.handleGame runtime socket packet).1 := by
  unfold handleGame
  dsimp only
  generalize placed
    : ({ state.setMetadata socket _ with players := _ } : ServerState) = known
  have first : Quiet state known := placed ▸ .of_session_eq rfl rfl rfl rfl rfl
  have knownSent : known.sent = state.sent := placed ▸ rfl
  have second := enterStage_quiet known socket packet
  have stageSent := enterStage_sent known socket packet
  generalize known.enterStage socket packet = stage at second stageSent ⊢
  obtain ⟨entered, returned⟩ := stage
  have quiet := first.trans second
  have sent : entered.sent = state.sent := stageSent.trans knownSent
  cases returned with
  | false => exact .of_sent_eq sent
  | true =>
      dsimp only
      split_ifs
      · have copies
            : ∀ message ∈ (entered.broadcastReplace runtime socket (.handler socket)
                (entered.mergeScenario packet)).1,
              message.cause = .handler socket ∧ HandlerCopy runtime state socket message := by
          intro message member
          obtain ⟨_, cause, merged, replaced, data⟩ := mem_sendReplaced member
          obtain ⟨scenarioNum, _, copy⟩ := Option.bind_eq_some_iff.mp replaced
          obtain rfl := Option.some.inj copy
          rw [quiet.id] at data
          exact ⟨cause, .own _ (.inl rfl) data⟩
        generalize entered.broadcastReplace runtime socket (.handler socket)
          (entered.mergeScenario packet) = replaced at copies ⊢
        obtain ⟨writes, completed⟩ := replaced
        cases completed <;> exact ⟨writes, congrArg (· ++ writes) sent, copies⟩
      · exact .of_sent_eq sent

theorem syncShineBag_sent : state.syncShineBag.sent = state.sent := by
  unfold syncShineBag persistShines
  split_ifs <;> rfl

theorem handleShine_sent (packet : ShinePacket)
    : (state.handleShine socket packet).1.sent = state.sent := by
  have added : (state.addShine packet.shineId).sent = state.sent := by
    unfold addShine
    split_ifs <;> rfl
  unfold handleShine
  split_ifs
  · rfl
  · cases (state.metadata socket).loadedSave with
    | none => rfl
    | some loaded =>
        cases loaded with
        | false => rfl
        | true =>
            cases (state.metadata socket).shineSync with
            | none => rfl
            | some playerBag =>
                dsimp only
                split_ifs
                · exact added
                · exact (syncShineBag_sent _).trans added

theorem handlePlayer_appends (packet : PlayerPacket)
    : AppendsCopies runtime socket state (state.handlePlayer runtime socket packet).1 := by
  unfold handlePlayer
  dsimp only
  split_ifs
  · cases (state.metadata socket).is2d with
    | none => exact .of_sent_eq rfl
    | some is2d =>
        refine ⟨_, rfl, fun message member => ?_⟩
        obtain ⟨_, cause, data⟩ := mem_broadcastPacket member
        exact ⟨cause, .own _ (.inr (.inl rfl)) data⟩
  · have copies
        : ∀ message ∈ (state.broadcastReplace runtime socket (.handler socket)
            (state.flipFor runtime socket packet)).1,
          message.cause = .handler socket ∧ HandlerCopy runtime state socket message := by
      intro message member
      obtain ⟨_, cause, flipped, replaced, data⟩ := mem_sendReplaced member
      have kind : flipped.kind = .player := by
        unfold flipFor at replaced
        split_ifs at replaced
        · obtain ⟨is2d, _, rfl⟩ := Option.map_eq_some_iff.mp replaced
          rfl
        · obtain rfl := Option.some.inj replaced
          rfl
      exact ⟨cause, .own _ (.inr (.inl kind)) data⟩
    generalize state.broadcastReplace runtime socket (.handler socket)
      (state.flipFor runtime socket packet) = replaced at copies ⊢
    obtain ⟨writes, completed⟩ := replaced
    cases completed <;> exact ⟨writes, rfl, copies⟩
  · exact .of_sent_eq rfl

theorem handleFlagHoldState_appends (packet : FlagHoldStatePacket)
    : AppendsCopies runtime socket state
        (state.handleFlagHoldState runtime now socket packet).1 := by
  refine ⟨_, rfl, fun message member => ?_⟩
  rcases List.mem_append.mp member with toOthers | toSelf
  · obtain ⟨_, cause, data⟩ := mem_broadcastPacket toOthers
    exact ⟨cause, .own _ (.inr (.inr rfl)) data⟩
  · obtain ⟨_, rfl⟩ := mem_write toSelf
    exact ⟨rfl, .own _ (.inr (.inr rfl)) rfl⟩

theorem handleCaptureTheFlagWin_appends (packet : CaptureTheFlagWinPacket)
    : AppendsCopies runtime socket state
        (state.handleCaptureTheFlagWin runtime socket packet).1 := by
  refine ⟨_, rfl, fun message member => ?_⟩
  obtain ⟨receiver, cause, data⟩ := mem_broadcastToAll member
  exact ⟨cause, .win packet receiver data⟩

/-- Handling a packet writes nothing but copies of it, by the kinds of packets. -/
theorem packetHandler_appends (packet : Packet)
    : AppendsCopies runtime socket state
        (state.packetHandler runtime now socket packet).1 := by
  cases packet with
  | game packet => exact state.handleGame_appends runtime socket packet
  | shine packet => exact .of_sent_eq (state.handleShine_sent socket packet)
  | player packet => exact state.handlePlayer_appends runtime socket packet
  | flagHoldState packet =>
      exact state.handleFlagHoldState_appends runtime now socket packet
  | captureTheFlagWin packet =>
      exact state.handleCaptureTheFlagWin_appends runtime socket packet
  | _ => exact .of_sent_eq rfl

theorem handleFrame_appends (memory : Bytes)
    : AppendsCopies runtime socket state
        (state.handleFrame runtime now socket memory).1 := by
  unfold handleFrame
  cases decodeFrame memory with
  | none => exact .of_sent_eq rfl
  | some packet => exact state.packetHandler_appends runtime now socket packet

/-- A dispatched frame is followed by the handler's copies and, unless the handler has sent
what was to be sent, by the frame itself.
-/
theorem dispatchFrame_sent (memory : Bytes)
    : ∃ copies,
        (∀ message ∈ copies,
          message.cause = .handler socket ∧ HandlerCopy runtime state socket message)
        ∧ (state.handleFrame runtime now socket memory).1.sent = state.sent ++ copies
        ∧ (state.dispatchFrame runtime now socket memory).sent
          = state.sent ++ copies
            ++ (if (state.handleFrame runtime now socket memory).2 = .handled then []
                else state.broadcastMemory memory socket (.relay socket)) := by
  obtain ⟨copies, sent, made⟩ := state.handleFrame_appends runtime now socket memory
  have quiet := state.handleFrame_quiet runtime now socket memory
  refine ⟨copies, made, sent, ?_⟩
  unfold dispatchFrame
  generalize state.handleFrame runtime now socket memory = handling at quiet sent ⊢
  obtain ⟨handled, outcome⟩ := handling
  rw [← quiet.broadcastMemory, ← sent]
  cases outcome with
  | handled => simp
  | relay => rfl
  | threw => rfl

end ServerState

-----------------------------------------------------------------------------------------
-- What a step writes
-----------------------------------------------------------------------------------------

/-- Why a message is written by an event in a state, with the frame it carries. -/
inductive Justified (runtime : Runtime) (state : ServerState) (event : Event) (message : Sent)
    : Prop
  | greeting (packet : Packet) (cause : message.cause = .greeting)
    (kind : packet.kind = .init) (data : message.data = runtime.typedFrame .empty packet)
  | replay (other : SocketId) (packet : Packet) (body : Bytes)
    (cause : message.cause = .replay other) (happens : event = .replay message.socket other)
    (kind : packet.kind = .connect ∨ packet.kind = .costume)
    (data : message.data = (typedHeader (state.session other).id packet).octets ++ body)
    (length : body.length = packet.size)
  | lastGame (other : SocketId) (packet : GamePacket) (cause : message.cause = .lastGame other)
    (data : message.data = runtime.typedFrame (state.session other).id (.game packet))
  | relay (sender : SocketId) (now : Nat) (memory : Bytes) (header : PacketHeader)
    (cause : message.cause = .relay sender) (happens : event = .dispatch sender now)
    (dispatching : (state.session sender).phase = .dispatching memory)
    (read : PacketHeader.deserialize memory = some header)
    (relayed : relayedFrame memory header = some message.data)
    (passedOn : (state.handleFrame runtime now sender memory).2 ≠ .handled)
    (recipient : message.socket ∈ state.recipients sender)
    (isOpen : (state.session message.socket).socketConnected = true)
  | handler (sender : SocketId) (now : Nat) (memory : Bytes)
    (cause : message.cause = .handler sender) (happens : event = .dispatch sender now)
    (dispatching : (state.session sender).phase = .dispatching memory)
    (copy : HandlerCopy runtime state sender message)
  | farewell (sender : SocketId) (index : Nat) (cause : message.cause = .farewell sender)
    (happens : event = .task index)
    (pending : state.tasks[index]? = some (.farewell sender))
    (recipient : message.socket ∈ state.recipients sender)
    (data : message.data = runtime.typedFrame (state.session sender).id (.disconnect {}))
  | shineSync (index : Nat) (shine : Int32) (rest : List Int32)
    (cause : message.cause = .shineSync) (happens : event = .task index)
    (pending : state.tasks[index]? = some (.sendShines message.socket (shine :: rest)))
    (data
      : message.data
        = runtime.typedFrame (state.session message.socket).id (.shine { shineId := shine }))
  | server (id : Guid) (packet : Packet) (cause : message.cause = .server)
    (originated : packet.kind.originated = true)
    (data : message.data = runtime.typedFrame id packet)

/-- The second state has the writes of the first and justified ones after them. -/
def Writes (runtime : Runtime) (before : ServerState) (event : Event) (after : ServerState)
    : Prop :=
  ∃ writes,
    after.sent = before.sent ++ writes
    ∧ ∀ message ∈ writes, Justified runtime before event message

theorem Writes.of_sent_eq {runtime : Runtime} {before after : ServerState} {event : Event}
    (same : after.sent = before.sent)
    : Writes runtime before event after :=
  ⟨[], by rw [same, List.append_nil], fun _ member => absurd member List.not_mem_nil⟩

/-- Events of which no client hears anything. -/
def Event.silent : Event → Bool
  | .accept .. | .clientJoined _ | .replay .. | .dispatch .. | .task _ | .ban _ => false
  | .sendFromServer .. | .broadcastFromServer _ | .broadcastForClient .. => false
  | _ => true

namespace ServerState

theorem shineClear_sent (state : ServerState) : state.shineClear.sent = state.sent := by
  have cleared (clients : List SocketId) (start : ServerState)
      : (clients.foldl
          (fun state client =>
            state.setMetadata client { state.metadata client with shineSync := some [] })
          start).sent
        = start.sent := by
    induction clients generalizing start with
    | nil => rfl
    | cons client rest ih => exact ih _
  unfold shineClear persistShines
  dsimp only
  split_ifs <;> exact cleared _ _

theorem runTask_writes {state : ServerState} {runtime : Runtime} {index : Nat}
    {pending : PendingTask} (found : state.tasks[index]? = some pending)
    : Writes runtime state (.task index)
        ({ state with tasks := state.tasks.eraseIdx index }.runTask runtime pending) := by
  cases pending with
  | farewell sender =>
      refine ⟨_, rfl, fun message member => ?_⟩
      obtain ⟨recipient, cause, data⟩ := mem_broadcastPacket member
      exact .farewell sender index cause rfl found recipient data
  | syncShineBag => exact .of_sent_eq rfl
  | clientSyncShineBag socket =>
      simp only [runTask]
      generalize missingShines _ socket = missing
      cases missing <;> exact .of_sent_eq rfl
  | sendShines socket shines =>
      cases shines with
      | nil => exact .of_sent_eq rfl
      | cons shine rest =>
          simp only [runTask, sendShine]
          split_ifs
          · refine ⟨_, rfl, fun message member => ?_⟩
            obtain ⟨_, rfl⟩ := mem_write member
            exact .shineSync index shine rest rfl rfl found rfl
          · exact .of_sent_eq rfl
  | recordShine socket shine rest => exact .of_sent_eq rfl

theorem dispatch_writes {state next : ServerState} {runtime : Runtime} {socket : SocketId}
    {now : Nat} (taken : state.dispatch runtime socket now = some next)
    : Writes runtime state (.dispatch socket now) next := by
  obtain ⟨memory, dispatching, rfl⟩ := dispatch_cases taken
  obtain ⟨copies, made, _, sent⟩ := state.dispatchFrame_sent runtime now socket memory
  refine ⟨_, sent.trans (List.append_assoc _ _ _), fun message member => ?_⟩
  rcases List.mem_append.mp member with copied | passedOn
  · obtain ⟨cause, copy⟩ := made message copied
    exact .handler socket now memory cause rfl dispatching copy
  · split_ifs at passedOn with handled
    · exact absurd passedOn List.not_mem_nil
    · obtain ⟨recipient, isOpen, cause, header, read, relayed⟩ := mem_broadcastMemory passedOn
      exact .relay socket now memory header cause rfl dispatching read relayed handled recipient
        isOpen

theorem replay_writes {state next : ServerState} {runtime : Runtime} {socket other : SocketId}
    (taken : state.replay runtime socket other = some next)
    : Writes runtime state (.replay socket other) next := by
  obtain ⟨memory, others, faulted, threw, _, _, _, rfl⟩ := replay_cases taken
  refine ⟨_, rfl, fun message member => ?_⟩
  obtain ⟨frame, announced, sent⟩ := List.mem_flatMap.mp member
  obtain ⟨packet, body, kind, rfl, length⟩ := mem_announcement announced
  obtain ⟨_, header, relayed, read, cut, rfl⟩ := mem_sendMemory sent
  rw [PacketHeader.deserialize_octets, Option.some.injEq] at read
  subst read
  rw [relayedFrame_whole (by rw [length, toInt_typedHeader_packetSize])] at cut
  obtain rfl := Option.some.inj cut
  exact .replay other packet body rfl rfl kind rfl length

theorem sent_silent {state next : ServerState} {runtime : Runtime} {event : Event}
    (silent : event.silent = true) (taken : state.step runtime event = some next)
    : next.sent = state.sent := by
  cases event with
  | receive socket memory =>
      obtain ⟨_, _, _, _, _, rfl⟩ := receive_cases taken
      rfl
  | endRead socket =>
      obtain ⟨_, rfl⟩ := endRead_cases taken
      rfl
  | join socket =>
      obtain ⟨memory, connect, header, _, _, _, refused | refused | taken | entered⟩ :=
        join_cases taken
      · obtain ⟨_, rfl⟩ := refused
        rfl
      · obtain ⟨_, _, _, rfl⟩ := refused
        rfl
      · obtain ⟨_, _, oldClient, _, rfl⟩ := taken
        exact (state.takeOver_rest socket memory connect oldClient).2.2.2
      · obtain ⟨_, _, missing, rfl⟩ := entered
        rw [register_eq memory connect missing]
        rfl
  | snapshot socket =>
      obtain ⟨_, _, _, _, rfl⟩ := snapshot_cases taken
      rfl
  | replayDone socket =>
      obtain ⟨_, _, _, _, ⟨_, rfl⟩ | ⟨_, _, rfl⟩⟩ := replayDone_cases taken <;> rfl
  | epilogue socket =>
      obtain ⟨_, rfl⟩ := epilogue_cases taken
      dsimp only
      split_ifs <;> rfl
  | close socket =>
      obtain ⟨_, rfl⟩ := close_cases taken
      rfl
  | timer =>
      obtain rfl := Option.some.inj taken
      exact state.syncShineBag_sent
  | maxPlayers count =>
      obtain rfl := Option.some.inj taken
      exact (state.setMaxPlayers_rest count).2.2.2
  | shineClear =>
      obtain rfl := Option.some.inj taken
      exact state.shineClear_sent
  | configure settings =>
      obtain rfl := Option.some.inj taken
      rfl
  | startGameMode =>
      obtain rfl := Option.some.inj taken
      rfl
  | _ => cases silent

/-- Every step only adds justified writes. -/
theorem step_writes {state next : ServerState} {runtime : Runtime} {event : Event}
    (taken : state.step runtime event = some next)
    : Writes runtime state event next := by
  cases event with
  | accept socket remote =>
      obtain ⟨_, writes, rfl, greets⟩ := accept_cases taken
      refine ⟨writes, rfl, fun message member => ?_⟩
      obtain ⟨cause, packet, kind, data⟩ := greets message member
      exact .greeting packet cause kind data
  | clientJoined socket =>
      obtain ⟨memory, _, ⟨_, rfl⟩ | ⟨_, metadata, writes, rfl, _, tells⟩⟩ :=
        clientJoined_cases taken
      · exact .of_sent_eq rfl
      · refine ⟨writes, rfl, fun message member => ?_⟩
        obtain ⟨other, packet, _, cause, data⟩ := tells message member
        exact .lastGame other packet cause data
  | replay socket other => exact replay_writes taken
  | dispatch socket now => exact dispatch_writes taken
  | task index =>
      obtain ⟨pending, found, rfl⟩ := task_cases taken
      exact runTask_writes found
  | ban socket =>
      obtain ⟨_, _, packet, originated, rfl⟩ := ban_cases taken
      refine ⟨_, rfl, fun message member => ?_⟩
      obtain ⟨_, rfl⟩ := mem_write member
      exact .server _ packet rfl originated rfl
  | sendFromServer socket packet =>
      simp only [step, sendFromServer] at taken
      split_ifs at taken with allowed
      obtain rfl := Option.some.inj taken
      refine ⟨_, rfl, fun message member => ?_⟩
      obtain ⟨_, rfl⟩ := mem_write member
      exact .server _ packet rfl allowed.1 rfl
  | broadcastFromServer packet =>
      simp only [step, broadcastFromServer] at taken
      split_ifs at taken with allowed
      obtain rfl := Option.some.inj taken
      refine ⟨_, rfl, fun message member => ?_⟩
      obtain ⟨_, cause, data⟩ := mem_broadcastToAll member
      exact .server _ packet cause allowed data
  | broadcastForClient socket packet =>
      simp only [step, broadcastForClient] at taken
      split_ifs at taken with allowed
      obtain rfl := Option.some.inj taken
      refine ⟨_, rfl, fun message member => ?_⟩
      obtain ⟨_, cause, data⟩ := mem_broadcastPacket member
      exact .server _ packet cause allowed.1 data
  | _ => exact .of_sent_eq (sent_silent rfl taken)

end ServerState

end SmoOnline
