import SmoOnline.Server.Quiet

/-! What each event of a handler needs and what it leaves, one statement for each event. -/

namespace SmoOnline

open Span Utf8

/-- The server's own sends. -/
def Event.isServerSend : Event → Bool
  | .sendFromServer .. | .broadcastFromServer _ | .broadcastForClient .. => true
  | _ => false

/-- Events that change no more than sessions and what was sent. -/
def Event.bare : Event → Bool
  | .accept .. | .receive .. | .endRead _ | .snapshot _ | .replay .. | .replayDone _ => true
  | .close _ => true
  | event => event.isServerSend

namespace ServerState

variable {state next : ServerState} {runtime : Runtime} {socket : SocketId}

theorem accept_cases {remote : IPEndPoint} (taken : state.accept runtime socket remote = some next)
    : (state.session socket).phase = .idle
      ∧ ∃ writes,
          next
          = (state.setSession socket {
              phase := .reading true
              socketConnected := true
              remote
              profile := socket
            }).emit writes
          ∧ ∀ message ∈ writes,
              message.cause = .greeting
              ∧ ∃ packet, packet.kind = .init
                ∧ message.data = runtime.typedFrame .empty packet := by
  unfold accept at taken
  split at taken
  · next idle =>
      obtain rfl := Option.some.inj taken
      refine ⟨idle, _, rfl, fun message member => ?_⟩
      simp only [sendPacket, write] at member
      split_ifs at member
      · obtain rfl := List.mem_singleton.mp member
        exact ⟨rfl, _, rfl, rfl⟩
      · exact absurd member List.not_mem_nil
  · cases taken

theorem receive_cases {memory : Bytes} (taken : state.receive runtime socket memory = some next)
    : ∃ first header,
        (state.session socket).phase = .reading first
        ∧ PacketHeader.deserialize memory = some header
        ∧ memory.length = runtime.rent (headerSize + header.packetSize.toInt.toNat)
        ∧ next
          = state.setPhase socket
              (match inbound first (state.session socket).id memory with
                | .refused => .failing
                | .joining connect => .connecting memory connect
                | .packet => .dispatching memory) := by
  unfold receive at taken
  split at taken
  · next first header reading read =>
      split_ifs at taken with length
      exact ⟨first, header, reading, read, length, (Option.some.inj taken).symm⟩
  · cases taken

theorem endRead_cases (taken : state.endRead socket = some next)
    : (∃ first, (state.session socket).phase = .reading first)
      ∧ next = (state.disconnect socket).setPhase socket .failing := by
  unfold endRead at taken
  split at taken
  · next first reading => exact ⟨⟨first, reading⟩, (Option.some.inj taken).symm⟩
  · cases taken

/-- A join is refused for a full server or an invalid connection type; otherwise the client
takes over the entry of its Id or is registered.
-/
theorem join_cases (taken : state.join socket = some next)
    : ∃ memory connect header,
        (state.session socket).phase = .connecting memory connect
        ∧ state.lockHolder = none
        ∧ PacketHeader.deserialize memory = some header
        ∧ ((state.connectedClients.length = state.settings.server.maxPlayers.toNat
              ∧ next = state.setPhase socket .failing)
          ∨ (state.connectedClients.length ≠ state.settings.server.maxPlayers.toNat
              ∧ connect.connectionType ≠ .firstConnection
              ∧ connect.connectionType ≠ .reconnecting
              ∧ next = state.setPhase socket .failing)
          ∨ (state.connectedClients.length ≠ state.settings.server.maxPlayers.toNat
              ∧ (connect.connectionType = .firstConnection
                ∨ connect.connectionType = .reconnecting)
              ∧ ∃ oldClient,
                  state.findExistingClient header.id = some oldClient
                  ∧ next = state.takeOver socket memory connect oldClient)
          ∨ (state.connectedClients.length ≠ state.settings.server.maxPlayers.toNat
              ∧ (connect.connectionType = .firstConnection
                ∨ connect.connectionType = .reconnecting)
              ∧ state.findExistingClient header.id = none
              ∧ next = state.register socket memory connect header.id)) := by
  unfold join at taken
  split at taken
  · next memory connect connecting free =>
      split at taken
      · cases taken
      · next header read =>
          refine ⟨memory, connect, header, connecting, free, read, ?_⟩
          split_ifs at taken with full invalid
          · exact .inl ⟨full, (Option.some.inj taken).symm⟩
          · simp only [Bool.and_eq_true, bne_iff_ne, ne_eq] at invalid
            exact .inr (.inl ⟨full, invalid.1, invalid.2, (Option.some.inj taken).symm⟩)
          · have valid
                : connect.connectionType = .firstConnection
                  ∨ connect.connectionType = .reconnecting := by
              by_contra neither
              simp only [not_or] at neither
              exact invalid (by simp [neither])
            split at taken
            · next oldClient found =>
                exact .inr (.inr (.inl
                  ⟨full, valid, oldClient, found, (Option.some.inj taken).symm⟩))
            · next missing =>
                exact .inr (.inr (.inr ⟨full, valid, missing, (Option.some.inj taken).symm⟩))
  · cases taken

/-- `ClientJoined` throws for a banned player and otherwise fills in the metadata of a new
one and sends the last game packets.
-/
theorem clientJoined_cases (taken : state.clientJoined runtime socket = some next)
    : ∃ memory,
        (state.session socket).phase = .calling memory
        ∧ ((state.banned socket = true
              ∧ next = { state with lockHolder := none }.setPhase socket .failing)
          ∨ (state.banned socket = false
              ∧ ∃ metadata writes,
                  next
                  = (({ state with lockHolder := none }.setMetadata socket metadata).emit
                      writes).setPhase socket (.joined memory)
                  ∧ metadata
                    = { state.metadata socket with
                        shineSync := some []
                        loadedSave := some false
                        scenario := some 0
                        is2d := some false
                        speedrun := some false }
                  ∧ ∀ message ∈ writes,
                      ∃ other packet,
                        message.socket = socket
                        ∧ message.cause = .lastGame other
                        ∧ message.data
                          = runtime.typedFrame (state.session other).id (.game packet))) := by
  unfold clientJoined at taken
  split at taken
  · next memory calling =>
      refine ⟨memory, calling, ?_⟩
      split_ifs at taken with banned
      · exact .inl ⟨banned, (Option.some.inj taken).symm⟩
      · refine .inr ⟨Bool.eq_false_iff.mpr banned, _, _, (Option.some.inj taken).symm, rfl, ?_⟩
        intro message member
        obtain ⟨other, _, sent⟩ := List.mem_flatMap.mp member
        split at sent
        · exact absurd sent List.not_mem_nil
        · next packet found =>
            simp only [sendPacket, write] at sent
            split_ifs at sent
            · obtain rfl := List.mem_singleton.mp sent
              exact ⟨other, packet, rfl, rfl, rfl⟩
            · exact absurd sent List.not_mem_nil
  · cases taken

theorem snapshot_cases (taken : state.snapshot socket = some next)
    : ∃ memory header,
        (state.session socket).phase = .joined memory
        ∧ PacketHeader.deserialize memory = some header
        ∧ next
          = state.setPhase socket
              (.replaying memory (state.otherConnectedPlayers header.id) false) := by
  unfold snapshot at taken
  split at taken
  · next memory joined =>
      split at taken
      · cases taken
      · next header read => exact ⟨memory, header, joined, read, (Option.some.inj taken).symm⟩
  · cases taken

theorem replay_cases {other : SocketId} (taken : state.replay runtime socket other = some next)
    : ∃ memory others faulted threw,
        (state.session socket).phase = .replaying memory others faulted
        ∧ other ∈ others
        ∧ threw
          = (!(announcement runtime state.settings.server.maxPlayers (state.session other).id
                (state.name other) (state.session other).currentCostume).2
              || !(state.session socket).socketConnected)
        ∧ next
          = (state.emit
              ((announcement runtime state.settings.server.maxPlayers (state.session other).id
                (state.name other) (state.session other).currentCostume).1.flatMap
                (fun frame => state.sendMemory socket frame (.replay other)))).setPhase socket
              (.replaying memory (others.erase other) (faulted || threw)) := by
  unfold replay at taken
  split at taken
  · next memory others faulted replaying =>
      split_ifs at taken with member
      exact ⟨memory, others, faulted, _, replaying, member, rfl, (Option.some.inj taken).symm⟩
  · cases taken

theorem replayDone_cases (taken : state.replayDone socket = some next)
    : ∃ memory others faulted,
        (state.session socket).phase = .replaying memory others faulted
        ∧ ((faulted = true ∧ next = state.setPhase socket .failing)
          ∨ (faulted = false ∧ others = []
            ∧ next = state.setPhase socket (.dispatching memory))) := by
  unfold replayDone at taken
  split at taken
  · next memory others faulted replaying =>
      refine ⟨memory, others, faulted, replaying, ?_⟩
      split_ifs at taken with threw finished
      · exact .inl ⟨threw, (Option.some.inj taken).symm⟩
      · exact .inr ⟨Bool.eq_false_iff.mpr threw, List.isEmpty_iff.mp finished,
          (Option.some.inj taken).symm⟩
  · cases taken

theorem dispatch_cases {now : Nat} (taken : state.dispatch runtime socket now = some next)
    : ∃ memory,
        (state.session socket).phase = .dispatching memory
        ∧ next
          = (state.dispatchFrame runtime now socket memory).setPhase socket
              (.reading false) := by
  unfold dispatch at taken
  split at taken
  · next memory dispatching => exact ⟨memory, dispatching, (Option.some.inj taken).symm⟩
  · cases taken

theorem epilogue_cases (taken : state.epilogue socket = some next)
    : (state.session socket).phase = .failing
      ∧ next
        = (let ended := state.setSession socket {
              state.session socket with
              phase := .ended
              connected := false
              socketConnected := false
            }
          if (state.session socket).connected then ended.addTask (.farewell socket)
          else ended) := by
  unfold epilogue at taken
  split at taken
  · next failing => exact ⟨failing, (Option.some.inj taken).symm⟩
  · cases taken

theorem task_cases {index : Nat} (taken : state.task runtime index = some next)
    : ∃ pending,
        state.tasks[index]? = some pending
        ∧ next
          = { state with tasks := state.tasks.eraseIdx index }.runTask runtime pending := by
  unfold task at taken
  split at taken
  · cases taken
  · next pending found => exact ⟨pending, found, (Option.some.inj taken).symm⟩

theorem close_cases (taken : state.close socket = some next)
    : (state.session socket).phase ≠ .idle ∧ next = state.disconnect socket := by
  unfold close at taken
  split at taken
  · cases taken
  · next accepted =>
      exact ⟨fun idle => accepted idle, (Option.some.inj taken).symm⟩

/-- A ban tells the player, writes down who it is and closes the socket. -/
theorem ban_cases (taken : state.ban runtime socket = some next)
    : socket ∈ state.clients
      ∧ ∃ settings packet,
          packet.kind.originated = true
          ∧ next
            = ({ state.emit
                  (state.sendPacket runtime socket (state.session socket).id packet .server) with
                settings } : ServerState).disconnect socket := by
  unfold ban at taken
  split_ifs at taken with allowed
  exact ⟨allowed.1, _, _, rfl, (Option.some.inj taken).symm⟩

/-- What the server itself sends is added to what was sent, and nothing else changes. -/
theorem server_send_cases {event : Event} (own : event.isServerSend = true)
    (taken : state.step runtime event = some next)
    : ∃ writes, next = state.emit writes := by
  cases event with
  | sendFromServer socket packet =>
      simp only [step, sendFromServer] at taken
      split_ifs at taken
      exact ⟨_, (Option.some.inj taken).symm⟩
  | broadcastFromServer packet =>
      simp only [step, broadcastFromServer] at taken
      split_ifs at taken
      exact ⟨_, (Option.some.inj taken).symm⟩
  | broadcastForClient socket packet =>
      simp only [step, broadcastForClient] at taken
      split_ifs at taken
      exact ⟨_, (Option.some.inj taken).symm⟩
  | _ => cases own

/-- What a bare event leaves of a state. -/
theorem bare_cases {event : Event} (bare : event.bare = true)
    (taken : state.step runtime event = some next)
    : ∃ session sent, next = { state with session, sent } := by
  cases event with
  | accept socket remote =>
      obtain ⟨-, writes, rfl, -⟩ := accept_cases taken
      exact ⟨_, _, rfl⟩
  | receive socket memory =>
      obtain ⟨_, _, -, -, -, rfl⟩ := receive_cases taken
      exact ⟨_, _, rfl⟩
  | endRead socket =>
      obtain ⟨-, rfl⟩ := endRead_cases taken
      exact ⟨_, _, rfl⟩
  | snapshot socket =>
      obtain ⟨_, _, -, -, rfl⟩ := snapshot_cases taken
      exact ⟨_, _, rfl⟩
  | replay socket other =>
      obtain ⟨_, _, _, _, -, -, -, rfl⟩ := replay_cases taken
      exact ⟨_, _, rfl⟩
  | replayDone socket =>
      obtain ⟨_, _, _, -, ⟨-, rfl⟩ | ⟨-, -, rfl⟩⟩ := replayDone_cases taken
      · exact ⟨_, _, rfl⟩
      · exact ⟨_, _, rfl⟩
  | close socket =>
      obtain ⟨-, rfl⟩ := close_cases taken
      exact ⟨_, _, rfl⟩
  | sendFromServer _ _ | broadcastFromServer _ | broadcastForClient _ _ =>
      obtain ⟨writes, rfl⟩ := server_send_cases rfl taken
      exact ⟨_, _, rfl⟩
  | _ => cases bare

end ServerState

end SmoOnline
