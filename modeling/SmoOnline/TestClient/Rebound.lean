import Mathlib.Data.List.Perm.Subperm
import SmoOnline.Library.Delimited
import SmoOnline.Server.Framing
import SmoOnline.Server.Relay
import SmoOnline.TestClient.Program

/-! What the test clients give back: of what the server has sent to one of them, each packet at most
once and, but for the players' movements that it keeps back for a second, in their order; and along
the chain nothing that the player at its end has not sent.
-/

namespace SmoOnline

open Span Utf8 Runs Delimited

-----------------------------------------------------------------------------------------
-- Whole frames
-----------------------------------------------------------------------------------------

theorem PacketHeader.deserialize_append {data : Bytes} {header : PacketHeader}
    (read : deserialize data = some header) (rest : Bytes)
    : deserialize (data ++ rest) = some header := by
  have front : header.octets ++ data.drop headerSize = data := by
    rw [octets_of_deserialize read, List.take_append_drop]
  rw [← front, List.append_assoc, deserialize_octets]

/-- A whole frame tells where it ends. -/
theorem delimits_wholeFrame {frame : Bytes} (whole : WellFormed frame)
    : Delimits wholeFrame frame := by
  intro rest
  obtain ⟨header, read, nonneg, length⟩ := whole
  rw [wholeFrame, PacketHeader.deserialize_append read]
  dsimp only
  rw [← length, if_pos (by simp), List.take_left]

theorem wholeFrame_front {stream frame : Bytes} (cut : wholeFrame stream = some frame)
    : frame ++ stream.drop frame.length = stream := by
  unfold wholeFrame at cut
  split at cut
  · cases cut
  next header read =>
    dsimp only at cut
    split_ifs at cut with inside
    obtain rfl := Option.some.inj cut
    rw [List.length_take_of_le inside, List.take_append_drop]

/-- The header of a stream is that of the frame at its front. -/
theorem deserialize_front {stream frame : Bytes} (cut : wholeFrame stream = some frame)
    (whole : WellFormed frame)
    : PacketHeader.deserialize stream = PacketHeader.deserialize frame := by
  obtain ⟨header, read, -⟩ := whole
  rw [read, ← wholeFrame_front cut, PacketHeader.deserialize_append read]

/-- A memory that begins with a frame has its header. -/
theorem deserialize_of_front {memory frame : Bytes} {header : PacketHeader}
    (front : memory.take frame.length = frame)
    (read : PacketHeader.deserialize frame = some header)
    : PacketHeader.deserialize memory = some header ∧ frame.length ≤ memory.length := by
  have parts : frame ++ memory.drop frame.length = memory := by
    conv_rhs => rw [← List.take_append_drop frame.length memory, front]
  constructor
  · rw [← parts]
    exact PacketHeader.deserialize_append read _
  · rw [← parts, List.length_append]
    exact Nat.le_add_right _ _

/-- What a handler holds of a whole frame that its memory begins with is the frame. -/
theorem heldFrame_of_front {memory frame : Bytes} (whole : WellFormed frame)
    (front : memory.take frame.length = frame)
    : heldFrame memory = some frame := by
  obtain ⟨header, read, nonneg, length⟩ := whole
  obtain ⟨again, inside⟩ := deserialize_of_front front read
  rw [heldFrame, again, Option.bind_some, relayedFrame]
  rw [if_pos (by omega), Option.some_inj]
  have stop : ((headerSize : Int) + header.packetSize.toInt).toNat = frame.length := by omega
  rw [stop, front]

-----------------------------------------------------------------------------------------
-- What a test client has written
-----------------------------------------------------------------------------------------

/-- What is given back of a frame. -/
def TestRole.copy (role : TestRole) (frame : Bytes) : Option Bytes :=
  (PacketHeader.deserialize frame).bind fun header =>
    if role.follows header then
      some ({ header with id := role.ownId }.octets ++ frame.drop headerSize)
    else none

/-- The frame is whole and under the test client's own Id. -/
def TestRole.IsOwn (role : TestRole) (frame : Bytes) : Prop :=
  WellFormed frame
  ∧ ∃ header, PacketHeader.deserialize frame = some header ∧ header.id = role.ownId

/-- The frame is not kept back. -/
def atOnce (frame : Bytes) : Bool :=
  !(PacketHeader.deserialize frame).any fun header => header.type = .player

theorem WellFormed.withHeader {frame : Bytes} {header : PacketHeader}
    (whole : WellFormed frame) (own : PacketHeader)
    (read : PacketHeader.deserialize frame = some header)
    (counts : own.packetSize = header.packetSize)
    : WellFormed (own.octets ++ frame.drop headerSize) := by
  obtain ⟨counted, again, nonneg, length⟩ := whole
  obtain rfl := Option.some.inj (read.symm.trans again)
  refine ⟨own, PacketHeader.deserialize_octets _ _, counts ▸ nonneg, ?_⟩
  rw [List.length_append, PacketHeader.length_octets, List.length_drop, counts]
  omega

theorem TestRole.copy_eq {role : TestRole} {frame : Bytes} {header : PacketHeader}
    (read : PacketHeader.deserialize frame = some header)
    : role.copy frame
      = if role.follows header then
          some ({ header with id := role.ownId }.octets ++ frame.drop headerSize)
        else none := by
  rw [TestRole.copy, read, Option.bind_some]

/-- What is given back of a whole frame is one of the test client's own. -/
theorem TestRole.isOwn_of_copy {role : TestRole} {frame copy : Bytes} (whole : WellFormed frame)
    (copied : role.copy frame = some copy)
    : role.IsOwn copy := by
  obtain ⟨header, read, -⟩ := id whole
  rw [copy_eq read] at copied
  split_ifs at copied
  obtain rfl := Option.some.inj copied
  exact ⟨whole.withHeader _ read rfl, _, PacketHeader.deserialize_octets _ _, rfl⟩

/-- A whole frame in cleared memory is given back whole. -/
theorem TestRole.rebound_eq {role : TestRole} {frame : Bytes} {header : PacketHeader}
    (whole : WellFormed frame) (read : PacketHeader.deserialize frame = some header) (count : Nat)
    : role.rebound (frame ++ zeros count) header
      = some ({ header with id := role.ownId }.octets ++ frame.drop headerSize) := by
  have again := whole.withHeader { header with id := role.ownId } read rfl
  have inside : headerSize ≤ frame.length := by
    obtain ⟨_, _, _, length⟩ := whole
    omega
  have held := @heldFrame_of_front
    ({ header with id := role.ownId }.octets ++ (frame.drop headerSize ++ zeros count)) _ again
    (by rw [← List.append_assoc, List.take_left])
  rw [heldFrame, PacketHeader.deserialize_octets] at held
  rw [TestRole.rebound, List.drop_append_of_le_length inside]
  exact held

namespace TestClient

/-- What a test client has written and keeps back, where `copies` is what it is to give back of what
it has read.
-/
structure Answers (runtime : Runtime) (role : TestRole) (copies : List Bytes) (client : TestClient)
    : Prop where
  idle : client.started = false → client.written = []
  quiet : client.written = [] → client.delayed = [] ∧ (client.started = true → client.ended = true)
  greets
    : ∀ frame ∈ client.written.head?, frame = runtime.typedFrame role.ownId role.connect
  late : ∀ frame ∈ client.delayed, atOnce frame = false
  inOrder : (client.written.tail.filter atOnce).Sublist (copies.filter atOnce)
  once : (client.written.tail ++ client.delayed).Subperm copies

variable {runtime : Runtime} {role : TestRole} {copies heard : List Bytes}
variable {client after : TestClient}

theorem Answers.initial (role : TestRole) : Answers runtime role [] {} where
  idle _ := rfl
  quiet _ := ⟨rfl, nofun⟩
  greets := nofun
  late := nofun
  inOrder := .refl _
  once := .refl _

/-- What is still to be given back may be left out. -/
theorem Answers.more (answers : Answers runtime role copies client) (more : List Bytes)
    : Answers runtime role (copies ++ more) client where
  idle := answers.idle
  quiet := answers.quiet
  greets := answers.greets
  late := answers.late
  inOrder := by
    rw [List.filter_append]
    exact answers.inOrder.trans (List.sublist_append_left _ _)
  once := answers.once.trans (List.sublist_append_left _ _).subperm

theorem Answers.ended (answers : Answers runtime role copies client)
    : Answers runtime role copies { client with ended := true } where
  idle := answers.idle
  quiet empty := ⟨(answers.quiet empty).1, fun _ => rfl⟩
  greets := answers.greets
  late := answers.late
  inOrder := answers.inOrder
  once := answers.once

/-- Positions in the streams do not matter. -/
theorem Answers.moved (answers : Answers runtime role copies client) (taken reached : Nat)
    : Answers runtime role copies { client with taken, reached } where
  idle := answers.idle
  quiet := answers.quiet
  greets := answers.greets
  late := answers.late
  inOrder := answers.inOrder
  once := answers.once

/-- A frame that is written at once is the last that was read. -/
theorem Answers.write {frame : Bytes} (answers : Answers runtime role copies client)
    (begun : client.written ≠ []) (fails : Bool)
    : Answers runtime role (copies ++ [frame]) (client.write frame fails) := by
  cases fails with
  | true => exact (answers.more [frame]).ended
  | false =>
      have tail : (client.written ++ [frame]).tail = client.written.tail ++ [frame] :=
        List.tail_append_of_ne_nil begun
      refine ⟨fun unstarted => absurd (answers.idle unstarted) begun,
        fun empty => by simp [TestClient.write] at empty, ?_, answers.late, ?_, ?_⟩
      · rw [TestClient.write, if_neg Bool.false_ne_true, List.head?_append_of_ne_nil _ begun]
        exact answers.greets
      · rw [TestClient.write, if_neg Bool.false_ne_true, tail, List.filter_append,
          List.filter_append]
        exact answers.inOrder.append (.refl _)
      · rw [TestClient.write, if_neg Bool.false_ne_true, tail, List.append_assoc]
        refine (List.Perm.subperm ?_).trans ((List.subperm_append_right [frame]).mpr answers.once)
        rw [List.append_assoc]
        exact .append_left _ List.perm_append_comm

/-- A frame that is kept back is one of a player. -/
theorem Answers.delay {frame : Bytes} (answers : Answers runtime role copies client)
    (begun : client.written ≠ []) (late : atOnce frame = false)
    : Answers runtime role (copies ++ [frame])
        { client with delayed := client.delayed ++ [frame] } where
  idle unstarted := absurd (answers.idle unstarted) begun
  quiet empty := absurd empty begun
  greets := answers.greets
  late other member := by
    rcases List.mem_append.mp member with before | new
    · exact answers.late other before
    · obtain rfl := List.mem_singleton.mp new
      exact late
  inOrder := (answers.more [frame]).inOrder
  once := by
    rw [← List.append_assoc]
    exact (List.subperm_append_right [frame]).mpr answers.once

theorem Answers.connect (answers : Answers runtime role copies client)
    (taken : client.connect runtime role = some after)
    : Answers runtime role copies after := by
  unfold TestClient.connect at taken
  split_ifs at taken with started
  have empty := answers.idle (by simpa using started)
  have none_delayed := (answers.quiet empty).1
  split at taken
  next memory filled =>
    obtain rfl := Option.some.inj taken
    have frame : memory.take (headerSize + role.connect.size)
        = runtime.typedFrame role.ownId role.connect := by
      rw [Runtime.typedFrame, filled]
    refine ⟨fun unstarted => absurd unstarted.symm Bool.false_ne_true,
      fun written => by simp [TestClient.write] at written, ?_, answers.late, ?_, ?_⟩
    · simp [TestClient.write, empty, frame]
    · simp [TestClient.write, empty]
    · simp [TestClient.write, empty, none_delayed]
  next memory unfilled =>
    obtain rfl := Option.some.inj taken
    exact ⟨fun unstarted => absurd unstarted.symm Bool.false_ne_true,
      fun _ => ⟨none_delayed, fun _ => rfl⟩, answers.greets, answers.late, answers.inOrder,
      answers.once⟩

theorem Answers.rebound {index : Nat} {fails : Bool}
    (answers : Answers runtime role copies client)
    (taken : client.rebound index fails = some after)
    : Answers runtime role copies after := by
  obtain ⟨frame, found, rfl⟩ := Option.map_eq_some_iff.mp taken
  have begun : client.written ≠ [] := by
    intro empty
    rw [(answers.quiet empty).1] at found
    cases found
  have kept_late : ∀ other ∈ client.delayed.eraseIdx index, atOnce other = false :=
    fun other member => answers.late other (List.mem_of_mem_eraseIdx member)
  cases fails with
  | true =>
      refine ⟨fun unstarted => absurd (answers.idle unstarted) begun,
        fun empty => absurd empty begun, answers.greets, kept_late, answers.inOrder, ?_⟩
      exact ((List.eraseIdx_sublist _ _).append_left _).subperm.trans answers.once
  | false =>
      have tail : (client.written ++ [frame]).tail = client.written.tail ++ [frame] :=
        List.tail_append_of_ne_nil begun
      refine ⟨fun unstarted => absurd (answers.idle unstarted) begun, fun empty => by simp at empty,
        ?_, kept_late, ?_, ?_⟩
      · simpa [List.head?_append_of_ne_nil _ begun] using answers.greets
      · have late := answers.late frame (List.mem_of_getElem? found)
        simpa [tail, List.filter_append, late] using answers.inOrder
      · refine (List.Perm.subperm ?_).trans answers.once
        obtain ⟨inside, at_index⟩ := List.getElem?_eq_some_iff.mp found
        simp only [Bool.false_eq_true, if_false, tail, List.append_assoc, List.singleton_append]
        exact .append_left _ (at_index ▸ List.getElem_cons_eraseIdx_perm inside)

/-- A test client has read the first of the frames that it was sent, and answers these. -/
def Follows (runtime : Runtime) (role : TestRole) (heard : List Bytes) (client : TestClient)
    : Prop :=
  ∃ count,
    Boundary heard count client.taken
    ∧ Answers runtime role ((heard.take count).filterMap role.copy) client

theorem Follows.initial (role : TestRole) (heard : List Bytes) : Follows runtime role heard {} :=
  ⟨0, .start heard, .initial role⟩

theorem Follows.more (follows : Follows runtime role heard client) (more : List Bytes)
    : Follows runtime role (heard ++ more) client := by
  obtain ⟨count, boundary, answers⟩ := follows
  refine ⟨count, boundary.append more, ?_⟩
  rwa [List.take_append_of_le_length boundary.inside]

/-- What changes nothing of the position keeps the answers to the same frames. -/
theorem Follows.keeps (follows : Follows runtime role heard client)
    (taken : after.taken = client.taken)
    (keeps : ∀ copies, Answers runtime role copies client → Answers runtime role copies after)
    : Follows runtime role heard after := by
  obtain ⟨count, boundary, answers⟩ := follows
  exact ⟨count, taken ▸ boundary, keeps _ answers⟩

/-- The frame that was read is answered, or left alone. -/
theorem Answers.handle {frame : Bytes} {header : PacketHeader} {count : Nat} {fails : Bool}
    (answers : Answers runtime role copies client) (begun : client.written ≠ [])
    (whole : WellFormed frame) (read : PacketHeader.deserialize frame = some header)
    : Answers runtime role (copies ++ (role.copy frame).toList)
        (client.handle role (frame ++ zeros count) header fails) := by
  rw [TestClient.handle, role.copy_eq read, role.rebound_eq whole read]
  cases followed : role.follows header with
  | false => simpa using answers
  | true =>
      by_cases player : header.type = .player
      · simp only [Bool.not_true, Bool.false_eq_true, if_false, if_true, player]
        exact answers.delay begun (by simp [atOnce])
      · simp only [Bool.not_true, Bool.false_eq_true, if_false, if_true, player]
        exact answers.write begun fails

theorem taken_handle {frame : Bytes} {header : PacketHeader} {fails : Bool}
    : (client.handle role frame header fails).taken = client.taken := by
  unfold TestClient.handle TestClient.write
  split_ifs
  · rfl
  · rfl
  · cases role.rebound frame header <;> rfl
  · cases role.rebound frame header <;> rfl

/-- One turn of the loop answers the next frame. -/
theorem Follows.read {fails : Bool} (whole : ∀ frame ∈ heard, WellFormed frame)
    (follows : Follows runtime role heard client)
    (taken : client.read runtime role heard.flatten fails = some after)
    : Follows runtime role heard after := by
  obtain ⟨count, boundary, answers⟩ := follows
  unfold TestClient.read at taken
  split_ifs at taken with idle
  split at taken
  · cases taken
  next header read =>
    split_ifs at taken with tooLong
    · obtain rfl := Option.some.inj taken
      exact ⟨count, boundary, answers.ended⟩
    · obtain ⟨frame, cut, rfl⟩ := Option.map_eq_some_iff.mp taken
      obtain ⟨found, behind⟩ :=
        boundary.next (fun item member => delimits_wholeFrame (whole item member)) rfl cut
      have begun : client.written ≠ [] := by
        intro empty
        have ended := (answers.quiet empty).2
        simp_all
      have frame_whole := whole frame (List.mem_of_getElem? found)
      have frame_read : PacketHeader.deserialize frame = some header := by
        rw [← deserialize_front cut frame_whole, read]
      refine ⟨count + 1, taken_handle.symm ▸ behind, ?_⟩
      rw [List.take_add_one, found, List.filterMap_append]
      exact (answers.moved (client.taken + frame.length) client.reached).handle begun frame_whole
        frame_read

/-- All that a test client has written is whole and under its own Id. -/
theorem Follows.own (whole : ∀ frame ∈ heard, WellFormed frame)
    (follows : Follows runtime role heard client)
    : ∀ frame ∈ client.written, role.IsOwn frame := by
  obtain ⟨count, -, answers⟩ := follows
  intro frame member
  cases written : client.written with
  | nil => simp [written] at member
  | cons first rest =>
      rw [written] at member
      rcases List.mem_cons.mp member with rfl | later
      · obtain rfl := answers.greets frame (by rw [written]; rfl)
        exact ⟨runtime.wellFormed_typedFrame _ _, _, runtime.deserialize_typedFrame _ _, rfl⟩
      · have given := answers.once.subset (List.mem_append_left _ (by rwa [written]))
        obtain ⟨original, told, copied⟩ := List.mem_filterMap.mp given
        exact TestRole.isOwn_of_copy (whole original (List.mem_of_mem_take told)) copied

end TestClient

-----------------------------------------------------------------------------------------
-- What the server has read of a test client
-----------------------------------------------------------------------------------------

/-- The handler is on its way out. -/
def Phase.isOver : Phase → Bool
  | .failing | .ended => true
  | _ => false

/-- The frame that a handler has read and not dispatched. -/
def Phase.pending (phase : Phase) : List Bytes := (phase.memory.bind heldFrame).toList

/-- The server has read the first of the frames of a test client, and has dispatched these, but for
the one that its handler holds and those of a handler on its way out.
-/
structure Serves (role : TestRole) (written dispatched : List Bytes) (reached : Nat)
    (session : Session)
    : Prop where
  reads
    : ∃ count,
        Boundary written count reached
        ∧ (dispatched ++ session.phase.pending = written.take count
          ∨ session.phase.isOver = true ∧ dispatched <+: written)
  fresh : session.phase.fresh = true → dispatched = []
  id : session.phase.seated = true → session.id = role.ownId

namespace Serves

variable {role : TestRole} {written dispatched : List Bytes} {reached : Nat}
variable {session after : Session}

theorem initial (role : TestRole) (socket : SocketId) (written : List Bytes)
    : Serves role written [] 0 { profile := socket } where
  reads := ⟨0, .start written, .inl rfl⟩
  fresh _ := rfl
  id := nofun

/-- What was dispatched was written first. -/
theorem dispatched_first (serves : Serves role written dispatched reached session)
    : dispatched <+: written := by
  obtain ⟨count, -, all | ⟨-, first⟩⟩ := serves.reads
  · exact (List.prefix_append _ _).trans (all ▸ List.take_prefix _ _)
  · exact first

theorem more (serves : Serves role written dispatched reached session) (more : List Bytes)
    : Serves role (written ++ more) dispatched reached session where
  reads := by
    obtain ⟨count, boundary, dispatches⟩ := serves.reads
    refine ⟨count, boundary.append more, ?_⟩
    rw [List.take_append_of_le_length boundary.inside]
    exact dispatches.imp_right fun stopped => ⟨stopped.1, stopped.2.trans (List.prefix_append _ _)⟩
  fresh := serves.fresh
  id := serves.id

/-- A handler that still holds what it held goes on. -/
theorem goes_on (serves : Serves role written dispatched reached session)
    (running : session.phase.isOver = false) (memory : after.phase.memory = session.phase.memory)
    (fresh : after.phase.fresh = true → session.phase.fresh = true)
    (id : after.phase.seated = true → after.id = role.ownId)
    : Serves role written dispatched reached after where
  reads := by
    obtain ⟨count, boundary, all | ⟨stopped, -⟩⟩ := serves.reads
    · refine ⟨count, boundary, .inl ?_⟩
      rw [Phase.pending, memory]
      exact all
    · rw [running] at stopped
      cases stopped
  fresh is_fresh := serves.fresh (fresh is_fresh)
  id := id

theorem leaves (serves : Serves role written dispatched reached session)
    (stopped : after.phase = .failing ∨ after.phase = .ended)
    : Serves role written dispatched reached after where
  reads := by
    have ⟨count, boundary, _⟩ := serves.reads
    refine ⟨count, boundary, .inr ⟨?_, serves.dispatched_first⟩⟩
    rcases stopped with phase | phase <;> rw [phase] <;> rfl
  fresh is_fresh := by
    rcases stopped with phase | phase <;> rw [phase] at is_fresh <;> cases is_fresh
  id seated := by rcases stopped with phase | phase <;> rw [phase] at seated <;> cases seated

theorem congr (serves : Serves role written dispatched reached session)
    (same : SameSeat session after)
    : Serves role written dispatched reached after where
  reads := by rw [same.phase]; exact serves.reads
  fresh := by rw [same.phase]; exact serves.fresh
  id := by rw [same.phase, same.id]; exact serves.id

/-- The Connect frame of a test client is the one that its handler joins with. -/
theorem joins_as {state : ServerState} {socket : SocketId} {memory : Bytes}
    {connect : ConnectPacket} {header : PacketHeader}
    (serves : Serves role written dispatched reached (state.session socket))
    (own : ∀ frame ∈ written, role.IsOwn frame) (seated : Seated state)
    (was : (state.session socket).phase = .connecting memory connect)
    (read : PacketHeader.deserialize memory = some header)
    : header.id = role.ownId := by
  obtain ⟨counted, greets⟩ := (seated.sound socket).connecting memory connect was
  obtain rfl := Option.some.inj (read.symm.trans greets.framed.read)
  obtain ⟨count, -, all | ⟨stopped, -⟩⟩ := serves.reads
  · have relayed := greets.framed.relayedFrame
    have held : heldFrame memory = relayedFrame memory header := by
      rw [heldFrame, read, Option.bind_some]
    rw [relayed] at held
    rw [was, Phase.pending, Phase.memory, Option.bind_some, held] at all
    have member : memory.take ((headerSize : Int) + header.packetSize.toInt).toNat ∈ written :=
      List.mem_of_mem_take (i := count) (by rw [← all]; simp)
    obtain ⟨-, again, same, id⟩ := own _ member
    rw [deserialize_relayedFrame read relayed greets.whole] at same
    exact Option.some.inj same ▸ id
  · rw [was] at stopped
    cases stopped

/-- What neither reads a frame nor dispatches one leaves it to what was dispatched. -/
theorem change {state : ServerState} {socket : SocketId} {event : Event}
    (serves : Serves role written dispatched reached (state.session socket))
    (own : ∀ frame ∈ written, role.IsOwn frame) (seated : Seated state)
    (change : Change state socket after event)
    (unread : ∀ memory, event ≠ .receive socket memory)
    (undispatched : ∀ now, event ≠ .dispatch socket now)
    : Serves role written dispatched reached after := by
  have same_id (id : after.id = (state.session socket).id)
      (joined : (state.session socket).phase.seated = true)
      : after.phase.seated = true → after.id = role.ownId :=
    fun _ => id.trans (serves.id joined)
  cases change with
  | accept was phase =>
      exact serves.goes_on (by rw [was]; rfl) (by rw [was, phase]; rfl) (fun _ => by rw [was]; rfl)
        (by rw [phase]; nofun)
  | receive => exact absurd rfl (unread _)
  | endRead _ _ phase => exact serves.leaves (.inl phase)
  | refuse _ _ _ phase => exact serves.leaves (.inl phase)
  | enter memory connect header was read phase id =>
      refine serves.goes_on (by rw [was]; rfl) ?_ ?_
        fun _ => id.trans (serves.joins_as own seated was read)
      · rcases phase with phase | phase <;> rw [was, phase] <;> rfl
      · rcases phase with phase | phase <;> rw [phase] <;> nofun
  | clientJoined memory was phase id =>
      split_ifs at phase
      · exact serves.leaves (.inl phase)
      · exact serves.goes_on (by rw [was]; rfl) (by rw [was, phase]; rfl) (by rw [phase]; nofun)
          (same_id id (by rw [was]; rfl))
  | snapshot memory others was phase id =>
      exact serves.goes_on (by rw [was]; rfl) (by rw [was, phase]; rfl) (by rw [phase]; nofun)
        (same_id id (by rw [was]; rfl))
  | replay memory others rest faulted threw was phase id =>
      exact serves.goes_on (by rw [was]; rfl) (by rw [was, phase]; rfl) (by rw [phase]; nofun)
        (same_id id (by rw [was]; rfl))
  | replayDone memory others faulted was phase id =>
      rcases phase with phase | phase
      · exact serves.leaves (.inl phase)
      · exact serves.goes_on (by rw [was]; rfl) (by rw [was, phase]; rfl) (by rw [phase]; nofun)
          (same_id id (by rw [was]; rfl))
  | dispatch => exact absurd rfl (undispatched _)
  | epilogue _ phase => exact serves.leaves (.inr phase)

/-- The checks on a frame of a test client's own find nothing wrong with it. -/
theorem inbound_own {runtime : Runtime} {memory frame : Bytes} {first : Bool} {id : Guid}
    (own : role.IsOwn frame) (front : memory.take frame.length = frame)
    (greets : first = true → frame = runtime.typedFrame role.ownId role.connect)
    (joined : first = false → id = role.ownId)
    : inbound first id memory ≠ .refused := by
  obtain ⟨⟨header, read, nonneg, length⟩, _, again, same⟩ := own
  obtain rfl := Option.some.inj (read.symm.trans again)
  obtain ⟨in_memory, inside⟩ := deserialize_of_front front read
  have stop : ¬(headerSize : Int) + header.packetSize.toInt < 0 := by omega
  rw [inbound, in_memory]
  cases first with
  | false => simp [stop, same, joined rfl]
  | true =>
      rw [greets rfl, runtime.deserialize_typedFrame] at read
      obtain rfl := Option.some.inj read
      have size : (typedHeader role.ownId role.connect).packetSize.toInt = ConnectPacket.size :=
        toInt_typedHeader_packetSize _ _
      have type : (typedHeader role.ownId role.connect).type = .connect := rfl
      rw [size] at length stop
      have payload := @ConnectPacket.deserialize_eq
        (slice memory headerSize (headerSize + ConnectPacket.size))
        (by rw [length_slice (by omega)]; omega)
      have sliced := @slice?_eq_some memory headerSize (headerSize + ConnectPacket.size)
        (Nat.le_add_right _ _) (by omega)
      have whole
          : ((headerSize : Int) + (ConnectPacket.size : Int)).toNat
            = headerSize + ConnectPacket.size := by
        omega
      simp only [size, type, stop, whole, sliced, payload, if_false, if_true, Option.bind_some,
        bne_self_eq_false, Bool.false_eq_true]
      intro refused
      cases refused

/-- The frame that the handler of a test client reads next comes after what it dispatched, and it is
the first one where nothing was read.
-/
theorem reads_next {frame : Bytes} {first : Bool}
    (serves : Serves role written dispatched reached session)
    (own : ∀ frame ∈ written, role.IsOwn frame)
    (cut : wholeFrame (written.flatten.drop reached) = some frame)
    (was : session.phase = .reading first)
    : ∃ count,
        written[count]? = some frame
        ∧ Boundary written (count + 1) (reached + frame.length)
        ∧ dispatched = written.take count
        ∧ (first = true → written.head? = some frame) := by
  obtain ⟨count, boundary, all | ⟨stopped, -⟩⟩ := serves.reads
  · obtain ⟨found, behind⟩ :=
      boundary.next (fun item member => delimits_wholeFrame (own item member).1) rfl cut
    have none_held : (Phase.reading first).pending = [] := rfl
    rw [was, none_held, List.append_nil] at all
    refine ⟨count, found, behind, all, fun isFirst => ?_⟩
    have none_dispatched := serves.fresh (by rw [was, isFirst]; rfl)
    have zero : count = 0 := by
      have lengths := congrArg List.length all
      rw [none_dispatched, List.length_take_of_le boundary.inside] at lengths
      exact lengths.symm
    rw [List.head?_eq_getElem?, ← zero, found]
  · rw [was] at stopped
    cases stopped

/-- The handler of a test client reads its next frame, and goes on with it. -/
theorem receive {runtime : Runtime} {state : ServerState} {socket : SocketId}
    {memory frame : Bytes} {first : Bool}
    (serves : Serves role written dispatched reached (state.session socket))
    (own : ∀ frame ∈ written, role.IsOwn frame)
    (greets : ∀ frame ∈ written.head?, frame = runtime.typedFrame role.ownId role.connect)
    (cut : wholeFrame (written.flatten.drop reached) = some frame)
    (front : memory.take frame.length = frame)
    (was : (state.session socket).phase = .reading first)
    (phase
      : after.phase
        = (match inbound first (state.session socket).id memory with
          | .refused => .failing
          | .joining connect => .connecting memory connect
          | .packet => .dispatching memory))
    (id : after.id = (state.session socket).id)
    : Serves role written dispatched (reached + frame.length) after ∧ after.phase ≠ .failing := by
  obtain ⟨count, found, behind, all, begins⟩ := serves.reads_next own cut was
  have frame_own := own frame (List.mem_of_getElem? found)
  have joined (later : first = false) : (state.session socket).id = role.ownId :=
    serves.id (by rw [was, later]; rfl)
  have accepted :=
    inbound_own frame_own front (fun isFirst => greets frame (begins isFirst)) joined
  have goes_on (holds : after.phase.memory = some memory)
      : ∃ count,
          Boundary written count (reached + frame.length)
          ∧ (dispatched ++ after.phase.pending = written.take count
            ∨ after.phase.isOver = true ∧ dispatched <+: written) := by
    refine ⟨count + 1, behind, .inl ?_⟩
    rw [Phase.pending, holds, Option.bind_some, heldFrame_of_front frame_own.1 front, all,
      List.take_add_one, found]
  cases outcome : inbound first (state.session socket).id memory with
  | refused => exact absurd outcome accepted
  | joining connect =>
      rw [outcome] at phase
      have isFirst := inbound_joining outcome
      refine ⟨⟨goes_on (by rw [phase]; rfl), fun _ => serves.fresh ?_, ?_⟩, ?_⟩
      · rw [was, isFirst]
        rfl
      · rw [phase]
        nofun
      · rw [phase]
        nofun
  | packet =>
      rw [outcome] at phase
      obtain ⟨later, -⟩ := inbound_packet outcome
      refine ⟨⟨goes_on (by rw [phase]; rfl), ?_, fun _ => id.trans (joined later)⟩, ?_⟩
      · rw [phase]
        nofun
      · rw [phase]
        nofun

/-- What a handler dispatches is what it holds. -/
theorem dispatch {memory : Bytes} (serves : Serves role written dispatched reached session)
    (was : session.phase = .dispatching memory) (phase : after.phase = .reading false)
    (id : after.id = session.id)
    : Serves role written (dispatched ++ session.phase.dispatches.toList) reached after where
  reads := by
    obtain ⟨count, boundary, all | ⟨stopped, -⟩⟩ := serves.reads
    · refine ⟨count, boundary, .inl ?_⟩
      rw [← all, was, phase]
      simp [Phase.pending, Phase.memory, Phase.dispatches]
    · rw [was] at stopped
      cases stopped
  fresh is_fresh := by rw [phase] at is_fresh; cases is_fresh
  id _ := id.trans (serves.id (by rw [was]; rfl))

end Serves

-----------------------------------------------------------------------------------------
-- Runs
-----------------------------------------------------------------------------------------

namespace TestClient

variable {runtime : Runtime} {role : TestRole} {heard : List Bytes} {fails : Bool}
variable {client after : TestClient}

/-- What a step of a test client's own keeps: what it has written stays, and only the server reads
of it.
-/
structure Acts (runtime : Runtime) (role : TestRole) (heard : List Bytes)
    (client after : TestClient)
    : Prop where
  written : client.written <+: after.written
  reached : after.reached = client.reached
  follows
    : (∀ frame ∈ heard, WellFormed frame)
      → Follows runtime role heard client
      → Follows runtime role heard after

theorem acts_connect (taken : client.connect runtime role = some after)
    : Acts runtime role heard client after := by
  have keeps : ∀ copies, Answers runtime role copies client → Answers runtime role copies after :=
    fun _ answers => answers.connect taken
  unfold TestClient.connect at taken
  split_ifs at taken
  split at taken
  all_goals
    obtain rfl := Option.some.inj taken
  · exact ⟨List.prefix_append _ _, rfl, fun _ follows => follows.keeps rfl keeps⟩
  · exact ⟨List.prefix_rfl, rfl, fun _ follows => follows.keeps rfl keeps⟩

theorem written_handle (client : TestClient) {memory : Bytes} {header : PacketHeader}
    : client.written <+: (client.handle role memory header fails).written
      ∧ (client.handle role memory header fails).reached = client.reached := by
  unfold TestClient.handle TestClient.write
  split_ifs
  · exact ⟨List.prefix_rfl, rfl⟩
  · exact ⟨List.prefix_rfl, rfl⟩
  · cases role.rebound memory header <;> exact ⟨List.prefix_rfl, rfl⟩
  · cases role.rebound memory header with
    | none => exact ⟨List.prefix_rfl, rfl⟩
    | some frame => exact ⟨List.prefix_append _ _, rfl⟩

theorem acts_read (taken : client.read runtime role heard.flatten fails = some after)
    : Acts runtime role heard client after := by
  have reads
      : (∀ frame ∈ heard, WellFormed frame)
        → Follows runtime role heard client
        → Follows runtime role heard after :=
    fun whole follows => follows.read whole taken
  unfold TestClient.read at taken
  split_ifs at taken
  split at taken
  · cases taken
  next header read =>
    split_ifs at taken
    · obtain rfl := Option.some.inj taken
      exact ⟨List.prefix_rfl, rfl, reads⟩
    · obtain ⟨frame, -, rfl⟩ := Option.map_eq_some_iff.mp taken
      obtain ⟨written, reached⟩ := { client with taken := client.taken + frame.length }
        |>.written_handle
      exact ⟨written, reached, reads⟩

theorem acts_rebound {index : Nat} (taken : client.rebound index fails = some after)
    : Acts runtime role heard client after := by
  have keeps : ∀ copies, Answers runtime role copies client → Answers runtime role copies after :=
    fun _ answers => answers.rebound taken
  obtain ⟨frame, -, rfl⟩ := Option.map_eq_some_iff.mp taken
  cases fails with
  | true => exact ⟨List.prefix_rfl, rfl, fun _ follows => follows.keeps rfl keeps⟩
  | false => exact ⟨List.prefix_append _ _, rfl, fun _ follows => follows.keeps rfl keeps⟩

theorem acts_lose (taken : client.lose = some after) : Acts runtime role heard client after := by
  unfold TestClient.lose at taken
  split_ifs at taken
  obtain rfl := Option.some.inj taken
  exact ⟨List.prefix_rfl, rfl, fun _ follows => follows.keeps rfl fun _ => .ended⟩

end TestClient

namespace TestSetup

variable {runtime : Runtime} {roles : SocketId → Option TestRole} {setup next : TestSetup}
variable {socket : SocketId} {role : TestRole} {event : Event}

/-- The frames that the handler of a socket has dispatched. -/
def dispatchedBy (setup : TestSetup) (socket : SocketId) : List Bytes :=
  (setup.dispatched.filter fun entry => entry.1 = socket).map Prod.snd

/-- One test client acts, and all else stays. -/
inductive ActsAlone (runtime : Runtime) (roles : SocketId → Option TestRole) (setup : TestSetup)
    : TestSetup → Prop
  | acts (socket : SocketId) (role : TestRole) (after : TestClient)
    (known : roles socket = some role)
    (acts : TestClient.Acts runtime role (setup.heard socket) (setup.testClient socket) after)
    : ActsAlone runtime roles setup (setup.setClient socket after)

theorem actsAlone_ofClient {act : TestRole → TestClient → Option TestClient}
    (acts
      : ∀ role after,
          act role (setup.testClient socket) = some after
          → TestClient.Acts runtime role (setup.heard socket) (setup.testClient socket) after)
    (taken : setup.ofClient roles socket act = some next)
    : ActsAlone runtime roles setup next := by
  obtain ⟨role, known, acted⟩ := Option.bind_eq_some_iff.mp taken
  obtain ⟨after, happened, rfl⟩ := Option.map_eq_some_iff.mp acted
  exact .acts socket role after known (acts role after happened)

theorem server_cases (taken : setup.step runtime roles (.server event) = some next)
    : ∃ carried,
        setup.carry roles event = some carried
        ∧ setup.server.step runtime event = some next.server
        ∧ next = { carried with server := next.server } := by
  obtain ⟨carried, carries, steps⟩ := Option.bind_eq_some_iff.mp taken
  obtain ⟨server, stepped, rfl⟩ := Option.map_eq_some_iff.mp steps
  exact ⟨carried, carries, stepped, rfl⟩

/-- An event is one of the server, or an act of one test client. -/
theorem step_cases {event : TestEvent} (taken : setup.step runtime roles event = some next)
    : (∃ serverEvent, event = .server serverEvent) ∨ ActsAlone runtime roles setup next := by
  cases event with
  | server event => exact .inl ⟨event, rfl⟩
  | connect socket =>
      dsimp only [step] at taken
      exact .inr (actsAlone_ofClient (fun _ _ acted => TestClient.acts_connect acted) taken)
  | read socket fails =>
      dsimp only [step] at taken
      exact .inr (actsAlone_ofClient (fun _ _ acted => TestClient.acts_read acted) taken)
  | rebound socket index fails =>
      dsimp only [step] at taken
      exact .inr (actsAlone_ofClient (fun _ _ acted => TestClient.acts_rebound acted) taken)
  | lose socket =>
      dsimp only [step] at taken
      exact .inr (actsAlone_ofClient (fun _ _ acted => TestClient.acts_lose acted) taken)

/-- The part of the server in a run is a run of the server. -/
theorem server_run {settings : Settings} {shines : List Int32} {events : List TestEvent}
    (run : AnyRun (step runtime roles) (initial settings shines) events setup)
    : ∃ serverEvents,
        AnyRun (ServerState.step runtime) (.initial settings shines) serverEvents
          setup.server := by
  induction run with
  | nil => exact ⟨[], .nil⟩
  | @snoc events setup event next before _ taken ih =>
      obtain ⟨serverEvents, serverRun⟩ := ih
      rcases step_cases taken with ⟨serverEvent, rfl⟩ | ⟨socket, role, after, -, -⟩
      · obtain ⟨carried, -, stepped, -⟩ := server_cases taken
        exact ⟨_, serverRun.snoc trivial stepped⟩
      · exact ⟨serverEvents, serverRun⟩

/-- What a server event makes of a test client and of what its handler has dispatched. -/
inductive Carried (setup : TestSetup) (socket : SocketId) (client : TestClient)
    (dispatched : List Bytes)
    : Event → Prop
  | read (memory frame : Bytes)
    (cut : wholeFrame (setup.testClient socket).unread = some frame)
    (front : memory.take frame.length = frame)
    (reads
      : client
        = { setup.testClient socket with
            reached := (setup.testClient socket).reached + frame.length })
    (same : dispatched = setup.dispatchedBy socket)
    : Carried setup socket client dispatched (.receive socket memory)
  | dispatch (now : Nat) (same : client = setup.testClient socket)
    (dispatches
      : dispatched
        = setup.dispatchedBy socket
          ++ (setup.server.session socket).phase.dispatches.toList)
    : Carried setup socket client dispatched (.dispatch socket now)
  | aside (event : Event) (unread : ∀ memory, event ≠ .receive socket memory)
    (undispatched : ∀ now, event ≠ .dispatch socket now)
    (same : client = setup.testClient socket) (still : dispatched = setup.dispatchedBy socket)
    : Carried setup socket client dispatched event

theorem carry_carried (known : roles socket = some role)
    (carries : setup.carry roles event = some next)
    : Carried setup socket (next.testClient socket) (next.dispatchedBy socket) event := by
  cases event with
  | receive actor memory =>
      simp only [carry] at carries
      by_cases same : socket = actor
      · subst same
        simp only [known, Option.isNone_some, Bool.false_eq_true, if_false] at carries
        split at carries
        · cases carries
        next frame cut =>
          split_ifs at carries with front
          obtain rfl := Option.some.inj carries
          exact .read memory frame cut front (by simp [setClient]) rfl
      · have apart : ∀ other, Event.receive actor memory ≠ .receive socket other :=
          fun other receives => same (Event.receive.inj receives).1.symm
        split_ifs at carries with foreign
        · obtain rfl := Option.some.inj carries
          exact .aside _ apart nofun rfl rfl
        · split at carries
          · cases carries
          · split_ifs at carries
            obtain rfl := Option.some.inj carries
            exact .aside _ apart nofun (by simp [setClient, same]) rfl
  | dispatch actor now =>
      obtain rfl := Option.some.inj carries
      by_cases same : socket = actor
      · subst same
        refine .dispatch now rfl ?_
        simp [dispatchedBy, List.filter_append, List.filter_map, Function.comp_def]
      · refine .aside _ nofun (fun other dispatches => same (Event.dispatch.inj dispatches).1.symm)
          rfl ?_
        simp [dispatchedBy, List.filter_append, List.filter_map, Function.comp_def, Ne.symm same]
  | _ =>
      obtain rfl := Option.some.inj carries
      exact .aside _ nofun nofun rfl rfl

/-- What a socket is sent is never taken back. -/
theorem heard_step (stepped : setup.server.step runtime event = some next.server)
    (socket : SocketId)
    : ∃ more, next.heard socket = setup.heard socket ++ more := by
  obtain ⟨writes, sent, -⟩ := ServerState.step_writes stepped
  exact ⟨_, by rw [heard, sent, List.filter_append, List.map_append]; rfl⟩

/-- How a test client stands to what it was sent, and its handler to what it has written. -/
structure Linked (runtime : Runtime) (role : TestRole) (setup : TestSetup) (socket : SocketId)
    : Prop where
  follows : (setup.testClient socket).Follows runtime role (setup.heard socket)
  serves
    : Serves role (setup.testClient socket).written (setup.dispatchedBy socket)
        (setup.testClient socket).reached (setup.server.session socket)

theorem linked_initial (settings : Settings) (shines : List Int32) (socket : SocketId)
    : (initial settings shines).Linked runtime role socket :=
  ⟨.initial role _, .initial role socket _⟩

theorem Linked.acts (linked : setup.Linked runtime role socket)
    (whole : ∀ frame ∈ setup.heard socket, WellFormed frame) (known : roles socket = some role)
    (alone : ActsAlone runtime roles setup next)
    : next.Linked runtime role socket := by
  obtain ⟨actor, other, after, other_known, acts⟩ := alone
  by_cases same : socket = actor
  · subst same
    obtain rfl := Option.some.inj (known.symm.trans other_known)
    have after_eq : (setup.setClient socket after).testClient socket = after := by
      simp [setClient]
    obtain ⟨more, written⟩ := acts.written
    constructor
    · rw [after_eq]
      exact acts.follows whole linked.follows
    · rw [after_eq, acts.reached, ← written]
      exact linked.serves.more more
  · have before_eq
        : (setup.setClient actor after).testClient socket = setup.testClient socket := by
      simp [setClient, same]
    constructor
    · rw [before_eq]
      exact linked.follows
    · rw [before_eq]
      exact linked.serves

/-- A test client's first write is its Connect frame. -/
theorem Linked.greets (linked : setup.Linked runtime role socket)
    : ∀ frame ∈ (setup.testClient socket).written.head?,
        frame = runtime.typedFrame role.ownId role.connect := by
  obtain ⟨_, -, answers⟩ := linked.follows
  exact answers.greets

/-- A server event keeps how both stand, and does not throw a test client out for a frame. -/
theorem Linked.server (linked : setup.Linked runtime role socket)
    (whole : ∀ frame ∈ setup.heard socket, WellFormed frame) (known : roles socket = some role)
    (tidy : Tidy setup.server) (seated : Seated setup.server)
    (taken : setup.step runtime roles (.server event) = some next)
    : next.Linked runtime role socket
      ∧ ∀ memory,
          event = .receive socket memory → (next.server.session socket).phase ≠ .failing := by
  obtain ⟨carried, carries, stepped, same⟩ := server_cases taken
  have carried_on
      : Carried setup socket (next.testClient socket) (next.dispatchedBy socket) event := by
    rw [same]
    exact (carry_carried known carries :)
  have own := linked.follows.own whole
  obtain ⟨more, heard⟩ := heard_step stepped socket
  have follows := heard ▸ linked.follows.more more
  rcases ServerState.step_change tidy stepped socket with ⟨other, seat⟩ | change
  · cases carried_on with
    | read => exact absurd rfl other
    | dispatch => exact absurd rfl other
    | aside _ unread undispatched client dispatched =>
        refine ⟨⟨client ▸ follows, ?_⟩, fun memory receives => absurd receives (unread memory)⟩
        rw [client, dispatched]
        exact linked.serves.congr seat
  · cases carried_on with
    | read memory frame cut front reads dispatched =>
        cases change with
        | receive first was phase id =>
            obtain ⟨serves, stays⟩ :=
              linked.serves.receive own linked.greets cut front was phase id
            refine ⟨⟨?_, ?_⟩, fun _ _ => stays⟩
            · rw [reads]
              exact follows.keeps rfl fun _ answers => answers.moved _ _
            · rw [reads, dispatched]
              exact serves
    | dispatch now client dispatched =>
        cases change with
        | dispatch memory was phase id =>
            refine ⟨⟨client ▸ follows, ?_⟩, nofun⟩
            rw [client, dispatched]
            exact linked.serves.dispatch was phase id
    | aside _ unread undispatched client dispatched =>
        refine ⟨⟨client ▸ follows, ?_⟩, fun memory receives => absurd receives (unread memory)⟩
        rw [client, dispatched]
        exact linked.serves.change own seated change unread undispatched

theorem heard_whole (whole : WritesWholeFrames setup.server)
    : ∀ frame ∈ setup.heard socket, WellFormed frame := by
  intro frame member
  obtain ⟨message, sent, rfl⟩ := List.mem_map.mp member
  exact whole message (List.mem_filter.mp sent).1

/-- What was whole before a step was whole. -/
theorem whole_before {event : TestEvent} (taken : setup.step runtime roles event = some next)
    (whole : WritesWholeFrames next.server)
    : WritesWholeFrames setup.server := by
  rcases step_cases taken with ⟨serverEvent, rfl⟩ | ⟨_, _, _, -, -⟩
  · obtain ⟨_, -, stepped, -⟩ := server_cases taken
    obtain ⟨writes, sent, -⟩ := ServerState.step_writes stepped
    exact fun message member => whole message (sent ▸ List.mem_append_left _ member)
  · exact whole

/-- As long as the server writes whole frames, each test client answers what it was sent, and its
handler dispatches what it has written, by induction on the run.
-/
theorem linked_of_run {settings : Settings} {shines : List Int32} {events : List TestEvent}
    (run : AnyRun (step runtime roles) (initial settings shines) events setup)
    (whole : WritesWholeFrames setup.server) (known : roles socket = some role)
    : setup.Linked runtime role socket := by
  induction run with
  | nil => exact linked_initial settings shines socket
  | snoc before _ taken ih =>
      have whole_then := whole_before taken whole
      have linked := ih whole_then
      rcases step_cases taken with ⟨serverEvent, rfl⟩ | alone
      · obtain ⟨serverEvents, serverRun⟩ := server_run before
        exact (linked.server (heard_whole whole_then) known (.of_run serverRun) (.of_run serverRun)
          taken).1
      · exact linked.acts (heard_whole whole_then) known alone

/-- What is dispatched of a test client is its Connect frame and behind it at most one copy of each
frame that it was sent of the player it follows; those that are not kept back in their order.
-/
theorem rebounds_once {settings : Settings} {shines : List Int32} {events : List TestEvent}
    (run : AnyRun (step runtime roles) (initial settings shines) events setup)
    (whole : WritesWholeFrames setup.server) (known : roles socket = some role)
    : setup.dispatchedBy socket = []
      ∨ ∃ rebounds,
          setup.dispatchedBy socket = runtime.typedFrame role.ownId role.connect :: rebounds
          ∧ rebounds.Subperm ((setup.heard socket).filterMap role.copy)
          ∧ (rebounds.filter atOnce).Sublist
              (((setup.heard socket).filterMap role.copy).filter atOnce) := by
  have linked := linked_of_run run whole known
  have first := linked.serves.dispatched_first
  obtain ⟨count, -, answers⟩ := linked.follows
  have heard
      : (((setup.heard socket).take count).filterMap role.copy).Sublist
          ((setup.heard socket).filterMap role.copy) :=
    (List.take_sublist _ _).filterMap _
  cases dispatched : setup.dispatchedBy socket with
  | nil => exact .inl rfl
  | cons frame rebounds =>
      cases written : (setup.testClient socket).written with
      | nil =>
          rw [dispatched, written] at first
          cases List.eq_nil_of_prefix_nil first
      | cons greeting rest =>
          rw [dispatched, written] at first
          obtain ⟨same, later⟩ := List.cons_prefix_cons.mp first
          have once := answers.once
          have in_order := answers.inOrder
          rw [written, List.tail_cons] at once in_order
          have greets := answers.greets greeting (by rw [written]; rfl)
          refine .inr ⟨rebounds, by rw [same, greets], ?_, ?_⟩
          · have written_once := (List.sublist_append_left _ _).subperm.trans once
            exact later.sublist.subperm.trans (written_once.trans heard.subperm)
          · have written_in_order := in_order.trans (heard.filter _)
            exact (later.sublist.filter _).trans written_in_order

/-- The sockets of the chain that follows `baseOtherId`, behind that of the player. -/
def sussyRoles (socket : SocketId) : Option TestRole :=
  if 2 ≤ socket ∧ socket < 9 then some (chainRole baseOtherId (socket - 2)) else none

/-- A test client comes in without an obstacle. -/
def sussyArrives (socket : SocketId) (others : List SocketId) : List TestEvent :=
  let role := chainRole baseOtherId (socket - 2)
  let events : List Event :=
    [.accept socket (comesFrom socket),
      .receive socket (Runtime.pooled.filled role.ownId role.connect).1,
      .join socket, .clientJoined socket, .snapshot socket]
    ++ others.map (Event.replay socket ·)
    ++ [.replayDone socket, .dispatch socket 0]
  .connect socket :: events.map .server

/-- The server reads a packet and dispatches it. -/
def passedOn (socket : SocketId) (id : Guid) (packet : Packet) : List TestEvent :=
  [.server (.receive socket (Runtime.pooled.filled id packet).1), .server (.dispatch socket 0)]

def marioMoves : Packet :=
  .player {
    position := .zero
    rotation := .zero
    animationBlendWeights := [0, 0, 0, 0, 0, 0]
    act := 1
    subAct := 0
  }

def marioThrows : Packet :=
  .cap { position := .zero, rotation := .zero, capOut := true, capAnim := "Spin".toList }

/-- Mario moves and throws his cap. The first of the chain has given back the cap before a second
has passed.
-/
def marioFollowed : List TestEvent :=
  (arrival .pooled 1 baseOtherId .firstConnection "Mario".toList []).map .server
  ++ sussyArrives 2 [1]
  ++ passedOn 1 baseOtherId marioMoves ++ passedOn 1 baseOtherId marioThrows
  ++ List.replicate 4 (.read 2 false) ++ [.rebound 2 0 false]
  ++ passedOn 2 (chainId baseOtherId 1) marioThrows
  ++ passedOn 2 (chainId baseOtherId 1) marioMoves

/-- The copies of what Mario has sent, under the first Id of the chain. -/
def capThenMovement : List Bytes :=
  [marioThrows, marioMoves].map (Runtime.pooled.typedFrame (chainId baseOtherId 1))

/-- The cap comes first, the movement behind it, and neither twice. -/
theorem rebounds_once_mario
    : ∃ setup,
        AnyRun (step .pooled sussyRoles) (initial {} []) marioFollowed setup
        ∧ capThenMovement.Subperm ((setup.heard 2).filterMap (chainRole baseOtherId 0).copy) := by
  obtain ⟨setup, run, whole, dispatched⟩
      : ∃ setup,
          AnyRun (step .pooled sussyRoles) (initial {} []) marioFollowed setup
          ∧ WritesWholeFrames setup.server
          ∧ setup.dispatchedBy 2
            = Runtime.pooled.typedFrame (chainId baseOtherId 1) (chainRole baseOtherId 0).connect
              :: capThenMovement :=
    exists_run _ (by decide +kernel)
  refine ⟨setup, run, ?_⟩
  have known : sussyRoles 2 = some (chainRole baseOtherId 0) := rfl
  rcases rebounds_once run whole known with none_dispatched | ⟨rebounds, same, subperm, -⟩
  · rw [dispatched] at none_dispatched
    cases none_dispatched
  · rw [dispatched] at same
    rw [(List.cons.inj same).2]
    exact subperm

/-- A test client is never thrown out for a frame, neither for its Connect frame nor for a copy of
anything that others have sent.
-/
theorem never_refused {settings : Settings} {shines : List Int32} {events : List TestEvent}
    {memory : Bytes} (run : AnyRun (step runtime roles) (initial settings shines) events setup)
    (whole : WritesWholeFrames setup.server) (known : roles socket = some role)
    (taken : setup.step runtime roles (.server (.receive socket memory)) = some next)
    : (next.server.session socket).phase ≠ .failing := by
  obtain ⟨serverEvents, serverRun⟩ := server_run run
  exact ((linked_of_run run whole known).server (heard_whole whole) known (.of_run serverRun)
    (.of_run serverRun) taken).2 memory rfl

/-- What the server reads of the first of the chain once it has been sent Mario's cap. -/
theorem never_refused_mario
    : ∃ setup next,
        AnyRun (step .pooled sussyRoles) (initial {} []) (marioFollowed.take 25) setup
        ∧ setup.step .pooled sussyRoles
            (.server (.receive 2 (Runtime.pooled.filled (chainId baseOtherId 1) marioThrows).1))
          = some next
        ∧ (next.server.session 2).phase ≠ .failing := by
  obtain ⟨setup, next, run, taken, whole⟩
      : ∃ setup next,
          AnyRun (step .pooled sussyRoles) (initial {} []) (marioFollowed.take 25) setup
          ∧ step .pooled sussyRoles setup
              (.server (.receive 2 (Runtime.pooled.filled (chainId baseOtherId 1) marioThrows).1))
            = some next
          ∧ WritesWholeFrames setup.server :=
    exists_run_step (fun (setup _ : TestSetup) => WritesWholeFrames setup.server)
      (by decide +kernel)
  have known : sussyRoles 2 = some (chainRole baseOtherId 0) := rfl
  exact ⟨setup, next, run, taken, never_refused run whole known taken⟩

end TestSetup

end SmoOnline
