import Mathlib.Data.List.Forall2
import SmoOnline.Library.Chunks
import SmoOnline.Server.Machine

/-! How the read loop of a socket puts frames together from what `ReceiveAsync` returns, before
any handler sees them. Rented memory holds anything, and may be longer than it was asked for.
-/

namespace SmoOnline

open Span Chunks

/-- A call of `ReceiveAsync` without octets: it returns zero once the peer has closed the
stream, or it throws.
-/
inductive ReceiveEnd
  | zero
  | throws
  deriving DecidableEq, Repr

/-- What arrives for the calls of `ReceiveAsync`, each of which takes what it has asked for. -/
abbrev Received := List (Arrival UInt8 ReceiveEnd)

/-- What memory holds when it is rented, by the iteration of the loop that rents it and by the
number of octets asked for.
-/
structure MemoryPool (runtime : Runtime) where
  rented : Nat → Nat → Bytes
  length_rented : ∀ iteration count, (rented iteration count).length = runtime.rent count

/-- A header and as many octets as it counts. -/
structure Frame where
  header : PacketHeader
  payload : Bytes
  counted : header.packetSize.toInt = payload.length

def Frame.octets (frame : Frame) : Bytes := frame.header.octets ++ frame.payload

/-- The octets of frames that are sent one after the other. -/
def Frame.wire (frames : List Frame) : Bytes := frames.flatMap Frame.octets

/-- The frames of which the first octets of a stream hold the last one. -/
def Frame.complete : List Frame → Nat → List Frame
  | [], _ => []
  | frame :: frames, count =>
      if frame.octets.length ≤ count then
        frame :: complete frames (count - frame.octets.length)
      else []

-----------------------------------------------------------------------------------------
-- The loop
-----------------------------------------------------------------------------------------

namespace HandleSocket

variable {runtime : Runtime}

/-- `Read`, which counts what it has read from `readOffset` on. -/
def read (readMem : Bytes) (readSize readOffset : Nat) (received : Received)
    : ReadEnd UInt8 ReceiveEnd :=
  receiveLoop (readSize + readOffset) readOffset readMem received

/-- How the assembly of a frame ends: with memory for the rest of the loop's body, where the loop
is left, or not before more arrives.
-/
inductive NextFrame
  | obtained (memory : Bytes) (later : Received)
  | leaves (reason : ReceiveEnd)
  | waits
  deriving DecidableEq

/-- The payload, read behind a copy of the header into memory that has room for both. -/
def readPayload (pool : MemoryPool runtime) (iteration : Nat) (memTemp : Bytes)
    (header : PacketHeader) (received : Received)
    : NextFrame :=
  let packetSize := header.packetSize.toInt.toNat
  let memory := 
    store (pool.rented iteration (headerSize + packetSize)) 0 (memTemp.take headerSize)
  match read memory packetSize headerSize received with
  | .starved => .waits
  | .failed reason _ => .leaves reason
  | .filled memory later => .obtained memory later

/-- An iteration of the loop up to where the frame is whole. -/
def nextFrame (pool : MemoryPool runtime) (iteration : Nat) (received : Received) : NextFrame :=
  match read (pool.rented iteration headerSize) headerSize 0 received with
  | .starved => .waits
  | .failed reason _ => .leaves reason
  | .filled memory later =>
      match PacketHeader.deserialize (memory.take headerSize) with
      | none => .leaves .throws
      | some header =>
          if header.packetSize.toInt > 0 then readPayload pool iteration memory header later
          else .obtained memory later

/-- What the loop is left by. -/
inductive LoopEnd
  | receive (reason : ReceiveEnd)
  | body
  | waits
  deriving DecidableEq, Repr

/-- A stream that has ended, or one from which more may come. -/
def LoopEnd.of : Option ReceiveEnd → LoopEnd
  | none => .waits
  | some reason => .receive reason

/-- The header is copied into memory that is longer. -/
theorem length_copied (pool : MemoryPool runtime) (iteration size : Nat) {header : Bytes}
    (length : header.length = headerSize)
    : (store (pool.rented iteration (headerSize + size)) 0 header).length
      = runtime.rent (headerSize + size) := by
  have room := runtime.le_rent (headerSize + size)
  have rented := pool.length_rented iteration (headerSize + size)
  rw [length_store (show 0 + header.length ≤ _ by omega), rented]

/-- The header read takes 20 octets off the stream, which then stand in front. -/
theorem read_header {pool : MemoryPool runtime} {iteration : Nat} {received later : Received}
    {memory : Bytes}
    (filled : read (pool.rented iteration headerSize) headerSize 0 received = .filled memory later)
    : ∃ header,
        content received = header ++ content later
        ∧ untilFailure received = (header ++ (untilFailure later).1, (untilFailure later).2)
        ∧ header.length = headerSize
        ∧ memory.take headerSize = header
        ∧ memory.length = runtime.rent headerSize := by
  obtain ⟨header, taken, front, length, rfl⟩ := receiveLoop_takes (Nat.zero_le _) filled
  have whole : header.length = headerSize := length
  refine ⟨header, taken, front, whole, ?_, ?_⟩
  · have first := take_store header (Nat.zero_le (pool.rented iteration headerSize).length)
    rwa [Nat.zero_add, whole] at first
  · exact length_copied pool iteration 0 whole

/-- The payload read takes the octets that the header counts. -/
theorem read_payload {pool : MemoryPool runtime} {iteration size : Nat}
    {received later : Received} {header memory : Bytes} (length : header.length = headerSize)
    (filled
      : read (store (pool.rented iteration (headerSize + size)) 0 header) size headerSize received
        = .filled memory later)
    : ∃ payload,
        content received = payload ++ content later
        ∧ untilFailure received = (payload ++ (untilFailure later).1, (untilFailure later).2)
        ∧ payload.length = size
        ∧ memory.take (headerSize + size) = header ++ payload
        ∧ memory.length = runtime.rent (headerSize + size) := by
  have copied := length_copied pool iteration size length
  have room := runtime.le_rent (headerSize + size)
  obtain ⟨payload, taken, front, counted, rfl⟩ :=
    receiveLoop_takes (show headerSize ≤ _ by omega) filled
  have whole : payload.length = size := by omega
  subst whole
  refine ⟨payload, taken, front, rfl, ?_, ?_⟩
  · rw [take_store payload (by omega)]
    have first := take_store header
      (Nat.zero_le (pool.rented iteration (headerSize + payload.length)).length)
    rw [Nat.zero_add, length] at first
    rw [first]
    rfl
  · rw [length_store (by omega), copied]

theorem nextFrame_shrinks {pool : MemoryPool runtime} {iteration : Nat}
    {received later : Received} {memory : Bytes}
    (obtained : nextFrame pool iteration received = .obtained memory later)
    : (content later).length < (content received).length := by
  unfold nextFrame at obtained
  split at obtained
  · cases obtained
  · cases obtained
  · next header middle filled =>
      obtain ⟨octets, taken, -, length, first, -⟩ := read_header filled
      have shorter : (content middle).length < (content received).length := by
        rw [taken, List.length_append, length, headerSize]
        omega
      split at obtained
      · cases obtained
      · split_ifs at obtained with counts
        · unfold readPayload at obtained
          rw [first] at obtained
          dsimp only at obtained
          split at obtained
          · cases obtained
          · cases obtained
          · next whole after read =>
              obtain ⟨-, rfl⟩ := NextFrame.obtained.inj obtained
              obtain ⟨payload, rest, -⟩ := read_payload length read
              rw [rest, List.length_append] at shorter
              omega
        · obtain ⟨-, rfl⟩ := NextFrame.obtained.inj obtained
          exact shorter

/-- `while (true)`, with the memories it obtains. The rest of the body is any function of what it
keeps from one frame to the next; `none` is where it leaves the loop.
-/
def loop {Kept : Type} (pool : MemoryPool runtime) (body : Kept → Bytes → Option Kept)
    (iteration : Nat) (kept : Kept) (received : Received)
    : List Bytes × LoopEnd :=
  match _ : nextFrame pool iteration received with
  | .waits => ([], .waits)
  | .leaves reason => ([], .receive reason)
  | .obtained memory later =>
      match body kept memory with
      | none => ([memory], .body)
      | some kept =>
          let rest := loop pool body (iteration + 1) kept later
          (memory :: rest.1, rest.2)
termination_by (content received).length
decreasing_by exact nextFrame_shrinks ‹_›

/-- The checks that the rest of the body starts with, of a client that is let in. -/
def checks (id : Guid) (first : Bool) (memory : Bytes) : Option Bool :=
  match inbound first id memory with
  | .refused => none
  | .joining _ | .packet => some false

-----------------------------------------------------------------------------------------
-- One frame
-----------------------------------------------------------------------------------------

/-- Memory that holds a frame: the body finds its header and its payload, and what is passed on
of the memory is the payload directly behind the header.
-/
structure Holds (runtime : Runtime) (memory : Bytes) (frame : Frame) : Prop where
  length : memory.length = runtime.rent (headerSize + frame.payload.length)
  header : PacketHeader.deserialize (memory.take headerSize) = some frame.header
  payload : slice? memory headerSize (headerSize + frame.payload.length) = some frame.payload
  relayed : relayedFrame memory frame.header = some frame.octets

theorem length_octets (frame : Frame)
    : frame.octets.length = headerSize + frame.payload.length := by
  rw [Frame.octets, List.length_append, PacketHeader.length_octets]

theorem Holds.of_take {memory : Bytes} {frame : Frame}
    (length : memory.length = runtime.rent (headerSize + frame.payload.length))
    (octets : memory.take (headerSize + frame.payload.length) = frame.octets)
    : Holds runtime memory frame := by
  have room := runtime.le_rent (headerSize + frame.payload.length)
  have header : memory.take headerSize = frame.header.octets := by
    have first := congrArg (List.take headerSize) octets
    rw [List.take_take, Nat.min_eq_left (Nat.le_add_right _ _), Frame.octets,
      List.take_left' frame.header.length_octets] at first
    exact first
  refine ⟨length, ?_, ?_, ?_⟩
  · have read := PacketHeader.deserialize_octets frame.header []
    rwa [List.append_nil, ← header] at read
  · have behind := congrArg (List.drop headerSize) octets
    rw [List.drop_take, Nat.add_sub_cancel_left, Frame.octets,
      List.drop_left' frame.header.length_octets] at behind
    rw [slice?_eq_some (Nat.le_add_right _ _) (by omega), slice, Nat.add_sub_cancel_left, behind]
  · have counted := frame.counted
    have stop : ((headerSize : Int) + frame.header.packetSize.toInt).toNat
        = headerSize + frame.payload.length := by
      omega
    rw [relayedFrame, if_pos ⟨by omega, by omega⟩, stop, octets]

/-- A frame that has arrived whole is obtained, and nothing of what is behind it. -/
theorem nextFrame_whole (pool : MemoryPool runtime) (iteration : Nat) {received : Received}
    {frame : Frame} {rest : Bytes} (arrived : (untilFailure received).1 = frame.octets ++ rest)
    : ∃ memory later,
        nextFrame pool iteration received = .obtained memory later
        ∧ Holds runtime memory frame
        ∧ untilFailure later = (rest, (untilFailure received).2) := by
  have long := congrArg List.length arrived
  rw [List.length_append, length_octets] at long
  obtain ⟨memory, middle, filled⟩ := @receiveLoop_enough _ _ (headerSize + 0) 0 received
    (pool.rented iteration headerSize) (by omega)
  obtain ⟨header, -, front, length, first, whole⟩ := read_header filled
  rw [front, Frame.octets, List.append_assoc] at arrived
  obtain ⟨rfl, behind⟩ := List.append_inj arrived (length.trans frame.header.length_octets.symm)
  have parsed : PacketHeader.deserialize frame.header.octets = some frame.header := by
    simpa using PacketHeader.deserialize_octets frame.header []
  have counted : frame.header.packetSize.toInt.toNat = frame.payload.length := by
    rw [frame.counted, Int.toNat_natCast]
  have nonneg := frame.counted
  rcases Nat.eq_zero_or_pos frame.payload.length with empty | counts
  · have noPayload : ¬frame.header.packetSize.toInt > 0 := by omega
    refine ⟨memory, middle, ?_, ?_, ?_⟩
    · simp only [nextFrame, read, filled, first, parsed, if_neg noPayload]
    · apply Holds.of_take
      · rw [empty]
        exact whole
      · rw [empty, Frame.octets, List.length_eq_zero_iff.mp empty, List.append_nil]
        exact first
    · rw [List.length_eq_zero_iff.mp empty] at behind
      rw [front]
      exact Prod.ext behind rfl
  · have payload : frame.header.packetSize.toInt > 0 := by omega
    have enough := congrArg List.length behind
    rw [List.length_append] at enough
    obtain ⟨full, later, second⟩ := @receiveLoop_enough _ _ (frame.payload.length + headerSize)
      headerSize middle
      (store (pool.rented iteration (headerSize + frame.payload.length)) 0 frame.header.octets)
      (by omega)
    obtain ⟨octets, -, taken, size, stands, whole⟩ := read_payload length second
    rw [taken] at behind
    obtain ⟨rfl, last⟩ := List.append_inj behind size
    refine ⟨full, later, ?_, .of_take whole stands, ?_⟩
    · simp only [nextFrame, read, filled, first, parsed, if_pos payload, readPayload, counted,
        second]
    · rw [front, taken]
      exact Prod.ext last rfl

/-- A stream that ends, or pauses, where the frame is not whole yet. -/
theorem nextFrame_cut (pool : MemoryPool runtime) (iteration : Nat) {received : Received}
    {frame : Frame} {count : Nat} (arrived : (untilFailure received).1 = frame.octets.take count)
    (cut : count < frame.octets.length)
    : nextFrame pool iteration received
      = match (untilFailure received).2 with
        | none => .waits
        | some reason => .leaves reason := by
  have size := length_octets frame
  have long : (untilFailure received).1.length = count := by
    rw [arrived, List.length_take, Nat.min_eq_left (Nat.le_of_lt cut)]
  rcases Nat.lt_or_ge count headerSize with inHeader | inPayload
  · have short := @receiveLoop_short _ _ (headerSize + 0) 0 received
      (pool.rented iteration headerSize) (by omega)
    cases ends : (untilFailure received).2 with
    | none =>
        rw [ends] at short
        simp only [nextFrame, read, short]
    | some reason =>
        rw [ends] at short
        obtain ⟨later, failed, -⟩ := short
        simp only [nextFrame, read, failed]
  · obtain ⟨memory, middle, filled⟩ := @receiveLoop_enough _ _ (headerSize + 0) 0 received
      (pool.rented iteration headerSize) (by omega)
    obtain ⟨header, -, front, length, first, -⟩ := read_header filled
    have whole := frame.header.length_octets
    rw [front, Frame.octets, List.take_append, whole,
      List.take_of_length_le (whole.trans_le inPayload)] at arrived
    obtain ⟨rfl, behind⟩ := List.append_inj arrived (length.trans whole.symm)
    have parsed : PacketHeader.deserialize frame.header.octets = some frame.header := by
      simpa using PacketHeader.deserialize_octets frame.header []
    have counted : frame.header.packetSize.toInt.toNat = frame.payload.length := by
      rw [frame.counted, Int.toNat_natCast]
    have nonneg := frame.counted
    have payload : frame.header.packetSize.toInt > 0 := by omega
    have missing := congrArg List.length behind
    rw [List.length_take] at missing
    have short := @receiveLoop_short _ _ (frame.payload.length + headerSize) headerSize middle
      (store (pool.rented iteration (headerSize + frame.payload.length)) 0 frame.header.octets)
      (by omega)
    rw [front]
    cases ends : (untilFailure middle).2 with
    | none =>
        rw [ends] at short
        simp only [nextFrame, read, filled, first, parsed, if_pos payload, readPayload, counted,
          short]
    | some reason =>
        rw [ends] at short
        obtain ⟨later, failed, -⟩ := short
        simp only [nextFrame, read, filled, first, parsed, if_pos payload, readPayload, counted,
          failed]

-----------------------------------------------------------------------------------------
-- All frames
-----------------------------------------------------------------------------------------

variable {Kept : Type}

/-- The memories are those of the frames, in their order, up to the first at which the body leaves
the loop; where it does not, they are those of all frames, and the loop ends with the stream.
-/
structure Reassembled (runtime : Runtime) (body : Kept → Bytes → Option Kept) (kept : Kept)
    (frames : List Frame) (streamEnd : Option ReceiveEnd) (obtained : List Bytes × LoopEnd)
    : Prop where
  holds : List.Forall₂ (Holds runtime) obtained.1 (frames.take obtained.1.length)
  goesOn : (obtained.1.dropLast.foldlM body kept).isSome
  ends
    : match obtained.1.foldlM body kept with
      | none => obtained.2 = .body
      | some _ => obtained.1.length = frames.length ∧ obtained.2 = .of streamEnd

theorem reassembled_nil (body : Kept → Bytes → Option Kept) (kept : Kept)
    (streamEnd : Option ReceiveEnd)
    : Reassembled runtime body kept [] streamEnd ([], .of streamEnd) :=
  ⟨.nil, rfl, rfl, rfl⟩

/-- One more frame in front, at which the body goes on. -/
theorem Reassembled.cons {body : Kept → Bytes → Option Kept} {kept next : Kept}
    {frames : List Frame} {streamEnd : Option ReceiveEnd} {obtained : List Bytes × LoopEnd}
    {frame : Frame} {memory : Bytes} (holds : Holds runtime memory frame)
    (goesOn : body kept memory = some next)
    (rest : Reassembled runtime body next frames streamEnd obtained)
    : Reassembled runtime body kept (frame :: frames) streamEnd
        (memory :: obtained.1, obtained.2) where
  holds := .cons holds rest.holds
  goesOn := by
    have later := rest.goesOn
    cases memories : obtained.1 with
    | nil => rfl
    | cons second memories =>
        rw [memories] at later
        rw [List.dropLast_cons_cons, List.foldlM_cons, goesOn]
        exact later
  ends := by
    have later := rest.ends
    rw [List.foldlM_cons, goesOn]
    change match obtained.1.foldlM body next with
      | none => obtained.2 = .body
      | some _ => obtained.1.length + 1 = frames.length + 1 ∧ obtained.2 = .of streamEnd
    cases ends : obtained.1.foldlM body next with
    | none =>
        rw [ends] at later
        exact later
    | some last =>
        rw [ends] at later
        exact ⟨congrArg (· + 1) later.1, later.2⟩

/-- One iteration. -/
theorem loop_eq (pool : MemoryPool runtime) (body : Kept → Bytes → Option Kept) (kept : Kept)
    (iteration : Nat) (received : Received)
    : loop pool body iteration kept received
      = match nextFrame pool iteration received with
        | .waits => ([], .waits)
        | .leaves reason => ([], .receive reason)
        | .obtained memory later =>
            match body kept memory with
            | none => ([memory], .body)
            | some kept =>
                let rest := loop pool body (iteration + 1) kept later
                (memory :: rest.1, rest.2) := by
  rw [loop]
  split
  · next waits => rw [waits]
  · next reason leaves => rw [leaves]
  · next memory later obtained => rw [obtained]

/-- Where the body never leaves the loop, all frames are obtained. -/
theorem Reassembled.all {body : Kept → Bytes → Option Kept} {kept : Kept} {frames : List Frame}
    {streamEnd : Option ReceiveEnd} {obtained : List Bytes × LoopEnd}
    (reassembled : Reassembled runtime body kept frames streamEnd obtained)
    (goesOn : (obtained.1.foldlM body kept).isSome)
    : List.Forall₂ (Holds runtime) obtained.1 frames ∧ obtained.2 = .of streamEnd := by
  have ends := reassembled.ends
  obtain ⟨last, goesOn⟩ := Option.isSome_iff_exists.mp goesOn
  rw [goesOn] at ends
  have holds := reassembled.holds
  rw [ends.1, List.take_length] at holds
  exact ⟨holds, ends.2⟩

/-- What the loop obtains of a frame is what the machine of the server takes for one. -/
theorem receive_isSome (state : ServerState) {socket : SocketId} {first : Bool} {memory : Bytes}
    {frame : Frame} (reading : (state.session socket).phase = .reading first)
    (holds : Holds runtime memory frame)
    : (state.receive runtime socket memory).isSome := by
  have header := holds.header
  have counted : frame.header.packetSize.toInt.toNat = frame.payload.length := by
    rw [frame.counted, Int.toNat_natCast]
  have whole : PacketHeader.deserialize memory = some frame.header := by
    have octets := PacketHeader.octets_of_deserialize header
    rw [List.take_take, Nat.min_self] at octets
    rw [← List.take_append_drop headerSize memory, ← octets]
    exact PacketHeader.deserialize_octets frame.header _
  unfold ServerState.receive
  simp only [reading, whole]
  rw [if_pos (by rw [counted]; exact holds.length)]
  rfl

/-- What is obtained is what the machine of the server takes. -/
theorem Reassembled.received {body : Kept → Bytes → Option Kept} {kept : Kept}
    {frames : List Frame} {streamEnd : Option ReceiveEnd} {obtained : List Bytes × LoopEnd}
    (reassembled : Reassembled runtime body kept frames streamEnd obtained)
    (state : ServerState) {socket : SocketId} {first : Bool}
    (reading : (state.session socket).phase = .reading first)
    : ∀ memory ∈ obtained.1, (state.receive runtime socket memory).isSome := by
  intro memory member
  obtain ⟨index, inside, rfl⟩ := List.getElem_of_mem member
  have holds := reassembled.holds
  exact receive_isSome state reading (holds.get inside (holds.length_eq ▸ inside))

/-- Nothing is obtained from a stream in which the next frame is cut off. -/
theorem loop_cut (pool : MemoryPool runtime) (body : Kept → Bytes → Option Kept) (kept : Kept)
    (iteration : Nat) {received : Received} {frame : Frame} {count : Nat}
    (arrived : (untilFailure received).1 = frame.octets.take count)
    (cut : count < frame.octets.length)
    : loop pool body iteration kept received = ([], .of (untilFailure received).2) := by
  rw [loop_eq, nextFrame_cut pool iteration arrived cut]
  cases (untilFailure received).2 with
  | none => rfl
  | some reason => rfl

/-- The loop puts together what has arrived of the frames, by induction on them. -/
theorem loop_reassembles (pool : MemoryPool runtime) (body : Kept → Bytes → Option Kept)
    (kept : Kept) (iteration : Nat) {frames : List Frame} {count : Nat} {received : Received}
    (arrived : (untilFailure received).1 = (Frame.wire frames).take count)
    : Reassembled runtime body kept (Frame.complete frames count) (untilFailure received).2
        (loop pool body iteration kept received) := by
  induction frames generalizing kept iteration count received with
  | nil =>
      -- any frame is cut off where nothing arrives
      let frame : Frame := { header := ⟨.empty, .unknown, 0⟩, payload := [], counted := rfl }
      have nothing : (untilFailure received).1 = frame.octets.take 0 := by
        rw [arrived, Frame.wire, List.flatMap_nil, List.take_nil, List.take_zero]
      have cut : 0 < frame.octets.length := by
        rw [length_octets, headerSize]
        omega
      rw [loop_cut pool body kept iteration nothing cut]
      exact reassembled_nil body kept _
  | cons frame frames ih =>
      rw [Frame.wire, List.flatMap_cons, ← Frame.wire] at arrived
      rw [Frame.complete]
      split_ifs with whole
      · rw [List.take_append, List.take_of_length_le whole] at arrived
        obtain ⟨memory, later, next, holds, rest⟩ := nextFrame_whole pool iteration arrived
        rw [loop_eq, next]
        dsimp only
        split
        · next leaves =>
            refine ⟨.cons holds .nil, rfl, ?_⟩
            rw [List.foldlM_cons, leaves]
            rfl
        · next kept goesOn =>
            have same : (untilFailure received).2 = (untilFailure later).2 := by rw [rest]
            rw [same]
            exact .cons holds goesOn (ih kept (iteration + 1) (congrArg Prod.fst rest))
      · have cut := Nat.lt_of_not_le whole
        rw [List.take_append_of_le_length (Nat.le_of_lt cut)] at arrived
        rw [loop_cut pool body kept iteration arrived cut]
        exact reassembled_nil body kept _

/-- A pool whose memory is cleared. -/
def cleared (runtime : Runtime) : MemoryPool runtime where
  rented _ count := zeros (runtime.rent count)
  length_rented _ count := length_zeros (runtime.rent count)

/-- A player who seeks and has played for thirty seconds and two minutes. -/
def tagFrame : Frame where
  header := { id := ⟨7⟩, type := .tag, packetSize := 6 }
  payload := [3, 1, 30, 0, 2, 0]
  counted := rfl

/-- Two frames octet by octet, and the end of the stream inside of the second. -/
def cutStream : Received :=
  ((Frame.wire [tagFrame, tagFrame]).take 40).map
    (fun octet => .chunk ⟨[octet], List.cons_ne_nil _ _⟩) ++ [.failure .zero]

/-- The first of the two is obtained and is what the machine takes, and the loop ends where the peer
has closed.
-/
theorem loop_reassembles_cutStream
    : Frame.complete [tagFrame, tagFrame] 40 = [tagFrame]
      ∧ Reassembled .pooled (fun (_ : Unit) _ => some ()) ()
          (Frame.complete [tagFrame, tagFrame] 40) (untilFailure cutStream).2
          (loop (cleared .pooled) (fun _ _ => some ()) 0 () cutStream)
      ∧ List.Forall₂ (Holds .pooled)
          (loop (cleared .pooled) (fun (_ : Unit) _ => some ()) 0 () cutStream).1 [tagFrame]
      ∧ ∀ (state : ServerState) (socket : SocketId),
          (state.session socket).phase = .reading true
          → ∀ memory ∈ (loop (cleared .pooled) (fun (_ : Unit) _ => some ()) 0 () cutStream).1,
              (state.receive .pooled socket memory).isSome :=
  have reassembled :=
    loop_reassembles (cleared .pooled) (fun (_ : Unit) _ => some ()) () 0
      (by decide : (untilFailure cutStream).1 = (Frame.wire [tagFrame, tagFrame]).take 40)
  ⟨rfl, reassembled, (reassembled.all (by decide +kernel)).1,
    fun state _ reading => reassembled.received state reading⟩

/-- A first frame that is not a Connect frame is obtained and ends the loop: the second, which has
arrived with it, is not obtained.
-/
theorem refused_frame_ends_loop
    : ∃ received : Received,
        untilFailure received = (Frame.wire [tagFrame, tagFrame], none)
        ∧ ¬List.Forall₂ (Holds .pooled)
            (loop (cleared .pooled) (checks .empty) 0 true received).1 [tagFrame, tagFrame] := by
  refine ⟨[.chunk ⟨Frame.wire [tagFrame, tagFrame], by decide⟩], by decide, ?_⟩
  intro holds
  have length := holds.length_eq
  rw [loop_eq] at length
  have first
      : nextFrame (cleared .pooled) 0 [.chunk ⟨Frame.wire [tagFrame, tagFrame], by decide⟩]
        = .obtained (tagFrame.octets ++ zeros 6) [.chunk ⟨tagFrame.octets, by decide⟩] := by
    decide +kernel
  have refused : checks .empty true (tagFrame.octets ++ zeros 6) = none := by decide +kernel
  rw [first] at length
  simp only [refused] at length
  cases length

end HandleSocket

end SmoOnline
