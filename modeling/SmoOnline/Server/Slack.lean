import SmoOnline.Shared.Layouts
import SmoOnline.Server.Handler

/-! What of a frame's memory reaches a handler. A packet is decoded from as many octets as its
struct's `Size` counts, whatever the header counts, and rented memory is not cleared: a short
frame is completed with octets of earlier frames unless its struct does not look at them.
-/

namespace SmoOnline

open Span Utf8

/-- Rented memory that holds a frame: behind the payload the header counts stands whatever
the memory held before.
-/
structure Rented (runtime : Runtime) (header : PacketHeader) (payload slack : Bytes) : Prop where
  payload_length : payload.length = header.packetSize.toInt.toNat
  total
    : headerSize + payload.length + slack.length
      = runtime.rent (headerSize + payload.length)

/-- The memory of a frame. -/
def frameMemory (header : PacketHeader) (payload slack : Bytes) : Bytes :=
  header.octets ++ (payload ++ slack)

/-- The packet that a frame hands to `PacketHandler`, if it passes the checks of the read
loop and can be decoded.
-/
def handedPacket (first : Bool) (id : Guid) (memory : Bytes) : Option Packet :=
  match inbound first id memory with
  | .refused => none
  | _ => decodeFrame memory

/-- The octets of a payload decide the value of its struct: the payload is as long as the
`Size`, or what is missing is padding or stands behind a terminator.
-/
def PacketKind.Covered : PacketKind → Bytes → Prop
  | .captureTheFlagPlayerTeamAssignment, _ => True
  | .changeStage, payload =>
      ChangeStagePacket.idSize + ChangeStagePacket.stageSize + 2 ≤ payload.length
  | .connect, payload =>
      ConnectPacket.size ≤ payload.length ∨ 6 ≤ payload.length ∧ 0 ∈ payload.drop 6
  | .costume, payload =>
      CostumePacket.size ≤ payload.length
      ∨ costumeNameSize ≤ payload.length ∧ 0 ∈ payload.drop costumeNameSize
  | .capture, payload => CapturePacket.size ≤ payload.length ∨ 0 ∈ payload
  | kind, payload => kind.size ≤ payload.length

-----------------------------------------------------------------------------------------
-- Payloads completed with octets of their own or of others
-----------------------------------------------------------------------------------------

/-- A slice that runs over the end of a payload into a repeated octet. -/
theorem slice_append_replicate (payload : Bytes) {count : Nat} (octet : UInt8)
    {start stop : Nat} (beyond : payload.length ≤ stop) (inside : stop ≤ payload.length + count)
    : slice (payload ++ List.replicate count octet) start stop
      = payload.drop start
        ++ List.replicate (stop - max start payload.length) octet := by
  rw [slice, List.drop_append, List.drop_replicate, List.take_append, List.take_replicate,
    List.take_of_length_le (by rw [List.length_drop]; omega), List.length_drop]
  congr 2
  omega

/-- A value read over the end of a payload depends on the octets there. -/
theorem ofBytes_slice_ne {α : Type} [Blittable α] [Exact α] (payload : Bytes) {count : Nat}
    {start stop : Nat} (size : stop - start = Blittable.size α) (ordered : start < stop)
    (short : payload.length < stop) (inside : stop ≤ payload.length + count)
    : (ofBytes (slice (payload ++ List.replicate count 0) start stop) : α)
      ≠ ofBytes (slice (payload ++ List.replicate count 1) start stop) := by
  intro same
  have octets := Exact.ofBytes_injective
    (by rw [length_slice (by simp; omega), size]) (by rw [length_slice (by simp; omega), size])
    same
  rw [slice_append_replicate _ _ (by omega) inside, slice_append_replicate _ _ (by omega) inside,
    List.append_cancel_left_eq, List.replicate_right_inj (by omega)] at octets
  cases octets

theorem getNullTerm_append {payload : Bytes} (zero : 0 ∈ payload) (rest : Bytes)
    : getNullTerm (payload ++ rest) = getNullTerm payload := by
  rw [getNullTerm, cString_decode, beforeZero_append_of_mem zero, getNullTerm, cString_decode]

/-- Text cut at NUL goes on over the end of a payload without zero. -/
theorem getNullTerm_slice_ne {payload : Bytes} {count start stop : Nat} (ordered : start < stop)
    (short : payload.length < stop) (inside : stop ≤ payload.length + count)
    (nonzero : 0 ∉ payload.drop start)
    : getNullTerm (slice (payload ++ List.replicate count 0) start stop)
      ≠ getNullTerm (slice (payload ++ List.replicate count 1) start stop) := by
  rw [slice_append_replicate _ _ (by omega) inside, slice_append_replicate _ _ (by omega) inside]
  have more : 0 < stop - max start payload.length := by omega
  generalize stop - max start payload.length = missing at more
  have cleared : beforeZero (List.replicate missing 0) = [] := by
    cases missing <;> simp [beforeZero, List.replicate_succ]
  have kept : (0 : UInt8) ∉ payload.drop start ++ List.replicate missing 1 := by
    simp [nonzero]
  rw [getNullTerm, getNullTerm, cString_decode, cString_decode, beforeZero_append nonzero,
    cleared, List.append_nil, beforeZero_of_nonzero kept,
    decode_append_replicate _ _ _ (by decide)]
  intro same
  have lengths := congrArg List.length same
  rw [List.length_append, List.length_replicate] at lengths
  omega

/-- Trimmed text goes on over the end of a payload. -/
theorem getTrimmed_slice_ne (payload : Bytes) {count start stop : Nat} (ordered : start < stop)
    (short : payload.length < stop) (inside : stop ≤ payload.length + count)
    : getTrimmed (slice (payload ++ List.replicate count 0) start stop)
      ≠ getTrimmed (slice (payload ++ List.replicate count 1) start stop) := by
  rw [slice_append_replicate _ _ (by omega) inside, slice_append_replicate _ _ (by omega) inside]
  obtain ⟨missing, more⟩ : ∃ missing, stop - max start payload.length = missing + 1 :=
    ⟨stop - max start payload.length - 1, by omega⟩
  rw [more]
  have trimmed
      : trimZeros (payload.drop start ++ List.replicate (missing + 1) 1)
        = payload.drop start ++ List.replicate (missing + 1) 1 := by
    rw [List.replicate_succ', ← List.append_assoc, trimZeros]
    exact List.rdropWhile_concat_neg _ _ _ (by decide)
  rw [getTrimmed, getTrimmed, decode_append_zeros, trimNuls_append_nuls,
    trimNuls_decode (payload.drop start ++ _), trimmed, decode_append_replicate _ _ _ (by decide)]
  intro same
  have shorter := (List.rdropWhile_prefix (· = nul) (decode (payload.drop start))).length_le
  have lengths := congrArg List.length same
  rw [List.length_append, List.length_replicate] at lengths
  simp only [trimNuls] at lengths
  omega

-----------------------------------------------------------------------------------------
-- The structs
-----------------------------------------------------------------------------------------

/-- A struct that reads one of its fields differently off two spans is two packets. -/
theorem map_ne_of_field {struct field : Type} {read : UInt8 → Option struct}
    {value : UInt8 → struct} (wrap : struct → Packet) (project : struct → field)
    (injective : Function.Injective wrap) (reads : ∀ octet, read octet = some (value octet))
    (differ : project (value 0) ≠ project (value 1))
    : (read 0).map wrap ≠ (read 1).map wrap := by
  rw [reads, reads]
  intro same
  exact differ (congrArg project (injective (Option.some.inj same)))

attribute [local simp] costumeNameSize InitPacket.size PlayerPacket.size CapPacket.size
  GamePacket.size TagPacket.size ConnectPacket.size CostumePacket.size ShinePacket.size
  CapturePacket.size ChangeStagePacket.size ChangeStagePacket.idSize
  ChangeStagePacket.stageSize CaptureTheFlagGameStatePacket.size FlagHoldStatePacket.size
  FlagDroppedPositionPacket.size FlagDroppedPositionPacket.stageSize
  CaptureTheFlagWinPacket.size PacketKind.size

/-- The part of a payload that is missing decides nothing exactly when the payload covers its
struct. Witness: cleared octets and octets of ones complete the last field differently.
-/
theorem PacketKind.covered_of_decided {kind : PacketKind} {payload : Bytes} {count : Nat}
    (enough : kind.size ≤ payload.length + count)
    (decided
      : kind.deserialize (slice (payload ++ List.replicate count 0) 0 kind.size)
        = kind.deserialize (slice (payload ++ List.replicate count 1) 0 kind.size))
    : kind.Covered payload := by
  have long (octet : UInt8)
      : (slice (payload ++ List.replicate count octet) 0 kind.size).length = kind.size :=
    length_slice (by simpa using enough)
  cases kind with
  | unhandled => exact Nat.zero_le _
  | disconnect => exact Nat.zero_le _
  | captureTheFlagPlayerTeamAssignment => trivial
  | init =>
      refine Nat.le_of_not_lt fun short => ?_
      refine map_ne_of_field Packet.init InitPacket.maxPlayers (fun _ _ => Packet.init.inj)
        (fun octet => InitPacket.deserialize_eq (long octet)) ?_ decided
      simp (disch := decide) only [slice_front]
      exact ofBytes_slice_ne payload rfl (by decide) short enough
  | player =>
      refine Nat.le_of_not_lt fun short => ?_
      refine map_ne_of_field Packet.player PlayerPacket.subAct (fun _ _ => Packet.player.inj)
        (fun octet => PlayerPacket.deserialize_eq (long octet)) ?_ decided
      simp (disch := decide) only [slice_front]
      exact ofBytes_slice_ne payload rfl (by decide) short enough
  | cap =>
      refine Nat.le_of_not_lt fun short => ?_
      refine map_ne_of_field Packet.cap CapPacket.capAnim (fun _ _ => Packet.cap.inj)
        (fun octet => CapPacket.deserialize_eq (long octet)) ?_ decided
      simp (disch := decide) only [slice_front]
      exact getTrimmed_slice_ne payload (by decide) short enough
  | game =>
      refine Nat.le_of_not_lt fun short => ?_
      refine map_ne_of_field Packet.game GamePacket.stage (fun _ _ => Packet.game.inj)
        (fun octet => GamePacket.deserialize_eq (long octet)) ?_ decided
      simp (disch := decide) only [slice_front]
      exact getTrimmed_slice_ne payload (by decide) short enough
  | tag =>
      refine Nat.le_of_not_lt fun short => ?_
      refine map_ne_of_field Packet.tag TagPacket.minutes (fun _ _ => Packet.tag.inj)
        (fun octet => TagPacket.deserialize_eq (long octet)) ?_ decided
      simp (disch := decide) only [slice_front]
      exact ofBytes_slice_ne payload rfl (by decide) short enough
  | connect =>
      by_contra uncovered
      simp only [Covered, not_or, not_and_or] at uncovered
      obtain ⟨short, early | nonzero⟩ := uncovered
      · refine map_ne_of_field Packet.connect ConnectPacket.maxPlayers
          (fun _ _ => Packet.connect.inj)
          (fun octet => ConnectPacket.deserialize_eq (long octet)) ?_ decided
        simp (disch := decide) only [slice_front]
        exact ofBytes_slice_ne payload rfl (by decide) (by omega)
          (Nat.le_trans (by decide) enough)
      · refine map_ne_of_field Packet.connect ConnectPacket.clientName
          (fun _ _ => Packet.connect.inj)
          (fun octet => ConnectPacket.deserialize_eq (long octet)) ?_ decided
        simp (disch := decide) only [slice_front]
        exact getNullTerm_slice_ne (by decide) (Nat.lt_of_not_le short) enough nonzero
  | costume =>
      by_contra uncovered
      simp only [Covered, not_or, not_and_or] at uncovered
      obtain ⟨short, missing⟩ := uncovered
      have nonzero : 0 ∉ payload.drop costumeNameSize := by
        rcases missing with early | nonzero
        · rw [List.drop_of_length_le (Nat.le_of_lt (Nat.lt_of_not_le early))]
          exact List.not_mem_nil
        · exact nonzero
      refine map_ne_of_field Packet.costume CostumePacket.capName (fun _ _ => Packet.costume.inj)
        (fun octet => CostumePacket.deserialize_eq (long octet)) ?_ decided
      simp (disch := decide) only [slice_front]
      exact getNullTerm_slice_ne (by decide) (Nat.lt_of_not_le short) enough nonzero
  | shine =>
      refine Nat.le_of_not_lt fun short => ?_
      refine map_ne_of_field Packet.shine ShinePacket.shineId (fun _ _ => Packet.shine.inj)
        (fun octet => ShinePacket.deserialize_eq (long octet)) ?_ decided
      simp (disch := decide) only [slice_front]
      exact ofBytes_slice_ne payload rfl (by decide) short enough
  | capture =>
      by_contra uncovered
      simp only [Covered, not_or] at uncovered
      obtain ⟨short, nonzero⟩ := uncovered
      refine map_ne_of_field Packet.capture CapturePacket.modelName
        (fun _ _ => Packet.capture.inj)
        (fun octet => CapturePacket.deserialize_eq (long octet)) ?_ decided
      simp (disch := decide) only [slice_front]
      exact getNullTerm_slice_ne (by decide) (Nat.lt_of_not_le short) enough nonzero
  | changeStage =>
      refine Nat.le_of_not_lt fun short => ?_
      refine map_ne_of_field Packet.changeStage ChangeStagePacket.subScenarioType
        (fun _ _ => Packet.changeStage.inj)
        (fun octet => ChangeStagePacket.deserialize_eq (long octet)) ?_ decided
      simp (disch := decide) only [slice_front]
      exact ofBytes_slice_ne payload rfl (by decide) short (Nat.le_trans (by decide) enough)
  | captureTheFlagGameState =>
      refine Nat.le_of_not_lt fun short => ?_
      refine map_ne_of_field Packet.captureTheFlagGameState CaptureTheFlagGameStatePacket.resetGame
        (fun _ _ => Packet.captureTheFlagGameState.inj)
        (fun octet => CaptureTheFlagGameStatePacket.deserialize_eq (long octet)) ?_ decided
      have before : payload.drop 3 = [] := List.drop_of_length_le (Nat.le_of_lt_succ short)
      have last (octet : UInt8)
          : slice (payload ++ List.replicate count octet) 3 4 = [octet] := by
        simp only [size, CaptureTheFlagGameStatePacket.size] at short enough
        have one : 4 - max 3 payload.length = 1 := by omega
        rw [slice_append_replicate _ _ (by omega) enough, before, one]
        rfl
      simp (disch := decide) only [slice_front, last]
      decide
  | flagHoldState =>
      refine Nat.le_of_not_lt fun short => ?_
      refine map_ne_of_field Packet.flagHoldState (fun packet => packet.team.value)
        (fun _ _ => Packet.flagHoldState.inj)
        (fun octet => FlagHoldStatePacket.deserialize_eq (long octet)) ?_ decided
      simp (disch := decide) only [slice_front]
      exact ofBytes_slice_ne payload rfl (by decide) short enough
  | flagDroppedPosition =>
      refine Nat.le_of_not_lt fun short => ?_
      refine map_ne_of_field Packet.flagDroppedPosition FlagDroppedPositionPacket.stage
        (fun _ _ => Packet.flagDroppedPosition.inj)
        (fun octet => FlagDroppedPositionPacket.deserialize_eq (long octet)) ?_ decided
      simp (disch := decide) only [slice_front]
      exact getTrimmed_slice_ne payload (by decide) short enough
  | captureTheFlagWin =>
      refine Nat.le_of_not_lt fun short => ?_
      refine map_ne_of_field Packet.captureTheFlagWin (fun packet => packet.winningTeam.value)
        (fun _ _ => Packet.captureTheFlagWin.inj)
        (fun octet => CaptureTheFlagWinPacket.deserialize_eq (long octet)) ?_ decided
      simp (disch := decide) only [slice_front]
      exact ofBytes_slice_ne payload rfl (by decide) short enough

/-- The octets behind a payload that covers its struct are not looked at. -/
theorem PacketKind.decided_of_covered {kind : PacketKind} {payload left right : Bytes}
    (covered : kind.Covered payload) (leftEnough : kind.size ≤ payload.length + left.length)
    (rightEnough : kind.size ≤ payload.length + right.length)
    : kind.deserialize (slice (payload ++ left) 0 kind.size)
      = kind.deserialize (slice (payload ++ right) 0 kind.size) := by
  have leftLong : (slice (payload ++ left) 0 kind.size).length = kind.size :=
    length_slice (by simpa using leftEnough)
  have rightLong : (slice (payload ++ right) 0 kind.size).length = kind.size :=
    length_slice (by simpa using rightEnough)
  by_cases complete : kind.size ≤ payload.length
  · rw [slice_append_left _ _ complete, slice_append_left _ _ complete]
  have past : payload.length ≤ kind.size := Nat.le_of_lt (Nat.lt_of_not_le complete)
  have text {start stop : Nat} (ordered : start ≤ payload.length) (last : payload.length ≤ stop)
      (zero : 0 ∈ payload.drop start)
      : getNullTerm (slice (payload ++ left) start stop)
        = getNullTerm (slice (payload ++ right) start stop) := by
    rw [← slice_append_slice (payload ++ left) ordered last,
      ← slice_append_slice (payload ++ right) ordered last,
      slice_append_left _ _ (Nat.le_refl _), slice_append_left _ _ (Nat.le_refl _)]
    have whole : slice payload start payload.length = payload.drop start := by
      rw [slice, List.take_of_length_le (by rw [List.length_drop])]
    rw [whole, getNullTerm_append zero, getNullTerm_append zero]
  cases kind with
  | captureTheFlagPlayerTeamAssignment =>
      exact congrArg (Option.map _)
        ((CaptureTheFlagPlayerTeamAssignmentPacket.deserialize_eq_none leftLong).trans
          (CaptureTheFlagPlayerTeamAssignmentPacket.deserialize_eq_none rightLong).symm)
  | changeStage =>
      have long : 66 ≤ payload.length := covered
      simp only [deserialize, ChangeStagePacket.deserialize_eq leftLong,
        ChangeStagePacket.deserialize_eq rightLong]
      simp (disch := decide) only [slice_front]
      simp (disch := omega) only [slice_append_left]
  | connect =>
      obtain ⟨long, zero⟩ := covered.resolve_left complete
      simp only [deserialize, ConnectPacket.deserialize_eq leftLong,
        ConnectPacket.deserialize_eq rightLong]
      simp (disch := decide) only [slice_front]
      rw [@text 6 38 long past zero]
      simp (disch := omega) only [slice_append_left]
  | costume =>
      obtain ⟨long, zero⟩ := covered.resolve_left complete
      have first : 32 ≤ payload.length := long
      simp only [deserialize, CostumePacket.deserialize_eq leftLong,
        CostumePacket.deserialize_eq rightLong]
      simp (disch := decide) only [slice_front]
      rw [@text 32 64 first past zero]
      simp (disch := omega) only [slice_append_left]
  | capture =>
      have zero := covered.resolve_left complete
      simp only [deserialize, CapturePacket.deserialize_eq leftLong,
        CapturePacket.deserialize_eq rightLong]
      simp (disch := decide) only [slice_front]
      rw [@text 0 32 (Nat.zero_le _) past zero]
  | _ => exact absurd covered complete

-----------------------------------------------------------------------------------------
-- Frames
-----------------------------------------------------------------------------------------

theorem decodeFrame_frameMemory (header : PacketHeader) (payload slack : Bytes)
    : decodeFrame (frameMemory header payload slack)
      = (packetIdMap header.type).bind fun kind =>
          if kind.size ≤ (payload ++ slack).length then
            kind.deserialize (slice (payload ++ slack) 0 kind.size)
          else none := by
  have unfolded
      : decodeFrame (frameMemory header payload slack)
        = (packetIdMap header.type).bind fun kind =>
            (slice? (header.octets ++ (payload ++ slack)) headerSize
              (headerSize + kind.size)).bind kind.deserialize := by
    simp only [decodeFrame, frameMemory, PacketHeader.deserialize_octets]
    rfl
  rw [unfolded]
  cases packetIdMap header.type with
  | none => rfl
  | some kind =>
      simp only [Option.bind_some]
      split_ifs with enough
      · rw [slice?_eq_some (Nat.le_add_right _ _)
            (by rw [List.length_append, header.length_octets]; omega),
          slice_append_right _ _ _ (by simp), header.length_octets, Nat.sub_self,
          Nat.add_sub_cancel_left, Option.bind_some]
      · rw [slice?_eq_none (by rw [List.length_append, header.length_octets]; omega),
          Option.bind_none]

/-- The checks of the read loop see the header and the payload only. -/
theorem inbound_frameMemory {header : PacketHeader} {payload : Bytes}
    (length : payload.length = header.packetSize.toInt.toNat) (first : Bool) (id : Guid)
    (slack : Bytes)
    : inbound first id (frameMemory header payload slack)
      = inbound first id (frameMemory header payload []) := by
  have range (rest : Bytes)
      : slice? (header.octets ++ (payload ++ rest)) headerSize
          ((headerSize : Int) + header.packetSize.toInt).toNat
        = if 0 ≤ header.packetSize.toInt then some payload else none := by
    split_ifs with positive
    · have stop
          : ((headerSize : Int) + header.packetSize.toInt).toNat
            = headerSize + payload.length := by
        omega
      rw [stop, slice?_eq_some (Nat.le_add_right _ _)
          (by rw [List.length_append, List.length_append, header.length_octets]; omega),
        slice_append_right _ _ _ (by simp), header.length_octets, Nat.sub_self,
        Nat.add_sub_cancel_left, slice_append_left _ _ (Nat.le_refl _), slice_all rfl]
    · rw [slice?, if_neg]
      simp only [headerSize]
      omega
  simp only [inbound, frameMemory, PacketHeader.deserialize_octets, range]

/-- The packet that `PacketHandler` is given and what it does are the same for any two
contents of the memory a frame is read into.
-/
def SeesOnlyOwn (runtime : Runtime) (first : Bool) (id : Guid) (header : PacketHeader)
    (payload : Bytes)
    : Prop :=
  ∀ slack other : Bytes,
    Rented runtime header payload slack
    → Rented runtime header payload other
    → handedPacket first id (frameMemory header payload slack)
        = handedPacket first id (frameMemory header payload other)
      ∧ ∀ (state : ServerState) (now : Nat) (socket : SocketId),
          (handedPacket first id (frameMemory header payload slack)).map
              (state.packetHandler runtime now socket)
            = (handedPacket first id (frameMemory header payload other)).map
              (state.packetHandler runtime now socket)

/-- The frame is refused before it is decoded, or its type has no struct, or the memory is too
short for the struct, or the payload covers it.
-/
def OwnOctetsDecide (runtime : Runtime) (first : Bool) (id : Guid) (header : PacketHeader)
    (payload : Bytes)
    : Prop :=
  inbound first id (frameMemory header payload []) = .refused
  ∨ ∀ kind ∈ packetIdMap header.type,
      runtime.rent (headerSize + payload.length) < headerSize + kind.size
      ∨ kind.Covered payload

theorem handedPacket_of_not_refused {first : Bool} {id : Guid} {memory : Bytes}
    (passed : inbound first id memory ≠ .refused)
    : handedPacket first id memory = decodeFrame memory := by
  rw [handedPacket]
  split
  · next refused => exact absurd refused passed
  · rfl

/-- What a handler gets is independent of the octets that were in the memory before exactly
when the sender's own octets decide it. Witness: memory that held zeros and memory that held
ones complete a short payload differently.
-/
theorem seesOnlyOwn_iff (runtime : Runtime) (first : Bool) (id : Guid) {header : PacketHeader}
    {payload : Bytes} (length : payload.length = header.packetSize.toInt.toNat)
    : SeesOnlyOwn runtime first id header payload
      ↔ OwnOctetsDecide runtime first id header payload := by
  have room := runtime.le_rent (headerSize + payload.length)
  constructor
  · intro same
    by_contra undecided
    simp only [OwnOctetsDecide, not_or, not_forall] at undecided
    obtain ⟨passed, kind, mapped, enough, uncovered⟩ := undecided
    have rented (octet : UInt8)
        : Rented runtime header payload
            (List.replicate
              (runtime.rent (headerSize + payload.length) - (headerSize + payload.length))
              octet) :=
      { payload_length := length, total := by rw [List.length_replicate]; omega }
    have packets := (same _ _ (rented 0) (rented 1)).1
    have long
        : kind.size
          ≤ payload.length
            + (runtime.rent (headerSize + payload.length)
                - (headerSize + payload.length)) := by
      omega
    rw [handedPacket_of_not_refused (by rw [inbound_frameMemory length]; exact passed),
      handedPacket_of_not_refused (by rw [inbound_frameMemory length]; exact passed),
      decodeFrame_frameMemory, decodeFrame_frameMemory, Option.mem_def.mp mapped,
      Option.bind_some, Option.bind_some, if_pos (by simpa using long),
      if_pos (by simpa using long)] at packets
    exact uncovered (PacketKind.covered_of_decided long packets)
  · intro decided slack other slackRented otherRented
    have packets
        : handedPacket first id (frameMemory header payload slack)
          = handedPacket first id (frameMemory header payload other) := by
      by_cases refused : inbound first id (frameMemory header payload []) = .refused
      · rw [handedPacket, handedPacket, inbound_frameMemory length, refused,
          inbound_frameMemory length, refused]
      rw [handedPacket_of_not_refused (by rw [inbound_frameMemory length]; exact refused),
        handedPacket_of_not_refused (by rw [inbound_frameMemory length]; exact refused),
        decodeFrame_frameMemory, decodeFrame_frameMemory]
      have slackTotal := slackRented.total
      have otherTotal := otherRented.total
      cases mapped : packetIdMap header.type with
      | none => rfl
      | some kind =>
          simp only [Option.bind_some, List.length_append]
          rcases decided.resolve_left refused kind mapped with short | covered
          · rw [if_neg (by omega), if_neg (by omega)]
          · split_ifs with slackLong otherLong otherLong
            · exact PacketKind.decided_of_covered covered slackLong otherLong
            · omega
            · omega
            · rfl
    refine ⟨packets, fun state now socket => ?_⟩
    rw [packets]

/-- A moon packet that is all there is handled as it was sent. -/
theorem whole_shine_seesOnlyOwn
    : SeesOnlyOwn .pooled false ⟨7⟩ { id := ⟨7⟩, type := .shine, packetSize := 4 }
        [5, 0, 0, 0] :=
  (@seesOnlyOwn_iff .pooled false ⟨7⟩ { id := ⟨7⟩, type := .shine, packetSize := 4 }
    [5, 0, 0, 0] rfl).mpr
    (Or.inr fun kind mapped => Or.inr (by
      obtain rfl : PacketKind.shine = kind := Option.some.inj mapped
      exact Nat.le_refl 4))

/-- A moon packet without its moon collects whichever moon the memory held. -/
theorem empty_shine_collects_old_octets
    : Rented .pooled { id := ⟨7⟩, type := .shine, packetSize := 0 } [] (zeros 12)
      ∧ Rented .pooled { id := ⟨7⟩, type := .shine, packetSize := 0 } [] ([5] ++ zeros 11)
      ∧ handedPacket false ⟨7⟩
          (frameMemory { id := ⟨7⟩, type := .shine, packetSize := 0 } [] (zeros 12))
        = some (.shine { shineId := 0 })
      ∧ handedPacket false ⟨7⟩
          (frameMemory { id := ⟨7⟩, type := .shine, packetSize := 0 } [] ([5] ++ zeros 11))
        = some (.shine { shineId := 5 })
      ∧ ¬SeesOnlyOwn .pooled false ⟨7⟩ { id := ⟨7⟩, type := .shine, packetSize := 0 } [] := by
  have cleared
      : Rented .pooled { id := ⟨7⟩, type := .shine, packetSize := 0 } [] (zeros 12) :=
    ⟨by decide, by decide⟩
  have used
      : Rented .pooled { id := ⟨7⟩, type := .shine, packetSize := 0 } [] ([5] ++ zeros 11) :=
    ⟨by decide, by decide⟩
  refine ⟨cleared, used, by decide, by decide, fun same => ?_⟩
  exact absurd (same _ _ cleared used).1 (by decide)

end SmoOnline
