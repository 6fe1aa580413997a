import SmoOnline.Shared.Packets

/-! What the packets read of their text fields. The game's own fields are `char` buffers, whose
text ends at the first zero whatever the buffer held before.
-/

namespace SmoOnline

open Span Utf8

/-- The text of a `char` buffer. -/
def bufferText (octets : Bytes) : Text := decode (beforeZero octets)

/-- The octets of the string fields of a payload. -/
def PacketKind.textFields : PacketKind → Bytes → List Bytes
  | .cap, payload => [slice payload 32 (32 + CapPacket.nameSize)]
  | .game, payload => [slice payload 2 (2 + GamePacket.stageSize)]
  | .connect, payload => [slice payload 6 (6 + costumeNameSize)]
  | .costume, payload =>
      [slice payload 0 costumeNameSize, slice payload costumeNameSize payload.length]
  | .capture, payload => [slice payload 0 costumeNameSize]
  | .changeStage, payload =>
      [
        slice payload 0 ChangeStagePacket.stageSize,
        slice payload ChangeStagePacket.stageSize
          (ChangeStagePacket.idSize + ChangeStagePacket.stageSize)
      ]
  | .flagDroppedPosition, payload => [slice payload 36 (36 + FlagDroppedPositionPacket.stageSize)]
  | _, _ => []

/-- The strings of a packet, in the order of their fields. -/
def Packet.texts : Packet → List Text
  | .cap packet => [packet.capAnim]
  | .game packet => [packet.stage]
  | .connect packet => [packet.clientName]
  | .costume packet => [packet.bodyName, packet.capName]
  | .capture packet => [packet.modelName]
  | .changeStage packet => [packet.stage, packet.id]
  | .flagDroppedPosition packet => [packet.stage]
  | _ => []

/-- The stages that `PacketHandler` asks for. -/
def handledStages : List Text :=
  ["CapWorldHomeStage".toList, "WaterfallWorldHomeStage".toList]

/-- Every string is the text of its buffer, and the handler takes a stage for one it asks for
when the buffer names that stage.
-/
structure Packet.ReadsBuffers (packet : Packet) (kind : PacketKind) (payload : Bytes) : Prop where
  texts : packet.texts = (kind.textFields payload).map bufferText
  stages
    : ∀ game,
        packet = .game game
        → ∀ stage ∈ handledStages,
          game.stage = stage ↔ bufferText (slice payload 2 (2 + GamePacket.stageSize)) = stage

/-- The fields that are trimmed from the end have only zeros behind the first one. -/
def PacketKind.TailsPadded : PacketKind → Bytes → Prop
  | .cap, payload => Padded (slice payload 32 (32 + CapPacket.nameSize))
  | .game, payload => Padded (slice payload 2 (2 + GamePacket.stageSize))
  | .flagDroppedPosition, payload =>
      Padded (slice payload 36 (36 + FlagDroppedPositionPacket.stageSize))
  | _, _ => True

-----------------------------------------------------------------------------------------
-- The two ways to trim
-----------------------------------------------------------------------------------------

/-- A string cut at its first NUL is the text of its buffer. -/
@[simp] theorem getNullTerm_eq_bufferText (octets : Bytes)
    : getNullTerm octets = bufferText octets :=
  cString_decode octets

/-- A string trimmed from its end is the text of its buffer where only zeros follow that. -/
@[simp] theorem getTrimmed_eq_bufferText_iff (octets : Bytes)
    : getTrimmed octets = bufferText octets ↔ Padded octets := by
  rw [getTrimmed, bufferText, ← cString_decode, trimNuls_decode_eq_iff]

theorem eq_slice_of_slice? {data field : Bytes} {start stop : Nat}
    (read : slice? data start stop = some field)
    : field = slice data start stop := by
  rw [slice?] at read
  split_ifs at read
  exact (Option.some.inj read).symm

-----------------------------------------------------------------------------------------
-- Packet by packet
-----------------------------------------------------------------------------------------

theorem CapPacket.capAnim_eq {payload : Bytes} {packet : CapPacket}
    (read : deserialize payload = some packet)
    : packet.capAnim = getTrimmed (slice payload 32 (32 + nameSize)) := by
  simp only [deserialize, Option.bind_eq_bind, Option.bind_eq_some_iff, Option.pure_def,
    Option.some.injEq] at read
  obtain ⟨_, _, _, _, _, _, field, taken, rfl⟩ := read
  rw [eq_slice_of_slice? taken]

theorem GamePacket.stage_eq {payload : Bytes} {packet : GamePacket}
    (read : deserialize payload = some packet)
    : packet.stage = getTrimmed (slice payload 2 (2 + stageSize)) := by
  simp only [deserialize, Option.bind_eq_bind, Option.bind_eq_some_iff, Option.pure_def,
    Option.some.injEq] at read
  obtain ⟨_, _, _, _, field, taken, rfl⟩ := read
  rw [eq_slice_of_slice? taken]

theorem ConnectPacket.clientName_eq {payload : Bytes} {packet : ConnectPacket}
    (read : deserialize payload = some packet)
    : packet.clientName = getNullTerm (slice payload 6 (6 + costumeNameSize)) := by
  simp only [deserialize, Option.bind_eq_bind, Option.bind_eq_some_iff, Option.pure_def,
    Option.some.injEq] at read
  obtain ⟨_, _, _, _, field, taken, rfl⟩ := read
  rw [eq_slice_of_slice? taken]

theorem CostumePacket.names_eq {payload : Bytes} {packet : CostumePacket}
    (read : deserialize payload = some packet)
    : packet.bodyName = getNullTerm (slice payload 0 costumeNameSize)
      ∧ packet.capName = getNullTerm (slice payload costumeNameSize payload.length) := by
  simp only [deserialize, Option.bind_eq_bind, Option.bind_eq_some_iff, Option.pure_def,
    Option.some.injEq] at read
  obtain ⟨body, bodyTaken, cap, capTaken, rfl⟩ := read
  rw [eq_slice_of_slice? bodyTaken, eq_slice_of_slice? capTaken]
  exact ⟨rfl, rfl⟩

theorem CapturePacket.modelName_eq {payload : Bytes} {packet : CapturePacket}
    (read : deserialize payload = some packet)
    : packet.modelName = getNullTerm (slice payload 0 costumeNameSize) := by
  simp only [deserialize, Option.bind_eq_bind, Option.bind_eq_some_iff, Option.pure_def,
    Option.some.injEq] at read
  obtain ⟨field, taken, rfl⟩ := read
  rw [eq_slice_of_slice? taken]

theorem ChangeStagePacket.texts_eq {payload : Bytes} {packet : ChangeStagePacket}
    (read : deserialize payload = some packet)
    : packet.stage = getNullTerm (slice payload 0 stageSize)
      ∧ packet.id = getNullTerm (slice payload stageSize (idSize + stageSize)) := by
  simp only [deserialize, Option.bind_eq_bind, Option.bind_eq_some_iff, Option.pure_def,
    Option.some.injEq] at read
  obtain ⟨stage, stageTaken, id, idTaken, _, _, _, _, rfl⟩ := read
  rw [eq_slice_of_slice? stageTaken, eq_slice_of_slice? idTaken]
  exact ⟨rfl, rfl⟩

theorem FlagDroppedPositionPacket.stage_eq {payload : Bytes} {packet : FlagDroppedPositionPacket}
    (read : deserialize payload = some packet)
    : packet.stage = getTrimmed (slice payload 36 (36 + stageSize)) := by
  simp only [deserialize, Option.bind_eq_bind, Option.bind_eq_some_iff, Option.pure_def,
    Option.some.injEq] at read
  obtain ⟨_, _, _, _, _, _, _, _, field, taken, rfl⟩ := read
  rw [eq_slice_of_slice? taken]

/-- The strings are the texts of their buffers exactly where the fields that are trimmed from
the end are padded.
-/
theorem PacketKind.texts_eq_iff {kind : PacketKind} {payload : Bytes} {packet : Packet}
    (decoded : kind.deserialize payload = some packet)
    : packet.texts = (kind.textFields payload).map bufferText ↔ kind.TailsPadded payload := by
  cases kind with
  | cap =>
      obtain ⟨cap, read, rfl⟩ := Option.map_eq_some_iff.mp decoded
      simp [Packet.texts, textFields, TailsPadded, CapPacket.capAnim_eq read]
  | game =>
      obtain ⟨game, read, rfl⟩ := Option.map_eq_some_iff.mp decoded
      simp [Packet.texts, textFields, TailsPadded, GamePacket.stage_eq read]
  | flagDroppedPosition =>
      obtain ⟨dropped, read, rfl⟩ := Option.map_eq_some_iff.mp decoded
      simp [Packet.texts, textFields, TailsPadded, FlagDroppedPositionPacket.stage_eq read]
  | connect =>
      obtain ⟨connect, read, rfl⟩ := Option.map_eq_some_iff.mp decoded
      simp [Packet.texts, textFields, TailsPadded, ConnectPacket.clientName_eq read]
  | costume =>
      obtain ⟨costume, read, rfl⟩ := Option.map_eq_some_iff.mp decoded
      simp [Packet.texts, textFields, TailsPadded, CostumePacket.names_eq read]
  | capture =>
      obtain ⟨capture, read, rfl⟩ := Option.map_eq_some_iff.mp decoded
      simp [Packet.texts, textFields, TailsPadded, CapturePacket.modelName_eq read]
  | changeStage =>
      obtain ⟨changeStage, read, rfl⟩ := Option.map_eq_some_iff.mp decoded
      simp [Packet.texts, textFields, TailsPadded, ChangeStagePacket.texts_eq read]
  | unhandled | disconnect =>
      obtain rfl := Option.some.inj decoded
      exact iff_of_true rfl trivial
  | init | player | tag | shine | captureTheFlagPlayerTeamAssignment | captureTheFlagGameState
  | flagHoldState | captureTheFlagWin =>
      obtain ⟨other, _, rfl⟩ := Option.map_eq_some_iff.mp decoded
      exact iff_of_true rfl trivial

/-- A packet reads the texts of its buffers, and the handler knows the stages it asks for,
exactly where the fields that are trimmed from the end have only zeros behind the first one.
-/
theorem Packet.readsBuffers_iff {kind : PacketKind} {payload : Bytes} {packet : Packet}
    (decoded : kind.deserialize payload = some packet)
    : packet.ReadsBuffers kind payload ↔ kind.TailsPadded payload := by
  refine ⟨fun reads => (PacketKind.texts_eq_iff decoded).mp reads.texts, fun padded => ?_⟩
  have texts := (PacketKind.texts_eq_iff decoded).mpr padded
  refine ⟨texts, ?_⟩
  rintro game rfl stage asked
  cases kind with
  | game =>
      rw [Packet.texts, PacketKind.textFields, List.map_singleton] at texts
      rw [(List.cons.inj texts).1]
  | unhandled | disconnect => cases Option.some.inj decoded
  | init | player | cap | tag | connect | costume | shine | capture | changeStage
  | captureTheFlagPlayerTeamAssignment | captureTheFlagGameState | flagHoldState
  | flagDroppedPosition | captureTheFlagWin =>
      obtain ⟨other, _, same⟩ := Option.map_eq_some_iff.mp decoded
      cases same

/-- A game packet whose buffer held the name of the waterfall stage before that of the cap
stage.
-/
def leftoverPayload : Bytes :=
  [0, 0] ++ encode "CapWorldHomeStage".toList ++ [0] ++ encode "Stage".toList ++ zeros 41

/-- A game packet of a player who is in 2D in the third scenario of the cap stage. -/
def paddedPayload : Bytes :=
  [1, 3] ++ encode "CapWorldHomeStage".toList ++ zeros 47

/-- The name of the stage is read where zeros fill its buffer, and is not where a longer one was. -/
theorem Packet.readsBuffers_iff_padded
    : ∃ padded leftover,
        PacketKind.game.deserialize paddedPayload = some padded
        ∧ PacketKind.game.deserialize leftoverPayload = some leftover
        ∧ padded.texts = ["CapWorldHomeStage".toList]
        ∧ padded.ReadsBuffers .game paddedPayload
        ∧ ¬leftover.ReadsBuffers .game leftoverPayload := by
  obtain ⟨padded, decoded⟩
      : ∃ packet, PacketKind.game.deserialize paddedPayload = some packet :=
    Option.isSome_iff_exists.mp (by decide +kernel)
  obtain ⟨leftover, other⟩
      : ∃ packet, PacketKind.game.deserialize leftoverPayload = some packet :=
    Option.isSome_iff_exists.mp (by decide +kernel)
  have zeros : PacketKind.game.TailsPadded paddedPayload := by
    rw [PacketKind.TailsPadded]
    decide +kernel
  have letters : ¬PacketKind.game.TailsPadded leftoverPayload := by
    rw [PacketKind.TailsPadded]
    decide +kernel
  have reads := (Packet.readsBuffers_iff decoded).mpr zeros
  refine ⟨padded, leftover, decoded, other, reads.texts.trans (by decide +kernel), reads, ?_⟩
  exact fun read => letters ((Packet.readsBuffers_iff other).mp read)

/-- The octets behind the name of the cap stage become a part of it, and the handler does not
know it.
-/
theorem leftover_read
    : ∃ game,
        PacketKind.game.deserialize leftoverPayload = some (.game game)
        ∧ bufferText (slice leftoverPayload 2 (2 + GamePacket.stageSize))
          = "CapWorldHomeStage".toList
        ∧ game.stage ≠ "CapWorldHomeStage".toList
        ∧ ¬(Packet.game game).ReadsBuffers .game leftoverPayload := by
  have named : bufferText (slice leftoverPayload 2 (2 + GamePacket.stageSize))
      = "CapWorldHomeStage".toList := by decide +kernel
  obtain ⟨game, decoded⟩
      : ∃ game, GamePacket.deserialize leftoverPayload = some game :=
    Option.isSome_iff_exists.mp (by decide +kernel)
  have unknown : game.stage ≠ "CapWorldHomeStage".toList := by
    rw [GamePacket.stage_eq decoded]
    decide +kernel
  refine ⟨game, congrArg (Option.map Packet.game) decoded, named, unknown, fun reads => ?_⟩
  exact unknown ((reads.stages game rfl _ (by decide)).mpr named)

end SmoOnline
