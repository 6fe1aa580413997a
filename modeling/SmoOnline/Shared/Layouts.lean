import SmoOnline.Shared.Packets

/-! What each `Deserialize` answers on a span of exactly the packet's `Size`: which octets
every field is read from. Only the team assignment, whose second slice is longer than its
`Size`, is refused.
-/

namespace SmoOnline

open Span Utf8

attribute [local simp] costumeNameSize InitPacket.size PlayerPacket.size CapPacket.size
  CapPacket.nameSize GamePacket.size GamePacket.stageSize TagPacket.size ConnectPacket.size
  CostumePacket.size ShinePacket.size CapturePacket.size ChangeStagePacket.size
  ChangeStagePacket.idSize ChangeStagePacket.stageSize CaptureTheFlagGameStatePacket.size
  FlagHoldStatePacket.size FlagDroppedPositionPacket.size FlagDroppedPositionPacket.stageSize
  CaptureTheFlagWinPacket.size CaptureTheFlagPlayerTeamAssignmentPacket.size
  CaptureTheFlagPlayerTeamAssignmentPacket.marshalSizeOfBool

theorem InitPacket.deserialize_eq {data : Bytes} (length : data.length = size)
    : deserialize data
      = some {
          maxPlayers := ofBytes (slice data 0 2)
        } := by
  simp at length
  simp [deserialize, readAt_eq, length]

theorem PlayerPacket.deserialize_eq {data : Bytes} (length : data.length = size)
    : deserialize data
      = some {
          position := ofBytes (slice data 0 12)
          rotation := ofBytes (slice data 12 28)
          animationBlendWeights := readMany UInt32 6 (slice data 28 52)
          act := ofBytes (slice data 52 54)
          subAct := ofBytes (slice data 54 56)
        } := by
  simp at length
  simp [deserialize, readAt_eq, slice?_eq_some, length]

theorem CapPacket.deserialize_eq {data : Bytes} (length : data.length = size)
    : deserialize data
      = some {
          position := ofBytes (slice data 0 12)
          rotation := ofBytes (slice data 12 28)
          capOut := ofBytes (slice data 28 29)
          capAnim := getTrimmed (slice data 32 80)
        } := by
  simp at length
  simp [deserialize, readAt_eq, slice?_eq_some, length]

theorem GamePacket.deserialize_eq {data : Bytes} (length : data.length = size)
    : deserialize data
      = some {
          is2d := ofBytes (slice data 0 1)
          scenarioNum := ofBytes (slice data 1 2)
          stage := getTrimmed (slice data 2 66)
        } := by
  simp at length
  simp [deserialize, readAt_eq, slice?_eq_some, length]

theorem TagPacket.deserialize_eq {data : Bytes} (length : data.length = size)
    : deserialize data
      = some {
          updateType := ofBytes (slice data 0 1)
          isIt := ofBytes (slice data 1 2)
          seconds := ofBytes (slice data 2 3)
          minutes := ofBytes (slice data 4 6)
        } := by
  simp at length
  simp [deserialize, readAt_eq, length]

theorem ConnectPacket.deserialize_eq {data : Bytes} (length : data.length = size)
    : deserialize data
      = some {
          connectionType := ofBytes (slice data 0 4)
          maxPlayers := ofBytes (slice data 4 6)
          clientName := getNullTerm (slice data 6 38)
        } := by
  simp at length
  simp [deserialize, readAt_eq, slice?_eq_some, length]

theorem CostumePacket.deserialize_eq {data : Bytes} (length : data.length = size)
    : deserialize data
      = some {
          bodyName := getNullTerm (slice data 0 32)
          capName := getNullTerm (slice data 32 64)
        } := by
  simp at length
  simp [deserialize, slice?_eq_some, length]

theorem ShinePacket.deserialize_eq {data : Bytes} (length : data.length = size)
    : deserialize data
      = some {
          shineId := ofBytes (slice data 0 4)
        } := by
  simp at length
  simp [deserialize, readAt_eq, length]

theorem CapturePacket.deserialize_eq {data : Bytes} (length : data.length = size)
    : deserialize data
      = some {
          modelName := getNullTerm (slice data 0 32)
        } := by
  simp at length
  simp [deserialize, slice?_eq_some, length]

theorem ChangeStagePacket.deserialize_eq {data : Bytes} (length : data.length = size)
    : deserialize data
      = some {
          stage := getNullTerm (slice data 0 48)
          id := getNullTerm (slice data 48 64)
          scenario := ofBytes (slice data 64 65)
          subScenarioType := ofBytes (slice data 65 66)
        } := by
  simp at length
  simp [deserialize, readAt_eq, slice?_eq_some, length]

theorem CaptureTheFlagGameStatePacket.deserialize_eq {data : Bytes} (length : data.length = size)
    : deserialize data
      = some {
          seconds := ofBytes (slice data 0 1)
          minutes := ofBytes (slice data 1 3)
          resetGame := (ofBytes (slice data 3 4) : UInt8) == 1
        } := by
  simp at length
  simp [deserialize, readAt_eq, length]

theorem FlagHoldStatePacket.deserialize_eq {data : Bytes} (length : data.length = size)
    : deserialize data
      = some {
          isHeld := (ofBytes (slice data 0 1) : UInt8) == 1
          team := ⟨ofBytes (slice data 1 2)⟩
        } := by
  simp at length
  simp [deserialize, readAt_eq, length]

theorem FlagDroppedPositionPacket.deserialize_eq {data : Bytes} (length : data.length = size)
    : deserialize data
      = some {
          team := ⟨(ofBytes (slice data 0 4) : UInt32).toUInt8⟩
          position := ofBytes (slice data 4 16)
          rotation := ofBytes (slice data 16 32)
          scenarioNum := ofBytes (slice data 32 36)
          stage := getTrimmed (slice data 36 100)
        } := by
  simp at length
  simp [deserialize, readAt_eq, slice?_eq_some, length]

theorem CaptureTheFlagWinPacket.deserialize_eq {data : Bytes} (length : data.length = size)
    : deserialize data
      = some {
          winningTeam := ⟨ofBytes (slice data 0 1)⟩
        } := by
  simp at length
  simp [deserialize, readAt_eq, length]

/-- The flag is read from four octets behind the team, and the `Size` leaves only one. -/
theorem CaptureTheFlagPlayerTeamAssignmentPacket.deserialize_eq_none {data : Bytes}
    (length : data.length = size)
    : deserialize data = none := by
  simp at length
  have refused : readAt Bool data 1 5 = none := readAt_eq_none (Or.inr (by omega))
  simp [deserialize, readAt_eq, length, refused]

end SmoOnline
