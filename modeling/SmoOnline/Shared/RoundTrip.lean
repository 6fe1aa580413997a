import SmoOnline.Shared.Layouts

/-! Every packet but the team assignment comes back from the wire as it was sent. -/

namespace SmoOnline

open Span Utf8

/-- A text without NUL whose octets its field can hold. -/
structure FitsField (text : Text) (width : Nat) : Prop where
  clean : nul ∉ text
  short : (encode text).length ≤ width

/-- A text that its field can hold and that trimming leaves alone. -/
structure FitsTrimmed (text : Text) (width : Nat) : Prop where
  trimmed : trimNuls text = text
  short : (encode text).length ≤ width

theorem FitsField.fitsTrimmed {text : Text} {width : Nat} (fits : FitsField text width)
    : FitsTrimmed text width :=
  { trimmed := trimNuls_of_clean fits.clean, short := fits.short }

theorem getNullTerm_encode {text : Text} (clean : nul ∉ text) (count : Nat)
    : getNullTerm (encode text ++ zeros count) = text := by
  rw [getNullTerm, cString_decode_encode_iff clean]
  cases count <;> rfl

theorem getTrimmed_encode {text : Text} (trimmed : trimNuls text = text) (count : Nat)
    : getTrimmed (encode text ++ zeros count) = text := by
  rw [getTrimmed, zeros, decode_append_zeros, decode_encode, trimNuls_append_nuls, trimmed]

@[simp] theorem CaptureTheFlagTeam.ofBytes_octet (team : CaptureTheFlagTeam)
    : (ofBytes (toBytes team) : UInt8) = team.value :=
  ofBytes_toBytes team.value

/-- The octet of a team with cleared octets behind it, read as an `int`, is the team. -/
@[simp] theorem CaptureTheFlagTeam.ofBytes_int (team : CaptureTheFlagTeam)
    : (ofBytes (toBytes team ++ zeros 3) : UInt32).toUInt8 = team.value := by
  apply UInt8.toNat_inj.mp
  have small := team.value.toNat_lt
  change (UInt32.ofNat (leValue (leBytes 1 team.value.toNat ++ [0, 0, 0]))).toUInt8.toNat = _
  simp only [leBytes, List.cons_append, List.nil_append, leValue, UInt32.toNat_toUInt8,
    UInt32.toNat_ofNat', UInt8.toNat_ofNat', UInt8.toNat_zero]
  omega

/-- A truth value stored as `1` or `0` is read back by comparing with `1`. -/
@[simp] theorem beq_one_ofBool (flag : Bool) : ((if flag then 1 else 0 : UInt8) == 1) = flag := by
  cases flag <;> rfl

attribute [local simp] Store.write Store.copy Store.Fits
  costumeNameSize InitPacket.size PlayerPacket.size CapPacket.size
  CapPacket.nameSize GamePacket.size GamePacket.stageSize TagPacket.size ConnectPacket.size
  CostumePacket.size ShinePacket.size CapturePacket.size ChangeStagePacket.size
  ChangeStagePacket.idSize ChangeStagePacket.stageSize CaptureTheFlagGameStatePacket.size
  FlagHoldStatePacket.size FlagDroppedPositionPacket.size FlagDroppedPositionPacket.stageSize
  CaptureTheFlagWinPacket.size

attribute [local simp] InitPacket.serialize PlayerPacket.serialize CapPacket.serialize
  GamePacket.serialize TagPacket.serialize ConnectPacket.serialize CostumePacket.serialize
  ShinePacket.serialize CapturePacket.serialize ChangeStagePacket.serialize
  CaptureTheFlagGameStatePacket.serialize FlagHoldStatePacket.serialize
  FlagDroppedPositionPacket.serialize CaptureTheFlagWinPacket.serialize

theorem InitPacket.deserialize_serialize {packet : InitPacket}
    {length : Nat} (room : size ≤ length)
    : (∀ store ∈ packet.serialize, store.Fits length)
      ∧ deserialize (slice (runStores packet.serialize (zeros length)).1 0 size)
        = some packet := by
  simp at room
  have fits : ∀ store ∈ packet.serialize, store.Fits length := by
    simp
    omega
  refine ⟨fits, ?_⟩
  rw [← length_zeros length] at fits
  have maxPlayers
      : slice (runStores packet.serialize (zeros length)).1 0 2
        = toBytes packet.maxPlayers :=
    slice_runStores_write none fits (by simp) rfl (by simp)
  rw [deserialize_eq (by simp [room])]
  simp (disch := decide) only [slice_front]
  rw [maxPlayers]
  simp

theorem PlayerPacket.deserialize_serialize {packet : PlayerPacket}
    (weights : packet.animationBlendWeights.length = 6)
    {length : Nat} (room : size ≤ length)
    : (∀ store ∈ packet.serialize, store.Fits length)
      ∧ deserialize (slice (runStores packet.serialize (zeros length)).1 0 size)
        = some packet := by
  simp at room
  have fits : ∀ store ∈ packet.serialize, store.Fits length := by
    simp [weights]
    omega
  refine ⟨fits, ?_⟩
  rw [← length_zeros length] at fits
  have position
      : slice (runStores packet.serialize (zeros length)).1 0 12
        = toBytes packet.position :=
    slice_runStores_write (some 12) fits (by simp) rfl (by simp)
  have rotation
      : slice (runStores packet.serialize (zeros length)).1 12 28
        = toBytes packet.rotation :=
    slice_runStores_write (some 28) fits (by simp) rfl (by simp [weights])
  have animationBlendWeights
      : slice (runStores packet.serialize (zeros length)).1 28 52
        = packet.animationBlendWeights.flatMap toBytes ++ _ :=
    slice_runStores_copy (some 52) fits (by simp) (by simp [weights]) (by simp [weights])
  have act
      : slice (runStores packet.serialize (zeros length)).1 52 54
        = toBytes packet.act :=
    slice_runStores_write (some 54) fits (by simp) rfl (by simp [weights])
  have subAct
      : slice (runStores packet.serialize (zeros length)).1 54 56
        = toBytes packet.subAct :=
    slice_runStores_write (some 56) fits (by simp) rfl (by simp [weights])
  rw [deserialize_eq (by simp [room])]
  simp (disch := decide) only [slice_front]
  rw [position, rotation, animationBlendWeights, act, subAct]
  have all := readMany_toBytes packet.animationBlendWeights
  rw [weights] at all
  simp [weights, all, slice]

theorem CapPacket.deserialize_serialize {packet : CapPacket}
    (capAnim : FitsTrimmed packet.capAnim nameSize)
    {length : Nat} (room : size ≤ length)
    : (∀ store ∈ packet.serialize, store.Fits length)
      ∧ deserialize (slice (runStores packet.serialize (zeros length)).1 0 size)
        = some packet := by
  obtain ⟨capAnimTrimmed, capAnimShort⟩ := capAnim
  simp at capAnimShort room
  have fits : ∀ store ∈ packet.serialize, store.Fits length := by
    simp
    omega
  refine ⟨fits, ?_⟩
  rw [← length_zeros length] at fits
  have position
      : slice (runStores packet.serialize (zeros length)).1 0 12
        = toBytes packet.position :=
    slice_runStores_write none fits (by simp) rfl (by simp)
  have rotation
      : slice (runStores packet.serialize (zeros length)).1 12 28
        = toBytes packet.rotation :=
    slice_runStores_write none fits (by simp) rfl (by simp)
  have capOut
      : slice (runStores packet.serialize (zeros length)).1 28 29
        = toBytes packet.capOut :=
    slice_runStores_write none fits (by simp) rfl (by simp)
  have capAnim
      : slice (runStores packet.serialize (zeros length)).1 32 80
        = encode packet.capAnim ++ _ :=
    slice_runStores_copy (some 80) fits (by simp) (by omega) (by simp)
  rw [deserialize_eq (by simp [room])]
  simp (disch := decide) only [slice_front]
  rw [position, rotation, capOut, capAnim]
  simp (disch := omega) [slice_zeros, getTrimmed_encode capAnimTrimmed]

theorem GamePacket.deserialize_serialize {packet : GamePacket}
    (stage : FitsTrimmed packet.stage stageSize)
    {length : Nat} (room : size ≤ length)
    : (∀ store ∈ packet.serialize, store.Fits length)
      ∧ deserialize (slice (runStores packet.serialize (zeros length)).1 0 size)
        = some packet := by
  obtain ⟨stageTrimmed, stageShort⟩ := stage
  simp at stageShort room
  have fits : ∀ store ∈ packet.serialize, store.Fits length := by
    simp
    omega
  refine ⟨fits, ?_⟩
  rw [← length_zeros length] at fits
  have is2d
      : slice (runStores packet.serialize (zeros length)).1 0 1
        = toBytes packet.is2d :=
    slice_runStores_write none fits (by simp) rfl (by simp)
  have scenarioNum
      : slice (runStores packet.serialize (zeros length)).1 1 2
        = toBytes packet.scenarioNum :=
    slice_runStores_write none fits (by simp) rfl (by simp)
  have stage
      : slice (runStores packet.serialize (zeros length)).1 2 66
        = encode packet.stage ++ _ :=
    slice_runStores_copy (some 66) fits (by simp) (by omega) (by simp)
  rw [deserialize_eq (by simp [room])]
  simp (disch := decide) only [slice_front]
  rw [is2d, scenarioNum, stage]
  simp (disch := omega) [slice_zeros, getTrimmed_encode stageTrimmed]

theorem TagPacket.deserialize_serialize {packet : TagPacket}
    {length : Nat} (room : size ≤ length)
    : (∀ store ∈ packet.serialize, store.Fits length)
      ∧ deserialize (slice (runStores packet.serialize (zeros length)).1 0 size)
        = some packet := by
  simp at room
  have fits : ∀ store ∈ packet.serialize, store.Fits length := by
    simp
    omega
  refine ⟨fits, ?_⟩
  rw [← length_zeros length] at fits
  have updateType
      : slice (runStores packet.serialize (zeros length)).1 0 1
        = toBytes packet.updateType :=
    slice_runStores_write none fits (by simp) rfl (by simp)
  have isIt
      : slice (runStores packet.serialize (zeros length)).1 1 2
        = toBytes packet.isIt :=
    slice_runStores_write none fits (by simp) rfl (by simp)
  have seconds
      : slice (runStores packet.serialize (zeros length)).1 2 3
        = toBytes packet.seconds :=
    slice_runStores_write none fits (by simp) rfl (by simp)
  have minutes
      : slice (runStores packet.serialize (zeros length)).1 4 6
        = toBytes packet.minutes :=
    slice_runStores_write none fits (by simp) rfl (by simp)
  rw [deserialize_eq (by simp [room])]
  simp (disch := decide) only [slice_front]
  rw [updateType, isIt, seconds, minutes]
  simp

theorem ConnectPacket.deserialize_serialize {packet : ConnectPacket}
    (clientName : FitsField packet.clientName costumeNameSize)
    {length : Nat} (room : size ≤ length)
    : (∀ store ∈ packet.serialize, store.Fits length)
      ∧ deserialize (slice (runStores packet.serialize (zeros length)).1 0 size)
        = some packet := by
  obtain ⟨clientNameClean, clientNameShort⟩ := clientName
  simp at clientNameShort room
  have fits : ∀ store ∈ packet.serialize, store.Fits length := by
    simp
    omega
  refine ⟨fits, ?_⟩
  rw [← length_zeros length] at fits
  have connectionType
      : slice (runStores packet.serialize (zeros length)).1 0 4
        = toBytes packet.connectionType :=
    slice_runStores_write none fits (by simp) rfl (by simp)
  have maxPlayers
      : slice (runStores packet.serialize (zeros length)).1 4 6
        = toBytes packet.maxPlayers :=
    slice_runStores_write none fits (by simp) rfl (by simp)
  have clientName
      : slice (runStores packet.serialize (zeros length)).1 6 38
        = encode packet.clientName ++ _ :=
    slice_runStores_copy (some 38) fits (by simp) (by omega) (by simp)
  rw [deserialize_eq (by simp [room])]
  simp (disch := decide) only [slice_front]
  rw [connectionType, maxPlayers, clientName]
  simp (disch := omega) [slice_zeros, getNullTerm_encode clientNameClean]

theorem CostumePacket.deserialize_serialize {packet : CostumePacket}
    (bodyName : FitsField packet.bodyName costumeNameSize)
    (capName : FitsField packet.capName costumeNameSize)
    {length : Nat} (room : size ≤ length)
    : (∀ store ∈ packet.serialize, store.Fits length)
      ∧ deserialize (slice (runStores packet.serialize (zeros length)).1 0 size)
        = some packet := by
  obtain ⟨bodyNameClean, bodyNameShort⟩ := bodyName
  obtain ⟨capNameClean, capNameShort⟩ := capName
  simp at bodyNameShort capNameShort room
  have fits : ∀ store ∈ packet.serialize, store.Fits length := by
    simp
    omega
  refine ⟨fits, ?_⟩
  rw [← length_zeros length] at fits
  have bodyName
      : slice (runStores packet.serialize (zeros length)).1 0 32
        = encode packet.bodyName ++ _ :=
    slice_runStores_copy (some 32) fits (by simp) (by omega) (by simp)
  have capName
      : slice (runStores packet.serialize (zeros length)).1 32 64
        = encode packet.capName ++ _ :=
    slice_runStores_copy none fits (by simp) (by omega) (by simpa using bodyNameShort)
  rw [deserialize_eq (by simp [room])]
  simp (disch := decide) only [slice_front]
  rw [bodyName, capName]
  simp (disch := omega) [slice_zeros, getNullTerm_encode bodyNameClean,
    getNullTerm_encode capNameClean]

theorem ShinePacket.deserialize_serialize {packet : ShinePacket}
    {length : Nat} (room : size ≤ length)
    : (∀ store ∈ packet.serialize, store.Fits length)
      ∧ deserialize (slice (runStores packet.serialize (zeros length)).1 0 size)
        = some packet := by
  simp at room
  have fits : ∀ store ∈ packet.serialize, store.Fits length := by
    simp
    omega
  refine ⟨fits, ?_⟩
  rw [← length_zeros length] at fits
  have shineId
      : slice (runStores packet.serialize (zeros length)).1 0 4
        = toBytes packet.shineId :=
    slice_runStores_write none fits (by simp) rfl (by simp)
  rw [deserialize_eq (by simp [room])]
  simp (disch := decide) only [slice_front]
  rw [shineId]
  simp

theorem CapturePacket.deserialize_serialize {packet : CapturePacket}
    (modelName : FitsField packet.modelName costumeNameSize)
    {length : Nat} (room : size ≤ length)
    : (∀ store ∈ packet.serialize, store.Fits length)
      ∧ deserialize (slice (runStores packet.serialize (zeros length)).1 0 size)
        = some packet := by
  obtain ⟨modelNameClean, modelNameShort⟩ := modelName
  simp at modelNameShort room
  have fits : ∀ store ∈ packet.serialize, store.Fits length := by
    simp
    omega
  refine ⟨fits, ?_⟩
  rw [← length_zeros length] at fits
  have modelName
      : slice (runStores packet.serialize (zeros length)).1 0 32
        = encode packet.modelName ++ _ :=
    slice_runStores_copy (some 32) fits (by simp) (by omega) (by simp)
  rw [deserialize_eq (by simp [room])]
  simp (disch := decide) only [slice_front]
  rw [modelName]
  simp (disch := omega) [slice_zeros, getNullTerm_encode modelNameClean]

theorem ChangeStagePacket.deserialize_serialize {packet : ChangeStagePacket}
    (stage : FitsField packet.stage stageSize)
    (id : FitsField packet.id idSize)
    {length : Nat} (room : size ≤ length)
    : (∀ store ∈ packet.serialize, store.Fits length)
      ∧ deserialize (slice (runStores packet.serialize (zeros length)).1 0 size)
        = some packet := by
  obtain ⟨stageClean, stageShort⟩ := stage
  obtain ⟨idClean, idShort⟩ := id
  simp at stageShort idShort room
  have fits : ∀ store ∈ packet.serialize, store.Fits length := by
    simp
    omega
  refine ⟨fits, ?_⟩
  rw [← length_zeros length] at fits
  have stage
      : slice (runStores packet.serialize (zeros length)).1 0 48
        = encode packet.stage ++ _ :=
    slice_runStores_copy (some 48) fits (by simp) (by omega) (by simp)
  have id
      : slice (runStores packet.serialize (zeros length)).1 48 64
        = encode packet.id ++ _ :=
    slice_runStores_copy (some 64) fits (by simp) (by omega) (by simp; omega)
  have scenario
      : slice (runStores packet.serialize (zeros length)).1 64 65
        = toBytes packet.scenario :=
    slice_runStores_write (some 65) fits (by simp) rfl (by simp; omega)
  have subScenarioType
      : slice (runStores packet.serialize (zeros length)).1 65 66
        = toBytes packet.subScenarioType :=
    slice_runStores_write (some 66) fits (by simp) rfl (by simp; omega)
  rw [deserialize_eq (by simp [room])]
  simp (disch := decide) only [slice_front]
  rw [stage, id, scenario, subScenarioType]
  simp (disch := omega) [slice_zeros, getNullTerm_encode stageClean, getNullTerm_encode idClean]

theorem CaptureTheFlagGameStatePacket.deserialize_serialize {packet : CaptureTheFlagGameStatePacket}
    {length : Nat} (room : size ≤ length)
    : (∀ store ∈ packet.serialize, store.Fits length)
      ∧ deserialize (slice (runStores packet.serialize (zeros length)).1 0 size)
        = some packet := by
  simp at room
  have fits : ∀ store ∈ packet.serialize, store.Fits length := by
    simp
    omega
  refine ⟨fits, ?_⟩
  rw [← length_zeros length] at fits
  have seconds
      : slice (runStores packet.serialize (zeros length)).1 0 1
        = toBytes packet.seconds :=
    slice_runStores_write (some 1) fits (by simp) rfl (by simp)
  have minutes
      : slice (runStores packet.serialize (zeros length)).1 1 3
        = toBytes packet.minutes :=
    slice_runStores_write (some 3) fits (by simp) rfl (by simp)
  have resetGame
      : slice (runStores packet.serialize (zeros length)).1 3 4
        = toBytes (if packet.resetGame then 1 else 0 : UInt8) :=
    slice_runStores_write (some 4) fits (by simp) rfl (by simp)
  rw [deserialize_eq (by simp [room])]
  simp (disch := decide) only [slice_front]
  rw [seconds, minutes, resetGame]
  simp

theorem FlagHoldStatePacket.deserialize_serialize {packet : FlagHoldStatePacket}
    {length : Nat} (room : size ≤ length)
    : (∀ store ∈ packet.serialize, store.Fits length)
      ∧ deserialize (slice (runStores packet.serialize (zeros length)).1 0 size)
        = some packet := by
  simp at room
  have fits : ∀ store ∈ packet.serialize, store.Fits length := by
    simp
    omega
  refine ⟨fits, ?_⟩
  rw [← length_zeros length] at fits
  have isHeld
      : slice (runStores packet.serialize (zeros length)).1 0 1
        = toBytes (if packet.isHeld then 1 else 0 : UInt8) :=
    slice_runStores_write (some 1) fits (by simp) rfl (by simp)
  have team
      : slice (runStores packet.serialize (zeros length)).1 1 2
        = toBytes packet.team :=
    slice_runStores_write (some 2) fits (by simp) rfl (by simp)
  rw [deserialize_eq (by simp [room])]
  simp (disch := decide) only [slice_front]
  rw [isHeld, team]
  simp

theorem FlagDroppedPositionPacket.deserialize_serialize {packet : FlagDroppedPositionPacket}
    (stage : FitsTrimmed packet.stage stageSize)
    {length : Nat} (room : size ≤ length)
    : (∀ store ∈ packet.serialize, store.Fits length)
      ∧ deserialize (slice (runStores packet.serialize (zeros length)).1 0 size)
        = some packet := by
  obtain ⟨stageTrimmed, stageShort⟩ := stage
  simp at stageShort room
  have fits : ∀ store ∈ packet.serialize, store.Fits length := by
    simp
    omega
  refine ⟨fits, ?_⟩
  rw [← length_zeros length] at fits
  have team
      : slice (runStores packet.serialize (zeros length)).1 0 4
        = toBytes packet.team ++ _ :=
    slice_runStores_copy (some 4) fits (by simp) (by simp) (by simp)
  have position
      : slice (runStores packet.serialize (zeros length)).1 4 16
        = toBytes packet.position :=
    slice_runStores_write (some 16) fits (by simp) rfl (by simp)
  have rotation
      : slice (runStores packet.serialize (zeros length)).1 16 32
        = toBytes packet.rotation :=
    slice_runStores_write (some 32) fits (by simp) rfl (by simp)
  have scenarioNum
      : slice (runStores packet.serialize (zeros length)).1 32 36
        = toBytes packet.scenarioNum :=
    slice_runStores_write (some 36) fits (by simp) rfl (by simp)
  have stage
      : slice (runStores packet.serialize (zeros length)).1 36 100
        = encode packet.stage ++ _ :=
    slice_runStores_copy (some 100) fits (by simp) (by omega) (by simp)
  rw [deserialize_eq (by simp [room])]
  simp (disch := decide) only [slice_front]
  rw [team, position, rotation, scenarioNum, stage]
  simp (disch := omega) [slice_zeros, getTrimmed_encode stageTrimmed]

theorem CaptureTheFlagWinPacket.deserialize_serialize {packet : CaptureTheFlagWinPacket}
    {length : Nat} (room : size ≤ length)
    : (∀ store ∈ packet.serialize, store.Fits length)
      ∧ deserialize (slice (runStores packet.serialize (zeros length)).1 0 size)
        = some packet := by
  simp at room
  have fits : ∀ store ∈ packet.serialize, store.Fits length := by
    simp
    omega
  refine ⟨fits, ?_⟩
  rw [← length_zeros length] at fits
  have winningTeam
      : slice (runStores packet.serialize (zeros length)).1 0 1
        = toBytes packet.winningTeam :=
    slice_runStores_write (some 1) fits (by simp) rfl (by simp)
  rw [deserialize_eq (by simp [room])]
  simp (disch := decide) only [slice_front]
  rw [winningTeam]
  simp

/-- The values the layouts are made for: texts fit their fields, a player packet has its six
weights, and the catch-all is left out.
-/
def Packet.Sendable : Packet → Prop
  | .unhandled _ => False
  | .player packet => packet.animationBlendWeights.length = 6
  | .cap packet => FitsField packet.capAnim CapPacket.nameSize
  | .game packet => FitsField packet.stage GamePacket.stageSize
  | .connect packet => FitsField packet.clientName costumeNameSize
  | .costume packet =>
      FitsField packet.bodyName costumeNameSize ∧ FitsField packet.capName costumeNameSize
  | .capture packet => FitsField packet.modelName costumeNameSize
  | .changeStage packet =>
      FitsField packet.stage ChangeStagePacket.stageSize
      ∧ FitsField packet.id ChangeStagePacket.idSize
  | .flagDroppedPosition packet => FitsField packet.stage FlagDroppedPositionPacket.stageSize
  | _ => True

/-- A sendable packet stored in a cleared span reads back as itself, by its struct. -/
theorem Packet.deserialize_serialize {packet : Packet} (sendable : packet.Sendable)
    (other : packet.kind ≠ .captureTheFlagPlayerTeamAssignment) {length : Nat}
    (room : packet.size ≤ length)
    : (∀ store ∈ packet.serialize, store.Fits length)
      ∧ packet.kind.deserialize
          (slice (runStores packet.serialize (zeros length)).1 0 packet.size)
        = some packet := by
  have lift {struct : Type} {stores : List Store} {back : Option struct} {value : struct}
      (wrap : struct → Packet)
      (same : (∀ store ∈ stores, store.Fits length) ∧ back = some value)
      : (∀ store ∈ stores, store.Fits length) ∧ back.map wrap = some (wrap value) :=
    ⟨same.1, congrArg (Option.map wrap) same.2⟩
  cases packet with
  | unhandled packet => exact sendable.elim
  | captureTheFlagPlayerTeamAssignment packet => exact absurd rfl other
  | init packet => exact lift .init (InitPacket.deserialize_serialize room)
  | player packet => exact lift .player (PlayerPacket.deserialize_serialize sendable room)
  | cap packet => exact lift .cap (CapPacket.deserialize_serialize sendable.fitsTrimmed room)
  | game packet => exact lift .game (GamePacket.deserialize_serialize sendable.fitsTrimmed room)
  | tag packet => exact lift .tag (TagPacket.deserialize_serialize room)
  | connect packet => exact lift .connect (ConnectPacket.deserialize_serialize sendable room)
  | disconnect packet => exact ⟨fun store member => absurd member List.not_mem_nil, rfl⟩
  | costume packet =>
      exact lift .costume (CostumePacket.deserialize_serialize sendable.1 sendable.2 room)
  | shine packet => exact lift .shine (ShinePacket.deserialize_serialize room)
  | capture packet => exact lift .capture (CapturePacket.deserialize_serialize sendable room)
  | changeStage packet =>
      exact lift .changeStage
        (ChangeStagePacket.deserialize_serialize sendable.1 sendable.2 room)
  | captureTheFlagGameState packet =>
      exact lift .captureTheFlagGameState
        (CaptureTheFlagGameStatePacket.deserialize_serialize room)
  | flagHoldState packet =>
      exact lift .flagHoldState (FlagHoldStatePacket.deserialize_serialize room)
  | flagDroppedPosition packet =>
      exact lift .flagDroppedPosition
        (FlagDroppedPositionPacket.deserialize_serialize sendable.fitsTrimmed room)
  | captureTheFlagWin packet =>
      exact lift .captureTheFlagWin (CaptureTheFlagWinPacket.deserialize_serialize room)

/-- The two stores of a team assignment need five octets where its `Size` counts two. -/
theorem CaptureTheFlagPlayerTeamAssignmentPacket.not_fits
    (packet : CaptureTheFlagPlayerTeamAssignmentPacket)
    : ¬∀ store ∈ packet.serialize, store.Fits size := by
  simp [serialize, size, marshalSizeOfBool]

/-- Stores that fit the `Size` of a packet leave what lies behind it in a longer span. -/
theorem fillPacket_contained {header : PacketHeader} {stores : List Store} {size : Nat}
    (fits : ∀ store ∈ stores, store.Fits size) {memory : Bytes}
    (long : headerSize + size ≤ memory.length)
    : (fillPacket header stores memory).1.drop (headerSize + size)
      = memory.drop (headerSize + size) := by
  have bounded : ∀ store ∈ stores, store.start + store.octets.length ≤ size := by
    intro store member
    obtain ⟨order, inside, room⟩ := fits store member
    omega
  have beyond :=
    slice_runStores_beyond bounded (memory.drop headerSize) memory.length (Nat.le_refl size)
  have cut (data : Bytes) (short : data.length ≤ memory.length)
      : slice data size memory.length = data.drop size := by
    rw [slice, List.take_of_length_le (by rw [List.length_drop]; omega)]
  rw [cut _ (by simp), cut _ (by simp)] at beyond
  rw [fillPacket_eq header stores (by omega), List.drop_append, header.length_octets,
    Nat.add_sub_cancel_left, beyond, List.drop_drop,
    List.drop_of_length_le (by rw [header.length_octets]; omega), List.nil_append]

/-- `FillPacket` into a cleared buffer of exactly the header and the packet's `Size` succeeds
inside it, and both parts read back as what was stored.
-/
structure RoundTrips (header : PacketHeader) (packet : Packet) : Prop where
  completes
    : (fillPacket header packet.serialize (zeros (headerSize + packet.size))).2 = true
  contained
    : ∀ memory : Bytes,
        headerSize + packet.size ≤ memory.length
        → (fillPacket header packet.serialize memory).1.drop (headerSize + packet.size)
          = memory.drop (headerSize + packet.size)
  header_back
    : PacketHeader.deserialize
        (fillPacket header packet.serialize (zeros (headerSize + packet.size))).1
      = some header
  packet_back
    : packet.kind.deserialize
        ((fillPacket header packet.serialize (zeros (headerSize + packet.size))).1.drop
          headerSize)
      = some packet

/-- Every header comes back from its octets, and a sendable packet makes the round trip
exactly when it is not a team assignment. Witness: each store's place among the other stores
of its struct; the second store of a team assignment is refused.
-/
theorem roundTrips_iff (header : PacketHeader) {packet : Packet} (sendable : packet.Sendable)
    : (∀ rest, PacketHeader.deserialize
        ((runStores header.serialize (zeros headerSize)).1 ++ rest) = some header)
      ∧ (RoundTrips header packet
        ↔ packet.kind ≠ .captureTheFlagPlayerTeamAssignment) := by
  have memoryLong : headerSize ≤ (zeros (headerSize + packet.size)).length := by
    rw [length_zeros]
    exact Nat.le_add_right _ _
  have body : (zeros (headerSize + packet.size)).drop headerSize = zeros packet.size := by
    rw [zeros, List.drop_replicate, Nat.add_sub_cancel_left, zeros]
  have filled := fillPacket_eq header packet.serialize memoryLong
  rw [body] at filled
  refine ⟨fun rest => ?_, fun trips => ?_, fun other => ?_⟩
  · rw [header.runStores_serialize (length_zeros headerSize), header.deserialize_octets]
  · intro assignment
    have completes := trips.completes
    rw [filled] at completes
    rw [runStores_completes_iff, length_zeros] at completes
    cases packet with
    | captureTheFlagPlayerTeamAssignment packet => exact packet.not_fits completes
    | _ => cases assignment
  · obtain ⟨fits, back⟩ := Packet.deserialize_serialize sendable other (Nat.le_refl packet.size)
    rw [slice_all (by rw [length_runStores, length_zeros])] at back
    refine ⟨?_, fun memory long => fillPacket_contained fits long, ?_, ?_⟩
    · rw [filled, runStores_completes_iff, length_zeros]
      exact fits
    · rw [filled, header.deserialize_octets]
    · rw [filled, List.drop_left' header.length_octets]
      exact back

/-- A tag packet makes the round trip. -/
theorem tag_roundTrips
    : RoundTrips { id := ⟨7⟩, type := .tag, packetSize := 6 }
        (.tag { updateType := .time, isIt := true, seconds := 30, minutes := 2 }) :=
  (@roundTrips_iff { id := ⟨7⟩, type := .tag, packetSize := 6 }
    (.tag { updateType := .time, isIt := true, seconds := 30, minutes := 2 })
    trivial).2.mpr (by decide)

/-- A team assignment does not: storing its flag throws. -/
theorem captureTheFlagPlayerTeamAssignment_throws
    : Packet.Sendable
        (.captureTheFlagPlayerTeamAssignment { team := .redTeam, shouldHoldTeamFlag := true })
      ∧ ¬RoundTrips
          { id := ⟨7⟩, type := .captureTheFlagPlayerTeamAssignment, packetSize := 2 }
          (.captureTheFlagPlayerTeamAssignment
            { team := .redTeam, shouldHoldTeamFlag := true }) := by
  refine ⟨trivial, fun trips => ?_⟩
  exact absurd trips.completes (by decide)

end SmoOnline
