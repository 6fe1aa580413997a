import SmoOnline.Shared.Reencode

/-! Which values come back from a cleared span that was filled as far as their stores fit.
A store that does not fit ends the filling without an error that the sender acts on, so a text
that is too long leaves zeros in its own field and in all fields behind it.
-/

namespace SmoOnline

open Span Utf8

/-- A store that does not fit leaves the span as the stores before it made it, by induction
on them.
-/
theorem runStores_stopped {before after : List Store} {store : Store} {data : Bytes}
    (fits : ∀ earlier ∈ before, earlier.Fits data.length) (unfit : ¬store.Fits data.length)
    : runStores (before ++ store :: after) data = ((runStores before data).1, false) := by
  induction before generalizing data with
  | nil => exact runStores_cons_of_not_fits after unfit
  | cons head rest ih =>
      have headFits := fits head List.mem_cons_self
      have kept := headFits.length_overwrite
      rw [List.cons_append, runStores_cons_of_fits _ headFits, runStores_cons_of_fits _ headFits]
      apply ih
      · intro earlier later
        rw [kept]
        exact fits earlier (List.mem_cons_of_mem head later)
      · rwa [kept]

/-- A text that is read back from its field was stored there. Witness: a store that was
refused leaves zeros, which read as the empty text, and the empty text fits.
-/
theorem fits_of_read_back {before after : List Store} {bound : Option Nat}
    {start stop length : Nat} {text : Text} {reads : Bytes → Text}
    (empty : ∀ count, reads (zeros count) = [])
    (fits : ∀ earlier ∈ before, earlier.Fits length)
    (apart
      : ∀ earlier ∈ before,
          earlier.start + earlier.octets.length ≤ start ∨ stop ≤ earlier.start)
    (room : stop ≤ length)
    (back
      : reads (slice
          (runStores (before ++ .copy start (encode text) bound :: after) (zeros length)).1
          start stop)
        = text)
    : (encode text).length ≤ bound.getD length - start := by
  by_contra long
  have unfit : ¬(Store.copy start (encode text) bound).Fits (zeros length).length := by
    rw [length_zeros]
    exact fun inside => long inside.2.2
  rw [← length_zeros length] at fits
  rw [runStores_stopped fits unfit, slice_runStores_apart fits apart, slice_zeros room, empty]
    at back
  subst back
  exact long (Nat.zero_le _)

theorem getNullTerm_zeros (count : Nat) : getNullTerm (zeros count) = [] := by
  simpa [encode] using @getNullTerm_encode [] (by simp) count

theorem getTrimmed_zeros (count : Nat) : getTrimmed (zeros count) = [] := by
  simpa [encode] using @getTrimmed_encode [] (by simp [trimNuls]) count

/-- A text that a field reads back, cut at NUL. -/
theorem fitsField_of_read_back {before after : List Store} {start stop length : Nat}
    {text : Text} (fits : ∀ earlier ∈ before, earlier.Fits length)
    (apart
      : ∀ earlier ∈ before,
          earlier.start + earlier.octets.length ≤ start ∨ stop ≤ earlier.start)
    (room : stop ≤ length)
    (back
      : getNullTerm (slice
          (runStores (before ++ .copy start (encode text) (some stop) :: after)
            (zeros length)).1
          start stop)
        = text)
    : FitsField text (stop - start) where
  clean := by
    rw [← back]
    exact nul_not_mem_getNullTerm _
  short := fits_of_read_back getNullTerm_zeros fits apart room back

/-- A text that a field reads back, trimmed. -/
theorem fitsTrimmed_of_read_back {before after : List Store} {start stop length : Nat}
    {text : Text} (fits : ∀ earlier ∈ before, earlier.Fits length)
    (apart
      : ∀ earlier ∈ before,
          earlier.start + earlier.octets.length ≤ start ∨ stop ≤ earlier.start)
    (room : stop ≤ length)
    (back
      : getTrimmed (slice
          (runStores (before ++ .copy start (encode text) (some stop) :: after)
            (zeros length)).1
          start stop)
        = text)
    : FitsTrimmed text (stop - start) where
  trimmed := by
    rw [← back]
    exact trimNuls_trimNuls _
  short := fits_of_read_back getTrimmed_zeros fits apart room back

-----------------------------------------------------------------------------------------
-- The structs with texts
-----------------------------------------------------------------------------------------

attribute [local simp] Store.write Store.copy Store.Fits
  costumeNameSize PlayerPacket.size CapPacket.size CapPacket.nameSize GamePacket.size
  GamePacket.stageSize ConnectPacket.size CostumePacket.size CapturePacket.size
  ChangeStagePacket.size ChangeStagePacket.idSize ChangeStagePacket.stageSize
  FlagDroppedPositionPacket.size FlagDroppedPositionPacket.stageSize

section structs

variable {length : Nat}

theorem CapPacket.fits_of_reads_back {packet : CapPacket} (room : size ≤ length)
    (back
      : deserialize (slice (runStores packet.serialize (zeros length)).1 0 size)
        = some packet)
    : FitsTrimmed packet.capAnim nameSize := by
  simp at room
  rw [deserialize_eq (by simp [room])] at back
  simp (disch := decide) only [slice_front] at back
  have capAnim := congrArg CapPacket.capAnim (Option.some.inj back)
  exact @fitsTrimmed_of_read_back
    [.write 0 packet.position, .write 12 packet.rotation, .write 28 packet.capOut] [] 32 80
    length packet.capAnim (by simp; omega) (by simp) (by omega) capAnim

theorem GamePacket.fits_of_reads_back {packet : GamePacket} (room : size ≤ length)
    (back
      : deserialize (slice (runStores packet.serialize (zeros length)).1 0 size)
        = some packet)
    : FitsTrimmed packet.stage stageSize := by
  simp at room
  rw [deserialize_eq (by simp [room])] at back
  simp (disch := decide) only [slice_front] at back
  have stage := congrArg GamePacket.stage (Option.some.inj back)
  exact @fitsTrimmed_of_read_back [.write 0 packet.is2d, .write 1 packet.scenarioNum] [] 2 66
    length packet.stage (by simp; omega) (by simp) (by omega) stage

theorem ConnectPacket.fits_of_reads_back {packet : ConnectPacket} (room : size ≤ length)
    (back
      : deserialize (slice (runStores packet.serialize (zeros length)).1 0 size)
        = some packet)
    : FitsField packet.clientName costumeNameSize := by
  simp at room
  rw [deserialize_eq (by simp [room])] at back
  simp (disch := decide) only [slice_front] at back
  have clientName := congrArg ConnectPacket.clientName (Option.some.inj back)
  exact @fitsField_of_read_back
    [.write 0 packet.connectionType, .write 4 packet.maxPlayers] [] 6 38 length
    packet.clientName (by simp; omega) (by simp) (by omega) clientName

theorem CapturePacket.fits_of_reads_back {packet : CapturePacket} (room : size ≤ length)
    (back
      : deserialize (slice (runStores packet.serialize (zeros length)).1 0 size)
        = some packet)
    : FitsField packet.modelName costumeNameSize := by
  simp at room
  rw [deserialize_eq (by simp [room])] at back
  simp (disch := decide) only [slice_front] at back
  have modelName := congrArg CapturePacket.modelName (Option.some.inj back)
  exact @fitsField_of_read_back [] [] 0 32 length packet.modelName (by simp) (by simp) (by omega)
    modelName

/-- The Id is stored behind the stage, so it is there only if the stage is. -/
theorem ChangeStagePacket.fits_of_reads_back {packet : ChangeStagePacket}
    (room : size ≤ length)
    (back
      : deserialize (slice (runStores packet.serialize (zeros length)).1 0 size)
        = some packet)
    : FitsField packet.stage stageSize ∧ FitsField packet.id idSize := by
  simp at room
  rw [deserialize_eq (by simp [room])] at back
  simp (disch := decide) only [slice_front] at back
  have stage := congrArg ChangeStagePacket.stage (Option.some.inj back)
  have id := congrArg ChangeStagePacket.id (Option.some.inj back)
  have stageFits : FitsField packet.stage stageSize :=
    @fitsField_of_read_back []
      [.copy 48 (encode packet.id) (some 64), .write 64 packet.scenario (some 65),
        .write 65 packet.subScenarioType (some 66)]
      0 48 length packet.stage (by simp) (by simp) (by omega) stage
  have short : (encode packet.stage).length ≤ 48 := stageFits.short
  refine ⟨stageFits, ?_⟩
  exact @fitsField_of_read_back [.copy 0 (encode packet.stage) (some 48)]
    [.write 64 packet.scenario (some 65), .write 65 packet.subScenarioType (some 66)]
    48 64 length packet.id (by simp; omega) (by simpa using short) (by omega) id

theorem FlagDroppedPositionPacket.fits_of_reads_back {packet : FlagDroppedPositionPacket}
    (room : size ≤ length)
    (back
      : deserialize (slice (runStores packet.serialize (zeros length)).1 0 size)
        = some packet)
    : FitsTrimmed packet.stage stageSize := by
  simp at room
  rw [deserialize_eq (by simp [room])] at back
  simp (disch := decide) only [slice_front] at back
  have stage := congrArg FlagDroppedPositionPacket.stage (Option.some.inj back)
  exact @fitsTrimmed_of_read_back
    [.write 0 packet.team (some 4), .write 4 packet.position (some 16),
      .write 16 packet.rotation (some 32), .write 32 packet.scenarioNum (some 36)]
    [] 36 100 length packet.stage (by simp; omega) (by simp) (by omega) stage

/-- A player packet is always read with six weights. -/
theorem PlayerPacket.weights_of_reads_back {packet : PlayerPacket} (room : size ≤ length)
    (back
      : deserialize (slice (runStores packet.serialize (zeros length)).1 0 size)
        = some packet)
    : packet.animationBlendWeights.length = 6 := by
  have whole
      : (slice (runStores packet.serialize (zeros length)).1 0 size).length = size := by
    rw [length_slice (by simpa using room), Nat.sub_zero]
  obtain ⟨other, decoded, weights⟩ := PlayerPacket.deserialize_weights whole
  obtain rfl := Option.some.inj (back.symm.trans decoded)
  exact weights

/-- The last name of a costume goes into all of the span that is left, of which the field has
the first octets.
-/
def CostumePacket.CapNameSurvives (packet : CostumePacket) (length : Nat) : Prop :=
  costumeNameSize + (encode packet.capName).length ≤ length
  ∧ getNullTerm ((encode packet.capName ++ zeros costumeNameSize).take costumeNameSize)
    = packet.capName

/-- The octets of a costume's two fields where both names were stored. -/
theorem CostumePacket.slices_of_fits {packet : CostumePacket} (room : size ≤ length)
    (bodyName : (encode packet.bodyName).length ≤ costumeNameSize)
    (capName : costumeNameSize + (encode packet.capName).length ≤ length)
    : slice (runStores packet.serialize (zeros length)).1 0 32
        = encode packet.bodyName ++ zeros (32 - (encode packet.bodyName).length)
      ∧ slice (runStores packet.serialize (zeros length)).1 32 64
        = (encode packet.capName ++ zeros costumeNameSize).take costumeNameSize := by
  simp at room bodyName capName
  have bodyFits
      : (Store.copy 0 (encode packet.bodyName) (some 32)).Fits (zeros length).length := by
    simp
    omega
  have dressed := bodyFits.length_overwrite
  have capFits
      : (Store.copy 32 (encode packet.capName)).Fits
          (overwrite (zeros length) 0 (encode packet.bodyName)).length := by
    simp only [Store.copy] at dressed
    rw [dressed]
    simp
    omega
  have stored
      : runStores packet.serialize (zeros length)
        = (overwrite (overwrite (zeros length) 0 (encode packet.bodyName)) 32
            (encode packet.capName), true) := by
    exact (runStores_cons_of_fits _ bodyFits).trans (runStores_cons_of_fits _ capFits)
  simp only [Store.copy, length_zeros] at dressed
  rw [stored]
  constructor
  · rw [slice_overwrite_apart (by rw [dressed]; omega) (.inl (Nat.le_refl 32)),
      slice_overwrite_front (Nat.zero_le _) (by omega), Nat.zero_add, slice_zeros (by omega)]
  · apply List.ext_getElem?
    intro index
    rw [getElem?_slice, getElem?_overwrite _ _ (by rw [dressed]; omega),
      getElem?_overwrite _ _ (Nat.zero_le _), List.getElem?_take, List.getElem?_append]
    simp only [zeros, List.getElem?_replicate, costumeNameSize]
    split_ifs <;> first | omega | rfl | (congr 1; omega)

/-- A costume is read back when its first name fits and its second has room. -/
theorem CostumePacket.reads_back_iff {packet : CostumePacket} (room : size ≤ length)
    : deserialize (slice (runStores packet.serialize (zeros length)).1 0 size) = some packet
      ↔ FitsField packet.bodyName costumeNameSize ∧ packet.CapNameSurvives length := by
  have whole : 64 ≤ length := by simpa using room
  rw [deserialize_eq (by simp [whole])]
  simp (disch := decide) only [slice_front]
  constructor
  · intro back
    have bodyName := congrArg CostumePacket.bodyName (Option.some.inj back)
    have capName := congrArg CostumePacket.capName (Option.some.inj back)
    have bodyFits : FitsField packet.bodyName costumeNameSize :=
      @fitsField_of_read_back [] [.copy 32 (encode packet.capName)] 0 32 length packet.bodyName
        (by simp) (by simp) (by omega) bodyName
    have bodyShort : (encode packet.bodyName).length ≤ 32 := bodyFits.short
    have capShort : (encode packet.capName).length ≤ length - 32 :=
      @fits_of_read_back [.copy 0 (encode packet.bodyName) (some 32)] [] none 32 64 length
        packet.capName getNullTerm getNullTerm_zeros (by simp; omega) (by simpa using bodyShort)
        whole capName
    have capRoom : costumeNameSize + (encode packet.capName).length ≤ length := by
      simp
      omega
    refine ⟨bodyFits, capRoom, ?_⟩
    rw [← (slices_of_fits room bodyFits.short capRoom).2]
    exact capName
  · rintro ⟨bodyFits, capRoom, capName⟩
    obtain ⟨bodySlice, capSlice⟩ := slices_of_fits room bodyFits.short capRoom
    rw [bodySlice, capSlice, capName, getNullTerm_encode bodyFits.clean]

end structs

/-- The values that come back from a cleared span of this length in which they were stored as
far as they fit.
-/
def Packet.Survives (length : Nat) : Packet → Prop
  | .unhandled packet => packet.data = []
  | .player packet => packet.animationBlendWeights.length = 6
  | .cap packet => FitsTrimmed packet.capAnim CapPacket.nameSize
  | .game packet => FitsTrimmed packet.stage GamePacket.stageSize
  | .connect packet => FitsField packet.clientName costumeNameSize
  | .costume packet =>
      FitsField packet.bodyName costumeNameSize ∧ packet.CapNameSurvives length
  | .capture packet => FitsField packet.modelName costumeNameSize
  | .changeStage packet =>
      FitsField packet.stage ChangeStagePacket.stageSize
      ∧ FitsField packet.id ChangeStagePacket.idSize
  | .flagDroppedPosition packet =>
      FitsTrimmed packet.stage FlagDroppedPositionPacket.stageSize
  | .captureTheFlagPlayerTeamAssignment _ => False
  | _ => True

/-- A packet is read back from the front of the span exactly when it survives, by its struct.
-/
theorem Packet.reads_back_iff {packet : Packet} {length : Nat} (room : packet.size ≤ length)
    : packet.kind.deserialize
        (slice (runStores packet.serialize (zeros length)).1 0 packet.size)
      = some packet
      ↔ packet.Survives length := by
  have lift {struct : Type} {back : Option struct} {value : struct} {wrap : struct → Packet}
      (wraps : Function.Injective wrap)
      : back.map wrap = some (wrap value) ↔ back = some value := by
    constructor
    · intro same
      obtain ⟨other, found, equal⟩ := Option.map_eq_some_iff.mp same
      rw [found, wraps equal]
    · rintro rfl
      rfl
  cases packet with
  | unhandled packet =>
      change some (Packet.unhandled { data := slice _ 0 0 }) = some (.unhandled packet)
        ↔ packet.data = []
      rw [slice, Nat.sub_zero, List.take_zero]
      constructor
      · intro same
        exact (congrArg UnhandledPacket.data (Packet.unhandled.inj (Option.some.inj same))).symm
      · intro none
        rw [← none]
  | captureTheFlagPlayerTeamAssignment packet =>
      refine (lift fun _ _ => Packet.captureTheFlagPlayerTeamAssignment.inj).trans ?_
      rw [CaptureTheFlagPlayerTeamAssignmentPacket.deserialize_eq_none]
      · exact iff_of_false (by simp) id
      · rw [length_slice (by simpa using room), Nat.sub_zero]
        rfl
  | player packet =>
      refine (lift fun _ _ => Packet.player.inj).trans ?_
      exact ⟨PlayerPacket.weights_of_reads_back room, fun weights =>
        (PlayerPacket.deserialize_serialize weights room).2⟩
  | cap packet =>
      refine (lift fun _ _ => Packet.cap.inj).trans ?_
      exact ⟨CapPacket.fits_of_reads_back room, fun fits =>
        (CapPacket.deserialize_serialize fits room).2⟩
  | game packet =>
      refine (lift fun _ _ => Packet.game.inj).trans ?_
      exact ⟨GamePacket.fits_of_reads_back room, fun fits =>
        (GamePacket.deserialize_serialize fits room).2⟩
  | connect packet =>
      refine (lift fun _ _ => Packet.connect.inj).trans ?_
      exact ⟨ConnectPacket.fits_of_reads_back room, fun fits =>
        (ConnectPacket.deserialize_serialize fits room).2⟩
  | costume packet =>
      exact (lift fun _ _ => Packet.costume.inj).trans (CostumePacket.reads_back_iff room)
  | capture packet =>
      refine (lift fun _ _ => Packet.capture.inj).trans ?_
      exact ⟨CapturePacket.fits_of_reads_back room, fun fits =>
        (CapturePacket.deserialize_serialize fits room).2⟩
  | changeStage packet =>
      refine (lift fun _ _ => Packet.changeStage.inj).trans ?_
      exact ⟨ChangeStagePacket.fits_of_reads_back room, fun fits =>
        (ChangeStagePacket.deserialize_serialize fits.1 fits.2 room).2⟩
  | flagDroppedPosition packet =>
      refine (lift fun _ _ => Packet.flagDroppedPosition.inj).trans ?_
      exact ⟨FlagDroppedPositionPacket.fits_of_reads_back room, fun fits =>
        (FlagDroppedPositionPacket.deserialize_serialize fits room).2⟩
  | _ =>
      refine iff_of_true (Packet.deserialize_serialize ?_ ?_ room).2 trivial
      · trivial
      · simp [kind]

end SmoOnline
