import SmoOnline.Shared.RoundTrip

/-! Packets that are decoded, kept and encoded again. Replacement lengthens ill-formed text,
so a field that was full when it came in can be too short for what was read from it.
-/

namespace SmoOnline

open Span Utf8

/-- The structs whose values the server keeps or encodes again. -/
def PacketKind.reencoded : PacketKind → Bool
  | .connect | .costume | .game | .player | .flagHoldState | .captureTheFlagWin => true
  | _ => false

/-- `Deserialize` and `Serialize` into a cleared buffer of the `Size` both return, and the
buffer decodes to the same value.
-/
def PacketKind.Reencodes (kind : PacketKind) (payload : Bytes) : Prop :=
  ∃ packet,
    kind.deserialize payload = some packet
    ∧ (runStores packet.serialize (zeros kind.size)).2 = true
    ∧ kind.deserialize (runStores packet.serialize (zeros kind.size)).1 = some packet

/-- The octets before the first zero, ill-formed parts counted with their replacements. -/
def NullTermFits (octets : Bytes) (width : Nat) : Prop :=
  (beforeZero octets).length + growth (beforeZero octets) ≤ width

/-- The octets without trailing zeros, ill-formed parts counted with their replacements. -/
def TrimmedFits (octets : Bytes) (width : Nat) : Prop :=
  (trimZeros octets).length + growth (trimZeros octets) ≤ width

instance (octets : Bytes) (width : Nat) : Decidable (NullTermFits octets width) :=
  inferInstanceAs (Decidable (_ ≤ _))

instance (octets : Bytes) (width : Nat) : Decidable (TrimmedFits octets width) :=
  inferInstanceAs (Decidable (_ ≤ _))

/-- Every text field of a payload has room for its replacements. -/
def PacketKind.TextsFit : PacketKind → Bytes → Prop
  | .connect, payload => NullTermFits (slice payload 6 38) costumeNameSize
  | .costume, payload =>
      NullTermFits (slice payload 0 32) costumeNameSize
      ∧ NullTermFits (slice payload 32 64) costumeNameSize
  | .game, payload => TrimmedFits (slice payload 2 66) GamePacket.stageSize
  | _, _ => True

instance : (kind : PacketKind) → (payload : Bytes) → Decidable (kind.TextsFit payload)
  | .connect, _ => inferInstanceAs (Decidable (NullTermFits _ _))
  | .costume, _ => inferInstanceAs (Decidable (NullTermFits _ _ ∧ NullTermFits _ _))
  | .game, _ => inferInstanceAs (Decidable (TrimmedFits _ _))
  | .unhandled, _ | .init, _ | .player, _ | .cap, _ | .tag, _ | .disconnect, _ | .shine, _
  | .capture, _ | .changeStage, _ | .captureTheFlagPlayerTeamAssignment, _
  | .captureTheFlagGameState, _ | .flagHoldState, _ | .flagDroppedPosition, _
  | .captureTheFlagWin, _ => isTrue trivial

theorem nul_not_mem_getNullTerm (octets : Bytes) : nul ∉ getNullTerm octets := by
  rw [getNullTerm, cString_decode]
  apply nul_not_mem_decode
  intro zero
  simpa using List.mem_takeWhile_imp zero

/-- Text cut at NUL takes its octets before the zero and what replacement adds to them. -/
theorem nullTermFits_iff (octets : Bytes) (width : Nat)
    : NullTermFits octets width ↔ (encode (getNullTerm octets)).length ≤ width := by
  rw [getNullTerm, cString_decode, length_encode_decode]
  rfl

/-- Trimmed text takes its octets up to the zeros and what replacement adds to them. -/
theorem trimmedFits_iff (octets : Bytes) (width : Nat)
    : TrimmedFits octets width ↔ (encode (getTrimmed octets)).length ≤ width := by
  rw [getTrimmed, trimNuls_decode, length_encode_decode]
  rfl

/-- A payload that its struct reads is reencoded exactly when the stores of its value fit,
given that fitting stores read back.
-/
theorem PacketKind.reencodes_iff_fits (kind : PacketKind) {payload : Bytes} {struct : Type}
    {read : Bytes → Option struct} {value : struct} (wrap : struct → Packet)
    (reads : ∀ data, kind.deserialize data = (read data).map wrap)
    (decoded : read payload = some value)
    (back
      : (∀ store ∈ (wrap value).serialize, store.Fits kind.size)
        → read (slice (runStores (wrap value).serialize (zeros kind.size)).1 0 kind.size)
          = some value)
    : kind.Reencodes payload ↔ ∀ store ∈ (wrap value).serialize, store.Fits kind.size := by
  have first : kind.deserialize payload = some (wrap value) := by rw [reads, decoded]; rfl
  constructor
  · rintro ⟨packet, again, completes, _⟩
    obtain rfl := Option.some.inj (first.symm.trans again)
    rw [runStores_completes_iff, length_zeros] at completes
    exact completes
  · intro fits
    have second := back fits
    rw [slice_all (by rw [length_runStores, length_zeros])] at second
    refine ⟨wrap value, first, ?_, by rw [reads, second]; rfl⟩
    rw [runStores_completes_iff, length_zeros]
    exact fits

/-- A player packet is read with six weights. -/
theorem PlayerPacket.deserialize_weights {data : Bytes} (length : data.length = size)
    : ∃ packet, deserialize data = some packet ∧ packet.animationBlendWeights.length = 6 := by
  refine ⟨_, deserialize_eq length, ?_⟩
  rw [length_readMany]

theorem ConnectPacket.fits_iff (packet : ConnectPacket)
    : (∀ store ∈ packet.serialize, store.Fits size)
      ↔ (encode packet.clientName).length ≤ costumeNameSize := by
  simp [serialize, Store.write, Store.copy, Store.Fits, size, costumeNameSize]

theorem CostumePacket.fits_iff (packet : CostumePacket)
    : (∀ store ∈ packet.serialize, store.Fits size)
      ↔ (encode packet.bodyName).length ≤ costumeNameSize
        ∧ (encode packet.capName).length ≤ costumeNameSize := by
  simp [serialize, Store.copy, Store.Fits, size, costumeNameSize]

theorem GamePacket.fits_iff (packet : GamePacket)
    : (∀ store ∈ packet.serialize, store.Fits size)
      ↔ (encode packet.stage).length ≤ stageSize := by
  simp [serialize, Store.write, Store.copy, Store.Fits, size, stageSize]

/-- A payload of the `Size` of a kept struct is decoded, encoded and decoded to the same
value exactly when its texts have room for their replacements. Witness: the other fields are
stored as they were read, and a text that does not fit refuses its store.
-/
theorem PacketKind.reencodes_iff {kind : PacketKind} (kept : kind.reencoded = true)
    {payload : Bytes} (length : payload.length = kind.size)
    : kind.Reencodes payload ↔ kind.TextsFit payload := by
  cases kind with
  | connect =>
      have clean := nul_not_mem_getNullTerm (slice payload 6 38)
      refine (reencodes_iff_fits .connect .connect (fun _ => rfl)
        (ConnectPacket.deserialize_eq length) fun fits => ?_).trans ?_
      · have short := (ConnectPacket.fits_iff _).mp fits
        exact (ConnectPacket.deserialize_serialize ⟨clean, short⟩ (Nat.le_refl _)).2
      · exact (ConnectPacket.fits_iff _).trans (nullTermFits_iff _ _).symm
  | costume =>
      have bodyClean := nul_not_mem_getNullTerm (slice payload 0 32)
      have capClean := nul_not_mem_getNullTerm (slice payload 32 64)
      refine (reencodes_iff_fits .costume .costume (fun _ => rfl)
        (CostumePacket.deserialize_eq length) fun fits => ?_).trans ?_
      · obtain ⟨bodyShort, capShort⟩ := (CostumePacket.fits_iff _).mp fits
        exact (CostumePacket.deserialize_serialize ⟨bodyClean, bodyShort⟩ ⟨capClean, capShort⟩
            (Nat.le_refl _)).2
      · exact (CostumePacket.fits_iff _).trans
          (and_congr (nullTermFits_iff _ _).symm (nullTermFits_iff _ _).symm)
  | game =>
      refine (reencodes_iff_fits .game .game (fun _ => rfl)
        (GamePacket.deserialize_eq length) fun fits => ?_).trans ?_
      · have short := (GamePacket.fits_iff _).mp fits
        exact (GamePacket.deserialize_serialize ⟨trimNuls_trimNuls _, short⟩ (Nat.le_refl _)).2
      · exact (GamePacket.fits_iff _).trans (trimmedFits_iff _ _).symm
  | player =>
      obtain ⟨packet, decoded, weights⟩ := PlayerPacket.deserialize_weights length
      have back := PlayerPacket.deserialize_serialize weights (Nat.le_refl _)
      refine (reencodes_iff_fits .player .player (fun _ => rfl) decoded fun _ => back.2).trans ?_
      exact iff_of_true back.1 trivial
  | flagHoldState =>
      have back := fun packet =>
        @FlagHoldStatePacket.deserialize_serialize packet _ (Nat.le_refl _)
      refine (reencodes_iff_fits .flagHoldState .flagHoldState (fun _ => rfl)
        (FlagHoldStatePacket.deserialize_eq length) fun _ => (back _).2).trans ?_
      exact iff_of_true (back _).1 trivial
  | captureTheFlagWin =>
      have back := fun packet =>
        @CaptureTheFlagWinPacket.deserialize_serialize packet _ (Nat.le_refl _)
      refine (reencodes_iff_fits .captureTheFlagWin .captureTheFlagWin (fun _ => rfl)
        (CaptureTheFlagWinPacket.deserialize_eq length) fun _ => (back _).2).trans ?_
      exact iff_of_true (back _).1 trivial
  | _ => cases kept

end SmoOnline
