import SmoOnline.Shared.Reencode
import SmoOnline.Server.Frame

/-! How a joiner learns of the players that are there already: a Connect and a Costume packet
for each, built one after the other in one rented buffer. The Costume packet is written over
the Connect packet, and its texts end where their octets do, so what the first packet left
behind them can be read as part of them.
-/

namespace SmoOnline

open Span Utf8

/-- The Connect packet that announces a player. -/
def announcingConnect (maxPlayers : UInt16) (name : Text) : ConnectPacket where
  connectionType := .firstConnection
  maxPlayers
  clientName := name

/-- The frames that announce a player, up to the first `Serialize` that throws, and whether
none did.
-/
def announcement (runtime : Runtime) (maxPlayers : UInt16) (id : Guid) (name : Text)
    (currentCostume : Option CostumePacket)
    : List Bytes × Bool :=
  let room :=
    match currentCostume with
    | some _ => max ConnectPacket.size CostumePacket.size
    | none => ConnectPacket.size
  let tempBuffer := runtime.rentZero (headerSize + room)
  let connectHeader := typedHeader id (.connect (announcingConnect maxPlayers name))
  match fillPacket connectHeader (announcingConnect maxPlayers name).serialize tempBuffer with
  | (_, false) => ([], false)
  | (filled, true) =>
      let connectFrame := filled.take (headerSize + ConnectPacket.size)
      match currentCostume with
      | none => ([connectFrame], true)
      | some costume =>
          let costumeHeader := typedHeader id (.costume costume)
          let rest := filled.take (headerSize + CostumePacket.size)
          match fillPacket costumeHeader costume.serialize rest with
          | (_, false) => ([connectFrame], false)
          | (costumeFrame, true) => ([connectFrame, costumeFrame], true)

/-- A frame that carries a packet under an Id. -/
structure Carries (frame : Bytes) (id : Guid) (packet : Packet) : Prop where
  header : PacketHeader.deserialize frame = some (typedHeader id packet)
  length : frame.length = headerSize + packet.size
  decoded : decodeFrame frame = some packet

/-- The octets a Connect packet fills at the front of its buffer. -/
def connectOctets (maxPlayers : UInt16) (name : Text) : Bytes :=
  toBytes ConnectionType.firstConnection ++ toBytes maxPlayers ++ encode name

/-- A buffer of some size with a Connect packet at its front, cleared behind it. -/
def connectBuffer (maxPlayers : UInt16) (name : Text) (size : Nat) : Bytes :=
  connectOctets maxPlayers name ++ zeros (size - (connectOctets maxPlayers name).length)

theorem length_connectOctets (maxPlayers : UInt16) (name : Text)
    : (connectOctets maxPlayers name).length = 6 + (encode name).length := by
  simp [connectOctets]
  omega

theorem length_connectBuffer {maxPlayers : UInt16} {name : Text} {size : Nat}
    (short : (encode name).length ≤ costumeNameSize) (room : ConnectPacket.size ≤ size)
    : (connectBuffer maxPlayers name size).length = size := by
  simp only [ConnectPacket.size, costumeNameSize] at short room
  rw [connectBuffer, List.length_append, length_zeros, length_connectOctets]
  omega

theorem take_connectBuffer {maxPlayers : UInt16} {name : Text} {size length : Nat}
    (short : (encode name).length ≤ costumeNameSize) (room : ConnectPacket.size ≤ length)
    (inside : length ≤ size)
    : (connectBuffer maxPlayers name size).take length
      = connectBuffer maxPlayers name length := by
  simp only [ConnectPacket.size, costumeNameSize] at short room
  have octetsLength := length_connectOctets maxPlayers name
  rw [connectBuffer, List.take_append, List.take_of_length_le (by omega), zeros,
    List.take_replicate, Nat.min_eq_left (by omega)]
  rfl

/-- Writing a Connect packet into a cleared buffer. Witness: its fields lie one after the
other from the front.
-/
theorem runStores_announcingConnect {maxPlayers : UInt16} {name : Text} {size : Nat}
    (short : (encode name).length ≤ costumeNameSize) (room : ConnectPacket.size ≤ size)
    : runStores (announcingConnect maxPlayers name).serialize (zeros size)
      = (connectBuffer maxPlayers name size, true) := by
  simp only [ConnectPacket.size, costumeNameSize] at short room
  have fits : ∀ store ∈ (announcingConnect maxPlayers name).serialize, store.Fits size := by
    simp [ConnectPacket.serialize, announcingConnect, Store.write, Store.copy, Store.Fits,
      costumeNameSize]
    omega
  rw [← length_zeros size] at fits
  apply Prod.ext
  · have type
        : slice (runStores (announcingConnect maxPlayers name).serialize (zeros size)).1 0 4
          = toBytes ConnectionType.firstConnection :=
      slice_runStores_write none fits (by simp [ConnectPacket.serialize, announcingConnect])
        rfl (by simp [ConnectPacket.serialize, announcingConnect, Store.write, Store.copy])
    have players
        : slice (runStores (announcingConnect maxPlayers name).serialize (zeros size)).1 4 6
          = toBytes maxPlayers :=
      slice_runStores_write none fits (by simp [ConnectPacket.serialize, announcingConnect])
        rfl (by simp [ConnectPacket.serialize, announcingConnect, Store.write, Store.copy])
    have text
        : slice (runStores (announcingConnect maxPlayers name).serialize (zeros size)).1
            6 size
          = encode name ++ slice (zeros size) (6 + (encode name).length) size :=
      slice_runStores_copy (some 38) fits
        (by simp [ConnectPacket.serialize, announcingConnect, costumeNameSize]) (by omega)
        (by simp [ConnectPacket.serialize, announcingConnect, Store.write, Store.copy,
          costumeNameSize])
    have whole
        : slice (runStores (announcingConnect maxPlayers name).serialize (zeros size)).1
            0 size
          = _ :=
      slice_all (by rw [length_runStores, length_zeros])
    rw [← whole, ← slice_append_slice _ (Nat.zero_le 6) (by omega),
      ← slice_append_slice _ (Nat.zero_le 4) (by decide), type, players, text,
      slice_zeros (Nat.le_refl _), connectBuffer, length_connectOctets, connectOctets,
      List.append_assoc, List.append_assoc, List.append_assoc]
  · exact (runStores_completes_iff _ _).mpr fits

/-- A Connect packet whose name is too long for its field does not go into any buffer. -/
theorem runStores_announcingConnect_throws {maxPlayers : UInt16} {name : Text}
    (long : costumeNameSize < (encode name).length) (data : Bytes)
    : (runStores (announcingConnect maxPlayers name).serialize data).2 = false := by
  rw [Bool.eq_false_iff, ne_eq, runStores_completes_iff]
  intro fits
  have unfit := fits (.copy 6 (encode name) (some (6 + costumeNameSize)))
    (by simp [ConnectPacket.serialize, announcingConnect])
  simp only [Store.Fits, Store.copy, Option.getD_some] at unfit
  omega

/-- The frames of an announcement with a costume, for a name that fits. -/
theorem announcement_eq (runtime : Runtime) (maxPlayers : UInt16) (id : Guid) {name : Text}
    (costume : CostumePacket) (short : (encode name).length ≤ costumeNameSize)
    : announcement runtime maxPlayers id name (some costume)
      = let connectFrame :=
          (typedHeader id (.connect (announcingConnect maxPlayers name))).octets
            ++ connectBuffer maxPlayers name ConnectPacket.size
        let written :=
          runStores costume.serialize (connectBuffer maxPlayers name CostumePacket.size)
        if written.2 then
          ([connectFrame, (typedHeader id (.costume costume)).octets ++ written.1], true)
        else ([connectFrame], false) := by
  obtain ⟨extra, total⟩ := Nat.exists_eq_add_of_le (runtime.le_rent 84)
  have buffer
      : runtime.rentZero (headerSize + max ConnectPacket.size CostumePacket.size)
        = zeros (84 + extra) :=
    congrArg zeros total
  have cleared : (zeros (84 + extra)).drop headerSize = zeros (64 + extra) := by
    rw [zeros, List.drop_replicate, headerSize, zeros]
    congr 1
    omega
  have connected := @fillPacket_eq (typedHeader id (.connect (announcingConnect maxPlayers name)))
    (announcingConnect maxPlayers name).serialize (zeros (84 + extra))
    (by simp only [length_zeros, headerSize]; omega)
  rw [cleared, runStores_announcingConnect short
    (by simp only [ConnectPacket.size, costumeNameSize]; omega)] at connected
  have cut (size : Nat) (low : ConnectPacket.size ≤ size) (high : size ≤ 64)
      (header : PacketHeader)
      : (header.octets ++ connectBuffer maxPlayers name (64 + extra)).take (headerSize + size)
        = header.octets ++ connectBuffer maxPlayers name size := by
    rw [List.take_append, List.take_of_length_le (by simp), PacketHeader.length_octets,
      Nat.add_sub_cancel_left, take_connectBuffer short low (by omega)]
  have connectCut := cut ConnectPacket.size (Nat.le_refl _) (by decide)
  have costumeCut := cut CostumePacket.size (by decide) (Nat.le_refl _)
  have costumed := @fillPacket_eq (typedHeader id (.costume costume)) costume.serialize
    ((typedHeader id (.connect (announcingConnect maxPlayers name))).octets
      ++ connectBuffer maxPlayers name CostumePacket.size)
    (by simp)
  rw [List.drop_left' (PacketHeader.length_octets _)] at costumed
  unfold announcement
  dsimp only
  rw [buffer, connected]
  dsimp only
  rw [connectCut, costumeCut, costumed]
  cases (runStores costume.serialize
    (connectBuffer maxPlayers name CostumePacket.size)).2 <;> rfl

/-- Without a costume there is one frame, if its text goes into its field. -/
theorem announcement_none (runtime : Runtime) (maxPlayers : UInt16) (id : Guid) (name : Text)
    : announcement runtime maxPlayers id name none
      = if (runtime.filled id (.connect (announcingConnect maxPlayers name))).2 then
          ([runtime.typedFrame id (.connect (announcingConnect maxPlayers name))], true)
        else ([], false) := by
  have same : runtime.filled id (.connect (announcingConnect maxPlayers name))
      = fillPacket (typedHeader id (.connect (announcingConnect maxPlayers name)))
          (announcingConnect maxPlayers name).serialize
          (runtime.rentZero (headerSize + ConnectPacket.size)) := rfl
  rw [Runtime.typedFrame, same]
  unfold announcement
  dsimp only
  rcases fillPacket _ _ _ with ⟨filled, completes⟩
  cases completes with
  | false => rfl
  | true => rfl

/-- A name too long for its field announces nothing. -/
theorem announcement_throws (runtime : Runtime) (maxPlayers : UInt16) (id : Guid)
    {name : Text} (currentCostume : Option CostumePacket)
    (long : costumeNameSize < (encode name).length)
    : announcement runtime maxPlayers id name currentCostume = ([], false) := by
  have unfilled (memory : Bytes)
      : (fillPacket (typedHeader id (.connect (announcingConnect maxPlayers name)))
          (announcingConnect maxPlayers name).serialize memory).2 = false := by
    simp only [fillPacket]
    split_ifs
    · exact runStores_announcingConnect_throws long _
    · rfl
  unfold announcement
  dsimp only
  split
  · rfl
  · next filled completes =>
      have both : true = false :=
        (congrArg Prod.snd completes).symm.trans (unfilled _)
      cases both

/-- A Connect packet in a cleared buffer reads back exactly when its name has no NUL. -/
theorem connectBuffer_back_iff {maxPlayers : UInt16} {name : Text}
    (short : (encode name).length ≤ costumeNameSize)
    : ConnectPacket.deserialize (connectBuffer maxPlayers name ConnectPacket.size)
        = some (announcingConnect maxPlayers name)
      ↔ nul ∉ name := by
  have length := @length_connectBuffer maxPlayers name _ short (Nat.le_refl _)
  constructor
  · intro back
    rw [ConnectPacket.deserialize_eq length, Option.some.injEq] at back
    have text : getNullTerm _ = name := congrArg ConnectPacket.clientName back
    rw [← text]
    exact nul_not_mem_getNullTerm _
  · intro clean
    have back := (@ConnectPacket.deserialize_serialize (announcingConnect maxPlayers name)
      ⟨clean, short⟩ _ (Nat.le_refl _)).2
    rwa [runStores_announcingConnect short (Nat.le_refl _), slice_all length] at back

theorem CostumePacket.serialize_fits {packet : CostumePacket}
    (body : FitsField packet.bodyName costumeNameSize)
    (cap : FitsField packet.capName costumeNameSize)
    : ∀ store ∈ packet.serialize, store.Fits size :=
  (fits_iff packet).mpr ⟨body.short, cap.short⟩

/-- A costume stored over other octets reads back exactly when each text fills its field or
has a zero behind it.
-/
theorem CostumePacket.deserialize_over_iff {packet : CostumePacket}
    (body : FitsField packet.bodyName costumeNameSize)
    (cap : FitsField packet.capName costumeNameSize) {data : Bytes}
    (length : data.length = size)
    : deserialize (runStores packet.serialize data).1 = some packet
      ↔ ((encode packet.bodyName).length = costumeNameSize
          ∨ data.getD (encode packet.bodyName).length 0 = 0)
        ∧ data.getD (costumeNameSize + (encode packet.capName).length) 0 = 0 := by
  have fits := serialize_fits body cap
  rw [← length] at fits
  obtain ⟨bodyClean, bodyShort⟩ := body
  obtain ⟨capClean, capShort⟩ := cap
  have wide : data.length = 64 := length
  simp only [costumeNameSize] at bodyShort capShort ⊢
  have bodySlice
      : slice (runStores packet.serialize data).1 0 32
        = encode packet.bodyName ++ slice data (0 + (encode packet.bodyName).length) 32 :=
    slice_runStores_copy (some 32) fits (by simp [serialize, costumeNameSize]) (by omega)
      (by simp [serialize, Store.copy, costumeNameSize])
  have capSlice
      : slice (runStores packet.serialize data).1 32 64
        = encode packet.capName ++ slice data (32 + (encode packet.capName).length) 64 :=
    slice_runStores_copy none fits (by simp [serialize, costumeNameSize]) (by omega)
      (by simpa [serialize, Store.copy, costumeNameSize] using bodyShort)
  rw [deserialize_eq (by rw [length_runStores, length]), bodySlice, capSlice]
  have bodyBack := cString_decode_encode_iff bodyClean
    (slice data (0 + (encode packet.bodyName).length) 32)
  have capBack := cString_decode_encode_iff capClean
    (slice data (32 + (encode packet.capName).length) 64)
  rw [headD_slice, Nat.zero_add] at bodyBack
  rw [headD_slice] at capBack
  have same
      : some packet
        = some { bodyName := packet.bodyName, capName := packet.capName : CostumePacket } := rfl
  rw [same, Option.some.injEq, CostumePacket.mk.injEq, getNullTerm, getNullTerm, Nat.zero_add,
    bodyBack, capBack]
  have past : 64 ≤ 32 + (encode packet.capName).length
      → data.getD (32 + (encode packet.capName).length) 0 = 0 := fun far => by
    rw [List.getD_eq_getElem?_getD, List.getElem?_eq_none (by omega)]
    rfl
  constructor
  · rintro ⟨bodyZero, capZero⟩
    split_ifs at bodyZero capZero
    · exact ⟨Or.inr bodyZero, capZero⟩
    · exact ⟨Or.inr bodyZero, past (by omega)⟩
    · exact ⟨Or.inl (by omega), capZero⟩
    · exact ⟨Or.inl (by omega), past (by omega)⟩
  · rintro ⟨bodyZero, capZero⟩
    constructor
    · split_ifs with inside
      · exact bodyZero.resolve_left (by omega)
      · rfl
    · split_ifs
      · exact capZero
      · rfl

/-- The joiner is sent exactly the two frames of the player, under the player's Id. -/
def AnnouncesFaithfully (runtime : Runtime) (maxPlayers : UInt16) (id : Guid) (name : Text)
    (costume : CostumePacket)
    : Prop :=
  ∃ connectFrame costumeFrame,
    announcement runtime maxPlayers id name (some costume)
      = ([connectFrame, costumeFrame], true)
    ∧ Carries connectFrame id (.connect (announcingConnect maxPlayers name))
    ∧ Carries costumeFrame id (.costume costume)

/-- The name goes into its field, and each costume text fills its field or ends at a zero of
the Connect packet below it.
-/
structure LeavesNoTrace (maxPlayers : UInt16) (name : Text) (costume : CostumePacket)
    : Prop where
  fits : FitsField name costumeNameSize
  body
    : (encode costume.bodyName).length = costumeNameSize
      ∨ (connectOctets maxPlayers name).getD (encode costume.bodyName).length 0 = 0
  cap
    : (connectOctets maxPlayers name).getD
        (costumeNameSize + (encode costume.capName).length) 0
      = 0

theorem Carries.of_decoded {id : Guid} {packet : Packet} {payload : Bytes}
    (length : payload.length = packet.size)
    (decoded : packet.kind.deserialize payload = some packet)
    : Carries ((typedHeader id packet).octets ++ payload) id packet where
  header := PacketHeader.deserialize_octets _ _
  length := by rw [List.length_append, PacketHeader.length_octets, length]
  decoded := (decodeFrame_typed length).trans decoded

/-- A player with a costume of fitting texts is announced faithfully exactly when the Connect
packet leaves no trace in the Costume packet that is written over it.
-/
theorem announcement_faithful_iff (runtime : Runtime) (maxPlayers : UInt16) (id : Guid)
    (name : Text) {costume : CostumePacket}
    (body : FitsField costume.bodyName costumeNameSize)
    (cap : FitsField costume.capName costumeNameSize)
    : AnnouncesFaithfully runtime maxPlayers id name costume
      ↔ LeavesNoTrace maxPlayers name costume := by
  by_cases short : (encode name).length ≤ costumeNameSize
  · have connectLength := @length_connectBuffer maxPlayers name _ short (Nat.le_refl _)
    have costumeLength :=
      @length_connectBuffer maxPlayers name CostumePacket.size short (by decide)
    have fits := CostumePacket.serialize_fits body cap
    rw [← costumeLength] at fits
    have connected := @connectBuffer_back_iff maxPlayers name short
    have costumed := CostumePacket.deserialize_over_iff body cap costumeLength
    simp only [connectBuffer, getD_append_zeros] at costumed
    rw [← connectBuffer] at costumed
    have whole := announcement_eq runtime maxPlayers id costume short
    simp only [(runStores_completes_iff _ _).mpr fits, if_true] at whole
    constructor
    · rintro ⟨connectFrame, costumeFrame, announced, connectCarries, costumeCarries⟩
      rw [whole] at announced
      simp only [Prod.mk.injEq, List.cons.injEq, and_true] at announced
      obtain ⟨rfl, rfl⟩ := announced
      have connectBack := connectCarries.decoded
      have costumeBack := costumeCarries.decoded
      rw [decodeFrame_typed connectLength] at connectBack
      rw [decodeFrame_typed (by rw [length_runStores, costumeLength]; rfl)] at costumeBack
      obtain ⟨back, wrapped⟩ := Option.map_eq_some_iff.mp connectBack
      obtain ⟨back, covered⟩ := Option.map_eq_some_iff.mp costumeBack
      obtain rfl := Packet.connect.inj wrapped.2
      obtain rfl := Packet.costume.inj covered.2
      obtain ⟨bodyZero, capZero⟩ := costumed.mp covered.1
      exact { fits := ⟨connected.mp wrapped.1, short⟩, body := bodyZero, cap := capZero }
    · intro untouched
      refine ⟨_, _, whole, Carries.of_decoded connectLength ?_, Carries.of_decoded ?_ ?_⟩
      · exact congrArg (Option.map Packet.connect) (connected.mpr untouched.fits.clean)
      · rw [length_runStores, costumeLength]
        rfl
      · exact congrArg (Option.map Packet.costume)
          (costumed.mpr ⟨untouched.body, untouched.cap⟩)
  · constructor
    · rintro ⟨connectFrame, costumeFrame, announced, _⟩
      rw [announcement_throws runtime maxPlayers id _ (Nat.lt_of_not_le short)] at announced
      cases announced
    · intro untouched
      exact absurd untouched.fits.short short

/-- With long enough costume names nothing of the Connect packet shows. -/
theorem mario_announced_faithfully
    : AnnouncesFaithfully .pooled 8 ⟨7⟩ "Mario".toList
        { bodyName := "MarioDetective".toList, capName := "MarioDetective".toList } :=
  (@announcement_faithful_iff .pooled 8 ⟨7⟩ "Mario".toList
    { bodyName := "MarioDetective".toList, capName := "MarioDetective".toList }
    ⟨by decide, by decide⟩ ⟨by decide, by decide⟩).mpr
    { fits := ⟨by decide, by decide⟩, body := by decide, cap := by decide }

/-- Luigi in the cook's outfit reaches a joiner as wearing `MarioCookgi`. -/
theorem luigi_announced_wrongly
    : FitsField "Luigi".toList costumeNameSize
      ∧ FitsField "MarioCook".toList costumeNameSize
      ∧ ((announcement .pooled 8 ⟨7⟩ "Luigi".toList
            (some { bodyName := "MarioCook".toList, capName := "MarioCook".toList })).1[1]?.bind
          decodeFrame
        = some (.costume
            { bodyName := "MarioCookgi".toList, capName := "MarioCook".toList }))
      ∧ ¬AnnouncesFaithfully .pooled 8 ⟨7⟩ "Luigi".toList
          { bodyName := "MarioCook".toList, capName := "MarioCook".toList } := by
  have shown
      : (announcement .pooled 8 ⟨7⟩ "Luigi".toList
            (some { bodyName := "MarioCook".toList, capName := "MarioCook".toList })).1[1]?.bind
          decodeFrame
        = some (.costume
            { bodyName := "MarioCookgi".toList, capName := "MarioCook".toList }) := by
    decide
  refine ⟨⟨by decide, by decide⟩, ⟨by decide, by decide⟩, shown, ?_⟩
  rintro ⟨connectFrame, costumeFrame, announced, _, carries⟩
  rw [announced] at shown
  have both := carries.decoded.symm.trans shown
  exact absurd both (by decide)

/-- An announcement is sent whole exactly when the name and the costume's texts go into
their fields.
-/
theorem announcement_completes_iff (runtime : Runtime) (maxPlayers : UInt16) (id : Guid)
    (name : Text) (currentCostume : Option CostumePacket)
    : (announcement runtime maxPlayers id name currentCostume).2 = true
      ↔ (encode name).length ≤ costumeNameSize
        ∧ ∀ costume ∈ currentCostume,
            (encode costume.bodyName).length ≤ costumeNameSize
            ∧ (encode costume.capName).length ≤ costumeNameSize := by
  by_cases short : (encode name).length ≤ costumeNameSize
  · cases currentCostume with
    | none =>
        have room := runtime.le_rent (headerSize + ConnectPacket.size)
        have cleared
            : (runtime.rentZero (headerSize + ConnectPacket.size)).drop headerSize
              = zeros (runtime.rent (headerSize + ConnectPacket.size) - headerSize) :=
          List.drop_replicate
        have filled := @fillPacket_eq
          (typedHeader id (.connect (announcingConnect maxPlayers name)))
          (announcingConnect maxPlayers name).serialize
          (runtime.rentZero (headerSize + ConnectPacket.size))
          (by rw [Runtime.rentZero, length_zeros]; omega)
        rw [cleared, runStores_announcingConnect short (by omega)] at filled
        unfold announcement
        dsimp only
        rw [filled]
        simp [short]
    | some costume =>
        have length := @length_connectBuffer maxPlayers name CostumePacket.size short (by decide)
        have completes := runStores_completes_iff costume.serialize
          (connectBuffer maxPlayers name CostumePacket.size)
        rw [length, CostumePacket.fits_iff] at completes
        rw [announcement_eq runtime maxPlayers id costume short]
        dsimp only
        split_ifs with written
        · simp [short, completes.mp written]
        · simp [short, ← completes, written]
  · rw [announcement_throws runtime maxPlayers id _ (Nat.lt_of_not_le short)]
    simp [short]

/-- A payload of a kept struct is encoded again and decodes to the same value exactly when
its texts have room for their replacements, and a player who sent such payloads is announced
whole to later joiners exactly when they have. Witness: the announcement stores the texts
that were read.
-/
theorem kept_payload_reencodes_iff (runtime : Runtime) (maxPlayers : UInt16) (id : Guid)
    {kind : PacketKind} {payload namePayload costumePayload : Bytes}
    {connect : ConnectPacket} {costume : CostumePacket} (kept : kind.reencoded = true)
    (length : payload.length = kind.size) (nameLength : namePayload.length = ConnectPacket.size)
    (named : ConnectPacket.deserialize namePayload = some connect)
    (costumeLength : costumePayload.length = CostumePacket.size)
    (dressed : CostumePacket.deserialize costumePayload = some costume)
    : (kind.Reencodes payload ↔ kind.TextsFit payload)
      ∧ ((announcement runtime maxPlayers id connect.clientName none).2 = true
        ↔ PacketKind.connect.TextsFit namePayload)
      ∧ ((announcement runtime maxPlayers id connect.clientName (some costume)).2 = true
        ↔ PacketKind.connect.TextsFit namePayload
          ∧ PacketKind.costume.TextsFit costumePayload) := by
  refine ⟨PacketKind.reencodes_iff kept length, ?_⟩
  rw [ConnectPacket.deserialize_eq nameLength, Option.some.injEq] at named
  rw [CostumePacket.deserialize_eq costumeLength, Option.some.injEq] at dressed
  have name := nullTermFits_iff (slice namePayload 6 38) costumeNameSize
  have body := nullTermFits_iff (slice costumePayload 0 32) costumeNameSize
  have cap := nullTermFits_iff (slice costumePayload 32 64) costumeNameSize
  subst named dressed
  simp only [announcement_completes_iff, PacketKind.TextsFit, name, body, cap]
  simp

/-- A hold is kept as it was read, and a player named in plain letters is announced. -/
theorem mario_reencodes
    : PacketKind.flagHoldState.Reencodes [1, 2]
      ∧ (announcement .pooled 8 ⟨7⟩ "Mario".toList none).2 = true := by
  obtain ⟨held, announced, _⟩ := @kept_payload_reencodes_iff .pooled 8 ⟨7⟩ .flagHoldState [1, 2]
    (zeros 6 ++ [77, 97, 114, 105, 111] ++ zeros 27) (zeros 64)
    { connectionType := .firstConnection, maxPlayers := 0, clientName := "Mario".toList }
    { bodyName := [], capName := [] } rfl rfl rfl (by decide) rfl (by decide)
  exact ⟨held.mpr trivial, announced.mpr (by decide)⟩

/-- A name field of octets that are no text is read as 32 replacement characters, which take
96 octets: it cannot be stored again, and the player who sent it cannot be announced.
-/
theorem ill_formed_name_not_kept
    : ∃ connect,
        ConnectPacket.deserialize (zeros 6 ++ List.replicate 32 0xFF) = some connect
        ∧ (encode connect.clientName).length = 96
        ∧ ¬PacketKind.connect.Reencodes (zeros 6 ++ List.replicate 32 0xFF)
        ∧ announcement .pooled 8 ⟨7⟩ connect.clientName none = ([], false) := by
  have long : (encode (List.replicate 32 replacement)).length = 96 := by decide
  have decoded
      : ConnectPacket.deserialize (zeros 6 ++ List.replicate 32 0xFF)
        = some {
            connectionType := .firstConnection
            maxPlayers := 0
            clientName := List.replicate 32 replacement
          } := by
    decide
  refine ⟨_, decoded, long, ?_, announcement_throws _ _ _ _ (by rw [long]; decide)⟩
  rw [PacketKind.reencodes_iff rfl rfl]
  decide

end SmoOnline
