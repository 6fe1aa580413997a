import SmoOnline.Library.Utf8

/-! The packet header and the small values that packets are made of. -/

namespace SmoOnline

open Span Utf8

/-- The 128 bits of a `Guid`, as they lie in memory. -/
structure Guid where
  bits : BitVec 128
  deriving DecidableEq, Repr

/-- `Guid.Empty`. -/
def Guid.empty : Guid := ⟨0⟩

instance : Blittable Guid where
  size := 16
  toBytes id := leBytes 16 id.bits.toNat
  ofBytes octets := ⟨BitVec.ofNat 128 (leValue octets)⟩
  length_toBytes id := length_leBytes 16 id.bits.toNat
  ofBytes_toBytes id := by
    have small : id.bits.toNat < 256 ^ 16 := id.bits.isLt
    rw [leValue_leBytes_of_lt small, BitVec.ofNat_toNat, BitVec.setWidth_eq]

/-- `enum PacketType : short`. A header may hold any short; the named ones follow. -/
structure PacketType where
  value : Int16
  deriving DecidableEq, Repr

namespace PacketType

def unknown : PacketType := ⟨0⟩
def init : PacketType := ⟨1⟩
def player : PacketType := ⟨2⟩
def cap : PacketType := ⟨3⟩
def game : PacketType := ⟨4⟩
def tag : PacketType := ⟨5⟩
def connect : PacketType := ⟨6⟩
def disconnect : PacketType := ⟨7⟩
def costume : PacketType := ⟨8⟩
def shine : PacketType := ⟨9⟩
def capture : PacketType := ⟨10⟩
def changeStage : PacketType := ⟨11⟩
def command : PacketType := ⟨12⟩
def captureTheFlagPlayerTeamAssignment : PacketType := ⟨13⟩
def captureTheFlagGameState : PacketType := ⟨14⟩
def flagHoldState : PacketType := ⟨15⟩
def flagDroppedPosition : PacketType := ⟨16⟩
def captureTheFlagWin : PacketType := ⟨17⟩

end PacketType

instance : Blittable PacketType :=
  Blittable.via PacketType.value PacketType.mk (fun _ => rfl)

/-- `struct PacketHeader`. -/
structure PacketHeader where
  id : Guid
  type : PacketType
  packetSize : Int16
  deriving DecidableEq, Repr

/-- `PacketHeader.StaticSize`, which is also `Constants.HeaderSize`. -/
def headerSize : Nat := 20

def PacketHeader.serialize (header : PacketHeader) : List Store :=
  [.write 0 header.id (some 16), .write 16 header.type, .write 18 header.packetSize]

def PacketHeader.deserialize (data : Bytes) : Option PacketHeader := do
  let id ← readAt Guid data 0 16
  let type ← readAt PacketType data 16
  let packetSize ← readAt Int16 data 18
  return { id, type, packetSize }

/-- The octets of a header: id, type and size without gaps. -/
def PacketHeader.octets (header : PacketHeader) : Bytes :=
  toBytes header.id ++ toBytes header.type ++ toBytes header.packetSize

/-- `System.Numerics.Vector3`; a `float` is its 32 bits. -/
structure Vector3 where
  x : UInt32
  y : UInt32
  z : UInt32
  deriving DecidableEq, Repr

instance : Blittable Vector3 :=
  Blittable.via (fun v => (v.x, v.y, v.z)) (fun p => ⟨p.1, p.2.1, p.2.2⟩) (fun _ => rfl)

/-- `System.Numerics.Quaternion`. -/
structure Quaternion where
  x : UInt32
  y : UInt32
  z : UInt32
  w : UInt32
  deriving DecidableEq, Repr

instance : Blittable Quaternion :=
  Blittable.via (fun q => (q.x, q.y, q.z, q.w)) (fun p => ⟨p.1, p.2.1, p.2.2.1, p.2.2.2⟩)
    (fun _ => rfl)

/-- `enum CaptureTheFlagTeam : byte`. -/
structure CaptureTheFlagTeam where
  value : UInt8
  deriving DecidableEq, Repr

namespace CaptureTheFlagTeam

def invalid : CaptureTheFlagTeam := ⟨0⟩
def redTeam : CaptureTheFlagTeam := ⟨1⟩
def blueTeam : CaptureTheFlagTeam := ⟨2⟩

end CaptureTheFlagTeam

instance : Blittable CaptureTheFlagTeam :=
  Blittable.via CaptureTheFlagTeam.value CaptureTheFlagTeam.mk (fun _ => rfl)

@[simp] theorem size_guid : Blittable.size Guid = 16 := rfl
@[simp] theorem size_packetType : Blittable.size PacketType = 2 := rfl
@[simp] theorem size_vector3 : Blittable.size Vector3 = 12 := rfl
@[simp] theorem size_quaternion : Blittable.size Quaternion = 16 := rfl
@[simp] theorem size_captureTheFlagTeam : Blittable.size CaptureTheFlagTeam = 1 := rfl

/-- `FillPacket`: the header into the first octets, the packet into the rest. A store that
does not fit throws and leaves what was stored before it.
-/
def fillPacket (header : PacketHeader) (packet : List Store) (memory : Bytes)
    : Bytes × Bool :=
  let head := runStores header.serialize (memory.take headerSize)
  let body := runStores packet (memory.drop headerSize)
  if head.2 then (head.1 ++ body.1, body.2) else (head.1 ++ memory.drop headerSize, false)

instance : Exact Guid where
  toBytes_ofBytes octets length := by
    have small : leValue octets < 2 ^ 128 := by simpa [length] using leValue_lt octets
    change leBytes 16 (BitVec.ofNat 128 (leValue octets)).toNat = octets
    rw [BitVec.toNat_ofNat, Nat.mod_eq_of_lt small]
    exact leBytes_leValue_of_length length

instance : Exact PacketType := Exact.via _ _ (fun _ => rfl) (fun _ => rfl)
instance : Exact Vector3 :=
  Exact.via (fun v : Vector3 => (v.x, v.y, v.z)) (fun p => ⟨p.1, p.2.1, p.2.2⟩)
    (fun _ => rfl) (fun _ => rfl)
instance : Exact Quaternion :=
  Exact.via (fun q : Quaternion => (q.x, q.y, q.z, q.w))
    (fun p => ⟨p.1, p.2.1, p.2.2.1, p.2.2.2⟩) (fun _ => rfl) (fun _ => rfl)

-----------------------------------------------------------------------------------------
-- Headers as octets
-----------------------------------------------------------------------------------------

namespace PacketHeader

@[simp] theorem length_octets (header : PacketHeader) : header.octets.length = headerSize := by
  simp only [octets, List.length_append, Blittable.length_toBytes]
  rfl

theorem serialize_fits (header : PacketHeader)
    : ∀ store ∈ header.serialize, store.Fits headerSize := by
  simp [serialize, Store.write, Store.Fits, headerSize]

/-- Writing a header into its span leaves exactly its octets. Witness: its three fields
cover the span without overlap.
-/
theorem runStores_serialize (header : PacketHeader) {memory : Bytes}
    (length : memory.length = headerSize)
    : runStores header.serialize memory = (header.octets, true) := by
  have fits := header.serialize_fits
  rw [← length] at fits
  apply Prod.ext
  · have id : slice (runStores header.serialize memory).1 0 16 = toBytes header.id :=
      slice_runStores_write (some 16) fits (by simp [serialize]) rfl
        (by simp [serialize, Store.write])
    have type : slice (runStores header.serialize memory).1 16 18 = toBytes header.type :=
      slice_runStores_write none fits (by simp [serialize]) rfl
        (by simp [serialize, Store.write])
    have packetSize
        : slice (runStores header.serialize memory).1 18 20 = toBytes header.packetSize :=
      slice_runStores_write none fits (by simp [serialize]) rfl
        (by simp [serialize, Store.write])
    have whole : slice (runStores header.serialize memory).1 0 20 = _ :=
      slice_all (by rw [length_runStores, length, headerSize])
    rw [← whole, ← slice_append_slice _ (Nat.zero_le 18) (by decide),
      ← slice_append_slice _ (Nat.zero_le 16) (by decide), id, type, packetSize]
    rfl
  · exact (runStores_completes_iff _ _).mpr fits

/-- A header is read from the first octets of any longer span. -/
theorem deserialize_eq {data : Bytes} (long : headerSize ≤ data.length)
    : deserialize data
      = some {
          id := ofBytes (slice data 0 16)
          type := ofBytes (slice data 16 18)
          packetSize := ofBytes (slice data 18 20)
        } := by
  simp only [headerSize] at long
  have id := @readAt_eq Guid _ data 0 16 (by simp) (by omega)
  have type := @readAt_eq PacketType _ data 16 data.length (by simp; omega) (Nat.le_refl _)
  have packetSize := @readAt_eq Int16 _ data 18 data.length (by simp; omega) (Nat.le_refl _)
  simp [deserialize, id, type, packetSize]

theorem deserialize_eq_none {data : Bytes} (short : data.length < headerSize)
    : deserialize data = none := by
  simp only [headerSize] at short
  have packetSize : readAt Int16 data 18 = none := readAt_eq_none (Or.inl (by simp; omega))
  simp only [deserialize, packetSize]
  cases readAt Guid data 0 16 with
  | none => rfl
  | some id =>
      cases readAt PacketType data 16 with
      | none => rfl
      | some type => rfl

/-- The octets of a header read back as the header, whatever follows them. -/
@[simp] theorem deserialize_octets (header : PacketHeader) (rest : Bytes)
    : deserialize (header.octets ++ rest) = some header := by
  have length := header.length_octets
  rw [headerSize] at length
  have idLength : (toBytes header.id).length = 16 := Blittable.length_toBytes header.id
  have typeLength : (toBytes header.type).length = 2 := Blittable.length_toBytes header.type
  have sizeLength : (toBytes header.packetSize).length = 2 :=
    Blittable.length_toBytes header.packetSize
  have id : slice (header.octets ++ rest) 0 16 = toBytes header.id := by
    rw [octets, List.append_assoc, List.append_assoc,
      slice_append_left _ _ (Nat.le_of_eq idLength.symm), slice_all idLength]
  have type : slice (header.octets ++ rest) 16 18 = toBytes header.type := by
    rw [octets, List.append_assoc, List.append_assoc,
      slice_append_right _ _ _ (Nat.le_of_eq idLength),
      slice_append_left _ _ (by rw [typeLength, idLength]), idLength]
    exact slice_all typeLength
  have packetSize : slice (header.octets ++ rest) 18 20 = toBytes header.packetSize := by
    have front : (toBytes header.id ++ toBytes header.type).length = 18 := by
      rw [List.length_append, idLength, typeLength]
    rw [octets, List.append_assoc, slice_append_right _ _ _ (Nat.le_of_eq front), front,
      slice_append_left _ _ (Nat.le_of_eq sizeLength.symm)]
    exact slice_all sizeLength
  rw [deserialize_eq (by simp), id, type, packetSize, ofBytes_toBytes, ofBytes_toBytes,
    ofBytes_toBytes]

/-- A header read from a span is made of the span's first octets. -/
theorem octets_of_deserialize {data : Bytes} {header : PacketHeader}
    (read : deserialize data = some header)
    : header.octets = data.take headerSize := by
  have long : headerSize ≤ data.length := by
    by_contra short
    rw [deserialize_eq_none (Nat.lt_of_not_le short)] at read
    cases read
  rw [deserialize_eq long] at read
  obtain rfl := Option.some.inj read
  simp only [headerSize] at long
  have id := @Exact.toBytes_ofBytes Guid _ _ (slice data 0 16) (length_slice (by omega))
  have type := @Exact.toBytes_ofBytes PacketType _ _ (slice data 16 18) (length_slice (by omega))
  have packetSize := @Exact.toBytes_ofBytes Int16 _ _ (slice data 18 20) (length_slice (by omega))
  rw [octets, id, type, packetSize, slice_append_slice _ (by decide) (by decide),
    slice_append_slice _ (by decide) (by decide), slice, List.drop_zero, headerSize]

end PacketHeader

/-- `FillPacket` on memory with room for a header: the header's octets, then the packet's
stores.
-/
theorem fillPacket_eq (header : PacketHeader) (packet : List Store) {memory : Bytes}
    (long : headerSize ≤ memory.length)
    : fillPacket header packet memory
      = (header.octets ++ (runStores packet (memory.drop headerSize)).1,
          (runStores packet (memory.drop headerSize)).2) := by
  have head : (memory.take headerSize).length = headerSize := List.length_take_of_le long
  simp only [fillPacket, header.runStores_serialize head, if_true]

end SmoOnline
