import SmoOnline.Server.Runtime
import SmoOnline.Shared.Packets

/-! Frames: a header and the octets it counts, as the server builds, reads and passes them on.
Rented memory is longer than the frame in it, and only typed frames are built in cleared
memory.
-/

namespace SmoOnline

open Span Utf8

/-- The header the server puts before a packet of its own. -/
def typedHeader (id : Guid) (packet : Packet) : PacketHeader where
  id
  type := packet.type
  packetSize := Int16.ofNat packet.size

namespace Runtime

/-- `MemoryPool<byte>.Shared.RentZero`. -/
def rentZero (runtime : Runtime) (count : Nat) : Bytes := zeros (runtime.rent count)

/-- The memory of `Client.Send<T>` and of `Broadcast<T>` after `FillPacket`. -/
def filled (runtime : Runtime) (id : Guid) (packet : Packet) : Bytes × Bool :=
  fillPacket (typedHeader id packet) packet.serialize
    (runtime.rentZero (headerSize + packet.size))

/-- What `Client.Send<T>` writes. A packet that `FillPacket` throws on is logged and its
memory is sent as far as it was filled.
-/
def typedFrame (runtime : Runtime) (id : Guid) (packet : Packet) : Bytes :=
  (runtime.filled id packet).1.take (headerSize + packet.size)

end Runtime

/-- `data[..(HeaderSize + header.PacketSize)]`, which throws outside of the memory. -/
def relayedFrame (data : Bytes) (header : PacketHeader) : Option Bytes :=
  let stop := (headerSize : Int) + header.packetSize.toInt
  if 0 ≤ stop ∧ stop ≤ data.length then some (data.take stop.toNat) else none

/-- The packet in a frame: the struct of the header's type, read from the octets its `Size`
counts. `none` where the lookup, the slice or `Deserialize` throws.
-/
def decodeFrame (memory : Bytes) : Option Packet := do
  let header ← PacketHeader.deserialize memory
  let kind ← packetIdMap header.type
  let payload ← slice? memory headerSize (headerSize + kind.size)
  kind.deserialize payload

/-- What the read loop makes of a frame before any handler sees it. -/
inductive Inbound
  | refused
  | joining (connect : ConnectPacket)
  | packet
  deriving DecidableEq, Repr

/-- The checks on a frame: its range, then on the first frame of a socket the type and the
Connect packet in exactly the octets the header counts, and on later ones the Id, which
clients with the empty Id are exempt from.
-/
def inbound (first : Bool) (id : Guid) (memory : Bytes) : Inbound :=
  match PacketHeader.deserialize memory with
  | none => .refused
  | some header =>
      let stop := (headerSize : Int) + header.packetSize.toInt
      if stop < 0 then .refused
      else if first then
        if header.type != .connect then .refused
        else
          match (slice? memory headerSize stop.toNat).bind ConnectPacket.deserialize with
          | none => .refused
          | some connect => .joining connect
      else if header.id != id && id != .empty then .refused
      else .packet

@[simp] theorem packetIdMap_type (kind : PacketKind) : packetIdMap kind.type = some kind := by
  cases kind <;> rfl

theorem PacketKind.type_injective : Function.Injective PacketKind.type := by
  intro left right same
  have found : packetIdMap left.type = packetIdMap right.type := congrArg packetIdMap same
  rw [packetIdMap_type, packetIdMap_type] at found
  exact Option.some.inj found

/-- A frame under a typed header is decoded from what stands behind the header. -/
theorem decodeFrame_typed {id : Guid} {packet : Packet} {payload : Bytes}
    (length : payload.length = packet.size)
    : decodeFrame ((typedHeader id packet).octets ++ payload)
      = packet.kind.deserialize payload := by
  have counted : payload.length = packet.kind.size := length
  have body
      : slice? ((typedHeader id packet).octets ++ payload) headerSize
          (headerSize + packet.kind.size)
        = some payload := by
    rw [slice?_eq_some (Nat.le_add_right _ _) (by simp [counted]),
      slice_append_right _ _ _ (by simp), PacketHeader.length_octets, Nat.sub_self,
      Nat.add_sub_cancel_left, slice_all counted]
  have type : (typedHeader id packet).type = packet.kind.type := rfl
  simp [decodeFrame, type, body]

-----------------------------------------------------------------------------------------
-- Well-formed frames
-----------------------------------------------------------------------------------------

/-- A header and exactly the octets it counts. -/
def WellFormed (frame : Bytes) : Prop :=
  ∃ header,
    PacketHeader.deserialize frame = some header
    ∧ 0 ≤ header.packetSize.toInt
    ∧ frame.length = headerSize + header.packetSize.toInt.toNat

instance (frame : Bytes) : Decidable (WellFormed frame) :=
  match read : PacketHeader.deserialize frame with
  | none => .isFalse fun ⟨_, same, _⟩ => by rw [read] at same; cases same
  | some header =>
      decidable_of_iff
        (0 ≤ header.packetSize.toInt
          ∧ frame.length = headerSize + header.packetSize.toInt.toNat)
        ⟨fun both => ⟨header, read, both⟩, fun ⟨_, same, both⟩ => by
          rw [read] at same
          cases same
          exact both⟩

theorem toInt_ofNat_size (kind : PacketKind) : (Int16.ofNat kind.size).toInt = kind.size := by
  cases kind <;> rfl

@[simp] theorem toInt_typedHeader_packetSize (id : Guid) (packet : Packet)
    : (typedHeader id packet).packetSize.toInt = packet.size :=
  toInt_ofNat_size packet.kind

/-- A typed header and as many octets as its packet takes. -/
theorem wellFormed_typed {id : Guid} {packet : Packet} {body : Bytes}
    (length : body.length = packet.size)
    : WellFormed ((typedHeader id packet).octets ++ body) := by
  refine ⟨_, PacketHeader.deserialize_octets _ _, by simp, ?_⟩
  rw [List.length_append, PacketHeader.length_octets, length, toInt_typedHeader_packetSize,
    Int.toNat_natCast]

namespace Runtime

variable (runtime : Runtime) (id : Guid) (packet : Packet)

/-- The memory of a typed packet starts with its header and is long enough for the packet. -/
theorem filled_eq
    : ∃ body : Bytes,
        (runtime.filled id packet).1 = (typedHeader id packet).octets ++ body
        ∧ packet.size ≤ body.length := by
  have room := runtime.le_rent (headerSize + packet.size)
  have filled := @fillPacket_eq (typedHeader id packet) packet.serialize
    (runtime.rentZero (headerSize + packet.size))
    (by rw [rentZero, length_zeros]; omega)
  refine ⟨_, congrArg Prod.fst filled, ?_⟩
  rw [length_runStores, List.length_drop, rentZero, length_zeros]
  omega

theorem typedFrame_eq
    : ∃ body : Bytes,
        runtime.typedFrame id packet = (typedHeader id packet).octets ++ body
        ∧ body.length = packet.size := by
  obtain ⟨body, filled, long⟩ := runtime.filled_eq id packet
  refine ⟨body.take packet.size, ?_, List.length_take_of_le long⟩
  rw [typedFrame, filled, List.take_append, List.take_of_length_le (by simp),
    PacketHeader.length_octets, Nat.add_sub_cancel_left]

@[simp] theorem deserialize_filled
    : PacketHeader.deserialize (runtime.filled id packet).1
      = some (typedHeader id packet) := by
  obtain ⟨body, filled, _⟩ := runtime.filled_eq id packet
  rw [filled, PacketHeader.deserialize_octets]

@[simp] theorem deserialize_typedFrame
    : PacketHeader.deserialize (runtime.typedFrame id packet)
      = some (typedHeader id packet) := by
  obtain ⟨body, frame, _⟩ := runtime.typedFrame_eq id packet
  rw [frame, PacketHeader.deserialize_octets]

/-- Whatever was stored of its packet, a typed frame is well-formed. -/
theorem wellFormed_typedFrame : WellFormed (runtime.typedFrame id packet) := by
  obtain ⟨body, frame, length⟩ := runtime.typedFrame_eq id packet
  rw [frame]
  exact wellFormed_typed length

/-- Passing on the memory of a typed packet sends its typed frame. -/
theorem relayedFrame_filled
    : relayedFrame (runtime.filled id packet).1 (typedHeader id packet)
      = some (runtime.typedFrame id packet) := by
  obtain ⟨body, filled, long⟩ := runtime.filled_eq id packet
  have inside : headerSize + packet.size ≤ (runtime.filled id packet).1.length := by
    rw [filled, List.length_append, PacketHeader.length_octets]
    omega
  simp only [relayedFrame, toInt_typedHeader_packetSize]
  rw [if_pos (by omega)]
  rfl

end Runtime

/-- A frame that is passed on starts with the header it was read with. -/
theorem deserialize_relayedFrame {memory frame : Bytes} {header : PacketHeader}
    (read : PacketHeader.deserialize memory = some header)
    (relayed : relayedFrame memory header = some frame)
    (whole : 0 ≤ header.packetSize.toInt)
    : PacketHeader.deserialize frame = some header := by
  unfold relayedFrame at relayed
  dsimp only at relayed
  split_ifs at relayed with inside
  obtain rfl := Option.some.inj relayed
  obtain ⟨stop, total⟩ := Int.eq_ofNat_of_zero_le whole
  have front : header.octets ++ memory.drop headerSize = memory := by
    rw [PacketHeader.octets_of_deserialize read, List.take_append_drop]
  have split
      : memory.take ((headerSize : Int) + header.packetSize.toInt).toNat
        = header.octets ++ (memory.drop headerSize).take stop := by
    conv_lhs => rw [← front]
    rw [List.take_append, List.take_of_length_le (by simp; omega),
      PacketHeader.length_octets]
    congr 2
    omega
  rw [split, PacketHeader.deserialize_octets]

/-- Passing on a frame keeps it well-formed exactly when it counts its octets from zero on.
Witness: a negative count cuts the frame short of its header.
-/
theorem wellFormed_relayedFrame_iff {memory frame : Bytes} {header : PacketHeader}
    (read : PacketHeader.deserialize memory = some header)
    (relayed : relayedFrame memory header = some frame)
    : WellFormed frame ↔ 0 ≤ header.packetSize.toInt := by
  constructor
  · rintro ⟨counted, _, nonneg, length⟩
    unfold relayedFrame at relayed
    dsimp only at relayed
    split_ifs at relayed with inside
    obtain rfl := Option.some.inj relayed
    rw [List.length_take] at length
    omega
  · intro nonneg
    refine ⟨header, deserialize_relayedFrame read relayed nonneg, nonneg, ?_⟩
    unfold relayedFrame at relayed
    dsimp only at relayed
    split_ifs at relayed with inside
    obtain rfl := Option.some.inj relayed
    rw [List.length_take]
    omega

end SmoOnline
