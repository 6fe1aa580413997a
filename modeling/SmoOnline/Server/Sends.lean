import SmoOnline.Server.Machine
import SmoOnline.Shared.Survival

/-! Typed sends are all or nothing as far as their packets survive. A packet that its
`Serialize` throws on midway is logged and sent nevertheless, as far as it was stored.
-/

namespace SmoOnline

open Span Utf8 Runs

/-- The header of a packet and an encoding that decodes to the packet. -/
structure EncodesFaithfully (id : Guid) (packet : Packet) (data body : Bytes) : Prop where
  data : data = (typedHeader id packet).octets ++ body
  length : body.length = packet.size
  decodes : packet.kind.deserialize body = some packet

/-- `Client.Send<T>` writes one faithful frame of the packet, or nothing. -/
def ServerState.SendsWhole (state : ServerState) (runtime : Runtime) (socket : SocketId)
    (id : Guid) (packet : Packet) (cause : Cause)
    : Prop :=
  state.sendPacket runtime socket id packet cause = []
  ∨ ∃ data body,
      state.sendPacket runtime socket id packet cause = [{ socket, data, cause }]
      ∧ EncodesFaithfully id packet data body

/-- The octets of a rented memory behind the header. -/
def Runtime.payloadRoom (runtime : Runtime) (packet : Packet) : Nat :=
  runtime.rent (headerSize + packet.size) - headerSize

theorem Runtime.size_le_payloadRoom (runtime : Runtime) (packet : Packet)
    : packet.size ≤ runtime.payloadRoom packet := by
  have room := runtime.le_rent (headerSize + packet.size)
  rw [payloadRoom]
  omega

/-- A typed frame is its header and what was stored of the packet. -/
theorem Runtime.typedFrame_stored (runtime : Runtime) (id : Guid) (packet : Packet)
    : runtime.typedFrame id packet
      = (typedHeader id packet).octets
        ++ slice (runStores packet.serialize (zeros (runtime.payloadRoom packet))).1 0
            packet.size := by
  have room := runtime.le_rent (headerSize + packet.size)
  have cleared
      : (runtime.rentZero (headerSize + packet.size)).drop headerSize
        = zeros (runtime.payloadRoom packet) := by
    rw [rentZero, zeros, List.drop_replicate, payloadRoom, zeros]
  have filled := fillPacket_eq (typedHeader id packet) packet.serialize
    (show headerSize ≤ (runtime.rentZero (headerSize + packet.size)).length by
      rw [rentZero, length_zeros]; omega)
  rw [typedFrame, Runtime.filled, filled, cleared, List.take_append,
    List.take_of_length_le (by simp), PacketHeader.length_octets, Nat.add_sub_cancel_left]
  rfl

/-- The one faithful encoding of a packet in its frame. -/
theorem Runtime.encodesFaithfully_iff (runtime : Runtime) (id : Guid) (packet : Packet)
    : (∃ body, EncodesFaithfully id packet (runtime.typedFrame id packet) body)
      ↔ packet.Survives (runtime.payloadRoom packet) := by
  rw [← Packet.reads_back_iff (runtime.size_le_payloadRoom packet), typedFrame_stored]
  constructor
  · rintro ⟨body, same, _, decodes⟩
    rw [List.append_cancel_left same]
    exact decodes
  · intro decodes
    refine ⟨_, rfl, ?_, decodes⟩
    rw [length_slice, Nat.sub_zero]
    rw [length_runStores, length_zeros]
    exact runtime.size_le_payloadRoom packet

/-- A send to a closed socket writes nothing, and any other send is faithful exactly when the
packet survives its own frame. Witness: the frame is written whatever was stored of the packet,
and an interrupted encoding never decodes to the packet.
-/
theorem sendsWhole_iff (state : ServerState) (runtime : Runtime) (socket : SocketId)
    (id : Guid) (packet : Packet) (cause : Cause)
    : state.SendsWhole runtime socket id packet cause
      ↔ (state.session socket).socketConnected = false
        ∨ packet.Survives (runtime.payloadRoom packet) := by
  rw [← runtime.encodesFaithfully_iff id packet]
  unfold ServerState.SendsWhole ServerState.sendPacket ServerState.write
  cases (state.session socket).socketConnected with
  | false => simp
  | true =>
      constructor
      · rintro (nothing | ⟨data, body, sent, faithful⟩)
        · simp at nothing
        · obtain rfl : runtime.typedFrame id packet = data := by simpa using sent
          exact .inr ⟨body, faithful⟩
      · rintro (closed | ⟨body, faithful⟩)
        · cases closed
        · exact .inr ⟨_, body, rfl, faithful⟩

/-- What the `crash` command sends. -/
def crashPacket : Packet :=
  .changeStage {
    id := "$among$us/SubArea".toList
    stage := "$agogusStage".toList
    scenario := 21
    subScenarioType := 69
  }

/-- The Id of the `crash` command is one octet longer than its field: Mario is sent the header
and the stage, and neither the Id nor the scenario nor the invalid sub-scenario.
-/
theorem crash_sends_in_part
    : ∃ state,
        AnyRun (ServerState.step .pooled) (.initial {} []) duet state
        ∧ (state.sendPacket .pooled 1 ⟨7⟩ crashPacket .server).map
            (fun message => PacketKind.changeStage.deserialize (message.data.drop headerSize))
          = [some (.changeStage {
              id := []
              stage := "$agogusStage".toList
              scenario := 0
              subScenarioType := 0
            })]
        ∧ ¬state.SendsWhole .pooled 1 ⟨7⟩ crashPacket .server := by
  have run := @execute_get_run _ _ (ServerState.step .pooled) (.initial {} []) duet (by decide)
  refine ⟨_, run, by decide, ?_⟩
  rintro (nothing | ⟨data, body, sent, faithful⟩)
  · exact absurd nothing (by decide)
  · have survives : crashPacket.Survives (Runtime.pooled.payloadRoom crashPacket) := by
      refine (Runtime.pooled.encodesFaithfully_iff ⟨7⟩ crashPacket).mp ⟨body, ?_⟩
      have same : (ServerState.sendPacket _ .pooled 1 ⟨7⟩ crashPacket .server).map Sent.data
          = [data] := congrArg (List.map Sent.data) sent
      rw [ServerState.sendPacket, ServerState.write] at same
      split_ifs at same
      · obtain rfl : Runtime.pooled.typedFrame ⟨7⟩ crashPacket = data := by simpa using same
        exact faithful
      · simp at same
    exact absurd survives.2.short (by decide)

end SmoOnline
