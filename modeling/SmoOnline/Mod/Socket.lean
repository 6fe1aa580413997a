import SmoOnline.Library.Chunks
import SmoOnline.Library.Span

/-! How a player's game frames what it sends and what it makes of the octets it receives. The
JSON text of a packet is what protobuf prints and parses, and is not looked into.
-/

namespace SmoOnline.Mod

open Span Chunks

/-- What `nn::socket::Recv` returns from one call to the next: octets, or an error number. -/
abbrev Incoming := List (Arrival UInt8 Nat)

-----------------------------------------------------------------------------------------
-- Sending
-----------------------------------------------------------------------------------------

/-- `int32_t packetLength = json.size()`, as it lies in memory. -/
def packetLength (json : Bytes) : Bytes := toBytes (Int32.ofNat json.length)

/-- `SocketClient::send`: the two calls to `nn::socket::Send`. -/
def sendCalls (json : Bytes) : List Bytes := [packetLength json, json]

/-- The octets on a connection for packets that are sent one after the other. -/
def wire (jsons : List Bytes) : Bytes := (jsons.flatMap sendCalls).flatten

-----------------------------------------------------------------------------------------
-- Receiving
-----------------------------------------------------------------------------------------

/-- How a call to `SocketClient::recv` ends: with a text for the parser, without one, in
`tryReconnect`, in an exception of `std::string`, or not before more arrives.
-/
inductive RecvEnd
  | parses (packetJson : Bytes) (later : Incoming)
  | returns (later : Incoming)
  | reconnects
  | throws
  | waits
  deriving DecidableEq

/-- `sizeof(packetSize)` -/
def packetSizeSize : Nat := 4

/-- The error number on which `recv` gives up a header without closing the connection. -/
def tryAgain : Nat := 11

/-- The loop over the body starts where the loop over the header has left `valread`. -/
def recvBody (fresh : Nat → UInt8) (packetSize : Int32) (incoming : Incoming) : RecvEnd :=
  match receiveLoop packetSize.toInt.toNat packetSizeSize
      ((List.range packetSize.toInt.toNat).map fresh) incoming with
  | .starved => .waits
  | .failed _ _ => .reconnects
  | .filled packetBuf later =>
      if packetSize.toInt < 0 then .throws else .parses packetBuf later

/-- `SocketClient::recv` on a connected socket, where `memory` is what the buffer from the heap
happens to hold, if the heap has one.
-/
def recv (memory : Option (Nat → UInt8)) (incoming : Incoming) : RecvEnd :=
  match receiveLoop packetSizeSize 0 (zeros packetSizeSize) incoming with
  | .starved => .waits
  | .failed errno later => if errno = tryAgain then .returns later else .reconnects
  | .filled header later =>
      match memory with
      | none => .returns later
      | some fresh => recvBody fresh (ofBytes header) later

/-- Each call of `recv` passes the next text to the parser and leaves the stream where the
next prefix starts.
-/
def RecvUndoesSend (memory : Nat → Nat → UInt8) : List Bytes → Incoming → Prop
  | [], _ => True
  | json :: jsons, incoming =>
      ∃ later,
        recv (some (memory 0)) incoming = .parses json later
        ∧ content later = wire jsons
        ∧ RecvUndoesSend (fun call => memory (call + 1)) jsons later

-----------------------------------------------------------------------------------------
-- What a call takes off the stream
-----------------------------------------------------------------------------------------

@[simp] theorem length_packetLength (json : Bytes) : (packetLength json).length = packetSizeSize :=
  Blittable.length_toBytes _

@[simp] theorem wire_cons (json : Bytes) (jsons : List Bytes)
    : wire (json :: jsons) = packetLength json ++ (json ++ wire jsons) := by
  simp [wire, sendCalls]

/-- The number in the prefix never exceeds the length of the text. -/
theorem packetLength_le (json : Bytes) : (Int32.ofNat json.length).toInt.toNat ≤ json.length := by
  rw [Int32.toInt_ofNat', Int.bmod, Int32.size]
  split_ifs <;> omega

/-- The number in the prefix is the length of the text, where that fits. -/
theorem leValue_packetLength {json : Bytes} (fits : json.length < 2 ^ 32)
    : leValue (packetLength json) = json.length := by
  have value : (Int32.ofNat json.length).toUInt32.toNat = json.length % 2 ^ 32 :=
    UInt32.toNat_ofNat'
  change leValue (leBytes 4 (Int32.ofNat json.length).toUInt32.toNat) = json.length
  rw [value, Nat.mod_eq_of_lt fits]
  exact leValue_leBytes_of_lt fits

/-- What a buffer holds when all that is missing behind the prefix was stored in it. -/
theorem store_fresh (fresh : Nat → UInt8) {size : Nat} {body : Bytes}
    (longer : packetSizeSize ≤ size) (length : body.length = size - packetSizeSize)
    : store ((List.range size).map fresh) packetSizeSize body
      = (List.range (size - body.length)).map fresh ++ body := by
  have full : size ≤ packetSizeSize + body.length := by omega
  have unread : min packetSizeSize size = size - body.length := by omega
  rw [store, List.drop_eq_nil_of_le (by simpa using full), List.append_nil, ← List.map_take,
    List.take_range, unread]

theorem recvBody_parses {fresh : Nat → UInt8} {packetSize : Int32} {incoming later : Incoming}
    {packetJson : Bytes} (parses : recvBody fresh packetSize incoming = .parses packetJson later)
    : ∃ body,
        content incoming = body ++ content later
        ∧ 0 ≤ packetSize.toInt
        ∧ body.length = packetSize.toInt.toNat - packetSizeSize
        ∧ packetJson
          = (List.range (packetSize.toInt.toNat - body.length)).map fresh ++ body := by
  unfold recvBody at parses
  split at parses
  · cases parses
  · cases parses
  · next packetBuf after filled =>
      split_ifs at parses with negative
      obtain ⟨rfl, rfl⟩ := RecvEnd.parses.inj parses
      have nonneg : 0 ≤ packetSize.toInt := Int.not_lt.mp negative
      rcases Nat.le_total packetSizeSize packetSize.toInt.toNat with longer | short
      · obtain ⟨body, taken, length, rfl⟩ :=
          receiveLoop_filled (by simpa using longer) filled
        exact ⟨body, taken, nonneg, length, store_fresh fresh longer length⟩
      · rw [receiveLoop_of_le short] at filled
        obtain ⟨rfl, rfl⟩ := ReadEnd.filled.inj filled
        exact ⟨[], rfl, nonneg, (Nat.sub_eq_zero_of_le short).symm, by simp⟩

/-- A text for the parser has the length that the prefix says, and its first four octets are
not read from the stream: the call takes as many octets as the prefix says, but a prefix at
least.
-/
theorem recv_parses {fresh : Nat → UInt8} {incoming later : Incoming} {packetJson : Bytes}
    (parses : recv (some fresh) incoming = .parses packetJson later)
    : ∃ header body,
        content incoming = header ++ (body ++ content later)
        ∧ header.length = packetSizeSize
        ∧ 0 ≤ (ofBytes header : Int32).toInt
        ∧ body.length = (ofBytes header : Int32).toInt.toNat - packetSizeSize
        ∧ packetJson
          = (List.range ((ofBytes header : Int32).toInt.toNat - body.length)).map fresh
            ++ body := by
  unfold recv at parses
  split at parses
  · cases parses
  · split_ifs at parses
  · next header middle read =>
      obtain ⟨octets, taken, length, rfl⟩ := receiveLoop_filled (Nat.zero_le _) read
      have whole : store (zeros packetSizeSize) 0 octets = octets := by
        simp [store, zeros, length]
      rw [whole] at parses
      obtain ⟨body, rest, nonneg, size, text⟩ := recvBody_parses parses
      exact ⟨octets, body, taken.trans (congrArg _ rest), length, nonneg, size, text⟩

/-- Chunks that hold what a prefix asks for, less four octets, lead to a text. -/
theorem recv_flowing (fresh : Nat → UInt8) {chunks : List (Chunk UInt8)}
    {header body behind : Bytes}
    (arrived : chunks.flatMap Chunk.elements = header ++ (body ++ behind))
    (headerLength : header.length = packetSizeSize)
    (nonneg : 0 ≤ (ofBytes header : Int32).toInt)
    (bodyLength : body.length = (ofBytes header : Int32).toInt.toNat - packetSizeSize)
    : ∃ rest,
        recv (some fresh) (flowing Nat chunks)
          = .parses
              ((List.range ((ofBytes header : Int32).toInt.toNat - body.length)).map fresh
                ++ body)
              (flowing Nat rest)
        ∧ rest.flatMap Chunk.elements = behind := by
  obtain ⟨full, middle, read⟩ := @receiveLoop_flowing _ Nat packetSizeSize 0 chunks
    (zeros packetSizeSize) (by rw [arrived, List.length_append]; omega)
  obtain ⟨octets, taken, length, rfl⟩ := receiveLoop_filled (Nat.zero_le _) read
  rw [content_flowing, content_flowing, arrived] at taken
  obtain ⟨rfl, missing⟩ := List.append_inj taken (headerLength.trans length.symm)
  have whole : store (zeros packetSizeSize) 0 header = header := by
    simp [store, zeros, headerLength]
  rw [whole] at read
  obtain ⟨packetBuf, rest, filled⟩ := @receiveLoop_flowing _ Nat
    (ofBytes header : Int32).toInt.toNat packetSizeSize middle
    ((List.range (ofBytes header : Int32).toInt.toNat).map fresh)
    (by rw [← missing, List.length_append]; omega)
  have parses : recv (some fresh) (flowing Nat chunks) = .parses packetBuf (flowing Nat rest) := by
    simp only [recv, read, recvBody, filled, if_neg (Int.not_lt.mpr nonneg)]
  obtain ⟨first, second, split, firstLength, _, secondLength, text⟩ := recv_parses parses
  rw [content_flowing, content_flowing, arrived] at split
  obtain ⟨rfl, remains⟩ := List.append_inj split (headerLength.trans firstLength.symm)
  obtain ⟨rfl, stops⟩ := List.append_inj remains (bodyLength.trans secondLength.symm)
  exact ⟨rest, text ▸ parses, stops.symm⟩

/-- What `recv` makes of a frame that fits an `int32_t` and is longer than a prefix: it passes
on four octets that the heap happened to hold and the text without its last four, which it
leaves on the stream.
-/
theorem recv_frame (fresh : Nat → UInt8) {json behind : Bytes} {chunks : List (Chunk UInt8)}
    (arrived : chunks.flatMap Chunk.elements = packetLength json ++ (json ++ behind))
    (longer : packetSizeSize ≤ json.length) (fits : json.length < 2 ^ 31)
    : ∃ rest,
        recv (some fresh) (flowing Nat chunks)
          = .parses
              ((List.range packetSizeSize).map fresh ++ json.take (json.length - packetSizeSize))
              (flowing Nat rest)
        ∧ rest.flatMap Chunk.elements = json.drop (json.length - packetSizeSize) ++ behind := by
  have size : (ofBytes (packetLength json) : Int32).toInt = json.length := by
    rw [packetLength, ofBytes_toBytes]
    exact Int32.toInt_ofNat_of_lt fits
  have unread : json.length - (json.length - packetSizeSize) = packetSizeSize := by omega
  have length : (json.take (json.length - packetSizeSize)).length
      = json.length - packetSizeSize :=
    List.length_take_of_le (Nat.sub_le _ _)
  rw [← List.take_append_drop (json.length - packetSizeSize) json, List.append_assoc,
    List.take_append_drop] at arrived
  have read := recv_flowing fresh arrived (length_packetLength json) (by omega)
    (by rw [length, size]; rfl)
  rwa [size, length, Int.toNat_natCast, unread] at read

/-- An empty text is passed on as such. -/
theorem recv_empty (fresh : Nat → UInt8) {behind : Bytes} {chunks : List (Chunk UInt8)}
    (arrived : chunks.flatMap Chunk.elements = packetLength [] ++ ([] ++ behind))
    : ∃ rest,
        recv (some fresh) (flowing Nat chunks) = .parses [] (flowing Nat rest)
        ∧ rest.flatMap Chunk.elements = behind :=
  recv_flowing fresh arrived (length_packetLength []) (by decide) (by decide)

/-- Where a call passes on the text of a frame and stops behind it, the text is empty. -/
theorem eq_nil_of_recv {fresh : Nat → UInt8} {incoming later : Incoming} {json behind : Bytes}
    (arrived : content incoming = packetLength json ++ (json ++ behind))
    (parses : recv (some fresh) incoming = .parses json later)
    (stops : content later = behind)
    : json = [] := by
  obtain ⟨header, body, taken, headerLength, _, bodyLength, _⟩ := recv_parses parses
  rw [arrived, stops] at taken
  obtain ⟨rfl, rest⟩ := List.append_inj taken
    ((length_packetLength json).trans headerLength.symm)
  have same : json.length = body.length := by
    simpa using congrArg List.length rest
  have bound := packetLength_le json
  rw [packetLength, ofBytes_toBytes] at bodyLength
  have empty : json.length = 0 := by
    simp only [packetSizeSize] at bodyLength
    omega
  exact List.length_eq_zero_iff.mp empty

/-- However the octets of packets arrive, the calls of `recv` undo those of `send` exactly when
none of the packets has a text, by induction on the packets.
-/
theorem recvUndoesSend_iff (memory : Nat → Nat → UInt8) {jsons : List Bytes}
    {chunks : List (Chunk UInt8)} (arrived : chunks.flatMap Chunk.elements = wire jsons)
    : RecvUndoesSend memory jsons (flowing Nat chunks) ↔ ∀ json ∈ jsons, json = [] := by
  induction jsons generalizing memory chunks with
  | nil => simp [RecvUndoesSend]
  | cons json jsons ih =>
      rw [wire_cons] at arrived
      constructor
      · rintro ⟨later, parses, stops, undoes⟩
        have empty : json = [] :=
          eq_nil_of_recv (by rw [content_flowing, arrived]) parses stops
        subst empty
        obtain ⟨rest, again, behind⟩ := recv_empty (memory 0) arrived
        obtain ⟨-, rfl⟩ := RecvEnd.parses.inj (again.symm.trans parses)
        exact List.forall_mem_cons.mpr ⟨rfl, (ih _ behind).mp undoes⟩
      · intro empty
        obtain ⟨rfl, later⟩ := List.forall_mem_cons.mp empty
        obtain ⟨rest, parses, behind⟩ := recv_empty (memory 0) arrived
        exact ⟨_, parses, by rw [content_flowing, behind], (ih _ behind).mpr later⟩

/-- The text of a `PlayerDC` packet of the user whose id is all zero. -/
def playerDCJson : Bytes :=
  ("\x7b\"metadata\":\x7b\"user_id\":\x7b\"uid\":\"AAAAAAAAAAAAAAAAAAAAAA==\"\x7d\x7d,"
    ++ "\"system_packet\":\x7b\"player_dc\":\x7b\x7d\x7d\x7d").toList.map fun letter =>
    UInt8.ofNat letter.toNat

/-- Two frames without a text that arrive octet by octet are read back. A `PlayerDC` packet behind
a frame without a text is not, though it arrives in one piece.
-/
theorem recvUndoesSend_empty
    : RecvUndoesSend (fun _ _ => 0) [[], []]
        (flowing Nat ((wire [[], []]).map fun octet => ⟨[octet], List.cons_ne_nil _ _⟩))
      ∧ ¬RecvUndoesSend (fun _ _ => 0) [[], playerDCJson]
          (flowing Nat
            [⟨packetLength [], by decide⟩, ⟨packetLength playerDCJson ++ playerDCJson, by decide⟩])
      := by
  refine ⟨(recvUndoesSend_iff _ (by decide)).mpr (by decide), fun undoes => ?_⟩
  have empty := (recvUndoesSend_iff _ (by decide +kernel)).mp undoes playerDCJson (by simp)
  exact absurd empty (by decide)

/-- Of a `PlayerDC` packet, alone on a connection and arrived in one piece, the parser gets what
the heap held and 88 octets of 92, and four stay behind.
-/
theorem playerDC_not_read_back
    : ∃ chunks : List (Chunk UInt8),
        chunks.flatMap Chunk.elements = wire [playerDCJson]
        ∧ (∃ later,
            recv (some fun _ => 0) (flowing Nat chunks)
              = .parses (zeros 4 ++ playerDCJson.take 88) later
            ∧ content later = playerDCJson.drop 88)
        ∧ ¬RecvUndoesSend (fun _ _ => 0) [playerDCJson] (flowing Nat chunks) := by
  have arrived : ([⟨wire [playerDCJson], by decide⟩] : List (Chunk UInt8)).flatMap Chunk.elements
      = packetLength playerDCJson ++ (playerDCJson ++ []) := by
    simp [wire, sendCalls]
  have length : playerDCJson.length = 92 := by decide
  obtain ⟨rest, parses, behind⟩ := recv_frame (fun _ => 0) arrived (by rw [length]; decide)
    (by rw [length]; decide)
  rw [length] at parses behind
  refine ⟨_, by rw [arrived, wire_cons]; rfl, ⟨_, parses, ?_⟩, ?_⟩
  · rw [content_flowing, behind, List.append_nil]
    rfl
  · rintro ⟨later, read, stops, -⟩
    have empty := @eq_nil_of_recv _ _ _ _ (wire []) (by rw [content_flowing, arrived]; rfl)
      read stops
    rw [empty] at length
    cases length

end SmoOnline.Mod
