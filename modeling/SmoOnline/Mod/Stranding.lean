import SmoOnline.Mod.Socket

/-! Where a call of `recv` leaves the stream, whatever arrives. How many octets a frame has behind
its prefix is a parameter: `send` writes a prefix that counts them, `recv` reads one that counts
itself as well.
-/

namespace SmoOnline.Mod

open Span Chunks

-----------------------------------------------------------------------------------------
-- Boundaries
-----------------------------------------------------------------------------------------

/-- The octets behind a prefix in the frames that are sent. -/
def sizeSent (packetSize : Int32) : Nat := packetSize.toInt.toNat

/-- The octets behind a prefix as `recv` counts them. -/
def sizeReceived (packetSize : Int32) : Nat := packetSize.toInt.toNat - packetSizeSize

/-- Nothing was taken off the stream, or one frame. -/
def AtBoundary (size : Int32 → Nat) (incoming later : Incoming) : Prop :=
  content later = content incoming
  ∨ ∃ header body,
    content incoming = header ++ (body ++ content later)
    ∧ header.length = packetSizeSize
    ∧ body.length = size (ofBytes header)

/-- A call that returns on the same connection leaves the stream at a boundary, and none raises an
exception. (Behind the parser `recv` returns true, if the heap has room for the packet.)
-/
def KeepsBoundary (size : Int32 → Nat) (memory : Option (Nat → UInt8)) (incoming : Incoming)
    : Prop :=
  match recv memory incoming with
  | .parses _ later => AtBoundary size incoming later
  | .returns later => AtBoundary size incoming later
  | .throws => False
  | .reconnects => True
  | .waits => True

/-- No attempt would block behind the first octet of a prefix. Where a prefix arrives: without
memory for the frame there is nothing behind the prefix; with it the number is not negative and, if
that much arrives, says by the count of `recv` how long the frame is.
-/
def Sound (size : Int32 → Nat) (memory : Option (Nat → UInt8)) (incoming : Incoming) : Prop :=
  let octets := (untilFailure incoming).1
  let packetSize : Int32 := ofBytes (octets.take packetSizeSize)
  if octets.length < packetSizeSize then
    (untilFailure incoming).2 = some tryAgain → octets = []
  else
    match memory with
    | none => size packetSize = 0
    | some _ =>
        0 ≤ packetSize.toInt
        ∧ (packetSize.toInt.toNat ≤ octets.length → size packetSize = sizeReceived packetSize)

/-- The position is at a boundary by the octets that were taken. -/
theorem atBoundary_iff {size : Int32 → Nat} {incoming later : Incoming} {got : Bytes}
    (taken : content incoming = got ++ content later)
    : AtBoundary size incoming later
      ↔ got = [] ∨ packetSizeSize ≤ got.length
          ∧ got.length = packetSizeSize + size (ofBytes (got.take packetSizeSize)) := by
  rw [AtBoundary, taken]
  constructor
  · rintro (same | ⟨header, body, split, headerLength, bodyLength⟩)
    · exact Or.inl (List.self_eq_append_left.mp same)
    · right
      rw [← List.append_assoc, List.append_cancel_right_eq] at split
      rw [split, ← headerLength, List.take_left, List.length_append, bodyLength]
      exact ⟨Nat.le_add_right _ _, rfl⟩
  · rintro (rfl | ⟨longer, length⟩)
    · exact Or.inl rfl
    · right
      refine ⟨got.take packetSizeSize, got.drop packetSizeSize, ?_, ?_, ?_⟩
      · rw [← List.append_assoc, List.take_append_drop]
      · exact List.length_take_of_le longer
      · rw [List.length_drop]
        omega

-----------------------------------------------------------------------------------------
-- The exits
-----------------------------------------------------------------------------------------

/-- A prefix that does not arrive before the first error. -/
theorem recv_short {incoming : Incoming} (memory : Option (Nat → UInt8))
    (short : (untilFailure incoming).1.length < packetSizeSize)
    : match (untilFailure incoming).2 with
      | none => recv memory incoming = .waits
      | some errno =>
          if errno = tryAgain then
            ∃ later,
              recv memory incoming = .returns later
              ∧ content incoming = (untilFailure incoming).1 ++ content later
          else recv memory incoming = .reconnects := by
  have ends := @receiveLoop_short _ _ packetSizeSize 0 incoming (zeros packetSizeSize) short
  cases error : (untilFailure incoming).2 with
  | none =>
      rw [error] at ends
      simp only [recv, ends]
  | some errno =>
      rw [error] at ends
      obtain ⟨later, failed, taken⟩ := ends
      simp only [recv, failed]
      split_ifs
      · exact ⟨later, rfl, taken⟩
      · rfl

/-- A prefix that does. -/
theorem recv_prefix {incoming : Incoming} (memory : Option (Nat → UInt8))
    (enough : packetSizeSize ≤ (untilFailure incoming).1.length)
    : ∃ later,
        recv memory incoming
          = (match memory with
            | none => .returns later
            | some fresh =>
                recvBody fresh (ofBytes ((untilFailure incoming).1.take packetSizeSize)) later)
        ∧ content incoming
          = (untilFailure incoming).1.take packetSizeSize ++ content later
        ∧ (untilFailure later).1 = (untilFailure incoming).1.drop packetSizeSize := by
  obtain ⟨header, later, filled⟩ :=
    @receiveLoop_enough _ _ packetSizeSize 0 incoming (zeros packetSizeSize) enough
  obtain ⟨got, taken, front, length, rfl⟩ := receiveLoop_takes (Nat.zero_le _) filled
  have whole : store (zeros packetSizeSize) 0 got = got := by
    simp [store, zeros, length]
  have first : (untilFailure incoming).1.take packetSizeSize = got := by
    rw [front]
    exact List.take_left' length
  have rest : (untilFailure incoming).1.drop packetSizeSize = (untilFailure later).1 := by
    rw [front]
    exact List.drop_left' length
  rw [whole] at filled
  refine ⟨later, ?_, ?_, rest.symm⟩
  · rw [first]
    simp only [recv, filled]
    cases memory <;> rfl
  · rw [first, taken]

/-- A negative number raises an exception. -/
theorem recvBody_negative (fresh : Nat → UInt8) {packetSize : Int32} (incoming : Incoming)
    (negative : packetSize.toInt < 0)
    : recvBody fresh packetSize incoming = .throws := by
  have none : packetSize.toInt.toNat ≤ packetSizeSize := by omega
  rw [recvBody, receiveLoop_of_le none]
  exact if_pos negative

/-- What does not arrive before the first error ends in a new connection, or is waited for. -/
theorem recvBody_short (fresh : Nat → UInt8) {packetSize : Int32} {incoming : Incoming}
    (short : (untilFailure incoming).1.length < sizeReceived packetSize)
    : recvBody fresh packetSize incoming = .reconnects
      ∨ recvBody fresh packetSize incoming = .waits := by
  have ends := @receiveLoop_short _ _ packetSize.toInt.toNat packetSizeSize incoming
    ((List.range packetSize.toInt.toNat).map fresh) short
  cases error : (untilFailure incoming).2 with
  | none =>
      rw [error] at ends
      exact Or.inr (by rw [recvBody, ends])
  | some errno =>
      rw [error] at ends
      obtain ⟨later, failed, _⟩ := ends
      exact Or.inl (by rw [recvBody, failed])

/-- What does is passed on, and taken as the number says. -/
theorem recvBody_enough (fresh : Nat → UInt8) {packetSize : Int32} {incoming : Incoming}
    (nonneg : 0 ≤ packetSize.toInt)
    (enough : sizeReceived packetSize ≤ (untilFailure incoming).1.length)
    : ∃ packetJson later got,
        recvBody fresh packetSize incoming = .parses packetJson later
        ∧ content incoming = got ++ content later
        ∧ got.length = sizeReceived packetSize := by
  obtain ⟨packetBuf, later, filled⟩ :=
    receiveLoop_enough ((List.range packetSize.toInt.toNat).map fresh) enough
  have parses : recvBody fresh packetSize incoming = .parses packetBuf later := by
    rw [recvBody, filled]
    exact if_neg (Int.not_lt.mpr nonneg)
  obtain ⟨got, taken, _, length, _⟩ := recvBody_parses parses
  exact ⟨packetBuf, later, got, parses, taken, length⟩

-----------------------------------------------------------------------------------------
-- Calls that leave the stream at a boundary
-----------------------------------------------------------------------------------------

/-- Where no whole prefix arrives, a call keeps to boundaries unless it would have to block for
the rest of one.
-/
theorem keepsBoundary_short {size : Int32 → Nat} {memory : Option (Nat → UInt8)}
    {incoming : Incoming} (short : (untilFailure incoming).1.length < packetSizeSize)
    : KeepsBoundary size memory incoming
      ↔ ((untilFailure incoming).2 = some tryAgain → (untilFailure incoming).1 = []) := by
  have ends := recv_short memory short
  cases error : (untilFailure incoming).2 with
  | none =>
      rw [error] at ends
      simp [KeepsBoundary, ends]
  | some errno =>
      rw [error] at ends
      by_cases again : errno = tryAgain
      · simp only [if_pos again] at ends
        obtain ⟨later, returns, taken⟩ := ends
        have within : ¬packetSizeSize ≤ (untilFailure incoming).1.length := Nat.not_le.mpr short
        simp only [KeepsBoundary, returns, atBoundary_iff taken, within, false_and, or_false,
          again, forall_const]
      · simp only [if_neg again] at ends
        simp [KeepsBoundary, ends, again]

/-- Where a prefix arrives, a call keeps to boundaries if the rest of it takes what the prefix
stands for.
-/
theorem keepsBoundary_prefix {size : Int32 → Nat} {memory : Option (Nat → UInt8)}
    {incoming : Incoming} (enough : packetSizeSize ≤ (untilFailure incoming).1.length)
    : let packetSize : Int32 := ofBytes ((untilFailure incoming).1.take packetSizeSize)
      KeepsBoundary size memory incoming
      ↔ match memory with
        | none => size packetSize = 0
        | some _ =>
            0 ≤ packetSize.toInt
            ∧ (packetSize.toInt.toNat ≤ (untilFailure incoming).1.length
              → size packetSize = sizeReceived packetSize) := by
  obtain ⟨later, received, taken, front⟩ := recv_prefix memory enough
  have length : ((untilFailure incoming).1.take packetSizeSize).length = packetSizeSize :=
    List.length_take_of_le enough
  have behind : (untilFailure later).1.length
      = (untilFailure incoming).1.length - packetSizeSize := by
    rw [front, List.length_drop]
  intro packetSize
  cases memory with
  | none =>
      have within : ¬((untilFailure incoming).1.take packetSizeSize = []) :=
        List.ne_nil_of_length_eq_add_one length
      simp only [KeepsBoundary, received, atBoundary_iff taken, within, false_or, length,
        Nat.le_refl, true_and, List.take_take, Nat.min_self]
      exact eq_comm.trans Nat.add_eq_left
  | some fresh =>
      by_cases negative : packetSize.toInt < 0
      · have throws := received.trans (recvBody_negative fresh later negative)
        simp only [KeepsBoundary, throws, Int.not_le.mpr negative, false_and]
      · have nonneg : 0 ≤ packetSize.toInt := Int.not_lt.mp negative
        rcases Nat.lt_or_ge (untilFailure later).1.length (sizeReceived packetSize)
          with short | whole
        · have missing : ¬packetSize.toInt.toNat ≤ (untilFailure incoming).1.length := by
            rw [sizeReceived] at short
            omega
          simp only [nonneg, missing, false_implies, and_self, iff_true]
          rcases recvBody_short fresh short with reconnects | waits
          · simp only [KeepsBoundary, received.trans reconnects]
          · simp only [KeepsBoundary, received.trans waits]
        · have arrives : packetSize.toInt.toNat ≤ (untilFailure incoming).1.length := by
            rw [sizeReceived] at whole
            omega
          obtain ⟨packetJson, after, body, parses, rest, bodyLength⟩ :=
            recvBody_enough fresh nonneg whole
          rw [rest, ← List.append_assoc] at taken
          have first : ((untilFailure incoming).1.take packetSizeSize ++ body).take packetSizeSize
              = (untilFailure incoming).1.take packetSizeSize :=
            List.take_left' length
          have some : ¬((untilFailure incoming).1.take packetSizeSize ++ body = []) := by
            intro empty
            have none := congrArg List.length (List.append_eq_nil_iff.mp empty).1
            rw [length] at none
            cases none
          simp only [KeepsBoundary, received.trans parses, atBoundary_iff taken, first, some,
            false_or, List.length_append, length, bodyLength, nonneg, true_and, arrives,
            true_implies, Nat.le_add_right, Nat.add_left_cancel_iff]
          exact eq_comm

/-- A call of `recv` that returns on the same connection leaves the stream at the boundary of a
frame and raises no exception exactly where what arrives is sound.
-/
theorem keepsBoundary_iff_sound (size : Int32 → Nat) (memory : Option (Nat → UInt8))
    (incoming : Incoming)
    : KeepsBoundary size memory incoming ↔ Sound size memory incoming := by
  unfold Sound
  rcases Nat.lt_or_ge (untilFailure incoming).1.length packetSizeSize with short | enough
  · simp only [if_pos short]
    exact keepsBoundary_short short
  · simp only [if_neg (Nat.not_lt.mpr enough)]
    exact keepsBoundary_prefix enough

/-- Two octets of a prefix that arrive before the rest of it. -/
def blockedPrefix : Incoming := [.chunk ⟨[0x5c, 0x00], by decide⟩, .failure tryAgain]

/-- They are lost where the next attempt would block, by whichever count of a frame. -/
theorem blockedPrefix_lost
    : ¬KeepsBoundary sizeSent (some fun _ => 0) blockedPrefix
      ∧ ¬KeepsBoundary sizeReceived (some fun _ => 0) blockedPrefix := by
  rw [keepsBoundary_short (by decide), keepsBoundary_short (by decide)]
  decide

end SmoOnline.Mod
