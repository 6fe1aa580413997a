import Mathlib.Data.List.Basic

/-! Reading from a stream that arrives in chunks: a loop that asks for what is still missing
until a buffer is full, whatever the chunks are.
-/

namespace Chunks

variable {α ε : Type}

/-- What one receiving call finds. It is never empty. -/
structure Chunk (α : Type) where
  elements : List α
  nonempty : elements ≠ []
  deriving DecidableEq

/-- What arrives in place of nothing: a chunk, or an error in its place. -/
inductive Arrival (α ε : Type)
  | chunk (chunk : Chunk α)
  | failure (error : ε)
  deriving DecidableEq

/-- What is left of a chunk of which fewer elements were asked for. -/
def Chunk.rest (chunk : Chunk α) (count : Nat) (fewer : count < chunk.elements.length)
    : Chunk α where
  elements := chunk.elements.drop count
  nonempty := by simpa using fewer

/-- A buffer with elements stored from `start` on. -/
def store (buffer : List α) (start : Nat) (elements : List α) : List α :=
  buffer.take start ++ elements ++ buffer.drop (start + elements.length)

/-- How a loop of receiving calls ends. -/
inductive ReadEnd (α ε : Type)
  | filled (buffer : List α) (later : List (Arrival α ε))
  | failed (error : ε) (later : List (Arrival α ε))
  | starved
  deriving DecidableEq

/-- Ask for what the buffer still lacks of `size` elements until `valread` reaches it. -/
def receiveLoop (size valread : Nat) (buffer : List α) (arrivals : List (Arrival α ε))
    : ReadEnd α ε :=
  if valread < size then
    match arrivals with
    | [] => .starved
    | .failure error :: later => .failed error later
    | .chunk chunk :: later =>
        if fewer : size - valread < chunk.elements.length then
          .filled (store buffer valread (chunk.elements.take (size - valread)))
            (.chunk (chunk.rest (size - valread) fewer) :: later)
        else
          receiveLoop size (valread + chunk.elements.length)
            (store buffer valread chunk.elements) later
  else .filled buffer arrivals

/-- All that is still to come. -/
def content : List (Arrival α ε) → List α
  | [] => []
  | .failure _ :: later => content later
  | .chunk chunk :: later => chunk.elements ++ content later

/-- What arrives before the first error, and that error. -/
def untilFailure : List (Arrival α ε) → List α × Option ε
  | [] => ([], none)
  | .failure error :: _ => ([], some error)
  | .chunk chunk :: later => (chunk.elements ++ (untilFailure later).1, (untilFailure later).2)

/-- A stream of chunks without an error. -/
def flowing (ε : Type) (chunks : List (Chunk α)) : List (Arrival α ε) := chunks.map .chunk

-----------------------------------------------------------------------------------------
-- Storing
-----------------------------------------------------------------------------------------

@[simp] theorem store_nil (buffer : List α) (start : Nat) : store buffer start [] = buffer := by
  simp [store]

/-- Storing elements behind others is storing all of them. -/
theorem store_store {buffer first second : List α} {start : Nat}
    (inside : start ≤ buffer.length)
    : store (store buffer start first) (start + first.length) second
      = store buffer start (first ++ second) := by
  have front : (buffer.take start ++ first).length = start + first.length := by
    rw [List.length_append, List.length_take, Nat.min_eq_left inside]
  simp only [store, List.take_left' front, ← List.drop_drop, List.drop_left' front,
    List.length_append]
  simp [Nat.add_assoc, List.drop_drop]

/-- Storing inside of a buffer leaves it as long as it is. -/
theorem length_store {buffer elements : List α} {start : Nat}
    (inside : start + elements.length ≤ buffer.length)
    : (store buffer start elements).length = buffer.length := by
  simp only [store, List.length_append, List.length_take, List.length_drop]
  omega

/-- What was stored stands behind what was there before it. -/
theorem take_store {buffer : List α} {start : Nat} (elements : List α)
    (inside : start ≤ buffer.length)
    : (store buffer start elements).take (start + elements.length)
      = buffer.take start ++ elements := by
  have front : (buffer.take start ++ elements).length = start + elements.length := by
    rw [List.length_append, List.length_take, Nat.min_eq_left inside]
  rw [store, List.take_left' front]

-----------------------------------------------------------------------------------------
-- Loops
-----------------------------------------------------------------------------------------

/-- A loop that has read enough leaves the stream alone. -/
theorem receiveLoop_of_le {size valread : Nat} (reached : size ≤ valread) (buffer : List α)
    (arrivals : List (Arrival α ε))
    : receiveLoop size valread buffer arrivals = .filled buffer arrivals := by
  rw [receiveLoop.eq_def, if_neg (Nat.not_lt.mpr reached)]

/-- A chunk that is longer than what is missing is taken in part. -/
theorem receiveLoop_part {size valread : Nat} {chunk : Chunk α} (buffer : List α)
    (later : List (Arrival α ε)) (missing : valread < size)
    (fewer : size - valread < chunk.elements.length)
    : receiveLoop size valread buffer (.chunk chunk :: later)
      = .filled (store buffer valread (chunk.elements.take (size - valread)))
          (.chunk (chunk.rest (size - valread) fewer) :: later) := by
  rw [receiveLoop, if_pos missing]
  exact dif_pos fewer

/-- A chunk that is not is taken whole. -/
theorem receiveLoop_whole {size valread : Nat} {chunk : Chunk α} (buffer : List α)
    (later : List (Arrival α ε)) (missing : valread < size)
    (short : chunk.elements.length ≤ size - valread)
    : receiveLoop size valread buffer (.chunk chunk :: later)
      = receiveLoop size (valread + chunk.elements.length)
          (store buffer valread chunk.elements) later := by
  rw [receiveLoop, if_pos missing]
  exact dif_neg (Nat.not_lt.mpr short)

/-- A loop that fills its buffer takes what it lacks off the front of the stream, and of what
arrives before an error, by induction on what arrives.
-/
theorem receiveLoop_takes {size valread : Nat} {buffer full : List α}
    {arrivals later : List (Arrival α ε)} (inside : valread ≤ buffer.length)
    (filled : receiveLoop size valread buffer arrivals = .filled full later)
    : ∃ got,
        content arrivals = got ++ content later
        ∧ untilFailure arrivals = (got ++ (untilFailure later).1, (untilFailure later).2)
        ∧ got.length = size - valread
        ∧ full = store buffer valread got := by
  induction arrivals generalizing valread buffer with
  | nil =>
      rcases Nat.lt_or_ge valread size with missing | reached
      · rw [receiveLoop, if_pos missing] at filled
        cases filled
      · rw [receiveLoop_of_le reached] at filled
        obtain ⟨rfl, rfl⟩ := ReadEnd.filled.inj filled
        exact ⟨[], rfl, rfl, by simp; omega, (store_nil _ _).symm⟩
  | cons arrival arrivals ih =>
      rcases Nat.lt_or_ge valread size with missing | reached
      · cases arrival with
        | failure error =>
            rw [receiveLoop, if_pos missing] at filled
            cases filled
        | chunk chunk =>
            rcases Nat.lt_or_ge (size - valread) chunk.elements.length with fewer | short
            · rw [receiveLoop_part buffer arrivals missing fewer] at filled
              obtain ⟨rfl, rfl⟩ := ReadEnd.filled.inj filled
              refine ⟨chunk.elements.take (size - valread), ?_, ?_, ?_, rfl⟩
              · simp [content, Chunk.rest, ← List.append_assoc]
              · simp [untilFailure, Chunk.rest, ← List.append_assoc]
              · exact List.length_take_of_le (Nat.le_of_lt fewer)
            · rw [receiveLoop_whole buffer arrivals missing short] at filled
              have room : valread + chunk.elements.length
                  ≤ (store buffer valread chunk.elements).length := by
                simp only [store, List.length_append, List.length_take]
                omega
              obtain ⟨got, taken, front, length, rfl⟩ := ih room filled
              refine ⟨chunk.elements ++ got, ?_, ?_, ?_, store_store inside⟩
              · rw [content, taken, List.append_assoc]
              · rw [untilFailure, front, List.append_assoc]
              · rw [List.length_append, length]
                omega
      · rw [receiveLoop_of_le reached] at filled
        obtain ⟨rfl, rfl⟩ := ReadEnd.filled.inj filled
        exact ⟨[], rfl, rfl, by simp; omega, (store_nil _ _).symm⟩

theorem receiveLoop_filled {size valread : Nat} {buffer full : List α}
    {arrivals later : List (Arrival α ε)} (inside : valread ≤ buffer.length)
    (filled : receiveLoop size valread buffer arrivals = .filled full later)
    : ∃ got,
        content arrivals = got ++ content later
        ∧ got.length = size - valread
        ∧ full = store buffer valread got := by
  obtain ⟨got, taken, _, length, stored⟩ := receiveLoop_takes inside filled
  exact ⟨got, taken, length, stored⟩

@[simp] theorem content_flowing (chunks : List (Chunk α))
    : content (flowing ε chunks) = chunks.flatMap Chunk.elements := by
  induction chunks with
  | nil => rfl
  | cons chunk chunks ih =>
      rw [List.flatMap_cons, ← ih]
      rfl

/-- Chunks that hold enough fill a buffer and leave chunks, by induction on them. -/
theorem receiveLoop_flowing {size valread : Nat} {chunks : List (Chunk α)} (buffer : List α)
    (enough : size - valread ≤ (chunks.flatMap Chunk.elements).length)
    : ∃ full rest, receiveLoop size valread buffer (flowing ε chunks)
        = .filled full (flowing ε rest) := by
  induction chunks generalizing valread buffer with
  | nil =>
      have reached : size ≤ valread := by
        simp only [List.flatMap_nil, List.length_nil] at enough
        omega
      exact ⟨buffer, [], receiveLoop_of_le reached buffer _⟩
  | cons chunk chunks ih =>
      rcases Nat.lt_or_ge valread size with missing | reached
      · rcases Nat.lt_or_ge (size - valread) chunk.elements.length with fewer | short
        · exact ⟨_, chunk.rest _ fewer :: chunks, receiveLoop_part buffer _ missing fewer⟩
        · rw [List.flatMap_cons, List.length_append] at enough
          obtain ⟨full, rest, filled⟩ :=
            ih (store buffer valread chunk.elements)
              (show size - (valread + chunk.elements.length) ≤ _ by omega)
          exact ⟨full, rest, (receiveLoop_whole buffer _ missing short).trans filled⟩
      · exact ⟨buffer, chunk :: chunks, receiveLoop_of_le reached buffer _⟩

-----------------------------------------------------------------------------------------
-- Streams with an error
-----------------------------------------------------------------------------------------

/-- A loop whose buffer is not filled before the first error takes all that arrives before it. -/
theorem receiveLoop_short {size valread : Nat} {arrivals : List (Arrival α ε)} (buffer : List α)
    (short : (untilFailure arrivals).1.length < size - valread)
    : match (untilFailure arrivals).2 with
      | none => receiveLoop size valread buffer arrivals = .starved
      | some error =>
          ∃ later,
            receiveLoop size valread buffer arrivals = .failed error later
            ∧ content arrivals = (untilFailure arrivals).1 ++ content later := by
  induction arrivals generalizing valread buffer with
  | nil =>
      have missing : valread < size := by omega
      simp [untilFailure, receiveLoop, missing]
  | cons arrival later ih =>
      have missing : valread < size := by omega
      cases arrival with
      | failure error =>
          refine ⟨later, ?_, rfl⟩
          rw [receiveLoop, if_pos missing]
      | chunk chunk =>
          simp only [untilFailure, List.length_append] at short ⊢
          have whole := receiveLoop_whole buffer later missing
            (show chunk.elements.length ≤ _ by omega)
          have rest := ih (store buffer valread chunk.elements)
            (show _ < size - (valread + chunk.elements.length) by omega)
          rw [whole]
          cases ends : (untilFailure later).2 with
          | none =>
              rw [ends] at rest
              exact rest
          | some error =>
              rw [ends] at rest
              obtain ⟨after, failed, taken⟩ := rest
              exact ⟨after, failed, by rw [content, taken, List.append_assoc]⟩

/-- A buffer that what arrives before the first error is enough for is filled. -/
theorem receiveLoop_enough {size valread : Nat} {arrivals : List (Arrival α ε)} (buffer : List α)
    (enough : size - valread ≤ (untilFailure arrivals).1.length)
    : ∃ full later, receiveLoop size valread buffer arrivals = .filled full later := by
  induction arrivals generalizing valread buffer with
  | nil =>
      simp only [untilFailure, List.length_nil] at enough
      exact ⟨_, _, receiveLoop_of_le (show size ≤ valread by omega) buffer _⟩
  | cons arrival arrivals ih =>
      rcases Nat.lt_or_ge valread size with missing | reached
      · cases arrival with
        | failure error =>
            simp only [untilFailure, List.length_nil] at enough
            omega
        | chunk chunk =>
            rcases Nat.lt_or_ge (size - valread) chunk.elements.length with fewer | short
            · exact ⟨_, _, receiveLoop_part buffer arrivals missing fewer⟩
            · simp only [untilFailure, List.length_append] at enough
              rw [receiveLoop_whole buffer arrivals missing short]
              exact ih _ (by omega)
      · exact ⟨_, _, receiveLoop_of_le reached buffer _⟩

end Chunks
