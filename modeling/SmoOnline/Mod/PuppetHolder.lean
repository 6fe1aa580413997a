import Mathlib.Data.List.Nodup
import Mathlib.Data.List.Range
import Mathlib.Logic.Function.Iterate
import SmoOnline.Mod.PuppetBounds

/-! The array of pointers that a scene keeps its puppets in: how it is resized, and which entry
each puppet is bound to after a stage was initialised.
-/

namespace SmoOnline.Mod

open Runs Span

-----------------------------------------------------------------------------------------
-- Arrays of pointers
-----------------------------------------------------------------------------------------

/-- `sead::PtrArray`: the pointers before `mPtrNum`, of which there are no more than have room, and
there is no room without a buffer.
-/
structure PtrArray (α : Type) where
  mPtrs : List (Option α) := []
  mPtrNumMax : Int32 := 0
  isBufferReady : Bool := false
  fits : (mPtrs.length : Int) ≤ mPtrNumMax.toInt
  unready : isBufferReady = false → mPtrNumMax = 0

namespace PtrArray

variable {α : Type} (array : PtrArray α)

def size : Int32 := Int32.ofNat array.mPtrs.length

def capacity : Int32 := array.mPtrNumMax

def isFull : Bool := array.capacity ≤ array.size

/-- `at`, which gives a null pointer for what is not in the array. -/
def get (idx : Int32) : Option α :=
  if array.size.toUInt32 ≤ idx.toUInt32 then none else (array.mPtrs[idx.toUInt32.toNat]?).join

theorem size_toInt : array.size.toInt = array.mPtrs.length := by
  have fits := array.fits
  have bound := array.mPtrNumMax.toInt_lt
  exact Int32.toInt_ofNat_of_lt (by omega)

theorem isFull_iff : array.isFull = true ↔ array.mPtrNumMax.toInt ≤ array.mPtrs.length := by
  rw [isFull, decide_eq_true_iff, Int32.le_iff_toInt_le, size_toInt, capacity]

theorem mPtrs_of_unready {array : PtrArray α} (unready : array.isBufferReady = false)
    : array.mPtrs = [] := by
  have fits := array.fits
  rw [array.unready unready, Int32.toInt_zero] at fits
  exact List.eq_nil_of_length_eq_zero (by omega)

/-- `pushBack`, which does nothing to a full array. -/
def pushBack (ptr : Option α) : PtrArray α :=
  if full : array.isFull then array
  else
    { array with
      mPtrs := array.mPtrs ++ [ptr]
      fits := by
        rw [isFull_iff] at full
        rw [List.length_append, List.length_singleton]
        omega }

def clear : PtrArray α :=
  { array with
    mPtrs := []
    fits := by
      have fits := array.fits
      rw [List.length_nil]
      omega }

/-- What a successful `tryAllocBuffer` leaves of an array without a buffer. -/
def allocated (ptrNumMax : Int32) (nonneg : 0 ≤ ptrNumMax) : PtrArray α where
  mPtrNumMax := ptrNumMax
  isBufferReady := true
  fits := by simpa using Int32.le_iff_toInt_le.mp nonneg
  unready ready := by cases ready

/-- `tryAllocBuffer`, where `allocates` tells for which sizes the heap has room. -/
def tryAllocBuffer (allocates : Int32 → Bool) (ptrNumMax : Int32) : Option (PtrArray α) :=
  if nonneg : 0 ≤ ptrNumMax then
    if allocates ptrNumMax then some (allocated ptrNumMax nonneg) else none
  else none

end PtrArray

-----------------------------------------------------------------------------------------
-- Resizing
-----------------------------------------------------------------------------------------

namespace PuppetHolder

variable {α : Type}

/-- `i < curPupCount > size ? size : curPupCount`, as the compiler reads it: the outcome of the
first comparison is what is compared to the size.
-/
def goesOn (i curPupCount size : Int32) : Bool :=
  (if size < (if i < curPupCount then 1 else 0) then size else curPupCount) ≠ 0

/-- The loop from `i` on. -/
def copyLoop (old : PtrArray α) (size : Int32) : Nat → Int32 → PtrArray α → Option (PtrArray α)
  | 0, _, _ => none
  | fuel + 1, i, newPuppets =>
      if goesOn i old.size size then
        copyLoop old size fuel (i + 1) (newPuppets.pushBack (old.get i))
      else some newPuppets

/-- `resizeHolder`: the array afterwards and what is returned, if it returns. -/
def resizeHolder (allocates : Int32 → Bool) (mPuppetArr : PtrArray α) (size : Int32) (fuel : Nat)
    : Option (PtrArray α × Bool) :=
  if mPuppetArr.capacity = size then some (mPuppetArr, true)
  else if mPuppetArr.isBufferReady = false then
    match PtrArray.tryAllocBuffer allocates size with
    | some allocated => some (allocated, true)
    | none => some (mPuppetArr, false)
  else
    match PtrArray.tryAllocBuffer allocates size with
    | some newPuppets =>
        (copyLoop mPuppetArr size fuel 0 newPuppets).map fun newPuppets => (newPuppets, true)
    | none => some (mPuppetArr, false)

variable {allocates : Int32 → Bool} {mPuppetArr : PtrArray α} {size : Int32}

/-- The loop goes on for good where there are puppets and the new size is not zero. -/
theorem goesOn_iff (nonneg : 0 ≤ size) (i curPupCount : Int32)
    : goesOn i curPupCount size = true ↔ curPupCount ≠ 0 ∧ (size = 0 → ¬i < curPupCount) := by
  rw [goesOn, decide_eq_true_iff]
  split_ifs <;> grind

theorem size_eq_zero_iff : mPuppetArr.size = 0 ↔ mPuppetArr.mPtrs = [] := by
  rw [← Int32.toInt_inj, PtrArray.size_toInt]
  simp

/-- The loop is not entered where there are no puppets or no size. -/
theorem not_goesOn_first (stops : mPuppetArr.mPtrs = [] ∨ size = 0) (nonneg : 0 ≤ size)
    : goesOn 0 mPuppetArr.size size = false := by
  rw [← Bool.not_eq_true, goesOn_iff nonneg]
  rintro ⟨some_puppets, late⟩
  rcases stops with none | zero
  · exact some_puppets (size_eq_zero_iff.mpr none)
  · have length := mPuppetArr.size_toInt
    have positive : 0 < mPuppetArr.size.toInt := by
      have differs := mt Int32.toInt_inj.mp some_puppets
      rw [Int32.toInt_zero] at differs
      omega
    exact late zero (Int32.lt_iff_toInt_lt.mpr positive)

theorem tryAllocBuffer_eq (nonneg : 0 ≤ size) (allocated : allocates size = true)
    : PtrArray.tryAllocBuffer allocates size
      = some (PtrArray.allocated size nonneg : PtrArray α) := by
  rw [PtrArray.tryAllocBuffer, dif_pos nonneg, if_pos allocated]

/-- Where it goes on for good there is no end to it, by induction on the fuel. -/
theorem copyLoop_eq_none (some_puppets : mPuppetArr.size ≠ 0) (nonneg : 0 ≤ size)
    (some_size : size ≠ 0) (fuel : Nat) (i : Int32) (newPuppets : PtrArray α)
    : copyLoop mPuppetArr size fuel i newPuppets = none := by
  induction fuel generalizing i newPuppets with
  | zero => rfl
  | succ fuel ih =>
      have on := (goesOn_iff nonneg i mPuppetArr.size).mpr
        ⟨some_puppets, fun none => absurd none some_size⟩
      rw [copyLoop, if_pos on, ih]

/-- What resizing is to do: it returns, with the new capacity and as many of the puppets as have
room there.
-/
def Resizes (allocates : Int32 → Bool) (mPuppetArr : PtrArray α) (size : Int32) : Prop :=
  ∃ fuel resized,
    resizeHolder allocates mPuppetArr size fuel = some (resized, true)
    ∧ resized.capacity = size
    ∧ resized.mPtrs = mPuppetArr.mPtrs.take size.toInt.toNat

/-- For every array and every size that can be allocated, resizing does what it is to do exactly
if there is nothing to resize, no buffer, no puppet, or no size.
-/
theorem resizes_iff (nonneg : 0 ≤ size) (allocated : allocates size = true)
    : Resizes allocates mPuppetArr size
      ↔ mPuppetArr.capacity = size ∨ mPuppetArr.isBufferReady = false ∨ mPuppetArr.mPtrs = []
        ∨ size = 0 := by
  constructor
  · rintro ⟨fuel, resized, returned, -, -⟩
    by_contra! fails
    obtain ⟨other, ready, puppets, some_size⟩ := fails
    rw [resizeHolder, if_neg other, if_neg ready, tryAllocBuffer_eq nonneg allocated] at returned
    simp [copyLoop_eq_none (mt size_eq_zero_iff.mp puppets) nonneg some_size] at returned
  · intro returns
    by_cases same : mPuppetArr.capacity = size
    · refine ⟨0, mPuppetArr, by rw [resizeHolder, if_pos same], same, ?_⟩
      rw [List.take_of_length_le]
      have fits := mPuppetArr.fits
      rw [← same, PtrArray.capacity]
      omega
    · by_cases ready : mPuppetArr.isBufferReady = false
      · refine ⟨0, .allocated size nonneg, ?_, rfl, ?_⟩
        · rw [resizeHolder, if_neg same, if_pos ready, tryAllocBuffer_eq nonneg allocated]
        · rw [PtrArray.mPtrs_of_unready ready, List.take_nil]
          rfl
      · have stops : mPuppetArr.mPtrs = [] ∨ size = 0 := by tauto
        refine ⟨1, .allocated size nonneg, ?_, rfl, ?_⟩
        · rw [resizeHolder, if_neg same, if_neg ready, tryAllocBuffer_eq nonneg allocated]
          simp [copyLoop, not_goesOn_first stops nonneg]
        · rcases stops with none | rfl
          · simp [none, PtrArray.allocated]
          · rfl

/-- A holder with one puppet. -/
def onePuppet : PtrArray Nat :=
  (PtrArray.allocated 9 (by decide)).pushBack (some 0)

/-- An empty holder is resized, and one with a puppet to the size that it has or to none at all. -/
theorem resizes_empty
    : Resizes (fun _ => true) (PtrArray.allocated 9 (by decide) : PtrArray Nat) 33
      ∧ Resizes (fun _ => true) onePuppet 9
      ∧ Resizes (fun _ => true) onePuppet 0
      ∧ ¬Resizes (fun _ => true) onePuppet 10 := by
  refine ⟨(resizes_iff (by decide) rfl).mpr (.inr (.inr (.inl rfl))),
    (resizes_iff (by decide) rfl).mpr (.inl rfl),
    (resizes_iff (by decide) rfl).mpr (.inr (.inr (.inr rfl))), ?_⟩
  exact fun resizes => absurd ((resizes_iff (by decide) rfl).mp resizes) (by decide)

/-- A holder with one puppet is not: the loop never ends. -/
theorem never_resized
    : ∃ holder : PtrArray Nat,
        holder.capacity = 9 ∧ holder.mPtrs = [some 0]
        ∧ (∀ fuel, resizeHolder (fun _ => true) holder 33 fuel = none)
        ∧ ¬Resizes (fun _ => true) holder 33 := by
  have never (fuel : Nat)
      : resizeHolder (fun _ => true) onePuppet 33 fuel = none := by
    rw [resizeHolder, if_neg (by decide), if_neg (by decide), tryAllocBuffer_eq (by decide) rfl]
    dsimp only
    rw [copyLoop_eq_none (by decide) (by decide) (by decide)]
    rfl
  refine ⟨onePuppet, rfl, rfl, never, ?_⟩
  rintro ⟨fuel, resized, returned, -, -⟩
  rw [never fuel] at returned
  cases returned

end PuppetHolder

-----------------------------------------------------------------------------------------
-- The puppets of a stage
-----------------------------------------------------------------------------------------

/-- The client's entries with the puppets in its holder: of each puppet, the index of the entry it
is bound to.
-/
structure Scene where
  puppets : Puppets
  mPuppetArr : PtrArray Nat

namespace Scene

/-- `new PuppetHolder(maxPuppets)`, for the default of `maxPuppets`. -/
def initial (mUserID : Guid) : Scene where
  puppets := .initial mUserID
  mPuppetArr := .allocated 9 (by decide)

variable (scene : Scene)

/-- The index that `getLatestInfo` asks `getPuppetInfo` for, at this size of the holder. -/
def latestIndex (size : Int32) : Nat := (size - 1).toInt.toNat

/-- `createPuppetActorFromFactory` with a creator: a puppet is bound once it is registered, when the
size of the holder counts it; a full holder registers none.
-/
def createPuppetActor : Scene where
  puppets := scene.puppets.tryAddPuppet.getD scene.puppets
  mPuppetArr :=
    if scene.mPuppetArr.isFull then scene.mPuppetArr
    else scene.mPuppetArr.pushBack (some (latestIndex (scene.mPuppetArr.size + 1)))

/-- The bound of the loop in `initPuppetActors`, which is compared with a `size_t`. -/
def playerCount : Nat := scene.puppets.getMaxPlayerCount.toInt64.toUInt64.toNat

/-- `initPuppetActors`, in a stage with so many places for players. -/
def initPuppetActors (placementCount : Int32) (hasCreator : Bool) : Scene :=
  if 0 < placementCount ∧ hasCreator then createPuppetActor^[scene.playerCount] scene else scene

/-- `clearArrays` -/
def clearPuppets : Scene where
  puppets := { scene.puppets with holderSize := 0 }
  mPuppetArr := scene.mPuppetArr.clear

/-- What happens to the puppets: an `Init` packet announces 2 to 33 players, a stage is initialised,
or anything that neither announces nor creates.
-/
inductive Event
  | readInit (maxPlayers : UInt32) (low : 2 ≤ maxPlayers) (high : maxPlayers ≤ 33)
  | initStage (placementCount : Int32) (hasCreator : Bool)
  | other (event : Puppets.Event)

def step (findStr : Int16 → Bytes) (scene : Scene) : Event → Option Scene
  | .readInit maxPlayers _ _ =>
      some { scene with puppets := scene.puppets.readInit maxPlayers }
  | .initStage placementCount hasCreator =>
      some (scene.clearPuppets.initPuppetActors placementCount hasCreator)
  | .other (.readInit _) | .other .clearArrays | .other .createPuppetActor => none
  | .other event =>
      (scene.puppets.step findStr event).map fun puppets => { scene with puppets }

/-- Every puppet is bound to an entry of its own, and every entry that a player may get has one. -/
structure EverySlotBound : Prop where
  bound : ∀ puppet ∈ scene.mPuppetArr.mPtrs, puppet.isSome
  distinct : scene.mPuppetArr.mPtrs.Nodup
  covered : ∀ index < scene.puppets.window, some index ∈ scene.mPuppetArr.mPtrs

/-- A stage with a place for a player is initialised for no more players than there can be puppets
and one.
-/
def HasRoom (scene : Scene) : Event → Prop
  | .initStage placementCount hasCreator =>
      0 < placementCount ∧ hasCreator ∧ scene.puppets.getMaxPlayerCount ≤ 10
  | _ => True

variable {scene}

/-- What is known of a scene in every run. -/
structure Announced (scene : Scene) : Prop where
  capacity : scene.mPuppetArr.capacity = 9
  low : 2 ≤ scene.puppets.getMaxPlayerCount
  high : scene.puppets.getMaxPlayerCount ≤ 33
  size : scene.mPuppetArr.mPtrs.length = scene.puppets.holderSize

theorem latestIndex_eq (array : PtrArray Nat)
    : latestIndex (array.size + 1) = array.mPtrs.length := by
  have same : array.size + 1 - 1 = array.size := Int32.add_sub_cancel _ _
  rw [latestIndex, same, PtrArray.size_toInt]
  rfl

/-- One turn of the loop: while there is room the next entry gets a puppet. -/
theorem createPuppetActor_mPtrs (capacity : scene.mPuppetArr.capacity = 9)
    : scene.createPuppetActor.mPuppetArr.capacity = 9
      ∧ scene.createPuppetActor.mPuppetArr.mPtrs
        = if scene.mPuppetArr.mPtrs.length < 9 then
            scene.mPuppetArr.mPtrs ++ [some scene.mPuppetArr.mPtrs.length]
          else scene.mPuppetArr.mPtrs := by
  have nine : (9 : Int32).toInt = 9 := by decide
  have full : scene.mPuppetArr.isFull = true ↔ ¬scene.mPuppetArr.mPtrs.length < 9 := by
    rw [PtrArray.isFull_iff, ← PtrArray.capacity, capacity, nine]
    omega
  simp only [createPuppetActor]
  by_cases room : scene.mPuppetArr.mPtrs.length < 9
  · have not_full : ¬scene.mPuppetArr.isFull = true := fun is_full => full.mp is_full room
    rw [if_neg not_full, if_pos room, latestIndex_eq, PtrArray.pushBack, dif_neg not_full]
    exact ⟨capacity, rfl⟩
  · rw [if_pos (full.mpr room), if_neg room]
    exact ⟨capacity, rfl⟩

/-- The puppets that so many turns of the loop leave in an empty holder of nine, by induction on the
turns.
-/
theorem iterate_createPuppetActor (capacity : scene.mPuppetArr.capacity = 9)
    (empty : scene.mPuppetArr.mPtrs = []) (count : Nat)
    : (createPuppetActor^[count] scene).mPuppetArr.capacity = 9
      ∧ (createPuppetActor^[count] scene).mPuppetArr.mPtrs
        = (List.range (min count 9)).map some := by
  induction count with
  | zero => exact ⟨capacity, by simpa using empty⟩
  | succ count ih =>
      obtain ⟨capacity, mPtrs⟩ := ih
      rw [Function.iterate_succ_apply']
      obtain ⟨still, next⟩ := createPuppetActor_mPtrs capacity
      refine ⟨still, ?_⟩
      rw [next, mPtrs, List.length_map, List.length_range]
      split_ifs with room
      · have small : min count 9 = count := by omega
        have grown : min (count + 1) 9 = count + 1 := by omega
        rw [small, grown, List.range_succ, List.map_append]
        rfl
      · have same : min count 9 = min (count + 1) 9 := by omega
        rw [same]

/-- The entries count the puppets as the holder does. -/
theorem createPuppetActor_puppets (capacity : scene.mPuppetArr.capacity = 9)
    (size : scene.mPuppetArr.mPtrs.length = scene.puppets.holderSize)
    : scene.createPuppetActor.puppets.maxPuppets = scene.puppets.maxPuppets
      ∧ scene.createPuppetActor.mPuppetArr.mPtrs.length
        = scene.createPuppetActor.puppets.holderSize := by
  rw [(createPuppetActor_mPtrs capacity).2, size]
  by_cases room : scene.puppets.holderSize < 9
  · simp [createPuppetActor, Puppets.tryAddPuppet, Puppets.holderCapacity, room, size]
  · simp [createPuppetActor, Puppets.tryAddPuppet, Puppets.holderCapacity, room, size]

theorem iterate_createPuppetActor_puppets (capacity : scene.mPuppetArr.capacity = 9)
    (size : scene.mPuppetArr.mPtrs.length = scene.puppets.holderSize) (count : Nat)
    : (createPuppetActor^[count] scene).mPuppetArr.capacity = 9
      ∧ (createPuppetActor^[count] scene).puppets.maxPuppets = scene.puppets.maxPuppets
      ∧ (createPuppetActor^[count] scene).mPuppetArr.mPtrs.length
        = (createPuppetActor^[count] scene).puppets.holderSize := by
  induction count with
  | zero => exact ⟨capacity, rfl, size⟩
  | succ count ih =>
      obtain ⟨capacity, same, size⟩ := ih
      rw [Function.iterate_succ_apply']
      obtain ⟨kept, size⟩ := createPuppetActor_puppets capacity size
      exact ⟨(createPuppetActor_mPtrs capacity).1, kept.trans same, size⟩

/-- Within the bounds of what is announced, the loops run to the number of players and one less. -/
theorem counts (low : 2 ≤ scene.puppets.getMaxPlayerCount)
    (high : scene.puppets.getMaxPlayerCount ≤ 33)
    : (scene.playerCount : Int) = scene.puppets.getMaxPlayerCount.toInt
      ∧ (scene.puppets.window : Int) = scene.puppets.getMaxPlayerCount.toInt - 1 := by
  have two : (2 : Int32).toInt = 2 := by decide
  have most : (33 : Int32).toInt = 33 := by decide
  have one : (1 : Int32).toInt = 1 := by decide
  rw [Int32.le_iff_toInt_le] at low high
  rw [two] at low
  rw [most] at high
  have players := Puppets.toNat_toUInt64 scene.puppets.getMaxPlayerCount.toInt64
  have window := Puppets.toNat_toUInt64 (scene.puppets.getMaxPlayerCount - 1).toInt64
  rw [Int32.toInt_toInt64] at players window
  rw [Int32.toInt_sub, one, Int.bmod_def] at window
  rw [playerCount, Puppets.window]
  constructor
  · rw [players, if_pos (by omega)]
  · split_ifs at window <;> omega

variable {placementCount : Int32} {hasCreator : Bool}

/-- What the initialisation of a stage leaves. -/
theorem initPuppetActors_clearPuppets (announced : scene.Announced)
    : (scene.clearPuppets.initPuppetActors placementCount hasCreator).Announced
      ∧ (scene.clearPuppets.initPuppetActors placementCount hasCreator).puppets.maxPuppets
        = scene.puppets.maxPuppets
      ∧ (scene.clearPuppets.initPuppetActors placementCount hasCreator).mPuppetArr.mPtrs
        = if 0 < placementCount ∧ hasCreator then
            (List.range (min scene.playerCount 9)).map some
          else [] := by
  have cleared : scene.clearPuppets.mPuppetArr.capacity = 9 := announced.capacity
  have empty : scene.clearPuppets.mPuppetArr.mPtrs.length = scene.clearPuppets.puppets.holderSize :=
    rfl
  rw [initPuppetActors]
  split_ifs with placed
  · obtain ⟨capacity, kept, size⟩ :=
      iterate_createPuppetActor_puppets cleared empty scene.clearPuppets.playerCount
    have same_count : Puppets.getMaxPlayerCount _ = scene.puppets.getMaxPlayerCount :=
      congrArg (· + 1) kept
    refine ⟨⟨capacity, ?_, ?_, size⟩, kept, ?_⟩
    · rw [same_count]
      exact announced.low
    · rw [same_count]
      exact announced.high
    · exact (iterate_createPuppetActor cleared rfl _).2
  · exact ⟨⟨cleared, announced.low, announced.high, empty⟩, rfl, rfl⟩

/-- After a stage was initialised every slot has its puppet exactly if the stage had room. -/
theorem everySlotBound_iff (announced : scene.Announced)
    : (scene.clearPuppets.initPuppetActors placementCount hasCreator).EverySlotBound
      ↔ scene.HasRoom (.initStage placementCount hasCreator) := by
  obtain ⟨after, kept, mPtrs⟩ :=
    @initPuppetActors_clearPuppets scene placementCount hasCreator announced
  obtain ⟨players, -⟩ := counts announced.low announced.high
  obtain ⟨-, window⟩ := counts after.low after.high
  have same_count
      : (scene.clearPuppets.initPuppetActors placementCount hasCreator).puppets.getMaxPlayerCount
        = scene.puppets.getMaxPlayerCount :=
    congrArg (· + 1) kept
  have low := Int32.le_iff_toInt_le.mp announced.low
  have two : (2 : Int32).toInt = 2 := by decide
  have ten : (10 : Int32).toInt = 10 := by decide
  rw [same_count] at window
  rw [HasRoom, Int32.le_iff_toInt_le, ten]
  rw [two] at low
  by_cases placed : 0 < placementCount ∧ hasCreator
  · rw [if_pos placed] at mPtrs
    have covered (index : Nat)
        : some index
            ∈ (scene.clearPuppets.initPuppetActors placementCount hasCreator).mPuppetArr.mPtrs
          ↔ index < min scene.playerCount 9 := by
      rw [mPtrs]
      simp
    constructor
    · intro every
      have last := (covered _).mp (every.covered (scene.playerCount - 2) (by omega))
      exact ⟨placed.1, placed.2, by omega⟩
    · rintro ⟨-, -, room⟩
      refine ⟨?_, ?_, fun index inside => (covered index).mpr (by omega)⟩
      · rw [mPtrs]
        intro puppet member
        obtain ⟨index, -, rfl⟩ := List.mem_map.mp member
        rfl
      · rw [mPtrs]
        exact List.Nodup.map (fun _ _ => Option.some.inj) List.nodup_range
  · rw [if_neg placed] at mPtrs
    refine iff_of_false (fun every => ?_) fun room => placed ⟨room.1, room.2.1⟩
    have first := every.covered 0 (by omega)
    rw [mPtrs] at first
    cases first

variable {findStr : Int16 → Bytes}

/-- No other event announces players or creates puppets. -/
theorem step_other {event : Puppets.Event} {next : Scene}
    (taken : scene.step findStr (.other event) = some next)
    : next.mPuppetArr = scene.mPuppetArr
      ∧ next.puppets.maxPuppets = scene.puppets.maxPuppets
      ∧ next.puppets.holderSize = scene.puppets.holderSize := by
  cases event with
  | readInit maxPlayers => cases taken
  | clearArrays => cases taken
  | createPuppetActor => cases taken
  | readPacket isHideAndSeek id packet =>
      obtain ⟨puppets, read, rfl⟩ := Option.map_eq_some_iff.mp taken
      cases Puppets.readPacket_effect read <;> exact ⟨rfl, rfl, rfl⟩
  | updateFlags red blue =>
      obtain ⟨puppets, read, rfl⟩ := Option.map_eq_some_iff.mp taken
      obtain rfl := Puppets.updateFlags_eq read
      exact ⟨rfl, rfl, rfl⟩
  | playerList =>
      obtain ⟨puppets, read, rfl⟩ := Option.map_eq_some_iff.mp taken
      obtain rfl := Puppets.playerList_eq read
      exact ⟨rfl, rfl, rfl⟩
  | _ =>
      cases taken
      exact ⟨rfl, rfl, rfl⟩

theorem announced_initial (mUserID : Guid) : (initial mUserID).Announced :=
  ⟨rfl, (by decide : (2 : Int32) ≤ 9 + 1), (by decide : (9 : Int32) + 1 ≤ 33), rfl⟩

/-- So many players are as many where the number has a sign. -/
theorem toInt32_bounds {maxPlayers : UInt32} (low : 2 ≤ maxPlayers) (high : maxPlayers ≤ 33)
    : 2 ≤ maxPlayers.toInt32 ∧ maxPlayers.toInt32 ≤ 33 := by
  have least := UInt32.le_iff_toNat_le.mp low
  have most := UInt32.le_iff_toNat_le.mp high
  have two : (2 : Int32).toInt = 2 := by decide
  have all : (33 : Int32).toInt = 33 := by decide
  have two' : (2 : UInt32).toNat = 2 := rfl
  have all' : (33 : UInt32).toNat = 33 := rfl
  have value : maxPlayers.toInt32.toInt = maxPlayers.toBitVec.toInt := rfl
  have small : 2 * maxPlayers.toBitVec.toNat < 2 ^ 32 := by
    rw [UInt32.toNat_toBitVec]
    omega
  rw [Int32.le_iff_toInt_le, Int32.le_iff_toInt_le, value, BitVec.toInt_eq_toNat_of_lt small,
    UInt32.toNat_toBitVec]
  omega

theorem announced_step {event : Event} {next : Scene} (announced : scene.Announced)
    (taken : scene.step findStr event = some next)
    : next.Announced := by
  cases event with
  | readInit maxPlayers low high =>
      cases taken
      obtain ⟨few, many⟩ := toInt32_bounds low high
      have count := Puppets.getMaxPlayerCount_readInit scene.puppets maxPlayers
      exact ⟨announced.capacity, by rwa [count], by rwa [count], announced.size⟩
  | initStage placementCount hasCreator =>
      cases taken
      exact (initPuppetActors_clearPuppets announced).1
  | other event =>
      obtain ⟨same_array, same_count, same_size⟩ := step_other taken
      have count : next.puppets.getMaxPlayerCount = scene.puppets.getMaxPlayerCount :=
        congrArg (· + 1) same_count
      refine ⟨?_, ?_, ?_, ?_⟩
      · rw [same_array, announced.capacity]
      · rw [count]
        exact announced.low
      · rw [count]
        exact announced.high
      · rw [same_array, announced.size, same_size]

/-- The event initialises a stage. -/
def Event.IsInitStage : Event → Prop
  | .initStage _ _ => True
  | _ => False

/-- In every run from a new client, all stages are initialised so that every slot has its puppet
exactly if all of them have room.
-/
theorem run_hasRoom_iff {mUserID : Guid} {events : List Event}
    : Run (step findStr) HasRoom (initial mUserID) events scene
      ↔ Run (step findStr)
          (fun before event =>
            event.IsInitStage → ∀ next, before.step findStr event = some next → next.EverySlotBound)
          (initial mUserID) events scene := by
  apply Run.congr Announced (announced_initial mUserID)
  · exact fun announced _ taken => announced_step announced taken
  · intro before event next announced taken
    cases event with
    | initStage placementCount hasCreator =>
        rw [← everySlotBound_iff announced]
        constructor
        · rintro every - next taken
          cases taken
          exact every
        · exact fun every => every trivial _ rfl
    | _ => exact iff_of_true trivial fun initialises => initialises.elim

theorem everySlotBound_ten
    : ∃ scene : Scene,
        Run (step fun _ => [])
          (fun before event =>
            event.IsInitStage
            → ∀ next, before.step (fun _ => []) event = some next → next.EverySlotBound)
          (initial ⟨1⟩) [.readInit 10 (by decide) (by decide), .initStage 1 true] scene := by
  refine ⟨_, run_hasRoom_iff.mp ((Run.nil.snoc trivial rfl).snoc ⟨by decide, rfl, ?_⟩ rfl)⟩
  rw [Puppets.getMaxPlayerCount_readInit]
  decide

/-- With 11 players the last slot has no puppet. -/
theorem slot_without_puppet
    : ∃ scene : Scene,
        AnyRun (step fun _ => []) (initial ⟨1⟩)
          [.readInit 11 (by decide) (by decide), .initStage 1 true] scene
        ∧ 9 < scene.puppets.window ∧ some 9 ∉ scene.mPuppetArr.mPtrs ∧ ¬scene.EverySlotBound := by
  have told
      : step (fun _ => []) (initial ⟨1⟩) (.readInit 11 (by decide) (by decide))
        = some { initial ⟨1⟩ with puppets := (initial ⟨1⟩).puppets.readInit 11 } := rfl
  obtain ⟨-, kept, mPtrs⟩ :=
    @initPuppetActors_clearPuppets _ 1 true (announced_step (announced_initial ⟨1⟩) told)
  have last : 9 < ((initial ⟨1⟩).puppets.readInit 11).window := by decide
  have window :=
    congrArg (fun maxPuppets : Int32 => (maxPuppets + 1 - 1).toInt64.toUInt64.toNat) kept
  have covered := last.trans_eq window.symm
  have missing (puppets : List (Option Nat))
      (same : puppets = (List.range (min 11 9)).map some) : some 9 ∉ puppets := by
    rw [same]
    decide
  have absent := missing _ mPtrs
  exact ⟨_, (Run.nil.snoc trivial told).snoc trivial rfl, covered, absent,
    fun every => absent (every.covered 9 covered)⟩

end Scene

end SmoOnline.Mod
