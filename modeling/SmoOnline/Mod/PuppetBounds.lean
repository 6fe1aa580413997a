import SmoOnline.Mod.PuppetArray

/-! Which indices the array of entries is read at. The puppets of a scene are bounded by the
holder they are in; the number of players that a server announces bounds the rest, and nothing
bounds it.
-/

namespace SmoOnline.Mod

namespace Puppets

variable {puppets : Puppets}

/-- The window is no longer than the array, or the user has an entry. -/
def CanLookUp (puppets : Puppets) (id : Guid) : Prop :=
  (1 ≤ puppets.getMaxPlayerCount ∧ puppets.getMaxPlayerCount ≤ 33)
  ∨ ∃ info ∈ puppets.mPuppetInfoArr, info.playerID = id

/-- Where indices stay within the array: only those are looked up who can be, and the player list is
drawn for no more players than entries.
-/
def StaysInside (puppets : Puppets) : Event → Prop
  | .readPacket isHideAndSeek id packet =>
      puppets.looksUp isHideAndSeek id packet = true → puppets.CanLookUp id
  | .updateFlags red blue => ∀ id ∈ puppets.heldPlayers red blue, puppets.CanLookUp id
  | .playerList => puppets.getMaxPlayerCount ≤ 32
  | _ => True

/-- The number of players that an `Init` packet announces. -/
theorem getMaxPlayerCount_readInit (puppets : Puppets) (maxPlayers : UInt32)
    : (puppets.readInit maxPlayers).getMaxPlayerCount = maxPlayers.toInt32 := by
  rw [readInit, getMaxPlayerCount, UInt32.toInt32_sub]
  exact Int32.sub_add_cancel _ _

/-- A negative number is a large one where it is taken for unsigned. -/
theorem toNat_toUInt64 (number : Int64)
    : (number.toUInt64.toNat : Int)
      = if 0 ≤ number.toInt then number.toInt else number.toInt + 18446744073709551616 := by
  have value : number.toInt = number.toBitVec.toInt := rfl
  have same : number.toUInt64.toNat = number.toBitVec.toNat := rfl
  have bound := number.toBitVec.isLt
  rw [value, BitVec.toInt_eq_toNat_cond, same]
  split_ifs <;> omega

/-- The window is no longer than the array for 1 to 33 players; for fewer it wraps around. -/
theorem window_le_iff (puppets : Puppets)
    : puppets.window ≤ maxPupIndex
      ↔ 1 ≤ puppets.getMaxPlayerCount ∧ puppets.getMaxPlayerCount ≤ 33 := by
  have wide := toNat_toUInt64 (puppets.getMaxPlayerCount - 1).toInt64
  have low := puppets.getMaxPlayerCount.le_toInt
  have high := puppets.getMaxPlayerCount.toInt_lt
  have one : (1 : Int32).toInt = 1 := by decide
  have most : (33 : Int32).toInt = 33 := by decide
  rw [Int32.toInt_toInt64, Int32.toInt_sub, one, Int.bmod_def] at wide
  rw [Int32.le_iff_toInt_le, Int32.le_iff_toInt_le, one, most, window, maxPupIndex]
  split_ifs at wide <;> omega

/-- The indices of a search stay within the entries exactly where the window does or an entry
has the id, by induction on the entries.
-/
theorem findIndices_iff {id : Guid} {window index : Nat} {entries : List PuppetInfo}
    : (∀ found ∈ findIndices id window index entries, found < index + entries.length)
      ↔ window ≤ index + entries.length ∨ ∃ info ∈ entries, info.playerID = id := by
  induction entries generalizing index with
  | nil =>
      rw [findIndices]
      split_ifs <;> simp <;> omega
  | cons curInfo later ih =>
      have rest := @ih (index + 1)
      have size : ((index + 1 : Nat) : Int) + later.length
          = (index : Int) + (curInfo :: later).length := by
        rw [List.length_cons]
        omega
      have size' : index + 1 + later.length = index + (curInfo :: later).length := by
        rw [List.length_cons]
        omega
      rw [size, size'] at rest
      rw [findIndices]
      split_ifs with inside same
      · refine iff_of_true ?_ (.inr ⟨curInfo, List.mem_cons_self, same⟩)
        rintro found (_ | ⟨_, member⟩)
        · rw [List.length_cons]
          omega
        · cases member
      · have self : (index : Int) < (index : Int) + (curInfo :: later).length := by
          rw [List.length_cons]
          omega
        rw [List.forall_mem_cons, rest]
        simp only [self, true_and, List.mem_cons, exists_eq_or_imp, same, false_or]
      · refine iff_of_true (fun found member => by cases member) (.inl ?_)
        omega

theorem findIndices_nonneg {id : Guid} {window index : Nat} {entries : List PuppetInfo}
    : ∀ found ∈ findIndices id window index entries, 0 ≤ found := by
  induction entries generalizing index with
  | nil =>
      rw [findIndices]
      split_ifs <;> simp
  | cons curInfo later ih =>
      rw [findIndices]
      split_ifs with inside same
      · simp
      · rintro found (_ | ⟨_, member⟩)
        · exact Int.natCast_nonneg index
        · exact ih found member
      · simp

/-- A look-up stays within the array exactly for 1 to 33 players or for a user with an entry. -/
theorem lookUp_inBounds_iff (puppets : Puppets) (id : Guid)
    : (∀ index ∈ findIndices id puppets.window 0 puppets.mPuppetInfoArr, InBounds index)
      ↔ puppets.CanLookUp id := by
  have found := @findIndices_iff id puppets.window 0 puppets.mPuppetInfoArr
  rw [puppets.sized, Nat.zero_add, window_le_iff] at found
  rw [CanLookUp, ← found]
  constructor
  · intro inside index member
    have bound := (inside index member).2
    omega
  · intro inside index member
    have bound := inside index member
    exact ⟨findIndices_nonneg index member, by omega⟩

/-- So many indices from the first one on are those of entries while there are no more. -/
theorem range_inBounds_iff (count : Nat)
    : (∀ index ∈ (List.range count).map Int.ofNat, InBounds index) ↔ count ≤ maxPupIndex := by
  constructor
  · intro inside
    rcases Nat.eq_zero_or_pos count with rfl | some
    · exact Nat.zero_le _
    · have last := inside (Int.ofNat (count - 1))
        (List.mem_map_of_mem (List.mem_range.mpr (Nat.sub_one_lt_of_lt some)))
      have bound : ((count - 1 : Nat) : Int) < maxPupIndex := last.2
      omega
  · intro inside index member
    obtain ⟨place, among, rfl⟩ := List.mem_map.mp member
    have bound := List.mem_range.mp among
    exact ⟨Int.natCast_nonneg place, Int.ofNat_lt.mpr (Nat.lt_of_lt_of_le bound inside)⟩

theorem playerList_inBounds_iff (puppets : Puppets)
    : (∀ index ∈ puppets.playerListIndices, InBounds index)
      ↔ puppets.getMaxPlayerCount ≤ 32 := by
  have most : (32 : Int32).toInt = 32 := by decide
  rw [Int32.le_iff_toInt_le, most, playerListIndices]
  split_ifs with some
  · rw [range_inBounds_iff, maxPupIndex]
    omega
  · refine iff_of_true (fun index member => by cases member) ?_
    omega

/-- A scene has no more puppets than its holder has places. -/
def HolderFits (puppets : Puppets) : Prop := puppets.holderSize ≤ holderCapacity

/-- While the puppets are in their holder, the indices are those of entries exactly where the number
of players last announced, or the user's entry, keeps them inside.
-/
theorem indices_inBounds_iff (fits : puppets.HolderFits) (event : Event)
    : (∀ index ∈ puppets.indices event, InBounds index) ↔ puppets.StaysInside event := by
  have fits : puppets.holderSize ≤ maxPupIndex := Nat.le_trans fits (by decide)
  cases event with
  | readPacket isHideAndSeek id packet =>
      rw [StaysInside, ← lookUp_inBounds_iff, indices]
      split_ifs with about
      · exact ⟨fun inside _ => inside, fun inside => inside about⟩
      · exact iff_of_true (fun index member => by cases member) fun looked => absurd looked about
  | createPuppetActor =>
      refine iff_of_true ?_ trivial
      intro index member
      simp only [indices, tryAddPuppet] at member
      split_ifs at member with free
      · obtain rfl := List.mem_singleton.mp member
        have most : holderCapacity ≤ maxPupIndex := by decide
        refine ⟨?_, ?_⟩ <;> dsimp only <;> omega
      · cases member
  | checkTagged => exact iff_of_true ((range_inBounds_iff puppets.holderSize).mpr fits) trivial
  | hideAndSeekUpdate =>
      exact iff_of_true ((range_inBounds_iff puppets.holderSize).mpr fits) trivial
  | updateFlags red blue =>
      rw [StaysInside, indices]
      simp only [← lookUp_inBounds_iff, List.mem_flatMap]
      constructor
      · exact fun inside id held index member => inside index ⟨id, held, member⟩
      · rintro inside index ⟨id, held, member⟩
        exact inside id held index member
  | playerList => exact playerList_inBounds_iff puppets
  | _ => exact iff_of_true (fun index member => by cases member) trivial

end Puppets

-----------------------------------------------------------------------------------------
-- Every state
-----------------------------------------------------------------------------------------

namespace PuppetArray

open Runs
open Puppets (Event InBounds)

variable {array next : PuppetArray} {event : Event}

/-- Only the scene changes how many puppets there are, whatever packets write. -/
theorem holderFits_step (fits : array.puppets.HolderFits) (taken : array.step event = some next)
    : next.puppets.HolderFits := by
  cases event with
  | readPacket isHideAndSeek id packet =>
      rcases readPacket_cases taken with ⟨-, rfl⟩ | ⟨index, entry, -, -, -, rfl⟩
      · exact fits
      · exact fits
  | clearArrays =>
      cases taken
      exact Nat.zero_le _
  | createPuppetActor =>
      cases taken
      split_ifs with free
      · exact free
      · exact fits
  | updateFlags red blue =>
      simp only [step] at taken
      split_ifs at taken
      cases taken
      exact fits
  | playerList =>
      simp only [step] at taken
      split_ifs at taken
      cases taken
      exact fits
  | _ =>
      cases taken
      exact fits

theorem holderFits_run {mUserID : Guid} {events : List Event}
    (run : AnyRun step (initial mUserID) events array)
    : array.puppets.HolderFits := by
  refine run.invariant ?_ fun fits _ taken => holderFits_step fits taken
  exact Nat.zero_le _

/-- In every state and for everything that can happen there, the indices are those of entries
exactly where the number of players last announced, or the user's entry, keeps them inside.
-/
theorem inBounds_iff {mUserID : Guid} {events : List Event} {array : PuppetArray}
    (run : AnyRun step (initial mUserID) events array) (event : Event)
    : (∀ index ∈ array.puppets.indices event, InBounds index) ↔ array.puppets.StaysInside event :=
  Puppets.indices_inBounds_iff (holderFits_run run) event

/-- The player list for 32 players, which is what there are entries for, and a frame in which a
player without an entry holds a flag.
-/
theorem inBounds_full
    : ∃ array,
        AnyRun step (initial ⟨1⟩) [.readInit 32] array
        ∧ (∀ index ∈ array.puppets.indices .playerList, InBounds index)
        ∧ ∀ index ∈ array.puppets.indices (.updateFlags (some ⟨2⟩) none), InBounds index := by
  obtain ⟨array, run, count⟩ := @exists_initial_run ⟨1⟩ [.readInit 32]
    (fun puppets => puppets.getMaxPlayerCount = 32) inferInstance (by decide +kernel) (by decide)
  have run := run.mono fun _ => trivial
  refine ⟨array, run, (inBounds_iff run .playerList).mpr ?_,
    (inBounds_iff run (.updateFlags (some ⟨2⟩) none)).mpr ?_⟩
  · rw [Puppets.StaysInside, count]
    decide
  · intro id _
    rw [Puppets.CanLookUp, count]
    exact .inl (by decide)

/-- For 33 players the player list reads behind the array, and where none were announced the search
for a user who has no entry does, for a packet as for a frame in which the user holds a flag.
-/
theorem reads_behind_array
    : ∃ full none : PuppetArray,
        AnyRun step (initial ⟨1⟩) [.readInit 33] full
        ∧ AnyRun step (initial ⟨1⟩) [.readInit 0] none
        ∧ 32 ∈ full.puppets.indices .playerList
        ∧ 32 ∈ none.puppets.indices (.readPacket false ⟨2⟩ .playerDC)
        ∧ 32 ∈ none.puppets.indices (.updateFlags (some ⟨2⟩) .none)
        ∧ ¬InBounds 32 := by
  obtain ⟨full, fullRun, playerList⟩ := @exists_initial_run ⟨1⟩ [.readInit 33]
    (fun puppets => 32 ∈ puppets.indices .playerList) inferInstance (by decide +kernel) (by decide)
  obtain ⟨none, noneRun, packet, frame⟩ := @exists_initial_run ⟨1⟩ [.readInit 0]
    (fun puppets =>
      32 ∈ puppets.indices (.readPacket false ⟨2⟩ .playerDC)
      ∧ 32 ∈ puppets.indices (.updateFlags (some ⟨2⟩) .none))
    inferInstance (by decide +kernel) (by decide)
  exact ⟨full, none, fullRun.mono fun _ => trivial, noneRun.mono fun _ => trivial, playerList,
    packet, frame, by decide⟩

end PuppetArray

end SmoOnline.Mod
