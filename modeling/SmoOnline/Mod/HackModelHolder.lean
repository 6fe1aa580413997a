import Mathlib.Data.List.ReduceOption
import SmoOnline.Library.Layout
import SmoOnline.Library.Runs
import SmoOnline.Library.Span

/-! The captures that a puppet has models for. They lie in an array of entries of 32 octets, a
pointer and a name each, and a name may end in the entry behind its own; a removed entry keeps its
place. What the holder is for is a finite map from names to actors with one of them current.
-/

namespace SmoOnline.Mod

open Runs Span Layout

-----------------------------------------------------------------------------------------
-- Names and actors
-----------------------------------------------------------------------------------------

/-- A pointer to a `PuppetHackActor`, by its octets from the lowest on; captures are only added for
actors there are.
-/
structure ActorPtr where
  octets : Bytes
  size : octets.length = 8
  nonnull : octets ≠ List.replicate 8 0
  deriving DecidableEq

/-- `nullptr` -/
def nullPtr : Bytes := List.replicate 8 0

/-- The name of a capture, which is no longer than any in the table of captures. -/
structure CaptureName where
  octets : Bytes
  nonempty : octets ≠ []
  text : 0 ∉ octets
  short : octets.length ≤ 24
  deriving DecidableEq

/-- A text that is asked for, be it the name of a capture or not. -/
structure CaptureText where
  octets : Bytes
  text : 0 ∉ octets
  deriving DecidableEq

-----------------------------------------------------------------------------------------
-- The holder
-----------------------------------------------------------------------------------------

/-- `class HackModelHolder`: the octets from `mOnlineCaptures` on, and the entry that `mCurCapture`
points to. Whether anything was written behind the array is noted.
-/
structure HackModelHolder where
  memory : Memory UInt8
  mCaptureCount : Nat := 0
  mCurCapture : Option Nat := none
  wroteBehind : Bool := false

/-- `ACNT(mOnlineCaptures)` -/
def captureCapacity : Nat := 128

/-- The address of `mOnlineCaptures[index].actor`. -/
def actorAt (index : Nat) : Nat := 32 * index

/-- The address of `mOnlineCaptures[index].className`. -/
def nameAt (index : Nat) : Nat := 32 * index + 8

/-- What `strcpy` writes. -/
def terminated (name : Bytes) : Bytes := name ++ [0]

namespace HackModelHolder

/-- `new HackModelHolder()`, whose members are zero. What is behind them is anything. -/
def initial (behind : Memory UInt8) : HackModelHolder where
  memory address := if address < 32 * captureCapacity then 0 else behind address

variable (holder : HackModelHolder)

/-- `al::isEqualString` of the name of an entry and a text without a zero in it. -/
def isEqualString (index : Nat) (hackName : Bytes) : Bool :=
  Stands holder.memory (nameAt index) (terminated hackName)

/-- The loops over the entries for a name. -/
def findEntry (hackName : Bytes) : Option Nat :=
  (List.range holder.mCaptureCount).find? fun index => holder.isEqualString index hackName

/-- `mOnlineCaptures[index].actor` -/
def actor (index : Nat) : Bytes := load holder.memory (actorAt index) 8

/-- `getCapture(const char *hackName)` -/
def getCapture (hackName : Bytes) : Bytes := (holder.findEntry hackName).elim nullPtr holder.actor

/-- `addCapture` -/
def addCapture (capture : ActorPtr) (hackName : CaptureName) : HackModelHolder × Bool :=
  if holder.mCaptureCount < captureCapacity then
    ({ holder with
        memory :=
          store (store holder.memory (actorAt holder.mCaptureCount) capture.octets)
            (nameAt holder.mCaptureCount) (terminated hackName.octets)
        mCaptureCount := holder.mCaptureCount + 1
        wroteBehind :=
          holder.wroteBehind
            || 32 * captureCapacity
              < nameAt holder.mCaptureCount + (terminated hackName.octets).length },
      true)
  else (holder, false)

/-- An entry without actor and name. -/
def blank (memory : Memory UInt8) (index : Nat) : Memory UInt8 :=
  store (store memory (actorAt index) nullPtr) (nameAt index) (terminated [])

/-- `removeCapture` -/
def removeCapture (hackName : Bytes) : HackModelHolder × Bool :=
  match holder.findEntry hackName with
  | some index => ({ holder with memory := blank holder.memory index }, true)
  | none => (holder, false)

/-- `resetList`, which leaves `mCurCapture`. -/
def resetList : HackModelHolder :=
  { holder with
    memory := (List.range holder.mCaptureCount).foldl blank holder.memory
    mCaptureCount := 0 }

/-- `setCurrent` -/
def setCurrent (hackName : Bytes) : HackModelHolder × Bool :=
  match holder.findEntry hackName with
  | some index => ({ holder with mCurCapture := some index }, true)
  | none => ({ holder with mCurCapture := none }, false)

/-- `getCurrentActor` -/
def getCurrentActor : Bytes := holder.mCurCapture.elim nullPtr holder.actor

/-- `getCapture(int index)`, if it reads an entry of the array at all. -/
def getCaptureAt (index : Int) : Option Bytes :=
  if index ≤ holder.mCaptureCount then
    if 0 ≤ index ∧ index < captureCapacity then some (holder.actor index.toNat) else none
  else some nullPtr

/-- `"Unknown"` -/
def unknownClass : Bytes := [0x55, 0x6e, 0x6b, 0x6e, 0x6f, 0x77, 0x6e]

/-- The text that `getCaptureClass` returns is this one, without a zero in it. -/
def CaptureClassIs (index : Int) (text : Bytes) : Prop :=
  if index ≤ holder.mCaptureCount then
    0 ≤ index ∧ index < captureCapacity ∧ holder.isEqualString index.toNat text
  else text = unknownClass

end HackModelHolder

-----------------------------------------------------------------------------------------
-- What it is for
-----------------------------------------------------------------------------------------

/-- A capture that is live: its name and its actor. -/
structure Capture where
  name : CaptureName
  actor : ActorPtr
  deriving DecidableEq

/-- The finite map: the live captures, and the one of the last successful `setCurrent` while it is
live.
-/
structure Captures where
  live : List Capture := []
  current : Option Capture := none

namespace Captures

variable (captures : Captures)

def find (hackName : Bytes) : Option Capture :=
  captures.live.find? fun capture => capture.name.octets = hackName

/-- The actor of a name, or null. -/
def lookup (hackName : Bytes) : Bytes :=
  (captures.find hackName).elim nullPtr fun capture => capture.actor.octets

def add (actor : ActorPtr) (name : CaptureName) : Captures :=
  if captures.live.length < captureCapacity then
    { captures with live := captures.live ++ [⟨name, actor⟩] }
  else captures

def remove (hackName : Bytes) : Captures where
  live := captures.live.filter fun capture => capture.name.octets ≠ hackName
  current := captures.current.filter fun capture => capture.name.octets ≠ hackName

/-- A `setCurrent` that does not succeed is not the last successful one. -/
def setCurrent (hackName : Bytes) (successful : Bool) : Captures :=
  { captures with
    current := if successful then captures.find hackName else captures.current }

def currentActor : Bytes :=
  captures.current.elim nullPtr fun capture => capture.actor.octets

end Captures

-----------------------------------------------------------------------------------------
-- One step of both
-----------------------------------------------------------------------------------------

/-- The holder, and the map it is to be. -/
structure Tracked where
  holder : HackModelHolder
  captures : Captures := {}

namespace Tracked

inductive Event
  | addCapture (capture : ActorPtr) (hackName : CaptureName)
  | removeCapture (hackName : CaptureText)
  | resetList
  | setCurrent (hackName : CaptureText)

def initial (behind : Memory UInt8) : Tracked where
  holder := .initial behind

/-- A name is added only while it is not present. -/
def step (tracked : Tracked) : Event → Option Tracked
  | .addCapture capture hackName =>
      if tracked.captures.find hackName.octets = none then
        some
          { holder := (tracked.holder.addCapture capture hackName).1
            captures := tracked.captures.add capture hackName }
      else none
  | .removeCapture hackName =>
      some
        { holder := (tracked.holder.removeCapture hackName.octets).1
          captures := tracked.captures.remove hackName.octets }
  | .resetList => some { holder := tracked.holder.resetList }
  | .setCurrent hackName =>
      some
        { holder := (tracked.holder.setCurrent hackName.octets).1
          captures :=
            tracked.captures.setCurrent hackName.octets
              (tracked.holder.setCurrent hackName.octets).2 }

variable (tracked : Tracked)

/-- The holder is the map: in what is looked up, in whether there is room, in what is current, and
without writing behind its entries.
-/
structure IsMap : Prop where
  lookups
    : ∀ hackName : Bytes,
        0 ∉ hackName → tracked.holder.getCapture hackName = tracked.captures.lookup hackName
  room
    : tracked.captures.live.length < captureCapacity
      → ∀ capture hackName, (tracked.holder.addCapture capture hackName).2 = true
  current : tracked.holder.getCurrentActor = tracked.captures.currentActor
  inside : tracked.holder.wroteBehind = false

/-- The indices below the number of live captures give a live one, and the others none. -/
def IsIndexed : Prop :=
  ∀ index : Int,
    if 0 ≤ index ∧ index < tracked.captures.live.length then
      ∃ capture ∈ tracked.captures.live,
        tracked.holder.getCaptureAt index = some capture.actor.octets
        ∧ tracked.holder.CaptureClassIs index capture.name.octets
    else
      tracked.holder.getCaptureAt index = some nullPtr
      ∧ tracked.holder.CaptureClassIs index HackModelHolder.unknownClass

/-- What keeps the holder a map: a pointer does not overwrite the end of the name before it, the
last place is taken by a name with room when no earlier one was given up, a capture does not come to
where the current one was, nothing is removed when all places are taken, and nothing is asked for in
vain while there is a current capture. Entries that were given up answer to no name.
-/
def Keeps (tracked : Tracked) : Event → Prop
  | .addCapture capture hackName =>
      tracked.holder.mCaptureCount < captureCapacity
      → (∀ earlier ∈ tracked.captures.live,
          earlier.name.octets.length = 24
          → tracked.holder.findEntry earlier.name.octets = some (tracked.holder.mCaptureCount - 1)
          → capture.octets[0]? = some 0)
        ∧ (tracked.holder.mCaptureCount + 1 = captureCapacity
            → tracked.captures.live.length = tracked.holder.mCaptureCount
              ∧ hackName.octets.length < 24)
        ∧ tracked.holder.mCurCapture ≠ some tracked.holder.mCaptureCount
  | .removeCapture hackName =>
      tracked.holder.mCaptureCount = captureCapacity
      → tracked.captures.find hackName.octets = none
  | .resetList => True
  | .setCurrent hackName =>
      tracked.captures.current = none
      ∨ (tracked.captures.find hackName.octets).isSome
      ∨ (hackName.octets = [] ∧ tracked.captures.live.length < tracked.holder.mCaptureCount)

end Tracked

-----------------------------------------------------------------------------------------
-- Entries
-----------------------------------------------------------------------------------------

/-- What stands in an entry: a capture, or no actor and an empty name. -/
def EntryIs (memory : Memory UInt8) (index : Nat) : Option Capture → Prop
  | some capture =>
      Stands memory (actorAt index) capture.actor.octets
      ∧ Stands memory (nameAt index) (terminated capture.name.octets)
  | none => Stands memory (actorAt index) nullPtr ∧ memory (nameAt index) = 0

variable {memory : Memory UInt8} {index : Nat} {slot : Option Capture}

/-- The name of an entry is the one that stands there, and of an empty one no name. -/
theorem entryIs_isEqualString {holder : HackModelHolder} (entry : EntryIs holder.memory index slot)
    {hackName : Bytes} (text : 0 ∉ hackName)
    : holder.isEqualString index hackName = true
      ↔ slot.elim [] (fun capture => capture.name.octets) = hackName := by
  rw [HackModelHolder.isEqualString, decide_eq_true_iff]
  have found {other : Bytes} (there : Stands holder.memory (nameAt index) (terminated other))
      (other_text : 0 ∉ other)
      : Stands holder.memory (nameAt index) (terminated hackName) ↔ other = hackName :=
    ⟨fun stands => eq_of_stands there stands other_text text, fun same => same ▸ there⟩
  cases slot with
  | some capture => exact found entry.2 capture.name.text
  | none => exact found (stands_singleton.mpr entry.2) List.not_mem_nil

theorem entryIs_actor {holder : HackModelHolder} (entry : EntryIs holder.memory index slot)
    : holder.actor index = slot.elim nullPtr fun capture => capture.actor.octets := by
  cases slot with
  | some capture =>
      have stands := entry.1
      rwa [Stands, capture.actor.size] at stands
  | none => exact entry.1

/-- The length of the name in an entry. -/
def nameLength (slot : Option Capture) : Nat :=
  slot.elim 0 fun capture => capture.name.octets.length

theorem nameLength_le (slot : Option Capture) : nameLength slot ≤ 24 := by
  cases slot with
  | some capture => exact capture.name.short
  | none => exact Nat.zero_le _

/-- An entry is not changed by what is written before it, or behind the end of its name. -/
theorem entryIs_store_iff {offset : Nat} {octets : Bytes}
    (apart : offset + octets.length ≤ 32 * index ∨ nameAt index + nameLength slot < offset)
    : EntryIs (store memory offset octets) index slot ↔ EntryIs memory index slot := by
  cases slot with
  | some capture =>
      have size := capture.actor.size
      have length : (terminated capture.name.octets).length = capture.name.octets.length + 1 := by
        simp [terminated]
      simp only [nameLength, Option.elim_some, nameAt] at apart
      rw [EntryIs, EntryIs, stands_store_iff (by rw [actorAt, size]; omega),
        stands_store_iff (by rw [nameAt, length]; omega)]
  | none =>
      have size : nullPtr.length = 8 := rfl
      simp only [nameLength, Option.elim_none, nameAt] at apart
      rw [EntryIs, EntryIs, stands_store_iff (by rw [actorAt, size]; omega),
        store_apply_of_outside (by rw [nameAt]; omega)]

/-- The pointer that is written behind a name of 24 letters ends the name with its lowest octet. -/
theorem stands_store_pointer_iff {capture : Capture} {pointer : Bytes} (size : pointer.length = 8)
    (full : capture.name.octets.length = 24) (entry : EntryIs memory index (some capture))
    : Stands (store memory (actorAt (index + 1)) pointer) (nameAt index)
        (terminated capture.name.octets)
      ↔ pointer[0]? = some 0 := by
  have ends : nameAt index + capture.name.octets.length = actorAt (index + 1) := by
    rw [nameAt, actorAt, full]
    omega
  have letters
      : Stands (store memory (actorAt (index + 1)) pointer) (nameAt index) capture.name.octets :=
    (stands_store_iff (.inr (Nat.le_of_eq ends))).mpr (stands_append.mp entry.2).1
  have low := @store_apply _ memory (actorAt (index + 1)) pointer (actorAt (index + 1))
    ⟨Nat.le_refl _, by omega⟩
  rw [terminated, stands_append, stands_singleton, ends, and_iff_right letters,
    ← Option.some_inj, low, Nat.sub_self]

/-- A pointer that is written to another entry leaves an entry, unless it joins its name. -/
theorem entryIs_store_pointer {other : Nat} {pointer : Bytes} (size : pointer.length = 8)
    (different : other ≠ index)
    (ended : index + 1 = other → nameLength slot = 24 → pointer[0]? = some 0)
    (entry : EntryIs memory index slot)
    : EntryIs (store memory (actorAt other) pointer) index slot := by
  have length := nameLength_le slot
  by_cases joins : index + 1 = other ∧ nameLength slot = 24
  · obtain ⟨rfl, full⟩ := joins
    cases slot with
    | some earlier =>
        refine ⟨?_, (stands_store_pointer_iff size full entry).mpr (ended rfl full)⟩
        exact (stands_store_iff (.inr (by rw [actorAt, actorAt, earlier.actor.size]; omega))).mpr
          entry.1
    | none => cases full
  · refine (entryIs_store_iff ?_).mpr entry
    rw [actorAt, nameAt, size]
    omega

/-- The memory after a capture was written to a place. -/
def written (memory : Memory UInt8) (place : Nat) (capture : Capture) : Memory UInt8 :=
  store (store memory (actorAt place) capture.actor.octets) (nameAt place)
    (terminated capture.name.octets)

theorem length_terminated (name : Bytes) : (terminated name).length = name.length + 1 := by
  simp [terminated]

/-- The entry that is written to. -/
theorem entryIs_written (memory : Memory UInt8) (place : Nat) (capture : Capture)
    : EntryIs (written memory place capture) place (some capture) := by
  have size := capture.actor.size
  refine ⟨?_, stands_store_self⟩
  exact (stands_store_iff (.inr (Nat.le_of_eq (by rw [actorAt, nameAt, size])))).mpr
    stands_store_self

/-- The entries before the one that is written to, unless a pointer joins a name. -/
theorem entryIs_written_before {place : Nat} {capture : Capture} (before : index < place)
    (ended : index + 1 = place → nameLength slot = 24 → capture.actor.octets[0]? = some 0)
    (entry : EntryIs memory index slot)
    : EntryIs (written memory place capture) index slot := by
  have length := nameLength_le slot
  rw [written, entryIs_store_iff (.inr (by rw [nameAt, nameAt]; omega))]
  exact entryIs_store_pointer capture.actor.size (Nat.ne_of_gt before) ended entry

/-- A name ends with a zero at the latest in the first octet of the entry behind its own. -/
theorem store_terminated_eq_zero {place address : Nat} {name : CaptureName}
    (behind : 32 * (place + 1) ≤ address) (zero : memory address = 0)
    : store memory (nameAt place) (terminated name.octets) address = 0 := by
  have short := name.short
  by_cases inside : address < nameAt place + (terminated name.octets).length
  · have reached : nameAt place ≤ address := by
      rw [nameAt]
      omega
    have there := @store_apply _ memory (nameAt place) (terminated name.octets) address
      ⟨reached, inside⟩
    have last : address - nameAt place = name.octets.length := by
      rw [length_terminated, nameAt] at inside
      rw [nameAt]
      omega
    rw [last, terminated, List.getElem?_concat_length] at there
    exact Option.some.inj there
  · rw [store_apply_of_outside (.inr (Nat.not_lt.mp inside)), zero]

/-- The entries behind the one that is written to, where there is no capture. -/
theorem entryIs_written_behind {place : Nat} {capture : Capture} (behind : place < index)
    (entry : EntryIs memory index none)
    : EntryIs (written memory place capture) index none := by
  have size := capture.actor.size
  have first
      : EntryIs (store memory (actorAt place) capture.actor.octets) index none :=
    (entryIs_store_iff (.inl (by rw [actorAt, size]; omega))).mpr entry
  constructor
  · rw [stands_iff]
    intro offset octet at_offset
    have zero := stands_iff.mp first.1 offset octet at_offset
    have null : octet = 0 := List.eq_of_mem_replicate (List.mem_of_getElem? at_offset)
    rw [null] at zero ⊢
    exact store_terminated_eq_zero (by rw [actorAt]; omega) zero
  · exact store_terminated_eq_zero (by rw [nameAt]; omega) first.2

/-- An entry that is blanked, and the others. -/
theorem entryIs_blank (other : Nat) (entry : EntryIs memory index slot)
    : EntryIs (HackModelHolder.blank memory other) index
        (if other = index then none else slot) := by
  have size : nullPtr.length = 8 := rfl
  have one : (terminated []).length = 1 := rfl
  split_ifs with same
  · subst same
    refine ⟨?_, stands_singleton.mp stands_store_self⟩
    exact (stands_store_iff (.inr (Nat.le_of_eq (by rw [actorAt, nameAt, size])))).mpr
      stands_store_self
  · have length := nameLength_le slot
    rw [HackModelHolder.blank, entryIs_store_iff (by rw [nameAt, nameAt, one]; omega)]
    exact entryIs_store_pointer size same (fun _ _ => rfl) entry

-----------------------------------------------------------------------------------------
-- The places of the captures
-----------------------------------------------------------------------------------------

/-- The capture in a place. -/
def slotAt (slots : List (Option Capture)) (index : Nat) : Option Capture := (slots[index]?).join

theorem slotAt_eq_some_iff {slots : List (Option Capture)} {capture : Capture}
    : slotAt slots index = some capture ↔ slots[index]? = some (some capture) := by
  rw [slotAt, Option.join_eq_some_iff]

theorem lt_of_slotAt {slots : List (Option Capture)} {capture : Capture}
    (there : slotAt slots index = some capture)
    : index < slots.length :=
  (List.getElem?_eq_some_iff.mp (slotAt_eq_some_iff.mp there)).1

theorem slotAt_of_length_le {slots : List (Option Capture)} (behind : slots.length ≤ index)
    : slotAt slots index = none := by
  rw [slotAt, List.getElem?_eq_none behind]
  rfl

theorem mem_reduceOption_iff {slots : List (Option Capture)} {capture : Capture}
    : capture ∈ slots.reduceOption ↔ ∃ index, slotAt slots index = some capture := by
  rw [List.reduceOption_mem_iff, List.mem_iff_getElem?]
  simp only [slotAt_eq_some_iff]

theorem slotAt_append (slots : List (Option Capture)) (capture : Capture) (index : Nat)
    : slotAt (slots ++ [some capture]) index
      = if index = slots.length then some capture else slotAt slots index := by
  split_ifs with last
  · rw [last, slotAt, List.getElem?_concat_length]
    rfl
  · rcases Nat.lt_or_ge index slots.length with inside | outside
    · rw [slotAt, slotAt, List.getElem?_append_left inside]
    · rw [slotAt_of_length_le outside, slotAt_of_length_le]
      rw [List.length_append, List.length_singleton]
      omega

theorem slotAt_set (slots : List (Option Capture)) (place index : Nat)
    : slotAt (slots.set place none) index
      = if place = index then none else slotAt slots index := by
  rw [slotAt, List.getElem?_set]
  split_ifs with same inside
  · rfl
  · rfl
  · rfl

namespace Tracked

/-- The places that have been taken since the last reset, each with its capture if it is live, and
how they stand in memory.
-/
structure Placed (tracked : Tracked) (slots : List (Option Capture)) : Prop where
  count : slots.length = tracked.holder.mCaptureCount
  count_le : slots.length ≤ captureCapacity
  entries : ∀ index < captureCapacity, EntryIs tracked.holder.memory index (slotAt slots index)
  live : tracked.captures.live = slots.reduceOption
  distinct
    : ∀ {first second capture other},
        slotAt slots first = some capture
        → slotAt slots second = some other
        → capture.name.octets = other.name.octets
        → first = second
  full : slots.length = captureCapacity → tracked.captures.live.length = captureCapacity
  current : tracked.captures.current = tracked.holder.mCurCapture.bind (slotAt slots)
  current_lt : ∀ index, tracked.holder.mCurCapture = some index → index < captureCapacity
  inside : tracked.holder.wroteBehind = false

variable {tracked : Tracked} {slots : List (Option Capture)} {hackName : Bytes}

theorem Placed.actor (placed : tracked.Placed slots) {index : Nat}
    (inside : index < captureCapacity)
    : tracked.holder.actor index
      = (slotAt slots index).elim nullPtr fun capture => capture.actor.octets :=
  entryIs_actor (placed.entries index inside)

/-- There are no more live captures than places. -/
theorem Placed.live_le (placed : tracked.Placed slots)
    : tracked.captures.live.length ≤ slots.length := by
  rw [placed.live]
  exact slots.reduceOption_length_le

/-- A live capture is the one that is found by its name. -/
theorem Placed.find_eq_some_iff (placed : tracked.Placed slots) {capture : Capture}
    : tracked.captures.find hackName = some capture
      ↔ capture.name.octets = hackName ∧ ∃ index, slotAt slots index = some capture := by
  have live (other : Capture)
      : other ∈ tracked.captures.live ↔ ∃ index, slotAt slots index = some other := by
    rw [placed.live, mem_reduceOption_iff]
  constructor
  · intro found
    have same := List.find?_some found
    exact ⟨of_decide_eq_true same, (live capture).mp (List.mem_of_find?_eq_some found)⟩
  · rintro ⟨rfl, index, there⟩
    cases found : tracked.captures.find capture.name.octets with
    | none =>
        have absent := List.find?_eq_none.mp found capture ((live capture).mpr ⟨index, there⟩)
        simp at absent
    | some other =>
        have same := List.find?_some found
        obtain ⟨place, other_there⟩ := (live other).mp (List.mem_of_find?_eq_some found)
        obtain rfl := placed.distinct other_there there (of_decide_eq_true same)
        exact other_there.symm.trans there

/-- A name that is not present is that of no place. -/
theorem Placed.ne_of_absent (placed : tracked.Placed slots)
    (absent : tracked.captures.find hackName = none) {index : Nat} {capture : Capture}
    (there : slotAt slots index = some capture)
    : capture.name.octets ≠ hackName := by
  intro same
  rw [placed.find_eq_some_iff.mpr ⟨same, index, there⟩] at absent
  cases absent

/-- The entry that is found by a name is that of the capture, or an empty one for no name. -/
theorem Placed.findEntry_eq_some (placed : tracked.Placed slots) (text : 0 ∉ hackName) {index : Nat}
    (found : tracked.holder.findEntry hackName = some index)
    : index < slots.length
      ∧ (slotAt slots index).elim [] (fun capture => capture.name.octets) = hackName := by
  have inside := List.mem_range.mp (List.mem_of_find?_eq_some found)
  have equal := List.find?_some found
  rw [← placed.count] at inside
  have entry := placed.entries index (Nat.lt_of_lt_of_le inside placed.count_le)
  exact ⟨inside, (entryIs_isEqualString entry text).mp equal⟩

theorem Placed.findEntry_eq_none (placed : tracked.Placed slots) (text : 0 ∉ hackName)
    (missing : tracked.holder.findEntry hackName = none)
    : tracked.captures.find hackName = none := by
  rw [Option.eq_none_iff_forall_ne_some]
  intro capture found
  obtain ⟨same, index, there⟩ := placed.find_eq_some_iff.mp found
  have inside := lt_of_slotAt there
  have differs := List.find?_eq_none.mp missing index
    (List.mem_range.mpr (placed.count ▸ inside))
  have entry := placed.entries index (Nat.lt_of_lt_of_le inside placed.count_le)
  apply differs
  rw [entryIs_isEqualString entry text, there]
  exact same

/-- Looking an entry up and looking into the map come to the same capture. -/
theorem Placed.find_eq (placed : tracked.Placed slots) (text : 0 ∉ hackName)
    : tracked.captures.find hackName
      = (tracked.holder.findEntry hackName).bind (slotAt slots) := by
  cases found : tracked.holder.findEntry hackName with
  | none => exact placed.findEntry_eq_none text found
  | some index =>
      obtain ⟨-, same⟩ := placed.findEntry_eq_some text found
      rw [Option.bind_some]
      cases there : slotAt slots index with
      | some capture =>
          rw [there] at same
          exact placed.find_eq_some_iff.mpr ⟨same, index, there⟩
      | none =>
          rw [there] at same
          rw [Option.eq_none_iff_forall_ne_some]
          intro capture other
          have nameless := (placed.find_eq_some_iff.mp other).1
          exact capture.name.nonempty (nameless.trans same.symm)

/-- Captures that stand in their places make the holder a map. -/
theorem Placed.isMap (placed : tracked.Placed slots) : tracked.IsMap where
  lookups hackName text := by
    rw [HackModelHolder.getCapture, Captures.lookup, placed.find_eq text]
    cases found : tracked.holder.findEntry hackName with
    | none => rfl
    | some index =>
        have inside := (placed.findEntry_eq_some text found).1
        exact placed.actor (Nat.lt_of_lt_of_le inside placed.count_le)
  room free capture hackName := by
    have count : tracked.holder.mCaptureCount < captureCapacity := by
      have full := placed.full
      have count := placed.count
      have count_le := placed.count_le
      omega
    rw [HackModelHolder.addCapture, if_pos count]
  current := by
    rw [HackModelHolder.getCurrentActor, Captures.currentActor, placed.current]
    cases current : tracked.holder.mCurCapture with
    | none => rfl
    | some index => exact placed.actor (placed.current_lt index current)
  inside := placed.inside

-----------------------------------------------------------------------------------------
-- Adding
-----------------------------------------------------------------------------------------

section Adding

variable {capture : ActorPtr} {added : CaptureName}

/-- What `addCapture` makes of both. -/
def add (tracked : Tracked) (capture : ActorPtr) (added : CaptureName) : Tracked where
  holder := (tracked.holder.addCapture capture added).1
  captures := tracked.captures.add capture added

theorem add_of_full (placed : tracked.Placed slots)
    (full : ¬tracked.holder.mCaptureCount < captureCapacity)
    : tracked.add capture added = tracked := by
  have count := placed.count
  have count_le := placed.count_le
  have live := placed.full (by omega)
  simp [add, HackModelHolder.addCapture, full, Captures.add, live]

theorem add_of_free (placed : tracked.Placed slots)
    (free : tracked.holder.mCaptureCount < captureCapacity)
    : tracked.add capture added
      = { holder :=
            { tracked.holder with
              memory := written tracked.holder.memory slots.length ⟨added, capture⟩
              mCaptureCount := slots.length + 1
              wroteBehind :=
                32 * captureCapacity < nameAt slots.length + (terminated added.octets).length }
          captures :=
            { tracked.captures with live := tracked.captures.live ++ [⟨added, capture⟩] } } := by
  have live : tracked.captures.live.length < captureCapacity := by
    have live_le := placed.live_le
    have count := placed.count
    omega
  rw [← placed.count] at free
  simp [add, HackModelHolder.addCapture, free, Captures.add, live, placed.inside, written,
    ← placed.count]

/-- The entries after a capture was added, all but the one before it unless it stays a name. -/
theorem entryIs_add (placed : tracked.Placed slots) {index : Nat} (inside : index < captureCapacity)
    (ended
      : index + 1 = slots.length
        → nameLength (slotAt slots index) = 24
        → capture.octets[0]? = some 0)
    : EntryIs (written tracked.holder.memory slots.length ⟨added, capture⟩) index
        (slotAt (slots ++ [some ⟨added, capture⟩]) index) := by
  rw [slotAt_append]
  have entry := placed.entries index inside
  rcases Nat.lt_trichotomy index slots.length with before | rfl | behind
  · rw [if_neg (Nat.ne_of_lt before)]
    exact entryIs_written_before before ended entry
  · rw [if_pos rfl]
    exact entryIs_written _ _ _
  · rw [if_neg (Nat.ne_of_gt behind)]
    rw [slotAt_of_length_le (Nat.le_of_lt behind)] at entry ⊢
    exact entryIs_written_behind behind entry

/-- A live capture is found in its place. -/
theorem Placed.findEntry_of_slotAt (placed : tracked.Placed slots) {index : Nat} {earlier : Capture}
    (there : slotAt slots index = some earlier)
    : tracked.holder.findEntry earlier.name.octets = some index := by
  have found := placed.find_eq earlier.name.text
  rw [placed.find_eq_some_iff.mpr ⟨rfl, index, there⟩] at found
  obtain ⟨place, entry, same⟩ := Option.bind_eq_some_iff.mp found.symm
  rw [entry, placed.distinct same there rfl]

/-- The place of the name that a pointer might join is that of the last entry. -/
theorem joins_iff (placed : tracked.Placed slots) {Ended : Prop}
    : (∀ earlier ∈ tracked.captures.live,
        earlier.name.octets.length = 24
        → tracked.holder.findEntry earlier.name.octets = some (tracked.holder.mCaptureCount - 1)
        → Ended)
      ↔ ∀ index, index + 1 = slots.length → nameLength (slotAt slots index) = 24 → Ended := by
  rw [← placed.count, placed.live]
  constructor
  · intro each index last long
    cases there : slotAt slots index with
    | none =>
        rw [there] at long
        cases long
    | some earlier =>
        rw [there] at long
        refine each earlier (mem_reduceOption_iff.mpr ⟨index, there⟩) long ?_
        rw [placed.findEntry_of_slotAt there, ← last, Nat.add_sub_cancel]
  · intro each earlier member long found
    obtain ⟨index, there⟩ := mem_reduceOption_iff.mp member
    have inside := lt_of_slotAt there
    rw [placed.findEntry_of_slotAt there, Option.some_inj] at found
    exact each index (by omega) (by rwa [there])

/-- The condition for adding, in terms of the places. -/
theorem keeps_addCapture_iff (placed : tracked.Placed slots)
    (free : tracked.holder.mCaptureCount < captureCapacity)
    : tracked.Keeps (.addCapture capture added)
      ↔ (∀ index,
          index + 1 = slots.length
          → nameLength (slotAt slots index) = 24
          → capture.octets[0]? = some 0)
        ∧ (slots.length + 1 = captureCapacity
            → tracked.captures.live.length = slots.length ∧ added.octets.length < 24)
        ∧ tracked.holder.mCurCapture ≠ some slots.length := by
  rw [← joins_iff placed, Keeps, placed.count]
  exact ⟨fun keeps => keeps free, fun keeps _ => keeps⟩

/-- A name that is added is that of no other place. -/
theorem distinct_add (placed : tracked.Placed slots)
    (absent : tracked.captures.find added.octets = none) {first second : Nat}
    {one other : Capture}
    (one_there : slotAt (slots ++ [some ⟨added, capture⟩]) first = some one)
    (other_there : slotAt (slots ++ [some ⟨added, capture⟩]) second = some other)
    (same : one.name.octets = other.name.octets)
    : first = second := by
  rw [slotAt_append] at one_there other_there
  split_ifs at one_there other_there with first_last second_last second_last
  · rw [first_last, second_last]
  · cases one_there
    exact absurd same.symm (placed.ne_of_absent absent other_there)
  · cases other_there
    exact absurd same (placed.ne_of_absent absent one_there)
  · exact placed.distinct one_there other_there same

/-- Where the condition holds, a capture that is added gets the next place. -/
theorem placed_add (placed : tracked.Placed slots)
    (absent : tracked.captures.find added.octets = none)
    (free : tracked.holder.mCaptureCount < captureCapacity)
    (keeps : tracked.Keeps (.addCapture capture added))
    : (tracked.add capture added).Placed (slots ++ [some ⟨added, capture⟩]) := by
  obtain ⟨ended, last, current⟩ := (keeps_addCapture_iff placed free).mp keeps
  have slots_lt : slots.length < captureCapacity := placed.count ▸ free
  rw [add_of_free placed free]
  constructor
  · rw [List.length_append, List.length_singleton]
  · rw [List.length_append, List.length_singleton]
    exact slots_lt
  · exact fun index inside => entryIs_add placed inside (ended index)
  · rw [placed.live, List.reduceOption_append]
    rfl
  · exact distinct_add placed absent
  · intro full
    rw [List.length_append, List.length_singleton] at full ⊢
    rw [(last full).1, full]
  · rw [placed.current]
    cases points : tracked.holder.mCurCapture with
    | none => rfl
    | some index =>
        have other : index ≠ slots.length := fun same => current (same ▸ points)
        rw [Option.bind_some, Option.bind_some, slotAt_append, if_neg other]
  · exact placed.current_lt
  · have short := added.short
    have last_short : slots.length + 1 = captureCapacity → added.octets.length < 24 :=
      fun full => (last full).2
    rw [decide_eq_false_iff_not, length_terminated, nameAt]
    rw [captureCapacity] at slots_lt last_short ⊢
    omega

/-- A name that a pointer joins is no longer found. -/
theorem findEntry_joined (placed : tracked.Placed slots)
    (absent : tracked.captures.find added.octets = none)
    (free : tracked.holder.mCaptureCount < captureCapacity) {index : Nat} {earlier : Capture}
    (there : slotAt slots index = some earlier) (last : index + 1 = slots.length)
    (long : earlier.name.octets.length = 24) (joined : capture.octets[0]? ≠ some 0)
    : (tracked.add capture added).holder.findEntry earlier.name.octets = none := by
  have slots_lt : slots.length < captureCapacity := placed.count ▸ free
  rw [add_of_free placed free]
  apply List.find?_eq_none.mpr
  intro other member equal
  have other_lt : other < slots.length + 1 := List.mem_range.mp member
  by_cases same : other = index
  · subst same
    rw [HackModelHolder.isEqualString, decide_eq_true_iff] at equal
    dsimp only at equal
    have apart : nameAt other + (terminated earlier.name.octets).length ≤ nameAt slots.length := by
      rw [nameAt, nameAt, length_terminated, long]
      omega
    rw [written, stands_store_iff (.inr apart), ← last] at equal
    exact joined
      ((stands_store_pointer_iff capture.size long
        (there ▸ placed.entries other (by omega))).mp equal)
  · have entry := @entryIs_add _ _ capture added placed other (by omega) (by omega)
    have name := (entryIs_isEqualString entry earlier.name.text).mp equal
    rw [slotAt_append] at name
    split_ifs at name with new
    · exact placed.ne_of_absent absent there name.symm
    · cases other_there : slotAt slots other with
      | none =>
          rw [other_there] at name
          exact earlier.name.nonempty name.symm
      | some capture =>
          rw [other_there] at name
          exact same (placed.distinct other_there there name)

/-- The map goes on to have what it had. -/
theorem find_add (tracked : Tracked) {earlier : Capture}
    (found : tracked.captures.find hackName = some earlier)
    : (tracked.captures.add capture added).find hackName = some earlier := by
  unfold Captures.add
  split_ifs
  · rw [Captures.find, List.find?_append, ← Captures.find, found, Option.some_or]
  · exact found

/-- Where the holder stays a map, the condition for adding held. -/
theorem keeps_of_isMap_add (placed : tracked.Placed slots)
    (absent : tracked.captures.find added.octets = none)
    (free : tracked.holder.mCaptureCount < captureCapacity)
    (isMap : (tracked.add capture added).IsMap)
    : tracked.Keeps (.addCapture capture added) := by
  have slots_lt : slots.length < captureCapacity := placed.count ▸ free
  have live_le := placed.live_le
  refine (keeps_addCapture_iff placed free).mpr ⟨?_, fun last => ⟨?_, ?_⟩, ?_⟩
  · intro index last long
    by_contra joined
    cases there : slotAt slots index with
    | none =>
        rw [there] at long
        cases long
    | some earlier =>
        rw [there] at long
        have lookup := isMap.lookups earlier.name.octets earlier.name.text
        have found := @find_add _ capture added tracked _
          (placed.find_eq_some_iff.mpr ⟨rfl, index, there⟩)
        rw [HackModelHolder.getCapture,
          findEntry_joined placed absent free there last long joined] at lookup
        rw [Captures.lookup, add, found] at lookup
        exact earlier.actor.nonnull lookup.symm
  · by_contra fewer
    have room := isMap.room
    rw [add_of_free placed free] at room
    have added_room := room (by
      rw [List.length_append, List.length_singleton]
      omega) capture added
    rw [HackModelHolder.addCapture, if_neg (by dsimp only; omega)] at added_room
    cases added_room
  · have inside := isMap.inside
    rw [add_of_free placed free, decide_eq_false_iff_not, length_terminated, nameAt] at inside
    rw [captureCapacity] at last inside
    omega
  · intro points
    have current := isMap.current
    rw [add_of_free placed free] at current
    rw [HackModelHolder.getCurrentActor, Captures.currentActor, points, placed.current, points,
      Option.bind_some, slotAt_of_length_le (Nat.le_refl _)] at current
    have there := @entryIs_actor slots.length (some ⟨added, capture⟩)
      { tracked.holder with memory := written tracked.holder.memory slots.length ⟨added, capture⟩ }
      (entryIs_written _ _ _)
    exact capture.nonnull (there.symm.trans current)

end Adding

-----------------------------------------------------------------------------------------
-- Removing
-----------------------------------------------------------------------------------------

/-- A place that is given up is no more among the captures, and the others are, by induction on the
places.
-/
theorem reduceOption_set {slots : List (Option Capture)} {place : Nat} (keep : Capture → Bool)
    (only
      : ∀ index capture,
          slotAt slots index = some capture → (keep capture = true ↔ index ≠ place))
    : (slots.set place none).reduceOption = slots.reduceOption.filter keep := by
  induction slots generalizing place with
  | nil => rfl
  | cons slot rest ih =>
      have later (index : Nat) (capture : Capture) (there : slotAt rest index = some capture)
          : keep capture = true ↔ index + 1 ≠ place :=
        only (index + 1) capture there
      cases place with
      | zero =>
          have all : rest.reduceOption.filter keep = rest.reduceOption := by
            refine List.filter_eq_self.mpr fun capture member => ?_
            obtain ⟨index, there⟩ := mem_reduceOption_iff.mp member
            exact (later index capture there).mpr (Nat.succ_ne_zero index)
          cases slot with
          | none => exact all.symm
          | some capture =>
              have dropped := mt (only 0 capture rfl).mp (not_not.mpr rfl)
              rw [List.set_cons_zero, List.reduceOption_cons_of_none,
                List.reduceOption_cons_of_some, List.filter_cons_of_neg dropped, all]
      | succ place =>
          have shifted := @ih place fun index capture there => by
            rw [later index capture there, ne_eq, Nat.add_right_cancel_iff]
          rw [List.set_cons_succ]
          cases slot with
          | none => exact shifted
          | some capture =>
              have kept := (only 0 capture rfl).mpr (Nat.succ_ne_zero place).symm
              rw [List.reduceOption_cons_of_some, List.reduceOption_cons_of_some,
                List.filter_cons_of_pos kept, shifted]

section Removing

variable {removed : CaptureText} {place : Nat}

/-- What `removeCapture` makes of both. -/
def remove (tracked : Tracked) (removed : CaptureText) : Tracked where
  holder := (tracked.holder.removeCapture removed.octets).1
  captures := tracked.captures.remove removed.octets

/-- The captures that have another name are those in other places than the one that is found. -/
theorem Placed.ne_iff_of_findEntry (placed : tracked.Placed slots)
    (found : tracked.holder.findEntry removed.octets = some place) {index : Nat}
    {capture : Capture} (there : slotAt slots index = some capture)
    : capture.name.octets ≠ removed.octets ↔ index ≠ place := by
  obtain ⟨-, same⟩ := placed.findEntry_eq_some removed.text found
  rw [not_iff_not]
  cases at_place : slotAt slots place with
  | none =>
      rw [at_place] at same
      refine iff_of_false (fun empty => capture.name.nonempty (empty.trans same.symm)) ?_
      rintro rfl
      rw [there] at at_place
      cases at_place
  | some other =>
      rw [at_place] at same
      refine ⟨fun named => placed.distinct there at_place (named.trans same.symm), ?_⟩
      rintro rfl
      rw [there] at at_place
      rw [Option.some.inj at_place]
      exact same

/-- Nothing is removed from the map where the name is not present. -/
theorem Placed.remove_of_absent (placed : tracked.Placed slots)
    (absent : tracked.captures.find removed.octets = none)
    : tracked.captures.remove removed.octets = tracked.captures := by
  have live : tracked.captures.live.filter (fun capture => capture.name.octets ≠ removed.octets)
      = tracked.captures.live := by
    refine List.filter_eq_self.mpr fun capture member => ?_
    rw [placed.live] at member
    obtain ⟨index, there⟩ := mem_reduceOption_iff.mp member
    exact decide_eq_true (placed.ne_of_absent absent there)
  have current
      : tracked.captures.current.filter (fun capture => capture.name.octets ≠ removed.octets)
        = tracked.captures.current := by
    cases points : tracked.captures.current with
    | none => rfl
    | some capture =>
        rw [placed.current] at points
        obtain ⟨index, -, there⟩ := Option.bind_eq_some_iff.mp points
        exact Option.filter_some_pos (decide_eq_true (placed.ne_of_absent absent there))
  rw [Captures.remove, live, current]

/-- Nothing is removed where the name is not found. -/
theorem remove_of_missing (placed : tracked.Placed slots)
    (missing : tracked.holder.findEntry removed.octets = none)
    : tracked.remove removed = tracked := by
  rw [remove, HackModelHolder.removeCapture, missing,
    placed.remove_of_absent (placed.findEntry_eq_none removed.text missing)]

/-- Where the condition holds, what is removed gives its place up, if it has not done so before. -/
theorem placed_remove (placed : tracked.Placed slots)
    (found : tracked.holder.findEntry removed.octets = some place)
    (keeps : tracked.Keeps (.removeCapture removed))
    : (tracked.remove removed).Placed (slots.set place none) := by
  have next : tracked.remove removed
      = { holder :=
            { tracked.holder with memory := HackModelHolder.blank tracked.holder.memory place }
          captures := tracked.captures.remove removed.octets } := by
    rw [remove, HackModelHolder.removeCapture, found]
  let stays (other : Capture) : Bool := other.name.octets ≠ removed.octets
  have only (index : Nat) (other : Capture) (other_there : slotAt slots index = some other)
      : stays other = true ↔ index ≠ place := by
    rw [decide_eq_true_iff]
    exact placed.ne_iff_of_findEntry found other_there
  rw [next]
  constructor
  · rw [List.length_set]
    exact placed.count
  · rw [List.length_set]
    exact placed.count_le
  · intro index inside
    rw [slotAt_set]
    exact entryIs_blank place (placed.entries index inside)
  · rw [Captures.remove, placed.live, reduceOption_set _ only]
  · intro first second one other one_there other_there
    rw [slotAt_set] at one_there other_there
    split_ifs at one_there other_there
    exact placed.distinct one_there other_there
  · intro full
    rw [List.length_set] at full
    rw [placed.remove_of_absent (keeps (placed.count ▸ full))]
    exact placed.full full
  · rw [Captures.remove, placed.current]
    cases tracked.holder.mCurCapture with
    | none => rfl
    | some index =>
        rw [Option.bind_some, Option.bind_some, slotAt_set]
        split_ifs with given_up
        · subst given_up
          show (slotAt slots place).filter stays = none
          cases there : slotAt slots place with
          | none => rfl
          | some other =>
              refine @Option.filter_some_neg _ stays other (Bool.eq_false_iff.mpr fun stayed => ?_)
              exact (only place other there).mp stayed rfl
        · cases other_there : slotAt slots index with
          | none => rfl
          | some other =>
              exact @Option.filter_some_pos _ stays other
                ((only index other other_there).mpr (Ne.symm given_up))
  · exact placed.current_lt
  · exact placed.inside

/-- Where the holder stays a map, the condition for removing held. -/
theorem keeps_of_isMap_remove (placed : tracked.Placed slots)
    (isMap : (tracked.remove removed).IsMap)
    : tracked.Keeps (.removeCapture removed) := by
  intro all
  rw [Option.eq_none_iff_forall_ne_some]
  intro capture found
  have live_le := Nat.le_trans placed.live_le placed.count_le
  have fewer
      : (tracked.remove removed).captures.live.length < tracked.captures.live.length := by
    have member := List.mem_of_find?_eq_some found
    refine List.length_filter_lt_length_iff_exists.mpr ⟨capture, member, ?_⟩
    have same := List.find?_some found
    simpa using same
  have count : (tracked.remove removed).holder.mCaptureCount = captureCapacity := by
    rw [remove, HackModelHolder.removeCapture]
    split <;> exact all
  have added := isMap.room (Nat.lt_of_lt_of_le fewer live_le) capture.actor capture.name
  rw [HackModelHolder.addCapture, if_neg (by rw [count]; exact Nat.lt_irrefl _)] at added
  cases added

end Removing

-----------------------------------------------------------------------------------------
-- Resetting
-----------------------------------------------------------------------------------------

/-- Blanking entries one after the other, by induction on them. -/
theorem entryIs_blanks (others : List Nat) {memory : Memory UInt8} {index : Nat}
    {slot : Option Capture} (entry : EntryIs memory index slot)
    : EntryIs (others.foldl HackModelHolder.blank memory) index
        (if index ∈ others then none else slot) := by
  induction others generalizing memory slot with
  | nil => simpa using entry
  | cons other rest ih =>
      have blanked := ih (entryIs_blank other entry)
      rw [List.foldl_cons]
      by_cases same : other = index
      · simpa [same] using blanked
      · simpa [same, Ne.symm same] using blanked

theorem placed_resetList (placed : tracked.Placed slots)
    : Placed { holder := tracked.holder.resetList } [] := by
  constructor
  · rfl
  · exact Nat.zero_le _
  · intro index inside
    have blanked := entryIs_blanks (List.range tracked.holder.mCaptureCount)
      (placed.entries index inside)
    have none
        : (if index ∈ List.range tracked.holder.mCaptureCount then none else slotAt slots index)
          = none := by
      split_ifs with among
      · rfl
      · rw [slotAt_of_length_le]
        rw [placed.count]
        simpa using among
    rwa [none] at blanked
  · rfl
  · intro first second capture other there
    cases there
  · intro full
    cases full
  · show none = tracked.holder.mCurCapture.bind (slotAt [])
    cases tracked.holder.mCurCapture <;> rfl
  · exact placed.current_lt
  · exact placed.inside

-----------------------------------------------------------------------------------------
-- The current capture
-----------------------------------------------------------------------------------------

section Current

variable {wanted : CaptureText}

/-- What `setCurrent` makes of both. -/
def setCurrent (tracked : Tracked) (wanted : CaptureText) : Tracked where
  holder := (tracked.holder.setCurrent wanted.octets).1
  captures :=
    tracked.captures.setCurrent wanted.octets (tracked.holder.setCurrent wanted.octets).2

/-- An entry that was given up answers to no name. -/
theorem Placed.findEntry_nil (placed : tracked.Placed slots)
    (fewer : tracked.captures.live.length < tracked.holder.mCaptureCount)
    : tracked.holder.findEntry [] ≠ none := by
  intro missing
  rw [placed.live, ← placed.count, List.reduceOption_length_lt_iff] at fewer
  obtain ⟨place, there⟩ := List.mem_iff_getElem?.mp fewer
  have inside := (List.getElem?_eq_some_iff.mp there).1
  have entry := placed.entries place (Nat.lt_of_lt_of_le inside placed.count_le)
  refine List.find?_eq_none.mp missing place (List.mem_range.mpr (placed.count ▸ inside)) ?_
  rw [entryIs_isEqualString entry List.not_mem_nil, slotAt, there]
  rfl

theorem placed_setCurrent (placed : tracked.Placed slots)
    (keeps : tracked.Keeps (.setCurrent wanted))
    : (tracked.setCurrent wanted).Placed slots := by
  have find := placed.find_eq wanted.text
  cases found : tracked.holder.findEntry wanted.octets with
  | some index =>
      have inside := (placed.findEntry_eq_some wanted.text found).1
      rw [found, Option.bind_some] at find
      rw [setCurrent, HackModelHolder.setCurrent, found, Captures.setCurrent, if_pos rfl, find]
      refine { placed with current := rfl, current_lt := ?_ }
      rintro _ ⟨⟩
      exact Nat.lt_of_lt_of_le inside placed.count_le
  | none =>
      rw [found, Option.bind_none] at find
      have unset : tracked.captures.current = none := by
        rcases keeps with unset | live | ⟨empty, fewer⟩
        · exact unset
        · rw [find] at live
          cases live
        · exact absurd (empty ▸ found) (placed.findEntry_nil fewer)
      rw [setCurrent, HackModelHolder.setCurrent, found, Captures.setCurrent,
        if_neg Bool.false_ne_true, unset]
      exact { placed with current := rfl, current_lt := fun _ points => by cases points }

/-- Where the holder stays a map, the condition for asking held. -/
theorem keeps_of_isMap_setCurrent (placed : tracked.Placed slots)
    (isMap : (tracked.setCurrent wanted).IsMap)
    : tracked.Keeps (.setCurrent wanted) := by
  cases found : tracked.holder.findEntry wanted.octets with
  | some index =>
      obtain ⟨inside, same⟩ := placed.findEntry_eq_some wanted.text found
      have find := placed.find_eq wanted.text
      rw [found, Option.bind_some] at find
      right
      cases there : slotAt slots index with
      | some capture =>
          rw [find, there]
          exact .inl rfl
      | none =>
          rw [there] at same
          refine .inr ⟨same.symm, ?_⟩
          rw [placed.live, ← placed.count, List.reduceOption_length_lt_iff,
            List.mem_iff_getElem?]
          refine ⟨index, ?_⟩
          rw [slotAt, Option.join_eq_none_iff] at there
          exact there.resolve_left (mt List.getElem?_eq_none_iff.mp (Nat.not_le.mpr inside))
  | none =>
      have current := isMap.current
      cases points : tracked.captures.current with
      | none => exact .inl points
      | some capture =>
          rw [setCurrent, HackModelHolder.setCurrent, found, Captures.setCurrent,
            if_neg Bool.false_ne_true, points] at current
          exact absurd current.symm capture.actor.nonnull

end Current

-----------------------------------------------------------------------------------------
-- Runs
-----------------------------------------------------------------------------------------

theorem placed_initial (behind : Memory UInt8) : (initial behind).Placed [] := by
  constructor
  · rfl
  · exact Nat.zero_le _
  · intro index inside
    have zero {address : Nat} (within : address < 32 * captureCapacity)
        : (initial behind).holder.memory address = 0 :=
      if_pos within
    refine ⟨stands_iff.mpr fun offset octet there => ?_, zero (by rw [nameAt]; omega)⟩
    have short : offset < nullPtr.length := (List.getElem?_eq_some_iff.mp there).1
    rw [List.eq_of_mem_replicate (List.mem_of_getElem? there)]
    exact zero (by rw [actorAt]; simp only [nullPtr, List.length_replicate] at short; omega)
  · rfl
  · intro first second capture other there
    cases there
  · intro full
    cases full
  · rfl
  · intro index points
    cases points
  · rfl

variable {event : Event} {next : Tracked}

/-- One step: where the condition holds the captures have their places after it, and it holds where
the holder is the map after it.
-/
theorem keeps_step (placed : tracked.Placed slots) (taken : tracked.step event = some next)
    : (tracked.Keeps event → ∃ after, next.Placed after) ∧ (next.IsMap → tracked.Keeps event) := by
  cases event with
  | addCapture capture added =>
      rw [step] at taken
      split_ifs at taken with absent
      obtain rfl : tracked.add capture added = next := Option.some.inj taken
      by_cases free : tracked.holder.mCaptureCount < captureCapacity
      · exact ⟨fun keeps => ⟨_, placed_add placed absent free keeps⟩,
          keeps_of_isMap_add placed absent free⟩
      · exact ⟨fun _ => ⟨slots, (add_of_full placed free).symm ▸ placed⟩,
          fun _ held => absurd held free⟩
  | removeCapture removed =>
      obtain rfl : tracked.remove removed = next := Option.some.inj taken
      refine ⟨fun keeps => ?_, keeps_of_isMap_remove placed⟩
      cases found : tracked.holder.findEntry removed.octets with
      | none => exact ⟨slots, (remove_of_missing placed found).symm ▸ placed⟩
      | some place => exact ⟨_, placed_remove placed found keeps⟩
  | resetList =>
      obtain rfl := Option.some.inj taken
      exact ⟨fun _ => ⟨[], placed_resetList placed⟩, fun _ => trivial⟩
  | setCurrent wanted =>
      obtain rfl : tracked.setCurrent wanted = next := Option.some.inj taken
      exact ⟨fun keeps => ⟨slots, placed_setCurrent placed keeps⟩,
        keeps_of_isMap_setCurrent placed⟩

/-- The condition on a step is exactly what it takes for the holder to be the map after it. -/
theorem keeps_iff (placed : tracked.Placed slots) (taken : tracked.step event = some next)
    : tracked.Keeps event ↔ next.IsMap := by
  obtain ⟨keep, kept⟩ := keeps_step placed taken
  refine ⟨fun keeps => ?_, kept⟩
  obtain ⟨after, placed⟩ := keep keeps
  exact placed.isMap

/-- What holds of the places in every run: there are as many as captures at least, and none has a
name behind the count.
-/
structure Counted (tracked : Tracked) : Prop where
  live_le : tracked.captures.live.length ≤ tracked.holder.mCaptureCount
  count_le : tracked.holder.mCaptureCount ≤ captureCapacity
  nameless
    : ∀ index,
        tracked.holder.mCaptureCount ≤ index
        → index < captureCapacity
        → tracked.holder.memory (nameAt index) = 0

/-- Blanking an entry writes at most a zero to where a name begins. -/
theorem blank_nameAt (memory : Memory UInt8) (other index : Nat)
    : HackModelHolder.blank memory other (nameAt index)
      = if other = index then 0 else memory (nameAt index) := by
  have size : nullPtr.length = 8 := rfl
  have one : (terminated []).length = 1 := rfl
  rw [HackModelHolder.blank]
  split_ifs with same
  · rw [same]
    exact stands_singleton.mp stands_store_self
  · rw [store_apply_of_outside (by rw [nameAt, nameAt, one]; omega),
      store_apply_of_outside (by rw [nameAt, actorAt, size]; omega)]

theorem blanks_nameAt (others : List Nat) {memory : Memory UInt8} {index : Nat}
    (zero : index ∉ others → memory (nameAt index) = 0)
    : others.foldl HackModelHolder.blank memory (nameAt index) = 0 := by
  induction others generalizing memory with
  | nil => exact zero List.not_mem_nil
  | cons other rest ih =>
      refine ih fun not_later => ?_
      rw [blank_nameAt]
      split_ifs with same
      · rfl
      · exact zero (List.not_mem_cons_of_ne_of_not_mem (Ne.symm same) not_later)

/-- A capture that is added writes no name behind its own place. -/
theorem written_nameAt {memory : Memory UInt8} {place index : Nat} {capture : Capture}
    (behind : place < index)
    : written memory place capture (nameAt index) = memory (nameAt index) := by
  have short := capture.name.short
  have size := capture.actor.size
  rw [written,
    store_apply_of_outside (.inr (by rw [length_terminated, nameAt, nameAt]; omega)),
    store_apply_of_outside (.inr (by rw [size, actorAt, nameAt]; omega))]

theorem counted_step (counted : tracked.Counted) (taken : tracked.step event = some next)
    : next.Counted := by
  cases event with
  | addCapture capture added =>
      rw [step] at taken
      split_ifs at taken
      obtain rfl := Option.some.inj taken
      have live_le := counted.live_le
      have count_le := counted.count_le
      unfold HackModelHolder.addCapture Captures.add
      split_ifs with free room room
      · refine ⟨?_, free, fun index behind inside => ?_⟩
        · rw [List.length_append, List.length_singleton]
          exact Nat.succ_le_succ live_le
        · exact (@written_nameAt _ _ _ ⟨added, capture⟩ behind).trans
            (counted.nameless index (Nat.le_of_lt behind) inside)
      · omega
      · refine ⟨?_, count_le, counted.nameless⟩
        rw [List.length_append, List.length_singleton]
        dsimp only
        omega
      · exact counted
  | removeCapture removed =>
      obtain rfl := Option.some.inj taken
      have live_le
          : (tracked.captures.remove removed.octets).live.length ≤ tracked.holder.mCaptureCount :=
        Nat.le_trans (List.length_filter_le _ _) counted.live_le
      unfold HackModelHolder.removeCapture
      split
      · rename_i place found
        have inside := List.mem_range.mp (List.mem_of_find?_eq_some found)
        refine ⟨live_le, counted.count_le, fun index behind within => ?_⟩
        exact (blank_nameAt _ place index).trans (by
          rw [if_neg (Nat.ne_of_lt (Nat.lt_of_lt_of_le inside behind))]
          exact counted.nameless index behind within)
      · exact ⟨live_le, counted.count_le, counted.nameless⟩
  | resetList =>
      obtain rfl := Option.some.inj taken
      refine ⟨Nat.le_refl _, Nat.zero_le _, fun index _ within => ?_⟩
      refine blanks_nameAt _ fun outside => counted.nameless index ?_ within
      exact Nat.not_lt.mp (mt List.mem_range.mpr outside)
  | setCurrent wanted =>
      obtain rfl := Option.some.inj taken
      unfold HackModelHolder.setCurrent
      split
      · exact ⟨counted.live_le, counted.count_le, counted.nameless⟩
      · exact ⟨counted.live_le, counted.count_le, counted.nameless⟩

theorem counted_initial (behind : Memory UInt8) : (initial behind).Counted where
  live_le := Nat.le_refl _
  count_le := Nat.zero_le _
  nameless index _ inside := if_pos (by rw [nameAt]; omega)

/-- The class at the count is never `"Unknown"`. -/
theorem Counted.not_isIndexed (counted : tracked.Counted) : ¬tracked.IsIndexed := by
  intro indexed
  have live_le := counted.live_le
  have at_count := indexed tracked.holder.mCaptureCount
  rw [if_neg (by omega)] at at_count
  have unknown := at_count.2
  rw [HackModelHolder.CaptureClassIs, if_pos (Int.le_refl _)] at unknown
  obtain ⟨-, inside, equal⟩ := unknown
  have first : tracked.holder.memory (nameAt tracked.holder.mCaptureCount) = 0x55 :=
    stands_iff.mp (of_decide_eq_true equal) 0 _ rfl
  rw [counted.nameless _ (Nat.le_refl _) (by omega)] at first
  cases first

/-- The holder is the map in every state of a run if and only if each step keeps it one, and the
accessors by index are those of no map at all.
-/
theorem run_isMap_iff (behind : Memory UInt8) (events : List Event) (tracked : Tracked)
    : (Run step Keeps (initial behind) events tracked
        ↔ Run step (Into step IsMap) (initial behind) events tracked)
      ∧ (AnyRun step (initial behind) events tracked → ¬tracked.IsIndexed) := by
  constructor
  · refine Run.congr (fun tracked => ∃ slots, tracked.Placed slots)
      ⟨[], placed_initial behind⟩ ?_ ?_
    · rintro state event next ⟨slots, placed⟩ keeps taken
      exact (keeps_step placed taken).1 keeps
    · rintro state event next ⟨slots, placed⟩ taken
      rw [keeps_iff placed taken, Into, taken]
      exact ⟨fun isMap other same => Option.some.inj same ▸ isMap, fun into => into next rfl⟩
  · intro run
    exact (run.invariant (counted_initial behind) fun counted _ taken =>
      counted_step counted taken).not_isIndexed

/-- A name of 24 letters. -/
def anagramAlphabetCharacter : CaptureName where
  octets :=
    [0x41, 0x6e, 0x61, 0x67, 0x72, 0x61, 0x6d, 0x41, 0x6c, 0x70, 0x68, 0x61, 0x62, 0x65, 0x74,
      0x43, 0x68, 0x61, 0x72, 0x61, 0x63, 0x74, 0x65, 0x72]
  nonempty := by decide
  text := by decide
  short := by decide

def frog : CaptureName where
  octets := [0x46, 0x72, 0x6f, 0x67]
  nonempty := by decide
  text := by decide
  short := by decide

/-- An actor by the lowest octet of its address. -/
def actorNumbered (low : UInt8) (different : low ≠ 0) : ActorPtr where
  octets := [low, 0, 0, 0, 0, 0, 0, 0]
  size := rfl
  nonnull := by simpa [List.replicate] using different

/-- The pointer of the second capture is joined to the name of the first, which is lost. -/
theorem name_joined
    : ∃ tracked,
        AnyRun step (initial fun _ => 0)
          [.addCapture (actorNumbered 0x18 (by decide)) anagramAlphabetCharacter,
            .addCapture (actorNumbered 0x28 (by decide)) frog]
          tracked
        ∧ tracked.holder.getCapture anagramAlphabetCharacter.octets = nullPtr
        ∧ tracked.captures.lookup anagramAlphabetCharacter.octets = [0x18, 0, 0, 0, 0, 0, 0, 0] :=
  exists_run _ (by decide +kernel)

end Tracked

end SmoOnline.Mod
