import Mathlib.Data.List.Chain
import SmoOnline.Mod.CaptureTypes
import SmoOnline.Mod.HackModelHolder

/-! Actors for the captures of other players. As a stage places its objects, one actor for each kind
of capture is made for each puppet, unless the puppet has it: its holder is asked by name.
-/

namespace SmoOnline.Mod

open Runs Span Layout Crc32

-----------------------------------------------------------------------------------------
-- The names of captures
-----------------------------------------------------------------------------------------

/-- The classes whose captures go by another name. -/
def classHackNames : List (String × String) := [
  ("SenobiGeneratePoint", "Senobi"), ("KuriboPossessed", "Kuribo"), ("KillerLauncher", "Killer"),
  ("KillerLauncherMagnum", "KillerMagnum"), ("FireBrosPossessed", "FireBros"),
  ("HammerBrosPossessed", "HammerBros"), ("ElectricWire", "ElectricWireMover"),
  ("TRexSleep", "TRex"), ("TRexPatrol", "TRex"), ("WanwanBig", "Wanwan"), ("Koopa", "KoopaHack")]

def tryConvertName (className : Bytes) : Bytes :=
  match classHackNames.find? fun entry => PlayerAnims.octets entry.1 = className with
  | some entry => PlayerAnims.octets entry.2
  | none => className

/-- The names of the actors that are made. -/
@[irreducible]
def hackNames : List Bytes := ((texts CaptureTypes.s_Strs).map tryConvertName).dedup

/-- A class of the game. Of the classes that it has, those of the table alone have their hashes. -/
structure GameClass where
  octets : Bytes
  known : isInCaptureList octets = true → octets ∈ texts CaptureTypes.s_Strs

theorem hackNames_fit
    : ∀ hackName ∈ hackNames, hackName ≠ [] ∧ 0 ∉ hackName ∧ hackName.length ≤ 24 := by
  decide +kernel

/-- There is one name that is full. -/
theorem full_names_eq
    : ∀ first ∈ hackNames, ∀ second ∈ hackNames,
        first.length = 24 → second.length = 24 → first = second := by
  decide +kernel

theorem tryConvertName_mem {className : Bytes} (listed : className ∈ texts CaptureTypes.s_Strs)
    : tryConvertName className ∈ hackNames := by
  rw [hackNames]
  exact List.mem_dedup.mpr (List.mem_map.mpr ⟨className, listed, rfl⟩)

/-- What an object of the class is captured as, if it is. -/
@[irreducible]
def GameClass.hackName (gameClass : GameClass) : Option CaptureName :=
  if listed : isInCaptureList gameClass.octets = true then
    have fits := hackNames_fit _ (tryConvertName_mem (gameClass.known listed))
    some
      { octets := tryConvertName gameClass.octets
        nonempty := fits.1
        text := fits.2.1
        short := fits.2.2 }
  else none

-----------------------------------------------------------------------------------------
-- The objects of a stage
-----------------------------------------------------------------------------------------

/-- An object that is placed. -/
structure Placement where
  /-- `getMaxPlayerCount()`, with the player of the game itself -/
  maxPuppets : Nat
  gameClass : GameClass
  /-- `"PlacementFileName"` -/
  stageName : Option String
  /-- the actor that the factory makes for each puppet, if it has a creator -/
  newActor : Nat → Option ActorPtr

namespace Placement

variable (placement : Placement)

def serverMaxPlayers : Nat := placement.maxPuppets + 1

def createPuppetHackActorFromFactory (index : Nat) : Option ActorPtr :=
  if placement.serverMaxPlayers = 8 ∧ placement.stageName = some "ForestWorldHomeStage" then none
  else if 8 < placement.serverMaxPlayers then none
  else placement.newActor index

end Placement

/-- A puppet with the captures that were added for it. -/
structure SyncedPuppet where
  mCaptures : HackModelHolder
  added : List Capture := []

namespace SyncedPuppet

variable (puppet : SyncedPuppet)

def isInCaptureList (hackName : Bytes) : Bool := puppet.mCaptures.getCapture hackName ≠ nullPtr

def addCapture (capture : ActorPtr) (hackType : CaptureName) : SyncedPuppet where
  mCaptures := (puppet.mCaptures.addCapture capture hackType).1
  added := puppet.added ++ [⟨hackType, capture⟩]

/-- The turn of `initObjHook` for a puppet. -/
def sync (hackName : CaptureName) (dupliActor : Option ActorPtr) : SyncedPuppet :=
  if puppet.isInCaptureList hackName.octets then puppet
  else
    match dupliActor with
    | some dupliActor => puppet.addCapture dupliActor hackName
    | none => puppet

end SyncedPuppet

/-- `initObjHook`, for the puppets that `getPuppet` gives by their index. -/
def initObjHook (puppets : List SyncedPuppet) (placement : Placement) : List SyncedPuppet :=
  match placement.gameClass.hackName with
  | none => puppets
  | some hackName =>
      puppets.mapIdx fun index puppet =>
        if index < placement.serverMaxPlayers - 1 then
          puppet.sync hackName (placement.createPuppetHackActorFromFactory index)
        else puppet

/-- The puppets of a new stage, each with a holder of its own in any memory. -/
def newPuppets (behind : List (Memory UInt8)) : List SyncedPuppet :=
  behind.map fun memory => { mCaptures := .initial memory }

-----------------------------------------------------------------------------------------
-- A list of captures in memory
-----------------------------------------------------------------------------------------

/-- A name fills its place, and its zero falls on the pointer of the next entry. -/
def Capture.Full (capture : Capture) : Prop := capture.name.octets.length = 24

instance (capture : Capture) : Decidable capture.Full := inferInstanceAs (Decidable (_ = _))

/-- The name of an entry is still ended: it is not full, or the last one, or the pointer behind it
begins with a zero.
-/
def Ended (added : List Capture) (index : Nat) (capture : Capture) : Prop :=
  capture.Full → ∀ next, added[index + 1]? = some next → next.actor.octets[0]? = some 0

theorem not_ended_iff {added : List Capture} {index : Nat} {capture : Capture}
    : ¬Ended added index capture
      ↔ capture.Full
        ∧ ∃ next, added[index + 1]? = some next ∧ next.actor.octets[0]? ≠ some 0 := by
  unfold Ended
  push Not
  rfl

theorem CaptureName.octets_injective : Function.Injective CaptureName.octets := by
  rintro ⟨octets, _, _, _⟩ ⟨_, _, _, _⟩ rfl
  rfl

/-- Where no two next to each other are full, at least every other one is not, by induction with
room for one more before a list that begins with one that is not.
-/
theorem length_le_of_isChain {added : List Capture}
    (apart : added.IsChain fun capture next => ¬(capture.Full ∧ next.Full))
    : added.length ≤ 2 * (added.filter fun capture => ¬capture.Full).length + 1
      ∧ ((∀ first ∈ added.head?, ¬first.Full)
        → added.length ≤ 2 * (added.filter fun capture => ¬capture.Full).length) := by
  induction added with
  | nil => simp
  | cons first rest ih =>
      obtain ⟨bound, tight⟩ := ih (List.IsChain.of_cons apart)
      by_cases full : first.Full
      · have next : ∀ next ∈ rest.head?, ¬next.Full := fun next member more =>
          (List.isChain_cons.mp apart).1 next member ⟨full, more⟩
        have bound := tight next
        refine ⟨?_, fun not => absurd full (not first rfl)⟩
        simp only [List.length_cons, List.filter_cons, full, not_true_eq_false, decide_false,
          Bool.false_eq_true, if_false]
        omega
      · simp only [List.length_cons, List.filter_cons, full, not_false_eq_true, decide_true,
          if_true]
        omega

namespace SyncedPuppet

/-- The captures stand in the entries, one after the other. A name is there only once, unless it is
full, and no two full ones are next to each other.
-/
structure Listed (puppet : SyncedPuppet) : Prop where
  count : puppet.mCaptures.mCaptureCount = puppet.added.length
  inside : puppet.mCaptures.wroteBehind = false
  entries
    : ∀ index capture,
        puppet.added[index]? = some capture
        → Stands puppet.mCaptures.memory (actorAt index) capture.actor.octets
          ∧ Stands puppet.mCaptures.memory (nameAt index) capture.name.octets
          ∧ (puppet.mCaptures.memory (nameAt index + capture.name.octets.length) = 0
            ↔ Ended puppet.added index capture)
  names : ∀ capture ∈ puppet.added, capture.name.octets ∈ hackNames
  once : ((puppet.added.filter fun capture => ¬capture.Full).map fun capture => capture.name).Nodup
  apart : puppet.added.IsChain fun capture next => ¬(capture.Full ∧ next.Full)

namespace Listed

variable {puppet : SyncedPuppet} (listed : puppet.Listed) {index : Nat} {capture : Capture}
  {hackName : Bytes}

include listed

/-- An entry is found by its name while that is ended. -/
theorem isEqualString_iff (at_index : puppet.added[index]? = some capture) (text : 0 ∉ hackName)
    (short : hackName.length ≤ 24)
    : puppet.mCaptures.isEqualString index hackName = true
      ↔ capture.name.octets = hackName ∧ Ended puppet.added index capture := by
  obtain ⟨-, letters, ended⟩ := listed.entries index capture at_index
  rw [HackModelHolder.isEqualString, decide_eq_true_iff]
  constructor
  · intro stands
    have zero := stands_singleton.mp (stands_append.mp stands).2
    have length : hackName.length = capture.name.octets.length := by
      by_contra different
      have fits := capture.name.short
      rcases Nat.lt_or_gt_of_ne different with less | more
      · have letter := stands_iff.mp letters _ _ (List.getElem?_eq_getElem less)
        exact capture.name.text (zero ▸ letter ▸ List.getElem_mem less)
      · have octet := stands_iff.mp (stands_append.mp stands).1 _ _ (List.getElem?_eq_getElem more)
        have still : ¬Ended puppet.added index capture := fun still =>
          text (ended.mpr still ▸ octet ▸ List.getElem_mem more)
        have full : capture.Full := by
          by_contra notFull
          exact still fun full => absurd full notFull
        rw [Capture.Full] at full
        omega
    have same : capture.name.octets = hackName := by
      have there := (stands_append.mp stands).1
      rw [Stands, length] at there
      exact letters.symm.trans there
    exact ⟨same, ended.mp (length ▸ zero)⟩
  · rintro ⟨rfl, still⟩
    exact stands_append.mpr ⟨letters, stands_singleton.mpr (ended.mpr still)⟩

theorem actor_eq (at_index : puppet.added[index]? = some capture)
    : puppet.mCaptures.actor index = capture.actor.octets := by
  have stands := (listed.entries index capture at_index).1
  rwa [Stands, capture.actor.size] at stands

/-- What is found for a name is the actor of an entry that has it still, if there is one. -/
theorem getCapture_cases (text : 0 ∉ hackName) (short : hackName.length ≤ 24)
    : (∃ index capture,
        puppet.added[index]? = some capture
        ∧ capture.name.octets = hackName
        ∧ Ended puppet.added index capture
        ∧ puppet.mCaptures.getCapture hackName = capture.actor.octets)
      ∨ puppet.mCaptures.getCapture hackName = nullPtr
        ∧ ∀ index capture,
            puppet.added[index]? = some capture
            → capture.name.octets = hackName
            → ¬Ended puppet.added index capture := by
  rw [HackModelHolder.getCapture]
  cases found : puppet.mCaptures.findEntry hackName with
  | some index =>
      have member := List.mem_of_find?_eq_some found
      rw [List.mem_range, listed.count] at member
      have at_index := List.getElem?_eq_getElem member
      have equal : puppet.mCaptures.isEqualString index hackName = true := by
        simpa using List.find?_some found
      obtain ⟨name, ended⟩ := (listed.isEqualString_iff at_index text short).mp equal
      exact .inl ⟨index, _, at_index, name, ended, listed.actor_eq at_index⟩
  | none =>
      refine .inr ⟨rfl, fun index capture at_index name ended => ?_⟩
      have inside := (List.getElem?_eq_some_iff.mp at_index).1
      refine List.find?_eq_none.mp found index ?_
        ((listed.isEqualString_iff at_index text short).mpr ⟨name, ended⟩)
      rw [List.mem_range, listed.count]
      exact inside

/-- A name is in the list while an entry has it. -/
theorem isInCaptureList_iff (text : 0 ∉ hackName) (short : hackName.length ≤ 24)
    : puppet.isInCaptureList hackName = true
      ↔ ∃ index capture,
          puppet.added[index]? = some capture
          ∧ capture.name.octets = hackName
          ∧ Ended puppet.added index capture := by
  rw [isInCaptureList, decide_eq_true_iff]
  rcases listed.getCapture_cases text short with
    ⟨index, capture, at_index, name, ended, actor⟩ | ⟨null, none⟩
  · rw [actor]
    exact iff_of_true capture.actor.nonnull ⟨index, capture, at_index, name, ended⟩
  · rw [null]
    refine iff_of_false (fun different => different rfl) ?_
    rintro ⟨index, capture, at_index, name, ended⟩
    exact none index capture at_index name ended

/-- A name that is not in the list is that of a full entry that has lost it, or of none. -/
theorem full_of_absent (absent : puppet.isInCaptureList capture.name.octets = false)
    (at_index : puppet.added[index]? = some capture)
    : capture.Full ∧ ∃ next, puppet.added[index + 1]? = some next := by
  have lost : ¬Ended puppet.added index capture := fun ended =>
    Bool.eq_false_iff.mp absent
      ((listed.isInCaptureList_iff capture.name.text capture.name.short).mpr
        ⟨index, capture, at_index, rfl, ended⟩)
  obtain ⟨full, next, behind, -⟩ := not_ended_iff.mp lost
  exact ⟨full, next, behind⟩

/-- There are at most 29 names that are not full, and full ones only between them. -/
theorem length_le : puppet.added.length ≤ 59 := by
  have notFull : (puppet.added.filter fun capture => ¬capture.Full).length ≤ 29 := by
    have distinct := listed.once.map CaptureName.octets_injective
    rw [List.map_map] at distinct
    have names
        : (puppet.added.filter fun capture => ¬capture.Full).map
            (CaptureName.octets ∘ fun capture => capture.name)
          ⊆ hackNames.filter fun name => name.length ≠ 24 := by
      intro name member
      obtain ⟨capture, kept, rfl⟩ := List.mem_map.mp member
      obtain ⟨added, short⟩ := List.mem_filter.mp kept
      exact List.mem_filter.mpr ⟨listed.names capture added, short⟩
    have bound := (List.subperm_of_subset distinct names).length_le
    rw [List.length_map] at bound
    exact bound.trans (by decide +kernel)
  have spaced := (length_le_of_isChain listed.apart).1
  omega

variable {added : CaptureName}

/-- The captures before the new one are not next to it if both are full. -/
theorem apart_addCapture (dupliActor : ActorPtr) (name : added.octets ∈ hackNames)
    (absent : puppet.isInCaptureList added.octets = false)
    : (puppet.addCapture dupliActor added).added.IsChain fun capture next =>
        ¬(capture.Full ∧ next.Full) := by
  refine List.isChain_append.mpr ⟨listed.apart, List.isChain_singleton _, ?_⟩
  intro last at_last next at_next
  obtain rfl := Option.some_inj.mp at_next
  rintro ⟨last_full, full⟩
  rw [List.getLast?_eq_getElem?] at at_last
  have same : last.name.octets = added.octets :=
    full_names_eq _ (listed.names last (List.mem_of_getElem? at_last)) _ name last_full full
  obtain ⟨-, next, behind⟩ := listed.full_of_absent (same ▸ absent) at_last
  have inside := (List.getElem?_eq_some_iff.mp behind).1
  omega

theorem once_addCapture (dupliActor : ActorPtr)
    (absent : puppet.isInCaptureList added.octets = false)
    : (((puppet.addCapture dupliActor added).added.filter fun capture => ¬capture.Full).map
        fun capture => capture.name).Nodup := by
  rw [addCapture, List.filter_append, List.map_append, List.nodup_append]
  refine ⟨listed.once, ?_, ?_⟩
  · by_cases full : Capture.Full ⟨added, dupliActor⟩ <;> simp [full]
  · rintro _ before _ new rfl
    obtain ⟨capture, kept, same⟩ := List.mem_map.mp before
    obtain ⟨member, notFull⟩ := List.mem_filter.mp kept
    obtain ⟨index, at_index⟩ := List.mem_iff_getElem?.mp member
    obtain ⟨_, last, rfl⟩ := List.mem_map.mp new
    have last := List.mem_singleton.mp (List.mem_filter.mp last).1
    subst last
    exact of_decide_eq_true notFull (listed.full_of_absent (same ▸ absent) at_index).1

/-- The entries before a capture that gets the next place. -/
theorem entries_before {index : Nat} {capture : Capture} (dupliActor : ActorPtr)
    (at_index : puppet.added[index]? = some capture)
    : let memory := written puppet.mCaptures.memory puppet.added.length ⟨added, dupliActor⟩
      Stands memory (actorAt index) capture.actor.octets
      ∧ Stands memory (nameAt index) capture.name.octets
      ∧ (memory (nameAt index + capture.name.octets.length) = 0
        ↔ Ended (puppet.added ++ [⟨added, dupliActor⟩]) index capture) := by
  intro memory
  obtain ⟨actor, letters, ended⟩ := listed.entries index capture at_index
  have inside := (List.getElem?_eq_some_iff.mp at_index).1
  have size := capture.actor.size
  have fits := capture.name.short
  have before {offset : Nat} {octets : Bytes}
      (apart : offset + octets.length ≤ 32 * puppet.added.length)
      : Stands memory offset octets ↔ Stands puppet.mCaptures.memory offset octets :=
    (stands_store_iff (.inr (by rw [nameAt]; omega))).trans
      (stands_store_iff (.inr (by rw [actorAt]; omega)))
  refine ⟨(before (by rw [actorAt, size]; omega)).mpr actor,
    (before (by rw [nameAt]; omega)).mpr letters, ?_⟩
  by_cases joined : capture.Full ∧ index + 1 = puppet.added.length
  · obtain ⟨full, last⟩ := joined
    have ends : nameAt index + capture.name.octets.length = actorAt puppet.added.length := by
      rw [nameAt, actorAt, full, ← last]
      omega
    have pointer : some (memory (actorAt puppet.added.length)) = dupliActor.octets[0]? := by
      have low := @store_apply _ puppet.mCaptures.memory (actorAt puppet.added.length)
        dupliActor.octets _ ⟨Nat.le_refl _, by have := dupliActor.size; omega⟩
      rw [Nat.sub_self] at low
      rw [← low]
      exact congrArg some (store_apply_of_outside (.inl (by rw [actorAt, nameAt]; omega)))
    have next : (puppet.added ++ [(⟨added, dupliActor⟩ : Capture)])[index + 1]?
        = some ⟨added, dupliActor⟩ := by
      rw [last]
      simp
    rw [ends, Ended, next, ← Option.some_inj, pointer]
    exact ⟨fun low _ _ same => Option.some_inj.mp same ▸ low, fun still => still full _ rfl⟩
  · have same : Ended (puppet.added ++ [⟨added, dupliActor⟩]) index capture
        ↔ Ended puppet.added index capture := by
      unfold Ended
      refine imp_congr_right fun full => ?_
      have notLast : index + 1 ≠ puppet.added.length := fun last => joined ⟨full, last⟩
      rw [List.getElem?_append_left (by omega)]
    have zero
        : memory (nameAt index + capture.name.octets.length)
          = puppet.mCaptures.memory (nameAt index + capture.name.octets.length) := by
      have early : nameAt index + capture.name.octets.length < 32 * puppet.added.length := by
        rw [Capture.Full] at joined
        rw [nameAt]
        omega
      exact (store_apply_of_outside (.inl (early.trans_le (by rw [nameAt]; omega)))).trans
        (store_apply_of_outside (.inl early))
    rw [same, zero, ended]

/-- The entries behind the writes of a capture that gets the next place. -/
theorem entries_written {index : Nat} {capture : Capture} (dupliActor : ActorPtr)
    (at_index : (puppet.added ++ [⟨added, dupliActor⟩])[index]? = some capture)
    : let memory := written puppet.mCaptures.memory puppet.added.length ⟨added, dupliActor⟩
      Stands memory (actorAt index) capture.actor.octets
      ∧ Stands memory (nameAt index) capture.name.octets
      ∧ (memory (nameAt index + capture.name.octets.length) = 0
        ↔ Ended (puppet.added ++ [⟨added, dupliActor⟩]) index capture) := by
  by_cases early : index < puppet.added.length
  · rw [List.getElem?_append_left early] at at_index
    exact listed.entries_before dupliActor at_index
  · have inside := (List.getElem?_eq_some_iff.mp at_index).1
    rw [List.length_append, List.length_singleton] at inside
    obtain rfl : index = puppet.added.length := by omega
    rw [List.getElem?_concat_length, Option.some_inj] at at_index
    subst at_index
    obtain ⟨actor, name⟩ := entryIs_written puppet.mCaptures.memory puppet.added.length
      ⟨added, dupliActor⟩
    obtain ⟨letters, zero⟩ := stands_append.mp name
    refine ⟨actor, letters, iff_of_true (stands_singleton.mp zero) fun _ next at_next => ?_⟩
    simp at at_next

/-- A capture that is not in the list yet gets the next place. -/
theorem addCapture (dupliActor : ActorPtr) (name : added.octets ∈ hackNames)
    (absent : puppet.isInCaptureList added.octets = false)
    : (puppet.addCapture dupliActor added).Listed := by
  have few := listed.length_le
  have room : puppet.mCaptures.mCaptureCount < captureCapacity := by
    rw [listed.count, captureCapacity]
    omega
  have fits := added.short
  have result
      : (puppet.mCaptures.addCapture dupliActor added).1
        = { puppet.mCaptures with
            memory := written puppet.mCaptures.memory puppet.added.length ⟨added, dupliActor⟩
            mCaptureCount := puppet.added.length + 1
            wroteBehind := false } := by
    have inside
        : ¬32 * captureCapacity
            < nameAt puppet.added.length + (terminated added.octets).length := by
      rw [length_terminated, captureCapacity, nameAt]
      omega
    rw [HackModelHolder.addCapture, if_pos room, listed.inside, listed.count]
    simp [inside, written]
  exact {
    count := by simp [SyncedPuppet.addCapture, result]
    inside := by simp [SyncedPuppet.addCapture, result]
    entries := fun index capture at_index => by
      rw [SyncedPuppet.addCapture, result]
      exact listed.entries_written dupliActor at_index
    names := fun capture member => by
      rcases List.mem_append.mp member with earlier | last
      · exact listed.names capture earlier
      · exact List.mem_singleton.mp last ▸ name
    once := listed.once_addCapture dupliActor absent
    apart := listed.apart_addCapture dupliActor name absent
  }

theorem sync (dupliActor : Option ActorPtr) (name : added.octets ∈ hackNames)
    : (puppet.sync added dupliActor).Listed := by
  unfold SyncedPuppet.sync
  split
  next => exact listed
  next absent =>
    cases dupliActor with
    | some dupliActor => exact listed.addCapture dupliActor name (Bool.eq_false_iff.mpr absent)
    | none => exact listed

/-- A name that is not full is that of one actor for good. -/
theorem getCapture_eq (member : capture ∈ puppet.added) (notFull : ¬capture.Full)
    : puppet.mCaptures.getCapture capture.name.octets = capture.actor.octets := by
  rcases listed.getCapture_cases capture.name.text capture.name.short with
    ⟨index, found, at_index, name, -, actor⟩ | ⟨-, none⟩
  · have same : found.name = capture.name := CaptureName.octets_injective name
    have found_kept
        : found ∈ puppet.added.filter fun capture => ¬capture.Full :=
      List.mem_filter.mpr
        ⟨List.mem_of_getElem? at_index, decide_eq_true (by rwa [Capture.Full, name])⟩
    have kept : capture ∈ puppet.added.filter fun capture => ¬capture.Full :=
      List.mem_filter.mpr ⟨member, decide_eq_true notFull⟩
    rw [actor, List.inj_on_of_nodup_map listed.once found_kept kept same]
  · obtain ⟨index, at_index⟩ := List.mem_iff_getElem?.mp member
    exact absurd (fun full => absurd full notFull) (none index capture at_index rfl)

end Listed

end SyncedPuppet

-----------------------------------------------------------------------------------------
-- The objects of a stage, one after the other
-----------------------------------------------------------------------------------------

theorem GameClass.hackName_mem {gameClass : GameClass} {hackName : CaptureName}
    (named : gameClass.hackName = some hackName)
    : hackName.octets ∈ hackNames := by
  unfold GameClass.hackName at named
  split at named
  next listed =>
    cases named
    exact tryConvertName_mem (gameClass.known listed)
  next => cases named

/-- Each object keeps the lists. -/
theorem listed_initObjHook {puppets : List SyncedPuppet}
    (listed : ∀ puppet ∈ puppets, puppet.Listed) (placement : Placement)
    : ∀ puppet ∈ initObjHook puppets placement, puppet.Listed := by
  rw [initObjHook]
  cases named : placement.gameClass.hackName with
  | none => exact listed
  | some hackName =>
      intro puppet member
      obtain ⟨index, inside, rfl⟩ := List.mem_mapIdx.mp member
      have earlier := listed _ (List.getElem_mem inside)
      have name := GameClass.hackName_mem named
      split
      next => exact SyncedPuppet.Listed.sync earlier _ name
      next => exact earlier

/-- The puppets behind the objects that a stage has placed so far. -/
def placed (behind : List (Memory UInt8)) (placements : List Placement) : List SyncedPuppet :=
  placements.foldl initObjHook (newPuppets behind)

theorem listed_placed (behind : List (Memory UInt8)) (placements : List Placement)
    : ∀ puppet ∈ placed behind placements, puppet.Listed := by
  induction placements using List.reverseRecOn with
  | nil =>
      intro puppet member
      obtain ⟨memory, -, rfl⟩ := List.mem_map.mp member
      constructor
      · rfl
      · rfl
      · nofun
      · nofun
      · exact .nil
      · exact .nil
  | append_singleton earlier placement ih =>
      rw [placed, List.foldl_append]
      exact listed_initObjHook ih placement

/-- However many objects a stage places, the list of a puppet has room and no name runs on behind
it. A name that is not full is added once, and is the one of its actor from then on.
-/
theorem captures_kept {behind : List (Memory UInt8)} {placements : List Placement}
    {puppet : SyncedPuppet} (member : puppet ∈ placed behind placements)
    : puppet.mCaptures.mCaptureCount = puppet.added.length
      ∧ puppet.added.length ≤ 59
      ∧ puppet.mCaptures.wroteBehind = false
      ∧ ((puppet.added.filter fun capture => ¬capture.Full).map fun capture =>
          capture.name).Nodup
      ∧ ∀ capture ∈ puppet.added,
          ¬capture.Full
          → puppet.mCaptures.getCapture capture.name.octets = capture.actor.octets := by
  have listed := listed_placed behind placements puppet member
  exact ⟨listed.count, listed.length_le, listed.inside, listed.once, fun _ added notFull =>
    listed.getCapture_eq added notFull⟩

/-- An object of a class of the table, in a game with one other player. -/
def placedObject (name : String) (listed : PlayerAnims.octets name ∈ texts CaptureTypes.s_Strs)
    (actor : ActorPtr)
    : Placement where
  maxPuppets := 1
  gameClass := ⟨PlayerAnims.octets name, fun _ => listed⟩
  stageName := none
  newActor _ := some actor

/-- The second frog of a stage has no actor made. -/
theorem captures_kept_frogs
    : ∃ puppet ∈
        placed [fun _ => 0]
          [placedObject "Frog" (by decide +kernel) (Tracked.actorNumbered 0x18 (by decide)),
            placedObject "Frog" (by decide +kernel) (Tracked.actorNumbered 0x28 (by decide))],
        puppet.mCaptures.mCaptureCount = 1
        ∧ puppet.mCaptures.getCapture Tracked.frog.octets = [0x18, 0, 0, 0, 0, 0, 0, 0] := by
  have frogs
      : ((placed [fun _ => 0]
            [placedObject "Frog" (by decide +kernel) (Tracked.actorNumbered 0x18 (by decide)),
              placedObject "Frog" (by decide +kernel)
                (Tracked.actorNumbered 0x28 (by decide))])[0]?).map
          (fun puppet => puppet.added)
        = some [⟨Tracked.frog, Tracked.actorNumbered 0x18 (by decide)⟩] := by
    decide +kernel
  obtain ⟨puppet, at_index, added⟩ := Option.map_eq_some_iff.mp frogs
  obtain ⟨count, -, -, -, found⟩ := captures_kept (List.mem_of_getElem? at_index)
  refine ⟨puppet, List.mem_of_getElem? at_index, by rw [count, added]; rfl, ?_⟩
  exact found ⟨Tracked.frog, _⟩ (added ▸ List.mem_singleton_self _) (by decide)

/-- An object has an actor made for a puppet exactly if every actor that was made for its name has
lost it: the name was full, and the actor behind it has an address that does not begin with a zero.
-/
theorem made_iff {behind : List (Memory UInt8)} {placements : List Placement}
    {puppet : SyncedPuppet} {index : Nat}
    (at_index : (placed behind placements)[index]? = some puppet)
    {placement : Placement} {hackName : CaptureName} {dupliActor : ActorPtr}
    (named : placement.gameClass.hackName = some hackName) (reached : index < placement.maxPuppets)
    (created : placement.createPuppetHackActorFromFactory index = some dupliActor)
    : (placed behind (placements ++ [placement]))[index]?
        = some (puppet.addCapture dupliActor hackName)
      ↔ ∀ place capture,
          puppet.added[place]? = some capture
          → capture.name = hackName
          → capture.Full
            ∧ ∃ next,
                puppet.added[place + 1]? = some next ∧ next.actor.octets[0]? ≠ some 0 := by
  have listed := listed_placed behind placements puppet (List.mem_of_getElem? at_index)
  have after
      : (placed behind (placements ++ [placement]))[index]?
        = some (puppet.sync hackName (some dupliActor)) := by
    rw [placed, List.foldl_append, List.foldl_cons, List.foldl_nil, initObjHook, named]
    simp only [List.getElem?_mapIdx]
    rw [← placed, at_index]
    simp [Placement.serverMaxPlayers, reached, created]
  have present := listed.isInCaptureList_iff hackName.text hackName.short
  rw [after, Option.some_inj, SyncedPuppet.sync]
  split
  next found =>
    obtain ⟨place, capture, there, name, ended⟩ := present.mp found
    refine iff_of_false (fun same => ?_) fun lost => ?_
    · have length := congrArg (fun puppet => puppet.added.length) same
      simp [SyncedPuppet.addCapture] at length
    · obtain ⟨full, next, behind, low⟩ :=
        lost place capture there (CaptureName.octets_injective name)
      exact low (ended full next behind)
  next absent =>
    refine iff_of_true rfl fun place capture there name => not_ended_iff.mp fun ended => ?_
    exact absent (present.mpr ⟨place, capture, there, congrArg CaptureName.octets name, ended⟩)

/-- The letters of a stage with a frog among them have two actors made. -/
theorem made_iff_letters
    : ∃ puppet,
        (placed [fun _ => 0]
            [placedObject "AnagramAlphabetCharacter" (by decide +kernel)
                (Tracked.actorNumbered 0x18 (by decide)),
              placedObject "Frog" (by decide +kernel) (Tracked.actorNumbered 0x28 (by decide))])[0]?
          = some puppet
        ∧ (placed [fun _ => 0]
            ([placedObject "AnagramAlphabetCharacter" (by decide +kernel)
                  (Tracked.actorNumbered 0x18 (by decide)),
                placedObject "Frog" (by decide +kernel) (Tracked.actorNumbered 0x28 (by decide))]
              ++ [placedObject "AnagramAlphabetCharacter" (by decide +kernel)
                  (Tracked.actorNumbered 0x38 (by decide))]))[0]?
          = some
            (puppet.addCapture (Tracked.actorNumbered 0x38 (by decide))
              Tracked.anagramAlphabetCharacter) := by
  have before
      : ((placed [fun _ => 0]
            [placedObject "AnagramAlphabetCharacter" (by decide +kernel)
                (Tracked.actorNumbered 0x18 (by decide)),
              placedObject "Frog" (by decide +kernel)
                (Tracked.actorNumbered 0x28 (by decide))])[0]?).map
          (fun puppet => puppet.added)
        = some
          [⟨Tracked.anagramAlphabetCharacter, Tracked.actorNumbered 0x18 (by decide)⟩,
            ⟨Tracked.frog, Tracked.actorNumbered 0x28 (by decide)⟩] := by
    decide +kernel
  obtain ⟨puppet, at_index, added⟩ := Option.map_eq_some_iff.mp before
  refine ⟨puppet, at_index, (made_iff at_index (by decide +kernel) (by decide) rfl).mpr ?_⟩
  rw [added]
  rintro (_ | _ | place) capture there name
  · exact ⟨by cases there; rfl, _, rfl, by decide⟩
  · cases there
    exact absurd name (by decide)
  · cases there

end SmoOnline.Mod
