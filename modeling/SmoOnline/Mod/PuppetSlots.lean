import SmoOnline.Mod.PuppetArray

/-! Whose entry is whose. While every connected player's entry is within the window of a search,
a player has one entry; when the window has shrunk below it, the player can get another one. A name
that is too long gives an entry another id.
-/

namespace SmoOnline.Mod

namespace Puppets

open Runs Span

variable {findStr : Int16 → Bytes} {puppets next : Puppets} {event : Event}

/-- The entry belongs to a connected player. -/
def OwnedBy (puppets : Puppets) (index : Nat) (id : Guid) : Prop :=
  ∃ info,
    puppets.mPuppetInfoArr[index]? = some info ∧ info.isConnected = true ∧ info.playerID = id

/-- No player is connected in two entries. -/
def OneEach (puppets : Puppets) : Prop :=
  ∀ id first second, puppets.OwnedBy first id → puppets.OwnedBy second id → first = second

/-- A connected player's entry goes to nobody else who is connected. -/
def KeepsOwners (puppets next : Puppets) : Prop :=
  ∀ index id other, puppets.OwnedBy index id → next.OwnedBy index other → other = id

/-- The packets about who is there, with a number of players that the array has entries for. -/
def isSlotPacket : Event → Bool
  | .readInit maxPlayers => 1 ≤ maxPlayers ∧ maxPlayers ≤ 33
  | .readPacket _ _ (.playerConnect _) | .readPacket _ _ .playerDC
  | .readPacket _ _ (.playerInf _ _ _ _ _) =>
      true
  | _ => false

/-- The entry in which a packet would find its user, or a place for a new one. -/
def slotOf (puppets : Puppets) (id : Guid) : PuppetPacket → Option Nat
  | .playerConnect _ => puppets.connectTarget id
  | .playerInf _ _ _ _ _ => puppets.ownEntry id
  | _ => none

/-- A packet that connects an entry is not of a player who is connected behind the window. -/
def SeesUser (puppets : Puppets) : Event → Prop
  | .readPacket _ id packet =>
      ∀ index, puppets.slotOf id packet = some index → puppets.isConnectedAt index = false →
        ∀ hidden, puppets.window ≤ hidden → ¬puppets.OwnedBy hidden id
  | _ => True

/-- The entry of a connected player is the first one with the player's id. -/
def FirstEach (puppets : Puppets) : Prop :=
  ∀ id index, puppets.OwnedBy index id →
    ∀ earlier < index, ∀ info, puppets.mPuppetInfoArr[earlier]? = some info → info.playerID ≠ id

-----------------------------------------------------------------------------------------
-- What a write does to owners
-----------------------------------------------------------------------------------------

theorem ownedBy_modify_of_ne {index other : Nat} {id : Guid} {write : PuppetInfo → PuppetInfo}
    (apart : index ≠ other)
    : (puppets.modify index write).OwnedBy other id ↔ puppets.OwnedBy other id := by
  rw [OwnedBy, OwnedBy, modify_getElem?, if_neg apart]

theorem ownedBy_modify_self {index : Nat} {id : Guid} {info : PuppetInfo}
    {write : PuppetInfo → PuppetInfo} (member : puppets.mPuppetInfoArr[index]? = some info)
    : (puppets.modify index write).OwnedBy index id
      ↔ (write info).isConnected = true ∧ (write info).playerID = id := by
  rw [OwnedBy, modify_getElem?, if_pos rfl, member]
  simp

/-- An entry that nobody is connected in has no owner. -/
theorem not_ownedBy_of_free {index : Nat} {id : Guid} (free : puppets.isConnectedAt index = false)
    : ¬puppets.OwnedBy index id := by
  rintro ⟨info, member, connected, -⟩
  rw [isConnectedAt_eq member, connected] at free
  cases free

theorem ownedBy_unique {index : Nat} {id other : Guid} (owned : puppets.OwnedBy index id)
    (again : puppets.OwnedBy index other)
    : other = id := by
  obtain ⟨info, member, -, rfl⟩ := owned
  obtain ⟨same, there, -, rfl⟩ := again
  rw [Option.some.inj (member.symm.trans there)]

/-- Players whose entries are the first with their ids have one entry each. -/
theorem FirstEach.oneEach (first : puppets.FirstEach) : puppets.OneEach := by
  intro id left right ownsLeft ownsRight
  rcases Nat.lt_trichotomy left right with before | same | behind
  · obtain ⟨info, member, -, has⟩ := ownsLeft
    exact absurd has (first id right ownsRight left before info member)
  · exact same
  · obtain ⟨info, member, -, has⟩ := ownsRight
    exact absurd has (first id left ownsLeft right behind info member)

/-- A player who is connected within the window, in the first entry with the player's id, is
found there.
-/
theorem ownEntry_of_owned (first : puppets.FirstEach) {index : Nat} {id : Guid}
    (owned : puppets.OwnedBy index id) (seen : index < puppets.window)
    : puppets.ownEntry id = some index := by
  obtain ⟨info, member, connected, has⟩ := owned
  apply ownEntry_of_first seen member has
  exact first id index ⟨info, member, connected, has⟩

-----------------------------------------------------------------------------------------
-- Kinds of writes
-----------------------------------------------------------------------------------------

/-- The step may take owners away, but gives no entry another id. -/
structure Loses (puppets next : Puppets) : Prop where
  owners : ∀ {index : Nat} {id : Guid}, next.OwnedBy index id → puppets.OwnedBy index id
  ids
    : ∀ {index : Nat} {info : PuppetInfo}, next.mPuppetInfoArr[index]? = some info →
        ∃ before : PuppetInfo,
          puppets.mPuppetInfoArr[index]? = some before ∧ before.playerID = info.playerID

theorem Loses.refl (puppets : Puppets) : Loses puppets puppets :=
  ⟨fun owned => owned, fun member => ⟨_, member, rfl⟩⟩

theorem Loses.firstEach (loses : Loses puppets next) (first : puppets.FirstEach)
    : next.FirstEach := by
  intro id index owned earlier before info member
  obtain ⟨old, there, same⟩ := loses.ids member
  rw [← same]
  exact first id index (loses.owners owned) earlier before old there

theorem Loses.keepsOwners (loses : Loses puppets next) : KeepsOwners puppets next := by
  intro index id other owned again
  exact ownedBy_unique owned (loses.owners again)

/-- A write that gives an entry no other id and connects nobody takes owners away at most. -/
theorem loses_modify {index : Nat} {write : PuppetInfo → PuppetInfo}
    (id : ∀ info, (write info).playerID = info.playerID)
    (connects : ∀ info, puppets.mPuppetInfoArr[index]? = some info →
      (write info).isConnected = true → info.isConnected = true)
    : Loses puppets (puppets.modify index write) where
  owners {other owner} owned := by
    obtain ⟨info, member, connected, has⟩ := owned
    rw [modify_getElem?] at member
    split_ifs at member with same
    · subst same
      obtain ⟨before, there, rfl⟩ := Option.map_eq_some_iff.mp member
      exact ⟨before, there, connects before there connected, (id before).symm.trans has⟩
    · exact ⟨info, member, connected, has⟩
  ids {other info} member := by
    rw [modify_getElem?] at member
    split_ifs at member
    · obtain ⟨before, there, rfl⟩ := Option.map_eq_some_iff.mp member
      exact ⟨before, there, (id before).symm⟩
    · exact ⟨info, member, rfl⟩

/-- An entry that nobody is connected in becomes that of a player who is connected nowhere, and
no entry before it has the player's id.
-/
structure Takes (puppets : Puppets) (index : Nat) (id : Guid) (write : PuppetInfo → PuppetInfo)
    : Prop where
  free : puppets.isConnectedAt index = false
  nowhere : ∀ other, ¬puppets.OwnedBy other id
  fresh : ∀ earlier < index, ∀ info,
    puppets.mPuppetInfoArr[earlier]? = some info → info.playerID ≠ id
  becomes
    : ∀ info, puppets.mPuppetInfoArr[index]? = some info →
        (write info).isConnected = true ∧ (write info).playerID = id

/-- The owner of an entry after it was taken is the new one there, and the old one elsewhere. -/
theorem Takes.owned {index other : Nat} {id owner : Guid} {write : PuppetInfo → PuppetInfo}
    (takes : Takes puppets index id write)
    (owned : (puppets.modify index write).OwnedBy other owner)
    : (other = index ∧ owner = id) ∨ (other ≠ index ∧ puppets.OwnedBy other owner) := by
  rcases eq_or_ne other index with rfl | apart
  · obtain ⟨info, member, -, has⟩ := owned
    rw [modify_getElem?, if_pos rfl] at member
    obtain ⟨before, there, rfl⟩ := Option.map_eq_some_iff.mp member
    exact .inl ⟨rfl, has.symm.trans (takes.becomes before there).2⟩
  · exact .inr ⟨apart, (ownedBy_modify_of_ne apart.symm).mp owned⟩

theorem Takes.firstEach {index : Nat} {id : Guid} {write : PuppetInfo → PuppetInfo}
    (takes : Takes puppets index id write) (first : puppets.FirstEach)
    : (puppets.modify index write).FirstEach := by
  intro owner place owned earlier before info member has
  rw [modify_getElem?] at member
  rcases takes.owned owned with ⟨rfl, rfl⟩ | ⟨apart, owned⟩
  · rw [if_neg (Nat.ne_of_gt before)] at member
    exact takes.fresh earlier before info member has
  · split_ifs at member with same
    · obtain ⟨old, there, rfl⟩ := Option.map_eq_some_iff.mp member
      subst same
      rw [(takes.becomes old there).2] at has
      exact takes.nowhere place (has ▸ owned)
    · exact first owner place owned earlier before info member has

theorem Takes.keepsOwners {index : Nat} {id : Guid} {write : PuppetInfo → PuppetInfo}
    (takes : Takes puppets index id write)
    : KeepsOwners puppets (puppets.modify index write) := by
  intro place owner other owned again
  rcases takes.owned again with ⟨rfl, rfl⟩ | ⟨-, before⟩
  · exact absurd owned (not_ownedBy_of_free takes.free)
  · exact ownedBy_unique owned before

/-- A visible entry that is taken by a player who is connected nowhere behind the window. -/
theorem takes_of_sees {index : Nat} {id : Guid} {write : PuppetInfo → PuppetInfo}
    (first : puppets.FirstEach) (free : puppets.isConnectedAt index = false)
    (hidden : ∀ other, puppets.window ≤ other → ¬puppets.OwnedBy other id)
    (seen : ∀ other, puppets.ownEntry id = some other → other = index)
    (fresh : ∀ earlier < index, ∀ info,
      puppets.mPuppetInfoArr[earlier]? = some info → info.playerID ≠ id)
    (becomes
      : ∀ info, puppets.mPuppetInfoArr[index]? = some info →
          (write info).isConnected = true ∧ (write info).playerID = id)
    : Takes puppets index id write where
  free := free
  fresh := fresh
  becomes := becomes
  nowhere other owned := by
    rcases Nat.lt_or_ge other puppets.window with visible | behind
    · have found := seen other (ownEntry_of_owned first owned visible)
      exact not_ownedBy_of_free free (found ▸ owned)
    · exact hidden other behind owned

/-- An entry that is taken while its new player is connected behind the window makes two. -/
theorem not_oneEach_of_hidden {index hidden : Nat} {id : Guid} {info : PuppetInfo}
    {write : PuppetInfo → PuppetInfo} (member : puppets.mPuppetInfoArr[index]? = some info)
    (becomes : (write info).isConnected = true ∧ (write info).playerID = id)
    (apart : index ≠ hidden) (owned : puppets.OwnedBy hidden id)
    : ¬(puppets.modify index write).OneEach := by
  intro one
  exact apart (one id index hidden ((ownedBy_modify_self member).mpr becomes)
    ((ownedBy_modify_of_ne apart).mpr owned))

-----------------------------------------------------------------------------------------
-- Packets
-----------------------------------------------------------------------------------------

/-- What a packet leaves when it was right: first entries and owners. -/
structure KeepsSlots (puppets next : Puppets) : Prop where
  firstEach : next.FirstEach
  keepsOwners : KeepsOwners puppets next

theorem KeepsSlots.refl (first : puppets.FirstEach) : KeepsSlots puppets puppets :=
  ⟨first, (Loses.refl puppets).keepsOwners⟩

/-- A player's own entry is written to and keeps its id. -/
theorem keepsSlots_of_own {index : Nat} {id : Guid} {write : PuppetInfo → PuppetInfo}
    (first : puppets.FirstEach) (own : puppets.ownEntry id = some index)
    (connected : puppets.isConnectedAt index = true)
    (keeps : ∀ info, (write info).playerID = info.playerID)
    : KeepsSlots puppets (puppets.modify index write) := by
  obtain ⟨-, ⟨info, member, -⟩, -⟩ := ownEntry_eq_some own
  rw [isConnectedAt_eq member] at connected
  have loses : Loses puppets (puppets.modify index write) := by
    apply loses_modify keeps
    intro other there _
    obtain rfl := Option.some.inj (member.symm.trans there)
    exact connected
  exact ⟨loses.firstEach first, loses.keepsOwners⟩

theorem keepsSlots_of_takes {index : Nat} {id : Guid} {write : PuppetInfo → PuppetInfo}
    (first : puppets.FirstEach) (takes : Takes puppets index id write)
    : KeepsSlots puppets (puppets.modify index write) :=
  ⟨takes.firstEach first, takes.keepsOwners⟩

/-- A `PlayerConnect` of a player who is not hidden keeps the entries. -/
theorem playerConnect_keeps {id : Guid} {clientName : Bytes} (first : puppets.FirstEach)
    (taken : puppets.updatePlayerConnect id clientName = some next)
    (sees
      : ∀ index, puppets.connectTarget id = some index → puppets.isConnectedAt index = false →
          ∀ hidden, puppets.window ≤ hidden → ¬puppets.OwnedBy hidden id)
    : KeepsSlots puppets next := by
  rcases updatePlayerConnect_cases taken with ⟨-, rfl⟩ | ⟨index, target, free, rfl⟩
  · exact .refl first
  · have takes : Takes puppets index id (PuppetInfo.connect · id clientName) := by
      apply takes_of_sees first free (sees index target free)
      · intro other own
        exact Option.some.inj ((Option.or_eq_some_iff.mpr (.inl own)).symm.trans target)
      · rcases Option.or_eq_some_iff.mp target with own | ⟨absent, free⟩
        · exact (ownEntry_eq_some own).2.2
        · intro earlier before info member
          exact ownEntry_eq_none absent
            (Nat.lt_trans before (connectTarget_entry target).1) member
      · exact fun _ _ => ⟨rfl, rfl⟩
    have keeps := keepsSlots_of_takes first takes
    exact ⟨keeps.1, keeps.2⟩

/-- A player's position keeps the entries, unless it connects one while the player is connected
in a hidden one.
-/
theorem playerInf_keeps {id : Guid} {packet : PuppetPacket}
    (position : packet.isPlayerInf = true) (first : puppets.FirstEach)
    (taken : puppets.updateFound findStr id packet = some next)
    (sees
      : ∀ index, puppets.ownEntry id = some index → puppets.isConnectedAt index = false →
          ∀ hidden, puppets.window ≤ hidden → ¬puppets.OwnedBy hidden id)
    : KeepsSlots puppets next := by
  rcases updateFound_cases taken with ⟨-, rfl⟩ | ⟨index, own, rfl⟩
  · exact .refl first
  · cases connected : puppets.isConnectedAt index with
    | true => exact keepsSlots_of_own first own connected (PuppetInfo.playerID_update packet)
    | false =>
        obtain ⟨-, ⟨info, member, has⟩, fresh⟩ := ownEntry_eq_some own
        apply keepsSlots_of_takes first
        apply takes_of_sees first connected (sees index own connected) _ fresh
        · intro other there
          obtain rfl := Option.some.inj (member.symm.trans there)
          exact ⟨PuppetInfo.isConnected_update_playerInf position info,
            (PuppetInfo.playerID_update packet info).trans has⟩
        · intro other found
          exact Option.some.inj (found.symm.trans own)

theorem playerDC_keeps {id : Guid} (first : puppets.FirstEach)
    (taken : puppets.disconnectPlayer id = some next)
    : KeepsSlots puppets next := by
  rcases disconnectPlayer_cases taken with rfl | ⟨index, own, connected, rfl⟩
  · exact .refl first
  · have keeps := @keepsSlots_of_own _ _ _ PuppetInfo.disconnect first own connected
      fun _ => rfl
    exact ⟨keeps.1, keeps.2⟩

/-- A step that sees its user keeps first entries and owners. -/
theorem slots_kept (first : puppets.FirstEach) (kind : isSlotPacket event = true)
    (sees : puppets.SeesUser event) (taken : puppets.step findStr event = some next)
    : KeepsSlots puppets next := by
  cases event with
  | readPacket isHideAndSeek id packet =>
      cases packet with
      | playerConnect clientName => exact playerConnect_keeps first taken sees
      | playerInf pos rot weights act subAct => exact playerInf_keeps rfl first taken sees
      | playerDC => exact playerDC_keeps first taken
      | _ => cases kind
  | readInit maxPlayers =>
      cases taken
      exact ⟨first, (Loses.refl puppets).keepsOwners⟩
  | _ => cases kind

/-- A step that does not see its user makes two entries of one. -/
theorem sees_of_oneEach (kind : isSlotPacket event = true)
    (taken : puppets.step findStr event = some next) (one : next.OneEach)
    : puppets.SeesUser event := by
  cases event with
  | readPacket isHideAndSeek id packet =>
      intro index slot free hidden behind owned
      cases packet with
      | playerConnect clientName =>
          obtain ⟨seen, info, member⟩ := connectTarget_entry slot
          rcases updatePlayerConnect_cases taken with ⟨occupied, -⟩ | ⟨other, target, -, rfl⟩
          · rw [occupied index slot] at free
            cases free
          · obtain rfl := Option.some.inj (slot.symm.trans target)
            exact not_oneEach_of_hidden member ⟨rfl, rfl⟩
              (Nat.ne_of_lt (Nat.lt_of_lt_of_le seen behind)) owned one
      | playerInf pos rot weights act subAct =>
          obtain ⟨seen, ⟨info, member, has⟩, -⟩ := ownEntry_eq_some slot
          rcases updateFound_cases taken with ⟨absent, -⟩ | ⟨other, own, rfl⟩
          · cases absent.symm.trans slot
          · obtain rfl := Option.some.inj (slot.symm.trans own)
            exact not_oneEach_of_hidden member ⟨rfl, has⟩
              (Nat.ne_of_lt (Nat.lt_of_lt_of_le seen behind)) owned one
      | _ => cases slot
  | readInit maxPlayers => trivial
  | _ => cases kind

theorem firstEach_initial (mUserID : Guid) : (initial mUserID).FirstEach := by
  rintro id index ⟨info, member, connected, -⟩
  obtain ⟨number, -, rfl⟩ := List.mem_map.mp (List.mem_of_getElem? member)
  cases connected

/-- While a player is connected somewhere, nothing is found but the player's entry, or one that
nobody is connected in and that the packet leaves so.
-/
theorem found_own {own index : Nat} {id : Guid} {isHideAndSeek : Bool} {packet : PuppetPacket}
    (first : puppets.FirstEach)
    (kind : isSlotPacket (.readPacket isHideAndSeek id packet) = true)
    (sees : puppets.SeesUser (.readPacket isHideAndSeek id packet))
    (owned : puppets.OwnedBy own id)
    (found : puppets.findPuppetInfo id packet.isFindAvailable = .entry index)
    : index = own ∨ (packet = .playerDC ∧ puppets.isConnectedAt index = false) := by
  rcases Nat.lt_or_ge own puppets.window with seen | hidden
  · have mine := ownEntry_of_owned first owned seen
    rw [findPuppetInfo_own mine] at found
    exact .inl (Found.entry.inj found).symm
  · cases connected : puppets.isConnectedAt index with
    | true =>
        rcases findPuppetInfo_entry found with mine | ⟨-, -, free⟩
        · obtain ⟨-, ⟨info, member, has⟩, -⟩ := ownEntry_eq_some mine
          rw [isConnectedAt_eq member] at connected
          exact .inl (first.oneEach id index own ⟨info, member, connected, has⟩ owned)
        · obtain ⟨-, info, member, there⟩ := visible_entry free
          rw [isConnectedAt_eq member] at connected
          simp [connected] at there
    | false =>
        have unseen (slot : puppets.slotOf id packet = some index) : False :=
          sees index slot connected own hidden owned
        cases packet with
        | playerConnect clientName =>
            apply (unseen _).elim
            rcases findPuppetInfo_entry found with mine | ⟨absent, -, free⟩
            · exact Option.or_eq_some_iff.mpr (.inl mine)
            · exact Option.or_eq_some_iff.mpr (.inr ⟨absent, free⟩)
        | playerInf pos rot weights act subAct =>
            apply (unseen _).elim
            rcases findPuppetInfo_entry found with mine | ⟨-, looksFor, -⟩
            · exact mine
            · cases looksFor
        | playerDC => exact .inr ⟨rfl, rfl⟩
        | _ => cases kind

end Puppets

-----------------------------------------------------------------------------------------
-- Entries in memory
-----------------------------------------------------------------------------------------

namespace PuppetArray

open Runs Span Layout PuppetMemory
open Puppets (Event KeepsOwners isSlotPacket)

variable {array next : PuppetArray} {event : Event}

/-- A packet of a connected player changes no entry but the player's. -/
def ChangesOwnOnly (array : PuppetArray) (event : Event) (next : PuppetArray) : Prop :=
  match event with
  | .readPacket _ id _ =>
      ∀ own, array.puppets.OwnedBy own id →
        ∀ index, index ≠ own → next.mPuppetInfoArr[index]? = array.mPuppetInfoArr[index]?
  | _ => True

/-- After a step each player has one entry, which was nobody else's, and nobody else's changed. -/
def OneSlotAfter (array : PuppetArray) (event : Event) : Prop :=
  ∀ next,
    array.step event = some next
    → next.puppets.OneEach
      ∧ KeepsOwners array.puppets next.puppets
      ∧ ChangesOwnOnly array event next

/-- The name of a player who gets an entry has room there. -/
def NameFits (array : PuppetArray) : Event → Prop
  | .readPacket _ id (.playerConnect clientName) =>
      ∀ index,
        array.puppets.findPuppetInfo id true = .entry index
        → array.puppets.isConnectedAt index = false
        → (strcpy clientName).length < 0x10
  | _ => True

/-- It is the only text of these packets. -/
theorem NameFits.textsFit (fits : array.NameFits event) (kind : isSlotPacket event = true)
    : array.TextsFit event := by
  cases event with
  | readPacket isHideAndSeek id packet =>
      intro _ index entry found member
      cases packet with
      | playerConnect clientName =>
          intro free
          rw [← isConnectedAt_entry member] at free
          exact fits index found free
      | playerInf pos rot weights act subAct => trivial
      | playerDC => trivial
      | _ => cases kind
  | _ => trivial

theorem changesOwnOnly_step (first : array.puppets.FirstEach) (kind : isSlotPacket event = true)
    (sees : array.puppets.SeesUser event) (taken : array.step event = some next)
    : ChangesOwnOnly array event next := by
  cases event with
  | readPacket isHideAndSeek id packet =>
      intro own owned other apart
      rcases readPacket_cases taken with ⟨-, rfl⟩ | ⟨index, entry, -, found, member, rfl⟩
      · rfl
      · simp only [set, List.getElem?_set]
        split_ifs with same inside
        · subst same
          rcases Puppets.found_own first kind sees owned found with mine | ⟨rfl, away⟩
          · exact absurd mine apart
          · have left : writes entry id .playerDC = [] := by
              rw [isConnectedAt_entry member] at away
              simp [writes, disconnectPlayer, away]
            rw [left, member]
            rfl
        · subst same
          exact (List.getElem?_eq_none (Nat.not_lt.mp inside)).symm
        · rfl
  | _ => trivial

/-- In every run of packets about who is there whose names fit, each step leaves each player one
entry, which was nobody else's, and everybody else's as it was, exactly when each step sees its
user.
-/
theorem oneSlot_iff (mUserID : Guid) {events : List Event} {array : PuppetArray}
    : Run step
        (fun before event =>
          isSlotPacket event = true ∧ before.NameFits event ∧ before.puppets.SeesUser event)
        (initial mUserID) events array
      ↔ Run step
          (fun before event =>
            isSlotPacket event = true ∧ before.NameFits event ∧ before.OneSlotAfter event)
          (initial mUserID) events array := by
  have refines {array next : PuppetArray} {event : Event} (kind : isSlotPacket event = true)
      (fits : array.NameFits event) (taken : array.step event = some next)
      : array.puppets.step PlayerAnims.findStr event = some next.puppets := by
    rw [← step_refines (fits.textsFit kind), taken, Option.map_some]
  apply Run.congr fun array => array.puppets.FirstEach
  · rw [puppets_initial]
    exact Puppets.firstEach_initial mUserID
  · rintro before event after first ⟨kind, fits, sees⟩ taken
    exact (Puppets.slots_kept first kind sees (refines kind fits taken)).firstEach
  · intro before event after first taken
    constructor
    · rintro ⟨kind, fits, sees⟩
      refine ⟨kind, fits, ?_⟩
      intro next again
      obtain ⟨firstAfter, owners⟩ := Puppets.slots_kept first kind sees (refines kind fits again)
      exact ⟨firstAfter.oneEach, owners, changesOwnOnly_step first kind sees again⟩
    · rintro ⟨kind, fits, right⟩
      exact ⟨kind, fits,
        Puppets.sees_of_oneEach kind (refines kind fits taken) (right after taken).1⟩

/-- The run in which a player gets a second entry: the window shrinks below the first one, and
the player connects again.
-/
def secondEntry : List Event :=
  [.readPacket false ⟨2⟩ (.playerConnect []), .readPacket false ⟨3⟩ (.playerConnect []),
    .readPacket false ⟨2⟩ .playerDC, .readInit 2,
    .readPacket false ⟨3⟩ (.playerConnect [])]

/-- A player who connects again while the server has announced fewer players than before is
connected in two entries.
-/
theorem two_entries
    : ∃ array,
        Run step (fun _ event => isSlotPacket event = true) (initial ⟨1⟩) secondEntry array
        ∧ array.puppets.OwnedBy 0 ⟨3⟩
        ∧ array.puppets.OwnedBy 1 ⟨3⟩
        ∧ ¬array.puppets.OneEach := by
  obtain ⟨array, run, first, second⟩ := @exists_initial_run ⟨1⟩ secondEntry
    (fun puppets =>
      (puppets.mPuppetInfoArr[0]?).map (fun info => (info.isConnected, info.playerID))
        = some (true, ⟨3⟩)
      ∧ (puppets.mPuppetInfoArr[1]?).map (fun info => (info.isConnected, info.playerID))
        = some (true, ⟨3⟩))
    inferInstance (by decide +kernel) (by decide)
  have owned {index : Nat}
      (there
        : (array.puppets.mPuppetInfoArr[index]?).map
            (fun info => (info.isConnected, info.playerID)) = some (true, ⟨3⟩))
      : array.puppets.OwnedBy index ⟨3⟩ := by
    obtain ⟨info, member, same⟩ := Option.map_eq_some_iff.mp there
    exact ⟨info, member, congrArg Prod.fst same, congrArg Prod.snd same⟩
  have anyRun : AnyRun step (initial ⟨1⟩) secondEntry array := run.mono fun _ => trivial
  refine ⟨array, anyRun.of_events (by decide), owned first, owned second, ?_⟩
  intro one
  cases one ⟨3⟩ 0 1 (owned first) (owned second)

end PuppetArray

end SmoOnline.Mod
