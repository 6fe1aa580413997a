import SmoOnline.Library.Lists
import SmoOnline.Mod.PuppetArray

/-! The count of connected players and the entries that are connected: a packet with a player's
position connects an entry without counting it, a name as long as its buffer ends in the octet
behind it, and a restart of the connection forgets the count without clearing an entry.
-/

namespace SmoOnline.Mod

open Runs Span Layout PuppetMemory

-----------------------------------------------------------------------------------------
-- Whether an entry is connected
-----------------------------------------------------------------------------------------

namespace PuppetMemory

variable {entry : Memory UInt8} {id : Guid}

theorem isSet_isConnected (entry : Memory UInt8)
    : isSet entry .isConnected = (entry 0x10 != 0) := by
  have octet : InfoField.record.read entry .isConnected = [entry 0x10] := rfl
  rw [isSet, octet]
  change decide (UInt8.ofNat (leValue [entry 0x10]) ≠ 0) = _
  simp [leValue, bne, beq_eq_decide]

/-- Only the name lies in front of it. -/
theorem isConnected_before {field : InfoField}
    (behind : field ≠ .puppetName ∧ field ≠ .isConnected)
    : InfoField.record.offset .isConnected + InfoField.record.size .isConnected
      ≤ InfoField.record.offset field := by
  cases field with
  | puppetName => exact absurd rfl behind.1
  | isConnected => exact absurd rfl behind.2
  | blendWeights index =>
      revert index
      decide +kernel
  | _ => decide +kernel

/-- The other handlers write only behind it, however far. -/
theorem isConnected_left {writes : List (Write InfoField UInt8)}
    (behind : ∀ write ∈ writes, write.field ≠ .puppetName ∧ write.field ≠ .isConnected)
    : isSet (InfoField.record.putAll entry writes) .isConnected = isSet entry .isConnected := by
  rw [isSet, Record.read_putAll_of_before fun write member =>
    isConnected_before (behind write member), isSet]

/-- A name that is copied leaves its entry connected, unless it is as long as its buffer: a longer
one leaves a letter there.
-/
theorem isSet_copied (entry : Memory UInt8) (clientName : Bytes)
    : isSet
        (InfoField.record.putAll entry
          [assign .playerID id, assign .isConnected true, copy .puppetName clientName])
        .isConnected
      = decide ((strcpy clientName).length ≠ 0x10) := by
  have octet
      : InfoField.record.putAll entry
          [assign .playerID id, assign .isConnected true, copy .puppetName clientName] 0x10
        = ((strcpy clientName ++ [0])[0x10]?).getD 1 := rfl
  rw [isSet_isConnected, octet]
  rcases Nat.lt_trichotomy (strcpy clientName).length 0x10 with short | exact | long
  · rw [List.getElem?_append_right (Nat.le_of_lt short),
      List.getElem?_eq_none (by simp; omega)]
    simp [Nat.ne_of_lt short]
  · rw [List.getElem?_append_right (Nat.le_of_eq exact), exact]
    decide
  · rw [List.getElem?_append_left long, List.getElem?_eq_getElem long]
    have letter : (strcpy clientName)[0x10] ≠ 0 := by
      simpa using List.mem_takeWhile_imp (List.getElem_mem long)
    simp [letter, Nat.ne_of_gt long]

/-- Whether the entry is connected after a packet of its user. -/
def connectedAfter (connected : Bool) : PuppetPacket → Bool
  | .playerInf _ _ _ _ _ => true
  | .playerConnect clientName => connected || (strcpy clientName).length ≠ 0x10
  | .playerDC => false
  | _ => connected

theorem isSet_writes (entry : Memory UInt8) (id : Guid) (packet : PuppetPacket)
    : isSet (InfoField.record.putAll entry (writes entry id packet)) .isConnected
      = connectedAfter (isSet entry .isConnected) packet := by
  have others {writes : List (Write InfoField UInt8)}
      (behind : ∀ write ∈ writes, write.field ≠ .puppetName ∧ write.field ≠ .isConnected)
      := @isConnected_left entry writes behind
  cases packet with
  | playerInf pos rot weights act subAct =>
      exact congrArg PuppetInfo.isConnected
        (infoOf_writes entry id (.playerInf pos rot weights act subAct) trivial)
  | playerDC =>
      have after := congrArg PuppetInfo.isConnected (infoOf_writes entry id .playerDC trivial)
      rw [PuppetInfo.isConnected_receive] at after
      exact after
  | playerConnect clientName =>
      simp only [writes, updatePlayerConnect, connectedAfter]
      cases connected : isSet entry .isConnected with
      | true => exact connected
      | false => exact isSet_copied entry clientName
  | gameInf is2D scenarioNum stageName =>
      apply others
      simp only [writes, updateGameInfo]
      split_ifs <;> simp [assign, copy]
  | captureInf hackName =>
      apply others
      simp only [writes, updateCaptureInfo]
      split_ifs <;> simp [assign, copy]
  | _ => exact others (by simp [writes, updateHackCapInfo, updateCostumeInfo, assign, copy])

end PuppetMemory

-----------------------------------------------------------------------------------------
-- The count
-----------------------------------------------------------------------------------------

namespace PuppetArray

open Puppets (Event)

variable {array next : PuppetArray} {event : Event}

/-- How many entries are connected. -/
def connectedCount (array : PuppetArray) : Nat :=
  array.mPuppetInfoArr.countP (isSet · .isConnected)

/-- `mConnectCount` counts the connected entries. -/
def Counts (array : PuppetArray) : Prop := array.mConnectCount = array.connectedCount

instance (array : PuppetArray) : Decidable array.Counts :=
  inferInstanceAs (Decidable (array.mConnectCount = array.connectedCount))

/-- What is right for the count about a packet whose entry is found: a player's position comes for
one that is connected, and a name that is copied does not end right behind its buffer.
-/
def KeepsConnected (isConnected : Bool) : PuppetPacket → Prop
  | .playerInf _ _ _ _ _ => isConnected = true
  | .playerConnect clientName => isConnected = false → (strcpy clientName).length ≠ 0x10
  | _ => True

/-- Every packet is right for the entry that is found, if one is, and the connection is not
restarted while an entry is connected.
-/
def KeepsCount (array : PuppetArray) : Event → Prop
  | .readPacket isHideAndSeek id packet =>
      array.puppets.looksUp isHideAndSeek id packet = true
      → ∀ index,
          array.puppets.findPuppetInfo id packet.isFindAvailable = .entry index
          → KeepsConnected (array.puppets.isConnectedAt index) packet
  | .restartConnection => array.connectedCount = 0
  | _ => True

/-- A packet that is right for its entry changes the count by as much as the entry changes the
number of those that are connected.
-/
theorem keepsConnected_iff {isConnected : Bool} {count : Nat}
    (among : isConnected = true → 0 < count) (packet : PuppetPacket)
    : KeepsConnected isConnected packet
      ↔ packet.countAfter isConnected count
        = ((count - isConnected.toNat + (connectedAfter isConnected packet).toNat : Nat)
            : Int) := by
  have more : (count : Int) ≠ count + 1 := by omega
  cases isConnected with
  | false =>
      cases packet with
      | playerConnect clientName =>
          by_cases exact : (strcpy clientName).length = 0x10
          · simp [KeepsConnected, connectedAfter, PuppetPacket.countAfter, exact, more.symm]
          · simp [KeepsConnected, connectedAfter, PuppetPacket.countAfter, exact]
      | playerInf pos rot weights act subAct =>
          simp [KeepsConnected, connectedAfter, PuppetPacket.countAfter, more]
      | _ => simp [KeepsConnected, connectedAfter, PuppetPacket.countAfter]
  | true =>
      have some := among rfl
      cases packet <;> simp [KeepsConnected, connectedAfter, PuppetPacket.countAfter] <;> omega

/-- A packet whose entry is found, while the count is right, leaves it so exactly where it is right
for the entry.
-/
theorem receive_counts {index : Nat} {entry : Memory UInt8} {id : Guid} {packet : PuppetPacket}
    (counts : array.Counts) (member : array.mPuppetInfoArr[index]? = some entry)
    : KeepsConnected (isSet entry .isConnected) packet
      ↔ Counts
          { array.set index (InfoField.record.putAll entry (writes entry id packet)) with
            mConnectCount :=
              packet.countAfter (isSet entry .isConnected) array.mConnectCount } := by
  have before : array.mConnectCount = array.connectedCount := counts
  obtain ⟨inside, there⟩ := List.getElem?_eq_some_iff.mp member
  have among (connected : isSet entry .isConnected = true) : 0 < array.connectedCount :=
    List.countP_pos_iff.mpr ⟨entry, List.mem_of_getElem? member, connected⟩
  have after
      : (array.set index (InfoField.record.putAll entry (writes entry id packet))).connectedCount
        = array.connectedCount - (isSet entry .isConnected).toNat
          + (connectedAfter (isSet entry .isConnected) packet).toNat := by
    rw [connectedCount, connectedCount, set]
    dsimp only
    rw [List.countP_set inside, there, isSet_writes]
    cases isSet entry .isConnected <;> cases connectedAfter _ packet <;> rfl
  rw [keepsConnected_iff among, before, ← after]
  exact Iff.rfl

/-- What a scene does with its puppets connects and disconnects nobody. -/
theorem connectedCount_holderUpdate (array : PuppetArray)
    : array.holderUpdate.connectedCount = array.connectedCount := by
  apply Lists.countP_mapIdx
  intro index entry
  split_ifs
  · exact isConnected_left (by simp [assign])
  · rfl

/-- One step: while the count is right, it is so after the step exactly when the step keeps it. -/
theorem counts_step (counts : array.Counts) (taken : array.step event = some next)
    : array.KeepsCount event ↔ next.Counts := by
  have before : array.mConnectCount = array.connectedCount := counts
  cases event with
  | readPacket isHideAndSeek id packet =>
      rcases readPacket_cases taken with ⟨nothing, rfl⟩ | ⟨index, entry, about, found, member, rfl⟩
      · exact iff_of_true (fun looked index found => absurd found (nothing looked index)) counts
      · rw [← receive_counts counts member, KeepsCount]
        simp only [about, found, Puppets.Found.entry.injEq, forall_eq', forall_const,
          isConnectedAt_entry member]
  | restartConnection =>
      cases taken
      change array.connectedCount = 0 ↔ (0 : Int) = array.connectedCount
      omega
  | update =>
      cases taken
      exact iff_of_true trivial
        (before.trans (congrArg Nat.cast (connectedCount_holderUpdate array).symm))
  | createPuppetActor =>
      cases taken
      refine iff_of_true trivial ?_
      split_ifs
      · exact counts
      · exact counts
  | updateFlags red blue =>
      simp only [step] at taken
      split_ifs at taken
      cases taken
      exact iff_of_true trivial counts
  | playerList =>
      simp only [step] at taken
      split_ifs at taken
      cases taken
      exact iff_of_true trivial counts
  | _ =>
      cases taken
      exact iff_of_true trivial counts

theorem counts_initial (mUserID : Guid) : (initial mUserID).Counts := by
  have none_connected : (initial mUserID).connectedCount = 0 := by
    apply List.countP_eq_zero.mpr
    intro entry member
    obtain ⟨index, among, rfl⟩ := List.mem_map.mp member
    have fresh := congrArg PuppetInfo.isConnected (infoOf_newEntry index (List.mem_range.mp among))
    exact Bool.eq_false_iff.mp fresh
  rw [Counts, none_connected]
  rfl

/-- In every run the count is right after each step exactly when each step keeps it. -/
theorem connectCount_iff (mUserID : Guid) {events : List Event} {array : PuppetArray}
    : Run step KeepsCount (initial mUserID) events array
      ↔ Run step (Into step Counts) (initial mUserID) events array :=
  Run.into_iff (counts_initial mUserID) fun counts taken => counts_step counts taken

/-- A player's position that comes behind its disconnect, and another disconnect. -/
def positionBehind : List Event :=
  [.readPacket false ⟨2⟩ (.playerConnect []), .readPacket false ⟨2⟩ .playerDC,
    .readPacket false ⟨2⟩ (.playerInf ⟨0, 0, 0⟩ ⟨0, 0, 0, 0⟩ [] (-1) (-1)),
    .readPacket false ⟨2⟩ .playerDC]

/-- The entry is connected again by the position, and with the other disconnect the count is
negative.
-/
theorem position_behind_disconnect
    : ∃ array,
        AnyRun step (initial ⟨1⟩) positionBehind array
        ∧ array.mConnectCount = -1
        ∧ array.connectedCount = 0
        ∧ ¬array.Counts := by
  obtain ⟨array, run, count, none_connected⟩ := @exists_initial_run ⟨1⟩ positionBehind
    (fun puppets =>
      puppets.mConnectCount = -1 ∧ puppets.mPuppetInfoArr.countP PuppetInfo.isConnected = 0)
    inferInstance (by decide +kernel) (by decide)
  have count : array.mConnectCount = -1 := count
  have none_connected : array.connectedCount = 0 := by
    rw [puppets, List.countP_map] at none_connected
    exact none_connected
  refine ⟨array, run.mono fun _ => trivial, count, none_connected, ?_⟩
  rw [Counts, count, none_connected]
  decide

end PuppetArray

end SmoOnline.Mod
