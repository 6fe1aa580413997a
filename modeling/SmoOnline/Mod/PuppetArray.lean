import SmoOnline.Library.Runs
import SmoOnline.Mod.PuppetMemory

/-! The array of entries as it lies in memory. The handlers write octets, so that a text that is too
long changes other fields. Where texts fit, the array does what the entries do as values.
-/

namespace SmoOnline.Mod

open Runs Span Layout PuppetMemory

-----------------------------------------------------------------------------------------
-- Entries in memory
-----------------------------------------------------------------------------------------

/-- `sizeof(PuppetInfo)` without the padding at its end -/
def InfoField.sizeof : Nat := record.offset .ctfTeam + record.size .ctfTeam

theorem InfoField.end_le_sizeof (field : InfoField)
    : record.offset field + record.size field ≤ sizeof := by
  cases field with
  | blendWeights index =>
      revert index
      decide +kernel
  | _ => decide +kernel

/-- Nothing is written behind the entry. -/
def StayInEntry (writes : List (Write InfoField UInt8)) : Prop :=
  ∀ write ∈ writes,
    InfoField.record.offset write.field + write.octets.length ≤ InfoField.sizeof

instance (writes : List (Write InfoField UInt8)) : Decidable (StayInEntry writes) :=
  inferInstanceAs (Decidable (∀ write ∈ writes, _))

theorem stayInEntry_of_fit {writes : List (Write InfoField UInt8)}
    (fit : ∀ write ∈ writes, InfoField.record.Fits write)
    : StayInEntry writes :=
  fun write member =>
    Nat.le_trans (Nat.add_le_add_left (fit write member) _) write.field.end_le_sizeof

/-- The packets whose handler looks for an entry to give away. -/
def PuppetPacket.isFindAvailable : PuppetPacket → Bool
  | .playerConnect _ => true
  | _ => false

/-- What a packet makes of `mConnectCount`, by whether the entry that was found is connected. -/
def PuppetPacket.countAfter (isConnected : Bool) (mConnectCount : Int) : PuppetPacket → Int
  | .playerConnect _ => if isConnected then mConnectCount else mConnectCount + 1
  | .playerDC => if isConnected then mConnectCount - 1 else mConnectCount
  | _ => mConnectCount

-----------------------------------------------------------------------------------------
-- What is found and written
-----------------------------------------------------------------------------------------

namespace Puppets

variable {puppets : Puppets} {findStr : Int16 → Bytes} {id : Guid} {index : Nat}

/-- What is found is the user's entry, or else a free one if that is looked for. -/
theorem findPuppetInfo_entry {isFindAvailable : Bool}
    (found : puppets.findPuppetInfo id isFindAvailable = .entry index)
    : puppets.ownEntry id = some index
      ∨ (puppets.ownEntry id = none ∧ isFindAvailable = true
        ∧ puppets.freeEntry = some index) := by
  cases own : puppets.ownEntry id with
  | some place =>
      rw [findPuppetInfo_own own] at found
      exact .inl (congrArg some (Found.entry.inj found))
  | none =>
      cases isFindAvailable with
      | false =>
          rw [findPuppetInfo_absent own] at found
          split_ifs at found
      | true =>
          rw [findPuppetInfo_free own] at found
          split_ifs at found
          cases free : puppets.freeEntry with
          | none =>
              rw [free] at found
              cases found
          | some place =>
              rw [free] at found
              cases found
              exact .inr ⟨rfl, rfl, rfl⟩

/-- It is visible, and there. -/
theorem findPuppetInfo_there {isFindAvailable : Bool}
    (found : puppets.findPuppetInfo id isFindAvailable = .entry index)
    : index < puppets.window ∧ ∃ info, puppets.mPuppetInfoArr[index]? = some info := by
  rcases findPuppetInfo_entry found with own | ⟨-, -, free⟩
  · obtain ⟨seen, info, member, -⟩ := visible_entry own
    exact ⟨seen, info, member⟩
  · obtain ⟨seen, info, member, -⟩ := visible_entry free
    exact ⟨seen, info, member⟩

/-- Two writes that come to the same for the entry come to the same. -/
theorem modify_congr {first second : PuppetInfo → PuppetInfo}
    (same : ∀ info, puppets.mPuppetInfoArr[index]? = some info → first info = second info)
    : puppets.modify index first = puppets.modify index second := by
  have entries
      : puppets.mPuppetInfoArr.modify index first
        = puppets.mPuppetInfoArr.modify index second := by
    apply List.ext_getElem?
    intro other
    rw [List.getElem?_modify, List.getElem?_modify]
    rcases eq_or_ne index other with rfl | elsewhere
    · cases member : puppets.mPuppetInfoArr[index]? with
      | none => rfl
      | some info => simp [same info member]
    · simp [elsewhere]
  simp only [modify, entries]

theorem modify_same {write : PuppetInfo → PuppetInfo}
    (same : ∀ info, puppets.mPuppetInfoArr[index]? = some info → write info = info)
    : puppets.modify index write = puppets := by
  rw [modify_congr same]
  have entries : puppets.mPuppetInfoArr.modify index (fun info => info) = puppets.mPuppetInfoArr :=
    List.modify_id index puppets.mPuppetInfoArr
  simp only [modify, entries]

/-- The entry of a user gets what the user has sent. -/
def receive (findStr : Int16 → Bytes) (puppets : Puppets) (index : Nat) (id : Guid)
    (packet : PuppetPacket)
    : Puppets :=
  { puppets.modify index (PuppetInfo.receive findStr id · packet) with
    mConnectCount := packet.countAfter (puppets.isConnectedAt index) puppets.mConnectCount }

/-- What is found is written to, or left as it is, by whether somebody is connected there. -/
theorem receive_found {isConnected : Bool} {info : PuppetInfo}
    (member : puppets.mPuppetInfoArr[index]? = some info)
    (connected : info.isConnected = isConnected) {packet : PuppetPacket}
    (write : PuppetInfo → PuppetInfo)
    (writes : info.receive findStr id packet = write info)
    : receive findStr puppets index id packet
      = { puppets.modify index write with
          mConnectCount := packet.countAfter isConnected puppets.mConnectCount } := by
  have same
      : puppets.modify index (PuppetInfo.receive findStr id · packet)
        = puppets.modify index write := by
    apply modify_congr
    intro other there
    obtain rfl := Option.some.inj (member.symm.trans there)
    exact writes
  rw [receive, isConnectedAt_eq member, connected, same]

/-- The handlers as one: what they look for, and what comes of the entry they find. -/
theorem readPacket_eq (findStr : Int16 → Bytes) (puppets : Puppets) (isHideAndSeek : Bool)
    (id : Guid) (packet : PuppetPacket)
    : puppets.readPacket findStr isHideAndSeek id packet
      = if puppets.looksUp isHideAndSeek id packet then
          match puppets.findPuppetInfo id packet.isFindAvailable with
          | .entry index => some (receive findStr puppets index id packet)
          | .nullptr => some puppets
          | .outOfBounds => none
        else some puppets := by
  have kept (index : Nat) : puppets.modify index (fun info => info) = puppets :=
    modify_same fun _ _ => rfl
  cases packet with
  | playerConnect clientName =>
      simp only [readPacket, updatePlayerConnect, looksUp, PuppetPacket.isFindAvailable, if_true]
      cases found : puppets.findPuppetInfo id true with
      | entry index =>
          obtain ⟨-, info, member⟩ := findPuppetInfo_there found
          simp only [isConnectedAt_eq member]
          cases connected : info.isConnected with
          | true =>
              have left : info.receive findStr id (.playerConnect clientName) = info :=
                if_pos connected
              rw [if_pos rfl, receive_found member connected (fun info => info) left, kept]
              rfl
          | false =>
              have given
                  : info.receive findStr id (.playerConnect clientName)
                    = info.connect id clientName :=
                if_neg (Bool.eq_false_iff.mp connected)
              rw [if_neg Bool.false_ne_true,
                receive_found member connected (PuppetInfo.connect · id clientName) given]
              rfl
      | nullptr => rfl
      | outOfBounds => rfl
  | playerDC =>
      simp only [readPacket, disconnectPlayer, looksUp, PuppetPacket.isFindAvailable, if_true]
      cases found : puppets.findPuppetInfo id false with
      | entry index =>
          obtain ⟨-, info, member⟩ := findPuppetInfo_there found
          simp only [isConnectedAt_eq member]
          cases connected : info.isConnected with
          | true =>
              have left : info.receive findStr id .playerDC = info.disconnect := if_pos connected
              rw [if_pos rfl, receive_found member connected PuppetInfo.disconnect left]
              rfl
          | false =>
              have still : info.receive findStr id .playerDC = info :=
                if_neg (Bool.eq_false_iff.mp connected)
              rw [if_neg Bool.false_ne_true,
                receive_found member connected (fun info => info) still, kept]
              rfl
      | nullptr => rfl
      | outOfBounds => rfl
  | tagInf isIt seconds minutes =>
      simp only [readPacket, updateTagInfo, looksUp, decide_eq_true_eq, ite_not]
      rfl
  | playerTeamAssignment team =>
      simp only [readPacket, updateCTFPlayerTeamAssignment, looksUp, decide_eq_true_eq]
      rfl
  | _ => rfl

end Puppets

-----------------------------------------------------------------------------------------
-- The array
-----------------------------------------------------------------------------------------

/-- The entries of `Client` in memory, each of them an object of its own, with what `Puppets` has
besides.
-/
structure PuppetArray where
  mUserID : Guid
  mConnectCount : Int := 0
  maxPuppets : Int32 := 9
  mPuppetInfoArr : List (Memory UInt8)
  sized : mPuppetInfoArr.length = maxPupIndex
  holderSize : Nat := 0
  mStageName : Bytes := []
  mScenarioNo : UInt8 := 0

namespace PuppetArray

open Puppets (Event)

/-- A new entry, with the name that is printed into it. -/
def newEntry (index : Nat) : Memory UInt8 :=
  InfoField.record.putAll (fun _ => 0)
    [assign .scenarioNo (255 : UInt8), copy .puppetName (Puppets.puppetName index)]

/-- `Client::Client` -/
def initial (mUserID : Guid) : PuppetArray where
  mUserID
  mPuppetInfoArr := (List.range maxPupIndex).map newEntry
  sized := by simp

variable (array : PuppetArray)

/-- What the fields of the entries hold, a text that is not ended in its buffer being as long as
the buffer. All that only reads is as it is there.
-/
def puppets : Puppets where
  mUserID := array.mUserID
  mConnectCount := array.mConnectCount
  maxPuppets := array.maxPuppets
  mPuppetInfoArr := array.mPuppetInfoArr.map infoOf
  sized := by rw [List.length_map, array.sized]
  holderSize := array.holderSize
  mStageName := array.mStageName
  mScenarioNo := array.mScenarioNo

/-- An entry becomes another one. -/
def set (index : Nat) (entry : Memory UInt8) : PuppetArray :=
  { array with
    mPuppetInfoArr := array.mPuppetInfoArr.set index entry
    sized := by rw [List.length_set, array.sized] }

/-- A handler that has found its entry. Nothing is said of what comes of writing behind it. -/
def receive (index : Nat) (id : Guid) (packet : PuppetPacket) : Option PuppetArray :=
  (array.mPuppetInfoArr[index]?).bind fun entry =>
    if StayInEntry (writes entry id packet) then
      some
        { array.set index (InfoField.record.putAll entry (writes entry id packet)) with
          mConnectCount := packet.countAfter (isSet entry .isConnected) array.mConnectCount }
    else none

/-- `readFunc` on a packet of a user: the handlers differ in what they look for, and in what
`PuppetMemory.writes` has of each of them.
-/
def readPacket (isHideAndSeek : Bool) (id : Guid) (packet : PuppetPacket) : Option PuppetArray :=
  if array.puppets.looksUp isHideAndSeek id packet then
    match array.puppets.findPuppetInfo id packet.isFindAvailable with
    | .entry index => array.receive index id packet
    | .nullptr => some array
    | .outOfBounds => none
  else some array

/-- `PuppetHolder::update` -/
def holderUpdate : PuppetArray :=
  { array with
    mPuppetInfoArr := array.mPuppetInfoArr.mapIdx fun index entry =>
      if index < array.holderSize then
        InfoField.record.putAll entry
          [assign .isInSameStage (array.puppets.checkInfoIsInStage (infoOf entry))]
      else entry
    sized := by rw [List.length_mapIdx, array.sized] }

/-- A step, which is not defined where it reads behind the array or writes behind an entry. -/
def step : Event → Option PuppetArray
  | .readPacket isHideAndSeek id packet => array.readPacket isHideAndSeek id packet
  | .readInit maxPlayers => some { array with maxPuppets := (maxPlayers - 1).toInt32 }
  | .restartConnection => some { array with mConnectCount := 0 }
  | .setStageInfo stageName scenarioNo =>
      some { array with mStageName := stageName, mScenarioNo := scenarioNo }
  | .clearArrays => some { array with holderSize := 0 }
  | .createPuppetActor =>
      some
        (if array.holderSize < Puppets.holderCapacity then
          { array with holderSize := array.holderSize + 1 }
        else array)
  | .update => some array.holderUpdate
  | .checkTagged | .hideAndSeekUpdate => some array
  | .updateFlags red blue =>
      if (array.puppets.heldPlayers red blue).all fun id =>
          array.puppets.findPuppetInfo id false ≠ .outOfBounds
      then some array
      else none
  | .playerList =>
      if array.puppets.playerListIndices.all fun index => Puppets.InBounds index then some array
      else none

-----------------------------------------------------------------------------------------
-- Texts that fit
-----------------------------------------------------------------------------------------

/-- What the handler of a packet is to copy has room in the entry that is found. -/
def TextsFit (array : PuppetArray) : Event → Prop
  | .readPacket isHideAndSeek id packet =>
      array.puppets.looksUp isHideAndSeek id packet = true
      → ∀ index entry,
          array.puppets.findPuppetInfo id packet.isFindAvailable = .entry index
          → array.mPuppetInfoArr[index]? = some entry
          → PuppetMemory.TextsFit entry packet
  | _ => True

/-- The texts of a packet fit whatever the entry is. -/
def Short : Event → Prop
  | .readPacket _ _ packet =>
      match packet with
      | .playerConnect clientName => (strcpy clientName).length < 0x10
      | .gameInf _ _ stageName => (strcpy stageName).length < 0x40
      | .hackCapInf _ _ _ capAnim => (strcpy capAnim).length < PlayerAnims.packBufSize
      | .captureInf hackName => (strcpy hackName).length < 0x40
      | .costumeInf bodyModel capModel =>
          (strcpy bodyModel).length < 0x20 ∧ (strcpy capModel).length < 0x20
      | .playerInf _ _ _ _ _ | .playerDC | .tagInf _ _ _ | .playerTeamAssignment _ => True
  | _ => True

instance : DecidablePred Short := fun event => by
  unfold Short
  split
  · split <;> infer_instance
  · infer_instance

end PuppetArray

-----------------------------------------------------------------------------------------
-- The array as values
-----------------------------------------------------------------------------------------

namespace PuppetArray

open Puppets (Event)

variable {array next : PuppetArray} {event : Event} {index : Nat} {id : Guid}
variable {packet : PuppetPacket} {entry : Memory UInt8}

theorem puppets_getElem? (array : PuppetArray) (index : Nat)
    : array.puppets.mPuppetInfoArr[index]? = (array.mPuppetInfoArr[index]?).map infoOf :=
  List.getElem?_map

theorem isConnectedAt_entry (member : array.mPuppetInfoArr[index]? = some entry)
    : array.puppets.isConnectedAt index = isSet entry .isConnected :=
  Puppets.isConnectedAt_eq (by rw [puppets_getElem?, member, Option.map_some])

/-- What is found is an entry in memory. -/
theorem found_entry {isFindAvailable : Bool}
    (found : array.puppets.findPuppetInfo id isFindAvailable = .entry index)
    : ∃ entry, array.mPuppetInfoArr[index]? = some entry := by
  obtain ⟨-, info, member⟩ := Puppets.findPuppetInfo_there found
  rw [puppets_getElem?] at member
  obtain ⟨entry, there, -⟩ := Option.map_eq_some_iff.mp member
  exact ⟨entry, there⟩

/-- What a packet of a user does: nothing, or its handler writes to the entry that it has found. -/
theorem readPacket_cases {isHideAndSeek : Bool}
    (taken : array.readPacket isHideAndSeek id packet = some next)
    : ((array.puppets.looksUp isHideAndSeek id packet = true
          → ∀ index, array.puppets.findPuppetInfo id packet.isFindAvailable ≠ .entry index)
        ∧ next = array)
      ∨ ∃ index entry,
          array.puppets.looksUp isHideAndSeek id packet = true
          ∧ array.puppets.findPuppetInfo id packet.isFindAvailable = .entry index
          ∧ array.mPuppetInfoArr[index]? = some entry
          ∧ next
            = { array.set index (InfoField.record.putAll entry (writes entry id packet)) with
                mConnectCount :=
                  packet.countAfter (isSet entry .isConnected) array.mConnectCount } := by
  unfold readPacket at taken
  split_ifs at taken with about
  · cases found : array.puppets.findPuppetInfo id packet.isFindAvailable with
    | entry index =>
        obtain ⟨entry, member⟩ := found_entry found
        simp only [found, receive, member, Option.bind_some] at taken
        split_ifs at taken
        exact .inr ⟨index, entry, about, rfl, member, (Option.some.inj taken).symm⟩
    | nullptr =>
        rw [found] at taken
        exact .inl ⟨fun _ index never => (by cases never), (Option.some.inj taken).symm⟩
    | outOfBounds =>
        rw [found] at taken
        cases taken
  · exact .inl ⟨fun looked => absurd looked about, (Option.some.inj taken).symm⟩

theorem puppets_receive (member : array.mPuppetInfoArr[index]? = some entry)
    (fits : PuppetMemory.TextsFit entry packet)
    : (array.receive index id packet).map puppets
      = some (Puppets.receive PlayerAnims.findStr array.puppets index id packet) := by
  have stay := stayInEntry_of_fit ((fit_writes_iff entry id packet).mpr fits)
  have entries
      : (array.mPuppetInfoArr.set index
            (InfoField.record.putAll entry (writes entry id packet))).map infoOf
        = (array.mPuppetInfoArr.map infoOf).modify index
            (PuppetInfo.receive PlayerAnims.findStr id · packet) := by
    apply List.ext_getElem?
    intro other
    rw [List.getElem?_map, List.getElem?_set, List.getElem?_modify, List.getElem?_map]
    rcases eq_or_ne index other with rfl | elsewhere
    · have inside := (List.getElem?_eq_some_iff.mp member).1
      rw [if_pos rfl, if_pos inside, member]
      simp only [Option.map_some, infoOf_writes entry id packet fits, if_true]
      rfl
    · simp [elsewhere]
  rw [receive, member, Option.bind_some, if_pos stay, Option.map_some, Option.some_inj]
  simp only [puppets, set, Puppets.receive, Puppets.modify, entries, ← isConnectedAt_entry member]

theorem infoOf_isInSameStage (entry : Memory UInt8) (shown : Bool)
    : infoOf (InfoField.record.putAll entry [assign .isInSameStage shown])
      = { infoOf entry with isInSameStage := shown } := by
  rw [infoOf_putAll (List.forall_mem_singleton.mpr (fits_assign.mpr (Nat.le_refl _)))]
  simp (disch := decide) [PuppetInfo.ofOctets, infoOf]

/-- Where the texts fit, a step in memory is the step of the values. -/
theorem step_refines (fits : array.TextsFit event)
    : (array.step event).map puppets = array.puppets.step PlayerAnims.findStr event := by
  cases event with
  | readPacket isHideAndSeek id packet =>
      rw [step, readPacket, Puppets.step, Puppets.readPacket_eq]
      split_ifs with about
      · cases found : array.puppets.findPuppetInfo id packet.isFindAvailable with
        | entry index =>
            obtain ⟨entry, member⟩ := found_entry found
            exact puppets_receive member (fits about index entry found member)
        | nullptr => rfl
        | outOfBounds => rfl
      · rfl
  | createPuppetActor =>
      by_cases room : array.holderSize < Puppets.holderCapacity
      · simp [step, Puppets.step, Puppets.tryAddPuppet, puppets, room]
      · simp [step, Puppets.step, Puppets.tryAddPuppet, puppets, room]
  | update =>
      have entries
          : array.holderUpdate.mPuppetInfoArr.map infoOf
            = (array.mPuppetInfoArr.map infoOf).mapIdx fun index info =>
                if index < array.holderSize then
                  { info with isInSameStage := array.puppets.checkInfoIsInStage info }
                else info := by
        apply List.ext_getElem?
        intro index
        simp only [holderUpdate, List.getElem?_map, List.getElem?_mapIdx, Option.map_map]
        congr 1
        funext entry
        simp only [Function.comp_apply]
        split_ifs
        · rw [infoOf_isInSameStage]
        · rfl
      simp only [step, Puppets.step, Puppets.holderUpdate, Option.map_some, Option.some_inj]
      simp only [puppets, entries]
      rfl
  | updateFlags red blue =>
      simp only [step, Puppets.step]
      split_ifs <;> rfl
  | playerList =>
      simp only [step, Puppets.step]
      split_ifs <;> rfl
  | _ => rfl

theorem infoOf_newEntry : ∀ index < maxPupIndex,
    infoOf (newEntry index) = { puppetName := Puppets.puppetName index } := by
  decide +kernel

theorem puppets_initial (mUserID : Guid)
    : (initial mUserID).puppets = Puppets.initial mUserID := by
  have entries
      : ((List.range maxPupIndex).map newEntry).map infoOf
        = (List.range maxPupIndex).map fun index =>
            { puppetName := Puppets.puppetName index } := by
    rw [List.map_map]
    exact List.map_congr_left fun index inside =>
      infoOf_newEntry index (List.mem_range.mp inside)
  simp only [initial, puppets, Puppets.initial, entries]

/-- A run in which the texts fit is a run of the values. -/
theorem run_refines {start : PuppetArray} {events : List Event}
    (run : Run step TextsFit start events array)
    : AnyRun (Puppets.step PlayerAnims.findStr) start.puppets events array.puppets := by
  have refines {array next : PuppetArray} {event : Event} (fits : array.TextsFit event)
      (taken : array.step event = some next)
      : array.puppets.step PlayerAnims.findStr event = some next.puppets := by
    rw [← step_refines fits, taken, Option.map_some]
  exact run.simulate puppets (fun _ => trivial) refines

theorem Short.textsFit (short : Short event) (array : PuppetArray) : array.TextsFit event := by
  cases event with
  | readPacket isHideAndSeek id packet =>
      intro _ index entry _ _
      cases packet with
      | playerConnect clientName => exact fun _ => short
      | gameInf is2D scenarioNum stageName => exact fun _ => short
      | _ => exact short
  | _ => trivial

/-- A run of the values in which all texts are short is one of the array. -/
theorem exists_run {start : PuppetArray} {events : List Event} {last : Puppets}
    (run : AnyRun (Puppets.step PlayerAnims.findStr) start.puppets events last)
    (short : ∀ event ∈ events, Short event)
    : ∃ array, Run step TextsFit start events array ∧ array.puppets = last := by
  induction run with
  | nil => exact ⟨start, .nil, rfl⟩
  | @snoc events puppets event next before allowed taken ih =>
      obtain ⟨array, run, rfl⟩ := ih fun event member => short event (List.mem_append_left _ member)
      have fits : array.TextsFit event :=
        (short event (List.mem_append_right _ (List.mem_singleton_self _))).textsFit array
      have stepped := step_refines fits
      rw [taken] at stepped
      obtain ⟨after, done, same⟩ := Option.map_eq_some_iff.mp stepped
      exact ⟨after, run.snoc fits done, same⟩

/-- A run of short texts to entries that a property was found to hold of. -/
theorem exists_initial_run {mUserID : Guid} {events : List Event} (Holds : Puppets → Prop)
    [DecidablePred Holds]
    (found
      : (execute (Puppets.step PlayerAnims.findStr) (.initial mUserID) events).any
          (fun last => decide (Holds last)) = true)
    (short : ∀ event ∈ events, Short event)
    : ∃ array, Run step TextsFit (initial mUserID) events array ∧ Holds array.puppets := by
  obtain ⟨last, run, holds⟩ := Runs.exists_run Holds found
  rw [← puppets_initial] at run
  obtain ⟨array, there, rfl⟩ := exists_run run short
  exact ⟨array, there, holds⟩

end PuppetArray

end SmoOnline.Mod
