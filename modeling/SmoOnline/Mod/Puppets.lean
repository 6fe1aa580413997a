import SmoOnline.Shared.Header
import Mathlib.Data.List.Basic
import Mathlib.Logic.Function.Basic

/-! What a player's game keeps of the other players: one entry of an array for each, found by the
user id of a packet, and the puppets that the scene has for the first of them. Texts are the
octets before the terminating zero, floating point numbers their bits. Each field is a value of its
own here, which it is in memory as long as the texts fit their buffers; `PuppetArray` has the
entries as octets, and says of which packets the two are the same.
-/

namespace SmoOnline.Mod

open Span

-----------------------------------------------------------------------------------------
-- One entry
-----------------------------------------------------------------------------------------

/-- `struct PuppetInfo`, without the fields that nothing writes. -/
structure PuppetInfo where
  puppetName : Bytes := []
  isConnected : Bool := false
  playerID : Guid := .empty
  playerPos : Vector3 := ⟨0, 0, 0⟩
  playerRot : Quaternion := ⟨0, 0, 0, 0⟩
  scenarioNo : UInt8 := 255
  stageName : Bytes := []
  isInSameStage : Bool := false
  costumeBody : Bytes := []
  costumeHead : Bytes := []
  curHack : Bytes := []
  isCaptured : Bool := false
  curAnim : Int16 := 0
  curSubAnim : Int16 := 0
  curAnimStr : Bytes := []
  curSubAnimStr : Bytes := []
  blendWeights : Vector UInt32 6 := .replicate 6 0
  is2D : Bool := false
  capPos : Vector3 := ⟨0, 0, 0⟩
  capRot : Quaternion := ⟨0, 0, 0, 0⟩
  capAnim : Bytes := []
  isCapThrow : Bool := false
  isIt : Bool := false
  seconds : UInt8 := 0
  minutes : UInt16 := 0
  ctfTeam : Int32 := 0
  deriving DecidableEq, Repr

/-- The packets of a user that change entries; a text is as it came, with whatever octets. -/
inductive PuppetPacket
  | playerInf (playerPos : Vector3) (playerRot : Quaternion) (animBlendWeights : List UInt32)
    (actName subActName : Int32)
  | gameInf (is2D : Bool) (scenarioNum : Int32) (stageName : Bytes)
  | hackCapInf (capPos : Vector3) (capQuat : Quaternion) (isCapVisible : Bool) (capAnim : Bytes)
  | captureInf (hackName : Bytes)
  | playerConnect (clientName : Bytes)
  | costumeInf (bodyModel capModel : Bytes)
  | playerDC
  | tagInf (isIt : Bool) (seconds minutes : UInt32)
  | playerTeamAssignment (team : Int32)
  deriving DecidableEq, Repr

/-- The packets that say where a player is, many times a second. -/
def PuppetPacket.isPlayerInf : PuppetPacket → Bool
  | .playerInf _ _ _ _ _ => true
  | _ => false

/-- What `strcpy` copies of a text. -/
def strcpy (text : Bytes) : Bytes := text.takeWhile (· ≠ 0)

/-- The bits of a `float` without its sign. -/
def absBits (float : UInt32) : UInt32 := float &&& 0x7fffffff

/-- `abs(float) > 0.f`, which no NaN is. -/
def isNonzero (float : UInt32) : Bool := 0 < absBits float ∧ absBits float ≤ 0x7f800000

/-- `abs(float) <= 1.f` -/
def isAtMostOne (float : UInt32) : Bool := absBits float ≤ 0x3f800000

/-- `float >= 0.f && float <= 1.f`; a negative zero is not below zero. -/
def isWeight (float : UInt32) : Bool := float ≤ 0x3f800000 ∨ float = 0x80000000

/-- Either comparison asks for one component. -/
def isRotation (rot : Quaternion) : Bool :=
  (isNonzero rot.x || isNonzero rot.y || isNonzero rot.z || isNonzero rot.w)
    && (isAtMostOne rot.x || isAtMostOne rot.y || isAtMostOne rot.z || isAtMostOne rot.w)

/-- The weights of an entry with those of a packet in their places, each if it is one. -/
def updateWeights (weights : Vector UInt32 6) (animBlendWeights : List UInt32)
    : Vector UInt32 6 :=
  .ofFn fun index =>
    match animBlendWeights[index.val]? with
    | some weight => if isWeight weight then weight else weights[index]
    | none => weights[index]

theorem get_updateWeights (weights : Vector UInt32 6) (animBlendWeights : List UInt32)
    (index : Fin 6)
    : (updateWeights weights animBlendWeights).get index
      = match animBlendWeights[index.val]? with
        | some weight => if isWeight weight then weight else weights.get index
        | none => weights.get index :=
  Vector.getElem_ofFn index.isLt

namespace PuppetInfo

-- `PlayerAnims::FindStr` is the look-up in a table of names.
variable (findStr : Int16 → Bytes) (info : PuppetInfo)

/-- `PlayerAnims::Type::Unknown` -/
def unknownAnim : Int16 := -1

def animStr (act : Int32) (otherwise : Bytes) : Bytes :=
  if act.toInt16 ≠ unknownAnim then findStr act.toInt16 else otherwise

/-- The name of the animation for actions without one. -/
def waitAnim : Bytes := [0x57, 0x61, 0x69, 0x74]

/-- What each packet that is not about the connection makes of the entry it finds. -/
def update : PuppetPacket → PuppetInfo
  | .playerInf playerPos playerRot animBlendWeights actName subActName =>
      { info with
        isConnected := true
        playerPos
        playerRot := if isRotation playerRot then playerRot else info.playerRot
        curAnimStr := animStr findStr actName waitAnim
        curSubAnimStr := animStr findStr subActName []
        curAnim := actName.toInt16
        curSubAnim := subActName.toInt16
        blendWeights := updateWeights info.blendWeights animBlendWeights
        capPos := if info.isCapThrow then info.capPos else playerPos }
  | .gameInf is2D scenarioNum stageName =>
      if info.isConnected then
        { info with
          scenarioNo := scenarioNum.toUInt32.toUInt8
          stageName := if 3 < (strcpy stageName).length then strcpy stageName else info.stageName
          is2D }
      else info
  | .hackCapInf capPos capRot isCapThrow capAnim =>
      { info with capPos, capRot, isCapThrow, capAnim := strcpy capAnim }
  | .captureInf hackName =>
      if hackName ≠ [] then { info with isCaptured := true, curHack := strcpy hackName }
      else { info with isCaptured := false }
  | .costumeInf bodyModel capModel =>
      { info with costumeBody := strcpy bodyModel, costumeHead := strcpy capModel }
  | .tagInf isIt seconds minutes =>
      { info with isIt, seconds := seconds.toUInt8, minutes := minutes.toUInt16 }
  | .playerTeamAssignment team => { info with ctfTeam := team }
  | .playerConnect _ | .playerDC => info

/-- An entry that a new player gets. -/
def connect (playerID : Guid) (clientName : Bytes) : PuppetInfo :=
  { info with playerID, isConnected := true, puppetName := strcpy clientName }

/-- The entry of a player who has left. -/
def disconnect : PuppetInfo :=
  { info with isConnected := false, scenarioNo := 255, stageName := [], isInSameStage := false }

variable {findStr}

theorem playerID_update (packet : PuppetPacket) (info : PuppetInfo)
    : (info.update findStr packet).playerID = info.playerID := by
  cases packet with
  | gameInf is2D scenarioNum stageName =>
      simp only [update]
      split_ifs <;> rfl
  | captureInf hackName =>
      simp only [update]
      split_ifs <;> rfl
  | _ => rfl

/-- Only a player's position connects an entry on the way. -/
theorem isConnected_update {packet : PuppetPacket} (other : packet.isPlayerInf = false)
    (info : PuppetInfo)
    : (info.update findStr packet).isConnected = info.isConnected := by
  cases packet with
  | playerInf pos rot weights act subAct => cases other
  | gameInf is2D scenarioNum stageName =>
      simp only [update]
      split_ifs <;> rfl
  | captureInf hackName =>
      simp only [update]
      split_ifs <;> rfl
  | _ => rfl

theorem isConnected_update_playerInf {packet : PuppetPacket}
    (position : packet.isPlayerInf = true) (info : PuppetInfo)
    : (info.update findStr packet).isConnected = true := by
  cases packet with
  | playerInf pos rot weights act subAct => rfl
  | _ => cases position

end PuppetInfo

-----------------------------------------------------------------------------------------
-- The array
-----------------------------------------------------------------------------------------

/-- `MAXPUPINDEX` -/
def maxPupIndex : Nat := 32

/-- The entries of `Client`, and the puppets its `PuppetHolder` has for the first of them. -/
structure Puppets where
  mUserID : Guid
  mConnectCount : Int := 0
  maxPuppets : Int32 := 9
  mPuppetInfoArr : List PuppetInfo
  sized : mPuppetInfoArr.length = maxPupIndex
  /-- `mPuppetArr.size()` -/
  holderSize : Nat := 0
  mStageName : Bytes := []
  mScenarioNo : UInt8 := 0

namespace Puppets

/-- The name of an entry nobody had yet. -/
def puppetName (index : Nat) : Bytes :=
  ("Puppet" ++ toString index).toList.map fun letter => UInt8.ofNat letter.toNat

/-- `Client::Client` -/
def initial (mUserID : Guid) : Puppets where
  mUserID
  mPuppetInfoArr := (List.range maxPupIndex).map fun index => { puppetName := puppetName index }
  sized := by simp

/-- `mPuppetArr.capacity()`: the holder is made for the default `maxPuppets` and never resized. -/
def holderCapacity : Nat := 9

variable (findStr : Int16 → Bytes) (puppets : Puppets)

def getMaxPlayerCount : Int32 := puppets.maxPuppets + 1

/-- The bound of the loop in `findPuppetInfo`: the comparison with a `size_t` is unsigned. -/
def window : Nat := (puppets.getMaxPlayerCount - 1).toInt64.toUInt64.toNat

/-- What `findPuppetInfo` returns: an entry, a null pointer, or nothing that is defined, because
it reads behind the array.
-/
inductive Found
  | entry (index : Nat)
  | nullptr
  | outOfBounds
  deriving DecidableEq, Repr

/-- The loop of `findPuppetInfo` over the entries from `index` on. -/
def findLoop (id : Guid) (isFindAvailable : Bool) (window index : Nat)
    (firstAvailable : Option Nat)
    : List PuppetInfo → Found
  | curInfo :: later =>
      if index < window then
        if curInfo.playerID = id then .entry index
        else
          findLoop id isFindAvailable window (index + 1)
            (if isFindAvailable ∧ firstAvailable = none ∧ ¬curInfo.isConnected then some index
              else firstAvailable)
            later
      else firstAvailable.elim .nullptr .entry
  | [] => if index < window then .outOfBounds else firstAvailable.elim .nullptr .entry

def findPuppetInfo (id : Guid) (isFindAvailable : Bool) : Found :=
  findLoop id isFindAvailable puppets.window 0 none puppets.mPuppetInfoArr

/-- An entry is written to. -/
def modify (index : Nat) (write : PuppetInfo → PuppetInfo) : Puppets :=
  { puppets with
    mPuppetInfoArr := puppets.mPuppetInfoArr.modify index write
    sized := by rw [List.length_modify, puppets.sized] }

/-- The handlers that look the user of a packet up and write to the entry, if there is one. -/
def updateFound (id : Guid) (packet : PuppetPacket) : Option Puppets :=
  match puppets.findPuppetInfo id false with
  | .entry index => some (puppets.modify index (PuppetInfo.update findStr · packet))
  | .nullptr => some puppets
  | .outOfBounds => none

def isConnectedAt (index : Nat) : Bool :=
  (puppets.mPuppetInfoArr[index]?).any PuppetInfo.isConnected

def updatePlayerConnect (id : Guid) (clientName : Bytes) : Option Puppets :=
  match puppets.findPuppetInfo id true with
  | .entry index =>
      if puppets.isConnectedAt index then some puppets
      else
        some { puppets.modify index (PuppetInfo.connect · id clientName) with
          mConnectCount := puppets.mConnectCount + 1 }
  | .nullptr => some puppets
  | .outOfBounds => none

def disconnectPlayer (id : Guid) : Option Puppets :=
  match puppets.findPuppetInfo id false with
  | .entry index =>
      if puppets.isConnectedAt index then
        some { puppets.modify index PuppetInfo.disconnect with
          mConnectCount := puppets.mConnectCount - 1 }
      else some puppets
  | .nullptr => some puppets
  | .outOfBounds => none

/-- `updateTagInfo`; a packet about this player is for its own hide and seek, if that is on. -/
def updateTagInfo (isHideAndSeek : Bool) (id : Guid) (packet : PuppetPacket) : Option Puppets :=
  if id = puppets.mUserID ∧ isHideAndSeek then some puppets
  else puppets.updateFound findStr id packet

/-- `updateCTFPlayerTeamAssignment`; a packet about this player is for its own team. -/
def updateCTFPlayerTeamAssignment (id : Guid) (packet : PuppetPacket) : Option Puppets :=
  if id ≠ puppets.mUserID then puppets.updateFound findStr id packet else some puppets

/-- `readFunc` on a packet of a user. -/
def readPacket (isHideAndSeek : Bool) (id : Guid) (packet : PuppetPacket) : Option Puppets :=
  match packet with
  | .playerConnect clientName => puppets.updatePlayerConnect id clientName
  | .playerDC => puppets.disconnectPlayer id
  | .tagInf _ _ _ => puppets.updateTagInfo findStr isHideAndSeek id packet
  | .playerTeamAssignment _ => puppets.updateCTFPlayerTeamAssignment findStr id packet
  | .playerInf _ _ _ _ _ | .gameInf _ _ _ | .hackCapInf _ _ _ _ | .captureInf _
  | .costumeInf _ _ =>
      puppets.updateFound findStr id packet

/-- `readFunc` on an `Init` packet, whoever its user is. -/
def readInit (maxPlayers : UInt32) : Puppets :=
  { puppets with maxPuppets := (maxPlayers - 1).toInt32 }

/-- `restartConnection`, as far as the entries go. -/
def restartConnection : Puppets := { puppets with mConnectCount := 0 }

/-- `PuppetHolder::checkInfoIsInStage` -/
def checkInfoIsInStage (info : PuppetInfo) : Bool :=
  info.isConnected
    && (puppets.mStageName == info.stageName
      && (info.scenarioNo < 15 || info.scenarioNo == puppets.mScenarioNo))

/-- `PuppetHolder::update`: the puppets are those of the first entries. -/
def holderUpdate : Puppets :=
  { puppets with
    mPuppetInfoArr := puppets.mPuppetInfoArr.mapIdx fun index info =>
      if index < puppets.holderSize then
        { info with isInSameStage := puppets.checkInfoIsInStage info }
      else info
    sized := by rw [List.length_mapIdx, puppets.sized] }

/-- `tryAddPuppet` for the next puppet of a scene. -/
def tryAddPuppet : Option Puppets :=
  if puppets.holderSize < holderCapacity then
    some { puppets with holderSize := puppets.holderSize + 1 }
  else none

-----------------------------------------------------------------------------------------
-- Indices
-----------------------------------------------------------------------------------------

/-- The indices that the loop of `findPuppetInfo` uses, the first one behind the array being
the last of which anything can be said.
-/
def findIndices (id : Guid) (window index : Nat) : List PuppetInfo → List Int
  | curInfo :: later =>
      if index < window then
        if curInfo.playerID = id then [(index : Int)]
        else (index : Int) :: findIndices id window (index + 1) later
      else []
  | [] => if index < window then [(index : Int)] else []

/-- The packets whose handlers call `findPuppetInfo`. -/
def looksUp (isHideAndSeek : Bool) (id : Guid) : PuppetPacket → Bool
  | .tagInf _ _ _ => ¬(id = puppets.mUserID ∧ isHideAndSeek)
  | .playerTeamAssignment _ => id ≠ puppets.mUserID
  | _ => true

/-- The player list of `CaptureTheFlagIcon` and `HideAndSeekIcon`: as many entries as there may
be players.
-/
def playerListIndices : List Int :=
  if 0 < puppets.getMaxPlayerCount.toInt then
    (List.range puppets.getMaxPlayerCount.toInt.toNat).map Int.ofNat
  else []

/-- What happens next: a packet is read, or the game does something with the entries. A frame of
capture the flag looks up who holds the flags.
-/
inductive Event
  | readPacket (isHideAndSeek : Bool) (id : Guid) (packet : PuppetPacket)
  | readInit (maxPlayers : UInt32)
  | restartConnection
  | setStageInfo (stageName : Bytes) (scenarioNo : UInt8)
  | clearArrays
  | createPuppetActor
  | update
  | checkTagged
  | hideAndSeekUpdate
  | updateFlags (red blue : Option Guid)
  | playerList
  deriving DecidableEq, Repr

/-- The other players whom `updateFlags` asks `getPlayerTransformInSameStage` for, of those who hold
the red and the blue flag.
-/
def heldPlayers (red blue : Option Guid) : List Guid :=
  [red, blue].reduceOption.filter fun id => id ≠ puppets.mUserID

/-- The indices on `mPuppetInfoArr`. The new puppet is bound to what `getLatestInfo` returns. -/
def indices : Event → List Int
  | .readPacket isHideAndSeek id packet =>
      if puppets.looksUp isHideAndSeek id packet then
        findIndices id puppets.window 0 puppets.mPuppetInfoArr
      else []
  | .createPuppetActor =>
      match puppets.tryAddPuppet with
      | some added => [(added.holderSize : Int) - 1]
      | none => []
  | .checkTagged | .hideAndSeekUpdate => (List.range puppets.holderSize).map Int.ofNat
  | .updateFlags red blue =>
      (puppets.heldPlayers red blue).flatMap fun id =>
        findIndices id puppets.window 0 puppets.mPuppetInfoArr
  | .playerList => puppets.playerListIndices
  | .readInit _ | .restartConnection | .setStageInfo _ _ | .clearArrays | .update => []

/-- The index is one of the array. -/
def InBounds (index : Int) : Prop := 0 ≤ index ∧ index < maxPupIndex

instance (index : Int) : Decidable (InBounds index) :=
  inferInstanceAs (Decidable (0 ≤ index ∧ index < maxPupIndex))

/-- A step, which is not defined where it reads behind the array. -/
def step : Event → Option Puppets
  | .readPacket isHideAndSeek id packet => puppets.readPacket findStr isHideAndSeek id packet
  | .readInit maxPlayers => some (puppets.readInit maxPlayers)
  | .restartConnection => some puppets.restartConnection
  | .setStageInfo stageName scenarioNo =>
      some { puppets with mStageName := stageName, mScenarioNo := scenarioNo }
  | .clearArrays => some { puppets with holderSize := 0 }
  | .createPuppetActor => some (puppets.tryAddPuppet.getD puppets)
  | .update => some puppets.holderUpdate
  | .checkTagged | .hideAndSeekUpdate => some puppets
  | .updateFlags red blue =>
      if (puppets.heldPlayers red blue).all fun id => puppets.findPuppetInfo id false ≠ .outOfBounds
      then some puppets
      else none
  | .playerList =>
      if puppets.playerListIndices.all fun index => InBounds index then some puppets else none

-----------------------------------------------------------------------------------------
-- What is found
-----------------------------------------------------------------------------------------

/-- The entries that a search looks at. -/
def visible : List PuppetInfo := puppets.mPuppetInfoArr.take puppets.window

/-- The first visible entry that has an id, whoever is connected. -/
def ownEntry (id : Guid) : Option Nat :=
  puppets.visible.findIdx? fun info => info.playerID = id

/-- The first visible entry of nobody who is connected. -/
def freeEntry : Option Nat := puppets.visible.findIdx? fun info => !info.isConnected

/-- One turn of the loop, and the end of the array. -/
theorem findLoop_cons {id : Guid} {isFindAvailable : Bool} {window index : Nat}
    {firstAvailable : Option Nat} {curInfo : PuppetInfo} {later : List PuppetInfo}
    (inside : index < window) (other : curInfo.playerID ≠ id)
    : findLoop id isFindAvailable window index firstAvailable (curInfo :: later)
      = findLoop id isFindAvailable window (index + 1)
          (firstAvailable.or
            (if isFindAvailable ∧ ¬curInfo.isConnected then some index else none))
          later := by
  rw [findLoop, if_pos inside, if_neg other]
  cases firstAvailable <;> cases isFindAvailable <;> simp

theorem findLoop_end {id : Guid} {isFindAvailable : Bool} {window index : Nat}
    (reached : window ≤ index) (firstAvailable : Option Nat) (entries : List PuppetInfo)
    : findLoop id isFindAvailable window index firstAvailable entries
      = firstAvailable.elim .nullptr .entry := by
  cases entries <;> rw [findLoop, if_neg (Nat.not_lt.mpr reached)]

/-- The loop finds the first entry with the id in the window. -/
theorem findLoop_own {id : Guid} {isFindAvailable : Bool} {window index found : Nat}
    {firstAvailable : Option Nat} {entries : List PuppetInfo}
    (own : (entries.take (window - index)).findIdx? (fun info => info.playerID = id) = some found)
    : findLoop id isFindAvailable window index firstAvailable entries = .entry (index + found) := by
  induction entries generalizing index firstAvailable found with
  | nil => simp at own
  | cons curInfo later ih =>
      rcases Nat.lt_or_ge index window with inside | reached
      · have size : window - index = window - (index + 1) + 1 := by omega
        rw [size, List.take_succ_cons, List.findIdx?_cons] at own
        by_cases same : curInfo.playerID = id
        · obtain rfl : 0 = found := by simpa [same] using own
          rw [findLoop, if_pos inside, if_pos same]
          rfl
        · rw [if_neg (by simpa using same)] at own
          obtain ⟨rest, among, rfl⟩ := Option.map_eq_some_iff.mp own
          rw [findLoop_cons inside same, ih among, Nat.add_right_comm, Nat.add_assoc]
      · simp [Nat.sub_eq_zero_of_le reached] at own

/-- Where no entry in the window has the id, the loop finds the first one it can give away,
unless the window is longer than the array.
-/
theorem findLoop_none {id : Guid} {isFindAvailable : Bool} {window index : Nat}
    {firstAvailable : Option Nat} {entries : List PuppetInfo}
    (own : (entries.take (window - index)).findIdx? (fun info => info.playerID = id) = none)
    : findLoop id isFindAvailable window index firstAvailable entries
      = if window ≤ index + entries.length then
          (firstAvailable.or
            (if isFindAvailable then
              ((entries.take (window - index)).findIdx? fun info => !info.isConnected).map
                (index + ·)
            else none)).elim .nullptr .entry
        else .outOfBounds := by
  induction entries generalizing index firstAvailable with
  | nil =>
      rcases Nat.lt_or_ge index window with inside | reached
      · rw [findLoop, if_pos inside, if_neg (by simpa using inside)]
      · rw [findLoop_end reached, if_pos (by simpa using reached)]
        simp
  | cons curInfo later ih =>
      rcases Nat.lt_or_ge index window with inside | reached
      · have size : window - index = window - (index + 1) + 1 := by omega
        rw [size, List.take_succ_cons, List.findIdx?_cons] at own
        by_cases same : curInfo.playerID = id
        · simp [same] at own
        · rw [if_neg (by simpa using same)] at own
          rw [findLoop_cons inside same, ih (Option.map_eq_none_iff.mp own), size,
            List.take_succ_cons, List.findIdx?_cons, List.length_cons, ← Nat.add_assoc,
            Nat.add_right_comm index]
          have shift (earlier : Nat) : index + 1 + earlier = index + (earlier + 1) := by omega
          cases firstAvailable <;> cases isFindAvailable <;> cases curInfo.isConnected <;>
            simp [Function.comp_def, shift]
      · rw [findLoop_end reached, if_pos (by omega)]
        simp [Nat.sub_eq_zero_of_le reached]

variable {findStr : Int16 → Bytes} {puppets : Puppets}

/-- An entry with the id is found whether another one may be given away or not. -/
theorem findPuppetInfo_own {id : Guid} {index : Nat} (own : puppets.ownEntry id = some index)
    (isFindAvailable : Bool)
    : puppets.findPuppetInfo id isFindAvailable = .entry index := by
  have found := @findLoop_own id isFindAvailable puppets.window 0 index none
    puppets.mPuppetInfoArr own
  rwa [Nat.zero_add] at found

theorem findPuppetInfo_absent {id : Guid} (absent : puppets.ownEntry id = none)
    : puppets.findPuppetInfo id false
      = if puppets.window ≤ maxPupIndex then .nullptr else .outOfBounds := by
  have found := @findLoop_none id false puppets.window 0 none puppets.mPuppetInfoArr absent
  rw [findPuppetInfo, found, puppets.sized, Nat.zero_add]
  rfl

theorem findPuppetInfo_free {id : Guid} (absent : puppets.ownEntry id = none)
    : puppets.findPuppetInfo id true
      = if puppets.window ≤ maxPupIndex then puppets.freeEntry.elim .nullptr .entry
        else .outOfBounds := by
  have found := @findLoop_none id true puppets.window 0 none puppets.mPuppetInfoArr absent
  rw [findPuppetInfo, found, puppets.sized, Nat.zero_add, Option.none_or]
  simp [freeEntry, visible]

theorem visible_getElem? (puppets : Puppets) (index : Nat)
    : puppets.visible[index]?
      = if index < puppets.window then puppets.mPuppetInfoArr[index]? else none := by
  simp [visible, List.getElem?_take]

/-- A visible entry that a search ends at is one of the array. -/
theorem visible_entry {holds : PuppetInfo → Bool} {index : Nat}
    (found : puppets.visible.findIdx? holds = some index)
    : index < puppets.window
      ∧ ∃ info, puppets.mPuppetInfoArr[index]? = some info ∧ holds info = true := by
  obtain ⟨inside, has, -⟩ := List.findIdx?_eq_some_iff_getElem.mp found
  have member := List.getElem?_eq_getElem inside
  rw [visible_getElem?] at member
  split_ifs at member with seen
  exact ⟨seen, _, member, has⟩

/-- The first visible entry with an id is one of the array, and none before it has the id. -/
theorem ownEntry_eq_some {id : Guid} {index : Nat} (own : puppets.ownEntry id = some index)
    : index < puppets.window
      ∧ (∃ info, puppets.mPuppetInfoArr[index]? = some info ∧ info.playerID = id)
      ∧ ∀ earlier < index, ∀ info,
          puppets.mPuppetInfoArr[earlier]? = some info → info.playerID ≠ id := by
  obtain ⟨seen, info, member, has⟩ := visible_entry own
  refine ⟨seen, ⟨info, member, by simpa using has⟩, ?_⟩
  intro earlier before other there same
  obtain ⟨inside, -, first⟩ := List.findIdx?_eq_some_iff_getElem.mp own
  have visible : puppets.visible[earlier]? = some other := by
    rw [visible_getElem?, if_pos (Nat.lt_trans before seen), there]
  obtain ⟨bound, value⟩ := List.getElem?_eq_some_iff.mp visible
  have differs := first earlier before
  rw [value] at differs
  simp [same] at differs

/-- An entry within the window that has the id, and before which none has it, is the first one. -/
theorem ownEntry_of_first {id : Guid} {index : Nat} {info : PuppetInfo}
    (seen : index < puppets.window) (member : puppets.mPuppetInfoArr[index]? = some info)
    (has : info.playerID = id)
    (first : ∀ earlier < index, ∀ info,
      puppets.mPuppetInfoArr[earlier]? = some info → info.playerID ≠ id)
    : puppets.ownEntry id = some index := by
  have visible : puppets.visible[index]? = some info := by
    rw [visible_getElem?, if_pos seen, member]
  obtain ⟨inside, value⟩ := List.getElem?_eq_some_iff.mp visible
  refine List.findIdx?_eq_some_iff_getElem.mpr ⟨inside, by simpa [value] using has, ?_⟩
  intro earlier before
  have there := List.getElem?_eq_getElem (Nat.lt_trans before inside)
  rw [visible_getElem?, if_pos (Nat.lt_trans before seen)] at there
  simpa using first earlier before _ there

theorem ownEntry_eq_none {id : Guid} (absent : puppets.ownEntry id = none) {index : Nat}
    {info : PuppetInfo} (seen : index < puppets.window)
    (member : puppets.mPuppetInfoArr[index]? = some info)
    : info.playerID ≠ id := by
  have there : puppets.visible[index]? = some info := by
    rw [visible_getElem?, if_pos seen, member]
  simpa using List.findIdx?_eq_none_iff.mp absent info (List.mem_of_getElem? there)

theorem modify_getElem? (puppets : Puppets) (index other : Nat) (write : PuppetInfo → PuppetInfo)
    : (puppets.modify index write).mPuppetInfoArr[other]?
      = if index = other then (puppets.mPuppetInfoArr[other]?).map write
        else puppets.mPuppetInfoArr[other]? := by
  rw [modify, List.getElem?_modify]
  split_ifs <;> simp

theorem isConnectedAt_eq {index : Nat} {info : PuppetInfo}
    (member : puppets.mPuppetInfoArr[index]? = some info)
    : puppets.isConnectedAt index = info.isConnected := by
  simp [isConnectedAt, member]

/-- The entry that a `PlayerConnect` would be written to. -/
def connectTarget (puppets : Puppets) (id : Guid) : Option Nat :=
  (puppets.ownEntry id).or puppets.freeEntry

/-- What a `PlayerConnect` may be written to is visible: the user's entry, or else a free one. -/
theorem connectTarget_entry {id : Guid} {index : Nat}
    (target : puppets.connectTarget id = some index)
    : index < puppets.window ∧ ∃ info, puppets.mPuppetInfoArr[index]? = some info := by
  rcases Option.or_eq_some_iff.mp target with own | ⟨-, free⟩
  · obtain ⟨seen, info, member, -⟩ := visible_entry own
    exact ⟨seen, info, member⟩
  · obtain ⟨seen, info, member, -⟩ := visible_entry free
    exact ⟨seen, info, member⟩

/-- What a handler that looks the user up does: nothing, or it writes to the first visible entry
with the user's id.
-/
theorem updateFound_cases {id : Guid} {packet : PuppetPacket} {next : Puppets}
    (taken : puppets.updateFound findStr id packet = some next)
    : (puppets.ownEntry id = none ∧ next = puppets)
      ∨ ∃ index,
          puppets.ownEntry id = some index
          ∧ next = puppets.modify index (PuppetInfo.update findStr · packet) := by
  unfold updateFound at taken
  cases own : puppets.ownEntry id with
  | none =>
      rw [findPuppetInfo_absent own] at taken
      split_ifs at taken
      cases taken
      exact .inl ⟨rfl, rfl⟩
  | some index =>
      rw [findPuppetInfo_own own] at taken
      cases taken
      exact .inr ⟨index, rfl, rfl⟩

/-- What a `PlayerConnect` does: nothing, or it gives an entry that nobody is connected in to
the user, and counts.
-/
theorem updatePlayerConnect_cases {id : Guid} {clientName : Bytes} {next : Puppets}
    (taken : puppets.updatePlayerConnect id clientName = some next)
    : ((∀ index, puppets.connectTarget id = some index → puppets.isConnectedAt index = true)
        ∧ next = puppets)
      ∨ ∃ index,
          puppets.connectTarget id = some index
          ∧ puppets.isConnectedAt index = false
          ∧ next
            = { puppets.modify index (PuppetInfo.connect · id clientName) with
                mConnectCount := puppets.mConnectCount + 1 } := by
  have found : puppets.findPuppetInfo id true
        = (puppets.connectTarget id).elim .nullptr .entry
      ∨ puppets.findPuppetInfo id true = .outOfBounds := by
    unfold connectTarget
    cases own : puppets.ownEntry id with
    | none =>
        rw [findPuppetInfo_free own]
        split_ifs
        · exact .inl rfl
        · exact .inr rfl
    | some index => exact .inl (findPuppetInfo_own own true)
  unfold updatePlayerConnect at taken
  rcases found with found | found
  · rw [found] at taken
    cases target : puppets.connectTarget id with
    | none =>
        rw [target] at taken
        cases taken
        exact .inl ⟨nofun, rfl⟩
    | some index =>
        rw [target] at taken
        dsimp only [Option.elim_some] at taken
        cases connected : puppets.isConnectedAt index with
        | true =>
            rw [connected, if_pos rfl] at taken
            cases taken
            exact .inl ⟨fun _ same => Option.some.inj same ▸ connected, rfl⟩
        | false =>
            rw [connected, if_neg Bool.false_ne_true] at taken
            cases taken
            exact .inr ⟨index, rfl, connected, rfl⟩
  · rw [found] at taken
    cases taken

/-- What a `PlayerDC` does: nothing, or it clears the entry of a connected user, and counts. -/
theorem disconnectPlayer_cases {id : Guid} {next : Puppets}
    (taken : puppets.disconnectPlayer id = some next)
    : next = puppets
      ∨ ∃ index,
          puppets.ownEntry id = some index
          ∧ puppets.isConnectedAt index = true
          ∧ next
            = { puppets.modify index PuppetInfo.disconnect with
                mConnectCount := puppets.mConnectCount - 1 } := by
  unfold disconnectPlayer at taken
  cases own : puppets.ownEntry id with
  | none =>
      rw [findPuppetInfo_absent own] at taken
      split_ifs at taken
      cases taken
      exact .inl rfl
  | some index =>
      rw [findPuppetInfo_own own] at taken
      dsimp only at taken
      split_ifs at taken with connected
      · cases taken
        exact .inr ⟨index, rfl, connected, rfl⟩
      · cases taken
        exact .inl rfl

/-- What a packet of a user makes of the entries. Where it does nothing, a player's position has
no entry and a `PlayerConnect` one in which somebody is connected, or none.
-/
inductive Effect (findStr : Int16 → Bytes) (puppets : Puppets) (id : Guid)
    : PuppetPacket → Puppets → Prop
  | nothing {packet}
    (position : packet.isPlayerInf = true → puppets.ownEntry id = none)
    (taken
      : ∀ {clientName},
          packet = .playerConnect clientName
          → ∀ index, puppets.connectTarget id = some index → puppets.isConnectedAt index = true)
    : Effect findStr puppets id packet puppets
  | write {packet} (index) (own : puppets.ownEntry id = some index)
    (connects : ∀ {clientName}, packet ≠ .playerConnect clientName)
    : Effect findStr puppets id packet
        (puppets.modify index (PuppetInfo.update findStr · packet))
  | connect (clientName index) (target : puppets.connectTarget id = some index)
    (free : puppets.isConnectedAt index = false)
    : Effect findStr puppets id (.playerConnect clientName)
        { puppets.modify index (PuppetInfo.connect · id clientName) with
          mConnectCount := puppets.mConnectCount + 1 }
  | disconnect (index) (own : puppets.ownEntry id = some index)
    (connected : puppets.isConnectedAt index = true)
    : Effect findStr puppets id .playerDC
        { puppets.modify index PuppetInfo.disconnect with
          mConnectCount := puppets.mConnectCount - 1 }

theorem updateFound_effect {id : Guid} {packet : PuppetPacket} {next : Puppets}
    (connects : ∀ {clientName}, packet ≠ .playerConnect clientName)
    (taken : puppets.updateFound findStr id packet = some next)
    : Effect findStr puppets id packet next := by
  rcases updateFound_cases taken with ⟨absent, rfl⟩ | ⟨index, own, rfl⟩
  · exact .nothing (fun _ => absent) fun same => absurd same connects
  · exact .write index own connects

/-- Every packet that is handled has one of these effects. -/
theorem readPacket_effect {isHideAndSeek : Bool} {id : Guid} {packet : PuppetPacket}
    {next : Puppets} (taken : puppets.readPacket findStr isHideAndSeek id packet = some next)
    : Effect findStr puppets id packet next := by
  cases packet with
  | playerConnect clientName =>
      rcases updatePlayerConnect_cases taken with ⟨occupied, rfl⟩ | ⟨index, target, free, rfl⟩
      · exact .nothing (fun same => by cases same) fun _ => occupied
      · exact .connect clientName index target free
  | playerDC =>
      rcases disconnectPlayer_cases taken with rfl | ⟨index, own, connected, rfl⟩
      · exact .nothing (fun same => by cases same) (fun same => by cases same)
      · exact .disconnect index own connected
  | tagInf isIt seconds minutes =>
      simp only [readPacket, updateTagInfo] at taken
      split_ifs at taken
      · cases taken
        exact .nothing (fun same => by cases same) (fun same => by cases same)
      · exact updateFound_effect (fun same => by cases same) taken
  | playerTeamAssignment team =>
      simp only [readPacket, updateCTFPlayerTeamAssignment] at taken
      split_ifs at taken
      · exact updateFound_effect (fun same => by cases same) taken
      · cases taken
        exact .nothing (fun same => by cases same) (fun same => by cases same)
  | _ => exact updateFound_effect (fun same => by cases same) taken

/-- A scene gets another puppet while its holder has a place for it. -/
theorem createPuppetActor_cases (taken : puppets.step findStr .createPuppetActor = some next)
    : next = puppets
      ∨ puppets.holderSize < holderCapacity
        ∧ next = { puppets with holderSize := puppets.holderSize + 1 } := by
  simp only [step, tryAddPuppet] at taken
  split_ifs at taken with free
  · exact .inr ⟨free, (Option.some.inj taken).symm⟩
  · exact .inl (Option.some.inj taken).symm

/-- The player list only reads. -/
theorem playerList_eq (taken : puppets.step findStr .playerList = some next) : next = puppets := by
  simp only [step] at taken
  split_ifs at taken
  exact (Option.some.inj taken).symm

/-- So does the look-up of those who hold flags. -/
theorem updateFlags_eq {red blue : Option Guid}
    (taken : puppets.step findStr (.updateFlags red blue) = some next)
    : next = puppets := by
  simp only [step] at taken
  split_ifs at taken
  exact (Option.some.inj taken).symm

end Puppets

end SmoOnline.Mod
