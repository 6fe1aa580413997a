import SmoOnline.Library.Layout
import SmoOnline.Mod.PlayerAnims
import SmoOnline.Mod.PuppetReuse

/-! The entries for the other players as they lie in memory, and what the handlers of packets write
to them octet by octet. Texts are copied into buffers of fixed sizes without a look at their
lengths.
-/

namespace SmoOnline.Mod

open Span Layout

-----------------------------------------------------------------------------------------
-- Where the fields are
-----------------------------------------------------------------------------------------

/-- The members of `struct PuppetInfo`, and the elements of its `blendWeights`. -/
inductive InfoField
  | puppetName
  | isConnected
  | playerID
  | playerPos
  | playerRot
  | scenarioNo
  | stageName
  | isInSameStage
  | costumeBody
  | costumeHead
  | curHack
  | isCaptured
  | isStartCapture
  | curAnim
  | curSubAnim
  | curAnimStr
  | curSubAnimStr
  | blendWeights (index : Fin 6)
  | animRate
  | is2D
  | capPos
  | capRot
  | capAnim
  | isCapThrow
  | isHoldThrow
  | isIt
  | seconds
  | minutes
  | ctfTeam
  deriving DecidableEq

namespace InfoField

/-- The order in the `struct`. -/
def all : List InfoField :=
  [.puppetName, .isConnected, .playerID, .playerPos, .playerRot, .scenarioNo, .stageName,
    .isInSameStage, .costumeBody, .costumeHead, .curHack, .isCaptured, .isStartCapture, .curAnim,
    .curSubAnim, .curAnimStr, .curSubAnimStr]
  ++ (List.finRange 6).map .blendWeights
  ++ [.animRate, .is2D, .capPos, .capRot, .capAnim, .isCapThrow, .isHoldThrow, .isIt, .seconds,
    .minutes, .ctfTeam]

def member : InfoField → Member
  | .puppetName => { size := 0x10, align := 1 }
  | .playerID => { size := 0x10, align := 1 }
  | .playerPos | .capPos => { size := 12, align := 4 }
  | .playerRot | .capRot => { size := 16, align := 4 }
  | .stageName | .curHack => { size := 0x40, align := 1 }
  | .costumeBody | .costumeHead => { size := 0x20, align := 1 }
  | .curAnim | .curSubAnim | .minutes => { size := 2, align := 2 }
  | .curAnimStr | .curSubAnimStr | .capAnim => { size := PlayerAnims.packBufSize, align := 1 }
  | .blendWeights _ | .animRate | .ctfTeam => { size := 4, align := 4 }
  | .isConnected | .scenarioNo | .isInSameStage | .isCaptured | .isStartCapture | .is2D
  | .isCapThrow | .isHoldThrow | .isIt | .seconds =>
      { size := 1, align := 1 }

def record : Record InfoField where
  fields := all
  member
  complete field := by
    cases field with
    | blendWeights index => simp [all]
    | _ => simp [all]

end InfoField

/-- `FlagActor::latestReceivedStage`, an object of its own. -/
inductive FlagActorField
  | latestReceivedStage
  deriving DecidableEq

def FlagActorField.record : Record FlagActorField where
  fields := [.latestReceivedStage]
  member _ := { size := 0x40, align := 1 }
  complete := by
    rintro ⟨⟩
    exact List.mem_singleton_self _

-----------------------------------------------------------------------------------------
-- What the handlers write
-----------------------------------------------------------------------------------------

section Writes

variable {Field Value : Type}

def assign [Blittable Value] (field : Field) (value : Value) : Write Field UInt8 where
  field
  octets := toBytes value

/-- `strcpy` into a field, with the terminating zero. -/
def copy (field : Field) (text : Bytes) : Write Field UInt8 where
  field
  octets := strcpy text ++ [0]

end Writes

namespace PuppetMemory

variable (entry : Memory UInt8) (id : Guid)

def isSet (field : InfoField) : Bool := (ofBytes (InfoField.record.read entry field) : Bool)

/-- One weight of a packet, if it has so many and this one is between 0 and 1. -/
def updateWeight (animBlendWeights : List UInt32) (index : Fin 6) : List (Write InfoField UInt8) :=
  match animBlendWeights[index.val]? with
  | some weight => if isWeight weight then [assign (.blendWeights index) weight] else []
  | none => []

def updateWeights (animBlendWeights : List UInt32) : List (Write InfoField UInt8) :=
  (List.finRange 6).flatMap (updateWeight animBlendWeights)

def updatePlayerInfo (playerPos : Vector3) (playerRot : Quaternion)
    (animBlendWeights : List UInt32) (actName subActName : Int32)
    : List (Write InfoField UInt8) :=
  (if isSet entry .isConnected then [] else [assign .isConnected true])
  ++ [assign .playerPos playerPos]
  ++ (if isRotation playerRot then [assign .playerRot playerRot] else [])
  ++ [copy .curAnimStr (PuppetInfo.animStr PlayerAnims.findStr actName PuppetInfo.waitAnim),
    copy .curSubAnimStr (PuppetInfo.animStr PlayerAnims.findStr subActName []),
    assign .curAnim actName.toInt16, assign .curSubAnim subActName.toInt16]
  ++ updateWeights animBlendWeights
  ++ (if isSet entry .isCapThrow then [] else [assign .capPos playerPos])

def updateGameInfo (is2D : Bool) (scenarioNum : Int32) (stageName : Bytes)
    : List (Write InfoField UInt8) :=
  if isSet entry .isConnected then
    [assign .scenarioNo scenarioNum.toUInt32.toUInt8]
    ++ (if 3 < (strcpy stageName).length then [copy .stageName stageName] else [])
    ++ [assign .is2D is2D]
  else []

def updateHackCapInfo (capPos : Vector3) (capRot : Quaternion) (isCapThrow : Bool)
    (capAnim : Bytes)
    : List (Write InfoField UInt8) :=
  [assign .capPos capPos, assign .capRot capRot, assign .isCapThrow isCapThrow,
    copy .capAnim capAnim]

def updateCaptureInfo (hackName : Bytes) : List (Write InfoField UInt8) :=
  if hackName ≠ [] then [assign .isCaptured true, copy .curHack hackName]
  else [assign .isCaptured false]

def updateCostumeInfo (bodyModel capModel : Bytes) : List (Write InfoField UInt8) :=
  [copy .costumeBody bodyModel, copy .costumeHead capModel]

def updatePlayerConnect (clientName : Bytes) : List (Write InfoField UInt8) :=
  if isSet entry .isConnected then []
  else [assign .playerID id, assign .isConnected true, copy .puppetName clientName]

def disconnectPlayer : List (Write InfoField UInt8) :=
  if isSet entry .isConnected then
    [assign .isConnected false, assign .scenarioNo (255 : UInt8), copy .stageName [],
      assign .isInSameStage false]
  else []

/-- What the handler of a packet writes to the entry that it finds. -/
def writes : PuppetPacket → List (Write InfoField UInt8)
  | .playerInf playerPos playerRot animBlendWeights actName subActName =>
      updatePlayerInfo entry playerPos playerRot animBlendWeights actName subActName
  | .gameInf is2D scenarioNum stageName => updateGameInfo entry is2D scenarioNum stageName
  | .hackCapInf capPos capRot isCapThrow capAnim =>
      updateHackCapInfo capPos capRot isCapThrow capAnim
  | .captureInf hackName => updateCaptureInfo hackName
  | .playerConnect clientName => updatePlayerConnect entry id clientName
  | .costumeInf bodyModel capModel => updateCostumeInfo bodyModel capModel
  | .playerDC => disconnectPlayer entry
  | .tagInf isIt seconds minutes =>
      [assign .isIt isIt, assign .seconds seconds.toUInt8, assign .minutes minutes.toUInt16]
  | .playerTeamAssignment team => [assign .ctfTeam team]

-----------------------------------------------------------------------------------------
-- Writes that stay where they belong
-----------------------------------------------------------------------------------------

/-- Every text has room in the buffer that it is copied into, with its terminating zero. -/
def TextsFit : PuppetPacket → Prop
  | .playerConnect clientName =>
      isSet entry .isConnected = false → (strcpy clientName).length < 0x10
  | .gameInf _ _ stageName => isSet entry .isConnected = true → (strcpy stageName).length < 0x40
  | .hackCapInf _ _ _ capAnim => (strcpy capAnim).length < PlayerAnims.packBufSize
  | .captureInf hackName => (strcpy hackName).length < 0x40
  | .costumeInf bodyModel capModel =>
      (strcpy bodyModel).length < 0x20 ∧ (strcpy capModel).length < 0x20
  | .playerInf _ _ _ _ _ | .playerDC | .tagInf _ _ _ | .playerTeamAssignment _ => True

section

variable {Field Value : Type} {record : Record Field}

theorem fits_assign [Blittable Value] {field : Field} {value : Value}
    : record.Fits (assign field value) ↔ Blittable.size Value ≤ record.size field := by
  rw [Record.Fits, assign, Blittable.length_toBytes]

theorem fits_copy {field : Field} {text : Bytes}
    : record.Fits (copy field text) ↔ (strcpy text).length < record.size field := by
  rw [Record.Fits, copy, List.length_append, List.length_singleton]
  exact Nat.succ_le_iff

end

theorem length_strcpy (text : Bytes) : (strcpy text).length ≤ text.length :=
  (List.takeWhile_prefix _).length_le

/-- The names of animations always fit. -/
theorem length_animStr (act : Int32) {otherwise : Bytes}
    (short : otherwise.length < PlayerAnims.packBufSize)
    : (strcpy (PuppetInfo.animStr PlayerAnims.findStr act otherwise)).length
      < PlayerAnims.packBufSize := by
  apply Nat.lt_of_le_of_lt (length_strcpy _)
  unfold PuppetInfo.animStr
  split_ifs
  · exact (PlayerAnims.findStr_fits _).1
  · exact short

/-- What is written for a weight. -/
theorem mem_updateWeight {animBlendWeights : List UInt32} {index : Fin 6}
    {write : Write InfoField UInt8} (member : write ∈ updateWeight animBlendWeights index)
    : ∃ weight : UInt32, write = assign (.blendWeights index) weight := by
  unfold updateWeight at member
  split at member
  · next weight _ =>
      split_ifs at member
      · exact ⟨weight, List.mem_singleton.mp member⟩
      · cases member
  · cases member

theorem mem_updateWeights {animBlendWeights : List UInt32} {write : Write InfoField UInt8}
    (member : write ∈ updateWeights animBlendWeights)
    : ∃ (index : Fin 6) (weight : UInt32), write = assign (.blendWeights index) weight := by
  obtain ⟨index, -, written⟩ := List.mem_flatMap.mp member
  exact ⟨index, mem_updateWeight written⟩

theorem fits_updateWeights (animBlendWeights : List UInt32)
    : ∀ write ∈ updateWeights animBlendWeights, InfoField.record.Fits write := by
  intro write member
  obtain ⟨index, weight, rfl⟩ := mem_updateWeights member
  exact fits_assign.mpr (Nat.le_refl _)

theorem fits_updatePlayerInfo (playerPos : Vector3) (playerRot : Quaternion)
    (animBlendWeights : List UInt32) (actName subActName : Int32)
    : ∀ write
        ∈ updatePlayerInfo entry playerPos playerRot animBlendWeights actName subActName,
        InfoField.record.Fits write := by
  simp only [updatePlayerInfo, List.forall_mem_append]
  refine ⟨⟨⟨⟨⟨?_, ?_⟩, ?_⟩, ?_⟩, fits_updateWeights animBlendWeights⟩, ?_⟩
  · split_ifs
    · exact List.forall_mem_nil _
    · exact List.forall_mem_singleton.mpr (fits_assign.mpr (Nat.le_refl _))
  · exact List.forall_mem_singleton.mpr (fits_assign.mpr (Nat.le_refl _))
  · split_ifs
    · exact List.forall_mem_singleton.mpr (fits_assign.mpr (Nat.le_refl _))
    · exact List.forall_mem_nil _
  · simp only [List.forall_mem_cons]
    exact ⟨fits_copy.mpr (length_animStr actName (by decide)),
      fits_copy.mpr (length_animStr subActName (by decide)), fits_assign.mpr (Nat.le_refl _),
      fits_assign.mpr (Nat.le_refl _), List.forall_mem_nil _⟩
  · split_ifs
    · exact List.forall_mem_nil _
    · exact List.forall_mem_singleton.mpr (fits_assign.mpr (Nat.le_refl _))

/-- The writes of a handler stay in their fields exactly where the texts fit. -/
theorem fit_writes_iff (packet : PuppetPacket)
    : (∀ write ∈ writes entry id packet, InfoField.record.Fits write)
      ↔ TextsFit entry packet := by
  cases packet with
  | playerInf playerPos playerRot animBlendWeights actName subActName =>
      exact iff_of_true
        (fits_updatePlayerInfo entry playerPos playerRot animBlendWeights actName subActName)
        trivial
  | gameInf is2D scenarioNum stageName =>
      simp only [writes, updateGameInfo, TextsFit]
      split_ifs with connected long
      · simp only [List.forall_mem_append, List.forall_mem_singleton, fits_copy, fits_assign]
        exact ⟨fun fits _ => fits.1.2,
          fun fits => ⟨⟨Nat.le_refl _, fits connected⟩, Nat.le_refl _⟩⟩
      · simp only [List.forall_mem_append, List.forall_mem_singleton, fits_assign]
        have short : (strcpy stageName).length < 0x40 := by omega
        exact iff_of_true ⟨⟨Nat.le_refl _, List.forall_mem_nil _⟩, Nat.le_refl _⟩ fun _ => short
      · exact iff_of_true (List.forall_mem_nil _) fun isSet => absurd isSet connected
  | hackCapInf capPos capRot isCapThrow capAnim =>
      simp only [writes, updateHackCapInfo, TextsFit, List.forall_mem_cons, fits_copy, fits_assign]
      exact ⟨fun fits => fits.2.2.2.1,
        fun fits => ⟨Nat.le_refl _, Nat.le_refl _, Nat.le_refl _, fits, List.forall_mem_nil _⟩⟩
  | captureInf hackName =>
      simp only [writes, updateCaptureInfo, TextsFit]
      split_ifs with captured
      · simp only [List.forall_mem_cons, fits_copy, fits_assign]
        exact ⟨fun fits => fits.2.1, fun fits => ⟨Nat.le_refl _, fits, List.forall_mem_nil _⟩⟩
      · rw [not_not] at captured
        subst captured
        exact iff_of_true (List.forall_mem_singleton.mpr (fits_assign.mpr (Nat.le_refl _)))
          (by decide)
  | playerConnect clientName =>
      simp only [writes, updatePlayerConnect, TextsFit]
      split_ifs with connected
      · rw [connected]
        exact iff_of_true (List.forall_mem_nil _) fun never => by cases never
      · simp only [List.forall_mem_cons, fits_copy, fits_assign]
        exact ⟨fun fits _ => fits.2.2.1,
          fun fits => ⟨Nat.le_refl _, Nat.le_refl _, fits (Bool.eq_false_iff.mpr connected),
            List.forall_mem_nil _⟩⟩
  | costumeInf bodyModel capModel =>
      simp only [writes, updateCostumeInfo, TextsFit, List.forall_mem_cons, fits_copy]
      exact ⟨fun fits => ⟨fits.1, fits.2.1⟩, fun fits => ⟨fits.1, fits.2, List.forall_mem_nil _⟩⟩
  | playerDC =>
      refine iff_of_true ?_ trivial
      simp only [writes, disconnectPlayer]
      split_ifs
      · simp only [List.forall_mem_cons, fits_copy, fits_assign]
        exact ⟨Nat.le_refl _, Nat.le_refl _, by decide, Nat.le_refl _, List.forall_mem_nil _⟩
      · exact List.forall_mem_nil _
  | tagInf isIt seconds minutes =>
      refine iff_of_true ?_ trivial
      simp only [writes, List.forall_mem_cons, fits_assign]
      exact ⟨Nat.le_refl _, Nat.le_refl _, Nat.le_refl _, List.forall_mem_nil _⟩
  | playerTeamAssignment team =>
      exact iff_of_true (List.forall_mem_singleton.mpr (fits_assign.mpr (Nat.le_refl _))) trivial

end PuppetMemory

-----------------------------------------------------------------------------------------
-- The entry that the octets are
-----------------------------------------------------------------------------------------

/-- The entry whose fields have some octets. -/
def PuppetInfo.ofOctets (octets : InfoField → Bytes) : PuppetInfo where
  puppetName := strcpy (octets .puppetName)
  isConnected := ofBytes (octets .isConnected)
  playerID := ofBytes (octets .playerID)
  playerPos := ofBytes (octets .playerPos)
  playerRot := ofBytes (octets .playerRot)
  scenarioNo := ofBytes (octets .scenarioNo)
  stageName := strcpy (octets .stageName)
  isInSameStage := ofBytes (octets .isInSameStage)
  costumeBody := strcpy (octets .costumeBody)
  costumeHead := strcpy (octets .costumeHead)
  curHack := strcpy (octets .curHack)
  isCaptured := ofBytes (octets .isCaptured)
  curAnim := ofBytes (octets .curAnim)
  curSubAnim := ofBytes (octets .curSubAnim)
  curAnimStr := strcpy (octets .curAnimStr)
  curSubAnimStr := strcpy (octets .curSubAnimStr)
  blendWeights := .ofFn fun index => ofBytes (octets (.blendWeights index))
  is2D := ofBytes (octets .is2D)
  capPos := ofBytes (octets .capPos)
  capRot := ofBytes (octets .capRot)
  capAnim := strcpy (octets .capAnim)
  isCapThrow := ofBytes (octets .isCapThrow)
  isIt := ofBytes (octets .isIt)
  seconds := ofBytes (octets .seconds)
  minutes := ofBytes (octets .minutes)
  ctfTeam := ofBytes (octets .ctfTeam)

namespace PuppetMemory

/-- The entry in memory. -/
def infoOf (entry : Memory UInt8) : PuppetInfo := .ofOctets (InfoField.record.read entry)

theorem infoOf_putAll {entry : Memory UInt8} {writes : List (Write InfoField UInt8)}
    (fit : ∀ write ∈ writes, InfoField.record.Fits write)
    : infoOf (InfoField.record.putAll entry writes)
      = .ofOctets fun field => Record.putOwn field writes (InfoField.record.read entry field) := by
  unfold infoOf
  congr 1
  funext field
  exact Record.read_putAll fit

@[simp] theorem putOwn_assign {Value : Type} [Blittable Value] (field other : InfoField)
    (value : Value) (later : List (Write InfoField UInt8)) (old : Bytes)
    : Record.putOwn field (assign other value :: later) old
      = Record.putOwn field later (if other = field then putOver (toBytes value) old else old) :=
  rfl

@[simp] theorem putOwn_copy (field other : InfoField) (text : Bytes)
    (later : List (Write InfoField UInt8)) (old : Bytes)
    : Record.putOwn field (copy other text :: later) old
      = Record.putOwn field later
          (if other = field then putOver (strcpy text ++ [0]) old else old) :=
  rfl

/-- A value that is assigned is all that its field has. -/
@[simp] theorem putOver_assigned {Value : Type} [Blittable Value] (entry : Memory UInt8)
    (field : InfoField) (value : Value) (size : InfoField.record.size field = Blittable.size Value)
    : putOver (toBytes value) (InfoField.record.read entry field) = toBytes value := by
  apply putOver_of_length_le
  rw [Record.length_read, Blittable.length_toBytes, size]

/-- The terminating zero ends a text, whatever the buffer has behind it. -/
@[simp] theorem strcpy_copied (text old : Bytes)
    : strcpy (putOver (strcpy text ++ [0]) old) = strcpy text := by
  rw [putOver, List.append_assoc]
  unfold strcpy
  rw [List.takeWhile_append_of_pos fun octet member => by simpa using List.mem_takeWhile_imp member]
  simp

/-- The field is no element of `blendWeights`. -/
def isNoWeight : InfoField → Bool
  | .blendWeights _ => false
  | _ => true

theorem putOwn_updateWeights_other {field : InfoField} (other : isNoWeight field = true)
    (animBlendWeights : List UInt32) (old : Bytes)
    : Record.putOwn field (updateWeights animBlendWeights) old = old := by
  apply Record.putOwn_of_not_written
  rintro write member rfl
  obtain ⟨index, weight, rfl⟩ := mem_updateWeights member
  cases other

/-- What the weights of a packet make of one weight. -/
theorem ofBytes_updateWeights (entry : Memory UInt8) (animBlendWeights : List UInt32)
    (index : Fin 6)
    : ofBytes
        (Record.putOwn (.blendWeights index) (updateWeights animBlendWeights)
          (InfoField.record.read entry (.blendWeights index)))
      = match animBlendWeights[index.val]? with
        | some weight =>
            if isWeight weight then weight
            else ofBytes (InfoField.record.read entry (.blendWeights index))
        | none => ofBytes (InfoField.record.read entry (.blendWeights index)) := by
  have own
      : Record.putOwn (.blendWeights index) (updateWeights animBlendWeights)
          (InfoField.record.read entry (.blendWeights index))
        = Record.putOwn (.blendWeights index) (updateWeight animBlendWeights index)
            (InfoField.record.read entry (.blendWeights index)) := by
    apply Record.putOwn_flatMap _ (List.mem_finRange index) (List.nodup_finRange 6)
    intro other different write member same
    obtain ⟨weight, rfl⟩ := mem_updateWeight member
    exact different (InfoField.blendWeights.inj same)
  rw [own, updateWeight]
  split
  · next weight _ =>
      split_ifs
      · simp only [Record.putOwn, List.foldl, assign, if_true]
        rw [putOver_assigned entry (.blendWeights index) weight rfl, ofBytes_toBytes]
      · rfl
  · rfl

/-- What a packet about the position makes of the entry. -/
theorem ofOctets_updatePlayerInfo (entry : Memory UInt8) (playerPos : Vector3)
    (playerRot : Quaternion) (animBlendWeights : List UInt32) (actName subActName : Int32)
    : (PuppetInfo.ofOctets fun field =>
        Record.putOwn field
          (updatePlayerInfo entry playerPos playerRot animBlendWeights actName subActName)
          (InfoField.record.read entry field))
      = (infoOf entry).update PlayerAnims.findStr
          (.playerInf playerPos playerRot animBlendWeights actName subActName) := by
  have names (act : Int32) {otherwise : Bytes} (plain : strcpy otherwise = otherwise)
      (old : Bytes)
      : strcpy
          (putOver (strcpy (PuppetInfo.animStr PlayerAnims.findStr act otherwise) ++ [0]) old)
        = PuppetInfo.animStr PlayerAnims.findStr act otherwise := by
    rw [strcpy_copied]
    unfold PuppetInfo.animStr
    split_ifs
    · exact (PlayerAnims.findStr_fits _).2
    · exact plain
  have weights
      : (Vector.ofFn fun index =>
            ofBytes
              (Record.putOwn (.blendWeights index) (updateWeights animBlendWeights)
                (InfoField.record.read entry (.blendWeights index))))
        = Mod.updateWeights (infoOf entry).blendWeights animBlendWeights := by
    unfold Mod.updateWeights
    congr 1
    funext index
    rw [ofBytes_updateWeights]
    cases animBlendWeights[index.val]? with
    | none => simp [infoOf, PuppetInfo.ofOctets]
    | some weight => simp [infoOf, PuppetInfo.ofOctets]
  rw [PuppetInfo.update, ← weights]
  have connected : isSet entry .isConnected = ofBytes (InfoField.record.read entry .isConnected) :=
    rfl
  have thrown : isSet entry .isCapThrow = ofBytes (InfoField.record.read entry .isCapThrow) := rfl
  have actNames := names actName (show strcpy PuppetInfo.waitAnim = PuppetInfo.waitAnim by decide)
  have subActNames := names subActName (show strcpy [] = [] from rfl)
  simp only [updatePlayerInfo, Record.putOwn_append, connected, thrown, infoOf,
    PuppetInfo.ofOctets]
  by_cases wasConnected : (ofBytes (InfoField.record.read entry .isConnected) : Bool) = true <;>
    by_cases isThrown : (ofBytes (InfoField.record.read entry .isCapThrow) : Bool) = true <;>
      by_cases rotation : isRotation playerRot = true <;>
        simp (disch := decide) only [wasConnected, isThrown, rotation, if_true, if_false,
          Record.putOwn_cons, Record.putOwn_nil, copy, assign, reduceCtorEq,
          actNames, subActNames, putOver_assigned, Blittable.ofBytes_toBytes,
          putOwn_updateWeights_other]

/-- Where the texts fit, a handler makes of the entry in memory what it is to make of the entry. -/
theorem infoOf_writes (entry : Memory UInt8) (id : Guid) (packet : PuppetPacket)
    (fits : TextsFit entry packet)
    : infoOf (InfoField.record.putAll entry (writes entry id packet))
      = (infoOf entry).receive PlayerAnims.findStr id packet := by
  rw [infoOf_putAll ((fit_writes_iff entry id packet).mpr fits)]
  have online : (infoOf entry).isConnected = isSet entry .isConnected := rfl
  cases packet with
  | playerInf playerPos playerRot animBlendWeights actName subActName =>
      exact ofOctets_updatePlayerInfo entry playerPos playerRot animBlendWeights actName subActName
  | gameInf is2D scenarioNum stageName =>
      simp only [writes, updateGameInfo, PuppetInfo.receive, PuppetInfo.update, online]
      split_ifs with connected long
      · simp (disch := decide) [PuppetInfo.ofOctets, infoOf, isSet]
      · simp (disch := decide) [PuppetInfo.ofOctets, infoOf, isSet]
      · rfl
  | hackCapInf capPos capRot isCapThrow capAnim =>
      simp (disch := decide) [writes, updateHackCapInfo, PuppetInfo.receive, PuppetInfo.update,
        PuppetInfo.ofOctets, infoOf]
  | captureInf hackName =>
      simp only [writes, updateCaptureInfo, PuppetInfo.receive, PuppetInfo.update]
      split_ifs with captured
      · simp (disch := decide) [PuppetInfo.ofOctets, infoOf]
      · simp (disch := decide) [PuppetInfo.ofOctets, infoOf]
  | playerConnect clientName =>
      simp only [writes, updatePlayerConnect, PuppetInfo.receive, online]
      split_ifs with connected
      · rfl
      · simp (disch := decide) [PuppetInfo.connect, PuppetInfo.ofOctets, infoOf]
  | costumeInf bodyModel capModel =>
      simp [writes, updateCostumeInfo, PuppetInfo.receive, PuppetInfo.update,
        PuppetInfo.ofOctets, infoOf]
  | playerDC =>
      simp only [writes, disconnectPlayer, PuppetInfo.receive, online]
      split_ifs with connected
      · simp (disch := decide) [PuppetInfo.disconnect, PuppetInfo.ofOctets, infoOf]
        rfl
      · rfl
  | tagInf isIt seconds minutes =>
      simp (disch := decide) [writes, PuppetInfo.receive, PuppetInfo.update,
        PuppetInfo.ofOctets, infoOf]
  | playerTeamAssignment team =>
      simp (disch := decide) [writes, PuppetInfo.receive, PuppetInfo.update,
        PuppetInfo.ofOctets, infoOf]

end PuppetMemory

open PuppetMemory

/-- What `readFunc` has got: a packet whose handler looks for an entry, one about a dropped flag, or
one whose handler copies no text.
-/
inductive ReceivedPacket
  | puppet (id : Guid) (packet : PuppetPacket)
  | flagDroppedPosition (stage_name : Bytes)
  | other

/-- What a handler comes to. -/
structure Receiver where
  /-- The entry that is found, and what lies behind it. -/
  curInfo : Option (Memory UInt8)
  latestReceivedStage : Memory UInt8
  isModeAndActive : Bool
  isFirstFrame : Bool

namespace Receiver

variable (receiver : Receiver) (packet : ReceivedPacket)

def entryWrites : List (Write InfoField UInt8) :=
  match packet, receiver.curInfo with
  | .puppet id packet, some entry => writes entry id packet
  | _, _ => []

/-- `updateCTFFlagDroppedPosition` -/
def stageWrites : List (Write FlagActorField UInt8) :=
  match packet with
  | .flagDroppedPosition stage_name =>
      if !receiver.isModeAndActive then []
      else if receiver.isFirstFrame then []
      else [copy .latestReceivedStage stage_name]
  | _ => []

def handle : Receiver :=
  { receiver with
    curInfo :=
      receiver.curInfo.map fun entry =>
        InfoField.record.putAll entry (receiver.entryWrites packet)
    latestReceivedStage :=
      FlagActorField.record.putAll receiver.latestReceivedStage (receiver.stageWrites packet) }

/-- Every copy stays in its buffer, no field of the entry changes that the handler does not write,
and a player who connects has an entry with their Id.
-/
structure KeepsBuffers : Prop where
  entry : ∀ write ∈ receiver.entryWrites packet, InfoField.record.Fits write
  stage : ∀ write ∈ receiver.stageWrites packet, FlagActorField.record.Fits write
  others
    : ∀ before after field,
        receiver.curInfo = some before
        → (receiver.handle packet).curInfo = some after
        → (∀ write ∈ receiver.entryWrites packet, write.field ≠ field)
        → InfoField.record.read after field = InfoField.record.read before field
  connect
    : ∀ before after id clientName,
        receiver.curInfo = some before
        → (receiver.handle packet).curInfo = some after
        → packet = .puppet id (.playerConnect clientName)
        → isSet before .isConnected = false
        → InfoField.record.read after .playerID = toBytes id
          ∧ InfoField.record.read after .isConnected = toBytes true

/-- The texts that are copied have room. -/
def TextsFit : Prop :=
  match packet with
  | .puppet _ packet =>
      ∀ entry, receiver.curInfo = some entry → PuppetMemory.TextsFit entry packet
  | .flagDroppedPosition stage_name =>
      receiver.isModeAndActive = true
      → receiver.isFirstFrame = false
      → (strcpy stage_name).length < 0x40
  | .other => True

variable {receiver packet}

theorem fit_stageWrites_iff {stage_name : Bytes}
    : (∀ write ∈ receiver.stageWrites (.flagDroppedPosition stage_name),
        FlagActorField.record.Fits write)
      ↔ receiver.TextsFit (.flagDroppedPosition stage_name) := by
  simp only [stageWrites, TextsFit]
  cases receiver.isModeAndActive with
  | false => exact iff_of_true (List.forall_mem_nil _) fun never => by cases never
  | true =>
      cases receiver.isFirstFrame with
      | true => exact iff_of_true (List.forall_mem_nil _) fun _ never => by cases never
      | false =>
          simp only [Bool.not_true, Bool.false_eq_true, if_false, List.forall_mem_singleton,
            fits_copy]
          exact ⟨fun fits _ _ => fits, fun fits => fits trivial trivial⟩

/-- All writes of a handler stay in their fields exactly where the texts fit. -/
theorem fit_iff
    : ((∀ write ∈ receiver.entryWrites packet, InfoField.record.Fits write)
        ∧ ∀ write ∈ receiver.stageWrites packet, FlagActorField.record.Fits write)
      ↔ receiver.TextsFit packet := by
  cases packet with
  | puppet id packet =>
      have unwritten : receiver.stageWrites (.puppet id packet) = [] := rfl
      rw [unwritten, and_iff_left (List.forall_mem_nil _)]
      simp only [entryWrites, TextsFit]
      cases receiver.curInfo with
      | none => exact iff_of_true (List.forall_mem_nil _) fun _ never => by cases never
      | some entry =>
          rw [fit_writes_iff]
          constructor
          · intro fits other same
            cases same
            exact fits
          · intro fits
            exact fits entry rfl
  | flagDroppedPosition stage_name =>
      have unwritten : receiver.entryWrites (.flagDroppedPosition stage_name) = [] := by
        unfold entryWrites
        cases receiver.curInfo <;> rfl
      rw [unwritten, and_iff_right (List.forall_mem_nil _)]
      exact fit_stageWrites_iff
  | other =>
      have unwritten : receiver.entryWrites .other = [] := by
        unfold entryWrites
        cases receiver.curInfo <;> rfl
      rw [unwritten]
      exact iff_of_true ⟨List.forall_mem_nil _, List.forall_mem_nil _⟩ trivial

theorem read_handle {before after : Memory UInt8} (found : receiver.curInfo = some before)
    (handled : (receiver.handle packet).curInfo = some after)
    (fit : ∀ write ∈ receiver.entryWrites packet, InfoField.record.Fits write)
    (field : InfoField)
    : InfoField.record.read after field
      = Record.putOwn field (receiver.entryWrites packet) (InfoField.record.read before field) := by
  rw [handle, found] at handled
  obtain rfl := Option.some.inj handled
  exact Record.read_putAll fit

end Receiver

/-- A handler keeps to the buffers, and changes nothing but what it is to change, exactly where the
texts that it copies fit.
-/
theorem Receiver.keepsBuffers_iff (receiver : Receiver) (packet : ReceivedPacket)
    : receiver.KeepsBuffers packet ↔ receiver.TextsFit packet := by
  rw [← fit_iff]
  constructor
  · intro keeps
    exact ⟨keeps.entry, keeps.stage⟩
  · rintro ⟨entry, stage⟩
    refine ⟨entry, stage, ?_, ?_⟩
    · intro before after field found handled unwritten
      rw [read_handle found handled entry]
      exact Record.putOwn_of_not_written unwritten _
    · intro before after id clientName found handled isConnect away
      have written
          : receiver.entryWrites packet
            = [assign .playerID id, assign .isConnected true, copy .puppetName clientName] := by
        simp only [isConnect, entryWrites, found, writes, updatePlayerConnect, away]
        exact if_neg Bool.false_ne_true
      rw [read_handle found handled entry, read_handle found handled entry, written]
      exact ⟨putOver_assigned before .playerID id rfl,
        putOver_assigned before .isConnected true rfl⟩

/-- The octets of a name of six characters. -/
def sixCharacters : Bytes := PlayerAnims.octets "スーパーマリ"

/-- A player whose name has six characters connects, and another Id is in the entry. -/
theorem name_overwrites_id
    : ∃ (receiver : Receiver) (after : Memory UInt8),
        receiver.curInfo = some (fun _ => 0)
        ∧ sixCharacters.length = 18
        ∧ (receiver.handle (.puppet ⟨7⟩ (.playerConnect sixCharacters))).curInfo = some after
        ∧ InfoField.record.read after .isConnected = [131]
        ∧ (ofBytes (InfoField.record.read after .playerID) : Guid) = ⟨170⟩
        ∧ ¬receiver.KeepsBuffers (.puppet ⟨7⟩ (.playerConnect sixCharacters)) := by
  refine ⟨⟨some fun _ => 0, fun _ => 0, false, false⟩, _, rfl, by decide +kernel, rfl,
    by decide +kernel, by decide +kernel, ?_⟩
  intro keeps
  obtain ⟨-, connected⟩ := keeps.connect _ _ _ _ rfl rfl rfl (by decide +kernel)
  exact absurd connected (by decide +kernel)

end SmoOnline.Mod
