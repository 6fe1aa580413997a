import SmoOnline.Library.Runs
import SmoOnline.Mod.Puppets

/-! An entry that a player has left and another one gets. Leaving clears the stage; the rest of
the entry stays until packets of the new player write over it.
-/

namespace SmoOnline.Mod

open Runs Span

-----------------------------------------------------------------------------------------
-- Parts of an entry
-----------------------------------------------------------------------------------------

/-- The parts of an entry that packets write as a whole, each whatever the entry was. -/
inductive Part
  | position
  | rotation
  | animation
  | weight (index : Fin 6)
  | costume
  | captured
  | hack
  | dimension
  | cap
  | tag
  | team
  deriving DecidableEq, Repr

/-- The packets that say where the cap is and whether it is thrown. -/
def PuppetPacket.isHackCapInf : PuppetPacket → Bool
  | .hackCapInf _ _ _ _ => true
  | _ => false

namespace PuppetInfo

/-- An entry without whose it is. -/
def gameplay (info : PuppetInfo) : PuppetInfo :=
  { info with puppetName := [], isConnected := false, playerID := .empty }

/-- Two entries have a part in common. -/
def Agree (first second : PuppetInfo) : Part → Prop
  | .position => first.playerPos = second.playerPos
  | .rotation => first.playerRot = second.playerRot
  | .animation =>
      first.curAnim = second.curAnim
      ∧ first.curSubAnim = second.curSubAnim
      ∧ first.curAnimStr = second.curAnimStr
      ∧ first.curSubAnimStr = second.curSubAnimStr
  | .weight index => first.blendWeights.get index = second.blendWeights.get index
  | .costume => first.costumeBody = second.costumeBody ∧ first.costumeHead = second.costumeHead
  | .captured => first.isCaptured = second.isCaptured
  | .hack => first.curHack = second.curHack
  | .dimension => first.is2D = second.is2D
  | .cap => first.capRot = second.capRot ∧ first.capAnim = second.capAnim
  | .tag =>
      first.isIt = second.isIt
      ∧ first.seconds = second.seconds
      ∧ first.minutes = second.minutes
  | .team => first.ctfTeam = second.ctfTeam

/-- The place of the cap and whether it was thrown, on which the place depends. -/
def AgreeOnCap (first second : PuppetInfo) : Prop :=
  first.isCapThrow = second.isCapThrow ∧ first.capPos = second.capPos

def AgreeOnStage (first second : PuppetInfo) : Prop :=
  first.scenarioNo = second.scenarioNo
  ∧ first.stageName = second.stageName
  ∧ first.isInSameStage = second.isInSameStage

/-- All of the gameplay in parts. -/
theorem gameplay_eq_iff (first second : PuppetInfo)
    : first.gameplay = second.gameplay
      ↔ (∀ part, first.Agree second part)
        ∧ first.AgreeOnCap second
        ∧ first.AgreeOnStage second := by
  constructor
  · intro same
    simp only [gameplay, mk.injEq] at same
    refine ⟨?_, by simp [AgreeOnCap, same], by simp [AgreeOnStage, same]⟩
    intro part
    cases part <;> simp [Agree, same]
  · rintro ⟨parts, ⟨thrown, capPos⟩, scenarioNo, stageName, shown⟩
    have weights : first.blendWeights = second.blendWeights := by
      apply Vector.ext
      intro index inside
      exact parts (.weight ⟨index, inside⟩)
    obtain ⟨body, head⟩ := parts .costume
    obtain ⟨anim, subAnim, animStr, subAnimStr⟩ := parts .animation
    obtain ⟨capRot, capAnim⟩ := parts .cap
    obtain ⟨isIt, seconds, minutes⟩ := parts .tag
    have rest := And.intro (parts .position) (And.intro (parts .rotation)
      (And.intro (parts .captured) (And.intro (parts .hack)
        (And.intro (parts .dimension) (parts .team)))))
    simp only [Agree] at rest
    simp only [gameplay, mk.injEq]
    simp [*]

theorem Agree.refl (info : PuppetInfo) (part : Part) : info.Agree info part := by
  cases part <;> simp [Agree]

theorem Agree.symm {first second : PuppetInfo} {part : Part} (agree : first.Agree second part)
    : second.Agree first part := by
  cases part <;> simp_all [Agree]

theorem Agree.trans {first middle second : PuppetInfo} {part : Part}
    (left : first.Agree middle part) (right : middle.Agree second part)
    : first.Agree second part := by
  cases part <;> simp_all [Agree]

/-- What a packet of the user of an entry makes of it. -/
def receive (findStr : Int16 → Bytes) (id : Guid) (info : PuppetInfo) : PuppetPacket → PuppetInfo
  | .playerConnect clientName => if info.isConnected then info else info.connect id clientName
  | .playerDC => if info.isConnected then info.disconnect else info
  | packet => info.update findStr packet

/-- Whether the entry is connected after a packet of its user. -/
def connectedAfter (connected : Bool) : PuppetPacket → Bool
  | .playerConnect _ | .playerInf _ _ _ _ _ => true
  | .playerDC => false
  | _ => connected

/-- A packet writes a part, whatever it was. -/
def Writes (connected : Bool) (part : Part) : PuppetPacket → Bool
  | .playerInf _ playerRot animBlendWeights _ _ =>
      match part with
      | .position | .animation => true
      | .rotation => isRotation playerRot
      | .weight index => (animBlendWeights[index.val]?).any isWeight
      | _ => false
  | .gameInf _ _ _ => part = .dimension ∧ connected
  | .hackCapInf _ _ _ _ => part = .cap
  | .captureInf hackName => part = .captured ∨ (part = .hack ∧ hackName ≠ [])
  | .costumeInf _ _ => part = .costume
  | .tagInf _ _ _ => part = .tag
  | .playerTeamAssignment _ => part = .team
  | .playerConnect _ | .playerDC => false

/-- One of the packets writes a part. -/
def WrittenBy (part : Part) : Bool → List PuppetPacket → Bool
  | _, [] => false
  | connected, packet :: later =>
      Writes connected part packet || WrittenBy part (connectedAfter connected packet) later

/-- The entry after packets of its user. -/
def receiveAll (findStr : Int16 → Bytes) (id : Guid) (info : PuppetInfo)
    (packets : List PuppetPacket)
    : PuppetInfo :=
  packets.foldl (receive findStr id) info

/-- The cap comes to be the same: a packet is about it, or it was thrown in both entries or in
none, and where it was is the same or comes with the player's position.
-/
def CapReset (first second : PuppetInfo) (packets : List PuppetPacket) : Prop :=
  packets.any PuppetPacket.isHackCapInf = true
  ∨ (first.isCapThrow = second.isCapThrow
    ∧ (first.capPos = second.capPos
      ∨ (first.isCapThrow = false ∧ packets.any PuppetPacket.isPlayerInf = true)))

/-- Packets of a connected player write every part that is not the same in both entries. -/
def Overwrites (first second : PuppetInfo) (packets : List PuppetPacket) : Prop :=
  (∀ part, WrittenBy part true packets = true ∨ first.Agree second part)
  ∧ first.CapReset second packets

variable {findStr : Int16 → Bytes} {id : Guid}

theorem isConnected_receive (info : PuppetInfo) (packet : PuppetPacket)
    : (info.receive findStr id packet).isConnected = connectedAfter info.isConnected packet := by
  cases packet with
  | playerConnect clientName =>
      simp only [receive]
      split_ifs with connected
      · exact connected
      · rfl
  | playerDC =>
      simp only [receive]
      split_ifs with connected
      · rfl
      · exact Bool.eq_false_iff.mpr connected
  | playerInf pos rot weights act subAct => rfl
  | _ => exact isConnected_update rfl info

/-- What a packet writes is the same whatever it is written to. -/
theorem agree_of_writes {first second : PuppetInfo}
    (connected : first.isConnected = second.isConnected) {packet : PuppetPacket} {part : Part}
    (writes : Writes first.isConnected part packet = true)
    : (first.receive findStr id packet).Agree (second.receive findStr id packet) part := by
  cases packet with
  | playerConnect clientName => cases writes
  | playerDC => cases writes
  | playerInf pos rot weights act subAct =>
      cases part with
      | weight index =>
          simp only [Writes, Option.any_eq_true] at writes
          obtain ⟨weight, member, holds⟩ := writes
          simp [Agree, receive, update, get_updateWeights, member, holds]
      | rotation =>
          simp only [Writes] at writes
          simp [Agree, receive, update, writes]
      | _ => simp_all [Writes, Agree, receive, update]
  | gameInf is2D scenarioNum stageName =>
      simp only [Writes, decide_eq_true_eq] at writes
      obtain ⟨rfl, there⟩ := writes
      simp [Agree, receive, update, there, ← connected]
  | captureInf hackName =>
      simp only [Writes, decide_eq_true_eq] at writes
      rcases writes with rfl | ⟨rfl, named⟩
      · simp only [Agree, receive, update]
        split_ifs <;> rfl
      · simp [Agree, receive, update, named]
  | _ =>
      obtain rfl := of_decide_eq_true writes
      simp [Agree, receive, update]

/-- What a packet does not write stays as it is. -/
theorem agree_of_not_writes {info : PuppetInfo} {packet : PuppetPacket} {part : Part}
    (writes : Writes info.isConnected part packet = false)
    : (info.receive findStr id packet).Agree info part := by
  cases packet with
  | playerConnect clientName =>
      simp only [receive]
      split_ifs
      · exact .refl info part
      · cases part <;> simp [Agree, connect]
  | playerDC =>
      simp only [receive]
      split_ifs
      · cases part <;> simp [Agree, disconnect]
      · exact .refl info part
  | playerInf pos rot weights act subAct =>
      cases part with
      | weight index =>
          simp only [Writes] at writes
          simp only [Agree, receive, update, get_updateWeights]
          cases member : weights[index.val]? with
          | none => rfl
          | some weight =>
              rw [member] at writes
              exact if_neg (by simpa using writes)
      | _ => simp_all [Writes, Agree, receive, update]
  | gameInf is2D scenarioNum stageName =>
      cases connected : info.isConnected with
      | true => cases part <;> simp_all [Writes, Agree, receive, update]
      | false =>
          simp only [receive, update, connected, Bool.false_eq_true, if_false]
          exact .refl info part
  | captureInf hackName =>
      simp only [receive, update]
      split_ifs <;> cases part <;> simp_all [Writes, Agree]
  | _ => cases part <;> simp_all [Writes, Agree, receive, update]

/-- A part is the same after a packet exactly where it was before or the packet writes it. -/
theorem agree_receive {first second : PuppetInfo}
    (connected : first.isConnected = second.isConnected) (packet : PuppetPacket) (part : Part)
    : (first.receive findStr id packet).Agree (second.receive findStr id packet) part
      ↔ Writes first.isConnected part packet = true ∨ first.Agree second part := by
  cases writes : Writes first.isConnected part packet with
  | true => exact iff_of_true (agree_of_writes connected writes) (.inl rfl)
  | false =>
      have left := @agree_of_not_writes findStr id first packet part writes
      have right := @agree_of_not_writes findStr id second packet part (connected ▸ writes)
      simp only [Bool.false_eq_true, false_or]
      exact ⟨fun after => left.symm.trans (after.trans right),
        fun before => left.trans (before.trans right.symm)⟩

/-- The stage is written over by what does not depend on it, or stays. -/
theorem agreeOnStage_receive {first second : PuppetInfo}
    (connected : first.isConnected = second.isConnected) (packet : PuppetPacket)
    (agree : first.AgreeOnStage second)
    : (first.receive findStr id packet).AgreeOnStage (second.receive findStr id packet) := by
  obtain ⟨scenarioNo, stageName, shown⟩ := agree
  cases packet with
  | playerConnect clientName =>
      simp only [receive, ← connected]
      split_ifs <;> exact ⟨scenarioNo, stageName, shown⟩
  | playerDC =>
      simp only [receive, ← connected]
      split_ifs
      · exact ⟨rfl, rfl, rfl⟩
      · exact ⟨scenarioNo, stageName, shown⟩
  | gameInf is2D scenarioNum text =>
      simp only [receive, update, ← connected]
      cases first.isConnected with
      | true => exact ⟨rfl, by simp [stageName], shown⟩
      | false => exact ⟨scenarioNo, stageName, shown⟩
  | captureInf hackName =>
      simp only [receive, update]
      split_ifs <;> exact ⟨scenarioNo, stageName, shown⟩
  | _ => exact ⟨scenarioNo, stageName, shown⟩

/-- Only packets about the cap and the player's position are about the place of the cap. -/
theorem cap_receive {packet : PuppetPacket} (cap : packet.isHackCapInf = false)
    (info : PuppetInfo)
    : (info.receive findStr id packet).isCapThrow = info.isCapThrow
      ∧ (packet.isPlayerInf = false → (info.receive findStr id packet).capPos = info.capPos) := by
  cases packet with
  | hackCapInf capPos capQuat isCapVisible capAnim => cases cap
  | playerInf pos rot weights act subAct => exact ⟨rfl, fun other => by cases other⟩
  | costumeInf bodyModel capModel => exact ⟨rfl, fun _ => rfl⟩
  | tagInf isIt seconds minutes => exact ⟨rfl, fun _ => rfl⟩
  | playerTeamAssignment team => exact ⟨rfl, fun _ => rfl⟩
  | _ =>
      simp only [receive, update]
      split_ifs <;> exact ⟨rfl, fun _ => rfl⟩

/-- The cap comes to be the same after a packet and the rest exactly where it does after all. -/
theorem capReset_cons (first second : PuppetInfo) (packet : PuppetPacket)
    (later : List PuppetPacket)
    : (first.receive findStr id packet).CapReset (second.receive findStr id packet) later
      ↔ first.CapReset second (packet :: later) := by
  simp only [CapReset, List.any_cons, Bool.or_eq_true]
  cases cap : packet.isHackCapInf with
  | true =>
      cases packet with
      | hackCapInf capPos capQuat isCapVisible capAnim => simp [receive, update]
      | _ => cases cap
  | false =>
      obtain ⟨thrown, place⟩ := @cap_receive findStr id packet cap first
      obtain ⟨thrown', place'⟩ := @cap_receive findStr id packet cap second
      rw [thrown, thrown']
      cases position : packet.isPlayerInf with
      | false => simp [place position, place' position]
      | true =>
          cases packet with
          | playerInf pos rot weights act subAct =>
              cases before : first.isCapThrow <;> cases before' : second.isCapThrow <;>
                simp [receive, update, before, before']
          | _ => cases position

/-- Two entries come to agree on a part exactly where it is written or they did before, by
induction on the packets.
-/
theorem agree_receiveAll {first second : PuppetInfo}
    (connected : first.isConnected = second.isConnected) (packets : List PuppetPacket)
    (part : Part)
    : (first.receiveAll findStr id packets).Agree (second.receiveAll findStr id packets) part
      ↔ WrittenBy part first.isConnected packets = true ∨ first.Agree second part := by
  induction packets generalizing first second with
  | nil => simp [receiveAll, WrittenBy]
  | cons packet later ih =>
      have after : (first.receive findStr id packet).isConnected
          = (second.receive findStr id packet).isConnected := by
        rw [isConnected_receive, isConnected_receive, connected]
      have rest := ih after
      rw [isConnected_receive, agree_receive connected] at rest
      rw [WrittenBy, Bool.or_eq_true]
      exact rest.trans (by tauto)

theorem agreeOnCap_receiveAll (first second : PuppetInfo) (packets : List PuppetPacket)
    : (first.receiveAll findStr id packets).AgreeOnCap (second.receiveAll findStr id packets)
      ↔ first.CapReset second packets := by
  induction packets generalizing first second with
  | nil => simp [receiveAll, AgreeOnCap, CapReset]
  | cons packet later ih => exact (ih _ _).trans (capReset_cons first second packet later)

theorem agreeOnStage_receiveAll {first second : PuppetInfo}
    (connected : first.isConnected = second.isConnected) (packets : List PuppetPacket)
    (agree : first.AgreeOnStage second)
    : (first.receiveAll findStr id packets).AgreeOnStage
        (second.receiveAll findStr id packets) := by
  induction packets generalizing first second with
  | nil => exact agree
  | cons packet later ih =>
      apply ih
      · rw [isConnected_receive, isConnected_receive, connected]
      · exact agreeOnStage_receive connected packet agree

/-- Entries of connected players in the same stage come to be the same exactly where the packets
write over what is not the same in them.
-/
theorem gameplay_receiveAll_iff {first second : PuppetInfo} (there : first.isConnected = true)
    (there' : second.isConnected = true) (stage : first.AgreeOnStage second)
    (packets : List PuppetPacket)
    : (first.receiveAll findStr id packets).gameplay
        = (second.receiveAll findStr id packets).gameplay
      ↔ first.Overwrites second packets := by
  have connected := there.trans there'.symm
  have kept := @agreeOnStage_receiveAll findStr id _ _ connected packets stage
  rw [gameplay_eq_iff, agreeOnCap_receiveAll, Overwrites]
  simp only [agree_receiveAll connected, there, kept, and_true]

/-- Giving an entry away leaves what has to be written over. -/
theorem overwrites_connect (first second : PuppetInfo) (clientName : Bytes)
    (packets : List PuppetPacket)
    : (first.connect id clientName).Overwrites (second.connect id clientName) packets
      ↔ first.Overwrites second packets := by
  have agree (part : Part) : (first.connect id clientName).Agree (second.connect id clientName) part
      ↔ first.Agree second part := by
    cases part <;> exact Iff.rfl
  simp only [Overwrites, agree]
  exact Iff.rfl

/-- Who has left is in no stage. -/
def Away (info : PuppetInfo) : Prop :=
  info.isConnected = false
  → info.scenarioNo = 255 ∧ info.stageName = [] ∧ info.isInSameStage = false

theorem Away.update {info : PuppetInfo} (away : info.Away) (packet : PuppetPacket)
    : (info.update findStr packet).Away := by
  cases packet with
  | playerInf pos rot weights act subAct => exact fun left => by cases left
  | gameInf is2D scenarioNum stageName =>
      intro left
      rw [isConnected_update rfl] at left
      simpa [PuppetInfo.update, left] using away left
  | captureInf hackName =>
      intro left
      rw [isConnected_update rfl] at left
      simp only [PuppetInfo.update]
      split_ifs <;> exact away left
  | _ => exact away

end PuppetInfo

-----------------------------------------------------------------------------------------
-- Packets of the one who gets an entry
-----------------------------------------------------------------------------------------

namespace Puppets

variable {findStr : Int16 → Bytes} {puppets next : Puppets} {event : Event} {id : Guid}

/-- Nobody who has left is in a stage. -/
def AllAway (puppets : Puppets) : Prop := ∀ info ∈ puppets.mPuppetInfoArr, info.Away

theorem allAway_modify {index : Nat} {write : PuppetInfo → PuppetInfo} (away : puppets.AllAway)
    (keeps : ∀ info, info.Away → (write info).Away)
    : (puppets.modify index write).AllAway := by
  intro info member
  obtain ⟨place, there⟩ := List.mem_iff_getElem?.mp member
  rw [modify_getElem?] at there
  split_ifs at there
  · obtain ⟨before, was, rfl⟩ := Option.map_eq_some_iff.mp there
    exact keeps before (away before (List.mem_of_getElem? was))
  · exact away info (List.mem_of_getElem? there)

theorem allAway_step (away : puppets.AllAway) (taken : puppets.step findStr event = some next)
    : next.AllAway := by
  cases event with
  | readPacket isHideAndSeek id packet =>
      cases readPacket_effect taken with
      | nothing position occupied => exact away
      | write index own connects => exact allAway_modify away fun info was => was.update packet
      | connect clientName index target free =>
          exact @allAway_modify _ index (PuppetInfo.connect · id clientName) away
            fun info _ left => by cases left
      | disconnect index own connected =>
          exact @allAway_modify _ index PuppetInfo.disconnect away fun info _ _ => ⟨rfl, rfl, rfl⟩
  | update =>
      cases taken
      intro info member left
      obtain ⟨index, inside, rfl⟩ := List.mem_mapIdx.mp member
      have was := away _ (List.getElem_mem inside)
      split_ifs at left ⊢
      · obtain ⟨scenarioNo, stageName, -⟩ := was left
        refine ⟨scenarioNo, stageName, ?_⟩
        have left : puppets.mPuppetInfoArr[index].isConnected = false := left
        simp [checkInfoIsInStage, left]
      · exact was left
  | createPuppetActor =>
      rcases createPuppetActor_cases taken with rfl | ⟨-, rfl⟩
      · exact away
      · exact away
  | updateFlags red blue =>
      obtain rfl := updateFlags_eq taken
      exact away
  | playerList =>
      obtain rfl := playerList_eq taken
      exact away
  | _ =>
      cases taken
      exact away

theorem allAway_initial (mUserID : Guid) : (initial mUserID).AllAway := by
  intro info member _
  obtain ⟨index, -, rfl⟩ := List.mem_map.mp member
  exact ⟨rfl, rfl, rfl⟩

theorem allAway_run {mUserID : Guid} {events : List Event}
    (run : AnyRun (step findStr) (initial mUserID) events puppets)
    : puppets.AllAway :=
  run.invariant (allAway_initial mUserID) fun away _ taken => allAway_step away taken

/-- Packets of a user, each with whether this player's hide and seek is on when it comes. -/
def userEvents (id : Guid) (packets : List (Bool × PuppetPacket)) : List Event :=
  packets.map fun packet => .readPacket packet.1 id packet.2

/-- The packets among them that are about the user's entry. -/
def received (puppets : Puppets) (id : Guid) (packets : List (Bool × PuppetPacket))
    : List PuppetPacket :=
  (packets.filter fun packet => puppets.looksUp packet.1 id packet.2).map Prod.snd

theorem looksUp_congr (same : next.mUserID = puppets.mUserID) (isHideAndSeek : Bool) (id : Guid)
    (packet : PuppetPacket)
    : next.looksUp isHideAndSeek id packet = puppets.looksUp isHideAndSeek id packet := by
  cases packet <;> simp [looksUp, same]

theorem mUserID_step (taken : puppets.step findStr event = some next)
    : next.mUserID = puppets.mUserID := by
  cases event with
  | readPacket isHideAndSeek id packet => cases readPacket_effect taken <;> rfl
  | createPuppetActor =>
      rcases createPuppetActor_cases taken with rfl | ⟨-, rfl⟩
      · rfl
      · rfl
  | updateFlags red blue => rw [updateFlags_eq taken]
  | playerList => rw [playerList_eq taken]
  | _ =>
      cases taken
      rfl

theorem mUserID_run {mUserID : Guid} {events : List Event}
    (run : AnyRun (step findStr) (initial mUserID) events puppets)
    : puppets.mUserID = mUserID := by
  induction run with
  | nil => rfl
  | snoc _ _ taken ih => exact (mUserID_step taken).trans ih

/-- Writing to a user's entry without giving it away leaves it the user's. -/
theorem ownEntry_modify {index : Nat} {info : PuppetInfo} {write : PuppetInfo → PuppetInfo}
    (own : puppets.ownEntry id = some index)
    (member : puppets.mPuppetInfoArr[index]? = some info) (keeps : (write info).playerID = id)
    : (puppets.modify index write).ownEntry id = some index := by
  obtain ⟨seen, -, first⟩ := ownEntry_eq_some own
  have written : (puppets.modify index write).mPuppetInfoArr[index]? = some (write info) := by
    rw [modify_getElem?, if_pos rfl, member]
    rfl
  refine @ownEntry_of_first (puppets.modify index write) id index (write info) seen written keeps ?_
  intro earlier before other there
  rw [modify_getElem?, if_neg (Nat.ne_of_gt before)] at there
  exact first earlier before other there

/-- The user has this entry. -/
structure Has (puppets : Puppets) (id : Guid) (index : Nat) (info : PuppetInfo) : Prop where
  own : puppets.ownEntry id = some index
  member : puppets.mPuppetInfoArr[index]? = some info

theorem Has.playerID {index : Nat} {info : PuppetInfo} (has : puppets.Has id index info)
    : info.playerID = id := by
  obtain ⟨-, ⟨other, member, same⟩, -⟩ := ownEntry_eq_some has.own
  rwa [Option.some.inj (has.member.symm.trans member)]

theorem Has.modify {index : Nat} {info : PuppetInfo} (has : puppets.Has id index info)
    (write : PuppetInfo → PuppetInfo) (keeps : (write info).playerID = id)
    : (puppets.modify index write).Has id index (write info) where
  own := ownEntry_modify has.own has.member keeps
  member := by
    rw [modify_getElem?, if_pos rfl, has.member]
    rfl

/-- A packet of a user who has an entry is written to the entry, if it is about the entry. -/
theorem Has.readPacket {index : Nat} {info : PuppetInfo} (has : puppets.Has id index info)
    (findStr : Int16 → Bytes) (isHideAndSeek : Bool) (packet : PuppetPacket)
    : ∃ next,
        puppets.readPacket findStr isHideAndSeek id packet = some next
        ∧ next.Has id index
            (if puppets.looksUp isHideAndSeek id packet then info.receive findStr id packet
              else info) := by
  have updates : ∀ packet, ∃ next,
      puppets.updateFound findStr id packet = some next
      ∧ next.Has id index (info.update findStr packet) := by
    intro packet
    have keeps : (info.update findStr packet).playerID = id :=
      (PuppetInfo.playerID_update packet info).trans has.playerID
    refine ⟨_, ?_, has.modify (PuppetInfo.update findStr · packet) keeps⟩
    rw [updateFound, findPuppetInfo_own has.own]
  cases packet with
  | playerConnect clientName =>
      simp only [Puppets.readPacket, updatePlayerConnect, findPuppetInfo_own has.own,
        isConnectedAt_eq has.member, looksUp, if_true, PuppetInfo.receive]
      cases info.isConnected with
      | true => exact ⟨puppets, rfl, has⟩
      | false =>
          have gets := has.modify (PuppetInfo.connect · id clientName) rfl
          exact ⟨_, rfl, gets.own, gets.member⟩
  | playerDC =>
      simp only [Puppets.readPacket, disconnectPlayer, findPuppetInfo_own has.own,
        isConnectedAt_eq has.member, looksUp, if_true, PuppetInfo.receive]
      cases info.isConnected with
      | true =>
          have loses := has.modify PuppetInfo.disconnect has.playerID
          exact ⟨_, rfl, loses.own, loses.member⟩
      | false => exact ⟨puppets, rfl, has⟩
  | tagInf isIt seconds minutes =>
      by_cases mine : id = puppets.mUserID ∧ isHideAndSeek = true
      · refine ⟨puppets, if_pos mine, ?_⟩
        simpa [looksUp, mine] using has
      · obtain ⟨next, taken, after⟩ := updates (.tagInf isIt seconds minutes)
        have about : puppets.looksUp isHideAndSeek id (.tagInf isIt seconds minutes) = true :=
          decide_eq_true mine
        refine ⟨next, (if_neg mine).trans taken, ?_⟩
        rw [about]
        exact after
  | playerTeamAssignment team =>
      by_cases mine : id = puppets.mUserID
      · refine ⟨puppets, if_neg (not_not_intro mine), ?_⟩
        simpa [looksUp, mine] using mine ▸ has
      · obtain ⟨next, taken, after⟩ := updates (.playerTeamAssignment team)
        have about : puppets.looksUp isHideAndSeek id (.playerTeamAssignment team) = true :=
          decide_eq_true mine
        refine ⟨next, (if_pos mine).trans taken, ?_⟩
        rw [about]
        exact after
  | _ => exact updates _

/-- Packets of a user who has an entry, by induction on them. -/
theorem Has.execute {index : Nat} {info : PuppetInfo} (has : puppets.Has id index info)
    (findStr : Int16 → Bytes) (packets : List (Bool × PuppetPacket))
    : ∃ last,
        execute (step findStr) puppets (userEvents id packets) = some last
        ∧ last.Has id index (info.receiveAll findStr id (puppets.received id packets)) := by
  induction packets generalizing puppets info with
  | nil => exact ⟨puppets, rfl, has⟩
  | cons packet later ih =>
      obtain ⟨next, taken, after⟩ := has.readPacket findStr packet.1 packet.2
      obtain ⟨last, executed, reaches⟩ := ih after
      have taken : puppets.step findStr (.readPacket packet.1 id packet.2) = some next := taken
      refine ⟨last, ?_, ?_⟩
      · simp only [userEvents, List.map_cons, Runs.execute, taken]
        exact executed
      · have same := mUserID_step taken
        have rest : next.received id later = puppets.received id later := by
          simp only [received, looksUp_congr same]
        rw [rest] at reaches
        simp only [received, List.filter_cons]
        split_ifs with about
        · rwa [if_pos about] at reaches
        · rwa [if_neg about] at reaches

/-- A player without an entry has the one that is found for a `PlayerConnect`. -/
theorem has_of_connect {index : Nat} {entry : PuppetInfo}
    (member : puppets.mPuppetInfoArr[index]? = some entry) (free : entry.isConnected = false)
    (given : puppets.findPuppetInfo id true = .entry index) (other : entry.playerID ≠ id)
    (clientName : Bytes)
    : ∃ next,
        puppets.step findStr (.readPacket false id (.playerConnect clientName)) = some next
        ∧ next.Has id index (entry.connect id clientName) := by
  have absent : puppets.ownEntry id = none := by
    cases own : puppets.ownEntry id with
    | none => rfl
    | some place =>
        rw [findPuppetInfo_own own] at given
        cases given
        have has : puppets.Has id index entry := ⟨own, member⟩
        exact absurd has.playerID other
  have seen : index < puppets.window := by
    rw [findPuppetInfo_free absent] at given
    split_ifs at given
    cases found : puppets.freeEntry with
    | none =>
        rw [found] at given
        cases given
    | some place =>
        rw [found] at given
        cases given
        exact (visible_entry found).1
  have taken : puppets.step findStr (.readPacket false id (.playerConnect clientName))
      = some { puppets.modify index (PuppetInfo.connect · id clientName) with
          mConnectCount := puppets.mConnectCount + 1 } := by
    simp only [step, Puppets.readPacket, updatePlayerConnect, given, isConnectedAt_eq member, free]
    rfl
  have written
      : (puppets.modify index (PuppetInfo.connect · id clientName)).mPuppetInfoArr[index]?
        = some (entry.connect id clientName) := by
    rw [modify_getElem?, if_pos rfl, member]
    rfl
  refine ⟨_, taken, ownEntry_of_first seen written rfl ?_, written⟩
  intro earlier before info there
  have there := (modify_getElem? puppets index earlier _).symm.trans there
  rw [if_neg (Nat.ne_of_gt before)] at there
  exact ownEntry_eq_none absent (Nat.lt_trans before seen) there

/-- What becomes of the entry: the packets about it, one after another. -/
theorem execute_of_connect {index : Nat} {entry : PuppetInfo}
    (member : puppets.mPuppetInfoArr[index]? = some entry) (free : entry.isConnected = false)
    (given : puppets.findPuppetInfo id true = .entry index) (other : entry.playerID ≠ id)
    (clientName : Bytes) (later : List (Bool × PuppetPacket))
    : ∃ last,
        execute (step findStr) puppets (userEvents id ((false, .playerConnect clientName) :: later))
          = some last
        ∧ last.mPuppetInfoArr[index]?
          = some
              ((entry.connect id clientName).receiveAll findStr id
                (puppets.received id later)) := by
  obtain ⟨next, taken, has⟩ := @has_of_connect findStr puppets id _ _ member free given other
    clientName
  obtain ⟨last, executed, reaches⟩ := has.execute findStr later
  have about : next.received id later = puppets.received id later := by
    simp only [received, looksUp_congr (mUserID_step taken)]
  rw [about] at reaches
  refine ⟨last, ?_, reaches.member⟩
  simp only [userEvents, List.map_cons, Runs.execute, taken]
  exact executed

end Puppets

end SmoOnline.Mod
