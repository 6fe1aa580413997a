import SmoOnline.Mod.PuppetBounds

/-! Which stages are taken for the same, by the stage manager of capture the flag and by the puppets
of a player's game. Scenarios are compared from 15 on, and it is one of the two that is asked.
-/

namespace SmoOnline.Mod

open Runs Span

-----------------------------------------------------------------------------------------
-- Stages
-----------------------------------------------------------------------------------------

/-- `struct StageData` -/
structure StageData where
  stageName : Bytes
  scenarioNum : UInt8
  deriving DecidableEq, Repr

namespace StageData

/-- `operator==` -/
def equals (lhs rhs : StageData) : Bool :=
  if lhs.scenarioNum < 15 then lhs.stageName == rhs.stageName
  else lhs.stageName == rhs.stageName && lhs.scenarioNum == rhs.scenarioNum

/-- Two scenarios of one stage, of which exactly one is below 15. -/
def OneSided (lhs rhs : StageData) : Prop :=
  lhs.stageName = rhs.stageName ∧ ¬(lhs.scenarioNum < 15 ↔ rhs.scenarioNum < 15)

instance (lhs rhs : StageData) : Decidable (lhs.OneSided rhs) := by
  unfold OneSided
  infer_instance

theorem equals_iff (lhs rhs : StageData)
    : lhs.equals rhs
      ↔ lhs.stageName = rhs.stageName
        ∧ (lhs.scenarioNum < 15 ∨ lhs.scenarioNum = rhs.scenarioNum) := by
  unfold equals
  split_ifs with below
  · simp [below]
  · simp [below]

/-- Two stages are taken for the same from either side exactly if no single one of their scenarios
is below 15.
-/
theorem equals_comm_iff (lhs rhs : StageData)
    : lhs.equals rhs = rhs.equals lhs ↔ ¬lhs.OneSided rhs := by
  rw [Bool.eq_iff_iff, equals_iff, equals_iff, OneSided]
  by_cases names : lhs.stageName = rhs.stageName
  · by_cases scenarios : lhs.scenarioNum = rhs.scenarioNum
    · simp [names, scenarios]
    · simp [names, scenarios, Ne.symm scenarios]
  · simp [names, Ne.symm names]

end StageData

-----------------------------------------------------------------------------------------
-- Two players
-----------------------------------------------------------------------------------------

namespace Puppets

/-- The stage that the own player is in. -/
def stage (puppets : Puppets) : StageData := ⟨puppets.mStageName, puppets.mScenarioNo⟩

end Puppets

/-- The stage that an entry says its player is in. -/
def PuppetInfo.stage (info : PuppetInfo) : StageData := ⟨info.stageName, info.scenarioNo⟩

namespace Puppets

variable {findStr : Int16 → Bytes} {puppets next viewer seen : Puppets} {info : PuppetInfo}

/-- A puppet is shown by the stage manager's rule, asked from the side of its entry. -/
theorem checkInfoIsInStage_iff (puppets : Puppets) (info : PuppetInfo)
    : puppets.checkInfoIsInStage info ↔ info.isConnected ∧ info.stage.equals puppets.stage := by
  have names : puppets.mStageName = info.stageName ↔ info.stageName = puppets.mStageName := eq_comm
  simp only [checkInfoIsInStage, StageData.equals_iff, PuppetInfo.stage, stage, Bool.and_eq_true,
    Bool.or_eq_true, beq_iff_eq, decide_eq_true_eq, names]

/-- The entry that a viewer's game has for another player, who is connected and whose last `GameInf`
packet has been received.
-/
structure Told (viewer seen : Puppets) (info : PuppetInfo) : Prop where
  present : info ∈ viewer.mPuppetInfoArr
  own : info.playerID = seen.mUserID
  connected : info.isConnected = true
  stage : info.stage = seen.stage

/-- A `GameInf` packet about the stage that its player is in tells of it, where the player has an
entry and is connected, and the stage has a name that is taken for one.
-/
theorem told_of_readPacket {isHideAndSeek is2D : Bool} {scenarioNum : Int32} {stageName : Bytes}
    {index : Nat} (entry : viewer.ownEntry seen.mUserID = some index)
    (connected : viewer.isConnectedAt index = true)
    (long : 3 < (strcpy stageName).length)
    (stage : seen.stage = ⟨strcpy stageName, scenarioNum.toUInt32.toUInt8⟩)
    (read
      : viewer.step findStr
          (.readPacket isHideAndSeek seen.mUserID (.gameInf is2D scenarioNum stageName))
        = some next)
    : ∃ info, next.mPuppetInfoArr[index]? = some info ∧ Told next seen info := by
  obtain ⟨-, ⟨info, member, same⟩, -⟩ := ownEntry_eq_some entry
  rw [isConnectedAt_eq member] at connected
  have written
      : viewer.modify index (PuppetInfo.update findStr · (.gameInf is2D scenarioNum stageName))
        = next := by
    simpa [step, readPacket, updateFound, findPuppetInfo_own entry] using read
  have there
      : next.mPuppetInfoArr[index]?
        = some (info.update findStr (.gameInf is2D scenarioNum stageName)) := by
    rw [← written, modify_getElem?, if_pos rfl, member, Option.map_some]
  refine ⟨_, there, List.mem_of_getElem? there, ?_, ?_, ?_⟩
  · rw [PuppetInfo.playerID_update, same]
  · rw [PuppetInfo.isConnected_update rfl, connected]
  · simp [PuppetInfo.stage, PuppetInfo.update, connected, long, stage]

/-- Two players who have been told of each other's stages see each other exactly if they both do or
neither does, unless their scenarios of one stage lie on either side of 15.
-/
theorem checkInfoIsInStage_comm_iff {a b : Puppets} {infoA infoB : PuppetInfo}
    (a_told : Told a b infoB) (b_told : Told b a infoA)
    : a.checkInfoIsInStage infoB = b.checkInfoIsInStage infoA ↔ ¬a.stage.OneSided b.stage := by
  rw [Bool.eq_iff_iff, checkInfoIsInStage_iff, checkInfoIsInStage_iff, a_told.stage, b_told.stage,
    ← StageData.equals_comm_iff]
  simp only [a_told.connected, b_told.connected, true_and]
  rw [← Bool.eq_iff_iff]
  exact eq_comm

/-- What a game does for its own stage and another player in it: the stage is set, the player
connects, and the player's `GameInf` packet is read.
-/
def meeting (other : Guid) (stageName : Bytes) (scenarioNo : UInt8) (scenarioNum : Int32)
    : List Event :=
  [.setStageInfo stageName scenarioNo, .readPacket false other (.playerConnect []),
    .readPacket false other (.gameInf false scenarioNum stageName)]

/-- `CapWorldHomeStage` -/
def capWorld : Bytes :=
  [0x43, 0x61, 0x70, 0x57, 0x6f, 0x72, 0x6c, 0x64, 0x48, 0x6f, 0x6d, 0x65, 0x53, 0x74, 0x61, 0x67,
    0x65]

/-- The entry of the first player who connected. -/
def firstEntry (puppets : Puppets) : PuppetInfo :=
  puppets.mPuppetInfoArr.head fun none => by simpa [none, maxPupIndex] using puppets.sized

/-- A player's game after it met another player. -/
def met (own other : Guid) (scenarioNo : UInt8) (scenarioNum : Int32) : Puppets :=
  (execute (step fun _ => []) (initial own) (meeting other capWorld scenarioNo scenarioNum)).getD
    (initial own)

/-- Stages are equal from either side, and players who have been told of each other's stages see
each other from either side, exactly if no single one of the two scenarios of a stage is below 15.
-/
theorem visible_iff (lhs rhs : StageData) (a b : Puppets) (infoA infoB : PuppetInfo)
    : (lhs.equals rhs = rhs.equals lhs ↔ ¬lhs.OneSided rhs)
      ∧ (Told a b infoB
        → Told b a infoA
        → (a.checkInfoIsInStage infoB = b.checkInfoIsInStage infoA
            ↔ ¬a.stage.OneSided b.stage)) :=
  ⟨lhs.equals_comm_iff rhs, checkInfoIsInStage_comm_iff⟩

theorem visible_iff_met
    : (met ⟨1⟩ ⟨2⟩ 4 3).checkInfoIsInStage (met ⟨1⟩ ⟨2⟩ 4 3).firstEntry
      = (met ⟨2⟩ ⟨1⟩ 3 4).checkInfoIsInStage (met ⟨2⟩ ⟨1⟩ 3 4).firstEntry := by
  have both := visible_iff (met ⟨1⟩ ⟨2⟩ 4 3).stage (met ⟨2⟩ ⟨1⟩ 3 4).stage (met ⟨1⟩ ⟨2⟩ 4 3)
    (met ⟨2⟩ ⟨1⟩ 3 4)
  refine ((both _ _).2 ⟨List.head_mem _, ?_, ?_, ?_⟩ ⟨List.head_mem _, ?_, ?_, ?_⟩).mpr ?_
    <;> decide

/-- In scenario 15 a player sees one in scenario 3, who does not see them. -/
theorem seen_from_one_side
    : ∃ a b : Puppets,
        AnyRun (step fun _ => []) (initial ⟨1⟩) (meeting ⟨2⟩ capWorld 15 3) a
        ∧ AnyRun (step fun _ => []) (initial ⟨2⟩) (meeting ⟨1⟩ capWorld 3 15) b
        ∧ Told a b a.firstEntry ∧ Told b a b.firstEntry
        ∧ a.checkInfoIsInStage a.firstEntry = true ∧ b.checkInfoIsInStage b.firstEntry = false
        ∧ b.stage.equals a.stage = true ∧ a.stage.equals b.stage = false := by
  refine ⟨_, _, execute_get_run (by decide), execute_get_run (by decide),
    ⟨List.head_mem _, ?_, ?_, ?_⟩, ⟨List.head_mem _, ?_, ?_, ?_⟩, ?_, ?_, ?_, ?_⟩ <;> decide

end Puppets

end SmoOnline.Mod
