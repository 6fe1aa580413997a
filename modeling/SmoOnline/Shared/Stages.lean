import Mathlib.Data.List.Nodup
import SmoOnline.Library.Utf8

/-! `Stages`: the stages of each kingdom, the aliases of kingdoms, and what the commands make of a
stage that is typed in.
-/

namespace SmoOnline

open Utf8

namespace Stages

/-- `Alias2Stage`: the home stage of each kingdom. -/
def alias2Stage : List (String × String) :=
  [
    ("cap", "CapWorldHomeStage"),
    ("cascade", "WaterfallWorldHomeStage"),
    ("sand", "SandWorldHomeStage"),
    ("lake", "LakeWorldHomeStage"),
    ("wooded", "ForestWorldHomeStage"),
    ("cloud", "CloudWorldHomeStage"),
    ("lost", "ClashWorldHomeStage"),
    ("metro", "CityWorldHomeStage"),
    ("sea", "SeaWorldHomeStage"),
    ("snow", "SnowWorldHomeStage"),
    ("lunch", "LavaWorldHomeStage"),
    ("ruined", "BossRaidWorldHomeStage"),
    ("bowser", "SkyWorldHomeStage"),
    ("moon", "MoonWorldHomeStage"),
    ("mush", "PeachWorldHomeStage"),
    ("dark", "Special1WorldHomeStage"),
    ("darker", "Special2WorldHomeStage"),
    ("odyssey", "HomeShipInsideStage")
  ]

/-- `Alias2Kingdom`. -/
def alias2Kingdom : List (String × String) :=
  [
    ("cap", "Cap Kingdom"),
    ("cascade", "Cascade Kingdom"),
    ("sand", "Sand Kingdom"),
    ("lake", "Lake Kingdom"),
    ("wooded", "Wooded Kingdom"),
    ("cloud", "Cloud Kingdom"),
    ("lost", "Lost Kingdom"),
    ("metro", "Metro Kingdom"),
    ("sea", "Snow Kingdom"),
    ("snow", "Seaside Kingdom"),
    ("lunch", "Luncheon Kingdom"),
    ("ruined", "Ruined Kingdom"),
    ("bowser", "Bowser's Kingdom"),
    ("moon", "Moon Kingdom"),
    ("mush", "Mushroom Kingdom"),
    ("dark", "Dark Side"),
    ("darker", "Darker Side"),
    ("odyssey", "Odyssey")
  ]

/-- The rows of `Stage2Alias`, those of one alias together. -/
def stagesOf : List (String × List String) :=
  [
    ("cap", [
      "CapWorldHomeStage", "CapWorldTowerStage", "FrogSearchExStage", "PoisonWaveExStage",
      "PushBlockExStage", "RollingExStage"]),
    ("cascade", [
      "WaterfallWorldHomeStage", "TrexPoppunExStage", "Lift2DExStage", "WanwanClashExStage",
      "CapAppearExStage", "WindBlowExStage"]),
    ("sand", [
      "SandWorldHomeStage", "SandWorldShopStage", "SandWorldSlotStage",
      "SandWorldVibrationStage", "SandWorldSecretStage", "SandWorldMeganeExStage",
      "SandWorldKillerExStage", "SandWorldPressExStage", "SandWorldSphinxExStage",
      "SandWorldCostumeStage", "SandWorldPyramid000Stage", "SandWorldPyramid001Stage",
      "SandWorldUnderground000Stage", "SandWorldUnderground001Stage", "SandWorldRotateExStage",
      "MeganeLiftExStage", "RocketFlowerExStage", "WaterTubeExStage"]),
    ("lake", [
      "LakeWorldHomeStage", "LakeWorldShopStage", "FastenerExStage",
      "TrampolineWallCatchExStage", "GotogotonExStage", "FrogPoisonExStage"]),
    ("wooded", [
      "ForestWorldHomeStage", "ForestWorldWaterExStage", "ForestWorldTowerStage",
      "ForestWorldBossStage", "ForestWorldBonusStage", "ForestWorldCloudBonusExStage",
      "FogMountainExStage", "RailCollisionExStage", "ShootingElevatorExStage",
      "ForestWorldWoodsStage", "ForestWorldWoodsTreasureStage", "ForestWorldWoodsCostumeStage",
      "PackunPoisonExStage", "AnimalChaseExStage", "KillerRoadExStage"]),
    ("cloud", [
      "CloudWorldHomeStage", "FukuwaraiKuriboStage", "Cube2DExStage"]),
    ("lost", [
      "ClashWorldHomeStage", "ClashWorldShopStage", "ImomuPoisonExStage", "JangoExStage"]),
    ("metro", [
      "CityWorldHomeStage", "CityWorldMainTowerStage", "CityWorldFactoryStage",
      "CityWorldShop01Stage", "CityWorldSandSlotStage", "CityPeopleRoadStage",
      "PoleGrabCeilExStage", "TrexBikeExStage", "PoleKillerExStage", "Note2D3DRoomExStage",
      "ShootingCityExStage", "CapRotatePackunExStage", "RadioControlExStage",
      "ElectricWireExStage", "Theater2DExStage", "DonsukeExStage", "SwingSteelExStage",
      "BikeSteelExStage"]),
    ("snow", [
      "SnowWorldHomeStage", "SnowWorldTownStage", "SnowWorldShopStage",
      "SnowWorldLobby000Stage", "SnowWorldLobby001Stage", "SnowWorldRaceTutorialStage",
      "SnowWorldRace000Stage", "SnowWorldRace001Stage", "SnowWorldCostumeStage",
      "SnowWorldCloudBonusExStage", "IceWalkerExStage", "IceWaterBlockExStage",
      "ByugoPuzzleExStage", "IceWaterDashExStage", "SnowWorldLobbyExStage",
      "SnowWorldRaceExStage", "SnowWorldRaceHardExStage", "KillerRailCollisionExStage"]),
    ("sea", [
      "SeaWorldHomeStage", "SeaWorldUtsuboCaveStage", "SeaWorldVibrationStage",
      "SeaWorldSecretStage", "SeaWorldCostumeStage", "SeaWorldSneakingManStage",
      "SenobiTowerExStage", "CloudExStage", "WaterValleyExStage", "ReflectBombExStage",
      "TogezoRotateExStage"]),
    ("lunch", [
      "LavaWorldHomeStage", "LavaWorldUpDownExStage", "LavaBonus1Zone", "LavaWorldShopStage",
      "LavaWorldCostumeStage", "ForkExStage", "LavaWorldExcavationExStage",
      "LavaWorldClockExStage", "LavaWorldBubbleLaneExStage", "LavaWorldTreasureStage",
      "GabuzouClockExStage", "CapAppearLavaLiftExStage", "LavaWorldFenceLiftExStage"]),
    ("ruined", [
      "BossRaidWorldHomeStage", "DotTowerExStage", "BullRunExStage"]),
    ("bowser", [
      "SkyWorldHomeStage", "SkyWorldShopStage", "SkyWorldCostumeStage",
      "SkyWorldCloudBonusExStage", "SkyWorldTreasureStage", "JizoSwitchExStage",
      "TsukkunRotateExStage", "KaronWingTowerStage", "TsukkunClimbExStage"]),
    ("moon", [
      "MoonWorldHomeStage", "MoonWorldCaptureParadeStage", "MoonWorldWeddingRoomStage",
      "MoonWorldKoopa1Stage", "MoonWorldBasementStage", "MoonWorldWeddingRoom2Stage",
      "MoonWorldKoopa2Stage", "MoonWorldShopRoom", "MoonWorldSphinxRoom", "MoonAthleticExStage",
      "Galaxy2DExStage"]),
    ("mush", [
      "PeachWorldHomeStage", "PeachWorldShopStage", "PeachWorldCastleStage",
      "PeachWorldCostumeStage", "FukuwaraiMarioStage", "DotHardExStage", "YoshiCloudExStage",
      "PeachWorldPictureBossMagmaStage", "RevengeBossMagmaStage",
      "PeachWorldPictureGiantWanderBossStage", "RevengeGiantWanderBossStage",
      "PeachWorldPictureBossKnuckleStage", "RevengeBossKnuckleStage",
      "PeachWorldPictureBossForestStage", "RevengeForestBossStage",
      "PeachWorldPictureMofumofuStage", "RevengeMofumofuStage",
      "PeachWorldPictureBossRaidStage", "RevengeBossRaidStage"]),
    ("dark", [
      "Special1WorldHomeStage", "Special1WorldTowerStackerStage",
      "Special1WorldTowerBombTailStage", "Special1WorldTowerFireBlowerStage",
      "Special1WorldTowerCapThrowerStage", "KillerRoadNoCapExStage", "PackunPoisonNoCapExStage",
      "BikeSteelNoCapExStage", "ShootingCityYoshiExStage", "SenobiTowerYoshiExStage",
      "LavaWorldUpDownYoshiExStage"]),
    ("darker", [
      "Special2WorldHomeStage", "Special2WorldLavaStage", "Special2WorldCloudStage",
      "Special2WorldKoopaStage"]),
    ("odyssey", [
      "HomeShipInsideStage"])
  ]

/-- `Stage2Alias`. -/
def stage2Alias : List (String × String) :=
  stagesOf.flatMap fun row => row.2.map fun stage => (stage, row.1)

/-- `TryGetValue` of a dictionary of texts. -/
def find (table : List (String × String)) (key : Text) : Option Text :=
  (table.find? fun row => row.1 = String.ofList key).map fun row => row.2.toList

/-- `Input2Stage`: an alias, an exact name, or any name that is forced by a `!`. How `ToLower` and
`EndsWith` go about a text depends on the culture.
-/
def input2Stage (toLower : Text → Text) (endsWith : Text → Text → Bool) (input : Text)
    : Option Text :=
  match find alias2Stage (toLower input) with
  | some mapName => some mapName
  | none =>
      if (find stage2Alias input).isSome then some input
      else if endsWith input ['!'] then some input.dropLast
      else none

/-- `KingdomAliasMapping`. -/
def kingdomAliasMapping : Text :=
  alias2Kingdom.flatMap fun item => (item.1 ++ "  ->  " ++ item.2 ++ "\n").toList

-----------------------------------------------------------------------------------------
-- The tables
-----------------------------------------------------------------------------------------

/-- The octets of a name as one number. -/
def nameNumber (name : String) : Nat :=
  name.toByteArray.data.toList.foldl (fun number octet => 256 * number + octet.toNat) 0

/-- No stage is entered twice, which would make the initializer throw. -/
theorem stage2Alias_nodup : (stage2Alias.map Prod.fst).Nodup := by
  have numbers : ((stage2Alias.map Prod.fst).map nameNumber).Nodup := by decide +kernel
  exact numbers.of_map

/-- The home stage of an alias is a stage of that alias. -/
theorem find_home
    : ∀ row ∈ alias2Stage,
        stage2Alias.find? (fun other => other.1 = row.2) = some (row.2, row.1) := by
  decide +kernel

theorem alias_short : ∀ row ∈ alias2Stage,
    row.1.toList.length < 8 ∧ row.1.toList.getLast? ≠ some '!' := by
  decide +kernel

theorem stage_long : ∀ row ∈ stage2Alias,
    8 ≤ row.1.toList.length ∧ row.1.toList.getLast? ≠ some '!' := by
  decide +kernel

theorem exists_row {table : List (String × String)} {key value : Text}
    (found : find table key = some value)
    : ∃ row ∈ table, row.1.toList = key ∧ row.2.toList = value := by
  obtain ⟨row, first, rfl⟩ := Option.map_eq_some_iff.mp found
  have same := of_decide_eq_true
    (@List.find?_some _ (fun row : String × String => row.1 = String.ofList key) _ _ first)
  exact ⟨row, List.mem_of_find?_eq_some first, by rw [same, String.toList_ofList], rfl⟩

-----------------------------------------------------------------------------------------
-- What is typed in
-----------------------------------------------------------------------------------------

section

variable {toLower : Text → Text} {endsWith : Text → Text → Bool}

/-- A name of the table is no alias in any case, as it is longer than they are. -/
theorem not_alias_of_stage (length : ∀ text, (toLower text).length = text.length) {stage : Text}
    (known : (find stage2Alias stage).isSome)
    : find alias2Stage (toLower stage) = none := by
  obtain ⟨home, listed⟩ := Option.isSome_iff_exists.mp known
  obtain ⟨row, member, rfl, _⟩ := exists_row listed
  refine Option.eq_none_iff_forall_not_mem.mpr fun mapName found => ?_
  obtain ⟨other, there, same, _⟩ := exists_row found
  have short := (alias_short other there).1
  rw [same, length] at short
  exact absurd (stage_long row member).1 (Nat.not_le.mpr short)

theorem input2Stage_of_known (length : ∀ text, (toLower text).length = text.length) {stage : Text}
    (known : (find stage2Alias stage).isSome)
    : input2Stage toLower endsWith stage = some stage := by
  rw [input2Stage, not_alias_of_stage length known]
  exact if_pos known

/-- A name that ends in `!` is in neither table. -/
theorem find_forced {table : List (String × String)} {key : Text} (forced : key.getLast? = some '!')
    (free : ∀ row ∈ table, row.1.toList.getLast? ≠ some '!')
    : find table key = none := by
  refine Option.eq_none_iff_forall_not_mem.mpr fun value found => ?_
  obtain ⟨row, member, rfl, _⟩ := exists_row found
  exact free row member forced

end

/-- Any stage at all can be named by a `!` behind it. Of an input that does not end in one, what is
answered is a stage of the tables, which is itself answered with itself, and an alias in any case is
answered with a stage of that alias.
-/
theorem input2Stage_answers {toLower : Text → Text} {endsWith : Text → Text → Bool}
    (length : ∀ text, (toLower text).length = text.length)
    (forced : ∀ text, toLower (text ++ ['!']) = toLower text ++ ['!'])
    (ends : ∀ text, endsWith (text ++ ['!']) ['!'] = true)
    : (∀ stage, input2Stage toLower endsWith (stage ++ ['!']) = some stage)
      ∧ ∀ input stage,
          input2Stage toLower endsWith input = some stage
          → endsWith input ['!'] = false
          → (find stage2Alias stage).isSome
            ∧ input2Stage toLower endsWith stage = some stage
            ∧ ((find alias2Stage (toLower input)).isSome
                → find stage2Alias stage = some (toLower input)) := by
  constructor
  · intro stage
    have bang : (stage ++ ['!']).getLast? = some '!' := List.getLast?_concat
    have noAlias : find alias2Stage (toLower (stage ++ ['!'])) = none := by
      rw [forced]
      exact find_forced List.getLast?_concat fun row member => (alias_short row member).2
    have noStage : find stage2Alias (stage ++ ['!']) = none :=
      find_forced bang fun row member => (stage_long row member).2
    rw [input2Stage, noAlias, noStage]
    simp [ends]
  · intro input stage answered plain
    have home {mapName : Text} (found : find alias2Stage (toLower input) = some mapName)
        : find stage2Alias mapName = some (toLower input) := by
      obtain ⟨row, member, same, rfl⟩ := exists_row found
      rw [find, String.ofList_toList, find_home row member, ← same]
      rfl
    have known : (find stage2Alias stage).isSome := by
      rw [input2Stage] at answered
      split at answered
      · next mapName found =>
          obtain rfl := Option.some.inj answered
          rw [home found]
          rfl
      · split_ifs at answered with exactName ending
        · obtain rfl := Option.some.inj answered
          exact exactName
        · rw [plain] at ending
          cases ending
    refine ⟨known, input2Stage_of_known length known, fun short => ?_⟩
    obtain ⟨mapName, found⟩ := Option.isSome_iff_exists.mp short
    rw [input2Stage, found] at answered
    obtain rfl := Option.some.inj answered
    exact home found

/-- For texts that are looked at letter by letter. -/
theorem input2Stage_answers_ascii
    : (∀ stage,
          input2Stage (List.map Char.toLower) (fun text ending => ending.isSuffixOf text)
              (stage ++ ['!'])
            = some stage)
      ∧ find stage2Alias "CapWorldHomeStage".toList = some "cap".toList := by
  obtain ⟨forced, others⟩ :=
    @input2Stage_answers (List.map Char.toLower) (fun text ending => ending.isSuffixOf text)
      (fun _ => List.length_map _) (fun text => by rw [List.map_append]; rfl)
      fun text => by simp
  have answered := others "CAP".toList "CapWorldHomeStage".toList (by decide +kernel) (by decide)
  refine ⟨forced, ?_⟩
  rw [answered.2.2 (by decide +kernel)]
  decide +kernel

end Stages

end SmoOnline
