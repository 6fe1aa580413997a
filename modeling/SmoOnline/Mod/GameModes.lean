import SmoOnline.Library.Runs

/-! The game mode that is set and the objects there are for it. Setting a mode changes what
`isMode` says at once; the objects are replaced when the next scene is initialised.
-/

namespace SmoOnline.Mod

open Runs

-----------------------------------------------------------------------------------------
-- Modes
-----------------------------------------------------------------------------------------

/-- `enum GameMode` -/
inductive GameMode
  | none
  | hideAndSeek
  | captureTheFlag
  deriving DecidableEq, Repr

def GameMode.value : GameMode → Int
  | .none => -1
  | .hideAndSeek => 0
  | .captureTheFlag => 1

/-- The classes that derive from `GameModeBase`. -/
inductive ModeClass
  | hideAndSeekMode
  | captureTheFlagMode
  deriving DecidableEq, Repr

/-- The classes that derive from `GameModeInfoBase`. -/
inductive InfoClass
  | hideAndSeekInfo
  | captureTheFlagInfo
  deriving DecidableEq, Repr

/-- The mode that the class is for. -/
def ModeClass.mode : ModeClass → GameMode
  | .hideAndSeekMode => .hideAndSeek
  | .captureTheFlagMode => .captureTheFlag

def InfoClass.mode : InfoClass → GameMode
  | .hideAndSeekInfo => .hideAndSeek
  | .captureTheFlagInfo => .captureTheFlag

/-- An object of one of the classes of modes. -/
structure GameModeBase where
  cls : ModeClass
  mName : String
  mMode : GameMode := .none
  mIsActive : Bool := false
  deriving DecidableEq, Repr

/-- An object of one of the classes of infos. -/
structure GameModeInfoBase where
  cls : InfoClass
  mMode : GameMode
  deriving DecidableEq, Repr

/-- `HideAndSeekInfo()` and `CaptureTheFlagInfo()` -/
def GameModeInfoBase.new (cls : InfoClass) : GameModeInfoBase where
  cls
  mMode := cls.mode

/-- `GameModeInitInfo`, of which the rest is about the scene. -/
structure GameModeInitInfo where
  mMode : GameMode
  deriving DecidableEq, Repr

namespace GameModeFactory

def modeTable : List (String × ModeClass) :=
  [("HideAndSeek", .hideAndSeekMode), ("CaptureTheFlag", .captureTheFlagMode)]

def getModeString (mode : GameMode) : Option String :=
  if 0 ≤ mode.value then (modeTable[mode.value.toNat]?).map Prod.fst else .none

def getCreator (name : String) : Option ModeClass :=
  (modeTable.find? fun creator => creator.1 = name).map Prod.snd

/-- `factory.getCreator(name)(name)` for the name of a mode. -/
def create (mode : GameMode) : Option GameModeBase :=
  (getModeString mode).bind fun name =>
    (getCreator name).map fun cls => { cls, mName := name }

/-- What is created for a mode is of the mode's class. -/
theorem create_mode {mode : GameMode} (some : mode ≠ .none)
    : ∃ base, create mode = .some base ∧ base.cls.mode = mode ∧ base.mIsActive = false := by
  cases mode with
  | none => exact absurd rfl some
  | hideAndSeek => exact ⟨_, by rfl, rfl, rfl⟩
  | captureTheFlag => exact ⟨_, by rfl, rfl, rfl⟩

end GameModeFactory

namespace GameModeBase

/-- What the `init` of a mode takes for its info: the one there is, if it says that it is of this
mode, or else a new one.
-/
def initInfo (infoClass : InfoClass) (info : GameModeInitInfo)
    (curGameInfo : Option GameModeInfoBase)
    : GameModeInfoBase :=
  match curGameInfo with
  | .some cur => if cur.mMode = info.mMode then cur else .new infoClass
  | .none => .new infoClass

/-- The info for which the `init` of a mode of the class calls `createModeInfo`. -/
def infoClass : ModeClass → InfoClass
  | .hideAndSeekMode => .hideAndSeekInfo
  | .captureTheFlagMode => .captureTheFlagInfo

/-- `HideAndSeekMode::init` or `CaptureTheFlagMode::init`, with the info that there is after it. -/
def init (base : GameModeBase) (info : GameModeInitInfo) (curGameInfo : Option GameModeInfoBase)
    : GameModeBase × GameModeInfoBase :=
  ({ base with mMode := info.mMode }, initInfo (infoClass base.cls) info curGameInfo)

/-- The info is of the class for the mode, where an info says that it is of its own class. -/
theorem initInfo_mode {cls : ModeClass} {info : GameModeInitInfo}
    {curGameInfo : Option GameModeInfoBase} (same : info.mMode = cls.mode)
    (made : ∀ cur, curGameInfo = .some cur → cur.mMode = cur.cls.mode)
    : (initInfo (infoClass cls) info curGameInfo).cls.mode = cls.mode
      ∧ (initInfo (infoClass cls) info curGameInfo).mMode = cls.mode := by
  have new : (GameModeInfoBase.new (infoClass cls)).cls.mode = cls.mode
      ∧ (GameModeInfoBase.new (infoClass cls)).mMode = cls.mode := by
    cases cls <;> exact ⟨rfl, rfl⟩
  cases curGameInfo with
  | none => exact new
  | some cur =>
      rw [initInfo]
      split_ifs with reused
      · exact ⟨(made cur rfl).symm.trans (reused.trans same), reused.trans same⟩
      · exact new

end GameModeBase

-----------------------------------------------------------------------------------------
-- The manager
-----------------------------------------------------------------------------------------

/-- The pointer to the last scene's info. -/
inductive LastInitInfo
  | nullptr
  | allocated
  | deleted
  deriving DecidableEq, Repr

/-- `GameModeManager`; that a pointer is null is that there is no object. -/
structure GameModeManager where
  mActive : Bool := false
  mPaused : Bool := false
  mWasSceneTrans : Bool := false
  mWasSetMode : Bool := false
  mCurMode : GameMode := .none
  mCurModeBase : Option GameModeBase := none
  mModeInfo : Option GameModeInfoBase := none
  mLastInitInfo : LastInitInfo := .nullptr
  deriving DecidableEq, Repr

namespace GameModeManager

variable (manager : GameModeManager)

def getGameMode : GameMode := manager.mCurMode

def isMode (mode : GameMode) : Bool := manager.mCurMode = mode

def isActive : Bool := manager.mActive

def isModeAndActive (mode : GameMode) : Bool := manager.isMode mode && manager.isActive

def setMode (mode : GameMode) : GameModeManager :=
  { manager with mCurMode := mode, mWasSetMode := true }

/-- `GameModeManager::GameModeManager` -/
def construct : GameModeManager := setMode {} .captureTheFlag

def toggleActive : GameModeManager := { manager with mActive := !manager.mActive }

def setActive (active : Bool) : GameModeManager := { manager with mActive := active }

def setPaused (paused : Bool) : GameModeManager := { manager with mPaused := paused }

/-- `begin`, on the mode there is. -/
def beginMode : GameModeManager :=
  { manager with
    mCurModeBase := manager.mCurModeBase.map fun base => { base with mIsActive := true } }

/-- `end`, on the mode there is. -/
def endMode : GameModeManager :=
  { manager with
    mCurModeBase := manager.mCurModeBase.map fun base => { base with mIsActive := false } }

/-- `mCurModeBase->isModeActive()` -/
def isModeActive : Bool := manager.mCurModeBase.any GameModeBase.mIsActive

/-- The first half of `update`. -/
def beginIfDue (inScene : Bool) : GameModeManager :=
  if (manager.mActive ∧ inScene ∧ ¬manager.mPaused ∧ ¬manager.isModeActive)
      ∨ manager.mWasSceneTrans then
    manager.beginMode
  else manager

/-- The second half of `update`. -/
def endIfDue (inScene : Bool) : GameModeManager :=
  if (¬manager.mActive ∨ manager.mPaused ∨ ¬inScene) ∧ manager.isModeActive then manager.endMode
  else manager

/-- `update`; the mode's own one changes nothing here. -/
def update (inScene : Bool) : GameModeManager :=
  if manager.mCurModeBase = none then manager
  else { (manager.beginIfDue inScene).endIfDue inScene with mWasSceneTrans := false }

/-- The end of `initScene`: a mode is initialised. -/
def initMode (info : GameModeInitInfo) (base : GameModeBase) : GameModeManager :=
  let initialised := base.init info manager.mModeInfo
  { manager with
    mCurModeBase := initialised.1
    mModeInfo := initialised.2
    mWasSceneTrans := manager.mWasSceneTrans || initialised.1.mIsActive }

/-- `initScene`; it is not defined where it deletes the last info a second time. -/
def initScene (info : GameModeInitInfo) : Option GameModeManager :=
  if manager.mLastInitInfo = .deleted then none
  else if manager.mCurMode = .none then
    some
      { manager with
        mCurModeBase := none
        mModeInfo := none
        mLastInitInfo :=
          if manager.mLastInitInfo = .nullptr then .nullptr else .deleted }
  else if manager.mWasSetMode then
    (GameModeFactory.create manager.mCurMode).map
      (initMode { manager with mLastInitInfo := .allocated, mWasSetMode := false } info)
  else
    match manager.mCurModeBase with
    | some base => some (initMode { manager with mLastInitInfo := .allocated } info base)
    | none => some { manager with mLastInitInfo := .allocated }

/-- `stageInitHook`, which makes the info from the mode that is set. -/
def stageInitHook : Option GameModeManager :=
  if manager.getGameMode ≠ .none then manager.initScene { mMode := manager.getGameMode }
  else some manager

/-- What is called on the manager. -/
inductive Event
  | setMode (mode : GameMode)
  | initScene
  | stageInitHook
  | toggleActive
  | setActive (active : Bool)
  | setPaused (paused : Bool)
  | update (inScene : Bool)
  deriving DecidableEq, Repr

def step : Event → Option GameModeManager
  | .setMode mode => some (manager.setMode mode)
  | .initScene => manager.initScene { mMode := manager.getGameMode }
  | .stageInitHook => manager.stageInitHook
  | .toggleActive => some manager.toggleActive
  | .setActive active => some (manager.setActive active)
  | .setPaused paused => some (manager.setPaused paused)
  | .update inScene => some (manager.update inScene)

-----------------------------------------------------------------------------------------
-- Casts
-----------------------------------------------------------------------------------------

/-- The objects that a cast can be of. -/
inductive CastOf
  | mode
  | info
  deriving DecidableEq, Repr

/-- A cast to a class for a mode, behind `isMode` or `isModeAndActive` of this mode. -/
structure GuardedCast where
  mode : GameMode
  isModeAndActive : Bool
  castOf : CastOf
  deriving DecidableEq, Repr

/-- The functions with such casts. -/
inductive CastSite
  | sendTagInfPacket
  | updateTagInfo
  | updateCTFPlayerTeamAssignment
  | updateCTFGameState
  | updateCTFFlagDroppedPosition
  | updateCTFWinState
  | getPlayerTransformInSameStage
  | control
  | createTicketHook
  | borderPullBackHook
  | drawDebugMode
  | hideAndSeekUpdateMenu
  | captureTheFlagUpdateMenu
  deriving DecidableEq, Repr

def CastSite.casts : CastSite → List GuardedCast
  | .sendTagInfPacket | .updateTagInfo =>
      [⟨.hideAndSeek, false, .mode⟩, ⟨.hideAndSeek, false, .info⟩]
  | .drawDebugMode =>
      [⟨.hideAndSeek, false, .mode⟩, ⟨.hideAndSeek, false, .info⟩, ⟨.captureTheFlag, true, .info⟩]
  | .updateCTFPlayerTeamAssignment | .updateCTFWinState | .captureTheFlagUpdateMenu =>
      [⟨.captureTheFlag, true, .info⟩]
  | .updateCTFGameState => [⟨.captureTheFlag, true, .mode⟩, ⟨.captureTheFlag, true, .info⟩]
  | .updateCTFFlagDroppedPosition | .getPlayerTransformInSameStage =>
      [⟨.captureTheFlag, true, .mode⟩]
  | .control => [⟨.hideAndSeek, true, .mode⟩, ⟨.captureTheFlag, true, .info⟩]
  | .createTicketHook => [⟨.hideAndSeek, false, .mode⟩, ⟨.captureTheFlag, true, .mode⟩]
  | .borderPullBackHook => [⟨.hideAndSeek, true, .mode⟩]
  | .hideAndSeekUpdateMenu => [⟨.hideAndSeek, false, .info⟩]

/-- The mode that an object's class is for, if there is an object. -/
def classMode : CastOf → Option GameMode
  | .mode => manager.mCurModeBase.map fun base => base.cls.mode
  | .info => manager.mModeInfo.map fun info => info.cls.mode

/-- Where the guard lets a cast through, there is an object of the class. -/
def Valid (cast : GuardedCast) : Prop :=
  (if cast.isModeAndActive then manager.isModeAndActive cast.mode else manager.isMode cast.mode)
    = true
  → manager.classMode cast.castOf = some cast.mode

/-- While a mode is set there are objects of its classes. -/
def TagMatches : Prop :=
  ∀ mode, mode ≠ .none → manager.isMode mode = true → ∀ castOf, manager.classMode castOf = some mode

/-- Every cast is behind a mode. -/
theorem CastSite.mode_ne_none (site : CastSite) {cast : GuardedCast} (member : cast ∈ site.casts)
    : cast.mode ≠ .none := by
  have all : ∀ site : CastSite, ∀ cast ∈ site.casts, cast.mode ≠ .none := by
    intro site
    cases site <;> simp [casts]
  exact all site cast member

variable {manager}

/-- Then every cast that is let through is valid. -/
theorem TagMatches.valid (matching : manager.TagMatches) {site : CastSite} {cast : GuardedCast}
    (member : cast ∈ site.casts)
    : manager.Valid cast := by
  intro guarded
  apply matching cast.mode (site.mode_ne_none member)
  split_ifs at guarded
  · exact ((Bool.and_eq_true _ _).mp guarded).1
  · exact guarded

-----------------------------------------------------------------------------------------
-- Histories
-----------------------------------------------------------------------------------------

/-- What calls come to: the mode set last, and the one that was set when a scene was last
initialised, if there is anything left of that.
-/
structure History where
  tag : GameMode
  scene : Option GameMode
  deriving DecidableEq, Repr

namespace History

/-- The constructor sets a mode. -/
def start : History := ⟨.captureTheFlag, none⟩

def after (history : History) : Event → History
  | .setMode mode => { history with tag := mode }
  | .initScene =>
      { history with scene := if history.tag = .none then none else some history.tag }
  | .stageInitHook =>
      if history.tag = .none then history else { history with scene := some history.tag }
  | .toggleActive | .setActive _ | .setPaused _ | .update _ => history

def ofEvents (events : List Event) : History := events.foldl after start

/-- No mode is set, or the last scene was initialised for the mode that is. -/
def SceneIsOfMode (history : History) : Prop :=
  history.tag = .none ∨ history.scene = some history.tag

instance (history : History) : Decidable history.SceneIsOfMode :=
  inferInstanceAs (Decidable (history.tag = .none ∨ history.scene = some history.tag))

end History

/-- The manager is as its history says. -/
structure Follows (manager : GameModeManager) (history : History) : Prop where
  tag : manager.mCurMode = history.tag
  objects : ∀ castOf, manager.classMode castOf = history.scene
  made : ∀ info, manager.mModeInfo = some info → info.mMode = info.cls.mode
  kept : manager.mWasSetMode = false → history.tag ≠ .none ∧ history.scene = some history.tag

theorem follows_construct : construct.Follows .start where
  tag := rfl
  objects castOf := by cases castOf <;> rfl
  made info there := by cases there
  kept fresh := by cases fresh

/-- The tag matches the objects exactly where the last scene was initialised for the mode. -/
theorem Follows.sceneIsOfMode_iff {history : History} (follows : manager.Follows history)
    : manager.TagMatches ↔ history.SceneIsOfMode := by
  constructor
  · intro matching
    by_cases unset : history.tag = .none
    · exact .inl unset
    · right
      rw [← follows.objects .mode]
      exact matching history.tag unset (decide_eq_true follows.tag) .mode
  · rintro (unset | scene) mode some guarded castOf
    · have tag : manager.mCurMode = mode := of_decide_eq_true guarded
      exact absurd (tag.symm.trans (follows.tag.trans unset)) some
    · have tag : manager.mCurMode = mode := of_decide_eq_true guarded
      rw [follows.objects, scene, ← follows.tag, tag]

/-- An initialised mode, with its info, is of the mode that is set. -/
theorem follows_initMode {info : GameModeInitInfo} {base : GameModeBase}
    (unset : manager.mCurMode ≠ .none) (mode : base.cls.mode = manager.mCurMode)
    (same : info.mMode = manager.mCurMode)
    (made : ∀ cur, manager.mModeInfo = some cur → cur.mMode = cur.cls.mode)
    : (manager.initMode info base).Follows ⟨manager.mCurMode, some manager.mCurMode⟩ := by
  obtain ⟨cls, ofMode⟩ := GameModeBase.initInfo_mode (same.trans mode.symm) made
  refine ⟨rfl, ?_, ?_, fun _ => ⟨unset, rfl⟩⟩
  · intro castOf
    cases castOf with
    | mode => exact congrArg some mode
    | info => exact congrArg some (cls.trans mode)
  · intro info there
    cases there
    exact ofMode.trans cls.symm

/-- `initScene` with the info that its caller makes. -/
theorem follows_initScene {history : History} {next : GameModeManager}
    (follows : manager.Follows history)
    (taken : manager.initScene { mMode := manager.getGameMode } = some next)
    : next.Follows (history.after .initScene) := by
  obtain ⟨tag, objects, made, kept⟩ := follows
  rw [initScene] at taken
  by_cases deleted : manager.mLastInitInfo = .deleted
  · rw [if_pos deleted] at taken
    cases taken
  rw [if_neg deleted] at taken
  by_cases unset : manager.mCurMode = .none
  · rw [if_pos unset] at taken
    cases taken
    rw [History.after, if_pos (tag.symm.trans unset)]
    refine ⟨tag, ?_, ?_, ?_⟩
    · intro castOf
      cases castOf <;> rfl
    · intro info there
      cases there
    · intro unchanged
      exact absurd (tag.symm.trans unset) (kept unchanged).1
  · rw [if_neg unset] at taken
    rw [History.after, if_neg (tag ▸ unset), ← tag]
    cases changed : manager.mWasSetMode with
    | true =>
        obtain ⟨base, created, mode, -⟩ := GameModeFactory.create_mode unset
        rw [if_pos changed, created] at taken
        cases taken
        exact follows_initMode unset mode rfl made
    | false =>
        have mode := (objects .mode).trans (kept changed).2
        rw [if_neg (Bool.eq_false_iff.mp changed)] at taken
        cases there : manager.mCurModeBase with
        | none =>
            rw [classMode, there] at mode
            cases mode
        | some base =>
            rw [there] at taken
            cases taken
            rw [classMode, there] at mode
            exact follows_initMode unset ((Option.some.inj mode).trans tag.symm) rfl made

/-- What begins and ends modes leaves the objects of the classes they are of. -/
structure SameObjects (manager next : GameModeManager) : Prop where
  tag : next.mCurMode = manager.mCurMode
  changed : next.mWasSetMode = manager.mWasSetMode
  mode : next.classMode .mode = manager.classMode .mode
  info : next.mModeInfo = manager.mModeInfo

theorem SameObjects.follows {next : GameModeManager} {history : History}
    (same : manager.SameObjects next) (follows : manager.Follows history)
    : next.Follows history where
  tag := same.tag.trans follows.tag
  objects castOf := by
    cases castOf with
    | mode => exact same.mode.trans (follows.objects .mode)
    | info =>
        rw [← follows.objects .info, classMode, classMode, same.info]
  made info there := follows.made info (same.info ▸ there)
  kept unchanged := follows.kept (same.changed ▸ unchanged)

theorem SameObjects.trans {middle next : GameModeManager} (first : manager.SameObjects middle)
    (second : middle.SameObjects next)
    : manager.SameObjects next :=
  ⟨second.tag.trans first.tag, second.changed.trans first.changed, second.mode.trans first.mode,
    second.info.trans first.info⟩

theorem SameObjects.refl (manager : GameModeManager) : manager.SameObjects manager :=
  ⟨rfl, rfl, rfl, rfl⟩

theorem sameObjects_beginIfDue (manager : GameModeManager) (inScene : Bool)
    : manager.SameObjects (manager.beginIfDue inScene) := by
  rw [beginIfDue]
  split_ifs
  · refine ⟨rfl, rfl, ?_, rfl⟩
    simp only [classMode, beginMode, Option.map_map, Function.comp_def]
  · exact .refl manager

theorem sameObjects_endIfDue (manager : GameModeManager) (inScene : Bool)
    : manager.SameObjects (manager.endIfDue inScene) := by
  rw [endIfDue]
  split_ifs
  · refine ⟨rfl, rfl, ?_, rfl⟩
    simp only [classMode, endMode, Option.map_map, Function.comp_def]
  · exact .refl manager

theorem sameObjects_update (manager : GameModeManager) (inScene : Bool)
    : manager.SameObjects (manager.update inScene) := by
  rw [update]
  split_ifs
  · exact .refl manager
  · obtain ⟨tag, changed, mode, info⟩ := (sameObjects_beginIfDue manager inScene).trans
      (sameObjects_endIfDue (manager.beginIfDue inScene) inScene)
    exact ⟨tag, changed, mode, info⟩

/-- One step. -/
theorem follows_step {history : History} {event : Event} {next : GameModeManager}
    (follows : manager.Follows history) (taken : manager.step event = some next)
    : next.Follows (history.after event) := by
  obtain ⟨tag, objects, made, kept⟩ := follows
  cases event with
  | setMode mode =>
      cases taken
      exact ⟨rfl, objects, made, fun unchanged => by cases unchanged⟩
  | initScene => exact follows_initScene ⟨tag, objects, made, kept⟩ taken
  | stageInitHook =>
      simp only [step, stageInitHook] at taken
      split_ifs at taken with unset
      · have initialised := follows_initScene ⟨tag, objects, made, kept⟩ taken
        have unset : history.tag ≠ .none := tag ▸ unset
        rw [History.after, if_neg unset] at initialised
        rw [History.after, if_neg unset]
        exact initialised
      · cases taken
        rw [History.after, if_pos (tag.symm.trans (not_not.mp unset))]
        exact ⟨tag, objects, made, kept⟩
  | update inScene =>
      cases taken
      exact (sameObjects_update manager inScene).follows ⟨tag, objects, made, kept⟩
  | _ =>
      cases taken
      exact ⟨tag, objects, made, kept⟩

theorem follows_run {events : List Event} (run : AnyRun step construct events manager)
    : manager.Follows (.ofEvents events) := by
  induction run with
  | nil => exact follows_construct
  | snoc before _ taken ih =>
      rw [History.ofEvents, List.foldl_append]
      exact follows_step ih taken

/-- In every state that calls lead to, the tag matches the objects exactly where the last scene
was initialised for the mode that is set, and then every cast behind the tag is valid.
-/
theorem tagMatches_iff {events : List Event} {manager : GameModeManager}
    (run : AnyRun step construct events manager)
    : (manager.TagMatches ↔ (History.ofEvents events).SceneIsOfMode)
      ∧ ((History.ofEvents events).SceneIsOfMode
        → ∀ site : CastSite, ∀ cast ∈ site.casts, manager.Valid cast) := by
  have same := (follows_run run).sceneIsOfMode_iff
  exact ⟨same, fun scene _ _ member => (same.mpr scene).valid member⟩

/-- The first scene is initialised for the mode that the constructor sets. -/
theorem tagMatches_first_scene
    : ∃ manager,
        AnyRun step construct [.stageInitHook] manager
        ∧ manager.TagMatches
        ∧ ∀ site : CastSite, ∀ cast ∈ site.casts, manager.Valid cast := by
  have run := @execute_get_run _ _ step construct [.stageInitHook] (by decide)
  have scene : (History.ofEvents [.stageInitHook]).SceneIsOfMode := by decide
  have matching := tagMatches_iff run
  exact ⟨_, run, matching.1.mpr scene, matching.2 scene⟩

/-- Hide and seek is chosen in the menu while the scene is one of capture the flag: until the
next scene, what is behind the tag casts the objects of the one to the classes of the other.
-/
theorem menu_before_scene
    : ∃ manager,
        AnyRun step construct [.stageInitHook, .setMode .hideAndSeek] manager
        ∧ manager.isMode .hideAndSeek = true
        ∧ manager.classMode .mode = some .captureTheFlag
        ∧ manager.classMode .info = some .captureTheFlag
        ∧ ¬manager.TagMatches := by
  refine ⟨_, execute_get_run (by decide), by decide, by decide, by decide, ?_⟩
  intro matching
  have mode := matching .hideAndSeek (by decide) (by decide) .mode
  exact absurd mode (by decide)

end GameModeManager

end SmoOnline.Mod
