import Mathlib.Data.List.Induction
import Mathlib.Logic.Function.Basic
import SmoOnline.Library.Runs
import SmoOnline.Mod.HackModelHolder

/-! Which model a puppet shows: the player's in three dimensions or two, or a capture's. A model is
exchanged when the entry of the puppet changes from one frame to the next.
-/

namespace SmoOnline.Mod

open Runs Span

-----------------------------------------------------------------------------------------
-- The puppet
-----------------------------------------------------------------------------------------

/-- An actor that a puppet can show. A capture is known by the pointer to its actor. -/
inductive Model
  | normal
  | normal2D
  | capture (actor : Bytes)
  deriving DecidableEq

/-- What `control` reads of the entry to choose a model, the name up to its zero. -/
structure ModelInfo where
  is2D : Bool := false
  isCaptured : Bool := false
  curHack : Bytes := []
  isCapThrow : Bool := false

structure PuppetModels where
  mCaptures : HackModelHolder
  /-- `mModelHolder->currentModel` -/
  currentModel : Model := .normal
  mIs2DModel : Bool := false
  mIsCaptureModel : Bool := false
  /-- the models that are alive -/
  alive : Model → Bool := fun _ => false
  /-- the puppet itself, and its cap -/
  isAlive : Bool := false
  mPuppetCap : Bool := false

namespace PuppetModels

variable (puppet : PuppetModels)

def getCurrentModel : Model :=
  if puppet.mIsCaptureModel then
    if puppet.mCaptures.getCurrentActor ≠ nullPtr then .capture puppet.mCaptures.getCurrentActor
    else puppet.currentModel
  else puppet.currentModel

/-- `getCurrentModel()->makeActorAlive()` -/
def enliven : PuppetModels :=
  { puppet with alive := Function.update puppet.alive puppet.getCurrentModel true }

/-- `getCurrentModel()->makeActorDead()` -/
def kill : PuppetModels :=
  { puppet with alive := Function.update puppet.alive puppet.getCurrentModel false }

def changeModel (newModel : Model) : PuppetModels :=
  { puppet.kill with currentModel := newModel }.enliven

/-- `setCapture`, but for the type that it notes. -/
def setCapture (captureName : Bytes) : PuppetModels :=
  { puppet with mCaptures := (puppet.mCaptures.setCurrent captureName).1 }

/-- `Model Updating` in `control`. -/
def updateModel (mInfo : ModelInfo) : PuppetModels :=
  if !puppet.mIs2DModel && mInfo.is2D then { puppet.changeModel .normal2D with mIs2DModel := true }
  else if puppet.mIs2DModel && !mInfo.is2D then
    { puppet.changeModel .normal with mIs2DModel := false }
  else puppet

/-- `Capture Updating` in `control`. -/
def updateCapture (mInfo : ModelInfo) : PuppetModels :=
  if mInfo.isCaptured && !puppet.mIsCaptureModel then
    { puppet.kill.setCapture mInfo.curHack with mIsCaptureModel := true }.enliven
  else if !mInfo.isCaptured && puppet.mIsCaptureModel then
    { puppet.kill with currentModel := .normal, mIsCaptureModel := false }.enliven
  else puppet

/-- `control`, as far as it chooses what is shown. -/
def control (mInfo : ModelInfo) : PuppetModels :=
  { (puppet.updateModel mInfo).updateCapture mInfo with mPuppetCap := mInfo.isCapThrow }

def makeActorAlive : PuppetModels :=
  { (if puppet.alive puppet.getCurrentModel then puppet else puppet.enliven) with isAlive := true }

def makeActorDead : PuppetModels :=
  { (if puppet.alive puppet.getCurrentModel then puppet.kill else puppet) with
    isAlive := false
    mPuppetCap := false }

/-- The turn of `PuppetHolder::update` for the puppet. -/
def update (isInSameStage : Bool) : PuppetModels :=
  if isInSameStage && !puppet.isAlive then puppet.makeActorAlive
  else if !isInSameStage && puppet.isAlive then puppet.makeActorDead
  else puppet

/-- A puppet behind `init`, which leaves its models dead, with the captures that were added. -/
def initial (captures : HackModelHolder) : PuppetModels where
  mCaptures := { captures with mCurCapture := none }

end PuppetModels

inductive PuppetFrame
  /-- `control`, which only a living actor is called for -/
  | control (mInfo : ModelInfo)
  | update (isInSameStage : Bool)

namespace PuppetModels

def step (puppet : PuppetModels) : PuppetFrame → Option PuppetModels
  | .control mInfo => if puppet.isAlive then some (puppet.control mInfo) else none
  | .update isInSameStage => some (puppet.update isInSameStage)

end PuppetModels

-----------------------------------------------------------------------------------------
-- What is to be shown
-----------------------------------------------------------------------------------------

namespace ModelInfo

/-- The player's own model. -/
def playerModel (mInfo : ModelInfo) : Model := if mInfo.is2D then .normal2D else .normal

/-- The actor of the capture, if the player has one that is in the list, and else the player. -/
def wanted (captures : HackModelHolder) (mInfo : ModelInfo) : Model :=
  if mInfo.isCaptured ∧ captures.getCapture mInfo.curHack ≠ nullPtr then
    .capture (captures.getCapture mInfo.curHack)
  else mInfo.playerModel

/-- The entry when the capture began that goes on, from the entries before, the last one first. -/
def captureBegan (mInfo : ModelInfo) : List ModelInfo → ModelInfo
  | [] => mInfo
  | earlier :: rest => if earlier.isCaptured then earlier.captureBegan rest else mInfo

/-- A capture was left since the player has been in two dimensions. -/
def leftFlat (mInfo : ModelInfo) : List ModelInfo → Bool
  | [] => false
  | earlier :: rest =>
      mInfo.is2D && (earlier.isCaptured && !mInfo.isCaptured || earlier.leftFlat rest)

end ModelInfo

/-- The entries of the frames, the last one first. -/
def entriesOf (events : List PuppetFrame) : List ModelInfo :=
  events.reverse.filterMap fun
    | .control mInfo => some mInfo
    | .update _ => none

/-- What the last turn of the puppet found of its stage. -/
def lastTurn (events : List PuppetFrame) : Bool :=
  (events.reverse.findSome? fun
    | .control _ => none
    | .update isInSameStage => some isInSameStage).getD false

/-- The player's model that a puppet keeps while a capture is shown. -/
def ModelInfo.kept : List ModelInfo → Model
  | [] => .normal
  | mInfo :: earlier => if mInfo.is2D && !mInfo.leftFlat earlier then .normal2D else .normal

/-- What is shown behind the entries, the last one first: the actor of the capture as it began, if
there is one, and else the player's model that was kept.
-/
def ModelInfo.shown (captures : HackModelHolder) : List ModelInfo → Model
  | [] => .normal
  | mInfo :: earlier =>
      if mInfo.isCaptured ∧ captures.getCapture (mInfo.captureBegan earlier).curHack ≠ nullPtr then
        .capture (captures.getCapture (mInfo.captureBegan earlier).curHack)
      else ModelInfo.kept (mInfo :: earlier)

-----------------------------------------------------------------------------------------
-- One model is alive
-----------------------------------------------------------------------------------------

namespace PuppetModels

/-- The current model lives while the puppet does, and no other one. -/
structure Shows (puppet : PuppetModels) : Prop where
  models
    : ∀ model,
        puppet.alive model = true ↔ puppet.isAlive = true ∧ model = puppet.getCurrentModel
  cap : puppet.mPuppetCap = true → puppet.isAlive = true

/-- No model lives. -/
def Hidden (puppet : PuppetModels) : Prop := ∀ model, puppet.alive model = false

variable {puppet : PuppetModels}

theorem alive_enliven (model : Model)
    : puppet.enliven.alive model
      = if model = puppet.getCurrentModel then true else puppet.alive model :=
  Function.update_apply ..

theorem alive_kill (model : Model)
    : puppet.kill.alive model
      = if model = puppet.getCurrentModel then false else puppet.alive model :=
  Function.update_apply ..

/-- No model is left when the current one is made dead. -/
theorem hidden_kill (shows : puppet.Shows) : puppet.kill.Hidden := by
  intro model
  rw [alive_kill]
  split
  next => rfl
  next other => exact Bool.eq_false_iff.mpr fun lives => other ((shows.models model).mp lives).2

/-- The current model of a living puppet is the only one when there was none. -/
theorem shows_enliven (hidden : puppet.Hidden) (lives : puppet.isAlive = true)
    : puppet.enliven.Shows := by
  refine ⟨fun model => ?_, fun _ => lives⟩
  rw [alive_enliven]
  refine Iff.trans ?_ (and_iff_right lives).symm
  split
  next current => exact iff_of_true rfl current
  next other => exact iff_of_false (by rw [hidden]; exact Bool.false_ne_true) other

theorem shows_changeModel (shows : puppet.Shows) (lives : puppet.isAlive = true) (newModel : Model)
    : (puppet.changeModel newModel).Shows :=
  shows_enliven (hidden_kill shows) lives

theorem shows_updateModel (shows : puppet.Shows) (lives : puppet.isAlive = true)
    (mInfo : ModelInfo)
    : (puppet.updateModel mInfo).Shows ∧ (puppet.updateModel mInfo).isAlive = true := by
  rw [updateModel]
  split
  next =>
    have changed := shows_changeModel shows lives .normal2D
    exact ⟨⟨changed.models, changed.cap⟩, lives⟩
  next =>
    split
    next =>
      have changed := shows_changeModel shows lives .normal
      exact ⟨⟨changed.models, changed.cap⟩, lives⟩
    next => exact ⟨shows, lives⟩

theorem shows_updateCapture (shows : puppet.Shows) (lives : puppet.isAlive = true)
    (mInfo : ModelInfo)
    : (puppet.updateCapture mInfo).Shows ∧ (puppet.updateCapture mInfo).isAlive = true := by
  rw [updateCapture]
  split
  next => exact ⟨shows_enliven (hidden_kill shows) lives, lives⟩
  next =>
    split
    next => exact ⟨shows_enliven (hidden_kill shows) lives, lives⟩
    next => exact ⟨shows, lives⟩

theorem shows_control (shows : puppet.Shows) (lives : puppet.isAlive = true) (mInfo : ModelInfo)
    : (puppet.control mInfo).Shows := by
  obtain ⟨models, still⟩ := shows_updateModel shows lives mInfo
  obtain ⟨captures, stays⟩ := shows_updateCapture models still mInfo
  exact ⟨captures.models, fun _ => stays⟩

theorem shows_makeActorAlive (shows : puppet.Shows) : puppet.makeActorAlive.Shows := by
  rw [makeActorAlive]
  split
  next lives =>
    have alive := ((shows.models _).mp lives).1
    exact ⟨fun model => (shows.models model).trans (by rw [alive]; rfl), fun _ => rfl⟩
  next dead =>
    have hidden : puppet.Hidden := fun model => Bool.eq_false_iff.mpr fun lives =>
      dead (((shows.models model).mp lives).2 ▸ lives)
    have begun := @shows_enliven { puppet with isAlive := true } hidden rfl
    exact ⟨begun.models, fun _ => rfl⟩

theorem shows_makeActorDead (shows : puppet.Shows) : puppet.makeActorDead.Shows := by
  have hidden
      : (if puppet.alive puppet.getCurrentModel then puppet.kill else puppet).Hidden := by
    split
    next => exact hidden_kill shows
    next dead =>
      exact fun model => Bool.eq_false_iff.mpr fun lives =>
        dead (((shows.models model).mp lives).2 ▸ lives)
  refine ⟨fun model => iff_of_false ?_ (fun lives => Bool.false_ne_true lives.1), fun cap => cap⟩
  rw [makeActorDead, hidden]
  exact Bool.false_ne_true

/-- A frame leaves the current model, and only it, alive while the puppet is. -/
theorem shows_step {after : PuppetModels} {frame : PuppetFrame} (shows : puppet.Shows)
    (taken : puppet.step frame = some after)
    : after.Shows := by
  cases frame with
  | control mInfo =>
      rw [step] at taken
      split at taken
      next lives => exact Option.some_inj.mp taken ▸ shows_control shows lives mInfo
      next => cases taken
  | update isInSameStage =>
      rw [step, Option.some_inj] at taken
      subst taken
      rw [update]
      split
      next => exact shows_makeActorAlive shows
      next =>
        split
        next => exact shows_makeActorDead shows
        next => exact shows

/-- A puppet behind `init` shows nothing. -/
theorem shows_initial (captures : HackModelHolder) : (initial captures).Shows :=
  ⟨fun _ => iff_of_false Bool.false_ne_true fun lives => Bool.false_ne_true lives.1, fun cap => cap⟩

-----------------------------------------------------------------------------------------
-- The model of an entry
-----------------------------------------------------------------------------------------

/-- The puppet stands where the entries, the last one first, have brought it. -/
structure Follows (puppet : PuppetModels) (captures : HackModelHolder)
    (entries : List ModelInfo)
    : Prop where
  list : puppet.mCaptures = { captures with mCurCapture := puppet.mCaptures.mCurCapture }
  flat : puppet.mIs2DModel = (entries.headD {}).is2D
  captured : puppet.mIsCaptureModel = (entries.headD {}).isCaptured
  capture
    : (entries.headD {}).isCaptured = true
      → puppet.mCaptures.mCurCapture
        = captures.findEntry ((entries.headD {}).captureBegan entries.tail).curHack
  kept : puppet.currentModel = ModelInfo.kept entries

variable {captures : HackModelHolder} {entries : List ModelInfo}

theorem follows_initial (captures : HackModelHolder) : (initial captures).Follows captures [] :=
  ⟨rfl, rfl, rfl, nofun, rfl⟩

/-- Only the player's model follows what `updateModel` reads. -/
theorem updateModel_eq (puppet : PuppetModels) (mInfo : ModelInfo)
    : (puppet.updateModel mInfo).mCaptures = puppet.mCaptures
      ∧ (puppet.updateModel mInfo).mIsCaptureModel = puppet.mIsCaptureModel
      ∧ (puppet.updateModel mInfo).mIs2DModel = mInfo.is2D
      ∧ (puppet.updateModel mInfo).currentModel
        = if puppet.mIs2DModel = mInfo.is2D then puppet.currentModel else mInfo.playerModel := by
  rw [updateModel, ModelInfo.playerModel]
  cases flat : puppet.mIs2DModel <;> cases now : mInfo.is2D <;>
    simp [changeModel, enliven, kill, flat]

theorem updateCapture_eq (puppet : PuppetModels) (mInfo : ModelInfo)
    : (puppet.updateCapture mInfo).mCaptures
        = (if mInfo.isCaptured && !puppet.mIsCaptureModel then
            (puppet.mCaptures.setCurrent mInfo.curHack).1
          else puppet.mCaptures)
      ∧ (puppet.updateCapture mInfo).mIsCaptureModel = mInfo.isCaptured
      ∧ (puppet.updateCapture mInfo).mIs2DModel = puppet.mIs2DModel
      ∧ (puppet.updateCapture mInfo).currentModel
        = if !mInfo.isCaptured && puppet.mIsCaptureModel then .normal else puppet.currentModel := by
  rw [updateCapture]
  cases captured : puppet.mIsCaptureModel <;> cases now : mInfo.isCaptured <;>
    simp [enliven, kill, setCapture, captured]

/-- What an entry changes of the player's model that is kept. -/
theorem kept_cons (mInfo : ModelInfo) (entries : List ModelInfo)
    : ModelInfo.kept (mInfo :: entries)
      = if !mInfo.isCaptured && (entries.headD {}).isCaptured then .normal
        else if (entries.headD {}).is2D = mInfo.is2D then ModelInfo.kept entries
        else mInfo.playerModel := by
  cases entries with
  | nil => cases now : mInfo.is2D <;> simp [ModelInfo.kept, ModelInfo.playerModel, now,
      ModelInfo.leftFlat]
  | cons earlier rest =>
      cases now : mInfo.is2D <;> cases before : earlier.is2D <;>
        cases captured : mInfo.isCaptured <;> cases left : earlier.isCaptured <;>
          cases rest <;>
          simp [ModelInfo.kept, ModelInfo.playerModel, ModelInfo.leftFlat, now, before, captured,
            left]

theorem setCurrent_eq (holder : HackModelHolder) (name : Bytes)
    : (holder.setCurrent name).1 = { holder with mCurCapture := holder.findEntry name } := by
  rw [HackModelHolder.setCurrent]
  cases holder.findEntry name <;> rfl

theorem follows_control (follows : puppet.Follows captures entries) (mInfo : ModelInfo)
    : (puppet.control mInfo).Follows captures (mInfo :: entries) := by
  obtain ⟨list, noCapture, flat, model⟩ := updateModel_eq puppet mInfo
  obtain ⟨current, captured, still, kept⟩ := updateCapture_eq (puppet.updateModel mInfo) mInfo
  rw [list, noCapture, setCurrent_eq, follows.captured, follows.list] at current
  have sameList
      : let list := ((puppet.updateModel mInfo).updateCapture mInfo).mCaptures
        list = { captures with mCurCapture := list.mCurCapture } := by
    rw [current]
    split <;> rfl
  refine ⟨sameList, still.trans flat, captured, fun nowCaptured => ?_, ?_⟩
  · change ((puppet.updateModel mInfo).updateCapture mInfo).mCaptures.mCurCapture = _
    change mInfo.isCaptured = true at nowCaptured
    rw [current]
    cases entries with
    | nil => simp [ModelInfo.captureBegan, HackModelHolder.findEntry, nowCaptured,
        HackModelHolder.isEqualString]
    | cons earlier rest =>
        have goesOn := follows.capture
        simp only [List.headD_cons, List.tail_cons] at goesOn ⊢
        rw [nowCaptured, ModelInfo.captureBegan]
        by_cases before : earlier.isCaptured = true
        · simpa [before] using goesOn before
        · simp [before, HackModelHolder.findEntry, HackModelHolder.isEqualString]
  · rw [kept_cons, ← follows.kept, ← follows.captured, ← follows.flat]
    exact kept.trans (by rw [noCapture, model])

theorem follows_step {after : PuppetModels} {events : List PuppetFrame} {frame : PuppetFrame}
    (follows : puppet.Follows captures (entriesOf events))
    (taken : puppet.step frame = some after)
    : after.Follows captures (entriesOf (events ++ [frame])) := by
  cases frame with
  | control mInfo =>
      rw [step] at taken
      split at taken
      next =>
        have after := follows_control follows mInfo
        rw [Option.some_inj.mp taken] at after
        simpa [entriesOf] using after
      next => cases taken
  | update isInSameStage =>
      have same : entriesOf (events ++ [.update isInSameStage]) = entriesOf events := by
        simp [entriesOf]
      rw [step, Option.some_inj] at taken
      rw [same, ← taken, update, makeActorAlive, makeActorDead]
      split
      next =>
        split <;>
          exact ⟨follows.list, follows.flat, follows.captured, follows.capture, follows.kept⟩
      next =>
        split
        next =>
          split <;>
            exact ⟨follows.list, follows.flat, follows.captured, follows.capture, follows.kept⟩
        next => exact follows

theorem isAlive_step {after : PuppetModels} {events : List PuppetFrame} {frame : PuppetFrame}
    (shows : puppet.Shows) (stage : puppet.isAlive = lastTurn events)
    (taken : puppet.step frame = some after)
    : after.isAlive = lastTurn (events ++ [frame]) := by
  cases frame with
  | control mInfo =>
      have same : lastTurn (events ++ [.control mInfo]) = lastTurn events := by simp [lastTurn]
      rw [step] at taken
      split at taken
      next lives =>
        rw [same, ← stage, lives, ← Option.some_inj.mp taken]
        obtain ⟨models, still⟩ := shows_updateModel shows lives mInfo
        exact (shows_updateCapture models still mInfo).2
      next => cases taken
  | update isInSameStage =>
      have turn : lastTurn (events ++ [.update isInSameStage]) = isInSameStage := by
        simp [lastTurn]
      rw [step, Option.some_inj] at taken
      rw [turn, ← taken, update]
      cases isInSameStage <;> cases lives : puppet.isAlive <;>
        simp [makeActorAlive, makeActorDead, lives]

/-- What a puppet has come to by its frames, one frame after the other. -/
theorem follows_of_execute {events : List PuppetFrame}
    (executed : execute step (initial captures) events = some puppet)
    : puppet.Shows ∧ puppet.Follows captures (entriesOf events)
      ∧ puppet.isAlive = lastTurn events := by
  induction events using List.reverseRecOn generalizing puppet with
  | nil =>
      cases executed
      exact ⟨shows_initial captures, follows_initial captures, rfl⟩
  | append_singleton earlier frame ih =>
      rw [execute_append] at executed
      obtain ⟨before, done, last⟩ := Option.bind_eq_some_iff.mp executed
      obtain ⟨after, taken, same⟩ := execute_cons_eq_some last
      cases same
      obtain ⟨shows, follows, stage⟩ := ih done
      exact ⟨shows_step shows taken, follows_step follows taken, isAlive_step shows stage taken⟩

/-- The current model is what the entries show. -/
theorem getCurrentModel_eq_shown (follows : puppet.Follows captures entries)
    : puppet.getCurrentModel = ModelInfo.shown captures entries := by
  cases entries with
  | nil =>
      have captured : puppet.mIsCaptureModel = false := follows.captured
      have model : puppet.currentModel = .normal := follows.kept
      simp [getCurrentModel, ModelInfo.shown, captured, model]
  | cons mInfo earlier =>
      have captured : puppet.mIsCaptureModel = mInfo.isCaptured := follows.captured
      rw [getCurrentModel, ModelInfo.shown, captured, ← follows.kept]
      cases now : mInfo.isCaptured with
      | false => simp
      | true =>
          have actor
              : puppet.mCaptures.getCurrentActor
                = captures.getCapture (mInfo.captureBegan earlier).curHack := by
            rw [HackModelHolder.getCurrentActor, follows.capture now, follows.list]
            rfl
          simp [actor]

/-- The player's model is kept, except a flat one behind a capture. -/
theorem kept_eq_playerModel_iff (mInfo : ModelInfo) (earlier : List ModelInfo)
    : ModelInfo.kept (mInfo :: earlier) = mInfo.playerModel
      ↔ (mInfo.is2D = true → mInfo.leftFlat earlier = false) := by
  cases flat : mInfo.is2D <;> cases left : mInfo.leftFlat earlier <;>
    simp [ModelInfo.kept, ModelInfo.playerModel, flat, left]

theorem kept_ne_capture (mInfo : ModelInfo) (earlier : List ModelInfo) (actor : Bytes)
    : ModelInfo.kept (mInfo :: earlier) ≠ .capture actor := by
  rw [ModelInfo.kept]
  split <;> nofun

theorem playerModel_ne_capture (mInfo : ModelInfo) (actor : Bytes)
    : mInfo.playerModel ≠ .capture actor := by
  rw [ModelInfo.playerModel]
  split <;> nofun

/-- What is shown behind a frame is what its entry wants, unless another capture goes on than the
one that began, or the player is flat and has left a capture since.
-/
theorem shown_eq_wanted_iff (captures : HackModelHolder) (mInfo : ModelInfo)
    (earlier : List ModelInfo)
    : ModelInfo.shown captures (mInfo :: earlier) = mInfo.wanted captures
      ↔ (mInfo.isCaptured = true
          → captures.getCapture (mInfo.captureBegan earlier).curHack
            = captures.getCapture mInfo.curHack)
        ∧ (mInfo.isCaptured = false ∨ captures.getCapture mInfo.curHack = nullPtr
            → mInfo.is2D = true
            → mInfo.leftFlat earlier = false) := by
  have kept := kept_eq_playerModel_iff mInfo earlier
  rw [ModelInfo.shown, ModelInfo.wanted]
  generalize captures.getCapture (mInfo.captureBegan earlier).curHack = began
  generalize captures.getCapture mInfo.curHack = now
  cases captured : mInfo.isCaptured with
  | false => simpa using kept
  | true =>
      by_cases first : began = nullPtr <;> by_cases last : now = nullPtr
      · simpa [first, last] using kept
      · simpa [first, last, kept_ne_capture] using Ne.symm last
      · simpa [first, last] using (playerModel_ne_capture mInfo began).symm
      · simp [first, last]

/-- `control` finds the puppet alive and leaves it so. -/
theorem isAlive_of_control {events : List PuppetFrame} {mInfo : ModelInfo}
    (executed : execute step (initial captures) (events ++ [.control mInfo]) = some puppet)
    : puppet.isAlive = true := by
  have last := (follows_of_execute executed).2.2
  rw [execute_append] at executed
  obtain ⟨before, done, frame⟩ := Option.bind_eq_some_iff.mp executed
  obtain ⟨after, taken, -⟩ := execute_cons_eq_some frame
  have found : before.isAlive = true := by
    rw [step] at taken
    split at taken
    next lives => exact lives
    next => cases taken
  rw [last, ← found, (follows_of_execute done).2.2]
  simp [lastTurn]

def goomba : CaptureName where
  octets := [0x4b, 0x75, 0x72, 0x69, 0x62, 0x6f]
  nonempty := by decide
  text := by decide
  short := by decide

-----------------------------------------------------------------------------------------
-- What is alive behind any frames
-----------------------------------------------------------------------------------------

/-- While the puppet is in the stage one model is alive, what its entries show, and while it is not
there none is; neither is then its cap.
-/
theorem one_model_alive {events : List PuppetFrame}
    (executed : execute step (initial captures) events = some puppet)
    : puppet.isAlive = lastTurn events
      ∧ (∀ model,
          puppet.alive model = true
          ↔ lastTurn events = true ∧ model = ModelInfo.shown captures (entriesOf events))
      ∧ (puppet.mPuppetCap = true → lastTurn events = true) := by
  obtain ⟨shows, follows, stage⟩ := follows_of_execute executed
  rw [← stage, ← getCurrentModel_eq_shown follows]
  exact ⟨rfl, shows.models, shows.cap⟩

/-- A frog and a goomba. -/
def frogAndGoomba : HackModelHolder :=
  let frogOnly :=
    ((HackModelHolder.initial fun _ => 0).addCapture (Tracked.actorNumbered 0x18 (by decide))
      Tracked.frog).1
  (frogOnly.addCapture (Tracked.actorNumbered 0x28 (by decide)) goomba).1

/-- A player that is flat and captures a frog is shown as the frog. -/
theorem one_model_alive_frog
    : ∃ puppet,
        execute step (initial frogAndGoomba)
            [.update true, .control { is2D := true },
              .control { is2D := true, isCaptured := true, curHack := Tracked.frog.octets }]
          = some puppet
        ∧ ∀ model,
            puppet.alive model = true ↔ model = .capture [0x18, 0, 0, 0, 0, 0, 0, 0] := by
  have executed
      : (execute step (initial frogAndGoomba)
          [.update true, .control { is2D := true },
            .control
              { is2D := true, isCaptured := true, curHack := Tracked.frog.octets }]).isSome := by
    decide +kernel
  obtain ⟨puppet, executed⟩ := Option.isSome_iff_exists.mp executed
  refine ⟨puppet, executed, fun model => ((one_model_alive executed).2.1 model).trans ?_⟩
  have there
      : lastTurn
          [.update true, .control { is2D := true },
            .control { is2D := true, isCaptured := true, curHack := Tracked.frog.octets }] := rfl
  have shown
      : ModelInfo.shown frogAndGoomba
          (entriesOf
            [.update true, .control { is2D := true },
              .control { is2D := true, isCaptured := true, curHack := Tracked.frog.octets }])
        = .capture [0x18, 0, 0, 0, 0, 0, 0, 0] := by
    decide +kernel
  rw [there, shown, and_iff_right rfl]

/-- A frame shows what its entry wants exactly when no other capture goes on than the one that
began, and the player is not flat again behind a capture.
-/
theorem wanted_alone_iff {events : List PuppetFrame} {mInfo : ModelInfo}
    (executed : execute step (initial captures) (events ++ [.control mInfo]) = some puppet)
    : (∀ model, puppet.alive model = true ↔ model = mInfo.wanted captures)
      ↔ (mInfo.isCaptured = true
          → captures.getCapture (mInfo.captureBegan (entriesOf events)).curHack
            = captures.getCapture mInfo.curHack)
        ∧ (mInfo.isCaptured = false ∨ captures.getCapture mInfo.curHack = nullPtr
            → mInfo.is2D = true
            → mInfo.leftFlat (entriesOf events) = false) := by
  obtain ⟨shows, follows, -⟩ := follows_of_execute executed
  have entries : entriesOf (events ++ [.control mInfo]) = mInfo :: entriesOf events := by
    simp [entriesOf]
  rw [entries] at follows
  rw [← shown_eq_wanted_iff, ← getCurrentModel_eq_shown follows]
  have lives := isAlive_of_control executed
  constructor
  · intro alone
    exact (alone _).mp ((shows.models _).mpr ⟨lives, rfl⟩)
  · intro same model
    rw [shows.models, lives, ← same, and_iff_right rfl]

/-- A player that captures a frog is shown as it, and as the frog still when it goes from there to
the next capture.
-/
theorem wanted_alone_iff_goomba
    : (∃ puppet,
        execute step (initial frogAndGoomba)
            ([.update true] ++ [.control { isCaptured := true, curHack := Tracked.frog.octets }])
          = some puppet
        ∧ ∀ model,
            puppet.alive model = true ↔ model = .capture [0x18, 0, 0, 0, 0, 0, 0, 0])
      ∧ ∃ puppet,
        execute step (initial frogAndGoomba)
            ([.update true, .control { isCaptured := true, curHack := Tracked.frog.octets }]
              ++ [.control { isCaptured := true, curHack := goomba.octets }])
          = some puppet
        ∧ ¬∀ model,
            puppet.alive model = true ↔ model = .capture [0x28, 0, 0, 0, 0, 0, 0, 0] := by
  constructor
  · have executed
        : (execute step (initial frogAndGoomba)
            ([.update true]
              ++ [.control { isCaptured := true, curHack := Tracked.frog.octets }])).isSome := by
      decide +kernel
    obtain ⟨puppet, executed⟩ := Option.isSome_iff_exists.mp executed
    have wanted
        : ModelInfo.wanted frogAndGoomba { isCaptured := true, curHack := Tracked.frog.octets }
          = .capture [0x18, 0, 0, 0, 0, 0, 0, 0] := by
      decide +kernel
    refine ⟨puppet, executed, wanted ▸ (wanted_alone_iff executed).mpr ⟨fun _ => ?_, ?_⟩⟩
    · decide +kernel
    · decide +kernel
  have executed
      : (execute step (initial frogAndGoomba)
          ([.update true, .control { isCaptured := true, curHack := Tracked.frog.octets }]
            ++ [.control { isCaptured := true, curHack := goomba.octets }])).isSome := by
    decide +kernel
  obtain ⟨puppet, executed⟩ := Option.isSome_iff_exists.mp executed
  refine ⟨puppet, executed, fun alone => ?_⟩
  have wanted
      : ModelInfo.wanted frogAndGoomba { isCaptured := true, curHack := goomba.octets }
        = .capture [0x28, 0, 0, 0, 0, 0, 0, 0] := by
    decide +kernel
  have same := ((wanted_alone_iff executed).mp (wanted ▸ alone)).1 rfl
  exact absurd same (by decide +kernel)

end PuppetModels

end SmoOnline.Mod
