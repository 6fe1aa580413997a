import Mathlib.Data.List.Basic
import SmoOnline.Mod.CollectedShines

/-! How a game takes over the moons of other players. The read thread writes into the buffer while
the loop of `updateShines` passes through it; a moon that is written behind the loop is cleared with
the rest at its end.
-/

namespace SmoOnline.Mod

open Runs

-----------------------------------------------------------------------------------------
-- What the game's engine does
-----------------------------------------------------------------------------------------

/-- The actor of a moon. The hints of the save are given by their ids. -/
structure Shine (hints : List Int32) where
  mShineIdx : Fin hints.length
  /-- which of the actors it is -/
  actor : Nat
  deriving DecidableEq

/-- `getHintInfoByIndex(..)->mUniqueID`. -/
def Shine.mUniqueID {hints : List Int32} (shine : Shine hints) : Int32 :=
  hints.get shine.mShineIdx

/-- What is called of the engine, over its own state: the save and the actors with their marks. -/
structure MoonEngine (hints : List Int32) where
  World : Type
  /-- `GameDataFunction::isGotShine` of a hint -/
  isGotShine : World → Int32 → Bool
  /-- `setGotShine` of the save, of a hint or of what an actor knows of its moon -/
  setGotShine : World → Int32 → World
  /-- `Shine::isGot` -/
  isGot : World → Shine hints → Bool
  isDead : World → Shine hints → Bool
  makeActorAlive : World → Shine hints → World
  /-- `Shine::getDirect` up to the patched call, whether it comes to that, and behind it -/
  beforeHook : World → Shine hints → World
  reachesHook : World → Shine hints → Bool
  afterHook : World → Shine hints → World
  onSwitchGet : World → Shine hints → World

/-- What the code relies on: a moon that is set is got, an actor counts as got when its moon is, and
what is done to an actor leaves the save alone.
-/
structure MoonEngine.Lawful {hints : List Int32} (engine : MoonEngine hints) : Prop where
  setGotShine
    : ∀ world shineId other,
        engine.isGotShine (engine.setGotShine world shineId) other = true
        ↔ other = shineId ∨ engine.isGotShine world other = true
  isGot : ∀ world shine, engine.isGot world shine = engine.isGotShine world shine.mUniqueID
  makeActorAlive
    : ∀ world shine, engine.isGotShine (engine.makeActorAlive world shine) = engine.isGotShine world
  beforeHook
    : ∀ world shine, engine.isGotShine (engine.beforeHook world shine) = engine.isGotShine world
  afterHook
    : ∀ world shine, engine.isGotShine (engine.afterHook world shine) = engine.isGotShine world
  onSwitchGet
    : ∀ world shine, engine.isGotShine (engine.onSwitchGet world shine) = engine.isGotShine world

-----------------------------------------------------------------------------------------
-- The moons of a game
-----------------------------------------------------------------------------------------

/-- What a game knows of moons. -/
structure MoonGame {hints : List Int32} (engine : MoonEngine hints) where
  world : engine.World
  shines : CollectedShines := .reset
  /-- where the loop of `updateShines` is -/
  cursor : Option Nat := none
  mShineArray : List (Shine hints) := []
  lastCollectedShine : Int32 := -1
  /-- the packets given to the socket -/
  queued : List Int32 := []
  mStageName : String := ""
  mScenario : Int := 0

namespace MoonGame

/-- The buffer of `mShineArray`. -/
def maxShineActors : Nat := 100

variable {hints : List Int32} {engine : MoonEngine hints} (game : MoonGame engine)

/-- The save has the moon. -/
def Got (shineId : Int32) : Prop := engine.isGotShine game.world shineId = true

instance (shineId : Int32) : Decidable (game.Got shineId) := inferInstanceAs (Decidable (_ = _))

/-- `getShineID` -/
def getShineID (index : Nat) : Int32 := game.shines.curCollectedShines.getD index (-1)

def setWorld (world : engine.World) : MoonGame engine := { game with world }

/-- `setGotShine` of the save. -/
def setGotShine (shineId : Int32) : MoonGame engine :=
  game.setWorld (engine.setGotShine game.world shineId)

def sendShineCollectPacket (shineID : Int32) : MoonGame engine :=
  if game.lastCollectedShine ≠ shineID then
    { game with
      lastCollectedShine := shineID
      queued := game.queued ++ [shineID] }
  else game

/-- The hook in each of the ways in which the game gets a moon. -/
def sendShinePacket (curShine : Shine hints) : MoonGame engine :=
  (if engine.isGot game.world curShine then game
    else game.sendShineCollectPacket curShine.mUniqueID).setGotShine curShine.mUniqueID

/-- `tryRegisterShine`, called by `registerShineToList`. -/
def tryRegisterShine (shine : Shine hints) : MoonGame engine :=
  if game.mShineArray.length < maxShineActors then
    if engine.isGot game.world shine then game
    else { game with mShineArray := game.mShineArray ++ [shine] }
  else game

def findStageShine (shineID : Int32) : Option (Shine hints) :=
  game.mShineArray.find? fun curShine => curShine.mUniqueID = shineID

/-- `Shine::getDirect`, one of the functions that are patched to call the hook. -/
def getDirect (stageShine : Shine hints) : MoonGame engine :=
  let before := game.setWorld (engine.beforeHook game.world stageShine)
  let hooked :=
    if engine.reachesHook before.world stageShine then before.sendShinePacket stageShine
    else before
  hooked.setWorld (engine.afterHook hooked.world stageShine)

/-- The stage's actor of a moon is got. -/
def getStageShine (stageShine : Shine hints) : MoonGame engine :=
  let alive :=
    if engine.isDead game.world stageShine then
      game.setWorld (engine.makeActorAlive game.world stageShine)
    else game
  let direct := alive.getDirect stageShine
  direct.setWorld (engine.onSwitchGet direct.world stageShine)

/-- One turn of the loop of `updateShines`. -/
def updateShine (index : Nat) : MoonGame engine :=
  let shineID := game.getShineID index
  if shineID < 0 then game
  -- `findShine` of the save
  else if shineID ∉ hints then game
  else if engine.isGotShine game.world shineID then game
  else ((game.findStageShine shineID).elim game game.getStageShine).setGotShine shineID

/-- Shines are not synced at the very start of the game. -/
def skipsSync : Bool :=
  game.mStageName = "CapWorldHomeStage" && (game.mScenario = 0 || game.mScenario = 1)

end MoonGame

-----------------------------------------------------------------------------------------
-- The threads
-----------------------------------------------------------------------------------------

inductive MoonEvent {hints : List Int32} (engine : MoonEngine hints)
  /-- the read thread: `updateShineInfo` -/
  | receive (shineId : Int32)
  /-- a frame: `updateShines` begins where it is needed -/
  | update
  | visit
  /-- the end of the loop: `resetCollectedShines` -/
  | finish
  /-- the player gets a moon, which comes to the hook -/
  | collect (shine : Shine hints)
  | registerShine (shine : Shine hints)
  /-- `stageInitHook` and `setSceneInfo` -/
  | enterStage (mStageName : String) (mScenario : Int)
  /-- what the engine does on its own; it may load another save -/
  | engine (world : engine.World)

namespace MoonGame

variable {hints : List Int32} {engine : MoonEngine hints} (game : MoonGame engine)

/-- The main thread is not inside `updateShines`. -/
def whenIdle (next : MoonGame engine) : Option (MoonGame engine) :=
  if game.cursor = none then some next else none

def step : MoonEvent engine → Option (MoonGame engine)
  | .receive shineId => some { game with shines := game.shines.updateShineInfo shineId }
  | .update =>
      game.whenIdle
        (if game.shines.isNeedUpdateShines && !game.skipsSync then { game with cursor := some 0 }
        else game)
  | .visit =>
      match game.cursor with
      | none => none
      | some index =>
          if index < maxCollectedShines then
            some { game.updateShine index with cursor := some (index + 1) }
          else none
  | .finish =>
      if game.cursor = some maxCollectedShines then
        some { game with shines := .reset, cursor := none }
      else none
  | .collect shine => game.whenIdle (game.sendShinePacket shine)
  | .registerShine shine => game.whenIdle (game.tryRegisterShine shine)
  | .enterStage mStageName mScenario =>
      game.whenIdle { game with mShineArray := [], mStageName, mScenario }
  | .engine world => game.whenIdle (game.setWorld world)

/-- A game whose save is loaded, before anything was received. -/
def initial (engine : MoonEngine hints) (world : engine.World) : MoonGame engine := { world }

end MoonGame

-----------------------------------------------------------------------------------------
-- What one step does to the save and the buffer
-----------------------------------------------------------------------------------------

namespace MoonGame

variable {hints : List Int32} {engine : MoonEngine hints} {game next : MoonGame engine}
  {shineId other : Int32} {shine : Shine hints} {world : engine.World}

/-- Where the save has the same moons, the same are got. -/
theorem got_setWorld (same : engine.isGotShine world = engine.isGotShine game.world)
    : (game.setWorld world).Got other ↔ game.Got other := by
  rw [Got, Got, setWorld, same]

theorem got_setGotShine (lawful : engine.Lawful)
    : (game.setGotShine shineId).Got other ↔ other = shineId ∨ game.Got other :=
  lawful.setGotShine game.world shineId other

/-- Whether the moon is sent is seen neither in the save nor in the buffer. -/
theorem rest_sendShineCollectPacket
    : (game.sendShineCollectPacket shineId).world = game.world
      ∧ (game.sendShineCollectPacket shineId).shines = game.shines
      ∧ (game.sendShineCollectPacket shineId).cursor = game.cursor := by
  unfold sendShineCollectPacket
  split_ifs <;> exact ⟨rfl, rfl, rfl⟩

theorem got_sendShinePacket (lawful : engine.Lawful)
    : (game.sendShinePacket shine).Got other ↔ other = shine.mUniqueID ∨ game.Got other := by
  rw [sendShinePacket, got_setGotShine lawful]
  split_ifs
  · rfl
  · rw [Got, Got, rest_sendShineCollectPacket.1]

theorem rest_sendShinePacket
    : (game.sendShinePacket shine).shines = game.shines
      ∧ (game.sendShinePacket shine).cursor = game.cursor := by
  unfold sendShinePacket
  split_ifs
  · exact ⟨rfl, rfl⟩
  · exact rest_sendShineCollectPacket.2

theorem rest_getDirect
    : (game.getDirect shine).shines = game.shines
      ∧ (game.getDirect shine).cursor = game.cursor := by
  unfold getDirect
  dsimp only
  split_ifs
  · exact rest_sendShinePacket
  · exact ⟨rfl, rfl⟩

theorem rest_getStageShine
    : (game.getStageShine shine).shines = game.shines
      ∧ (game.getStageShine shine).cursor = game.cursor := by
  unfold getStageShine
  dsimp only
  split_ifs <;> exact rest_getDirect

/-- An actor that is got directly comes to the hook or not; no other moon is got. -/
theorem got_getDirect (lawful : engine.Lawful)
    : ((game.getDirect shine).Got other → other = shine.mUniqueID ∨ game.Got other)
      ∧ (game.Got other → (game.getDirect shine).Got other) := by
  have before : (game.setWorld (engine.beforeHook game.world shine)).Got other ↔ game.Got other :=
    got_setWorld (lawful.beforeHook game.world shine)
  unfold getDirect
  dsimp only
  rw [got_setWorld (lawful.afterHook _ shine)]
  split_ifs
  · rw [got_sendShinePacket lawful, before]
    exact ⟨id, .inr⟩
  · rw [before]
    exact ⟨.inr, id⟩

theorem got_getStageShine (lawful : engine.Lawful)
    : ((game.getStageShine shine).Got other → other = shine.mUniqueID ∨ game.Got other)
      ∧ (game.Got other → (game.getStageShine shine).Got other) := by
  unfold getStageShine
  dsimp only
  rw [got_setWorld (lawful.onSwitchGet _ shine)]
  split_ifs
  · have alive
        : (game.setWorld (engine.makeActorAlive game.world shine)).Got other ↔ game.Got other :=
      got_setWorld (lawful.makeActorAlive game.world shine)
    rw [← alive]
    exact got_getDirect lawful
  · exact got_getDirect lawful

/-- The actor that is found is one of the moon. -/
theorem mUniqueID_of_found (found : game.findStageShine shineId = some shine)
    : shine.mUniqueID = shineId :=
  of_decide_eq_true
    (@List.find?_some _ (fun curShine : Shine hints => curShine.mUniqueID = shineId) _ _ found)

/-- A turn takes over the moon that it finds in the buffer, if the save has a hint of it. -/
theorem got_updateShine (lawful : engine.Lawful) {index : Nat}
    : (game.updateShine index).Got other
      ↔ game.Got other
        ∨ (other = game.getShineID index ∧ ¬game.getShineID index < 0
            ∧ game.getShineID index ∈ hints) := by
  unfold updateShine
  dsimp only
  split
  · next negative => exact ⟨.inl, Or.rec id fun taken => absurd negative taken.2.1⟩
  split
  · next unknown => exact ⟨.inl, Or.rec id fun taken => absurd taken.2.2 unknown⟩
  split
  · next present => exact ⟨.inl, Or.rec id fun taken => taken.1 ▸ present⟩
  · next nonneg known _ =>
      rw [got_setGotShine lawful]
      cases found : game.findStageShine (game.getShineID index) with
      | none =>
          rw [Option.elim_none]
          grind
      | some shine =>
          have is := mUniqueID_of_found found
          have direct := @got_getStageShine _ _ game other shine lawful
          rw [is] at direct
          rw [Option.elim_some]
          grind

theorem rest_updateShine {index : Nat} : (game.updateShine index).shines = game.shines := by
  unfold updateShine
  dsimp only
  cases game.findStageShine (game.getShineID index) with
  | none => split_ifs <;> rfl
  | some shine =>
      split_ifs
      · rfl
      · rfl
      · exact rest_getStageShine.1
      · rfl

end MoonGame

-----------------------------------------------------------------------------------------
-- The buffer behind its count
-----------------------------------------------------------------------------------------

namespace CollectedShines

/-- The entries from the count on are empty, and the last one is never written to. -/
structure Filled (shines : CollectedShines) : Prop where
  lower : 0 ≤ shines.collectedShineCount
  upper : shines.collectedShineCount ≤ maxCollectedShines - 1
  free : ∀ index, shines.collectedShineCount ≤ (index : Nat) → index < maxCollectedShines →
    shines.curCollectedShines[index]? = some (-1)

variable {shines : CollectedShines} {shineId other : Int32}

theorem filled_reset : reset.Filled where
  lower := by decide
  upper := by decide
  free index _ inside := by
    rw [reset, List.getElem?_replicate, if_pos inside]

/-- Where the next moon is written. -/
theorem Filled.slot (filled : shines.Filled)
    : slot shines.collectedShineCount = shines.collectedShineCount.toNat := by
  have := filled.lower
  have := filled.upper
  rw [CollectedShines.slot, if_pos ⟨filled.lower, by omega⟩]

theorem Filled.updateShineInfo (filled : shines.Filled)
    : (shines.updateShineInfo shineId).Filled := by
  unfold CollectedShines.updateShineInfo
  have := filled.lower
  split_ifs with room
  · refine ⟨by dsimp only; omega, by dsimp only; omega, fun index behind inside => ?_⟩
    dsimp only at behind ⊢
    rw [filled.slot, List.getElem?_set_ne (by omega)]
    exact filled.free index (by omega) inside
  · exact filled

/-- The moons that the loop has still to come to, with one more written into the buffer. -/
theorem Filled.mem_drop_updateShineInfo (filled : shines.Filled) (nonneg : ¬other < 0)
    (cursor : Nat)
    : other ∈ (shines.updateShineInfo shineId).curCollectedShines.drop cursor
      ↔ other ∈ shines.curCollectedShines.drop cursor
        ∨ (other = shineId ∧ shines.collectedShineCount < maxCollectedShines - 1
            ∧ (cursor : Int) ≤ shines.collectedShineCount) := by
  have := filled.lower
  have sized := shines.sized
  unfold CollectedShines.updateShineInfo
  split_ifs with room
  · dsimp only
    rw [filled.slot, List.drop_set]
    split_ifs with passed
    · simp only [room, true_and, iff_self_or]
      omega
    · simp only [room, true_and]
      constructor
      · intro member
        exact (List.mem_or_eq_of_mem_set member).imp_right fun same => ⟨same, by omega⟩
      · rintro (member | ⟨rfl, _⟩)
        · obtain ⟨index, found⟩ := List.mem_iff_getElem?.mp member
          refine List.mem_iff_getElem?.mpr ⟨index, ?_⟩
          rw [List.getElem?_set_ne, found]
          rintro rfl
          -- the entry that is overwritten is empty
          rw [List.getElem?_drop, Nat.add_sub_cancel' (by omega)] at found
          rw [filled.free _ (by omega) (by omega), Option.some.injEq] at found
          rw [← found] at nonneg
          exact nonneg (by decide)
        · exact List.mem_set (by rw [List.length_drop]; omega) _
  · simp [room]

end CollectedShines

-----------------------------------------------------------------------------------------
-- One update
-----------------------------------------------------------------------------------------

/-- What happens while the loop runs: its own turns, and what the read thread writes. -/
def MoonEvent.duringUpdate {hints : List Int32} {engine : MoonEngine hints}
    : MoonEvent engine → Prop
  | .receive _ | .visit => True
  | _ => False

/-- The moons that are written into the buffer in front of the loop, from where the loop and the
count stand.
-/
def landed {hints : List Int32} {engine : MoonEngine hints} (cursor : Nat) (count : Int)
    : List (MoonEvent engine) → List Int32
  | [] => []
  | .receive shineId :: rest =>
      if count < maxCollectedShines - 1 then
        if (cursor : Int) ≤ count then shineId :: landed cursor (count + 1) rest
        else landed cursor (count + 1) rest
      else landed cursor count rest
  | .visit :: rest => landed (cursor + 1) count rest
  | _ :: rest => landed cursor count rest

namespace MoonGame

section

variable {hints : List Int32} {engine : MoonEngine hints} {game next : MoonGame engine}
  {shineId : Int32}

theorem visit_cases (taken : game.step .visit = some next)
    : ∃ index,
        game.cursor = some index
        ∧ index < maxCollectedShines
        ∧ next = { game.updateShine index with cursor := some (index + 1) } := by
  rw [step] at taken
  split at taken
  · cases taken
  · next index running =>
      split_ifs at taken with inside
      exact ⟨index, running, inside, (Option.some.inj taken).symm⟩

/-- An event that is taken outside of the loop comes to its effect. -/
theorem whenIdle_cases {effect : MoonGame engine} (taken : game.whenIdle effect = some next)
    : game.cursor = none ∧ next = effect := by
  rw [whenIdle] at taken
  split_ifs at taken with idle
  exact ⟨idle, (Option.some.inj taken).symm⟩

theorem finish_cases (taken : game.step .finish = some next)
    : game.cursor = some maxCollectedShines
      ∧ next = { game with shines := .reset, cursor := none } := by
  rw [step] at taken
  split_ifs at taken with ended
  exact ⟨ended, (Option.some.inj taken).symm⟩

theorem filled_step {event : MoonEvent engine} (filled : game.shines.Filled)
    (taken : game.step event = some next)
    : next.shines.Filled := by
  cases event with
  | receive shineId =>
      obtain rfl := Option.some.inj taken
      exact filled.updateShineInfo
  | update =>
      obtain ⟨_, rfl⟩ := whenIdle_cases taken
      split_ifs <;> exact filled
  | visit =>
      obtain ⟨index, _, _, rfl⟩ := visit_cases taken
      dsimp only
      rw [rest_updateShine]
      exact filled
  | finish =>
      obtain ⟨_, rfl⟩ := finish_cases taken
      exact CollectedShines.filled_reset
  | collect shine =>
      obtain ⟨_, rfl⟩ := whenIdle_cases taken
      rw [rest_sendShinePacket.1]
      exact filled
  | registerShine shine =>
      obtain ⟨_, rfl⟩ := whenIdle_cases taken
      unfold tryRegisterShine
      split_ifs <;> exact filled
  | enterStage mStageName mScenario =>
      obtain ⟨_, rfl⟩ := whenIdle_cases taken
      exact filled
  | engine world =>
      obtain ⟨_, rfl⟩ := whenIdle_cases taken
      exact filled

theorem filled_of_run {world : engine.World} {events : List (MoonEvent engine)}
    (run : AnyRun step (initial engine world) events game)
    : game.shines.Filled := by
  induction run with
  | nil => exact CollectedShines.filled_reset
  | snoc _ _ taken ih => exact filled_step ih taken

/-- The entry that the loop comes to next. -/
theorem drop_cursor {index : Nat} (inside : index < maxCollectedShines)
    : game.shines.curCollectedShines.drop index
      = game.getShineID index :: game.shines.curCollectedShines.drop (index + 1) := by
  have bound : index < game.shines.curCollectedShines.length := by rwa [game.shines.sized]
  rw [getShineID, List.getD_eq_getElem?_getD, List.getElem?_eq_getElem bound]
  exact List.drop_eq_getElem_cons bound

/-- A moon that the loop comes to is taken over, by induction on what happens until its end. -/
theorem got_of_update (lawful : engine.Lawful) {events : List (MoonEvent engine)} {cursor : Nat}
    (during : ∀ event ∈ events, event.duringUpdate) (filled : game.shines.Filled)
    (running : game.cursor = some cursor) (nonneg : ¬shineId < 0) (known : shineId ∈ hints)
    (executed : execute step game (events ++ [.finish]) = some next)
    : next.Got shineId
      ↔ game.Got shineId
        ∨ shineId ∈ game.shines.curCollectedShines.drop cursor
        ∨ shineId ∈ landed cursor game.shines.collectedShineCount events := by
  induction events generalizing game cursor with
  | nil =>
      obtain ⟨after, taken, same⟩ := execute_cons_eq_some executed
      obtain rfl := Option.some.inj same
      obtain ⟨ended, rfl⟩ := finish_cases taken
      obtain rfl := Option.some.inj (running.symm.trans ended)
      rw [List.drop_of_length_le (Nat.le_of_eq game.shines.sized)]
      simp [landed, Got]
  | cons event events ih =>
      obtain ⟨middle, taken, rest⟩ := execute_cons_eq_some executed
      have later := fun event member => during event (List.mem_cons_of_mem _ member)
      have filledMiddle := filled_step filled taken
      cases event with
      | receive received =>
          obtain rfl := Option.some.inj taken
          have same
              : ({ game with shines := game.shines.updateShineInfo received }
                  : MoonGame engine).Got shineId ↔ game.Got shineId := Iff.rfl
          rw [ih later filledMiddle running rest, same, filled.mem_drop_updateShineInfo nonneg,
            landed, CollectedShines.updateShineInfo]
          split_ifs with room ahead
          · rw [List.mem_cons]
            grind
          · grind
          · grind
      | visit =>
          obtain ⟨index, ran, inside, rfl⟩ := visit_cases taken
          obtain rfl := Option.some.inj (running.symm.trans ran)
          have turned
              : ({ game.updateShine cursor with cursor := some (cursor + 1) }
                  : MoonGame engine).Got shineId ↔ _ := got_updateShine lawful
          rw [ih later filledMiddle rfl rest, turned]
          dsimp only
          rw [rest_updateShine, drop_cursor inside, List.mem_cons, landed]
          have taken : shineId = game.getShineID cursor
              → ¬game.getShineID cursor < 0 ∧ game.getShineID cursor ∈ hints :=
            fun same => same ▸ ⟨nonneg, known⟩
          grind
      | _ => exact absurd (during _ List.mem_cons_self) id

end

/-- Of the moons that the save has hints of, an update takes over those that the loop still has to
come to and those that are written in front of it meanwhile. What is written behind it is lost.
-/
theorem update_takes_over {hints : List Int32} {engine : MoonEngine hints}
    (lawful : engine.Lawful) {world : engine.World} {before during : List (MoonEvent engine)}
    {game next : MoonGame engine} {shineId : Int32}
    (run : AnyRun step (initial engine world) before game) (begun : game.cursor = some 0)
    (loop : ∀ event ∈ during, event.duringUpdate) (nonneg : ¬shineId < 0) (known : shineId ∈ hints)
    (executed : execute step game (during ++ [.finish]) = some next)
    : (next.Got shineId
        ↔ game.Got shineId
          ∨ shineId ∈ game.shines.curCollectedShines
          ∨ shineId ∈ landed 0 game.shines.collectedShineCount during)
      ∧ shineId ∉ next.shines.curCollectedShines := by
  refine ⟨got_of_update lawful loop (filled_of_run run) begun nonneg known executed, ?_⟩
  rw [execute_append] at executed
  obtain ⟨middle, _, last⟩ := Option.bind_eq_some_iff.mp executed
  obtain ⟨after, taken, same⟩ := execute_cons_eq_some last
  obtain rfl := Option.some.inj same
  obtain ⟨_, rfl⟩ := finish_cases taken
  intro waits
  obtain rfl := List.eq_of_mem_replicate waits
  exact nonneg (by decide)

/-- An engine whose state is the list of the moons that are got. -/
def listEngine (hints : List Int32) : MoonEngine hints where
  World := List Int32
  isGotShine got shineId := shineId ∈ got
  setGotShine got shineId := if shineId ∈ got then got else shineId :: got
  isGot got shine := shine.mUniqueID ∈ got
  isDead _ _ := false
  makeActorAlive got _ := got
  beforeHook got _ := got
  reachesHook _ _ := true
  afterHook got _ := got
  onSwitchGet got _ := got

theorem lawful_listEngine (hints : List Int32) : (listEngine hints).Lawful where
  setGotShine (got : List Int32) shineId other := by
    simp only [listEngine, decide_eq_true_eq]
    by_cases present : shineId ∈ got
    · rw [if_pos present]
      refine ⟨.inr, ?_⟩
      rintro (rfl | before)
      · exact present
      · exact before
    · rw [if_neg present]
      exact List.mem_cons
  isGot _ _ := rfl
  makeActorAlive _ _ := rfl
  beforeHook _ _ := rfl
  afterHook _ _ := rfl
  onSwitchGet _ _ := rfl

/-- One moon waits, one comes in when the loop has made some turns. -/
def receivedDuring (turns : Nat) : List (MoonEvent (listEngine [5, 9])) :=
  List.replicate turns .visit ++ [.receive 9] ++ List.replicate (maxCollectedShines - turns) .visit

/-- The second moon is taken over behind one turn, but not behind two. -/
theorem update_takes_over_turns
    : ∃ game early late,
        AnyRun step (initial (listEngine [5, 9]) []) [.receive 5, .update] game
        ∧ execute step game (receivedDuring 1 ++ [.finish]) = some early
        ∧ execute step game (receivedDuring 2 ++ [.finish]) = some late
        ∧ early.Got 9
        ∧ ¬late.Got 9 := by
  obtain ⟨game, run, ⟨begun, unknown, empty⟩, ahead, behind, first, second⟩ :=
    @exists_run _ _ step (initial (listEngine [5, 9]) []) [.receive 5, .update]
      (fun game =>
        (game.cursor = some 0 ∧ ¬game.Got 9 ∧ 9 ∉ game.shines.curCollectedShines)
        ∧ 9 ∈ landed 0 game.shines.collectedShineCount (receivedDuring 1)
        ∧ 9 ∉ landed 0 game.shines.collectedShineCount (receivedDuring 2)
        ∧ (execute step game (receivedDuring 1 ++ [.finish])).isSome
        ∧ (execute step game (receivedDuring 2 ++ [.finish])).isSome)
      inferInstance (by decide +kernel)
  obtain ⟨early, executed⟩ := Option.isSome_iff_exists.mp first
  obtain ⟨late, executedLate⟩ := Option.isSome_iff_exists.mp second
  have loop (turns : Nat) : ∀ event ∈ receivedDuring turns, event.duringUpdate := by
    intro event member
    simp only [receivedDuring, List.mem_append, List.mem_replicate, List.mem_singleton] at member
    rcases member with (⟨_, rfl⟩ | rfl) | ⟨_, rfl⟩ <;> exact trivial
  have taken :=
    (@update_takes_over _ _ (lawful_listEngine _) _ _ _ _ _ 9 run begun (loop 1) (by decide)
      (by decide) executed).1
  have lost :=
    (@update_takes_over _ _ (lawful_listEngine _) _ _ _ _ _ 9 run begun (loop 2) (by decide)
      (by decide) executedLate).1
  refine ⟨game, early, late, run, executed, executedLate, taken.mpr (.inr (.inr ahead)), ?_⟩
  exact fun got => (lost.mp got).elim unknown (Or.rec empty behind)

-----------------------------------------------------------------------------------------
-- Moons that were received
-----------------------------------------------------------------------------------------

section

variable {hints : List Int32} {engine : MoonEngine hints} {game next : MoonGame engine}
  {shineId : Int32}

/-- The moons that the next update comes to, or the one that runs. -/
def waiting (game : MoonGame engine) : List Int32 :=
  game.shines.curCollectedShines.drop (game.cursor.getD 0)

/-- A moon is received while the buffer has room and the loop has not passed its entry; and the
engine leaves what is got as it is.
-/
def Attentive (game : MoonGame engine) : MoonEvent engine → Prop
  | .receive _ =>
      game.shines.collectedShineCount < maxCollectedShines - 1
      ∧ ((game.cursor.getD 0 : Nat) : Int) ≤ game.shines.collectedShineCount
  | .engine world => engine.isGotShine world = engine.isGotShine game.world
  | _ => True

/-- Moons that the save has hints of and that were received are got or waiting. -/
def KeepsReceived (events : List (MoonEvent engine)) (game : MoonGame engine) : Prop :=
  ∀ shineId, .receive shineId ∈ events → ¬shineId < 0 → shineId ∈ hints
    → game.Got shineId ∨ shineId ∈ game.waiting

/-- A moon that is got or waiting is so behind every attentive step. -/
theorem kept_step (lawful : engine.Lawful) {event : MoonEvent engine}
    (filled : game.shines.Filled) (attentive : game.Attentive event) (nonneg : ¬shineId < 0)
    (known : shineId ∈ hints) (kept : game.Got shineId ∨ shineId ∈ game.waiting)
    (taken : game.step event = some next)
    : next.Got shineId ∨ shineId ∈ next.waiting := by
  cases event with
  | receive received =>
      obtain rfl := Option.some.inj taken
      refine kept.imp_right fun waits => ?_
      exact (filled.mem_drop_updateShineInfo nonneg _).mpr (.inl waits)
  | update =>
      obtain ⟨idle, rfl⟩ := whenIdle_cases taken
      rw [waiting, idle] at kept
      split_ifs
      · exact kept
      · rw [waiting, idle]
        exact kept
  | visit =>
      obtain ⟨index, running, inside, rfl⟩ := visit_cases taken
      rw [waiting, running, Option.getD_some, drop_cursor inside, List.mem_cons] at kept
      have turned
          : ({ game.updateShine index with cursor := some (index + 1) }
              : MoonGame engine).Got shineId ↔ _ := got_updateShine lawful
      rw [turned, waiting]
      dsimp only [Option.getD_some]
      rw [rest_updateShine]
      have taken : shineId = game.getShineID index
          → ¬game.getShineID index < 0 ∧ game.getShineID index ∈ hints :=
        fun same => same ▸ ⟨nonneg, known⟩
      grind
  | finish =>
      obtain ⟨ended, rfl⟩ := finish_cases taken
      refine .inl (kept.resolve_right fun waits => ?_)
      rw [waiting, ended, Option.getD_some,
        List.drop_of_length_le (Nat.le_of_eq game.shines.sized)] at waits
      cases waits
  | collect shine =>
      obtain ⟨idle, rfl⟩ := whenIdle_cases taken
      rw [got_sendShinePacket lawful, waiting, rest_sendShinePacket.1, rest_sendShinePacket.2]
      exact kept.imp_left .inr
  | registerShine shine =>
      obtain ⟨idle, rfl⟩ := whenIdle_cases taken
      unfold tryRegisterShine
      split_ifs <;> exact kept
  | enterStage mStageName mScenario =>
      obtain ⟨idle, rfl⟩ := whenIdle_cases taken
      exact kept
  | engine world =>
      obtain ⟨idle, rfl⟩ := whenIdle_cases taken
      rw [got_setWorld attentive]
      exact kept

end

/-- In every run in which moons are received in front of the loop and into a buffer with room, each
moon that was received and that the save has a hint of is got, or is waiting for the loop.
-/
theorem received_moons_kept {hints : List Int32} {engine : MoonEngine hints}
    (lawful : engine.Lawful) {world : engine.World} {events : List (MoonEvent engine)}
    {game : MoonGame engine} (run : Run step Attentive (initial engine world) events game)
    : KeepsReceived events game := by
  induction run with
  | nil => exact fun _ never => by cases never
  | @snoc events game event next before attentive taken ih =>
      intro shineId member nonneg known
      have filled := filled_of_run (before.mono fun _ => trivial)
      rcases List.mem_append.mp member with earlier | new
      · exact kept_step lawful filled attentive nonneg known (ih shineId earlier nonneg known)
          taken
      · obtain rfl := List.mem_singleton.mp new
        obtain rfl := Option.some.inj taken
        exact .inr ((filled.mem_drop_updateShineInfo nonneg _).mpr (.inr ⟨rfl, attentive⟩))

/-- The check of `Attentive` where the engine does nothing on its own. -/
def attends {hints : List Int32} {engine : MoonEngine hints} (game : MoonGame engine)
    : MoonEvent engine → Bool
  | .receive _ =>
      game.shines.collectedShineCount < maxCollectedShines - 1
      ∧ ((game.cursor.getD 0 : Nat) : Int) ≤ game.shines.collectedShineCount
  | .engine _ => false
  | _ => true

theorem attentive_of_attends {hints : List Int32} {engine : MoonEngine hints}
    (game : MoonGame engine) (event : MoonEvent engine) (checked : game.attends event = true)
    : game.Attentive event := by
  cases event with
  | receive shineId =>
      simp only [attends, decide_eq_true_eq] at checked
      exact checked
  | engine world => cases checked
  | _ => trivial

/-- Two moons come in one after the other, and the loop comes to the first of them. -/
theorem received_moons_kept_two
    : ∃ game : MoonGame (listEngine [5, 9]),
        Run step Attentive (initial (listEngine [5, 9]) [])
          [.receive 5, .receive 9, .update, .visit] game
        ∧ KeepsReceived [.receive 5, .receive 9, .update, .visit] game
        ∧ game.Got 5
        ∧ ¬game.Got 9 := by
  have executed
      : (executeChecked step attends (initial (listEngine [5, 9]) [])
          [.receive 5, .receive 9, .update, .visit]).any
            (fun game => decide (game.Got 5 ∧ ¬game.Got 9)) = true := by
    decide +kernel
  obtain ⟨game, executed, got⟩ := (Option.any_eq_true _ _).mp executed
  have run := executeChecked_run attentive_of_attends executed
  exact ⟨game, run, received_moons_kept (lawful_listEngine _) run, of_decide_eq_true got⟩

end MoonGame

end SmoOnline.Mod
