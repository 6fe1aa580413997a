import SmoOnline.Mod.MoonUpdate

/-! Which moons a game sends. The hook sends a moon that is not got and has it got; what comes from
other players is got by the hook of its actor or by the update itself.
-/

namespace SmoOnline.Mod

open Runs

namespace MoonGame

/-- The engine leaves what is got as it is; so it loads no other save. -/
def KeepsSave {hints : List Int32} {engine : MoonEngine hints} (game : MoonGame engine)
    : MoonEvent engine → Prop
  | .engine world => engine.isGotShine world = engine.isGotShine game.world
  | _ => True

/-- The player has got the moon, or it was received. -/
def Reached {hints : List Int32} {engine : MoonEngine hints} (events : List (MoonEvent engine))
    (shineId : Int32)
    : Prop :=
  (∃ shine, .collect shine ∈ events ∧ shine.mUniqueID = shineId) ∨ .receive shineId ∈ events

/-- Each moon was queued at most once, when it was not got yet; and what is got was in the save, was
queued or was received.
-/
structure Told {hints : List Int32} {engine : MoonEngine hints} (first : engine.World)
    (events : List (MoonEvent engine)) (game : MoonGame engine)
    : Prop where
  nodup : game.queued.Nodup
  fresh : ∀ shineId ∈ game.queued, game.Got shineId ∧ engine.isGotShine first shineId = false
  reached : ∀ shineId ∈ game.queued, Reached events shineId
  kept : ∀ shineId, engine.isGotShine first shineId = true → game.Got shineId
  last : game.lastCollectedShine = -1 ∨ game.lastCollectedShine ∈ game.queued
  sent
    : ∀ shineId,
        game.Got shineId
        → shineId ≠ -1
        → engine.isGotShine first shineId = true
          ∨ shineId ∈ game.queued
          ∨ .receive shineId ∈ events
  buffer : ∀ entry ∈ game.shines.curCollectedShines, ¬entry < 0 → .receive entry ∈ events

section

variable {hints : List Int32} {engine : MoonEngine hints} {first world : engine.World}
  {events : List (MoonEvent engine)} {game next : MoonGame engine} {shineId : Int32}
  {shine : Shine hints}

theorem Reached.snoc (reached : Reached events shineId) (event : MoonEvent engine)
    : Reached (events ++ [event]) shineId :=
  reached.imp (fun ⟨shine, member, same⟩ => ⟨shine, List.mem_append_left _ member, same⟩)
    (List.mem_append_left _)

theorem Told.snoc (told : Told first events game) (event : MoonEvent engine)
    : Told first (events ++ [event]) game where
  nodup := told.nodup
  fresh := told.fresh
  reached shineId member := (told.reached shineId member).snoc event
  kept := told.kept
  last := told.last
  sent shineId got moon :=
    (told.sent shineId got moon).imp_right (.imp_right (List.mem_append_left _))
  buffer entry member nonneg := List.mem_append_left _ (told.buffer entry member nonneg)

/-- Only what is got counts of the engine's state. -/
theorem Told.setWorld (told : Told first events game)
    (same : engine.isGotShine world = engine.isGotShine game.world)
    : Told first events (game.setWorld world) where
  nodup := told.nodup
  fresh shineId member :=
    ⟨(got_setWorld same).mpr (told.fresh shineId member).1, (told.fresh shineId member).2⟩
  reached := told.reached
  kept shineId saved := (got_setWorld same).mpr (told.kept shineId saved)
  last := told.last
  sent shineId got := told.sent shineId ((got_setWorld same).mp got)
  buffer := told.buffer

/-- A moon is got without being sent where it was received, or is no more than the mark of an empty
entry.
-/
theorem Told.setGotShine (lawful : engine.Lawful) (told : Told first events game)
    (unsent : shineId = -1 ∨ .receive shineId ∈ events)
    : Told first events (game.setGotShine shineId) where
  nodup := told.nodup
  fresh other member :=
    ⟨(got_setGotShine lawful).mpr (.inr (told.fresh other member).1),
      (told.fresh other member).2⟩
  reached := told.reached
  kept other saved := (got_setGotShine lawful).mpr (.inr (told.kept other saved))
  last := told.last
  sent other got moon := by
    rcases (got_setGotShine lawful).mp got with rfl | before
    · exact .inr (.inr (unsent.resolve_left moon))
    · exact told.sent other before moon
  buffer := told.buffer

/-- A moon that was not got is sent. -/
theorem Told.queue (lawful : engine.Lawful) (told : Told first events game)
    (reached : Reached events shineId) (absent : ¬game.Got shineId)
    : Told first events
        ({ game with
            lastCollectedShine := shineId
            queued := game.queued ++ [shineId] }.setGotShine shineId) := by
  have got {other : Int32}
      : ({ game with
            lastCollectedShine := shineId
            queued := game.queued ++ [shineId] }.setGotShine shineId).Got other
        ↔ other = shineId ∨ game.Got other :=
    got_setGotShine lawful
  have queued {other : Int32}
      : other ∈ game.queued ++ [shineId] ↔ other ∈ game.queued ∨ other = shineId := by
    rw [List.mem_append, List.mem_singleton]
  constructor
  · refine List.nodup_append.mpr ⟨told.nodup, List.pairwise_singleton _ _, ?_⟩
    rintro other member _ new rfl
    exact absent (List.mem_singleton.mp new ▸ (told.fresh other member).1)
  · intro other member
    rcases queued.mp member with before | rfl
    · exact ⟨got.mpr (.inr (told.fresh other before).1), (told.fresh other before).2⟩
    · exact ⟨got.mpr (.inl rfl), Bool.eq_false_iff.mpr fun saved => absent (told.kept other saved)⟩
  · intro other member
    rcases queued.mp member with before | rfl
    · exact told.reached other before
    · exact reached
  · exact fun other saved => got.mpr (.inr (told.kept other saved))
  · exact .inr (queued.mpr (.inr rfl))
  · intro other has moon
    rcases got.mp has with rfl | before
    · exact .inr (.inl (queued.mpr (.inr rfl)))
    · exact (told.sent other before moon).imp_right (.imp_left (List.mem_append_left _))
  · exact told.buffer

/-- A moon that the hook is called for is sent unless it was got. -/
theorem Told.sendShinePacket (lawful : engine.Lawful) (told : Told first events game)
    (reached : Reached events shine.mUniqueID)
    : Told first events (game.sendShinePacket shine) := by
  unfold MoonGame.sendShinePacket
  rw [lawful.isGot]
  generalize shine.mUniqueID = shineId at reached
  split
  · next present =>
      have same
          : engine.isGotShine (engine.setGotShine game.world shineId)
            = engine.isGotShine game.world := by
        funext other
        rw [Bool.eq_iff_iff, lawful.setGotShine, or_iff_right_of_imp]
        rintro rfl
        exact present
      exact told.setWorld same
  · next absent =>
      unfold sendShineCollectPacket
      split
      · exact told.queue lawful reached absent
      · next last =>
          -- only the mark of an empty entry is what was sent last and not got
          have same : game.lastCollectedShine = shineId := not_not.mp last
          refine told.setGotShine lawful (.inl ?_)
          exact same ▸ told.last.resolve_right fun member => absent (same ▸ told.fresh _ member).1

theorem Told.getDirect (lawful : engine.Lawful) (told : Told first events game)
    (reached : Reached events shine.mUniqueID)
    : Told first events (game.getDirect shine) := by
  have before := told.setWorld (lawful.beforeHook game.world shine)
  unfold MoonGame.getDirect
  dsimp only
  split_ifs
  · exact (before.sendShinePacket lawful reached).setWorld (lawful.afterHook _ shine)
  · exact before.setWorld (lawful.afterHook _ shine)

theorem Told.getStageShine (lawful : engine.Lawful) (told : Told first events game)
    (reached : Reached events shine.mUniqueID)
    : Told first events (game.getStageShine shine) := by
  unfold MoonGame.getStageShine
  dsimp only
  split_ifs
  · have alive := told.setWorld (lawful.makeActorAlive game.world shine)
    exact (alive.getDirect lawful reached).setWorld (lawful.onSwitchGet _ shine)
  · exact (told.getDirect lawful reached).setWorld (lawful.onSwitchGet _ shine)

theorem Told.updateShine (lawful : engine.Lawful) {index : Nat} (told : Told first events game)
    (inside : index < maxCollectedShines)
    : Told first events (game.updateShine index) := by
  unfold MoonGame.updateShine
  dsimp only
  split
  · exact told
  split
  · exact told
  split
  · exact told
  · next nonneg _ _ =>
      have member : game.getShineID index ∈ game.shines.curCollectedShines :=
        List.mem_of_mem_drop (drop_cursor inside ▸ List.mem_cons_self)
      have received := told.buffer _ member nonneg
      refine Told.setGotShine lawful ?_ (.inr received)
      cases found : game.findStageShine (game.getShineID index) with
      | none => exact told
      | some shine =>
          have is := mUniqueID_of_found found
          exact told.getStageShine lawful (is ▸ .inr received)

theorem Told.step (lawful : engine.Lawful) {event : MoonEvent engine}
    (told : Told first events game) (keeps : game.KeepsSave event)
    (taken : game.step event = some next)
    : Told first (events ++ [event]) next := by
  have later := told.snoc event
  cases event with
  | receive received =>
      obtain rfl := Option.some.inj taken
      refine ⟨later.nodup, later.fresh, later.reached, later.kept, later.last, later.sent, ?_⟩
      intro entry member nonneg
      dsimp only at member
      unfold CollectedShines.updateShineInfo at member
      split_ifs at member
      · rcases List.mem_or_eq_of_mem_set member with before | rfl
        · exact later.buffer entry before nonneg
        · exact List.mem_append_right _ (List.mem_singleton_self _)
      · exact later.buffer entry member nonneg
  | update =>
      obtain ⟨_, rfl⟩ := whenIdle_cases taken
      split_ifs
      · exact ⟨later.nodup, later.fresh, later.reached, later.kept, later.last, later.sent,
          later.buffer⟩
      · exact later
  | visit =>
      obtain ⟨index, _, inside, rfl⟩ := visit_cases taken
      obtain ⟨nodup, fresh, reached, kept, last, sent, buffer⟩ := later.updateShine lawful inside
      exact ⟨nodup, fresh, reached, kept, last, sent, buffer⟩
  | finish =>
      obtain ⟨_, rfl⟩ := finish_cases taken
      refine ⟨later.nodup, later.fresh, later.reached, later.kept, later.last, later.sent, ?_⟩
      intro entry member nonneg
      obtain rfl := List.eq_of_mem_replicate member
      exact absurd (by decide) nonneg
  | collect shine =>
      obtain ⟨_, rfl⟩ := whenIdle_cases taken
      exact later.sendShinePacket lawful
        (.inl ⟨shine, List.mem_append_right _ (List.mem_singleton_self _), rfl⟩)
  | registerShine shine =>
      obtain ⟨_, rfl⟩ := whenIdle_cases taken
      unfold tryRegisterShine
      split_ifs
      · exact later
      · exact ⟨later.nodup, later.fresh, later.reached, later.kept, later.last, later.sent,
          later.buffer⟩
      · exact later
  | enterStage mStageName mScenario =>
      obtain ⟨_, rfl⟩ := whenIdle_cases taken
      exact ⟨later.nodup, later.fresh, later.reached, later.kept, later.last, later.sent,
        later.buffer⟩
  | engine world =>
      obtain ⟨_, rfl⟩ := whenIdle_cases taken
      exact later.setWorld keeps

end

/-- As long as the engine leaves what is got as it is, a game sends each moon at most once, and only
one that was not in the save and that its player got or it received; what is got then was in the
save, was sent or was received, but for the mark of an empty entry.
-/
theorem moons_sent_once {hints : List Int32} {engine : MoonEngine hints} (lawful : engine.Lawful)
    {first : engine.World} {events : List (MoonEvent engine)} {game : MoonGame engine}
    (run : Run step KeepsSave (initial engine first) events game)
    : game.queued.Nodup
      ∧ (∀ shineId ∈ game.queued,
          game.Got shineId ∧ engine.isGotShine first shineId = false ∧ Reached events shineId)
      ∧ ∀ shineId,
          game.Got shineId
          → shineId ≠ -1
          → engine.isGotShine first shineId = true
            ∨ shineId ∈ game.queued
            ∨ .receive shineId ∈ events := by
  have told : Told first events game := by
    induction run with
    | nil =>
        refine ⟨List.nodup_nil, nofun, nofun, fun _ => id, .inl rfl, fun _ saved _ => .inl saved,
          fun entry member nonneg => ?_⟩
        obtain rfl := List.eq_of_mem_replicate member
        exact absurd (by decide) nonneg
    | snoc _ keeps taken ih => exact ih.step lawful keeps taken
  refine ⟨told.nodup, fun shineId member => ?_, told.sent⟩
  exact ⟨(told.fresh shineId member).1, (told.fresh shineId member).2,
    told.reached shineId member⟩

/-- A moon of the stage that is received is got by its actor, and is sent on its way. -/
def receivedOnStage : List (MoonEvent (listEngine [5, 9])) :=
  [.registerShine { mShineIdx := 1, actor := 0 }, .receive 9, .update, .visit]

/-- No event of the list is the engine's own. -/
theorem keepsSave_of_mem {state : MoonGame (listEngine [5, 9])}
    : ∀ event ∈ receivedOnStage, state.KeepsSave event := by
  intro event member
  simp only [receivedOnStage, List.mem_cons, List.not_mem_nil, or_false] at member
  rcases member with rfl | rfl | rfl | rfl <;> exact trivial

/-- The moon that was received is queued once. -/
theorem moons_sent_once_stage
    : ∃ game,
        Run step KeepsSave (initial (listEngine [5, 9]) []) receivedOnStage game
        ∧ game.queued.Nodup
        ∧ game.queued = [9]
        ∧ game.Got 9 := by
  obtain ⟨game, run, queued, got⟩ :=
    @exists_run _ _ step (initial (listEngine [5, 9]) []) receivedOnStage
      (fun game => game.queued = [9] ∧ game.Got 9) inferInstance (by decide +kernel)
  have keeps : Run step KeepsSave (initial (listEngine [5, 9]) []) receivedOnStage game :=
    (run.of_events fun event member => member).mono fun member => keepsSave_of_mem _ member
  exact ⟨game, keeps, (moons_sent_once (lawful_listEngine _) keeps).1, queued, got⟩

end MoonGame

end SmoOnline.Mod
