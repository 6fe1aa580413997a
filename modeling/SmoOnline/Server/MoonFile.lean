import SmoOnline.Server.Moons

/-! The saved moons. The file is written with the set whenever a moon is new to its collector,
by the timer and by `shine clear`. A new save clears the set and not the file, and a moon that
its collector knew goes back into the set and not into the file.
-/

namespace SmoOnline

open Span Utf8 Runs

/-- `LoadShines` would read the set of moons. -/
def SavedFollows (state : ServerState) : Prop :=
  ∀ shine, shine ∈ state.savedShines ↔ shine ∈ state.shineBag

/-- `Settings.Instance.PersistShines.Enabled`. -/
abbrev ServerState.persists (state : ServerState) : Prop :=
  state.settings.persistShines.enabled = true

/-- With the event and what it has saved behind it, the file follows the set. -/
def FileFollows (runtime : Runtime) (state : ServerState) (event : Event) : Prop :=
  ∀ next, state.step runtime event = some next → SavedFollows next

/-- What a packet may do to the set without saving it: a new save finds it empty, and a moon
that its collector has already is in it.
-/
def FileKept (state : ServerState) (socket : SocketId) : Packet → Prop
  | .game packet =>
      packet.stage = "CapWorldHomeStage".toList ∧ packet.scenarioNum = 0
      → (state.moonsOf socket).shineSync.isSome = true
      → state.shineBag = []
  | .shine packet =>
      state.settings.shines.enabled = true
      → (state.moonsOf socket).loadedSave = some true
      → ∀ playerBag ∈ (state.moonsOf socket).shineSync,
          packet.shineId ∈ playerBag → packet.shineId ∈ state.shineBag
  | _ => True

/-- Whichever packet is handled keeps the file. -/
def KeepsFile (state : ServerState) (event : Event) : Prop :=
  ∀ socket now memory packet,
    event = .dispatch socket now
    → (state.session socket).phase = .dispatching memory
    → decodeFrame memory = some packet
    → FileKept state socket packet

namespace ServerState

variable {state next : ServerState} {runtime : Runtime} {socket : SocketId} {now : Nat}
  {memory : Bytes}

theorem mem_addShine {shine other : Int32}
    : other ∈ (state.addShine shine).shineBag ↔ other = shine ∨ other ∈ state.shineBag := by
  unfold addShine
  split_ifs with known
  · constructor
    · exact .inr
    · rintro (rfl | member)
      · exact known
      · exact member
  · simp [or_comm]

theorem persists_addShine {shine : Int32} (persists : state.persists)
    : (state.addShine shine).persists := by
  unfold addShine
  split_ifs <;> exact persists

theorem savedShines_persistShines (persists : state.persists)
    : state.persistShines.savedShines = state.shineBag := by
  rw [persistShines, if_pos persists]

/-- A packet of a new save leaves the file behind unless the set was empty. -/
theorem savedFollows_newSave {packet : GamePacket} (follows : SavedFollows state)
    (dispatching : (state.session socket).phase = .dispatching memory)
    (decoded : decodeFrame memory = some (.game packet))
    (enters : packet.stage = "CapWorldHomeStage".toList ∧ packet.scenarioNum = 0)
    (taken : state.step runtime (.dispatch socket now) = some next)
    : SavedFollows next ↔ FileKept state socket (.game packet) := by
  have store := (dispatch_moonStore dispatching decoded taken).trans (handleGame_newSave enters)
  have saved : next.savedShines = state.savedShines := congrArg MoonStore.savedShines store
  have bag
      : next.shineBag
        = if (state.moonsOf socket).shineSync.isSome then [] else state.shineBag :=
    congrArg MoonStore.shineBag store
  unfold SavedFollows
  rw [saved, bag]
  split_ifs with bagged
  · constructor
    · intro after _ _
      apply List.eq_nil_iff_forall_not_mem.mpr
      intro shine member
      exact List.not_mem_nil ((after shine).mp ((follows shine).mpr member))
    · intro kept shine
      rw [follows shine, kept enters bagged]
  · exact iff_of_true follows fun _ isSome => absurd isSome bagged

/-- A moon that its collector has already leaves the file behind unless it was in the set. -/
theorem savedFollows_known {packet : ShinePacket} {playerBag : List Int32}
    (follows : SavedFollows state)
    (dispatching : (state.session socket).phase = .dispatching memory)
    (decoded : decodeFrame memory = some (.shine packet))
    (enabled : state.settings.shines.enabled = true)
    (loaded : (state.moonsOf socket).loadedSave = some true)
    (bag : (state.moonsOf socket).shineSync = some playerBag)
    (known : packet.shineId ∈ playerBag)
    (taken : state.step runtime (.dispatch socket now) = some next)
    : SavedFollows next ↔ FileKept state socket (.shine packet) := by
  have handled
      : (state.handleShine socket packet).1 = state.addShine packet.shineId := by
    have loadedSave : (state.metadata socket).loadedSave = some true := loaded
    have shineSync : (state.metadata socket).shineSync = some playerBag := bag
    simp [handleShine, enabled, loadedSave, shineSync, known]
  have store
      : next.moonStore
        = { state.moonStore with shineBag := (state.addShine packet.shineId).shineBag } :=
    ((dispatch_moonStore dispatching decoded taken).trans
      (congrArg moonStore handled)).trans (addShine_moonStore state packet.shineId)
  have saved : next.savedShines = state.savedShines := congrArg MoonStore.savedShines store
  have grown : next.shineBag = (state.addShine packet.shineId).shineBag :=
    congrArg MoonStore.shineBag store
  unfold SavedFollows
  rw [saved, grown]
  constructor
  · intro after _ _ _ _ _
    exact (follows packet.shineId).mp ((after packet.shineId).mpr (mem_addShine.mpr (.inl rfl)))
  · intro kept shine
    have member := kept enabled loaded playerBag bag known
    rw [follows shine, mem_addShine]
    constructor
    · exact .inr
    · rintro (rfl | old)
      · exact member
      · exact old

/-- One step leaves the file following the set exactly when a packet handled in it keeps the
file, by what the step makes of the moons.
-/
theorem fileFollows_iff {event : Event} (persists : state.persists)
    (follows : SavedFollows state) (taken : state.step runtime event = some next)
    : FileFollows runtime state event ↔ KeepsFile state event := by
  have only : FileFollows runtime state event ↔ SavedFollows next := by
    constructor
    · exact fun all => all next taken
    · intro after other again
      obtain rfl := Option.some.inj (taken.symm.trans again)
      exact after
  rw [only]
  -- the two packets that change the set without saving it
  by_cases critical
      : ∃ socket now memory packet,
          event = .dispatch socket now
          ∧ (state.session socket).phase = .dispatching memory
          ∧ decodeFrame memory = some packet
          ∧ ¬FileKept state socket packet
  · obtain ⟨socket, now, memory, packet, rfl, dispatching, decoded, lost⟩ := critical
    refine iff_of_false ?_ fun keeps =>
      lost (keeps socket now memory packet rfl dispatching decoded)
    cases packet with
    | game packet =>
        simp only [FileKept, Classical.not_imp] at lost
        obtain ⟨enters, isSome, filled⟩ := lost
        rw [savedFollows_newSave follows dispatching decoded enters taken]
        exact fun kept => filled (kept enters isSome)
    | shine packet =>
        simp only [FileKept, Classical.not_imp, not_forall] at lost
        obtain ⟨enabled, loaded, playerBag, bag, known, missing⟩ := lost
        rw [savedFollows_known follows dispatching decoded enabled loaded bag known taken]
        exact fun kept => missing (kept enabled loaded playerBag bag known)
    | _ => exact absurd trivial lost
  · have keeps : KeepsFile state event := by
      intro socket now memory packet same dispatching decoded
      by_contra lost
      exact critical ⟨socket, now, memory, packet, same, dispatching, decoded, lost⟩
    refine iff_of_true ?_ keeps
    have moons := step_moons taken
    change ∀ shine, shine ∈ next.moonStore.savedShines ↔ shine ∈ next.moonStore.shineBag
    generalize stored : next.moonStore = store at moons
    cases moons with
    | newSave memory packet dispatching decoded enters =>
        have after := (savedFollows_newSave follows dispatching decoded enters taken).mpr
          (keeps _ _ memory _ rfl dispatching decoded)
        rw [← stored]
        exact after
    | collectKnown memory packet playerBag dispatching decoded enabled loaded bag known =>
        have after := (savedFollows_known follows dispatching decoded enabled loaded bag known
          taken).mpr (keeps _ _ memory _ rfl dispatching decoded)
        rw [← stored]
        exact after
    | collect memory packet playerBag _ _ _ _ _ _ =>
        intro shine
        dsimp only
        rw [savedShines_persistShines (persists_addShine persists)]
    | timer =>
        intro shine
        dsimp only
        rw [savedShines_persistShines persists]
        rfl
    | clear =>
        intro shine
        dsimp only
        rw [if_pos persists]
    | _ => exact follows

end ServerState

/-- Where moons are saved throughout, the file follows the set behind every event of a run
exactly when each packet of the run keeps the file.
-/
theorem filesFollow_iff (runtime : Runtime) (settings : Settings) (shines : List Int32)
    (events : List Event) (state : ServerState)
    : Run (ServerState.step runtime)
        (fun state event => state.persists ∧ FileFollows runtime state event)
        (.initial settings shines) events state
      ↔ Run (ServerState.step runtime)
          (fun state event => state.persists ∧ KeepsFile state event)
          (.initial settings shines) events state := by
  apply Run.congr SavedFollows
  · exact fun _ => Iff.rfl
  · exact fun _ allowed taken => allowed.2 _ taken
  · intro state event next follows taken
    constructor
    · rintro ⟨persists, after⟩
      exact ⟨persists, (ServerState.fileFollows_iff persists follows taken).mp after⟩
    · rintro ⟨persists, keeps⟩
      exact ⟨persists, (ServerState.fileFollows_iff persists follows taken).mpr keeps⟩

/-- The settings under which moons are saved. -/
def savingSettings : Settings := { persistShines := { enabled := true } }

/-- Mario starts a new save while moon 5 is in the set. The set is empty behind it, and the
file still has the moon, which the server would start with again.
-/
theorem cleared_moon_stays_saved
    : ∃ state,
        Run (ServerState.step .pooled) (fun state _ => state.persists)
          (.initial savingSettings [5])
          (arrival .pooled 1 ⟨7⟩ .firstConnection "Mario".toList []
            ++ exchange 1 ⟨7⟩ newSavePacket)
          state
        ∧ (state.savedShines, state.shineBag) = ([5], [])
        ∧ ¬SavedFollows state := by
  let check := fun (state : ServerState) (_ : Event) => state.settings.persistShines.enabled
  have executes
      : (executeChecked (ServerState.step .pooled) check (.initial savingSettings [5])
          (arrival .pooled 1 ⟨7⟩ .firstConnection "Mario".toList []
            ++ exchange 1 ⟨7⟩ newSavePacket)).any
          (fun state => (state.savedShines, state.shineBag) = ([5], []))
        = true := by decide
  obtain ⟨state, executed, holds⟩ := (Option.any_eq_true _ _).mp executes
  have stored := of_decide_eq_true holds
  obtain ⟨saved, bag⟩ := Prod.ext_iff.mp stored
  dsimp only at saved bag
  refine ⟨state, executeChecked_run (fun _ _ persists => persists) executed, stored, ?_⟩
  intro follows
  have member := (follows 5).mp (by rw [saved]; exact List.mem_singleton_self 5)
  rw [bag] at member
  exact List.not_mem_nil member

end SmoOnline
