import Mathlib.Data.List.Flatten
import Mathlib.Data.List.Perm.Basic
import SmoOnline.Server.MoonNotes

/-! What the bags tell of the ledger: moons that were synced or kept are in the bag or about to
be put there, and moons on their way are in no account yet. The bags know neither what was
passed on nor what is on its way, which the steps of a run have to mind.
-/

namespace SmoOnline

open Span Utf8 Runs Ledger

/-- The moons a task has still to send. -/
def PendingTask.owed : PendingTask → List Int32
  | .sendShines _ shines => shines
  | .recordShine _ _ rest => rest
  | _ => []

/-- The moons a task has still to send or to put into the bag. -/
def PendingTask.underway : PendingTask → List Int32
  | .sendShines _ shines => shines
  | .recordShine _ shine rest => shine :: rest
  | _ => []

/-- The tasks that send moons to a player. -/
def loadsOf (players : SocketId → SocketId) (tasks : List PendingTask) (player : SocketId)
    : List PendingTask :=
  tasks.filter fun task => task.loader?.map players = some player

/-- The moons on their way to a player. -/
def underwayOf (players : SocketId → SocketId) (tasks : List PendingTask) (player : SocketId)
    : List Int32 :=
  (loadsOf players tasks player).flatMap PendingTask.underway

namespace ServerState

def owed (state : ServerState) (player : SocketId) : List Int32 :=
  (loadsOf state.playerOf state.tasks player).flatMap PendingTask.owed

def underway (state : ServerState) (player : SocketId) : List Int32 :=
  underwayOf state.playerOf state.tasks player

end ServerState

/-- Nothing that the bag of the player does not tell has brought the moon to the player: it was
not passed on to it or reported in vain since the bag was cleared, and is not on its way.
-/
structure Unsent (state : ServerState) (notes : List MoonEntry) (player : SocketId)
    (shine : Int32)
    : Prop where
  underway : shine ∉ state.underway player
  relayed : ¬Holds notes .relayed player shine
  unkept : ¬Holds notes (.reported false) player shine

/-- A handler may handle its frame: its player does not report a moon that is on its way to it,
and a moon is passed on only to players who do not have it.
-/
structure CarefulFrame (state : ServerState) (notes : List MoonEntry) (socket : SocketId)
    : Prop where
  reported
    : ∀ shine ∈ state.heldShine socket, shine ∉ state.owed (state.playerOf socket)
  relayed
    : ∀ shine ∈ state.passedShine socket,
        state.settings.shines.enabled = true
        → ∀ client ∈ state.reached socket,
            shine ∉ (state.moonsOf client).bag
            ∧ Unsent state notes (state.playerOf client) shine

/-- Moon sync may start for a client: nothing else has sent the moons that are missing. -/
def CarefulSync (state : ServerState) (notes : List MoonEntry) (socket : SocketId) : Prop :=
  ∀ shines ∈ state.missingShines socket,
    ∀ shine ∈ shines, Unsent state notes (state.playerOf socket) shine

def Careful (recorded : ServerState × List MoonEntry) : Event → Prop
  | .dispatch socket _ => CarefulFrame recorded.1 recorded.2 socket
  | .task index =>
      ∀ socket,
        recorded.1.tasks[index]? = some (.clientSyncShineBag socket)
        → CarefulSync recorded.1 recorded.2 socket
  | _ => True

section decidable

variable (state : ServerState) (notes : List MoonEntry)

instance (player : SocketId) (shine : Int32) : Decidable (Unsent state notes player shine) :=
  decidable_of_iff
    (shine ∉ state.underway player
      ∧ ¬Holds notes .relayed player shine
      ∧ ¬Holds notes (.reported false) player shine)
    ⟨fun ⟨underway, relayed, unkept⟩ => ⟨underway, relayed, unkept⟩,
      fun ⟨underway, relayed, unkept⟩ => ⟨underway, relayed, unkept⟩⟩

-- The moons are checked one after the other, and not for all numbers.
instance (socket : SocketId) : Decidable (CarefulFrame state notes socket) :=
  have := @Option.decidableForallMem Int32
    (fun shine => shine ∉ state.owed (state.playerOf socket)) _ (state.heldShine socket)
  have := @Option.decidableForallMem Int32
    (fun shine =>
      state.settings.shines.enabled = true
      → ∀ client ∈ state.reached socket,
          shine ∉ (state.moonsOf client).bag
          ∧ Unsent state notes (state.playerOf client) shine)
    _ (state.passedShine socket)
  decidable_of_iff
    ((∀ shine ∈ state.heldShine socket, shine ∉ state.owed (state.playerOf socket))
      ∧ ∀ shine ∈ state.passedShine socket,
          state.settings.shines.enabled = true
          → ∀ client ∈ state.reached socket,
              shine ∉ (state.moonsOf client).bag
              ∧ Unsent state notes (state.playerOf client) shine)
    ⟨fun ⟨reported, relayed⟩ => ⟨reported, relayed⟩,
      fun ⟨reported, relayed⟩ => ⟨reported, relayed⟩⟩

instance (socket : SocketId) : Decidable (CarefulSync state notes socket) :=
  have unsent (shines : List Int32) := List.decidableBAll
    (fun shine => Unsent state notes (state.playerOf socket) shine) shines
  @Option.decidableForallMem _ _ unsent (state.missingShines socket)

end decidable

/-- What the bags tell of the ledger, with the players of the sessions as a parameter. -/
structure Booked (players : SocketId → SocketId) (store : MoonStore) (notes : List MoonEntry)
    : Prop where
  nodup : store.shineBag.Nodup
  apart : ∀ player, (underwayOf players store.tasks player).Nodup
  unheld
    : ∀ player,
        ∀ task ∈ loadsOf players store.tasks player,
          ∀ shine ∈ task.owed, ∀ kind, ¬Holds notes kind player shine
  synced
    : ∀ player shine,
        Holds notes .synced player shine
        → shine ∈ (store.players player).bag
          ∨ ∃ socket rest,
              .recordShine socket shine rest ∈ loadsOf players store.tasks player
  kept
    : ∀ player shine,
        Holds notes (.reported true) player shine → shine ∈ (store.players player).bag

section loads

variable {players : SocketId → SocketId} {tasks : List PendingTask} {player : SocketId}

theorem mem_loadsOf {task : PendingTask}
    : task ∈ loadsOf players tasks player
      ↔ task ∈ tasks ∧ task.loader?.map players = some player := by
  simp [loadsOf]

theorem owed_subset_underway (task : PendingTask) : task.owed ⊆ task.underway := by
  cases task with
  | recordShine socket shine rest => exact List.subset_cons_self shine rest
  | _ => exact List.Subset.refl _

theorem mem_underwayOf {shine : Int32}
    : shine ∈ underwayOf players tasks player
      ↔ ∃ task ∈ loadsOf players tasks player, shine ∈ task.underway := by
  simp [underwayOf]

/-- Sessions of the same players have the same loads. -/
theorem loadsOf_congr {others : SocketId → SocketId}
    (same
      : ∀ task ∈ tasks, ∀ socket, task.loader? = some socket → others socket = players socket)
    : loadsOf others tasks player = loadsOf players tasks player := by
  apply List.filter_congr
  intro task pending
  cases loads : task.loader? with
  | none => rfl
  | some socket => simp [same task pending socket loads]

theorem loadsOf_append (more : List PendingTask)
    : loadsOf players (tasks ++ more) player
      = loadsOf players tasks player ++ loadsOf players more player :=
  List.filter_append _ _

/-- Tasks that have read no bag bring nothing. -/
theorem loadsOf_idle (idle : ∀ task ∈ tasks, task.loader? = none)
    : loadsOf players tasks player = [] := by
  apply List.filter_eq_nil_iff.mpr
  intro task pending
  simp [idle task pending]

/-- The moons on their way are those of one task and of the others. -/
theorem underwayOf_perm {index : Nat} {task : PendingTask} (found : tasks[index]? = some task)
    : (underwayOf players tasks player).Perm
        (underwayOf players (task :: tasks.eraseIdx index) player) := by
  obtain ⟨inside, rfl⟩ := List.getElem?_eq_some_iff.mp found
  have perm := List.getElem_cons_eraseIdx_perm inside
  exact (perm.symm.filter _).flatMap_right _

theorem mem_of_erased {index : Nat} {task other : PendingTask}
    (found : tasks[index]? = some task)
    : other ∈ tasks ↔ other = task ∨ other ∈ tasks.eraseIdx index := by
  obtain ⟨inside, rfl⟩ := List.getElem?_eq_some_iff.mp found
  rw [← (List.getElem_cons_eraseIdx_perm inside).mem_iff, List.mem_cons]

/-- What a task has underway to a player. -/
def PendingTask.underwayTo (players : SocketId → SocketId) (player : SocketId)
    (task : PendingTask)
    : List Int32 :=
  if task.loader?.map players = some player then task.underway else []

theorem underwayOf_cons (task : PendingTask)
    : underwayOf players (task :: tasks) player
      = task.underwayTo players player ++ underwayOf players tasks player := by
  unfold underwayOf loadsOf PendingTask.underwayTo
  by_cases loads : task.loader?.map players = some player
  · have kept := decide_eq_true loads
    rw [List.filter_cons, if_pos kept, List.flatMap_cons, if_pos loads]
  · have dropped := mt of_decide_eq_true loads
    rw [List.filter_cons, if_neg dropped, if_neg loads, List.nil_append]

theorem underwayOf_concat (task : PendingTask)
    : underwayOf players (tasks ++ [task]) player
      = underwayOf players tasks player ++ task.underwayTo players player := by
  have single : underwayOf players [task] player = task.underwayTo players player := by
    rw [underwayOf_cons]
    exact List.append_nil _
  rw [← single]
  unfold underwayOf
  rw [loadsOf_append, List.flatMap_append]

theorem underwayOf_idle {more : List PendingTask} (idle : ∀ task ∈ more, task.loader? = none)
    : underwayOf players (tasks ++ more) player = underwayOf players tasks player := by
  rw [underwayOf, loadsOf_append, loadsOf_idle idle, List.append_nil]
  rfl

/-- Taking a task away keeps what is underway apart. -/
theorem nodup_erased {index : Nat} {task : PendingTask} (found : tasks[index]? = some task)
    (apart : (underwayOf players tasks player).Nodup)
    : (underwayOf players (tasks.eraseIdx index) player).Nodup := by
  have split := (underwayOf_perm found).nodup_iff.mp apart
  rw [underwayOf_cons] at split
  exact (List.nodup_append.mp split).2.1

/-- Replacing a task by one that has no more underway to the same client keeps it apart. -/
theorem nodup_replaced {index : Nat} {task new : PendingTask}
    (found : tasks[index]? = some task) (same : new.loader? = task.loader?)
    (less : new.underway.Sublist task.underway) (apart : (underwayOf players tasks player).Nodup)
    : (underwayOf players (tasks.eraseIdx index ++ [new]) player).Nodup := by
  have split := (underwayOf_perm found).nodup_iff.mp apart
  rw [underwayOf_cons] at split
  rw [underwayOf_concat, List.nodup_append_comm]
  refine split.sublist (List.Sublist.append_right ?_ _)
  unfold PendingTask.underwayTo
  rw [same]
  split_ifs
  · exact less
  · exact List.Sublist.refl _

end loads

-----------------------------------------------------------------------------------------
-- How the bags keep telling of the ledger
-----------------------------------------------------------------------------------------

namespace Booked

variable {players : SocketId → SocketId} {store : MoonStore} {notes : List MoonEntry}

theorem congr {others : SocketId → SocketId} (booked : Booked players store notes)
    (same
      : ∀ task ∈ store.tasks,
          ∀ socket, task.loader? = some socket → others socket = players socket)
    : Booked others store notes := by
  have loads (player : SocketId)
      : loadsOf others store.tasks player = loadsOf players store.tasks player :=
    loadsOf_congr same
  refine {
    nodup := booked.nodup
    apart := fun player => ?_
    unheld := fun player => ?_
    synced := fun player => ?_
    kept := booked.kept
  }
  · rw [underwayOf, loads]
    exact booked.apart player
  · rw [loads]
    exact booked.unheld player
  · rw [loads]
    exact booked.synced player

/-- More entries, of moons that are not underway, and that the bag or a task tells of where
they are synced or kept.
-/
theorem note (booked : Booked players store notes) {more : List MoonEntry}
    (told
      : ∀ kind player shine,
          .put kind player shine ∈ more
          → (∀ task ∈ loadsOf players store.tasks player, shine ∉ task.owed)
            ∧ (kind = .synced
              → ∃ socket rest,
                  .recordShine socket shine rest ∈ loadsOf players store.tasks player)
            ∧ (kind = .reported true → shine ∈ (store.players player).bag))
    : Booked players store (notes ++ more) where
  nodup := booked.nodup
  apart := booked.apart
  unheld player task loads shine owed kind held := by
    rcases holds_append.mp held with new | ⟨old, _⟩
    · exact (told kind player shine new.mem).1 task loads owed
    · exact booked.unheld player task loads shine owed kind old
  synced player shine held := by
    rcases holds_append.mp held with new | ⟨old, _⟩
    · exact .inr ((told _ player shine new.mem).2.1 rfl)
    · exact booked.synced player shine old
  kept player shine held := by
    rcases holds_append.mp held with new | ⟨old, _⟩
    · exact (told _ player shine new.mem).2.2 rfl
    · exact booked.kept player shine old

/-- Other moons of the players, whose bags keep what the ledger holds. -/
theorem rebag (booked : Booked players store notes) {moons : SocketId → Moons}
    {shineBag savedShines : List Int32} (nodup : shineBag.Nodup)
    (bags
      : ∀ kind player shine,
          Holds notes kind player shine
          → shine ∈ (store.players player).bag
          → shine ∈ (moons player).bag)
    : Booked players { store with players := moons, shineBag, savedShines } notes where
  nodup := nodup
  apart := booked.apart
  unheld := booked.unheld
  synced player shine held := by
    rcases booked.synced player shine held with bagged | recorded
    · exact .inl (bags _ player shine held bagged)
    · exact .inr recorded
  kept player shine held := bags _ player shine held (booked.kept player shine held)

/-- Other tasks, of which one waits for each moon that the bag does not tell of. -/
theorem retask (booked : Booked players store notes) {tasks : List PendingTask}
    (apart : ∀ player, (underwayOf players tasks player).Nodup)
    (unheld
      : ∀ player,
          ∀ task ∈ loadsOf players tasks player,
            ∀ shine ∈ task.owed, ∀ kind, ¬Holds notes kind player shine)
    (recorded
      : ∀ player socket shine rest,
          .recordShine socket shine rest ∈ loadsOf players store.tasks player
          → .recordShine socket shine rest ∈ loadsOf players tasks player
            ∨ shine ∈ (store.players player).bag)
    : Booked players { store with tasks } notes where
  nodup := booked.nodup
  apart := apart
  unheld := unheld
  synced player shine held := by
    rcases booked.synced player shine held with bagged | ⟨socket, rest, waits⟩
    · exact .inl bagged
    · rcases recorded player socket shine rest waits with still | bagged
      · exact .inr ⟨socket, rest, still⟩
      · exact .inl bagged
  kept := booked.kept

/-- Tasks that have read no bag are added. -/
theorem addIdle (booked : Booked players store notes) {more : List PendingTask}
    (idle : ∀ task ∈ more, task.loader? = none)
    : Booked players { store with tasks := store.tasks ++ more } notes := by
  have loads (player : SocketId)
      : loadsOf players (store.tasks ++ more) player = loadsOf players store.tasks player := by
    rw [loadsOf_append, loadsOf_idle idle, List.append_nil]
  apply booked.retask
  · intro player
    rw [underwayOf_idle idle]
    exact booked.apart player
  · intro player
    rw [loads]
    exact booked.unheld player
  · intro player socket shine rest waits
    rw [loads]
    exact .inl waits

/-- A task that has no moon to record ends. -/
theorem erase (booked : Booked players store notes) {index : Nat} {task : PendingTask}
    (found : store.tasks[index]? = some task)
    (done : ∀ socket shine rest, task ≠ .recordShine socket shine rest)
    : Booked players { store with tasks := store.tasks.eraseIdx index } notes := by
  apply booked.retask
  · intro player
    exact nodup_erased found (booked.apart player)
  · intro player other loads
    obtain ⟨pending, of⟩ := mem_loadsOf.mp loads
    have member := (mem_of_erased found).mpr (.inr pending)
    exact booked.unheld player other (mem_loadsOf.mpr ⟨member, of⟩)
  · intro player socket shine rest waits
    obtain ⟨pending, of⟩ := mem_loadsOf.mp waits
    rcases (mem_of_erased found).mp pending with same | still
    · exact absurd same.symm (done socket shine rest)
    · exact .inl (mem_loadsOf.mpr ⟨still, of⟩)

/-- A task starts to send moons that are apart from those underway and not held. -/
theorem load (booked : Booked players store notes) {index : Nat} {socket : SocketId}
    {shines : List Int32} {task : PendingTask} (found : store.tasks[index]? = some task)
    (idle : task.loader? = none) (nodup : shines.Nodup)
    (apart : ∀ shine ∈ shines, shine ∉ underwayOf players store.tasks (players socket))
    (unheld : ∀ shine ∈ shines, ∀ kind, ¬Holds notes kind (players socket) shine)
    : Booked players
        { store with tasks := store.tasks.eraseIdx index ++ [.sendShines socket shines] }
        notes := by
  have ended := booked.erase found (by rintro _ _ _ rfl; cases idle)
  apply ended.retask
  · intro player
    rw [underwayOf_concat]
    refine List.nodup_append.mpr ⟨ended.apart player, ?_, ?_⟩
    · unfold PendingTask.underwayTo
      split_ifs
      · exact nodup
      · exact List.nodup_nil
    · intro left inside right new same
      subst same
      unfold PendingTask.underwayTo at new
      split_ifs at new with own
      · obtain rfl := Option.some.inj own
        refine apart left new ?_
        rw [(underwayOf_perm found).mem_iff, underwayOf_cons]
        exact List.mem_append_right _ inside
      · exact absurd new List.not_mem_nil
  · intro player other loads
    rw [loadsOf_append] at loads
    rcases List.mem_append.mp loads with old | new
    · exact ended.unheld player other old
    · obtain ⟨single, own⟩ := mem_loadsOf.mp new
      obtain rfl := List.mem_singleton.mp single
      obtain rfl := Option.some.inj own
      exact unheld
  · intro player other shine rest waits
    rw [loadsOf_append]
    exact .inl (List.mem_append_left _ waits)

/-- A moon is sent: its task waits to record it, and the ledger has it. -/
theorem send (booked : Booked players store notes) {index : Nat} {socket : SocketId}
    {shine : Int32} {rest : List Int32}
    (found : store.tasks[index]? = some (.sendShines socket (shine :: rest)))
    : Booked players
        { store with
          tasks := store.tasks.eraseIdx index ++ [.recordShine socket shine rest] }
        (notes ++ [.put .synced (players socket) shine]) := by
  have loaded : .sendShines socket (shine :: rest) ∈ loadsOf players store.tasks (players socket) :=
    mem_loadsOf.mpr ⟨List.mem_of_getElem? found, rfl⟩
  have sent
      : Booked players
          { store with
            tasks := store.tasks.eraseIdx index ++ [.recordShine socket shine rest] }
          notes := by
    apply booked.retask
    · intro player
      exact nodup_replaced found rfl (List.Sublist.refl _) (booked.apart player)
    · intro player task loads
      rw [loadsOf_append] at loads
      rcases List.mem_append.mp loads with old | new
      · obtain ⟨pending, of⟩ := mem_loadsOf.mp old
        have member := (mem_of_erased found).mpr (.inr pending)
        exact booked.unheld player task (mem_loadsOf.mpr ⟨member, of⟩)
      · obtain ⟨single, own⟩ := mem_loadsOf.mp new
        obtain rfl := List.mem_singleton.mp single
        obtain rfl := Option.some.inj own
        intro other later
        exact booked.unheld _ _ loaded other (List.mem_cons_of_mem shine later)
    · intro player client other later waits
      obtain ⟨pending, of⟩ := mem_loadsOf.mp waits
      rcases (mem_of_erased found).mp pending with same | still
      · cases same
      · exact .inl (mem_loadsOf.mpr ⟨List.mem_append_left _ still, of⟩)
  have waits
      : .recordShine socket shine rest
        ∈ loadsOf players (store.tasks.eraseIdx index ++ [.recordShine socket shine rest])
            (players socket) :=
    mem_loadsOf.mpr ⟨List.mem_append_right _ (List.mem_singleton_self _), rfl⟩
  apply sent.note
  rintro kind player other put
  obtain ⟨rfl, rfl, rfl⟩ := Entry.put.inj (List.mem_singleton.mp put)
  refine ⟨fun task loads owed => ?_, fun _ => ⟨socket, rest, waits⟩, nofun⟩
  have apart := sent.apart (players socket)
  dsimp only at apart loads
  rw [underwayOf_concat] at apart
  have own
      : PendingTask.underwayTo players (players socket) (.recordShine socket other rest)
        = other :: rest :=
    if_pos rfl
  rw [own] at apart
  obtain ⟨_, single, disjoint⟩ := List.nodup_append.mp apart
  rw [loadsOf_append] at loads
  rcases List.mem_append.mp loads with old | new
  · refine disjoint other ?_ other List.mem_cons_self rfl
    exact mem_underwayOf.mpr ⟨task, old, owed_subset_underway task owed⟩
  · obtain rfl := List.mem_singleton.mp (mem_loadsOf.mp new).1
    exact (List.nodup_cons.mp single).1 owed

/-- A moon that was sent goes into the bag, and its task goes on. -/
theorem record (booked : Booked players store notes) {index : Nat} {socket : SocketId}
    {shine : Int32} {rest : List Int32}
    (found : store.tasks[index]? = some (.recordShine socket shine rest))
    (bagged : shine ∈ (store.players (players socket)).bag)
    : Booked players
        { store with tasks := store.tasks.eraseIdx index ++ [.sendShines socket rest] }
        notes := by
  have loaded : .recordShine socket shine rest ∈ loadsOf players store.tasks (players socket) :=
    mem_loadsOf.mpr ⟨List.mem_of_getElem? found, rfl⟩
  apply booked.retask
  · intro player
    exact nodup_replaced found rfl (List.sublist_cons_self shine rest) (booked.apart player)
  · intro player task loads
    rw [loadsOf_append] at loads
    rcases List.mem_append.mp loads with old | new
    · obtain ⟨pending, of⟩ := mem_loadsOf.mp old
      have member := (mem_of_erased found).mpr (.inr pending)
      exact booked.unheld player task (mem_loadsOf.mpr ⟨member, of⟩)
    · obtain ⟨single, own⟩ := mem_loadsOf.mp new
      obtain rfl := List.mem_singleton.mp single
      obtain rfl := Option.some.inj own
      exact booked.unheld _ (.recordShine socket shine rest) loaded
  · intro player client other later waits
    obtain ⟨pending, of⟩ := mem_loadsOf.mp waits
    rcases (mem_of_erased found).mp pending with same | still
    · obtain ⟨rfl, rfl, rfl⟩ := PendingTask.recordShine.inj same
      obtain rfl := Option.some.inj of
      exact .inr bagged
    · exact .inl (mem_loadsOf.mpr ⟨List.mem_append_left _ still, of⟩)

end Booked

end SmoOnline
