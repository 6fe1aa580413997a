import SmoOnline.Server.MoonLedger

/-! Deliveries of moons. In a run of careful steps no player is sent a moon twice, or one of its
own; without care a moon that is passed on is synced as well.
-/

namespace SmoOnline

open Span Utf8 Runs Ledger

-----------------------------------------------------------------------------------------
-- What a careful step keeps
-----------------------------------------------------------------------------------------

section step

variable {runtime : Runtime} {state next : ServerState} {notes : List MoonEntry} {event : Event}

theorem Unsent.not_owed {player : SocketId} {shine : Int32}
    (unsent : Unsent state notes player shine)
    : ∀ task ∈ loadsOf state.playerOf state.tasks player, shine ∉ task.owed := by
  intro task loads owed
  exact unsent.underway (mem_underwayOf.mpr ⟨task, loads, owed_subset_underway task owed⟩)

/-- A moon that is not in the bag and that nothing else has sent is not in the ledger. -/
theorem Booked.not_holds (booked : Booked state.playerOf state.moonStore notes)
    {player : SocketId} {shine : Int32} (missing : shine ∉ (state.moonStore.players player).bag)
    (unsent : Unsent state notes player shine) (kind : MoonKind)
    : ¬Holds notes kind player shine := by
  cases kind with
  | relayed => exact unsent.relayed
  | synced =>
      intro held
      rcases booked.synced player shine held with bagged | ⟨socket, rest, waits⟩
      · exact missing bagged
      · exact unsent.underway (mem_underwayOf.mpr ⟨_, waits, List.mem_cons_self⟩)
  | reported kept =>
      cases kept with
      | false => exact unsent.unkept
      | true => exact fun held => missing (booked.kept player shine held)

theorem not_mem_owed {player : SocketId} {shine : Int32}
    : shine ∉ state.owed player
      ↔ ∀ task ∈ loadsOf state.playerOf state.tasks player, shine ∉ task.owed := by
  simp [ServerState.owed]

/-- The entries of a moon that is handled: of a report that is kept, if the bag has the moon,
and of those it is passed on to.
-/
theorem Booked.handled {store : MoonStore} (booked : Booked state.playerOf store notes)
    (tasks : store.tasks = state.tasks) {socket : SocketId} {now : Nat} {memory : Bytes}
    {shine : Int32} (careful : CarefulFrame state notes socket)
    (happens : event = .dispatch socket now)
    (dispatching : (state.session socket).phase = .dispatching memory)
    (found : shineIn memory = some shine)
    (kept
      : state.keepsShine socket = true
        → shine ∈ (store.players (state.playerOf socket)).bag)
    (taken : state.step runtime event = some next)
    : Booked state.playerOf store (notes ++ moonNotes state event next) := by
  subst happens
  obtain ⟨relays, noted, passedOn⟩ := ServerState.notes_of_shine dispatching found taken
  rw [noted]
  apply booked.note
  intro kind player other put
  rw [tasks]
  rcases List.mem_cons.mp put with report | relay
  · obtain ⟨rfl, rfl, rfl⟩ := Entry.put.inj report
    have held : state.heldShine socket = some other := by
      simp [ServerState.heldShine, dispatching, found]
    have free := careful.reported other held
    refine ⟨not_mem_owed.mp free, by simp, fun keeps => kept ?_⟩
    exact MoonKind.reported.inj keeps
  · rcases passedOn with rfl | ⟨passed, enabled, rfl⟩
    · exact absurd relay List.not_mem_nil
    · obtain ⟨client, reached, same⟩ := List.mem_map.mp relay
      obtain ⟨rfl, rfl, rfl⟩ := Entry.put.inj same
      have unsent := (careful.relayed shine passed enabled client reached).2
      exact ⟨unsent.not_owed, by simp, by simp⟩

/-- A player's moons change and the bag does not. -/
theorem Booked.update {players : SocketId → SocketId} {store : MoonStore} {player : SocketId}
    {moons : Moons} (booked : Booked players store notes)
    (same : moons.shineSync = (store.players player).shineSync)
    : Booked players { store with players := Function.update store.players player moons }
        notes := by
  apply booked.rebag booked.nodup
  intro kind other shine _ bagged
  rw [Function.update_apply]
  split_ifs with own
  · subst own
    rw [Moons.bag, same]
    exact bagged
  · exact bagged

/-- The bag of a player takes in a moon. -/
theorem Booked.grow {players : SocketId → SocketId} {store : MoonStore} {player : SocketId}
    (booked : Booked players store notes) {playerBag : List Int32}
    (bag : (store.players player).shineSync = some playerBag) (shine : Int32)
    : Booked players
        { store with
          players := Function.update store.players player {
            store.players player with
            shineSync := some (shine :: playerBag)
          } }
        notes := by
  apply booked.rebag booked.nodup
  intro kind other known _ bagged
  rw [Function.update_apply]
  split_ifs with own
  · subst own
    rw [Moons.bag_cons bag]
    exact List.mem_cons_of_mem _ bagged
  · exact bagged

/-- The set and the file change. -/
theorem Booked.restock {players : SocketId → SocketId} {store : MoonStore}
    (booked : Booked players store notes) {shineBag : List Int32} (nodup : shineBag.Nodup)
    (savedShines : List Int32)
    : Booked players { store with shineBag, savedShines } notes :=
  booked.rebag nodup fun _ _ _ _ bagged => bagged

theorem nodup_addShine {shine : Int32} (nodup : state.shineBag.Nodup)
    : (state.addShine shine).shineBag.Nodup := by
  unfold ServerState.addShine
  split_ifs with known
  · exact nodup
  · refine List.nodup_append.mpr ⟨nodup, List.nodup_singleton shine, ?_⟩
    intro left inside right single same
    obtain rfl := List.mem_singleton.mp single
    exact known (same ▸ inside)

theorem nodup_missingShines {socket : SocketId} {shines : List Int32}
    (nodup : state.shineBag.Nodup) (missing : state.missingShines socket = some shines)
    : shines.Nodup ∧ ∀ shine ∈ shines, shine ∉ (state.moonsOf socket).bag := by
  obtain ⟨_, _, clientBag, kept, rfl⟩ := ServerState.missingShines_eq_some.mp missing
  have bag : (state.moonsOf socket).bag = clientBag := by
    rw [Moons.bag, kept]
    rfl
  rw [bag]
  exact ⟨nodup.filter _, fun shine member => of_decide_eq_true (List.mem_filter.mp member).2⟩

/-- Accounts are cleared, and with them the set and the bags of their players. -/
theorem Booked.wipe {players : SocketId → SocketId} {store : MoonStore}
    (booked : Booked players store notes) {entries : List MoonEntry}
    (clears : ∀ kind player shine, .put kind player shine ∉ entries)
    {moons : SocketId → Moons} {savedShines : List Int32}
    (kept : ∀ player, .clear player ∉ entries → moons player = store.players player)
    : Booked players { store with players := moons, shineBag := [], savedShines }
        (notes ++ entries) := by
  have cleared := booked.note fun kind player shine put => absurd put (clears kind player shine)
  apply cleared.rebag List.nodup_nil
  intro kind player shine held bagged
  rcases holds_append.mp held with new | ⟨_, uncleared⟩
  · exact absurd new.mem (clears kind player shine)
  · rwa [kept player uncleared]

/-- A client that is welcomed had no bag, and gets an empty one. -/
theorem Booked.welcome (keyed : Keyed state) (booked : Booked state.playerOf state.moonStore notes)
    {socket : SocketId} {memory : Bytes}
    (calling : (state.session socket).phase = .calling memory) (moons : Moons)
    : Booked state.playerOf
        { state.moonStore with
          players := Function.update state.moonStore.players (state.playerOf socket) moons }
        notes := by
  apply booked.rebag booked.nodup
  intro kind player shine _ bagged
  rw [Function.update_apply]
  split_ifs with own
  · subst own
    have bare := (keyed.calling socket memory calling).1
    have empty : (state.moonsOf socket).shineSync = none := by simpa using bare
    change shine ∈ (state.moonsOf socket).bag at bagged
    rw [Moons.bag, empty] at bagged
    exact absurd bagged List.not_mem_nil
  · exact bagged

/-- An event that handles no frame and runs no task puts nothing down. -/
theorem unnoted_aside (packets : ∀ socket now, event ≠ .dispatch socket now)
    (tasks : ∀ index, event ≠ .task index) (unheard : state.heard event = [])
    (taken : state.step runtime event = some next)
    : notes ++ moonNotes state event next = notes := by
  rw [ServerState.notes_aside taken packets tasks, unheard, List.append_nil]

/-- A packet other than a moon puts nothing down, unless a new save clears a bag. -/
theorem unnoted_packet {socket : SocketId} {now : Nat} {memory : Bytes} {packet : Packet}
    (dispatching : (state.session socket).phase = .dispatching memory)
    (decoded : decodeFrame memory = some packet) (noShine : packet.kind ≠ .shine)
    (noSave : ¬state.startsSave socket = true)
    (taken : state.step runtime (.dispatch socket now) = some next)
    : notes ++ moonNotes state (.dispatch socket now) next = notes := by
  have noMoon : shineIn memory = none := by
    apply ServerState.shineIn_eq_none
    rintro shine found
    obtain rfl := Option.some.inj (decoded.symm.trans found)
    exact noShine rfl
  rw [ServerState.notes_of_other dispatching noMoon taken, if_neg noSave, List.append_nil]

/-- A task puts nothing down, unless it sends a moon. -/
theorem unnoted_task {index : Nat} {task : PendingTask}
    (found : state.tasks[index]? = some task)
    (nothing
      : ∀ socket shine rest,
          task = .sendShines socket (shine :: rest)
          → ¬((state.session socket).connected = true
              ∧ (state.session socket).socketConnected = true))
    (taken : state.step runtime (.task index) = some next)
    : notes ++ moonNotes state (.task index) next = notes := by
  rcases ServerState.notes_task taken with ⟨socket, shine, rest, again, connected, isOpen, _⟩
    | ⟨none, _⟩
  · obtain rfl := Option.some.inj (found.symm.trans again)
    exact absurd ⟨connected, isOpen⟩ (nothing socket shine rest rfl)
  · rw [none, List.append_nil]

/-- A client that has lost its connection is sent no moon. -/
theorem unnoted_stop {index : Nat} {socket : SocketId} {shine : Int32} {rest : List Int32}
    (found : state.tasks[index]? = some (.sendShines socket (shine :: rest)))
    (gone
      : ((state.session socket).connected && (state.session socket).socketConnected) = false)
    (taken : state.step runtime (.task index) = some next)
    : notes ++ moonNotes state (.task index) next = notes := by
  refine unnoted_task found ?_ taken
  intro client other later same both
  obtain ⟨rfl, _⟩ := PendingTask.sendShines.inj same
  rw [Bool.and_eq_true_iff.mpr both] at gone
  cases gone

/-- A client that is connected is sent the first moon of its loop. -/
theorem notes_of_send {index : Nat} {socket : SocketId} {shine : Int32} {rest : List Int32}
    (found : state.tasks[index]? = some (.sendShines socket (shine :: rest)))
    (there
      : (state.session socket).connected = true
        ∧ (state.session socket).socketConnected = true)
    (taken : state.step runtime (.task index) = some next)
    : moonNotes state (.task index) next = [.put .synced (state.playerOf socket) shine] := by
  rcases ServerState.notes_task taken with ⟨client, other, later, again, _, _, noted⟩
    | ⟨_, nothing⟩
  · obtain ⟨rfl, both⟩ := PendingTask.sendShines.inj (Option.some.inj (found.symm.trans again))
    obtain ⟨rfl, rfl⟩ := List.cons.inj both
    exact noted
  · exact absurd there (nothing socket shine rest found)

/-- The stage of a new save clears the account of a player who has a bag. -/
theorem Booked.newSave (booked : Booked state.playerOf state.moonStore notes) {socket : SocketId}
    {now : Nat} {memory : Bytes} {packet : GamePacket} {moons : Moons}
    (dispatching : (state.session socket).phase = .dispatching memory)
    (decoded : decodeFrame memory = some (.game packet))
    (enters : packet.stage = "CapWorldHomeStage".toList ∧ packet.scenarioNum = 0)
    (cleared : moons.shineSync = (state.moonsOf socket).shineSync.map fun _ => [])
    (taken : state.step runtime (.dispatch socket now) = some next)
    : Booked state.playerOf
        { state.moonStore with
          players := Function.update state.moonStore.players (state.playerOf socket) moons
          shineBag := if (state.moonsOf socket).shineSync.isSome then [] else state.shineBag }
        (notes ++ moonNotes state (.dispatch socket now) next) := by
  have noMoon : shineIn memory = none := by
    apply ServerState.shineIn_eq_none
    simp [decoded]
  rw [ServerState.notes_of_other dispatching noMoon taken,
    if_congr (ServerState.startsSave_of_game dispatching decoded) rfl rfl]
  cases bag : (state.moonsOf socket).shineSync with
  | none =>
      simp only [Option.isSome_none, Bool.false_eq_true, and_false, if_false, List.append_nil]
      rw [bag] at cleared
      exact booked.update (cleared.trans bag.symm)
  | some playerBag =>
      simp only [enters, and_self, Option.isSome_some, if_true]
      apply booked.wipe
      · simp
      · intro player uncleared
        have apart : player ≠ state.playerOf socket := by simpa using uncleared
        rw [Function.update_of_ne apart]

/-- A moon that is new to the bag goes there before it is put down as kept. -/
theorem Booked.collect (booked : Booked state.playerOf state.moonStore notes) {socket : SocketId}
    {now : Nat} {memory : Bytes} {packet : ShinePacket} {playerBag : List Int32}
    (careful : CarefulFrame state notes socket)
    (dispatching : (state.session socket).phase = .dispatching memory)
    (decoded : decodeFrame memory = some (.shine packet))
    (bag : (state.moonsOf socket).shineSync = some playerBag)
    (taken : state.step runtime (.dispatch socket now) = some next)
    : Booked state.playerOf
        { players := Function.update state.moonStore.players (state.playerOf socket) {
            state.moonsOf socket with
            shineSync := some (packet.shineId :: playerBag)
          }
          shineBag := (state.addShine packet.shineId).shineBag
          savedShines := (state.addShine packet.shineId).persistShines.savedShines
          tasks := state.tasks ++ [.syncShineBag] }
        (notes ++ moonNotes state (.dispatch socket now) next) := by
  have own : (state.moonStore.players (state.playerOf socket)).shineSync = some playerBag := bag
  have grown :=
    (booked.grow own packet.shineId).restock
      (@nodup_addShine state packet.shineId booked.nodup)
      (state.addShine packet.shineId).persistShines.savedShines
  have bagged
      : packet.shineId
        ∈ (Function.update state.moonStore.players (state.playerOf socket) {
            state.moonsOf socket with
            shineSync := some (packet.shineId :: playerBag)
          } (state.playerOf socket)).bag := by
    rw [Function.update_self]
    exact List.mem_cons_self
  have noted :=
    grown.handled rfl careful rfl dispatching (shineIn_eq_some.mpr decoded) (fun _ => bagged)
      taken
  exact noted.addIdle (by simp [PendingTask.loader?])

/-- The bags tell of the ledger behind every step, by what the step makes of the moons. -/
theorem Booked.moons (keyed : Keyed state)
    (booked : Booked state.playerOf state.moonStore notes)
    (careful : Careful (state, notes) event) (taken : state.step runtime event = some next)
    : Booked state.playerOf next.moonStore (notes ++ moonNotes state event next) := by
  have moons := ServerState.step_moons taken
  generalize next.moonStore = store at moons
  cases moons with
  | rest leaves =>
      rcases leaves with other | ⟨socket, now, memory, rfl, dispatching, noGame, unkept⟩
      · rw [unnoted_aside (by rintro _ _ rfl; cases other) (by rintro _ rfl; cases other)
          (by cases event <;> first | rfl | cases other) taken]
        exact booked
      · cases found : shineIn memory with
        | none =>
            rw [ServerState.notes_of_other dispatching found taken,
              ServerState.startsSave_of_other dispatching noGame, if_neg Bool.false_ne_true,
              List.append_nil]
            exact booked
        | some shine =>
            have lost := unkept _ (shineIn_eq_some.mp found)
            refine booked.handled rfl careful rfl dispatching found (fun keeps => ?_) taken
            rw [lost] at keeps
            cases keeps
  | leave =>
      rw [unnoted_aside (by simp) (by simp) rfl taken]
      exact booked.addIdle (by simp [PendingTask.loader?])
  | @welcome socket memory calling =>
      rw [unnoted_aside (by simp) (by simp) rfl taken]
      exact booked.welcome keyed calling _
  | newSave memory packet dispatching decoded enters =>
      exact booked.newSave dispatching decoded enters rfl taken
  | @cascade socket now memory packet wasSpeedrun dispatching decoded enters was =>
      have noSave : ¬state.startsSave socket = true := by
        rw [ServerState.startsSave_of_game dispatching decoded, enters]
        simp
      rw [unnoted_packet dispatching decoded (by simp [Packet.kind]) noSave taken]
      refine (booked.update ?_).addIdle ?_
      · rfl
      · split_ifs <;> simp [PendingTask.loader?]
  | @play socket now memory packet dispatching decoded elsewhere =>
      have noSave : ¬state.startsSave socket = true := by
        rw [ServerState.startsSave_of_game dispatching decoded]
        exact fun both => elsewhere both.1
      rw [unnoted_packet dispatching decoded (by simp [Packet.kind]) noSave taken]
      exact booked.update rfl
  | dress memory packet dispatching decoded =>
      have noSave := ServerState.startsSave_of_other dispatching (by simp [decoded])
      rw [unnoted_packet dispatching decoded (by simp [Packet.kind]) (by simp [noSave]) taken]
      refine (booked.update ?_).addIdle ?_
      · rfl
      · simp [PendingTask.loader?]
  | @collectKnown socket now memory packet playerBag dispatching decoded enabled loaded bag
      known =>
      have found := shineIn_eq_some.mpr decoded
      have grown := booked.restock (@nodup_addShine state packet.shineId booked.nodup)
        state.savedShines
      refine grown.handled rfl careful rfl dispatching found (fun _ => ?_) taken
      have kept : (state.moonsOf socket).bag = playerBag := by
        rw [Moons.bag, bag]
        rfl
      exact kept ▸ known
  | collect memory packet playerBag dispatching decoded enabled loaded bag unknown =>
      exact booked.collect careful dispatching decoded bag taken
  | timer =>
      rw [unnoted_aside (by simp) (by simp) rfl taken]
      have saved := booked.restock booked.nodup state.persistShines.savedShines
      exact saved.addIdle (by simp [PendingTask.loader?])
  | farewell socket found =>
      rw [unnoted_task found (by simp) taken]
      exact booked.erase found (by simp)
  | fanOut found =>
      rw [unnoted_task found (by simp) taken]
      refine (booked.erase found (by simp)).addIdle ?_
      rintro task member
      obtain ⟨client, _, rfl⟩ := List.mem_map.mp member
      rfl
  | decline socket found =>
      rw [unnoted_task found (by simp) taken]
      exact booked.erase found (by simp)
  | @begin index socket shines found missing =>
      rw [unnoted_task found (by simp) taken]
      obtain ⟨nodup, unbagged⟩ := nodup_missingShines booked.nodup missing
      have unsent := careful socket found shines missing
      apply booked.load found rfl nodup
      · exact fun shine member => (unsent shine member).underway
      · exact fun shine member => booked.not_holds (unbagged shine member) (unsent shine member)
  | finish socket found =>
      rw [unnoted_task found (by simp) taken]
      exact booked.erase found (by simp)
  | stop socket shine rest found gone =>
      rw [unnoted_stop found gone taken]
      exact booked.erase found (by simp)
  | send socket shine rest found there =>
      rw [notes_of_send found there taken]
      exact booked.send found
  | @record index socket shine rest found =>
      rw [unnoted_task found (by simp) taken]
      have loaded := keyed.loaded _ (List.mem_of_getElem? found) socket rfl
      obtain ⟨playerBag, bag⟩ := Option.isSome_iff_exists.mp loaded
      have own : (state.moonStore.players (state.playerOf socket)).shineSync = some playerBag := bag
      have grown := booked.grow own shine
      rw [bag]
      refine grown.record found ?_
      dsimp only
      rw [Function.update_self]
      exact List.mem_cons_self
  | clear =>
      rw [ServerState.notes_aside taken (by simp) (by simp)]
      apply booked.wipe
      · simp [ServerState.heard]
      · intro player uncleared
        refine if_neg ?_
        intro own
        obtain ⟨client, member, rfl⟩ := List.mem_map.mp own
        exact uncleared (List.mem_map.mpr ⟨client, member, rfl⟩)

/-- The ledger and the bags behind a careful step. -/
theorem Booked.step (tidy : Tidy state) (keyed : Keyed state)
    (booked : Booked state.playerOf state.moonStore notes)
    (careful : Careful (state, notes) event) (taken : state.step runtime event = some next)
    : Booked next.playerOf next.moonStore (notes ++ moonNotes state event next) := by
  apply (booked.moons keyed careful taken).congr
  intro task pending socket loads
  have serves := PendingTask.client?_of_loader? loads
  exact ServerState.playerOf_joined tidy taken (task_served tidy keyed taken pending serves)

/-- Clients of the table are of different players. -/
theorem playerOf_injective (tidy : Tidy state) {left right : SocketId}
    (leftEntry : left ∈ state.clients) (rightEntry : right ∈ state.clients)
    (same : state.playerOf left = state.playerOf right)
    : left = right := by
  rcases tidy.shared left right same with equal | ⟨id, _⟩
  · exact equal
  · exact tidy.distinct left leftEntry right rightEntry id

theorem mem_reached {sender client : SocketId} (reached : client ∈ state.reached sender)
    : client ∈ state.clients ∧ (state.session client).id ≠ (state.session sender).id := by
  obtain ⟨recipient, _⟩ := List.mem_filter.mp reached
  obtain ⟨entry, _, apart⟩ := ServerState.mem_recipients.mp recipient
  exact ⟨entry, apart⟩

/-- A moon passed on goes to each player once, and not to the one who has reported it. -/
theorem relays_apart (tidy : Tidy state) {sender : SocketId} {shine : Int32} (kept : Bool)
    : (Entry.put (MoonKind.reported kept) (state.playerOf sender) shine
        :: (state.reached sender).map fun client =>
            .put .relayed (state.playerOf client) shine).Pairwise
        fun left right =>
          ∀ earlier kind player item,
            left = .put earlier player item → right = .put kind player item
            → ¬MoonKind.Delivers kind := by
  have nodup : (state.reached sender).Nodup :=
    (ServerState.recipients_nodup tidy sender).filter _
  apply List.pairwise_cons.mpr
  constructor
  · rintro entry relay earlier kind player item report same _
    obtain ⟨client, reached, rfl⟩ := List.mem_map.mp relay
    obtain ⟨_, rfl, _⟩ := Entry.put.inj report
    obtain ⟨_, own, _⟩ := Entry.put.inj same
    obtain ⟨_, apart⟩ := mem_reached reached
    rcases tidy.shared client sender own with rfl | ⟨id, _⟩
    · exact apart rfl
    · exact apart id
  · rw [List.pairwise_map]
    refine List.Pairwise.imp_of_mem ?_ nodup
    intro left right leftReached rightReached differ earlier kind player item first second _
    obtain ⟨_, rfl, _⟩ := Entry.put.inj first
    obtain ⟨_, own, _⟩ := Entry.put.inj second
    exact differ (playerOf_injective tidy (mem_reached leftReached).1
      (mem_reached rightReached).1 own.symm)

/-- A careful step delivers nothing that the ledger holds, and nothing twice. -/
theorem onceOnly_step (tidy : Tidy state)
    (booked : Booked state.playerOf state.moonStore notes)
    (careful : Careful (state, notes) event) (taken : state.step runtime event = some next)
    (once : OnceOnly MoonKind.Delivers notes)
    : OnceOnly MoonKind.Delivers (notes ++ moonNotes state event next) := by
  -- entries that put nothing down keep the order
  have unput {more : List MoonEntry} (none : ∀ kind player shine, .put kind player shine ∉ more)
      : OnceOnly MoonKind.Delivers (notes ++ more) := by
    apply once.append
    · exact fun kind player shine put => absurd put (none kind player shine)
    · apply List.pairwise_of_forall_mem_list
      rintro left member _ _ earlier _ player shine rfl
      exact absurd member (none earlier player shine)
  cases event with
  | dispatch socket now =>
      obtain ⟨memory, dispatching, _⟩ := ServerState.dispatch_cases taken
      cases found : shineIn memory with
      | none =>
          rw [ServerState.notes_of_other dispatching found taken]
          apply unput
          intro kind player shine put
          split_ifs at put <;> simp at put
      | some shine =>
          obtain ⟨relays, noted, passedOn⟩ :=
            ServerState.notes_of_shine dispatching found taken
          rw [noted]
          rcases passedOn with rfl | ⟨passed, enabled, rfl⟩
          · apply once.append
            · intro kind player other put delivers
              obtain ⟨rfl, _⟩ := Entry.put.inj (List.mem_singleton.mp put)
              exact absurd delivers id
            · exact List.pairwise_singleton _ _
          · apply once.append
            · intro kind player other put delivers
              rcases List.mem_cons.mp put with report | relay
              · obtain ⟨rfl, _⟩ := Entry.put.inj report
                exact absurd delivers id
              · obtain ⟨client, reached, same⟩ := List.mem_map.mp relay
                obtain ⟨_, rfl, rfl⟩ := Entry.put.inj same
                obtain ⟨missing, unsent⟩ := careful.relayed shine passed enabled client reached
                exact booked.not_holds missing unsent
            · exact relays_apart tidy _
  | task index =>
      rcases ServerState.notes_task taken with ⟨socket, shine, rest, found, _, _, noted⟩ | ⟨none, _⟩
      · rw [noted]
        apply once.append
        · intro kind player other put _
          obtain ⟨rfl, rfl, rfl⟩ := Entry.put.inj (List.mem_singleton.mp put)
          have loaded
              : .sendShines socket (other :: rest)
                ∈ loadsOf state.playerOf state.tasks (state.playerOf socket) :=
            mem_loadsOf.mpr ⟨List.mem_of_getElem? found, rfl⟩
          exact booked.unheld _ _ loaded other List.mem_cons_self
        · exact List.pairwise_singleton _ _
      · rw [none]
        exact unput fun _ _ _ put => absurd put List.not_mem_nil
  | shineClear =>
      rw [ServerState.notes_aside taken (by simp) (by simp)]
      exact unput (by simp [ServerState.heard])
  | _ =>
      rw [ServerState.notes_aside taken (by simp) (by simp)]
      exact unput fun _ _ _ put => absurd put List.not_mem_nil

end step

-----------------------------------------------------------------------------------------
-- Careful runs
-----------------------------------------------------------------------------------------

/-- In a run whose steps are careful, no player is sent a moon that it was sent or has reported
since its bag was cleared last. The set that the server starts with has no moon twice.
-/
theorem deliversOnce_of_run {runtime : Runtime} {settings : Settings} {shines : List Int32}
    (nodup : shines.Nodup) {events : List Event} {state : ServerState} {notes : List MoonEntry}
    (run
      : Run (ledgerStep runtime) Careful (.initial settings shines, []) events (state, notes))
    : OnceOnly MoonKind.Delivers notes := by
  let Kept := fun recorded : ServerState × List MoonEntry =>
    Booked recorded.1.playerOf recorded.1.moonStore recorded.2
    ∧ OnceOnly MoonKind.Delivers recorded.2
  have start : Kept (.initial settings shines, []) := by
    refine ⟨?_, onceOnly_nil⟩
    exact {
      nodup := nodup
      apart := fun _ => List.nodup_nil
      unheld := fun _ _ loads => absurd loads List.not_mem_nil
      synced := fun _ _ held => absurd held not_holds_nil
      kept := fun _ _ held => absurd held not_holds_nil
    }
  have kept : Kept (state, notes) := by
    refine run.invariant_using
      (fun before => And.intro (Tidy.of_run before.forget) (Keyed.of_run before.forget)) start ?_
    rintro ⟨before, noted⟩ event ⟨after, more⟩ ⟨tidy, keyed⟩ ⟨booked, once⟩ careful taken
    obtain ⟨stepped, same⟩ := recording_cases taken
    dsimp only at stepped same
    subst same
    exact ⟨booked.step tidy keyed careful stepped, onceOnly_step tidy booked careful stepped once⟩
  exact kept.2

/-- A test that passes careful steps only. -/
def carefulCheck (recorded : ServerState × List MoonEntry) : Event → Bool
  | .dispatch socket _ => CarefulFrame recorded.1 recorded.2 socket
  | .task index =>
      match recorded.1.tasks[index]? with
      | some (.clientSyncShineBag socket) => CarefulSync recorded.1 recorded.2 socket
      | _ => true
  | _ => true

theorem careful_of_check (recorded : ServerState × List MoonEntry) (event : Event)
    (checked : carefulCheck recorded event = true)
    : Careful recorded event := by
  cases event with
  | dispatch socket now =>
      rw [carefulCheck, decide_eq_true_iff] at checked
      exact checked
  | task index =>
      intro socket found
      simp only [carefulCheck, found, decide_eq_true_iff] at checked
      exact checked
  | _ => trivial

def stagePacket : Packet :=
  .game { is2d := false, scenarioNum := 1, stage := "SandWorldHomeStage".toList }

/-- Mario collects moon 5 alone, and Luigi, who comes in later, is sent it once. -/
theorem late_luigi_gets_moon_once
    : ∃ state notes,
        Run (ledgerStep .pooled) Careful (.initial {} [], [])
          (arrival .pooled 1 ⟨7⟩ .firstConnection "Mario".toList []
            ++ exchange 1 ⟨7⟩ costumePacket
            ++ exchange 1 ⟨7⟩ (.shine { shineId := 5 })
            ++ arrival .pooled 2 ⟨8⟩ .firstConnection "Luigi".toList [1]
            ++ exchange 2 ⟨8⟩ stagePacket
            ++ [.task 1, .task 1, .task 1, .task 1, .task 1])
          (state, notes)
        ∧ notes = [.put (.reported true) 1 5, .put .synced 2 5]
        ∧ OnceOnly MoonKind.Delivers notes := by
  have executes
      : (executeChecked (ledgerStep .pooled) carefulCheck (.initial {} [], [])
          (arrival .pooled 1 ⟨7⟩ .firstConnection "Mario".toList []
            ++ exchange 1 ⟨7⟩ costumePacket
            ++ exchange 1 ⟨7⟩ (.shine { shineId := 5 })
            ++ arrival .pooled 2 ⟨8⟩ .firstConnection "Luigi".toList [1]
            ++ exchange 2 ⟨8⟩ stagePacket
            ++ [.task 1, .task 1, .task 1, .task 1, .task 1])).any
          (fun recorded => recorded.2 = [.put (.reported true) 1 5, .put .synced 2 5])
        = true := by decide +kernel
  obtain ⟨⟨state, notes⟩, executed, holds⟩ := (Option.any_eq_true _ _).mp executes
  have run := executeChecked_run careful_of_check executed
  exact ⟨state, notes, run, of_decide_eq_true holds, deliversOnce_of_run List.nodup_nil run⟩

/-- Both are in the game. The moon that Mario collects is passed on to Luigi, and moon sync,
whose bag for Luigi has no word of it, sends it to him again.
-/
theorem luigi_gets_moon_twice
    : ∃ state notes,
        AnyRun (ledgerStep .pooled) (.initial {} [], [])
          (duet
            ++ exchange 2 ⟨8⟩ stagePacket
            ++ exchange 1 ⟨7⟩ costumePacket
            ++ exchange 1 ⟨7⟩ (.shine { shineId := 5 })
            ++ [.task 1, .task 1, .task 1])
          (state, notes)
        ∧ notes = [.put (.reported true) 1 5, .put .relayed 2 5, .put .synced 2 5]
        ∧ ¬OnceOnly MoonKind.Delivers notes := by
  obtain ⟨⟨state, notes⟩, run, same⟩ :=
    @exists_run _ _ (ledgerStep .pooled) (.initial {} [], [])
      (duet
        ++ exchange 2 ⟨8⟩ stagePacket
        ++ exchange 1 ⟨7⟩ costumePacket
        ++ exchange 1 ⟨7⟩ (.shine { shineId := 5 })
        ++ [.task 1, .task 1, .task 1])
      (fun recorded =>
        recorded.2 = [.put (.reported true) 1 5, .put .relayed 2 5, .put .synced 2 5])
      _ (by decide +kernel)
  refine ⟨state, notes, run, same, fun once => ?_⟩
  have again := once [.put (.reported true) 1 5, .put .relayed 2 5] .synced 2 5 [] same trivial
  exact again .relayed (by decide)

end SmoOnline
