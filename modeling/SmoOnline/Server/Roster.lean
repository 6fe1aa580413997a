import SmoOnline.Server.Entries
import SmoOnline.Server.News

/-! What the players know of each other when nothing is left to do. A Connect frame is passed
on by the handler that read it and a goodbye is broadcast by a task of the handler that ended,
and nothing orders the two when a player reconnects.
-/

namespace SmoOnline

open Span Utf8 Runs

/-- Another player has been in the game since before the client of an entry came in, connected
and over an open socket.
-/
structure ServerState.Watches (state : ServerState) (other client : SocketId) : Prop where
  before : [other, client].Sublist state.clients
  connected : (state.session other).connected = true
  isOpen : (state.session other).socketConnected = true

/-- Some session of the Id has its goodbye still to come. -/
def ServerState.OwesFarewell (state : ServerState) (id : Guid) : Prop :=
  ∃ socket,
    (state.session socket).id = id
    ∧ ((state.session socket).connected = true ∨ socket ∈ state.farewells)

/-- The handler has passed its Connect frame on and is still in the game. -/
def Phase.announced : Phase → Bool
  | .reading false => true
  | .dispatching memory =>
      (PacketHeader.deserialize memory).any fun header => header.type != .connect
  | _ => false

/-- Nobody in the game sends a Connect or a Disconnect packet. -/
def SpeaksOfGame (state : ServerState) : Event → Prop
  | .receive socket memory =>
      (state.session socket).phase = .reading false
      → ∀ header ∈ PacketHeader.deserialize memory,
          header.type ≠ .connect ∧ header.type ≠ .disconnect
  | _ => True

/-- The step does not mix up the news of a player: no goodbye goes to somebody who has been
passed the Connect frame of a later session, and nobody is told of a player in a replay after
the last goodbye of a session that came in after him.
-/
def KeepsRoster (state : ServerState) : Event → Prop
  | .task index =>
      ∀ left,
        state.tasks[index]? = some (.farewell left)
        → ∀ other client,
            state.Watches other client
            → (state.session client).id = (state.session left).id
            → (state.session client).phase.announced = false
  | .replay joiner other =>
      ∀ client,
        state.Watches joiner client
        → (state.session client).id = (state.session other).id
        → (state.session client).phase = .ended
        → state.OwesFarewell (state.session other).id
  | event => SpeaksOfGame state event

/-- No handler has a step to take: each waits for its peer or has ended, and no goodbye is
still to be broadcast.
-/
structure Settled (state : ServerState) : Prop where
  handlers
    : ∀ socket,
        (state.session socket).phase = .idle
        ∨ (state.session socket).phase = .ended
        ∨ ∃ first,
            (state.session socket).phase = .reading first
            ∧ (state.session socket).socketConnected = true
  farewells : state.farewells = []

/-- What a player was told last of another agrees with the other's entry in the table. -/
def RosterAgrees (state : ServerState) (other client : SocketId) : Prop :=
  if (state.session client).connected = true then
    state.lastNews other (state.session client).id = some .connect
  else state.lastNews other (state.session client).id ≠ some .connect

-----------------------------------------------------------------------------------------
-- Who watches whom
-----------------------------------------------------------------------------------------

/-- Who watches a client that is past its entry has watched it before the step. -/
theorem ServerState.Watches.earlier {runtime : Runtime} {state next : ServerState}
    {event : Event} (tidy : Tidy state) (taken : state.step runtime event = some next)
    {other client : SocketId} (watches : next.Watches other client)
    (past : (next.session client).phase.entering = none)
    : state.Watches other client := by
  obtain ⟨before, connected, isOpen⟩ := watches
  have earlier : [other, client].Sublist state.clients := by
    rcases (step_effect tidy taken).clients with same | ⟨joiner, _, entering, table⟩
    · exact same ▸ before
    · have apart : client ≠ joiner := by
        rintro rfl
        rw [past] at entering
        cases entering
      rcases table with table | ⟨oldClient, table⟩
      · exact sublist_of_concat (table ▸ before) apart
      · exact (sublist_of_concat (table ▸ before) apart).trans List.erase_sublist
  have entry : other ∈ state.clients := earlier.subset List.mem_cons_self
  obtain ⟨wasConnected, wasOpen⟩ :=
    heard_before tidy taken (tidy.joined_of_mem entry) connected isOpen
  exact ⟨earlier, wasConnected, wasOpen⟩

-----------------------------------------------------------------------------------------
-- What the players know in every reachable state
-----------------------------------------------------------------------------------------

/-- Who watches a player that has been announced was told last that he connected, and who
watches one that left may be told so last only while a goodbye is owed.
-/
structure RosterKept (state : ServerState) : Prop where
  genuine : ∀ socket, (state.session socket).Genuine
  entries
    : ∀ socket ∈ state.clients,
        (state.session socket).phase ≠ .ended → (state.session socket).connected = true
  present
    : ∀ other client,
        state.Watches other client
        → (state.session client).phase.announced = true
        → state.lastNews other (state.session client).id = some .connect
  departed
    : ∀ other client,
        state.Watches other client
        → (state.session client).phase = .ended
        → state.lastNews other (state.session client).id = some .connect
        → state.OwesFarewell (state.session client).id

theorem ServerState.Watches.entry {state : ServerState} {other client : SocketId}
    (watches : state.Watches other client)
    : client ∈ state.clients :=
  watches.before.subset (by simp)

theorem ServerState.Watches.otherEntry {state : ServerState} {other client : SocketId}
    (watches : state.Watches other client)
    : other ∈ state.clients :=
  watches.before.subset (by simp)

/-- Who watches a client hears what is broadcast for a session of the client's Id. -/
theorem ServerState.Watches.recipient {state : ServerState} (tidy : Tidy state)
    {other client sender : SocketId} (watches : state.Watches other client)
    (own : (state.session sender).id = (state.session client).id)
    : other ∈ state.recipients sender := by
  refine mem_recipients.mpr ⟨watches.otherEntry, watches.connected, fun same => ?_⟩
  have one := tidy.distinct other watches.otherEntry client watches.entry (same.trans own)
  have apart := watches.before.nodup tidy.nodup
  simp [one] at apart

theorem RosterKept.initial (settings : Settings) (shines : List Int32)
    : RosterKept (.initial settings shines) where
  genuine _ _ _ dispatching := by cases dispatching
  entries _ member := absurd member List.not_mem_nil
  present _ _ watches := absurd watches.entry List.not_mem_nil
  departed _ _ watches := absurd watches.entry List.not_mem_nil

section keeping

variable {runtime : Runtime} {state next : ServerState} {event : Event}

theorem RosterKept.genuine_step (tidy : Tidy state) (seated : Seated state)
    (kept : RosterKept state) (keeps : KeepsRoster state event)
    (taken : state.step runtime event = some next) (socket : SocketId)
    : (next.session socket).Genuine := by
  intro memory header dispatching read
  rcases ServerState.step_change tidy taken socket with ⟨_, same⟩ | change
  · rw [same.id]
    exact kept.genuine socket memory header (same.phase ▸ dispatching) read
  · cases change with
    | accept _ phase => rw [phase] at dispatching; cases dispatching
    | endRead _ _ phase => rw [phase] at dispatching; cases dispatching
    | refuse _ _ _ phase => rw [phase] at dispatching; cases dispatching
    | snapshot _ _ _ phase => rw [phase] at dispatching; cases dispatching
    | replay _ _ _ _ _ _ phase => rw [phase] at dispatching; cases dispatching
    | dispatch _ _ phase => rw [phase] at dispatching; cases dispatching
    | epilogue _ phase => rw [phase] at dispatching; cases dispatching
    | enter _ _ _ _ _ phase =>
        rcases phase with phase | phase <;> rw [phase] at dispatching <;> cases dispatching
    | clientJoined _ _ phase =>
        rw [phase] at dispatching
        split_ifs at dispatching
    | @receive received first was phase =>
        rw [phase] at dispatching
        cases checked : inbound first (state.session socket).id received with
        | refused => simp [checked] at dispatching
        | joining connect => simp [checked] at dispatching
        | packet =>
            simp only [checked, Phase.dispatching.injEq] at dispatching
            subst dispatching
            obtain ⟨rfl, _⟩ := inbound_packet checked
            obtain ⟨notConnect, notDisconnect⟩ := keeps was header read
            exact ⟨notDisconnect, fun connect => absurd connect notConnect⟩
    | replayDone held _ _ was phase id =>
        obtain ⟨counted, greets, own⟩ :=
          (seated.sound socket).entering held (by rw [was]; rfl)
        rcases phase with phase | phase
        · rw [phase] at dispatching
          cases dispatching
        · obtain rfl := Phase.dispatching.inj (phase.symm.trans dispatching)
          obtain rfl := Option.some.inj (read.symm.trans greets.framed.read)
          refine ⟨by rw [greets.type]; nofun, fun _ => ⟨own.trans id.symm, greets.whole⟩⟩

theorem RosterKept.entries_step (tidy : Tidy state) (seated : Seated next)
    (kept : RosterKept state) (taken : state.step runtime event = some next)
    {socket : SocketId} (entry : socket ∈ next.clients)
    (running : (next.session socket).phase ≠ .ended)
    : (next.session socket).connected = true := by
  rcases ServerState.entry_before tidy taken entry with before | ⟨_, entering⟩
  · have joined := tidy.joined_of_mem before
    have connected := kept.entries socket before fun ended =>
      running (ServerState.ended_kept tidy taken ended)
    rcases ServerState.step_change tidy taken socket with ⟨_, same⟩ | change
    · exact same.connected.trans connected
    · rcases ServerState.connected_kept tidy taken joined with same | ⟨rfl, _⟩
      · exact same.trans connected
      · cases change with
        | epilogue _ phase => exact absurd phase running
  · refine (seated.sound socket).connected ?_
    cases phase : (next.session socket).phase <;> simp_all [Phase.entering, Phase.seated]

/-- A goodbye that is owed stays owed until it is broadcast. -/
theorem ServerState.OwesFarewell.kept (tidy : Tidy state) (seated : Seated state)
    (taken : state.step runtime event = some next) {id : Guid} (owes : state.OwesFarewell id)
    : next.OwesFarewell id
      ∨ ∃ index left,
          event = .task index
          ∧ state.tasks[index]? = some (.farewell left)
          ∧ (state.session left).id = id := by
  obtain ⟨left, own, connected | pending⟩ := owes
  · have joined := tidy.joined_of_connected connected
    have id := (joined_kept tidy taken joined).2.trans own
    rcases connected_kept tidy taken joined with same | ⟨leaving, _⟩
    · exact .inl ⟨left, id, .inl (same.trans connected)⟩
    · exact .inl ⟨left, id, .inr ((step_effect tidy taken).leaves left leaving connected)⟩
  · have joined : (state.session left).phase.fresh = false := by
      rw [seated.farewell left pending]
      rfl
    have id := (joined_kept tidy taken joined).2.trans own
    rcases (step_effect tidy taken).farewells left pending with still | ⟨index, task, found⟩
    · exact .inl ⟨left, id, .inr still⟩
    · exact .inr ⟨index, left, task, found, own⟩

/-- A Connect frame that is passed on reaches who watches its player. -/
theorem connect_told (tidy : Tidy state) (seated : Seated state)
    (genuine : ∀ socket, (state.session socket).Genuine) {now : Nat} {other client : SocketId}
    {memory : Bytes} {header : PacketHeader}
    (taken : state.step runtime (.dispatch client now) = some next)
    (dispatching : (state.session client).phase = .dispatching memory)
    (read : PacketHeader.deserialize memory = some header) (type : header.type = .connect)
    (watches : state.Watches other client)
    : next.lastNews other (state.session client).id = some .connect := by
  obtain ⟨own, whole⟩ := (genuine client memory header dispatching read).2 type
  obtain ⟨counted, framed, _⟩ := (seated.sound client).dispatching memory dispatching
  obtain rfl := Option.some.inj (read.symm.trans framed.read)
  obtain ⟨held, was, result⟩ := ServerState.dispatch_cases taken
  obtain rfl := Phase.dispatching.inj (dispatching.symm.trans was)
  have relayed := framed.relayedFrame
  obtain ⟨writes, sent, written⟩ := ServerState.relay_written
    (@connect_passedOn runtime state now client memory header read type) read relayed
    (watches.recipient tidy rfl) watches.isOpen
  have tells := @news_of_read ⟨other, _, .relay client⟩ _
    (deserialize_relayedFrame read relayed whole)
  rw [if_pos type] at tells
  obtain ⟨last, told, source⟩ :=
    lastNews_of_written genuine taken (result ▸ sent) written tells
  cases source
  exact own ▸ told

/-- A goodbye reaches who watches a client of its Id. -/
theorem farewell_told (tidy : Tidy state)
    (genuine : ∀ socket, (state.session socket).Genuine) {index : Nat}
    {other client left : SocketId} (taken : state.step runtime (.task index) = some next)
    (pending : state.tasks[index]? = some (.farewell left))
    (own : (state.session left).id = (state.session client).id)
    (watches : state.Watches other client)
    : next.lastNews other (state.session client).id = some .disconnect := by
  obtain ⟨task, found, result⟩ := ServerState.task_cases taken
  obtain rfl := Option.some.inj (pending.symm.trans found)
  have completes : (runtime.filled (state.session left).id (.disconnect {})).2 = true :=
    runtime.filled_completes _ trivial nofun
  have sent
      : next.sent
        = state.sent
          ++ state.broadcastPacket runtime (.disconnect {}) left (.farewell left) :=
    result ▸ rfl
  have written
      : { socket := other
          data := runtime.typedFrame (state.session left).id (.disconnect {})
          cause := .farewell left : Sent }
        ∈ state.broadcastPacket runtime (.disconnect {}) left (.farewell left) := by
    rw [ServerState.broadcastPacket_eq _ completes]
    refine List.mem_flatMap.mpr ⟨other, watches.recipient tidy own, ?_⟩
    rw [ServerState.sendPacket, ServerState.write, if_pos watches.isOpen]
    exact List.mem_singleton_self _
  have tells := @news_of_read ⟨other, _, .farewell left⟩ _
    (runtime.deserialize_typedFrame (state.session left).id (.disconnect {}))
  obtain ⟨last, told, source⟩ := lastNews_of_written genuine taken sent written tells
  cases source
  exact own ▸ told

/-- A player is announced from the step on that passes his Connect frame on. -/
theorem ServerState.announced_before (tidy : Tidy state) (seated : Seated state)
    (taken : state.step runtime event = some next) {client : SocketId}
    (joined : (state.session client).phase.fresh = false)
    (announced : (next.session client).phase.announced = true)
    : (state.session client).phase.announced = true
      ∨ ∃ now memory header,
          event = .dispatch client now
          ∧ (state.session client).phase = .dispatching memory
          ∧ PacketHeader.deserialize memory = some header
          ∧ header.type = .connect := by
  rcases step_change tidy taken client with ⟨_, same⟩ | change
  · exact .inl (same.phase ▸ announced)
  · cases change with
    | accept was => rw [was] at joined; cases joined
    | enter _ _ _ was => rw [was] at joined; cases joined
    | refuse _ _ was => rw [was] at joined; cases joined
    | endRead _ _ phase => rw [phase] at announced; cases announced
    | snapshot _ _ _ phase => rw [phase] at announced; cases announced
    | replay _ _ _ _ _ _ phase => rw [phase] at announced; cases announced
    | epilogue _ phase => rw [phase] at announced; cases announced
    | clientJoined _ _ phase =>
        rw [phase] at announced
        split_ifs at announced <;> cases announced
    | receive first was =>
        rw [was] at joined ⊢
        cases first
        · exact .inl rfl
        · cases joined
    | replayDone held _ _ was phase =>
        obtain ⟨header, greets, _⟩ := (seated.sound client).entering held (by rw [was]; rfl)
        rcases phase with phase | phase
        · rw [phase] at announced
          cases announced
        · rw [phase, Phase.announced, greets.framed.read, Option.any_some, greets.type] at announced
          cases announced
    | @dispatch now memory was =>
        obtain ⟨header, framed, _⟩ := (seated.sound client).dispatching memory was
        by_cases type : header.type = .connect
        · exact .inr ⟨now, memory, header, rfl, was, framed.read, type⟩
        · refine .inl ?_
          rw [was, Phase.announced, framed.read, Option.any_some]
          simpa using type

theorem RosterKept.present_step (tidy : Tidy state) (seated : Seated state)
    (kept : RosterKept state) (keeps : KeepsRoster state event)
    (taken : state.step runtime event = some next) {other client : SocketId}
    (watches : next.Watches other client)
    (announced : (next.session client).phase.announced = true)
    : next.lastNews other (next.session client).id = some .connect := by
  have past : (next.session client).phase.entering = none := by
    cases phase : (next.session client).phase <;> simp_all [Phase.announced, Phase.entering]
  have before := watches.earlier tidy taken past
  have joined := tidy.joined_of_mem before.entry
  rw [(ServerState.joined_kept tidy taken joined).2]
  rcases ServerState.announced_before tidy seated taken joined announced with
    was | ⟨now, memory, header, rfl, dispatching, read, type⟩
  · rcases lastNews_step kept.genuine taken other (state.session client).id with
      same | ⟨news, told, source⟩
    · exact same.trans (kept.present other client before was)
    · cases source with
      | relay => exact told
      | replay => exact told
      | farewell left pending own =>
          -- a goodbye now would come after the Connect frame that was passed on
          have unannounced := keeps left pending other client before own.symm
          rw [was] at unannounced
          cases unannounced
  · exact connect_told tidy seated kept.genuine taken dispatching read type before

theorem RosterKept.departed_step (tidy : Tidy state) (seated : Seated state)
    (kept : RosterKept state) (keeps : KeepsRoster state event)
    (taken : state.step runtime event = some next) {other client : SocketId}
    (watches : next.Watches other client) (ended : (next.session client).phase = .ended)
    (told : next.lastNews other (next.session client).id = some .connect)
    : next.OwesFarewell (next.session client).id := by
  have before := watches.earlier tidy taken (by rw [ended]; rfl)
  have joined := tidy.joined_of_mem before.entry
  have id := (ServerState.joined_kept tidy taken joined).2
  rw [id] at told ⊢
  by_cases was : (state.session client).phase = .ended
  · have owes : state.OwesFarewell (state.session client).id := by
      rcases lastNews_step kept.genuine taken other (state.session client).id with
        same | ⟨news, last, source⟩
      · exact kept.departed other client before was (same ▸ told)
      · cases source with
        | relay sender memory dispatching own =>
            exact ⟨sender, own, .inl ((seated.sound sender).connected (by rw [dispatching]; rfl))⟩
        | replay announced own => exact own ▸ keeps client before own.symm was
        | farewell => rw [told] at last; cases last
    rcases owes.kept tidy seated taken with still | ⟨index, left, rfl, pending, own⟩
    · exact still
    · rw [farewell_told tidy kept.genuine taken pending own before] at told
      cases told
  · -- the client leaves in this step
    have connected := kept.entries client before.entry was
    rcases ServerState.step_change tidy taken client with ⟨_, same⟩ | change
    · exact absurd (same.phase.symm.trans ended) was
    · exact ⟨client, id,
        .inr ((ServerState.step_effect tidy taken).leaves client (change.ends ended) connected)⟩

/-- Every step that keeps the roster keeps what the players know. -/
theorem RosterKept.step (tidy : Tidy state) (seated : Seated state) (kept : RosterKept state)
    (keeps : KeepsRoster state event) (taken : state.step runtime event = some next)
    : RosterKept next where
  genuine := kept.genuine_step tidy seated keeps taken
  entries _ entry running := kept.entries_step tidy (seated.step tidy taken) taken entry running
  present _ _ watches announced := kept.present_step tidy seated keeps taken watches announced
  departed _ _ watches ended told := kept.departed_step tidy seated keeps taken watches ended told

theorem RosterKept.of_run {settings : Settings} {shines : List Int32} {events : List Event}
    (run : Run (ServerState.step runtime) KeepsRoster (.initial settings shines) events state)
    : RosterKept state := by
  refine run.invariant_using
    (fun before => And.intro (Tidy.of_run before) (Seated.of_run before))
    (RosterKept.initial settings shines) ?_
  intro before event after ⟨tidy, seated⟩ kept keeps taken
  exact kept.step tidy seated keeps taken

end keeping

-----------------------------------------------------------------------------------------
-- What the players know when nothing is left to do
-----------------------------------------------------------------------------------------

/-- In a settled state, who watches a player knows whether he is in the game. -/
theorem RosterKept.agrees {state : ServerState} (tidy : Tidy state) (seated : Seated state)
    (kept : RosterKept state) (settled : Settled state) {other client : SocketId}
    (watches : state.Watches other client)
    : RosterAgrees state other client := by
  have waits {socket : SocketId} (connected : (state.session socket).connected = true)
      : (state.session socket).phase = .reading false
        ∧ (state.session socket).socketConnected = true := by
    have past := tidy.joined_of_connected connected
    rcases settled.handlers socket with idle | ended | ⟨first, reading, isOpen⟩
    · rw [idle] at past
      cases past
    · rw [(seated.sound socket).ended ended] at connected
      cases connected
    · rw [reading] at past ⊢
      cases first
      · exact ⟨rfl, isOpen⟩
      · cases past
  unfold RosterAgrees
  split_ifs with connected
  · exact kept.present other client watches (by rw [(waits connected).1]; rfl)
  · intro told
    have ended : (state.session client).phase = .ended := by
      by_contra running
      exact connected (kept.entries client watches.entry running)
    obtain ⟨left, own, still | pending⟩ := kept.departed other client watches ended told
    · -- another session of the Id that is connected would be the entry
      have entry := seated.entry left still (waits still).2
      obtain rfl := tidy.distinct left entry client watches.entry own
      exact connected still
    · rw [settled.farewells] at pending
      exact absurd pending List.not_mem_nil

/-- By a run of allowed steps, a player was in the game when the client of an entry joined, and
has been connected over the same socket ever since.
-/
structure SinceJoin (runtime : Runtime) (Allowed : ServerState → Event → Prop)
    (start : ServerState) (other client : SocketId) (state : ServerState)
    : Prop where
  runs
    : ∃ first later before joined,
        Run (ServerState.step runtime) Allowed start first before
        ∧ other ∈ before.clients
        ∧ before.join client = some joined
        ∧ client ∈ joined.clients
        ∧ Run (ServerState.step runtime) Allowed joined later state
  entry : client ∈ state.clients
  connected : (state.session other).connected = true
  isOpen : (state.session other).socketConnected = true

/-- Who was in the game when a client joined watches it as long as both stay, by induction on
the run after the join.
-/
theorem SinceJoin.watches {runtime : Runtime} {settings : Settings} {shines : List Int32}
    {other client : SocketId} {state : ServerState}
    (since : SinceJoin runtime KeepsRoster (.initial settings shines) other client state)
    : (∃ events,
        Run (ServerState.step runtime) KeepsRoster (.initial settings shines) events state)
      ∧ state.Watches other client := by
  obtain ⟨⟨first, later, before, joined, early, there, joins, entered, late⟩, entry, connected,
    isOpen⟩ := since
  have tidy := Tidy.of_run early
  have taken : before.step runtime (.join client) = some joined := joins
  have upToJoin
      : Run (ServerState.step runtime) KeepsRoster (.initial settings shines)
          (first ++ [.join client]) joined :=
    early.snoc trivial taken
  have ordered : InOrder other client state := by
    refine late.invariant_using (fun run => Tidy.of_run (upToJoin.trans run)) ?_
      fun tidy ordered _ taken => ordered.step tidy taken
    exact {
      firstJoined := (ServerState.joined_kept tidy taken (tidy.joined_of_mem there)).1
      secondJoined := (Tidy.of_run upToJoin).joined_of_mem entered
      before := fun stays _ => ServerState.before_of_join tidy taken there entered stays
    }
  have whole := upToJoin.trans late
  have otherEntry := (Seated.of_run whole).entry other connected isOpen
  exact ⟨⟨_, whole⟩, ordered.before otherEntry entry, connected, isOpen⟩

/-- In every run whose steps keep the roster, once nothing is left to do, whoever has been
connected since before a player's last join was told last that the player connected if the
player's entry is connected, and otherwise not.
-/
theorem rosterAgrees_of_run {runtime : Runtime} {settings : Settings} {shines : List Int32}
    {other client : SocketId} {state : ServerState}
    (since : SinceJoin runtime KeepsRoster (.initial settings shines) other client state)
    (settled : Settled state)
    : RosterAgrees state other client := by
  obtain ⟨⟨_, run⟩, watches⟩ := since.watches
  exact (RosterKept.of_run run).agrees (Tidy.of_run run) (Seated.of_run run) settled watches

/-- A check for `SpeaksOfGame` that can be computed. -/
def speaksOfGame (state : ServerState) : Event → Bool
  | .receive socket memory =>
      (state.session socket).phase != .reading false
        || (PacketHeader.deserialize memory).all fun header =>
            header.type != .connect && header.type != .disconnect
  | _ => true

/-- A check for `KeepsRoster` that can be computed. -/
def keepsRoster (state : ServerState) : Event → Bool
  | .task index =>
      match state.tasks[index]? with
      | some (.farewell left) =>
          state.clients.all fun client =>
            (state.session client).id != (state.session left).id
              || !(state.session client).phase.announced
      | _ => true
  | .replay _ other => (state.session other).connected
  | event => speaksOfGame state event

theorem speaksOfGame_sound (state : ServerState) (event : Event)
    (checked : speaksOfGame state event = true)
    : SpeaksOfGame state event := by
  cases event with
  | receive socket memory =>
      intro reading header read
      rw [Option.mem_def] at read
      simpa [speaksOfGame, reading, read] using checked
  | _ => trivial

theorem keepsRoster_sound (state : ServerState) (event : Event)
    (checked : keepsRoster state event = true)
    : KeepsRoster state event := by
  cases event with
  | task index =>
      intro left pending other client watches same
      simp only [keepsRoster, pending, List.all_eq_true] at checked
      simpa [same] using checked client watches.entry
  | replay joiner other => exact fun _ _ _ _ => ⟨other, rfl, .inl checked⟩
  | receive socket memory => exact speaksOfGame_sound state (.receive socket memory) checked
  | _ => trivial

/-- The accepted sockets of a list of events. -/
def Event.accepted : Event → Option SocketId
  | .accept socket _ => some socket
  | _ => none

theorem Settled.of_run {runtime : Runtime} {settings : Settings} {shines : List Int32}
    {events : List Event} {state : ServerState}
    (run : AnyRun (ServerState.step runtime) (.initial settings shines) events state)
    (handlers
      : ∀ socket ∈ events.filterMap Event.accepted,
          (state.session socket).phase = .ended
          ∨ ∃ first,
              (state.session socket).phase = .reading first
              ∧ (state.session socket).socketConnected = true)
    (farewells : state.farewells = [])
    : Settled state where
  handlers socket := by
    by_cases accepted : socket ∈ events.filterMap Event.accepted
    · exact .inr (handlers socket accepted)
    · refine .inl (idle_of_run run fun remote member => accepted ?_)
      exact List.mem_filterMap.mpr ⟨_, member, rfl⟩
  farewells := farewells

instance (state : ServerState) (other client : SocketId)
    : Decidable (RosterAgrees state other client) := by
  unfold RosterAgrees
  infer_instance

/-- A player was in the game when a client joined where executing the events around the join
finds so.
-/
theorem SinceJoin.of_executed {runtime : Runtime} {Allowed : ServerState → Event → Prop}
    {check : ServerState → Event → Bool}
    (sound : ∀ state event, check state event = true → Allowed state event)
    {start before joined state : ServerState} {other client : SocketId}
    (first later : List Event)
    (early : executeChecked (ServerState.step runtime) check start first = some before)
    (joins : before.join client = some joined)
    (late : executeChecked (ServerState.step runtime) check joined later = some state)
    (there : other ∈ before.clients ∧ client ∈ joined.clients)
    (stays
      : client ∈ state.clients
        ∧ (state.session other).connected = true
        ∧ (state.session other).socketConnected = true)
    : SinceJoin runtime Allowed start other client state
      ∧ AnyRun (ServerState.step runtime) start (first ++ [.join client] ++ later) state := by
  have before := executeChecked_run sound early
  have after := executeChecked_run sound late
  refine ⟨⟨⟨first, later, _, _, before, there.1, joins, there.2, after⟩, stays.1, stays.2.1,
    stays.2.2⟩, ?_⟩
  have taken : ServerState.step runtime _ (.join client) = some joined := joins
  exact ((before.mono fun _ => trivial).snoc trivial taken).trans (after.mono fun _ => trivial)

/-- Luigi comes back over a third socket. -/
def luigiReturns : List Event := arrival .pooled 3 ⟨8⟩ .reconnecting "Luigi".toList [1]

/-- The old handler of Luigi ends and says goodbye. -/
def luigiLeaves : List Event := [.endRead 2, .epilogue 2, .task 0]

/-- Mario knows of Luigi who left and came back. -/
theorem returned_luigi_agrees
    : ∃ state,
        SinceJoin .pooled KeepsRoster (.initial {} []) 1 3 state
        ∧ Settled state
        ∧ state.lastNews 1 ⟨8⟩ = some .connect
        ∧ RosterAgrees state 1 3 := by
  obtain ⟨since, run⟩ := @SinceJoin.of_executed .pooled _ _ keepsRoster_sound
    (.initial {} []) _ _ _ 1 3 (duet ++ luigiLeaves ++ luigiReturns.take 2) (luigiReturns.drop 3)
    (Option.some_get (by decide)).symm (Option.some_get (by decide)).symm
    (Option.some_get (by decide)).symm (by decide) (by decide)
  have settled := Settled.of_run run (by decide) (by decide)
  exact ⟨_, since, settled, by decide, rosterAgrees_of_run since settled⟩

/-- Mario is told last that Luigi left, who is in the game. -/
theorem replaced_luigi_disagrees
    : ∃ state,
        SinceJoin .pooled SpeaksOfGame (.initial {} []) 1 3 state
        ∧ (state.session 1).id ≠ (state.session 3).id
        ∧ Settled state
        ∧ (state.session 3).connected = true
        ∧ state.lastNews 1 (state.session 3).id = some .disconnect
        ∧ ¬RosterAgrees state 1 3 := by
  obtain ⟨since, run⟩ := @SinceJoin.of_executed .pooled _ _ speaksOfGame_sound
    (.initial {} []) _ _ _ 1 3 (duet ++ luigiReturns.take 2) (luigiReturns.drop 3 ++ luigiLeaves)
    (Option.some_get (by decide)).symm (Option.some_get (by decide)).symm
    (Option.some_get (by decide)).symm (by decide) (by decide)
  have settled := Settled.of_run run (by decide) (by decide)
  exact ⟨_, since, by decide, settled, by decide, by decide, by decide⟩

end SmoOnline
