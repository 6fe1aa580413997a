import SmoOnline.Server.Commands
import SmoOnline.Server.Writes

/-! The console next to the handlers of the sockets: lines are taken up to their answers, the
threads of their commands go on in between. What commands send goes only to players that a line has
named.
-/

namespace SmoOnline

open Span Utf8 Runs CommandHandler

-----------------------------------------------------------------------------------------
-- Lines, threads and processes
-----------------------------------------------------------------------------------------

inductive ConsoleEvent
  /-- a handler, a task or a game mode of the server -/
  | server (event : Event)
  /-- `GetResult` of a line, and whether `settings.json` can be written -/
  | enter (line : Text) (saved : Bool)
  /-- a thread of a command that is waited for goes on -/
  | advance (call thread : Nat) (saved : Bool)
  /-- a thread that has not begun is left out, as another one has thrown -/
  | abandon (call thread : Nat)
  | answer (call : Nat)
  | task (index : Nat) (saved : Bool)
  /-- the countdown of a game is over; its broadcasts are events of the server -/
  | countdown (index : Nat)
  /-- somebody else writes `settings.json` -/
  | edit (file : SettingsFile)
  /-- the process is over, and another one is started -/
  | start (saved : Bool)

/-- The packets that only commands send on their own. -/
def PacketKind.commanded : PacketKind → Bool
  | .changeStage | .shine => true
  | _ => false

/-- Events that do not belong to a command. -/
def Event.ofServer : Event → Bool
  | .configure _ | .maxPlayers _ | .ban _ | .shineClear => false
  | .sendFromServer _ packet | .broadcastFromServer packet | .broadcastForClient _ packet =>
      !packet.kind.commanded
  | _ => true

namespace Console

variable (formats : Formats) (runtime : Runtime) (saved : Bool) (console : Console)

/-- A process up to when it listens: the settings are loaded and saved, the moons loaded. -/
def startProcess (file : SettingsFile) (savedShines : List Int32) : Console :=
  let settings := file.loaded formats
  let shines := if settings.persistShines.enabled then savedShines else []
  saveSettings formats saved
    { server := { ServerState.initial settings shines with savedShines }
      file }

/-- The text of each handler, and which one `GetResult` has called. -/
def outcome (line : Text) : CommandHandler.Outcome Text :=
  getResult (fun name => (console.handler formats saved name).map fun run args => (run args).text)
    line

/-- `GetResult` up to the threads that the command waits for. -/
def enter (line : Text) : Console :=
  let outcome := console.outcome formats saved line
  let result : Result :=
    match outcome.called with
    | none => { text := none, console }
    | some (name, args) =>
        match console.handler formats saved name with
        | none => { text := none, console }
        | some run => run args
  { result.console with
    calls := result.console.calls ++ [{ reply := outcome.reply, threads := result.threads }] }

/-- `SendAsync` throws on a socket that is not connected. -/
def throws : Work → Bool
  | .event (.sendFromServer socket _) => !(console.server.session socket).socketConnected
  | _ => false

/-- The next stretch of a thread. A client that has left the table has no connected socket, so that
nothing comes of a packet for it.
-/
def perform : Work → Console
  | .saveSettings => console.saveSettings formats saved
  | .event event => console.setServer ((console.server.step runtime event).getD console.server)

/-- What is left of a thread. -/
def goOn (work : Work) (rest : List Work) : List Work := if console.throws work then [] else rest

def advance (index thread : Nat) : Option Console :=
  match console.calls[index]? with
  | none => none
  | some call =>
      match call.threads[thread]? with
      | some (work :: rest) =>
          let after := console.perform formats runtime saved work
          some { after with
            calls := after.calls.set index { call with
              threads := call.threads.set thread (console.goOn work rest)
              failed := call.failed || console.throws work } }
      | _ => none

def abandon (index thread : Nat) : Option Console :=
  match console.calls[index]? with
  | none => none
  | some call =>
      if call.failed then
        some { console with
          calls := console.calls.set index { call with threads := call.threads.set thread [] } }
      else none

/-- The answer of a line none of whose threads is left. -/
def answer (index : Nat) : Option Console :=
  match console.calls[index]? with
  | none => none
  | some call =>
      if call.threads.all List.isEmpty then
        some { console with
          calls := console.calls.eraseIdx index
          replies := console.replies ++ [if call.failed then .errorOccured else call.reply] }
      else none

def task (index : Nat) : Option Console :=
  match console.tasks[index]? with
  | some (work :: rest) =>
      let after := console.perform formats runtime saved work
      some { after with tasks := after.tasks.set index (console.goOn work rest) }
  | _ => none

def step : ConsoleEvent → Option Console
  | .server event =>
      if event.ofServer then (console.server.step runtime event).map console.setServer else none
  | .enter line saved => some (console.enter formats saved line)
  | .advance call thread saved => console.advance formats runtime saved call thread
  | .abandon call thread => console.abandon call thread
  | .answer call => console.answer call
  | .task index saved => console.task formats runtime saved index
  | .countdown index =>
      if index < console.countdowns.length then
        some { console with countdowns := console.countdowns.eraseIdx index }
      else none
  | .edit file => some { console with file }
  | .start saved => some (startProcess formats saved console.file console.server.savedShines)

end Console

-----------------------------------------------------------------------------------------
-- Whom a line names
-----------------------------------------------------------------------------------------

/-- The packet that a banned player is sent. -/
def ejection : Packet :=
  .changeStage {
    stage := "$ejected".toList
    id := "$agogus/banned4lyfe".toList
    scenario := 69
    subScenarioType := 21
  }

namespace Console

variable (formats : Formats) (console : Console)

/-- `MultiUserCommandHelper` returns the client, which is connected, among those to act upon. -/
def Targeted (args : List Text) (socket : SocketId) : Prop :=
  socket ∈ console.server.connectedClients
  ∧ ∃ targets,
    console.server.multiUserCommandHelper formats.toCulture args = some targets
    ∧ socket ∈ targets.toActUpon

/-- The command has the packet sent to the client, with the stage, the scenario or the moon that its
arguments say. Behind `shine send` and the moon, a first name is passed over.
-/
def Addressed (name : String) (args : List Text) (socket : SocketId) (packet : Packet) : Prop :=
  match name with
  | "crash" => console.Targeted formats args socket ∧ packet = crashPacket
  | "ban" => console.Targeted formats args socket ∧ packet = ejection
  | "send" =>
      ∃ first id number players stage scenario,
        args = first :: id :: number :: players
        ∧ socket ∈ console.server.connectedClients
        ∧ (players.head? = some everyone ∨ socket ∈ console.playersNamed formats players)
        ∧ Stages.input2Stage formats.toLower formats.endsWith first = some stage
        ∧ formats.tryParseSByte number = some scenario
        ∧ packet = stagePacket stage id scenario
  | "sendall" =>
      ∃ first rest stage,
        args = first :: rest
        ∧ socket ∈ console.server.connectedClients
        ∧ Stages.input2Stage formats.toLower formats.endsWith first = some stage
        ∧ packet = stagePacket stage [] (-1)
  | "shine" =>
      ∃ number first names shineId,
        args = "send".toList :: number :: first :: names
        ∧ socket ∈ console.server.connectedClients
        ∧ (first = everyone ∨ console.server.name socket ∈ names)
        ∧ formats.tryParseInt number = some shineId
        ∧ packet = .shine { shineId }
  | _ => False

end Console

/-- What threads of commands are made of. -/
def Work.mild : Work → Bool
  | .event (.close _) | .event (.ban _) | .event (.sendFromServer _ _)
  | .event (.broadcastFromServer (.tag _)) | .saveSettings => true
  | _ => false

/-- The packet that is sent, and to whom. -/
def Work.sends : Work → Option (SocketId × Packet)
  | .event (.sendFromServer socket packet) => some (socket, packet)
  | .event (.ban socket) => some (socket, ejection)
  | _ => none

/-- The threads that are there. -/
def Console.pending (console : Console) : List (List Work) :=
  console.tasks ++ console.calls.flatMap Call.threads

/-- What holds of each stretch of each thread. -/
def Pending (Holds : Work → Prop) (threads : List (List Work)) : Prop :=
  ∀ thread ∈ threads, ∀ work ∈ thread, Holds work

/-- There is no stretch in the first threads that is not in the second ones. -/
def Within (threads others : List (List Work)) : Prop :=
  ∀ thread ∈ threads, ∀ work ∈ thread, ∃ longer ∈ others, work ∈ longer

theorem Within.refl (threads : List (List Work)) : Within threads threads :=
  fun thread member _ there => ⟨thread, member, there⟩

/-- A thread that is cut back leaves nothing new. -/
theorem Within.set {threads : List (List Work)} {thread : List Work} (index : Nat)
    (part : ∀ work ∈ thread, ∃ longer ∈ threads, work ∈ longer)
    : Within (threads.set index thread) threads := by
  intro each member work there
  rcases List.mem_or_eq_of_mem_set member with old | rfl
  · exact ⟨each, old, there⟩
  · exact part work there

theorem Pending.nil {Holds : Work → Prop} : Pending Holds [] := fun _ member => by cases member

theorem Pending.map {Holds : Work → Prop} {sockets : List SocketId}
    {thread : SocketId → List Work} (holds : ∀ socket ∈ sockets, ∀ work ∈ thread socket, Holds work)
    : Pending Holds (sockets.map thread) := by
  intro each member
  obtain ⟨socket, there, rfl⟩ := List.mem_map.mp member
  exact holds socket there

-----------------------------------------------------------------------------------------
-- The threads that commands start
-----------------------------------------------------------------------------------------

namespace Console

variable {formats : Formats} {console : Console}

/-- What a thread does that a command has started. -/
def Orders (formats : Formats) (console : Console) (name : String) (args : List Text)
    (work : Work)
    : Prop :=
  work.mild = true
  ∧ ∀ socket packet,
    work.sends = some (socket, packet)
    → packet.kind.commanded = true
    → console.Addressed formats name args socket packet

/-- What a command leaves to threads, having written nothing itself. -/
structure Starts (formats : Formats) (console : Console) (name : String) (args : List Text)
    (result : Result)
    : Prop where
  calls : result.console.calls = console.calls
  sent : result.console.server.sent = console.server.sent
  tasks
    : ∃ more,
        result.console.tasks = console.tasks ++ more
        ∧ Pending (console.Orders formats name args) more
  threads : Pending (console.Orders formats name args) result.threads

section

variable {saved : Bool} {name : String} {args : List Text}

/-- Nothing is started where calls, tasks and writes stay. -/
theorem Starts.none {result : Result} (calls : result.console.calls = console.calls)
    (tasks : result.console.tasks = console.tasks)
    (sent : result.console.server.sent = console.server.sent) (threads : result.threads = [])
    : console.Starts formats name args result :=
  ⟨calls, sent, ⟨[], by rw [tasks, List.append_nil], .nil⟩, threads ▸ .nil⟩

theorem starts_configure (settings : Settings) (text : Option Text)
    : console.Starts formats name args
        { text, console := configure formats saved console settings } := by
  cases saved <;> exact .none rfl rfl rfl rfl

theorem Starts.actUpon {command verb : String} {act : List SocketId → Result → Result}
    (starts
      : ∀ users text,
          (∀ user ∈ users, console.Targeted formats args user)
          → console.Starts formats name args (act users { text, console }))
    : console.Starts formats name args (console.actUpon formats command verb args act) := by
  unfold Console.actUpon
  split_ifs
  · exact .none rfl rfl rfl rfl
  · split
    · exact .none rfl rfl rfl rfl
    · next targets helped =>
        exact starts _ _ fun user member =>
          ⟨ServerState.connected_of_helper helped member, targets, helped, member⟩

theorem starts_rejoin : console.Starts formats "rejoin" args (console.rejoin formats args) := by
  refine .actUpon fun users text targeted => ⟨rfl, rfl, ⟨[], (List.append_nil _).symm, .nil⟩, ?_⟩
  intro thread member work there
  obtain rfl := List.mem_singleton.mp member
  obtain ⟨user, _, rfl⟩ := List.mem_map.mp there
  exact ⟨rfl, nofun⟩

theorem starts_crash : console.Starts formats "crash" args (console.crash formats args) := by
  refine .actUpon fun users text targeted => ⟨rfl, rfl, ⟨_, rfl, .map ?_⟩, .nil⟩
  intro user member work there
  rcases List.mem_pair.mp there with rfl | rfl
  · refine ⟨rfl, fun socket packet sends _ => ?_⟩
    cases sends
    exact ⟨targeted user member, rfl⟩
  · exact ⟨rfl, nofun⟩

theorem starts_ban : console.Starts formats "ban" args (console.ban formats args) := by
  refine .actUpon fun users text targeted => ⟨rfl, rfl, ⟨_, rfl, .map ?_⟩, ?_⟩
  · intro user member work there
    obtain rfl := List.mem_singleton.mp there
    refine ⟨rfl, fun socket packet sends _ => ?_⟩
    cases sends
    exact ⟨targeted user member, rfl⟩
  · intro thread member work there
    obtain rfl := List.mem_singleton.mp member
    obtain rfl := List.mem_singleton.mp there
    exact ⟨rfl, nofun⟩

/-- A packet is sent to players that are addressed. -/
theorem Starts.sendEach {text : Option Text} {players : List SocketId} {packet : Packet}
    (addressed : ∀ player ∈ players, console.Addressed formats name args player packet)
    : console.Starts formats name args { text, console, threads := sendEach players packet } := by
  refine ⟨rfl, rfl, ⟨[], (List.append_nil _).symm, .nil⟩, .map ?_⟩
  intro player member work there
  obtain rfl := List.mem_singleton.mp there
  refine ⟨rfl, fun socket packet sends _ => ?_⟩
  cases sends
  exact addressed player member

theorem starts_send : console.Starts formats "send" args (console.send formats args) := by
  unfold Console.send
  split
  · next first id number players =>
      dsimp only
      split
      · exact .none rfl rfl rfl rfl
      split
      · exact .none rfl rfl rfl rfl
      next stage known =>
      split
      · exact .none rfl rfl rfl rfl
      next scenario read =>
      split
      · exact .none rfl rfl rfl rfl
      · refine .sendEach fun player member =>
          ⟨first, id, number, players, stage, scenario, rfl, ?_⟩
        split_ifs at member with all
        · exact ⟨member, .inl all, known, read, rfl⟩
        · exact ⟨(List.mem_filter.mp member).1, .inr member, known, read, rfl⟩
  · exact .none rfl rfl rfl rfl

theorem starts_sendall
    : console.Starts formats "sendall" args (console.sendall formats args) := by
  unfold Console.sendall
  split
  · exact .none rfl rfl rfl rfl
  · next first rest =>
      split
      · exact .none rfl rfl rfl rfl
      · next stage known =>
          exact .sendEach fun player member => ⟨first, rest, stage, rfl, member, known, rfl⟩

theorem starts_scenario
    : console.Starts formats name args (scenario formats saved console args) := by
  unfold Console.scenario
  repeat' split
  all_goals first | exact .none rfl rfl rfl rfl | exact starts_configure _ _

theorem starts_maxplayers
    : console.Starts formats name args (maxplayers formats saved console args) := by
  unfold Console.maxplayers
  repeat' split
  · have rest := console.server.setMaxPlayers_rest
    cases saved <;> exact .none rfl rfl (rest _).2.2.2 rfl
  · exact .none rfl rfl rfl rfl
  · exact .none rfl rfl rfl rfl

theorem starts_flip : console.Starts formats name args (flip formats saved console args) := by
  unfold Console.flip
  repeat' split
  all_goals first | exact .none rfl rfl rfl rfl | exact starts_configure _ _

theorem starts_shine : console.Starts formats "shine" args (shine formats saved console args) := by
  rcases args with _ | ⟨option, args⟩
  · exact .none rfl rfl rfl rfl
  · unfold Console.shine
    dsimp only
    split
    · exact .none rfl rfl rfl rfl
    split
    · exact .none rfl rfl console.server.shineClear_sent rfl
    split
    · exact .none rfl rfl console.server.syncShineBag_sent rfl
    split
    · next send =>
        obtain ⟨rfl, long⟩ := send
        cases read : formats.tryParseInt (args.headD []) with
        | none => exact .none rfl rfl rfl rfl
        | some id =>
            obtain ⟨number, first, names, rfl⟩ : ∃ number first names,
                args = number :: first :: names := by
              match args, long with
              | number :: first :: names, _ => exact ⟨number, first, names, rfl⟩
            refine .sendEach fun player member => ⟨number, first, names, id, rfl, ?_⟩
            simp only [List.getElem?_cons_succ, List.getElem?_cons_zero, Option.some.injEq,
              List.drop_succ_cons, List.drop_zero] at member
            split_ifs at member with all
            · exact ⟨member, .inl all, read, rfl⟩
            · obtain ⟨connected, called⟩ := List.mem_filter.mp member
              exact ⟨connected, .inr (List.contains_iff_mem.mp called), read, rfl⟩
    split
    · cases formats.tryParseBool (args.headD []) with
      | none => exact .none rfl rfl rfl rfl
      | some enabled => exact starts_configure _ _
    · exact .none rfl rfl rfl rfl

theorem starts_tell {user : Text} {packet : TagPacket} {text : Option Text}
    : console.Starts formats name args { text, console := console.tell user packet } := by
  unfold Console.tell
  refine ⟨rfl, rfl, ⟨_, rfl, ?_⟩, .nil⟩
  split_ifs
  · intro thread member work there
    obtain rfl := List.mem_singleton.mp member
    obtain rfl := List.mem_singleton.mp there
    exact ⟨rfl, nofun⟩
  · cases console.server.clients.find? fun client => console.server.name client = user with
    | none => exact .nil
    | some client =>
        intro thread member work there
        obtain rfl := List.mem_singleton.mp member
        obtain rfl := List.mem_singleton.mp there
        refine ⟨rfl, fun socket packet sends commanded => ?_⟩
        cases sends
        cases commanded

theorem starts_tag : console.Starts formats name args (console.tag formats args) := by
  unfold Console.tag
  dsimp only
  repeat' split
  all_goals first | exact .none rfl rfl rfl rfl | exact starts_tell

theorem starts_ctf : console.Starts formats name args (console.ctf formats args) := by
  unfold Console.ctf
  dsimp only
  repeat' split
  all_goals exact .none rfl rfl rfl rfl

/-- Every command starts only what its line orders. -/
theorem starts_handler {typed : Text} {run : List Text → Result}
    (found : console.handler formats saved typed = some run) (args : List Text)
    : console.Starts formats (String.ofList typed) args (run args) := by
  unfold Console.handler at found
  split at found <;> cases found <;> rename_i same <;> rw [same]
  · exact .none rfl rfl rfl rfl
  · exact starts_rejoin
  · exact starts_crash
  · exact starts_ban
  · exact starts_send
  · exact starts_sendall
  · exact starts_scenario
  · exact starts_tag
  · exact starts_ctf
  · exact starts_maxplayers
  · exact .none rfl rfl rfl rfl
  · exact starts_flip
  · exact starts_shine
  · unfold loadsettings Console.loadSettings
    split
    · exact starts_configure _ _
    · cases saved <;> exact .none rfl rfl rfl rfl
  · unfold Console.restartserver
    split_ifs <;> exact .none rfl rfl rfl rfl
  · exact .none rfl rfl rfl rfl
  · exact .none rfl rfl rfl rfl
  · exact .none rfl rfl rfl rfl

end

end Console

-----------------------------------------------------------------------------------------
-- What is written on behalf of the server
-----------------------------------------------------------------------------------------

namespace ServerState

variable {runtime : Runtime} {state next : ServerState} {event : Event}

/-- A frame that a typed packet of a kind that only commands send is. -/
def Commanded (runtime : Runtime) (data : Bytes) : Prop :=
  ∃ id packet, packet.kind.commanded = true ∧ data = runtime.typedFrame id packet

/-- The header of a frame shows whether only commands send its kind. -/
theorem commanded_of_typedFrame {id : Guid} {packet : Packet}
    (commanded : Commanded runtime (runtime.typedFrame id packet))
    : packet.kind.commanded = true := by
  obtain ⟨other, more, is, same⟩ := commanded
  have read := congrArg PacketHeader.deserialize same
  rw [Runtime.deserialize_typedFrame, Runtime.deserialize_typedFrame, Option.some.injEq] at read
  have types : packet.kind.type = more.kind.type := congrArg PacketHeader.type read
  revert is types
  cases packet.kind <;> cases more.kind <;> decide

/-- Tasks write on behalf of players or of the moons. -/
theorem runTask_causes (runtime : Runtime) (state : ServerState) (pending : PendingTask)
    : ∃ writes,
        (state.runTask runtime pending).sent = state.sent ++ writes
        ∧ ∀ message ∈ writes, message.cause ≠ .server := by
  have none {after : ServerState} (same : after.sent = state.sent)
      : ∃ writes,
          after.sent = state.sent ++ writes ∧ ∀ message ∈ writes, message.cause ≠ .server :=
    ⟨[], by rw [same, List.append_nil], fun _ member => by cases member⟩
  cases pending with
  | farewell sender =>
      refine ⟨_, rfl, fun message member is => ?_⟩
      obtain ⟨_, cause, _⟩ := mem_broadcastPacket member
      rw [cause] at is
      cases is
  | syncShineBag => exact none rfl
  | clientSyncShineBag socket =>
      rw [runTask]
      split <;> exact none rfl
  | sendShines socket shines =>
      cases shines with
      | nil => exact none rfl
      | cons shine rest =>
          simp only [runTask, sendShine]
          split_ifs
          · refine ⟨_, rfl, fun message member is => ?_⟩
            obtain ⟨_, rfl⟩ := mem_write member
            cases is
          · exact none rfl
  | recordShine socket shine rest => exact none rfl

/-- A frame of the server's own that an event adds, which no command has ordered. -/
theorem quiet_of_server (own : event.ofServer = true)
    (taken : state.step runtime event = some next) {message : Sent}
    (member : message ∈ next.sent) (cause : message.cause = .server)
    (commanded : Commanded runtime message.data)
    : message ∈ state.sent := by
  have other {writes : List Sent} (same : next.sent = state.sent ++ writes)
      (none : ∀ message ∈ writes, message.cause ≠ .server)
      : message ∈ state.sent := by
    rw [same] at member
    exact (List.mem_append.mp member).resolve_right fun new => none message new cause
  have silent (same : next.sent = state.sent) : message ∈ state.sent := same ▸ member
  cases event with
  | accept socket remote =>
      obtain ⟨_, writes, rfl, greets⟩ := accept_cases taken
      refine other rfl fun message new is => ?_
      rw [(greets message new).1] at is
      cases is
  | clientJoined socket =>
      obtain ⟨_, _, ⟨_, rfl⟩ | ⟨_, metadata, writes, rfl, _, tells⟩⟩ := clientJoined_cases taken
      · exact member
      · refine other rfl fun message new is => ?_
        obtain ⟨_, _, _, cause, _⟩ := tells message new
        rw [cause] at is
        cases is
  | replay socket joiner =>
      obtain ⟨_, _, _, _, _, _, _, rfl⟩ := replay_cases taken
      refine other rfl fun message new is => ?_
      obtain ⟨frame, _, sent⟩ := List.mem_flatMap.mp new
      obtain ⟨_, _, _, _, _, rfl⟩ := mem_sendMemory sent
      cases is
  | dispatch socket now =>
      obtain ⟨memory, _, rfl⟩ := dispatch_cases taken
      obtain ⟨copies, made, _, sent⟩ := state.dispatchFrame_sent runtime now socket memory
      refine other (sent.trans (List.append_assoc _ _ _)) fun message new is => ?_
      rcases List.mem_append.mp new with copied | passedOn
      · rw [(made message copied).1] at is
        cases is
      · split_ifs at passedOn
        · cases passedOn
        · obtain ⟨_, _, cause, _⟩ := mem_broadcastMemory passedOn
          rw [cause] at is
          cases is
  | task index =>
      obtain ⟨pending, found, rfl⟩ := task_cases taken
      obtain ⟨writes, same, causes⟩ := runTask_causes runtime _ pending
      exact other same causes
  | sendFromServer socket packet =>
      simp only [step, sendFromServer] at taken
      split_ifs at taken
      obtain rfl := Option.some.inj taken
      refine (List.mem_append.mp member).resolve_right fun new => ?_
      obtain ⟨_, rfl⟩ := mem_write new
      rw [Event.ofServer, commanded_of_typedFrame commanded] at own
      cases own
  | broadcastFromServer packet =>
      simp only [step, broadcastFromServer] at taken
      split_ifs at taken
      obtain rfl := Option.some.inj taken
      refine (List.mem_append.mp member).resolve_right fun new => ?_
      obtain ⟨_, _, data⟩ := mem_broadcastToAll new
      rw [data] at commanded
      rw [Event.ofServer, commanded_of_typedFrame commanded] at own
      cases own
  | broadcastForClient socket packet =>
      simp only [step, broadcastForClient] at taken
      split_ifs at taken
      obtain rfl := Option.some.inj taken
      refine (List.mem_append.mp member).resolve_right fun new => ?_
      obtain ⟨_, _, data⟩ := mem_broadcastPacket new
      rw [data] at commanded
      rw [Event.ofServer, commanded_of_typedFrame commanded] at own
      cases own
  | ban socket => cases own
  | _ => exact silent (sent_silent rfl taken)

end ServerState

-----------------------------------------------------------------------------------------
-- Lines before what they order
-----------------------------------------------------------------------------------------

namespace Console

section

variable {formats : Formats} {runtime : Runtime} {start console after : Console}
  {events : List ConsoleEvent} {saved : Bool}

/-- A line of the run was taken for a command, and something holds of the console that it was
entered at.
-/
def EarlierLine (formats : Formats) (runtime : Runtime) (start : Console)
    (events : List ConsoleEvent) (Meets : Console → String → List Text → Prop)
    : Prop :=
  ∃ before line saved rest earlier name args,
    events = before ++ .enter line saved :: rest
    ∧ AnyRun (step formats runtime) start before earlier
    ∧ parse line = .parsed (name :: args)
    ∧ Meets earlier (String.ofList name) args

variable {Meets : Console → String → List Text → Prop}

theorem EarlierLine.snoc (line : EarlierLine formats runtime start events Meets)
    (event : ConsoleEvent)
    : EarlierLine formats runtime start (events ++ [event]) Meets := by
  obtain ⟨before, typed, saved, rest, earlier, name, args, rfl, line⟩ := line
  exact ⟨before, typed, saved, rest ++ [event], earlier, name, args, by simp, line⟩

/-- A thread does only what a line before it has ordered. -/
def Owed (formats : Formats) (runtime : Runtime) (start : Console)
    (events : List ConsoleEvent) (work : Work)
    : Prop :=
  work.mild = true
  ∧ ∀ socket packet,
    work.sends = some (socket, packet)
    → packet.kind.commanded = true
    → EarlierLine formats runtime start events fun earlier name args =>
        earlier.Addressed formats name args socket packet

/-- Of the process in force, whose writes are looked at: threads do what lines have ordered, and
what was written for commands is what lines have ordered.
-/
structure Traced (formats : Formats) (runtime : Runtime) (start : Console)
    (events : List ConsoleEvent) (console : Console)
    : Prop where
  pending : Pending (Owed formats runtime start events) console.pending
  sent
    : ∀ message ∈ console.server.sent,
        message.cause = .server
        → ServerState.Commanded runtime message.data
        → ∃ id packet,
            message.data = runtime.typedFrame id packet
            ∧ EarlierLine formats runtime start events fun earlier name args =>
                earlier.Addressed formats name args message.socket packet

theorem Owed.snoc {work : Work} (owed : Owed formats runtime start events work)
    (event : ConsoleEvent)
    : Owed formats runtime start (events ++ [event]) work :=
  ⟨owed.1, fun socket packet sends commanded => (owed.2 socket packet sends commanded).snoc event⟩

/-- What is left of threads that lines have ordered is what lines have ordered. -/
theorem Traced.pending_within (traced : Traced formats runtime start events console)
    (within : Within after.pending console.pending) (event : ConsoleEvent)
    : Pending (Owed formats runtime start (events ++ [event])) after.pending := by
  intro thread member work there
  obtain ⟨longer, listed, inside⟩ := within thread member work there
  exact (traced.pending longer listed work inside).snoc event

/-- A step that adds no thread of its own and no write of a command. -/
theorem Traced.keeps {event : ConsoleEvent} (traced : Traced formats runtime start events console)
    (pending : Within after.pending console.pending)
    (sent
      : ∀ message ∈ after.server.sent,
          message.cause = .server
          → ServerState.Commanded runtime message.data
          → message ∈ console.server.sent)
    : Traced formats runtime start (events ++ [event]) after where
  pending := traced.pending_within pending event
  sent message member cause commanded := by
    obtain ⟨id, packet, data, line⟩ :=
      traced.sent message (sent message member cause commanded) cause commanded
    exact ⟨id, packet, data, line.snoc event⟩

/-- A packet that a thread sends is one that it was given. -/
theorem sent_of_work {work : Work} (mild : work.mild = true) {message : Sent}
    (member : message ∈ (console.perform formats runtime saved work).server.sent)
    (cause : message.cause = .server) (commanded : ServerState.Commanded runtime message.data)
    : message ∈ console.server.sent
      ∨ ∃ id packet,
          message.data = runtime.typedFrame id packet
          ∧ work.sends = some (message.socket, packet) := by
  cases work with
  | saveSettings =>
      cases saved <;> exact .inl member
  | event event =>
      rw [Console.perform] at member
      cases taken : console.server.step runtime event with
      | none =>
          rw [taken] at member
          exact .inl member
      | some next =>
          rw [taken] at member
          by_cases own : event.ofServer = true
          · exact .inl (ServerState.quiet_of_server own taken member cause commanded)
          · cases event with
            | sendFromServer socket packet =>
                simp only [ServerState.step, ServerState.sendFromServer] at taken
                split_ifs at taken
                obtain rfl := Option.some.inj taken
                refine (List.mem_append.mp member).imp_right fun new => ?_
                obtain ⟨_, rfl⟩ := ServerState.mem_write new
                exact ⟨_, packet, rfl, rfl⟩
            | ban socket =>
                simp only [ServerState.step, ServerState.ban] at taken
                split_ifs at taken
                obtain rfl := Option.some.inj taken
                refine (List.mem_append.mp member).imp_right fun new => ?_
                obtain ⟨_, rfl⟩ := ServerState.mem_write new
                exact ⟨_, ejection, rfl, rfl⟩
            | close socket => exact absurd rfl own
            | broadcastFromServer packet =>
                cases packet with
                | tag packet => exact absurd rfl own
                | _ => cases mild
            | _ => cases mild

/-- A call has other threads than before, with nothing new in them. -/
theorem pending_set {index : Nat} {call changed : Call} (found : console.calls[index]? = some call)
    (tasks : after.tasks = console.tasks) (calls : after.calls = console.calls.set index changed)
    (within : Within changed.threads call.threads)
    : Within after.pending console.pending := by
  intro thread member work there
  rw [Console.pending, tasks, calls] at member
  rcases List.mem_append.mp member with task | waited
  · exact ⟨thread, List.mem_append_left _ task, there⟩
  · obtain ⟨each, listed, inside⟩ := List.mem_flatMap.mp waited
    rcases List.mem_or_eq_of_mem_set listed with old | rfl
    · exact ⟨thread, List.mem_append_right _ (List.mem_flatMap.mpr ⟨each, old, inside⟩), there⟩
    · obtain ⟨longer, before, more⟩ := within thread inside work there
      exact ⟨longer, List.mem_append_right _
        (List.mem_flatMap.mpr ⟨call, List.mem_of_getElem? found, before⟩), more⟩

/-- What is left of a thread was in it. -/
theorem mem_goOn {threads : List (List Work)} {index : Nat} {work next : Work} {rest : List Work}
    (found : threads[index]? = some (work :: rest)) (member : next ∈ console.goOn work rest)
    : ∃ longer ∈ threads, next ∈ longer := by
  unfold goOn at member
  split_ifs at member
  · cases member
  · exact ⟨_, List.mem_of_getElem? found, List.mem_cons_of_mem _ member⟩

theorem perform_lists (work : Work)
    : (console.perform formats runtime saved work).tasks = console.tasks
      ∧ (console.perform formats runtime saved work).calls = console.calls := by
  cases work with
  | event event => exact ⟨rfl, rfl⟩
  | saveSettings => cases saved <;> exact ⟨rfl, rfl⟩

/-- One of the threads that are there has done its next stretch. -/
structure WentOn (formats : Formats) (runtime : Runtime) (saved : Bool)
    (console after : Console) (work : Work)
    : Prop where
  pending : ∃ thread ∈ console.pending, work ∈ thread
  server : after.server = (console.perform formats runtime saved work).server
  file : after.file = (console.perform formats runtime saved work).file
  within : Within after.pending console.pending

/-- Some of the threads are cut back or gone, and nothing is done. -/
structure CutBack (console after : Console) : Prop where
  server : after.server = console.server
  file : after.file = console.file
  within : Within after.pending console.pending

theorem advance_cases {index thread : Nat}
    (taken : console.advance formats runtime saved index thread = some after)
    : ∃ work, console.WentOn formats runtime saved after work := by
  unfold Console.advance at taken
  split at taken
  · cases taken
  · next call found =>
      split at taken
      · next work rest listed =>
          obtain rfl := Option.some.inj taken
          have inside : work :: rest ∈ console.pending :=
            List.mem_append_right _ (List.mem_flatMap.mpr
              ⟨call, List.mem_of_getElem? found, List.mem_of_getElem? listed⟩)
          refine ⟨work, ⟨_, inside, List.mem_cons_self⟩, rfl, rfl, ?_⟩
          exact pending_set found (perform_lists work).1
            (congrArg (List.set · index _) (perform_lists work).2)
            (.set thread fun next => mem_goOn listed)
      · cases taken

theorem abandon_cases {index thread : Nat} (taken : console.abandon index thread = some after)
    : console.CutBack after := by
  unfold Console.abandon at taken
  split at taken
  · cases taken
  · next call found =>
      split_ifs at taken
      obtain rfl := Option.some.inj taken
      exact ⟨rfl, rfl, pending_set found rfl rfl (.set thread fun next none => by cases none)⟩

theorem answer_cases {index : Nat} (taken : console.answer index = some after)
    : console.CutBack after := by
  unfold Console.answer at taken
  split at taken
  · cases taken
  · split at taken
    · obtain rfl := Option.some.inj taken
      refine ⟨rfl, rfl, ?_⟩
      intro thread member work there
      refine ⟨thread, ?_, there⟩
      rcases List.mem_append.mp member with task | waited
      · exact List.mem_append_left _ task
      · obtain ⟨each, listed, inside⟩ := List.mem_flatMap.mp waited
        exact List.mem_append_right _
          (List.mem_flatMap.mpr ⟨each, List.mem_of_mem_eraseIdx listed, inside⟩)
    · cases taken

theorem task_cases {index : Nat} (taken : console.task formats runtime saved index = some after)
    : ∃ work, console.WentOn formats runtime saved after work := by
  unfold Console.task at taken
  split at taken
  · next work rest listed =>
      obtain rfl := Option.some.inj taken
      have inside : work :: rest ∈ console.pending :=
        List.mem_append_left _ (List.mem_of_getElem? listed)
      refine ⟨work, ⟨_, inside, List.mem_cons_self⟩, rfl, rfl, ?_⟩
      intro thread member next there
      simp only [Console.pending, perform_lists] at member
      rcases List.mem_append.mp member with task | waited
      · obtain ⟨longer, before, more⟩ :=
          Within.set index (fun next => mem_goOn listed) thread task next there
        exact ⟨longer, List.mem_append_left _ before, more⟩
      · exact ⟨thread, List.mem_append_right _ waited, there⟩
  · cases taken

/-- A thread goes on. -/
theorem Traced.perform {event : ConsoleEvent} {work : Work}
    (traced : Traced formats runtime start events console)
    (went : console.WentOn formats runtime saved after work)
    : Traced formats runtime start (events ++ [event]) after where
  pending := traced.pending_within went.within event
  sent message member cause commanded := by
    obtain ⟨thread, listed, inside⟩ := went.pending
    have owed := traced.pending thread listed work inside
    rw [went.server] at member
    rcases sent_of_work owed.1 member cause commanded with before | ⟨id, packet, data, sends⟩
    · obtain ⟨id, packet, data, line⟩ := traced.sent message before cause commanded
      exact ⟨id, packet, data, line.snoc event⟩
    · have is := ServerState.commanded_of_typedFrame (data ▸ commanded)
      exact ⟨id, packet, data, (owed.2 _ packet sends is).snoc event⟩

theorem Traced.cutBack {event : ConsoleEvent}
    (traced : Traced formats runtime start events console) (cut : console.CutBack after)
    : Traced formats runtime start (events ++ [event]) after :=
  traced.keeps cut.within fun _ member _ _ => cut.server ▸ member

/-- Where no handler was called, there is none of the name; and one that was called was called as
the line says.
-/
theorem outcome_cases (formats : Formats) (saved : Bool) (console : Console) (line : Text)
    : ((console.outcome formats saved line).called = none
        ∧ ∀ name args,
          parse line = .parsed (name :: args) → console.handler formats saved name = none)
      ∨ ∃ name args run,
          (console.outcome formats saved line).called = some (name, args)
          ∧ parse line = .parsed (name :: args)
          ∧ console.handler formats saved name = some run
          ∧ (console.outcome formats saved line).reply
            = (run args).text.elim .errorOccured .response := by
  unfold outcome getResult
  cases parsed : parse line with
  | unmatchingQuotes => exact .inl ⟨rfl, nofun⟩
  | throws => exact .inl ⟨rfl, nofun⟩
  | parsed words =>
      cases words with
      | nil => exact .inl ⟨rfl, nofun⟩
      | cons name args =>
          simp only [CommandHandler.call]
          cases found : console.handler formats saved name with
          | none =>
              refine .inl ⟨by rw [Option.map_none], ?_⟩
              rintro _ _ ⟨⟩
              exact found
          | some run =>
              refine .inr ⟨name, args, run, ?_, rfl, found, ?_⟩ <;> rw [Option.map_some]

/-- What a line comes to: no handler was called, or the one of its name, whose threads are waited
for.
-/
theorem enter_cases (formats : Formats) (saved : Bool) (console : Console) (line : Text)
    : (∃ reply,
          (∀ name args,
            parse line = .parsed (name :: args) → console.handler formats saved name = none)
          ∧ console.enter formats saved line
            = { console with calls := console.calls ++ [{ reply }] })
      ∨ ∃ name args run reply,
          parse line = .parsed (name :: args)
          ∧ console.handler formats saved name = some run
          ∧ console.enter formats saved line
            = { (run args).console with
                calls :=
                  (run args).console.calls ++ [{ reply, threads := (run args).threads }] } := by
  unfold Console.enter
  dsimp only
  rcases outcome_cases formats saved console line with
    ⟨called, unknown⟩ | ⟨name, args, run, called, typed, found, _⟩
  · rw [called]
    exact .inl ⟨_, unknown, rfl⟩
  · rw [called]
    dsimp only
    rw [found]
    exact .inr ⟨name, args, run, _, typed, found, rfl⟩

/-- The threads behind a line are the ones before it and those that its command has started. -/
theorem enter_starts (formats : Formats) (saved : Bool) (console : Console) (line : Text)
    : ∃ more,
        Within (console.enter formats saved line).pending (console.pending ++ more)
        ∧ (console.enter formats saved line).server.sent = console.server.sent
        ∧ (more = []
            ∨ ∃ name args,
                parse line = .parsed (name :: args)
                ∧ Pending (console.Orders formats (String.ofList name) args) more) := by
  rcases enter_cases formats saved console line with
    ⟨reply, _, entered⟩ | ⟨name, args, run, reply, typed, found, entered⟩
  · refine ⟨[], ?_, by rw [entered], .inl rfl⟩
    rw [entered]
    intro thread member work there
    simp only [Console.pending, List.flatMap_append, List.flatMap_cons, List.flatMap_nil,
      List.append_nil] at member ⊢
    exact ⟨thread, member, there⟩
  · obtain ⟨calls, sent, ⟨tasks, appended, ordered⟩, threads⟩ := starts_handler found args
    refine ⟨tasks ++ (run args).threads, ?_, by rw [entered]; exact sent,
      .inr ⟨name, args, typed, ?_⟩⟩
    · rw [entered]
      intro thread member work there
      refine ⟨thread, ?_, there⟩
      simp only [Console.pending, calls, appended, List.flatMap_append, List.flatMap_cons,
        List.flatMap_nil, List.append_nil, List.mem_append] at member ⊢
      tauto
    · intro thread member
      exact (List.mem_append.mp member).elim (ordered thread) (threads thread)

/-- A line starts what it orders. -/
theorem Traced.enter {line : Text} (run : AnyRun (step formats runtime) start events console)
    (traced : Traced formats runtime start events console)
    : Traced formats runtime start (events ++ [.enter line saved])
        (console.enter formats saved line) := by
  obtain ⟨more, within, sent, started⟩ := enter_starts formats saved console line
  constructor
  · intro thread member work there
    obtain ⟨longer, listed, inside⟩ := within thread member work there
    rcases List.mem_append.mp listed with before | new
    · exact (traced.pending longer before work inside).snoc _
    · rcases started with rfl | ⟨name, args, typed, orders⟩
      · cases new
      · obtain ⟨mild, addressed⟩ := orders longer new work inside
        refine ⟨mild, fun socket packet sends commanded => ?_⟩
        exact ⟨events, line, saved, [], console, name, args, rfl, run, typed,
          addressed socket packet sends commanded⟩
  · intro message member cause commanded
    rw [sent] at member
    obtain ⟨id, packet, data, line⟩ := traced.sent message member cause commanded
    exact ⟨id, packet, data, line.snoc _⟩

theorem Traced.step {event : ConsoleEvent}
    (run : AnyRun (step formats runtime) start events console)
    (traced : Traced formats runtime start events console)
    (taken : console.step formats runtime event = some after)
    : Traced formats runtime start (events ++ [event]) after := by
  have same := Within.refl console.pending
  cases event with
  | server event =>
      rw [Console.step] at taken
      split_ifs at taken with own
      obtain ⟨server, stepped, rfl⟩ := Option.map_eq_some_iff.mp taken
      exact traced.keeps same fun message member cause commanded =>
        ServerState.quiet_of_server own stepped member cause commanded
  | enter line saved =>
      obtain rfl := Option.some.inj taken
      exact traced.enter run
  | advance index thread saved =>
      obtain ⟨_, went⟩ := advance_cases taken
      exact traced.perform went
  | abandon index thread => exact traced.cutBack (abandon_cases taken)
  | answer index => exact traced.cutBack (answer_cases taken)
  | task index saved =>
      obtain ⟨_, went⟩ := task_cases taken
      exact traced.perform went
  | countdown index =>
      rw [Console.step] at taken
      split_ifs at taken
      obtain rfl := Option.some.inj taken
      exact traced.keeps same fun message member _ _ => member
  | edit file =>
      obtain rfl := Option.some.inj taken
      exact traced.keeps same fun message member _ _ => member
  | start saved =>
      obtain rfl := Option.some.inj taken
      refine traced.keeps ?_ ?_
      · intro thread member
        cases saved <;> cases member
      · intro message member
        cases saved <;> cases member

theorem Traced.of_run {file : SettingsFile} {shines : List Int32}
    (run
      : AnyRun (Console.step formats runtime) (startProcess formats saved file shines) events
          console)
    : Traced formats runtime (startProcess formats saved file shines) events console := by
  induction run with
  | nil =>
      constructor
      · intro thread member
        cases saved <;> cases member
      · intro message member
        cases saved <;> cases member
  | snoc before _ taken ih => exact ih.step before taken

end

/-- A ChangeStage or Shine packet of a command goes only to players whom a line has named before, at
a time when they were connected, and has the stage and scenario or the moon that the line has
ordered.
-/
theorem line_before_frame {formats : Formats} {runtime : Runtime} {saved : Bool}
    {file : SettingsFile} {shines : List Int32} {events : List ConsoleEvent} {console : Console}
    {message : Sent}
    (run : AnyRun (step formats runtime) (startProcess formats saved file shines) events console)
    (member : message ∈ console.server.sent) (cause : message.cause = .server)
    (commanded : ServerState.Commanded runtime message.data)
    : ∃ id packet,
        message.data = runtime.typedFrame id packet
        ∧ EarlierLine formats runtime (startProcess formats saved file shines) events
            fun earlier name args => earlier.Addressed formats name args message.socket packet :=
  (Traced.of_run run).sent message member cause commanded

end Console

-----------------------------------------------------------------------------------------
-- Luigi is sent a moon
-----------------------------------------------------------------------------------------

/-- A text of digits. -/
def numeral (text : Text) : Option Nat :=
  if text = [] ∨ text.any (fun letter => !letter.isDigit) then none
  else some (text.foldl (fun number letter => 10 * number + (letter.toNat - '0'.toNat)) 0)

/-- A list in the indented text of the settings. -/
def jsonList (name : String) (items : List String) (ending : String) : List String :=
  if items = [] then ["    \"" ++ name ++ "\": []" ++ ending]
  else
    ["    \"" ++ name ++ "\": ["]
    ++ items.mapIdx (fun index item =>
      "      \"" ++ item ++ "\"" ++ (if index + 1 < items.length then "," else ""))
    ++ ["    ]" ++ ending]

def jsonBool (value : Bool) : String := if value then "true" else "false"

def jsonPov (pov : FlipOptions) : String :=
  if pov = .both then "\"both\""
  else if pov = .self then "\"self\""
  else if pov = .others then "\"others\""
  else toString pov.value.toInt

/-- The settings as indented text, with the defaults of what no command reads or sets. -/
def settingsText (settings : Settings) : Text :=
  let ids (players : List Guid) := players.map fun id => Nat.repr id.bits.toNat
  let lines : List String :=
    ["\x7b", "  \"Server\": \x7b", "    \"Address\": \"0.0.0.0\",", "    \"Port\": 1027,",
      "    \"MaxPlayers\": " ++ Nat.repr settings.server.maxPlayers.toNat, "  \x7d,",
      "  \"Flip\": \x7b", "    \"Enabled\": " ++ jsonBool settings.flip.enabled ++ ","]
    ++ jsonList "Players" (ids settings.flip.players) ","
    ++ ["    \"Pov\": " ++ jsonPov settings.flip.pov, "  \x7d,", "  \"Scenario\": \x7b",
      "    \"MergeEnabled\": " ++ jsonBool settings.scenario.mergeEnabled, "  \x7d,",
      "  \"BanList\": \x7b", "    \"Enabled\": " ++ jsonBool settings.banList.enabled ++ ","]
    ++ jsonList "Players" (ids settings.banList.players) ","
    ++ jsonList "IpAddresses" settings.banList.ipAddresses ""
    ++ ["  \x7d,", "  \"Discord\": \x7b", "    \"Token\": null,", "    \"Prefix\": \"$\",",
      "    \"CommandChannel\": null,", "    \"LogChannel\": null", "  \x7d,",
      "  \"Shines\": \x7b", "    \"Enabled\": " ++ jsonBool settings.shines.enabled, "  \x7d,",
      "  \"PersistShines\": \x7b",
      "    \"Enabled\": " ++ jsonBool settings.persistShines.enabled ++ ",",
      "    \"Filename\": \"./moons.json\"", "  \x7d", "\x7d"]
  joined "\n" (lines.map String.toList)

/-- The settings in which one player is flipped up to twice, looked up by their text. -/
def settingsOfText (content : Text) : Option Settings :=
  let flipped (times : Nat) : Settings := { flip := { players := List.replicate times ⟨7⟩ } }
  ((List.range 3).map flipped).find? fun settings => settingsText settings = content

/-- A number without a sign that is not too large. -/
def numeralUpTo (most : Nat) (text : Text) : Option Nat := (numeral text).filter (· ≤ most)

/-- Numbers without a sign, and Ids that are numbers. -/
def plainFormats : Formats where
  toCulture := {
    ServerState.plainCulture with
    tryParse := fun text => (numeral text).map fun number => ⟨BitVec.ofNat 128 number⟩
  }
  tryParseUShort text := (numeralUpTo 65535 text).map UInt16.ofNat
  tryParseByte text := (numeralUpTo 255 text).map UInt8.ofNat
  tryParseSByte text := (numeralUpTo 127 text).map Int8.ofNat
  tryParseInt text := (numeralUpTo 2147483647 text).map Int32.ofNat
  tryParseBool text :=
    if text = "true".toList then some true else if text = "false".toList then some false else none
  tryParsePov text :=
    if text = "self".toList then some .self
    else (numeralUpTo 2147483647 text).map fun number => ⟨Int32.ofNat number⟩
  guidText id := decimal id.bits.toNat
  serialize := settingsText
  deserialize := settingsOfText

/-- Mario and Luigi play, and a moon is sent. Mario is named too early. -/
def moonForLuigi : List ConsoleEvent :=
  duet.map .server ++ [.enter "shine send 5 Mario Luigi".toList true, .advance 0 0 true]

/-- Luigi has the moon from the line. -/
theorem Console.line_before_frame_luigi
    : ∃ console message,
        AnyRun (Console.step plainFormats .pooled) (startProcess plainFormats true .missing [])
          moonForLuigi console
        ∧ message ∈ console.server.sent
        ∧ message.socket = 2
        ∧ ∃ id packet,
            message.data = Runtime.pooled.typedFrame id packet
            ∧ EarlierLine plainFormats .pooled (startProcess plainFormats true .missing [])
                moonForLuigi fun earlier name args =>
                  earlier.Addressed plainFormats name args message.socket packet := by
  obtain ⟨console, run, last⟩ :=
    @exists_run _ _ (Console.step plainFormats .pooled)
      (startProcess plainFormats true .missing []) moonForLuigi
      (fun console =>
        (console.server.sent.getLast?.any fun message => decide (
          message.cause = .server ∧ message.socket = 2
          ∧ message.data = Runtime.pooled.typedFrame ⟨8⟩ (.shine { shineId := 5 }))) = true)
      inferInstance (by decide +kernel)
  obtain ⟨message, found, shows⟩ := (Option.any_eq_true _ _).mp last
  obtain ⟨cause, socket, data⟩ := of_decide_eq_true shows
  have member := List.mem_of_getLast? found
  exact ⟨console, message, run, member, socket,
    line_before_frame run member cause ⟨_, _, rfl, data⟩⟩

end SmoOnline
