import SmoOnline.Server.BanList

/-! The `ban` command: it starts a task for each player that it acts on and saves the settings
while they run. What a task writes down of a player's address is the end point with its port.
-/

namespace SmoOnline

open Span Utf8 Runs

-----------------------------------------------------------------------------------------
-- The command
-----------------------------------------------------------------------------------------

/-- How far `SaveSettings` is with the two lists, which it reads one after the other. An entry that
is added to a list while it is read makes it throw, and it catches that and writes nothing.
-/
inductive Saving
  | started
  | read (players : List Guid)
  | written (players : List Guid) (ipAddresses : List String)
  | failed
  deriving DecidableEq, Repr

/-- An entry is added, perhaps to the list that is read just then. -/
def Saving.added (hitsReader : Bool) : Saving → Saving
  | .started => if hitsReader then .failed else .started
  | .read players => if hitsReader then .failed else .read players
  | saving => saving

/-- The command after its loop has started the tasks: who still has one running, what the tasks
have written down of each player, and the save.
-/
structure BanCommand where
  server : ServerState
  tasks : List SocketId
  entries : List (Guid × Option String) := []
  saving : Saving := .started

inductive BanEvent
  /-- anything that leaves the ban list as it is -/
  | server (event : Event)
  /-- the packet is sent, and the socket has its remote end point -/
  | task (user : SocketId) (hitsReader : Bool)
  /-- the packet is sent, and the socket has no remote end point any more -/
  | taskAway (user : SocketId) (hitsReader : Bool)
  /-- the packet cannot be sent, or the socket was disposed of -/
  | taskFails (user : SocketId)
  | readPlayers
  | readAddresses

namespace BanCommand

variable (runtime : Runtime) (command : BanCommand)

/-- One event. -/
def step : BanEvent → Option BanCommand
  | .server event =>
      (command.server.step runtime event).bind fun server =>
        if server.settings.banList = command.server.settings.banList then
          some { command with server }
        else none
  | .task user hitsReader =>
      if user ∈ command.tasks then
        (command.server.ban runtime user).map fun server =>
          let session := command.server.session user
          { server
            tasks := command.tasks.erase user
            entries := command.entries ++ [(session.id, some session.remote.toString)]
            saving := command.saving.added hitsReader }
      else none
  | .taskAway user hitsReader =>
      if user ∈ command.tasks ∧ (command.server.session user).socketConnected = false then
        let id := (command.server.session user).id
        let list := command.server.settings.banList
        let banList := { list with players := list.players ++ [id] }
        some
          { server :=
              { command.server with settings := { command.server.settings with banList } }
            tasks := command.tasks.erase user
            entries := command.entries ++ [(id, none)]
            saving := command.saving.added hitsReader }
      else none
  | .taskFails user =>
      if user ∈ command.tasks then some { command with tasks := command.tasks.erase user }
      else none
  | .readPlayers =>
      match command.saving with
      | .started =>
          some { command with saving := .read command.server.settings.banList.players }
      | _ => none
  | .readAddresses =>
      match command.saving with
      | .read players =>
          some
            { command with
              saving := .written players command.server.settings.banList.ipAddresses }
      | _ => none

/-- The file that was written has all that the tasks have written down. -/
def FileHolds : Prop :=
  ∃ players ipAddresses,
    command.saving = .written players ipAddresses
    ∧ ∀ entry ∈ command.entries, entry.1 ∈ players ∧ ∀ text ∈ entry.2, text ∈ ipAddresses

/-- No task adds an entry from when the save reads the settings on. -/
def AddsBefore : BanEvent → Prop
  | .task _ hitsReader | .taskAway _ hitsReader => command.saving = .started ∧ hitsReader = false
  | _ => True

instance (event : BanEvent) : Decidable (command.AddsBefore event) :=
  match event with
  | .task _ _ | .taskAway _ _ => inferInstanceAs (Decidable (_ ∧ _))
  | .server _ | .taskFails _ | .readPlayers | .readAddresses => isTrue trivial

/-- What the tasks have written down is on the list, and in what was read of it. -/
structure Saves : Prop where
  players : ∀ entry ∈ command.entries, entry.1 ∈ command.server.settings.banList.players
  ipAddresses
    : ∀ entry ∈ command.entries,
        ∀ text ∈ entry.2, text ∈ command.server.settings.banList.ipAddresses
  read
    : ∀ players, command.saving = .read players → ∀ entry ∈ command.entries, entry.1 ∈ players
  written
    : ∀ players ipAddresses, command.saving = .written players ipAddresses → command.FileHolds
  notFailed : command.saving ≠ .failed

variable {runtime command}

/-- Entries that the list has and nothing has read yet are saved when something does. -/
theorem Saves.of_started {command : BanCommand} (started : command.saving = .started)
    (players : ∀ entry ∈ command.entries, entry.1 ∈ command.server.settings.banList.players)
    (ipAddresses
      : ∀ entry ∈ command.entries,
          ∀ text ∈ entry.2, text ∈ command.server.settings.banList.ipAddresses)
    : command.Saves where
  players := players
  ipAddresses := ipAddresses
  read _ reads := by rw [started] at reads; cases reads
  written _ _ writes := by rw [started] at writes; cases writes
  notFailed fails := by rw [started] at fails; cases fails

/-- What is added to the list before anything is read of it. -/
theorem Saves.add {command next : BanCommand} (saves : command.Saves) {id : Guid}
    {text : Option String} (started : next.saving = .started)
    (entries : next.entries = command.entries ++ [(id, text)])
    (players
      : next.server.settings.banList.players = command.server.settings.banList.players ++ [id])
    (ipAddresses
      : next.server.settings.banList.ipAddresses
        = command.server.settings.banList.ipAddresses ++ text.toList)
    : next.Saves := by
  apply Saves.of_started started
  · intro entry member
    rw [entries] at member
    rw [players]
    rcases List.mem_append.mp member with before | added
    · exact List.mem_append_left _ (saves.players entry before)
    · obtain rfl := List.mem_singleton.mp added
      exact List.mem_append_right _ (List.mem_singleton_self _)
  · intro entry member words named
    rw [entries] at member
    rw [ipAddresses]
    rcases List.mem_append.mp member with before | added
    · exact List.mem_append_left _ (saves.ipAddresses entry before words named)
    · obtain rfl := List.mem_singleton.mp added
      exact List.mem_append_right _ (Option.mem_toList.mpr named)

/-- No step loses what the tasks have written down, where none of them adds too late. -/
theorem Saves.step {command next : BanCommand} {event : BanEvent} (saves : command.Saves)
    (timely : command.AddsBefore event) (taken : command.step runtime event = some next)
    : next.Saves := by
  cases event with
  | server event =>
      obtain ⟨server, _, kept⟩ := Option.bind_eq_some_iff.mp taken
      split_ifs at kept with same
      obtain rfl := Option.some.inj kept
      exact {
        players := by rw [same]; exact saves.players
        ipAddresses := by rw [same]; exact saves.ipAddresses
        read := saves.read
        written := saves.written
        notFailed := saves.notFailed
      }
  | task user hitsReader =>
      obtain ⟨started, rfl⟩ := timely
      rw [BanCommand.step] at taken
      split_ifs at taken
      obtain ⟨server, banned, rfl⟩ := Option.map_eq_some_iff.mp taken
      have list := ServerState.ban_banList banned
      refine saves.add ?_ rfl ?_ ?_
      · simp [started, Saving.added]
      · simp only [list]
      · simp only [list, Option.toList]
  | taskAway user hitsReader =>
      obtain ⟨started, rfl⟩ := timely
      rw [BanCommand.step] at taken
      split_ifs at taken
      obtain rfl := Option.some.inj taken
      refine saves.add ?_ rfl rfl ?_
      · simp [started, Saving.added]
      · simp
  | taskFails user =>
      rw [BanCommand.step] at taken
      split_ifs at taken
      obtain rfl := Option.some.inj taken
      exact ⟨saves.players, saves.ipAddresses, saves.read, saves.written, saves.notFailed⟩
  | readPlayers =>
      rw [BanCommand.step] at taken
      split at taken
      · next started =>
          obtain rfl := Option.some.inj taken
          refine ⟨saves.players, saves.ipAddresses, ?_, nofun, nofun⟩
          rintro players ⟨⟩
          exact saves.players
      · cases taken
  | readAddresses =>
      rw [BanCommand.step] at taken
      split at taken
      · next players read =>
          obtain rfl := Option.some.inj taken
          refine ⟨saves.players, saves.ipAddresses, nofun, ?_, nofun⟩
          rintro _ _ ⟨⟩
          exact ⟨_, _, rfl, fun entry member =>
            ⟨saves.read _ read entry member, saves.ipAddresses entry member⟩⟩
      · cases taken

/-- A step of the command is a step of the server or none. -/
theorem step_server {command next : BanCommand} {event : BanEvent}
    (taken : command.step runtime event = some next)
    : next.server = command.server
      ∨ ∃ event, command.server.step runtime event = some next.server := by
  cases event with
  | server event =>
      obtain ⟨server, stepped, kept⟩ := Option.bind_eq_some_iff.mp taken
      split_ifs at kept
      obtain rfl := Option.some.inj kept
      exact .inr ⟨event, stepped⟩
  | task user hitsReader =>
      rw [BanCommand.step] at taken
      split_ifs at taken
      obtain ⟨server, banned, rfl⟩ := Option.map_eq_some_iff.mp taken
      exact .inr ⟨.ban user, banned⟩
  | taskAway user hitsReader =>
      rw [BanCommand.step] at taken
      split_ifs at taken
      obtain rfl := Option.some.inj taken
      -- what the task adds is what setting these settings would
      exact .inr ⟨.configure _, rfl⟩
  | taskFails user =>
      rw [BanCommand.step] at taken
      split_ifs at taken
      obtain rfl := Option.some.inj taken
      exact .inl rfl
  | readPlayers | readAddresses =>
      rw [BanCommand.step] at taken
      split at taken
      · obtain rfl := Option.some.inj taken
        exact .inl rfl
      · cases taken

/-- A run of the command is a run of the server. -/
theorem server_run {start done : BanCommand} {events : List BanEvent}
    (run : AnyRun (step runtime) start events done)
    : ∃ events, AnyRun (ServerState.step runtime) start.server events done.server := by
  induction run with
  | nil => exact ⟨[], .nil⟩
  | snoc _ _ taken ih =>
      obtain ⟨events, before⟩ := ih
      rcases step_server taken with same | ⟨event, stepped⟩
      · exact ⟨events, same ▸ before⟩
      · exact ⟨events ++ [event], before.snoc trivial stepped⟩

/-- Somebody comes from the address that Mario has, up to the join. -/
def comes (id : Guid) (name : Text) : List Event :=
  (arrival .pooled 3 id .firstConnection name []).take 2

/-- Whether somebody who has come to the join is let to it, with an entry or without. -/
def arrives (id : Guid) (name : Text) (entry : Bool) (server : ServerState) : Bool :=
  (execute (ServerState.step .pooled) server (comes id name)).any fun later =>
    decide ((later.session 3).remote.address = "10.0.0.1"
      ∧ (later.session 3).phase
        = .connecting (connectMemory .pooled id .firstConnection name)
            { connectionType := .firstConnection, maxPlayers := 8, clientName := name }
      ∧ PacketHeader.deserialize (connectMemory .pooled id .firstConnection name)
        = some { id, type := .connect, packetSize := 38 }
      ∧ later.connectedClients.length ≠ later.settings.server.maxPlayers.toNat
      ∧ (later.findExistingClient id).isSome = entry
      ∧ (later.join 3).isSome = true)

end BanCommand

end SmoOnline
