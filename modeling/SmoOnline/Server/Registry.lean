import SmoOnline.Server.Bans
import SmoOnline.Server.Console

/-! What the lines of the console have set. It is there again when the server was started anew, but
for bans that no save came after.
-/

namespace SmoOnline

open Utf8 Runs CommandHandler

-----------------------------------------------------------------------------------------
-- What the lines have set
-----------------------------------------------------------------------------------------

/-- All settings but for the entries of the ban list; the last two are set by no line. -/
structure Registry where
  maxPlayers : UInt16
  mergeEnabled : Bool
  shinesEnabled : Bool
  flipEnabled : Bool
  pov : FlipOptions
  flipped : List Guid
  bansEnabled : Bool
  persistShines : PersistShinesTable

def Settings.registry (settings : Settings) : Registry where
  maxPlayers := settings.server.maxPlayers
  mergeEnabled := settings.scenario.mergeEnabled
  shinesEnabled := settings.shines.enabled
  flipEnabled := settings.flip.enabled
  pov := settings.flip.pov
  flipped := settings.flip.players
  bansEnabled := settings.banList.enabled
  persistShines := settings.persistShines

namespace Registry

variable (formats : Formats)

/-- A setting takes the value that was read, if one was. -/
def set {Value : Type} (registry : Registry) (read : Option Value) (update : Value → Registry)
    : Registry :=
  read.elim registry update

def maxplayers (registry : Registry) : List Text → Registry
  | [count] =>
      registry.set (formats.tryParseUShort count) fun maxPlayers => { registry with maxPlayers }
  | _ => registry

def scenario (registry : Registry) : List Text → Registry
  | [option, value] =>
      if option = "merge".toList then
        registry.set (formats.tryParseBool value) fun mergeEnabled =>
          { registry with mergeEnabled }
      else registry
  | _ => registry

def shine (registry : Registry) : List Text → Registry
  | [option, value] =>
      if option = "set".toList then
        registry.set (formats.tryParseBool value) fun shinesEnabled =>
          { registry with shinesEnabled }
      else registry
  | _ => registry

/-- A player that is removed stays in the list as often as it was added later. -/
def flip (registry : Registry) : List Text → Registry
  | [option, value] =>
      if option = "add".toList then
        registry.set (formats.tryParse value) fun id =>
          { registry with flipped := registry.flipped ++ [id] }
      else if option = "remove".toList then
        registry.set (formats.tryParse value) fun id =>
          { registry with flipped := registry.flipped.erase id }
      else if option = "set".toList then
        registry.set (formats.tryParseBool value) fun flipEnabled => { registry with flipEnabled }
      else if option = "pov".toList then
        registry.set (formats.tryParsePov value) fun pov => { registry with pov }
      else registry
  | _ => registry

/-- What a command sets. -/
def enter (registry : Registry) (name : String) (args : List Text) : Registry :=
  match name with
  | "maxplayers" => registry.maxplayers formats args
  | "scenario" => registry.scenario formats args
  | "shine" => registry.shine formats args
  | "flip" => registry.flip formats args
  | _ => registry

/-- Only the lines count, each by the command that it was taken for. -/
def after (registry : Registry) : ConsoleEvent → Registry
  | .enter line _ =>
      match parse line with
      | .parsed (name :: args) => registry.enter formats (String.ofList name) args
      | _ => registry
  | _ => registry

end Registry

/-- The file can be written, and nobody else writes it. -/
def ConsoleEvent.keepsFile : ConsoleEvent → Prop
  | .enter _ saved | .advance _ _ saved | .task _ saved | .start saved => saved = true
  | .edit _ => False
  | _ => True

/-- The file is kept, and what is in force behind the step is read back as it is written. -/
def Console.KeepsFile (formats : Formats) (runtime : Runtime) (console : Console)
    (event : ConsoleEvent)
    : Prop :=
  event.keepsFile
  ∧ ∀ after, console.step formats runtime event = some after → formats.ReadsBack after.settings

/-- The settings in force and those of the file are what the lines have set, and the ban list of the
file is a beginning of the one in force.
-/
structure Console.Kept (formats : Formats) (registry : Registry) (console : Console) : Prop where
  inForce : console.settings.registry = registry
  onFile
    : ∃ settings,
        console.file.read formats = some settings
        ∧ settings.registry = registry
        ∧ settings.banList.players <+: console.settings.banList.players
        ∧ settings.banList.ipAddresses <+: console.settings.banList.ipAddresses

-----------------------------------------------------------------------------------------
-- Settings over a step of the server
-----------------------------------------------------------------------------------------

namespace ServerState

variable {runtime : Runtime} {state next : ServerState} {event : Event}

/-- Only the console sets settings. -/
theorem settings_of_server (own : event.ofServer = true)
    (taken : state.step runtime event = some next)
    : next.settings = state.settings := by
  cases event with
  | join socket =>
      obtain ⟨_, _, _, _, _, _, ⟨_, rfl⟩ | ⟨_, _, _, rfl⟩ | ⟨_, _, _, _, rfl⟩ | ⟨_, _, _, rfl⟩⟩ :=
        join_cases taken
      · rfl
      · rfl
      · unfold takeOver
        dsimp only
        split_ifs <;> rfl
      · exact settings_foldl_disconnect _ _
  | clientJoined socket =>
      obtain ⟨_, _, ⟨_, rfl⟩ | ⟨_, _, _, rfl, _⟩⟩ := clientJoined_cases taken <;> rfl
  | dispatch socket now =>
      obtain ⟨memory, _, rfl⟩ := dispatch_cases taken
      exact (state.dispatchFrame_quiet runtime now socket memory).settings
  | epilogue socket =>
      obtain ⟨_, rfl⟩ := epilogue_cases taken
      dsimp only
      split_ifs <;> rfl
  | task index =>
      obtain ⟨pending, _, rfl⟩ := task_cases taken
      exact (runTask_quiet _ runtime pending).settings
  | timer =>
      obtain rfl := Option.some.inj taken
      exact state.syncShineBag_quiet.settings
  | startGameMode =>
      obtain rfl := Option.some.inj taken
      rfl
  | configure settings => cases own
  | maxPlayers count => cases own
  | ban socket => cases own
  | shineClear => cases own
  | _ =>
      obtain ⟨_, _, rfl⟩ := bare_cases rfl taken
      rfl

end ServerState

-----------------------------------------------------------------------------------------
-- Commands and the settings
-----------------------------------------------------------------------------------------

namespace Console

variable {formats : Formats} {runtime : Runtime} {console after : Console} {registry : Registry}

/-- Nothing is lost as long as the settings in force stay but for longer ban lists. -/
theorem Kept.grow (kept : console.Kept formats registry) (file : after.file = console.file)
    {players : List Guid} {ipAddresses : List String}
    (settings
      : after.settings
        = { console.settings with
            banList :=
              { console.settings.banList with
                players := console.settings.banList.players ++ players
                ipAddresses := console.settings.banList.ipAddresses ++ ipAddresses } })
    : after.Kept formats registry := by
  obtain ⟨inForce, onFile, text, same, bans, addresses⟩ := kept
  refine ⟨?_, onFile, ?_, same, ?_⟩
  · rw [settings]
    exact inForce
  · rw [file]
    exact text
  · rw [settings]
    exact ⟨bans.trans (List.prefix_append _ _), addresses.trans (List.prefix_append _ _)⟩

theorem Kept.same (kept : console.Kept formats registry) (file : after.file = console.file)
    (settings : after.settings = console.settings)
    : after.Kept formats registry := by
  have longer
      : after.settings
        = { console.settings with
            banList :=
              { console.settings.banList with
                players := console.settings.banList.players ++ []
                ipAddresses := console.settings.banList.ipAddresses ++ [] } } := by
    rw [settings, List.append_nil, List.append_nil]
  exact kept.grow file longer

/-- What is saved is in force. -/
theorem Kept.of_saved (back : formats.ReadsBack after.settings)
    (inForce : after.settings.registry = registry)
    (file : after.file = .text (formats.serialize after.settings))
    : after.Kept formats registry :=
  ⟨inForce, after.settings, by rw [file]; exact back, inForce, List.prefix_rfl, List.prefix_rfl⟩

/-- A console that keeps what the lines have set if what is in force is read back. -/
def Keeps (formats : Formats) (registry : Registry) (after : Console) : Prop :=
  formats.ReadsBack after.settings → after.Kept formats registry

theorem Keeps.of_saved (inForce : after.settings.registry = registry)
    (file : after.file = .text (formats.serialize after.settings))
    : after.Keeps formats registry :=
  fun back => .of_saved back inForce file

theorem Kept.keeps (kept : console.Kept formats registry) : console.Keeps formats registry :=
  fun _ => kept

theorem Kept.keeps_same (kept : console.Kept formats registry)
    (file : after.file = console.file) (settings : after.settings = console.settings)
    : after.Keeps formats registry :=
  (kept.same file settings).keeps

theorem keeps_configure (settings : Settings)
    : (configure formats true console settings).Keeps formats settings.registry :=
  .of_saved rfl rfl

theorem Kept.saveSettings (kept : console.Kept formats registry)
    : (saveSettings formats true console).Keeps formats registry :=
  .of_saved kept.inForce rfl

/-- The settings that are loaded are those that were set. -/
theorem Kept.loadSettings (kept : console.Kept formats registry)
    : (loadSettings formats true console).Keeps formats registry := by
  obtain ⟨settings, text, same, _⟩ := kept.onFile
  rw [Console.loadSettings, text, ← same]
  exact keeps_configure settings

theorem Kept.startProcess (kept : console.Kept formats registry)
    : (startProcess formats true console.file console.server.savedShines).Keeps formats
        registry := by
  obtain ⟨settings, text, same, _⟩ := kept.onFile
  have loaded : console.file.loaded formats = settings := by
    rw [SettingsFile.loaded, text, Option.getD_some]
  refine .of_saved ?_ rfl
  rw [← same, ← loaded]
  rfl

/-- A command sets nothing. -/
def Idle (console : Console) (result : Result) : Prop :=
  result.console.file = console.file ∧ result.console.settings = console.settings

theorem Idle.keeps {result : Result} (idle : console.Idle result)
    (kept : console.Kept formats registry)
    : result.console.Keeps formats registry :=
  kept.keeps_same idle.1 idle.2

theorem idle_actUpon {command verb : String} {args : List Text}
    {act : List SocketId → Result → Result}
    (idle : ∀ users text, console.Idle (act users { text, console }))
    : console.Idle (console.actUpon formats command verb args act) := by
  unfold actUpon
  split_ifs
  · exact ⟨rfl, rfl⟩
  · split
    · exact ⟨rfl, rfl⟩
    · exact idle _ _

theorem idle_send (args : List Text) : console.Idle (console.send formats args) := by
  unfold send
  dsimp only
  repeat' split
  all_goals exact ⟨rfl, rfl⟩

theorem idle_sendall (args : List Text) : console.Idle (console.sendall formats args) := by
  unfold sendall
  repeat' split
  all_goals exact ⟨rfl, rfl⟩

theorem idle_tag (args : List Text) : console.Idle (console.tag formats args) := by
  unfold tag
  dsimp only
  repeat' split
  all_goals exact ⟨rfl, rfl⟩

theorem idle_ctf (args : List Text) : console.Idle (console.ctf formats args) := by
  unfold ctf
  dsimp only
  repeat' split
  all_goals exact ⟨rfl, rfl⟩

theorem idle_restartserver (args : List Text) : console.Idle (console.restartserver args) := by
  unfold restartserver
  split_ifs <;> exact ⟨rfl, rfl⟩

theorem Kept.scenario (kept : console.Kept formats registry) (args : List Text)
    : (scenario formats true console args).console.Keeps formats
        (registry.scenario formats args) := by
  obtain rfl := kept.inForce
  rcases args with _ | ⟨option, _ | ⟨value, _ | ⟨more, rest⟩⟩⟩
  · exact kept.keeps
  · unfold Console.scenario
    dsimp only
    split_ifs <;> exact kept.keeps
  · unfold Console.scenario Registry.scenario
    dsimp only
    split_ifs
    · cases formats.tryParseBool value with
      | none => exact kept.keeps
      | some mergeEnabled => exact .of_saved rfl rfl
    · exact kept.keeps
  · exact kept.keeps

theorem Kept.maxplayers (kept : console.Kept formats registry) (args : List Text)
    : (maxplayers formats true console args).console.Keeps formats
        (registry.maxplayers formats args) := by
  obtain rfl := kept.inForce
  rcases args with _ | ⟨count, _ | ⟨more, rest⟩⟩
  · exact kept.keeps
  · unfold Console.maxplayers Registry.maxplayers
    dsimp only
    cases formats.tryParseUShort count with
    | none => exact kept.keeps
    | some maxPlayers =>
        refine .of_saved ?_ rfl
        have set := ServerState.settings_foldl_disconnect console.server.clients
          { console.server with
            settings := { console.settings with server := { maxPlayers } } }
        exact congrArg Settings.registry set
  · exact kept.keeps

theorem Kept.flip (kept : console.Kept formats registry) (args : List Text)
    : (flip formats true console args).console.Keeps formats (registry.flip formats args) := by
  obtain rfl := kept.inForce
  rcases args with _ | ⟨option, _ | ⟨value, _ | ⟨more, rest⟩⟩⟩
  · exact kept.keeps
  · unfold Console.flip
    dsimp only
    split_ifs <;> exact kept.keeps
  · unfold Console.flip Registry.flip
    dsimp only
    split_ifs
    · cases formats.tryParse value with
      | none => exact kept.keeps
      | some id => exact .of_saved rfl rfl
    · cases formats.tryParse value with
      | none => exact kept.keeps
      | some id => exact .of_saved rfl rfl
    · cases formats.tryParseBool value with
      | none => exact kept.keeps
      | some enabled => exact .of_saved rfl rfl
    · cases formats.tryParsePov value with
      | none => exact kept.keeps
      | some pov => exact .of_saved rfl rfl
    · exact kept.keeps
  · exact kept.keeps

/-- All of `shine` but `shine set`. -/
theorem idle_shine {saved : Bool} {args : List Text}
    (other : ∀ value, args ≠ ["set".toList, value])
    : console.Idle (shine formats saved console args) := by
  rcases args with _ | ⟨option, args⟩
  · exact ⟨rfl, rfl⟩
  · unfold Console.shine
    dsimp only
    split
    · exact ⟨rfl, rfl⟩
    split
    · exact ⟨rfl, console.server.shineClear_quiet.settings⟩
    split
    · exact ⟨rfl, console.server.syncShineBag_quiet.settings⟩
    split
    · cases formats.tryParseInt (args.headD []) <;> exact ⟨rfl, rfl⟩
    split
    · next set =>
        obtain ⟨rfl, one⟩ := set
        obtain ⟨value, rfl⟩ := List.length_eq_one_iff.mp one
        exact absurd rfl (other value)
    · exact ⟨rfl, rfl⟩

theorem Kept.shine (kept : console.Kept formats registry) (args : List Text)
    : (shine formats true console args).console.Keeps formats (registry.shine formats args) := by
  obtain rfl := kept.inForce
  by_cases set : ∃ value, args = ["set".toList, value]
  · obtain ⟨value, rfl⟩ := set
    rw [Console.shine, Registry.shine]
    simp only [List.cons_ne_nil, and_false, if_false, List.length_cons, List.length_nil,
      List.headD_cons, if_true]
    cases formats.tryParseBool value with
    | none => exact kept.keeps
    | some enabled => exact .of_saved rfl rfl
  · push Not at set
    have unset : console.settings.registry.shine formats args = console.settings.registry := by
      unfold Registry.shine
      split
      · next option value =>
          split_ifs with same
          · exact absurd (congrArg (fun option => [option, value]) same) (set value)
          · rfl
      · rfl
    rw [unset]
    exact (idle_shine set).keeps kept

/-- Each command sets what the registry notes. -/
theorem Kept.handler (kept : console.Kept formats registry) {name : Text}
    {run : List Text → Result} (found : console.handler formats true name = some run)
    (args : List Text)
    : (run args).console.Keeps formats (registry.enter formats (String.ofList name) args) := by
  unfold Console.handler at found
  split at found <;> cases found <;> rename_i same <;> rw [same]
  · exact kept.keeps
  · have idle : console.Idle (rejoin formats console args) := idle_actUpon fun _ _ => ⟨rfl, rfl⟩
    exact idle.keeps kept
  · have idle : console.Idle (crash formats console args) := idle_actUpon fun _ _ => ⟨rfl, rfl⟩
    exact idle.keeps kept
  · have idle : console.Idle (ban formats console args) := idle_actUpon fun _ _ => ⟨rfl, rfl⟩
    exact idle.keeps kept
  · exact (idle_send args).keeps kept
  · exact (idle_sendall args).keeps kept
  · exact kept.scenario args
  · exact (idle_tag args).keeps kept
  · exact (idle_ctf args).keeps kept
  · exact kept.maxplayers args
  · exact kept.keeps
  · exact kept.flip args
  · exact kept.shine args
  · exact kept.loadSettings
  · exact (idle_restartserver args).keeps kept
  · exact kept.keeps_same rfl rfl
  · exact kept.keeps_same rfl rfl
  · exact kept.keeps_same rfl rfl

-----------------------------------------------------------------------------------------
-- Lines before what is set
-----------------------------------------------------------------------------------------

section

variable {formats : Formats} {runtime : Runtime} {console after : Console} {registry : Registry}

/-- A name that is no command sets nothing. -/
theorem registry_of_unknown {saved : Bool} {name : Text}
    (unknown : console.handler formats saved name = none) (args : List Text)
    : registry.enter formats (String.ofList name) args = registry := by
  unfold Registry.enter
  unfold Console.handler at unknown
  split <;> rename_i same
  · rw [same] at unknown
    cases unknown
  · rw [same] at unknown
    cases unknown
  · rw [same] at unknown
    cases unknown
  · rw [same] at unknown
    cases unknown
  · rfl

/-- A thread sets nothing but longer ban lists. -/
theorem Kept.perform {work : Work} (kept : console.Kept formats registry)
    (mild : work.mild = true)
    : (console.perform formats runtime true work).Keeps formats registry := by
  cases work with
  | saveSettings => exact kept.saveSettings
  | event event =>
      rw [Console.perform]
      cases taken : console.server.step runtime event with
      | none => exact kept.keeps
      | some next =>
          by_cases own : event.ofServer = true
          · exact kept.keeps_same rfl (ServerState.settings_of_server own taken)
          · cases event with
            | sendFromServer socket packet =>
                simp only [ServerState.step, ServerState.sendFromServer] at taken
                split_ifs at taken
                obtain rfl := Option.some.inj taken
                exact kept.keeps_same rfl rfl
            | ban socket =>
                simp only [ServerState.step, ServerState.ban] at taken
                split_ifs at taken
                obtain rfl := Option.some.inj taken
                exact fun _ => kept.grow rfl rfl
            | close socket => exact absurd rfl own
            | broadcastFromServer packet =>
                cases packet with
                | tag packet => exact absurd rfl own
                | _ => cases mild
            | _ => cases mild

theorem Kept.went {work : Work} (kept : console.Kept formats registry)
    (mild : Pending (fun work => work.mild = true) console.pending)
    (went : console.WentOn formats runtime true after work)
    : after.Keeps formats registry := by
  obtain ⟨thread, listed, inside⟩ := went.pending
  have settings
      : after.settings = (console.perform formats runtime true work).settings :=
    congrArg ServerState.settings went.server
  intro back
  have performed : (console.perform formats runtime true work).Kept formats registry := by
    refine kept.perform (mild thread listed work inside) ?_
    rw [← settings]
    exact back
  exact performed.same went.file settings

theorem Kept.enter (kept : console.Kept formats registry) (line : Text)
    : (console.enter formats true line).Keeps formats
        (registry.after formats (.enter line true)) := by
  rcases enter_cases formats true console line with
    ⟨reply, unknown, entered⟩ | ⟨name, args, run, reply, typed, found, entered⟩
  · rw [entered]
    have unset : registry.after formats (.enter line true) = registry := by
      rw [Registry.after]
      split
      · next name args typed => exact registry_of_unknown (unknown name args typed) args
      · rfl
    rw [unset]
    exact kept.keeps_same rfl rfl
  · rw [entered, Registry.after, typed]
    exact fun back => (kept.handler found args back).same rfl rfl

theorem Kept.step {event : ConsoleEvent} (kept : console.Kept formats registry)
    (mild : Pending (fun work => work.mild = true) console.pending) (keeps : event.keepsFile)
    (taken : console.step formats runtime event = some after)
    : after.Keeps formats (registry.after formats event) := by
  cases event with
  | server event =>
      rw [Console.step] at taken
      split_ifs at taken with own
      obtain ⟨server, stepped, rfl⟩ := Option.map_eq_some_iff.mp taken
      exact kept.keeps_same rfl (ServerState.settings_of_server own stepped)
  | enter line saved =>
      obtain rfl := Option.some.inj taken
      obtain rfl : saved = true := keeps
      exact kept.enter line
  | advance index thread saved =>
      obtain ⟨_, went⟩ := advance_cases taken
      obtain rfl : saved = true := keeps
      exact kept.went mild went
  | abandon index thread =>
      have cut := abandon_cases taken
      exact kept.keeps_same cut.file (congrArg ServerState.settings cut.server)
  | answer index =>
      have cut := answer_cases taken
      exact kept.keeps_same cut.file (congrArg ServerState.settings cut.server)
  | task index saved =>
      obtain ⟨_, went⟩ := task_cases taken
      obtain rfl : saved = true := keeps
      exact kept.went mild went
  | countdown index =>
      rw [Console.step] at taken
      split_ifs at taken
      obtain rfl := Option.some.inj taken
      exact kept.keeps_same rfl rfl
  | edit file => cases keeps
  | start saved =>
      obtain rfl := Option.some.inj taken
      obtain rfl : saved = true := keeps
      exact kept.startProcess

end

/-- Where the file can be written, nobody else writes it and it is read back as it was written, the
settings in force and those of the file are what the lines have set from those that were loaded
first, whatever was loaded again and however often the process was started anew; of the ban list,
the file has a beginning.
-/
theorem settings_follow_lines {formats : Formats} {runtime : Runtime} {file : SettingsFile}
    {shines : List Int32} (back : formats.ReadsBack (file.loaded formats))
    {events : List ConsoleEvent} {console : Console}
    (run
      : Run (step formats runtime) (KeepsFile formats runtime)
          (startProcess formats true file shines) events console)
    : console.Kept formats
        (events.foldl (Registry.after formats) (file.loaded formats).registry) := by
  induction run with
  | nil => exact .of_saved back rfl rfl
  | @snoc events console event after before keeps taken ih =>
      rw [List.foldl_append]
      have traced := Traced.of_run (before.mono fun _ => trivial)
      exact ih.step (fun thread member work there => (traced.pending thread member work there).1)
        keeps.1 taken (keeps.2 after taken)

end Console

instance : DecidablePred ConsoleEvent.keepsFile
  | .enter _ saved | .advance _ _ saved | .task _ saved | .start saved =>
      inferInstanceAs (Decidable (saved = true))
  | .edit _ => inferInstanceAs (Decidable False)
  | .server _ | .abandon .. | .answer _ | .countdown _ => inferInstanceAs (Decidable True)

instance (formats : Formats) (settings : Settings) : Decidable (formats.ReadsBack settings) :=
  inferInstanceAs (Decidable (_ = _))

/-- The check of `KeepsFile` for one step. -/
def keepsAll (console : Console) (event : ConsoleEvent) : Bool :=
  decide event.keepsFile
  && (console.step plainFormats .pooled event).all fun after =>
    decide (plainFormats.ReadsBack after.settings)

theorem keepsFile_of_keepsAll {console : Console} {event : ConsoleEvent}
    (keeps : keepsAll console event = true)
    : console.KeepsFile plainFormats .pooled event := by
  obtain ⟨kept, back⟩ := Bool.and_eq_true_iff.mp keeps
  refine ⟨of_decide_eq_true kept, fun after taken => ?_⟩
  rw [taken] at back
  exact of_decide_eq_true back

/-- A player is flipped twice, and is removed once behind a restart. -/
def flippedTwice : List ConsoleEvent :=
  [.enter "flip add 7".toList true, .enter "flip add 7".toList true, .start true,
    .enter "flip remove 7".toList true, .start true]

/-- The player is still flipped, twice added and once removed. -/
theorem Console.settings_follow_lines_flipped
    : ∃ console,
        Run (Console.step plainFormats .pooled) (KeepsFile plainFormats .pooled)
          (startProcess plainFormats true .missing []) flippedTwice console
        ∧ console.Kept plainFormats
            (flippedTwice.foldl (Registry.after plainFormats) ({} : Settings).registry)
        ∧ console.settings.flip.players = [⟨7⟩] := by
  have executed
      : (executeChecked (Console.step plainFormats .pooled) keepsAll
          (startProcess plainFormats true .missing []) flippedTwice).any
            (fun console => decide (console.settings.flip.players = [⟨7⟩])) = true := by
    decide +kernel
  obtain ⟨console, executed, players⟩ := (Option.any_eq_true _ _).mp executed
  have run := executeChecked_run (fun _ _ => keepsFile_of_keepsAll) executed
  exact ⟨console, run, settings_follow_lines (by decide +kernel) run, of_decide_eq_true players⟩

end SmoOnline
