import SmoOnline.Shared.Stages
import SmoOnline.Server.CommandHandler
import SmoOnline.Server.Machine
import SmoOnline.Server.Targets

/-! The commands of the console. A command runs up to its answer in one go; the packets that it
sends and the sockets that it closes are taken up one by one afterwards, while the handlers of the
sockets go on.
-/

namespace SmoOnline

open Span Utf8 CommandHandler

-----------------------------------------------------------------------------------------
-- What the commands work on
-----------------------------------------------------------------------------------------

/-- How the runtime reads and prints what is typed in. -/
structure Formats extends Culture where
  tryParseUShort : Text → Option UInt16
  tryParseByte : Text → Option UInt8
  tryParseSByte : Text → Option Int8
  tryParseInt : Text → Option Int32
  tryParseBool : Text → Option Bool
  /-- `Enum.TryParse` of any case -/
  tryParsePov : Text → Option FlipOptions
  guidText : Guid → Text
  /-- `JsonConvert.SerializeObject` -/
  serialize : Settings → Text
  /-- `JsonConvert.DeserializeObject`, which may throw or return null -/
  deserialize : Text → Option Settings

/-- The settings are read back as they were written. -/
def Formats.ReadsBack (formats : Formats) (settings : Settings) : Prop :=
  formats.deserialize (formats.serialize settings) = some settings

/-- `settings.json`. -/
inductive SettingsFile
  | missing
  | text (content : Text)
  deriving DecidableEq, Repr

/-- The settings that are read from the file. -/
def SettingsFile.read (formats : Formats) : SettingsFile → Option Settings
  | .missing => none
  | .text content => formats.deserialize content

/-- What a process begins with. -/
def SettingsFile.loaded (formats : Formats) (file : SettingsFile) : Settings :=
  (file.read formats).getD {}

/-- What a thread of a command does next. -/
inductive Work
  | event (event : Event)
  | saveSettings

/-- A line that is worked on, with the threads that its command waits for. -/
structure Call where
  reply : Reply Text
  threads : List (List Work) := []
  failed : Bool := false

/-- A game that was announced, with its countdown in seconds. -/
inductive Countdown
  | tag (time : UInt8) (seekers : List SocketId)
  | ctf (time : UInt8) (redTeamNames blueTeamNames : List Text)
  deriving DecidableEq, Repr

/-- The server with what the console has made of it: the file, the lines under way, the tasks that
nothing waits for, the games that were announced, and what lines were answered.
-/
structure Console where
  server : ServerState
  file : SettingsFile := .missing
  calls : List Call := []
  tasks : List (List Work) := []
  countdowns : List Countdown := []
  cancelled : Bool := false
  restartRequested : Bool := false
  replies : List (Reply Text) := []

/-- What a handler comes to: its text unless it throws, what it has changed by then, and the threads
that the text waits for.
-/
structure Result where
  text : Option Text
  console : Console
  threads : List (List Work) := []

-----------------------------------------------------------------------------------------
-- Texts
-----------------------------------------------------------------------------------------

/-- `string.Join`. -/
def joined (separator : String) (texts : List Text) : Text :=
  separator.toList.intercalate texts

/-- A text in quotes. -/
def inQuotes (text : Text) : Text := '"' :: (text ++ ['"'])

def decimal (number : Nat) : Text := (Nat.repr number).toList

/-- `bool.ToString()`. -/
def boolText (value : Bool) : Text := if value then "True".toList else "False".toList

/-- `FlipOptions.ToString()`. -/
def FlipOptions.text (pov : FlipOptions) : Text :=
  if pov = .both then "Both".toList
  else if pov = .self then "Self".toList
  else if pov = .others then "Others".toList
  else (toString pov.value.toInt).toList

namespace Console

variable (formats : Formats) (saved : Bool) (console : Console)

/-- A text, and nothing else. -/
def refuse (text : Text) : Result := { text := some text, console }

def setServer (server : ServerState) : Console := { console with server }

/-- `SaveSettings`, where the file may not be writable. -/
def saveSettings : Console :=
  if saved then { console with file := .text (formats.serialize console.server.settings) }
  else console

/-- A setting is set and saved. -/
def configure (settings : Settings) : Console :=
  saveSettings formats saved (console.setServer { console.server with settings })

/-- `LoadSettings`. -/
def loadSettings : Console :=
  match console.file.read formats with
  | some settings => console.configure formats saved settings
  | none => console.saveSettings formats saved

def settings : Settings := console.server.settings

-----------------------------------------------------------------------------------------
-- Commands on players
-----------------------------------------------------------------------------------------

/-- The report of `rejoin`, `crash` and `ban`. -/
def report (verb : String) (targets : Targets) : Text :=
  (if 0 < targets.toActUpon.length then
    (verb ++ ": ").toList
      ++ joined ", " (targets.toActUpon.map fun user => inQuotes (console.server.name user))
  else [])
  ++ (if 0 < targets.failToFind.length then
    "\nFailed to find matches for: ".toList
      ++ joined ", " (targets.failToFind.map fun arg => inQuotes (formats.toLower arg))
  else [])
  ++ targets.ambig.flatMap fun (arg, amb) =>
    "\nAmbiguous for ".toList ++ inQuotes arg ++ ": ".toList ++ joined ", " (amb.map inQuotes)

/-- `rejoin`, `crash` and `ban` up to what they do to each of the users. -/
def actUpon (command verb : String) (args : List Text) (act : List SocketId → Result → Result)
    : Result :=
  if args.length = 0 then
    console.refuse
      ("Usage: " ++ command ++ " <* | !* (usernames to not " ++ command
        ++ "...) | (usernames to " ++ command ++ "...)>").toList
  else
    match console.server.multiUserCommandHelper formats.toCulture args with
    | none => { text := none, console }
    | some targets =>
        act targets.toActUpon { text := some (console.report formats verb targets), console }

def rejoin (args : List Text) : Result :=
  console.actUpon formats "rejoin" "Rejoined" args fun users result =>
    { result with threads := [users.map fun user => .event (.close user)] }

/-- The packet that a game does not survive. -/
def crashPacket : Packet :=
  .changeStage {
    stage := "$agogusStage".toList
    id := "$among$us/SubArea".toList
    scenario := 21
    subScenarioType := 69
  }

def crash (args : List Text) : Result :=
  console.actUpon formats "crash" "Crashed" args fun users result =>
    { result with
      console :=
        { console with
          tasks := console.tasks
            ++ users.map fun user =>
              [.event (.sendFromServer user crashPacket), .event (.close user)] } }

/-- `ban`, which saves the settings while its tasks run. -/
def ban (args : List Text) : Result :=
  console.actUpon formats "ban" "Banned" args fun users result =>
    { result with
      console :=
        { console with
          tasks := console.tasks ++ users.map fun user => [.event (.ban user)] }
      threads := [[.saveSettings]] }

/-- The clients that `send` finds by the beginning of a name or by an Id. -/
def playersNamed (names : List Text) : List SocketId :=
  console.server.connectedClients.filter fun client =>
    names.any fun name =>
      formats.startsWith (console.server.name client) name
        || formats.tryParse name = some (console.server.session client).id

/-- The packet that `send` and `sendall` send. -/
def stagePacket (stage id : Text) (scenario : Int8) : Packet :=
  .changeStage { stage, id, scenario, subScenarioType := 0 }

/-- `Parallel.ForEachAsync` over players, which is waited for. -/
def sendEach (players : List SocketId) (packet : Packet) : List (List Work) :=
  players.map fun client => [.event (.sendFromServer client packet)]

def invalidStage : Text :=
  "Invalid Stage Name! ```".toList ++ Stages.kingdomAliasMapping ++ "```".toList

def send : List Text → Result
  | first :: id :: number :: players =>
      if players.length < 1 then
        console.refuse "Usage: send <stage> <id> <scenario[-1..127]> <player/*>".toList
      else
        match Stages.input2Stage formats.toLower formats.endsWith first with
        | none => console.refuse invalidStage
        | some stage =>
            let invalid :=
              "Invalid scenario number ".toList ++ number ++ " (range: [-1 to 127])".toList
            match formats.tryParseSByte number with
            | none => console.refuse invalid
            | some scenario =>
                if scenario < -1 then console.refuse invalid
                else
                  { text :=
                      some ("Sent players to ".toList ++ stage ++ [':']
                        ++ (toString scenario.toInt).toList)
                    console
                    threads :=
                      sendEach
                        (if players.head? = some everyone then console.server.connectedClients
                        else console.playersNamed formats players)
                        (stagePacket stage id scenario) }
  | _ => console.refuse "Usage: send <stage> <id> <scenario[-1..127]> <player/*>".toList

def sendall : List Text → Result
  | [] => console.refuse "Usage: sendall <stage>".toList
  | first :: _ =>
      match Stages.input2Stage formats.toLower formats.endsWith first with
      | none => console.refuse invalidStage
      | some stage =>
          { text := some ("Sent players to ".toList ++ stage ++ ":-1".toList)
            console
            threads := sendEach console.server.connectedClients (stagePacket stage [] (-1)) }

/-- `list`. -/
def list : Result :=
  console.refuse
    ("List: ".toList ++ joined "\n\t" (console.server.connectedClients.map fun client =>
      console.server.name client ++ " (".toList
        ++ formats.guidText (console.server.session client).id ++ [')']))

-----------------------------------------------------------------------------------------
-- Commands on settings
-----------------------------------------------------------------------------------------

def scenario : List Text → Result
  | [option, value] =>
      if option = "merge".toList then
        match formats.tryParseBool value with
        | some result =>
            { text :=
                some (if result then "Enabled scenario merge".toList
                  else "Disabled scenario merge".toList)
              console := console.configure formats saved
                { console.settings with scenario := { mergeEnabled := result } } }
        | none => console.refuse usage
      else console.refuse usage
  | [option] =>
      if option = "merge".toList then
        console.refuse
          ("Scenario merging is ".toList ++ boolText console.settings.scenario.mergeEnabled)
      else console.refuse usage
  | _ => console.refuse usage
where
  usage : Text := "Valid options: merge [true/false]".toList

/-- `maxplayers`, which disconnects all players. -/
def maxplayers : List Text → Result
  | [count] =>
      match formats.tryParseUShort count with
      | some maxPlayers =>
          let console := { console with server := console.server.setMaxPlayers maxPlayers }
          { text :=
              some ("Saved and set max players to ".toList ++ decimal maxPlayers.toNat)
            console := console.saveSettings formats saved }
      | none => console.refuse "Valid usage: maxplayers <playercount>".toList
  | _ => console.refuse "Valid usage: maxplayers <playercount>".toList

/-- The flip table with other players. -/
def setFlipped (players : List Guid) : Settings :=
  { console.settings with flip := { console.settings.flip with players } }

def flip : List Text → Result
  | [option] =>
      if option = "list".toList then
        console.refuse
          ("User ids: ".toList
            ++ joined ", " (console.settings.flip.players.map formats.guidText))
      else console.refuse usage
  | [option, value] =>
      if option = "add".toList then
        match formats.tryParse value with
        | some result =>
            { text := some ("Added ".toList ++ formats.guidText result
                ++ " to flipped players".toList)
              console := console.configure formats saved
                (console.setFlipped (console.settings.flip.players ++ [result])) }
        | none => console.refuse ("Invalid user id ".toList ++ value)
      else if option = "remove".toList then
        match formats.tryParse value with
        | some result =>
            { text :=
                some (if result ∈ console.settings.flip.players then
                  "Removed ".toList ++ formats.guidText result ++ " to flipped players".toList
                else
                  "User ".toList ++ formats.guidText result
                    ++ " wasn't in the flipped players list".toList)
              console := console.configure formats saved
                (console.setFlipped (console.settings.flip.players.erase result)) }
        | none => console.refuse ("Invalid user id ".toList ++ value)
      else if option = "set".toList then
        match formats.tryParseBool value with
        | some result =>
            { text :=
                some (if result then "Enabled player flipping".toList
                  else "Disabled player flipping".toList)
              console := console.configure formats saved
                { console.settings with flip := { console.settings.flip with enabled := result } } }
        | none => console.refuse usage
      else if option = "pov".toList then
        match formats.tryParsePov value with
        | some result =>
            { text := some ("Point of view set to ".toList ++ result.text)
              console := console.configure formats saved
                { console.settings with flip := { console.settings.flip with pov := result } } }
        | none => console.refuse usage
      else console.refuse usage
  | _ => console.refuse usage
where
  usage : Text :=
    ("Valid options: \n\tlist\n\tadd <user id>\n\tremove <user id>\n\tset <true/false>"
      ++ "\n\tpov <both/self/others>").toList

-----------------------------------------------------------------------------------------
-- Commands on the game
-----------------------------------------------------------------------------------------

/-- The clients that `shine send` finds, by their whole names, in the arguments from the fourth
on.
-/
def playersCalled (names : List Text) : List SocketId :=
  console.server.connectedClients.filter fun client => names.contains (console.server.name client)

def shine : List Text → Result
  | option :: args =>
      if option = "list".toList ∧ args = [] then
        console.refuse ("Shines: ".toList
          ++ joined ", " (console.server.shineBag.map fun shine => (toString shine.toInt).toList))
      else if option = "clear".toList ∧ args = [] then
        -- the loop over the clients throws at one without a bag
        { text :=
            if console.server.clients.all fun client =>
                (console.server.metadata client).shineSync.isSome then
              some "Cleared shine bags".toList
            else none
          console := console.setServer console.server.shineClear }
      else if option = "sync".toList ∧ args = [] then
        { text := some "Synced shine bag automatically".toList
          console := console.setServer console.server.syncShineBag }
      else if option = "send".toList ∧ 2 ≤ args.length then
        match formats.tryParseInt (args.headD []) with
        | some id =>
            { text := some ("Sent Shine Num ".toList ++ (toString id.toInt).toList)
              console
              threads :=
                sendEach
                  (if args[1]? = some everyone then console.server.connectedClients
                  else console.playersCalled (args.drop 2))
                  (.shine { shineId := id }) }
        | none => console.refuse usage
      else if option = "set".toList ∧ args.length = 1 then
        match formats.tryParseBool (args.headD []) with
        | some result =>
            { text :=
                some (if result then "Enabled shine sync".toList else "Disabled shine sync".toList)
              console := console.configure formats saved
                { console.settings with shines := { enabled := result } } }
        | none => console.refuse usage
      else console.refuse usage
  | [] => console.refuse usage
where
  usage : Text := "Valid options: list, clear, sync, send, set".toList

/-- `client?.Send(tagPacket)` or a broadcast, which nothing waits for. -/
def tell (user : Text) (packet : TagPacket) : Console :=
  let threads : List (List Work) :=
    if user = everyone then [[.event (.broadcastFromServer (.tag packet))]]
    else
      match console.server.clients.find? (fun client => console.server.name client = user) with
      | some client => [[.event (.sendFromServer client (.tag packet))]]
      | none => []
  { console with tasks := console.tasks ++ threads }

/-- `server.Clients.Where(c => names.Contains(c.Name))`. -/
def clientsNamed (names : List Text) : List SocketId :=
  console.server.clients.filter fun client => names.contains (console.server.name client)

/-- The names that no client has. -/
def notFound (names : List Text) : List Text :=
  names.filter fun name =>
    console.server.clients.all fun client => console.server.name client ≠ name

def tag : List Text → Result
  | option :: user :: value :: rest =>
      if option = "time".toList ∧ rest.length = 1 then
        if user ≠ everyone
            ∧ console.server.clients.all (fun client => console.server.name client ≠ user) then
          console.refuse ("Cannot find user ".toList ++ user)
        else
          match formats.tryParseUShort value with
          | none =>
              console.refuse ("Invalid time for minutes ".toList ++ value
                ++ " (range: 0-65535)".toList)
          | some minutes =>
              let last := rest.headD []
              let invalid := "Invalid time for seconds ".toList ++ last ++ " (range: 0-59)".toList
              match formats.tryParseByte last with
              | none => console.refuse invalid
              | some seconds =>
                  if 60 ≤ seconds then console.refuse invalid
                  else
                    { text := some ("Set time for ".toList
                        ++ (if user = everyone then "everyone".toList else user) ++ " to ".toList
                        ++ decimal minutes.toNat ++ [':'] ++ decimal seconds.toNat)
                      console :=
                        console.tell user { updateType := .time, isIt := false, seconds, minutes } }
      else if option = "seeking".toList ∧ rest = [] then
        if user ≠ everyone
            ∧ console.server.clients.all (fun client => console.server.name client ≠ user) then
          console.refuse ("Cannot find user ".toList ++ user)
        else
          match formats.tryParseBool value with
          | none =>
              console.refuse ("Usage: tag seeking ".toList ++ user ++ " <true/false>".toList)
          | some seeking =>
              { text := some ("Set ".toList
                  ++ (if user = everyone then "everyone".toList else user) ++ " to ".toList
                  ++ (if seeking then "seeker".toList else "hider".toList))
                console :=
                  console.tell user
                    { updateType := .state, isIt := seeking, seconds := 0, minutes := 0 } }
      else if option = "start".toList then
        match formats.tryParseByte user with
        | none =>
            console.refuse
              ("Invalid countdown seconds ".toList ++ user ++ " (range: 0-255)".toList)
        | some time =>
            let seekerNames := value :: rest
            let seekers := console.clientsNamed seekerNames
            if seekers.length ≠ seekerNames.length then
              console.refuse ("Couldn't find seeker".toList
                ++ (if 1 < seekerNames.length then "s".toList else []) ++ ": ".toList
                ++ joined ", " (console.notFound seekerNames))
            else
              { text := some ("Starting game in ".toList ++ decimal time.toNat
                  ++ " seconds with seekers ".toList ++ joined ", " seekerNames)
                console :=
                  { console with countdowns := console.countdowns ++ [.tag time seekers] } }
      else console.refuse usage
  | _ => console.refuse usage
where
  usage : Text :=
    ("Valid options:\n\ttime <user/*> <minutes[0-65535]> <seconds[0-59]>"
      ++ "\n\tseeking <user/*> <true/false>\n\tstart <time> <seekers>").toList

def ctf : List Text → Result
  | option :: first :: second :: rest =>
      if option = "start".toList then
        match formats.tryParseByte first with
        | none =>
            console.refuse
              ("Invalid countdown seconds ".toList ++ first ++ " (range: 0-255)".toList)
        | some time =>
            let redTeamNames := second :: rest
            let redTeam := console.clientsNamed redTeamNames
            if redTeam.length ≠ redTeamNames.length then
              console.refuse ("Couldn't find player".toList
                ++ (if 1 < redTeamNames.length then "s".toList else []) ++ ": ".toList
                ++ joined ", " (console.notFound redTeamNames))
            else
              let blueTeam := console.server.clients.filter fun client =>
                redTeam.all fun other =>
                  (console.server.session other).id != (console.server.session client).id
              { text := some ("Starting game in ".toList ++ decimal time.toNat
                  ++ " seconds with red team members ".toList ++ joined ", " redTeamNames)
                console :=
                  { console with
                    countdowns := console.countdowns
                      ++ [.ctf time redTeamNames (blueTeam.map console.server.name)] } }
      else console.refuse usage
  | _ => console.refuse usage
where
  usage : Text := "Valid options:\n\tstart <time> <red_team>".toList

-----------------------------------------------------------------------------------------
-- Commands on the server
-----------------------------------------------------------------------------------------

/-- The names in the order in which they are registered. -/
def names : List String :=
  ["help", "rejoin", "crash", "ban", "send", "sendall", "scenario", "tag", "ctf", "maxplayers",
    "list", "flip", "shine", "loadsettings", "restartserver", "exit", "quit", "q"]

def help : Result :=
  console.refuse ("Valid commands: ".toList ++ joined ", " (names.map String.toList))

def loadsettings : Result :=
  { text := some "Loaded settings.json".toList, console := console.loadSettings formats saved }

def restartserver (args : List Text) : Result :=
  if args.length ≠ 0 then console.refuse "Usage: restartserver (no arguments)".toList
  else
    { text := some "Restarting...".toList
      console := { console with restartRequested := true, cancelled := true } }

/-- `exit`, `quit` and `q`. -/
def shutDown : Result :=
  { text := some "Shutting down".toList, console := { console with cancelled := true } }

/-- The handler of a name, called with arguments. -/
def handler (name : Text) : Option (List Text → Result) :=
  match String.ofList name with
  | "help" => some fun _ => console.help
  | "rejoin" => some (console.rejoin formats)
  | "crash" => some (console.crash formats)
  | "ban" => some (console.ban formats)
  | "send" => some (console.send formats)
  | "sendall" => some (console.sendall formats)
  | "scenario" => some (scenario formats saved console)
  | "tag" => some (console.tag formats)
  | "ctf" => some (console.ctf formats)
  | "maxplayers" => some (maxplayers formats saved console)
  | "list" => some fun _ => console.list formats
  | "flip" => some (flip formats saved console)
  | "shine" => some (shine formats saved console)
  | "loadsettings" => some fun _ => loadsettings formats saved console
  | "restartserver" => some console.restartserver
  | "exit" | "quit" | "q" => some fun _ => console.shutDown
  | _ => none

end Console

end SmoOnline
