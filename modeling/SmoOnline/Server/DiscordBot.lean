import SmoOnline.Library.Runs
import SmoOnline.Server.CommandHandler

/-! Which messages the Discord bot takes for commands. The channels that are configured are looked
up one after the other each time the settings are loaded, and stay as they were found until others
are. The token and the log are left out.
-/

namespace SmoOnline

open Utf8 Runs

-----------------------------------------------------------------------------------------
-- Settings and messages
-----------------------------------------------------------------------------------------

/-- The number of a channel. -/
abbrev ChannelId := UInt64

/-- `Settings.DiscordTable`, whose channels are written as numbers. -/
structure DiscordTable where
  commandPrefix : Text := ['$']
  commandChannel : Option ChannelId := none
  logChannel : Option ChannelId := none
  deriving DecidableEq, Repr

/-- A message: whether the bot wrote it itself, its channel, which may be a direct one and may not
let the bot type, and its text.
-/
structure DiscordMessage where
  isCurrent : Bool := false
  channel : ChannelId
  isDm : Bool := false
  canType : Bool := true
  content : Text
  deriving DecidableEq, Repr

/-- Commands are taken from these channels. -/
def DiscordTable.Permits (config : DiscordTable) (msg : DiscordMessage) : Prop :=
  match config.commandChannel with
  | some channel => msg.channel = channel ∨ config.logChannel = some msg.channel
  | none => msg.isDm = false

/-- A bot that found these channels shuts a message out: it comes from neither of them, or directly
where no channel for commands was found.
-/
def DiscordMessage.IsShutOut (msg : DiscordMessage) (commandChannel logChannel : Option ChannelId)
    : Prop :=
  (commandChannel = none → msg.isDm = true)
  ∧ ∀ command,
      commandChannel = some command
      → msg.channel ≠ command ∧ ∃ log, logChannel = some log ∧ msg.channel ≠ log

/-- What the runtime knows: whether a text starts with another in its culture, and how the bot is
mentioned.
-/
structure DiscordRuntime where
  startsWith : Text → Text → Bool
  mentionPrefix : Text

/-- `char.IsWhiteSpace` -/
def isWhiteSpace (letter : Char) : Bool :=
  letter.toNat ∈ [0x20, 0x85, 0xa0, 0x1680, 0x2028, 0x2029, 0x202f, 0x205f, 0x3000]
    || (0x9 ≤ letter.toNat && letter.toNat ≤ 0xd)
    || (0x2000 ≤ letter.toNat && letter.toNat ≤ 0x200a)

/-- `text[length..]`, which throws behind the end. -/
def rangeFrom (length : Nat) (text : Text) : Option Text :=
  if length ≤ text.length then some (text.drop length) else none

/-- The text that `GetResult` is called with, if the message is for the bot. -/
def DiscordRuntime.commandOf (runtime : DiscordRuntime) (commandPrefix content : Text)
    : Option Text :=
  if commandPrefix = [] then some content
  else if runtime.startsWith content commandPrefix then rangeFrom commandPrefix.length content
  else if runtime.startsWith content runtime.mentionPrefix then
    (rangeFrom runtime.mentionPrefix.length content).map fun text => text.dropWhile isWhiteSpace
  else none

/-- A command of another user, whose channel lets the bot type. -/
def DiscordMessage.IsCommand (msg : DiscordMessage) (runtime : DiscordRuntime)
    (config : DiscordTable)
    : Prop :=
  msg.isCurrent = false
  ∧ msg.canType = true
  ∧ (runtime.commandOf config.commandPrefix msg.content).isSome = true

-----------------------------------------------------------------------------------------
-- The bot
-----------------------------------------------------------------------------------------

/-- A lookup that was begun, of the channel with this number. -/
inductive ChannelLookup
  | commandChannel (id : ChannelId)
  | logChannel (id : ChannelId)
  deriving DecidableEq, Repr

/-- `class DiscordBot`, with the settings there are and the lookups that have not come back. -/
structure DiscordBot where
  config : DiscordTable
  commandChannel : Option ChannelId := none
  logChannel : Option ChannelId := none
  lookups : List ChannelLookup := []
  deriving DecidableEq, Repr

namespace DiscordBot

variable (bot : DiscordBot)

/-- The second half of `SettingsLoadHandler`. -/
def lookUpLogChannel : DiscordBot :=
  match bot.config.logChannel with
  | some id => { bot with lookups := bot.lookups ++ [.logChannel id] }
  | none => bot

/-- `SettingsLoadHandler`, up to its first lookup. -/
def settingsLoadHandler : DiscordBot :=
  match bot.config.commandChannel with
  | some id => { bot with lookups := bot.lookups ++ [.commandChannel id] }
  | none => bot.lookUpLogChannel

/-- What `SettingsLoadHandler` does with a channel. -/
def channelFound : ChannelLookup → DiscordBot
  | .commandChannel id => { bot with commandChannel := some id }.lookUpLogChannel
  | .logChannel id => { bot with logChannel := some id }

/-- Nothing is done for a message of this channel. -/
def ignores (msg : DiscordMessage) : Bool :=
  match bot.commandChannel with
  | none => msg.isDm
  | some commandChannel =>
      msg.channel != commandChannel
        && bot.logChannel.any fun logChannel => msg.channel != logChannel

/-- The text of a message that `GetResult` is called with. -/
def asks (runtime : DiscordRuntime) (msg : DiscordMessage) : Option Text :=
  if msg.isCurrent || bot.ignores msg || !msg.canType then none
  else runtime.commandOf bot.config.commandPrefix msg.content

/-- The handler of `MessageCreated`. -/
def messageCreated {Response : Type} (runtime : DiscordRuntime)
    (handlers : CommandHandler.Handlers Response) (msg : DiscordMessage)
    : Option (CommandHandler.Outcome Response) :=
  (bot.asks runtime msg).map (CommandHandler.getResult handlers)

-----------------------------------------------------------------------------------------
-- One step
-----------------------------------------------------------------------------------------

/-- The settings are replaced before the bot hears of it, lookups come back at any time, and
`SettingsLoadHandler` is called for loaded settings and by `Run`.
-/
inductive Event
  | loadSettings (config : DiscordTable)
  | settingsLoadHandler
  | channelFound (index : Nat)
  | messageCreated (msg : DiscordMessage)
  deriving DecidableEq, Repr

def step (bot : DiscordBot) : Event → Option DiscordBot
  | .loadSettings config => some { bot with config }
  | .settingsLoadHandler => some bot.settingsLoadHandler
  | .channelFound index =>
      bot.lookups[index]?.map fun lookup =>
        { bot with lookups := bot.lookups.eraseIdx index }.channelFound lookup
  | .messageCreated _ => some bot

/-- A bot that was started with these settings. -/
def start (config : DiscordTable) : DiscordBot := { config : DiscordBot }.settingsLoadHandler

/-- `GetResult` is run for nobody but others in the channels of the current settings. -/
def AnswersRight {Response : Type} (runtime : DiscordRuntime)
    (handlers : CommandHandler.Handlers Response) (bot : DiscordBot)
    : Event → Prop
  | .messageCreated msg =>
      (bot.messageCreated runtime handlers msg).isSome = true
      → msg.isCurrent = false ∧ bot.config.Permits msg
  | _ => True

/-- A command from elsewhere than the settings permit finds a bot that shuts it out. -/
def StrangersAreOut (runtime : DiscordRuntime) (bot : DiscordBot) : Event → Prop
  | .messageCreated msg =>
      msg.IsCommand runtime bot.config
      → ¬bot.config.Permits msg
      → msg.IsShutOut bot.commandChannel bot.logChannel
  | _ => True

theorem ignores_iff (msg : DiscordMessage)
    : bot.ignores msg = true ↔ msg.IsShutOut bot.commandChannel bot.logChannel := by
  rw [ignores, DiscordMessage.IsShutOut]
  cases bot.commandChannel <;> cases bot.logChannel <;> simp

variable {Response : Type} (runtime : DiscordRuntime) (handlers : CommandHandler.Handlers Response)

/-- `GetResult` is run for the commands of others that are not ignored. -/
theorem messageCreated_isSome_iff (msg : DiscordMessage)
    : (bot.messageCreated runtime handlers msg).isSome = true
      ↔ msg.IsCommand runtime bot.config
        ∧ ¬msg.IsShutOut bot.commandChannel bot.logChannel := by
  rw [← ignores_iff, messageCreated, Option.isSome_map, asks, DiscordMessage.IsCommand]
  cases msg.isCurrent <;> cases msg.canType <;> cases bot.ignores msg <;> simp

theorem strangersAreOut_iff (event : Event)
    : bot.StrangersAreOut runtime event ↔ bot.AnswersRight runtime handlers event := by
  cases event with
  | messageCreated msg =>
      rw [StrangersAreOut, AnswersRight, messageCreated_isSome_iff]
      constructor
      · rintro out ⟨command, not_out⟩
        refine ⟨command.1, ?_⟩
        by_contra stranger
        exact not_out (out command stranger)
      · intro right command stranger
        by_contra not_out
        exact stranger (right ⟨command, not_out⟩).2
  | _ => exact Iff.rfl

-----------------------------------------------------------------------------------------
-- Settings that were loaded one after the other
-----------------------------------------------------------------------------------------

/-- The channels that are configured are found. -/
def found (config : DiscordTable) : List Event :=
  (config.commandChannel.toList ++ config.logChannel.toList).map fun _ => .channelFound 0

/-- Settings are loaded, and the channels found before anything else happens. -/
def reload (config : DiscordTable) : List Event :=
  [.loadSettings config, .settingsLoadHandler] ++ found config

/-- What that makes of the bot. -/
def loaded (config : DiscordTable) : DiscordBot where
  config
  commandChannel := config.commandChannel.or bot.commandChannel
  logChannel := config.logChannel.or bot.logChannel

/-- The last channel that was configured, after an earlier one. -/
def lastConfigured (channel : DiscordTable → Option ChannelId) (earlier : Option ChannelId)
    (configs : List DiscordTable)
    : Option ChannelId :=
  configs.foldl (fun last config => (channel config).or last) earlier

theorem execute_found (quiet : bot.lookups = [])
    : execute step bot.settingsLoadHandler (found bot.config) = some (bot.loaded bot.config) := by
  obtain ⟨⟨commandPrefix, command, log⟩, commandChannel, logChannel, lookups⟩ := bot
  obtain rfl : lookups = [] := quiet
  cases command <;> cases log <;> rfl

theorem execute_reload (quiet : bot.lookups = []) (config : DiscordTable)
    : execute step bot (reload config) = some (bot.loaded config) :=
  execute_found { bot with config } quiet

/-- Loading settings again and again, by induction on them. -/
theorem execute_reloads (quiet : bot.lookups = []) (reloads : List DiscordTable)
    : execute step bot (reloads.flatMap reload) = some (reloads.foldl loaded bot) := by
  induction reloads generalizing bot with
  | nil => rfl
  | cons config rest ih =>
      rw [List.flatMap_cons, execute_append, execute_reload bot quiet, Option.bind_some]
      exact ih (bot.loaded config) rfl

/-- The bot has the channels that were configured last, be it not in the last settings; by induction
on the settings.
-/
theorem foldl_loaded (quiet : bot.lookups = []) (configs : List DiscordTable)
    : configs.foldl loaded bot
      = {
          config := configs.getLastD bot.config
          commandChannel := lastConfigured DiscordTable.commandChannel bot.commandChannel configs
          logChannel := lastConfigured DiscordTable.logChannel bot.logChannel configs
        } := by
  induction configs generalizing bot with
  | nil =>
      obtain ⟨config, commandChannel, logChannel, lookups⟩ := bot
      obtain rfl : lookups = [] := quiet
      rfl
  | cons config rest ih =>
      rw [List.foldl_cons, ih (bot.loaded config) rfl, List.getLastD_cons]
      rfl

/-- Settings that are loaded one after the other make a run. -/
theorem run_reloads (config : DiscordTable) (reloads : List DiscordTable)
    : AnyRun step (start config) (found config ++ reloads.flatMap reload)
        {
          config := reloads.getLastD config
          commandChannel := lastConfigured DiscordTable.commandChannel none (config :: reloads)
          logChannel := lastConfigured DiscordTable.logChannel none (config :: reloads)
        } := by
  apply execute_run
  rw [execute_append, start, execute_found { config } rfl, Option.bind_some,
    execute_reloads _ rfl, foldl_loaded _ rfl]
  rfl

/-- In the runs in which strangers are shut out, and in no others, `GetResult` is run only for those
whom the settings permit. After settings that were loaded one after the other, a message is so
answered exactly if it is no stranger's command or neither of the channels that were configured last
lets it in.
-/
theorem run_answersRight_iff (config : DiscordTable)
    : (∀ events bot,
        Run step (StrangersAreOut runtime) (start config) events bot
        ↔ Run step (AnswersRight runtime handlers) (start config) events bot)
      ∧ ∀ reloads : List DiscordTable,
          ∃ bot,
            AnyRun step (start config) (found config ++ reloads.flatMap reload) bot
            ∧ bot.config = reloads.getLastD config
            ∧ ∀ msg,
                bot.AnswersRight runtime handlers (.messageCreated msg)
                ↔ (msg.IsCommand runtime bot.config
                  → ¬bot.config.Permits msg
                  → msg.IsShutOut
                      (lastConfigured DiscordTable.commandChannel none (config :: reloads))
                      (lastConfigured DiscordTable.logChannel none (config :: reloads))) := by
  constructor
  · intro events bot
    refine Run.congr (fun _ => True) trivial (fun _ _ _ => trivial) fun _ _ => ?_
    exact strangersAreOut_iff _ runtime handlers _
  · intro reloads
    refine ⟨_, run_reloads config reloads, rfl, fun msg => ?_⟩
    exact (strangersAreOut_iff _ runtime handlers (.messageCreated msg)).symm

/-- A runtime that compares letter by letter. -/
def ordinalRuntime : DiscordRuntime where
  startsWith text start := start.isPrefixOf text
  mentionPrefix := "<@1>".toList

/-- With a channel for commands and none for the log, a command from another channel is answered. So
is one that comes directly after the channel was taken out of the settings.
-/
theorem stranger_answered
    : (∃ bot,
        AnyRun step (start { commandChannel := some 7 }) [.channelFound 0] bot
        ∧ bot.config = { commandChannel := some 7 }
        ∧ (bot.asks ordinalRuntime { channel := 8, content := "$ban".toList }) = some "ban".toList)
      ∧ ∃ bot,
          AnyRun step (start { commandChannel := some 7 }) ([.channelFound 0] ++ reload {}) bot
          ∧ bot.config = {}
          ∧ (bot.asks ordinalRuntime { channel := 9, isDm := true, content := "$ban".toList })
            = some "ban".toList :=
  ⟨exists_run _ (by decide), exists_run _ (by decide)⟩

end DiscordBot

end SmoOnline
