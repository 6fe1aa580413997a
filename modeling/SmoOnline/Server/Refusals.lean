import SmoOnline.Server.Console

/-! Which lines a command takes. A line that is refused does nothing, whatever the command is and
wherever its arguments fail.
-/

namespace SmoOnline

open Utf8 CommandHandler

namespace Console

variable (formats : Formats) (console : Console)

-----------------------------------------------------------------------------------------
-- Lines that are taken
-----------------------------------------------------------------------------------------

/-- A first argument of `tag` that stands for players. -/
def Known (user : Text) : Prop :=
  user = everyone ∨ ∃ client ∈ console.server.clients, console.server.name client = user

/-- The arguments that a command takes: how many there are, what is read of them, and the stages and
players that are there. `ban` saves the settings also where it finds nobody.
-/
def Takes (name : String) (args : List Text) : Prop :=
  match name with
  | "help" | "list" | "loadsettings" | "exit" | "quit" | "q" => True
  | "rejoin" | "crash" =>
      ∃ targets,
        console.server.multiUserCommandHelper formats.toCulture args = some targets
        ∧ targets.toActUpon ≠ []
  | "ban" =>
      ∃ targets, console.server.multiUserCommandHelper formats.toCulture args = some targets
  | "send" =>
      ∃ first id number players stage scenario,
        args = first :: id :: number :: players
        ∧ players ≠ []
        ∧ Stages.input2Stage formats.toLower formats.endsWith first = some stage
        ∧ formats.tryParseSByte number = some scenario
        ∧ -1 ≤ scenario
  | "sendall" =>
      ∃ first rest stage,
        args = first :: rest
        ∧ Stages.input2Stage formats.toLower formats.endsWith first = some stage
  | "scenario" =>
      args = ["merge".toList]
      ∨ ∃ value result,
        args = ["merge".toList, value] ∧ formats.tryParseBool value = some result
  | "tag" =>
      (∃ user minutes seconds parsedMinutes parsedSeconds,
        args = ["time".toList, user, minutes, seconds]
        ∧ console.Known user
        ∧ formats.tryParseUShort minutes = some parsedMinutes
        ∧ formats.tryParseByte seconds = some parsedSeconds
        ∧ parsedSeconds < 60)
      ∨ (∃ user value seeking,
        args = ["seeking".toList, user, value]
        ∧ console.Known user
        ∧ formats.tryParseBool value = some seeking)
      ∨ ∃ countdown time names,
        args = "start".toList :: countdown :: names
        ∧ names ≠ []
        ∧ formats.tryParseByte countdown = some time
        ∧ (console.clientsNamed names).length = names.length
  | "ctf" =>
      ∃ countdown time names,
        args = "start".toList :: countdown :: names
        ∧ names ≠ []
        ∧ formats.tryParseByte countdown = some time
        ∧ (console.clientsNamed names).length = names.length
  | "maxplayers" => ∃ count maxPlayers,
      args = [count] ∧ formats.tryParseUShort count = some maxPlayers
  | "flip" =>
      args = ["list".toList]
      ∨ (∃ option value id,
        args = [option, value]
        ∧ (option = "add".toList ∨ option = "remove".toList)
        ∧ formats.tryParse value = some id)
      ∨ (∃ value enabled,
        args = ["set".toList, value] ∧ formats.tryParseBool value = some enabled)
      ∨ ∃ value pov, args = ["pov".toList, value] ∧ formats.tryParsePov value = some pov
  | "shine" =>
      args = ["list".toList]
      ∨ args = ["clear".toList]
      ∨ args = ["sync".toList]
      ∨ (∃ number id players,
        args = "send".toList :: number :: players
        ∧ players ≠ []
        ∧ formats.tryParseInt number = some id)
      ∨ ∃ value enabled,
        args = ["set".toList, value] ∧ formats.tryParseBool value = some enabled
  | "restartserver" => args = []
  | _ => False

/-- A line that is a command with arguments that it takes. -/
def TakesLine (line : Text) : Prop :=
  ∃ name args, parse line = .parsed (name :: args) ∧ console.Takes formats (String.ofList name) args

/-- A result without an effect. -/
def NoEffect (console : Console) (result : Result) : Prop :=
  result.console = console ∧ ∀ thread ∈ result.threads, thread = []

section Refusals

variable {formats : Formats} {saved : Bool} {console : Console} {args : List Text}

theorem NoEffect.refuse {text : Text} : console.NoEffect (console.refuse text) :=
  ⟨rfl, fun _ member => by cases member⟩

theorem NoEffect.thrown : console.NoEffect { text := none, console } :=
  ⟨rfl, fun _ member => by cases member⟩

theorem noEffect_actUpon {command verb : String} {act : List SocketId → Result → Result}
    (nobody
      : ∀ targets text,
          console.server.multiUserCommandHelper formats.toCulture args = some targets
          → console.NoEffect (act targets.toActUpon { text := some text, console }))
    : console.NoEffect (console.actUpon formats command verb args act) := by
  unfold actUpon
  split
  · exact .refuse
  split
  · exact .thrown
  · next targets helped => exact nobody targets _ helped

theorem noEffect_rejoin (refused : ¬console.Takes formats "rejoin" args)
    : console.NoEffect (console.rejoin formats args) := by
  refine noEffect_actUpon fun targets text helped => ?_
  have nobody : targets.toActUpon = [] := by
    by_contra found
    exact refused ⟨targets, helped, found⟩
  rw [nobody]
  exact ⟨rfl, fun thread member => List.mem_singleton.mp member⟩

theorem noEffect_crash (refused : ¬console.Takes formats "crash" args)
    : console.NoEffect (console.crash formats args) := by
  refine noEffect_actUpon fun targets text helped => ?_
  have nobody : targets.toActUpon = [] := by
    by_contra found
    exact refused ⟨targets, helped, found⟩
  rw [nobody]
  simp [NoEffect]

theorem noEffect_ban (refused : ¬console.Takes formats "ban" args)
    : console.NoEffect (console.ban formats args) :=
  noEffect_actUpon fun targets _ helped => absurd ⟨targets, helped⟩ refused

theorem noEffect_send (refused : ¬console.Takes formats "send" args)
    : console.NoEffect (console.send formats args) := by
  unfold send
  split
  · next first id number players =>
      dsimp only
      split
      · exact .refuse
      split
      · exact .refuse
      split
      · exact .refuse
      split
      · exact .refuse
      · next few _ stage known _ scenario read least =>
          refine absurd ⟨first, id, number, players, stage, scenario, rfl, ?_, known, read, ?_⟩
            refused
          · exact fun none => few (by rw [none]; decide)
          · exact Int8.not_lt.mp least
  · exact .refuse

theorem noEffect_sendall (refused : ¬console.Takes formats "sendall" args)
    : console.NoEffect (console.sendall formats args) := by
  unfold sendall
  split
  · exact .refuse
  · next first rest =>
      split
      · exact .refuse
      · next stage known => exact absurd ⟨first, rest, stage, rfl, known⟩ refused

theorem noEffect_scenario (refused : ¬console.Takes formats "scenario" args)
    : console.NoEffect (scenario formats saved console args) := by
  unfold scenario
  split
  · next option value =>
      split_ifs with merge
      · split
        · next result read => exact absurd (.inr ⟨value, result, by rw [merge], read⟩) refused
        · exact .refuse
      · exact .refuse
  · split_ifs <;> exact .refuse
  · exact .refuse

theorem noEffect_maxplayers (refused : ¬console.Takes formats "maxplayers" args)
    : console.NoEffect (maxplayers formats saved console args) := by
  unfold maxplayers
  split
  · next count =>
      split
      · next maxPlayers read => exact absurd ⟨count, maxPlayers, rfl, read⟩ refused
      · exact .refuse
  · exact .refuse

theorem noEffect_flip (refused : ¬console.Takes formats "flip" args)
    : console.NoEffect (flip formats saved console args) := by
  unfold flip
  split
  · split_ifs <;> exact .refuse
  · next option value =>
      split_ifs with add remove set pov
      · split
        · next id read =>
            exact absurd (.inr (.inl ⟨option, value, id, rfl, .inl add, read⟩)) refused
        · exact .refuse
      · split
        · next id read =>
            exact absurd (.inr (.inl ⟨option, value, id, rfl, .inr remove, read⟩)) refused
        · exact .refuse
      · split
        · next enabled read =>
            exact absurd (.inr (.inr (.inl ⟨value, enabled, by rw [set], read⟩))) refused
        · exact .refuse
      · split
        · next seen read =>
            exact absurd (.inr (.inr (.inr ⟨value, seen, by rw [pov], read⟩))) refused
        · exact .refuse
      · exact .refuse
  · exact .refuse

theorem noEffect_shine (refused : ¬console.Takes formats "shine" args)
    : console.NoEffect (shine formats saved console args) := by
  unfold shine
  split
  · next option args =>
      dsimp only
      split
      · exact .refuse
      split
      · next clear => exact absurd (.inr (.inl (by rw [clear.1, clear.2]))) refused
      split
      · next sync => exact absurd (.inr (.inr (.inl (by rw [sync.1, sync.2])))) refused
      split
      · next send =>
          obtain ⟨rfl, long⟩ := send
          split
          · next id read =>
              match args, long, read with
              | number :: first :: names, _, read =>
                  exact absurd (.inr (.inr (.inr (.inl
                    ⟨number, id, first :: names, rfl, List.cons_ne_nil _ _, read⟩)))) refused
          · exact .refuse
      split
      · next set =>
          obtain ⟨rfl, one⟩ := set
          obtain ⟨value, rfl⟩ := List.length_eq_one_iff.mp one
          split
          · next enabled read =>
              exact absurd (.inr (.inr (.inr (.inr ⟨value, enabled, rfl, read⟩)))) refused
          · exact .refuse
      · exact .refuse
  · exact .refuse

/-- A user that is not passed over by `tag`. -/
theorem known_of {user : Text}
    (found
      : ¬(user ≠ everyone
        ∧ console.server.clients.all (fun client => console.server.name client ≠ user)))
    : console.Known user := by
  by_cases all : user = everyone
  · exact .inl all
  · right
    by_contra nobody
    refine found ⟨all, List.all_eq_true.mpr fun client member => ?_⟩
    exact decide_eq_true fun same => nobody ⟨client, member, same⟩

theorem noEffect_tag (refused : ¬console.Takes formats "tag" args)
    : console.NoEffect (console.tag formats args) := by
  unfold tag
  dsimp only
  split
  · next option user value rest =>
      split
      · next time =>
          obtain ⟨rfl, one⟩ := time
          obtain ⟨last, rfl⟩ := List.length_eq_one_iff.mp one
          split
          · exact .refuse
          next found =>
          split
          · exact .refuse
          · next minutes readMinutes =>
              split
              · exact .refuse
              · next seconds readSeconds =>
                  split
                  · exact .refuse
                  · next least =>
                      exact absurd (.inl ⟨user, value, last, minutes, seconds, rfl, known_of found,
                        readMinutes, readSeconds, UInt8.not_le.mp least⟩) refused
      split
      · next seeking =>
          obtain ⟨rfl, rfl⟩ := seeking
          split
          · exact .refuse
          next found =>
          split
          · exact .refuse
          · next seeking read =>
              exact absurd (.inr (.inl ⟨user, value, seeking, rfl, known_of found, read⟩)) refused
      split
      · next start =>
          obtain rfl := start
          split
          · exact .refuse
          · next time read =>
              split
              · exact .refuse
              · next all =>
                  exact absurd (.inr (.inr ⟨user, time, value :: rest, rfl, List.cons_ne_nil _ _,
                    read, not_not.mp all⟩)) refused
      · exact .refuse
  · exact .refuse

theorem noEffect_ctf (refused : ¬console.Takes formats "ctf" args)
    : console.NoEffect (console.ctf formats args) := by
  unfold ctf
  dsimp only
  split
  · next option first second rest =>
      split
      · next start =>
          obtain rfl := start
          split
          · exact .refuse
          · next time read =>
              split
              · exact .refuse
              · next all =>
                  exact absurd ⟨first, time, second :: rest, rfl, List.cons_ne_nil _ _, read,
                    not_not.mp all⟩ refused
      · exact .refuse
  · exact .refuse

/-- A handler whose arguments are not taken does nothing. -/
theorem noEffect_handler {name : Text} {run : List Text → Result}
    (found : console.handler formats saved name = some run)
    (refused : ¬console.Takes formats (String.ofList name) args)
    : console.NoEffect (run args) := by
  unfold handler at found
  split at found <;> cases found <;> rename_i same <;> rw [same] at refused
  · exact .refuse
  · exact noEffect_rejoin refused
  · exact noEffect_crash refused
  · exact noEffect_ban refused
  · exact noEffect_send refused
  · exact noEffect_sendall refused
  · exact noEffect_scenario refused
  · exact noEffect_tag refused
  · exact noEffect_ctf refused
  · exact noEffect_maxplayers refused
  · exact .refuse
  · exact noEffect_flip refused
  · exact noEffect_shine refused
  · exact absurd trivial refused
  · unfold restartserver
    split
    · exact .refuse
    · next none =>
        have empty : args = [] := by simpa using none
        exact absurd empty refused
  · exact absurd trivial refused
  · exact absurd trivial refused
  · exact absurd trivial refused

end Refusals

-----------------------------------------------------------------------------------------
-- Lines that are refused
-----------------------------------------------------------------------------------------

/-- A line that is not taken does nothing: it sets, saves, sends and starts nothing, and only its
answer is new.
-/
theorem refused_line_does_nothing {formats : Formats} {saved : Bool} {console : Console}
    {line : Text} (refused : ¬console.TakesLine formats line)
    : ∃ threads,
        (∀ thread ∈ threads, thread = [])
        ∧ console.enter formats saved line
          = { console with
              calls :=
                console.calls
                  ++ [{ reply := (console.outcome formats saved line).reply, threads }] } := by
  unfold Console.enter
  dsimp only
  rcases outcome_cases formats saved console line with
    ⟨called, _⟩ | ⟨name, args, run, called, typed, found, _⟩
  · rw [called]
    exact ⟨[], (fun _ member => by cases member), rfl⟩
  · rw [called]
    dsimp only
    rw [found]
    have untaken : ¬console.Takes formats (String.ofList name) args := fun takes =>
      refused ⟨name, args, typed, takes⟩
    obtain ⟨same, threads⟩ := noEffect_handler found untaken
    refine ⟨(run args).threads, threads, ?_⟩
    dsimp only
    rw [same]

/-- A stage that does not exist is not sent to anybody. -/
theorem refused_line_does_nothing_stage
    : ∃ threads,
        (∀ thread ∈ threads, thread = [])
        ∧ (startProcess plainFormats true .missing []).enter plainFormats true
            "sendall marble".toList
          = { startProcess plainFormats true .missing [] with
              calls := [{ reply := .response invalidStage, threads }] } := by
  have refused
      : ¬(startProcess plainFormats true .missing []).TakesLine plainFormats
          "sendall marble".toList := by
    rintro ⟨name, args, typed, takes⟩
    have words : parse "sendall marble".toList
        = .parsed ["sendall".toList, "marble".toList] := by decide +kernel
    rw [words] at typed
    cases typed
    obtain ⟨first, rest, stage, same, known⟩ := takes
    cases same
    have unknown : Stages.input2Stage plainFormats.toLower plainFormats.endsWith "marble".toList
        = none := by decide +kernel
    rw [unknown] at known
    cases known
  obtain ⟨threads, empty, entered⟩ := @refused_line_does_nothing plainFormats true _ _ refused
  refine ⟨threads, empty, entered.trans ?_⟩
  have replied
      : ((startProcess plainFormats true .missing []).outcome plainFormats true
          "sendall marble".toList).reply = .response invalidStage := by decide +kernel
  rw [replied]
  rfl

end Console

end SmoOnline
