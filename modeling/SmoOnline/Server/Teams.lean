import SmoOnline.Server.Names
import SmoOnline.Server.Rounds

/-! The teams of a capture-the-flag game. The `ctf start` command takes down the names of the
players; behind its countdown, and every two seconds from then on, a round tells the players that
there are by then who is in which team.
-/

namespace SmoOnline

open Span Utf8 Runs

-----------------------------------------------------------------------------------------
-- The command and the assignments
-----------------------------------------------------------------------------------------

/-- The names that a `CaptureTheFlagMode` was made with. -/
structure TeamNames where
  redTeamNames : List Text
  blueTeamNames : List Text
  deriving DecidableEq, Repr

/-- `Clients.Except(second)`. Clients are equal by their Ids, and those of the table differ. -/
def ServerState.except (state : ServerState) (second : List SocketId) : List SocketId :=
  state.clients.filter fun client =>
    second.all fun other => (state.session client).id != (state.session other).id

/-- The `ctf start` command: it is refused unless as many clients as names were found. -/
def ServerState.ctfStart (state : ServerState) (redTeamNames : List Text) : Option TeamNames :=
  if redTeamNames = [] then none
  else
    let redTeam := state.clients.filter fun client => redTeamNames.contains (state.name client)
    if redTeam.length ≠ redTeamNames.length then none
    else
      let blueTeam := state.except redTeam
      some { redTeamNames, blueTeamNames := blueTeam.map state.name }

namespace TeamNames

variable (names : TeamNames)

def isRedTeam (name : Text) : Bool := names.redTeamNames.any (· == name)

def team (name : Text) : CaptureTheFlagTeam :=
  if names.isRedTeam name then .redTeam else .blueTeam

def teamNames (name : Text) : List Text :=
  if names.isRedTeam name then names.redTeamNames else names.blueTeamNames

/-- What is to be said of a player of a name; `teamNames[0]` throws on an empty list. -/
def assignment (shouldCaptainHoldFlag : Bool) (name : Text)
    : Option CaptureTheFlagPlayerTeamAssignmentPacket :=
  match names.teamNames name with
  | [] => none
  | captain :: _ =>
      let isCaptain := name == captain
      some {
        team := names.team name
        shouldHoldTeamFlag := shouldCaptainHoldFlag && isCaptain
      }

/-- The body of `sendOutPlayerTeamAssignments` for a client, with `broadcastAllWithPlayerGuid`. -/
def speech (shouldCaptainHoldFlag : Bool)
    : Speech SocketId CaptureTheFlagPlayerTeamAssignmentPacket where
  player := id
  content state client := names.assignment shouldCaptainHoldFlag (state.name client)
  packet := .captureTheFlagPlayerTeamAssignment
  checksConnected := true
  tellsSelf := true

end TeamNames

-----------------------------------------------------------------------------------------
-- A game
-----------------------------------------------------------------------------------------

/-- The bodies of `sendOutPlayerTeamAssignments`, one for each client. -/
abbrev TeamRound := Round SocketId CaptureTheFlagPlayerTeamAssignmentPacket

/-- A round that came to its end, the server at that time, and whether it was the first. -/
structure EndedRound where
  server : ServerState
  round : TeamRound
  shouldCaptainHoldFlag : Bool

/-- The server and one game on it. -/
structure CtfGame where
  server : ServerState
  /-- the names of the command, if one was accepted -/
  names : Option TeamNames := none
  /-- the next or the current round is the one of `sendStartupPackets` -/
  shouldCaptainHoldFlag : Bool := true
  round : Option TeamRound := none
  /-- the round that ended last -/
  ended : Option EndedRound := none

inductive CtfEvent
  | server (event : Event)
  | ctfStart (redTeamNames : List Text)
  /-- `sendOutPlayerTeamAssignments` is called -/
  | beginRound
  | moveNext
  | advance (index : Nat)
  | endRound

/-- `Parallel.ForEachAsync(m_server.Clients, ..)`, which makes the enumerator. -/
def TeamRound.begin (server : ServerState) : TeamRound where
  live := .remaining server.clients false
  present := server.connectedClients

instance (round : TeamRound) : Decidable round.Complete :=
  inferInstanceAs (Decidable (_ ∧ _ ∧ _))

namespace CtfGame

/-- A round that failed ends the game: `run` throws. -/
def step (runtime : Runtime) (game : CtfGame) : CtfEvent → Option CtfGame
  | .server event =>
      (game.server.step runtime event).map fun server =>
        { game with server, round := game.round.map (·.observe game.server server) }
  | .ctfStart redTeamNames =>
      match game.names with
      | some _ => none
      | none =>
          (game.server.ctfStart redTeamNames).map fun names => { game with names := some names }
  | .beginRound =>
      match game.names, game.round with
      | some _, none => some { game with round := some (.begin game.server) }
      | _, _ => none
  | .moveNext =>
      match game.round with
      | none => none
      | some round =>
          if round.failed then none
          else (round.moveNext []).map fun round => { game with round := some round }
  | .advance index =>
      match game.names, game.round with
      | some names, some round =>
          (round.advance (names.speech game.shouldCaptainHoldFlag) runtime game.server index).map
            fun result => { game with server := result.1, round := some result.2 }
      | _, _ => none
  | .endRound =>
      match game.round with
      | none => none
      | some round =>
          if round.Complete ∧ round.failed = false then
            some { game with
              shouldCaptainHoldFlag := false
              round := none
              ended := some {
                server := game.server
                round
                shouldCaptainHoldFlag := game.shouldCaptainHoldFlag
              } }
          else none

/-- The server before its first connection, and no game. -/
def initial (settings : Settings) (shines : List Int32) : CtfGame where
  server := .initial settings shines

end CtfGame

-----------------------------------------------------------------------------------------
-- What rounds are to do
-----------------------------------------------------------------------------------------

/-- The client was assigned to a team and is to hold its flag. -/
def EndedRound.Holds (ended : EndedRound) (team : CaptureTheFlagTeam) (client : SocketId) : Prop :=
  ∃ assignment ∈ ended.round.spokenOf (ended.server.session client).id,
    assignment.team = team ∧ assignment.shouldHoldTeamFlag = true

/-- Each client that was there is assigned its one team, each one was told so, itself too, and of
each team that has players one holds the flag when the game begins.
-/
structure EndedRound.Fair (names : TeamNames) (runtime : Runtime) (ended : EndedRound) : Prop where
  assigned
    : ∀ client ∈ ended.round.present,
        ∃ assignment,
          ended.round.spokenOf (ended.server.session client).id = [assignment]
          ∧ assignment.team
            = (if ended.server.name client ∈ names.redTeamNames then .redTeam else .blueTeam)
          ∧ ∀ other ∈ ended.round.present,
              ended.round.toldOf other (ended.server.session client).id = [assignment]
              ∧ { socket := other
                  data :=
                    runtime.typedFrame (ended.server.session client).id
                      (.captureTheFlagPlayerTeamAssignment assignment)
                  cause := .server } ∈ ended.server.sent
  captains
    : ended.shouldCaptainHoldFlag = true
      → ∀ client ∈ ended.round.present,
          ∃! captain,
            captain ∈ ended.round.present
            ∧ ended.Holds (names.team (ended.server.name client)) captain

/-- No round has failed, and the one that ended last was fair. -/
structure CtfGame.Fair (runtime : Runtime) (game : CtfGame) : Prop where
  goes : ∀ round, game.round = some round → round.failed = false
  fair
    : ∀ names ended, game.names = some names → game.ended = some ended → ended.Fair names runtime

/-- Among the players of a round, one of each team bears the name that is first on its list. -/
def TeamNames.Captained (names : TeamNames) (server : ServerState) (present : List SocketId)
    : Prop :=
  ∀ client ∈ present,
    ∃! captain,
      captain ∈ present
      ∧ names.team (server.name captain) = names.team (server.name client)
      ∧ (names.teamNames (server.name captain)).head? = some (server.name captain)

/-- What it takes for a round to go on: the table is not changed before the enumerator has come to
its end, no team of a client is without names, and no socket of a connected client is closed when
it is written to.
-/
def CtfGame.Undisturbed (runtime : Runtime) (game : CtfGame) : CtfEvent → Prop
  | .moveNext => ∀ round yet, game.round = some round → round.live ≠ .remaining yet true
  | .advance index =>
      ∀ names round body,
        game.names = some names
        → game.round = some round
        → round.bodies[index]? = some body
        → match body.said with
          | some _ => (game.server.session body.item).socketConnected = true
          | none =>
              names.teamNames (game.server.name body.item) ≠ []
              ∧ ((game.server.session body.item).connected = true
                → headerSize + 5 ≤ runtime.rent (headerSize + 2)
                  ∧ ∀ client ∈ game.server.recipients body.item,
                      (game.server.session client).socketConnected = true)
  | .endRound =>
      game.shouldCaptainHoldFlag = true
      → ∀ names round,
          game.names = some names
          → game.round = some round
          → names.Captained game.server round.present
  | _ => True

-----------------------------------------------------------------------------------------
-- Assignments
-----------------------------------------------------------------------------------------

namespace TeamNames

variable {names : TeamNames} {shouldCaptainHoldFlag : Bool} {name : Text}

theorem team_eq (name : Text)
    : names.team name = if name ∈ names.redTeamNames then .redTeam else .blueTeam := by
  have member : names.isRedTeam name = true ↔ name ∈ names.redTeamNames := by
    simp [isRedTeam]
  simp only [team, member]

theorem assignment_ne_none
    : (∃ assignment, names.assignment shouldCaptainHoldFlag name = some assignment)
      ↔ names.teamNames name ≠ [] := by
  unfold assignment
  cases names.teamNames name <;> simp

/-- An assignment is to the team of the name, and the first of its list is the captain. -/
theorem assignment_cases {assignment : CaptureTheFlagPlayerTeamAssignmentPacket}
    (assigned : names.assignment shouldCaptainHoldFlag name = some assignment)
    : assignment.team = names.team name
      ∧ (assignment.shouldHoldTeamFlag = true
        ↔ shouldCaptainHoldFlag = true ∧ (names.teamNames name).head? = some name) := by
  unfold TeamNames.assignment at assigned
  split at assigned
  · cases assigned
  · next captain rest same =>
      obtain rfl := Option.some.inj assigned
      rw [same, Bool.and_eq_true, beq_iff_eq, List.head?_cons, Option.some.injEq]
      exact ⟨rfl, and_congr_right fun _ => eq_comm⟩

end TeamNames

/-- The stores of an assignment need five octets of a memory that was asked for two. -/
theorem Runtime.filled_assignment_iff (runtime : Runtime) (id : Guid)
    (packet : CaptureTheFlagPlayerTeamAssignmentPacket)
    : (runtime.filled id (.captureTheFlagPlayerTeamAssignment packet)).2 = true
      ↔ headerSize + 5 ≤ runtime.rent (headerSize + 2) := by
  have room := runtime.le_rent (headerSize + 2)
  have filled := @fillPacket_eq
    (typedHeader id (.captureTheFlagPlayerTeamAssignment packet)) packet.serialize
    (runtime.rentZero (headerSize + 2))
    (by rw [Runtime.rentZero, length_zeros]; omega)
  have same
      : runtime.filled id (.captureTheFlagPlayerTeamAssignment packet)
        = fillPacket (typedHeader id (.captureTheFlagPlayerTeamAssignment packet))
            packet.serialize (runtime.rentZero (headerSize + 2)) := rfl
  rw [same, filled, runStores_completes_iff, List.length_drop, Runtime.rentZero, length_zeros]
  simp only [CaptureTheFlagPlayerTeamAssignmentPacket.serialize,
    CaptureTheFlagPlayerTeamAssignmentPacket.marshalSizeOfBool, Store.Fits, Store.write,
    List.forall_mem_cons, Option.getD_some, Blittable.length_toBytes, size_captureTheFlagTeam]
  have bool : Blittable.size Bool = 1 := rfl
  simp [bool]
  omega

/-- What it takes for a body not to throw. -/
theorem TeamRound.speaks_iff {names : TeamNames} {shouldCaptainHoldFlag : Bool}
    {runtime : Runtime} {server : ServerState} {round : TeamRound} {index : Nat}
    : round.Speaks (names.speech shouldCaptainHoldFlag) runtime server index
      ↔ ∀ body,
          round.bodies[index]? = some body
          → match body.said with
            | some _ => (server.session body.item).socketConnected = true
            | none =>
                names.teamNames (server.name body.item) ≠ []
                ∧ ((server.session body.item).connected = true
                  → headerSize + 5 ≤ runtime.rent (headerSize + 2)
                    ∧ ∀ client ∈ server.recipients body.item,
                        (server.session client).socketConnected = true) := by
  refine forall₂_congr fun body _ => ?_
  cases body.said with
  | some content => rfl
  | none =>
      rw [← @TeamNames.assignment_ne_none names shouldCaptainHoldFlag, exists_and_right.symm]
      refine exists_congr fun content => and_congr_right fun _ => ?_
      rw [← runtime.filled_assignment_iff (server.session body.item).id content]
      exact imp_congr_left ⟨fun checks => checks rfl, fun connected _ => connected⟩

-----------------------------------------------------------------------------------------
-- What rounds keep
-----------------------------------------------------------------------------------------

/-- The round is sound and has told what it has noted, and what it has said of a player is the
assignment of the player's name.
-/
structure TeamRound.Assigns (names : TeamNames) (shouldCaptainHoldFlag : Bool) (runtime : Runtime)
    (server : ServerState) (round : TeamRound)
    : Prop where
  sound : round.Sound (names.speech shouldCaptainHoldFlag) [] server
  opened : round.live ≠ .unopened
  assigned
    : ∀ spoken ∈ round.spoken,
        names.assignment shouldCaptainHoldFlag spoken.name = some spoken.content
  named
    : ∀ spoken ∈ round.spoken,
        ∀ client ∈ round.present,
          spoken.id = (server.session client).id → spoken.name = server.name client
  written : round.Written (names.speech shouldCaptainHoldFlag) runtime server

namespace TeamRound

variable {names : TeamNames} {shouldCaptainHoldFlag : Bool} {runtime : Runtime}
  {server after : ServerState} {round next : TeamRound}

theorem Assigns.begin (tidy : Tidy server)
    : (TeamRound.begin server).Assigns names shouldCaptainHoldFlag runtime server where
  sound := by
    have waiting : (TeamRound.begin server).waiting [] = server.clients := by
      simp [TeamRound.begin, Round.waiting, Enumeration.yet]
    apply Round.Sound.begin rfl rfl rfl
    · intro item member
      rw [waiting] at member
      exact tidy.joined_of_mem member
    · exact fun client member => ServerState.mem_connectedClients.mp member
    · intro _ item member client there same
      rw [waiting] at member
      exact tidy.distinct item member client (ServerState.mem_connectedClients.mp there).1 same
    · intro client there
      rw [waiting]
      have entry := (ServerState.mem_connectedClients.mp there).1
      rw [← List.nodup_iff_count_eq_one.mp tidy.nodup client entry]
      refine List.countP_congr fun item member => ?_
      simp only [decide_eq_true_eq, beq_iff_eq]
      exact ⟨tidy.distinct item member client entry, fun same => by rw [same]; rfl⟩
  opened := nofun
  assigned := nofun
  named := nofun
  written := nofun

theorem Assigns.observe {event : Event} {state : ServerState} (tidy : Tidy server)
    (assigns : round.Assigns names shouldCaptainHoldFlag runtime server)
    (taken : server.step runtime event = some state)
    : Assigns names shouldCaptainHoldFlag runtime state (round.observe server state) where
  sound :=
    assigns.sound.observe tidy taken fun unopened => absurd unopened assigns.opened
  opened := by
    have opened := assigns.opened
    unfold Round.observe
    cases live : round.live with
    | unopened => exact absurd live opened
    | _ => nofun
  assigned := assigns.assigned
  named := by
    intro spoken said client there same
    obtain ⟨before, stays⟩ := List.mem_filter.mp there
    rw [Bool.and_eq_true, decide_eq_true_eq] at stays
    have entry := (assigns.sound.present client before).1
    rw [(ServerState.joined_kept tidy taken (tidy.joined_of_mem entry)).2] at same
    rw [ServerState.name_kept tidy taken entry stays.1]
    exact assigns.named spoken said client before same
  written := assigns.written.observe taken

theorem Assigns.moveNext (assigns : round.Assigns names shouldCaptainHoldFlag runtime server)
    (taken : round.moveNext [] = some next)
    : next.Assigns names shouldCaptainHoldFlag runtime server := by
  obtain ⟨present, spoken, told, opened⟩ := Round.moveNext_rest taken
  refine ⟨assigns.sound.moveNext taken, opened, ?_, ?_, ?_⟩
  · rw [spoken]
    exact assigns.assigned
  · rw [spoken, present]
    exact assigns.named
  · rw [Round.Written, told]
    exact assigns.written

theorem Assigns.advance {index : Nat} (tidy : Tidy server)
    (assigns : round.Assigns names shouldCaptainHoldFlag runtime server)
    (speaks : round.Speaks (names.speech shouldCaptainHoldFlag) runtime server index)
    (taken
      : round.advance (names.speech shouldCaptainHoldFlag) runtime server index
        = some (after, next))
    : next.Assigns names shouldCaptainHoldFlag runtime after := by
  have sound := assigns.sound.advance tidy speaks taken
  have written := assigns.written.advance taken
  obtain ⟨⟨item, said⟩, found, advance⟩ := Round.advance_cases speaks taken
  cases advance with
  | tellsSelf content =>
      exact ⟨sound, assigns.opened, assigns.assigned, assigns.named, written⟩
  | skips checks gone =>
      exact ⟨sound, assigns.opened, assigns.assigned, assigns.named, written⟩
  | speaks content what checks =>
      refine ⟨sound, assigns.opened, fun spoken member => ?_, fun spoken member => ?_, written⟩
      · rcases List.mem_append.mp member with before | new
        · exact assigns.assigned spoken before
        · obtain rfl := List.mem_singleton.mp new
          exact what
      · rcases List.mem_append.mp member with before | new
        · exact assigns.named spoken before
        · obtain rfl := List.mem_singleton.mp new
          intro client there same
          have waits := @Round.waiting_perm _ _ [] _ _ _ found
          have own := assigns.sound.own (.inl rfl) item
            (List.mem_append_left _ (waits.symm.subset List.mem_cons_self)) client there same
          exact congrArg server.name own

/-- At the end of a round, each client that was there has been assigned its team, and the captain
of the first round its flag.
-/
theorem Assigns.said (assigns : round.Assigns names shouldCaptainHoldFlag runtime server)
    (complete : round.Complete) {client : SocketId} (there : client ∈ round.present)
    : ∃ assignment,
        round.spokenOf (server.session client).id = [assignment]
        ∧ (∀ other ∈ round.present,
            round.toldOf other (server.session client).id = [assignment])
        ∧ assignment.team = names.team (server.name client)
        ∧ (assignment.shouldHoldTeamFlag = true
          ↔ shouldCaptainHoldFlag = true
            ∧ (names.teamNames (server.name client)).head? = some (server.name client)) := by
  obtain ⟨assignment, said, others, itself⟩ := assigns.sound.complete complete there
  have among : assignment ∈ round.spokenOf (server.session client).id := by
    rw [said]
    exact List.mem_singleton_self _
  obtain ⟨spoken, entry, of, rfl⟩ := Round.exists_spoken among
  have name := assigns.named spoken entry client there of
  have assigned := assigns.assigned spoken entry
  rw [name] at assigned
  refine ⟨spoken.content, said, fun other present => ?_, TeamNames.assignment_cases assigned⟩
  by_cases same : other = client
  · rw [same]
    exact itself rfl
  · exact others other present same

/-- A round that has come to its end is fair if and only if the first has captains. -/
theorem Assigns.fair_iff (assigns : round.Assigns names shouldCaptainHoldFlag runtime server)
    (complete : round.Complete)
    : (EndedRound.mk server round shouldCaptainHoldFlag).Fair names runtime
      ↔ (shouldCaptainHoldFlag = true → names.Captained server round.present) := by
  -- in the first round a player is to hold its team's flag if it has the first name
  have holds_iff (first : shouldCaptainHoldFlag = true) {client captain : SocketId}
      (there : captain ∈ round.present)
      : (EndedRound.mk server round shouldCaptainHoldFlag).Holds
            (names.team (server.name client)) captain
        ↔ names.team (server.name captain) = names.team (server.name client)
          ∧ (names.teamNames (server.name captain)).head? = some (server.name captain) := by
    obtain ⟨assignment, said, _, team, holds⟩ := assigns.said complete there
    rw [EndedRound.Holds, said, ← team]
    simp only [List.mem_singleton, exists_eq_left, holds, first, true_and]
  constructor
  · intro fair first client there
    refine (existsUnique_congr fun captain => and_congr_right fun present => ?_).mp
      (fair.captains first client there)
    exact holds_iff first present
  · intro captained
    refine ⟨fun client there => ?_, fun first client there => ?_⟩
    · obtain ⟨assignment, said, told, team, _⟩ := assigns.said complete there
      refine ⟨assignment, said, ?_, fun other present => ?_⟩
      · rw [team, TeamNames.team_eq]
      · exact ⟨told other present, assigns.written.of_toldOf (told other present)⟩
    · refine (existsUnique_congr fun captain => and_congr_right fun present => ?_).mpr
        (captained first client there)
      exact holds_iff first present

end TeamRound

-----------------------------------------------------------------------------------------
-- Games
-----------------------------------------------------------------------------------------

/-- What is known of a game that goes on. -/
structure CtfGame.Known (runtime : Runtime) (game : CtfGame) : Prop where
  tidy : Tidy game.server
  unset : game.names = none → game.round = none ∧ game.ended = none
  assigns
    : ∀ names round,
        game.names = some names
        → game.round = some round
        → round.Assigns names game.shouldCaptainHoldFlag runtime game.server

namespace CtfGame

variable {runtime : Runtime} {game next : CtfGame}

/-- What the events of a game do. -/
inductive Stepped (runtime : Runtime) (game : CtfGame) : CtfEvent → CtfGame → Prop
  | server {event : Event} (server : ServerState)
    (taken : game.server.step runtime event = some server)
    : Stepped runtime game (.server event)
        { game with server, round := game.round.map (·.observe game.server server) }
  | ctfStart {redTeamNames : List Text} (names : TeamNames) (before : game.names = none)
    (accepted : game.server.ctfStart redTeamNames = some names)
    : Stepped runtime game (.ctfStart redTeamNames) { game with names := some names }
  | beginRound (names : TeamNames) (known : game.names = some names) (before : game.round = none)
    : Stepped runtime game .beginRound { game with round := some (.begin game.server) }
  | moveNext (round after : TeamRound) (current : game.round = some round)
    (going : round.failed = false) (taken : round.moveNext [] = some after)
    : Stepped runtime game .moveNext { game with round := some after }
  | advance {index : Nat} (names : TeamNames) (round after : TeamRound) (server : ServerState)
    (known : game.names = some names) (current : game.round = some round)
    (taken
      : round.advance (names.speech game.shouldCaptainHoldFlag) runtime game.server index
        = some (server, after))
    : Stepped runtime game (.advance index) { game with server, round := some after }
  | endRound (round : TeamRound) (current : game.round = some round) (complete : round.Complete)
    (going : round.failed = false)
    : Stepped runtime game .endRound
        { game with
          shouldCaptainHoldFlag := false
          round := none
          ended := some {
            server := game.server
            round
            shouldCaptainHoldFlag := game.shouldCaptainHoldFlag
          } }

theorem step_cases {event : CtfEvent} (taken : game.step runtime event = some next)
    : Stepped runtime game event next := by
  cases event with
  | server event =>
      obtain ⟨server, stepped, rfl⟩ := Option.map_eq_some_iff.mp taken
      exact .server server stepped
  | ctfStart redTeamNames =>
      rw [step] at taken
      split at taken
      · cases taken
      · next before =>
          obtain ⟨names, accepted, rfl⟩ := Option.map_eq_some_iff.mp taken
          exact .ctfStart names before accepted
  | beginRound =>
      rw [step] at taken
      split at taken
      · next names known before =>
          obtain rfl := Option.some.inj taken
          exact .beginRound names known before
      · cases taken
  | moveNext =>
      rw [step] at taken
      split at taken
      · cases taken
      · next round current =>
          split_ifs at taken with failed
          obtain ⟨after, moved, rfl⟩ := Option.map_eq_some_iff.mp taken
          exact .moveNext round after current (Bool.eq_false_iff.mpr failed) moved
  | advance index =>
      rw [step] at taken
      split at taken
      · next names round known current =>
          obtain ⟨⟨server, after⟩, advanced, rfl⟩ := Option.map_eq_some_iff.mp taken
          exact .advance names round after server known current advanced
      · cases taken
  | endRound =>
      rw [step] at taken
      split at taken
      · cases taken
      · next round current =>
          split_ifs at taken with ends
          obtain rfl := Option.some.inj taken
          exact .endRound round current ends.1 ends.2

theorem Known.step {event : CtfEvent} (known : game.Known runtime)
    (undisturbed : game.Undisturbed runtime event)
    (taken : game.step runtime event = some next)
    : next.Known runtime := by
  obtain ⟨tidy, unset, assigns⟩ := known
  cases step_cases taken with
  | server server stepped =>
      refine ⟨tidy.step stepped, fun none => ?_, fun names round known current => ?_⟩
      · obtain ⟨noRound, noEnded⟩ := unset none
        exact ⟨by rw [noRound]; rfl, noEnded⟩
      · obtain ⟨before, was, rfl⟩ := Option.map_eq_some_iff.mp current
        exact (assigns names before known was).observe tidy stepped
  | ctfStart names before accepted =>
      refine ⟨tidy, nofun, fun _ round _ current => ?_⟩
      have none := (unset before).1
      rw [none] at current
      cases current
  | beginRound names set before =>
      refine ⟨tidy, fun none => ?_, fun others round known current => ?_⟩
      · rw [set] at none
        cases none
      · obtain rfl := Option.some.inj current
        exact .begin tidy
  | moveNext round after was going moved =>
      refine ⟨tidy, fun none => ?_, fun names round known current => ?_⟩
      · rw [(unset none).1] at was
        cases was
      · obtain rfl := Option.some.inj current
        exact (assigns names _ known was).moveNext moved
  | advance names round after server set was advanced =>
      have before := assigns names round set was
      have speaks : round.Speaks (names.speech game.shouldCaptainHoldFlag) runtime game.server _ :=
        TeamRound.speaks_iff.mpr fun body found => undisturbed names round body set was found
      refine ⟨?_, fun none => ?_, fun others round known current => ?_⟩
      · exact tidy.of_quiet (Round.advance_quiet advanced)
      · rw [set] at none
        cases none
      · obtain rfl := Option.some.inj current
        obtain rfl := Option.some.inj (set.symm.trans known)
        exact before.advance tidy speaks advanced
  | endRound round was complete going =>
      refine ⟨tidy, fun none => ?_, nofun⟩
      rw [(unset none).1] at was
      cases was

/-- An event keeps a game fair if and only if it disturbs no round. -/
theorem undisturbed_iff {event : CtfEvent} (known : game.Known runtime)
    (fair : game.Fair runtime) (taken : game.step runtime event = some next)
    : game.Undisturbed runtime event ↔ next.Fair runtime := by
  cases step_cases taken with
  | server server stepped =>
      refine iff_of_true trivial ⟨fun round current => ?_, fair.fair⟩
      obtain ⟨before, was, rfl⟩ := Option.map_eq_some_iff.mp current
      exact fair.goes before was
  | ctfStart names before accepted =>
      refine iff_of_true trivial ⟨fair.goes, fun _ ended _ last => ?_⟩
      have none := (known.unset before).2
      rw [none] at last
      cases last
  | beginRound names set before =>
      refine iff_of_true trivial ⟨fun round current => ?_, fair.fair⟩
      obtain rfl := Option.some.inj current
      rfl
  | moveNext round after was going moved =>
      have exact := (Round.failed_moveNext_iff moved).trans (and_iff_right going)
      constructor
      · intro undisturbed
        refine ⟨fun other current => ?_, fair.fair⟩
        obtain rfl := Option.some.inj current
        exact exact.mpr fun yet => undisturbed round yet was
      · intro goes other yet current
        obtain rfl := Option.some.inj (was.symm.trans current)
        exact exact.mp (goes.goes after rfl) yet
  | advance names round after server set was advanced =>
      have exact := (Round.failed_advance_iff advanced).trans (and_iff_right (fair.goes round was))
      rw [TeamRound.speaks_iff] at exact
      constructor
      · intro undisturbed
        refine ⟨fun other current => ?_, fair.fair⟩
        obtain rfl := Option.some.inj current
        exact exact.mpr fun body found => undisturbed names round body set was found
      · intro goes others other body known current found
        obtain rfl := Option.some.inj (was.symm.trans current)
        obtain rfl := Option.some.inj (set.symm.trans known)
        exact exact.mp (goes.goes after rfl) body found
  | endRound round was complete going =>
      constructor
      · intro undisturbed
        refine ⟨nofun, fun names ended set last => ?_⟩
        obtain rfl := Option.some.inj last
        apply ((known.assigns names round set was).fair_iff complete).mpr
        exact fun first => undisturbed first names round set was
      · intro goes first names other set current
        obtain rfl := Option.some.inj (was.symm.trans current)
        exact ((known.assigns names round set was).fair_iff complete).mp
          (goes.fair names _ set rfl) first

/-- In a game no round fails and each that ends is fair if and only if no round is disturbed.
Witness: what is known of a game is kept by events that disturb none, and each event keeps the
game fair exactly if it is one of those.
-/
theorem teams_told_iff (settings : Settings) (shines : List Int32) {events : List CtfEvent}
    : Run (step runtime) (Undisturbed runtime) (initial settings shines) events game
      ↔ Run (step runtime) (Into (step runtime) (Fair runtime)) (initial settings shines) events
        game := by
  have known : (initial settings shines).Known runtime := by
    refine ⟨Tidy.initial settings shines, fun _ => ⟨rfl, rfl⟩, ?_⟩
    intro names round none
    cases none
  have fair : (initial settings shines).Fair runtime := by
    constructor
    · intro round none
      cases none
    · intro names ended none
      cases none
  exact Run.into_iff_using known fair
    (fun known _ undisturbed taken => known.step undisturbed taken)
    fun known fair taken => undisturbed_iff known fair taken

-----------------------------------------------------------------------------------------
-- Mario, Luigi and Toad
-----------------------------------------------------------------------------------------

/-- A game against the players of some names is started, Toad comes in during the countdown, and
the enumerator yields all three.
-/
def threesome (redTeamNames : List Text) : List CtfEvent :=
  duet.map .server ++ [.ctfStart redTeamNames]
    ++ (arrival .pooled 3 ⟨9⟩ .firstConnection "Toad".toList [1, 2]).map .server
    ++ [.beginRound, .moveNext, .moveNext, .moveNext]

/-- With Mario and Luigi both red, nobody is blue when the names are taken down. Toad comes in
later and is blue, and the round fails on the first name of an empty list.
-/
theorem nobody_blue
    : ∃ game,
        AnyRun (step .pooled) (initial {} [])
          (threesome ["Mario".toList, "Luigi".toList] ++ [.advance 2]) game
        ∧ ¬game.Fair .pooled := by
  obtain ⟨game, run, fails⟩ :=
    @exists_run _ _ (step .pooled) (initial {} [])
      (threesome ["Mario".toList, "Luigi".toList] ++ [.advance 2])
      (fun game => (game.round.any Round.failed) = true) inferInstance (by decide +kernel)
  refine ⟨game, run, fun fair => ?_⟩
  obtain ⟨round, current, failed⟩ := (Option.any_eq_true _ _).mp fails
  rw [fair.goes round current] at failed
  cases failed

-- with Mario alone red, all three are told
example
    : ((execute (step .pooled) (initial {} [])
        (threesome ["Mario".toList]
          ++ [.advance 0, .advance 0, .advance 0, .advance 0, .advance 0, .advance 0, .moveNext,
            .endRound])).any fun game => game.ended.isSome) = true := by
  decide +kernel

end CtfGame

end SmoOnline
