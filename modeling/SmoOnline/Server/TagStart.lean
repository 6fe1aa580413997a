import SmoOnline.Server.Teams

/-! The start of a hide-and-seek round. The `tag start` command takes down the seekers; behind its
countdown, one loop tells the players of each seeker, and another at the same time of everybody
else who is there by then.
-/

namespace SmoOnline

open Span Utf8 Runs

-----------------------------------------------------------------------------------------
-- The command and what it says
-----------------------------------------------------------------------------------------

namespace ServerState

/-- The `tag start` command: it is refused unless as many clients as names were found. -/
def tagStart (state : ServerState) (seekerNames : List Text) : Option (List SocketId) :=
  if seekerNames = [] then none
  else
    let seekers := state.clients.filter fun client => seekerNames.contains (state.name client)
    if seekers.length ≠ seekerNames.length then none else some seekers

/-- The Ids of clients. -/
def ids (state : ServerState) (clients : List SocketId) : List Guid :=
  clients.map fun client => (state.session client).id

/-- A client is one of the seekers, which clients are by their Ids. -/
def seeks (state : ServerState) (seekers : List SocketId) (client : SocketId) : Bool :=
  decide ((state.session client).id ∈ state.ids seekers)

/-- `Clients.Except(seekers)`, of each of whom it is said that it is not it. -/
def hiders (state : ServerState) (seekers : List SocketId) : List (SocketId × Bool) :=
  (state.except seekers).map fun hider => (hider, false)

end ServerState

/-- The bodies of both loops. `Broadcast` leaves out the player whose Id the packet bears. -/
def tagSpeech : Speech (SocketId × Bool) Bool where
  player := Prod.fst
  content _ item := some item.2
  packet isIt := .tag { updateType := .state, isIt, seconds := 0, minutes := 0 }
  checksConnected := false
  tellsSelf := false

/-- The loops over the seekers and over the hiders. -/
abbrev TagRound := Round (SocketId × Bool) Bool

/-- `Task.WhenAll` of the loops, of which the second finds its clients when it begins. -/
def TagRound.begin (server : ServerState) (seekers : List SocketId) : TagRound where
  fixed := seekers.map fun seeker => (seeker, true)
  live := .unopened
  present := server.connectedClients

instance (round : TagRound) : Decidable round.Complete :=
  inferInstanceAs (Decidable (_ ∧ _ ∧ _))

-----------------------------------------------------------------------------------------
-- The task
-----------------------------------------------------------------------------------------

/-- The loops when both had come to their ends, and the server at that time. -/
structure EndedTag where
  server : ServerState
  round : TagRound

/-- The server and one task of the command on it. -/
structure TagGame where
  server : ServerState
  /-- the clients that the command has found, if one was accepted -/
  seekers : Option (List SocketId) := none
  round : Option TagRound := none
  ended : Option EndedTag := none

inductive TagEvent
  | server (event : Event)
  | tagStart (seekerNames : List Text)
  /-- the countdown is over -/
  | begin
  | nextSeeker
  | nextHider
  | advance (index : Nat)
  /-- the task completes -/
  | finish

namespace TagGame

def step (runtime : Runtime) (game : TagGame) : TagEvent → Option TagGame
  | .server event =>
      (game.server.step runtime event).map fun server =>
        { game with server, round := game.round.map (·.observe game.server server) }
  | .tagStart seekerNames =>
      match game.seekers with
      | some _ => none
      | none =>
          (game.server.tagStart seekerNames).map fun seekers =>
            { game with seekers := some seekers }
  | .begin =>
      match game.seekers, game.round, game.ended with
      | some seekers, none, none => some { game with round := some (.begin game.server seekers) }
      | _, _, _ => none
  | .nextSeeker =>
      match game.round with
      | none => none
      | some round => round.nextFixed.map fun round => { game with round := some round }
  | .nextHider =>
      match game.seekers, game.round with
      | some seekers, some round =>
          (round.moveNext (game.server.hiders seekers)).map fun round =>
            { game with round := some round }
      | _, _ => none
  | .advance index =>
      match game.round with
      | none => none
      | some round =>
          (round.advance tagSpeech runtime game.server index).map fun result =>
            { game with server := result.1, round := some result.2 }
  | .finish =>
      match game.round with
      | none => none
      | some round =>
          if round.Complete ∧ round.failed = false then
            some { game with
              round := none
              ended := some { server := game.server, round } }
          else none

/-- The server before its first connection, and no task. -/
def initial (settings : Settings) (shines : List Int32) : TagGame where
  server := .initial settings shines

end TagGame

/-- Each client that was there all the time was told once of each, itself too, whether it is it. -/
def EndedTag.Informs (seekers : List SocketId) (ended : EndedTag) : Prop :=
  ∀ client ∈ ended.round.present,
    ∀ other ∈ ended.round.present,
      ended.round.toldOf other (ended.server.session client).id
        = [ended.server.seeks seekers client]

-----------------------------------------------------------------------------------------
-- Seekers and hiders
-----------------------------------------------------------------------------------------

/-- The seekers are different players, and have joined. -/
structure ServerState.Chosen (server : ServerState) (seekers : List SocketId) : Prop where
  joined : ∀ seeker ∈ seekers, (server.session seeker).phase.fresh = false
  distinct : (server.ids seekers).Nodup

namespace ServerState

variable {runtime : Runtime} {server state : ServerState} {seekers : List SocketId}

theorem mem_except {client : SocketId}
    : client ∈ server.except seekers
      ↔ client ∈ server.clients ∧ (server.session client).id ∉ server.ids seekers := by
  simp only [except, ids, List.mem_filter, List.all_eq_true, bne_iff_ne, List.mem_map, not_exists,
    not_and]
  exact and_congr_right fun _ => forall₂_congr fun _ _ => ne_comm

theorem Chosen.of_tagStart (tidy : Tidy server) {seekerNames : List Text}
    (accepted : server.tagStart seekerNames = some seekers)
    : server.Chosen seekers := by
  unfold tagStart at accepted
  dsimp only at accepted
  split_ifs at accepted
  obtain rfl := Option.some.inj accepted
  have entry {seeker : SocketId}
      (member
        : seeker ∈ server.clients.filter fun client => seekerNames.contains (server.name client))
      : seeker ∈ server.clients :=
    (List.mem_filter.mp member).1
  refine ⟨fun seeker member => tidy.joined_of_mem (entry member), ?_⟩
  apply (tidy.nodup.filter _).map_on
  intro left leftMember right rightMember same
  exact tidy.distinct left (entry leftMember) right (entry rightMember) same

/-- The Ids of seekers stay. -/
theorem Chosen.ids_kept {event : Event} (chosen : server.Chosen seekers) (tidy : Tidy server)
    (taken : server.step runtime event = some state)
    : state.ids seekers = server.ids seekers :=
  List.map_congr_left fun seeker member =>
    (joined_kept tidy taken (chosen.joined seeker member)).2

theorem Chosen.step {event : Event} (chosen : server.Chosen seekers) (tidy : Tidy server)
    (taken : server.step runtime event = some state)
    : state.Chosen seekers where
  joined seeker member := (joined_kept tidy taken (chosen.joined seeker member)).1
  distinct := by
    rw [chosen.ids_kept tidy taken]
    exact chosen.distinct

/-- The loop over the seekers has an item for each of them. -/
theorem count_seekers (id : Guid)
    : tagSpeech.count server id (seekers.map fun seeker => (seeker, true))
      = (server.ids seekers).count id := by
  rw [Speech.count, List.countP_map, ids, List.count, List.countP_map]
  exact List.countP_congr fun seeker _ => decide_eq_true_iff.trans beq_iff_eq.symm

/-- The loop over the hiders has an item for each client that is no seeker. -/
theorem count_hiders (tidy : Tidy server) {client : SocketId} (entry : client ∈ server.clients)
    : tagSpeech.count server (server.session client).id (server.hiders seekers)
      = if (server.session client).id ∈ server.ids seekers then 0 else 1 := by
  rw [Speech.count, hiders, List.countP_map]
  split_ifs with seeking
  · refine List.countP_eq_zero.mpr fun other member same => ?_
    refine (mem_except.mp member).2 ?_
    rw [show (server.session other).id = (server.session client).id from of_decide_eq_true same]
    exact seeking
  · have member : client ∈ server.except seekers := mem_except.mpr ⟨entry, seeking⟩
    have once := List.nodup_iff_count_eq_one.mp (tidy.nodup.filter _) client member
    rw [← once]
    refine List.countP_congr fun other found => ?_
    simp only [Function.comp, decide_eq_true_eq, beq_iff_eq]
    exact ⟨tidy.distinct other (mem_except.mp found).1 client entry, fun same => by rw [same]; rfl⟩

end ServerState

-----------------------------------------------------------------------------------------
-- What the loops keep
-----------------------------------------------------------------------------------------

/-- The loops are sound and have told what they have noted, and what they say of a client is
whether it is a seeker.
-/
structure TagRound.Marks (seekers : List SocketId) (runtime : Runtime) (server : ServerState)
    (round : TagRound)
    : Prop where
  sound : round.Sound tagSpeech (server.hiders seekers) server
  items
    : ∀ item ∈ round.waiting (server.hiders seekers), item.2 = server.seeks seekers item.1
  spoken : ∀ spoken ∈ round.spoken, spoken.content = decide (spoken.id ∈ server.ids seekers)
  written : round.Written tagSpeech runtime server

namespace TagRound

variable {seekers : List SocketId} {runtime : Runtime} {server after : ServerState}
  {round next : TagRound}

theorem Marks.begin (tidy : Tidy server) (chosen : server.Chosen seekers)
    : (TagRound.begin server seekers).Marks seekers runtime server := by
  have waiting : (TagRound.begin server seekers).waiting (server.hiders seekers)
      = seekers.map (fun seeker => (seeker, true)) ++ server.hiders seekers := by
    simp [TagRound.begin, Round.waiting, Enumeration.yet]
  refine ⟨?_, ?_, ?_, ?_⟩
  · apply Round.Sound.begin rfl rfl rfl
    · rw [waiting]
      intro item member
      rcases List.mem_append.mp member with first | second
      · obtain ⟨seeker, chosenOne, rfl⟩ := List.mem_map.mp first
        exact chosen.joined seeker chosenOne
      · obtain ⟨hider, other, rfl⟩ := List.mem_map.mp second
        exact tidy.joined_of_mem (ServerState.mem_except.mp other).1
    · exact fun client member => ServerState.mem_connectedClients.mp member
    · rintro (never | never) <;> cases never
    · intro client there
      have entry := (ServerState.mem_connectedClients.mp there).1
      rw [waiting, Round.count_append, ServerState.count_seekers,
        ServerState.count_hiders tidy entry]
      split_ifs with seeking
      · exact List.nodup_iff_count_eq_one.mp chosen.distinct _ seeking
      · rw [List.count_eq_zero_of_not_mem seeking]
  · rw [waiting]
    intro item member
    rcases List.mem_append.mp member with first | second
    · obtain ⟨seeker, chosenOne, rfl⟩ := List.mem_map.mp first
      exact (decide_eq_true (List.mem_map_of_mem chosenOne)).symm
    · obtain ⟨hider, other, rfl⟩ := List.mem_map.mp second
      exact (decide_eq_false (ServerState.mem_except.mp other).2).symm
  · intro spoken never
    cases never
  · intro told never
    cases never

/-- A step of the server leaves as many items of a client that stays. -/
theorem reopens {event : Event} {state : ServerState} (tidy : Tidy server)
    (chosen : server.Chosen seekers)
    (present : ∀ client ∈ round.present, client ∈ server.clients)
    (taken : server.step runtime event = some state)
    : Round.Reopens tagSpeech server state (server.hiders seekers) (state.hiders seekers)
        round where
  joined := by
    intro item member
    obtain ⟨hider, other, rfl⟩ := List.mem_map.mp member
    exact (tidy.step taken).joined_of_mem (ServerState.mem_except.mp other).1
  own := by
    rintro (never | never) <;> cases never
  count := by
    intro client there stays
    have entry := present client there
    rw [ServerState.count_hiders (tidy.step taken) stays, ServerState.count_hiders tidy entry,
      chosen.ids_kept tidy taken,
      (ServerState.joined_kept tidy taken (tidy.joined_of_mem entry)).2]

theorem Marks.observe {event : Event} {state : ServerState} (tidy : Tidy server)
    (chosen : server.Chosen seekers) (marks : round.Marks seekers runtime server)
    (taken : server.step runtime event = some state)
    : Marks seekers runtime state (round.observe server state) where
  sound :=
    marks.sound.observe tidy taken fun _ =>
      reopens tidy chosen (fun client there => (marks.sound.present client there).1) taken
  items := by
    intro item member
    rcases @Round.observe_waiting _ _ (server.hiders seekers) _ _ _ _ _ member
      with before | ⟨_, new⟩
    · have joined := marks.sound.joined item (List.mem_append_left _ before)
      have id := (ServerState.joined_kept tidy taken joined).2
      rw [marks.items item before, ServerState.seeks, ServerState.seeks,
        chosen.ids_kept tidy taken]
      exact congrArg (fun id => decide (id ∈ server.ids seekers)) id.symm
    · obtain ⟨hider, other, rfl⟩ := List.mem_map.mp new
      exact (decide_eq_false (ServerState.mem_except.mp other).2).symm
  spoken := by
    rw [chosen.ids_kept tidy taken]
    exact marks.spoken
  written := marks.written.observe taken

theorem Marks.nextFixed (marks : round.Marks seekers runtime server)
    (taken : round.nextFixed = some next)
    : next.Marks seekers runtime server := by
  obtain ⟨waiting, _⟩ := @Round.nextFixed_items _ _ (server.hiders seekers) _ _ taken
  obtain ⟨_, spoken, told, _⟩ := Round.nextFixed_rest taken
  refine ⟨marks.sound.nextFixed taken, ?_, ?_, ?_⟩
  · exact fun item member => marks.items item (waiting.subset member)
  · rw [spoken]
    exact marks.spoken
  · rw [Round.Written, told]
    exact marks.written

theorem Marks.moveNext (marks : round.Marks seekers runtime server)
    (taken : round.moveNext (server.hiders seekers) = some next)
    : next.Marks seekers runtime server := by
  obtain ⟨waiting, _⟩ := Round.moveNext_items taken
  obtain ⟨_, spoken, told, _⟩ := Round.moveNext_rest taken
  refine ⟨marks.sound.moveNext taken, ?_, ?_, ?_⟩
  · exact fun item member => marks.items item (waiting.subset member)
  · rw [spoken]
    exact marks.spoken
  · rw [Round.Written, told]
    exact marks.written

theorem Marks.advance {index : Nat} (tidy : Tidy server)
    (marks : round.Marks seekers runtime server)
    (speaks : round.Speaks tagSpeech runtime server index)
    (taken : round.advance tagSpeech runtime server index = some (after, next))
    : next.Marks seekers runtime after := by
  have sound := marks.sound.advance tidy speaks taken
  have written := marks.written.advance taken
  have waiting := @Round.advance_waiting _ _ _ _ (server.hiders seekers) _ _ _ _ _ speaks taken
  have items (item : SocketId × Bool) (member : item ∈ next.waiting (server.hiders seekers)) :=
    marks.items item (waiting member)
  obtain ⟨⟨item, said⟩, found, advance⟩ := Round.advance_cases speaks taken
  cases advance with
  | tellsSelf content => exact ⟨sound, items, marks.spoken, written⟩
  | skips checks gone => exact ⟨sound, items, marks.spoken, written⟩
  | speaks content what checks =>
      refine ⟨sound, items, fun spoken member => ?_, written⟩
      rcases List.mem_append.mp member with before | new
      · exact marks.spoken spoken before
      · obtain rfl := List.mem_singleton.mp new
        have waits := @Round.waiting_perm _ _ (server.hiders seekers) _ _ _ found
        obtain rfl := Option.some.inj what
        exact marks.items item (waits.symm.subset List.mem_cons_self)

end TagRound

-----------------------------------------------------------------------------------------
-- Who is told what
-----------------------------------------------------------------------------------------

/-- What is known of the task, whose loops may have failed. -/
structure TagGame.Known (runtime : Runtime) (game : TagGame) : Prop where
  tidy : Tidy game.server
  unset : game.seekers = none → game.round = none ∧ game.ended = none
  chosen : ∀ seekers, game.seekers = some seekers → game.server.Chosen seekers
  marks
    : ∀ seekers round,
        game.seekers = some seekers
        → game.round = some round
        → round.failed = false
        → round.Marks seekers runtime game.server
  ended
    : ∀ seekers ended,
        game.seekers = some seekers
        → game.ended = some ended
        → ended.round.Complete ∧ ended.round.Marks seekers runtime ended.server

namespace TagGame

variable {runtime : Runtime} {game next : TagGame}

theorem Known.initial (settings : Settings) (shines : List Int32)
    : (initial settings shines).Known runtime := by
  refine ⟨Tidy.initial settings shines, fun _ => ⟨rfl, rfl⟩, ?_, ?_, ?_⟩
  · intro seekers none
    cases none
  · intro seekers round none
    cases none
  · intro seekers ended none
    cases none

/-- Loops were begun with the seekers of a command. -/
theorem Known.begun {round : TagRound} (known : game.Known runtime)
    (was : game.round = some round)
    : ∃ seekers, game.seekers = some seekers := by
  refine Option.ne_none_iff_exists'.mp fun none => ?_
  rw [(known.unset none).1] at was
  cases was

/-- The loops go on, over the same seekers and on the same table. -/
theorem Known.goesOn {seekers : List SocketId} {server : ServerState} {after : TagRound}
    (known : game.Known runtime) (set : game.seekers = some seekers)
    (quiet : Quiet game.server server)
    (marks : after.failed = false → after.Marks seekers runtime server)
    : { game with server, round := some after }.Known runtime where
  tidy := known.tidy.of_quiet quiet
  unset none := by
    rw [set] at none
    cases none
  chosen others again := by
    obtain rfl := Option.some.inj (set.symm.trans again)
    obtain ⟨joined, distinct⟩ := known.chosen seekers set
    refine ⟨fun seeker member => (quiet.phase seeker) ▸ joined seeker member, ?_⟩
    rw [ServerState.ids, List.map_congr_left fun seeker _ => quiet.id seeker]
    exact distinct
  marks others round again current going := by
    obtain rfl := Option.some.inj (set.symm.trans again)
    obtain rfl := Option.some.inj current
    exact marks going
  ended := known.ended

theorem Known.step {event : TagEvent} (known : game.Known runtime)
    (taken : game.step runtime event = some next)
    : next.Known runtime := by
  cases event with
  | server event =>
      obtain ⟨server, stepped, rfl⟩ := Option.map_eq_some_iff.mp taken
      refine ⟨known.tidy.step stepped, fun none => ?_, fun seekers set => ?_,
        fun seekers round set current going => ?_, known.ended⟩
      · obtain ⟨noRound, noEnded⟩ := known.unset none
        exact ⟨by rw [noRound]; rfl, noEnded⟩
      · exact (known.chosen seekers set).step known.tidy stepped
      · obtain ⟨before, was, rfl⟩ := Option.map_eq_some_iff.mp current
        exact (known.marks seekers before set was going).observe known.tidy
          (known.chosen seekers set) stepped
  | tagStart seekerNames =>
      rw [TagGame.step] at taken
      split at taken
      · cases taken
      · next unset =>
          obtain ⟨seekers, accepted, rfl⟩ := Option.map_eq_some_iff.mp taken
          obtain ⟨noRound, noEnded⟩ := known.unset unset
          refine ⟨known.tidy, nofun, fun others set => ?_, fun _ round _ current => ?_,
            fun _ ended _ last => ?_⟩
          · obtain rfl := Option.some.inj set
            exact .of_tagStart known.tidy accepted
          · rw [noRound] at current
            cases current
          · rw [noEnded] at last
            cases last
  | begin =>
      rw [TagGame.step] at taken
      split at taken
      · next seekers set _ _ =>
          obtain rfl := Option.some.inj taken
          exact known.goesOn set (.refl _) fun _ => .begin known.tidy (known.chosen seekers set)
      · cases taken
  | nextSeeker =>
      rw [TagGame.step] at taken
      split at taken
      · cases taken
      · next round was =>
          obtain ⟨after, moved, rfl⟩ := Option.map_eq_some_iff.mp taken
          obtain ⟨seekers, set⟩ := known.begun was
          refine known.goesOn set (.refl _) fun going => ?_
          rw [(Round.nextFixed_rest moved).2.2.2] at going
          exact (known.marks seekers round set was going).nextFixed moved
  | nextHider =>
      rw [TagGame.step] at taken
      split at taken
      · next seekers round set was =>
          obtain ⟨after, moved, rfl⟩ := Option.map_eq_some_iff.mp taken
          refine known.goesOn set (.refl _) fun going => ?_
          have before := ((Round.failed_moveNext_iff moved).mp going).1
          exact (known.marks seekers round set was before).moveNext moved
      · cases taken
  | advance index =>
      rw [TagGame.step] at taken
      split at taken
      · cases taken
      · next round was =>
          obtain ⟨⟨server, after⟩, advanced, rfl⟩ := Option.map_eq_some_iff.mp taken
          obtain ⟨seekers, set⟩ := known.begun was
          refine known.goesOn set (Round.advance_quiet advanced) fun going => ?_
          obtain ⟨before, speaks⟩ := (Round.failed_advance_iff advanced).mp going
          exact (known.marks seekers round set was before).advance known.tidy speaks advanced
  | finish =>
      rw [TagGame.step] at taken
      split at taken
      · cases taken
      · next round was =>
          split_ifs at taken with closed
          obtain rfl := Option.some.inj taken
          refine ⟨known.tidy, fun none => ?_, known.chosen, nofun, fun seekers ended set last => ?_⟩
          · rw [(known.unset none).1] at was
            cases was
          · obtain rfl := Option.some.inj last
            exact ⟨closed.1, known.marks seekers round set was closed.2⟩

end TagGame

namespace TagRound

variable {seekers : List SocketId} {runtime : Runtime} {server : ServerState} {round : TagRound}

/-- Of each client that was there all the time, each other one was told once, and in a frame of
its Id, whether it is a seeker.
-/
theorem Marks.told (marks : round.Marks seekers runtime server) (complete : round.Complete)
    {client other : SocketId} (there : client ∈ round.present)
    (otherThere : other ∈ round.present) (apart : other ≠ client)
    : round.toldOf other (server.session client).id = [server.seeks seekers client]
      ∧ { socket := other
          data :=
            runtime.typedFrame (server.session client).id
              (tagSpeech.packet (server.seeks seekers client))
          cause := .server } ∈ server.sent := by
  obtain ⟨isIt, said, others, _⟩ := marks.sound.complete complete there
  have same : isIt = server.seeks seekers client := by
    have among : isIt ∈ round.spokenOf (server.session client).id := by
      rw [said]
      exact List.mem_singleton_self _
    obtain ⟨spoken, entry, of, rfl⟩ := Round.exists_spoken among
    rw [marks.spoken spoken entry, of]
    rfl
  have told := others other otherThere apart
  rw [same] at told
  exact ⟨told, marks.written.of_toldOf told⟩

/-- No client is told of itself. -/
theorem Marks.own (marks : round.Marks seekers runtime server) (client : SocketId)
    : round.toldOf client (server.session client).id = [] := by
  refine List.map_eq_nil_iff.mpr (List.filter_eq_nil_iff.mpr fun told member itself => ?_)
  obtain ⟨rfl, same⟩ := of_decide_eq_true itself
  exact (marks.sound.apart told member).2 rfl same.symm

end TagRound

/-- The task of an accepted `tag start` that completes with no send failing has informed everybody
only if nobody was there all the time: of each client, the others were told once whether it is a
seeker, and it was told nothing itself.
-/
theorem TagGame.tag_start_informs_iff {runtime : Runtime} {settings : Settings}
    {shines : List Int32} {events : List TagEvent} {game : TagGame} {seekers : List SocketId}
    {ended : EndedTag}
    (run : AnyRun (step runtime) (initial settings shines) events game)
    (chosen : game.seekers = some seekers) (closed : game.ended = some ended)
    : (ended.Informs seekers ↔ ended.round.present = [])
      ∧ ∀ client ∈ ended.round.present,
          ended.round.toldOf client (ended.server.session client).id = []
          ∧ ∀ other ∈ ended.round.present,
              other ≠ client
              → ended.round.toldOf other (ended.server.session client).id
                  = [ended.server.seeks seekers client]
                ∧ { socket := other
                    data :=
                      runtime.typedFrame (ended.server.session client).id
                        (tagSpeech.packet (ended.server.seeks seekers client))
                    cause := .server } ∈ ended.server.sent := by
  have known : game.Known runtime :=
    run.invariant (Known.initial settings shines) fun known _ taken => known.step taken
  obtain ⟨complete, marks⟩ := known.ended seekers ended chosen closed
  refine ⟨⟨fun informs => ?_, fun nobody => ?_⟩, fun client there => ⟨marks.own client, ?_⟩⟩
  · apply List.eq_nil_iff_forall_not_mem.mpr
    intro client there
    have told := informs client there client there
    rw [marks.own client] at told
    cases told
  · intro client there
    rw [nobody] at there
    cases there
  · exact fun other otherThere apart => marks.told complete there otherThere apart

/-- Mario and Luigi play, and Mario is to seek. -/
def marioSeeks : List TagEvent :=
  duet.map .server
    ++ [.tagStart ["Mario".toList], .begin, .nextSeeker, .nextHider, .nextHider, .advance 1,
      .advance 0, .nextHider, .finish]

/-- Luigi is told that Mario is it, and neither of them is told of itself. -/
theorem TagGame.tag_start_informs_iff_mario
    : ∃ game ended,
        AnyRun (step .pooled) (initial {} []) marioSeeks game
        ∧ game.seekers = some [1]
        ∧ game.ended = some ended
        ∧ ended.round.present = [1, 2]
        ∧ (ended.Informs [1] ↔ ended.round.present = [])
        ∧ ended.round.toldOf 1 (ended.server.session 1).id = []
        ∧ ended.round.toldOf 2 (ended.server.session 1).id = [true] := by
  obtain ⟨game, run, chosen, closed⟩ :=
    @exists_run _ _ (step .pooled) (initial {} []) marioSeeks
      (fun game =>
        game.seekers = some [1]
        ∧ (game.ended.any fun ended =>
          decide (ended.round.present = [1, 2] ∧ ended.server.seeks [1] 1 = true)) = true)
      inferInstance (by decide +kernel)
  obtain ⟨ended, last, shows⟩ := (Option.any_eq_true _ _).mp closed
  obtain ⟨present, seeks⟩ := of_decide_eq_true shows
  obtain ⟨informs, told⟩ := tag_start_informs_iff run chosen last
  have there : 1 ∈ ended.round.present := by simp [present]
  have otherThere : 2 ∈ ended.round.present := by simp [present]
  obtain ⟨own, others⟩ := told 1 there
  refine ⟨game, ended, run, chosen, last, present, informs, own, ?_⟩
  rw [← seeks]
  exact (others 2 otherThere (by decide)).1

/-- Mario is not told that it is it. -/
theorem TagGame.seeker_not_told
    : ∃ game ended,
        AnyRun (step .pooled) (initial {} []) marioSeeks game
        ∧ game.seekers = some [1]
        ∧ game.ended = some ended
        ∧ ¬ended.Informs [1] := by
  obtain ⟨game, run, chosen, closed⟩ :=
    @exists_run _ _ (step .pooled) (initial {} []) marioSeeks
      (fun game =>
        game.seekers = some [1]
        ∧ (game.ended.any fun ended =>
          decide (1 ∈ ended.round.present
            ∧ ended.round.toldOf 1 (ended.server.session 1).id = [])) = true)
      inferInstance (by decide +kernel)
  obtain ⟨ended, last, shows⟩ := (Option.any_eq_true _ _).mp closed
  obtain ⟨there, none⟩ := of_decide_eq_true shows
  refine ⟨game, ended, run, chosen, last, fun informs => ?_⟩
  have told := informs 1 there 1 there
  rw [none] at told
  cases told

end SmoOnline
