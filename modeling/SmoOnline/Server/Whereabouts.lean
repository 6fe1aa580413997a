import SmoOnline.Server.GameTables

/-! Where the players are, as the server remembers it: it records a player's packet only in the two
cases that flip somebody, and in one of them the flipped packet.
-/

namespace SmoOnline

open Span Utf8 Runs

variable {runtime : Runtime}

-----------------------------------------------------------------------------------------
-- What the players have sent
-----------------------------------------------------------------------------------------

/-- The last position and rotation, and the last scenario and stage, that each player has sent. -/
structure LastSent where
  transform : Guid → Option (Vector3 × Quaternion) := fun _ => none
  stage : Guid → Option (UInt8 × Text) := fun _ => none

/-- A packet of the player is handled. -/
def LastSent.hear (sent : LastSent) (id : Guid) : Packet → LastSent
  | .player packet =>
      { sent with
        transform := Function.update sent.transform id (some (packet.position, packet.rotation)) }
  | .game packet =>
      { sent with stage := Function.update sent.stage id (some (packet.scenarioNum, packet.stage)) }
  | _ => sent

/-- The server, with what the players have sent. -/
structure Whereabouts where
  server : ServerState
  sent : LastSent := {}

namespace Whereabouts

/-- What the players have sent when an event has happened. -/
def sentAfter (before : Whereabouts) : Event → LastSent
  | .dispatch socket _ =>
      match before.server.dispatched socket with
      | some packet => before.sent.hear (before.server.session socket).id packet
      | none => before.sent
  | _ => before.sent

def step (runtime : Runtime) (before : Whereabouts) (event : Event) : Option Whereabouts :=
  (before.server.step runtime event).map fun server => { server, sent := before.sentAfter event }

def initial (settings : Settings) (shines : List Int32) : Whereabouts where
  server := .initial settings shines

/-- The flag has what the player has sent last, as far as it has sent anything. -/
def Carries (before : Whereabouts) (id : Guid) (flag : FlagState) : Prop :=
  (∀ last ∈ before.sent.transform id, (flag.position, flag.rotation) = last)
  ∧ ∀ last ∈ before.sent.stage id, (flag.scenarioNum, flag.stage) = last

/-- Behind a player packet the server has its position and rotation, and a flag that is dropped is
recorded with what its player has sent last.
-/
structure Remembers (runtime : Runtime) (before : Whereabouts) (event : Event) : Prop where
  player
    : ∀ socket now packet after,
        event = .dispatch socket now
        → before.server.dispatched socket = some (.player packet)
        → before.step runtime event = some after
        → after.server.players.getLastPosition (before.server.session socket).id = packet.position
          ∧ after.server.players.getLastRotation (before.server.session socket).id
            = packet.rotation
  dropped
    : ∀ socket now packet after mode,
        event = .dispatch socket now
        → before.server.dispatched socket = some (.flagHoldState packet)
        → packet.isHeld = false
        → before.step runtime event = some after
        → after.server.gameMode = some mode
        → ∀ flag ∈ mode.flagStates packet.team,
          before.Carries (before.server.session socket).id flag

end Whereabouts

namespace ServerState

variable (state : ServerState) (socket : SocketId) (packet : PlayerPacket)

/-- The position and rotation of the packet are those that the server has. -/
def HasAlready : Prop :=
  state.players.getLastPosition (state.session socket).id = packet.position
  ∧ state.players.getLastRotation (state.session socket).id = packet.rotation

/-- The sender is flipped for the others and that changes nothing; or it is not, the recipients are
the ones to be flipped, and each gets a copy; or the server has the position and rotation already,
and does not record any.
-/
def RecordsSent (runtime : Runtime) : Prop :=
  if state.flipsSender socket then
    match (state.metadata socket).is2d with
    | some is2d =>
        runtime.raise is2d packet.position = packet.position
        ∧ runtime.turn packet.rotation = packet.rotation
    | none => state.HasAlready socket packet
  else
    state.flipsRecipients socket = true ∧ state.copiesAll socket = true
    ∨ state.HasAlready socket packet

end ServerState

/-- Every player packet that is handled is recorded as it was sent. -/
def Whereabouts.Records (runtime : Runtime) (before : Whereabouts) (event : Event) : Prop :=
  ∀ socket now packet,
    event = .dispatch socket now
    → before.server.dispatched socket = some (.player packet)
    → before.server.RecordsSent socket packet runtime

-----------------------------------------------------------------------------------------
-- The tables behind a packet
-----------------------------------------------------------------------------------------

namespace PlayerMaps

variable (maps : PlayerMaps) (user other : Guid)

theorem lastTransform_update (pos : Vector3) (rot : Quaternion)
    : ((maps.updatePlayerTransform user pos rot).getLastPosition other,
        (maps.updatePlayerTransform user pos rot).getLastRotation other)
      = if other = user then (pos, rot)
        else (maps.getLastPosition other, maps.getLastRotation other) := by
  simp only [getLastPosition, getLastRotation, updatePlayerTransform, Function.update_apply]
  split_ifs <;> rfl

theorem lastStage_update (scenarioNum : UInt8) (stage : Text)
    : ((maps.updatePlayerStage user scenarioNum stage).getLastScenarioNum other,
        (maps.updatePlayerStage user scenarioNum stage).getLastStage other)
      = if other = user then (scenarioNum, stage)
        else (maps.getLastScenarioNum other, maps.getLastStage other) := by
  simp only [getLastScenarioNum, getLastStage, updatePlayerStage, Function.update_apply]
  split_ifs <;> rfl

end PlayerMaps

namespace ServerState

variable {state : ServerState} {socket : SocketId}

/-- What a player packet leaves of the last positions and rotations. -/
theorem lastTransform_player {packet : PlayerPacket} {now : Nat}
    (dispatched : state.dispatched socket = some (.player packet)) (id : Guid)
    : ((state.playersAfter runtime (.dispatch socket now)).getLastPosition id,
        (state.playersAfter runtime (.dispatch socket now)).getLastRotation id)
      = match state.recordedPlayer runtime socket packet with
        | some kept =>
            if id = (state.session socket).id then (kept.position, kept.rotation)
            else (state.players.getLastPosition id, state.players.getLastRotation id)
        | none => (state.players.getLastPosition id, state.players.getLastRotation id) := by
  simp only [playersAfter, dispatched]
  cases state.recordedPlayer runtime socket packet with
  | none => rfl
  | some kept => exact PlayerMaps.lastTransform_update _ _ _ _ _

/-- A player packet is recorded as it was sent in just these cases. -/
theorem recordsSent_iff {packet : PlayerPacket} {now : Nat}
    (dispatched : state.dispatched socket = some (.player packet))
    : state.RecordsSent socket packet runtime
      ↔ (state.playersAfter runtime (.dispatch socket now)).getLastPosition
            (state.session socket).id
          = packet.position
        ∧ (state.playersAfter runtime (.dispatch socket now)).getLastRotation
            (state.session socket).id
          = packet.rotation := by
  have last := @lastTransform_player runtime state socket packet now dispatched
    (state.session socket).id
  rw [← Prod.mk.injEq, last, RecordsSent, recordedPlayer, Prod.ext_iff]
  by_cases flips : state.flipsSender socket = true
  · rw [if_pos flips, if_pos flips]
    cases (state.metadata socket).is2d with
    | none => exact Iff.rfl
    | some is2d =>
        simp only [Option.map_some, if_true, flip]
  · rw [if_neg flips, if_neg flips, ← Bool.and_eq_true]
    by_cases copies : (state.flipsRecipients socket && state.copiesAll socket) = true
    · rw [if_pos copies]
      simp only [if_true]
      exact iff_of_true (.inl copies) ⟨trivial, trivial⟩
    · rw [if_neg copies, or_iff_right copies]
      exact Iff.rfl

/-- Only a player packet changes the last positions, and only those of its sender. -/
theorem lastTransform_other {event : Event} {id : Guid}
    (other
      : ∀ socket now packet,
          event = .dispatch socket now
          → state.dispatched socket = some (.player packet)
          → id ≠ (state.session socket).id)
    : ((state.playersAfter runtime event).getLastPosition id,
        (state.playersAfter runtime event).getLastRotation id)
      = (state.players.getLastPosition id, state.players.getLastRotation id) := by
  cases event with
  | dispatch socket now =>
      cases found : state.dispatched socket with
      | none => simp only [playersAfter, found]
      | some packet =>
          cases packet with
          | player packet =>
              rw [lastTransform_player found]
              cases state.recordedPlayer runtime socket packet with
              | none => rfl
              | some kept => exact if_neg (other socket now packet rfl found)
          | game packet =>
              simp only [playersAfter, found]
              rfl
          | _ => simp only [playersAfter, found]
  | _ => rfl

/-- Every game packet is recorded, and nothing else changes the last stages. -/
theorem lastStage_after (event : Event) (id : Guid)
    : ((state.playersAfter runtime event).getLastScenarioNum id,
        (state.playersAfter runtime event).getLastStage id)
      = match event with
        | .dispatch socket _ =>
            match state.dispatched socket with
            | some (.game packet) =>
                if id = (state.session socket).id then (packet.scenarioNum, packet.stage)
                else (state.players.getLastScenarioNum id, state.players.getLastStage id)
            | _ => (state.players.getLastScenarioNum id, state.players.getLastStage id)
        | _ => (state.players.getLastScenarioNum id, state.players.getLastStage id) := by
  cases event with
  | dispatch socket now =>
      cases found : state.dispatched socket with
      | none => simp only [playersAfter, found]
      | some packet =>
          cases packet with
          | player packet =>
              simp only [playersAfter, found]
              cases state.recordedPlayer runtime socket packet <;> rfl
          | game packet =>
              simp only [playersAfter, found]
              exact PlayerMaps.lastStage_update _ _ _ _ _
          | _ => simp only [playersAfter, found]
  | _ => rfl

end ServerState

-----------------------------------------------------------------------------------------
-- What was sent and what is known
-----------------------------------------------------------------------------------------

namespace Whereabouts

variable {before after : Whereabouts} {event : Event}

theorem step_cases (taken : before.step runtime event = some after)
    : before.server.step runtime event = some after.server
      ∧ after.sent = before.sentAfter event := by
  obtain ⟨server, served, rfl⟩ := Option.map_eq_some_iff.mp taken
  exact ⟨served, rfl⟩

/-- The server has what the players have sent last. -/
structure Agrees (before : Whereabouts) : Prop where
  transform
    : ∀ id, ∀ last ∈ before.sent.transform id,
        (before.server.players.getLastPosition id, before.server.players.getLastRotation id) = last
  stage
    : ∀ id, ∀ last ∈ before.sent.stage id,
        (before.server.players.getLastScenarioNum id, before.server.players.getLastStage id) = last

theorem agrees_initial (settings : Settings) (shines : List Int32)
    : (initial settings shines).Agrees where
  transform := by
    intro id last sent
    cases sent
  stage := by
    intro id last sent
    cases sent

/-- What a player has sent last is in the event, or it was sent before and the event is no such
packet of the player.
-/
theorem transform_sentAfter {id : Guid} {last : Vector3 × Quaternion}
    (sent : last ∈ (before.sentAfter event).transform id)
    : (∃ socket now packet,
        event = .dispatch socket now
        ∧ before.server.dispatched socket = some (.player packet)
        ∧ id = (before.server.session socket).id
        ∧ (packet.position, packet.rotation) = last)
      ∨ last ∈ before.sent.transform id
        ∧ ∀ socket now packet,
            event = .dispatch socket now
            → before.server.dispatched socket = some (.player packet)
            → id ≠ (before.server.session socket).id := by
  cases event with
  | dispatch socket now =>
      cases found : before.server.dispatched socket with
      | none =>
          simp only [sentAfter, found] at sent
          refine .inr ⟨sent, ?_⟩
          intro _ _ packet same dispatched
          cases same
          cases found.symm.trans dispatched
      | some packet =>
          cases packet with
          | player packet =>
              simp only [sentAfter, found, LastSent.hear, Function.update_apply] at sent
              split_ifs at sent with same
              · exact .inl ⟨socket, now, packet, rfl, found, same, Option.some.inj sent⟩
              · refine .inr ⟨sent, ?_⟩
                intro _ _ _ again _
                cases again
                exact same
          | _ =>
              simp only [sentAfter, found, LastSent.hear] at sent
              refine .inr ⟨sent, ?_⟩
              intro _ _ packet same dispatched
              cases same
              cases found.symm.trans dispatched
  | _ =>
      refine .inr ⟨sent, ?_⟩
      intro _ _ _ never
      cases never

/-- A step that records the player packet it handles keeps the server in agreement. -/
theorem Agrees.step (agrees : before.Agrees) (records : before.Records runtime event)
    (taken : before.step runtime event = some after)
    : after.Agrees := by
  obtain ⟨served, hears⟩ := step_cases taken
  have players := ServerState.players_step served
  constructor
  · intro id last sent
    rw [hears] at sent
    rw [players]
    rcases transform_sentAfter sent with ⟨socket, now, packet, rfl, dispatched, rfl, rfl⟩
      | ⟨sentBefore, others⟩
    · obtain ⟨position, rotation⟩ :=
        (ServerState.recordsSent_iff dispatched).mp (records socket now packet rfl dispatched)
      exact Prod.ext position rotation
    · exact (ServerState.lastTransform_other others).trans (agrees.transform id last sentBefore)
  · intro id last sent
    rw [hears] at sent
    rw [players, ServerState.lastStage_after]
    cases event with
    | dispatch socket now =>
        cases found : before.server.dispatched socket with
        | none =>
            simp only [sentAfter, found] at sent ⊢
            exact agrees.stage id last sent
        | some packet =>
            cases packet with
            | game packet =>
                simp only [sentAfter, found, LastSent.hear, Function.update_apply] at sent ⊢
                split_ifs at sent ⊢
                · exact Option.some.inj sent
                · exact agrees.stage id last sent
            | _ =>
                simp only [sentAfter, found, LastSent.hear] at sent ⊢
                exact agrees.stage id last sent
    | _ => exact agrees.stage id last sent

/-- A flag that is dropped where the server has what its player has sent. -/
theorem Agrees.carries (agrees : before.Agrees) {socket : SocketId} (packet : FlagHoldStatePacket)
    : before.Carries (before.server.session socket).id (before.server.flagState socket packet) :=
  ⟨agrees.transform _, agrees.stage _⟩

/-- One step: where the server has what the players have sent, it remembers a packet exactly where
it records it.
-/
theorem records_iff_remembers (agrees : before.Agrees)
    (taken : before.step runtime event = some after)
    : before.Records runtime event ↔ before.Remembers runtime event := by
  obtain ⟨served, -⟩ := step_cases taken
  have players := ServerState.players_step served
  constructor
  · intro records
    constructor
    · intro socket now packet other isDispatch dispatched again
      obtain rfl := Option.some.inj (taken.symm.trans again)
      rw [players, isDispatch]
      exact (ServerState.recordsSent_iff dispatched).mp
        (records socket now packet isDispatch dispatched)
    · intro socket now packet other mode isDispatch dispatched dropped again running flag there
      obtain rfl := Option.some.inj (taken.symm.trans again)
      rw [ServerState.gameMode_step served, isDispatch, ServerState.gameModeAfter, dispatched]
        at running
      obtain ⟨was, -, rfl⟩ := Option.map_eq_some_iff.mp running
      change Function.update was.flagStates packet.team _ packet.team = some flag at there
      rw [Function.update_self] at there
      obtain rfl := Option.some.inj there
      exact agrees.carries packet
  · intro remembers socket now packet isDispatch dispatched
    rw [ServerState.recordsSent_iff dispatched, ← isDispatch, ← players]
    exact remembers.player socket now packet after isDispatch dispatched taken

end Whereabouts

open Whereabouts

/-- In every run the server remembers each packet as it was sent, and each dropped flag with what
its player has sent, exactly where it records every player packet as it was sent.
-/
theorem remembers_iff (runtime : Runtime) (settings : Settings) (shines : List Int32)
    {events : List Event} {final : Whereabouts}
    : Run (step runtime) (Records runtime) (initial settings shines) events final
      ↔ Run (step runtime) (Remembers runtime) (initial settings shines) events final :=
  Run.congr Agrees (agrees_initial settings shines)
    (fun agrees records taken => agrees.step records taken)
    fun agrees taken => records_iff_remembers agrees taken

/-- The payload of a player packet of a Mario who stands one above the origin. -/
def oneAbove : Bytes :=
  leBytes 4 0 ++ [0, 0, 128, 63] ++ .replicate (PlayerPacket.size - 8) 0

/-- Mario is seen one above the origin, and drops the red flag. -/
def dropsAbove : List Event :=
  arrival .pooled 1 ⟨7⟩ .firstConnection "Mario".toList []
    ++ [.startGameMode, .receive 1 (frameOf ⟨7⟩ .player oneAbove ++ zeros 52), .dispatch 1 0,
      .receive 1 (frameOf ⟨7⟩ .flagHoldState [0, 1])]

/-- Where nobody is to be flipped, the flag is dropped at the origin. -/
theorem flag_dropped_unseen
    : ∃ before after,
        AnyRun (step .pooled) (initial { flip := { enabled := false } } []) dropsAbove before
        ∧ before.step .pooled (.dispatch 1 1) = some after
        ∧ (before.sent.transform ⟨7⟩).map Prod.fst = some { x := 0, y := 1065353216, z := 0 }
        ∧ ((after.server.gameMode.bind fun mode => mode.flagStates .redTeam).map
            FlagState.position)
          = some .zero
        ∧ ¬before.Remembers .pooled (.dispatch 1 1) := by
  obtain ⟨before, after, run, taken, sent, dropped, handled⟩ :=
    @exists_run_step _ _ (step .pooled) (initial { flip := { enabled := false } } []) dropsAbove
      (.dispatch 1 1)
      (fun before after =>
        (before.sent.transform ⟨7⟩).map Prod.fst = some { x := 0, y := 1065353216, z := 0 }
        ∧ ((after.server.gameMode.bind fun mode => mode.flagStates .redTeam).map
            FlagState.position)
          = some .zero
        ∧ before.server.dispatched 1
          = some (.flagHoldState { isHeld := false, team := .redTeam })
        ∧ (before.server.session 1).id = ⟨7⟩)
      _ (by decide)
  obtain ⟨handled, mario⟩ := handled
  refine ⟨before, after, run, taken, sent, dropped, fun remembers => ?_⟩
  obtain ⟨flag, there, atOrigin⟩ := Option.map_eq_some_iff.mp dropped
  obtain ⟨mode, running, there⟩ := Option.bind_eq_some_iff.mp there
  obtain ⟨last, isLast, position⟩ := Option.map_eq_some_iff.mp sent
  have carries := remembers.dropped 1 1 _ after mode rfl handled rfl taken running flag there
  rw [mario] at carries
  have carried := congrArg Prod.fst (carries.1 last isLast)
  dsimp only at carried
  rw [atOrigin, position] at carried
  cases carried

end SmoOnline
