import SmoOnline.Server.Flags

/-! The game mode's own loop over the flags, while handlers write to them: its position in the
`foreach`, and each access to a dictionary, is a step of its own. Times are what the stopwatch
reads then.
-/

namespace SmoOnline

open Span Utf8 Runs

namespace CaptureTheFlagMode

/-- The first write of `updateFlagData`. -/
def setFlagState (mode : CaptureTheFlagMode) (flagState : FlagState) : CaptureTheFlagMode :=
  { mode with flagStates := Function.update mode.flagStates flagState.team (some flagState) }

/-- The second write, also made by the loop. -/
def updateFlagStateTimestamp (mode : CaptureTheFlagMode) (team : CaptureTheFlagTeam) (now : Nat)
    : CaptureTheFlagMode :=
  { mode with lastFlagUpdateTime := Function.update mode.lastFlagUpdateTime team (some now) }

end CaptureTheFlagMode

/-- `new FlagDroppedPositionPacket(state)` -/
def FlagDroppedPositionPacket.ofState (state : FlagState) : FlagDroppedPositionPacket where
  team := state.team
  position := state.position
  rotation := state.rotation
  scenarioNum := Int32.ofNat state.scenarioNum.toNat
  stage := state.stage

/-- Where the loop is. -/
inductive LoopPosition
  /-- not in the `foreach` over the flags -/
  | outside
  /-- the enumerator is to move on to an entry -/
  | moveNext (index : Nat)
  | current (index : Nat) (team : CaptureTheFlagTeam) (flagState : FlagState)
  /-- the entry's last update is long ago -/
  | sending (index : Nat) (flagState : FlagState)
  /-- an access threw -/
  | faulted
  deriving DecidableEq, Repr

/-- The flag that the loop has in hand. -/
def LoopPosition.flagState : LoopPosition → Option FlagState
  | .current _ _ flagState | .sending _ flagState => some flagState
  | .outside | .moveNext _ | .faulted => none

/-- A running game mode: its dictionaries, its loop, and the handlers that write to it. -/
structure FlagLoop where
  mode : CaptureTheFlagMode
  /-- the keys of `flagStates` in the order in which they were added -/
  keys : List CaptureTheFlagTeam
  /-- the dictionary was changed under the enumerator -/
  changed : Bool := false
  /-- the teams that handlers in `updateFlagData` have still to write the time of -/
  writing : List CaptureTheFlagTeam := []
  position : LoopPosition := .outside
  broadcasts : List FlagDroppedPositionPacket := []

namespace FlagLoop

/-- `FLAG_PACKET_UPDATE_THRESHOLD_MS` -/
def flagPacketUpdateThreshold : Int := 250

/-- The constructor of the game mode. -/
def initial : FlagLoop where
  mode := .new
  keys := [.redTeam, .blueTeam]

/-- What happens next: a packet that came while the server was in some state, the rest of its
`updateFlagData`, or the loop goes on.
-/
inductive Event
  | flagHoldState (state : ServerState) (socket : SocketId) (packet : FlagHoldStatePacket)
  | timestamp (handler : Nat) (now : Nat)
  | enumerate
  | moveNext
  | check (now : Nat)
  | send (now : Nat)

-- Whether an enumerator throws behind a write to a key that was there, as behind a new key.
variable (overwriteInvalidates : Bool) (loop : FlagLoop)

def setFlagState (flagState : FlagState) : FlagLoop :=
  let there := (loop.mode.flagStates flagState.team).isSome
  { loop with
    mode := loop.mode.setFlagState flagState
    keys := if there then loop.keys else loop.keys ++ [flagState.team]
    changed := loop.changed || !there || overwriteInvalidates
    writing := loop.writing ++ [flagState.team] }

def timestamp (handler now : Nat) : Option FlagLoop :=
  (loop.writing[handler]?).map fun team =>
    { loop with
      mode := loop.mode.updateFlagStateTimestamp team now
      writing := loop.writing.eraseIdx handler }

/-- `MoveNext` and `Current` of the enumerator. -/
def moveNext : Option FlagLoop :=
  match loop.position with
  | .moveNext index =>
      if loop.changed then some { loop with position := .faulted }
      else
        match loop.keys[index]? with
        | some team =>
            (loop.mode.flagStates team).map fun flagState =>
              { loop with position := .current index team flagState }
        | none => some { loop with position := .outside }
  | _ => none

/-- The comparison in `processFlagStates`. -/
def check (now : Nat) : Option FlagLoop :=
  match loop.position with
  | .current index team flagState =>
      match loop.mode.lastFlagUpdateTime team with
      | some last =>
          some
            { loop with
              position :=
                if flagPacketUpdateThreshold < (now : Int) - last then .sending index flagState
                else .moveNext (index + 1) }
      | none => some { loop with position := .faulted }
  | _ => none

/-- `sendFlagPacket` -/
def send (now : Nat) : Option FlagLoop :=
  match loop.position with
  | .sending index flagState =>
      some
        { loop with
          mode := loop.mode.updateFlagStateTimestamp flagState.team now
          position := .moveNext (index + 1)
          broadcasts :=
            if flagState.holder.isSome then loop.broadcasts
            else loop.broadcasts ++ [.ofState flagState] }
  | _ => none

def step : Event → Option FlagLoop
  | .flagHoldState state socket packet =>
      some (loop.setFlagState overwriteInvalidates (state.flagState socket packet))
  | .timestamp handler now => loop.timestamp handler now
  | .enumerate =>
      if loop.position = .outside then
        some { loop with position := .moveNext 0, changed := false }
      else none
  | .moveNext => loop.moveNext
  | .check now => loop.check now
  | .send now => loop.send now

-----------------------------------------------------------------------------------------
-- Keys
-----------------------------------------------------------------------------------------

/-- One of the two teams of the game. -/
def IsTeam (team : CaptureTheFlagTeam) : Prop := team = .redTeam ∨ team = .blueTeam

/-- The dictionaries have the two teams as keys, with the flag of each, and only flags of theirs
were sent out.
-/
structure Keyed (loop : FlagLoop) : Prop where
  flags : ∀ team, (loop.mode.flagStates team).isSome = true ↔ IsTeam team
  times : ∀ team, (loop.mode.lastFlagUpdateTime team).isSome = true ↔ IsTeam team
  own : ∀ team flag, loop.mode.flagStates team = some flag → flag.team = team
  sent : ∀ packet ∈ loop.broadcasts, IsTeam packet.team

/-- A packet names a team of the game. -/
def NamesTeam (_ : FlagLoop) : Event → Prop
  | .flagHoldState _ _ packet => IsTeam packet.team
  | _ => True

/-- What handlers and the loop have in hand is of a team of the game. -/
structure InHand (loop : FlagLoop) : Prop where
  writing : ∀ team ∈ loop.writing, IsTeam team
  position : ∀ flagState, loop.position.flagState = some flagState → IsTeam flagState.team

variable {overwriteInvalidates : Bool} {loop next : FlagLoop} {event : Event}

/-- One more key where there was one already leaves the keys. -/
theorem isSome_update {Value : Type} {dictionary : CaptureTheFlagTeam → Option Value}
    {key : CaptureTheFlagTeam} {value : Value}
    (keyed : ∀ team, (dictionary team).isSome = true ↔ IsTeam team) (isTeam : IsTeam key)
    (team : CaptureTheFlagTeam)
    : (Function.update dictionary key (some value) team).isSome = true ↔ IsTeam team := by
  rw [Function.update_apply]
  split_ifs with same
  · exact iff_of_true rfl (same ▸ isTeam)
  · exact keyed team

theorem keyed_setFlagState {flagState : FlagState} (keyed : loop.Keyed)
    (isTeam : IsTeam flagState.team)
    : (loop.setFlagState overwriteInvalidates flagState).Keyed where
  flags := isSome_update keyed.flags isTeam
  times := keyed.times
  own team flag there := by
    simp only [setFlagState, CaptureTheFlagMode.setFlagState, Function.update_apply] at there
    split_ifs at there with same
    · obtain rfl := Option.some.inj there
      exact same.symm
    · exact keyed.own team flag there
  sent := keyed.sent

/-- What the loop does in a step: it goes on, with the flag it had in hand or one of the
dictionary, or it sends the one it has.
-/
inductive Advance (loop : FlagLoop) : FlagLoop → Prop
  | moves (position : LoopPosition) (changed : Bool)
    (inHand
      : ∀ flagState, position.flagState = some flagState →
          loop.position.flagState = some flagState
          ∨ ∃ team, loop.mode.flagStates team = some flagState)
    : Advance loop { loop with position, changed }
  | sends (index now : Nat) (flagState : FlagState)
    (inHand : loop.position.flagState = some flagState)
    : Advance loop
        { loop with
          mode := loop.mode.updateFlagStateTimestamp flagState.team now
          position := .moveNext (index + 1)
          broadcasts :=
            if flagState.holder.isSome then loop.broadcasts
            else loop.broadcasts ++ [.ofState flagState] }

theorem moveNext_advance (taken : loop.moveNext = some next) : loop.Advance next := by
  unfold moveNext at taken
  split at taken
  · split_ifs at taken
    · cases taken
      exact .moves .faulted loop.changed fun flagState held => by cases held
    · split at taken
      · next team _ =>
          obtain ⟨flagState, there, rfl⟩ := Option.map_eq_some_iff.mp taken
          refine .moves _ loop.changed ?_
          intro held inHand
          obtain rfl := Option.some.inj inHand
          exact .inr ⟨team, there⟩
      · cases taken
        exact .moves .outside loop.changed fun flagState held => by cases held
  · cases taken

theorem check_advance {now : Nat} (taken : loop.check now = some next) : loop.Advance next := by
  unfold check at taken
  split at taken
  · next index team flagState current =>
      split at taken
      · cases taken
        refine .moves _ loop.changed ?_
        intro held inHand
        split_ifs at inHand
        · obtain rfl := Option.some.inj inHand
          exact .inl (by rw [current]; rfl)
        · cases inHand
      · cases taken
        exact .moves .faulted loop.changed fun flagState held => by cases held
  · cases taken

theorem send_advance {now : Nat} (taken : loop.send now = some next) : loop.Advance next := by
  unfold send at taken
  split at taken
  · next index flagState sending =>
      cases taken
      exact .sends index now flagState (by rw [sending]; rfl)
  · cases taken

/-- The flag that the loop has in hand, or reads, is of a team of the game. -/
theorem Advance.inHand (advance : loop.Advance next) (keyed : loop.Keyed) (inHand : loop.InHand)
    : next.InHand := by
  cases advance with
  | moves position changed held =>
      refine ⟨inHand.writing, ?_⟩
      intro flagState there
      rcases held flagState there with before | ⟨team, entry⟩
      · exact inHand.position flagState before
      · rw [keyed.own team flagState entry]
        exact (keyed.flags team).mp (by rw [entry]; rfl)
  | sends index now flagState held =>
      exact ⟨inHand.writing, fun flagState there => by cases there⟩

theorem Advance.keyed (advance : loop.Advance next) (keyed : loop.Keyed) (inHand : loop.InHand)
    : next.Keyed := by
  obtain ⟨flags, times, own, sent⟩ := keyed
  cases advance with
  | moves position changed held => exact ⟨flags, times, own, sent⟩
  | sends index now flagState held =>
      have isTeam := inHand.position flagState held
      refine ⟨flags, isSome_update times isTeam, own, ?_⟩
      intro packet member
      split_ifs at member
      · exact sent packet member
      · rcases List.mem_append.mp member with before | last
        · exact sent packet before
        · obtain rfl := List.mem_singleton.mp last
          exact isTeam

/-- A step of the loop, or else a write of a handler. -/
theorem step_advance (taken : loop.step overwriteInvalidates event = some next)
    : loop.Advance next
      ∨ (∃ handler now, event = .timestamp handler now)
      ∨ ∃ state socket packet, event = .flagHoldState state socket packet := by
  cases event with
  | flagHoldState state socket packet => exact .inr (.inr ⟨state, socket, packet, rfl⟩)
  | timestamp handler now => exact .inr (.inl ⟨handler, now, rfl⟩)
  | enumerate =>
      simp only [step] at taken
      split_ifs at taken
      cases taken
      exact .inl (.moves (.moveNext 0) false fun flagState held => by cases held)
  | moveNext => exact .inl (moveNext_advance taken)
  | check now => exact .inl (check_advance taken)
  | send now => exact .inl (send_advance taken)

/-- One step, with a packet that names a team, keeps the keys and what is in hand. -/
theorem keyed_step (keyed : loop.Keyed) (inHand : loop.InHand) (names : loop.NamesTeam event)
    (taken : loop.step overwriteInvalidates event = some next)
    : next.Keyed ∧ next.InHand := by
  rcases step_advance taken with advance | ⟨handler, now, rfl⟩ | ⟨state, socket, packet, rfl⟩
  · exact ⟨advance.keyed keyed inHand, advance.inHand keyed inHand⟩
  · obtain ⟨team, there, rfl⟩ := Option.map_eq_some_iff.mp taken
    have isTeam := inHand.writing team (List.mem_of_getElem? there)
    refine ⟨⟨keyed.flags, isSome_update keyed.times isTeam, keyed.own, keyed.sent⟩, ?_,
      inHand.position⟩
    intro other member
    exact inHand.writing other (List.mem_of_mem_eraseIdx member)
  · cases taken
    refine ⟨keyed_setFlagState keyed names, ?_, inHand.position⟩
    intro team member
    rcases List.mem_append.mp member with before | last
    · exact inHand.writing team before
    · obtain rfl := List.mem_singleton.mp last
      exact names

/-- A packet's team is a key from then on. -/
theorem namesTeam_of_keyed (taken : loop.step overwriteInvalidates event = some next)
    (keyed : next.Keyed)
    : loop.NamesTeam event := by
  cases event with
  | flagHoldState state socket packet =>
      cases taken
      apply (keyed.flags packet.team).mp
      exact Option.isSome_iff_exists.mpr ⟨_, Function.update_self _ _ _⟩
  | _ => trivial

theorem keyed_initial : initial.Keyed where
  flags team := by
    simp only [initial, CaptureTheFlagMode.new, Function.update_apply, IsTeam]
    split_ifs <;> simp_all
  times team := by
    simp only [initial, CaptureTheFlagMode.new, Function.update_apply, IsTeam]
    split_ifs <;> simp_all
  own team flag there := by
    simp only [initial, CaptureTheFlagMode.new, Function.update_apply] at there
    split_ifs at there with blue red
    · cases there
      exact blue.symm
    · cases there
      exact red.symm
  sent packet member := by cases member

theorem inHand_initial : initial.InHand where
  writing team member := by cases member
  position flagState held := by cases held

/-- In every run of packets and of the loop, in any order, the dictionaries have the keys they
should have after each step exactly where each packet names a team of the game.
-/
theorem keyed_iff (overwriteInvalidates : Bool) {events : List Event} {loop : FlagLoop}
    : Run (step overwriteInvalidates) NamesTeam initial events loop
      ↔ Run (step overwriteInvalidates) (Into (step overwriteInvalidates) Keyed) initial events
          loop :=
  Run.into_iff_using inHand_initial keyed_initial
    (fun inHand keyed names taken => (keyed_step keyed inHand names taken).2)
    fun inHand keyed taken =>
      ⟨fun names => (keyed_step keyed inHand names taken).1, namesTeam_of_keyed taken⟩

/-- A hold that no other write comes between is what the server makes of the game mode. -/
theorem hold_refines {state : ServerState} {socket : SocketId} {packet : FlagHoldStatePacket}
    (now : Nat) (running : state.gameMode = some loop.mode)
    (dispatched : state.dispatched socket = some (.flagHoldState packet))
    (nobody : loop.writing = [])
    : ∃ next,
        execute (step overwriteInvalidates) loop
            [.flagHoldState state socket packet, .timestamp 0 now]
          = some next
        ∧ state.gameModeAfter (.dispatch socket now) = some next.mode := by
  obtain ⟨mode, keys, changed, writing, position, broadcasts⟩ := loop
  obtain rfl : writing = [] := nobody
  refine ⟨_, rfl, ?_⟩
  rw [ServerState.gameModeAfter, dispatched, running]
  rfl

/-- A player says that a flag of team 7 is not held, and the loop comes by a second later. -/
def seventhTeam : List Event :=
  [.flagHoldState (.initial {} []) 1 { isHeld := false, team := ⟨7⟩ }, .timestamp 0 0, .enumerate,
    .moveNext, .check 1000, .send 1000, .moveNext, .check 1000, .send 1000,
    .moveNext, .check 1000, .send 1000]

/-- There is a third flag from then on, and the loop sends it out. -/
theorem third_flag
    : ∃ loop,
        AnyRun (step false) initial seventhTeam loop
        ∧ (loop.mode.flagStates ⟨7⟩).isSome = true
        ∧ (loop.mode.lastFlagUpdateTime ⟨7⟩).isSome = true
        ∧ (∃ packet ∈ loop.broadcasts, packet.team = ⟨7⟩)
        ∧ ¬loop.Keyed := by
  obtain ⟨loop, run, flag, time, sent⟩ := @exists_run _ _ (step false) initial seventhTeam
    (fun loop =>
      (loop.mode.flagStates ⟨7⟩).isSome = true
      ∧ (loop.mode.lastFlagUpdateTime ⟨7⟩).isSome = true
      ∧ ∃ packet ∈ loop.broadcasts, packet.team = ⟨7⟩)
    _ (by decide)
  refine ⟨loop, run, flag, time, sent, ?_⟩
  intro keyed
  rcases (keyed.flags ⟨7⟩).mp flag with same | same <;> cases same

end FlagLoop

end SmoOnline
