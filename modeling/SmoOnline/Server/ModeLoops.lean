import Mathlib.Logic.Function.Basic
import SmoOnline.Library.Runs
import SmoOnline.Shared.Header

/-! The game mode manager and the modes it has started. The thread of a mode ends when `run` first
suspends, and the loop goes on elsewhere; a mode that is stopped looks at its flag only at the
head of the loop.
-/

namespace SmoOnline

open Runs

-----------------------------------------------------------------------------------------
-- The loop of a mode
-----------------------------------------------------------------------------------------

/-- What a capture-the-flag mode broadcasts. -/
inductive ModePacket
  | reset
  | playerTeamAssignment
  | flagDroppedPosition
  | gameTimer
  deriving DecidableEq, Repr

/-- What `run` does next. -/
inductive RunPosition
  /-- the thread is still to call `run` -/
  | new
  | sendResetGamePacket
  /-- `startup` in `sendStartupPackets`, else in `processTeamAssignments` -/
  | sendOutPlayerTeamAssignments (startup : Bool)
  /-- bodies of the former that are still to run -/
  | assigning (startup : Bool) (bodies : Nat)
  /-- `while (!shouldStop())` -/
  | shouldStop
  /-- the flags that `processFlagStates` is still to look at -/
  | processFlagStates (yet : List CaptureTheFlagTeam)
  | processTeamAssignments
  | processGameTimer
  /-- behind `processIteration` -/
  | sleep
  | ended
  deriving DecidableEq, Repr

/-- A `CaptureTheFlagMode` that was started, with the times of its last updates. -/
structure ModeLoop where
  position : RunPosition := .new
  /-- `run` has not suspended yet, so the thread goes on -/
  onThread : Bool := true
  shouldStop : Bool := false
  isHeld : CaptureTheFlagTeam → Bool := fun _ => false
  lastFlagUpdateTime : CaptureTheFlagTeam → Nat := fun _ => 0
  lastPlayerTeamAssignmentUpdateTime : Nat := 0
  lastGameTimerUpdateTime : Nat := 0

namespace ModeLoop

def flagPacketUpdateThresholdMs : Nat := 250

def playerTeamAssignmentUpdateThresholdMs : Nat := 2000

/-- The keys of `flagStates`. -/
def teams : List CaptureTheFlagTeam := [.redTeam, .blueTeam]

/-- `updateFlagData` -/
def updateFlagData (loop : ModeLoop) (team : CaptureTheFlagTeam) (isHeld : Bool) (now : Nat)
    : ModeLoop :=
  { loop with
    isHeld := Function.update loop.isHeld team isHeld
    lastFlagUpdateTime := Function.update loop.lastFlagUpdateTime team now }

/-- `processFlagStates` for one flag, with `sendFlagPacket`. -/
def processFlagState (loop : ModeLoop) (team : CaptureTheFlagTeam) (now clients : Nat)
    : ModeLoop × List ModePacket :=
  if flagPacketUpdateThresholdMs < now - loop.lastFlagUpdateTime team then
    ({ loop with lastFlagUpdateTime := Function.update loop.lastFlagUpdateTime team now },
      if loop.isHeld team then [] else .replicate clients .flagDroppedPosition)
  else (loop, [])

/-- The next stretch of `run`, with what it broadcasts, at a time of the stopwatch and with some
number of connected clients.
-/
def goOn (loop : ModeLoop) (now clients : Nat) : Option (ModeLoop × List ModePacket) :=
  match loop.position with
  | .new => some ({ loop with position := .sendResetGamePacket }, [])
  | .sendResetGamePacket =>
      some ({ loop with position := .sendOutPlayerTeamAssignments true },
        .replicate clients .reset)
  | .sendOutPlayerTeamAssignments startup =>
      some ({ loop with position := .assigning startup clients }, [])
  | .assigning startup (bodies + 1) =>
      some ({ loop with position := .assigning startup bodies },
        .replicate clients .playerTeamAssignment)
  | .assigning true 0 => some ({ loop with position := .shouldStop }, [])
  | .assigning false 0 => some ({ loop with position := .processGameTimer }, [])
  | .shouldStop =>
      some ({ loop with
        position := if loop.shouldStop then .ended else .processFlagStates teams }, [])
  | .processFlagStates [] => some ({ loop with position := .processTeamAssignments }, [])
  | .processFlagStates (team :: yet) =>
      let processed := loop.processFlagState team now clients
      some ({ processed.1 with position := .processFlagStates yet }, processed.2)
  | .processTeamAssignments =>
      some (if playerTeamAssignmentUpdateThresholdMs
            < now - loop.lastPlayerTeamAssignmentUpdateTime then
          { loop with
            position := .sendOutPlayerTeamAssignments false
            lastPlayerTeamAssignmentUpdateTime := now }
        else { loop with position := .processGameTimer },
        [])
  | .processGameTimer =>
      some (if 1000 < now - loop.lastGameTimerUpdateTime then
          ({ loop with position := .sleep, lastGameTimerUpdateTime := now },
            .replicate clients .gameTimer)
        else ({ loop with position := .sleep }, []))
  | .sleep => some ({ loop with position := .shouldStop }, [])
  | .ended => none

/-- The stretch ends at an `await` of something that may be pending. -/
def awaits (loop : ModeLoop) : Bool :=
  match loop.position with
  | .sendResetGamePacket | .sendOutPlayerTeamAssignments _ | .assigning _ (_ + 1)
  | .processFlagStates (_ :: _) | .processGameTimer => true
  | _ => false

/-- The thread that was started for the mode has ended. -/
def threadEnded (loop : ModeLoop) : Bool := !loop.onThread || loop.position == .ended

end ModeLoop

-----------------------------------------------------------------------------------------
-- The manager
-----------------------------------------------------------------------------------------

/-- What became of a mode, by its number: it sent a packet, or a `stopGameMode` that stopped it has
returned.
-/
inductive ModeNote
  | sent (mode : Nat) (packet : ModePacket)
  | stopped (mode : Nat)
  deriving DecidableEq, Repr

/-- The call of `startGameMode` or `stopGameMode` that is going on. -/
inductive ManagerCall
  | none
  /-- the mode was told to stop, and its thread is waited for; then a new mode is to start -/
  | joining (starts : Bool)
  /-- `stopGameMode` has returned to `startGameMode` -/
  | starting
  deriving DecidableEq, Repr

structure GameModeManager where
  /-- all modes that were started, in that order -/
  modes : List ModeLoop := []
  /-- `m_gameMode`, by its number -/
  gameMode : Option Nat := none
  /-- `m_thread`, by the number of its mode -/
  thread : Option Nat := none
  call : ManagerCall := .none
  notes : List ModeNote := []

inductive ManagerEvent
  | startGameMode
  | stopGameMode
  /-- `Join` is over, and `stopGameMode` returns -/
  | join
  /-- the rest of `startGameMode` -/
  | start
  | goOn (mode now clients : Nat) (suspends : Bool)
  /-- a handler calls `updateFlagData` of the current mode -/
  | updateFlagData (team : CaptureTheFlagTeam) (isHeld : Bool) (now : Nat)

namespace GameModeManager

variable (manager : GameModeManager)

/-- The begin of a call, in which the current mode is told to stop. -/
def beginCall (starts : Bool) : Option GameModeManager :=
  match manager.call with
  | .none =>
      some { manager with
        call := .joining starts
        modes :=
          match manager.gameMode with
          | none => manager.modes
          | some mode => manager.modes.modify mode fun loop => { loop with shouldStop := true } }
  | _ => none

def join : Option GameModeManager :=
  match manager.call with
  | .joining starts =>
      let ended :=
        match manager.thread with
        | none => true
        | some mode => (manager.modes[mode]?).all ModeLoop.threadEnded
      if ended then
        some { manager with
          thread := none
          gameMode := none
          call := if starts then .starting else .none
          notes := manager.notes ++ manager.gameMode.toList.map .stopped }
      else none
  | _ => none

def start : Option GameModeManager :=
  match manager.call with
  | .starting =>
      some { manager with
        modes := manager.modes ++ [{}]
        gameMode := some manager.modes.length
        thread := some manager.modes.length
        call := .none }
  | _ => none

/-- A mode goes on. The new thread calls `run` of whatever `m_gameMode` is by then. -/
def goOn (mode now clients : Nat) (suspends : Bool) : Option GameModeManager :=
  match manager.modes[mode]? with
  | none => none
  | some loop =>
      if loop.position = .new ∧ manager.gameMode ≠ some mode then none
      else if suspends && !loop.awaits then none
      else
        (loop.goOn now clients).map fun result =>
          { manager with
            modes :=
              manager.modes.set mode
                { result.1 with onThread := result.1.onThread && !suspends }
            notes := manager.notes ++ result.2.map (.sent mode) }

def updateFlagData (team : CaptureTheFlagTeam) (isHeld : Bool) (now : Nat)
    : Option GameModeManager :=
  manager.gameMode.map fun mode =>
    { manager with
      modes := manager.modes.modify mode fun loop => loop.updateFlagData team isHeld now }

def step (manager : GameModeManager) : ManagerEvent → Option GameModeManager
  | .startGameMode => manager.beginCall true
  | .stopGameMode => manager.beginCall false
  | .join => manager.join
  | .start => manager.start
  | .goOn mode now clients suspends => manager.goOn mode now clients suspends
  | .updateFlagData team isHeld now => manager.updateFlagData team isHeld now

end GameModeManager

-----------------------------------------------------------------------------------------
-- What is not to be
-----------------------------------------------------------------------------------------

/-- A mode sends behind the return of the call that stopped it, or behind a packet of a mode that
was started later.
-/
def ModeNote.Stale : ModeNote → ModeNote → Prop
  | .stopped mode, .sent sender _ => sender = mode
  | .sent mode _, .sent sender _ => sender < mode
  | _, .stopped _ => False

/-- No mode has sent a stale packet, and none will, however the modes go on. -/
def GameModeManager.OneAtATime (manager : GameModeManager) : Prop :=
  ∀ events later,
    Run GameModeManager.step
        (fun _ event => ∃ mode now clients suspends, event = .goOn mode now clients suspends)
        manager events later
    → later.notes.Pairwise fun earlier note => ¬earlier.Stale note

/-- A stretch of a stopped mode from here on sends nothing: the bodies of the first assignments have
all run, or it has finished an iteration.
-/
def RunPosition.quiet : RunPosition → Bool
  | .assigning true 0 | .shouldStop | .sleep | .ended => true
  | _ => false

/-- `stopGameMode` returns when the mode it has stopped is at a quiet place. -/
def GameModeManager.ReturnsQuiet (manager : GameModeManager) : ManagerEvent → Prop
  | .join =>
      ∀ mode loop,
        manager.gameMode = some mode
        → manager.modes[mode]? = some loop
        → loop.position.quiet = true
  | _ => True

-----------------------------------------------------------------------------------------
-- What loops still send
-----------------------------------------------------------------------------------------

namespace ModeLoop

variable {loop : ModeLoop} {now clients : Nat} {result : ModeLoop × List ModePacket}

/-- What a stretch leaves of a mode. -/
theorem goOn_rest (taken : loop.goOn now clients = some result)
    : result.1.shouldStop = loop.shouldStop
      ∧ result.1.onThread = loop.onThread
      ∧ result.1.position ≠ .new := by
  have flag (team : CaptureTheFlagTeam)
      : (loop.processFlagState team now clients).1.shouldStop = loop.shouldStop
        ∧ (loop.processFlagState team now clients).1.onThread = loop.onThread := by
    unfold processFlagState
    split_ifs <;> exact ⟨rfl, rfl⟩
  cases position : loop.position with
  | assigning startup bodies =>
      cases bodies <;> cases startup <;>
        (simp only [goOn, position] at taken; cases taken; simp)
  | processFlagStates yet =>
      cases yet with
      | nil =>
          simp only [goOn, position] at taken
          cases taken
          simp
      | cons team yet =>
          simp only [goOn, position] at taken
          cases taken
          exact ⟨(flag team).1, (flag team).2, by simp⟩
  | processTeamAssignments | processGameTimer | shouldStop =>
      simp only [goOn, position] at taken
      cases taken
      split_ifs <;> simp
  | _ =>
      simp only [goOn, position] at taken
      cases taken
      try simp

/-- A mode that was told to stop sends nothing from a quiet place on. -/
theorem goOn_quiet (taken : loop.goOn now clients = some result)
    (quiet : loop.position.quiet = true) (stopping : loop.shouldStop = true)
    : result.2 = [] ∧ result.1.position.quiet = true := by
  cases position : loop.position with
  | assigning startup bodies =>
      rw [position] at quiet
      cases bodies with
      | succ bodies => cases startup <;> cases quiet
      | zero =>
          cases startup with
          | false => cases quiet
          | true =>
              simp only [goOn, position] at taken
              cases taken
              exact ⟨rfl, rfl⟩
  | shouldStop =>
      simp only [goOn, position, stopping, if_true] at taken
      cases taken
      exact ⟨rfl, rfl⟩
  | sleep =>
      simp only [goOn, position] at taken
      cases taken
      exact ⟨rfl, rfl⟩
  | ended =>
      simp only [goOn, position] at taken
      cases taken
  | _ =>
      rw [position] at quiet
      cases quiet

/-- From where a mode is, some way of going on leads to a packet. -/
inductive CanSend : ModeLoop → Prop
  | sends {loop : ModeLoop} {now clients : Nat} {result : ModeLoop × List ModePacket}
    (taken : loop.goOn now clients = some result) (sent : result.2 ≠ [])
    : CanSend loop
  | goesOn {loop : ModeLoop} {now clients : Nat} {result : ModeLoop × List ModePacket}
    (taken : loop.goOn now clients = some result) (later : CanSend result.1)
    : CanSend loop

theorem canSend_timer (position : loop.position = .processGameTimer) : loop.CanSend := by
  refine @CanSend.sends loop (loop.lastGameTimerUpdateTime + 1001) 1 _
    (by rw [goOn, position]) ?_
  rw [if_pos (by omega)]
  simp

theorem canSend_teams (position : loop.position = .processTeamAssignments) : loop.CanSend := by
  refine @CanSend.goesOn loop loop.lastPlayerTeamAssignmentUpdateTime 1 _
    (by rw [goOn, position]) ?_
  rw [if_neg (by simp)]
  exact canSend_timer rfl

/-- Flags whose updates are not due are passed over, by induction on them. -/
theorem canSend_flags {yet : List CaptureTheFlagTeam} {loop : ModeLoop}
    (position : loop.position = .processFlagStates yet)
    : loop.CanSend := by
  induction yet generalizing loop with
  | nil => exact @CanSend.goesOn loop 0 1 _ (by rw [goOn, position]) (canSend_teams rfl)
  | cons team yet ih =>
      exact @CanSend.goesOn loop (loop.lastFlagUpdateTime team) 1 _ (by rw [goOn, position])
        (ih rfl)

theorem canSend_assigning {startup : Bool} {bodies : Nat}
    (position : loop.position = .assigning startup (bodies + 1))
    : loop.CanSend :=
  @CanSend.sends loop 0 1 _ (by rw [goOn, position]) (by simp)

/-- From any other than a quiet place. -/
theorem canSend_of_not_quiet (restless : loop.position.quiet = false) : loop.CanSend := by
  cases position : loop.position with
  | new =>
      refine @CanSend.goesOn loop 0 1 _ (by rw [goOn, position]) ?_
      exact @CanSend.sends _ 0 1 _ rfl (by simp)
  | sendResetGamePacket => exact @CanSend.sends loop 0 1 _ (by rw [goOn, position]) (by simp)
  | sendOutPlayerTeamAssignments startup =>
      exact @CanSend.goesOn loop 0 1 _ (by rw [goOn, position]) (canSend_assigning rfl)
  | assigning startup bodies =>
      cases bodies with
      | succ bodies => exact canSend_assigning position
      | zero =>
          cases startup with
          | true =>
              rw [position] at restless
              cases restless
          | false =>
              exact @CanSend.goesOn loop 0 1 _ (by rw [goOn, position]) (canSend_timer rfl)
  | processFlagStates yet => exact canSend_flags position
  | processTeamAssignments => exact canSend_teams position
  | processGameTimer => exact canSend_timer position
  | shouldStop | sleep | ended =>
      rw [position] at restless
      cases restless

end ModeLoop

-----------------------------------------------------------------------------------------
-- What is known of a manager
-----------------------------------------------------------------------------------------

/-- A mode is where it was, and told to stop if it was. -/
structure ModeLoop.Kept (before after : ModeLoop) : Prop where
  position : after.position = before.position
  onThread : after.onThread = before.onThread
  shouldStop : before.shouldStop = true → after.shouldStop = true

/-- The mode of a note. -/
def ModeNote.mode : ModeNote → Nat
  | .sent mode _ | .stopped mode => mode

namespace GameModeManager

/-- What calls and modes keep: the current mode is the last one and has a thread, all others were
stopped, and a mode whose thread is still to call `run` is the current one.
-/
structure Wired (manager : GameModeManager) : Prop where
  noted : ∀ note ∈ manager.notes, note.mode < manager.modes.length
  last : ∀ mode, manager.gameMode = some mode → mode + 1 = manager.modes.length
  others
    : ∀ mode < manager.modes.length,
        manager.gameMode = some mode ∨ .stopped mode ∈ manager.notes
  fresh
    : ∀ mode loop,
        manager.modes[mode]? = some loop
        → loop.position = .new
        → loop.onThread = true ∧ manager.gameMode = some mode
  thread : manager.thread = manager.gameMode
  stopping
    : ∀ starts mode loop,
        manager.call = .joining starts
        → manager.gameMode = some mode
        → manager.modes[mode]? = some loop
        → loop.shouldStop = true
  starting : manager.call = .starting → manager.gameMode = none

/-- Modes that were stopped are at quiet places, and nothing stale was sent. -/
structure Silent (manager : GameModeManager) : Prop where
  clean : manager.notes.Pairwise fun earlier note => ¬earlier.Stale note
  quiet
    : ∀ mode loop,
        .stopped mode ∈ manager.notes
        → manager.modes[mode]? = some loop
        → loop.shouldStop = true ∧ loop.position.quiet = true

variable {manager next : GameModeManager}

/-- The modes of the second are those of the first, each kept. -/
structure Modified (before after : List ModeLoop) : Prop where
  length : after.length = before.length
  kept
    : ∀ (mode : Nat) (loop : ModeLoop),
        after[mode]? = some loop → ∃ old, before[mode]? = some old ∧ ModeLoop.Kept old loop

theorem modified_modify {change : ModeLoop → ModeLoop}
    (kept : ∀ loop : ModeLoop, loop.Kept (change loop))
    (modes : List ModeLoop) (mode : Nat)
    : Modified modes (modes.modify mode change) where
  length := List.length_modify ..
  kept other loop found := by
    rw [List.getElem?_modify] at found
    obtain ⟨old, there, rfl⟩ := Option.map_eq_some_iff.mp found
    refine ⟨old, there, ?_⟩
    split_ifs
    · exact kept old
    · exact ⟨rfl, rfl, id⟩

/-- What does not concern the notes or the current mode leaves all as it is. -/
theorem Wired.of_modified {modes : List ModeLoop} (wired : manager.Wired)
    (modified : Modified manager.modes modes)
    : { manager with modes }.Wired where
  noted note member := by
    rw [modified.length]
    exact wired.noted note member
  last mode current := by
    rw [modified.length]
    exact wired.last mode current
  others mode there := by
    rw [modified.length] at there
    exact wired.others mode there
  fresh mode loop found position := by
    obtain ⟨old, there, kept⟩ := modified.kept mode loop found
    rw [kept.onThread]
    exact wired.fresh mode old there (kept.position ▸ position)
  thread := wired.thread
  stopping starts mode loop call current found := by
    obtain ⟨old, there, kept⟩ := modified.kept mode loop found
    exact kept.shouldStop (wired.stopping starts mode old call current there)
  starting := wired.starting

theorem Silent.of_modified {modes : List ModeLoop} (silent : manager.Silent)
    (modified : Modified manager.modes modes)
    : { manager with modes }.Silent where
  clean := silent.clean
  quiet mode loop stopped found := by
    obtain ⟨old, there, kept⟩ := modified.kept mode loop found
    obtain ⟨stopping, quiet⟩ := silent.quiet mode old stopped there
    exact ⟨kept.shouldStop stopping, kept.position ▸ quiet⟩

theorem beginCall_cases {starts : Bool} (taken : manager.beginCall starts = some next)
    : ∃ modes,
        Modified manager.modes modes
        ∧ (∀ mode loop,
          manager.gameMode = some mode → modes[mode]? = some loop → loop.shouldStop = true)
        ∧ next = { manager with modes, call := .joining starts } := by
  unfold beginCall at taken
  split at taken
  · obtain rfl := Option.some.inj taken
    refine ⟨_, ?_, ?_, rfl⟩
    · cases manager.gameMode with
      | none => exact ⟨rfl, fun mode loop found => ⟨loop, found, rfl, rfl, id⟩⟩
      | some mode =>
          refine modified_modify ?_ _ mode
          exact fun loop => ⟨rfl, rfl, fun _ => rfl⟩
    · intro mode loop current found
      rw [current] at found
      dsimp only at found
      rw [List.getElem?_modify_eq] at found
      obtain ⟨old, _, rfl⟩ := Option.map_eq_some_iff.mp found
      rfl
  · cases taken

theorem join_cases (taken : manager.join = some next)
    : ∃ starts,
        manager.call = .joining starts
        ∧ (∀ mode loop,
          manager.thread = some mode
          → manager.modes[mode]? = some loop
          → loop.threadEnded = true)
        ∧ next
          = { manager with
              thread := none
              gameMode := none
              call := if starts then .starting else .none
              notes := manager.notes ++ manager.gameMode.toList.map .stopped } := by
  unfold join at taken
  split at taken
  · next starts call =>
      dsimp only at taken
      generalize called : (if starts then ManagerCall.starting else .none) = after at taken
      split_ifs at taken with ended
      refine ⟨starts, call, fun mode loop thread found => ?_, ?_⟩
      · rw [thread] at ended
        simpa [found] using ended
      · rw [called]
        exact (Option.some.inj taken).symm
  · cases taken

theorem start_cases (taken : manager.start = some next)
    : manager.call = .starting
      ∧ next
        = { manager with
            modes := manager.modes ++ [{}]
            gameMode := some manager.modes.length
            thread := some manager.modes.length
            call := .none } := by
  unfold start at taken
  split at taken
  · next call => exact ⟨call, (Option.some.inj taken).symm⟩
  · cases taken

theorem goOn_cases {mode now clients : Nat} {suspends : Bool}
    (taken : manager.goOn mode now clients suspends = some next)
    : ∃ loop result,
        manager.modes[mode]? = some loop
        ∧ loop.goOn now clients = some result
        ∧ next
          = { manager with
              modes :=
                manager.modes.set mode
                  { result.1 with onThread := result.1.onThread && !suspends }
              notes := manager.notes ++ result.2.map (.sent mode) } := by
  unfold goOn at taken
  split at taken
  · cases taken
  · next loop found =>
      split_ifs at taken
      obtain ⟨result, goes, rfl⟩ := Option.map_eq_some_iff.mp taken
      exact ⟨loop, result, found, goes, rfl⟩

-----------------------------------------------------------------------------------------
-- What steps keep
-----------------------------------------------------------------------------------------

theorem Wired.join (wired : manager.Wired) (taken : manager.join = some next) : next.Wired := by
  obtain ⟨starts, call, ended, rfl⟩ := join_cases taken
  refine ⟨fun note member => ?_, nofun, fun mode there => ?_, fun mode loop found position => ?_,
    rfl, fun _ mode _ _ none => ?_, fun _ => rfl⟩
  · rcases List.mem_append.mp member with before | new
    · exact wired.noted note before
    · obtain ⟨mode, current, rfl⟩ := List.mem_map.mp new
      have last := wired.last mode (Option.mem_toList.mp current)
      exact Nat.lt_of_lt_of_eq (Nat.lt_succ_self mode) last
  · refine .inr ?_
    rcases wired.others mode there with current | stopped
    · exact List.mem_append_right _ (List.mem_map_of_mem (Option.mem_toList.mpr current))
    · exact List.mem_append_left _ stopped
  · -- a thread that is still to call `run` has not ended
    obtain ⟨onThread, current⟩ := wired.fresh mode loop found position
    have gone := ended mode loop (wired.thread.trans current) found
    rw [ModeLoop.threadEnded, onThread, position] at gone
    cases gone
  · cases none

theorem Wired.start (wired : manager.Wired) (taken : manager.start = some next)
    : next.Wired := by
  obtain ⟨call, rfl⟩ := start_cases taken
  have none := wired.starting call
  have length : (manager.modes ++ [({} : ModeLoop)]).length = manager.modes.length + 1 :=
    List.length_append
  refine ⟨fun note member => ?_, fun mode current => ?_, fun mode there => ?_,
    fun mode loop found position => ?_, rfl, nofun, nofun⟩
  · rw [length]
    exact Nat.lt_succ_of_lt (wired.noted note member)
  · obtain rfl := Option.some.inj current
    exact length.symm
  · rw [length] at there
    rcases Nat.lt_succ_iff_lt_or_eq.mp there with before | rfl
    · rcases wired.others mode before with current | stopped
      · rw [none] at current
        cases current
      · exact .inr stopped
    · exact .inl rfl
  · rw [List.getElem?_append] at found
    split_ifs at found with before
    · have current := (wired.fresh mode loop found position).2
      rw [none] at current
      cases current
    · obtain ⟨inside, rfl⟩ := List.getElem?_eq_some_iff.mp found
      have same : mode = manager.modes.length := by
        simp only [List.length_singleton] at inside
        omega
      subst same
      simp

/-- The modes behind a stretch of one of them. -/
theorem getElem?_set_cases {modes : List ModeLoop} {mode other : Nat} {after loop : ModeLoop}
    (found : (modes.set mode after)[other]? = some loop)
    : mode = other ∧ loop = after ∨ mode ≠ other ∧ modes[other]? = some loop := by
  rw [List.getElem?_set] at found
  split_ifs at found with same
  · exact .inl ⟨same, (Option.some.inj found).symm⟩
  · exact .inr ⟨same, found⟩

theorem Wired.goOn {mode now clients : Nat} {suspends : Bool} (wired : manager.Wired)
    (taken : manager.goOn mode now clients suspends = some next)
    : next.Wired := by
  obtain ⟨loop, result, there, goes, rfl⟩ := goOn_cases taken
  obtain ⟨stopping, _, begun⟩ := ModeLoop.goOn_rest goes
  have inside : mode < manager.modes.length := (List.getElem?_eq_some_iff.mp there).1
  refine ⟨fun note member => ?_, fun other current => ?_, fun other before => ?_,
    fun other after found position => ?_, wired.thread,
    fun starts other after call current found => ?_, wired.starting⟩
  · rw [List.length_set]
    rcases List.mem_append.mp member with before | new
    · exact wired.noted note before
    · obtain ⟨packet, _, rfl⟩ := List.mem_map.mp new
      exact inside
  · rw [List.length_set]
    exact wired.last other current
  · rw [List.length_set] at before
    exact (wired.others other before).imp_right (List.mem_append_left _)
  · rcases getElem?_set_cases found with ⟨_, rfl⟩ | ⟨_, before⟩
    · exact absurd position begun
    · exact wired.fresh other after before position
  · rcases getElem?_set_cases found with ⟨rfl, rfl⟩ | ⟨_, before⟩
    · exact stopping.trans (wired.stopping starts mode loop call current there)
    · exact wired.stopping starts other after call current before

theorem Wired.step {event : ManagerEvent} (wired : manager.Wired)
    (taken : manager.step event = some next)
    : next.Wired := by
  have call {starts : Bool} (taken : manager.beginCall starts = some next) : next.Wired := by
    obtain ⟨modes, modified, stopping, rfl⟩ := beginCall_cases taken
    obtain ⟨noted, last, others, fresh, thread, _, _⟩ := wired.of_modified modified
    exact ⟨noted, last, others, fresh, thread, fun _ mode loop _ => stopping mode loop, nofun⟩
  cases event with
  | startGameMode => exact call taken
  | stopGameMode => exact call taken
  | join => exact wired.join taken
  | start => exact wired.start taken
  | goOn mode now clients suspends => exact wired.goOn taken
  | updateFlagData team isHeld now =>
      obtain ⟨mode, _, rfl⟩ := Option.map_eq_some_iff.mp taken
      refine wired.of_modified (modified_modify ?_ _ mode)
      exact fun loop => ⟨rfl, rfl, id⟩

theorem Silent.join (wired : manager.Wired) (silent : manager.Silent)
    (returns : manager.ReturnsQuiet .join) (taken : manager.join = some next)
    : next.Silent := by
  obtain ⟨starts, call, ended, rfl⟩ := join_cases taken
  refine ⟨?_, fun mode loop stopped found => ?_⟩
  · refine List.pairwise_append.mpr ⟨silent.clean, ?_, fun earlier _ note member => ?_⟩
    · cases manager.gameMode with
      | none => exact .nil
      | some mode => exact List.pairwise_singleton _ _
    · obtain ⟨mode, _, rfl⟩ := List.mem_map.mp member
      cases earlier <;> exact id
  · rcases List.mem_append.mp stopped with before | new
    · exact silent.quiet mode loop before found
    · obtain ⟨current, member, same⟩ := List.mem_map.mp new
      obtain rfl := ModeNote.stopped.inj same
      have isCurrent := Option.mem_toList.mp member
      exact ⟨wired.stopping starts current loop call isCurrent found,
        returns current loop isCurrent found⟩

theorem Silent.start (wired : manager.Wired) (silent : manager.Silent)
    (taken : manager.start = some next)
    : next.Silent := by
  obtain ⟨call, rfl⟩ := start_cases taken
  refine ⟨silent.clean, fun mode loop stopped found => silent.quiet mode loop stopped ?_⟩
  have inside : mode < manager.modes.length := wired.noted _ stopped
  rw [List.getElem?_append_left inside] at found
  exact found

theorem Silent.goOn {mode now clients : Nat} {suspends : Bool} (wired : manager.Wired)
    (silent : manager.Silent) (taken : manager.goOn mode now clients suspends = some next)
    : next.Silent := by
  obtain ⟨loop, result, there, goes, rfl⟩ := goOn_cases taken
  have inside : mode < manager.modes.length := (List.getElem?_eq_some_iff.mp there).1
  refine ⟨?_, fun other after stopped found => ?_⟩
  · refine List.pairwise_append.mpr ⟨silent.clean, ?_, fun earlier before note member => ?_⟩
    · refine List.pairwise_map.mpr (List.pairwise_of_forall fun _ _ => ?_)
      exact Nat.lt_irrefl mode
    · obtain ⟨packet, sent, rfl⟩ := List.mem_map.mp member
      -- who sends was not stopped, and so is the mode that was started last
      have going : ModeNote.stopped mode ∉ manager.notes := by
        intro stopped
        obtain ⟨stopping, quiet⟩ := silent.quiet mode loop stopped there
        rw [(ModeLoop.goOn_quiet goes quiet stopping).1] at sent
        cases sent
      have last := wired.last mode ((wired.others mode inside).resolve_right going)
      cases earlier with
      | stopped other =>
          rintro rfl
          exact going before
      | sent other _ =>
          have known : other < manager.modes.length := wired.noted _ before
          change ¬mode < other
          omega
  · rcases List.mem_append.mp stopped with before | new
    · rcases getElem?_set_cases found with ⟨rfl, rfl⟩ | ⟨_, found⟩
      · obtain ⟨stopping, quiet⟩ := silent.quiet mode loop before there
        exact ⟨(ModeLoop.goOn_rest goes).1.trans stopping,
          (ModeLoop.goOn_quiet goes quiet stopping).2⟩
      · exact silent.quiet other after before found
    · obtain ⟨packet, _, same⟩ := List.mem_map.mp new
      cases same

/-- Calls that return when the stopped mode is at a quiet place keep a manager silent. -/
theorem Silent.step {event : ManagerEvent} (wired : manager.Wired) (silent : manager.Silent)
    (returns : manager.ReturnsQuiet event) (taken : manager.step event = some next)
    : next.Silent := by
  have call {starts : Bool} (taken : manager.beginCall starts = some next) : next.Silent := by
    obtain ⟨modes, modified, _, rfl⟩ := beginCall_cases taken
    obtain ⟨clean, quiet⟩ := silent.of_modified modified
    exact ⟨clean, quiet⟩
  cases event with
  | startGameMode => exact call taken
  | stopGameMode => exact call taken
  | join => exact silent.join wired returns taken
  | start => exact silent.start wired taken
  | goOn mode now clients suspends => exact silent.goOn wired taken
  | updateFlagData team isHeld now =>
      obtain ⟨mode, _, rfl⟩ := Option.map_eq_some_iff.mp taken
      refine silent.of_modified (modified_modify ?_ _ mode)
      exact fun loop => ⟨rfl, rfl, id⟩

/-- In a silent manager the modes go on one at a time. -/
theorem Silent.oneAtATime (wired : manager.Wired) (silent : manager.Silent)
    : manager.OneAtATime := by
  intro events later run
  have both : later.Wired ∧ later.Silent := by
    refine @Run.invariant _ _ _ _ _ (fun state => state.Wired ∧ state.Silent) ⟨wired, silent⟩ ?_
      _ _ run
    rintro state event next ⟨wired, silent⟩ ⟨mode, now, clients, suspends, rfl⟩ taken
    exact ⟨wired.step taken, silent.goOn wired taken⟩
  exact both.2.clean

/-- A mode that has begun can go on at any time. -/
theorem goOn_of_begun {mode now clients : Nat} {loop : ModeLoop}
    {result : ModeLoop × List ModePacket} (there : manager.modes[mode]? = some loop)
    (begun : loop.position ≠ .new) (goes : loop.goOn now clients = some result)
    : manager.step (.goOn mode now clients false)
      = some { manager with
          modes := manager.modes.set mode result.1
          notes := manager.notes ++ result.2.map (.sent mode) } := by
  rw [GameModeManager.step, GameModeManager.goOn, there]
  dsimp only
  rw [if_neg fun new => begun new.1, goes]
  simp

/-- Where a mode that was stopped can still send, the modes may go on so that it does. -/
theorem not_oneAtATime_of_canSend {mode : Nat} {loop : ModeLoop} (canSend : loop.CanSend)
    (stopped : .stopped mode ∈ manager.notes) (there : manager.modes[mode]? = some loop)
    (begun : loop.position ≠ .new)
    : ¬manager.OneAtATime := by
  intro oneAtATime
  induction canSend generalizing manager with
  | sends goes sent =>
      have clean := oneAtATime _ _
        (.single ⟨_, _, _, _, rfl⟩ (goOn_of_begun there begun goes))
      obtain ⟨packet, member⟩ := List.exists_mem_of_ne_nil _ sent
      exact (List.pairwise_append.mp clean).2.2 _ stopped _ (List.mem_map_of_mem member) rfl
  | @goesOn loop now clients result goes later ih =>
      have inside : mode < manager.modes.length := (List.getElem?_eq_some_iff.mp there).1
      have taken := goOn_of_begun there begun goes
      generalize reached : ({ manager with modes := _, notes := _ } : GameModeManager) = next
        at taken
      have stillStopped : .stopped mode ∈ next.notes :=
        reached ▸ List.mem_append_left _ stopped
      have stillThere : next.modes[mode]? = some result.1 :=
        reached ▸ List.getElem?_set_self inside
      refine ih stillStopped stillThere (ModeLoop.goOn_rest goes).2.2 fun events after run => ?_
      exact oneAtATime _ _ (.trans (.single ⟨_, _, _, _, rfl⟩ taken) run)

/-- A call that returns keeps the modes from sending stale packets only where the stopped mode is
at a quiet place.
-/
theorem returnsQuiet_of_oneAtATime {event : ManagerEvent} (wired : manager.Wired)
    (taken : manager.step event = some next) (oneAtATime : next.OneAtATime)
    : manager.ReturnsQuiet event := by
  cases event with
  | join =>
      obtain ⟨starts, call, ended, rfl⟩ := join_cases taken
      intro mode loop current there
      by_contra restless
      have stopped
          : ModeNote.stopped mode
            ∈ manager.notes ++ manager.gameMode.toList.map ModeNote.stopped :=
        List.mem_append_right _ (List.mem_map_of_mem (Option.mem_toList.mpr current))
      have canSend := ModeLoop.canSend_of_not_quiet (Bool.eq_false_iff.mpr restless)
      refine absurd oneAtATime (not_oneAtATime_of_canSend canSend stopped there fun new => ?_)
      have gone := ended mode loop (wired.thread.trans current) there
      rw [ModeLoop.threadEnded, (wired.fresh mode loop there new).1, new] at gone
      cases gone
  | _ => trivial

theorem wired_initial : ({} : GameModeManager).Wired := by
  constructor <;> simp

/-- However calls, handlers and modes take turns, no stopped mode sends, and no mode behind one that
was started later, in any way of going on from there, if and only if each call that stops a mode
returns when the mode is at a quiet place. Witness: the modes that were stopped stay at quiet
places; from any other one a packet is still to come, once its time has passed.
-/
theorem one_mode_at_a_time_iff {events : List ManagerEvent}
    : Run step ReturnsQuiet {} events manager
      ↔ Run step (Into step OneAtATime) {} events manager := by
  have silent : ({} : GameModeManager).Silent := by
    constructor <;> simp
  refine @Run.into_iff_using _ _ _ _ (fun state => state.Wired ∧ state.Silent) OneAtATime _ _ _
    ⟨wired_initial, silent⟩ (silent.oneAtATime wired_initial) ?_ ?_
  · rintro state event next ⟨wired, silent⟩ _ returns taken
    exact ⟨wired.step taken, silent.step wired returns taken⟩
  · rintro state event next ⟨wired, silent⟩ _ taken
    constructor
    · exact fun returns => (silent.step wired returns taken).oneAtATime (wired.step taken)
    · exact fun oneAtATime => returnsQuiet_of_oneAtATime wired taken oneAtATime

/-- A game is started for one player, and another one when the first has sent its reset. -/
def restarted : List ManagerEvent := [
  .startGameMode, .join, .start, .goOn 0 0 1 false, .goOn 0 0 1 true,
  .startGameMode, .join, .start, .goOn 1 0 1 false, .goOn 1 0 1 true,
  .goOn 0 0 1 false, .goOn 0 0 1 false
]

/-- The thread of the first game ends when the reset is pending, so the call that stops the game
returns; the game goes on to its teams behind the reset of the second.
-/
theorem old_teams_behind_reset
    : ∃ manager,
        AnyRun step {} restarted manager
        ∧ manager.notes
          = [.sent 0 .reset, .stopped 0, .sent 1 .reset, .sent 0 .playerTeamAssignment]
        ∧ ¬manager.notes.Pairwise fun earlier note => ¬earlier.Stale note := by
  obtain ⟨manager, run, notes⟩ := @exists_run _ _ step {} restarted
    (fun manager =>
      manager.notes
        = [.sent 0 .reset, .stopped 0, .sent 1 .reset, .sent 0 .playerTeamAssignment])
    inferInstance (by decide)
  refine ⟨manager, run, notes, fun clean => ?_⟩
  rw [notes] at clean
  have behind := (List.pairwise_cons.mp (List.pairwise_cons.mp clean).2).1
  exact behind (.sent 0 .playerTeamAssignment) (by simp) rfl

end GameModeManager

end SmoOnline
