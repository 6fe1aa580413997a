import SmoOnline.Mod.Reconnect

/-! The thread that reads packets from the queue of the socket, with what the other threads do to
the connection in between. What the handlers make of a packet is not looked into, nor what is sent
in answer to a `PlayerConnect`.
-/

namespace SmoOnline.Mod

open Runs

/-- The packet that a `SystemPacket` has set, if any. -/
inductive SystemCase
  | captureInf
  | changeStage
  | costumeInf
  | gameInf
  | hackCapInf
  | init (max_players : UInt32)
  | playerConnect
  | playerDC
  | playerInf
  | serverCommand
  | shineCollect
  | tagInf
  | notSet
  deriving DecidableEq, Repr

/-- The packet that a `CTFPacket` has set, if any. -/
inductive CTFCase
  | gameState
  | playerTeamAssignment
  | win
  | flagHoldState
  | flagDroppedPosition
  | notSet
  deriving DecidableEq, Repr

inductive PacketCase
  | systemPacket (system_packet : SystemCase)
  | ctfPacket (ctf_packet : CTFCase)
  | notSet
  deriving DecidableEq, Repr

/-- A packet on the heap. -/
structure ReadPacket where
  address : Nat
  which : PacketCase
  deriving DecidableEq, Repr

/-- What a packet is handed to. -/
inductive PacketHandler
  | updatePlayerInfo
  | updateGameInfo
  | updateHackCapInfo
  | updateCaptureInfo
  | updatePlayerConnect
  | updateCostumeInfo
  | updateShineInfo
  | disconnectPlayer
  | updateTagInfo
  | sendToStage
  /-- the code that sets `maxPuppets` in place -/
  | init
  | updateCTFPlayerTeamAssignment
  | updateCTFGameState
  | updateCTFFlagHoldState
  | updateCTFFlagDroppedPosition
  | updateCTFWinState
  deriving DecidableEq, Repr

/-- The loop that waits for an `Init` packet, and the one that dispatches packets. -/
inductive ReadLoop
  | waiting
  | dispatching
  deriving DecidableEq, Repr

/-- Where the read thread is. -/
inductive Reading
  | outside
  | starting
  | getting (loop : ReadLoop)
  /-- in the queue's `pop`, which blocks -/
  | popping (loop : ReadLoop)
  | handing (loop : ReadLoop) (curPacket : ReadPacket)
  | freeing (loop : ReadLoop) (curPacket : ReadPacket)
  /-- at the end of `startConnection` -/
  | returning
  | checking
  /-- in `curPacket->metadata()` of a null pointer -/
  | crashed
  deriving DecidableEq, Repr

/-- The read thread, and what it shares with the others. -/
structure ReadThread where
  reading : Reading := .outside
  mIsConnectionActive : Bool := false
  waitingForInitPacket : Bool := false
  socket_log_state : LogState := .uninitialized
  mRecvQueue : List ReadPacket := []
  maxPuppets : Int32 := 9
  /-- The packets that `tryGetPacket` has returned. -/
  got : List ReadPacket := []
  /-- What each packet was handed to. -/
  handed : List (ReadPacket × List PacketHandler) := []
  freed : List ReadPacket := []
  deriving DecidableEq, Repr

inductive ReadEvent
  | startThread
  /-- the `init` of `startConnection` returns -/
  | init (isSuccess : Bool)
  /-- the check of the state in `tryGetPacket` -/
  | tryGetPacket
  | pop
  | hand
  | free
  /-- `startConnection` returns `mIsConnectionActive` -/
  | startConnection
  /-- the condition of the loop -/
  | check
  /-- the receiving thread has a packet -/
  | recv (packet : ReadPacket)
  /-- another thread closes the socket or connects it -/
  | setLogState (state : LogState)
  /-- the `init` of `restartConnection` returns, on a thread of the game -/
  | restartConnection (isSuccess : Bool)
  deriving DecidableEq, Repr

namespace SystemCase

variable (systemPacket : SystemCase)

def has_player_inf : Bool := systemPacket == .playerInf

def has_game_inf : Bool := systemPacket == .gameInf

def has_hack_cap_inf : Bool := systemPacket == .hackCapInf

def has_capture_inf : Bool := systemPacket == .captureInf

def has_player_connect : Bool := systemPacket == .playerConnect

def has_costume_inf : Bool := systemPacket == .costumeInf

def has_shine_collect : Bool := systemPacket == .shineCollect

def has_player_dc : Bool := systemPacket == .playerDC

def has_tag_inf : Bool := systemPacket == .tagInf

def has_change_stage : Bool := systemPacket == .changeStage

def has_init : SystemCase → Bool
  | .init _ => true
  | _ => false

/-- The calls for a system packet. The test for a `PlayerInf` is there twice. -/
def handlers : List PacketHandler :=
  if systemPacket.has_player_inf then [.updatePlayerInfo]
  else if systemPacket.has_game_inf then [.updateGameInfo]
  else if systemPacket.has_player_inf then [.updatePlayerInfo]
  else if systemPacket.has_hack_cap_inf then [.updateHackCapInfo]
  else if systemPacket.has_capture_inf then [.updateCaptureInfo]
  else if systemPacket.has_player_connect then [.updatePlayerConnect]
  else if systemPacket.has_costume_inf then [.updateCostumeInfo]
  else if systemPacket.has_shine_collect then [.updateShineInfo]
  else if systemPacket.has_player_dc then [.disconnectPlayer]
  else if systemPacket.has_tag_inf then [.updateTagInfo]
  else if systemPacket.has_change_stage then [.sendToStage]
  else if systemPacket.has_init then [.init]
  else []

end SystemCase

/-- The calls for a packet of Capture the Flag. -/
def CTFCase.handlers (ctfPacket : CTFCase) : List PacketHandler :=
  if ctfPacket == .playerTeamAssignment then [.updateCTFPlayerTeamAssignment]
  else if ctfPacket == .gameState then [.updateCTFGameState]
  else if ctfPacket == .flagHoldState then [.updateCTFFlagHoldState]
  else if ctfPacket == .flagDroppedPosition then [.updateCTFFlagDroppedPosition]
  else if ctfPacket == .win then [.updateCTFWinState]
  else []

namespace PacketCase

/-- The calls that the dispatching loop makes for a packet; without one it discards it. -/
def dispatch : PacketCase → List PacketHandler
  | .systemPacket system => system.handlers
  | .ctfPacket ctf => ctf.handlers
  | .notSet => []

/-- What the loop that waits for an `Init` packet makes of a packet. -/
def await : PacketCase → List PacketHandler
  | .systemPacket system => if system.has_init then [.init] else []
  | _ => []

/-- What `max_players` an `Init` packet has. -/
def maxPlayers : PacketCase → Option UInt32
  | .systemPacket (.init max_players) => some max_players
  | _ => none

end PacketCase

namespace ReadThread

variable (state : ReadThread)

/-- `maxBufSize` -/
def maxBufSize : Nat := 100

/-- What a null pointer does to either loop. -/
def handNull : ReadLoop → ReadThread
  | .waiting =>
      { state with
        mIsConnectionActive := false
        waitingForInitPacket := false
        reading := .returning }
  | .dispatching => { state with reading := .crashed }

/-- What a packet does to `maxPuppets`. -/
def setMaxPuppets (curPacket : ReadPacket) : ReadThread :=
  curPacket.which.maxPlayers.elim state fun max_players =>
    { state with maxPuppets := (max_players - 1).toInt32 }

/-- What a packet does to either loop, until it is freed. -/
def hand (curPacket : ReadPacket) : ReadLoop → ReadThread
  | .waiting =>
      { state.setMaxPuppets curPacket with
        handed := state.handed ++ [(curPacket, curPacket.which.await)]
        waitingForInitPacket := curPacket.which.maxPlayers.isNone
        reading := .freeing .waiting curPacket }
  | .dispatching =>
      { state.setMaxPuppets curPacket with
        handed := state.handed ++ [(curPacket, curPacket.which.dispatch)]
        reading := .freeing .dispatching curPacket }

/-- Where the thread goes when the packet is freed. -/
def behind : ReadLoop → Reading
  | .waiting => if state.waitingForInitPacket then .getting .waiting else .returning
  | .dispatching => .checking

def step : ReadEvent → Option ReadThread
  | .startThread =>
      match state.reading with
      | .outside => some { state with reading := .starting }
      | _ => none
  | .init isSuccess =>
      match state.reading with
      | .starting =>
          some
            { state with
              mIsConnectionActive := isSuccess
              waitingForInitPacket := isSuccess
              reading := if isSuccess then .getting .waiting else .returning }
      | _ => none
  | .tryGetPacket =>
      match state.reading with
      | .getting loop =>
          if state.socket_log_state = .connected then
            some { state with reading := .popping loop }
          else some (state.handNull loop)
      | _ => none
  | .pop =>
      match state.reading, state.mRecvQueue with
      | .popping loop, packet :: later =>
          some
            { state with
              mRecvQueue := later
              got := state.got ++ [packet]
              reading := .handing loop packet }
      | _, _ => none
  | .hand =>
      match state.reading with
      | .handing loop curPacket => some (state.hand curPacket loop)
      | _ => none
  | .free =>
      match state.reading with
      | .freeing loop curPacket =>
          some
            { state with
              freed := state.freed ++ [curPacket]
              reading := state.behind loop }
      | _ => none
  | .startConnection =>
      match state.reading with
      | .returning =>
          some
            { state with reading := if state.mIsConnectionActive then .checking else .outside }
      | _ => none
  | .check =>
      match state.reading with
      | .checking =>
          some
            { state with
              reading := if state.mIsConnectionActive then .getting .dispatching else .outside }
      | _ => none
  | .recv packet =>
      if state.mRecvQueue.length < maxBufSize then
        some { state with mRecvQueue := state.mRecvQueue ++ [packet] }
      else some state
  | .setLogState socket_log_state => some { state with socket_log_state }
  | .restartConnection isSuccess => some { state with mIsConnectionActive := isSuccess }

end ReadThread

-----------------------------------------------------------------------------------------
-- What should become of a packet
-----------------------------------------------------------------------------------------

/-- The handler of each type of packet that has one. -/
def SystemCase.handler : SystemCase → Option PacketHandler
  | .captureInf => some .updateCaptureInfo
  | .changeStage => some .sendToStage
  | .costumeInf => some .updateCostumeInfo
  | .gameInf => some .updateGameInfo
  | .hackCapInf => some .updateHackCapInfo
  | .init _ => some .init
  | .playerConnect => some .updatePlayerConnect
  | .playerDC => some .disconnectPlayer
  | .playerInf => some .updatePlayerInfo
  | .serverCommand => none
  | .shineCollect => some .updateShineInfo
  | .tagInf => some .updateTagInfo
  | .notSet => none

def CTFCase.handler : CTFCase → Option PacketHandler
  | .gameState => some .updateCTFGameState
  | .playerTeamAssignment => some .updateCTFPlayerTeamAssignment
  | .win => some .updateCTFWinState
  | .flagHoldState => some .updateCTFFlagHoldState
  | .flagDroppedPosition => some .updateCTFFlagDroppedPosition
  | .notSet => none

def PacketCase.handler : PacketCase → Option PacketHandler
  | .systemPacket system => system.handler
  | .ctfPacket ctf => ctf.handler
  | .notSet => none

/-- The tests that follow each other come to the table: at most one handler is called, and the
second test for a `PlayerInf` never succeeds.
-/
theorem PacketCase.dispatch_eq (packet : PacketCase) : packet.dispatch = packet.handler.toList := by
  cases packet with
  | systemPacket system => cases system <;> rfl
  | ctfPacket ctf => cases ctf <;> rfl
  | notSet => rfl

/-- The first loop is right about `Init` packets and about those that nobody knows. -/
theorem PacketCase.await_eq_iff (packet : PacketCase)
    : packet.await = packet.handler.toList
      ↔ packet.handler = none ∨ packet.handler = some .init := by
  cases packet with
  | systemPacket system => cases system <;> simp [await, SystemCase.has_init, handler,
      SystemCase.handler]
  | ctfPacket ctf => cases ctf <;> simp [await, handler, CTFCase.handler]
  | notSet => simp [await, handler]

namespace Reading

/-- The packet that has still to be freed. -/
def held : Reading → List ReadPacket
  | .handing _ curPacket | .freeing _ curPacket => [curPacket]
  | _ => []

/-- The packet that has still to be handed on. -/
def unhanded : Reading → List ReadPacket
  | .handing _ curPacket => [curPacket]
  | _ => []

/-- The thread is in neither loop. -/
def HasLeft (reading : Reading) : Prop := reading = .returning ∨ reading = .outside

end Reading

namespace ReadThread

variable (state : ReadThread)

/-- Every packet that was got is handed to its handler, or to none if it has none, and freed, each
once, as far as the thread has come.
-/
structure EachOnce : Prop where
  handed
    : ∃ packets,
        state.got = packets ++ state.reading.unhanded
        ∧ state.handed = packets.map fun packet => (packet, packet.which.handler.toList)
  freed : state.got = state.freed ++ state.reading.held

/-- What should be true of a step: behind a null pointer the thread has left its loops, with no
connection and without a call of a handler; and every packet is handed on and freed once.
-/
structure ReadsWell (event : ReadEvent) : Prop where
  null
    : ∀ after,
        event = .tryGetPacket
        → state.socket_log_state ≠ .connected
        → state.step event = some after
        → after.reading.HasLeft
          ∧ after.mIsConnectionActive = false
          ∧ after.handed = state.handed
  packets : ∀ after, state.step event = some after → after.EachOnce

/-- In the dispatching loop no null pointer is returned, and before the `Init` packet there is no
packet of another handler.
-/
structure IsExpected (event : ReadEvent) : Prop where
  null
    : event = .tryGetPacket
      → state.reading = .getting .dispatching
      → state.socket_log_state = .connected
  packet
    : ∀ curPacket,
        event = .hand
        → state.reading = .handing .waiting curPacket
        → curPacket.which.handler = none ∨ curPacket.which.handler = some .init

-----------------------------------------------------------------------------------------
-- What a step does to the packets
-----------------------------------------------------------------------------------------

variable {state} {next : ReadThread} {event : ReadEvent}

theorem eachOnce_start : ({} : ReadThread).EachOnce where
  handed := ⟨[], rfl, rfl⟩
  freed := rfl

/-- A step that leaves the packets alone. -/
theorem EachOnce.of_same (each : state.EachOnce) (got : next.got = state.got)
    (handed : next.handed = state.handed) (freed : next.freed = state.freed)
    (held : next.reading.held = state.reading.held)
    (unhanded : next.reading.unhanded = state.reading.unhanded)
    : next.EachOnce where
  handed := by
    rw [got, handed, unhanded]
    exact each.handed
  freed := by
    rw [got, freed, held]
    exact each.freed

theorem eachOnce_pop (each : state.EachOnce) (taken : state.step .pop = some next)
    : next.EachOnce := by
  simp only [step] at taken
  split at taken
  · next loop packet later reading _ =>
      cases taken
      obtain ⟨⟨packets, got, handed⟩, freed⟩ := each
      simp only [reading, Reading.unhanded, Reading.held, List.append_nil] at got freed
      exact ⟨⟨packets, congrArg (· ++ [packet]) got, handed⟩, congrArg (· ++ [packet]) freed⟩
  · cases taken

theorem eachOnce_free (each : state.EachOnce) (taken : state.step .free = some next)
    : next.EachOnce := by
  have notHeld (loop : ReadLoop) : (state.behind loop).held = [] := by
    cases loop with
    | waiting =>
        unfold behind
        split_ifs <;> rfl
    | dispatching => rfl
  have notUnhanded (loop : ReadLoop) : (state.behind loop).unhanded = [] := by
    cases loop with
    | waiting =>
        unfold behind
        split_ifs <;> rfl
    | dispatching => rfl
  simp only [step] at taken
  split at taken
  · next loop curPacket reading =>
      cases taken
      obtain ⟨⟨packets, got, handed⟩, freed⟩ := each
      simp only [reading, Reading.unhanded, Reading.held] at got freed
      exact ⟨⟨packets, by rw [notUnhanded]; exact got, handed⟩,
        by rw [notHeld, List.append_nil]; exact freed⟩
  · cases taken

theorem got_setMaxPuppets (state : ReadThread) (curPacket : ReadPacket)
    : (state.setMaxPuppets curPacket).got = state.got := by
  unfold setMaxPuppets
  cases curPacket.which.maxPlayers <;> rfl

theorem freed_setMaxPuppets (state : ReadThread) (curPacket : ReadPacket)
    : (state.setMaxPuppets curPacket).freed = state.freed := by
  unfold setMaxPuppets
  cases curPacket.which.maxPlayers <;> rfl

/-- A packet is handed on as it should be exactly where the loop it is in makes the calls of the
table.
-/
theorem eachOnce_hand_iff (each : state.EachOnce) {loop : ReadLoop} {curPacket : ReadPacket}
    (reading : state.reading = .handing loop curPacket)
    : (state.hand curPacket loop).EachOnce
      ↔ (match loop with
          | .waiting => curPacket.which.await
          | .dispatching => curPacket.which.dispatch)
        = curPacket.which.handler.toList := by
  obtain ⟨⟨packets, got, handed⟩, freed⟩ := each
  simp only [reading, Reading.unhanded, Reading.held] at got freed
  have hands {handlers : List PacketHandler} {next : ReadThread} (sameGot : next.got = state.got)
      (nowHanded : next.handed = state.handed ++ [(curPacket, handlers)])
      (sameFreed : next.freed = state.freed)
      (nowFreeing : next.reading = .freeing loop curPacket)
      : next.EachOnce ↔ handlers = curPacket.which.handler.toList := by
    constructor
    · rintro ⟨⟨others, gotOthers, handedOthers⟩, -⟩
      rw [sameGot, got, nowFreeing] at gotOthers
      obtain rfl : packets ++ [curPacket] = others := gotOthers.trans (List.append_nil _)
      rw [nowHanded, handed, List.map_append] at handedOthers
      have last := List.append_cancel_left handedOthers
      exact congrArg Prod.snd (List.cons.inj last).1
    · rintro rfl
      constructor
      · refine ⟨packets ++ [curPacket], ?_, ?_⟩
        · rw [sameGot, got, nowFreeing]
          exact (List.append_nil _).symm
        · rw [nowHanded, handed, List.map_append]
          rfl
      · rw [sameGot, sameFreed, nowFreeing]
        exact freed
  have sameGot := got_setMaxPuppets state curPacket
  have sameFreed := freed_setMaxPuppets state curPacket
  cases loop with
  | waiting => exact hands sameGot rfl sameFreed rfl
  | dispatching => exact hands sameGot rfl sameFreed rfl

/-- The steps that get, hand on and free nothing. -/
theorem eachOnce_other (each : state.EachOnce) (notPop : event ≠ .pop) (notHand : event ≠ .hand)
    (notFree : event ≠ .free) (taken : state.step event = some next)
    : next.EachOnce := by
  cases event with
  | pop => exact absurd rfl notPop
  | hand => exact absurd rfl notHand
  | free => exact absurd rfl notFree
  | recv packet =>
      simp only [step] at taken
      split_ifs at taken <;> cases taken
      · exact each.of_same rfl rfl rfl rfl rfl
      · exact each
  | setLogState socket_log_state =>
      cases taken
      exact each.of_same rfl rfl rfl rfl rfl
  | restartConnection isSuccess =>
      cases taken
      exact each.of_same rfl rfl rfl rfl rfl
  | tryGetPacket =>
      simp only [step] at taken
      split at taken
      · next loop reading =>
          split_ifs at taken <;> cases taken
          · exact each.of_same rfl rfl rfl (by rw [reading]; rfl) (by rw [reading]; rfl)
          · cases loop with
            | waiting =>
                exact each.of_same rfl rfl rfl (by rw [reading]; rfl) (by rw [reading]; rfl)
            | dispatching =>
                exact each.of_same rfl rfl rfl (by rw [reading]; rfl) (by rw [reading]; rfl)
      · cases taken
  | startThread =>
      simp only [step] at taken
      split at taken
      · next reading =>
          cases taken
          exact each.of_same rfl rfl rfl (by rw [reading]; rfl) (by rw [reading]; rfl)
      · cases taken
  | init isSuccess =>
      simp only [step] at taken
      split at taken
      · next reading =>
          cases taken
          cases isSuccess <;>
            exact each.of_same rfl rfl rfl (by rw [reading]; rfl) (by rw [reading]; rfl)
      · cases taken
  | startConnection =>
      simp only [step] at taken
      split at taken
      · next reading =>
          cases taken
          cases active : state.mIsConnectionActive <;>
            exact each.of_same rfl rfl rfl (by rw [reading]; rfl) (by rw [reading]; rfl)
      · cases taken
  | check =>
      simp only [step] at taken
      split at taken
      · next reading =>
          cases taken
          cases active : state.mIsConnectionActive <;>
            exact each.of_same rfl rfl rfl (by rw [reading]; rfl) (by rw [reading]; rfl)
      · cases taken

/-- One step: the packets are treated as they should be exactly where no packet is lost to the
first loop.
-/
theorem eachOnce_step_iff (each : state.EachOnce) (taken : state.step event = some next)
    : next.EachOnce
      ↔ ∀ curPacket,
          event = .hand
          → state.reading = .handing .waiting curPacket
          → curPacket.which.handler = none ∨ curPacket.which.handler = some .init := by
  by_cases isHand : event = .hand
  · subst isHand
    simp only [step] at taken
    split at taken
    · next loop curPacket reading =>
        cases taken
        rw [eachOnce_hand_iff each reading]
        cases loop with
        | waiting =>
            rw [PacketCase.await_eq_iff]
            constructor
            · intro known other _ same
              cases reading.symm.trans same
              exact known
            · intro known
              exact known curPacket rfl reading
        | dispatching =>
            refine iff_of_true curPacket.which.dispatch_eq ?_
            intro other _ same
            cases reading.symm.trans same
    · cases taken
  · refine iff_of_true ?_ fun _ never => absurd never isHand
    by_cases isPop : event = .pop
    · subst isPop
      exact eachOnce_pop each taken
    · by_cases isFree : event = .free
      · subst isFree
        exact eachOnce_free each taken
      · exact eachOnce_other each isPop isHand isFree taken

/-- What a null pointer does: the first loop ends the connection, the second one uses it. -/
theorem null_iff (taken : state.step .tryGetPacket = some next)
    (away : state.socket_log_state ≠ .connected)
    : (next.reading.HasLeft
        ∧ next.mIsConnectionActive = false
        ∧ next.handed = state.handed)
      ↔ state.reading ≠ .getting .dispatching := by
  simp only [step] at taken
  split at taken
  · next loop reading =>
      rw [if_neg away] at taken
      cases taken
      rw [reading]
      cases loop with
      | waiting =>
          refine iff_of_true ⟨.inl rfl, rfl, rfl⟩ ?_
          intro never
          cases never
      | dispatching =>
          refine iff_of_false ?_ (fun differs => differs rfl)
          rintro ⟨left | left, -⟩
          · cases left
          · cases left
  · cases taken

theorem isExpected_iff (each : state.EachOnce) (taken : state.step event = some next)
    : state.IsExpected event ↔ state.ReadsWell event := by
  constructor
  · intro expected
    constructor
    · rintro after rfl away again
      refine (null_iff again away).mpr fun reading => ?_
      exact away (expected.null rfl reading)
    · intro after again
      exact (eachOnce_step_iff each again).mpr expected.packet
  · intro well
    constructor
    · rintro rfl reading
      by_contra away
      exact (null_iff taken away).mp (well.null next rfl away taken) reading
    · exact (eachOnce_step_iff each taken).mp (well.packets next taken)

/-- In every run the thread leaves its loops behind each null pointer and treats every packet once
exactly where the dispatching loop gets no null pointer and no packet of another handler comes
before the `Init` packet.
-/
theorem readsWell_iff {events : List ReadEvent} {state : ReadThread}
    : Run step IsExpected {} events state ↔ Run step ReadsWell {} events state :=
  Run.congr EachOnce eachOnce_start
    (fun each expected taken => (eachOnce_step_iff each taken).mpr expected.packet)
    fun each taken => isExpected_iff each taken

/-- The connection is lost while the thread waits for its second packet. -/
def losesConnection : List ReadEvent :=
  [.startThread, .setLogState .connected, .init true,
    .recv { address := 1, which := .systemPacket (.init 8) }, .tryGetPacket, .pop, .hand, .free,
    .startConnection, .check, .setLogState .disconnected]

/-- The pointer that `tryGetPacket` returns then is used. -/
theorem null_dereferenced
    : ∃ state after,
        AnyRun step {} losesConnection state
        ∧ state.step .tryGetPacket = some after
        ∧ after.reading = .crashed
        ∧ ¬state.ReadsWell .tryGetPacket := by
  obtain ⟨state, after, run, taken, reading, away⟩ :=
    @exists_run_step _ _ step {} losesConnection .tryGetPacket
      (fun state after =>
        after.reading = .crashed ∧ state.socket_log_state = .disconnected)
      _ (by decide)
  refine ⟨state, after, run, taken, reading, fun well => ?_⟩
  obtain ⟨left | left, -⟩ := well.null after rfl (by rw [away]; decide) taken
  · cases reading.symm.trans left
  · cases reading.symm.trans left

end ReadThread

end SmoOnline.Mod
