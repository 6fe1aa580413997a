import SmoOnline.Mod.Holders

/-! Who is known to have won. A client takes over the winner of every packet that arrives, so all
clients agree on one exactly as long as only one team is announced.
-/

namespace SmoOnline.Mod

open Runs Links

-----------------------------------------------------------------------------------------
-- Wins that are announced
-----------------------------------------------------------------------------------------

namespace Client

variable (client : Client) (inputs : Inputs)

/-- No winner is known, and the player brings the other team's flag to the own side. -/
def Wins : Prop :=
  client.info.winningTeam = .invalid
  ∧ inputs.teamSide ≠ .invalid
  ∧ inputs.teamSide = client.info.playerTeam
  ∧ getOpposingTeam client.info.playerTeam = some client.info.heldFlag

instance : Decidable (client.Wins inputs) := inferInstanceAs (Decidable (_ ∧ _ ∧ _ ∧ _))

/-- The win that a frame announces. -/
def announces : Option FlagTeam :=
  if (client.checkPickUpOrDropFlag inputs).Wins inputs then some client.info.playerTeam else none

end Client

namespace GameState

variable (state : GameState)

def winningTeam (player : SocketId) : FlagTeam := (state.client player).info.winningTeam

/-- The win that an event announces. -/
def announced : Event → Option FlagTeam
  | .frame player inputs => (state.client player).announces inputs
  | _ => none

/-- A win of the team is yet to come to the player. -/
inductive WinUnderway (recipient : SocketId) (team : FlagTeam) : Prop
  | queued (player : SocketId) (member : player ∈ state.players)
    (queued : .lastCTFWinPacket ∈ (state.client player).sendQueue)
    (content : (state.client player).lastCTFWinPacket = { winningTeam := team })
  | sent (player : SocketId) (member : player ∈ state.players)
    (sent : .win team ∈ state.uplinks player)
  | relayed (player : SocketId) (member : player ∈ state.players) (userId : SocketId)
    (relayed : { userId, body := .win team } ∈ state.sends (some player, recipient))
  | arriving (userId : SocketId)
    (arriving : { userId, body := .win team } ∈ state.downlinks recipient)

end GameState

/-- All wins that were sent have come to all players. -/
def Settled (state : GameState) : Prop :=
  ∀ player ∈ state.players, ∀ team, ¬state.WinUnderway player team

/-- Nothing is on its way between the players. -/
def Idle (state : GameState) : Prop :=
  ∀ player ∈ state.players,
    (state.client player).sendQueue = []
    ∧ state.uplinks player = []
    ∧ state.downlinks player = []
    ∧ ∀ other ∈ state.players, state.sends (some player, other) = []

instance : DecidablePred Idle := fun state =>
  inferInstanceAs (Decidable (∀ player ∈ state.players, _ ∧ _ ∧ _ ∧ ∀ other ∈ state.players, _))

theorem Idle.settled {state : GameState} (idle : Idle state) : Settled state := by
  intro recipient member team under
  cases under with
  | queued player sends queued content =>
      rw [(idle player sends).1] at queued
      cases queued
  | sent player sends sent =>
      rw [(idle player sends).2.1] at sent
      cases sent
  | relayed player sends userId relayed =>
      rw [(idle player sends).2.2.2 recipient member] at relayed
      cases relayed
  | arriving userId arriving =>
      rw [(idle recipient member).2.2.1] at arriving
      cases arriving

/-- The players of the game have the same winner. -/
def Agree (state : GameState) : Prop :=
  ∀ left ∈ state.players,
    ∀ right ∈ state.players,
      (state.client left).isModeActive
      → (state.client right).isModeActive
      → state.winningTeam left = state.winningTeam right

/-- No player's winner changes from one team to the other. -/
def KeepsWinner (state : GameState) (event : Event) : Prop :=
  ∀ next,
    state.step event = some next
    → ∀ player ∈ state.players,
        state.winningTeam player ≠ .invalid
        → next.winningTeam player ≠ .invalid
        → next.winningTeam player = state.winningTeam player

/-- No win but the team's is announced. -/
def AnnouncesOnly (team : FlagTeam) (state : GameState) (event : Event) : Prop :=
  ∀ announced ∈ state.announced event, announced = team

/-- All wins that are known or on their way have a property. -/
structure WinsAre (Is : FlagTeam → Prop) (state : GameState) : Prop where
  queued
    : ∀ player,
        .lastCTFWinPacket ∈ (state.client player).sendQueue
        → (state.client player).lastCTFWinPacket
            = { winningTeam := (state.client player).info.playerTeam }
          ∧ Is (state.client player).info.playerTeam
  uplinks : ∀ player team, .win team ∈ state.uplinks player → Is team
  sends : ∀ link userId team, { userId, body := .win team } ∈ state.sends link → Is team
  downlinks
    : ∀ player userId team, { userId, body := .win team } ∈ state.downlinks player → Is team
  known : ∀ player, state.winningTeam player = .invalid ∨ Is (state.winningTeam player)

/-- Nobody knows of a win, and none is on its way. -/
abbrev Fresh : GameState → Prop := WinsAre fun _ => False

-----------------------------------------------------------------------------------------
-- What a frame sends
-----------------------------------------------------------------------------------------

namespace Client

/-- A client has at most sent holds and changed what it holds. -/
structure HoldsOnly (before after : Client) : Prop where
  playerTeam : after.info.playerTeam = before.info.playerTeam
  winningTeam : after.info.winningTeam = before.info.winningTeam
  isModeActive : after.isModeActive = before.isModeActive
  lastCTFWinPacket : after.lastCTFWinPacket = before.lastCTFWinPacket
  queued : .lastCTFWinPacket ∈ after.sendQueue ↔ .lastCTFWinPacket ∈ before.sendQueue

variable (client : Client) (inputs : Inputs)

theorem HoldsOnly.refl : HoldsOnly client client := ⟨rfl, rfl, rfl, rfl, .rfl⟩

theorem HoldsOnly.trans {first middle last : Client} (left : HoldsOnly first middle)
    (right : HoldsOnly middle last)
    : HoldsOnly first last where
  playerTeam := right.playerTeam.trans left.playerTeam
  winningTeam := right.winningTeam.trans left.winningTeam
  isModeActive := right.isModeActive.trans left.isModeActive
  lastCTFWinPacket := right.lastCTFWinPacket.trans left.lastCTFWinPacket
  queued := right.queued.trans left.queued

theorem holdsOnly_sendFlagHoldStatePacket (isHeld : Bool) (flagTeam : FlagTeam)
    : HoldsOnly client (client.sendFlagHoldStatePacket isHeld flagTeam) :=
  ⟨rfl, rfl, rfl, rfl, by simp [sendFlagHoldStatePacket]⟩

theorem holdsOnly_setHeldFlag (flagTeam : FlagTeam)
    : HoldsOnly client (client.setHeldFlag flagTeam) :=
  ⟨rfl, rfl, rfl, rfl, .rfl⟩

theorem holdsOnly_dropHeldFlag : HoldsOnly client client.dropHeldFlag := by
  unfold dropHeldFlag
  split_ifs
  · exact .refl client
  · exact (client.holdsOnly_sendFlagHoldStatePacket _ _).trans (holdsOnly_setHeldFlag _ _)

theorem holdsOnly_checkPickUpOrDropFlag
    : HoldsOnly client (client.checkPickUpOrDropFlag inputs) := by
  unfold checkPickUpOrDropFlag
  split_ifs
  · exact .refl client
  · exact .refl client
  · exact client.holdsOnly_dropHeldFlag
  · split
    · exact .refl client
    · exact client.holdsOnly_setHeldFlag _

theorem holdsOnly_sendFlagHoldStateUpdateIfHeld
    : HoldsOnly client client.sendFlagHoldStateUpdateIfHeld := by
  unfold sendFlagHoldStateUpdateIfHeld
  split_ifs
  · exact .refl client
  · exact client.holdsOnly_sendFlagHoldStatePacket true _

theorem checkWin_eq
    : client.checkWin inputs
      = if client.Wins inputs then client.sendCTFWinPacket client.info.playerTeam
        else client := by
  unfold checkWin
  by_cases wins : client.Wins inputs
  · obtain ⟨unknown, side, brings⟩ := id wins
    rw [if_pos wins, if_neg (not_not.mpr unknown), if_neg side, if_pos brings]
  · rw [if_neg wins]
    split_ifs with known side brings
    · rfl
    · rfl
    · exact absurd ⟨not_not.mp known, side, brings⟩ wins
    · rfl

/-- What a frame announces is the last thing it sends. -/
theorem update_cases
    : ∃ held,
        HoldsOnly client held
        ∧ client.update inputs
          = match client.announces inputs with
            | none => held
            | some team => held.sendCTFWinPacket team := by
  have picked := client.holdsOnly_checkPickUpOrDropFlag inputs
  refine ⟨(client.checkPickUpOrDropFlag inputs).sendFlagHoldStateUpdateIfHeld,
    picked.trans (holdsOnly_sendFlagHoldStateUpdateIfHeld _), ?_⟩
  have same
      : (client.checkPickUpOrDropFlag inputs).sendFlagHoldStateUpdateIfHeld.Wins inputs
        ↔ (client.checkPickUpOrDropFlag inputs).Wins inputs := by
    simp [Wins]
  rw [update, checkTagged_eq, checkWin_eq, announces]
  split_ifs with sends wins wins
  · simp [picked.playerTeam]
  · exact absurd (same.mp sends) wins
  · exact absurd (same.mpr wins) sends
  · rfl

/-- A team that is announced is the player's. -/
theorem announces_eq_some {team : FlagTeam} (announces : client.announces inputs = some team)
    : team = client.info.playerTeam ∧ team ≠ .invalid := by
  unfold Client.announces at announces
  split_ifs at announces with wins
  obtain ⟨_, side, own, _⟩ := wins
  have same := (client.holdsOnly_checkPickUpOrDropFlag inputs).playerTeam
  obtain rfl := Option.some.inj announces
  refine ⟨rfl, ?_⟩
  rwa [own, same] at side

end Client

-----------------------------------------------------------------------------------------
-- What one event does to the wins
-----------------------------------------------------------------------------------------

variable {start state next : GameState} {event : Event} {events : List Event}
  {player recipient : SocketId} {team : FlagTeam}

theorem GameState.isModeActive_of_step (taken : state.step event = some next)
    : (next.client player).isModeActive = (state.client player).isModeActive := by
  obtain ⟨_, clients⟩ := client_of_step taken
  cases event with
  | frame other inputs =>
      rw [clients.2, Function.update_apply]
      split_ifs with same
      · obtain ⟨held, only, update⟩ := (state.client other).update_cases inputs
        rw [update, same]
        split <;> exact only.isModeActive
      · rfl
  | trySendQueue other =>
      obtain ⟨later, clients⟩ := clients
      rw [clients, Function.update_apply]
      split_ifs with same
      · rw [same]
      · rfl
  | deliver other isFirstFrame =>
      obtain ⟨packet, _, clients⟩ := clients
      rw [clients, Function.update_apply]
      split_ifs with same
      · obtain ⟨flagInfos, reads⟩ := (state.client other).readPacket_eq isFirstFrame packet
        rw [reads, same]
      · rfl
  | handle | send | sendFlagPacket => rw [clients]

/-- A winner comes from a packet. -/
theorem GameState.winningTeam_of_step (taken : state.step event = some next)
    (player : SocketId)
    : next.winningTeam player = state.winningTeam player
      ∨ ∃ isFirstFrame userId,
          event = .deliver player isFirstFrame
          ∧ { userId, body := .win (next.winningTeam player) } ∈ state.downlinks player := by
  obtain ⟨_, clients⟩ := client_of_step taken
  unfold winningTeam
  cases event with
  | frame other inputs =>
      left
      rw [clients.2, Function.update_apply]
      split_ifs with same
      · obtain ⟨held, only, update⟩ := (state.client other).update_cases inputs
        rw [update, same]
        split <;> exact only.winningTeam
      · rfl
  | trySendQueue other =>
      left
      obtain ⟨later, clients⟩ := clients
      rw [clients, Function.update_apply]
      split_ifs with same
      · rw [same]
      · rfl
  | deliver other isFirstFrame =>
      obtain ⟨⟨userId, body⟩, found, clients⟩ := clients
      by_cases same : player = other
      · subst same
        obtain ⟨flagInfos, reads⟩ :=
          (state.client player).readPacket_eq isFirstFrame { userId, body }
        rw [clients, Function.update_self, reads]
        cases body with
        | flagHoldState isHeld flagTeam => exact .inl rfl
        | flagDroppedPosition flagTeam => exact .inl rfl
        | win team =>
            by_cases active : (state.client player).isModeActive
            · refine .inr ⟨isFirstFrame, userId, rfl, ?_⟩
              simpa [Client.winnerAfter, active] using found
            · exact .inl (by simp [Client.winnerAfter, active])
      · left
        rw [clients, Function.update_of_ne same]
  | handle | send | sendFlagPacket => exact .inl (by rw [clients])

theorem WinsAre.mono {Is Weaker : FlagTeam → Prop} (wins : WinsAre Is state)
    (weaken : ∀ team, Is team → Weaker team)
    : WinsAre Weaker state where
  queued player queued := (wins.queued player queued).imp_right (weaken _)
  uplinks player team sent := weaken team (wins.uplinks player team sent)
  sends link userId team sent := weaken team (wins.sends link userId team sent)
  downlinks player userId team sent := weaken team (wins.downlinks player userId team sent)
  known player := (wins.known player).imp_right (weaken _)

/-- A win among what a handler sends was there or is the one it relays. -/
theorem GameState.of_win_mem_relay {packet : CTFPacket} {link : Handler × SocketId}
    {userId : SocketId}
    (found : { userId, body := .win team } ∈ (state.relay player packet).sends link)
    : { userId, body := .win team } ∈ state.sends link ∨ packet = .win team := by
  cases packet with
  | flagHoldState isHeld flagTeam =>
      simp only [relay, mem_putAll] at found
      exact .inl (found.resolve_right (by simp))
  | flagDroppedPosition flagTeam =>
      simp only [relay, mem_putAll] at found
      exact .inl (found.resolve_right (by simp))
  | win winningTeam =>
      simp only [relay, mem_putAll] at found
      rcases found with old | ⟨_, new⟩
      · exact .inl old
      · obtain ⟨_, new⟩ := Packet.mk.inj new
        exact .inr new.symm

/-- A handler takes back nothing it is to send. -/
theorem GameState.mem_relay {packet : Packet} (body : CTFPacket) {link : Handler × SocketId}
    (sent : packet ∈ state.sends link)
    : packet ∈ (state.relay player body).sends link := by
  cases body <;> simp only [relay, mem_putAll] <;> exact .inl sent

/-- A win goes to every player. -/
theorem GameState.win_mem_relay (member : recipient ∈ state.players)
    : { userId := recipient, body := .win team }
      ∈ (state.relay player (.win team)).sends (some player, recipient) := by
  simp only [relay, mem_putAll]
  exact .inr ⟨List.mem_map_of_mem member, trivial⟩

/-- What is relayed leaves the other links as they are. -/
@[simp] theorem GameState.uplinks_relay (packet : CTFPacket)
    : (state.relay player packet).uplinks = state.uplinks := by
  cases packet <;> rfl

@[simp] theorem GameState.downlinks_relay (packet : CTFPacket)
    : (state.relay player packet).downlinks = state.downlinks := by
  cases packet <;> rfl

/-- What is queued behind a frame is what was queued before it or what the frame announces. -/
theorem WinsAre.queued_frame {Is : FlagTeam → Prop} {client : Client} {inputs : Inputs}
    (before
      : .lastCTFWinPacket ∈ client.sendQueue
        → client.lastCTFWinPacket = { winningTeam := client.info.playerTeam }
          ∧ Is client.info.playerTeam)
    (announces : ∀ team ∈ client.announces inputs, Is team)
    (queued : .lastCTFWinPacket ∈ (client.update inputs).sendQueue)
    : (client.update inputs).lastCTFWinPacket
        = { winningTeam := (client.update inputs).info.playerTeam }
      ∧ Is (client.update inputs).info.playerTeam := by
  obtain ⟨held, only, update⟩ := client.update_cases inputs
  rw [update] at queued ⊢
  cases announced : client.announces inputs with
  | none =>
      rw [announced] at queued
      dsimp only at queued ⊢
      rw [only.lastCTFWinPacket, only.playerTeam]
      exact before (only.queued.mp queued)
  | some team =>
      obtain ⟨own, _⟩ := client.announces_eq_some inputs announced
      have same : held.info.playerTeam = team := only.playerTeam.trans own.symm
      dsimp only [Client.sendCTFWinPacket]
      rw [same]
      exact ⟨rfl, announces team announced⟩

/-- What is queued stays of the kind where what one client queues is. -/
theorem WinsAre.queued_setClient {Is : FlagTeam → Prop} (wins : WinsAre Is state)
    {client : Client}
    (own
      : .lastCTFWinPacket ∈ client.sendQueue
        → client.lastCTFWinPacket = { winningTeam := client.info.playerTeam }
          ∧ Is client.info.playerTeam)
    (other : SocketId)
    (queued : .lastCTFWinPacket ∈ ((state.setClient player client).client other).sendQueue)
    : ((state.setClient player client).client other).lastCTFWinPacket
        = { winningTeam := ((state.setClient player client).client other).info.playerTeam }
      ∧ Is ((state.setClient player client).client other).info.playerTeam := by
  simp only [GameState.setClient, Function.update_apply] at queued ⊢
  split_ifs at queued ⊢
  · exact own queued
  · exact wins.queued other queued

/-- Wins stay of a kind as long as those that are announced are of that kind. -/
theorem WinsAre.step {Is : FlagTeam → Prop} (wins : WinsAre Is state)
    (announces : ∀ team ∈ state.announced event, Is team)
    (taken : state.step event = some next)
    : WinsAre Is next := by
  have known (player : SocketId)
      : next.winningTeam player = .invalid ∨ Is (next.winningTeam player) := by
    obtain same | ⟨isFirstFrame, userId, rfl, found⟩ :=
      GameState.winningTeam_of_step taken player
    · rw [same]
      exact wins.known player
    · exact .inr (wins.downlinks player userId _ found)
  cases event with
  | frame player inputs =>
      obtain ⟨_, _, rfl⟩ := GameState.frame_eq_some taken
      refine ⟨wins.queued_setClient ?_, wins.uplinks, wins.sends, wins.downlinks, known⟩
      exact WinsAre.queued_frame (wins.queued player) announces
  | trySendQueue player =>
      obtain ⟨_, slot, later, queue, rfl⟩ := GameState.trySendQueue_eq_some taken
      refine ⟨wins.queued_setClient fun queued => ?_, ?_, wins.sends, wins.downlinks, known⟩
      · refine wins.queued player ?_
        rw [queue]
        exact List.mem_cons_of_mem _ queued
      · intro other team sent
        rcases mem_put.mp sent with old | ⟨_, new⟩
        · exact wins.uplinks other team old
        · cases slot with
          | lastFlagHoldStatePacket => cases new
          | lastCTFWinPacket =>
              obtain ⟨content, is⟩ := wins.queued player (by simp [queue])
              rw [Client.slot, content] at new
              obtain rfl := CTFPacket.win.inj new
              exact is
  | handle player =>
      obtain ⟨packet, rest, found, rfl⟩ := GameState.handle_eq_some taken
      refine ⟨?_, ?_, ?_, ?_, known⟩
      · simpa using wins.queued
      · intro other team sent
        rw [GameState.uplinks_relay] at sent
        exact wins.uplinks other team (mem_of_mem_rest found sent)
      · intro link userId team sent
        obtain old | rfl := GameState.of_win_mem_relay sent
        · exact wins.sends link userId team old
        · exact wins.uplinks player team (mem_of_take found)
      · simpa using wins.downlinks
  | send handler recipient =>
      obtain ⟨packet, rest, found, rfl⟩ := GameState.send_eq_some taken
      refine ⟨wins.queued, wins.uplinks, ?_, ?_, known⟩
      · intro link userId team sent
        exact wins.sends link userId team (mem_of_mem_rest found sent)
      · intro other userId team sent
        rcases mem_put.mp sent with old | ⟨_, new⟩
        · exact wins.downlinks other userId team old
        · refine wins.sends (handler, recipient) userId team ?_
          rw [new]
          exact mem_of_take found
  | deliver player isFirstFrame =>
      obtain ⟨packet, rest, found, rfl⟩ := GameState.deliver_eq_some taken
      refine ⟨wins.queued_setClient fun queued => ?_, wins.uplinks, wins.sends, ?_, known⟩
      · obtain ⟨flagInfos, reads⟩ := (state.client player).readPacket_eq isFirstFrame packet
        rw [reads] at queued ⊢
        exact wins.queued player queued
      · intro other userId team sent
        exact wins.downlinks other userId team (mem_of_mem_rest found sent)
  | sendFlagPacket flagTeam =>
      obtain rfl := GameState.sendFlagPacket_eq_some taken
      refine ⟨wins.queued, wins.uplinks, ?_, wins.downlinks, known⟩
      intro link userId team sent
      simp only [mem_putAll] at sent
      exact wins.sends link userId team (sent.resolve_right (by simp))

/-- A frame leaves what is queued, as a player announces one team only. -/
theorem WinsAre.still_queued {client : Client} (inputs : Inputs)
    (own : client.lastCTFWinPacket = { winningTeam := client.info.playerTeam })
    (queued : .lastCTFWinPacket ∈ client.sendQueue)
    : .lastCTFWinPacket ∈ (client.update inputs).sendQueue
      ∧ (client.update inputs).lastCTFWinPacket = client.lastCTFWinPacket := by
  obtain ⟨held, only, update⟩ := client.update_cases inputs
  rw [update]
  cases announced : client.announces inputs with
  | none => exact ⟨only.queued.mpr queued, only.lastCTFWinPacket⟩
  | some team =>
      obtain ⟨rfl, _⟩ := client.announces_eq_some inputs announced
      exact ⟨List.mem_append_left _ (only.queued.mpr queued), own.symm⟩

/-- A queued win stays queued until it is sent. -/
theorem GameState.queued_of_step {Is : FlagTeam → Prop} (wins : WinsAre Is state)
    (queued : .lastCTFWinPacket ∈ (state.client player).sendQueue)
    (content : (state.client player).lastCTFWinPacket = { winningTeam := team })
    (taken : state.step event = some next)
    : .lastCTFWinPacket ∈ (next.client player).sendQueue
        ∧ (next.client player).lastCTFWinPacket = { winningTeam := team }
      ∨ .win team ∈ next.uplinks player := by
  cases event with
  | frame other inputs =>
      obtain ⟨_, _, rfl⟩ := frame_eq_some taken
      left
      by_cases same : player = other
      · subst same
        obtain ⟨still, kept⟩ := WinsAre.still_queued inputs (wins.queued player queued).1 queued
        simpa [setClient, kept, content] using still
      · simpa [setClient, same] using ⟨queued, content⟩
  | trySendQueue other =>
      obtain ⟨_, slot, later, queue, rfl⟩ := trySendQueue_eq_some taken
      by_cases same : player = other
      · subst same
        rw [queue] at queued
        rcases List.mem_cons.mp queued with rfl | behind
        · right
          refine mem_put.mpr (.inr ⟨rfl, ?_⟩)
          rw [Client.slot, content]
        · left
          simpa [setClient, content] using behind
      · left
        simpa [setClient, same] using ⟨queued, content⟩
  | deliver other isFirstFrame =>
      obtain ⟨packet, rest, found, rfl⟩ := deliver_eq_some taken
      left
      by_cases same : player = other
      · subst same
        obtain ⟨flagInfos, reads⟩ := (state.client player).readPacket_eq isFirstFrame packet
        simpa [setClient, reads] using ⟨queued, content⟩
      · simpa [setClient, same] using ⟨queued, content⟩
  | handle | send | sendFlagPacket =>
      obtain ⟨_, clients⟩ := client_of_step taken
      dsimp only at clients
      rw [clients]
      exact .inl ⟨queued, content⟩

/-- A win that was sent is relayed to every player when it is handled. -/
theorem GameState.sent_of_step (member : recipient ∈ state.players)
    (sent : .win team ∈ state.uplinks player) (taken : state.step event = some next)
    : .win team ∈ next.uplinks player
      ∨ { userId := recipient, body := .win team } ∈ next.sends (some player, recipient) := by
  cases event with
  | frame other inputs =>
      obtain ⟨_, _, rfl⟩ := frame_eq_some taken
      exact .inl sent
  | trySendQueue other =>
      obtain ⟨_, slot, later, _, rfl⟩ := trySendQueue_eq_some taken
      exact .inl (mem_put.mpr (.inl sent))
  | handle other =>
      obtain ⟨packet, rest, found, rfl⟩ := handle_eq_some taken
      obtain ⟨rfl, rfl⟩ | left := taken_or_left found sent
      · exact .inr (win_mem_relay member)
      · rw [uplinks_relay]
        exact .inl left
  | send handler target =>
      obtain ⟨packet, rest, _, rfl⟩ := send_eq_some taken
      exact .inl sent
  | deliver other isFirstFrame =>
      obtain ⟨packet, rest, _, rfl⟩ := deliver_eq_some taken
      exact .inl sent
  | sendFlagPacket flagTeam =>
      obtain rfl := sendFlagPacket_eq_some taken
      exact .inl sent

/-- What a handler is to send stays to be sent until it is on its way to the recipient. -/
theorem GameState.relayed_of_step {handler : Handler} {packet : Packet}
    (relayed : packet ∈ state.sends (handler, recipient)) (taken : state.step event = some next)
    : packet ∈ next.sends (handler, recipient) ∨ packet ∈ next.downlinks recipient := by
  cases event with
  | frame other inputs =>
      obtain ⟨_, _, rfl⟩ := frame_eq_some taken
      exact .inl relayed
  | trySendQueue other =>
      obtain ⟨_, slot, later, _, rfl⟩ := trySendQueue_eq_some taken
      exact .inl relayed
  | handle other =>
      obtain ⟨body, rest, _, rfl⟩ := handle_eq_some taken
      exact .inl (mem_relay body relayed)
  | send sender target =>
      obtain ⟨sent, rest, found, rfl⟩ := send_eq_some taken
      obtain ⟨same, rfl⟩ | left := taken_or_left found relayed
      · obtain ⟨rfl, rfl⟩ := Prod.mk.inj same
        exact .inr (mem_put.mpr (.inr ⟨rfl, rfl⟩))
      · exact .inl left
  | deliver other isFirstFrame =>
      obtain ⟨read, rest, _, rfl⟩ := deliver_eq_some taken
      exact .inl relayed
  | sendFlagPacket flagTeam =>
      obtain rfl := sendFlagPacket_eq_some taken
      simp only [mem_putAll]
      exact .inl (.inl relayed)

/-- A win that arrives is the winner when the player, being in the game, reads it. -/
theorem GameState.arriving_of_step {userId : SocketId}
    (arriving : { userId, body := .win team } ∈ state.downlinks recipient)
    (taken : state.step event = some next)
    : { userId, body := .win team } ∈ next.downlinks recipient
      ∨ ((state.client recipient).isModeActive → next.winningTeam recipient = team) := by
  cases event with
  | frame other inputs =>
      obtain ⟨_, _, rfl⟩ := frame_eq_some taken
      exact .inl arriving
  | trySendQueue other =>
      obtain ⟨_, slot, later, _, rfl⟩ := trySendQueue_eq_some taken
      exact .inl arriving
  | handle other =>
      obtain ⟨body, rest, _, rfl⟩ := handle_eq_some taken
      rw [downlinks_relay]
      exact .inl arriving
  | send handler target =>
      obtain ⟨sent, rest, _, rfl⟩ := send_eq_some taken
      exact .inl (mem_put.mpr (.inl arriving))
  | deliver other isFirstFrame =>
      obtain ⟨packet, rest, found, rfl⟩ := deliver_eq_some taken
      obtain ⟨rfl, rfl⟩ | left := taken_or_left found arriving
      · right
        intro active
        obtain ⟨flagInfos, reads⟩ :=
          (state.client recipient).readPacket_eq isFirstFrame { userId, body := .win team }
        simp [winningTeam, setClient, reads, Client.winnerAfter, active]
      · exact .inl left
  | sendFlagPacket flagTeam =>
      obtain rfl := sendFlagPacket_eq_some taken
      exact .inl arriving

/-- A win on its way stays on its way until it comes to the player. -/
theorem GameState.WinUnderway.step {Is : FlagTeam → Prop} (wins : WinsAre Is state)
    (member : recipient ∈ state.players) (under : state.WinUnderway recipient team)
    (taken : state.step event = some next)
    : next.WinUnderway recipient team
      ∨ ((state.client recipient).isModeActive → next.winningTeam recipient = team) := by
  have players := (client_of_step taken).1
  cases under with
  | queued player sends queued content =>
      rw [← players] at sends
      rcases queued_of_step wins queued content taken with ⟨still, same⟩ | sent
      · exact .inl (.queued player sends still same)
      · exact .inl (.sent player sends sent)
  | sent player sends sent =>
      rw [← players] at sends
      rcases sent_of_step member sent taken with still | relayed
      · exact .inl (.sent player sends still)
      · exact .inl (.relayed player sends recipient relayed)
  | relayed player sends userId relayed =>
      rw [← players] at sends
      rcases relayed_of_step relayed taken with still | arriving
      · exact .inl (.relayed player sends userId still)
      · exact .inl (.arriving userId arriving)
  | arriving userId arriving =>
      rcases arriving_of_step arriving taken with still | hears
      · exact .inl (.arriving userId still)
      · exact .inr hears

-----------------------------------------------------------------------------------------
-- Runs
-----------------------------------------------------------------------------------------

/-- What is announced is on its way to everybody. -/
theorem GameState.of_announced (announced : state.announced event = some team)
    (taken : state.step event = some next)
    : team ≠ .invalid
      ∧ (∃ player ∈ next.players, (next.client player).isModeActive)
      ∧ ∀ recipient, next.WinUnderway recipient team := by
  cases event with
  | frame player inputs =>
      obtain ⟨member, active, rfl⟩ := frame_eq_some taken
      obtain ⟨held, only, update⟩ := (state.client player).update_cases inputs
      have announces : (state.client player).announces inputs = some team := announced
      rw [announces] at update
      refine ⟨(Client.announces_eq_some _ inputs announces).2, ⟨player, member, ?_⟩, ?_⟩
      · simpa [setClient, update, Client.sendCTFWinPacket, only.isModeActive] using active
      · intro recipient
        refine .queued player member ?_ ?_
        · simp [setClient, update, Client.sendCTFWinPacket]
        · simp [setClient, update, Client.sendCTFWinPacket]
  | trySendQueue | handle | send | deliver | sendFlagPacket => cases announced

/-- The wins that a step announces. -/
def announcedBy (state : GameState) (event : Event) (_ : GameState) : List FlagTeam :=
  (state.announced event).toList

/-- Wins are of the teams that were announced, and every player of the game has each of these as
the winner or is yet to hear of it.
-/
structure Heard (state : GameState) (teams : List FlagTeam) : Prop where
  teams_ne : ∀ team ∈ teams, team ≠ .invalid
  wins : WinsAre (· ∈ teams) state
  heard
    : ∀ team ∈ teams,
        ∀ player ∈ state.players,
          (state.client player).isModeActive
          → state.winningTeam player = team ∨ state.WinUnderway player team
  played : teams ≠ [] → ∃ player ∈ state.players, (state.client player).isModeActive

variable {teams : List FlagTeam}

theorem Heard.still {player : SocketId} (heard : Heard state teams)
    (keeps : KeepsWinner state event) (taken : state.step event = some next)
    (is : team ∈ teams) (member : player ∈ state.players)
    (active : (state.client player).isModeActive)
    : next.winningTeam player = team ∨ next.WinUnderway player team := by
  rcases heard.heard team is player member active with knows | under
  · left
    obtain same | ⟨_, userId, _, found⟩ := GameState.winningTeam_of_step taken player
    · rw [same, knows]
    · have winner := heard.teams_ne _ (heard.wins.downlinks player userId _ found)
      have known : state.winningTeam player ≠ .invalid := by
        rw [knows]
        exact heard.teams_ne team is
      rw [keeps next taken player member known winner, knows]
  · rcases under.step heard.wins member taken with still | hears
    · exact .inr still
    · exact .inl (hears active)

theorem Heard.step (heard : Heard state teams) (keeps : KeepsWinner state event)
    (taken : state.step event = some next)
    : Heard next (teams ++ announcedBy state event next) := by
  have players := (GameState.client_of_step taken).1
  have announced {team : FlagTeam} (new : team ∈ announcedBy state event next) :=
    GameState.of_announced (Option.mem_toList.mp new) taken
  refine ⟨?_, ?_, ?_, ?_⟩
  · intro team is
    rcases List.mem_append.mp is with old | new
    · exact heard.teams_ne team old
    · exact (announced new).1
  · refine (heard.wins.mono fun team is => List.mem_append_left _ is).step ?_ taken
    intro team is
    exact List.mem_append_right _ (Option.mem_toList.mpr is)
  · intro team is player member active
    rw [players] at member
    rw [GameState.isModeActive_of_step taken] at active
    rcases List.mem_append.mp is with old | new
    · exact heard.still keeps taken old member active
    · exact .inr ((announced new).2.2 player)
  · intro some
    obtain ⟨team, is⟩ := List.exists_mem_of_ne_nil _ some
    rcases List.mem_append.mp is with old | new
    · obtain ⟨player, member, active⟩ := heard.played (List.ne_nil_of_mem old)
      refine ⟨player, ?_, ?_⟩
      · rwa [players]
      · rwa [GameState.isModeActive_of_step taken]
    · exact (announced new).2.1

/-- A run in which no winner changes has told every player of all wins or is about to. -/
theorem Fresh.heard (fresh : Fresh start)
    (run : Run GameState.step KeepsWinner start events state)
    : ∃ teams,
        Run (recording GameState.step announcedBy)
          (fun recorded event => KeepsWinner recorded.1 event) (start, []) events (state, teams)
        ∧ Heard state teams := by
  obtain ⟨teams, recorded⟩ := run.recorded announcedBy
  have base : Heard start [] :=
    ⟨nofun, fresh.mono fun _ never => never.elim, nofun, fun some => absurd rfl some⟩
  have keep {before after : GameState × List FlagTeam} {event : Event}
      (heard : Heard before.1 before.2) (keeps : KeepsWinner before.1 event)
      (taken : recording GameState.step announcedBy before event = some after)
      : Heard after.1 after.2 := by
    obtain ⟨stepped, notes⟩ := recording_cases taken
    rw [notes]
    exact heard.step keeps stepped
  exact ⟨teams, recorded,
    @Run.invariant _ _ _ _ (start, []) (fun noted => Heard noted.1 noted.2) base keep _ _
      recorded⟩

/-- When all wins have come, who was announced is the winner of every player of the game. -/
theorem Heard.winner {player : SocketId} (heard : Heard state teams) (settled : Settled state)
    (is : team ∈ teams) (member : player ∈ state.players)
    (active : (state.client player).isModeActive)
    : state.winningTeam player = team :=
  (heard.heard team is player member active).resolve_right (settled player member team)

theorem Heard.agree (heard : Heard state teams) (settled : Settled state) : Agree state := by
  intro left leftMember right rightMember leftActive rightActive
  cases teams with
  | nil =>
      -- nothing was announced
      have nobody (player : SocketId) : state.winningTeam player = .invalid :=
        (heard.wins.known player).resolve_right List.not_mem_nil
      rw [nobody left, nobody right]
  | cons team others =>
      have is : team ∈ team :: others := List.mem_cons_self
      rw [heard.winner settled is leftMember leftActive,
        heard.winner settled is rightMember rightActive]

theorem Heard.one_team (heard : Heard state teams) (settled : Settled state)
    : ∃ winner, ∀ team ∈ teams, team = winner := by
  cases teams with
  | nil => exact ⟨.invalid, nofun⟩
  | cons first others =>
      obtain ⟨player, member, active⟩ := heard.played (List.cons_ne_nil _ _)
      refine ⟨state.winningTeam player, ?_⟩
      intro team is
      exact (heard.winner settled is member active).symm

/-- As long as only one team is announced, no winner changes. -/
theorem Fresh.keepsWinner (fresh : Fresh start)
    (run : Run GameState.step (AnnouncesOnly team) start events state)
    : Run GameState.step KeepsWinner start events state := by
  have base : WinsAre (· = team) start := fresh.mono fun _ never => never.elim
  refine run.mono_using base (fun wins only taken => wins.step only taken) ?_
  intro state event next wins only taken again stepped player _ knew knows
  have before := (wins.known player).resolve_left knew
  have after := ((wins.step only stepped).known player).resolve_left knows
  rw [before, after]

/-- In a game in which all wins have come to all players, the players agree on the winner and
none of them ever changed it if and only if the wins were all of one team.
-/
theorem oneWinner_iff (fresh : Fresh start) (settled : Settled state)
    : Run GameState.step KeepsWinner start events state ∧ Agree state
      ↔ ∃ team, Run GameState.step (AnnouncesOnly team) start events state := by
  constructor
  · rintro ⟨run, _⟩
    obtain ⟨teams, recorded, heard⟩ := fresh.heard run
    obtain ⟨winner, one⟩ := heard.one_team settled
    refine ⟨winner, (recorded.of_notes one).mono_using trivial (fun _ _ _ => trivial) ?_⟩
    intro state event next _ notes taken announced is
    exact notes next taken announced (Option.mem_toList.mpr is)
  · rintro ⟨team, run⟩
    have keeps := fresh.keepsWinner run
    obtain ⟨teams, _, heard⟩ := fresh.heard keeps
    exact ⟨keeps, heard.agree settled⟩

/-- A blue and a red captain. -/
def captains : GameState where
  players := [1, 2]
  client player := if player = 1 then captain .blue else captain .red

theorem captains_fresh : Fresh captains where
  queued player queued := by
    simp only [captains] at queued
    split at queued <;> cases queued
  uplinks _ _ sent := nomatch sent
  sends _ _ _ sent := nomatch sent
  downlinks _ _ _ sent := nomatch sent
  known player := by
    left
    simp only [GameState.winningTeam, captains]
    split <;> rfl

instance (team : FlagTeam) (state : GameState) : DecidablePred (AnnouncesOnly team state) :=
  fun event => inferInstanceAs (Decidable (∀ announced ∈ state.announced event, _))

/-- Both captains put their flags down on their own sides. -/
def flagsDown : List Event :=
  [.frame 1 { buttonPress := true, teamSide := .blue }] ++ passOn 1 [1, 2]
  ++ [.frame 2 { buttonPress := true, teamSide := .red }] ++ passOn 2 [1, 2]

/-- A captain goes to the other team's flag and picks it up. -/
def picksUp (player : SocketId) (team : FlagTeam) : List Event :=
  [.frame player { buttonPress := true, near := (· == team), teamSide := team }]
  ++ passOn player [1, 2]

/-- A captain comes home with the flag, which shows the flag and announces the win. -/
def comesHome (player : SocketId) (team : FlagTeam) : Event :=
  .frame player { teamSide := team }

/-- When the blue team alone brings home a flag, it is the winner of both players. -/
theorem blue_wins
    : ∃ state,
        Run GameState.step KeepsWinner captains
          (flagsDown ++ picksUp 1 .red ++ [comesHome 1 .blue] ++ passOn 1 [1, 2]
            ++ passOn 1 [1, 2])
          state
        ∧ Agree state
        ∧ state.winningTeam 1 = .blue
        ∧ state.winningTeam 2 = .blue := by
  have executes
      : (executeChecked GameState.step (fun state event => AnnouncesOnly .blue state event)
          captains
          (flagsDown ++ picksUp 1 .red ++ [comesHome 1 .blue] ++ passOn 1 [1, 2]
            ++ passOn 1 [1, 2])).any
          (fun state =>
            Idle state ∧ state.winningTeam 1 = .blue ∧ state.winningTeam 2 = .blue)
        = true := by decide +kernel
  obtain ⟨state, executed, ends⟩ := (Option.any_eq_true _ _).mp executes
  obtain ⟨idle, winners⟩ := of_decide_eq_true ends
  have run := executeChecked_run (fun _ _ => of_decide_eq_true) executed
  obtain ⟨keeps, agree⟩ := (oneWinner_iff captains_fresh idle.settled).mpr ⟨.blue, run⟩
  exact ⟨state, keeps, agree, winners⟩

/-- When both captains come home before either has heard of a win, the handlers send the two wins
to the two players in different orders, and each player ends with the other as the winner.
-/
theorem both_lose
    : ∃ state,
        Fresh captains
        ∧ AnyRun GameState.step captains
            (flagsDown ++ picksUp 1 .red ++ picksUp 2 .blue
              ++ [comesHome 1 .blue, comesHome 2 .red]
              ++ passOn 1 [1, 2] ++ passOn 2 [1, 2] ++ passOn 1 [1] ++ passOn 2 [1, 2]
              ++ [.send (some 1) 2, .deliver 2 false])
            state
        ∧ Settled state
        ∧ state.winningTeam 1 = .red
        ∧ state.winningTeam 2 = .blue
        ∧ ¬Agree state := by
  obtain ⟨state, run, ⟨first, second⟩, idle, one, two⟩ :=
    exists_run
      (fun state : GameState =>
        ((1 ∈ state.players ∧ (state.client 1).isModeActive)
          ∧ 2 ∈ state.players ∧ (state.client 2).isModeActive)
        ∧ Idle state
        ∧ state.winningTeam 1 = .red
        ∧ state.winningTeam 2 = .blue)
      (by decide +kernel
        : (execute GameState.step captains
            (flagsDown ++ picksUp 1 .red ++ picksUp 2 .blue
              ++ [comesHome 1 .blue, comesHome 2 .red]
              ++ passOn 1 [1, 2] ++ passOn 2 [1, 2] ++ passOn 1 [1] ++ passOn 2 [1, 2]
              ++ [.send (some 1) 2, .deliver 2 false])).any _ = true)
  refine ⟨state, captains_fresh, run, idle.settled, one, two, ?_⟩
  intro agree
  have same := agree 1 first.1 2 second.1 first.2 second.2
  rw [one, two] at same
  cases same

end SmoOnline.Mod
