import SmoOnline.Mod.Machine

/-! Who holds the flags. Only a frame changes what a client holds, and the flags have one holder
each exactly as long as nobody picks up a flag that somebody else holds.
-/

namespace SmoOnline.Mod

open Runs Links

namespace GameState

def heldFlag (state : GameState) (player : SocketId) : FlagTeam :=
  (state.client player).info.heldFlag

end GameState

/-- At most one connected client holds each flag. -/
def OneHolder (state : GameState) : Prop :=
  ∀ flagTeam,
    flagTeam ≠ .invalid
    → ∀ left ∈ state.players,
        ∀ right ∈ state.players,
          state.heldFlag left = flagTeam → state.heldFlag right = flagTeam → left = right

/-- The captains hold the flags of their teams, and nobody else holds one. -/
def Assigned (state : GameState) : Prop :=
  ∃ captain : FlagTeam → Option SocketId,
    ∀ player ∈ state.players,
      let team := (state.client player).info.playerTeam
      state.heldFlag player = if captain team = some player then team else .invalid

/-- A captain holds the flag of the team. -/
def captain (team : FlagTeam) : Client := { info := { playerTeam := team, heldFlag := team } }

def teammate (team : FlagTeam) : Client := { info := { playerTeam := team } }

/-- Player 1 is the captain of the blue team, and all others are of the red team. -/
def redAgainstBlue : GameState where
  players := [1, 2, 3, 4]
  client player :=
    if player = 1 then captain .blue else if player = 2 then captain .red else teammate .red

/-- The flag that a frame picks up. -/
def Client.takes (client : Client) (inputs : Inputs) : Option FlagTeam :=
  if inputs.buttonPress ∧ client.info.heldFlag = .invalid then client.pickUp inputs else none

/-- A flag is picked up only when no connected client holds it. -/
def Unclaimed (state : GameState) : Event → Prop
  | .frame player inputs =>
      ∀ flagTeam ∈ (state.client player).takes inputs,
        ∀ other ∈ state.players, state.heldFlag other ≠ flagTeam
  | _ => True

instance (state : GameState) : DecidablePred (Unclaimed state)
  | .frame player inputs =>
      inferInstanceAs
        (Decidable
          (∀ flagTeam ∈ (state.client player).takes inputs,
            ∀ other ∈ state.players, state.heldFlag other ≠ flagTeam))
  | .trySendQueue _ | .handle _ | .send _ _ | .deliver _ _ | .sendFlagPacket _ => .isTrue trivial

theorem redAgainstBlue_assigned : Assigned redAgainstBlue := by
  refine ⟨fun | .blue => some 1 | .red => some 2 | .invalid => none, ?_⟩
  intro player member
  simp only [redAgainstBlue, List.mem_cons, List.not_mem_nil, or_false] at member
  rcases member with rfl | rfl | rfl | rfl <;> rfl

theorem Assigned.oneHolder {state : GameState} (assigned : Assigned state) : OneHolder state := by
  obtain ⟨captain, holds⟩ := assigned
  -- who holds a flag is the captain of its team
  have captain_of {player : SocketId} {flagTeam : FlagTeam} (flag : flagTeam ≠ .invalid)
      (member : player ∈ state.players) (held : state.heldFlag player = flagTeam)
      : captain flagTeam = some player := by
    have own := holds player member
    dsimp only at own
    split_ifs at own with isCaptain
    · rw [← held, own]
      exact isCaptain
    · exact absurd (held.symm.trans own) flag
  intro flagTeam flag left leftMember right rightMember leftHeld rightHeld
  have one := captain_of flag leftMember leftHeld
  rw [captain_of flag rightMember rightHeld] at one
  exact (Option.some.inj one).symm

-----------------------------------------------------------------------------------------
-- What a client holds behind a frame
-----------------------------------------------------------------------------------------

namespace Client

variable (client : Client) (inputs : Inputs)

@[simp] theorem heldFlag_setHeldFlag (flagTeam : FlagTeam)
    : (client.setHeldFlag flagTeam).info.heldFlag = flagTeam := rfl

theorem heldFlag_dropHeldFlag : client.dropHeldFlag.info.heldFlag = .invalid := by
  unfold dropHeldFlag
  split_ifs with none
  · exact none
  · rfl

variable {client inputs}

/-- A flag that is picked up is one. -/
theorem pickUp_ne_invalid {flagTeam : FlagTeam} (found : client.pickUp inputs = some flagTeam)
    : flagTeam ≠ .invalid := by
  have may := List.find?_some found
  simp only [canPickUp, Bool.and_eq_true, bne_iff_ne] at may
  exact may.1.1

/-- A frame that picks up a flag had none before. -/
theorem takes_eq_some {flagTeam : FlagTeam} (takes : client.takes inputs = some flagTeam)
    : client.info.heldFlag = .invalid
      ∧ flagTeam ≠ .invalid
      ∧ (client.update inputs).info.heldFlag = flagTeam := by
  unfold Client.takes at takes
  split_ifs at takes with press
  refine ⟨press.2, pickUp_ne_invalid takes, ?_⟩
  rw [info_update, checkPickUpOrDropFlag]
  simp [press.1, press.2, takes]

/-- A frame that picks up no flag leaves the client with what it held or with none. -/
theorem takes_eq_none (takes : client.takes inputs = none)
    : (client.update inputs).info.heldFlag = client.info.heldFlag
      ∨ (client.update inputs).info.heldFlag = .invalid := by
  rw [info_update, checkPickUpOrDropFlag]
  split_ifs with idle held
  · exact .inl rfl
  · exact .inl rfl
  · exact .inr client.heldFlag_dropHeldFlag
  · have empty := not_not.mp held
    have none : client.pickUp inputs = none := by
      simpa [Client.takes, empty, (by simpa using idle : inputs.buttonPress = true)] using takes
    rw [none]
    exact .inl rfl

end Client

-----------------------------------------------------------------------------------------
-- What the clients hold in a run
-----------------------------------------------------------------------------------------

variable {start state next : GameState} {event : Event} {events : List Event}

@[simp] theorem Client.heldFlag_readPacket (client : Client) (isFirstFrame : Bool)
    (packet : Packet)
    : (client.readPacket isFirstFrame packet).info.heldFlag = client.info.heldFlag := by
  obtain ⟨flagInfos, reads⟩ := client.readPacket_eq isFirstFrame packet
  rw [reads]

/-- A frame leaves what the other players hold. -/
theorem heldFlag_frame {player other : SocketId} {inputs : Inputs} (different : other ≠ player)
    (taken : state.step (.frame player inputs) = some next)
    : next.heldFlag other = state.heldFlag other := by
  obtain ⟨_, _, clients⟩ := GameState.client_of_step taken
  simp [GameState.heldFlag, clients, different]

/-- Only a frame changes what anybody holds. -/
theorem heldFlag_of_step (taken : state.step event = some next)
    (quiet : ∀ player inputs, event ≠ .frame player inputs) (player : SocketId)
    : next.heldFlag player = state.heldFlag player := by
  obtain ⟨_, clients⟩ := GameState.client_of_step taken
  unfold GameState.heldFlag
  cases event with
  | frame other inputs => exact absurd rfl (quiet other inputs)
  | trySendQueue other =>
      obtain ⟨later, clients⟩ := clients
      rw [clients, Function.update_apply]
      split_ifs with same
      · rw [same]
      · rfl
  | deliver other isFirstFrame =>
      obtain ⟨packet, _, clients⟩ := clients
      rw [clients, Function.update_apply]
      split_ifs with same
      · rw [same, Client.heldFlag_readPacket]
      · rfl
  | handle | send | sendFlagPacket => rw [clients]

/-- Where everybody holds what they held or nothing, the flags still have one holder each. -/
theorem OneHolder.of_held (one : OneHolder state) (players : next.players = state.players)
    (held
      : ∀ player,
          next.heldFlag player = state.heldFlag player ∨ next.heldFlag player = .invalid)
    : OneHolder next := by
  intro flagTeam flag left leftMember right rightMember leftHeld rightHeld
  rw [players] at leftMember rightMember
  have held_before {player : SocketId} (now : next.heldFlag player = flagTeam)
      : state.heldFlag player = flagTeam := by
    rcases held player with same | none
    · rw [← same, now]
    · exact absurd (now.symm.trans none) flag
  exact one flagTeam flag left leftMember right rightMember (held_before leftHeld)
    (held_before rightHeld)

/-- A flag that nobody held and one player picks up has one holder. -/
theorem OneHolder.of_taken {player : SocketId} {flagTeam : FlagTeam} (one : OneHolder state)
    (players : next.players = state.players)
    (free : ∀ other ∈ state.players, state.heldFlag other ≠ flagTeam)
    (takes : next.heldFlag player = flagTeam)
    (others : ∀ other, other ≠ player → next.heldFlag other = state.heldFlag other)
    : OneHolder next := by
  intro found flag left leftMember right rightMember leftHeld rightHeld
  rw [players] at leftMember rightMember
  -- nobody else holds what the player holds now
  have player_alone {other : SocketId} (member : other ∈ state.players)
      (held : next.heldFlag other = next.heldFlag player)
      : other = player := by
    by_contra different
    rw [others other different, takes] at held
    exact free other member held
  by_cases isLeft : left = player
  · subst isLeft
    exact (player_alone rightMember (rightHeld.trans leftHeld.symm)).symm
  · by_cases isRight : right = player
    · subst isRight
      exact player_alone leftMember (leftHeld.trans rightHeld.symm)
    · rw [others left isLeft] at leftHeld
      rw [others right isRight] at rightHeld
      exact one found flag left leftMember right rightMember leftHeld rightHeld

/-- It takes a flag that somebody else holds for a step to give a flag two holders. -/
theorem OneHolder.unclaimed_iff (one : OneHolder state) (taken : state.step event = some next)
    : Unclaimed state event ↔ OneHolder next := by
  have players := (GameState.client_of_step taken).1
  by_cases quiet : ∀ player inputs, event ≠ .frame player inputs
  · have unclaimed : Unclaimed state event := by
      cases event with
      | frame player inputs => exact absurd rfl (quiet player inputs)
      | trySendQueue | handle | send | deliver | sendFlagPacket => trivial
    have held := heldFlag_of_step taken quiet
    exact iff_of_true unclaimed (one.of_held players fun player => .inl (held player))
  push Not at quiet
  obtain ⟨player, inputs, rfl⟩ := quiet
  obtain ⟨_, member, clients⟩ := GameState.client_of_step taken
  have own : next.heldFlag player = ((state.client player).update inputs).info.heldFlag := by
    simp [GameState.heldFlag, clients]
  have others (other : SocketId) (different : other ≠ player) :=
    heldFlag_frame different taken
  cases takes : (state.client player).takes inputs with
  | none =>
      have held (other : SocketId)
          : next.heldFlag other = state.heldFlag other ∨ next.heldFlag other = .invalid := by
        by_cases same : other = player
        · subst same
          rw [own]
          exact Client.takes_eq_none takes
        · exact .inl (others other same)
      have unclaimed : Unclaimed state (.frame player inputs) := by
        simp [Unclaimed, takes]
      exact iff_of_true unclaimed (one.of_held players held)
  | some flagTeam =>
      obtain ⟨empty, flag, gets⟩ := Client.takes_eq_some takes
      rw [← own] at gets
      constructor
      · intro unclaimed
        exact one.of_taken players (unclaimed flagTeam takes) gets others
      · intro still found pickedUp other otherMember held
        obtain rfl : flagTeam = found := Option.some.inj (takes.symm.trans pickedUp)
        have different : other ≠ player := by
          rintro rfl
          exact flag (held.symm.trans empty)
        refine different (still flagTeam flag other ?_ player ?_ ?_ gets)
        · rwa [players]
        · rwa [players]
        · rw [others other different, held]

/-- From the assignment of the captains, the flags have one holder each throughout a run if and
only if no frame of it picks up a flag that somebody else holds, which a client cannot tell from
what it knows.
-/
theorem oneHolder_iff (assigned : Assigned start)
    : Run GameState.step Unclaimed start events state
      ↔ Run GameState.step (Into GameState.step OneHolder) start events state :=
  Run.into_iff assigned.oneHolder OneHolder.unclaimed_iff

/-- The blue captain shows everybody the flag and puts it down on the own side. -/
def blueFlagDown : List Event :=
  [.frame 1 {}] ++ passOn 1 [2, 3, 4]
  ++ [.frame 1 { buttonPress := true, teamSide := .blue }] ++ passOn 1 [2, 3, 4]

/-- A player of the red team at the blue flag picks it up. -/
def picksUpBlue (player : SocketId) : Event :=
  .frame player { buttonPress := true, near := (· == .blue), teamSide := .blue }

/-- When player 4 has heard that player 3 holds the flag, the flag stays with player 3. -/
theorem second_press_takes_nothing
    : ∃ state,
        Run GameState.step (Into GameState.step OneHolder) redAgainstBlue
          (blueFlagDown ++ [picksUpBlue 3] ++ passOn 3 [4] ++ [picksUpBlue 4]) state
        ∧ state.heldFlag 3 = .blue
        ∧ state.heldFlag 4 = .invalid := by
  have executes
      : (executeChecked GameState.step (fun state event => Unclaimed state event) redAgainstBlue
          (blueFlagDown ++ [picksUpBlue 3] ++ passOn 3 [4] ++ [picksUpBlue 4])).any
          (fun state => state.heldFlag 3 = .blue ∧ state.heldFlag 4 = .invalid)
        = true := by decide +kernel
  obtain ⟨state, executed, held⟩ := (Option.any_eq_true _ _).mp executes
  have run := executeChecked_run (fun _ _ => of_decide_eq_true) executed
  exact ⟨state, (oneHolder_iff redAgainstBlue_assigned).mp run, of_decide_eq_true held⟩

/-- Two players who reach the flag before either has heard of the other both hold it. -/
theorem flag_held_twice
    : ∃ state,
        Assigned redAgainstBlue
        ∧ AnyRun GameState.step redAgainstBlue
            (blueFlagDown ++ [picksUpBlue 3, picksUpBlue 4]) state
        ∧ state.heldFlag 3 = .blue
        ∧ state.heldFlag 4 = .blue
        ∧ ¬OneHolder state := by
  obtain ⟨state, run, ⟨left, right⟩, third, fourth⟩ :=
    exists_run
      (fun state : GameState =>
        (3 ∈ state.players ∧ 4 ∈ state.players)
        ∧ state.heldFlag 3 = .blue
        ∧ state.heldFlag 4 = .blue)
      (by decide +kernel
        : (execute GameState.step redAgainstBlue
            (blueFlagDown ++ [picksUpBlue 3, picksUpBlue 4])).any _ = true)
  refine ⟨state, redAgainstBlue_assigned, run, third, fourth, ?_⟩
  intro one
  have same : (3 : SocketId) = 4 :=
    one .blue nofun 3 left 4 right third fourth
  exact absurd same (by decide)

end SmoOnline.Mod
