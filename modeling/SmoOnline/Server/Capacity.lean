import SmoOnline.Server.Table

/-! The player limit. A join is turned away when exactly as many clients are connected as the
limit allows, so the limit holds until it is lowered below the number of connected clients:
from then on every join is let in.
-/

namespace SmoOnline

open Span Utf8 Runs

/-- The number of entries with `Connected = true`. -/
def ServerState.connectedCount (state : ServerState) : Nat := state.connectedClients.length

/-- `Settings.Instance.Server.MaxPlayers`. -/
def ServerState.playerLimit (state : ServerState) : Nat :=
  state.settings.server.maxPlayers.toNat

/-- The join has entered the socket's client into the table. -/
def Admitted (next : ServerState) (socket : SocketId) : Prop :=
  (next.session socket).phase ≠ .failing

instance (next : ServerState) (socket : SocketId) : Decidable (Admitted next socket) :=
  inferInstanceAs (Decidable (_ ≠ _))

/-- A join that admits a client leaves the limit it was decided under in force. -/
def JoinKeepsLimit (runtime : Runtime) (state : ServerState) (event : Event) : Prop :=
  ∀ socket next,
    event = .join socket
    → state.step runtime event = some next
    → Admitted next socket
    → next.connectedCount ≤ state.playerLimit

/-- Whoever asks to join with one of the two connection types finds no more clients connected
than the limit allows.
-/
def WithinLimit (state : ServerState) (event : Event) : Prop :=
  ∀ socket memory connect,
    event = .join socket
    → (state.session socket).phase = .connecting memory connect
    → connect.connectionType = .firstConnection ∨ connect.connectionType = .reconnecting
    → state.connectedCount ≤ state.playerLimit

namespace ServerState

variable {state : ServerState} {socket : SocketId}

theorem connectedClients_register (memory : Bytes) (connect : ConnectPacket) {id : Guid}
    (outside : socket ∉ state.clients) (missing : state.findExistingClient id = none)
    : (state.register socket memory connect id).connectedClients
      = state.connectedClients ++ [socket] := by
  have session := state.session_register socket memory connect missing
  have clients
      : (state.register socket memory connect id).clients = state.clients ++ [socket] := by
    rw [register_eq memory connect missing]
    rfl
  unfold connectedClients
  rw [clients, List.filter_append]
  congr 1
  · apply List.filter_congr
    intro other member
    rw [session, if_neg (ne_of_mem_of_not_mem member outside)]
  · simp [session]

theorem connectedClients_takeOver (tidy : Tidy state) (memory : Bytes)
    (connect : ConnectPacket) {oldClient : SocketId} (entry : oldClient ∈ state.clients)
    (outside : socket ∉ state.clients)
    : (state.takeOver socket memory connect oldClient).connectedClients
      = (state.clients.erase oldClient).filter (fun other => (state.session other).connected)
        ++ [socket] := by
  have self := state.session_takeOver_self memory connect (ne_of_mem_of_not_mem entry outside)
  unfold connectedClients
  rw [clients_takeOver tidy memory connect entry, List.filter_append]
  congr 1
  · apply List.filter_congr
    intro other member
    have apart := ne_of_mem_of_not_mem (List.mem_of_mem_erase member) outside
    rw [state.session_takeOver_other memory connect oldClient apart]
  · simp [self]

/-- Taking over an entry connects one more client, or as many as before where the old client
was still connected.
-/
theorem connectedCount_takeOver (tidy : Tidy state) (memory : Bytes)
    (connect : ConnectPacket) {oldClient : SocketId} (entry : oldClient ∈ state.clients)
    (outside : socket ∉ state.clients)
    : state.connectedCount ≤ (state.takeOver socket memory connect oldClient).connectedCount
      ∧ (state.takeOver socket memory connect oldClient).connectedCount
        ≤ state.connectedCount + 1 := by
  have split
      := ((List.perm_cons_erase entry).filter
        (fun other => (state.session other).connected)).length_eq
  unfold connectedCount
  rw [connectedClients_takeOver tidy memory connect entry outside, List.length_append,
    List.length_singleton, connectedClients, split, List.filter_cons]
  split_ifs <;> simp

/-- A join that is not turned away admits its client, and at least as many clients are
connected behind it as before.
-/
theorem joinKeepsLimit_iff {runtime : Runtime} {next : ServerState} (tidy : Tidy state)
    (taken : state.step runtime (.join socket) = some next)
    : JoinKeepsLimit runtime state (.join socket) ↔ WithinLimit state (.join socket) := by
  obtain ⟨memory, connect, header, connecting, _, _, outcome⟩ := join_cases taken
  have outside := (tidy.fresh socket (by rw [connecting]; rfl)).1
  -- both sides speak of this join only
  have keeps
      : JoinKeepsLimit runtime state (.join socket)
        ↔ (Admitted next socket → next.connectedCount ≤ state.playerLimit) := by
    constructor
    · intro keeps
      exact keeps socket next rfl taken
    · rintro keeps other after same again
      obtain rfl := Event.join.inj same
      obtain rfl := Option.some.inj (taken.symm.trans again)
      exact keeps
  have within
      : WithinLimit state (.join socket)
        ↔ (connect.connectionType = .firstConnection
            ∨ connect.connectionType = .reconnecting
            → state.connectedCount ≤ state.playerLimit) := by
    constructor
    · intro within
      exact within socket memory connect rfl connecting
    · rintro within other held asked same again
      obtain rfl := Event.join.inj same
      obtain ⟨rfl, rfl⟩ := Phase.connecting.inj (connecting.symm.trans again)
      exact within
  rw [keeps, within]
  rcases outcome with ⟨full, rfl⟩ | ⟨_, notFirst, notAgain, rfl⟩
    | ⟨notFull, valid, oldClient, found, rfl⟩ | ⟨notFull, valid, missing, rfl⟩
  · refine iff_of_true (fun admitted => ?_) fun _ => Nat.le_of_eq full
    exact absurd (by simp) admitted
  · refine iff_of_true (fun admitted => ?_) fun valid => ?_
    · exact absurd (by simp) admitted
    · exact absurd valid (by simp [notFirst, notAgain])
  · have entry := (findExistingClient_some found).1
    have self := state.session_takeOver_self memory connect (ne_of_mem_of_not_mem entry outside)
    have admitted : Admitted (state.takeOver socket memory connect oldClient) socket := by
      rw [Admitted, self]
      simp
    obtain ⟨low, high⟩ := connectedCount_takeOver tidy memory connect entry outside
    constructor
    · intro kept _
      exact Nat.le_trans low (kept admitted)
    · intro below _
      have strict : state.connectedCount < state.playerLimit :=
        Nat.lt_of_le_of_ne (below valid) notFull
      omega
  · have self := state.session_register socket memory connect missing socket
    have admitted : Admitted (state.register socket memory connect header.id) socket := by
      rw [Admitted, self, if_pos rfl]
      simp
    have count
        : (state.register socket memory connect header.id).connectedCount
          = state.connectedCount + 1 := by
      rw [connectedCount, connectedClients_register memory connect outside missing,
        List.length_append]
      rfl
    rw [count]
    constructor
    · intro kept _
      exact Nat.le_of_succ_le (kept admitted)
    · intro below _
      exact Nat.lt_of_le_of_ne (below valid) notFull

end ServerState

/-- An event other than a join leaves the limit alone in both senses. -/
theorem joinKeepsLimit_iff_of_taken {runtime : Runtime} {state next : ServerState}
    {event : Event} (tidy : Tidy state) (taken : state.step runtime event = some next)
    : JoinKeepsLimit runtime state event ↔ WithinLimit state event := by
  cases event with
  | join socket => exact ServerState.joinKeepsLimit_iff tidy taken
  | _ => exact iff_of_true (fun _ _ joins => by cases joins) fun _ _ _ joins => by cases joins

/-- Every join of a run keeps the limit exactly when every join of it was decided within the
limit.
-/
theorem joinsKeepLimit_iff (runtime : Runtime) (settings : Settings) (shines : List Int32)
    (events : List Event) (state : ServerState)
    : Run (ServerState.step runtime) (JoinKeepsLimit runtime) (.initial settings shines)
        events state
      ↔ Run (ServerState.step runtime) WithinLimit (.initial settings shines) events state := by
  apply Run.congr Tidy (.initial settings shines)
  · intro state event next tidy _ taken
    exact tidy.step taken
  · intro state event next tidy taken
    exact joinKeepsLimit_iff_of_taken tidy taken

/-- Two players are in the game when the limit is set to one. Bowser, the third, is let in.
-/
theorem third_of_one_admitted
    : ∃ state next,
        AnyRun (ServerState.step .pooled) (.initial {} [])
          (duet
            ++ [.configure { server := { maxPlayers := 1 } }]
            ++ (arrival .pooled 3 ⟨9⟩ .firstConnection "Bowser".toList []).take 2)
          state
        ∧ state.step .pooled (.join 3) = some next
        ∧ Admitted next 3
        ∧ (state.playerLimit, next.connectedCount) = (1, 3)
        ∧ ¬JoinKeepsLimit .pooled state (.join 3) := by
  obtain ⟨state, next, run, taken, admitted, counts⟩ :=
    @exists_run_step _ _ (ServerState.step .pooled) (.initial {} [])
      (duet
        ++ [.configure { server := { maxPlayers := 1 } }]
        ++ (arrival .pooled 3 ⟨9⟩ .firstConnection "Bowser".toList []).take 2)
      (.join 3)
      (fun state next => Admitted next 3 ∧ (state.playerLimit, next.connectedCount) = (1, 3)) _
      (by decide)
  refine ⟨state, next, run, taken, admitted, counts, fun keeps => ?_⟩
  have bound := keeps 3 next rfl taken admitted
  obtain ⟨limit, count⟩ := Prod.ext_iff.mp counts
  dsimp only at limit count
  omega

end SmoOnline
