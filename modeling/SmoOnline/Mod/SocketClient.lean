import SmoOnline.Mod.Socket
import SmoOnline.Mod.Reconnect

/-! The connection as `SocketClient` makes, uses and makes it again: what it writes when a call to
`nn::socket::Send` accepts less than it is given, and what a failed attempt to connect again leaves
of the descriptor. The network answers from a list of attempts, one for each call of `init`.
-/

namespace SmoOnline.Mod

open Span Runs

/-- What the two calls to `nn::socket::Send` in `SocketClient::send` return. -/
structure SendResults where
  length : Int
  text : Int
  deriving DecidableEq, Repr

/-- What the calls in `SocketClient::init` return, where they are made. -/
structure Attempt where
  /-- `nn::nifm::IsNetworkAvailable`; an emulator does not ask. -/
  isNetworkAvailable : Bool := true
  /-- `nn::socket::Socket` -/
  socket : Int
  /-- `stringToIPAddress` -/
  resolves : Bool := true
  /-- `nn::socket::Connect` -/
  connects : Bool := true
  /-- for the packet with which `init` presents the player -/
  sends : SendResults
  deriving DecidableEq, Repr

/-- What the packet with which `init` presents the player has as `con_type`. -/
inductive ConnectionTypes
  | init
  | reconnect
  deriving DecidableEq, Repr

/-- The socket of a player's game. -/
structure SocketClient where
  socket_log_state : LogState := .uninitialized
  socket_log_socket : Int := 0
  mIsFirstConnect : Bool := true
  /-- `socket_log_socket` is the descriptor of an open socket. -/
  isOpen : Bool := false
  /-- The sockets that were opened so far. -/
  opened : Nat := 0
  /-- What was accepted on the socket opened last. -/
  accepted : Bytes := []
  deriving DecidableEq, Repr

namespace SocketClient

variable (playerConnect : ConnectionTypes → Bytes)
  (reconnect : SocketClient → Option (Bool × SocketClient)) (client : SocketClient)

/-- `nn::socket::Close` fails on a descriptor that is negative or closed. -/
def closeSocket : Bool × SocketClient :=
  (client.isOpen, { client with socket_log_state := .disconnected, isOpen := false })

/-- `nn::socket::Socket` -/
def socket (descriptor : Int) : SocketClient :=
  if descriptor < 0 then { client with socket_log_socket := descriptor, isOpen := false }
  else
    { client with
      socket_log_socket := descriptor
      isOpen := true
      opened := client.opened + 1
      accepted := [] }

/-- A call of the closure in `send`. It loses the number of octets that were accepted. -/
def sendData (data : Bytes) (accepts : Int) : Option (Bool × SocketClient) :=
  if 0 < accepts then
    some (true, { client with accepted := client.accepted ++ data.take accepts.toNat })
  else (reconnect client).map fun tried => (false, tried.2)

def send (json : Bytes) (results : SendResults) : Option (Bool × SocketClient) :=
  if client.socket_log_state ≠ .connected then some (false, client)
  else
    match client.sendData reconnect (packetLength json) results.length with
    | some (true, after) => after.sendData reconnect json results.text
    | other => other

/-- Whether the result is a success. The packets that `resendInitPackets` queues are not looked
into.
-/
def init (attempt : Attempt) : Option (Bool × SocketClient) :=
  if !attempt.isNetworkAvailable then
    some (false, { client with socket_log_state := .unavailable })
  else if attempt.socket < 0 then
    some (false, { client.socket attempt.socket with socket_log_state := .unavailable })
  else if !attempt.resolves then
    some (false, { client.socket attempt.socket with socket_log_state := .unavailable })
  else if !attempt.connects then
    some (false, { client.socket attempt.socket with socket_log_state := .unavailable })
  else
    let connected :=
      { client.socket attempt.socket with
        socket_log_state := .connected
        mIsFirstConnect := false }
    let con_type := if client.mIsFirstConnect then .init else .reconnect
    (connected.send reconnect (playerConnect con_type) attempt.sends).map fun sent => (true, sent.2)

/-- The next attempts, of which there must be enough. -/
def tryReconnect : List Attempt → SocketClient → Option (Bool × SocketClient)
  | [], client => if client.closeSocket.1 then none else some (false, client.closeSocket.2)
  | attempt :: later, client =>
      if client.closeSocket.1 then
        client.closeSocket.2.init playerConnect (tryReconnect later) attempt
      else some (false, client.closeSocket.2)

-----------------------------------------------------------------------------------------
-- What the calls leave
-----------------------------------------------------------------------------------------

end SocketClient

/-- Neither call to `nn::socket::Send` fails. -/
def SendResults.isSent (results : SendResults) : Bool := 0 < results.length && 0 < results.text

theorem SendResults.isSent_eq_true {results : SendResults}
    : results.isSent = true ↔ 0 < results.length ∧ 0 < results.text := by
  simp [isSent]

namespace Attempt

variable (attempt : Attempt)

/-- The attempt has an open socket. -/
def opens : Bool := attempt.isNetworkAvailable && 0 ≤ attempt.socket

/-- The attempt has a connection. -/
def succeeds : Bool := attempt.opens && attempt.resolves && attempt.connects

variable {attempt}

theorem opens_eq_true
    : attempt.opens = true ↔ attempt.isNetworkAvailable = true ∧ 0 ≤ attempt.socket := by
  simp [opens]

theorem succeeds_eq_true
    : attempt.succeeds = true
      ↔ attempt.opens = true ∧ attempt.resolves = true ∧ attempt.connects = true := by
  simp [succeeds, and_assoc]

/-- The attempts that a call of `tryReconnect` makes: a further one where the player could not be
presented on the connection that there was.
-/
def made : List Attempt → List Attempt
  | [] => []
  | attempt :: later =>
      attempt :: if attempt.succeeds && !attempt.sends.isSent then made later else []

end Attempt

namespace SocketClient

variable {playerConnect : ConnectionTypes → Bytes}
  {reconnect : SocketClient → Option (Bool × SocketClient)} {client after : SocketClient}
  {returns : Bool}

/-- What an attempt without a connection leaves. -/
def failed (client : SocketClient) (attempt : Attempt) : SocketClient :=
  { if attempt.isNetworkAvailable then client.socket attempt.socket else client with
    socket_log_state := .unavailable }

/-- What an attempt with a connection has before it presents the player. -/
def connected (client : SocketClient) (attempt : Attempt) : SocketClient :=
  { client.socket attempt.socket with
    socket_log_state := .connected
    mIsFirstConnect := false }

/-- More has been accepted. -/
def accept (client : SocketClient) (octets : Bytes) : SocketClient :=
  { client with accepted := client.accepted ++ octets }

theorem send_away (reconnect : SocketClient → Option (Bool × SocketClient)) (json : Bytes)
    (results : SendResults) (away : client.socket_log_state ≠ .connected)
    : client.send reconnect json results = some (false, client) :=
  if_pos away

/-- Where neither call fails, `send` returns true, however much they accept. -/
theorem send_sent (reconnect : SocketClient → Option (Bool × SocketClient)) (json : Bytes)
    {results : SendResults} (online : client.socket_log_state = .connected)
    (isSent : results.isSent = true)
    : client.send reconnect json results
      = some
          (true,
            client.accept
              ((packetLength json).take results.length.toNat
                ++ json.take results.text.toNat)) := by
  obtain ⟨length, text⟩ := SendResults.isSent_eq_true.mp isSent
  rw [send, if_neg (not_not.mpr online), sendData, if_pos length]
  simp only [sendData, if_pos text, accept, List.append_assoc]

/-- Where a call fails, `send` connects again and returns false. -/
theorem send_unsent (reconnect : SocketClient → Option (Bool × SocketClient)) (json : Bytes)
    {results : SendResults} (online : client.socket_log_state = .connected)
    (unsent : results.isSent = false)
    : ∃ octets,
        client.send reconnect json results
          = (reconnect (client.accept octets)).map fun tried => (false, tried.2) := by
  rw [send, if_neg (not_not.mpr online), sendData]
  by_cases length : 0 < results.length
  · have text : ¬0 < results.text := fun text =>
      Bool.eq_false_iff.mp unsent (SendResults.isSent_eq_true.mpr ⟨length, text⟩)
    refine ⟨(packetLength json).take results.length.toNat, ?_⟩
    simp only [if_pos length, sendData, if_neg text, accept]
  · refine ⟨[], ?_⟩
    rw [if_neg length]
    simp only [accept, List.append_nil]
    cases reconnect client <;> rfl

theorem init_fails (playerConnect : ConnectionTypes → Bytes)
    (reconnect : SocketClient → Option (Bool × SocketClient)) {attempt : Attempt}
    (fails : attempt.succeeds = false)
    : client.init playerConnect reconnect attempt = some (false, client.failed attempt) := by
  unfold init failed
  cases network : attempt.isNetworkAvailable with
  | false => rfl
  | true =>
      by_cases negative : attempt.socket < 0
      · simp only [negative, Bool.not_true, Bool.false_eq_true, if_true, if_false]
      · have opens := Attempt.opens_eq_true.mpr ⟨network, Int.not_lt.mp negative⟩
        cases resolves : attempt.resolves with
        | false => simp only [negative, Bool.not_true, Bool.false_eq_true, Bool.not_false, if_true,
            if_false]
        | true =>
            cases connects : attempt.connects with
            | false => simp only [negative, Bool.not_true, Bool.false_eq_true, Bool.not_false,
                if_true, if_false]
            | true =>
                have succeeds := Attempt.succeeds_eq_true.mpr ⟨opens, resolves, connects⟩
                cases succeeds.symm.trans fails

theorem init_succeeds (playerConnect : ConnectionTypes → Bytes)
    (reconnect : SocketClient → Option (Bool × SocketClient)) {attempt : Attempt}
    (succeeds : attempt.succeeds = true)
    : client.init playerConnect reconnect attempt
      = ((client.connected attempt).send reconnect
            (playerConnect (if client.mIsFirstConnect then .init else .reconnect))
            attempt.sends).map fun sent =>
          (true, sent.2) := by
  obtain ⟨opens, resolves, connects⟩ := Attempt.succeeds_eq_true.mp succeeds
  obtain ⟨network, socket⟩ := Attempt.opens_eq_true.mp opens
  simp only [init, network, resolves, connects, Bool.not_true, Bool.false_eq_true, if_false,
    if_neg (Int.not_lt.mpr socket)]
  rfl

/-- Without an open socket there is no attempt. -/
theorem tryReconnect_closed (playerConnect : ConnectionTypes → Bytes) (attempts : List Attempt)
    (closed : client.isOpen = false)
    : tryReconnect playerConnect attempts client = some (false, client.closeSocket.2) := by
  cases attempts <;> simp [tryReconnect, closeSocket, closed]

theorem tryReconnect_nil (playerConnect : ConnectionTypes → Bytes) (isOpen : client.isOpen = true)
    : tryReconnect playerConnect [] client = none :=
  if_pos isOpen

/-- What the next attempt leaves: no connection, a connection on which the player is presented, or
one to be given up for the attempt after it.
-/
theorem tryReconnect_cons (playerConnect : ConnectionTypes → Bytes) (attempt : Attempt)
    (later : List Attempt) (isOpen : client.isOpen = true)
    : (attempt.succeeds = false
        ∧ tryReconnect playerConnect (attempt :: later) client
          = some (false, client.closeSocket.2.failed attempt))
      ∨ attempt.succeeds = true
        ∧ ∃ octets,
            if attempt.sends.isSent then
              tryReconnect playerConnect (attempt :: later) client
                = some (true, (client.closeSocket.2.connected attempt).accept octets)
            else
              tryReconnect playerConnect (attempt :: later) client
                = (tryReconnect playerConnect later
                    ((client.closeSocket.2.connected attempt).accept octets)).map fun tried =>
                  (true, tried.2) := by
  have tries
      : tryReconnect playerConnect (attempt :: later) client
        = client.closeSocket.2.init playerConnect (tryReconnect playerConnect later) attempt :=
    if_pos isOpen
  rw [tries]
  cases succeeds : attempt.succeeds with
  | false => exact .inl ⟨rfl, init_fails _ _ succeeds⟩
  | true =>
      right
      rw [init_succeeds _ _ succeeds]
      refine ⟨rfl, ?_⟩
      cases isSent : attempt.sends.isSent with
      | true =>
          obtain ⟨octets, sent⟩
              : ∃ octets,
                  (client.closeSocket.2.connected attempt).send (tryReconnect playerConnect later)
                      (playerConnect
                        (if client.closeSocket.2.mIsFirstConnect then .init else .reconnect))
                      attempt.sends
                    = some (true, (client.closeSocket.2.connected attempt).accept octets) :=
            ⟨_, send_sent _ _ rfl isSent⟩
          refine ⟨octets, ?_⟩
          rw [if_pos rfl, sent]
          rfl
      | false =>
          obtain ⟨octets, unsent⟩ := @send_unsent (client.closeSocket.2.connected attempt)
            (tryReconnect playerConnect later)
            (playerConnect (if client.closeSocket.2.mIsFirstConnect then .init else .reconnect))
            attempt.sends rfl isSent
          refine ⟨octets, ?_⟩
          rw [if_neg Bool.false_ne_true, unsent, Option.map_map]
          rfl

theorem isOpen_failed {attempt : Attempt} (closed : client.isOpen = false)
    : (client.failed attempt).isOpen = attempt.opens := by
  unfold failed socket Attempt.opens
  split_ifs with network negative
  · simp [network, negative]
  · simp [network, Int.not_lt.mp negative]
  · simp [network, closed]

theorem opened_failed (client : SocketClient) (attempt : Attempt)
    : client.closeSocket.2.opened ≤ (client.closeSocket.2.failed attempt).opened
      ∧ ((client.closeSocket.2.failed attempt).isOpen = true
        → client.closeSocket.2.opened < (client.closeSocket.2.failed attempt).opened) := by
  unfold failed socket
  split_ifs
  · exact ⟨Nat.le_refl _, fun never => by cases never⟩
  · exact ⟨Nat.le_succ _, fun _ => Nat.lt_succ_self _⟩
  · exact ⟨Nat.le_refl _, fun never => by cases never⟩

theorem opened_connected {attempt : Attempt} (opens : attempt.opens = true)
    : client.opened < (client.connected attempt).opened := by
  rw [connected, socket, if_neg (Int.not_lt.mpr (Attempt.opens_eq_true.mp opens).2)]
  exact Nat.lt_succ_self _

theorem isOpen_connected {attempt : Attempt} (opens : attempt.opens = true)
    : (client.connected attempt).isOpen = true := by
  rw [connected, socket, if_neg (Int.not_lt.mpr (Attempt.opens_eq_true.mp opens).2)]

-----------------------------------------------------------------------------------------
-- What is accepted of a frame
-----------------------------------------------------------------------------------------

/-- Sockets are only ever opened, and what is open in the end was opened by the call. -/
theorem tryReconnect_opened {attempts : List Attempt}
    (tried : tryReconnect playerConnect attempts client = some (returns, after))
    : client.opened ≤ after.opened ∧ (after.isOpen = true → client.opened < after.opened) := by
  cases isOpen : client.isOpen with
  | false =>
      rw [tryReconnect_closed playerConnect attempts isOpen] at tried
      cases tried
      exact ⟨Nat.le_refl _, fun never => by cases never⟩
  | true =>
      induction attempts generalizing client returns after with
      | nil =>
          rw [tryReconnect_nil playerConnect isOpen] at tried
          cases tried
      | cons attempt later ih =>
          rcases tryReconnect_cons playerConnect attempt later isOpen with
            ⟨-, same⟩ | ⟨succeeds, octets, result⟩
          · cases same.symm.trans tried
            exact opened_failed client attempt
          · have opens := (Attempt.succeeds_eq_true.mp succeeds).1
            have more : client.opened < (client.closeSocket.2.connected attempt).opened :=
              @opened_connected client.closeSocket.2 attempt opens
            split_ifs at result
            · cases result.symm.trans tried
              exact ⟨Nat.le_of_lt more, fun _ => more⟩
            · obtain ⟨⟨again, there⟩, reconnects, same⟩ :=
                Option.map_eq_some_iff.mp (result.symm.trans tried)
              cases same
              have grown := Nat.lt_of_lt_of_le more (ih reconnects (isOpen_connected opens)).1
              exact ⟨Nat.le_of_lt grown, fun _ => grown⟩

/-- The octets of a packet on its connection. -/
def frame (json : Bytes) : Bytes := packetLength json ++ json

/-- A packet is sent whole: when `send` returns true, its connection has accepted the frame, and
when it returns false, then no part of the frame alone, if the connection is still open.
-/
def SendsWholeFrame (playerConnect : ConnectionTypes → Bytes) (client : SocketClient) (json : Bytes)
    (results : SendResults) (attempts : List Attempt)
    : Prop :=
  ∀ returns after,
    client.send (tryReconnect playerConnect attempts) json results = some (returns, after)
    → (returns = true
        → after.opened = client.opened ∧ after.accepted = client.accepted ++ frame json)
      ∧ (returns = false
        → after.isOpen = true
        → after.opened = client.opened
        → ∀ octets,
            after.accepted = client.accepted ++ octets
            → ¬(octets ≠ [] ∧ octets <+: frame json ∧ octets ≠ frame json))

theorem take_append_take_eq_iff {first second : Bytes} {m n : Nat}
    : first.take m ++ second.take n = first ++ second ↔ first.length ≤ m ∧ second.length ≤ n := by
  constructor
  · intro same
    have lengths := congrArg List.length same
    simp only [List.length_append, List.length_take] at lengths
    omega
  · rintro ⟨firstFits, secondFits⟩
    rw [List.take_of_length_le firstFits, List.take_of_length_le secondFits]

/-- A packet is sent whole exactly where no call to `nn::socket::Send`, if neither fails, accepts
less than it is given.
-/
theorem sendsWholeFrame_iff (playerConnect : ConnectionTypes → Bytes) (client : SocketClient)
    (json : Bytes) (results : SendResults) (attempts : List Attempt)
    : client.SendsWholeFrame playerConnect json results attempts
      ↔ (client.socket_log_state = .connected
          → 0 < results.length
          → 0 < results.text
          → (packetLength json).length ≤ results.length ∧ json.length ≤ results.text) := by
  by_cases online : client.socket_log_state = .connected
  · cases isSent : results.isSent with
    | true =>
        have sent := send_sent (tryReconnect playerConnect attempts) json online isSent
        obtain ⟨length, text⟩ := SendResults.isSent_eq_true.mp isSent
        have fits
            : (packetLength json).take results.length.toNat ++ json.take results.text.toNat
                = frame json
              ↔ (packetLength json).length ≤ results.length ∧ json.length ≤ results.text := by
          rw [frame, take_append_take_eq_iff]
          omega
        constructor
        · intro whole _ _ _
          obtain ⟨-, same⟩ := (whole _ _ sent).1 rfl
          exact fits.mp (List.append_cancel_left same)
        · intro whole returns after returned
          cases sent.symm.trans returned
          refine ⟨fun _ => ⟨rfl, congrArg _ (fits.mpr (whole online length text))⟩, ?_⟩
          intro never
          cases never
    | false =>
        obtain ⟨octets, unsent⟩ := @send_unsent client (tryReconnect playerConnect attempts) json
          results online isSent
        refine iff_of_true ?_ ?_
        · intro returns after returned
          obtain ⟨⟨tried, there⟩, reconnects, same⟩ :=
            Option.map_eq_some_iff.mp (unsent.symm.trans returned)
          cases same
          constructor
          · intro never
            cases never
          · intro _ isOpen sameSocket
            exact absurd sameSocket.symm
              (Nat.ne_of_lt ((tryReconnect_opened reconnects).2 isOpen))
        · intro _ length text
          have isSent' := SendResults.isSent_eq_true.mpr ⟨length, text⟩
          cases isSent.symm.trans isSent'
  · refine iff_of_true ?_ fun isOnline => absurd isOnline online
    intro returns after returned
    cases (send_away (tryReconnect playerConnect attempts) json results online).symm.trans returned
    constructor
    · intro never
      cases never
    · rintro - - - octets same ⟨more, -, -⟩
      exact more (List.self_eq_append_right.mp same)

/-- Of the length of a text two octets are accepted and then the whole text, and `send` returns
true.
-/
theorem half_a_length_sent
    : ∃ client : SocketClient,
        (∃ after,
          client.send (tryReconnect (fun _ => []) []) playerDCJson { length := 2, text := 92 }
            = some (true, after)
          ∧ after.accepted = [92, 0] ++ playerDCJson)
        ∧ ¬client.SendsWholeFrame (fun _ => []) playerDCJson { length := 2, text := 92 } [] := by
  refine ⟨{ socket_log_state := .connected, isOpen := true }, ⟨_, rfl, by decide⟩, ?_⟩
  intro whole
  obtain ⟨-, same⟩ := (whole true _ rfl).1 rfl
  exact absurd same (by decide)

-----------------------------------------------------------------------------------------
-- Connecting again
-----------------------------------------------------------------------------------------

/-- The client is connected, on a socket that is open. -/
structure IsConnected (client : SocketClient) : Prop where
  state : client.socket_log_state = .connected
  isOpen : client.isOpen = true

/-- If from now on every attempt has the network, a socket, an address and a connection, and one of
them can present the player on it, then `tryReconnect` returns true and leaves a connection.
-/
def Recoverable (playerConnect : ConnectionTypes → Bytes) (client : SocketClient) : Prop :=
  ∀ attempts : List Attempt,
    (∀ attempt ∈ attempts, attempt.succeeds = true)
    → (∃ attempt ∈ attempts, attempt.sends.isSent = true)
    → ∃ after,
        tryReconnect playerConnect attempts client = some (true, after)
        ∧ after.socket_log_state = .connected

/-- A call of `tryReconnect`, by the attempts there are for it. -/
def step (playerConnect : ConnectionTypes → Bytes) (client : SocketClient)
    (attempts : List Attempt)
    : Option SocketClient :=
  (tryReconnect playerConnect attempts client).map Prod.snd

/-- Every attempt that the call makes has an open socket. -/
def KeepsSocket (_ : SocketClient) (attempts : List Attempt) : Prop :=
  ∀ attempt ∈ Attempt.made attempts, attempt.opens = true

/-- What is open after a call on an open socket: whatever every attempt made leaves open. -/
theorem isOpen_tryReconnect {attempts : List Attempt} (isOpen : client.isOpen = true)
    (tried : tryReconnect playerConnect attempts client = some (returns, after))
    : (∀ attempt ∈ Attempt.made attempts, attempt.opens = true) ↔ after.isOpen = true := by
  induction attempts generalizing client returns after with
  | nil =>
      rw [tryReconnect_nil playerConnect isOpen] at tried
      cases tried
  | cons attempt later ih =>
      rcases tryReconnect_cons playerConnect attempt later isOpen with
        ⟨fails, same⟩ | ⟨succeeds, octets, result⟩
      · cases same.symm.trans tried
        rw [isOpen_failed rfl]
        simp [Attempt.made, fails]
      · have opens := (Attempt.succeeds_eq_true.mp succeeds).1
        have nowOpen
            : ((client.closeSocket.2.connected attempt).accept octets).isOpen = true :=
          isOpen_connected opens
        split_ifs at result with isSent
        · cases result.symm.trans tried
          simp [Attempt.made, isSent, opens, nowOpen]
        · obtain ⟨⟨again, there⟩, reconnects, same⟩ :=
            Option.map_eq_some_iff.mp (result.symm.trans tried)
          cases same
          simp [Attempt.made, succeeds, isSent, opens, ← ih nowOpen reconnects]

/-- A connection can be made again exactly from an open socket. -/
theorem recoverable_iff (playerConnect : ConnectionTypes → Bytes) (client : SocketClient)
    : client.Recoverable playerConnect ↔ client.isOpen = true := by
  constructor
  · intro recovers
    by_contra closed
    obtain ⟨after, tried, -⟩ :=
      recovers [{ socket := 0, sends := { length := 1, text := 1 } }] (by decide) (by decide)
    rw [tryReconnect_closed playerConnect _ (Bool.eq_false_iff.mpr closed)] at tried
    cases tried
  · intro isOpen attempts
    induction attempts generalizing client with
    | nil =>
        rintro - ⟨attempt, never, -⟩
        cases never
    | cons attempt later ih =>
        intro succeed sent
        rcases tryReconnect_cons playerConnect attempt later isOpen with
          ⟨fails, -⟩ | ⟨succeeds, octets, result⟩
        · cases fails.symm.trans (succeed attempt (List.mem_cons_self ..))
        · split_ifs at result with isSent
          · exact ⟨_, result, rfl⟩
          · have opens := (Attempt.succeeds_eq_true.mp succeeds).1
            have sentLater : ∃ attempt ∈ later, attempt.sends.isSent = true := by
              obtain ⟨other, member, isSent'⟩ := sent
              rcases List.mem_cons.mp member with rfl | member
              · exact absurd isSent' isSent
              · exact ⟨other, member, isSent'⟩
            obtain ⟨after, tried, online⟩ :=
              ih ((client.closeSocket.2.connected attempt).accept octets) (isOpen_connected opens)
                (fun other member => succeed other (List.mem_cons_of_mem _ member)) sentLater
            exact ⟨after, by rw [result, tried]; rfl, online⟩

/-- In every run from a connection, a connection can be made again after each call of
`tryReconnect` exactly where every attempt had the network and a socket.
-/
theorem recoverable_run_iff (playerConnect : ConnectionTypes → Bytes) {start final : SocketClient}
    {calls : List (List Attempt)} (connected : start.IsConnected)
    : Run (step playerConnect) KeepsSocket start calls final
      ↔ Run (step playerConnect) (Into (step playerConnect) (Recoverable playerConnect)) start calls
          final := by
  apply Run.into_iff ((recoverable_iff playerConnect start).mpr connected.isOpen)
  intro client attempts next recovers taken
  obtain ⟨⟨returns, after⟩, tried, rfl⟩ := Option.map_eq_some_iff.mp taken
  rw [recoverable_iff] at recovers ⊢
  exact isOpen_tryReconnect recovers tried

/-- Without an open socket there is none after any more calls, and nothing can be recovered. -/
theorem never_recoverable (playerConnect : ConnectionTypes → Bytes) {calls : List (List Attempt)}
    (closed : client.isOpen = false) (run : AnyRun (step playerConnect) client calls after)
    : ¬after.Recoverable playerConnect := by
  rw [recoverable_iff, Bool.not_eq_true]
  apply @Run.invariant _ _ _ _ client (fun client => client.isOpen = false) closed ?_ _ _ run
  intro before attempts next closed _ taken
  rw [step, tryReconnect_closed playerConnect attempts closed] at taken
  cases taken
  rfl

/-- A connection on descriptor 3. -/
def online : SocketClient where
  socket_log_state := .connected
  socket_log_socket := 3
  isOpen := true
  mIsFirstConnect := false

/-- Name resolution fails for a while, and a connection can still be made. -/
theorem recoverable_run_unresolved
    : Run (step fun _ => []) (Into (step fun _ => []) (Recoverable fun _ => [])) online
        [[{ socket := 4, resolves := false, sends := { length := 0, text := 0 } }]]
        { online with
          socket_log_state := .unavailable
          socket_log_socket := 4
          opened := 1 } :=
  (recoverable_run_iff (fun _ => []) ⟨rfl, rfl⟩).mp
    (Run.single (by simp [KeepsSocket, Attempt.made, Attempt.succeeds, Attempt.opens]) rfl)

/-- The network is gone for one attempt, and there is none that could bring the connection back. -/
theorem network_gone_for_good
    : ∃ after,
        AnyRun (step fun _ => []) online
          [[{ isNetworkAvailable := false, socket := 0, sends := { length := 0, text := 0 } }]]
          after
        ∧ ∀ {calls last},
            AnyRun (step fun _ => []) after calls last
            → ¬last.Recoverable fun _ => [] :=
  ⟨{ online with socket_log_state := .unavailable, isOpen := false }, Run.single trivial rfl,
    never_recoverable _ rfl⟩

end SocketClient

end SmoOnline.Mod
