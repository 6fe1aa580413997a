import SmoOnline.Library.Runs
import SmoOnline.Mod.Socket
import Mathlib.Logic.Function.Basic

/-! The threads of a player's game that write to its socket. Each frame takes two calls to
`nn::socket::Send`, and no lock is held over both: other threads may write in between, or connect
the socket anew.
-/

namespace SmoOnline.Mod

open Span Runs

/-- Where `SocketClient::send` is called from; several threads may be in `init`. -/
inductive Sender
  | sendFunc
  | readFunc
  | init (thread : Nat)
  deriving DecidableEq, Repr

/-- The packets a client keeps and answers a `PlayerConnect` with. -/
inductive LastPacket
  | lastGameInfPacket
  | lastPlayerInfPacket
  | lastCostumeInfPacket
  deriving DecidableEq, Repr

/-- A packet's text that a thread sends. -/
structure OutgoingFrame where
  sender : Sender
  json : Bytes
  deriving DecidableEq, Repr

/-- Where a thread stands in `SocketClient::send`: outside, before the call that writes the
length of a text, or before the one that writes the text, with the connection that has the length.
-/
inductive Sending
  | outside
  | length (json : Bytes)
  | text (json : Bytes) (connection : Nat)
  deriving DecidableEq, Repr

/-- The packet of which a thread has not written anything yet. -/
def Sending.toBegin (sender : Sender) : Sending → List OutgoingFrame
  | .length json => [{ sender, json }]
  | .outside | .text _ _ => []

/-- One call to `nn::socket::Send`. -/
structure Call where
  connection : Nat
  sender : Sender
  octets : Bytes
  deriving DecidableEq, Repr

def OutgoingFrame.calls (connection : Nat) (frame : OutgoingFrame) : List Call :=
  (sendCalls frame.json).map fun octets => { connection, sender := frame.sender, octets }

/-- What the threads share, and where each stands. -/
structure Senders where
  mSendQueue : List Bytes := []
  /-- The text of a packet that is there to be sent. -/
  last : LastPacket → Option Bytes := fun _ => none
  /-- The answers to a `PlayerConnect` that `readFunc` has not come to yet. -/
  answers : List LastPacket := []
  /-- `socket_log_state == SOCKET_LOG_CONNECTED` -/
  isConnected : Bool := false
  /-- The connection of `socket_log_socket`, numbered in their order. -/
  connection : Nat := 0
  sending : Sender → Sending := fun _ => .outside
  /-- The packets with which the threads went into `SocketClient::send`. -/
  given : List OutgoingFrame := []
  written : List Call := []

namespace Senders

/-- The capacity of the queues. -/
def maxBufSize : Nat := 100

/-- What happens next, and on which thread. The game's own threads queue packets and keep their
last ones; any of them, the receiving and the sending thread may close the socket and connect it
anew.
-/
inductive Event
  | queuePacket (json : Bytes)
  | keep (packet : LastPacket) (json : Bytes)
  | trySendQueue
  | playerConnect
  | answer
  | closeSocket
  | connect (thread : Nat) (json : Bytes)
  | send (sender : Sender)
  deriving DecidableEq, Repr

variable (senders : Senders)

/-- A thread goes into `SocketClient::send`, behind its test of the connection. -/
def enter (sender : Sender) (json : Bytes) : Senders :=
  { senders with sending := Function.update senders.sending sender (.length json) }

/-- A packet is given to `SocketClient::send`, which returns at once without a connection. -/
def give (sender : Sender) (json : Bytes) : Senders :=
  if senders.isConnected then
    { senders.enter sender json with given := senders.given ++ [{ sender, json }] }
  else senders

/-- The next call to `nn::socket::Send` of a thread, which accepts all octets. It is made on the
socket that there is now.
-/
def call (sender : Sender) : Option Senders :=
  match senders.sending sender with
  | .outside => none
  | .length json =>
      some { senders with
        sending := Function.update senders.sending sender (.text json senders.connection)
        written :=
          senders.written
          ++ [{ connection := senders.connection, sender, octets := packetLength json }] }
  | .text json _ =>
      some { senders with
        sending := Function.update senders.sending sender .outside
        written :=
          senders.written ++ [{ connection := senders.connection, sender, octets := json }] }

def step : Event → Option Senders
  | .queuePacket json =>
      if senders.isConnected ∧ senders.mSendQueue.length < maxBufSize then
        some { senders with mSendQueue := senders.mSendQueue ++ [json] }
      else some senders
  | .keep packet json =>
      some { senders with last := Function.update senders.last packet (some json) }
  | .trySendQueue =>
      if senders.sending .sendFunc = .outside then
        match senders.mSendQueue with
        | [] => none
        | json :: later => some ({ senders with mSendQueue := later }.give .sendFunc json)
      else none
  | .playerConnect =>
      if senders.answers = [] ∧ senders.sending .readFunc = .outside then
        some { senders with
          answers := [.lastGameInfPacket, .lastPlayerInfPacket, .lastCostumeInfPacket] }
      else none
  | .answer =>
      if senders.sending .readFunc = .outside then
        match senders.answers with
        | [] => none
        | packet :: later =>
            match senders.last packet with
            | none => some { senders with answers := later }
            | some json => some ({ senders with answers := later }.give .readFunc json)
      else none
  | .closeSocket => some { senders with isConnected := false }
  | .connect thread json =>
      if senders.sending (.init thread) = .outside then
        some
          ({ senders with isConnected := true, connection := senders.connection + 1 }.give
            (.init thread) json)
      else none
  | .send sender => senders.call sender

/-- The calls on a connection. -/
def callsOn (connection : Nat) : List Call :=
  senders.written.filter fun call => call.connection = connection

/-- The octets on a connection. -/
def octets (connection : Nat) : Bytes := ((senders.callsOn connection).map Call.octets).flatten

/-- Frames, each on its connection, are those of the packets that the threads were given, in the
order of each thread, but for the packets of which nothing was written yet.
-/
def AreOfGiven (frames : List (Nat × OutgoingFrame)) : Prop :=
  ∀ sender,
    senders.given.filter (fun packet => packet.sender = sender)
    = (frames.map Prod.snd).filter (fun packet => packet.sender = sender)
      ++ (senders.sending sender).toBegin sender

/-- The frames on one connection. -/
def framesOn (connection : Nat) (frames : List (Nat × OutgoingFrame)) : List OutgoingFrame :=
  (frames.filter fun frame => frame.1 = connection).map Prod.snd

/-- The calls on a connection are those for whole frames. -/
def Whole (connection : Nat) (frames : List OutgoingFrame) : Prop :=
  senders.callsOn connection = frames.flatMap (OutgoingFrame.calls connection)

/-- Of the last frame there is only its length. -/
def Cut (connection : Nat) (frames : List OutgoingFrame) (last : OutgoingFrame) : Prop :=
  ∃ whole,
    frames = whole ++ [last]
    ∧ senders.callsOn connection
      = whole.flatMap (OutgoingFrame.calls connection) ++ (last.calls connection).take 1

/-- All calls so far wrote the frames of packets that were given, whole on every connection but for
a text that its thread is about to write behind its length.
-/
def WritesFrames : Prop :=
  ∃ frames : List (Nat × OutgoingFrame),
    senders.AreOfGiven frames
    ∧ ∀ connection,
        senders.Whole connection (framesOn connection frames)
        ∨ ∃ last,
            senders.Cut connection (framesOn connection frames) last
            ∧ senders.sending last.sender = .text last.json connection

/-- A thread writes while no other is between the two calls for a frame on the connection, and a
text on the connection that has its length.
-/
def Alone : Event → Prop
  | .send sender =>
      (∀ other json, senders.sending other = .text json senders.connection → other = sender)
      ∧ ∀ json connection,
          senders.sending sender = .text json connection → connection = senders.connection
  | _ => True

-----------------------------------------------------------------------------------------
-- Frames on a connection
-----------------------------------------------------------------------------------------

theorem length_frames (connection : Nat) (frames : List OutgoingFrame)
    : (frames.flatMap (OutgoingFrame.calls connection)).length = 2 * frames.length := by
  induction frames with
  | nil => rfl
  | cons frame frames ih =>
      rw [List.flatMap_cons, List.length_append, ih]
      simp only [OutgoingFrame.calls, sendCalls, List.length_map, List.length_cons,
        List.length_nil]
      omega

theorem frames_snoc (connection : Nat) (frames : List OutgoingFrame) (last : OutgoingFrame)
    : (frames ++ [last]).flatMap (OutgoingFrame.calls connection)
      = frames.flatMap (OutgoingFrame.calls connection) ++ last.calls connection := by
  simp

/-- The octets of whole frames are those of their texts. -/
theorem octets_frames (connection : Nat) (frames : List OutgoingFrame)
    : ((frames.flatMap (OutgoingFrame.calls connection)).map Call.octets).flatten
      = wire (frames.map OutgoingFrame.json) := by
  induction frames with
  | nil => rfl
  | cons frame frames ih =>
      rw [List.flatMap_cons, List.map_append, List.flatten_append, ih, List.map_cons, wire_cons]
      simp [OutgoingFrame.calls, sendCalls]

variable {senders} {connection : Nat} {frames others : List OutgoingFrame}
  {last other : OutgoingFrame}

theorem length_cut (cut : senders.Cut connection frames last)
    : ∃ count, (senders.callsOn connection).length = 2 * count + 1 := by
  obtain ⟨whole, -, calls⟩ := cut
  refine ⟨whole.length, ?_⟩
  rw [calls, List.length_append, length_frames]
  rfl

/-- A length that no text follows makes no whole frames. -/
theorem not_whole_of_cut (cut : senders.Cut connection frames last)
    : ¬senders.Whole connection others := by
  intro whole
  obtain ⟨count, length⟩ := length_cut cut
  rw [whole, length_frames] at length
  omega

/-- Whose length it is can be told from the calls. -/
theorem sender_of_cut (cut : senders.Cut connection frames last)
    (again : senders.Cut connection others other)
    : other.sender = last.sender := by
  obtain ⟨whole, -, calls⟩ := cut
  obtain ⟨whole', -, calls'⟩ := again
  have same := calls.symm.trans calls'
  obtain ⟨-, final⟩ := List.append_inj' same rfl
  exact congrArg Call.sender (List.cons.inj final).1.symm

/-- A thread that writes behind the length of another one's text cuts that one's frame. -/
theorem not_frames_of_between {next : Senders} {call : Call}
    (cut : senders.Cut connection frames last)
    (written : next.callsOn connection = senders.callsOn connection ++ [call])
    (apart : call.sender ≠ last.sender)
    : ¬next.Whole connection others ∧ ∀ other, ¬next.Cut connection others other := by
  obtain ⟨whole, -, calls⟩ := cut
  have length : (next.callsOn connection).length = 2 * whole.length + 2 := by
    rw [written, calls, List.length_append, List.length_append, length_frames]
    rfl
  constructor
  · intro split
    rcases List.eq_nil_or_concat' others with rfl | ⟨init, frame, rfl⟩
    · rw [split] at length
      cases length
    · rw [Whole, frames_snoc, written, calls, List.append_assoc] at split
      obtain ⟨-, last_two⟩ := List.append_inj' split rfl
      simp only [OutgoingFrame.calls, sendCalls, List.map_cons, List.map_nil, List.take_succ_cons,
        List.take_zero, List.cons_append, List.nil_append, List.cons.injEq] at last_two
      obtain ⟨first, second, -⟩ := last_two
      exact apart (by rw [second, ← (Call.mk.inj first).2.1])
  · intro other partly
    obtain ⟨count, odd⟩ := length_cut partly
    omega

-----------------------------------------------------------------------------------------
-- Where the threads stand
-----------------------------------------------------------------------------------------

/-- The threads stand where the calls so far say: on each connection is nobody between two calls,
or the one that wrote last.
-/
def Placed (senders : Senders) : Prop :=
  ∃ frames : List (Nat × OutgoingFrame),
    senders.AreOfGiven frames
    ∧ ∀ connection,
        (senders.Whole connection (framesOn connection frames)
          ∧ ∀ sender json, senders.sending sender ≠ .text json connection)
        ∨ ∃ last,
            senders.Cut connection (framesOn connection frames) last
            ∧ ∀ sender json,
                senders.sending sender = .text json connection
                ↔ sender = last.sender ∧ json = last.json

theorem Placed.writesFrames (placed : senders.Placed) : senders.WritesFrames := by
  obtain ⟨frames, given, each⟩ := placed
  refine ⟨frames, given, fun connection => ?_⟩
  rcases each connection with ⟨whole, -⟩ | ⟨last, cut, who⟩
  · exact .inl whole
  · exact .inr ⟨last, cut, (who _ _).mpr ⟨rfl, rfl⟩⟩

/-- A step without a call may give a packet to a thread that is outside, and changes neither what
was written nor who is between two calls.
-/
structure Quiet (senders next : Senders) : Prop where
  written : next.written = senders.written
  given
    : (next.given = senders.given ∧ next.sending = senders.sending)
      ∨ ∃ (sender : Sender) (json : Bytes),
          senders.sending sender = .outside
          ∧ next.given = senders.given ++ [⟨sender, json⟩]
          ∧ next.sending = Function.update senders.sending sender (.length json)

theorem quiet_of_same {next : Senders} (written : next.written = senders.written)
    (given : next.given = senders.given) (sending : next.sending = senders.sending)
    : Quiet senders next :=
  ⟨written, .inl ⟨given, sending⟩⟩

theorem quiet_give {sender : Sender} {json : Bytes} {before : Senders}
    (idle : senders.sending sender = .outside) (written : before.written = senders.written)
    (given : before.given = senders.given) (sending : before.sending = senders.sending)
    : Quiet senders (before.give sender json) := by
  unfold give
  split_ifs
  · exact ⟨written, .inr ⟨sender, json, idle, by rw [given], by simp only [enter, sending]⟩⟩
  · exact quiet_of_same written given sending

theorem step_quiet {event : Event} {next : Senders} (taken : senders.step event = some next)
    (quiet : ∀ sender, event ≠ .send sender)
    : Quiet senders next := by
  cases event with
  | queuePacket json =>
      simp only [step] at taken
      split_ifs at taken <;> cases taken <;> exact quiet_of_same rfl rfl rfl
  | keep packet json =>
      cases taken
      exact quiet_of_same rfl rfl rfl
  | trySendQueue =>
      simp only [step] at taken
      split_ifs at taken with idle
      cases queued : senders.mSendQueue with
      | nil => simp [queued] at taken
      | cons json later =>
          rw [queued] at taken
          cases taken
          exact quiet_give idle rfl rfl rfl
  | playerConnect =>
      simp only [step] at taken
      split_ifs at taken
      cases taken
      exact quiet_of_same rfl rfl rfl
  | answer =>
      simp only [step] at taken
      split_ifs at taken with idle
      cases answers : senders.answers with
      | nil => simp [answers] at taken
      | cons packet later =>
          simp only [answers] at taken
          cases kept : senders.last packet with
          | none =>
              rw [kept] at taken
              cases taken
              exact quiet_of_same rfl rfl rfl
          | some json =>
              rw [kept] at taken
              cases taken
              exact quiet_give idle rfl rfl rfl
  | closeSocket =>
      cases taken
      exact quiet_of_same rfl rfl rfl
  | connect thread json =>
      simp only [step] at taken
      split_ifs at taken with idle
      cases taken
      exact quiet_give idle rfl rfl rfl
  | send sender => exact absurd rfl (quiet sender)

theorem Quiet.callsOn {next : Senders} (quiet : Quiet senders next) (connection : Nat)
    : next.callsOn connection = senders.callsOn connection := by
  rw [Senders.callsOn, quiet.written, Senders.callsOn]

theorem Quiet.text {next : Senders} (quiet : Quiet senders next) (sender : Sender) (json : Bytes)
    (connection : Nat)
    : next.sending sender = .text json connection
      ↔ senders.sending sender = .text json connection := by
  rcases quiet.given with ⟨-, same⟩ | ⟨enters, text, idle, -, sending⟩
  · rw [same]
  · rw [sending]
    rcases eq_or_ne sender enters with rfl | apart
    · simp [idle]
    · rw [Function.update_of_ne apart]

/-- What is given to a thread is what it has yet to begin. -/
theorem Quiet.areOfGiven {next : Senders} (quiet : Quiet senders next)
    {frames : List (Nat × OutgoingFrame)} (given : senders.AreOfGiven frames)
    : next.AreOfGiven frames := by
  intro sender
  have before := given sender
  rcases quiet.given with ⟨same, sending⟩ | ⟨enters, json, idle, more, sending⟩
  · rw [same, sending]
    exact before
  · rw [more, sending, List.filter_append, before]
    rcases eq_or_ne sender enters with rfl | apart
    · simp [idle, Sending.toBegin]
    · simp [apart, apart.symm]

/-- Without a call everyone stands where the calls say as before. -/
theorem Placed.quiet {next : Senders} (placed : senders.Placed) (quiet : Quiet senders next)
    : next.Placed := by
  obtain ⟨frames, given, each⟩ := placed
  refine ⟨frames, quiet.areOfGiven given, fun connection => ?_⟩
  simp only [Whole, Cut, quiet.callsOn, quiet.text, ne_eq]
  exact each connection

/-- A call writes the length of a text or the text whose length was written. -/
theorem call_cases {sender : Sender} {next : Senders} (taken : senders.call sender = some next)
    : next.given = senders.given
      ∧ ((∃ json,
            senders.sending sender = .length json
            ∧ next.sending
              = Function.update senders.sending sender (.text json senders.connection)
            ∧ next.written
              = senders.written
                ++ [{ connection := senders.connection, sender, octets := packetLength json }])
          ∨ ∃ json connection,
              senders.sending sender = .text json connection
              ∧ next.sending = Function.update senders.sending sender .outside
              ∧ next.written
                = senders.written
                  ++ [{ connection := senders.connection, sender, octets := json }]) := by
  unfold call at taken
  split at taken
  · cases taken
  · next json stands =>
      cases taken
      exact ⟨rfl, .inl ⟨json, stands, rfl, rfl⟩⟩
  · next json connection stands =>
      cases taken
      exact ⟨rfl, .inr ⟨json, connection, stands, rfl, rfl⟩⟩

/-- A call is one more on its connection. -/
theorem callsOn_of_written {next : Senders} {call : Call}
    (written : next.written = senders.written ++ [call]) (connection : Nat)
    : next.callsOn connection
      = if call.connection = connection then senders.callsOn connection ++ [call]
        else senders.callsOn connection := by
  rw [callsOn, written, List.filter_append, callsOn]
  split_ifs with here <;> simp [here]

theorem framesOn_snoc (frames : List (Nat × OutgoingFrame)) (last : Nat × OutgoingFrame)
    (connection : Nat)
    : framesOn connection (frames ++ [last])
      = framesOn connection frames ++ if last.1 = connection then [last.2] else [] := by
  simp only [framesOn, List.filter_append, List.map_append]
  split_ifs with here <;> simp [here]

/-- A frame is begun where nobody is between two calls. -/
theorem Placed.begins {sender : Sender} {json : Bytes} {next : Senders} (placed : senders.Placed)
    (stands : senders.sending sender = .length json)
    (nobodyElse
      : ∀ other json, senders.sending other = .text json senders.connection → other = sender)
    (given : next.given = senders.given)
    (sending
      : next.sending = Function.update senders.sending sender (.text json senders.connection))
    (written
      : next.written
        = senders.written
          ++ [{ connection := senders.connection, sender, octets := packetLength json }])
    : next.Placed := by
  obtain ⟨frames, ofGiven, each⟩ := placed
  refine ⟨frames ++ [(senders.connection, ⟨sender, json⟩)], ?_, fun connection => ?_⟩
  · intro other
    rw [given, ofGiven other, sending, List.map_append, List.filter_append, List.append_assoc]
    rcases eq_or_ne other sender with rfl | apart
    · simp [stands, Sending.toBegin]
    · simp [apart, apart.symm]
  · have calls := callsOn_of_written written connection
    rw [framesOn_snoc]
    rcases eq_or_ne senders.connection connection with rfl | elsewhere
    · rw [if_pos rfl] at calls
      rcases each senders.connection with ⟨whole, nobody⟩ | ⟨last, -, who⟩
      · refine .inr ⟨⟨sender, json⟩, ⟨_, by rw [if_pos rfl], by rw [calls, whole]; rfl⟩, ?_⟩
        intro other text
        rw [sending]
        rcases eq_or_ne other sender with rfl | apart
        · simp [eq_comm]
        · simp [apart, nobody]
      · have between := (who last.sender last.json).mpr ⟨rfl, rfl⟩
        rw [nobodyElse _ _ between, stands] at between
        cases between
    · rw [if_neg elsewhere] at calls
      have text (other : Sender) (text : Bytes)
          : next.sending other = .text text connection
            ↔ senders.sending other = .text text connection := by
        rw [sending]
        rcases eq_or_ne other sender with rfl | apart
        · simp [stands, elsewhere]
        · rw [Function.update_of_ne apart]
      simp only [if_neg elsewhere, List.append_nil, Whole, Cut, calls, text, ne_eq]
      exact each connection

/-- A frame is ended on the connection that has its length. -/
theorem Placed.ends {sender : Sender} {json : Bytes} {next : Senders} (placed : senders.Placed)
    (stands : senders.sending sender = .text json senders.connection)
    (given : next.given = senders.given)
    (sending : next.sending = Function.update senders.sending sender .outside)
    (written
      : next.written
        = senders.written ++ [{ connection := senders.connection, sender, octets := json }])
    : next.Placed := by
  obtain ⟨frames, ofGiven, each⟩ := placed
  refine ⟨frames, ?_, fun connection => ?_⟩
  · intro other
    rw [given, ofGiven other, sending]
    rcases eq_or_ne other sender with rfl | apart
    · simp [stands, Sending.toBegin]
    · simp [apart]
  · have calls := callsOn_of_written written connection
    rcases eq_or_ne senders.connection connection with rfl | elsewhere
    · rw [if_pos rfl] at calls
      rcases each senders.connection with ⟨-, nobody⟩ | ⟨last, ⟨whole, are, cut⟩, who⟩
      · exact absurd stands (nobody sender json)
      · obtain ⟨rfl, rfl⟩ := (who _ _).mp stands
        refine .inl ⟨?_, ?_⟩
        · rw [Whole, are, calls, cut, frames_snoc, List.append_assoc]
          rfl
        · intro other text
          rw [sending]
          rcases eq_or_ne other last.sender with rfl | apart
          · simp
          · simpa [apart] using fun between => apart ((who other text).mp between).1
    · rw [if_neg elsewhere] at calls
      have text (other : Sender) (text : Bytes)
          : next.sending other = .text text connection
            ↔ senders.sending other = .text text connection := by
        rw [sending]
        rcases eq_or_ne other sender with rfl | apart
        · simp [stands, elsewhere]
        · rw [Function.update_of_ne apart]
      simp only [Whole, Cut, calls, text, ne_eq]
      exact each connection

/-- A thread that writes alone begins a frame or ends its own. -/
theorem Placed.call {sender : Sender} {next : Senders} (placed : senders.Placed)
    (taken : senders.call sender = some next) (alone : senders.Alone (.send sender))
    : next.Placed := by
  obtain ⟨nobodyElse, here⟩ := alone
  obtain ⟨given, ⟨json, stands, sending, written⟩ | ⟨json, connection, stands, sending, written⟩⟩ :=
    call_cases taken
  · exact placed.begins stands nobodyElse given sending written
  · obtain rfl := here json connection stands
    exact placed.ends stands given sending written

/-- Where a call leaves frames, its thread wrote alone. -/
theorem Placed.alone {sender : Sender} {next : Senders} (placed : senders.Placed)
    (taken : senders.call sender = some next) (writes : next.WritesFrames)
    : senders.Alone (.send sender) := by
  obtain ⟨frames, -, each⟩ := placed
  obtain ⟨others, -, after⟩ := writes
  constructor
  · intro other json stands
    by_contra apart
    rcases each senders.connection with ⟨-, nobody⟩ | ⟨last, cut, who⟩
    · exact nobody other json stands
    · obtain ⟨rfl, rfl⟩ := (who other json).mp stands
      have behind : ∃ call : Call,
          next.callsOn senders.connection = senders.callsOn senders.connection ++ [call]
          ∧ call.sender ≠ last.sender := by
        rcases (call_cases taken).2 with ⟨text, -, -, written⟩ | ⟨text, there, -, -, written⟩
        · exact ⟨_, (callsOn_of_written written _).trans (if_pos rfl), Ne.symm apart⟩
        · exact ⟨_, (callsOn_of_written written _).trans (if_pos rfl), Ne.symm apart⟩
      obtain ⟨call, written, different⟩ := behind
      rcases after senders.connection with whole | ⟨another, partly, -⟩
      · exact (not_frames_of_between cut written different).1 whole
      · exact (not_frames_of_between cut written different).2 another partly
  · intro json connection stands
    by_contra elsewhere
    obtain ⟨-, ⟨text, begins, -⟩ | ⟨text, there, between, sending, written⟩⟩ := call_cases taken
    · rw [stands] at begins
      cases begins
    · have calls := callsOn_of_written written connection
      rw [if_neg fun here => elsewhere here.symm] at calls
      rcases each connection with ⟨-, nobody⟩ | ⟨last, cut, who⟩
      · exact nobody sender json stands
      · obtain ⟨rfl, rfl⟩ := (who sender json).mp stands
        have left : next.Cut connection (framesOn connection frames) last := by
          rw [Cut, calls]
          exact cut
        rcases after connection with whole | ⟨another, partly, writes⟩
        · exact not_whole_of_cut left whole
        · rw [sender_of_cut left partly, sending] at writes
          simp at writes

/-- A step while everyone stands where the calls say: it leaves frames exactly when its thread
writes alone.
-/
theorem placed_step {event : Event} {next : Senders} (placed : senders.Placed)
    (taken : senders.step event = some next)
    : (senders.Alone event → next.Placed) ∧ (next.WritesFrames → senders.Alone event) := by
  by_cases calls : ∃ sender, event = .send sender
  · obtain ⟨sender, rfl⟩ := calls
    exact ⟨placed.call taken, placed.alone taken⟩
  · have quiet := step_quiet taken fun sender same => calls ⟨sender, same⟩
    refine ⟨fun _ => placed.quiet quiet, fun _ => ?_⟩
    cases event with
    | send sender => exact absurd ⟨sender, rfl⟩ calls
    | _ => trivial

theorem placed_initial : Placed {} := ⟨[], fun _ => rfl, fun _ => .inl ⟨rfl, by simp⟩⟩

theorem run_writesFrames_iff {senders : Senders} {events : List Event}
    : Run step (Into step WritesFrames) {} events senders
      ↔ Run step Alone {} events senders := by
  apply Run.congr Placed placed_initial
  · intro before event next placed into taken
    have steps := placed_step placed taken
    exact steps.1 (steps.2 (into next taken))
  · intro before event next placed taken
    have steps := placed_step placed taken
    constructor
    · intro into
      exact steps.2 (into next taken)
    · intro alone other again
      obtain rfl := Option.some.inj (taken.symm.trans again)
      exact (steps.1 alone).writesFrames

/-- Where threads wrote alone, the octets on a connection on which none is between two calls are
the frames of packets that were given.
-/
theorem octets_of_alone {senders : Senders} {events : List Event}
    (run : Run step Alone {} events senders)
    : ∃ frames : List (Nat × OutgoingFrame),
        senders.AreOfGiven frames
        ∧ ∀ connection,
            (∀ sender json, senders.sending sender ≠ .text json connection)
            → senders.octets connection
              = wire ((framesOn connection frames).map OutgoingFrame.json) := by
  have placed : senders.Placed :=
    run.invariant placed_initial fun placed alone taken => (placed_step placed taken).1 alone
  obtain ⟨frames, given, each⟩ := placed
  refine ⟨frames, given, fun connection nobody => ?_⟩
  rcases each connection with ⟨whole, -⟩ | ⟨last, -, who⟩
  · rw [octets, whole, octets_frames]
  · exact absurd ((who _ _).mpr ⟨rfl, rfl⟩) (nobody last.sender last.json)

/-- In every run the threads leave frames of the packets they were given after each step, whole on
every connection but for a text that is about to be written, exactly when each call is made by a
thread that writes alone; then the octets on a connection are those frames whenever no thread is
between two calls on it.
-/
theorem writesFrames_iff {senders : Senders} {events : List Event}
    : (Run step (Into step WritesFrames) {} events senders ↔ Run step Alone {} events senders)
      ∧ (Run step Alone {} events senders
          → ∃ frames : List (Nat × OutgoingFrame),
              senders.AreOfGiven frames
              ∧ ∀ connection,
                  (∀ sender json, senders.sending sender ≠ .text json connection)
                  → senders.octets connection
                    = wire ((framesOn connection frames).map OutgoingFrame.json)) :=
  ⟨run_writesFrames_iff, octets_of_alone⟩

/-- The first frame of a concatenation of frames is as long as its first octets say. -/
theorem first_frame {octets : Bytes} {jsons : List Bytes} (frames : octets = wire jsons)
    (bound : octets.length < 2 ^ 32) (some_octet : octets ≠ [])
    : leValue (octets.take 4) + 4 ≤ octets.length
      ∧ ∃ later, octets.drop (leValue (octets.take 4) + 4) = wire later := by
  cases jsons with
  | nil => exact absurd frames some_octet
  | cons json later =>
      rw [wire_cons] at frames
      have total : octets.length = 4 + (json.length + (wire later).length) := by
        rw [frames, List.length_append, List.length_append, length_packetLength]
        rfl
      have size : leValue (octets.take 4) = json.length := by
        rw [frames, @List.take_left' _ _ _ 4 (length_packetLength json)]
        exact leValue_packetLength (by omega)
      rw [size]
      refine ⟨by omega, later, ?_⟩
      rw [frames, ← List.append_assoc]
      exact List.drop_left' (by rw [List.length_append, length_packetLength, Nat.add_comm]; rfl)

/-- A short text. -/
def shortJson : Bytes := [0x7b, 0x22, 0x61, 0x22, 0x3a, 0x31, 0x7d]

/-- The socket is connected, and a packet tells the server who it is. -/
def connects : List Event :=
  [.connect 0 shortJson, .send (.init 0), .send (.init 0)]

/-- Two connections, each with its frames. -/
def reconnects : List Event :=
  connects
  ++ [.queuePacket [0x7b, 0x7d], .trySendQueue, .send .sendFunc, .send .sendFunc, .closeSocket]
  ++ connects

/-- A thread that is given a packet while no other is between two calls, and is then left to itself,
writes its frame.
-/
theorem run_frame {before given : Senders} {event : Event} {sender : Sender} {json : Bytes}
    (outside : before.sending = fun _ => .outside) (quiet : before.Alone event)
    (taken : before.step event = some given)
    (sending : given.sending = Function.update before.sending sender (.length json))
    : Run step Alone before [event, .send sender, .send sender]
        { given with
          sending := fun _ => .outside
          written := given.written ++ OutgoingFrame.calls given.connection ⟨sender, json⟩ } := by
  have stands : given.sending sender = .length json := by rw [sending, Function.update_self]
  have others {other : Sender} (apart : other ≠ sender) : given.sending other = .outside := by
    rw [sending, Function.update_of_ne apart, outside]
  have first : given.Alone (.send sender) := by
    constructor
    · intro other text between
      by_contra apart
      rw [others apart] at between
      cases between
    · intro text connection between
      rw [stands] at between
      cases between
  have begins : given.step (.send sender) = some { given with
      sending := Function.update given.sending sender (.text json given.connection)
      written := given.written
        ++ [{ connection := given.connection, sender, octets := packetLength json }] } := by
    simp only [step, call, stands]
  refine ((Run.single quiet taken).snoc first begins).snoc ?_ ?_
  · constructor
    · intro other text between
      by_contra apart
      dsimp only at between
      rw [Function.update_of_ne apart, others apart] at between
      cases between
    · intro text connection between
      dsimp only at between
      rw [Function.update_self] at between
      cases between
      rfl
  · have back
        : Function.update (Function.update given.sending sender (.text json given.connection))
            sender .outside
          = fun _ => .outside := by
      rw [Function.update_idem, sending, Function.update_idem, outside, Function.update_eq_self_iff]
    simp only [step, call, Function.update_self, back, List.append_assoc]
    rfl

/-- A thread that wrote its frame before the socket was closed left it whole. -/
theorem writesFrames_reconnects
    : ∃ senders,
        Run step Alone {} reconnects senders
        ∧ (∃ frames : List (Nat × OutgoingFrame),
            senders.AreOfGiven frames
            ∧ ∀ connection,
                (∀ sender json, senders.sending sender ≠ .text json connection)
                → senders.octets connection
                  = wire ((framesOn connection frames).map OutgoingFrame.json))
        ∧ senders.octets 1 = wire [shortJson, [0x7b, 0x7d]]
        ∧ senders.octets 2 = wire [shortJson] := by
  have first := @run_frame {} _ (.connect 0 shortJson) (.init 0) shortJson rfl trivial rfl rfl
  have queued := first.snoc (show Alone _ (.queuePacket [0x7b, 0x7d]) from trivial) rfl
  have second := queued.trans (@run_frame _ _ .trySendQueue .sendFunc [0x7b, 0x7d] rfl trivial
    rfl rfl)
  have closed := second.snoc (show Alone _ .closeSocket from trivial) rfl
  have run := closed.trans (@run_frame _ _ (.connect 0 shortJson) (.init 0) shortJson rfl trivial
    rfl rfl)
  exact ⟨_, run, writesFrames_iff.2 run, by decide, by decide⟩

/-- `readFunc` answers a new player between the two calls of `sendFunc`. -/
def cutRun : List Event :=
  connects
  ++ [.keep .lastCostumeInfPacket shortJson, .queuePacket shortJson, .trySendQueue,
    .send .sendFunc, .playerConnect, .answer, .answer, .answer, .send .readFunc, .send .readFunc,
    .send .sendFunc]

theorem cut_frames
    : ∃ senders,
        AnyRun step {} cutRun senders
        ∧ (∀ sender, senders.sending sender = .outside)
        ∧ ∀ jsons, senders.octets 1 ≠ wire jsons := by
  have outside (sender : Sender)
      : ((execute step {} cutRun).get (by decide)).sending sender = .outside := by
    cases sender with
    | init thread => cases thread <;> rfl
    | _ => rfl
  refine ⟨_, execute_get_run (by decide), outside, ?_⟩
  intro jsons frames
  obtain ⟨-, later, frames⟩ := first_frame frames (by decide) (by decide)
  obtain ⟨-, later, frames⟩ := first_frame frames (by decide) (by decide)
  obtain ⟨short, -⟩ := first_frame frames (by decide) (by decide)
  exact absurd short (by decide)

end Senders

end SmoOnline.Mod
