import SmoOnline.Server.Seats
import SmoOnline.Server.Writes

/-! The octets the server writes are whole frames, except where it passes on a frame whose
header counts fewer octets than none: the read loop lets such a frame through down to the
size of a header, and passing it on cuts off the end of its own header.
-/

namespace SmoOnline

open Span Utf8 Runs

/-- The step passes on no frame with a negative count: its handler has sent what was to be
sent, or none of its recipients has an open socket.
-/
def KeepsFraming (runtime : Runtime) (state : ServerState) : Event → Prop
  | .dispatch socket now =>
      ∀ memory header,
        (state.session socket).phase = .dispatching memory
        → PacketHeader.deserialize memory = some header
        → header.packetSize.toInt < 0
        → (state.handleFrame runtime now socket memory).2 = .handled
          ∨ ∀ receiver ∈ state.recipients socket,
              (state.session receiver).socketConnected = false
  | _ => True

/-- All writes so far were whole frames. -/
def WritesWholeFrames (state : ServerState) : Prop :=
  ∀ message ∈ state.sent, WellFormed message.data

instance (state : ServerState) : Decidable (WritesWholeFrames state) :=
  inferInstanceAs (Decidable (∀ message ∈ state.sent, WellFormed message.data))

/-- Every justified write is a whole frame, except a relay of a frame with a negative count. -/
theorem Justified.wellFormed {runtime : Runtime} {state : ServerState} {event : Event}
    {message : Sent} (justified : Justified runtime state event message)
    (keeps : KeepsFraming runtime state event)
    : WellFormed message.data := by
  cases justified with
  | greeting packet _ _ data => exact data ▸ runtime.wellFormed_typedFrame _ _
  | replay other packet body _ _ _ data length => exact data ▸ wellFormed_typed length
  | lastGame other packet _ data => exact data ▸ runtime.wellFormed_typedFrame _ _
  | relay sender now memory header cause happens dispatching read relayed passedOn recipient
      isOpen =>
      subst happens
      refine (wellFormed_relayedFrame_iff read relayed).mpr (Int.not_lt.mp fun negative => ?_)
      rcases keeps memory header dispatching read negative with handled | closed
      · exact passedOn handled
      · rw [closed message.socket recipient] at isOpen
        cases isOpen
  | handler sender now memory _ _ _ copy =>
      cases copy with
      | own packet _ data => exact data ▸ runtime.wellFormed_typedFrame _ _
      | win packet _ data => exact data ▸ runtime.wellFormed_typedFrame _ _
  | farewell sender index _ _ _ _ data => exact data ▸ runtime.wellFormed_typedFrame _ _
  | shineSync _ _ _ _ _ _ data => exact data ▸ runtime.wellFormed_typedFrame _ _
  | server id packet _ _ data => exact data ▸ runtime.wellFormed_typedFrame _ _

/-- A dispatched frame is passed on to every recipient with an open socket. -/
theorem ServerState.relay_written {runtime : Runtime} {state : ServerState} {now : Nat}
    {socket receiver : SocketId} {memory frame : Bytes} {header : PacketHeader}
    (passedOn : (state.handleFrame runtime now socket memory).2 ≠ .handled)
    (read : PacketHeader.deserialize memory = some header)
    (relayed : relayedFrame memory header = some frame)
    (recipient : receiver ∈ state.recipients socket)
    (isOpen : (state.session receiver).socketConnected = true)
    : ∃ writes,
        (state.dispatchFrame runtime now socket memory).sent = state.sent ++ writes
        ∧ { socket := receiver, data := frame, cause := .relay socket } ∈ writes := by
  obtain ⟨copies, _, _, sent⟩ := state.dispatchFrame_sent runtime now socket memory
  rw [if_neg passedOn, List.append_assoc] at sent
  refine ⟨_, sent, List.mem_append_right _ (List.mem_flatMap.mpr ⟨receiver, recipient, ?_⟩)⟩
  rw [sendMemory_of_connected (mem_recipients.mp recipient).2.1 read relayed, write,
    if_pos isOpen]
  exact List.mem_singleton_self _

/-- One step: while all writes were whole frames, they stay so exactly when the step keeps
the framing.
-/
theorem writesWholeFrames_step {runtime : Runtime} {state next : ServerState} {event : Event}
    (seated : Seated state) (taken : state.step runtime event = some next)
    : WritesWholeFrames next ↔ WritesWholeFrames state ∧ KeepsFraming runtime state event := by
  obtain ⟨writes, sent, justified⟩ := ServerState.step_writes taken
  constructor
  · intro whole
    refine ⟨fun message member => whole message (sent ▸ List.mem_append_left _ member), ?_⟩
    cases event with
    | dispatch socket now =>
        intro memory header dispatching read negative
        obtain ⟨held, still, rfl⟩ := ServerState.dispatch_cases taken
        obtain rfl := Phase.dispatching.inj (dispatching.symm.trans still)
        obtain ⟨counted, framed, _⟩ := (seated.sound socket).dispatching memory dispatching
        obtain rfl := Option.some.inj (read.symm.trans framed.read)
        by_contra passedOn
        simp only [not_or, not_forall, Bool.not_eq_false] at passedOn
        obtain ⟨unhandled, receiver, recipient, isOpen⟩ := passedOn
        obtain ⟨added, sent, written⟩ := ServerState.relay_written unhandled read
          framed.relayedFrame recipient isOpen
        have nonneg := (wellFormed_relayedFrame_iff read framed.relayedFrame).mp
          (whole _ (sent ▸ List.mem_append_right _ written))
        omega
    | _ => trivial
  · rintro ⟨whole, keeps⟩ message member
    rw [sent] at member
    rcases List.mem_append.mp member with before | added
    · exact whole message before
    · exact (justified message added).wellFormed keeps

/-- In every run from the start, all writes are whole frames exactly when every step kept the
framing, by induction on the run.
-/
theorem writesWholeFrames_iff {runtime : Runtime} {settings : Settings} {shines : List Int32}
    {events : List Event} {state : ServerState}
    (run : AnyRun (ServerState.step runtime) (.initial settings shines) events state)
    : WritesWholeFrames state
      ↔ Run (ServerState.step runtime) (KeepsFraming runtime) (.initial settings shines)
          events state := by
  constructor
  · intro whole
    induction run with
    | nil => exact .nil
    | snoc before _ taken ih =>
        obtain ⟨wholeBefore, keeps⟩ :=
          (writesWholeFrames_step (Seated.of_run before) taken).mp whole
        exact (ih wholeBefore).snoc keeps taken
  · intro kept
    refine kept.invariant_using Seated.of_run (fun _ member => absurd member List.not_mem_nil) ?_
    intro before event after seated whole keeps taken
    exact (writesWholeFrames_step seated taken).mpr ⟨whole, keeps⟩

/-- Two players come in without a frame being cut. -/
theorem duet_keeps_framing
    : ∃ state,
        Run (ServerState.step .pooled) (KeepsFraming .pooled) (.initial {} []) duet state
        ∧ state.sent.length = 4 := by
  have run := @execute_get_run _ _ (ServerState.step .pooled) (.initial {} []) duet (by decide)
  exact ⟨_, (writesWholeFrames_iff run).mp (by decide), by decide⟩

/-- A player in the game who sends a header that counts minus two octets makes the server
write 18 octets to the other player, the end of a header short of a frame.
-/
theorem negative_count_cuts_header
    : ∃ state,
        AnyRun (ServerState.step .pooled) (.initial {} [])
          (duet ++ [
            .receive 1
              (({ id := ⟨7⟩, type := .tag, packetSize := -2 } : PacketHeader).octets ++ zeros 12),
            .dispatch 1 0])
          state
        ∧ state.sent.getLast?.map (fun message => (message.socket, message.data.length))
          = some (2, 18)
        ∧ ¬WritesWholeFrames state :=
  ⟨_, execute_get_run (by decide), by decide, by decide⟩

end SmoOnline
