import SmoOnline.Mod.Suppression

/-! What comes to the suppressing senders from outside: the states they are called with, and whether
the queue has room as a state comes. A sender that is called again with the same state says nothing
more, whether or not there was room when it said it.
-/

namespace SmoOnline.Mod

open Runs Span

-----------------------------------------------------------------------------------------
-- Room in the queue
-----------------------------------------------------------------------------------------

namespace SendSide

variable {Body : Type} {client : SendSide Body}

/-- The socket is connected, and the queue takes so many packets more. -/
def HasRoom (client : SendSide Body) (count : Nat) : Prop :=
  client.connected = true ∧ client.mSendQueue.length + count ≤ maxBufSize

instance (client : SendSide Body) (count : Nat) : Decidable (client.HasRoom count) :=
  inferInstanceAs (Decidable
    (client.connected = true ∧ client.mSendQueue.length + count ≤ maxBufSize))

theorem accepted_queuePacket (room : client.HasRoom 1) (packet : Address)
    : (client.queuePacket packet).accepted
      = client.accepted ++ [(packet, client.memory packet)] := by
  have accepts : client.connected = true ∧ client.mSendQueue.length < maxBufSize := room
  rw [SendSide.queuePacket, if_pos accepts]

theorem accepted_queueNew (room : client.HasRoom 1) (body : Body)
    : ∃ entry,
        (client.queueNew body).accepted = client.accepted ++ [entry]
        ∧ entry.2.body = some body := by
  have allocated : (client.allocate { userId := client.mUserID, body := some body }).HasRoom 1 :=
    room
  refine ⟨_, accepted_queuePacket allocated _, ?_⟩
  rw [memory_allocate]

theorem accepted_keepAndQueueNew (room : client.HasRoom 1) {member : Member} {body : Body}
    {wanted : OutPacket Body → Bool}
    (isWanted : wanted { userId := client.mUserID, body := some body } = true)
    : ∃ entry,
        (client.keepAndQueueNew member body wanted).accepted = client.accepted ++ [entry]
        ∧ entry.2.body = some body := by
  have kept
      : ((client.allocate { userId := client.mUserID, body := some body }).keep member
          { userId := client.mUserID, body := some body }).HasRoom 1 :=
    room
  unfold SendSide.keepAndQueueNew
  dsimp only
  rw [if_pos isWanted]
  refine ⟨_, accepted_queuePacket kept _, ?_⟩
  rw [memory_keep_allocate]

end SendSide

-----------------------------------------------------------------------------------------
-- What comes to the senders
-----------------------------------------------------------------------------------------

/-- A state that a sender is called with; a capture or a flying cap may be none. -/
inductive Shown (Value : Type)
  | playerInf (value : Value)
  | gameInf (value : Value)
  | captureInf (hackName : Option Bytes)
  | hackCapInf (cap : Option Value)
  | shineCollect (shineID : Int32)
  deriving DecidableEq, Repr

namespace Shown

variable {Value : Type}

def kind : Shown Value → StateKind
  | .playerInf _ => .playerInf
  | .gameInf _ => .gameInf
  | .captureInf _ => .captureInf
  | .hackCapInf _ => .hackCapInf
  | .shineCollect _ => .shineCollect

/-- The packet that says so. -/
def body : Shown Value → StateBody Value
  | .playerInf value => .playerInf value
  | .gameInf value => .gameInf value
  | .captureInf hackName => .captureInf (hackName.getD [])
  | .hackCapInf cap => .hackCapInf cap
  | .shineCollect shineID => .shineCollect shineID

/-- What is the case without a word. -/
def first : StateKind → Option (Shown Value)
  | .playerInf | .gameInf => none
  | .captureInf => some (.captureInf none)
  | .hackCapInf => some (.hackCapInf none)
  | .shineCollect => some (.shineCollect (-1))

def ToldBy (shown : Shown Value) (last : Option (StateBody Value)) : Prop :=
  last = some shown.body ∨ last = none ∧ first shown.kind = some shown

theorem kind_body (shown : Shown Value) : shown.body.kind = some shown.kind := by
  cases shown <;> rfl

end Shown

namespace Tick

variable {Value : Type}

def shown (client : SendSide (StateBody Value)) : Tick Value → Shown Value
  | .sendPlayerInfPacket value _ => .playerInf value
  | .sendGameInfPacket value | .sendGameInfPacketOfStage value => .gameInf value
  | .sendCaptureInfPacket hackName =>
      .captureInf (if client.isClientCaptured then some hackName else none)
  | .sendHackCapInfPacket cap => .hackCapInf cap
  | .sendShineCollectPacket shineID => .shineCollect shineID

/-- The calls at which a sender compares with nothing. -/
def isUnconditional : Tick Value → Bool
  | .sendGameInfPacketOfStage _ => true
  | .sendHackCapInfPacket cap => cap.isSome
  | _ => false

end Tick

/-- `resendInitPackets` is called, with room for both of its packets; behind a goodbye that may
have been queued for three.
-/
def OtherEvent.isResend {Value : Type} (client : SendSide (StateBody Value)) : OtherEvent → Bool
  | .resendInitPackets => client.HasRoom 2
  | .init connects | .tryReconnect connects =>
      connects ∧ ¬client.mIsFirstConnect
      ∧ client.mSendQueue.length + 2 ≤ SendSide.maxBufSize
  | .restartConnection connects =>
      connects ∧ ¬client.mIsFirstConnect
      ∧ client.mSendQueue.length + 3 ≤ SendSide.maxBufSize
  | _ => false

/-- The senders, with what has come to them from outside: the state that each was called with last,
and whether the queue had no room for a packet since it came to be that state.
-/
structure Watched (Value : Type) where
  ticking : Ticking Value
  shown : StateKind → Option (Shown Value) := Shown.first
  missed : StateKind → Bool := fun _ => false

namespace Watched

variable {Value : Type} [DecidableEq Value] (watched : Watched Value)

/-- There was no room as the state came, nor at a call that tells of it in any case. -/
def misses (tick : Tick Value) : Bool :=
  if watched.shown tick.kind = some (tick.shown watched.ticking.client) then
    watched.missed tick.kind && !(tick.isUnconditional && watched.ticking.client.HasRoom 1)
  else !watched.ticking.client.HasRoom 1

def step : TickEvent Value → Option (Watched Value)
  | .tick tick =>
      (watched.ticking.step (.tick tick)).map fun ticking =>
        { ticking
          shown :=
            Function.update watched.shown tick.kind (some (tick.shown watched.ticking.client))
          missed := Function.update watched.missed tick.kind (watched.misses tick) }
  | .other event =>
      (watched.ticking.step (.other event)).map fun ticking =>
        { watched with
          ticking
          missed :=
            if event.isResend watched.ticking.client then
              Function.update watched.missed .gameInf false
            else watched.missed }

/-- A capture follows the same one, or none. -/
def FollowsNoCapture (tick : Tick Value) : Prop :=
  match watched.shown .captureInf, tick.shown watched.ticking.client with
  | some (.captureInf (some before)), .captureInf (some after) => before = after
  | _, _ => True

instance (tick : Tick Value) : Decidable (watched.FollowsNoCapture tick) := by
  unfold FollowsNoCapture
  split <;> infer_instance

/-- Where a state is as it was at the last call, there was room for a packet since it came, and no
capture follows another one.
-/
def ComesWithRoom : TickEvent Value → Prop
  | .tick tick =>
      (tick.isUnconditional = false
        → watched.shown tick.kind = some (tick.shown watched.ticking.client)
        → watched.missed tick.kind = false)
      ∧ watched.FollowsNoCapture tick
  | .other _ => True

end Watched

-----------------------------------------------------------------------------------------
-- What the senders know
-----------------------------------------------------------------------------------------

/-- What is remembered is the state that the sender was called with last. -/
def Remembered.Shows {Value : Type} (remembered : Remembered (StateBody Value))
    : StateKind → Option (Shown Value) → Prop
  | .playerInf, shown =>
      ∀ value,
        remembered.members .lastPlayerInfPacket
          = { userId := remembered.mUserID, body := some (.playerInf value) }
        → shown = some (.playerInf value)
  | .gameInf, shown =>
      (remembered.members .lastGameInfPacket).body = shown.map Shown.body
      ∧ ∀ state, shown = some state → state.kind = .gameInf
  | .captureInf, shown =>
      ∃ hackName,
        shown = some (.captureInf hackName) ∧ remembered.isSentCaptureInf = hackName.isSome
  | .hackCapInf, shown =>
      ∃ cap, shown = some (.hackCapInf cap) ∧ remembered.isSentHackInf = cap.isSome
  | .shineCollect, shown => shown = some (.shineCollect remembered.lastCollectedShine)

theorem Remembered.Agrees.shows {Value : Type} {first second : Remembered (StateBody Value)}
    (agrees : first.Agrees second) {kind : StateKind} {shown : Option (Shown Value)}
    (shows : first.Shows kind shown)
    : second.Shows kind shown := by
  obtain ⟨mUserID, player, game, hackInf, capture, shine⟩ := agrees
  cases kind with
  | playerInf =>
      intro value same
      rw [player, mUserID] at same
      exact shows value same
  | gameInf =>
      rw [Remembered.Shows, game]
      exact shows
  | captureInf =>
      rw [Remembered.Shows, capture]
      exact shows
  | hackCapInf =>
      rw [Remembered.Shows, hackInf]
      exact shows
  | shineCollect =>
      rw [Remembered.Shows, shine]
      exact shows

/-- What more the queue has accepted is what the last packet of a kind is, or leaves it. -/
theorem lastAccepted_of_adds {Value : Type} {before after : SendSide (StateBody Value)}
    {Said : StateBody Value → Prop} (adds : before.Adds Said after) (kind : StateKind)
    : lastAccepted after kind = lastAccepted before kind
      ∨ ∃ body, Said body ∧ body.kind = some kind ∧ lastAccepted after kind = some body := by
  obtain ⟨new, grown, said⟩ := adds
  rw [lastAccepted_append grown]
  cases last : (ofKind kind new).getLast? with
  | none => exact .inl rfl
  | some body =>
      obtain ⟨⟨entry, member, told⟩, sort⟩ := mem_ofKind.mp (List.mem_of_getLast? last)
      exact .inr ⟨body, said entry member body told, sort, rfl⟩

/-- A packet that the queue accepts last is the last of its kind. -/
theorem lastAccepted_of_snoc {Value : Type} {after : SendSide (StateBody Value)}
    {kind : StateKind} {before : List (Address × OutPacket (StateBody Value))}
    {entry : Address × OutPacket (StateBody Value)} {body : StateBody Value}
    (grown : after.accepted = before ++ [entry]) (told : entry.2.body = some body)
    (sort : body.kind = some kind)
    : lastAccepted after kind = some body := by
  have own : ofKind kind [entry] = [body] := by simp [ofKind, told, sort]
  rw [lastAccepted, grown, ofKind_append, own, List.getLast?_append]
  rfl

namespace Tick

variable {Value : Type} {client next : SendSide (StateBody Value)} {tick : Tick Value}

theorem shows_own (client : SendSide (StateBody Value)) (tick : Tick Value)
    : (tick.remembers client).Shows tick.kind (some (tick.shown client)) := by
  cases tick with
  | sendPlayerInfPacket value isCaptured =>
      intro other same
      have packet := congrArg OutPacket.body same
      simpa [remembers, Remembered.keep, shown, eq_comm] using packet
  | sendGameInfPacket value | sendGameInfPacketOfStage value =>
      refine ⟨by simp [remembers, Remembered.keep, shown, Shown.body], ?_⟩
      rintro _ ⟨⟩
      rfl
  | sendCaptureInfPacket hackName =>
      refine ⟨_, rfl, ?_⟩
      cases captured : client.isClientCaptured <;> simp [remembers, captured]
  | sendHackCapInfPacket cap => exact ⟨cap, rfl, rfl⟩
  | sendShineCollectPacket shineID => rfl

theorem shows_other {kind : StateKind} {shown : Option (Shown Value)} (apart : kind ≠ tick.kind)
    (shows : client.remembered.Shows kind shown)
    : (tick.remembers client).Shows kind shown := by
  cases tick <;> cases kind <;> first | exact absurd rfl apart | exact shows

variable [DecidableEq Value]

/-- What is offered says what the state is. -/
theorem offers_body {body : StateBody Value} (offered : tick.offers client = some body)
    : body = (tick.shown client).body := by
  cases tick with
  | sendCaptureInfPacket hackName =>
      rw [offers] at offered
      rw [shown]
      split_ifs at offered with starts ends
      · rw [if_pos starts.1]
        exact (Option.some.inj offered).symm
      · rw [if_neg ends.1]
        exact (Option.some.inj offered).symm
  | sendGameInfPacketOfStage value => exact (Option.some.inj offered).symm
  | _ =>
      rw [offers] at offered
      split_ifs at offered
      exact (Option.some.inj offered).symm

theorem offers_of_isUnconditional (each : tick.isUnconditional = true)
    : tick.offers client = some (tick.shown client).body := by
  cases tick with
  | sendGameInfPacketOfStage value => rfl
  | sendHackCapInfPacket cap => exact if_pos (.inl each)
  | _ => cases each

/-- What is offered is accepted where there is room. -/
theorem accepts_step {body : StateBody Value} (room : client.HasRoom 1)
    (offered : tick.offers client = some body) (taken : client.step tick.event = some next)
    : lastAccepted next tick.kind = some body := by
  have accepted : ∃ entry,
      next.accepted = client.accepted ++ [entry] ∧ entry.2.body = some body := by
    cases tick with
    | sendPlayerInfPacket value isCaptured =>
        cases taken
        rw [offers] at offered
        split_ifs at offered with differs
        obtain rfl := Option.some.inj offered
        have room : { client with isClientCaptured := isCaptured }.HasRoom 1 := room
        exact SendSide.accepted_keepAndQueueNew room (decide_eq_true differs)
    | sendGameInfPacket value =>
        cases taken
        rw [offers] at offered
        split_ifs at offered with differs
        obtain rfl := Option.some.inj offered
        exact SendSide.accepted_keepAndQueueNew room
          (decide_eq_true ⟨Ne.symm differs, by simp⟩)
    | sendGameInfPacketOfStage value =>
        cases taken
        obtain rfl := Option.some.inj offered
        exact SendSide.accepted_keepAndQueueNew room (by simp)
    | sendCaptureInfPacket hackName =>
        cases taken
        rw [offers] at offered
        unfold SendSide.sendCaptureInfPacket
        split_ifs at offered ⊢
        · obtain rfl := Option.some.inj offered
          exact SendSide.accepted_queueNew room _
        · obtain rfl := Option.some.inj offered
          exact SendSide.accepted_queueNew room _
    | sendHackCapInfPacket cap =>
        cases taken
        rw [offers] at offered
        unfold SendSide.sendHackCapInfPacket
        split_ifs with flying resets
        · rw [if_pos (.inl flying)] at offered
          obtain rfl := Option.some.inj offered
          exact SendSide.accepted_queueNew room _
        · rw [if_pos (.inr resets)] at offered
          obtain rfl := Option.some.inj offered
          rw [Option.not_isSome_iff_eq_none.mp flying]
          exact SendSide.accepted_queueNew room _
        · rw [if_neg (not_or.mpr ⟨flying, resets⟩)] at offered
          cases offered
    | sendShineCollectPacket shineID =>
        cases taken
        rw [offers] at offered
        unfold SendSide.sendShineCollectPacket
        split_ifs at offered ⊢
        obtain rfl := Option.some.inj offered
        have room : { client with lastCollectedShine := shineID }.HasRoom 1 := room
        exact SendSide.accepted_queueNew room _
  obtain ⟨entry, grown, told⟩ := accepted
  exact lastAccepted_of_snoc grown told (recalls_offered offered).1

end Tick

-----------------------------------------------------------------------------------------
-- Sending again
-----------------------------------------------------------------------------------------

namespace SendSide

variable {Body : Type} {client : SendSide Body}

/-- A packet takes one place at most, and changes nothing but the queue. -/
theorem HasRoom.queuePacket {count : Nat} (room : client.HasRoom (count + 1)) (packet : Address)
    : (client.queuePacket packet).HasRoom count
      ∧ (client.queuePacket packet).memory = client.memory := by
  obtain ⟨connected, few⟩ := room
  unfold SendSide.queuePacket
  split_ifs
  · refine ⟨⟨connected, ?_⟩, rfl⟩
    rw [List.length_append, List.length_singleton]
    omega
  · exact ⟨⟨connected, Nat.le_of_succ_le few⟩, rfl⟩

theorem length_queueNew_le (client : SendSide Body) (body : Body)
    : (client.queueNew body).mSendQueue.length ≤ client.mSendQueue.length + 1 := by
  unfold queueNew SendSide.queuePacket
  split_ifs
  · rw [List.length_append]
    exact Nat.le_refl _
  · exact Nat.le_succ _

variable [DecidableEq Body]

/-- With room for a costume and a stage the stage comes last. -/
theorem accepted_resendInitPackets (room : client.HasRoom 2) (game : client.HasGame)
    : ∃ before,
        client.resendInitPackets.accepted
          = before
            ++ [(.member .lastGameInfPacket, client.memory (.member .lastGameInfPacket))] := by
  unfold resendInitPackets
  dsimp only
  rw [if_pos game]
  split_ifs
  · obtain ⟨left, same⟩ := HasRoom.queuePacket room (.member .lastCostumeInfPacket)
    rw [accepted_queuePacket left, same]
    exact ⟨_, rfl⟩
  · have left : client.HasRoom 1 := ⟨room.1, Nat.le_of_succ_le room.2⟩
    rw [accepted_queuePacket left]
    exact ⟨_, rfl⟩

theorem accepted_init {body : Body} (again : client.mIsFirstConnect = false)
    (few : client.mSendQueue.length + 2 ≤ maxBufSize) (game : client.HasGame)
    : ∃ before,
        (client.init true body).accepted
          = before
            ++ [(.member .lastGameInfPacket, client.memory (.member .lastGameInfPacket))] := by
  have members
      : ({ client with connected := true, mIsFirstConnect := false }.allocate
          { userId := client.mUserID, body := some body }).memory (.member .lastGameInfPacket)
        = client.memory (.member .lastGameInfPacket) :=
    members_allocate _ _ _
  unfold init
  dsimp only
  rw [if_pos rfl, if_neg (Bool.eq_false_iff.mp again), ← members]
  refine @accepted_resendInitPackets _ ({ client with
    connected := true, mIsFirstConnect := false }.allocate
      { userId := client.mUserID, body := some body }) _ ⟨rfl, few⟩ ?_
  rw [HasGame, members]
  exact game

end SendSide

/-- What is sent again with room is accepted. -/
theorem OtherEvent.accepts_resend {Value : Type} [DecidableEq Value]
    {client next : SendSide (StateBody Value)} {event : OtherEvent}
    (resends : event.isResend client = true) (game : client.HasGame)
    (taken : client.step event.event = some next)
    : ∃ before,
        next.accepted
          = before
            ++ [(.member .lastGameInfPacket, client.memory (.member .lastGameInfPacket))] := by
  cases event with
  | resendInitPackets =>
      cases taken
      exact SendSide.accepted_resendInitPackets (of_decide_eq_true resends) game
  | init connects =>
      cases taken
      obtain ⟨rfl, again, few⟩ := of_decide_eq_true resends
      exact SendSide.accepted_init (Bool.eq_false_iff.mpr again) few game
  | tryReconnect connects =>
      cases taken
      obtain ⟨rfl, again, few⟩ := of_decide_eq_true resends
      exact @SendSide.accepted_init _ { client with connected := false } _ _
        (Bool.eq_false_iff.mpr again) few game
  | restartConnection connects =>
      cases taken
      obtain ⟨rfl, again, few⟩ := of_decide_eq_true resends
      have member
          : (client.queueNew .other).memory (.member .lastGameInfPacket)
            = client.memory (.member .lastGameInfPacket) :=
        congrArg (fun all => all.members .lastGameInfPacket) (client.remembered_queueNew .other)
      have first := client.mIsFirstConnect_queueNew StateBody.other
      have length := client.length_queueNew_le StateBody.other
      rw [← member]
      apply @SendSide.accepted_init _ { client.queueNew .other with connected := false } _ _
      · exact first.trans (Bool.eq_false_iff.mpr again)
      · dsimp only
        omega
      · rw [SendSide.HasGame] at game ⊢
        rw [← member] at game
        exact game
  | _ => cases resends

-----------------------------------------------------------------------------------------
-- Runs with room
-----------------------------------------------------------------------------------------

namespace Watched

variable {Value : Type} [DecidableEq Value] {watched next : Watched Value}

/-- The senders remember the states they were called with, and of each there was room for a packet
of since it came, the last packet of its kind that was accepted tells.
-/
structure Knows (watched : Watched Value) : Prop where
  remembers : watched.ticking.Remembers
  shows : ∀ kind, watched.ticking.client.remembered.Shows kind (watched.shown kind)
  told
    : ∀ kind shown,
        watched.missed kind = false
        → watched.shown kind = some shown
        → shown.ToldBy (lastAccepted watched.ticking.client kind)

/-- A sender says nothing only of a state that it was called with last. -/
theorem Knows.shown_of_silent (knows : watched.Knows) {tick : Tick Value}
    (follows : watched.FollowsNoCapture tick)
    (silent : tick.offers watched.ticking.client = none)
    : watched.shown tick.kind = some (tick.shown watched.ticking.client) := by
  have shows := knows.shows tick.kind
  cases tick with
  | sendPlayerInfPacket value isCaptured =>
      simp only [Tick.offers, ite_eq_right_iff, reduceCtorEq, imp_false, not_not] at silent
      exact shows value silent
  | sendGameInfPacket value =>
      simp only [Tick.offers, ite_eq_right_iff, reduceCtorEq, imp_false, not_not] at silent
      obtain ⟨body, ofKind⟩ := shows
      have same := body.symm.trans (congrArg OutPacket.body silent)
      obtain ⟨state, is, told⟩ := Option.map_eq_some_iff.mp same
      cases state <;> cases told
      exact is
  | sendGameInfPacketOfStage value => cases silent
  | sendCaptureInfPacket hackName =>
      obtain ⟨before, is, sent⟩ := shows
      have sent : watched.ticking.client.isSentCaptureInf = before.isSome := sent
      rw [Tick.offers] at silent
      split_ifs at silent with starts ends
      rw [sent] at starts ends
      refine is.trans ?_
      cases captured : watched.ticking.client.isClientCaptured with
      | true =>
          have told : before.isSome = true := by
            by_contra absent
            exact starts ⟨captured, absent⟩
          obtain ⟨name, rfl⟩ := Option.isSome_iff_exists.mp told
          have is : watched.shown .captureInf = some (.captureInf (some name)) := is
          have now
              : (Tick.sendCaptureInfPacket hackName).shown watched.ticking.client
                = .captureInf (some hackName) := by
            simp [Tick.shown, captured]
          rw [FollowsNoCapture, is, now] at follows
          rw [now, follows]
      | false =>
          have none : before = none := by simpa [captured] using ends
          rw [none, Tick.shown, captured]
          rfl
  | sendHackCapInfPacket cap =>
      obtain ⟨before, is, sent⟩ := shows
      have sent : watched.ticking.client.isSentHackInf = before.isSome := sent
      simp only [Tick.offers, ite_eq_right_iff, reduceCtorEq, imp_false, not_or,
        Bool.not_eq_true, Option.isSome_eq_false_iff, Option.isNone_iff_eq_none] at silent
      obtain ⟨rfl, reset⟩ := silent
      rw [sent, Option.isSome_eq_false_iff, Option.isNone_iff_eq_none] at reset
      rw [reset] at is
      exact is
  | sendShineCollectPacket shineID =>
      simp only [Tick.offers, ite_eq_right_iff, reduceCtorEq, imp_false, not_not] at silent
      rw [Tick.shown, ← silent]
      exact shows

/-- After a tick at which the sender's state has had room since it came, the last packet tells
of it.
-/
theorem Knows.told_tick (knows : watched.Knows) {tick : Tick Value}
    (follows : watched.FollowsNoCapture tick) {client : SendSide (StateBody Value)}
    (stepped : watched.ticking.client.step tick.event = some client)
    (room : watched.misses tick = false)
    : (tick.shown watched.ticking.client).ToldBy (lastAccepted client tick.kind) := by
  have said {body : StateBody Value} (offered : tick.offers watched.ticking.client = some body)
      (has : watched.ticking.client.HasRoom 1)
      : (tick.shown watched.ticking.client).ToldBy (lastAccepted client tick.kind) := by
    rw [Tick.accepts_step has offered stepped, Tick.offers_body offered]
    exact .inl rfl
  rw [misses] at room
  split_ifs at room with same
  · rcases (Bool.and_eq_false_iff).mp room with before | each
    · rcases lastAccepted_of_adds (Tick.adds_step stepped) tick.kind
        with left | ⟨_, offered, -, last⟩
      · rw [left]
        exact knows.told _ _ before same
      · rw [last, Tick.offers_body offered]
        exact .inl rfl
    · obtain ⟨each, has⟩ : tick.isUnconditional = true ∧ watched.ticking.client.HasRoom 1 := by
        simpa using each
      exact said (Tick.offers_of_isUnconditional each) has
  · have has : watched.ticking.client.HasRoom 1 := by simpa using room
    cases offered : tick.offers watched.ticking.client with
    | none => exact absurd (knows.shown_of_silent follows offered) same
    | some body => exact said offered has

omit [DecidableEq Value] in
/-- The stage that is remembered is the one shown. -/
theorem Knows.stage (knows : watched.Knows) {shown : Shown Value}
    (same : watched.shown .gameInf = some shown)
    : (watched.ticking.client.memory (.member .lastGameInfPacket)).body = some shown.body
      ∧ shown.body.kind = some .gameInf := by
  obtain ⟨body, ofKind⟩ := knows.shows .gameInf
  rw [same] at body
  exact ⟨body, by rw [shown.kind_body, ofKind shown same]⟩

/-- What else happens keeps what is known, and a stage that is sent again with room is told. -/
theorem Knows.told_other (knows : watched.Knows) {event : OtherEvent}
    {client : SendSide (StateBody Value)}
    (stepped : watched.ticking.client.step event.event = some client)
    (stays : Stays watched.ticking.offered watched.ticking.client client) {kind : StateKind}
    {shown : Shown Value} (same : watched.shown kind = some shown)
    (room
      : watched.missed kind = false
        ∨ kind = .gameInf ∧ event.isResend watched.ticking.client = true)
    : shown.ToldBy (lastAccepted client kind) := by
  rcases lastAccepted_of_adds stays.adds kind with left | ⟨body, stage, sort, last⟩
  · rcases room with before | ⟨rfl, resends⟩
    · rw [left]
      exact knows.told kind shown before same
    · obtain ⟨body, sort⟩ := knows.stage same
      have game : watched.ticking.client.HasGame := by
        intro empty
        rw [empty] at body
        cases body
      obtain ⟨before, grown⟩ := OtherEvent.accepts_resend resends game stepped
      exact .inl (lastAccepted_of_snoc grown body sort)
  · obtain ⟨rfl, offered⟩ := stage kind sort
    have remembered := (knows.remembers.recalls .gameInf).1.symm.trans (knows.stage same).1
    rw [offered] at remembered
    exact .inl (last.trans remembered)

/-- One step in which states come with room keeps what is known. -/
theorem Knows.step (knows : watched.Knows) {event : TickEvent Value}
    (comes : watched.ComesWithRoom event) (taken : watched.step event = some next)
    : next.Knows := by
  cases event with
  | tick tick =>
      obtain ⟨ticking, ticked, rfl⟩ := Option.map_eq_some_iff.mp taken
      have remembers := knows.remembers.step ticked
      obtain ⟨client, stepped, rfl⟩ := Option.map_eq_some_iff.mp ticked
      refine ⟨remembers, ?_, ?_⟩
      · intro kind
        change client.remembered.Shows kind (Function.update watched.shown tick.kind _ kind)
        rw [Tick.remembered_step stepped]
        rcases eq_or_ne kind tick.kind with rfl | apart
        · rw [Function.update_self]
          exact tick.shows_own _
        · rw [Function.update_of_ne apart]
          exact Tick.shows_other apart (knows.shows kind)
      · intro kind shown room same
        change shown.ToldBy (lastAccepted client kind)
        change Function.update watched.missed tick.kind _ kind = false at room
        change Function.update watched.shown tick.kind _ kind = some shown at same
        rcases eq_or_ne kind tick.kind with rfl | apart
        · rw [Function.update_self] at room same
          obtain rfl := Option.some.inj same
          exact knows.told_tick comes.2 stepped room
        · rw [Function.update_of_ne apart] at room same
          rcases lastAccepted_of_adds (Tick.adds_step stepped) kind
            with left | ⟨_, offered, sort, -⟩
          · rw [left]
            exact knows.told kind shown room same
          · have own := (Tick.recalls_offered offered).1
            exact absurd (Option.some.inj (sort.symm.trans own)) apart
  | other event =>
      obtain ⟨ticking, ticked, rfl⟩ := Option.map_eq_some_iff.mp taken
      have remembers := knows.remembers.step ticked
      obtain ⟨client, stepped, rfl⟩ := Option.map_eq_some_iff.mp ticked
      have stays := Stays.step ⟨.refl _, knows.remembers.recalls, knows.remembers.costume, .refl _⟩
        stepped
      refine ⟨remembers, fun kind => stays.agrees.shows (knows.shows kind), ?_⟩
      intro kind shown room same
      apply knows.told_other stepped stays same
      dsimp only at room
      split_ifs at room with resends
      · rcases eq_or_ne kind .gameInf with rfl | apart
        · exact .inr ⟨rfl, resends⟩
        · rw [Function.update_of_ne apart] at room
          exact .inl room
      · exact .inl room

instance (event : TickEvent Value) : Decidable (watched.ComesWithRoom event) :=
  match event with
  | .tick tick =>
      inferInstanceAs (Decidable
        ((tick.isUnconditional = false
          → watched.shown tick.kind = some (tick.shown watched.ticking.client)
          → watched.missed tick.kind = false)
        ∧ watched.FollowsNoCapture tick))
  | .other _ => isTrue trivial

end Watched

end SmoOnline.Mod
