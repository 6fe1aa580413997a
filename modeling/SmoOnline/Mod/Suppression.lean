import SmoOnline.Mod.SendQueue

/-! Senders that say nothing while the state stays as they said it last. They remember what they
gave to the queue, whether or not it took it. What a packet says of a state is of any type, but for
the name of a capture and the number of a moon.
-/

namespace SmoOnline.Mod

open Runs Span

-----------------------------------------------------------------------------------------
-- What the senders remember
-----------------------------------------------------------------------------------------

/-- The members and flags that decide whether a sender says something. -/
structure Remembered (Body : Type) where
  mUserID : Guid
  members : Member → OutPacket Body
  isSentHackInf : Bool
  isSentCaptureInf : Bool
  lastCollectedShine : Int32

def Remembered.keep {Body : Type} (remembered : Remembered Body) (member : Member)
    (packet : OutPacket Body)
    : Remembered Body :=
  { remembered with members := Function.update remembered.members member packet }

/-- What the senders compare with is the same. -/
structure Remembered.Agrees {Body : Type} (first second : Remembered Body) : Prop where
  mUserID : second.mUserID = first.mUserID
  playerInf : second.members .lastPlayerInfPacket = first.members .lastPlayerInfPacket
  gameInf : second.members .lastGameInfPacket = first.members .lastGameInfPacket
  isSentHackInf : second.isSentHackInf = first.isSentHackInf
  isSentCaptureInf : second.isSentCaptureInf = first.isSentCaptureInf
  lastCollectedShine : second.lastCollectedShine = first.lastCollectedShine

theorem Remembered.Agrees.refl {Body : Type} (remembered : Remembered Body)
    : remembered.Agrees remembered :=
  ⟨rfl, rfl, rfl, rfl, rfl, rfl⟩

theorem Remembered.members_keep_of_ne {Body : Type} {member other : Member}
    (apart : other ≠ member) (remembered : Remembered Body) (packet : OutPacket Body)
    : (remembered.keep member packet).members other = remembered.members other := by
  simp [keep, apart]

/-- A member that is set to what it is. -/
theorem Remembered.keep_of_eq {Body : Type} {remembered : Remembered Body} {member : Member}
    {packet : OutPacket Body} (same : remembered.members member = packet)
    : remembered.keep member packet = remembered := by
  subst same
  exact congrArg (fun members => { remembered with members }) (Function.update_eq_self _ _)

namespace SendSide

variable {Body : Type}

def remembered (client : SendSide Body) : Remembered Body where
  mUserID := client.mUserID
  members member := client.memory (.member member)
  isSentHackInf := client.isSentHackInf
  isSentCaptureInf := client.isSentCaptureInf
  lastCollectedShine := client.lastCollectedShine

/-- What a packet says, if anything, is of this sort. -/
def Says (packet : OutPacket Body) (Said : Body → Prop) : Prop :=
  ∀ body, packet.body = some body → Said body

/-- What the queue has accepted since is of this sort. -/
def Adds (Said : Body → Prop) (start client : SendSide Body) : Prop :=
  ∃ new, client.accepted = start.accepted ++ new ∧ ∀ entry ∈ new, Says entry.2 Said

variable {Said : Body → Prop} {start client : SendSide Body}

theorem remembered_queuePacket (client : SendSide Body) (packet : Address)
    : (client.queuePacket packet).remembered = client.remembered := by
  obtain ⟨mSendQueue, accepted, freed, same⟩ := client.queuePacket_eq packet
  rw [same]
  rfl

theorem remembered_allocate (client : SendSide Body) (packet : OutPacket Body)
    : (client.allocate packet).remembered = client.remembered := by
  have members := funext (client.members_allocate packet)
  unfold remembered
  rw [members]
  rfl

/-- What was allocated last says what it was made to say. -/
theorem memory_allocate (client : SendSide Body) (packet : OutPacket Body)
    : (client.allocate packet).memory (.heap client.allocations) = packet := by
  simp [allocate]

theorem memory_keep_allocate (client : SendSide Body) (member : Member)
    (packet kept : OutPacket Body)
    : ((client.allocate packet).keep member kept).memory (.heap client.allocations) = packet := by
  simp [keep, allocate]

theorem memory_keep (client : SendSide Body) (member : Member) (packet : OutPacket Body)
    : (client.keep member packet).memory (.member member) = packet := by
  simp [keep]

theorem remembered_queueNew (client : SendSide Body) (body : Body)
    : (client.queueNew body).remembered = client.remembered :=
  (remembered_queuePacket _ _).trans (client.remembered_allocate _)

theorem remembered_keep (client : SendSide Body) (member : Member) (packet : OutPacket Body)
    : (client.keep member packet).remembered = client.remembered.keep member packet := by
  have injective : Function.Injective Address.member := fun _ _ => Address.member.inj
  have members := Function.update_comp_eq_of_injective client.memory injective member packet
  exact congrArg (fun members => { client.remembered with members }) members

/-- A packet that is not wanted is freed, and not kept. -/
theorem remembered_keepAndQueueNew (client : SendSide Body) (member : Member) (body : Body)
    (wanted : OutPacket Body → Bool)
    : (client.keepAndQueueNew member body wanted).remembered
      = if wanted { userId := client.mUserID, body := some body } then
          client.remembered.keep member { userId := client.mUserID, body := some body }
        else client.remembered := by
  unfold keepAndQueueNew
  dsimp only
  split_ifs
  · rw [remembered_queuePacket, remembered_keep, remembered_allocate]
  · exact client.remembered_allocate { userId := client.mUserID, body := some body }

theorem Adds.refl (client : SendSide Body) : client.Adds Said client :=
  ⟨[], (List.append_nil _).symm, nofun⟩

theorem Adds.queuePacket (adds : start.Adds Said client) {packet : Address}
    (said : Says (client.memory packet) Said)
    : start.Adds Said (client.queuePacket packet) := by
  obtain ⟨new, grown, earlier⟩ := adds
  unfold SendSide.queuePacket
  split_ifs
  · refine ⟨new ++ [(packet, client.memory packet)], ?_, ?_⟩
    · rw [grown, List.append_assoc]
    · intro entry member
      rcases List.mem_append.mp member with before | last
      · exact earlier entry before
      · obtain rfl := List.mem_singleton.mp last
        exact said
  · exact ⟨new, grown, earlier⟩

theorem Adds.queueNew (adds : start.Adds Said client) {body : Body} (said : Said body)
    : start.Adds Said (client.queueNew body) := by
  have allocated
      : start.Adds Said (client.allocate { userId := client.mUserID, body := some body }) :=
    adds
  apply allocated.queuePacket
  rw [memory_allocate]
  rintro _ ⟨⟩
  exact said

theorem Adds.keepAndQueueNew (adds : start.Adds Said client) {member : Member} {body : Body}
    {wanted : OutPacket Body → Bool}
    (said : wanted { userId := client.mUserID, body := some body } = true → Said body)
    : start.Adds Said (client.keepAndQueueNew member body wanted) := by
  unfold SendSide.keepAndQueueNew
  dsimp only
  split_ifs with isWanted
  · have kept
        : start.Adds Said
            ((client.allocate { userId := client.mUserID, body := some body }).keep member
              { userId := client.mUserID, body := some body }) :=
      adds
    apply kept.queuePacket
    rw [memory_keep_allocate]
    rintro _ ⟨⟩
    exact said isWanted
  · exact adds

theorem Adds.mono {Weaker : Body → Prop} (adds : start.Adds Said client)
    (weaken : ∀ body, Said body → Weaker body)
    : start.Adds Weaker client := by
  obtain ⟨new, grown, said⟩ := adds
  exact ⟨new, grown, fun entry member body told => weaken body (said entry member body told)⟩

end SendSide

-----------------------------------------------------------------------------------------
-- Packets that say what a player's state is
-----------------------------------------------------------------------------------------

inductive StateKind
  | playerInf
  | gameInf
  | captureInf
  | hackCapInf
  | shineCollect
  deriving DecidableEq, Repr

/-- What the packets say: where the cap flies, if it does, and for a capture that has ended an
empty name.
-/
inductive StateBody (Value : Type)
  | playerInf (value : Value)
  | gameInf (value : Value)
  | captureInf (hackName : Bytes)
  | hackCapInf (cap : Option Value)
  | shineCollect (shineID : Int32)
  | other
  deriving DecidableEq, Repr

def StateBody.kind {Value : Type} : StateBody Value → Option StateKind
  | .playerInf _ => some .playerInf
  | .gameInf _ => some .gameInf
  | .captureInf _ => some .captureInf
  | .hackCapInf _ => some .hackCapInf
  | .shineCollect _ => some .shineCollect
  | .other => none

/-- The packets of a kind, in their order. -/
def ofKind {Value : Type} (kind : StateKind)
    (entries : List (Address × OutPacket (StateBody Value)))
    : List (StateBody Value) :=
  (entries.filterMap fun entry => entry.2.body).filter fun body => body.kind = some kind

/-- The last packet of a kind that the queue accepted. -/
def lastAccepted {Value : Type} (client : SendSide (StateBody Value)) (kind : StateKind)
    : Option (StateBody Value) :=
  (ofKind kind client.accepted).getLast?

theorem ofKind_append {Value : Type} (kind : StateKind)
    (before new : List (Address × OutPacket (StateBody Value)))
    : ofKind kind (before ++ new) = ofKind kind before ++ ofKind kind new := by
  simp only [ofKind, List.filterMap_append, List.filter_append]

theorem mem_ofKind {Value : Type} {kind : StateKind}
    {entries : List (Address × OutPacket (StateBody Value))} {body : StateBody Value}
    : body ∈ ofKind kind entries
      ↔ (∃ entry ∈ entries, entry.2.body = some body) ∧ body.kind = some kind := by
  simp only [ofKind, List.mem_filter, List.mem_filterMap, decide_eq_true_eq]

/-- The last packet of a kind after more were accepted. -/
theorem lastAccepted_append {Value : Type} {before after : SendSide (StateBody Value)}
    {kind : StateKind} {new : List (Address × OutPacket (StateBody Value))}
    (grown : after.accepted = before.accepted ++ new)
    : lastAccepted after kind = (ofKind kind new).getLast?.or (lastAccepted before kind) := by
  rw [lastAccepted, grown, ofKind_append, List.getLast?_append]
  rfl

-----------------------------------------------------------------------------------------
-- Ticks
-----------------------------------------------------------------------------------------

/-- A call of one of the senders, with the state it finds. -/
inductive Tick (Value : Type)
  | sendPlayerInfPacket (value : Value) (isCaptured : Bool)
  | sendGameInfPacket (value : Value)
  | sendGameInfPacketOfStage (value : Value)
  | sendCaptureInfPacket (hackName : Bytes)
  | sendHackCapInfPacket (cap : Option Value)
  | sendShineCollectPacket (shineID : Int32)
  deriving DecidableEq, Repr

/-- Whatever else happens to the queue; what is said then is not about a state. -/
inductive OtherEvent
  | sendCostumeInfPacket (hasNames : Bool)
  | sendTagInfPacket (isHideAndSeek : Bool)
  | sendFlagHoldStatePacket
  | sendCTFWinPacket
  | resendInitPackets
  | setIsFirstConn (value : Bool)
  | init (connects : Bool)
  | tryReconnect (connects : Bool)
  | restartConnection (connects : Bool)
  | pop
  | send
  | free
  deriving DecidableEq, Repr

namespace Tick

variable {Value : Type} [DecidableEq Value]

def kind : Tick Value → StateKind
  | .sendPlayerInfPacket _ _ => .playerInf
  | .sendGameInfPacket _ | .sendGameInfPacketOfStage _ => .gameInf
  | .sendCaptureInfPacket _ => .captureInf
  | .sendHackCapInfPacket _ => .hackCapInf
  | .sendShineCollectPacket _ => .shineCollect

def event : Tick Value → SendSide.Event (StateBody Value)
  | .sendPlayerInfPacket value isCaptured => .sendPlayerInfPacket (.playerInf value) isCaptured
  | .sendGameInfPacket value => .sendGameInfPacket (.gameInf value)
  | .sendGameInfPacketOfStage value => .sendGameInfPacketOfStage (.gameInf value)
  | .sendCaptureInfPacket hackName => .sendCaptureInfPacket (.captureInf hackName) (.captureInf [])
  | .sendHackCapInfPacket cap =>
      .sendHackCapInfPacket cap.isSome (.hackCapInf cap) (.hackCapInf none)
  | .sendShineCollectPacket shineID => .sendShineCollectPacket shineID (.shineCollect shineID)

/-- What the sender gives to `queuePacket`, if anything. -/
def offers (client : SendSide (StateBody Value)) : Tick Value → Option (StateBody Value)
  | .sendPlayerInfPacket value _ =>
      if client.memory (.member .lastPlayerInfPacket)
          ≠ { userId := client.mUserID, body := some (.playerInf value) } then
        some (.playerInf value)
      else none
  | .sendGameInfPacket value =>
      if client.memory (.member .lastGameInfPacket)
          ≠ { userId := client.mUserID, body := some (.gameInf value) } then
        some (.gameInf value)
      else none
  | .sendGameInfPacketOfStage value => some (.gameInf value)
  | .sendCaptureInfPacket hackName =>
      if client.isClientCaptured ∧ ¬client.isSentCaptureInf then some (.captureInf hackName)
      else if ¬client.isClientCaptured ∧ client.isSentCaptureInf then some (.captureInf [])
      else none
  | .sendHackCapInfPacket cap =>
      if cap.isSome ∨ client.isSentHackInf then some (.hackCapInf cap) else none
  | .sendShineCollectPacket shineID =>
      if client.lastCollectedShine ≠ shineID then some (.shineCollect shineID) else none

end Tick

def OtherEvent.event {Value : Type} : OtherEvent → SendSide.Event (StateBody Value)
  | .sendCostumeInfPacket hasNames =>
      .sendCostumeInfPacket (if hasNames then some .other else none)
  | .sendTagInfPacket isHideAndSeek => .sendTagInfPacket isHideAndSeek .other
  | .sendFlagHoldStatePacket => .sendFlagHoldStatePacket .other
  | .sendCTFWinPacket => .sendCTFWinPacket .other
  | .resendInitPackets => .resendInitPackets
  | .setIsFirstConn value => .setIsFirstConn value
  | .init connects => .init connects .other
  | .tryReconnect connects => .tryReconnect connects .other
  | .restartConnection connects => .restartConnection connects .other .other
  | .pop => .pop
  | .send => .send
  | .free => .free

-----------------------------------------------------------------------------------------
-- Runs
-----------------------------------------------------------------------------------------

inductive TickEvent (Value : Type)
  | tick (tick : Tick Value)
  | other (event : OtherEvent)
  deriving DecidableEq, Repr

/-- The senders and the queue, with the last packet of each kind that was offered to it by a sender,
and whether it was refused.
-/
structure Ticking (Value : Type) where
  client : SendSide (StateBody Value)
  offered : StateKind → Option (StateBody Value) := fun _ => none
  refused : StateKind → Bool := fun _ => false

/-- What is remembered of the last packet of a kind that was offered. -/
def Remembered.Recalls {Value : Type} (remembered : Remembered (StateBody Value))
    : StateKind → Option (StateBody Value) → Prop
  | .playerInf, last =>
      ∀ value,
        remembered.members .lastPlayerInfPacket
          = { userId := remembered.mUserID, body := some (.playerInf value) }
        → last = some (.playerInf value)
  | .gameInf, last =>
      (remembered.members .lastGameInfPacket).body = last
      ∧ ∀ body, last = some body → body.kind = some .gameInf
  | .captureInf, last =>
      remembered.isSentCaptureInf = true ∧ (∃ hackName, last = some (.captureInf hackName))
      ∨ remembered.isSentCaptureInf = false ∧ (last = none ∨ last = some (.captureInf []))
  | .hackCapInf, last =>
      remembered.isSentHackInf = false → last = none ∨ last = some (.hackCapInf none)
  | .shineCollect, last =>
      last = some (.shineCollect remembered.lastCollectedShine)
      ∨ last = none ∧ remembered.lastCollectedShine = -1

namespace Ticking

variable {Value : Type} (ticking : Ticking Value)

/-- The queue has taken, or not, what a sender may have offered. -/
def note (offer : Option (StateBody Value)) (client : SendSide (StateBody Value))
    : Ticking Value where
  client
  offered kind :=
    if offer.bind StateBody.kind = some kind then offer else ticking.offered kind
  refused kind :=
    if ofKind kind (client.accepted.drop ticking.client.accepted.length) ≠ [] then false
    else if offer.bind StateBody.kind = some kind then true
    else ticking.refused kind

/-- The senders remember what they offered, and the queue has accepted what it did not refuse. -/
structure Remembers : Prop where
  accepted
    : ∀ kind, ticking.refused kind = false → lastAccepted ticking.client kind = ticking.offered kind
  recalls : ∀ kind, ticking.client.remembered.Recalls kind (ticking.offered kind)
  costume
    : SendSide.Says (ticking.client.memory (.member .lastCostumeInfPacket)) fun body =>
        body.kind = none

/-- Where all that the queue has newly accepted of a kind is what was offered last, the packet
accepted last is the one offered last if that was not refused.
-/
theorem Remembers.accepted_note {ticking : Ticking Value} (remembers : ticking.Remembers)
    {offer : Option (StateBody Value)} {client : SendSide (StateBody Value)}
    (adds
      : ticking.client.Adds (fun body =>
          ∀ kind, body.kind = some kind →
            (ticking.note offer client).offered kind = some body) client)
    (kind : StateKind) (taken : (ticking.note offer client).refused kind = false)
    : lastAccepted client kind = (ticking.note offer client).offered kind := by
  obtain ⟨new, grown, said⟩ := adds
  rw [lastAccepted_append grown]
  simp only [note, grown, List.drop_left] at taken
  cases last : (ofKind kind new).getLast? with
  | some body =>
      obtain ⟨⟨entry, member, told⟩, ofKind⟩ := mem_ofKind.mp (List.mem_of_getLast? last)
      exact (said entry member body told kind ofKind).symm
  | none =>
      rw [if_neg (not_not_intro (List.getLast?_eq_none_iff.mp last))] at taken
      split_ifs at taken with offered
      exact (remembers.accepted kind taken).trans (if_neg offered).symm

end Ticking

namespace Ticking

variable {Value : Type} [DecidableEq Value] (ticking : Ticking Value)

def step : TickEvent Value → Option (Ticking Value)
  | .tick tick =>
      (ticking.client.step tick.event).map (ticking.note (tick.offers ticking.client))
  | .other event => (ticking.client.step event.event).map (ticking.note none)

end Ticking

-----------------------------------------------------------------------------------------
-- Ticks
-----------------------------------------------------------------------------------------

namespace Tick

variable {Value : Type} {client next : SendSide (StateBody Value)}

/-- What is remembered after a tick, whether or not its sender says something. -/
def remembers (client : SendSide (StateBody Value)) : Tick Value → Remembered (StateBody Value)
  | .sendPlayerInfPacket value _ =>
      client.remembered.keep .lastPlayerInfPacket
        { userId := client.mUserID, body := some (.playerInf value) }
  | .sendGameInfPacket value | .sendGameInfPacketOfStage value =>
      client.remembered.keep .lastGameInfPacket
        { userId := client.mUserID, body := some (.gameInf value) }
  | .sendCaptureInfPacket _ =>
      { client.remembered with isSentCaptureInf := client.isClientCaptured }
  | .sendHackCapInfPacket cap => { client.remembered with isSentHackInf := cap.isSome }
  | .sendShineCollectPacket shineID => { client.remembered with lastCollectedShine := shineID }

/-- What is remembered of the other kinds stays. -/
theorem recalls_other {tick : Tick Value} {kind : StateKind} {last : Option (StateBody Value)}
    (apart : kind ≠ tick.kind) (recalls : client.remembered.Recalls kind last)
    : (tick.remembers client).Recalls kind last := by
  cases tick <;> cases kind <;> first | exact absurd rfl apart | exact recalls

theorem costume_remembers (tick : Tick Value)
    : (tick.remembers client).members .lastCostumeInfPacket
      = client.memory (.member .lastCostumeInfPacket) := by
  cases tick with
  | sendPlayerInfPacket value isCaptured => exact Remembered.members_keep_of_ne (by decide) _ _
  | sendGameInfPacket value | sendGameInfPacketOfStage value =>
      exact Remembered.members_keep_of_ne (by decide) _ _
  | sendCaptureInfPacket hackName | sendHackCapInfPacket cap | sendShineCollectPacket shineID => rfl

variable [DecidableEq Value]

theorem remembered_step {tick : Tick Value} (taken : client.step tick.event = some next)
    : next.remembered = tick.remembers client := by
  cases tick with
  | sendPlayerInfPacket value isCaptured =>
      cases taken
      refine (SendSide.remembered_keepAndQueueNew _ _ _ _).trans ?_
      split_ifs with differs
      · rfl
      · have same := not_not.mp (mt decide_eq_true differs)
        exact (Remembered.keep_of_eq same).symm
  | sendGameInfPacket value =>
      cases taken
      refine (SendSide.remembered_keepAndQueueNew _ _ _ _).trans ?_
      split_ifs with differs
      · rfl
      · have same
            : client.memory (.member .lastGameInfPacket)
              = { userId := client.mUserID, body := some (.gameInf value) } := by
          by_contra apart
          exact differs (decide_eq_true ⟨Ne.symm apart, by simp⟩)
        exact (Remembered.keep_of_eq same).symm
  | sendGameInfPacketOfStage value =>
      cases taken
      refine (SendSide.remembered_keepAndQueueNew _ _ _ _).trans (if_pos ?_)
      simp
  | sendCaptureInfPacket hackName =>
      cases taken
      have flag {sent : Bool} (same : sent = client.isClientCaptured)
          : { client.remembered with isSentCaptureInf := sent }
            = (sendCaptureInfPacket hackName).remembers client :=
        congrArg (fun sent => { client.remembered with isSentCaptureInf := sent }) same
      unfold SendSide.sendCaptureInfPacket
      split_ifs with starts ends
      · refine Eq.trans ?_ (flag starts.1.symm)
        exact congrArg (fun before => { before with isSentCaptureInf := true })
          (client.remembered_queueNew _)
      · refine Eq.trans ?_ (flag (Bool.eq_false_iff.mpr ends.1).symm)
        exact congrArg (fun before => { before with isSentCaptureInf := false })
          (client.remembered_queueNew _)
      · apply flag
        rw [Bool.eq_iff_iff]
        tauto
  | sendHackCapInfPacket cap =>
      cases taken
      have flag {sent : Bool} (same : sent = cap.isSome)
          : { client.remembered with isSentHackInf := sent }
            = (sendHackCapInfPacket cap).remembers client :=
        congrArg (fun sent => { client.remembered with isSentHackInf := sent }) same
      unfold SendSide.sendHackCapInfPacket
      split_ifs with flying resets
      · refine Eq.trans ?_ (flag flying.symm)
        exact congrArg (fun before => { before with isSentHackInf := true })
          (client.remembered_queueNew _)
      · refine Eq.trans ?_ (flag (Bool.eq_false_iff.mpr flying).symm)
        exact congrArg (fun before => { before with isSentHackInf := false })
          (client.remembered_queueNew _)
      · exact flag ((Bool.eq_false_iff.mpr resets).trans (Bool.eq_false_iff.mpr flying).symm)
  | sendShineCollectPacket shineID =>
      cases taken
      unfold SendSide.sendShineCollectPacket remembers
      split_ifs with differs
      · exact SendSide.remembered_queueNew _ _
      · have same := not_not.mp differs
        exact congrArg (fun shine => { client.remembered with lastCollectedShine := shine }) same

/-- What the queue accepts in a tick is what the sender offers. -/
theorem adds_step {tick : Tick Value} (taken : client.step tick.event = some next)
    : client.Adds (fun body => tick.offers client = some body) next := by
  cases tick with
  | sendPlayerInfPacket value isCaptured =>
      cases taken
      refine @SendSide.Adds.keepAndQueueNew _ _ client
        { client with isClientCaptured := isCaptured } (.refl client) _ _ _ fun differs => ?_
      exact if_pos (of_decide_eq_true differs)
  | sendGameInfPacket value =>
      cases taken
      refine (SendSide.Adds.refl client).keepAndQueueNew fun differs => ?_
      exact if_pos (of_decide_eq_true differs).1.symm
  | sendGameInfPacketOfStage value =>
      cases taken
      exact (SendSide.Adds.refl client).keepAndQueueNew fun _ => rfl
  | sendCaptureInfPacket hackName =>
      cases taken
      unfold SendSide.sendCaptureInfPacket offers
      split_ifs
      · exact (SendSide.Adds.refl client).queueNew rfl
      · exact (SendSide.Adds.refl client).queueNew rfl
      · exact .refl client
  | sendHackCapInfPacket cap =>
      cases taken
      unfold SendSide.sendHackCapInfPacket
      split_ifs with flying resets
      · exact (SendSide.Adds.refl client).queueNew (if_pos (.inl flying))
      · refine (SendSide.Adds.refl client).queueNew ((if_pos (.inr resets)).trans ?_)
        rw [Option.not_isSome_iff_eq_none.mp flying]
      · exact .refl client
  | sendShineCollectPacket shineID =>
      cases taken
      unfold SendSide.sendShineCollectPacket
      split_ifs with differs
      · refine @SendSide.Adds.queueNew _ _ client { client with lastCollectedShine := shineID }
          (.refl client) _ ?_
        exact if_pos differs
      · exact .refl client

/-- A sender that says nothing would remember what it remembers. -/
theorem remembers_silent {tick : Tick Value} (silent : tick.offers client = none)
    : tick.remembers client = client.remembered := by
  cases tick with
  | sendPlayerInfPacket value isCaptured =>
      simp only [offers, ite_eq_right_iff, reduceCtorEq, imp_false, not_not] at silent
      exact Remembered.keep_of_eq silent
  | sendGameInfPacket value =>
      simp only [offers, ite_eq_right_iff, reduceCtorEq, imp_false, not_not] at silent
      exact Remembered.keep_of_eq silent
  | sendGameInfPacketOfStage value => cases silent
  | sendCaptureInfPacket hackName =>
      rw [offers] at silent
      split_ifs at silent with starts ends
      have same : client.isClientCaptured = client.isSentCaptureInf := by
        rw [Bool.eq_iff_iff]
        tauto
      exact congrArg (fun sent => { client.remembered with isSentCaptureInf := sent }) same
  | sendHackCapInfPacket cap =>
      rw [offers] at silent
      split_ifs at silent with resets
      have same : cap.isSome = client.isSentHackInf := by
        rw [Bool.eq_iff_iff]
        tauto
      exact congrArg (fun sent => { client.remembered with isSentHackInf := sent }) same
  | sendShineCollectPacket shineID =>
      simp only [offers, ite_eq_right_iff, reduceCtorEq, imp_false, not_not] at silent
      exact congrArg (fun shine => { client.remembered with lastCollectedShine := shine })
        silent.symm

/-- What is offered is of the sender's kind, and is remembered. -/
theorem recalls_offered {tick : Tick Value} {body : StateBody Value}
    (offered : tick.offers client = some body)
    : body.kind = some tick.kind ∧ (tick.remembers client).Recalls tick.kind (some body) := by
  cases tick with
  | sendPlayerInfPacket value isCaptured =>
      rw [offers] at offered
      split_ifs at offered
      obtain rfl := Option.some.inj offered
      refine ⟨rfl, fun other same => ?_⟩
      have packet := congrArg OutPacket.body same
      simpa [remembers, Remembered.keep] using packet
  | sendGameInfPacket value =>
      rw [offers] at offered
      split_ifs at offered
      obtain rfl := Option.some.inj offered
      refine ⟨rfl, ?_, ?_⟩
      · simp [remembers, Remembered.keep]
      · rintro _ ⟨⟩
        rfl
  | sendGameInfPacketOfStage value =>
      obtain rfl := Option.some.inj offered
      refine ⟨rfl, ?_, ?_⟩
      · simp [remembers, Remembered.keep]
      · rintro _ ⟨⟩
        rfl
  | sendCaptureInfPacket hackName =>
      rw [offers] at offered
      split_ifs at offered with starts ends
      · obtain rfl := Option.some.inj offered
        exact ⟨rfl, .inl ⟨starts.1, hackName, rfl⟩⟩
      · obtain rfl := Option.some.inj offered
        exact ⟨rfl, .inr ⟨Bool.eq_false_iff.mpr ends.1, .inr rfl⟩⟩
  | sendHackCapInfPacket cap =>
      rw [offers] at offered
      split_ifs at offered
      obtain rfl := Option.some.inj offered
      refine ⟨rfl, fun lands => .inr ?_⟩
      rw [Option.not_isSome_iff_eq_none.mp (Bool.eq_false_iff.mp lands)]
  | sendShineCollectPacket shineID =>
      rw [offers] at offered
      split_ifs at offered
      obtain rfl := Option.some.inj offered
      exact ⟨rfl, .inl rfl⟩

end Tick

-----------------------------------------------------------------------------------------
-- What else is queued
-----------------------------------------------------------------------------------------

/-- If the packet says what a state is, it is the stage that was offered last. -/
def IsStage {Value : Type} (offered : StateKind → Option (StateBody Value))
    (body : StateBody Value)
    : Prop :=
  ∀ kind, body.kind = some kind → kind = .gameInf ∧ offered kind = some body

/-- What happens besides the ticks leaves what is remembered, and queues again only the stage that
was offered.
-/
structure Stays {Value : Type} (offered : StateKind → Option (StateBody Value))
    (start client : SendSide (StateBody Value))
    : Prop where
  agrees : start.remembered.Agrees client.remembered
  recalls : ∀ kind, client.remembered.Recalls kind (offered kind)
  costume
    : SendSide.Says (client.memory (.member .lastCostumeInfPacket)) fun body => body.kind = none
  adds : start.Adds (IsStage offered) client

namespace Stays

variable {Value : Type} {offered : StateKind → Option (StateBody Value)}
  {start client : SendSide (StateBody Value)}

/-- To be remembered and accepted is all that matters. -/
theorem of_remembered {other : SendSide (StateBody Value)} (stays : Stays offered start client)
    (remembered : other.remembered = client.remembered)
    (adds : start.Adds (IsStage offered) other)
    : Stays offered start other where
  agrees := by
    rw [remembered]
    exact stays.agrees
  recalls := by
    rw [remembered]
    exact stays.recalls
  costume := by
    have costume
        : other.memory (.member .lastCostumeInfPacket)
          = client.memory (.member .lastCostumeInfPacket) :=
      congrArg (fun all => all.members .lastCostumeInfPacket) remembered
    rw [costume]
    exact stays.costume
  adds

theorem allocate (stays : Stays offered start client) (packet : OutPacket (StateBody Value))
    : Stays offered start (client.allocate packet) :=
  stays.of_remembered (client.remembered_allocate packet) stays.adds

/-- A member that no sender compares with is set. -/
theorem keep (stays : Stays offered start client) {member : Member}
    {packet : OutPacket (StateBody Value)} (playerInf : member ≠ .lastPlayerInfPacket)
    (gameInf : member ≠ .lastGameInfPacket)
    (said : SendSide.Says packet fun body => body.kind = none)
    : Stays offered start (client.keep member packet) where
  agrees := by
    obtain ⟨mUserID, player, game, hackInf, capture, shine⟩ := stays.agrees
    rw [SendSide.remembered_keep]
    exact ⟨mUserID, (Remembered.members_keep_of_ne playerInf.symm _ _).trans player,
      (Remembered.members_keep_of_ne gameInf.symm _ _).trans game, hackInf, capture, shine⟩
  recalls := by
    rw [SendSide.remembered_keep]
    intro kind
    have recalls := stays.recalls kind
    cases kind with
    | playerInf =>
        intro value same
        rw [Remembered.members_keep_of_ne playerInf.symm] at same
        exact recalls value same
    | gameInf =>
        refine ⟨?_, recalls.2⟩
        rw [Remembered.members_keep_of_ne gameInf.symm]
        exact recalls.1
    | captureInf | hackCapInf | shineCollect => exact recalls
  costume := by
    have members := congrArg Remembered.members (client.remembered_keep member packet)
    have kept
        : (client.keep member packet).memory (.member .lastCostumeInfPacket)
          = (client.remembered.keep member packet).members .lastCostumeInfPacket :=
      congrFun members .lastCostumeInfPacket
    by_cases costume : member = .lastCostumeInfPacket
    · subst costume
      rw [SendSide.memory_keep]
      exact said
    · rw [kept, Remembered.members_keep_of_ne (Ne.symm costume)]
      exact stays.costume
  adds := stays.adds

theorem queuePacket (stays : Stays offered start client) {packet : Address}
    (said : SendSide.Says (client.memory packet) (IsStage offered))
    : Stays offered start (client.queuePacket packet) :=
  stays.of_remembered (client.remembered_queuePacket packet) (stays.adds.queuePacket said)

/-- A packet that is about no state. -/
theorem queueNew (stays : Stays offered start client)
    : Stays offered start (client.queueNew .other) :=
  stays.of_remembered (client.remembered_queueNew .other) (stays.adds.queueNew nofun)

/-- A member that no sender compares with is set and queued. -/
theorem queueMember (stays : Stays offered start client) {member : Member}
    (playerInf : member ≠ .lastPlayerInfPacket) (gameInf : member ≠ .lastGameInfPacket)
    : Stays offered start
        ((client.keep member { userId := client.mUserID, body := some .other }).queuePacket
          (.member member)) := by
  have kept := @keep _ _ _ _ stays member { userId := client.mUserID, body := some .other }
    playerInf gameInf (by rintro _ ⟨⟩; rfl)
  apply kept.queuePacket
  rw [SendSide.memory_keep]
  rintro _ ⟨⟩ kind ⟨⟩

theorem sendCostumeInfPacket (stays : Stays offered start client) (hasNames : Bool)
    : Stays offered start
        (client.sendCostumeInfPacket (if hasNames then some .other else none)) := by
  cases hasNames with
  | false => exact stays
  | true =>
      have kept
          : Stays offered start
              ((client.allocate { userId := client.mUserID, body := some .other }).keep
                .lastCostumeInfPacket { userId := client.mUserID, body := some .other }) :=
        (stays.allocate _).keep (by decide) (by decide) (by rintro _ ⟨⟩; rfl)
      apply kept.queuePacket
      rw [SendSide.memory_keep_allocate]
      rintro _ ⟨⟩ kind ⟨⟩

variable [DecidableEq Value]

theorem resendInitPackets (stays : Stays offered start client)
    : Stays offered start client.resendInitPackets := by
  have costume : Stays offered start (client.queuePacket (.member .lastCostumeInfPacket)) := by
    apply stays.queuePacket
    intro body told kind ofKind
    rw [stays.costume body told] at ofKind
    cases ofKind
  have game {client : SendSide (StateBody Value)} (stays : Stays offered start client)
      : Stays offered start (client.queuePacket (.member .lastGameInfPacket)) := by
    obtain ⟨same, isGameInf⟩ := stays.recalls .gameInf
    apply stays.queuePacket
    intro body told kind ofKind
    have last : offered .gameInf = some body := same.symm.trans told
    rw [isGameInf body last] at ofKind
    cases ofKind
    exact ⟨rfl, last⟩
  unfold SendSide.resendInitPackets
  dsimp only
  split_ifs
  · exact game costume
  · exact game stays
  · exact costume
  · exact stays

theorem init (stays : Stays offered start client) (connects : Bool)
    : Stays offered start (client.init connects .other) := by
  have connected
      : Stays offered start
          ({ client with connected := true, mIsFirstConnect := false }.allocate
            { userId := client.mUserID, body := some .other }) :=
    (stays.of_remembered rfl stays.adds : Stays offered start
      { client with connected := true, mIsFirstConnect := false }).allocate _
  unfold SendSide.init
  dsimp only
  split_ifs
  · exact connected
  · exact connected.resendInitPackets
  · exact stays.of_remembered rfl stays.adds

/-- What else happens. -/
theorem step {event : OtherEvent} {next : SendSide (StateBody Value)}
    (stays : Stays offered client client) (taken : client.step event.event = some next)
    : Stays offered client next := by
  cases event with
  | sendCostumeInfPacket hasNames =>
      cases taken
      exact stays.sendCostumeInfPacket hasNames
  | sendTagInfPacket isHideAndSeek =>
      cases taken
      unfold SendSide.sendTagInfPacket
      split_ifs
      · exact stays.queueNew
      · exact stays
  | sendFlagHoldStatePacket =>
      cases taken
      exact stays.queueMember (by decide) (by decide)
  | sendCTFWinPacket =>
      cases taken
      exact stays.queueMember (by decide) (by decide)
  | resendInitPackets =>
      cases taken
      exact stays.resendInitPackets
  | setIsFirstConn value =>
      cases taken
      exact stays.of_remembered rfl stays.adds
  | init connects =>
      cases taken
      exact stays.init connects
  | tryReconnect connects =>
      cases taken
      have closed : Stays offered client { client with connected := false } :=
        stays.of_remembered rfl stays.adds
      exact closed.init connects
  | restartConnection connects =>
      cases taken
      have closed : Stays offered client { client.queueNew .other with connected := false } :=
        stays.queueNew.of_remembered rfl stays.queueNew.adds
      exact closed.init connects
  | pop =>
      simp only [OtherEvent.event, SendSide.step] at taken
      split at taken
      · cases taken
        exact stays.of_remembered rfl stays.adds
      · cases taken
  | send =>
      simp only [OtherEvent.event, SendSide.step] at taken
      split at taken
      · cases taken
        exact stays.of_remembered rfl stays.adds
      · cases taken
  | free =>
      simp only [OtherEvent.event, SendSide.step] at taken
      split at taken
      · cases taken
        exact stays.of_remembered rfl stays.adds
      · cases taken

end Stays

-----------------------------------------------------------------------------------------
-- Runs
-----------------------------------------------------------------------------------------

namespace Ticking

variable {Value : Type} [DecidableEq Value] {ticking : Ticking Value}

/-- A tick keeps what is remembered. -/
theorem Remembers.tick (remembers : ticking.Remembers) {tick : Tick Value}
    {client : SendSide (StateBody Value)} (taken : ticking.client.step tick.event = some client)
    : (ticking.note (tick.offers ticking.client) client).Remembers := by
  have remembered := Tick.remembered_step taken
  refine ⟨?_, ?_, ?_⟩
  · apply remembers.accepted_note
    apply (Tick.adds_step taken).mono
    intro body offered kind ofKind
    rw [offered]
    exact if_pos ofKind
  · change ∀ kind, client.remembered.Recalls kind _
    rw [remembered]
    intro kind
    have recalls := remembers.recalls kind
    cases offered : tick.offers ticking.client with
    | none =>
        rw [Tick.remembers_silent offered]
        exact recalls
    | some body =>
        obtain ⟨ofKind, recallsOffered⟩ := Tick.recalls_offered offered
        by_cases same : kind = tick.kind
        · subst same
          have noted : (ticking.note (some body) client).offered tick.kind = some body :=
            if_pos ofKind
          rw [noted]
          exact recallsOffered
        · have noted : (ticking.note (some body) client).offered kind = ticking.offered kind :=
            if_neg fun ofOther => same (Option.some.inj (ofOther.symm.trans ofKind))
          rw [noted]
          exact Tick.recalls_other same recalls
  · have costume
        : client.memory (.member .lastCostumeInfPacket)
          = ticking.client.memory (.member .lastCostumeInfPacket) :=
      (congrArg (fun all => all.members .lastCostumeInfPacket) remembered).trans
        tick.costume_remembers
    rw [note, costume]
    exact remembers.costume

/-- One step: what the senders remember stays remembered. -/
theorem Remembers.step (remembers : ticking.Remembers) {event : TickEvent Value}
    {next : Ticking Value} (taken : ticking.step event = some next)
    : next.Remembers := by
  cases event with
  | tick tick =>
      obtain ⟨client, stepped, rfl⟩ := Option.map_eq_some_iff.mp taken
      exact remembers.tick stepped
  | other event =>
      obtain ⟨client, stepped, rfl⟩ := Option.map_eq_some_iff.mp taken
      have before : Stays ticking.offered ticking.client ticking.client :=
        ⟨.refl _, remembers.recalls, remembers.costume, .refl _⟩
      have after := before.step stepped
      have adds := after.adds.mono fun body stage kind ofKind => (stage kind ofKind).2
      exact ⟨remembers.accepted_note adds, after.recalls, after.costume⟩

end Ticking

end SmoOnline.Mod
