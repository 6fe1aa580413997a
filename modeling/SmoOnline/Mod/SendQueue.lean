import SmoOnline.Library.Runs
import SmoOnline.Shared.Header
import Mathlib.Data.List.Nodup
import Mathlib.Logic.Function.Basic

/-! The packets a player's game queues for its send thread, and whose memory they are in. Most are
allocated for the queue; some are members of `Client`, whose addresses are queued. What the
packets say is not looked into: it is of any type with a decidable equality.
-/

namespace SmoOnline.Mod

open Runs

/-- The last packets that `Client` keeps. -/
inductive Member
  | lastPlayerInfPacket
  | lastGameInfPacket
  | lastCostumeInfPacket
  | lastFlagHoldStatePacket
  | lastCTFWinPacket
  deriving DecidableEq, Repr

/-- Where a packet lies: an allocation of `mHeap`, numbered in their order, or `Client`. -/
inductive Address
  | heap (allocation : Nat)
  | member (member : Member)
  deriving DecidableEq, Repr

/-- `packets::Packet`; one that was just constructed has no user and no content. -/
structure OutPacket (Body : Type) where
  userId : Guid := .empty
  body : Option Body := none
  deriving DecidableEq, Repr

/-- What the send thread does with a packet: `trySendQueue` popped it, or sent it and has not
freed it yet.
-/
inductive Turn
  | waiting
  | popped (packet : Address)
  | sent (packet : Address)
  deriving DecidableEq, Repr

/-- The packet that the send thread has in its hands. -/
def Turn.inHand : Turn → List Address
  | .waiting => []
  | .popped packet | .sent packet => [packet]

/-- The packet that it is going to send. -/
def Turn.toSend : Turn → List Address
  | .popped packet => [packet]
  | .waiting | .sent _ => []

/-- The memory, the queue and the send thread; the last three fields record what was done. -/
structure SendSide (Body : Type) where
  mUserID : Guid
  connected : Bool := false
  mIsFirstConnect : Bool := true
  isSentHackInf : Bool := false
  isClientCaptured : Bool := false
  isSentCaptureInf : Bool := false
  lastCollectedShine : Int32 := -1
  allocations : Nat := 0
  memory : Address → OutPacket Body := fun _ => {}
  mSendQueue : List Address := []
  turn : Turn := .waiting
  /-- The packets that `queuePacket` accepted, with what they said then. -/
  accepted : List (Address × OutPacket Body) := []
  /-- What was sent of each packet whose turn it was, if the socket was connected. -/
  turns : List (Option (OutPacket Body)) := []
  freed : List Address := []

namespace SendSide

variable {Body : Type} (client : SendSide Body)

-----------------------------------------------------------------------------------------
-- SocketClient
-----------------------------------------------------------------------------------------

/-- `maxBufSize` -/
def maxBufSize : Nat := 100

/-- `mHeap->free` -/
def free (packet : Address) : SendSide Body := { client with freed := client.freed ++ [packet] }

def queuePacket (packet : Address) : SendSide Body :=
  if client.connected = true ∧ client.mSendQueue.length < maxBufSize then
    { client with
      mSendQueue := client.mSendQueue ++ [packet]
      accepted := client.accepted ++ [(packet, client.memory packet)] }
  else client.free packet

/-- `new packets::Packet()`, and what the packet is then made to say. -/
def allocate (packet : OutPacket Body) : SendSide Body :=
  { client with
    allocations := client.allocations + 1
    memory := Function.update client.memory (.heap client.allocations) packet }

/-- A packet made for the queue. -/
def queueNew (body : Body) : SendSide Body :=
  (client.allocate { userId := client.mUserID, body := some body }).queuePacket
    (.heap client.allocations)

/-- A member is set to what a packet says. -/
def keep (member : Member) (packet : OutPacket Body) : SendSide Body :=
  { client with memory := Function.update client.memory (.member member) packet }

-----------------------------------------------------------------------------------------
-- Client
-----------------------------------------------------------------------------------------

/-- The packet is kept and queued, if it is to be; else it is freed. -/
def keepAndQueueNew (member : Member) (body : Body) (wanted : OutPacket Body → Bool)
    : SendSide Body :=
  let packet : OutPacket Body := { userId := client.mUserID, body := some body }
  let allocated := client.allocate packet
  if wanted packet then
    (allocated.keep member packet).queuePacket (.heap client.allocations)
  else allocated.free (.heap client.allocations)

section Sends

variable {Body : Type} [DecidableEq Body] (client : SendSide Body)

def sendPlayerInfPacket (body : Body) (isCaptured : Bool) : SendSide Body :=
  { client with isClientCaptured := isCaptured }.keepAndQueueNew .lastPlayerInfPacket body
    fun packet => client.memory (.member .lastPlayerInfPacket) ≠ packet

/-- With a player; `emptyGameInfPacket` is never written to. -/
def sendGameInfPacket (body : Body) : SendSide Body :=
  client.keepAndQueueNew .lastGameInfPacket body fun packet =>
    packet ≠ client.memory (.member .lastGameInfPacket) ∧ packet ≠ {}

/-- The other `sendGameInfPacket`, which has only the stage. -/
def sendGameInfPacketOfStage (body : Body) : SendSide Body :=
  client.keepAndQueueNew .lastGameInfPacket body fun packet => packet ≠ {}

/-- A costume without names is not sent. -/
def sendCostumeInfPacket (body : Option Body) : SendSide Body :=
  match body with
  | none => client
  | some body => client.keepAndQueueNew .lastCostumeInfPacket body fun _ => true

def sendHackCapInfPacket (isFlying : Bool) (body resetBody : Body) : SendSide Body :=
  if isFlying then { client.queueNew body with isSentHackInf := true }
  else if client.isSentHackInf then { client.queueNew resetBody with isSentHackInf := false }
  else client

def sendCaptureInfPacket (body resetBody : Body) : SendSide Body :=
  if client.isClientCaptured ∧ ¬client.isSentCaptureInf then
    { client.queueNew body with isSentCaptureInf := true }
  else if ¬client.isClientCaptured ∧ client.isSentCaptureInf then
    { client.queueNew resetBody with isSentCaptureInf := false }
  else client

def sendTagInfPacket (isHideAndSeek : Bool) (body : Body) : SendSide Body :=
  if isHideAndSeek then client.queueNew body else client

def sendShineCollectPacket (shineID : Int32) (body : Body) : SendSide Body :=
  if client.lastCollectedShine ≠ shineID then
    { client with lastCollectedShine := shineID }.queueNew body
  else client

def sendFlagHoldStatePacket (body : Body) : SendSide Body :=
  (client.keep .lastFlagHoldStatePacket { userId := client.mUserID, body := some body }).queuePacket
    (.member .lastFlagHoldStatePacket)

def sendCTFWinPacket (body : Body) : SendSide Body :=
  (client.keep .lastCTFWinPacket { userId := client.mUserID, body := some body }).queuePacket
    (.member .lastCTFWinPacket)

/-- `resendInitPackets` finds a costume of this player's. -/
def HasCostume : Prop := (client.memory (.member .lastCostumeInfPacket)).userId = client.mUserID

/-- `resendInitPackets` finds a stage. -/
def HasGame : Prop := client.memory (.member .lastGameInfPacket) ≠ {}

instance : Decidable client.HasCostume :=
  inferInstanceAs (Decidable ((client.memory (.member .lastCostumeInfPacket)).userId
    = client.mUserID))

instance : Decidable client.HasGame :=
  inferInstanceAs (Decidable (client.memory (.member .lastGameInfPacket) ≠ {}))

def resendInitPackets : SendSide Body :=
  let costume :=
    if client.HasCostume then client.queuePacket (.member .lastCostumeInfPacket) else client
  if client.HasGame then costume.queuePacket (.member .lastGameInfPacket) else costume

/-- `SocketClient::init`. The packet with which it presents itself goes past the queue, and
nothing frees it.
-/
def init (connects : Bool) (body : Body) : SendSide Body :=
  if connects then
    let presented :=
      { client with connected := true, mIsFirstConnect := false }.allocate
        { userId := client.mUserID, body := some body }
    if client.mIsFirstConnect then presented else presented.resendInitPackets
  else { client with connected := false }

/-- `tryReconnect`, if the old socket could be closed. -/
def tryReconnect (connects : Bool) (body : Body) : SendSide Body :=
  { client with connected := false }.init connects body

def restartConnection (connects : Bool) (body : Body) (goodbye : Body) : SendSide Body :=
  { client.queueNew goodbye with connected := false }.init connects body

-----------------------------------------------------------------------------------------
-- Steps
-----------------------------------------------------------------------------------------

/-- What happens next: a send operation of the game, with what its packet is to say, or a step
of the send thread.
-/
inductive Event (Body : Type)
  | sendPlayerInfPacket (body : Body) (isCaptured : Bool)
  | sendGameInfPacket (body : Body)
  | sendGameInfPacketOfStage (body : Body)
  | sendCostumeInfPacket (body : Option Body)
  | sendHackCapInfPacket (isFlying : Bool) (body resetBody : Body)
  | sendCaptureInfPacket (body resetBody : Body)
  | sendTagInfPacket (isHideAndSeek : Bool) (body : Body)
  | sendShineCollectPacket (shineID : Int32) (body : Body)
  | sendFlagHoldStatePacket (body : Body)
  | sendCTFWinPacket (body : Body)
  | resendInitPackets
  | setIsFirstConn (value : Bool)
  | init (connects : Bool) (body : Body)
  | tryReconnect (connects : Bool) (body : Body)
  | restartConnection (connects : Bool) (body goodbye : Body)
  | pop
  | send
  | free

def step : Event Body → Option (SendSide Body)
  | .sendPlayerInfPacket body isCaptured => some (client.sendPlayerInfPacket body isCaptured)
  | .sendGameInfPacket body => some (client.sendGameInfPacket body)
  | .sendGameInfPacketOfStage body => some (client.sendGameInfPacketOfStage body)
  | .sendCostumeInfPacket body => some (client.sendCostumeInfPacket body)
  | .sendHackCapInfPacket isFlying body resetBody =>
      some (client.sendHackCapInfPacket isFlying body resetBody)
  | .sendCaptureInfPacket body resetBody => some (client.sendCaptureInfPacket body resetBody)
  | .sendTagInfPacket isHideAndSeek body => some (client.sendTagInfPacket isHideAndSeek body)
  | .sendShineCollectPacket shineID body => some (client.sendShineCollectPacket shineID body)
  | .sendFlagHoldStatePacket body => some (client.sendFlagHoldStatePacket body)
  | .sendCTFWinPacket body => some (client.sendCTFWinPacket body)
  | .resendInitPackets => some client.resendInitPackets
  | .setIsFirstConn value => some { client with mIsFirstConnect := value }
  | .init connects body => some (client.init connects body)
  | .tryReconnect connects body => some (client.tryReconnect connects body)
  | .restartConnection connects body goodbye =>
      some (client.restartConnection connects body goodbye)
  | .pop =>
      match client.turn, client.mSendQueue with
      | .waiting, packet :: later =>
          some { client with turn := .popped packet, mSendQueue := later }
      | _, _ => none
  | .send =>
      match client.turn with
      | .popped packet =>
          some { client with
            turn := .sent packet
            turns := client.turns
              ++ [if client.connected then some (client.memory packet) else none] }
      | _ => none
  | .free =>
      match client.turn with
      | .sent packet => some { client.free packet with turn := .waiting }
      | _ => none

end Sends

-----------------------------------------------------------------------------------------
-- Ownership
-----------------------------------------------------------------------------------------

/-- The packets that are queued or in the hands of the send thread. -/
def held : List Address := client.turn.inHand ++ client.mSendQueue

/-- The packets whose sending is still to come. -/
def unsent : List Address := client.turn.toSend ++ client.mSendQueue

/-- All packets that were given away to be freed. -/
def handled : List Address := client.held ++ client.freed

/-- The queue owns what is in it: each packet in it is an allocation of its own that nothing
has freed, what was freed are allocations that were freed once, an accepted packet is in the
queue until it is freed, and what was sent of the accepted packets, in their order, is what
they said when they were accepted.
-/
structure Owned : Prop where
  allocated : ∀ packet ∈ client.handled, ∃ allocation < client.allocations,
    packet = .heap allocation
  once : client.handled.Nodup
  settled : ∀ entry ∈ client.accepted, entry.1 ∈ client.handled
  faithful
    : ∃ done : List (Address × OutPacket Body),
        client.accepted = done ++ client.unsent.map (fun packet => (packet, client.memory packet))
        ∧ List.Forall₂ (fun entry sent => ∀ packet ∈ sent, packet = entry.2) done client.turns

/-- There is nothing that `resendInitPackets` would queue. -/
def NothingToResend : Prop := ¬client.HasCostume ∧ ¬client.HasGame

/-- The step queues no member of `Client`. -/
def QueuesNoMember : Event Body → Prop
  | .sendFlagHoldStatePacket _ | .sendCTFWinPacket _ => False
  | .resendInitPackets => client.NothingToResend
  | .init connects _ | .tryReconnect connects _ | .restartConnection connects _ _ =>
      connects = true → client.mIsFirstConnect = true ∨ client.NothingToResend
  | _ => True

variable {client}

theorem toSend_subset_inHand (turn : Turn) : turn.toSend ⊆ turn.inHand := by
  cases turn with
  | popped packet => exact List.Subset.refl _
  | waiting => exact List.nil_subset _
  | sent packet => exact List.nil_subset _

theorem unsent_subset_handled {packet : Address} (member : packet ∈ client.unsent)
    : packet ∈ client.handled := by
  apply List.mem_append_left
  rcases List.mem_append.mp member with turn | queued
  · exact List.mem_append_left _ (toSend_subset_inHand _ turn)
  · exact List.mem_append_right _ queued

/-- A queued or refused packet is one more that was given away. -/
theorem handled_queuePacket (client : SendSide Body) (packet : Address)
    : (client.queuePacket packet).handled.Perm (packet :: client.handled) := by
  unfold queuePacket
  split_ifs
  · change (client.turn.inHand ++ (client.mSendQueue ++ [packet]) ++ client.freed).Perm _
    rw [← List.append_assoc, List.append_assoc]
    exact List.perm_middle
  · change (client.held ++ (client.freed ++ [packet])).Perm _
    rw [← List.append_assoc]
    exact List.perm_append_singleton _ _

/-- A member that was given away is not an allocation. -/
theorem not_owned_of_member {member : Member} (given : .member member ∈ client.handled)
    : ¬client.Owned := by
  intro owned
  obtain ⟨allocation, -, same⟩ := owned.allocated _ given
  cases same

theorem member_mem_queuePacket (client : SendSide Body) (member : Member)
    : .member member ∈ (client.queuePacket (.member member)).handled :=
  (client.handled_queuePacket _).mem_iff.mpr List.mem_cons_self

-----------------------------------------------------------------------------------------
-- What keeps the queue the owner
-----------------------------------------------------------------------------------------

/-- The next allocation was not given away yet. -/
theorem Owned.fresh (owned : client.Owned) : .heap client.allocations ∉ client.handled := by
  intro given
  obtain ⟨allocation, below, same⟩ := owned.allocated _ given
  exact Nat.ne_of_gt below (Address.heap.inj same)

/-- Writing where nothing waits to be sent leaves what waits as it is. -/
theorem Owned.write (owned : client.Owned) {address : Address}
    (apart : address ∉ client.handled) (packet : OutPacket Body)
    : ({ client with memory := Function.update client.memory address packet }).Owned where
  allocated := owned.allocated
  once := owned.once
  settled := owned.settled
  faithful := by
    obtain ⟨done, accepted, sent⟩ := owned.faithful
    refine ⟨done, accepted.trans (congrArg (done ++ ·) (List.map_congr_left ?_)), sent⟩
    intro waiting member
    refine congrArg (Prod.mk waiting) (Function.update_of_ne ?_ _ _).symm
    rintro rfl
    exact apart (unsent_subset_handled member)

theorem Owned.allocate (owned : client.Owned) (packet : OutPacket Body)
    : (client.allocate packet).Owned := by
  have written := owned.write owned.fresh packet
  refine ⟨?_, written.once, written.settled, written.faithful⟩
  intro given member
  obtain ⟨allocation, below, same⟩ := owned.allocated given member
  exact ⟨allocation, Nat.lt_succ_of_lt below, same⟩

theorem Owned.keep (owned : client.Owned) (member : Member) (packet : OutPacket Body)
    : (client.keep member packet).Owned := by
  apply owned.write
  exact fun given => not_owned_of_member given owned

/-- An allocation that was not given away yet is freed, and is then freed once. -/
theorem Owned.free (owned : client.Owned) {allocation : Nat}
    (allocated : allocation < client.allocations) (apart : .heap allocation ∉ client.handled)
    : (client.free (.heap allocation)).Owned := by
  have given : (client.free (.heap allocation)).handled
      = client.handled ++ [.heap allocation] :=
    (List.append_assoc _ _ _).symm
  refine ⟨?_, ?_, ?_, owned.faithful⟩
  · rw [given]
    intro packet member
    rcases List.mem_append.mp member with before | new
    · exact owned.allocated packet before
    · exact ⟨allocation, allocated, List.mem_singleton.mp new⟩
  · rw [given]
    exact List.nodup_append.mpr ⟨owned.once, List.nodup_singleton _, by
      rintro packet before other new rfl
      exact apart (List.mem_singleton.mp new ▸ before)⟩
  · intro entry member
    rw [given]
    exact List.mem_append_left _ (owned.settled entry member)

theorem Owned.queuePacket (owned : client.Owned) {allocation : Nat}
    (allocated : allocation < client.allocations) (apart : .heap allocation ∉ client.handled)
    : (client.queuePacket (.heap allocation)).Owned := by
  have given := client.handled_queuePacket (.heap allocation)
  unfold SendSide.queuePacket at given ⊢
  split_ifs at given ⊢ with accepts
  · refine ⟨?_, ?_, ?_, ?_⟩
    · intro packet member
      rcases List.mem_cons.mp (given.mem_iff.mp member) with rfl | before
      · exact ⟨allocation, allocated, rfl⟩
      · exact owned.allocated packet before
    · exact given.nodup_iff.mpr (List.nodup_cons.mpr ⟨apart, owned.once⟩)
    · intro entry member
      apply given.mem_iff.mpr
      rcases List.mem_append.mp member with before | new
      · exact List.mem_cons_of_mem _ (owned.settled entry before)
      · obtain rfl := List.mem_singleton.mp new
        exact List.mem_cons_self
    · obtain ⟨done, accepted, sent⟩ := owned.faithful
      refine ⟨done, ?_, sent⟩
      rw [accepted]
      simp [unsent]
  · exact owned.free allocated apart

theorem Owned.queueNew (owned : client.Owned) (body : Body) : (client.queueNew body).Owned :=
  (owned.allocate _).queuePacket (Nat.lt_succ_self _) owned.fresh

theorem Owned.keepAndQueueNew (owned : client.Owned) (member : Member) (body : Body)
    (wanted : OutPacket Body → Bool)
    : (client.keepAndQueueNew member body wanted).Owned := by
  unfold SendSide.keepAndQueueNew
  dsimp only
  split_ifs
  · exact ((owned.allocate _).keep member _).queuePacket (Nat.lt_succ_self _) owned.fresh
  · exact (owned.allocate _).free (Nat.lt_succ_self _) owned.fresh

/-- What `Client` remembers besides the packets is nothing to the queue. -/
theorem Owned.remember (owned : client.Owned)
    (connected mIsFirstConnect isSentHackInf isClientCaptured isSentCaptureInf : Bool)
    (lastCollectedShine : Int32)
    : ({ client with
          connected, mIsFirstConnect, isSentHackInf, isClientCaptured, isSentCaptureInf,
          lastCollectedShine }).Owned where
  allocated := owned.allocated
  once := owned.once
  settled := owned.settled
  faithful := owned.faithful

theorem Owned.sendPlayerInfPacket [DecidableEq Body] {client : SendSide Body}
    (owned : client.Owned) (body : Body) (isCaptured : Bool)
    : (client.sendPlayerInfPacket body isCaptured).Owned :=
  (owned.remember _ _ _ isCaptured _ _).keepAndQueueNew _ body _

theorem Owned.sendCostumeInfPacket (owned : client.Owned) (body : Option Body)
    : (client.sendCostumeInfPacket body).Owned := by
  cases body with
  | none => exact owned
  | some body => exact owned.keepAndQueueNew .lastCostumeInfPacket body fun _ => true

theorem Owned.sendHackCapInfPacket (owned : client.Owned) (isFlying : Bool)
    (body resetBody : Body)
    : (client.sendHackCapInfPacket isFlying body resetBody).Owned := by
  unfold SendSide.sendHackCapInfPacket
  split_ifs
  · exact (owned.queueNew body).remember _ _ _ _ _ _
  · exact (owned.queueNew resetBody).remember _ _ _ _ _ _
  · exact owned

theorem Owned.sendCaptureInfPacket (owned : client.Owned) (body resetBody : Body)
    : (client.sendCaptureInfPacket body resetBody).Owned := by
  unfold SendSide.sendCaptureInfPacket
  split_ifs
  · exact (owned.queueNew body).remember _ _ _ _ _ _
  · exact (owned.queueNew resetBody).remember _ _ _ _ _ _
  · exact owned

theorem Owned.sendTagInfPacket (owned : client.Owned) (isHideAndSeek : Bool) (body : Body)
    : (client.sendTagInfPacket isHideAndSeek body).Owned := by
  unfold SendSide.sendTagInfPacket
  split_ifs
  · exact owned.queueNew body
  · exact owned

theorem Owned.sendShineCollectPacket (owned : client.Owned) (shineID : Int32) (body : Body)
    : (client.sendShineCollectPacket shineID body).Owned := by
  unfold SendSide.sendShineCollectPacket
  split_ifs
  · exact (owned.remember _ _ _ _ _ shineID).queueNew body
  · exact owned

-----------------------------------------------------------------------------------------
-- Steps of the send thread
-----------------------------------------------------------------------------------------

theorem Owned.pop (owned : client.Owned) {packet : Address} {later : List Address}
    (turn : client.turn = .waiting) (queue : client.mSendQueue = packet :: later)
    : ({ client with turn := .popped packet, mSendQueue := later }).Owned := by
  have handled : ({ client with turn := .popped packet, mSendQueue := later }).handled
      = client.handled := by
    simp [SendSide.handled, held, turn, queue, Turn.inHand]
  have unsent : ({ client with turn := .popped packet, mSendQueue := later }).unsent
      = client.unsent := by
    simp [SendSide.unsent, turn, queue, Turn.toSend]
  refine ⟨?_, ?_, ?_, ?_⟩
  · rw [handled]
    exact owned.allocated
  · rw [handled]
    exact owned.once
  · rw [handled]
    exact owned.settled
  · rw [unsent]
    exact owned.faithful

theorem Owned.send (owned : client.Owned) {packet : Address} {sent : Option (OutPacket Body)}
    (turn : client.turn = .popped packet) (content : ∀ said ∈ sent, said = client.memory packet)
    : ({ client with turn := .sent packet, turns := client.turns ++ [sent] }).Owned := by
  have handled
      : ({ client with turn := .sent packet, turns := client.turns ++ [sent] }).handled
        = client.handled := by
    simp [SendSide.handled, held, turn, Turn.inHand]
  refine ⟨?_, ?_, ?_, ?_⟩
  · rw [handled]
    exact owned.allocated
  · rw [handled]
    exact owned.once
  · rw [handled]
    exact owned.settled
  · obtain ⟨done, accepted, before⟩ := owned.faithful
    refine ⟨done ++ [(packet, client.memory packet)], ?_, ?_⟩
    · simpa [unsent, turn, Turn.toSend] using accepted
    · exact List.rel_append before (.cons content .nil)

/-- The send thread frees what it has sent. -/
theorem Owned.freeSent (owned : client.Owned) {packet : Address}
    (turn : client.turn = .sent packet)
    : ({ client.free packet with turn := .waiting }).Owned := by
  have handled
      : (({ client.free packet with turn := .waiting }).handled).Perm client.handled := by
    simp only [SendSide.handled, held, turn, Turn.inHand, SendSide.free, List.nil_append,
      List.cons_append]
    rw [← List.append_assoc]
    exact List.perm_append_singleton _ _
  refine ⟨?_, ?_, ?_, ?_⟩
  · intro given member
    exact owned.allocated given (handled.mem_iff.mp member)
  · exact handled.nodup_iff.mpr owned.once
  · intro entry member
    exact handled.mem_iff.mpr (owned.settled entry member)
  · obtain ⟨done, accepted, sent⟩ := owned.faithful
    refine ⟨done, ?_, sent⟩
    simpa [unsent, turn, Turn.toSend, SendSide.free] using accepted

-----------------------------------------------------------------------------------------
-- What resends
-----------------------------------------------------------------------------------------

/-- Where something is resent, a member is given away. -/
theorem member_mem_resendInitPackets [DecidableEq Body] {client : SendSide Body}
    (resends : ¬client.NothingToResend)
    : ∃ member : Member, .member member ∈ client.resendInitPackets.handled := by
  unfold resendInitPackets
  dsimp only
  split_ifs with game costume
  · exact ⟨_, member_mem_queuePacket _ _⟩
  · exact ⟨_, member_mem_queuePacket _ _⟩
  · exact ⟨_, member_mem_queuePacket _ _⟩
  · exact absurd ⟨‹_›, game⟩ resends

theorem resendInitPackets_eq [DecidableEq Body] {client : SendSide Body}
    (nothing : client.NothingToResend)
    : client.resendInitPackets = client := by
  simp [resendInitPackets, nothing.1, nothing.2]

/-- What is resent depends on two members and on who the user is. -/
theorem nothingToResend_congr {other : SendSide Body} (userId : other.mUserID = client.mUserID)
    (members : ∀ member, other.memory (.member member) = client.memory (.member member))
    : other.NothingToResend ↔ client.NothingToResend := by
  simp only [NothingToResend, HasCostume, HasGame, userId, members]

theorem members_allocate (client : SendSide Body) (packet : OutPacket Body) (member : Member)
    : (client.allocate packet).memory (.member member) = client.memory (.member member) := by
  have apart : Address.member member ≠ .heap client.allocations := by simp
  exact Function.update_of_ne apart packet client.memory

/-- Queueing a packet leaves alone all that a resending looks at. -/
theorem queuePacket_eq (client : SendSide Body) (packet : Address)
    : ∃ mSendQueue accepted freed,
        client.queuePacket packet = { client with mSendQueue, accepted, freed } := by
  unfold SendSide.queuePacket
  split_ifs
  · exact ⟨_, _, _, rfl⟩
  · exact ⟨_, _, _, rfl⟩

/-- Connecting again keeps the queue the owner exactly when there is nothing to resend. -/
theorem Owned.init_iff [DecidableEq Body] {client : SendSide Body} (owned : client.Owned)
    (connects : Bool) (body : Body)
    : (client.init connects body).Owned
      ↔ (connects = true → client.mIsFirstConnect = true ∨ client.NothingToResend) := by
  cases connects with
  | false =>
      refine ⟨fun _ never => absurd never Bool.false_ne_true, fun _ => ?_⟩
      exact owned.remember false _ _ _ _ _
  | true =>
      have connected : ({ client with connected := true, mIsFirstConnect := false }).Owned :=
        owned.remember true false _ _ _ _
      have presented := connected.allocate { userId := client.mUserID, body := some body }
      have same := @nothingToResend_congr Body client
        ({ client with connected := true, mIsFirstConnect := false }.allocate
          { userId := client.mUserID, body := some body }) rfl
        (members_allocate { client with connected := true, mIsFirstConnect := false } _)
      simp only [SendSide.init, if_true, forall_const]
      by_cases first : client.mIsFirstConnect = true
      · rw [if_pos first]
        exact iff_of_true presented (.inl first)
      · rw [if_neg first, or_iff_right first, ← same]
        constructor
        · intro after
          by_contra resends
          obtain ⟨member, given⟩ := member_mem_resendInitPackets resends
          exact not_owned_of_member given after
        · intro nothing
          rwa [resendInitPackets_eq nothing]

/-- What is resent is the same after a packet was made for the queue. -/
theorem nothingToResend_queueNew (client : SendSide Body) (body : Body)
    : ({ client.queueNew body with connected := false }).NothingToResend
      ↔ client.NothingToResend := by
  obtain ⟨queue, accepted, freed, same⟩ :=
    (client.allocate { userId := client.mUserID, body := some body }).queuePacket_eq
      (.heap client.allocations)
  rw [SendSide.queueNew, same]
  exact nothingToResend_congr rfl
    (members_allocate client { userId := client.mUserID, body := some body })

theorem mIsFirstConnect_queueNew (client : SendSide Body) (body : Body)
    : (client.queueNew body).mIsFirstConnect = client.mIsFirstConnect := by
  obtain ⟨queue, accepted, freed, same⟩ :=
    (client.allocate { userId := client.mUserID, body := some body }).queuePacket_eq
      (.heap client.allocations)
  rw [SendSide.queueNew, same]
  rfl

section Steps

variable [DecidableEq Body] {next : SendSide Body}

/-- A step of the send thread keeps the queue the owner. -/
theorem Owned.turn_step {event : Event Body} (owned : client.Owned)
    (thread : event = .pop ∨ event = .send ∨ event = .free)
    (taken : client.step event = some next)
    : next.Owned := by
  rcases thread with rfl | rfl | rfl
  · simp only [step] at taken
    split at taken
    · next packet later turn queue =>
        cases taken
        exact owned.pop turn queue
    · cases taken
  · simp only [step] at taken
    split at taken
    · next packet turn =>
        cases taken
        refine owned.send turn ?_
        intro said member
        split_ifs at member
        · exact (Option.some.inj member).symm
        · cases member
    · cases taken
  · simp only [step] at taken
    split at taken
    · next packet turn =>
        cases taken
        exact owned.freeSent turn
    · cases taken

/-- One step: while the queue owns what is in it, it does after the step exactly when the step
queues no member.
-/
theorem owned_step {event : Event Body} (owned : client.Owned)
    (taken : client.step event = some next)
    : client.QueuesNoMember event ↔ next.Owned := by
  cases event with
  | pop => exact iff_of_true trivial (owned.turn_step (.inl rfl) taken)
  | send => exact iff_of_true trivial (owned.turn_step (.inr (.inl rfl)) taken)
  | free => exact iff_of_true trivial (owned.turn_step (.inr (.inr rfl)) taken)
  | sendPlayerInfPacket body isCaptured =>
      cases taken
      exact iff_of_true trivial (owned.sendPlayerInfPacket body isCaptured)
  | sendGameInfPacket body =>
      cases taken
      exact iff_of_true trivial (owned.keepAndQueueNew _ body _)
  | sendGameInfPacketOfStage body =>
      cases taken
      exact iff_of_true trivial (owned.keepAndQueueNew _ body _)
  | sendCostumeInfPacket body =>
      cases taken
      exact iff_of_true trivial (owned.sendCostumeInfPacket body)
  | sendHackCapInfPacket isFlying body resetBody =>
      cases taken
      exact iff_of_true trivial (owned.sendHackCapInfPacket isFlying body resetBody)
  | sendCaptureInfPacket body resetBody =>
      cases taken
      exact iff_of_true trivial (owned.sendCaptureInfPacket body resetBody)
  | sendTagInfPacket isHideAndSeek body =>
      cases taken
      exact iff_of_true trivial (owned.sendTagInfPacket isHideAndSeek body)
  | sendShineCollectPacket shineID body =>
      cases taken
      exact iff_of_true trivial (owned.sendShineCollectPacket shineID body)
  | sendFlagHoldStatePacket body =>
      cases taken
      exact iff_of_false not_false (not_owned_of_member (member_mem_queuePacket _ _))
  | sendCTFWinPacket body =>
      cases taken
      exact iff_of_false not_false (not_owned_of_member (member_mem_queuePacket _ _))
  | resendInitPackets =>
      cases taken
      constructor
      · intro nothing
        rwa [resendInitPackets_eq nothing]
      · intro after
        by_contra resends
        obtain ⟨member, given⟩ := member_mem_resendInitPackets resends
        exact not_owned_of_member given after
  | setIsFirstConn value =>
      cases taken
      exact iff_of_true trivial (owned.remember _ value _ _ _ _)
  | init connects body =>
      cases taken
      exact (owned.init_iff connects body).symm
  | tryReconnect connects body =>
      cases taken
      exact ((owned.remember false _ _ _ _ _).init_iff connects body).symm
  | restartConnection connects body goodbye =>
      cases taken
      have closed : ({ client.queueNew goodbye with connected := false }).Owned :=
        (owned.queueNew goodbye).remember false _ _ _ _ _
      have reconnects := closed.init_iff connects body
      rw [nothingToResend_queueNew, mIsFirstConnect_queueNew] at reconnects
      exact reconnects.symm

end Steps

theorem owned_initial (userId : Guid) : ({ mUserID := userId } : SendSide Body).Owned :=
  ⟨nofun, List.nodup_nil, nofun, [], rfl, .nil⟩

/-- In every run the queue owns what is in it after each step exactly when no step queues a
member of `Client`.
-/
theorem owned_iff [DecidableEq Body] (userId : Guid) {events : List (Event Body)}
    {client : SendSide Body}
    : Run step QueuesNoMember { mUserID := userId } events client
      ↔ Run step (Into step Owned) { mUserID := userId } events client :=
  Run.into_iff (owned_initial userId) fun owned taken => owned_step owned taken

/-- A flag that is picked up and dropped before the send thread has its turn: what was accepted
first is never sent, and `mHeap` is asked twice to free a member of `Client`.
-/
theorem flagHoldState_overwritten
    : ∃ client : SendSide Bool,
        AnyRun step { mUserID := .empty }
          [.init true false, .sendFlagHoldStatePacket true, .sendFlagHoldStatePacket false,
            .pop, .send, .free, .pop, .send, .free]
          client
        ∧ client.accepted.map (fun entry => entry.2.body) = [some true, some false]
        ∧ client.turns.map (fun sent => sent.bind OutPacket.body) = [some false, some false]
        ∧ client.freed = [.member .lastFlagHoldStatePacket, .member .lastFlagHoldStatePacket]
        ∧ ¬client.Owned := by
  refine ⟨_, execute_get_run rfl, rfl, rfl, rfl, ?_⟩
  apply @not_owned_of_member _ _ .lastFlagHoldStatePacket
  exact List.mem_cons_self

end SendSide

end SmoOnline.Mod
