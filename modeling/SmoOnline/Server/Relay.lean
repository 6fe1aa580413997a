import SmoOnline.Library.Lists
import SmoOnline.Server.Seats
import SmoOnline.Server.Writes

/-! How often the others get what a player sent. A handler that has sent its copies says so,
and the frame is not passed on again; but one that throws among its copies leaves those it
made, and the frame is passed on to everybody on top of them.
-/

namespace SmoOnline

open Span Utf8 Runs

/-- The message is sent to the receiver on behalf of a frame of the sender. -/
def Sent.onBehalf (sender receiver : SocketId) (message : Sent) : Bool :=
  message.socket == receiver
    && (message.cause == .relay sender || message.cause == .handler sender)

/-- How many messages are sent to the receiver on behalf of the frame that was dispatched. -/
def copies (before after : ServerState) (sender receiver : SocketId) : Nat :=
  (after.sent.drop before.sent.length).countP (Sent.onBehalf sender receiver)

/-- How many copies of a packet a receiver is to get. A moon is dropped where moons are off,
and only a flag hold and a win come back to their sender.
-/
def dueCopies (settings : Settings) (packet : Option Packet) (sender receiver : SocketId)
    : Nat :=
  match packet with
  | some (.shine _) => if !settings.shines.enabled || receiver = sender then 0 else 1
  | some (.flagHoldState _) | some (.captureTheFlagWin _) => 1
  | _ => if receiver = sender then 0 else 1

/-- Everybody in the table who can be reached gets the copies due. -/
def RelaysOnce (before after : ServerState) (sender : SocketId) (memory : Bytes) : Prop :=
  ∀ receiver ∈ before.clients,
    (before.session receiver).connected = true
    → (before.session receiver).socketConnected = true
    → copies before after sender receiver
      = dueCopies before.settings (decodeFrame memory) sender receiver

/-- The replacer answers for every recipient, or it throws before any copy reaches one. -/
def WholeOrUnheard (state : ServerState) (sender : SocketId) (answers : SocketId → Bool)
    : Prop :=
  (∀ receiver ∈ state.recipients sender, answers receiver = true)
  ∨ ∀ receiver ∈ (state.recipients sender).takeWhile answers,
      (state.session receiver).socketConnected = false

/-- The stage handling of a game packet ends without throwing. -/
def ServerState.entersStage (state : ServerState) (socket : SocketId) (packet : GamePacket)
    : Bool :=
  if packet.stage = "CapWorldHomeStage".toList ∧ packet.scenarioNum = 0 then
    (state.metadata socket).shineSync.isSome
  else if packet.stage = "WaterfallWorldHomeStage".toList then
    (state.metadata socket).speedrun.isSome
  else true

/-- No handler throws among its copies: a merged game packet finds a scenario for every
recipient, and a player packet for flipped recipients finds whether its sender is in 2D.
-/
def HandsOutOnce (state : ServerState) (socket : SocketId) : Option Packet → Prop
  | some (.game packet) =>
      state.settings.scenario.mergeEnabled = true
      → state.entersStage socket packet = true
      → WholeOrUnheard state socket fun receiver =>
          (state.metadata receiver).scenario.isSome
  | some (.player _) =>
      state.flipsSender socket = false
      → state.flipsRecipients socket = true
      → WholeOrUnheard state socket fun receiver =>
          !state.settings.flip.players.contains (state.session receiver).id
            || (state.metadata socket).is2d.isSome
  | _ => True

-----------------------------------------------------------------------------------------
-- Broadcasts as writes
-----------------------------------------------------------------------------------------

/-- Of one write to each of some clients, those to one client are the one to it if it is among
them and its socket is open, by induction on the clients.
-/
theorem filter_writes (state : ServerState) {sockets : List SocketId} (nodup : sockets.Nodup)
    (data : SocketId → Bytes) (cause : Cause) (receiver : SocketId)
    : (sockets.flatMap fun socket => state.write socket (data socket) cause).filter
        (fun message => message.socket = receiver)
      = if receiver ∈ sockets ∧ (state.session receiver).socketConnected = true then
          [{ socket := receiver, data := data receiver, cause }]
        else [] := by
  induction sockets with
  | nil => simp
  | cons socket rest ih =>
      obtain ⟨outside, nodupRest⟩ := List.nodup_cons.mp nodup
      rw [List.flatMap_cons, List.filter_append, ih nodupRest, ServerState.write]
      by_cases same : receiver = socket
      · subst same
        cases isOpen : (state.session receiver).socketConnected <;> simp [outside]
      · have apart : ¬socket = receiver := Ne.symm same
        cases (state.session socket).socketConnected <;> simp [apart, same]

/-- One write to each of some clients is counted once for each of them that has an open socket. -/
theorem countP_writes (state : ServerState) {sockets : List SocketId} (nodup : sockets.Nodup)
    (data : SocketId → Bytes) {cause : Cause} {sender : SocketId}
    (counted : cause = .relay sender ∨ cause = .handler sender) (receiver : SocketId)
    : (sockets.flatMap fun socket => state.write socket (data socket) cause).countP
        (Sent.onBehalf sender receiver)
      = if receiver ∈ sockets ∧ (state.session receiver).socketConnected = true then 1
        else 0 := by
  have behalf
      : ∀ message ∈ sockets.flatMap fun socket => state.write socket (data socket) cause,
          Sent.onBehalf sender receiver message ↔ (decide (message.socket = receiver)) = true := by
    intro message written
    obtain ⟨socket, _, written⟩ := List.mem_flatMap.mp written
    unfold ServerState.write at written
    split_ifs at written
    · obtain rfl := List.mem_singleton.mp written
      rcases counted with rfl | rfl <;> simp [Sent.onBehalf]
    · cases written
  rw [List.countP_congr behalf, List.countP_eq_length_filter, filter_writes state nodup]
  split_ifs <;> rfl

namespace ServerState

variable {state : ServerState} {runtime : Runtime}

/-- Passing a frame on writes it to each recipient. -/
theorem broadcastMemory_eq {data frame : Bytes} {header : PacketHeader}
    (read : PacketHeader.deserialize data = some header)
    (relayed : relayedFrame data header = some frame) (sender : SocketId) (cause : Cause)
    : state.broadcastMemory data sender cause
      = (state.recipients sender).flatMap fun socket => state.write socket frame cause :=
  List.flatMap_congr fun _ member =>
    sendMemory_of_connected (mem_recipients.mp member).2.1 read relayed

theorem broadcastToAll_eq {packet : Packet} (cause : Cause)
    (completes : ∀ id, (runtime.filled id packet).2 = true)
    : state.broadcastToAll runtime packet cause
      = state.connectedClients.flatMap fun socket =>
          state.write socket (runtime.typedFrame (state.session socket).id packet) cause := by
  refine List.flatMap_congr fun socket member => ?_
  have both
      : runtime.filled (state.session socket).id packet
        = ((runtime.filled (state.session socket).id packet).1, true) :=
    Prod.ext rfl (completes _)
  rw [both]
  exact sendMemory_filled (mem_connectedClients.mp member).2

/-- The copies of a replaced packet go to the recipients before the first that the replacer
throws on, by induction on the recipients.
-/
theorem sendReplaced_eq (id : Guid) (cause : Cause) (replacer : SocketId → Option Packet)
    (sockets : List SocketId)
    : state.sendReplaced runtime id cause replacer sockets
      = ((sockets.takeWhile fun socket => (replacer socket).isSome).flatMap (fun socket =>
            state.write socket (((replacer socket).map (runtime.typedFrame id)).getD []) cause),
          sockets.all fun socket => (replacer socket).isSome) := by
  induction sockets with
  | nil => rfl
  | cons socket rest ih =>
      rw [sendReplaced]
      cases replaced : replacer socket with
      | none => simp [replaced]
      | some packet => simp [replaced, ih, sendPacket]

end ServerState

-----------------------------------------------------------------------------------------
-- What each handler hands out
-----------------------------------------------------------------------------------------

/-- Handling a packet of the sender adds writes of which so many go to each receiver, and says
whether it has sent what was to be sent.
-/
def HandsOut (state : ServerState) (sender : SocketId) (result : ServerState × Outcome)
    (handled : Bool) (count : SocketId → Nat)
    : Prop :=
  ∃ writes,
    result.1.sent = state.sent ++ writes
    ∧ (result.2 = .handled ↔ handled = true)
    ∧ ∀ receiver, writes.countP (Sent.onBehalf sender receiver) = count receiver

/-- One for each of the clients that has an open socket. -/
def oneEach (state : ServerState) (sockets : List SocketId) (receiver : SocketId) : Nat :=
  if receiver ∈ sockets ∧ (state.session receiver).socketConnected = true then 1 else 0

theorem HandsOut.nothing {state after : ServerState} {sender : SocketId} {outcome : Outcome}
    {handled : Bool} (sent : after.sent = state.sent)
    (outcomeIs : outcome = .handled ↔ handled = true)
    : HandsOut state sender (after, outcome) handled fun _ => 0 :=
  ⟨[], by rw [sent, List.append_nil], outcomeIs, fun _ => rfl⟩

namespace ServerState

variable {state : ServerState} {runtime : Runtime} {socket : SocketId}

theorem recipients_nodup (tidy : Tidy state) (sender : SocketId)
    : (state.recipients sender).Nodup :=
  tidy.nodup.filter _

/-- A replaced broadcast hands a copy to each recipient before the first that the replacer
throws on.
-/
theorem broadcastReplace_counts (tidy : Tidy state) {replacer : SocketId → Option Packet}
    {answers : SocketId → Bool}
    (same
      : ∀ receiver ∈ state.recipients socket, (replacer receiver).isSome = answers receiver)
    : (state.broadcastReplace runtime socket (.handler socket) replacer).2
        = (state.recipients socket).all answers
      ∧ ∀ receiver,
          (state.broadcastReplace runtime socket (.handler socket) replacer).1.countP
              (Sent.onBehalf socket receiver)
            = oneEach state ((state.recipients socket).takeWhile answers) receiver := by
  rw [broadcastReplace, sendReplaced_eq, Lists.takeWhile_congr same]
  refine ⟨Lists.all_congr_mem same, fun receiver => ?_⟩
  exact countP_writes state ((recipients_nodup tidy socket).sublist (List.takeWhile_sublist _)) _
    (.inr rfl) receiver

/-- A broadcast of a packet that can be stored hands a copy to each recipient. -/
theorem broadcastPacket_counts (tidy : Tidy state) {packet : Packet}
    (sendable : packet.Sendable) (other : packet.kind ≠ .captureTheFlagPlayerTeamAssignment)
    (receiver : SocketId)
    : (state.broadcastPacket runtime packet socket (.handler socket)).countP
        (Sent.onBehalf socket receiver)
      = oneEach state (state.recipients socket) receiver := by
  rw [broadcastPacket_eq _ (runtime.filled_completes _ sendable other)]
  exact countP_writes state (recipients_nodup tidy socket) _ (.inr rfl) receiver

theorem metadata_setMetadata_self (metadata : Metadata)
    : (state.setMetadata socket metadata).metadata socket = metadata := by
  simp [setMetadata, setProfile, ServerState.metadata]

theorem metadata_setMetadata_apart {other : SocketId} (metadata : Metadata)
    (apart : (state.session other).profile ≠ (state.session socket).profile)
    : (state.setMetadata socket metadata).metadata other = state.metadata other := by
  simp [setMetadata, setProfile, ServerState.metadata, Function.update_of_ne apart]

/-- Entering a stage touches no metadata but the player's own. -/
theorem enterStage_metadata_apart {other : SocketId} (packet : GamePacket)
    (apart : (state.session other).profile ≠ (state.session socket).profile)
    : (state.enterStage socket packet).1.metadata other = state.metadata other := by
  unfold enterStage
  dsimp only
  split_ifs
  · cases (state.metadata socket).shineSync with
    | none => exact metadata_setMetadata_apart _ apart
    | some _ =>
        have twice (first second : Metadata)
            : ((state.setMetadata socket first).setMetadata socket second).metadata other
              = state.metadata other :=
          (@metadata_setMetadata_apart (state.setMetadata socket first) socket other second
            apart).trans (metadata_setMetadata_apart first apart)
        exact twice _ _
  · cases (state.metadata socket).speedrun with
    | none => rfl
    | some wasSpeedrun => cases wasSpeedrun <;> exact metadata_setMetadata_apart _ apart
  · rfl

theorem enterStage_completes (packet : GamePacket)
    : (state.enterStage socket packet).2 = state.entersStage socket packet := by
  unfold enterStage entersStage
  dsimp only
  split_ifs
  · cases (state.metadata socket).shineSync <;> rfl
  · cases (state.metadata socket).speedrun <;> rfl
  · rfl

theorem handleGame_hands (tidy : Tidy state) (packet : GamePacket)
    : if state.settings.scenario.mergeEnabled && state.entersStage socket packet then
        HandsOut state socket (state.handleGame runtime socket packet)
          ((state.recipients socket).all fun receiver =>
            (state.metadata receiver).scenario.isSome)
          (oneEach state ((state.recipients socket).takeWhile fun receiver =>
            (state.metadata receiver).scenario.isSome))
      else HandsOut state socket (state.handleGame runtime socket packet) false fun _ => 0 := by
  unfold handleGame
  dsimp only
  generalize placed
    : ({ state.setMetadata socket _ with players := _ } : ServerState) = known
  have first : Quiet state known := placed ▸ .of_session_eq rfl rfl rfl rfl rfl
  have knownSent : known.sent = state.sent := placed ▸ rfl
  have own : known.metadata socket = { state.metadata socket with
      scenario := some packet.scenarioNum
      is2d := some packet.is2d
      lastGamePacket := some packet } :=
    placed ▸ metadata_setMetadata_self _
  have knownApart {other : SocketId}
      (apart : (state.session other).profile ≠ (state.session socket).profile)
      : known.metadata other = state.metadata other :=
    placed ▸ metadata_setMetadata_apart _ apart
  have second := enterStage_quiet known socket packet
  have stageSent := enterStage_sent known socket packet
  have stageApart {other : SocketId}
      (apart : (state.session other).profile ≠ (state.session socket).profile)
      : (known.enterStage socket packet).1.metadata other = state.metadata other := by
    rw [enterStage_metadata_apart packet (by rwa [first.profile, first.profile]),
      knownApart apart]
  have completes : (known.enterStage socket packet).2 = state.entersStage socket packet := by
    rw [enterStage_completes, entersStage, entersStage, own]
  clear placed
  generalize known.enterStage socket packet = stage at second stageSent stageApart completes ⊢
  obtain ⟨entered, returned⟩ := stage
  have quiet := first.trans second
  have sent : entered.sent = state.sent := stageSent.trans knownSent
  rw [← completes]
  cases returned with
  | false =>
      rw [Bool.and_false]
      exact .nothing sent (by simp)
  | true =>
      dsimp only at stageApart ⊢
      rw [Bool.and_true, quiet.settings]
      cases state.settings.scenario.mergeEnabled with
      | false => exact .nothing sent (by simp)
      | true =>
          have same
              : ∀ receiver ∈ entered.recipients socket,
                (entered.mergeScenario packet receiver).isSome
                = (state.metadata receiver).scenario.isSome := by
            intro receiver member
            rw [quiet.recipients] at member
            have apart : (state.session receiver).profile ≠ (state.session socket).profile := by
              intro shared
              have differ := (mem_recipients.mp member).2.2
              rcases tidy.shared receiver socket shared with rfl | ⟨ids, _⟩
              · exact differ rfl
              · exact differ ids
            rw [mergeScenario, stageApart apart]
            cases (state.metadata receiver).scenario <;> rfl
          obtain ⟨all, counts⟩ :=
            @broadcastReplace_counts entered runtime socket (tidy.of_quiet quiet) _ _ same
          rw [quiet.recipients] at all counts
          simp only [if_true]
          generalize entered.broadcastReplace runtime socket (.handler socket)
            (entered.mergeScenario packet) = replaced at all counts ⊢
          obtain ⟨writes, completed⟩ := replaced
          have oneEachSame (sockets : List SocketId) (receiver : SocketId)
              : oneEach entered sockets receiver = oneEach state sockets receiver := by
            rw [oneEach, oneEach, quiet.socketConnected]
          rw [← all]
          cases completed with
          | true =>
              exact ⟨writes, congrArg (· ++ writes) sent, by simp, fun receiver =>
                (counts receiver).trans (oneEachSame _ _)⟩
          | false =>
              exact ⟨writes, congrArg (· ++ writes) sent, by simp, fun receiver =>
                (counts receiver).trans (oneEachSame _ _)⟩

theorem flipFor_answers (packet : PlayerPacket) (receiver : SocketId)
    : (state.flipFor runtime socket packet receiver).isSome
      = (!state.settings.flip.players.contains (state.session receiver).id
          || (state.metadata socket).is2d.isSome) := by
  unfold flipFor
  cases state.settings.flip.players.contains (state.session receiver).id with
  | false => rfl
  | true => cases (state.metadata socket).is2d <;> rfl

theorem handlePlayer_hands (tidy : Tidy state) {packet : PlayerPacket}
    (weights : packet.animationBlendWeights.length = 6)
    : if state.flipsSender socket then
        if (state.metadata socket).is2d.isSome then
          HandsOut state socket (state.handlePlayer runtime socket packet) true
            (oneEach state (state.recipients socket))
        else HandsOut state socket (state.handlePlayer runtime socket packet) false fun _ => 0
      else if state.flipsRecipients socket then
        HandsOut state socket (state.handlePlayer runtime socket packet)
          ((state.recipients socket).all fun receiver =>
            !state.settings.flip.players.contains (state.session receiver).id
              || (state.metadata socket).is2d.isSome)
          (oneEach state ((state.recipients socket).takeWhile fun receiver =>
            !state.settings.flip.players.contains (state.session receiver).id
              || (state.metadata socket).is2d.isSome))
      else HandsOut state socket (state.handlePlayer runtime socket packet) false fun _ => 0 := by
  unfold handlePlayer
  dsimp only
  split_ifs with flips known others
  · obtain ⟨is2d, known⟩ := Option.isSome_iff_exists.mp known
    rw [known]
    refine ⟨_, rfl, by simp, fun receiver => ?_⟩
    have sendable : (Packet.player (flip runtime is2d packet)).Sendable := weights
    exact broadcastPacket_counts tidy sendable nofun receiver
  · rw [Option.not_isSome_iff_eq_none.mp known]
    exact .nothing rfl (by simp)
  · obtain ⟨all, counts⟩ :=
      @broadcastReplace_counts state runtime socket tidy (state.flipFor runtime socket packet) _
        fun receiver _ => flipFor_answers packet receiver
    generalize state.broadcastReplace runtime socket (.handler socket)
      (state.flipFor runtime socket packet) = replaced at all counts ⊢
    obtain ⟨writes, completed⟩ := replaced
    rw [← all]
    cases completed with
    | true => exact ⟨writes, rfl, by simp, counts⟩
    | false => exact ⟨writes, rfl, by simp, counts⟩
  · exact .nothing rfl (by simp)

theorem handleShine_hands (packet : ShinePacket)
    : HandsOut state socket (state.handleShine socket packet) (!state.settings.shines.enabled)
        fun _ => 0 := by
  suffices outcome
      : (state.handleShine socket packet).2 = .handled
        ↔ (!state.settings.shines.enabled) = true from
    .nothing (state.handleShine_sent socket packet) outcome
  unfold handleShine
  split_ifs with disabled
  · simp [disabled]
  · rw [Bool.not_eq_true] at disabled
    rw [disabled]
    cases (state.metadata socket).loadedSave with
    | none => simp
    | some loaded =>
        cases loaded with
        | false => simp
        | true =>
            cases (state.metadata socket).shineSync with
            | none => simp
            | some playerBag =>
                dsimp only
                split_ifs <;> simp

theorem handleFlagHoldState_hands (tidy : Tidy state) (now : Nat) (packet : FlagHoldStatePacket)
    : HandsOut state socket (state.handleFlagHoldState runtime now socket packet) true
        fun receiver =>
          oneEach state (state.recipients socket) receiver + oneEach state [socket] receiver := by
  refine ⟨_, rfl, by simp [handleFlagHoldState], fun receiver => ?_⟩
  have others := @broadcastPacket_counts state runtime socket tidy (.flagHoldState packet)
    trivial nofun receiver
  have own := @countP_writes state [socket] (List.pairwise_singleton _ socket)
    (fun _ => runtime.typedFrame (state.session socket).id (.flagHoldState packet))
    (.handler socket) socket (.inr rfl) receiver
  rw [List.flatMap_singleton] at own
  rw [List.countP_append, others]
  exact congrArg _ own

theorem handleCaptureTheFlagWin_hands (tidy : Tidy state) (packet : CaptureTheFlagWinPacket)
    : HandsOut state socket (state.handleCaptureTheFlagWin runtime socket packet) true
        (oneEach state state.connectedClients) := by
  refine ⟨_, rfl, by simp [handleCaptureTheFlagWin], fun receiver => ?_⟩
  have completes (id : Guid) :=
    @Runtime.filled_completes runtime id (.captureTheFlagWin packet) trivial nofun
  rw [broadcastToAll_eq _ completes]
  exact countP_writes state (tidy.nodup.filter _) _ (.inr rfl) receiver

end ServerState

/-- A player packet is always decoded with its six weights. -/
theorem PlayerPacket.weights_of_deserialize {data : Bytes} {packet : PlayerPacket}
    (decoded : deserialize data = some packet)
    : packet.animationBlendWeights.length = 6 := by
  simp only [deserialize, Option.bind_eq_bind, Option.bind_eq_some_iff] at decoded
  obtain ⟨_, _, _, _, _, _, _, _, _, _, made⟩ := decoded
  obtain rfl := Option.some.inj made
  exact length_readMany _ _

theorem PlayerPacket.weights_of_decodeFrame {memory : Bytes} {packet : PlayerPacket}
    (decoded : decodeFrame memory = some (.player packet))
    : packet.animationBlendWeights.length = 6 := by
  simp only [decodeFrame, Option.bind_eq_bind, Option.bind_eq_some_iff] at decoded
  obtain ⟨_, _, kind, _, payload, _, decoded⟩ := decoded
  cases kind with
  | player =>
      obtain ⟨value, read, wrapped⟩ := Option.map_eq_some_iff.mp decoded
      obtain rfl := Packet.player.inj wrapped
      exact weights_of_deserialize read
  | _ => simp [PacketKind.deserialize] at decoded

-----------------------------------------------------------------------------------------
-- Exactly once
-----------------------------------------------------------------------------------------

/-- Among the clients that can be reached, the recipients are those other than the sender. -/
theorem oneEach_recipients {state : ServerState} {sender receiver : SocketId}
    (tidy : Tidy state) (entry : sender ∈ state.clients) (there : receiver ∈ state.clients)
    (connected : (state.session receiver).connected = true)
    (isOpen : (state.session receiver).socketConnected = true)
    : oneEach state (state.recipients sender) receiver = if receiver = sender then 0 else 1 := by
  unfold oneEach
  split_ifs with recipient same same
  · have differ := (ServerState.mem_recipients.mp recipient.1).2.2
    exact absurd (congrArg (fun socket => (state.session socket).id) same) differ
  · rfl
  · rfl
  · refine absurd ⟨ServerState.mem_recipients.mpr ⟨there, connected, fun ids => ?_⟩, isOpen⟩
      recipient
    exact same (tidy.distinct receiver there sender entry ids)

/-- What a receiver gets of a dispatched frame: the handler's copies, and the frame itself
where the handler has not sent what was to be sent.
-/
theorem copies_dispatch {runtime : Runtime} {state next : ServerState} {socket : SocketId}
    {now : Nat} {memory : Bytes} {handled : Bool} {count : SocketId → Nat} (tidy : Tidy state)
    (seated : Seated state) (dispatching : (state.session socket).phase = .dispatching memory)
    (taken : state.dispatch runtime socket now = some next)
    (hands : HandsOut state socket (state.handleFrame runtime now socket memory) handled count)
    (receiver : SocketId)
    : copies state next socket receiver
      = count receiver
        + if handled then 0 else oneEach state (state.recipients socket) receiver := by
  obtain ⟨held, still, rfl⟩ := ServerState.dispatch_cases taken
  obtain rfl := Phase.dispatching.inj (dispatching.symm.trans still)
  obtain ⟨made, _, copied, sent⟩ := state.dispatchFrame_sent runtime now socket memory
  obtain ⟨writes, written, outcome, counts⟩ := hands
  obtain rfl := List.append_cancel_left (written.symm.trans copied)
  obtain ⟨header, framed, _⟩ := (seated.sound socket).dispatching memory dispatching
  have relays := @countP_writes state _ (ServerState.recipients_nodup tidy socket)
    (fun _ => memory.take ((headerSize : Int) + header.packetSize.toInt).toNat)
    (.relay socket) socket (.inl rfl) receiver
  rw [← ServerState.broadcastMemory_eq framed.read framed.relayedFrame] at relays
  have added
      : copies state ((state.dispatchFrame runtime now socket memory).setPhase socket
          (.reading false)) socket receiver
        = (writes ++ (if (state.handleFrame runtime now socket memory).2 = .handled then []
            else state.broadcastMemory memory socket (.relay socket))).countP
          (Sent.onBehalf socket receiver) := by
    have whole
        : ((state.dispatchFrame runtime now socket memory).setPhase socket
            (.reading false)).sent
          = state.sent ++ (writes ++ _) :=
      sent.trans (List.append_assoc _ _ _)
    rw [copies, whole, List.drop_left]
  rw [added, List.countP_append, counts]
  congr 1
  cases handled with
  | true => rw [if_pos (outcome.mpr rfl)]; rfl
  | false =>
      rw [if_neg fun was => Bool.false_ne_true (outcome.mp was)]
      exact relays

/-- A replaced broadcast and the frame that follows it where the replacer threw come to one
copy each exactly when the replacer threw on nobody or unheard.
-/
theorem wholeOrUnheard_iff {state : ServerState} {sender : SocketId} (tidy : Tidy state)
    (entry : sender ∈ state.clients) (answers : SocketId → Bool)
    : (∀ receiver ∈ state.clients,
        (state.session receiver).connected = true
        → (state.session receiver).socketConnected = true
        → (oneEach state ((state.recipients sender).takeWhile answers) receiver
            + if (state.recipients sender).all answers then 0
              else if receiver = sender then 0 else 1)
          = if receiver = sender then 0 else 1)
      ↔ WholeOrUnheard state sender answers := by
  cases whole : (state.recipients sender).all answers with
  | true =>
      have everybody := List.all_eq_true.mp whole
      refine iff_of_true (fun receiver there connected isOpen => ?_) (.inl everybody)
      rw [List.takeWhile_eq_self_iff.mpr everybody,
        oneEach_recipients tidy entry there connected isOpen]
      rfl
  | false =>
      have somebody : ¬∀ receiver ∈ state.recipients sender, answers receiver = true := by
        rw [← List.all_eq_true, whole]
        exact Bool.false_ne_true
      simp only [Bool.false_eq_true, if_false, Nat.add_eq_right]
      constructor
      · intro unheard
        refine .inr fun receiver heard => ?_
        have recipient := ServerState.mem_recipients.mp ((List.takeWhile_sublist _).subset heard)
        by_contra isOpen
        rw [Bool.not_eq_false] at isOpen
        have none := unheard receiver recipient.1 recipient.2.1 isOpen
        rw [oneEach, if_pos ⟨heard, isOpen⟩] at none
        cases none
      · rintro (everybody | unheard) receiver there connected isOpen
        · exact absurd everybody somebody
        · refine if_neg fun heard => ?_
          rw [unheard receiver heard.1] at isOpen
          cases isOpen

section dispatched

variable {runtime : Runtime} {before after : ServerState} {socket : SocketId} {now : Nat}
  {memory : Bytes}

/-- A frame reaches everybody as often as is due exactly when its handler's copies, and the frame
itself where the handler does not keep it back, come to that.
-/
theorem HandsOut.due_iff (tidy : Tidy before) (seated : Seated before)
    (entry : socket ∈ before.clients)
    (dispatching : (before.session socket).phase = .dispatching memory)
    (taken : before.dispatch runtime socket now = some after) {handled : Bool}
    {count : SocketId → Nat}
    (hands : HandsOut before socket (before.handleFrame runtime now socket memory) handled count)
    : RelaysOnce before after socket memory
      ↔ ∀ receiver ∈ before.clients,
          (before.session receiver).connected = true
          → (before.session receiver).socketConnected = true
          → (count receiver + if handled then 0 else if receiver = socket then 0 else 1)
            = dueCopies before.settings (decodeFrame memory) socket receiver := by
  refine forall₄_congr fun receiver there connected isOpen => ?_
  rw [copies_dispatch tidy seated dispatching taken hands,
    oneEach_recipients tidy entry there connected isOpen]

theorem handleFrame_of_decoded {packet : Packet} (decoded : decodeFrame memory = some packet)
    : before.handleFrame runtime now socket memory
      = before.packetHandler runtime now socket packet := by
  simp [ServerState.handleFrame, decoded]

theorem relaysOnce_game_iff (tidy : Tidy before) (seated : Seated before)
    (entry : socket ∈ before.clients)
    (dispatching : (before.session socket).phase = .dispatching memory)
    (taken : before.dispatch runtime socket now = some after) {packet : GamePacket}
    (decoded : decodeFrame memory = some (.game packet))
    : RelaysOnce before after socket memory
      ↔ HandsOutOnce before socket (some (.game packet)) := by
  have due {handled : Bool} {count : SocketId → Nat} :=
    @HandsOut.due_iff runtime before after socket now memory tidy seated entry dispatching taken
      handled count
  rw [handleFrame_of_decoded decoded, decoded] at due
  have hands := @ServerState.handleGame_hands before runtime socket tidy packet
  by_cases merges
      : (before.settings.scenario.mergeEnabled && before.entersStage socket packet) = true
  · rw [if_pos merges] at hands
    rw [Bool.and_eq_true] at merges
    refine (due hands).trans ((wholeOrUnheard_iff tidy entry _).trans ?_)
    exact ⟨fun once _ _ => once, fun once => once merges.1 merges.2⟩
  · rw [if_neg merges] at hands
    refine iff_of_true ((due hands).mpr (by simp [dueCopies])) fun enabled enters => ?_
    exact absurd (by rw [enabled, enters]; rfl) merges

theorem relaysOnce_player_iff (tidy : Tidy before) (seated : Seated before)
    (entry : socket ∈ before.clients)
    (dispatching : (before.session socket).phase = .dispatching memory)
    (taken : before.dispatch runtime socket now = some after) {packet : PlayerPacket}
    (decoded : decodeFrame memory = some (.player packet))
    : RelaysOnce before after socket memory
      ↔ HandsOutOnce before socket (some (.player packet)) := by
  have due {handled : Bool} {count : SocketId → Nat} :=
    @HandsOut.due_iff runtime before after socket now memory tidy seated entry dispatching taken
      handled count
  rw [handleFrame_of_decoded decoded, decoded] at due
  have hands := @ServerState.handlePlayer_hands before runtime socket tidy packet
    (PlayerPacket.weights_of_decodeFrame decoded)
  cases flips : before.flipsSender socket with
  | true =>
      rw [if_pos flips] at hands
      refine iff_of_true ?_ fun unflipped => absurd (flips.symm.trans unflipped) nofun
      split_ifs at hands
      · refine (due hands).mpr fun receiver there connected isOpen => ?_
        rw [oneEach_recipients tidy entry there connected isOpen]
        rfl
      · exact (due hands).mpr (by simp [dueCopies])
  | false =>
      rw [if_neg (by simp [flips])] at hands
      cases others : before.flipsRecipients socket with
      | true =>
          rw [if_pos others] at hands
          refine (due hands).trans ((wholeOrUnheard_iff tidy entry _).trans ?_)
          exact ⟨fun once _ _ => once, fun once => once flips others⟩
      | false =>
          rw [if_neg (by simp [others])] at hands
          refine iff_of_true ((due hands).mpr (by simp [dueCopies])) ?_
          exact fun _ flipped => absurd (others.symm.trans flipped) nofun

end dispatched

/-- A frame of a player in the table reaches everybody as often as is due exactly when no
handler throws among its copies.
-/
theorem relaysOnce_iff {runtime : Runtime} {settings : Settings} {shines : List Int32}
    {events : List Event} {before after : ServerState} {socket : SocketId} {now : Nat}
    {memory : Bytes}
    (run : AnyRun (ServerState.step runtime) (.initial settings shines) events before)
    (entry : socket ∈ before.clients)
    (dispatching : (before.session socket).phase = .dispatching memory)
    (taken : before.dispatch runtime socket now = some after)
    : RelaysOnce before after socket memory
      ↔ HandsOutOnce before socket (decodeFrame memory) := by
  have tidy := Tidy.of_run run
  have seated := Seated.of_run run
  have due {handled : Bool} {count : SocketId → Nat} :=
    @HandsOut.due_iff runtime before after socket now memory tidy seated entry dispatching taken
      handled count
  cases decoded : decodeFrame memory with
  | none =>
      have handles : before.handleFrame runtime now socket memory = (before, .threw) := by
        simp [ServerState.handleFrame, decoded]
      have hands
          : HandsOut before socket (before.handleFrame runtime now socket memory) false
              fun _ => 0 :=
        handles ▸ .nothing rfl (by simp)
      refine iff_of_true ((due hands).mpr ?_) trivial
      simp [decoded, dueCopies]
  | some packet =>
      rw [handleFrame_of_decoded decoded, decoded] at due
      cases packet with
      | game packet => exact relaysOnce_game_iff tidy seated entry dispatching taken decoded
      | player packet => exact relaysOnce_player_iff tidy seated entry dispatching taken decoded
      | shine packet =>
          have hands := @ServerState.handleShine_hands before socket packet
          refine iff_of_true ((due hands).mpr ?_) trivial
          intro receiver _ _ _
          cases enabled : before.settings.shines.enabled <;> simp [dueCopies, enabled]
      | flagHoldState packet =>
          have hands := @ServerState.handleFlagHoldState_hands before runtime socket tidy now packet
          refine iff_of_true ((due hands).mpr ?_) trivial
          intro receiver there connected isOpen
          rw [oneEach_recipients tidy entry there connected isOpen]
          by_cases same : receiver = socket
          · subst same
            simp [oneEach, dueCopies, isOpen]
          · simp [oneEach, dueCopies, same]
      | captureTheFlagWin packet =>
          have hands := @ServerState.handleCaptureTheFlagWin_hands before runtime socket tidy packet
          refine iff_of_true ((due hands).mpr ?_) trivial
          intro receiver there connected isOpen
          have reached := ServerState.mem_connectedClients.mpr ⟨there, connected⟩
          simp [oneEach, dueCopies, reached, isOpen]
      | _ =>
          refine iff_of_true ((due (@HandsOut.nothing _ _ _ .relay false rfl ?_)).mpr ?_) trivial
          · simp
          · simp [dueCopies]

/-- Mario's memory with a game packet of his. -/
def gameMemory : Bytes :=
  (Runtime.pooled.filled ⟨7⟩ (.game { is2d := false, scenarioNum := 1, stage := [] })).1

theorem decodeFrame_gameMemory
    : decodeFrame gameMemory
      = some (.game { is2d := false, scenarioNum := 1, stage := [] }) := by
  decide +kernel

/-- Where scenarios are merged and everybody has one, Luigi gets Mario's game packet once. -/
theorem merged_game_relayed_once
    : ∃ before after,
        AnyRun (ServerState.step .pooled) (.initial { scenario := { mergeEnabled := true } } [])
          (duet ++ [.receive 1 gameMemory]) before
        ∧ before.dispatch .pooled 1 0 = some after
        ∧ RelaysOnce before after 1 gameMemory := by
  obtain ⟨after, executed⟩
      : ∃ after,
          execute (ServerState.step .pooled) (.initial { scenario := { mergeEnabled := true } } [])
            (duet ++ [.receive 1 gameMemory] ++ [.dispatch 1 0])
          = some after :=
    Option.isSome_iff_exists.mp (by decide +kernel)
  obtain ⟨before, reached, last⟩ :=
    Option.bind_eq_some_iff.mp ((execute_append _ _ _).symm.trans executed)
  obtain ⟨dispatched, taken, done⟩ := execute_cons_eq_some last
  obtain rfl := Option.some.inj done
  have entry := execute_holds (fun state => 1 ∈ state.clients) reached (by decide +kernel)
  have dispatching :=
    execute_holds (fun state => (state.session 1).phase = .dispatching gameMemory) reached
      (by decide +kernel)
  refine ⟨before, dispatched, execute_run reached, taken, ?_⟩
  refine (relaysOnce_iff (execute_run reached) entry dispatching taken).mpr ?_
  rw [decodeFrame_gameMemory]
  intro _ _
  exact .inl (execute_holds (fun state => ∀ receiver ∈ state.recipients 1,
    (state.metadata receiver).scenario.isSome = true) reached (by decide +kernel))

/-- The server merges scenarios and bans one Id. -/
def mergingAndBanning (id : Guid) : Settings where
  scenario := { mergeEnabled := true }
  banList := { enabled := true, players := [id] }

/-- A player whom a ban let in without a scenario stops the copies of Mario's game packet at
him; Luigi, who had his, gets the packet a second time.
-/
theorem merged_game_relayed_twice
    : ∃ before after,
        AnyRun (ServerState.step .pooled) (.initial (mergingAndBanning ⟨9⟩) [])
          (duet
            ++ (arrival .pooled 3 ⟨9⟩ .firstConnection "Bowser".toList []).take 4
            ++ [.epilogue 3, .task 0]
            ++ arrival .pooled 4 ⟨9⟩ .reconnecting "Bowser".toList [1, 2]
            ++ [.receive 1 gameMemory])
          before
        ∧ before.dispatch .pooled 1 0 = some after
        ∧ copies before after 1 2 = 2
        ∧ ¬RelaysOnce before after 1 gameMemory := by
  obtain ⟨after, executed⟩
      : ∃ after,
          execute (ServerState.step .pooled) (.initial (mergingAndBanning ⟨9⟩) [])
            (duet
              ++ (arrival .pooled 3 ⟨9⟩ .firstConnection "Bowser".toList []).take 4
              ++ [.epilogue 3, .task 0]
              ++ arrival .pooled 4 ⟨9⟩ .reconnecting "Bowser".toList [1, 2]
              ++ [.receive 1 gameMemory] ++ [.dispatch 1 0])
          = some after :=
    Option.isSome_iff_exists.mp (by decide +kernel)
  obtain ⟨before, reached, last⟩ :=
    Option.bind_eq_some_iff.mp ((execute_append _ _ _).symm.trans executed)
  obtain ⟨dispatched, taken, done⟩ := execute_cons_eq_some last
  obtain rfl := Option.some.inj done
  have length := execute_holds (fun state => state.sent.length = 12) reached (by decide +kernel)
  have twice :=
    execute_holds (fun state => (state.sent.drop 12).countP (Sent.onBehalf 1 2) = 2) executed
      (by decide +kernel)
  have luigi :=
    execute_holds (fun state => 2 ∈ state.clients ∧ (state.session 2).connected = true
      ∧ (state.session 2).socketConnected = true) reached (by decide +kernel)
  have copied : copies before dispatched 1 2 = 2 := by rw [copies, length, twice]
  refine ⟨before, dispatched, execute_run reached, taken, copied, fun once => ?_⟩
  have due := once 2 luigi.1 luigi.2.1 luigi.2.2
  rw [copied, decodeFrame_gameMemory] at due
  cases due

end SmoOnline
