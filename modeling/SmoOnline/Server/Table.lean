import SmoOnline.Library.Lists
import SmoOnline.Server.Steps

/-! The client table in every reachable state: no client twice, no Id twice, and no handler in
it before its join.
-/

namespace SmoOnline

open Span Utf8 Runs

/-- The handler has not reached the client table. -/
def Phase.fresh : Phase → Bool
  | .idle | .reading true | .connecting .. => true
  | _ => false

/-- The second state has the table, the Ids and the profiles of the first, and takes no handler
back before its join.
-/
structure Kept (before after : ServerState) : Prop where
  clients : after.clients = before.clients
  id : ∀ socket, (after.session socket).id = (before.session socket).id
  profile : ∀ socket, (after.session socket).profile = (before.session socket).profile
  fresh
    : ∀ socket,
        (after.session socket).phase.fresh = true
        → (before.session socket).phase.fresh = true
          ∧ (after.session socket).connected = (before.session socket).connected

namespace Kept

theorem trans {first second third : ServerState} (left : Kept first second)
    (right : Kept second third)
    : Kept first third where
  clients := right.clients.trans left.clients
  id socket := (right.id socket).trans (left.id socket)
  profile socket := (right.profile socket).trans (left.profile socket)
  fresh socket unjoined := by
    obtain ⟨between, connected⟩ := right.fresh socket unjoined
    obtain ⟨before, same⟩ := left.fresh socket between
    exact ⟨before, connected.trans same⟩

theorem joined {before after : ServerState} (kept : Kept before after) {socket : SocketId}
    (joined : (before.session socket).phase.fresh = false)
    : (after.session socket).phase.fresh = false := by
  by_contra unjoined
  rw [Bool.not_eq_false] at unjoined
  rw [(kept.fresh socket unjoined).1] at joined
  cases joined

/-- States with the same table and sessions. -/
theorem of_session_eq {before after : ServerState} (clients : after.clients = before.clients)
    (session : after.session = before.session)
    : Kept before after where
  clients := clients
  id socket := by rw [session]
  profile socket := by rw [session]
  fresh socket unjoined := by
    rw [session] at unjoined ⊢
    exact ⟨unjoined, rfl⟩

/-- One session has another value, of the same Id and profile. -/
theorem setSession {state : ServerState} {socket : SocketId} {session : Session}
    (id : session.id = (state.session socket).id)
    (profile : session.profile = (state.session socket).profile)
    (fresh
      : session.phase.fresh = true
        → (state.session socket).phase.fresh = true
          ∧ session.connected = (state.session socket).connected)
    : Kept state (state.setSession socket session) where
  clients := rfl
  id other := by
    rw [state.session_setSession]
    split_ifs with same
    · rw [same, id]
    · rfl
  profile other := by
    rw [state.session_setSession]
    split_ifs with same
    · rw [same, profile]
    · rfl
  fresh other unjoined := by
    rw [state.session_setSession] at unjoined ⊢
    split_ifs at unjoined ⊢ with same
    · rw [same]
      exact fresh unjoined
    · exact ⟨unjoined, rfl⟩

/-- A handler may move to any phase after its join, and before its join to another one
before it.
-/
theorem setPhase {state : ServerState} {socket : SocketId} {phase : Phase}
    (forward : phase.fresh = true → (state.session socket).phase.fresh = true)
    : Kept state (state.setPhase socket phase) :=
  .setSession rfl rfl fun unjoined => ⟨forward unjoined, rfl⟩

theorem disconnect (state : ServerState) (socket : SocketId)
    : Kept state (state.disconnect socket) :=
  .setSession rfl rfl fun unjoined => ⟨unjoined, rfl⟩

end Kept

theorem Quiet.kept {before after : ServerState} (quiet : Quiet before after)
    : Kept before after where
  clients := quiet.clients
  id := quiet.id
  profile := quiet.profile
  fresh socket unjoined := ⟨quiet.phase socket ▸ unjoined, quiet.connected socket⟩

/-- Entries are distinct and have distinct Ids; a handler that has not joined is as it was
made; and profiles are shared under one Id only.
-/
structure Tidy (state : ServerState) : Prop where
  nodup : state.clients.Nodup
  distinct
    : ∀ left ∈ state.clients,
        ∀ right ∈ state.clients,
          (state.session left).id = (state.session right).id → left = right
  fresh
    : ∀ socket,
        (state.session socket).phase.fresh = true
        → socket ∉ state.clients
          ∧ (state.session socket).connected = false
          ∧ (state.session socket).profile = socket
          ∧ (state.session socket).id = .empty
  shared
    : ∀ left right,
        (state.session left).profile = (state.session right).profile
        → left = right
          ∨ (state.session left).id = (state.session right).id
            ∧ (state.session left).phase.fresh = false
            ∧ (state.session right).phase.fresh = false

namespace Tidy

theorem initial (settings : Settings) (shines : List Int32)
    : Tidy (.initial settings shines) where
  nodup := List.nodup_nil
  distinct _ member := absurd member List.not_mem_nil
  fresh _ _ := ⟨List.not_mem_nil, rfl, rfl, rfl⟩
  shared _ _ same := .inl same

/-- What leaves the table, the Ids and the profiles keeps the table tidy. -/
theorem of_kept {state next : ServerState} (tidy : Tidy state) (kept : Kept state next)
    : Tidy next where
  nodup := kept.clients ▸ tidy.nodup
  distinct left leftMember right rightMember same := by
    rw [kept.clients] at leftMember rightMember
    rw [kept.id, kept.id] at same
    exact tidy.distinct left leftMember right rightMember same
  fresh socket unjoined := by
    obtain ⟨before, connected⟩ := kept.fresh socket unjoined
    rw [kept.clients, kept.id, kept.profile, connected]
    exact tidy.fresh socket before
  shared left right same := by
    rw [kept.profile, kept.profile] at same
    rw [kept.id, kept.id]
    refine (tidy.shared left right same).imp_right fun ⟨ids, leftJoined, rightJoined⟩ => ?_
    exact ⟨ids, kept.joined leftJoined, kept.joined rightJoined⟩

theorem of_quiet {state next : ServerState} (tidy : Tidy state) (quiet : Quiet state next)
    : Tidy next :=
  tidy.of_kept quiet.kept

theorem joined_of_mem {state : ServerState} (tidy : Tidy state) {socket : SocketId}
    (entry : socket ∈ state.clients)
    : (state.session socket).phase.fresh = false := by
  by_contra unjoined
  exact (tidy.fresh socket (by simpa using unjoined)).1 entry

theorem joined_of_connected {state : ServerState} (tidy : Tidy state) {socket : SocketId}
    (connected : (state.session socket).connected = true)
    : (state.session socket).phase.fresh = false := by
  by_contra unjoined
  rw [(tidy.fresh socket (by simpa using unjoined)).2.1] at connected
  cases connected

end Tidy

-----------------------------------------------------------------------------------------
-- The two paths of a join
-----------------------------------------------------------------------------------------

namespace ServerState

variable {state : ServerState} {socket : SocketId}

theorem findExistingClient_some {id : Guid} {client : SocketId}
    (found : state.findExistingClient id = some client)
    : client ∈ state.clients ∧ (state.session client).id = id :=
  ⟨List.mem_of_find?_eq_some found, by simpa using List.find?_some found⟩

theorem findExistingClient_none {id : Guid} (missing : state.findExistingClient id = none)
    : ∀ client ∈ state.clients, (state.session client).id ≠ id := by
  intro client member
  simpa using List.find?_eq_none.mp missing client member

/-- The session that takes over an entry. -/
theorem session_takeOver_self (state : ServerState) {socket : SocketId} (memory : Bytes)
    (connect : ConnectPacket) {oldClient : SocketId} (differs : oldClient ≠ socket)
    : (state.takeOver socket memory connect oldClient).session socket
      = { state.session socket with
          phase := .joined memory
          id := (state.session oldClient).id
          connected := true
          currentCostume := (state.session oldClient).currentCostume
          profile := (state.session oldClient).profile } := by
  unfold takeOver
  dsimp only [setName, setProfile]
  split_ifs
  · rw [disconnect, session_setSession, if_neg differs.symm]
    exact (session_setSession _ _ _ _).trans (if_pos rfl)
  · exact (session_setSession _ _ _ _).trans (if_pos rfl)

/-- The other sessions of a take-over: the old client's socket is closed. -/
theorem session_takeOver_other (state : ServerState) {socket : SocketId} (memory : Bytes)
    (connect : ConnectPacket) (oldClient : SocketId) {other : SocketId} (differs : other ≠ socket)
    : (state.takeOver socket memory connect oldClient).session other
      = { state.session other with
          socketConnected :=
            (state.session other).socketConnected
              && !(decide (other = oldClient) && (state.session oldClient).connected) } := by
  unfold takeOver
  dsimp only [setName, setProfile]
  have kept : ∀ session, (state.setSession socket session).session other = state.session other :=
    fun session => (session_setSession _ _ _ _).trans (if_neg differs)
  split_ifs with connected
  · rw [disconnect, session_setSession]
    split_ifs with same
    · subst same
      simp [connected, kept]
    · simp [same, kept]
  · simp [connected, kept]

/-- With distinct Ids only the old client leaves the table. -/
theorem clients_takeOver (tidy : Tidy state) (memory : Bytes) (connect : ConnectPacket)
    {oldClient : SocketId} (entry : oldClient ∈ state.clients)
    : (state.takeOver socket memory connect oldClient).clients
      = state.clients.erase oldClient ++ [socket] := by
  have only
      : state.clients.eraseP (fun client =>
            (state.session client).id == (state.session oldClient).id)
        = state.clients.erase oldClient := by
    rw [List.erase_eq_eraseP']
    refine Lists.eraseP_congr fun client member => Bool.eq_iff_iff.mpr ?_
    simp only [beq_iff_eq]
    exact ⟨tidy.distinct client member oldClient entry, fun same => by rw [same]⟩
  rw [← only]
  unfold takeOver
  dsimp only [setName, setProfile]
  split_ifs <;> rfl

theorem mem_takeOver (tidy : Tidy state) (memory : Bytes) (connect : ConnectPacket)
    {oldClient : SocketId} (entry : oldClient ∈ state.clients) {client : SocketId}
    : client ∈ (state.takeOver socket memory connect oldClient).clients
      ↔ client = socket ∨ client ∈ state.clients ∧ client ≠ oldClient := by
  rw [clients_takeOver tidy memory connect entry, List.mem_append, List.mem_singleton,
    tidy.nodup.mem_erase_iff]
  tauto

/-- What else a take-over leaves as it was. -/
theorem takeOver_rest (state : ServerState) (socket : SocketId) (memory : Bytes)
    (connect : ConnectPacket) (oldClient : SocketId)
    : (state.takeOver socket memory connect oldClient).lockHolder = state.lockHolder
      ∧ (state.takeOver socket memory connect oldClient).settings = state.settings
      ∧ (state.takeOver socket memory connect oldClient).tasks = state.tasks
      ∧ (state.takeOver socket memory connect oldClient).sent = state.sent := by
  unfold takeOver
  dsimp only [setName, setProfile]
  split_ifs <;> exact ⟨rfl, rfl, rfl, rfl⟩

/-- No stale entry is left to disconnect where the Id was not found. -/
theorem register_eq (memory : Bytes) (connect : ConnectPacket) {id : Guid}
    (missing : state.findExistingClient id = none)
    : state.register socket memory connect id
      = ({ state.setSession socket {
              state.session socket with
              phase := .calling memory
              id
              connected := true
            } with
          clients := state.clients ++ [socket]
          lockHolder := some socket }).setName socket connect.clientName := by
  have absent := findExistingClient_none missing
  have noStale
      : (state.clients.filter fun client =>
          (state.session client).id == id && (state.session client).connected) = [] := by
    simp only [List.filter_eq_nil_iff, Bool.and_eq_true, beq_iff_eq, not_and]
    intro client member same
    exact absurd same (absent client member)
  have allKept
      : (state.clients.filter fun client => (state.session client).id != id) = state.clients := by
    simpa [List.filter_eq_self] using absent
  simp only [register, noStale, allKept, List.foldl_nil]

theorem session_register (state : ServerState) (socket : SocketId) (memory : Bytes)
    (connect : ConnectPacket) {id : Guid} (missing : state.findExistingClient id = none)
    (other : SocketId)
    : (state.register socket memory connect id).session other
      = if other = socket then
          { state.session socket with phase := .calling memory, id, connected := true }
        else state.session other := by
  rw [register_eq memory connect missing]
  exact session_setSession _ _ _ _

end ServerState

/-- A handler enters the table behind the clients that stay there, none of which has its Id, with
a profile of its own or of a joined session of the Id; other sessions keep their seats.
-/
structure Enters (state : ServerState) (socket : SocketId) (rest : List SocketId)
    (next : ServerState)
    : Prop where
  unjoined : (state.session socket).phase.fresh = true
  clients : next.clients = rest ++ [socket]
  sublist : rest.Sublist state.clients
  absent : ∀ client ∈ rest, (state.session client).id ≠ (next.session socket).id
  joined : (next.session socket).phase.fresh = false
  profile
    : (next.session socket).profile = socket
      ∨ ∃ other,
          (state.session other).phase.fresh = false
          ∧ (next.session socket).profile = (state.session other).profile
          ∧ (next.session socket).id = (state.session other).id
  others
    : ∀ other ≠ socket,
        (next.session other).id = (state.session other).id
        ∧ (next.session other).profile = (state.session other).profile
        ∧ (next.session other).phase = (state.session other).phase
        ∧ (next.session other).connected = (state.session other).connected

section enters

variable {state next : ServerState} {socket : SocketId} {rest : List SocketId}

theorem Enters.apart (enters : Enters state socket rest next) (tidy : Tidy state)
    {client : SocketId} (member : client ∈ rest)
    : client ≠ socket :=
  ne_of_mem_of_not_mem (enters.sublist.subset member) (tidy.fresh socket enters.unjoined).1

theorem Enters.mem_cases (enters : Enters state socket rest next) {client : SocketId}
    (member : client ∈ next.clients)
    : client ∈ rest ∨ client = socket := by
  simpa [enters.clients] using member

/-- A profile shared with the new session is shared with the session it was taken from. -/
theorem Enters.shared (enters : Enters state socket rest next) (tidy : Tidy state)
    {other : SocketId} (differs : other ≠ socket)
    (same : (next.session socket).profile = (next.session other).profile)
    : (next.session socket).id = (next.session other).id
      ∧ (next.session other).phase.fresh = false := by
  obtain ⟨_, _, ownProfile, _⟩ := tidy.fresh socket enters.unjoined
  obtain ⟨id, otherProfile, phase, _⟩ := enters.others other differs
  rw [otherProfile] at same
  rw [id, phase]
  rcases enters.profile with own | ⟨origin, originJoined, taken, originId⟩
  · rcases tidy.shared socket other (by rw [ownProfile, ← same, own]) with equal | ⟨_, no, _⟩
    · exact absurd equal.symm differs
    · rw [enters.unjoined] at no
      cases no
  · rw [originId]
    rcases tidy.shared origin other (by rw [← taken, same]) with rfl | ⟨ids, _, otherJoined⟩
    · exact ⟨rfl, originJoined⟩
    · exact ⟨ids, otherJoined⟩

theorem Enters.nodup (enters : Enters state socket rest next) (tidy : Tidy state)
    : next.clients.Nodup := by
  rw [enters.clients]
  have before := tidy.nodup.sublist enters.sublist
  refine List.nodup_append.mpr ⟨before, List.pairwise_singleton _ socket, ?_⟩
  intro client member self selfMember
  rw [List.mem_singleton.mp selfMember]
  exact enters.apart tidy member

theorem Enters.distinct (enters : Enters state socket rest next) (tidy : Tidy state)
    {left right : SocketId} (leftMember : left ∈ next.clients)
    (rightMember : right ∈ next.clients)
    (same : (next.session left).id = (next.session right).id)
    : left = right := by
  have idOf {client : SocketId} (member : client ∈ rest)
      : (next.session client).id = (state.session client).id :=
    (enters.others client (enters.apart tidy member)).1
  rcases enters.mem_cases leftMember with leftRest | rfl
  · rcases enters.mem_cases rightMember with rightRest | rfl
    · rw [idOf leftRest, idOf rightRest] at same
      exact tidy.distinct left (enters.sublist.subset leftRest) right
        (enters.sublist.subset rightRest) same
    · rw [idOf leftRest] at same
      exact absurd same (enters.absent left leftRest)
  · rcases enters.mem_cases rightMember with rightRest | rfl
    · rw [idOf rightRest] at same
      exact absurd same.symm (enters.absent right rightRest)
    · rfl

/-- Entering a table without the Id keeps it tidy. -/
theorem Tidy.enter (tidy : Tidy state) (enters : Enters state socket rest next)
    : Tidy next := by
  refine {
    nodup := enters.nodup tidy
    distinct := fun _ leftMember _ rightMember => enters.distinct tidy leftMember rightMember
    fresh := ?_
    shared := ?_
  }
  · intro other still
    have differs : other ≠ socket := by
      rintro rfl
      rw [enters.joined] at still
      cases still
    obtain ⟨id, otherProfile, phase, connected⟩ := enters.others other differs
    rw [phase] at still
    obtain ⟨outside, before⟩ := tidy.fresh other still
    rw [id, otherProfile, connected]
    refine ⟨fun member => ?_, before⟩
    rcases enters.mem_cases member with inRest | same
    · exact outside (enters.sublist.subset inRest)
    · exact differs same
  · intro left right same
    by_cases leftSelf : left = socket
    · by_cases rightSelf : right = socket
      · exact .inl (leftSelf.trans rightSelf.symm)
      · subst leftSelf
        obtain ⟨ids, rightJoined⟩ := enters.shared tidy rightSelf same
        exact .inr ⟨ids, enters.joined, rightJoined⟩
    · by_cases rightSelf : right = socket
      · subst rightSelf
        obtain ⟨ids, leftJoined⟩ := enters.shared tidy leftSelf same.symm
        exact .inr ⟨ids.symm, leftJoined, enters.joined⟩
      · obtain ⟨leftId, leftProfile, leftPhase, _⟩ := enters.others left leftSelf
        obtain ⟨rightId, rightProfile, rightPhase, _⟩ := enters.others right rightSelf
        rw [leftProfile, rightProfile] at same
        rw [leftId, rightId, leftPhase, rightPhase]
        exact tidy.shared left right same

end enters

/-- Taking over an entry keeps the table tidy: one socket of the Id stands for another. -/
theorem Tidy.takeOver {state : ServerState} (tidy : Tidy state) {socket : SocketId}
    (unjoined : (state.session socket).phase.fresh = true) (memory : Bytes)
    (connect : ConnectPacket) {oldClient : SocketId} (entry : oldClient ∈ state.clients)
    : Tidy (state.takeOver socket memory connect oldClient) := by
  have outside := (tidy.fresh socket unjoined).1
  have differs : oldClient ≠ socket := ne_of_mem_of_not_mem entry outside
  have self := state.session_takeOver_self memory connect differs
  have joined := tidy.joined_of_mem entry
  refine tidy.enter {
    unjoined
    clients := ServerState.clients_takeOver tidy memory connect entry
    sublist := List.erase_sublist
    absent := ?_
    joined := by rw [self]; rfl
    profile := .inr ⟨oldClient, joined, by rw [self], by rw [self]⟩
    others := fun other apart => ?_
  }
  · intro client member
    obtain ⟨unlike, inside⟩ := tidy.nodup.mem_erase_iff.mp member
    rw [self]
    exact fun same => unlike (tidy.distinct client inside oldClient entry same)
  · rw [state.session_takeOver_other memory connect oldClient apart]
    exact ⟨rfl, rfl, rfl, rfl⟩

theorem Tidy.register {state : ServerState} (tidy : Tidy state) {socket : SocketId}
    (unjoined : (state.session socket).phase.fresh = true) (memory : Bytes)
    (connect : ConnectPacket) {id : Guid} (missing : state.findExistingClient id = none)
    : Tidy (state.register socket memory connect id) := by
  have self := state.session_register socket memory connect missing socket
  rw [if_pos rfl] at self
  have clients : (state.register socket memory connect id).clients = state.clients ++ [socket] := by
    rw [ServerState.register_eq memory connect missing]
    rfl
  refine tidy.enter {
    unjoined
    clients
    sublist := List.Sublist.refl _
    absent := ?_
    joined := by rw [self]; rfl
    profile := .inl (by rw [self]; exact (tidy.fresh socket unjoined).2.2.1)
    others := fun other apart => ?_
  }
  · rw [self]
    exact ServerState.findExistingClient_none missing
  · rw [state.session_register socket memory connect missing, if_neg apart]
    exact ⟨rfl, rfl, rfl, rfl⟩

-----------------------------------------------------------------------------------------
-- Every reachable state
-----------------------------------------------------------------------------------------

/-- Only a first frame leads to a join. -/
theorem inbound_joining {first : Bool} {id : Guid} {memory : Bytes} {connect : ConnectPacket}
    (joining : inbound first id memory = .joining connect)
    : first = true := by
  unfold inbound at joining
  split at joining
  · cases joining
  · next header read =>
      dsimp only at joining
      split_ifs at joining with short isFirst
      exact isFirst

/-- The server's own sends change nothing but what was sent. -/
theorem ServerState.server_sends_quiet {state next : ServerState} {runtime : Runtime}
    {event : Event} (own : event.isServerSend = true)
    (taken : state.step runtime event = some next)
    : Quiet state next := by
  obtain ⟨writes, rfl⟩ := server_send_cases own taken
  exact .of_session_eq rfl rfl rfl rfl rfl

/-- `maxplayers` closes the sockets of all clients in the table. -/
theorem ServerState.session_setMaxPlayers (state : ServerState) (count : UInt16)
    (other : SocketId)
    : (state.setMaxPlayers count).session other
      = { state.session other with
          socketConnected :=
            (state.session other).socketConnected && decide (other ∉ state.clients) } :=
  (foldl_disconnect state.clients _ other).2.2.2.2.2.2

theorem ServerState.setMaxPlayers_rest (state : ServerState) (count : UInt16)
    : (state.setMaxPlayers count).clients = state.clients
      ∧ (state.setMaxPlayers count).lockHolder = state.lockHolder
      ∧ (state.setMaxPlayers count).tasks = state.tasks
      ∧ (state.setMaxPlayers count).sent = state.sent := by
  obtain ⟨clients, lockHolder, tasks, sent, _⟩ :=
    foldl_disconnect state.clients
      { state with settings := { state.settings with server := { maxPlayers := count } } } 0
  exact ⟨clients, lockHolder, tasks, sent⟩

/-- Only a join changes the table, an Id or a profile, or brings a handler behind its join. -/
theorem step_kept {runtime : Runtime} {state next : ServerState} {event : Event}
    (tidy : Tidy state) (taken : state.step runtime event = some next)
    : Kept state next ∨ ∃ socket, event = .join socket := by
  cases event with
  | accept socket remote =>
      obtain ⟨idle, writes, rfl, -⟩ := ServerState.accept_cases taken
      obtain ⟨-, connected, profile, id⟩ := tidy.fresh socket (by rw [idle]; rfl)
      refine .inl (.trans (.setSession id.symm profile.symm fun _ => ?_) (.of_session_eq rfl rfl))
      rw [idle, connected]
      exact ⟨rfl, rfl⟩
  | receive socket memory =>
      obtain ⟨first, header, reading, -, -, rfl⟩ := ServerState.receive_cases taken
      refine .inl (.setPhase fun unjoined => ?_)
      cases checked : inbound first (state.session socket).id memory with
      | refused => rw [checked] at unjoined; cases unjoined
      | joining connect => rw [reading, inbound_joining checked]; rfl
      | packet => rw [checked] at unjoined; cases unjoined
  | endRead socket =>
      obtain ⟨-, rfl⟩ := ServerState.endRead_cases taken
      exact .inl (.trans (.disconnect state socket) (.setPhase fun unjoined => by cases unjoined))
  | join socket => exact .inr ⟨socket, rfl⟩
  | clientJoined socket =>
      obtain ⟨memory, -, ⟨-, rfl⟩ | ⟨-, metadata, writes, rfl, -⟩⟩ :=
        ServerState.clientJoined_cases taken
      · refine .inl (.trans ?_ (.setPhase fun unjoined => by cases unjoined))
        exact .of_session_eq rfl rfl
      · refine .inl (.trans ?_ (.setPhase fun unjoined => by cases unjoined))
        exact .of_session_eq rfl rfl
  | snapshot socket =>
      obtain ⟨memory, header, -, -, rfl⟩ := ServerState.snapshot_cases taken
      exact .inl (.setPhase fun unjoined => by cases unjoined)
  | replay socket other =>
      obtain ⟨memory, others, faulted, threw, -, -, -, rfl⟩ := ServerState.replay_cases taken
      refine .inl (.trans ?_ (.setPhase fun unjoined => by cases unjoined))
      exact .of_session_eq rfl rfl
  | replayDone socket =>
      obtain ⟨memory, others, faulted, -, ⟨-, rfl⟩ | ⟨-, -, rfl⟩⟩ :=
        ServerState.replayDone_cases taken
      · exact .inl (.setPhase fun unjoined => by cases unjoined)
      · exact .inl (.setPhase fun unjoined => by cases unjoined)
  | dispatch socket now =>
      obtain ⟨memory, -, rfl⟩ := ServerState.dispatch_cases taken
      have handled := (state.dispatchFrame_quiet runtime now socket memory).kept
      exact .inl (handled.trans (.setPhase fun unjoined => by cases unjoined))
  | epilogue socket =>
      obtain ⟨-, rfl⟩ := ServerState.epilogue_cases taken
      have ended
          : Kept state (state.setSession socket {
              state.session socket with
              phase := .ended
              connected := false
              socketConnected := false
            }) :=
        .setSession rfl rfl fun unjoined => by cases unjoined
      dsimp only
      split_ifs
      · exact .inl (ended.trans (.of_session_eq rfl rfl))
      · exact .inl ended
  | close socket =>
      obtain ⟨-, rfl⟩ := ServerState.close_cases taken
      exact .inl (.disconnect state socket)
  | task index =>
      obtain ⟨pending, -, rfl⟩ := ServerState.task_cases taken
      refine .inl (.trans ?_ (ServerState.runTask_quiet _ runtime pending).kept)
      exact .of_session_eq rfl rfl
  | timer =>
      obtain rfl := Option.some.inj taken
      exact .inl state.syncShineBag_quiet.kept
  | maxPlayers count =>
      obtain rfl := Option.some.inj taken
      refine .inl ⟨(state.setMaxPlayers_rest count).1, fun other => ?_, fun other => ?_,
        fun other unjoined => ?_⟩
      · rw [ServerState.session_setMaxPlayers]
      · rw [ServerState.session_setMaxPlayers]
      · rw [ServerState.session_setMaxPlayers] at unjoined ⊢
        exact ⟨unjoined, rfl⟩
  | ban socket =>
      obtain ⟨-, settings, packet, -, rfl⟩ := ServerState.ban_cases taken
      refine .inl (.trans ?_ (.disconnect _ socket))
      exact .of_session_eq rfl rfl
  | shineClear =>
      obtain rfl := Option.some.inj taken
      exact .inl state.shineClear_quiet.kept
  | sendFromServer _ _ | broadcastFromServer _ | broadcastForClient _ _ =>
      exact .inl (ServerState.server_sends_quiet rfl taken).kept
  | _ =>
      obtain rfl := Option.some.inj taken
      exact .inl (.of_session_eq rfl rfl)

/-- A join keeps the table tidy: both of its paths replace or add one entry under an Id that no
other entry has.
-/
theorem Tidy.join {state next : ServerState} (tidy : Tidy state) {socket : SocketId}
    (taken : state.join socket = some next)
    : Tidy next := by
  obtain ⟨memory, connect, header, connecting, -, -, refused | refused | taken | entered⟩ :=
    ServerState.join_cases taken
  · obtain ⟨-, rfl⟩ := refused
    exact tidy.of_kept (.setPhase fun unjoined => by cases unjoined)
  · obtain ⟨-, -, -, rfl⟩ := refused
    exact tidy.of_kept (.setPhase fun unjoined => by cases unjoined)
  · obtain ⟨-, -, oldClient, found, rfl⟩ := taken
    exact tidy.takeOver (by rw [connecting]; rfl) memory connect
      (ServerState.findExistingClient_some found).1
  · obtain ⟨-, -, missing, rfl⟩ := entered
    exact tidy.register (by rw [connecting]; rfl) memory connect missing

/-- Every step keeps the table tidy. -/
theorem Tidy.step {runtime : Runtime} {state next : ServerState} {event : Event}
    (tidy : Tidy state) (taken : state.step runtime event = some next)
    : Tidy next := by
  rcases step_kept tidy taken with kept | ⟨socket, rfl⟩
  · exact tidy.of_kept kept
  · exact tidy.join taken

/-- The table is tidy in every reachable state, by induction on the run. -/
theorem Tidy.of_run {runtime : Runtime} {settings : Settings} {shines : List Int32}
    {Allowed : ServerState → Event → Prop} {events : List Event} {state : ServerState}
    (run : Run (ServerState.step runtime) Allowed (.initial settings shines) events state)
    : Tidy state :=
  run.invariant (Tidy.initial settings shines) fun tidy _ taken => tidy.step taken

end SmoOnline
