import Mathlib.Data.List.Nodup
import SmoOnline.Server.Entries

/-! The client table as a dictionary: in every reachable state each Id has at most one entry,
and a join that is not refused leaves its own client as the one entry of its Id. The lock that
a first connection holds during `ClientJoined` keeps the table as the join has left it.
-/

namespace SmoOnline

open Span Utf8 Runs

/-- A client whose `ClientJoined` is still to be raised holds the lock and has an entry. -/
def Locked (state : ServerState) : Prop :=
  ∀ socket memory,
    (state.session socket).phase = .calling memory
    → state.lockHolder = some socket ∧ socket ∈ state.clients

namespace ServerState

variable {runtime : Runtime} {state next : ServerState} {event : Event}

/-- The lock is taken by a join that finds it free and let go behind `ClientJoined`. -/
theorem step_lock (taken : state.step runtime event = some next)
    : next.lockHolder = state.lockHolder
      ∨ (∃ socket, event = .join socket ∧ state.lockHolder = none)
      ∨ ∃ socket memory,
          event = .clientJoined socket ∧ (state.session socket).phase = .calling memory := by
  cases event with
  | join socket =>
      obtain ⟨_, _, _, _, free, _⟩ := join_cases taken
      exact .inr (.inl ⟨socket, rfl, free⟩)
  | clientJoined socket =>
      obtain ⟨memory, calling, _⟩ := clientJoined_cases taken
      exact .inr (.inr ⟨socket, memory, rfl, calling⟩)
  | dispatch socket now =>
      obtain ⟨memory, _, rfl⟩ := dispatch_cases taken
      exact .inl (state.dispatchFrame_quiet runtime now socket memory).lockHolder
  | epilogue socket =>
      obtain ⟨_, rfl⟩ := epilogue_cases taken
      dsimp only
      split_ifs <;> exact .inl rfl
  | task index =>
      obtain ⟨pending, _, rfl⟩ := task_cases taken
      exact .inl (runTask_quiet _ runtime pending).lockHolder
  | timer =>
      obtain rfl := Option.some.inj taken
      exact .inl state.syncShineBag_quiet.lockHolder
  | configure settings =>
      obtain rfl := Option.some.inj taken
      exact .inl rfl
  | maxPlayers count =>
      obtain rfl := Option.some.inj taken
      exact .inl (state.setMaxPlayers_rest count).2.1
  | ban socket =>
      obtain ⟨_, _, _, _, rfl⟩ := ban_cases taken
      exact .inl rfl
  | shineClear =>
      obtain rfl := Option.some.inj taken
      exact .inl state.shineClear_quiet.lockHolder
  | startGameMode =>
      obtain rfl := Option.some.inj taken
      exact .inl rfl
  | _ =>
      obtain ⟨_, _, rfl⟩ := bare_cases rfl taken
      exact .inl rfl

end ServerState

/-- Who is about to be welcomed was so before a step, or has just joined. -/
theorem ServerState.calling_before {runtime : Runtime} {state next : ServerState}
    {event : Event} (tidy : Tidy state) (taken : state.step runtime event = some next)
    {socket : SocketId} {memory : Bytes} (calling : (next.session socket).phase = .calling memory)
    : event.handler ≠ some socket ∧ (state.session socket).phase = .calling memory
      ∨ event = .join socket ∧ (state.session socket).phase.fresh = true := by
  rcases step_change tidy taken socket with ⟨other, same⟩ | change
  · exact .inl ⟨other, same.phase.symm.trans calling⟩
  · cases change with
    | enter memory connect header was =>
        refine .inr ⟨rfl, ?_⟩
        rw [was]
        rfl
    | receive _ _ phase => rw [phase] at calling; split at calling <;> cases calling
    | clientJoined _ _ phase => rw [phase] at calling; split_ifs at calling
    | replayDone _ _ _ _ phase => rcases phase with phase | phase <;> simp [phase] at calling
    | accept _ phase => simp [phase] at calling
    | endRead _ _ phase => simp [phase] at calling
    | refuse _ _ _ phase => simp [phase] at calling
    | snapshot _ _ _ phase => simp [phase] at calling
    | replay _ _ _ _ _ _ phase => simp [phase] at calling
    | dispatch _ _ phase => simp [phase] at calling
    | epilogue _ phase => simp [phase] at calling

/-- Every step keeps the lock with the client that holds it. Witness: another join waits for
the lock, and another `ClientJoined` would be raised by another holder.
-/
theorem Locked.step {runtime : Runtime} {state next : ServerState} {event : Event}
    (tidy : Tidy state) (locked : Locked state)
    (taken : state.step runtime event = some next)
    : Locked next := by
  intro socket memory calling
  rcases ServerState.calling_before tidy taken calling with ⟨other, was⟩ | ⟨rfl, _⟩
  · obtain ⟨held, entry⟩ := locked socket memory was
    have waits : ∀ joiner, event ≠ .join joiner := by
      rintro joiner rfl
      obtain ⟨_, _, _, _, free, _⟩ := ServerState.join_cases taken
      rw [free] at held
      cases held
    have kept : next.lockHolder = state.lockHolder := by
      rcases ServerState.step_lock taken with kept | ⟨joiner, joins, _⟩ | ⟨caller, _, rfl, calls⟩
      · exact kept
      · exact absurd joins (waits joiner)
      · obtain rfl := Option.some.inj (held.symm.trans (locked caller _ calls).1)
        exact absurd rfl other
    rcases (ServerState.step_effect tidy taken).clients with clients | ⟨joiner, joins, _⟩
    · exact ⟨kept.trans held, clients ▸ entry⟩
    · exact absurd joins (waits joiner)
  · have fresh := ServerState.joiner_fresh taken
    obtain ⟨_, _, _, _, _, _, ⟨_, rfl⟩ | ⟨_, _, _, rfl⟩ | ⟨_, _, oldClient, found, rfl⟩
      | ⟨_, _, missing, rfl⟩⟩ := ServerState.join_cases taken
    · simp at calling
    · simp at calling
    · have outside := (tidy.fresh socket fresh).1
      have differs := ne_of_mem_of_not_mem (ServerState.findExistingClient_some found).1 outside
      rw [state.session_takeOver_self _ _ differs] at calling
      cases calling
    · rw [ServerState.register_eq _ _ missing]
      exact ⟨rfl, List.mem_append_right _ (List.mem_singleton_self _)⟩

theorem Locked.of_run {runtime : Runtime} {settings : Settings} {shines : List Int32}
    {Allowed : ServerState → Event → Prop} {events : List Event} {state : ServerState}
    (run : Run (ServerState.step runtime) Allowed (.initial settings shines) events state)
    : Locked state :=
  run.invariant_using Tidy.of_run (fun _ _ calling => by cases calling)
    fun tidy locked _ taken => locked.step tidy taken

-----------------------------------------------------------------------------------------
-- One entry for each Id
-----------------------------------------------------------------------------------------

/-- The client of the socket is connected and the one entry of an Id. -/
structure HoldsKey (state : ServerState) (id : Guid) (socket : SocketId) : Prop where
  only : state.clients.filter (fun client => (state.session client).id == id) = [socket]
  connected : (state.session socket).connected = true

/-- Of entries without repetition, those with a property that one of them alone has. -/
theorem filter_eq_singleton {entries : List SocketId} {has : SocketId → Bool}
    {socket : SocketId} (nodup : entries.Nodup) (entry : socket ∈ entries)
    (own : has socket = true) (only : ∀ other ∈ entries, has other = true → other = socket)
    : entries.filter has = [socket] := by
  induction entries with
  | nil => exact absurd entry List.not_mem_nil
  | cons head rest ih =>
      obtain ⟨absent, restNodup⟩ := List.nodup_cons.mp nodup
      have restOnly := fun other later => only other (List.mem_cons_of_mem head later)
      rcases List.mem_cons.mp entry with rfl | later
      · have none : rest.filter has = [] := by
          apply List.filter_eq_nil_iff.mpr
          intro other inRest holds
          obtain rfl := restOnly other inRest holds
          exact absent inRest
        rw [List.filter_cons_of_pos own, none]
      · have others : has head ≠ true := by
          intro holds
          obtain rfl := only head List.mem_cons_self holds
          exact absent later
        rw [List.filter_cons_of_neg others]
        exact ih restNodup later restOnly

theorem HoldsKey.of_entry {state : ServerState} (tidy : Tidy state) {socket : SocketId}
    (entry : socket ∈ state.clients) (connected : (state.session socket).connected = true)
    : HoldsKey state (state.session socket).id socket where
  only := by
    refine filter_eq_singleton tidy.nodup entry (beq_self_eq_true _) ?_
    intro other member same
    exact tidy.distinct other member socket entry (beq_iff_eq.mp same)
  connected := connected

/-- No two entries have one Id, and every step in which a join is not refused, inside the lock
or behind `ClientJoined`, leaves the joiner as the one entry of the Id in its header.
-/
structure UniqueKeys (runtime : Runtime) (state : ServerState) : Prop where
  distinct : (state.clients.map fun client => (state.session client).id).Nodup
  join
    : ∀ socket memory connect header next,
        (state.session socket).phase = .connecting memory connect
        → PacketHeader.deserialize memory = some header
        → state.step runtime (.join socket) = some next
        → (next.session socket).phase ≠ .failing
        → HoldsKey next header.id socket
  clientJoined
    : ∀ socket memory header next,
        (state.session socket).phase = .calling memory
        → PacketHeader.deserialize memory = some header
        → state.step runtime (.clientJoined socket) = some next
        → (next.session socket).phase ≠ .failing
        → HoldsKey next header.id socket

/-- The keys are unique in every reachable state. Witness: the table is tidy there, and a
client inside of its join has an entry.
-/
theorem uniqueKeys_of_run {runtime : Runtime} {settings : Settings} {shines : List Int32}
    {events : List Event} {state : ServerState}
    (run : AnyRun (ServerState.step runtime) (.initial settings shines) events state)
    : UniqueKeys runtime state := by
  have tidy := Tidy.of_run run
  refine { distinct := ?_, join := ?_, clientJoined := ?_ }
  · apply (List.nodup_map_iff_inj_on tidy.nodup).mpr
    intro left leftMember right rightMember same
    exact tidy.distinct left leftMember right rightMember same
  · intro socket memory connect header next connecting read taken admitted
    have tidyNext := tidy.step taken
    obtain ⟨_, _, _, again, _, readAgain, ⟨_, rfl⟩ | ⟨_, _, _, rfl⟩ | ⟨_, _, oldClient, found, rfl⟩
      | ⟨_, _, missing, rfl⟩⟩ := ServerState.join_cases taken
    · simp at admitted
    · simp at admitted
    · obtain ⟨rfl, rfl⟩ := Phase.connecting.inj (connecting.symm.trans again)
      obtain rfl := Option.some.inj (read.symm.trans readAgain)
      obtain ⟨entry, oldId⟩ := ServerState.findExistingClient_some found
      have outside := (tidy.fresh socket (by rw [connecting]; rfl)).1
      have self := state.session_takeOver_self memory connect (ne_of_mem_of_not_mem entry outside)
      have joined : socket ∈ (state.takeOver socket memory connect oldClient).clients :=
        (ServerState.mem_takeOver tidy memory connect entry).mpr (.inl rfl)
      have holds := HoldsKey.of_entry tidyNext joined (by rw [self])
      rw [self] at holds
      exact oldId ▸ holds
    · obtain ⟨rfl, rfl⟩ := Phase.connecting.inj (connecting.symm.trans again)
      obtain rfl := Option.some.inj (read.symm.trans readAgain)
      have self := state.session_register socket memory connect missing socket
      rw [if_pos rfl] at self
      have joined : socket ∈ (state.register socket memory connect header.id).clients := by
        rw [ServerState.register_eq memory connect missing]
        exact List.mem_append_right _ (List.mem_singleton_self _)
      have holds := HoldsKey.of_entry tidyNext joined (by rw [self])
      rw [self] at holds
      exact holds
  · intro socket memory header next calling read taken admitted
    have tidyNext := tidy.step taken
    obtain ⟨greeted, greets, own⟩ :=
      ((Seated.of_run run).sound socket).entering memory (by rw [calling]; rfl)
    obtain rfl := Option.some.inj (read.symm.trans greets.framed.read)
    have seated := ((Seated.of_run run).sound socket).connected (by rw [calling]; rfl)
    have entry := (Locked.of_run run socket memory calling).2
    obtain ⟨_, _, ⟨_, rfl⟩ | ⟨_, metadata, writes, rfl, _⟩⟩ :=
      ServerState.clientJoined_cases taken
    · simp at admitted
    · have holds := HoldsKey.of_entry tidyNext entry
        ((ServerState.connected_setPhase _ _ _ _).trans seated)
      rw [ServerState.id_setPhase] at holds
      rw [own]
      exact holds

/-- Luigi comes in for a second time, and the new socket holds his key. -/
theorem returned_luigi_holds_his_key
    : ∃ state next,
        AnyRun (ServerState.step .pooled) (.initial {} [])
          (duet ++ (arrival .pooled 3 ⟨8⟩ .reconnecting "Luigi".toList []).take 2) state
        ∧ state.step .pooled (.join 3) = some next
        ∧ state.clients = [1, 2]
        ∧ next.clients = [1, 3]
        ∧ HoldsKey next ⟨8⟩ 3 := by
  obtain ⟨state, next, run, taken, ⟨connecting, read⟩, admitted, before, after⟩ :=
    @exists_run_step _ _ (ServerState.step .pooled) (.initial {} [])
      (duet ++ (arrival .pooled 3 ⟨8⟩ .reconnecting "Luigi".toList []).take 2) (.join 3)
      (fun state next =>
        ((state.session 3).phase
            = .connecting (connectMemory .pooled ⟨8⟩ .reconnecting "Luigi".toList)
                { connectionType := .reconnecting, maxPlayers := 8, clientName := "Luigi".toList }
          ∧ PacketHeader.deserialize (connectMemory .pooled ⟨8⟩ .reconnecting "Luigi".toList)
            = some { id := ⟨8⟩, type := .connect, packetSize := 38 })
        ∧ (next.session 3).phase ≠ .failing
        ∧ state.clients = [1, 2]
        ∧ next.clients = [1, 3])
      _ (by decide)
  have holds := (uniqueKeys_of_run run).join 3 _ _ _ next connecting read taken admitted
  exact ⟨state, next, run, taken, before, after, holds⟩

end SmoOnline
