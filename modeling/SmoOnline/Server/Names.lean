import SmoOnline.Server.Entries

/-! The names of players. They stand in profiles, which only a join writes a name to, so an entry
of the client table keeps its name for as long as it is one.
-/

namespace SmoOnline

open Span Utf8 Runs

namespace ServerState

/-- The names in all profiles. -/
def names (state : ServerState) : SocketId → Text := fun profile => (state.profile profile).name

variable {state next : ServerState} {runtime : Runtime}

theorem name_eq (state : ServerState) (socket : SocketId)
    : state.name socket = state.names (state.session socket).profile := rfl

@[simp] theorem names_setMetadata (state : ServerState) (socket : SocketId) (metadata : Metadata)
    : (state.setMetadata socket metadata).names = state.names := by
  funext profile
  simp only [names, setMetadata, setProfile, Function.update_apply]
  split_ifs with same
  · rw [same]
  · rfl

@[simp] theorem names_persistShines (state : ServerState)
    : state.persistShines.names = state.names := by
  unfold persistShines
  split_ifs <;> rfl

theorem enterStage_names (socket : SocketId) (packet : GamePacket)
    : (state.enterStage socket packet).1.names = state.names := by
  have known := names_setMetadata state socket
  unfold enterStage
  dsimp only
  split_ifs
  · cases (state.metadata socket).shineSync with
    | none => exact known _
    | some _ => exact (names_setMetadata _ _ _).trans (known _)
  · cases (state.metadata socket).speedrun with
    | none => rfl
    | some wasSpeedrun => cases wasSpeedrun <;> exact known _
  · rfl

theorem handleGame_names (socket : SocketId) (packet : GamePacket)
    : (state.handleGame runtime socket packet).1.names = state.names := by
  unfold handleGame
  dsimp only
  generalize placed
    : ({ state.setMetadata socket _ with players := _ } : ServerState) = known
  have first : known.names = state.names := placed ▸ names_setMetadata state socket _
  have second := @enterStage_names known socket packet
  generalize known.enterStage socket packet = stage at second ⊢
  obtain ⟨entered, returned⟩ := stage
  refine Eq.trans ?_ (second.trans first)
  cases returned with
  | false => rfl
  | true =>
      dsimp only
      split_ifs
      · rcases entered.broadcastReplace runtime socket (.handler socket)
          (entered.mergeScenario packet) with ⟨writes, completed⟩
        cases completed <;> rfl
      · rfl

theorem handleShine_names (socket : SocketId) (packet : ShinePacket)
    : (state.handleShine socket packet).1.names = state.names := by
  have added : (state.addShine packet.shineId).names = state.names := by
    unfold addShine
    split_ifs <;> rfl
  unfold handleShine
  split_ifs
  · rfl
  · cases (state.metadata socket).loadedSave with
    | none => rfl
    | some loaded =>
        cases loaded with
        | false => rfl
        | true =>
            cases (state.metadata socket).shineSync with
            | none => rfl
            | some playerBag =>
                dsimp only
                split_ifs
                · exact added
                · refine Eq.trans ?_ added
                  exact (names_persistShines _).trans (names_setMetadata _ _ _)

theorem handlePlayer_names (socket : SocketId) (packet : PlayerPacket)
    : (state.handlePlayer runtime socket packet).1.names = state.names := by
  unfold handlePlayer
  dsimp only
  split_ifs
  · cases (state.metadata socket).is2d <;> rfl
  · rcases state.broadcastReplace runtime socket (.handler socket)
      (state.flipFor runtime socket packet) with ⟨writes, completed⟩
    cases completed <;> rfl
  · rfl

/-- No packet names a player, by the kinds of packets. -/
theorem packetHandler_names (now : Nat) (socket : SocketId) (packet : Packet)
    : (state.packetHandler runtime now socket packet).1.names = state.names := by
  cases packet with
  | game packet => exact handleGame_names socket packet
  | tag packet => exact names_setMetadata state socket _
  | costume packet => exact names_setMetadata _ socket _
  | shine packet => exact handleShine_names socket packet
  | player packet => exact handlePlayer_names socket packet
  | _ => rfl

theorem dispatchFrame_names (now : Nat) (socket : SocketId) (memory : Bytes)
    : (state.dispatchFrame runtime now socket memory).names = state.names := by
  have handled : (state.handleFrame runtime now socket memory).1.names = state.names := by
    unfold handleFrame
    cases decodeFrame memory with
    | none => rfl
    | some packet => exact packetHandler_names now socket packet
  unfold dispatchFrame
  generalize state.handleFrame runtime now socket memory = handling at handled ⊢
  obtain ⟨after, outcome⟩ := handling
  cases outcome <;> exact handled

theorem runTask_names (task : PendingTask)
    : (state.runTask runtime task).names = state.names := by
  cases task with
  | farewell socket => rfl
  | syncShineBag => rfl
  | clientSyncShineBag socket =>
      simp only [runTask]
      cases state.missingShines socket <;> rfl
  | sendShines socket shines =>
      cases shines with
      | nil => rfl
      | cons shine rest =>
          simp only [runTask, sendShine]
          split_ifs <;> rfl
  | recordShine socket shine rest => exact names_setMetadata state socket _

theorem shineClear_names (state : ServerState) : state.shineClear.names = state.names := by
  have cleared (clients : List SocketId) (start : ServerState)
      : (clients.foldl
          (fun state client =>
            state.setMetadata client { state.metadata client with shineSync := some [] })
          start).names
        = start.names := by
    induction clients generalizing start with
    | nil => rfl
    | cons client rest ih => exact (ih _).trans (names_setMetadata _ _ _)
  exact (names_persistShines _).trans (cleared _ _)

/-- A handler has entered the table under a name, which went into the profile that its session
then has; other sessions keep their profiles.
-/
structure Names (state : ServerState) (socket : SocketId) (next : ServerState) : Prop where
  entry : socket ∈ next.clients
  others : ∀ other ≠ socket, (next.session other).profile = (state.session other).profile
  written
    : ∃ name, next.names = Function.update state.names (next.session socket).profile name

theorem names_setName (state : ServerState) (socket : SocketId) (name : Text)
    : (state.setName socket name).names
      = Function.update state.names (state.session socket).profile name := by
  funext profile
  simp only [names, setName, setProfile, Function.update_apply]
  split_ifs <;> rfl

theorem join_names {socket : SocketId} (taken : state.join socket = some next)
    : next.names = state.names ∧ (∀ other,
          (next.session other).profile = (state.session other).profile)
      ∨ Names state socket next := by
  obtain ⟨memory, connect, header, _, _, _, refused | refused | taken | entered⟩ :=
    join_cases taken
  · obtain ⟨_, rfl⟩ := refused
    exact .inl ⟨rfl, fun _ => profile_setPhase _ _ _ _⟩
  · obtain ⟨_, _, _, rfl⟩ := refused
    exact .inl ⟨rfl, fun _ => profile_setPhase _ _ _ _⟩
  · obtain ⟨_, _, oldClient, _, rfl⟩ := taken
    refine .inr ⟨?_, fun other apart => ?_, connect.clientName, ?_⟩
    · unfold takeOver
      dsimp only [setName, setProfile]
      split_ifs <;> exact List.mem_append_right _ (List.mem_singleton_self _)
    · rw [state.session_takeOver_other memory connect oldClient apart]
    · unfold takeOver
      dsimp only
      rw [names_setName]
      split_ifs <;> rfl
  · obtain ⟨_, _, missing, rfl⟩ := entered
    refine .inr ⟨?_, fun other apart => ?_, connect.clientName, ?_⟩
    · rw [register_eq memory connect missing]
      exact List.mem_append_right _ (List.mem_singleton_self _)
    · rw [session_register state socket memory connect missing, if_neg apart]
    · rw [register_eq memory connect missing, names_setName]
      rfl

/-- Only a join writes a name. -/
theorem step_names {event : Event} (taken : state.step runtime event = some next)
    : next.names = state.names ∨ ∃ socket, event = .join socket := by
  cases event with
  | join socket => exact .inr ⟨socket, rfl⟩
  | clientJoined socket =>
      obtain ⟨_, _, ⟨_, rfl⟩ | ⟨_, metadata, writes, rfl, _⟩⟩ := clientJoined_cases taken
      · exact .inl rfl
      · exact .inl (names_setMetadata _ socket metadata)
  | dispatch socket now =>
      obtain ⟨memory, _, rfl⟩ := dispatch_cases taken
      exact .inl (dispatchFrame_names now socket memory)
  | epilogue socket =>
      obtain ⟨_, rfl⟩ := epilogue_cases taken
      dsimp only
      split_ifs <;> exact .inl rfl
  | task index =>
      obtain ⟨pending, _, rfl⟩ := task_cases taken
      exact .inl (runTask_names pending)
  | timer =>
      obtain rfl := Option.some.inj taken
      exact .inl (names_persistShines state)
  | configure settings =>
      obtain rfl := Option.some.inj taken
      exact .inl rfl
  | maxPlayers count =>
      obtain rfl := Option.some.inj taken
      have profile := (foldl_disconnect state.clients
        { state with settings := { state.settings with server := { maxPlayers := count } } }
        0).2.2.2.2.1
      exact .inl (funext fun key => congrArg Profile.name (congrFun profile key))
  | ban socket =>
      obtain ⟨_, _, _, _, rfl⟩ := ban_cases taken
      exact .inl rfl
  | shineClear =>
      obtain rfl := Option.some.inj taken
      exact .inl (shineClear_names state)
  | startGameMode =>
      obtain rfl := Option.some.inj taken
      exact .inl rfl
  | _ =>
      obtain ⟨_, _, rfl⟩ := bare_cases rfl taken
      exact .inl rfl

/-- An entry that stays keeps its name. -/
theorem name_kept {event : Event} (tidy : Tidy state)
    (taken : state.step runtime event = some next) {client : SocketId}
    (entry : client ∈ state.clients) (stays : client ∈ next.clients)
    : next.name client = state.name client := by
  have same (names : next.names = state.names)
      (profile : (next.session client).profile = (state.session client).profile)
      : next.name client = state.name client := by
    rw [name_eq, name_eq, names, profile]
  rcases step_kept tidy taken with kept | ⟨socket, rfl⟩
  · rcases step_names taken with names | ⟨socket, rfl⟩
    · exact same names (kept.profile client)
    · rcases join_names taken with ⟨names, _⟩ | joins
      · exact same names (kept.profile client)
      · have outside := (tidy.fresh socket (joiner_fresh taken)).1
        exact absurd (kept.clients ▸ joins.entry) outside
  · rcases join_names taken with ⟨names, profiles⟩ | joins
    · exact same names (profiles client)
    · have outside := (tidy.fresh socket (joiner_fresh taken)).1
      have apart : client ≠ socket := ne_of_mem_of_not_mem entry outside
      obtain ⟨name, written⟩ := joins.written
      have unshared : (next.session client).profile ≠ (next.session socket).profile := by
        intro shared
        have after := tidy.step taken
        rcases after.shared client socket shared with itself | ⟨ids, _⟩
        · exact apart itself
        · exact apart (after.distinct client stays socket joins.entry ids)
      rw [name_eq, name_eq, written, Function.update_of_ne unshared, joins.others client apart]

end ServerState

end SmoOnline
