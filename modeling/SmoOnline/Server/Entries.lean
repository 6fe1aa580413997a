import SmoOnline.Server.Identity

/-! What becomes of sessions and entries past their join: who leaves, who stays connected, and
in which order entries stand.
-/

namespace SmoOnline

open Span Utf8 Runs

section kept

variable {runtime : Runtime} {state next : ServerState} {event : Event}

/-- The client of a session past its join stays connected or not, up to its epilogue. -/
theorem ServerState.connected_kept (tidy : Tidy state)
    (taken : state.step runtime event = some next) {socket : SocketId}
    (joined : (state.session socket).phase.fresh = false)
    : (next.session socket).connected = (state.session socket).connected
      ∨ event = .epilogue socket ∧ (next.session socket).connected = false := by
  rcases step_change tidy taken socket with ⟨_, same⟩ | change
  · exact .inl same.connected
  · exact (change.past joined).connected

/-- A client that has joined connects no more, and its socket opens no more. -/
theorem ServerState.heard_before (tidy : Tidy state)
    (taken : state.step runtime event = some next) {socket : SocketId}
    (joined : (state.session socket).phase.fresh = false)
    (connected : (next.session socket).connected = true)
    (isOpen : (next.session socket).socketConnected = true)
    : (state.session socket).connected = true
      ∧ (state.session socket).socketConnected = true := by
  constructor
  · rcases connected_kept tidy taken joined with same | ⟨_, left⟩
    · exact same ▸ connected
    · rw [left] at connected
      cases connected
  · rcases (step_effect tidy taken).opens socket isOpen with was | ⟨remote, rfl⟩
    · exact was
    · obtain ⟨idle, _⟩ := accept_cases taken
      rw [idle] at joined
      cases joined

theorem ServerState.joiner_fresh {socket : SocketId} (taken : state.join socket = some next)
    : (state.session socket).phase.fresh = true := by
  obtain ⟨_, _, _, connecting, _⟩ := join_cases taken
  rw [connecting]
  rfl

/-- An entry is made by a join, which its handler then enters the game by. -/
theorem ServerState.entry_before (tidy : Tidy state)
    (taken : state.step runtime event = some next) {socket : SocketId}
    (entry : socket ∈ next.clients)
    : socket ∈ state.clients
      ∨ (state.session socket).phase.fresh = true
        ∧ (next.session socket).phase.entering.isSome = true := by
  rcases (step_effect tidy taken).clients with same | ⟨joiner, rfl, entering, table⟩
  · exact .inl (same ▸ entry)
  · have member : socket ∈ state.clients ∨ socket = joiner := by
      rcases table with table | ⟨oldClient, table⟩
      · simpa [table] using entry
      · rw [table, List.mem_append, List.mem_singleton] at entry
        exact entry.imp_left List.mem_of_mem_erase
    refine member.imp_right ?_
    rintro rfl
    exact ⟨joiner_fresh taken, entering⟩

theorem sublist_of_concat {first second last : SocketId} {clients : List SocketId}
    (before : [first, second].Sublist (clients ++ [last])) (apart : second ≠ last)
    : [first, second].Sublist clients := by
  obtain ⟨front, back, split, inFront, inBack⟩ := List.sublist_append_iff.mp before
  rcases List.sublist_singleton.mp inBack with rfl | rfl
  · rw [List.append_nil] at split
    exact split ▸ inFront
  · have ends := congrArg List.getLast? split
    simp only [List.getLast?_append_cons, List.getLast?_cons_cons, List.getLast?_singleton] at ends
    exact absurd (Option.some.inj ends) apart

/-- Two entries that stay keep their order. -/
theorem ServerState.before_kept (tidy : Tidy state)
    (taken : state.step runtime event = some next) {first second : SocketId}
    (before : [first, second].Sublist state.clients) (firstStays : first ∈ next.clients)
    (secondStays : second ∈ next.clients)
    : [first, second].Sublist next.clients := by
  rcases (step_effect tidy taken).clients with same | ⟨joiner, rfl, entering, table⟩
  · exact same ▸ before
  · rcases table with table | ⟨oldClient, table⟩
    · exact table ▸ before.trans (List.sublist_append_left _ _)
    · have entry {socket : SocketId} (was : socket ∈ state.clients)
          (stays : socket ∈ next.clients)
          : socket ≠ oldClient := by
        rintro rfl
        rw [table, List.mem_append, List.mem_singleton] at stays
        rcases stays with left | rfl
        · exact absurd left (List.Nodup.not_mem_erase tidy.nodup)
        · exact (tidy.fresh socket (joiner_fresh taken)).1 was
      have firstApart := entry (before.subset (by simp)) firstStays
      have secondApart := entry (before.subset (by simp)) secondStays
      have erased := before.erase oldClient
      rw [List.erase_cons_tail (by simpa using firstApart),
        List.erase_cons_tail (by simpa using secondApart), List.erase_nil] at erased
      exact table ▸ erased.trans (List.sublist_append_left _ _)

end kept

/-- Who was there when a client joined, and still is, comes before it in the table. -/
theorem ServerState.before_of_join {runtime : Runtime} {state next : ServerState}
    {other client : SocketId} (tidy : Tidy state)
    (taken : state.step runtime (.join client) = some next) (there : other ∈ state.clients)
    (entered : client ∈ next.clients) (stays : other ∈ next.clients)
    : [other, client].Sublist next.clients := by
  have outside := (tidy.fresh client (joiner_fresh taken)).1
  have apart : other ≠ client := ne_of_mem_of_not_mem there outside
  have behind {clients : List SocketId} (table : next.clients = clients ++ [client])
      : [other, client].Sublist next.clients := by
    rw [table, List.mem_append, List.mem_singleton] at stays
    rw [table]
    exact (List.singleton_sublist.mpr (stays.resolve_right apart)).append (.refl _)
  rcases (step_effect tidy taken).clients with same | ⟨joiner, joins, _, table | ⟨_, table⟩⟩
  · exact absurd (same ▸ entered) outside
  · obtain rfl := Event.join.inj joins
    exact behind table
  · obtain rfl := Event.join.inj joins
    exact behind table

/-- Two sessions past their join of which the first comes before the second in the table, as
long as both are in it.
-/
structure InOrder (first second : SocketId) (state : ServerState) : Prop where
  firstJoined : (state.session first).phase.fresh = false
  secondJoined : (state.session second).phase.fresh = false
  before
    : first ∈ state.clients
      → second ∈ state.clients
      → [first, second].Sublist state.clients

theorem InOrder.step {runtime : Runtime} {state next : ServerState} {event : Event}
    {first second : SocketId} (tidy : Tidy state) (inOrder : InOrder first second state)
    (taken : state.step runtime event = some next)
    : InOrder first second next where
  firstJoined := (ServerState.joined_kept tidy taken inOrder.firstJoined).1
  secondJoined := (ServerState.joined_kept tidy taken inOrder.secondJoined).1
  before firstStays secondStays := by
    have was {socket : SocketId} (joined : (state.session socket).phase.fresh = false)
        (stays : socket ∈ next.clients)
        : socket ∈ state.clients := by
      refine (ServerState.entry_before tidy taken stays).resolve_right fun ⟨unjoined, _⟩ => ?_
      rw [joined] at unjoined
      cases unjoined
    exact ServerState.before_kept tidy taken
      (inOrder.before (was inOrder.firstJoined firstStays) (was inOrder.secondJoined secondStays))
      firstStays secondStays

/-- A socket that was not accepted has no handler. -/
theorem idle_of_run {runtime : Runtime} {settings : Settings} {shines : List Int32}
    {events : List Event} {state : ServerState} {socket : SocketId}
    (run : AnyRun (ServerState.step runtime) (.initial settings shines) events state)
    (unaccepted : ∀ remote, .accept socket remote ∉ events)
    : (state.session socket).phase = .idle := by
  induction run with
  | nil => rfl
  | snoc before _ taken ih =>
      have idle := ih fun remote member => unaccepted remote (List.mem_append_left _ member)
      rcases ServerState.step_change (Tidy.of_run before) taken socket with ⟨_, same⟩ | change
      · exact same.phase.trans idle
      · cases change with
        | @accept remote => exact absurd (by simp) (unaccepted remote)
        | _ => simp_all

end SmoOnline
