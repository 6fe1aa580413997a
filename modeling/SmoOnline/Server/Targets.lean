import SmoOnline.Server.State

/-! `MultiUserCommandHelper`: whom `rejoin`, `crash` and `ban` act on. An argument stands for the
one client that it finds, or for the first of several whose name it is; otherwise it is ambiguous.
-/

namespace SmoOnline

open Utf8

/-- What the search for players takes from the runtime. -/
structure Culture where
  toLower : Text → Text
  /-- `string.StartsWith` -/
  startsWith : Text → Text → Bool
  startsWith_self : ∀ text, startsWith text text = true
  /-- `string.EndsWith` -/
  endsWith : Text → Text → Bool
  /-- `Guid.TryParse` -/
  tryParse : Text → Option Guid

/-- What `MultiUserCommandHelper` returns: two sets, the second one of clients, which are equal by
their Ids, and the ambiguous arguments with the names that they match.
-/
structure Targets where
  failToFind : List Text := []
  toActUpon : List SocketId := []
  ambig : List (Text × List Text) := []
  deriving DecidableEq, Repr

/-- The client that an argument stands for, or that there is none or no single one. -/
inductive Lookup
  | missing
  | one (client : SocketId)
  | ambiguous (search : List SocketId)
  deriving DecidableEq, Repr

def everyone : Text := "*".toList

def everyoneBut : Text := "!*".toList

namespace ServerState

variable (state : ServerState) (culture : Culture)

/-- The filter of the search. -/
def matchesArg (arg : Text) (client : SocketId) : Bool :=
  culture.startsWith (culture.toLower (state.name client)) (culture.toLower arg)
    || culture.tryParse arg = some (state.session client).id

def search (arg : Text) : List SocketId :=
  state.connectedClients.filter (state.matchesArg culture arg)

/-- The branches on how many clients are found, and whether one of several has the name. -/
def lookup (arg : Text) : Lookup :=
  match state.search culture arg with
  | [] => .missing
  | [client] => .one client
  | search =>
      match search.find? (fun client => state.name client = arg) with
      | some exact => .one exact
      | none => .ambiguous search

/-- `HashSet<Client>.Add`. -/
def addClient (clients : List SocketId) (client : SocketId) : List SocketId :=
  if clients.any (fun other => (state.session other).id = (state.session client).id) then clients
  else clients ++ [client]

/-- `HashSet<Client>.Remove`. -/
def removeClient (clients : List SocketId) (client : SocketId) : List SocketId :=
  clients.filter (fun other => (state.session other).id ≠ (state.session client).id)

/-- One turn of the loop over the arguments, where `sparing` is `args[0] == "!*"`. -/
def target (sparing : Bool) (targets : Targets) (arg : Text) : Targets :=
  match state.lookup culture arg with
  | .missing =>
      if arg ∈ targets.failToFind then targets
      else { targets with failToFind := targets.failToFind ++ [arg] }
  | .one client =>
      { targets with
        toActUpon :=
          if sparing then state.removeClient targets.toActUpon client
          else state.addClient targets.toActUpon client }
  | .ambiguous search =>
      { targets with
        ambig :=
          if targets.ambig.any (fun known => known.1 = arg) then targets.ambig
          else targets.ambig ++ [(arg, search.map state.name)]
        toActUpon := search.foldl state.removeClient targets.toActUpon }

/-- `new(server.Clients.Where(c => c.Connected))`. -/
def everyTarget : Targets :=
  { toActUpon := state.connectedClients.foldl state.addClient [] }

/-- `MultiUserCommandHelper`; it throws without arguments. -/
def multiUserCommandHelper : List Text → Option Targets
  | [] => none
  | first :: rest =>
      if first = everyone then some state.everyTarget
      else if first = everyoneBut then
        some (rest.foldl (state.target culture true) state.everyTarget)
      else some ((first :: rest).foldl (state.target culture false) {})

/-- The Ids of a set of clients. -/
def idsOf (clients : List SocketId) : List Guid :=
  clients.map fun client => (state.session client).id

/-- The argument stands for a client with the Id. -/
def Selects (arg : Text) (id : Guid) : Prop :=
  ∃ client, state.lookup culture arg = .one client ∧ (state.session client).id = id

/-- The argument is ambiguous, and finds a client with the Id among others. -/
def Confuses (arg : Text) (id : Guid) : Prop :=
  ∃ search, state.lookup culture arg = .ambiguous search ∧ id ∈ state.idsOf search

-----------------------------------------------------------------------------------------
-- The set of clients
-----------------------------------------------------------------------------------------

section Sets

variable {state culture}
variable {clients : List SocketId} {client : SocketId} {id : Guid}

theorem mem_idsOf : id ∈ state.idsOf clients ↔ ∃ client ∈ clients, (state.session client).id = id :=
  List.mem_map

theorem mem_addClient
    : id ∈ state.idsOf (state.addClient clients client)
      ↔ id ∈ state.idsOf clients ∨ id = (state.session client).id := by
  rw [addClient]
  split_ifs with present
  · refine ⟨.inl, ?_⟩
    rintro (member | rfl)
    · exact member
    · obtain ⟨other, member, same⟩ := List.any_eq_true.mp present
      exact mem_idsOf.mpr ⟨other, member, of_decide_eq_true same⟩
  · rw [idsOf, List.map_append, List.mem_append, List.map_singleton, List.mem_singleton]
    exact Iff.rfl

theorem mem_removeClient
    : id ∈ state.idsOf (state.removeClient clients client)
      ↔ id ∈ state.idsOf clients ∧ id ≠ (state.session client).id := by
  simp only [mem_idsOf, removeClient, List.mem_filter, decide_eq_true_eq]
  constructor
  · rintro ⟨other, ⟨member, different⟩, rfl⟩
    exact ⟨⟨other, member, rfl⟩, different⟩
  · rintro ⟨⟨other, member, rfl⟩, different⟩
    exact ⟨other, ⟨member, different⟩, rfl⟩

theorem mem_foldl_addClient (added : List SocketId)
    : id ∈ state.idsOf (added.foldl state.addClient clients)
      ↔ id ∈ state.idsOf clients ∨ id ∈ state.idsOf added := by
  induction added generalizing clients with
  | nil => simp [idsOf]
  | cons client added ih =>
      rw [List.foldl_cons, ih, mem_addClient, or_assoc, idsOf, idsOf, idsOf, List.map_cons,
        List.mem_cons]

theorem mem_foldl_removeClient (removed : List SocketId)
    : id ∈ state.idsOf (removed.foldl state.removeClient clients)
      ↔ id ∈ state.idsOf clients ∧ id ∉ state.idsOf removed := by
  induction removed generalizing clients with
  | nil => simp [idsOf]
  | cons client removed ih =>
      rw [List.foldl_cons, ih, mem_removeClient, and_assoc, idsOf, idsOf, idsOf, List.map_cons,
        List.mem_cons, not_or]

theorem addClient_subset {bound : List SocketId} (within : clients ⊆ bound)
    (member : client ∈ bound)
    : state.addClient clients client ⊆ bound := by
  rw [addClient]
  split_ifs
  · exact within
  · exact List.append_subset.mpr ⟨within, List.cons_subset.mpr ⟨member, List.nil_subset _⟩⟩

theorem foldl_addClient_subset {bound added : List SocketId} (within : clients ⊆ bound)
    (members : added ⊆ bound)
    : added.foldl state.addClient clients ⊆ bound := by
  induction added generalizing clients with
  | nil => exact within
  | cons client added ih =>
      obtain ⟨member, members⟩ := List.cons_subset.mp members
      exact ih (addClient_subset within member) members

theorem mem_everyTarget
    : id ∈ state.idsOf state.everyTarget.toActUpon ↔ id ∈ state.idsOf state.connectedClients := by
  rw [everyTarget, mem_foldl_addClient]
  simp [idsOf]

end Sets

-----------------------------------------------------------------------------------------
-- The search
-----------------------------------------------------------------------------------------

section Search

variable {state culture}
variable {arg : Text}

/-- An argument stands for the only client that it finds, or for one of its name. -/
theorem lookup_one {client : SocketId} (one : state.lookup culture arg = .one client)
    : client ∈ state.search culture arg
      ∧ (state.search culture arg = [client] ∨ state.name client = arg) := by
  rw [lookup] at one
  split at one
  · cases one
  · next only found =>
      obtain rfl := Lookup.one.inj one
      exact ⟨found ▸ List.mem_singleton_self _, .inl found⟩
  · split at one
    · next exact named =>
        obtain rfl := Lookup.one.inj one
        exact ⟨List.mem_of_find?_eq_some named, .inr (by simpa using List.find?_some named)⟩
    · cases one

/-- An ambiguous argument is the name of no client that it finds. -/
theorem lookup_ambiguous {search : List SocketId}
    (ambiguous : state.lookup culture arg = .ambiguous search)
    : search = state.search culture arg ∧ ∀ client ∈ search, state.name client ≠ arg := by
  rw [lookup] at ambiguous
  split at ambiguous
  · cases ambiguous
  · cases ambiguous
  · split at ambiguous
    · cases ambiguous
    · next unnamed =>
        obtain rfl := Lookup.ambiguous.inj ambiguous
        exact ⟨rfl, fun client member => by simpa using List.find?_eq_none.mp unnamed client member⟩

theorem lookup_missing (missing : state.lookup culture arg = .missing)
    : state.search culture arg = [] := by
  rw [lookup] at missing
  split at missing
  · assumption
  · cases missing
  · split at missing <;> cases missing

/-- No argument adds a client that is not connected. -/
theorem target_connected {sparing : Bool} {targets : Targets}
    (connected : targets.toActUpon ⊆ state.connectedClients)
    : (state.target culture sparing targets arg).toActUpon ⊆ state.connectedClients := by
  have removed (clients : List SocketId) (client : SocketId)
      : state.removeClient clients client ⊆ clients :=
    List.filter_subset_self _
  have swept (search clients : List SocketId)
      : search.foldl state.removeClient clients ⊆ clients := by
    induction search generalizing clients with
    | nil => exact List.Subset.refl _
    | cons client search ih => exact List.Subset.trans (ih _) (removed clients client)
  rw [target]
  split
  · split_ifs <;> exact connected
  · next client one =>
      have found := (List.mem_filter.mp (lookup_one one).1).1
      split_ifs
      · exact List.Subset.trans (removed _ client) connected
      · exact addClient_subset connected found
  · next search _ => exact List.Subset.trans (swept search _) connected

/-- Only connected clients are acted upon. -/
theorem connected_of_helper {args : List Text} {targets : Targets}
    (helped : state.multiUserCommandHelper culture args = some targets)
    : targets.toActUpon ⊆ state.connectedClients := by
  have looped (sparing : Bool) (args : List Text) {targets : Targets}
      (connected : targets.toActUpon ⊆ state.connectedClients)
      : (args.foldl (state.target culture sparing) targets).toActUpon ⊆ state.connectedClients := by
    induction args generalizing targets with
    | nil => exact connected
    | cons arg args ih => exact ih (target_connected connected)
  have everybody : state.everyTarget.toActUpon ⊆ state.connectedClients :=
    foldl_addClient_subset (List.nil_subset _) (List.Subset.refl _)
  cases args with
  | nil => cases helped
  | cons first rest =>
      rw [multiUserCommandHelper] at helped
      split_ifs at helped <;> obtain rfl := Option.some.inj helped
      · exact everybody
      · exact looped true rest everybody
      · exact looped false (first :: rest) (List.nil_subset _)

/-- An argument stands for a connected client. -/
theorem connected_of_selects {id : Guid} (selects : state.Selects culture arg id)
    : id ∈ state.idsOf state.connectedClients := by
  obtain ⟨client, one, rfl⟩ := selects
  exact mem_idsOf.mpr ⟨client, (List.mem_filter.mp (lookup_one one).1).1, rfl⟩

end Search

-----------------------------------------------------------------------------------------
-- What an argument does, and what all of them do
-----------------------------------------------------------------------------------------

section Loop

variable {state culture}
variable {sparing : Bool} {targets : Targets} {arg other : Text} {id : Guid}

theorem mem_target_selecting
    : id ∈ state.idsOf (state.target culture false targets arg).toActUpon
      ↔ state.Selects culture arg id
        ∨ id ∈ state.idsOf targets.toActUpon ∧ ¬state.Confuses culture arg id := by
  rw [target, Selects, Confuses]
  cases state.lookup culture arg with
  | missing =>
      dsimp only
      split_ifs <;> simp
  | one client => simp [mem_addClient, or_comm, eq_comm]
  | ambiguous search => simp [mem_foldl_removeClient]

theorem mem_target_sparing
    : id ∈ state.idsOf (state.target culture true targets arg).toActUpon
      ↔ id ∈ state.idsOf targets.toActUpon
        ∧ ¬state.Selects culture arg id
        ∧ ¬state.Confuses culture arg id := by
  rw [target, Selects, Confuses]
  cases state.lookup culture arg with
  | missing =>
      dsimp only
      split_ifs <;> simp
  | one client => simp [mem_removeClient, eq_comm]
  | ambiguous search => simp [mem_foldl_removeClient]

theorem failToFind_target
    : other ∈ (state.target culture sparing targets arg).failToFind
      ↔ other ∈ targets.failToFind
        ∨ other = arg ∧ state.lookup culture arg = .missing := by
  rw [target]
  cases state.lookup culture arg with
  | missing =>
      dsimp only
      split_ifs with known
      · simp only [and_true]
        refine ⟨.inl, ?_⟩
        rintro (member | rfl)
        · exact member
        · exact known
      · simp
  | one client => simp
  | ambiguous search => simp

theorem ambig_target
    : other ∈ (state.target culture sparing targets arg).ambig.map Prod.fst
      ↔ other ∈ targets.ambig.map Prod.fst
        ∨ other = arg ∧ ∃ search, state.lookup culture arg = .ambiguous search := by
  rw [target]
  cases state.lookup culture arg with
  | missing =>
      dsimp only
      split_ifs <;> simp
  | one client => simp
  | ambiguous search =>
      dsimp only
      split_ifs with known
      · refine ⟨.inl, ?_⟩
        rintro (member | ⟨rfl, _⟩)
        · exact member
        · obtain ⟨entry, member, same⟩ := List.any_eq_true.mp known
          exact List.mem_map.mpr ⟨entry, member, of_decide_eq_true same⟩
      · rw [List.map_append, List.mem_append, List.map_singleton, List.mem_singleton]
        simp

/-- Where each argument puts itself down or not, all of them do, by induction on them. -/
theorem mem_foldl_noted {notes : Targets → List Text} {Noted : Text → Prop}
    (step
      : ∀ targets arg,
          other ∈ notes (state.target culture sparing targets arg)
          ↔ other ∈ notes targets ∨ other = arg ∧ Noted arg)
    (args : List Text)
    : other ∈ notes (args.foldl (state.target culture sparing) targets)
      ↔ other ∈ notes targets ∨ other ∈ args ∧ Noted other := by
  induction args generalizing targets with
  | nil => simp
  | cons arg args ih =>
      rw [List.foldl_cons, ih, step, List.mem_cons, or_assoc, or_and_right]
      refine or_congr_right (or_congr_left (and_congr_right fun same => ?_))
      rw [same]

theorem failToFind_foldl (args : List Text)
    : other ∈ (args.foldl (state.target culture sparing) targets).failToFind
      ↔ other ∈ targets.failToFind
        ∨ other ∈ args ∧ state.lookup culture other = .missing :=
  mem_foldl_noted (fun _ _ => failToFind_target) args

theorem ambig_foldl (args : List Text)
    : other ∈ (args.foldl (state.target culture sparing) targets).ambig.map Prod.fst
      ↔ other ∈ targets.ambig.map Prod.fst
        ∨ other ∈ args ∧ ∃ search, state.lookup culture other = .ambiguous search :=
  @mem_foldl_noted _ _ _ _ _ (fun targets => targets.ambig.map Prod.fst)
    (fun arg => ∃ search, state.lookup culture arg = .ambiguous search)
    (fun _ _ => ambig_target) args

/-- A client is spared by any argument that finds it, by induction on the arguments. -/
theorem mem_foldl_sparing (args : List Text)
    : id ∈ state.idsOf (args.foldl (state.target culture true) targets).toActUpon
      ↔ id ∈ state.idsOf targets.toActUpon
        ∧ ∀ arg ∈ args, ¬state.Selects culture arg id ∧ ¬state.Confuses culture arg id := by
  induction args generalizing targets with
  | nil => simp
  | cons arg args ih =>
      rw [List.foldl_cons, ih, mem_target_sparing, List.forall_mem_cons, and_assoc]

/-- Where no argument is in the way of another one, a client is acted upon if one stands for it,
by induction on the arguments.
-/
theorem mem_foldl_selecting {args : List Text}
    (apart
      : ∀ arg ∈ args, ∀ other ∈ args,
          ¬(state.Selects culture arg id ∧ state.Confuses culture other id))
    : id ∈ state.idsOf (args.foldl (state.target culture false) targets).toActUpon
      ↔ (∃ arg ∈ args, state.Selects culture arg id)
        ∨ id ∈ state.idsOf targets.toActUpon ∧ ∀ arg ∈ args, ¬state.Confuses culture arg id := by
  induction args generalizing targets with
  | nil => simp
  | cons arg args ih =>
      rw [List.foldl_cons, ih fun one there two here =>
        apart one (List.mem_cons_of_mem _ there) two (List.mem_cons_of_mem _ here),
        mem_target_selecting]
      simp only [List.mem_cons, exists_eq_or_imp, forall_eq_or_imp]
      by_cases selects : state.Selects culture arg id
      · have clear : ∀ other ∈ args, ¬state.Confuses culture other id := fun other there confuses =>
          apart arg List.mem_cons_self other (List.mem_cons_of_mem _ there) ⟨selects, confuses⟩
        exact iff_of_true (.inr ⟨.inl selects, clear⟩) (.inl (.inl selects))
      · simp only [selects, false_or, and_assoc]

/-- A client that is acted upon was so before or is one that an argument stands for. -/
theorem selects_of_mem_foldl {args : List Text}
    (member : id ∈ state.idsOf (args.foldl (state.target culture false) targets).toActUpon)
    : id ∈ state.idsOf targets.toActUpon ∨ ∃ arg ∈ args, state.Selects culture arg id := by
  induction args generalizing targets with
  | nil => exact .inl member
  | cons arg args ih =>
      rw [List.foldl_cons] at member
      rcases ih member with before | ⟨other, there, selects⟩
      · rcases mem_target_selecting.mp before with selects | ⟨earlier, _⟩
        · exact .inr ⟨arg, List.mem_cons_self, selects⟩
        · exact .inl earlier
      · exact .inr ⟨other, List.mem_cons_of_mem _ there, selects⟩

end Loop

-----------------------------------------------------------------------------------------
-- Arguments in another order
-----------------------------------------------------------------------------------------

/-- The same arguments, behind `!*` where it leads them. -/
def Reordered (args others : List Text) : Prop :=
  args.Perm others ∧ (args.head? = some everyoneBut ↔ others.head? = some everyoneBut)

/-- The same clients by their Ids, the same failures and the same ambiguous arguments. -/
structure Agree (targets others : Targets) : Prop where
  failToFind : ∀ arg, arg ∈ targets.failToFind ↔ arg ∈ others.failToFind
  toActUpon : ∀ id, id ∈ state.idsOf targets.toActUpon ↔ id ∈ state.idsOf others.toActUpon
  ambig : ∀ arg, arg ∈ targets.ambig.map Prod.fst ↔ arg ∈ others.ambig.map Prod.fst

/-- The helper returns the same for the arguments in any order. -/
def OrderIgnored (args : List Text) : Prop :=
  ∀ others,
    Reordered args others
    → Option.Rel state.Agree (state.multiUserCommandHelper culture args)
        (state.multiUserCommandHelper culture others)

/-- The list leads with `!*`; or it has just one other argument, or no other than `*` and `!*`; or,
with `*` in it, each argument stands for a client and every client has one; or, without, no
client has both an argument that stands for it and one that finds it among others.
-/
def OrderFree (args : List Text) : Prop :=
  args.head? = some everyoneBut
  ∨ (args.filter (· ≠ everyoneBut)).length ≤ 1
  ∨ (∀ arg ∈ args, arg = everyone ∨ arg = everyoneBut)
  ∨ if everyone ∈ args then
      (∀ arg ∈ args, ∃ client, state.lookup culture arg = .one client)
      ∧ ∀ client ∈ state.connectedClients,
          ∃ arg ∈ args, state.Selects culture arg (state.session client).id
    else
      ∀ arg ∈ args, ∀ other ∈ args, ∀ id,
        ¬(state.Selects culture arg id ∧ state.Confuses culture other id)

section Orders

variable {state culture}
variable {args others order rest : List Text} {arg : Text} {targets : Targets}

theorem Agree.refl (targets : Targets) : state.Agree targets targets :=
  ⟨fun _ => Iff.rfl, fun _ => Iff.rfl, fun _ => Iff.rfl⟩

theorem Agree.symm {others : Targets} (agree : state.Agree targets others)
    : state.Agree others targets :=
  ⟨fun arg => (agree.failToFind arg).symm, fun id => (agree.toActUpon id).symm,
    fun arg => (agree.ambig arg).symm⟩

theorem Agree.trans {others more : Targets} (first : state.Agree targets others)
    (second : state.Agree others more)
    : state.Agree targets more :=
  ⟨fun arg => (first.failToFind arg).trans (second.failToFind arg),
    fun id => (first.toActUpon id).trans (second.toActUpon id),
    fun arg => (first.ambig arg).trans (second.ambig arg)⟩

theorem helper_everyone
    : state.multiUserCommandHelper culture (everyone :: rest) = some state.everyTarget := by
  rw [multiUserCommandHelper, if_pos rfl]

theorem helper_everyoneBut
    : state.multiUserCommandHelper culture (everyoneBut :: rest)
      = some (rest.foldl (state.target culture true) state.everyTarget) := by
  rw [multiUserCommandHelper, if_neg (by decide), if_pos rfl]

theorem helper_names (name : arg ≠ everyone) (leads : arg ≠ everyoneBut)
    : state.multiUserCommandHelper culture (arg :: rest)
      = some ((arg :: rest).foldl (state.target culture false) {}) := by
  rw [multiUserCommandHelper, if_neg name, if_neg leads]

/-- Arguments that only spare clients do so in any order. -/
theorem agree_sparing (perm : args.Perm others)
    : state.Agree (args.foldl (state.target culture true) targets)
        (others.foldl (state.target culture true) targets) where
  failToFind arg := by rw [failToFind_foldl, failToFind_foldl, perm.mem_iff]
  toActUpon id := by
    rw [mem_foldl_sparing, mem_foldl_sparing]
    simp only [perm.mem_iff]
  ambig arg := by rw [ambig_foldl, ambig_foldl, perm.mem_iff]

/-- Arguments that are not in each other's way select the same clients in any order. -/
theorem agree_selecting (perm : args.Perm others)
    (apart
      : ∀ arg ∈ args, ∀ other ∈ args, ∀ id,
          ¬(state.Selects culture arg id ∧ state.Confuses culture other id))
    : state.Agree (args.foldl (state.target culture false) {})
        (others.foldl (state.target culture false) {}) where
  failToFind arg := by rw [failToFind_foldl, failToFind_foldl, perm.mem_iff]
  toActUpon id := by
    rw [mem_foldl_selecting fun arg there other here => apart arg there other here id,
      mem_foldl_selecting fun arg there other here =>
        apart arg (perm.mem_iff.mpr there) other (perm.mem_iff.mpr here) id]
    simp only [perm.mem_iff]
  ambig arg := by rw [ambig_foldl, ambig_foldl, perm.mem_iff]

/-- Arguments that stand for all clients, one by one, select everyone. -/
theorem agree_everyTarget
    (found : ∀ arg ∈ args, ∃ client, state.lookup culture arg = .one client)
    (all
      : ∀ client ∈ state.connectedClients,
          ∃ arg ∈ args, state.Selects culture arg (state.session client).id)
    : state.Agree state.everyTarget (args.foldl (state.target culture false) {}) where
  failToFind arg := by
    rw [failToFind_foldl]
    refine iff_of_false List.not_mem_nil ?_
    rintro (never | ⟨member, missing⟩)
    · cases never
    · obtain ⟨client, one⟩ := found arg member
      cases one.symm.trans missing
  toActUpon id := by
    have apart : ∀ arg ∈ args, ∀ other ∈ args,
        ¬(state.Selects culture arg id ∧ state.Confuses culture other id) := by
      rintro _ _ other member ⟨_, search, ambiguous, _⟩
      obtain ⟨client, one⟩ := found other member
      cases one.symm.trans ambiguous
    rw [mem_everyTarget, mem_foldl_selecting apart]
    constructor
    · intro connected
      obtain ⟨client, member, rfl⟩ := mem_idsOf.mp connected
      exact .inl (all client member)
    · rintro (⟨arg, _, selects⟩ | ⟨never, _⟩)
      · exact connected_of_selects selects
      · cases never
  ambig arg := by
    rw [ambig_foldl]
    refine iff_of_false List.not_mem_nil ?_
    rintro (never | ⟨member, search, ambiguous⟩)
    · cases never
    · obtain ⟨client, one⟩ := found arg member
      cases one.symm.trans ambiguous

/-- A list with at most one argument but `!*`, which does not lead it. -/
theorem eq_cons_of_few (few : (args.filter (· ≠ everyoneBut)).length ≤ 1)
    (leads : args.head? ≠ some everyoneBut)
    : args = []
      ∨ ∃ first,
        first ≠ everyoneBut ∧ args = first :: List.replicate (args.length - 1) everyoneBut := by
  cases args with
  | nil => exact .inl rfl
  | cons first rest =>
      have name : first ≠ everyoneBut := fun same => leads (congrArg some same)
      refine .inr ⟨first, name, congrArg _ ?_⟩
      rw [List.filter_cons_of_pos (by simpa using name), List.length_cons] at few
      have none : rest.filter (· ≠ everyoneBut) = [] := List.length_eq_zero_iff.mp (by omega)
      refine List.eq_replicate_iff.mpr ⟨rfl, fun arg member => ?_⟩
      simpa using List.filter_eq_nil_iff.mp none arg member

/-- A list of one argument and of `!*` behind it has no other order. -/
theorem eq_of_few (few : (args.filter (· ≠ everyoneBut)).length ≤ 1)
    (leads : args.head? ≠ some everyoneBut) (same : Reordered args others)
    : others = args := by
  have length := same.1.length_eq
  have fewOthers : (others.filter (· ≠ everyoneBut)).length ≤ 1 := by
    rw [← (same.1.filter _).length_eq]
    exact few
  rcases eq_cons_of_few few leads with rfl | ⟨first, name, list⟩
  · exact same.1.symm.eq_nil
  · rcases eq_cons_of_few fewOthers (mt same.2.mpr leads) with rfl | ⟨other, _, listOthers⟩
    · exact same.1.eq_nil.symm
    · have member : first ∈ others := same.1.mem_iff.mp (list ▸ List.mem_cons_self)
      rw [listOthers] at member
      rcases List.mem_cons.mp member with rfl | replicated
      · rw [listOthers, ← length]
        exact list.symm
      · exact absurd (List.eq_of_mem_replicate replicated) name

/-- With two arguments other than `!*` there is an order that ends with a given one. -/
theorem exists_order (many : 2 ≤ (args.filter (· ≠ everyoneBut)).length) (member : arg ∈ args)
    : ∃ first order, first ≠ everyoneBut ∧ args.Perm (first :: (order ++ [arg])) := by
  have perm := List.perm_cons_erase member
  have count := (perm.filter (· ≠ everyoneBut)).length_eq
  have bound : ((arg :: args.erase arg).filter (· ≠ everyoneBut)).length
      ≤ ((args.erase arg).filter (· ≠ everyoneBut)).length + 1 := by
    rw [List.filter_cons]
    split_ifs
    · exact Nat.le_refl _
    · exact Nat.le_succ _
  obtain ⟨first, there⟩ := List.exists_mem_of_length_pos
    (show 0 < ((args.erase arg).filter (· ≠ everyoneBut)).length by omega)
  obtain ⟨there, name⟩ := List.mem_filter.mp there
  refine ⟨first, (args.erase arg).erase first, by simpa using name, ?_⟩
  calc
    args.Perm (arg :: args.erase arg) := perm
    List.Perm _ (arg :: first :: (args.erase arg).erase first) :=
      (List.perm_cons_erase there).cons arg
    List.Perm _ (first :: ((args.erase arg).erase first ++ [arg])) :=
      (List.perm_append_singleton arg (first :: (args.erase arg).erase first)).symm

/-- A list that leads with neither `*` nor `!*` selects the clients by its arguments. -/
theorem helper_of_names (names : everyone ∉ args) (leads : args.head? ≠ some everyoneBut)
    (nonempty : args ≠ [])
    : state.multiUserCommandHelper culture args
      = some (args.foldl (state.target culture false) {}) := by
  cases args with
  | nil => exact absurd rfl nonempty
  | cons first rest =>
      exact helper_names (fun same => names (same ▸ List.mem_cons_self))
        (fun same => leads (congrArg Option.some same))

theorem orderIgnored_of_leads (leads : args.head? = some everyoneBut)
    : state.OrderIgnored culture args := by
  intro others same
  have leadsOthers := same.2.mp leads
  cases args with
  | nil => cases leads
  | cons first rest =>
      obtain rfl := Option.some.inj leads
      cases others with
      | nil => cases leadsOthers
      | cons other more =>
          obtain rfl := Option.some.inj leadsOthers
          rw [helper_everyoneBut, helper_everyoneBut]
          exact .some (agree_sparing ((List.perm_cons _).mp same.1))

theorem orderIgnored_of_few (leads : args.head? ≠ some everyoneBut)
    (few : (args.filter (· ≠ everyoneBut)).length ≤ 1)
    : state.OrderIgnored culture args := by
  intro others same
  rw [eq_of_few few leads same]
  cases state.multiUserCommandHelper culture args with
  | none => exact .none
  | some targets => exact .some (.refl targets)

/-- Lists that all select everyone agree. -/
theorem orderIgnored_of_everyTarget (nonempty : args ≠ []) (leads : args.head? ≠ some everyoneBut)
    (every
      : ∀ {list : List Text},
          args.Perm list
          → list.head? ≠ .some everyoneBut
          → list ≠ []
          → ∃ targets,
              state.multiUserCommandHelper culture list = .some targets
              ∧ state.Agree state.everyTarget targets)
    : state.OrderIgnored culture args := by
  intro others same
  obtain ⟨targets, helped, agree⟩ := every (.refl args) leads nonempty
  obtain ⟨targetsOthers, helpedOthers, agreeOthers⟩ := every same.1 (mt same.2.mpr leads)
    fun empty => nonempty (same.1.trans (.of_eq empty)).eq_nil
  rw [helped, helpedOthers]
  exact .some (agree.symm.trans agreeOthers)

/-- The first argument of any list of `*` and `!*` that does not lead with `!*` is `*`. -/
theorem helper_of_stars (stars : ∀ arg ∈ args, arg = everyone ∨ arg = everyoneBut)
    (leads : args.head? ≠ some everyoneBut) (nonempty : args ≠ [])
    : state.multiUserCommandHelper culture args = .some state.everyTarget := by
  cases args with
  | nil => exact absurd rfl nonempty
  | cons first rest =>
      rcases stars first List.mem_cons_self with rfl | rfl
      · exact helper_everyone
      · exact absurd rfl leads

/-- Arguments that stand for all clients agree with a `*` in front. -/
theorem helper_of_all (found : ∀ arg ∈ args, ∃ client, state.lookup culture arg = .one client)
    (all
      : ∀ client ∈ state.connectedClients,
          ∃ arg ∈ args, state.Selects culture arg (state.session client).id)
    (leads : args.head? ≠ some everyoneBut) (nonempty : args ≠ [])
    : ∃ targets,
        state.multiUserCommandHelper culture args = .some targets
        ∧ state.Agree state.everyTarget targets := by
  cases args with
  | nil => exact absurd rfl nonempty
  | cons first rest =>
      by_cases star : first = everyone
      · subst star
        exact ⟨_, helper_everyone, .refl _⟩
      · exact ⟨_, helper_names star fun same => leads (congrArg Option.some same),
          agree_everyTarget found all⟩

/-- A list with a free order gives the same in any other one. -/
theorem orderIgnored_of_orderFree (free : state.OrderFree culture args)
    : state.OrderIgnored culture args := by
  by_cases leads : args.head? = some everyoneBut
  · exact orderIgnored_of_leads leads
  · by_cases none : args = []
    · subst none
      exact orderIgnored_of_few leads (by simp)
    · rcases free with lead | few | stars | rest
      · exact absurd lead leads
      · exact orderIgnored_of_few leads few
      · refine orderIgnored_of_everyTarget none leads fun perm leads nonempty => ⟨_, ?_, .refl _⟩
        exact helper_of_stars (fun arg member => stars arg (perm.mem_iff.mpr member)) leads nonempty
      · split_ifs at rest with star
        · obtain ⟨found, all⟩ := rest
          refine orderIgnored_of_everyTarget none leads fun perm leads nonempty => ?_
          refine helper_of_all (fun arg member => found arg (perm.mem_iff.mpr member))
            (fun client member => ?_) leads nonempty
          obtain ⟨arg, there, selects⟩ := all client member
          exact ⟨arg, perm.mem_iff.mp there, selects⟩
        · intro others same
          rw [helper_of_names star leads none,
            helper_of_names (fun member => star (same.1.mem_iff.mpr member))
              (mt same.2.mpr leads) fun empty => none (same.1.trans (.of_eq empty)).eq_nil]
          exact .some (agree_selecting same.1 rest)

/-- What two orders return, where the order does not matter. -/
theorem OrderIgnored.agree (ignored : state.OrderIgnored culture args)
    (leads : args.head? ≠ some everyoneBut) {one two : List Text} {targets more : Targets}
    (permOne : args.Perm one) (leadsOne : one.head? ≠ some everyoneBut)
    (permTwo : args.Perm two) (leadsTwo : two.head? ≠ some everyoneBut)
    (helpedOne : state.multiUserCommandHelper culture one = some targets)
    (helpedTwo : state.multiUserCommandHelper culture two = some more)
    : state.Agree targets more := by
  have first := ignored one ⟨permOne, iff_of_false leads leadsOne⟩
  have second := ignored two ⟨permTwo, iff_of_false leads leadsTwo⟩
  rw [helpedOne] at first
  rw [helpedTwo] at second
  generalize state.multiUserCommandHelper culture args = mine at first second
  cases first with
  | some agree =>
      cases second with
      | some agreeMore => exact agree.symm.trans agreeMore

/-- With `*` among the arguments and another one that may be in front of it, all that the other
orders return is everyone.
-/
theorem OrderIgnored.all (ignored : state.OrderIgnored culture args)
    (leads : args.head? ≠ some everyoneBut) (star : everyone ∈ args) (member : arg ∈ args)
    (name : arg ≠ everyone) (names : arg ≠ everyoneBut)
    : (∀ arg ∈ args, ∃ client, state.lookup culture arg = .one client)
      ∧ ∀ client ∈ state.connectedClients,
          ∃ arg ∈ args, state.Selects culture arg (state.session client).id := by
  have perm := List.perm_cons_erase member
  have starFirst : (everyone :: args.erase everyone).head? ≠ some everyoneBut := by
    intro same
    exact absurd (Option.some.inj same) (by decide)
  have agree := ignored.agree leads (List.perm_cons_erase star) starFirst perm
    (by simpa using names) helper_everyone (helper_names name names)
  constructor
  · intro other there
    cases looked : state.lookup culture other with
    | one client => exact ⟨client, rfl⟩
    | missing =>
        have failed := (agree.failToFind other).mpr
          ((failToFind_foldl _).mpr (.inr ⟨perm.mem_iff.mp there, looked⟩))
        cases failed
    | ambiguous search =>
        have confused := (agree.ambig other).mpr
          ((ambig_foldl _).mpr (.inr ⟨perm.mem_iff.mp there, search, looked⟩))
        cases confused
  · intro client connected
    have acted := (agree.toActUpon _).mp
      (mem_everyTarget.mpr (mem_idsOf.mpr ⟨client, connected, rfl⟩))
    rcases selects_of_mem_foldl acted with never | ⟨other, there, selects⟩
    · cases never
    · exact ⟨other, perm.mem_iff.mpr there, selects⟩

/-- An argument that stands for a client and one that is ambiguous about it are both the last ones
in some order.
-/
theorem OrderIgnored.apart (ignored : state.OrderIgnored culture args)
    (leads : args.head? ≠ some everyoneBut) (names : everyone ∉ args)
    (many : 2 ≤ (args.filter (· ≠ everyoneBut)).length) (member : arg ∈ args) {other : Text}
    (there : other ∈ args) {id : Guid}
    : ¬(state.Selects culture arg id ∧ state.Confuses culture other id) := by
  rintro ⟨selects, confuses⟩
  obtain ⟨one, orderOne, nameOne, permOne⟩ := exists_order many member
  obtain ⟨two, orderTwo, nameTwo, permTwo⟩ := exists_order many there
  have listed : ∀ {first : Text} {order : List Text},
      args.Perm (first :: order) → first ≠ everyone := by
    rintro _ order perm rfl
    exact names (perm.mem_iff.mpr List.mem_cons_self)
  have agree := ignored.agree leads permOne (by simpa using nameOne) permTwo
    (by simpa using nameTwo) (helper_names (listed permOne) nameOne)
    (helper_names (listed permTwo) nameTwo)
  have acted := agree.toActUpon id
  simp only [List.foldl_cons, List.foldl_append, List.foldl_nil, mem_target_selecting] at acted
  rcases acted.mp (.inl selects) with ⟨client, single, _⟩ | ⟨_, clear⟩
  · obtain ⟨search, ambiguous, _⟩ := confuses
    cases single.symm.trans ambiguous
  · exact clear confuses

/-- The order of the arguments does not matter exactly where it is free. -/
theorem order_ignored_iff (args : List Text)
    : state.OrderIgnored culture args ↔ state.OrderFree culture args := by
  refine ⟨fun ignored => ?_, orderIgnored_of_orderFree⟩
  by_cases leads : args.head? = some everyoneBut
  · exact .inl leads
  · by_cases few : (args.filter (· ≠ everyoneBut)).length ≤ 1
    · exact .inr (.inl few)
    · refine .inr (.inr ?_)
      by_cases stars : ∀ arg ∈ args, arg = everyone ∨ arg = everyoneBut
      · exact .inl stars
      · right
        push Not at stars
        obtain ⟨arg, member, name, names⟩ := stars
        split_ifs with star
        · exact ignored.all leads star member name names
        · exact fun arg there other here id =>
            ignored.apart leads star (Nat.not_le.mp few) there here

end Orders

-----------------------------------------------------------------------------------------
-- Players that are named behind `!*`
-----------------------------------------------------------------------------------------

/-- The argument is the client's name or its Id. -/
def Exempts (arg : Text) (client : SocketId) : Prop :=
  state.name client = arg ∨ culture.tryParse arg = some (state.session client).id

/-- No connected client that one of the arguments behind `!*` exempts is acted upon. -/
def SparesExempted (args : List Text) : Prop :=
  ∀ targets,
    state.multiUserCommandHelper culture (everyoneBut :: args) = some targets
    → ∀ client ∈ state.connectedClients, ∀ arg ∈ args,
      state.Exempts culture arg client
      → (state.session client).id ∉ state.idsOf targets.toActUpon

/-- Several clients match the argument, and the first of them that has it as its name is another
client than the given one.
-/
def StandsForOther (arg : Text) (client : SocketId) : Prop :=
  ∃ other,
    state.lookup culture arg = .one other ∧ (state.session other).id ≠ (state.session client).id

/-- A client that is exempted by an argument for another client has one more argument that spares
it, as it stands for it or is ambiguous about it.
-/
def NamesakesSpared (args : List Text) : Prop :=
  ∀ client ∈ state.connectedClients, ∀ arg ∈ args,
    state.Exempts culture arg client
    → state.StandsForOther culture arg client
    → ∃ other ∈ args,
        state.Selects culture other (state.session client).id
        ∨ state.Confuses culture other (state.session client).id

section Exempted

variable {state culture}
variable {arg : Text} {client : SocketId}

theorem mem_search_of_exempts (connected : client ∈ state.connectedClients)
    (exempts : state.Exempts culture arg client)
    : client ∈ state.search culture arg := by
  refine List.mem_filter.mpr ⟨connected, ?_⟩
  rw [matchesArg, Bool.or_eq_true, decide_eq_true_eq]
  rcases exempts with rfl | same
  · exact .inl (culture.startsWith_self _)
  · exact .inr same

/-- An argument spares whom it exempts unless it stands for another client. -/
theorem spares_of_exempts (connected : client ∈ state.connectedClients)
    (exempts : state.Exempts culture arg client)
    : state.Selects culture arg (state.session client).id
      ∨ state.Confuses culture arg (state.session client).id
      ∨ state.StandsForOther culture arg client := by
  have found := mem_search_of_exempts connected exempts
  cases looked : state.lookup culture arg with
  | missing =>
      rw [lookup_missing looked] at found
      cases found
  | one other =>
      by_cases same : (state.session other).id = (state.session client).id
      · exact .inl ⟨other, looked, same⟩
      · exact .inr (.inr ⟨other, looked, same⟩)
  | ambiguous search =>
      refine .inr (.inl ⟨search, looked, ?_⟩)
      rw [(lookup_ambiguous looked).1]
      exact mem_idsOf.mpr ⟨client, found, rfl⟩

/-- Exempted players are not acted upon exactly where each of them that shares the name, or whose
Id is the name of another one, has one more argument.
-/
theorem spares_exempted_iff (args : List Text)
    : state.SparesExempted culture args ↔ state.NamesakesSpared culture args := by
  constructor
  · intro spares client connected arg member exempts _
    have absent := spares _ helper_everyoneBut client connected arg member exempts
    by_contra overlooked
    push Not at overlooked
    refine absent ((mem_foldl_sparing args).mpr ⟨?_, overlooked⟩)
    exact mem_everyTarget.mpr (mem_idsOf.mpr ⟨client, connected, rfl⟩)
  · intro namesakes targets helped client connected arg member exempts acted
    obtain rfl := Option.some.inj (helper_everyoneBut.symm.trans helped)
    obtain ⟨_, overlooked⟩ := (mem_foldl_sparing args).mp acted
    obtain ⟨unselected, unconfused⟩ := overlooked arg member
    rcases spares_of_exempts connected exempts with selects | confuses | other
    · exact unselected selects
    · exact unconfused confuses
    · obtain ⟨more, there, selects | confuses⟩ :=
        namesakes client connected arg member exempts other
      · exact (overlooked more there).1 selects
      · exact (overlooked more there).2 confuses

end Exempted

-----------------------------------------------------------------------------------------
-- Two players
-----------------------------------------------------------------------------------------

/-- Names of seven-bit characters, and no argument that is a `Guid`. -/
def plainCulture : Culture where
  toLower text := text.map Char.toLower
  startsWith text start := start.isPrefixOf text
  startsWith_self text := List.isPrefixOf_iff_prefix.mpr (List.prefix_refl text)
  endsWith text ending := ending.isSuffixOf text
  tryParse _ := none

/-- Two clients with the names. -/
def twoNamed (first second : Text) : ServerState where
  clients := [0, 1]
  session socket := { id := ⟨BitVec.ofNat 128 (socket + 1)⟩, connected := true, profile := socket }
  profile socket := { name := if socket = 0 then first else second }

/-- A name behind its own beginning selects its player, in front of it it does not. -/
theorem order_matters
    : ¬(twoNamed "Mario".toList "Marisa".toList).OrderIgnored plainCulture
        ["Mario".toList, "Mari".toList] := by
  intro ignored
  have same : Reordered ["Mario".toList, "Mari".toList] ["Mari".toList, "Mario".toList] :=
    ⟨.swap _ _ _, by decide⟩
  have dropped
      : (twoNamed "Mario".toList "Marisa".toList).multiUserCommandHelper plainCulture
          ["Mario".toList, "Mari".toList]
        = some { ambig := [("Mari".toList, ["Mario".toList, "Marisa".toList])] } := by
    decide +kernel
  have kept
      : (twoNamed "Mario".toList "Marisa".toList).multiUserCommandHelper plainCulture
          ["Mari".toList, "Mario".toList]
        = some
            { toActUpon := [0]
              ambig := [("Mari".toList, ["Mario".toList, "Marisa".toList])] } := by
    decide +kernel
  have returned := ignored _ same
  rw [dropped, kept] at returned
  cases returned with
  | some agree => cases (agree.toActUpon ⟨1⟩).mpr List.mem_cons_self

/-- Of two players of one name the second one is acted upon with the others. -/
theorem namesake_not_spared
    : ¬(twoNamed "Mario".toList "Mario".toList).SparesExempted plainCulture ["Mario".toList] := by
  intro spares
  have helped
      : (twoNamed "Mario".toList "Mario".toList).multiUserCommandHelper plainCulture
          [everyoneBut, "Mario".toList]
        = some { toActUpon := [1] } := by
    decide +kernel
  exact spares _ helped 1 (by decide) _ List.mem_cons_self (.inl (by decide)) List.mem_cons_self

end ServerState

end SmoOnline
