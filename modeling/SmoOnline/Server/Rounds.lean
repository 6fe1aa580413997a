import Mathlib.Data.List.Nodup
import Mathlib.Data.List.Perm.Basic
import SmoOnline.Server.Entries
import SmoOnline.Server.Relay

/-! Rounds in which the server speaks of its players one by one, in the bodies of
`Parallel.ForEachAsync`: each broadcasts a packet on behalf of a client while handlers go on. A
round records who was told what, and who has stayed connected since it began.
-/

namespace SmoOnline

open Span Utf8 Runs

/-- What a body says of the client of an item. -/
structure Speech (Item Content : Type) where
  player : Item → SocketId
  /-- `none` where finding out what is to be said throws -/
  content : ServerState → Item → Option Content
  packet : Content → Packet
  /-- nothing is said of a client that is not connected -/
  checksConnected : Bool
  /-- behind the broadcast, the client itself is told -/
  tellsSelf : Bool

/-- The Id of an item's client, which goes into the header. -/
def Speech.id {Item Content : Type} (speech : Speech Item Content) (state : ServerState)
    (item : Item)
    : Guid :=
  (state.session (speech.player item)).id

/-- An enumerator over the client table: not yet made, or with the items that are still to come
and whether the table was changed since.
-/
inductive Enumeration (Item : Type)
  | unopened
  | remaining (yet : List Item) (stale : Bool)
  | exhausted
  deriving DecidableEq, Repr

/-- A body that was started; `said` once it has broadcast and is still to tell the client. -/
structure Body (Item Content : Type) where
  item : Item
  said : Option Content := none
  deriving DecidableEq, Repr

/-- The item of a body that is still to broadcast. -/
def Body.waiting {Item Content : Type} (body : Body Item Content) : Option Item :=
  if body.said.isSome then none else some body.item

/-- The item of a body that is still to tell its client. -/
def Body.halfway {Item Content : Type} (body : Body Item Content) : Option (Item × Content) :=
  body.said.map fun content => (body.item, content)

/-- What was broadcast for a client, and the name and the Id that it had then. -/
structure Spoken (Content : Type) where
  player : SocketId
  name : Text
  id : Guid
  content : Content
  deriving DecidableEq, Repr

/-- What was written to a client, with the Id in its header. -/
structure Told (Content : Type) where
  receiver : SocketId
  id : Guid
  content : Content
  deriving DecidableEq, Repr

/-- One or more loops that run at the same time: over an array, and over the client table. -/
structure Round (Item Content : Type) where
  fixed : List Item := []
  live : Enumeration Item
  bodies : List (Body Item Content) := []
  /-- the clients that have been in the table and connected since the round began -/
  present : List SocketId
  spoken : List (Spoken Content) := []
  told : List (Told Content) := []
  failed : Bool := false
  deriving DecidableEq, Repr

/-- The items still to come, where a new enumerator would yield those of `opens`. -/
def Enumeration.yet {Item : Type} (opens : List Item) : Enumeration Item → List Item
  | .unopened => opens
  | .remaining yet _ => yet
  | .exhausted => []

namespace Round

variable {Item Content : Type} (round : Round Item Content)

/-- What the round notices of a step of the server. -/
def observe (before after : ServerState) : Round Item Content :=
  { round with
    live :=
      match round.live with
      | .remaining yet stale => .remaining yet (stale || decide (after.clients ≠ before.clients))
      | .unopened => .unopened
      | .exhausted => .exhausted
    present := round.present.filter fun client =>
      client ∈ after.clients && (after.session client).connected }

/-- The enumerator of the array moves on. -/
def nextFixed : Option (Round Item Content) :=
  match round.fixed with
  | [] => none
  | item :: fixed => some { round with fixed, bodies := round.bodies ++ [{ item }] }

/-- `MoveNext` of the enumerator of the client table. -/
def moveNext (opens : List Item) : Option (Round Item Content) :=
  match round.live with
  | .unopened => some { round with live := .remaining opens false }
  | .remaining _ true => some { round with failed := true }
  | .remaining [] false => some { round with live := .exhausted }
  | .remaining (item :: yet) false =>
      some { round with live := .remaining yet false, bodies := round.bodies ++ [{ item }] }
  | .exhausted => none

/-- All loops have come to their ends. -/
def Complete : Prop := round.fixed = [] ∧ round.live = .exhausted ∧ round.bodies = []

section Bodies

variable (speech : Speech Item Content) (runtime : Runtime) (state : ServerState)

/-- `Broadcast(packet, client)`. A recipient whose socket is closed makes it throw, behind the
writes to the others.
-/
def broadcast (item : Item) (content : Content) : ServerState × Round Item Content :=
  let player := speech.player item
  let id := speech.id state item
  let packet := speech.packet content
  let recipients := state.recipients player
  if (runtime.filled id packet).2 then
    let reached := recipients.filter fun client => (state.session client).socketConnected
    let told : Round Item Content :=
      { round with
        spoken := round.spoken ++ [{ player, name := state.name player, id, content }]
        told := round.told ++ reached.map fun receiver => { receiver, id, content } }
    (state.emit (state.broadcastPacket runtime packet player .server),
      if reached = recipients then
        { told with
          bodies :=
            told.bodies ++ if speech.tellsSelf then [{ item, said := some content }] else [] }
      else { told with failed := true })
  else (state, { round with failed := true })

/-- `client.Send(packet)` -/
def tellSelf (item : Item) (content : Content) : ServerState × Round Item Content :=
  let receiver := speech.player item
  let id := speech.id state item
  (state.emit (state.sendPacket runtime receiver id (speech.packet content) .server),
    if (state.session receiver).socketConnected then
      { round with told := round.told ++ [{ receiver, id, content }] }
    else { round with failed := true })

/-- A body goes on to its next `await` or to its end. -/
def advance (index : Nat) : Option (ServerState × Round Item Content) :=
  match round.bodies[index]? with
  | none => none
  | some body =>
      let ended := { round with bodies := round.bodies.eraseIdx index }
      match body.said with
      | some content => some (ended.tellSelf speech runtime state body.item content)
      | none =>
          match speech.content state body.item with
          | none => some (state, { ended with failed := true })
          | some content =>
              if speech.checksConnected
                && !(state.session (speech.player body.item)).connected then
                some (state, ended)
              else some (ended.broadcast speech runtime state body.item content)

/-- A body that goes on does not throw. -/
def Speaks (index : Nat) : Prop :=
  ∀ body,
    round.bodies[index]? = some body
    → match body.said with
      | some _ => (state.session (speech.player body.item)).socketConnected = true
      | none =>
          ∃ content,
            speech.content state body.item = some content
            ∧ ((speech.checksConnected = true
                → (state.session (speech.player body.item)).connected = true)
              → (runtime.filled (speech.id state body.item) (speech.packet content)).2 = true
                ∧ ∀ client ∈ state.recipients (speech.player body.item),
                    (state.session client).socketConnected = true)

end Bodies

-----------------------------------------------------------------------------------------
-- Counts
-----------------------------------------------------------------------------------------

/-- The items that nothing was said of yet. -/
def waiting (opens : List Item) : List Item :=
  round.fixed ++ round.live.yet opens ++ round.bodies.filterMap Body.waiting

/-- The items whose client is still to be told itself, and what. -/
def halfway : List (Item × Content) := round.bodies.filterMap Body.halfway

/-- What was broadcast for clients of an Id. -/
def spokenOf (id : Guid) : List Content :=
  (round.spoken.filter fun spoken => spoken.id = id).map Spoken.content

/-- What a client was told of an Id. -/
def toldOf (receiver : SocketId) (id : Guid) : List Content :=
  (round.told.filter fun told => told.receiver = receiver ∧ told.id = id).map Told.content

end Round

/-- How many of the items are of clients of an Id. -/
def Speech.count {Item Content : Type} (speech : Speech Item Content) (state : ServerState)
    (id : Guid) (items : List Item)
    : Nat :=
  items.countP fun item => speech.id state item = id

/-- Each client that has been there since the round began is spoken of in one item: it waits, or
it was spoken of once, which each other one was told once, and in the end itself.
-/
structure Round.Sound {Item Content : Type} (speech : Speech Item Content) (opens : List Item)
    (state : ServerState) (round : Round Item Content)
    : Prop where
  joined
    : ∀ item ∈ round.waiting opens ++ round.halfway.map Prod.fst,
        (state.session (speech.player item)).phase.fresh = false
  present
    : ∀ client ∈ round.present,
        client ∈ state.clients ∧ (state.session client).connected = true
  own
    : speech.checksConnected = true ∨ speech.tellsSelf = true
      → ∀ item ∈ round.waiting opens ++ round.halfway.map Prod.fst,
          ∀ client ∈ round.present,
            speech.id state item = (state.session client).id → speech.player item = client
  spokenOnce
    : ∀ client ∈ round.present,
        speech.count state (state.session client).id (round.waiting opens)
            + (round.spokenOf (state.session client).id).length
          = 1
  toldOnce
    : ∀ client ∈ round.present,
        ∀ other ∈ round.present,
          other ≠ client
          → speech.count state (state.session client).id (round.waiting opens)
              + (round.toldOf other (state.session client).id).length
            = 1
  selfOnce
    : speech.tellsSelf = true
      → ∀ client ∈ round.present,
          speech.count state (state.session client).id (round.waiting opens)
              + speech.count state (state.session client).id (round.halfway.map Prod.fst)
              + (round.toldOf client (state.session client).id).length
            = 1
  faithful : ∀ told ∈ round.told, told.content ∈ round.spokenOf told.id
  halves
    : ∀ half ∈ round.halfway,
        half.2 ∈ round.spokenOf (speech.id state half.1) ∧ speech.tellsSelf = true
  apart
    : ∀ told ∈ round.told,
        (state.session told.receiver).phase.fresh = false
        ∧ (speech.tellsSelf = false → (state.session told.receiver).id ≠ told.id)

namespace Round

variable {Item Content : Type} {speech : Speech Item Content} {runtime : Runtime}
  {opens : List Item} {state after : ServerState} {round next : Round Item Content}

-----------------------------------------------------------------------------------------
-- Bodies that go on
-----------------------------------------------------------------------------------------

/-- What a body does that does not throw: it tells its client, it finds the client not connected,
or it tells the others. The other bodies are in `rest`.
-/
inductive Advance (speech : Speech Item Content) (runtime : Runtime) (state : ServerState)
    (round : Round Item Content) (item : Item) (rest : List (Body Item Content))
    : Option Content → ServerState × Round Item Content → Prop
  | tellsSelf (content : Content)
    : Advance speech runtime state round item rest (some content)
        (state.emit
          (state.sendPacket runtime (speech.player item) (speech.id state item)
            (speech.packet content) .server),
          { round with
            bodies := rest
            told :=
              round.told
                ++ [{ receiver := speech.player item, id := speech.id state item, content }] })
  | skips (checks : speech.checksConnected = true)
    (gone : (state.session (speech.player item)).connected = false)
    : Advance speech runtime state round item rest none (state, { round with bodies := rest })
  | speaks (content : Content) (found : speech.content state item = some content)
    (checks
      : speech.checksConnected = true → (state.session (speech.player item)).connected = true)
    : Advance speech runtime state round item rest none
        (state.emit
          (state.broadcastPacket runtime (speech.packet content) (speech.player item) .server),
          { round with
            bodies := rest ++ if speech.tellsSelf then [{ item, said := some content }] else []
            spoken :=
              round.spoken
                ++ [{ player := speech.player item
                      name := state.name (speech.player item)
                      id := speech.id state item
                      content }]
            told :=
              round.told
                ++ (state.recipients (speech.player item)).map fun receiver =>
                    { receiver, id := speech.id state item, content } })

theorem advance_cases {index : Nat} (speaks : round.Speaks speech runtime state index)
    (taken : round.advance speech runtime state index = some (after, next))
    : ∃ body,
        round.bodies[index]? = some body
        ∧ Advance speech runtime state round body.item (round.bodies.eraseIdx index) body.said
            (after, next) := by
  unfold advance at taken
  split at taken
  · cases taken
  · next body found =>
      refine ⟨body, found, ?_⟩
      have goesOn := speaks body found
      obtain ⟨item, said⟩ := body
      cases said with
      | some content =>
          have isOpen : (state.session (speech.player item)).socketConnected = true := goesOn
          simp only [Option.some.injEq, tellSelf, isOpen, if_true] at taken
          rw [← taken]
          exact .tellsSelf content
      | none =>
          obtain ⟨content, found, completes⟩ := goesOn
          simp only [found] at taken
          split_ifs at taken with gone
          · obtain ⟨checks, gone⟩ := Bool.and_eq_true_iff.mp gone
            rw [← Option.some.inj taken]
            exact .skips checks (by simpa using gone)
          · have checks : speech.checksConnected = true
                → (state.session (speech.player item)).connected = true := by
              intro checks
              simpa [checks] using gone
            obtain ⟨fits, opens⟩ := completes checks
            have fits : (runtime.filled (speech.id state item) (speech.packet content)).2 = true :=
              fits
            have all : (state.recipients (speech.player item)).filter
                  (fun client => (state.session client).socketConnected)
                = state.recipients (speech.player item) :=
              List.filter_eq_self.mpr opens
            simp only [Option.some.injEq, broadcast, fits, all, if_true] at taken
            rw [← taken]
            exact .speaks content found checks

/-- A body behind which a round goes on has not thrown. -/
theorem speaks_of_going {index : Nat} (goes : next.failed = false)
    (taken : round.advance speech runtime state index = some (after, next))
    : round.Speaks speech runtime state index := by
  intro body found
  simp only [advance, found] at taken
  obtain ⟨item, said⟩ := body
  cases said with
  | some content =>
      simp only [Option.some.injEq, tellSelf] at taken
      split_ifs at taken with isOpen
      · exact isOpen
      · rw [← (Prod.mk.inj taken).2] at goes
        cases goes
  | none =>
      cases what : speech.content state item with
      | none =>
          simp only [what, Option.some.injEq] at taken
          rw [← (Prod.mk.inj taken).2] at goes
          cases goes
      | some content =>
          refine ⟨content, rfl, fun checks => ?_⟩
          have there : ¬(speech.checksConnected
              && !(state.session (speech.player item)).connected) = true := by
            intro gone
            obtain ⟨checked, gone⟩ := Bool.and_eq_true_iff.mp gone
            rw [checks checked] at gone
            cases gone
          simp only [what, if_neg there, Option.some.injEq, broadcast] at taken
          split_ifs at taken with fits all tells
          · exact ⟨fits, List.filter_eq_self.mp all⟩
          · exact ⟨fits, List.filter_eq_self.mp all⟩
          · rw [← (Prod.mk.inj taken).2] at goes
            cases goes
          · rw [← (Prod.mk.inj taken).2] at goes
            cases goes

/-- What a body that does not throw leaves of a round. -/
theorem advance_rest {index : Nat} (speaks : round.Speaks speech runtime state index)
    (taken : round.advance speech runtime state index = some (after, next))
    : next.present = round.present
      ∧ next.fixed = round.fixed
      ∧ next.live = round.live
      ∧ next.failed = round.failed := by
  obtain ⟨body, -, advance⟩ := advance_cases speaks taken
  generalize said : body.said = before at advance
  cases advance <;> exact ⟨rfl, rfl, rfl, rfl⟩

/-- Only a body that throws fails a round. -/
theorem failed_advance_iff {index : Nat}
    (taken : round.advance speech runtime state index = some (after, next))
    : next.failed = false
      ↔ round.failed = false ∧ round.Speaks speech runtime state index := by
  constructor
  · intro goes
    have speaks := speaks_of_going goes taken
    exact ⟨(advance_rest speaks taken).2.2.2 ▸ goes, speaks⟩
  · rintro ⟨going, speaks⟩
    exact (advance_rest speaks taken).2.2.2.trans going

/-- What a body notes as told is what it writes to the sockets. -/
def Notes (speech : Speech Item Content) (runtime : Runtime) (state : ServerState)
    (round : Round Item Content) (result : ServerState × Round Item Content)
    : Prop :=
  ∃ told,
    result.2.told = round.told ++ told
    ∧ result.1.sent
      = state.sent
        ++ told.map fun told =>
            { socket := told.receiver
              data := runtime.typedFrame told.id (speech.packet told.content)
              cause := .server }

theorem Notes.nothing (same : next.told = round.told)
    : round.Notes speech runtime state (state, next) :=
  ⟨[], same.trans (List.append_nil _).symm, (List.append_nil _).symm⟩

theorem broadcast_notes (item : Item) (content : Content)
    : round.Notes speech runtime state (round.broadcast speech runtime state item content) := by
  have writes
      (fits
        : (runtime.filled (speech.id state item) (speech.packet content)).2 = true)
      : state.broadcastPacket runtime (speech.packet content) (speech.player item) .server
        = ((state.recipients (speech.player item)).filter
            fun client => (state.session client).socketConnected).map fun receiver =>
              { socket := receiver
                data := runtime.typedFrame (speech.id state item) (speech.packet content)
                cause := .server } := by
    rw [ServerState.broadcastPacket_eq .server fits]
    induction state.recipients (speech.player item) with
    | nil => rfl
    | cons receiver rest ih =>
        rw [List.flatMap_cons, ih, List.filter_cons, ServerState.sendPacket, ServerState.write]
        split_ifs <;> rfl
  unfold broadcast
  dsimp only
  by_cases fits : (runtime.filled (speech.id state item) (speech.packet content)).2 = true
  · rw [if_pos fits]
    refine ⟨((state.recipients (speech.player item)).filter
        fun client => (state.session client).socketConnected).map fun receiver =>
          Told.mk receiver (speech.id state item) content, ?_, ?_⟩
    · split_ifs <;> rfl
    · rw [ServerState.emit, writes fits, List.map_map]
      rfl
  · rw [if_neg fits]
    exact .nothing rfl

theorem tellSelf_notes (item : Item) (content : Content)
    : round.Notes speech runtime state (round.tellSelf speech runtime state item content) := by
  unfold tellSelf ServerState.sendPacket ServerState.write
  dsimp only
  split_ifs
  · exact ⟨_, rfl, rfl⟩
  · exact ⟨[], (List.append_nil _).symm, rfl⟩

theorem advance_notes {index : Nat} {result : ServerState × Round Item Content}
    (taken : round.advance speech runtime state index = some result)
    : round.Notes speech runtime state result := by
  unfold advance at taken
  dsimp only at taken
  split at taken
  · cases taken
  · split at taken
    · obtain rfl := Option.some.inj taken
      exact tellSelf_notes _ _
    · split at taken
      · obtain rfl := Option.some.inj taken
        exact .nothing rfl
      · split_ifs at taken
        · obtain rfl := Option.some.inj taken
          exact .nothing rfl
        · obtain rfl := Option.some.inj taken
          exact broadcast_notes _ _

/-- A body only writes. -/
theorem advance_quiet {index : Nat}
    (taken : round.advance speech runtime state index = some (after, next))
    : Quiet state after := by
  unfold advance at taken
  dsimp only at taken
  split at taken
  · cases taken
  · split at taken
    · obtain rfl := (Prod.mk.inj (Option.some.inj taken)).1
      exact .of_session_eq rfl rfl rfl rfl rfl
    · split at taken
      · obtain rfl := (Prod.mk.inj (Option.some.inj taken)).1
        exact .refl state
      · split_ifs at taken
        · obtain rfl := (Prod.mk.inj (Option.some.inj taken)).1
          exact .refl state
        · rw [broadcast] at taken
          dsimp only at taken
          split_ifs at taken
          all_goals
            obtain rfl := (Prod.mk.inj (Option.some.inj taken)).1
            exact .of_session_eq rfl rfl rfl rfl rfl

-----------------------------------------------------------------------------------------
-- Counts after a body
-----------------------------------------------------------------------------------------

theorem count_cons (item : Item) (id : Guid) (items : List Item)
    : speech.count state id (item :: items)
      = speech.count state id items + if speech.id state item = id then 1 else 0 := by
  simp only [Speech.count, List.countP_cons, decide_eq_true_eq]

theorem count_append (id : Guid) (left right : List Item)
    : speech.count state id (left ++ right)
      = speech.count state id left + speech.count state id right :=
  List.countP_append

theorem count_perm {left right : List Item} (id : Guid) (same : left.Perm right)
    : speech.count state id left = speech.count state id right :=
  same.countP_eq _

/-- A body among the others. -/
theorem bodies_perm {index : Nat} {body : Body Item Content}
    (found : round.bodies[index]? = some body)
    : round.bodies.Perm (body :: round.bodies.eraseIdx index) := by
  obtain ⟨inside, rfl⟩ := List.getElem?_eq_some_iff.mp found
  exact (List.getElem_cons_eraseIdx_perm inside).symm

/-- One item fewer waits where a body has spoken. -/
theorem waiting_perm {index : Nat} {item : Item}
    (found : round.bodies[index]? = some { item })
    : (round.waiting opens).Perm
        (item :: { round with bodies := round.bodies.eraseIdx index }.waiting opens) := by
  have bodies := (bodies_perm found).filterMap Body.waiting
  exact (bodies.append_left _).trans List.perm_middle

theorem halfway_perm {index : Nat} {item : Item} {content : Content}
    (found : round.bodies[index]? = some { item, said := some content })
    : round.halfway.Perm
        ((item, content) :: { round with bodies := round.bodies.eraseIdx index }.halfway) :=
  (bodies_perm found).filterMap Body.halfway

/-- What was said of an Id was said of a client that had it. -/
theorem exists_spoken {id : Guid} {content : Content} (said : content ∈ round.spokenOf id)
    : ∃ spoken ∈ round.spoken, spoken.id = id ∧ spoken.content = content := by
  obtain ⟨spoken, member, same⟩ := List.mem_map.mp said
  obtain ⟨entry, of⟩ := List.mem_filter.mp member
  exact ⟨spoken, entry, of_decide_eq_true of, same⟩

theorem exists_told {receiver : SocketId} {id : Guid} {content : Content}
    (heard : content ∈ round.toldOf receiver id)
    : Told.mk receiver id content ∈ round.told := by
  obtain ⟨told, member, rfl⟩ := List.mem_map.mp heard
  obtain ⟨entry, of⟩ := List.mem_filter.mp member
  obtain ⟨rfl, rfl⟩ := of_decide_eq_true of
  exact entry

-----------------------------------------------------------------------------------------
-- What keeps a round sound
-----------------------------------------------------------------------------------------

/-- What was written to others' sockets is nothing to a round. -/
theorem Sound.emit (sound : round.Sound speech opens state) (writes : List Sent)
    : round.Sound speech opens (state.emit writes) :=
  ⟨sound.joined, sound.present, sound.own, sound.spokenOnce, sound.toldOnce, sound.selfOnce,
    sound.faithful, sound.halves, sound.apart⟩

/-- Items go from an enumerator to a body. -/
theorem Sound.regroup {opens' : List Item} (sound : round.Sound speech opens state)
    (waiting : (next.waiting opens').Perm (round.waiting opens))
    (halfway : next.halfway = round.halfway) (present : next.present = round.present)
    (spoken : next.spoken = round.spoken) (told : next.told = round.told)
    : next.Sound speech opens' state := by
  have items : (next.waiting opens' ++ next.halfway.map Prod.fst).Perm
      (round.waiting opens ++ round.halfway.map Prod.fst) := by
    rw [halfway]
    exact waiting.append_right _
  have spokenOf (id : Guid) : next.spokenOf id = round.spokenOf id := by
    rw [Round.spokenOf, Round.spokenOf, spoken]
  have toldOf (receiver : SocketId) (id : Guid)
      : next.toldOf receiver id = round.toldOf receiver id := by
    rw [Round.toldOf, Round.toldOf, told]
  constructor
  · intro item member
    exact sound.joined item (items.mem_iff.mp member)
  · rw [present]
    exact sound.present
  · intro checks item member
    rw [present]
    exact sound.own checks item (items.mem_iff.mp member)
  · intro client member
    rw [count_perm _ waiting, spokenOf]
    exact sound.spokenOnce client (present ▸ member)
  · intro client member other otherMember
    rw [count_perm _ waiting, toldOf]
    exact sound.toldOnce client (present ▸ member) other (present ▸ otherMember)
  · intro tells client member
    rw [count_perm _ waiting, toldOf, halfway]
    exact sound.selfOnce tells client (present ▸ member)
  · intro entry member
    rw [spokenOf]
    exact sound.faithful entry (told ▸ member)
  · intro half member
    rw [spokenOf]
    exact sound.halves half (halfway ▸ member)
  · intro entry member
    exact sound.apart entry (told ▸ member)

/-- The item of a body that was just started waits. -/
theorem waiting_begin (front : List Item) (bodies : List (Body Item Content)) (item : Item)
    : (front ++ (bodies ++ [Body.mk item none]).filterMap Body.waiting).Perm
        (item :: (front ++ bodies.filterMap Body.waiting)) := by
  rw [List.filterMap_append, ← List.append_assoc]
  exact List.perm_append_singleton _ _

theorem halfway_begin (bodies : List (Body Item Content)) (item : Item)
    : (bodies ++ [Body.mk item none]).filterMap Body.halfway = bodies.filterMap Body.halfway := by
  rw [List.filterMap_append]
  exact List.append_nil _

/-- The enumerator of the array hands an item over to a body. -/
theorem nextFixed_items (taken : round.nextFixed = some next)
    : (next.waiting opens).Perm (round.waiting opens) ∧ next.halfway = round.halfway := by
  unfold Round.nextFixed at taken
  split at taken
  · cases taken
  · next item fixed more =>
      obtain rfl := Option.some.inj taken
      refine ⟨?_, halfway_begin round.bodies item⟩
      rw [waiting, waiting, more]
      exact waiting_begin _ round.bodies item

/-- What the enumerator of the array leaves of a round. -/
theorem nextFixed_rest (taken : round.nextFixed = some next)
    : next.present = round.present
      ∧ next.spoken = round.spoken
      ∧ next.told = round.told
      ∧ next.failed = round.failed := by
  unfold Round.nextFixed at taken
  split at taken
  · cases taken
  · obtain rfl := Option.some.inj taken
    exact ⟨rfl, rfl, rfl, rfl⟩

theorem Sound.nextFixed (sound : round.Sound speech opens state)
    (taken : round.nextFixed = some next)
    : next.Sound speech opens state := by
  obtain ⟨waiting, halfway⟩ := @nextFixed_items _ _ opens _ _ taken
  obtain ⟨present, spoken, told, _⟩ := nextFixed_rest taken
  exact sound.regroup waiting halfway present spoken told

/-- `MoveNext` makes the enumerator or hands an item over to a body. -/
theorem moveNext_items (taken : round.moveNext opens = some next)
    : (next.waiting opens).Perm (round.waiting opens) ∧ next.halfway = round.halfway := by
  unfold Round.moveNext at taken
  split at taken
  · next unopened =>
      obtain rfl := Option.some.inj taken
      refine ⟨?_, rfl⟩
      rw [waiting, waiting, unopened]
      exact .refl _
  · obtain rfl := Option.some.inj taken
    exact ⟨.refl _, rfl⟩
  · next last =>
      obtain rfl := Option.some.inj taken
      refine ⟨?_, rfl⟩
      rw [waiting, waiting, last]
      exact .refl _
  · next item yet more =>
      obtain rfl := Option.some.inj taken
      refine ⟨?_, halfway_begin round.bodies item⟩
      rw [waiting, waiting, more]
      have moved : (item :: (round.fixed ++ yet)).Perm (round.fixed ++ item :: yet) :=
        List.perm_middle.symm
      exact (waiting_begin _ round.bodies item).trans (moved.append_right _)
  · cases taken

/-- What `MoveNext` leaves of a round. -/
theorem moveNext_rest (taken : round.moveNext opens = some next)
    : next.present = round.present
      ∧ next.spoken = round.spoken
      ∧ next.told = round.told
      ∧ next.live ≠ .unopened := by
  unfold Round.moveNext at taken
  split at taken
  · obtain rfl := Option.some.inj taken
    exact ⟨rfl, rfl, rfl, nofun⟩
  · next stale =>
      obtain rfl := Option.some.inj taken
      refine ⟨rfl, rfl, rfl, ?_⟩
      rw [stale]
      exact nofun
  · obtain rfl := Option.some.inj taken
    exact ⟨rfl, rfl, rfl, nofun⟩
  · obtain rfl := Option.some.inj taken
    exact ⟨rfl, rfl, rfl, nofun⟩
  · cases taken

theorem Sound.moveNext (sound : round.Sound speech opens state)
    (taken : round.moveNext opens = some next)
    : next.Sound speech opens state := by
  obtain ⟨waiting, halfway⟩ := moveNext_items taken
  obtain ⟨present, spoken, told, _⟩ := moveNext_rest taken
  exact sound.regroup waiting halfway present spoken told

/-- `MoveNext` throws where the table was changed since the enumerator was made. -/
theorem failed_moveNext_iff (taken : round.moveNext opens = some next)
    : next.failed = false
      ↔ round.failed = false ∧ ∀ yet, round.live ≠ .remaining yet true := by
  unfold Round.moveNext at taken
  split at taken
  · next unopened =>
      obtain rfl := Option.some.inj taken
      simp [unopened]
  · next yet stale =>
      obtain rfl := Option.some.inj taken
      simp [stale]
  · next last =>
      obtain rfl := Option.some.inj taken
      simp [last]
  · next item yet more =>
      obtain rfl := Option.some.inj taken
      simp [more]
  · cases taken

/-- An item fewer waits; of clients of other Ids as many as before. -/
theorem count_waiting {index : Nat} {item : Item}
    (found : round.bodies[index]? = some ⟨item, none⟩) (id : Guid)
    : speech.count state id (round.waiting opens)
      = speech.count state id
            ({ round with bodies := round.bodies.eraseIdx index }.waiting opens)
          + if speech.id state item = id then 1 else 0 := by
  rw [count_perm id (waiting_perm found), count_cons]

/-- A body that has broadcast does not wait, it is halfway if its client is still to be told. -/
theorem filterMap_waiting_said (bodies : List (Body Item Content)) (item : Item)
    (content : Content) (tells : Bool)
    : (bodies ++ if tells then [Body.mk item (some content)] else []).filterMap Body.waiting
      = bodies.filterMap Body.waiting := by
  cases tells <;> simp [Body.waiting]

theorem filterMap_halfway_said (bodies : List (Body Item Content)) (item : Item)
    (content : Content) (tells : Bool)
    : (bodies ++ if tells then [Body.mk item (some content)] else []).filterMap Body.halfway
      = bodies.filterMap Body.halfway ++ if tells then [(item, content)] else [] := by
  rw [List.filterMap_append]
  cases tells <;> rfl

/-- A body that goes on starts no other. -/
theorem advance_waiting {index : Nat} (speaks : round.Speaks speech runtime state index)
    (taken : round.advance speech runtime state index = some (after, next))
    : next.waiting opens ⊆ round.waiting opens := by
  obtain ⟨⟨item, said⟩, found, advance⟩ := advance_cases speaks taken
  have rest : { round with bodies := round.bodies.eraseIdx index }.waiting opens
      ⊆ round.waiting opens := by
    refine List.append_subset.mpr
      ⟨List.subset_append_left _ _, List.subset_append_of_subset_right _ ?_⟩
    exact ((List.eraseIdx_sublist _ _).filterMap _).subset
  cases advance with
  | tellsSelf content => exact rest
  | skips checks gone => exact rest
  | speaks content what checks =>
      refine List.Subset.trans ?_ rest
      rw [waiting, filterMap_waiting_said]
      exact List.Subset.refl _

/-- A body whose client is gone is of no client that has been there. -/
theorem Sound.skip (sound : round.Sound speech opens state) {index : Nat} {item : Item}
    (found : round.bodies[index]? = some ⟨item, none⟩) (checks : speech.checksConnected = true)
    (gone : (state.session (speech.player item)).connected = false)
    : { round with bodies := round.bodies.eraseIdx index }.Sound speech opens state := by
  have waits := @waiting_perm _ _ opens _ _ _ found
  have halfway
      : { round with bodies := round.bodies.eraseIdx index }.halfway.Perm round.halfway :=
    ((bodies_perm found).filterMap Body.halfway).symm
  have subset
      : { round with bodies := round.bodies.eraseIdx index }.waiting opens
            ++ { round with bodies := round.bodies.eraseIdx index }.halfway.map Prod.fst
        ⊆ round.waiting opens ++ round.halfway.map Prod.fst :=
    List.append_subset.mpr
      ⟨List.subset_append_of_subset_left _
          (List.Subset.trans (List.subset_cons_self _ _) waits.symm.subset),
        List.subset_append_of_subset_right _ (halfway.map Prod.fst).subset⟩
  have count {client : SocketId} (member : client ∈ round.present)
      : speech.count state (state.session client).id
            ({ round with bodies := round.bodies.eraseIdx index }.waiting opens)
        = speech.count state (state.session client).id (round.waiting opens) := by
    have apart : speech.id state item ≠ (state.session client).id := by
      intro same
      have itself := sound.own (.inl checks) item
        (List.mem_append_left _ (waits.symm.subset List.mem_cons_self)) client member same
      rw [itself, (sound.present client member).2] at gone
      cases gone
    rw [count_waiting found, if_neg apart, Nat.add_zero]
  refine ⟨fun other member => sound.joined other (subset member), sound.present,
    fun either other member => sound.own either other (subset member), ?_, ?_, ?_, sound.faithful,
    fun half member => sound.halves half (halfway.subset member), sound.apart⟩
  · intro client member
    rw [count member]
    exact sound.spokenOnce client member
  · intro client member
    rw [count member]
    exact sound.toldOnce client member
  · intro tells client member
    rw [count member, count_perm _ (halfway.map Prod.fst)]
    exact sound.selfOnce tells client member

/-- The others that have been there are recipients, each once. -/
theorem count_recipients (tidy : Tidy state) {client other player : SocketId}
    (entry : client ∈ state.clients) (otherEntry : other ∈ state.clients)
    (connected : (state.session other).connected = true)
    (same : (state.session player).id = (state.session client).id) (apart : other ≠ client)
    : (state.recipients player).count other = 1 := by
  apply List.nodup_iff_count_eq_one.mp (ServerState.recipients_nodup tidy player)
  refine ServerState.mem_recipients.mpr ⟨otherEntry, connected, fun own => apart ?_⟩
  exact tidy.distinct other otherEntry client entry (own.trans same)

/-- What was said of the clients of an Id, with one more broadcast. -/
theorem spokenOf_said {said : Spoken Content} (spoken : next.spoken = round.spoken ++ [said])
    (id : Guid)
    : next.spokenOf id
      = round.spokenOf id ++ if said.id = id then [said.content] else [] := by
  rw [Round.spokenOf, spoken, List.filter_append, List.map_append]
  by_cases same : said.id = id <;> simp [same, Round.spokenOf]

/-- How often a client was told of an Id, once more receivers were told something. -/
theorem length_toldOf {receivers : List SocketId} {id : Guid} {content : Content}
    (told
      : next.told = round.told ++ receivers.map fun receiver => Told.mk receiver id content)
    (receiver : SocketId) (other : Guid)
    : (next.toldOf receiver other).length
      = (round.toldOf receiver other).length
        + if id = other then receivers.count receiver else 0 := by
  rw [Round.toldOf, told, List.filter_append, List.map_append, List.length_append]
  refine congrArg _ ?_
  rw [List.length_map, List.filter_map, List.length_map, ← List.countP_eq_length_filter,
    List.count]
  split_ifs with same
  · refine List.countP_congr fun other _ => ?_
    simp [same]
  · refine List.countP_eq_zero.mpr fun other _ => ?_
    simp [same]

/-- A body that has broadcast stands for the item that waited, if for any. -/
theorem unsaid_subset {index : Nat} {item : Item} {content : Content} {tells : Bool}
    {halves : List (Item × Content)} (found : round.bodies[index]? = some ⟨item, none⟩)
    (halfway : halves.Perm (round.halfway ++ if tells then [(item, content)] else []))
    : { round with bodies := round.bodies.eraseIdx index }.waiting opens ++ halves.map Prod.fst
      ⊆ round.waiting opens ++ round.halfway.map Prod.fst := by
  have waits := @waiting_perm _ _ opens _ _ _ found
  refine List.append_subset.mpr ⟨?_, fun other member => ?_⟩
  · exact List.subset_append_of_subset_left _
      (List.Subset.trans (List.subset_cons_self _ _) waits.symm.subset)
  · have split := (halfway.map Prod.fst).subset member
    rw [List.map_append] at split
    rcases List.mem_append.mp split with before | new
    · exact List.mem_append_right _ before
    · cases tells with
      | false => cases new
      | true =>
          obtain rfl := List.mem_singleton.mp new
          exact List.mem_append_left _ (waits.symm.subset List.mem_cons_self)

/-- The others are told once of the client of a body that waited. -/
theorem Sound.speak (tidy : Tidy state) (sound : round.Sound speech opens state) {index : Nat}
    {item : Item} (found : round.bodies[index]? = some ⟨item, none⟩) (content : Content)
    : { round with
        bodies :=
          round.bodies.eraseIdx index
            ++ if speech.tellsSelf then [Body.mk item (some content)] else []
        spoken :=
          round.spoken
            ++ [Spoken.mk (speech.player item) (state.name (speech.player item))
                (speech.id state item) content]
        told :=
          round.told
            ++ (state.recipients (speech.player item)).map fun receiver =>
                Told.mk receiver (speech.id state item) content }.Sound speech opens state := by
  generalize made : ({ round with bodies := _, spoken := _, told := _ } : Round _ _) = after
  have spokenOf (other : Guid)
      : after.spokenOf other
        = round.spokenOf other ++ if speech.id state item = other then [content] else [] := by
    have spoken
        : after.spoken
          = round.spoken
            ++ [Spoken.mk (speech.player item) (state.name (speech.player item))
                (speech.id state item) content] := by
      subst made
      rfl
    exact spokenOf_said spoken other
  have toldOf (receiver : SocketId) (other : Guid)
      : (after.toldOf receiver other).length
        = (round.toldOf receiver other).length
          + if speech.id state item = other then
              (state.recipients (speech.player item)).count receiver
            else 0 := by
    subst made
    exact length_toldOf rfl receiver other
  have waiting
      : after.waiting opens
        = { round with bodies := round.bodies.eraseIdx index }.waiting opens := by
    subst made
    exact congrArg _ (filterMap_waiting_said _ item content _)
  have halfway
      : after.halfway.Perm
          (round.halfway ++ if speech.tellsSelf then [(item, content)] else []) := by
    subst made
    rw [Round.halfway, filterMap_halfway_said]
    exact ((bodies_perm found).filterMap Body.halfway).symm.append_right _
  have present : after.present = round.present := by
    subst made
    rfl
  have count (id : Guid)
      : speech.count state id (round.waiting opens)
        = speech.count state id (after.waiting opens)
          + if speech.id state item = id then 1 else 0 := by
    rw [waiting]
    exact count_waiting found id
  have subset
      : after.waiting opens ++ after.halfway.map Prod.fst
        ⊆ round.waiting opens ++ round.halfway.map Prod.fst := by
    rw [waiting]
    exact unsaid_subset found halfway
  refine ⟨fun other member => sound.joined other (subset member), ?_, ?_, ?_, ?_, ?_, ?_, ?_, ?_⟩
  · rw [present]
    exact sound.present
  · rw [present]
    exact fun either other member => sound.own either other (subset member)
  · intro client member
    have once := sound.spokenOnce client (present ▸ member)
    rw [count] at once
    rw [spokenOf, List.length_append]
    split_ifs at once ⊢ <;> simp <;> omega
  · intro client member other otherMember apart
    have once := sound.toldOnce client (present ▸ member) other (present ▸ otherMember) apart
    rw [count] at once
    rw [toldOf]
    split_ifs at once ⊢ with same
    · have reached := @count_recipients state tidy client other (speech.player item)
        (sound.present client (present ▸ member)).1 (sound.present other (present ▸ otherMember)).1
        (sound.present other (present ▸ otherMember)).2 same apart
      omega
    · omega
  · intro tells client member
    have once := sound.selfOnce tells client (present ▸ member)
    rw [count] at once
    have apart (same : speech.id state item = (state.session client).id)
        : (state.recipients (speech.player item)).count client = 0 := by
      apply List.count_eq_zero_of_not_mem
      exact fun recipient => (ServerState.mem_recipients.mp recipient).2.2 same.symm
    rw [toldOf, count_perm _ (halfway.map Prod.fst), List.map_append, count_append, tells,
      if_pos rfl, List.map_singleton, count_cons]
    split_ifs at once ⊢ with same
    · have none := apart same
      simp only [Speech.count, List.countP_nil] at once ⊢
      omega
    · simp only [Speech.count, List.countP_nil] at once ⊢
      omega
  · intro told member
    rw [spokenOf]
    subst made
    rcases List.mem_append.mp member with before | new
    · exact List.mem_append_left _ (sound.faithful told before)
    · obtain ⟨receiver, _, rfl⟩ := List.mem_map.mp new
      simp
  · intro half member
    rw [spokenOf]
    rcases List.mem_append.mp (halfway.subset member) with before | new
    · obtain ⟨said, tells⟩ := sound.halves half before
      exact ⟨List.mem_append_left _ said, tells⟩
    · cases tells : speech.tellsSelf with
      | false => simp [tells] at new
      | true =>
          simp only [tells, if_true, List.mem_singleton] at new
          subst new
          simp
  · intro told member
    subst made
    rcases List.mem_append.mp member with before | new
    · exact sound.apart told before
    · obtain ⟨receiver, recipient, rfl⟩ := List.mem_map.mp new
      obtain ⟨entry, _, apart⟩ := ServerState.mem_recipients.mp recipient
      exact ⟨tidy.joined_of_mem entry, fun _ => apart⟩

/-- The client of a body that has spoken is told itself. -/
theorem Sound.tell (sound : round.Sound speech opens state) {index : Nat} {item : Item}
    {content : Content} (found : round.bodies[index]? = some ⟨item, some content⟩)
    : { round with
        bodies := round.bodies.eraseIdx index
        told := round.told ++ [Told.mk (speech.player item) (speech.id state item) content] }.Sound
          speech opens state := by
  generalize made : ({ round with bodies := _, told := _ } : Round _ _) = after
  have half : (item, content) ∈ round.halfway :=
    (halfway_perm found).symm.subset List.mem_cons_self
  obtain ⟨said, tells⟩ := sound.halves _ half
  have waiting : (after.waiting opens).Perm (round.waiting opens) := by
    subst made
    exact (((bodies_perm found).filterMap Body.waiting).append_left _).symm
  have halfway : round.halfway.Perm ((item, content) :: after.halfway) := by
    subst made
    exact halfway_perm found
  have toldOf (receiver : SocketId) (id : Guid)
      : (after.toldOf receiver id).length
        = (round.toldOf receiver id).length
          + if speech.id state item = id then [speech.player item].count receiver else 0 := by
    subst made
    exact @length_toldOf _ _ _ _ [speech.player item] _ content rfl receiver id
  have present : after.present = round.present := by
    subst made
    rfl
  have subset
      : after.waiting opens ++ after.halfway.map Prod.fst
        ⊆ round.waiting opens ++ round.halfway.map Prod.fst := by
    refine List.append_subset.mpr
      ⟨List.subset_append_of_subset_left _ waiting.subset,
        List.subset_append_of_subset_right _ ?_⟩
    exact List.Subset.trans (List.subset_cons_self _ _) (halfway.map Prod.fst).symm.subset
  have own {client : SocketId} (member : client ∈ round.present)
      (same : speech.id state item = (state.session client).id)
      : speech.player item = client :=
    sound.own (.inr tells) item
      (List.mem_append_right _ (List.mem_map_of_mem half)) client member same
  refine ⟨fun other member => sound.joined other (subset member), ?_, ?_, ?_, ?_, ?_, ?_, ?_, ?_⟩
  · rw [present]
    exact sound.present
  · rw [present]
    exact fun either other member => sound.own either other (subset member)
  · intro client member
    subst made
    rw [count_perm _ waiting]
    exact sound.spokenOnce client member
  · intro client member other otherMember apart
    have once := sound.toldOnce client (present ▸ member) other (present ▸ otherMember) apart
    rw [count_perm _ waiting, toldOf]
    split_ifs with same
    · rw [own (present ▸ member) same, List.count_singleton, if_neg (by simpa using apart.symm)]
      exact once
    · exact once
  · intro _ client member
    have once := sound.selfOnce tells client (present ▸ member)
    rw [count_perm _ (halfway.map Prod.fst), List.map_cons, count_cons] at once
    rw [count_perm _ waiting, toldOf]
    split_ifs at once ⊢ with same
    · rw [own (present ▸ member) same, List.count_singleton, if_pos (by simp)]
      omega
    · omega
  · intro told member
    subst made
    rcases List.mem_append.mp member with before | new
    · exact sound.faithful told before
    · obtain rfl := List.mem_singleton.mp new
      exact said
  · intro other member
    have before := sound.halves other (halfway.symm.subset (List.mem_cons_of_mem _ member))
    subst made
    exact before
  · intro told member
    subst made
    rcases List.mem_append.mp member with before | new
    · exact sound.apart told before
    · obtain rfl := List.mem_singleton.mp new
      refine ⟨sound.joined item (List.mem_append_right _ (List.mem_map_of_mem half)), ?_⟩
      rw [tells]
      exact fun never => absurd never.symm Bool.false_ne_true

/-- A body that goes on keeps a round sound. -/
theorem Sound.advance (tidy : Tidy state) (sound : round.Sound speech opens state) {index : Nat}
    (speaks : round.Speaks speech runtime state index)
    (taken : round.advance speech runtime state index = some (after, next))
    : next.Sound speech opens after := by
  obtain ⟨⟨item, said⟩, found, advance⟩ := advance_cases speaks taken
  cases advance with
  | tellsSelf content => exact (sound.tell found).emit _
  | skips checks gone => exact sound.skip found checks gone
  | speaks content _ _ => exact (sound.speak tidy found content).emit _

-----------------------------------------------------------------------------------------
-- Steps of the server
-----------------------------------------------------------------------------------------

/-- What a step of the server may do to the items of an enumerator that is not yet made. -/
structure Reopens (speech : Speech Item Content) (state server : ServerState)
    (opens opens' : List Item) (round : Round Item Content)
    : Prop where
  joined : ∀ item ∈ opens', (server.session (speech.player item)).phase.fresh = false
  own
    : speech.checksConnected = true ∨ speech.tellsSelf = true
      → ∀ item ∈ opens',
          ∀ client ∈ round.present,
            speech.id server item = (server.session client).id → speech.player item = client
  count
    : ∀ client ∈ round.present,
        client ∈ server.clients
        → speech.count server (server.session client).id opens'
          = speech.count state (state.session client).id opens

/-- The items of a round are those from before a step, unless the enumerator is not yet made. -/
theorem observe_waiting {server : ServerState} {opens' : List Item} {item : Item}
    (member : item ∈ (round.observe state server).waiting opens')
    : item ∈ round.waiting opens ∨ round.live = .unopened ∧ item ∈ opens' := by
  simp only [waiting, observe, List.mem_append] at member ⊢
  cases live : round.live <;> simp only [live, Enumeration.yet] at member ⊢ <;> tauto

/-- The Ids of items whose clients have joined do not change, nor do their counts. -/
theorem count_kept {event : Event} {server : ServerState} (tidy : Tidy state)
    (taken : state.step runtime event = some server) (items : List Item)
    (joined : ∀ item ∈ items, (state.session (speech.player item)).phase.fresh = false)
    (id : Guid)
    : speech.count server id items = speech.count state id items := by
  refine List.countP_congr fun item member => ?_
  have same : speech.id server item = speech.id state item :=
    (ServerState.joined_kept tidy taken (joined item member)).2
  rw [same]

/-- As many items are of a client that stays. -/
theorem count_observe {event : Event} {server : ServerState} {opens' : List Item}
    (tidy : Tidy state) (sound : round.Sound speech opens state)
    (taken : state.step runtime event = some server)
    (reopens : round.live = .unopened → Reopens speech state server opens opens' round)
    {client : SocketId} (member : client ∈ round.present) (stays : client ∈ server.clients)
    : speech.count server (server.session client).id
          ((round.observe state server).waiting opens')
      = speech.count state (state.session client).id (round.waiting opens) := by
  have joined (item : Item) (waits : item ∈ round.waiting opens) :=
    sound.joined item (List.mem_append_left _ waits)
  have id : (server.session client).id = (state.session client).id :=
    (ServerState.joined_kept tidy taken (tidy.joined_of_mem (sound.present client member).1)).2
  cases live : round.live with
  | unopened =>
      have kept (items : List Item) (within : items ⊆ round.waiting opens) :=
        count_kept tidy taken items (fun item waits => joined item (within waits))
          (server.session client).id
      have fixed := kept round.fixed (by simp [waiting])
      have bodies := kept (round.bodies.filterMap Body.waiting) (by simp [waiting])
      have opened := (reopens live).count client member stays
      simp only [waiting, observe, live, Enumeration.yet, count_append]
      rw [fixed, bodies, opened, id]
  | remaining yet stale =>
      have same : (round.observe state server).waiting opens' = round.waiting opens := by
        simp only [waiting, observe, live, Enumeration.yet]
      rw [same, count_kept tidy taken _ joined, id]
  | exhausted =>
      have same : (round.observe state server).waiting opens' = round.waiting opens := by
        simp only [waiting, observe, live, Enumeration.yet]
      rw [same, count_kept tidy taken _ joined, id]

/-- A step of the server keeps a round sound, if it keeps what a new enumerator would yield. -/
theorem Sound.observe {event : Event} {server : ServerState} {opens' : List Item}
    (tidy : Tidy state) (sound : round.Sound speech opens state)
    (taken : state.step runtime event = some server)
    (reopens : round.live = .unopened → Reopens speech state server opens opens' round)
    : (round.observe state server).Sound speech opens' server := by
  have subset : (round.observe state server).present ⊆ round.present :=
    List.filter_subset_self _
  have present (client : SocketId) (member : client ∈ (round.observe state server).present)
      : client ∈ server.clients ∧ (server.session client).connected = true := by
    have stays := (List.mem_filter.mp member).2
    rw [Bool.and_eq_true, decide_eq_true_eq] at stays
    exact stays
  have id {client : SocketId} (member : client ∈ round.present)
      : (server.session client).id = (state.session client).id :=
    (ServerState.joined_kept tidy taken (tidy.joined_of_mem (sound.present client member).1)).2
  have count {client : SocketId} (member : client ∈ (round.observe state server).present) :=
    count_observe tidy sound taken reopens (subset member) (present client member).1
  have items {item : Item}
      (member
        : item ∈ (round.observe state server).waiting opens'
            ++ (round.observe state server).halfway.map Prod.fst)
      : item ∈ round.waiting opens ++ round.halfway.map Prod.fst
        ∨ round.live = .unopened ∧ item ∈ opens' := by
    rcases List.mem_append.mp member with waits | half
    · exact (observe_waiting waits).imp_left (List.mem_append_left _)
    · exact .inl (List.mem_append_right _ half)
  have half (half : Item × Content) (member : half ∈ round.halfway)
      : (state.session (speech.player half.1)).phase.fresh = false :=
    sound.joined half.1 (List.mem_append_right _ (List.mem_map_of_mem member))
  refine ⟨?_, present, ?_, ?_, ?_, ?_, sound.faithful, ?_, ?_⟩
  · intro item member
    rcases items member with before | ⟨unopened, new⟩
    · exact (ServerState.joined_kept tidy taken (sound.joined item before)).1
    · exact (reopens unopened).joined item new
  · intro either item member client stays same
    rcases items member with before | ⟨unopened, new⟩
    · apply sound.own either item before client (subset stays)
      have kept := (ServerState.joined_kept tidy taken (sound.joined item before)).2
      exact (kept.symm.trans same).trans (id (subset stays))
    · exact (reopens unopened).own either item new client (subset stays) same
  · intro client member
    rw [count member, id (subset member)]
    exact sound.spokenOnce client (subset member)
  · intro client member other otherMember apart
    rw [count member, id (subset member)]
    exact sound.toldOnce client (subset member) other (subset otherMember) apart
  · intro tells client member
    have halves : speech.count server (server.session client).id (round.halfway.map Prod.fst)
        = speech.count state (state.session client).id (round.halfway.map Prod.fst) := by
      rw [id (subset member)]
      refine count_kept tidy taken _ (fun item member => ?_) _
      exact sound.joined item (List.mem_append_right _ member)
    have once := sound.selfOnce tells client (subset member)
    rw [← count member, ← halves, ← id (subset member)] at once
    exact once
  · intro entry member
    have said := sound.halves entry member
    have same : speech.id server entry.1 = speech.id state entry.1 :=
      (ServerState.joined_kept tidy taken (half entry member)).2
    rw [same]
    exact said
  · intro told member
    obtain ⟨joined, apart⟩ := sound.apart told member
    have kept := ServerState.joined_kept tidy taken joined
    rw [kept.2]
    exact ⟨kept.1, apart⟩

-----------------------------------------------------------------------------------------
-- Where rounds begin and end
-----------------------------------------------------------------------------------------

/-- A round that has items for each client that is there, one each, and has said nothing. -/
theorem Sound.begin (bodies : round.bodies = []) (spoken : round.spoken = [])
    (told : round.told = [])
    (joined
      : ∀ item ∈ round.waiting opens, (state.session (speech.player item)).phase.fresh = false)
    (present
      : ∀ client ∈ round.present,
          client ∈ state.clients ∧ (state.session client).connected = true)
    (own
      : speech.checksConnected = true ∨ speech.tellsSelf = true
        → ∀ item ∈ round.waiting opens,
            ∀ client ∈ round.present,
              speech.id state item = (state.session client).id → speech.player item = client)
    (once
      : ∀ client ∈ round.present,
          speech.count state (state.session client).id (round.waiting opens) = 1)
    : round.Sound speech opens state := by
  have halfway : round.halfway = [] := by
    rw [Round.halfway, bodies]
    rfl
  have spokenOf (id : Guid) : round.spokenOf id = [] := by
    rw [Round.spokenOf, spoken]
    rfl
  have toldOf (receiver : SocketId) (id : Guid) : round.toldOf receiver id = [] := by
    rw [Round.toldOf, told]
    rfl
  refine ⟨?_, present, ?_, ?_, ?_, ?_, ?_, ?_, ?_⟩
  · rw [halfway, List.map_nil, List.append_nil]
    exact joined
  · rw [halfway, List.map_nil, List.append_nil]
    exact own
  · intro client member
    rw [spokenOf]
    exact once client member
  · intro client member other _ _
    rw [toldOf]
    exact once client member
  · intro _ client member
    rw [toldOf, halfway]
    exact once client member
  · rw [told]
    exact nofun
  · rw [halfway]
    exact nofun
  · rw [told]
    exact nofun

/-- At its end, a round has spoken once of each client that was there throughout, and told each
other one just that.
-/
theorem Sound.complete (sound : round.Sound speech opens state) (complete : round.Complete)
    {client : SocketId} (member : client ∈ round.present)
    : ∃ content,
        round.spokenOf (state.session client).id = [content]
        ∧ (∀ other ∈ round.present,
            other ≠ client → round.toldOf other (state.session client).id = [content])
        ∧ (speech.tellsSelf = true
          → round.toldOf client (state.session client).id = [content]) := by
  obtain ⟨fixed, live, bodies⟩ := complete
  have waiting : round.waiting opens = [] := by
    rw [Round.waiting, fixed, live, bodies]
    rfl
  have halfway : round.halfway = [] := by
    rw [Round.halfway, bodies]
    rfl
  have spoken := sound.spokenOnce client member
  rw [waiting, Speech.count, List.countP_nil, Nat.zero_add] at spoken
  obtain ⟨content, said⟩ := List.length_eq_one_iff.mp spoken
  -- who is told something of an Id is told what was said of it
  have told {other : SocketId}
      (once : (round.toldOf other (state.session client).id).length = 1)
      : round.toldOf other (state.session client).id = [content] := by
    obtain ⟨heard, same⟩ := List.length_eq_one_iff.mp once
    have among : heard ∈ round.toldOf other (state.session client).id := by
      rw [same]
      exact List.mem_singleton_self _
    have faithful : heard ∈ round.spokenOf (state.session client).id :=
      sound.faithful _ (exists_told among)
    rw [said, List.mem_singleton] at faithful
    rw [same, faithful]
  refine ⟨content, said, fun other otherMember apart => told ?_, fun tells => told ?_⟩
  · have once := sound.toldOnce client member other otherMember apart
    rw [waiting, Speech.count, List.countP_nil, Nat.zero_add] at once
    exact once
  · have once := sound.selfOnce tells client member
    rw [waiting, halfway] at once
    simpa [Speech.count] using once

-----------------------------------------------------------------------------------------
-- What clients are told is written to their sockets
-----------------------------------------------------------------------------------------

/-- All that a round has noted as told was written. -/
def Written (speech : Speech Item Content) (runtime : Runtime) (state : ServerState)
    (round : Round Item Content)
    : Prop :=
  ∀ told ∈ round.told,
    { socket := told.receiver
      data := runtime.typedFrame told.id (speech.packet told.content)
      cause := .server } ∈ state.sent

theorem Written.advance {index : Nat} (written : round.Written speech runtime state)
    (taken : round.advance speech runtime state index = some (after, next))
    : next.Written speech runtime after := by
  obtain ⟨new, told, sent⟩ := advance_notes taken
  intro entry member
  rw [told] at member
  rw [sent]
  rcases List.mem_append.mp member with before | added
  · exact List.mem_append_left _ (written entry before)
  · exact List.mem_append_right _ (List.mem_map_of_mem added)

theorem Written.of_toldOf (written : round.Written speech runtime state) {receiver : SocketId}
    {id : Guid} {content : Content} (told : round.toldOf receiver id = [content])
    : { socket := receiver
        data := runtime.typedFrame id (speech.packet content)
        cause := .server } ∈ state.sent := by
  have among : content ∈ round.toldOf receiver id := by
    rw [told]
    exact List.mem_singleton_self _
  exact written _ (exists_told among)

theorem Written.observe {event : Event} {server : ServerState}
    (written : round.Written speech runtime state)
    (taken : state.step runtime event = some server)
    : (round.observe state server).Written speech runtime server := by
  obtain ⟨messages, sent, _⟩ := ServerState.step_writes taken
  intro entry member
  rw [sent]
  exact List.mem_append_left _ (written entry member)

end Round

end SmoOnline
