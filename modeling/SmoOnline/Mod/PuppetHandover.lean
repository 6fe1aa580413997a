import SmoOnline.Mod.PuppetArray

/-! Two histories of the entries in memory, at whose ends another player gets the entry of one who
has left. They differ only in packets of the one who left; what the other player's packets do not
write over is still there.
-/

namespace SmoOnline.Mod.PuppetArray

open Runs Span Layout PuppetMemory
open Puppets (Event userEvents)

variable {mUserID left joins : Guid}

/-- A history in which the entry of one player, who has left, is the one another player gets. -/
structure Handover (mUserID left joins : Guid) where
  events : List Event
  array : PuppetArray
  run : Run step TextsFit (initial mUserID) events array
  index : Nat
  entry : Memory UInt8
  member : array.mPuppetInfoArr[index]? = some entry
  was : (infoOf entry).playerID = left
  free : (infoOf entry).isConnected = false
  given : array.puppets.findPuppetInfo joins true = .entry index

/-- The packet is one of the user. -/
def isOf (id : Guid) : Event → Bool
  | .readPacket _ user _ => user = id
  | _ => false

/-- Two histories that differ only in packets of the player who leaves. -/
structure Histories (mUserID left joins : Guid) where
  first : Handover mUserID left joins
  second : Handover mUserID left joins
  apart : joins ≠ left
  differ
    : first.events.filter (fun event => !isOf left event)
      = second.events.filter fun event => !isOf left event

/-- A player connects, and then packets of the player come. -/
def joined (joins : Guid) (clientName : Bytes) (later : List (Bool × PuppetPacket)) : List Event :=
  userEvents joins ((false, .playerConnect clientName) :: later)

namespace Handover

/-- The history up to there as values. -/
theorem values (handover : Handover mUserID left joins)
    : AnyRun (Puppets.step PlayerAnims.findStr) (.initial mUserID) handover.events
        handover.array.puppets := by
  rw [← puppets_initial]
  exact run_refines handover.run

theorem member_values (handover : Handover mUserID left joins)
    : handover.array.puppets.mPuppetInfoArr[handover.index]? = some (infoOf handover.entry) := by
  rw [puppets_getElem?, handover.member, Option.map_some]

/-- As values, the entry is written over by the packets about it. -/
theorem execute_joined (handover : Handover mUserID left joins) (apart : joins ≠ left)
    (clientName : Bytes) (later : List (Bool × PuppetPacket))
    : ∃ last,
        execute (Puppets.step PlayerAnims.findStr) handover.array.puppets
          (joined joins clientName later) = some last
        ∧ last.mPuppetInfoArr[handover.index]?
          = some
              (((infoOf handover.entry).connect joins clientName).receiveAll PlayerAnims.findStr
                joins ((Puppets.initial mUserID).received joins later)) := by
  have other : (infoOf handover.entry).playerID ≠ joins := by
    rw [handover.was]
    exact apart.symm
  have about
      : handover.array.puppets.received joins later
        = (Puppets.initial mUserID).received joins later := by
    have same : handover.array.puppets.mUserID = (Puppets.initial mUserID).mUserID :=
      Puppets.mUserID_run handover.values
    simp only [Puppets.received, Puppets.looksUp_congr same]
  rw [← about]
  exact Puppets.execute_of_connect handover.member_values handover.free handover.given other
    clientName later

/-- In memory it comes to the same, where the texts fit. -/
theorem entry_after (handover : Handover mUserID left joins) (apart : joins ≠ left)
    {clientName : Bytes} {later : List (Bool × PuppetPacket)} {last : PuppetArray}
    (run : Run step TextsFit handover.array (joined joins clientName later) last)
    : ∃ entry,
        last.mPuppetInfoArr[handover.index]? = some entry
        ∧ infoOf entry
          = ((infoOf handover.entry).connect joins clientName).receiveAll PlayerAnims.findStr
              joins ((Puppets.initial mUserID).received joins later) := by
  obtain ⟨values, executed, reaches⟩ := handover.execute_joined apart clientName later
  obtain rfl := Option.some.inj (executed.symm.trans (run_refines run).execute_eq)
  rw [puppets_getElem?] at reaches
  exact Option.map_eq_some_iff.mp reaches

/-- Short texts are always handled. -/
theorem exists_joined (handover : Handover mUserID left joins) (apart : joins ≠ left)
    {clientName : Bytes} {later : List (Bool × PuppetPacket)}
    (short : ∀ event ∈ joined joins clientName later, Short event)
    : ∃ last, Run step TextsFit handover.array (joined joins clientName later) last := by
  obtain ⟨values, executed, -⟩ := handover.execute_joined apart clientName later
  obtain ⟨last, run, -⟩ := exists_run (execute_run executed) short
  exact ⟨last, run⟩

/-- Who has left is in no stage. -/
theorem away (handover : Handover mUserID left joins)
    : (infoOf handover.entry).scenarioNo = 255
      ∧ (infoOf handover.entry).stageName = []
      ∧ (infoOf handover.entry).isInSameStage = false :=
  Puppets.allAway_run handover.values _ (List.mem_of_getElem? handover.member_values)
    handover.free

end Handover

/-- For every two histories that differ in the packets of a player who has left, and in which texts
fit, the entry is the same after the same packets of the player who got it exactly when these
packets write over everything that is not the same in what the one who left had of it.
-/
theorem reuse_iff (histories : Histories mUserID left joins) {clientName : Bytes}
    {later : List (Bool × PuppetPacket)} {first second : PuppetArray}
    (firstRun : Run step TextsFit histories.first.array (joined joins clientName later) first)
    (secondRun : Run step TextsFit histories.second.array (joined joins clientName later) second)
    : ∃ firstEntry secondEntry,
        first.mPuppetInfoArr[histories.first.index]? = some firstEntry
        ∧ second.mPuppetInfoArr[histories.second.index]? = some secondEntry
        ∧ ((infoOf firstEntry).gameplay = (infoOf secondEntry).gameplay
          ↔ (infoOf histories.first.entry).Overwrites (infoOf histories.second.entry)
              ((Puppets.initial mUserID).received joins later)) := by
  obtain ⟨firstEntry, firstMember, firstIs⟩ := histories.first.entry_after histories.apart firstRun
  obtain ⟨secondEntry, secondMember, secondIs⟩ :=
    histories.second.entry_after histories.apart secondRun
  refine ⟨firstEntry, secondEntry, firstMember, secondMember, ?_⟩
  obtain ⟨scenarioNo, stageName, shown⟩ := histories.first.away
  obtain ⟨scenarioNo', stageName', shown'⟩ := histories.second.away
  have stage : ((infoOf histories.first.entry).connect joins clientName).AgreeOnStage
      ((infoOf histories.second.entry).connect joins clientName) :=
    ⟨scenarioNo.trans scenarioNo'.symm, stageName.trans stageName'.symm, shown.trans shown'.symm⟩
  rw [firstIs, secondIs, PuppetInfo.gameplay_receiveAll_iff rfl rfl stage,
    PuppetInfo.overwrites_connect]

/-- One player connects, wears something, and leaves. -/
def wearsAndLeaves (bodyModel : Bytes) : List Event :=
  [.readPacket false ⟨2⟩ (.playerConnect []), .readPacket false ⟨2⟩ (.costumeInf bodyModel []),
    .readPacket false ⟨2⟩ .playerDC]

/-- What is left of the player. -/
def worn (bodyModel : Bytes) : PuppetInfo := { playerID := ⟨2⟩, costumeBody := bodyModel }

/-- The next player gets the entry, as is found by executing this. -/
theorem exists_handover {bodyModel : Bytes}
    (found
      : (execute (Puppets.step PlayerAnims.findStr) (.initial ⟨1⟩)
          (wearsAndLeaves bodyModel)).any
          (fun last =>
            decide
              (last.mPuppetInfoArr[0]? = some (worn bodyModel)
              ∧ last.findPuppetInfo ⟨3⟩ true = .entry 0)) = true)
    (short : ∀ event ∈ wearsAndLeaves bodyModel, Short event)
    : ∃ handover : Handover ⟨1⟩ ⟨2⟩ ⟨3⟩,
        handover.events = wearsAndLeaves bodyModel
        ∧ infoOf handover.entry = worn bodyModel := by
  obtain ⟨array, run, member, given⟩ := exists_initial_run _ found short
  rw [puppets_getElem?] at member
  obtain ⟨entry, there, same⟩ := Option.map_eq_some_iff.mp member
  exact ⟨⟨_, array, run, 0, entry, there, by rw [same]; rfl, by rw [same]; rfl, given⟩, rfl, same⟩

/-- Histories that differ in what the player who leaves was wearing. -/
theorem exists_histories
    : ∃ histories : Histories ⟨1⟩ ⟨2⟩ ⟨3⟩,
        infoOf histories.first.entry = worn [65] ∧ infoOf histories.second.entry = worn [66] := by
  obtain ⟨first, firstEvents, firstWorn⟩ :=
    @exists_handover [65] (by decide +kernel) (by decide)
  obtain ⟨second, secondEvents, secondWorn⟩ :=
    @exists_handover [66] (by decide +kernel) (by decide)
  refine ⟨⟨first, second, by decide, ?_⟩, firstWorn, secondWorn⟩
  rw [firstEvents, secondEvents]
  rfl

/-- A costume of the next player is worn over what was left. -/
theorem reuse_costumeInf
    : ∃ (histories : Histories ⟨1⟩ ⟨2⟩ ⟨3⟩) (first second : PuppetArray)
        (firstEntry secondEntry : Memory UInt8),
        infoOf histories.first.entry = worn [65]
        ∧ infoOf histories.second.entry = worn [66]
        ∧ Run step TextsFit histories.first.array (joined ⟨3⟩ [] [(false, .costumeInf [67] [])])
            first
        ∧ Run step TextsFit histories.second.array (joined ⟨3⟩ [] [(false, .costumeInf [67] [])])
            second
        ∧ first.mPuppetInfoArr[histories.first.index]? = some firstEntry
        ∧ second.mPuppetInfoArr[histories.second.index]? = some secondEntry
        ∧ (infoOf firstEntry).gameplay = (infoOf secondEntry).gameplay := by
  obtain ⟨histories, firstWorn, secondWorn⟩ := exists_histories
  obtain ⟨first, firstRun⟩ := @Handover.exists_joined _ _ _ histories.first histories.apart []
    [(false, .costumeInf [67] [])] (by decide)
  obtain ⟨second, secondRun⟩ := @Handover.exists_joined _ _ _ histories.second histories.apart []
    [(false, .costumeInf [67] [])] (by decide)
  obtain ⟨firstEntry, secondEntry, firstMember, secondMember, same⟩ :=
    reuse_iff histories firstRun secondRun
  refine ⟨histories, first, second, firstEntry, secondEntry, firstWorn, secondWorn, firstRun,
    secondRun, firstMember, secondMember, same.mpr ?_⟩
  rw [firstWorn, secondWorn]
  refine ⟨?_, .inr ⟨rfl, .inl rfl⟩⟩
  intro part
  cases part with
  | costume => exact .inl rfl
  | _ =>
      right
      simp [PuppetInfo.Agree, worn]

/-- Until then the next player wears what the one before did. -/
theorem costume_left
    : ∃ (histories : Histories ⟨1⟩ ⟨2⟩ ⟨3⟩) (first second : PuppetArray)
        (firstEntry secondEntry : Memory UInt8),
        Run step TextsFit histories.first.array (joined ⟨3⟩ [] []) first
        ∧ Run step TextsFit histories.second.array (joined ⟨3⟩ [] []) second
        ∧ first.mPuppetInfoArr[histories.first.index]? = some firstEntry
        ∧ second.mPuppetInfoArr[histories.second.index]? = some secondEntry
        ∧ (infoOf firstEntry).costumeBody = [65]
        ∧ (infoOf secondEntry).costumeBody = [66]
        ∧ (infoOf firstEntry).gameplay ≠ (infoOf secondEntry).gameplay := by
  obtain ⟨histories, firstWorn, secondWorn⟩ := exists_histories
  obtain ⟨first, firstRun⟩ := @Handover.exists_joined _ _ _ histories.first histories.apart [] []
    (by decide)
  obtain ⟨second, secondRun⟩ := @Handover.exists_joined _ _ _ histories.second histories.apart []
    [] (by decide)
  obtain ⟨firstEntry, firstMember, firstIs⟩ := histories.first.entry_after histories.apart firstRun
  obtain ⟨secondEntry, secondMember, secondIs⟩ :=
    histories.second.entry_after histories.apart secondRun
  have firstBody : (infoOf firstEntry).costumeBody = [65] := by
    rw [firstIs, firstWorn]
    rfl
  have secondBody : (infoOf secondEntry).costumeBody = [66] := by
    rw [secondIs, secondWorn]
    rfl
  refine ⟨histories, first, second, firstEntry, secondEntry, firstRun, secondRun, firstMember,
    secondMember, firstBody, secondBody, ?_⟩
  intro same
  have body := congrArg PuppetInfo.costumeBody same
  change (infoOf firstEntry).costumeBody = (infoOf secondEntry).costumeBody at body
  rw [firstBody, secondBody] at body
  cases body

end SmoOnline.Mod.PuppetArray
