import SmoOnline.Library.Runs
import Mathlib.Data.List.Basic

/-! The moons that other players have collected and the game has still to take over. One number is
both how many there are and where the next one is written.
-/

namespace SmoOnline.Mod

open Runs

/-- `curCollectedShines.size()` -/
def maxCollectedShines : Nat := 128

/-- `curCollectedShines`, a `SafeArray`, and `collectedShineCount`. -/
structure CollectedShines where
  curCollectedShines : List Int32
  collectedShineCount : Int
  sized : curCollectedShines.length = maxCollectedShines

namespace CollectedShines

/-- `resetCollectedShines`; the constructor of the client does the same. -/
def reset : CollectedShines where
  curCollectedShines := List.replicate maxCollectedShines (-1)
  collectedShineCount := 0
  sized := List.length_replicate

variable (shines : CollectedShines)

/-- The entry behind `curCollectedShines[index]`, the first one for an index out of range. -/
def slot (index : Int) : Nat :=
  if 0 ≤ index ∧ index < maxCollectedShines then index.toNat else 0

def updateShineInfo (shineId : Int32) : CollectedShines :=
  if shines.collectedShineCount < maxCollectedShines - 1 then
    {
      curCollectedShines :=
        shines.curCollectedShines.set (slot shines.collectedShineCount) shineId
      collectedShineCount := shines.collectedShineCount + 1
      sized := List.length_set.trans shines.sized
    }
  else shines

/-- The loop of `removeShine` over the entries. -/
def removeFrom (shineId : Int32) : List Int32 → Int → List Int32 × Int
  | [], count => ([], count)
  | entry :: entries, count =>
      if entry = shineId then
        let (entries, count) := removeFrom shineId entries (count - 1)
        (-1 :: entries, count)
      else
        let (entries, count) := removeFrom shineId entries count
        (entry :: entries, count)

/-- Every entry that is the moon is cleared and counted off. -/
theorem removeFrom_eq (shineId : Int32) (entries : List Int32) (count : Int)
    : removeFrom shineId entries count
      = (entries.map fun entry => if entry = shineId then -1 else entry,
          count - entries.countP (· = shineId)) := by
  induction entries generalizing count with
  | nil => simp [removeFrom]
  | cons entry entries ih =>
      rw [removeFrom, ih, ih, List.map_cons, List.countP_cons]
      by_cases same : entry = shineId
      · simp [same]
        omega
      · simp [same]

def removeShine (shineId : Int32) : CollectedShines where
  curCollectedShines :=
    (removeFrom shineId shines.curCollectedShines shines.collectedShineCount).1
  collectedShineCount :=
    (removeFrom shineId shines.curCollectedShines shines.collectedShineCount).2
  sized := by
    rw [removeFrom_eq, List.length_map]
    exact shines.sized

def isShineCollected (shineId : Int32) : Bool :=
  shines.curCollectedShines.any fun entry => 0 ≤ entry && entry = shineId

/-- `isNeedUpdateShines` of an instance. -/
def isNeedUpdateShines : Bool := 0 < shines.collectedShineCount

end CollectedShines

-----------------------------------------------------------------------------------------
-- Runs of the buffer
-----------------------------------------------------------------------------------------

/-- A call; the moons that players collect have ids from zero on. -/
inductive ShineCall
  | updateShineInfo (shineId : Int32) (nonneg : 0 ≤ shineId)
  | removeShine (shineId : Int32)
  | resetCollectedShines

/-- The buffer, with the moons that were received and neither removed nor cleared since. -/
structure Collecting where
  shines : CollectedShines
  pending : List Int32

namespace Collecting

def initial : Collecting where
  shines := .reset
  pending := []

variable (collecting : Collecting)

def step : ShineCall → Option Collecting
  | .updateShineInfo shineId _ =>
      some
        { shines := collecting.shines.updateShineInfo shineId
          pending := shineId :: collecting.pending }
  | .removeShine shineId =>
      some
        { shines := collecting.shines.removeShine shineId
          pending := collecting.pending.filter (· ≠ shineId) }
  | .resetCollectedShines => some { shines := .reset, pending := [] }

/-- The moons of the buffer are those that are pending, and the count is how many entries hold
one, so that an update is needed when some moon is pending.
-/
structure LosesNothing : Prop where
  collected
    : ∀ shineId, collecting.shines.isShineCollected shineId = true ↔ shineId ∈ collecting.pending
  count
    : collecting.shines.collectedShineCount
      = collecting.shines.curCollectedShines.countP (0 ≤ ·)
  needed : collecting.shines.isNeedUpdateShines = true ↔ collecting.pending ≠ []

/-- A moon is received while the entry that the count points at is empty, or, when none is left,
while it is collected; and what is removed is not the mark of an empty entry.
-/
def Lands : ShineCall → Prop
  | .updateShineInfo shineId _ =>
      if collecting.shines.collectedShineCount < maxCollectedShines - 1 then
        collecting.shines.curCollectedShines[
          CollectedShines.slot collecting.shines.collectedShineCount]? = some (-1)
      else collecting.shines.isShineCollected shineId = true
  | .removeShine shineId => shineId ≠ -1
  | .resetCollectedShines => True

end Collecting

-----------------------------------------------------------------------------------------
-- The entries after a call
-----------------------------------------------------------------------------------------

namespace CollectedShines

/-- Every entry is empty or a moon, and the last one has never been written to. -/
structure Known (shines : CollectedShines) : Prop where
  entries : ∀ entry ∈ shines.curCollectedShines, entry = -1 ∨ 0 ≤ entry
  bound : shines.collectedShineCount ≤ maxCollectedShines - 1

/-- The count is how many entries hold a moon. -/
def Counted (shines : CollectedShines) : Prop :=
  shines.collectedShineCount = shines.curCollectedShines.countP (0 ≤ ·)

variable {shines : CollectedShines} {shineId other : Int32}

theorem isShineCollected_iff
    : shines.isShineCollected shineId = true
      ↔ 0 ≤ shineId ∧ shineId ∈ shines.curCollectedShines := by
  simp only [isShineCollected, List.any_eq_true, Bool.and_eq_true, decide_eq_true_eq]
  constructor
  · rintro ⟨entry, member, nonneg, rfl⟩
    exact ⟨nonneg, member⟩
  · rintro ⟨nonneg, member⟩
    exact ⟨shineId, member, nonneg, rfl⟩

/-- Where the count is right, an update is needed when some moon is collected. -/
theorem Counted.needed (counted : shines.Counted)
    : shines.isNeedUpdateShines = true ↔ ∃ shineId, shines.isShineCollected shineId = true := by
  rw [isNeedUpdateShines, decide_eq_true_eq, counted, Int.natCast_pos, List.countP_pos_iff]
  constructor
  · rintro ⟨entry, member, nonneg⟩
    exact ⟨entry, isShineCollected_iff.mpr ⟨of_decide_eq_true nonneg, member⟩⟩
  · rintro ⟨entry, collected⟩
    obtain ⟨nonneg, member⟩ := isShineCollected_iff.mp collected
    exact ⟨entry, member, decide_eq_true nonneg⟩

theorem known_reset : reset.Known where
  entries entry member := .inl (List.eq_of_mem_replicate member)
  bound := by decide

theorem counted_reset : reset.Counted := by
  rw [Counted, reset, List.countP_replicate, if_neg (by decide)]
  rfl

theorem not_collected_reset : ¬reset.isShineCollected shineId = true := by
  intro collected
  obtain ⟨nonneg, member⟩ := isShineCollected_iff.mp collected
  obtain rfl := List.eq_of_mem_replicate member
  exact absurd nonneg (by decide)

theorem Known.updateShineInfo (known : shines.Known) (nonneg : 0 ≤ shineId)
    : (shines.updateShineInfo shineId).Known := by
  unfold CollectedShines.updateShineInfo
  split_ifs with room
  · refine ⟨fun entry member => ?_, by dsimp only; omega⟩
    rcases List.mem_or_eq_of_mem_set member with before | rfl
    · exact known.entries entry before
    · exact .inr nonneg
  · exact known

theorem curCollectedShines_removeShine
    : (shines.removeShine shineId).curCollectedShines
      = shines.curCollectedShines.map fun entry => if entry = shineId then -1 else entry :=
  congrArg Prod.fst (removeFrom_eq _ _ _)

theorem collectedShineCount_removeShine
    : (shines.removeShine shineId).collectedShineCount
      = shines.collectedShineCount - shines.curCollectedShines.countP (· = shineId) :=
  congrArg Prod.snd (removeFrom_eq _ _ _)

theorem Known.removeShine (known : shines.Known) : (shines.removeShine shineId).Known where
  entries entry member := by
    rw [curCollectedShines_removeShine] at member
    obtain ⟨old, there, rfl⟩ := List.mem_map.mp member
    split_ifs
    · exact .inl rfl
    · exact known.entries old there
  bound := by
    rw [collectedShineCount_removeShine]
    have := known.bound
    omega

/-- The entry that a moon is written to, with those around it. -/
theorem exists_slot (room : shines.collectedShineCount < maxCollectedShines - 1) (shineId : Int32)
    : ∃ front entry back,
        shines.curCollectedShines = front ++ entry :: back
        ∧ shines.curCollectedShines[slot shines.collectedShineCount]? = some entry
        ∧ (shines.updateShineInfo shineId).curCollectedShines = front ++ shineId :: back
        ∧ (shines.updateShineInfo shineId).collectedShineCount
          = shines.collectedShineCount + 1 := by
  have inside : slot shines.collectedShineCount < shines.curCollectedShines.length := by
    rw [shines.sized, slot]
    split_ifs
    · omega
    · decide
  obtain ⟨front, back, whole, _, set⟩ := @List.exists_of_set _ _ shineId _ inside
  refine ⟨front, _, back, whole, List.getElem?_eq_getElem inside, ?_, ?_⟩
  · rw [updateShineInfo, if_pos room]
    exact set
  · rw [updateShineInfo, if_pos room]

theorem not_nonneg_empty : ¬(0 : Int32) ≤ -1 := by decide

/-- A moon is counted exactly where its entry was empty. -/
theorem Counted.updateShineInfo_iff (counted : shines.Counted) (known : shines.Known)
    (nonneg : 0 ≤ shineId) (room : shines.collectedShineCount < maxCollectedShines - 1)
    : (shines.updateShineInfo shineId).Counted
      ↔ shines.curCollectedShines[slot shines.collectedShineCount]? = some (-1) := by
  obtain ⟨front, entry, back, whole, pointed, updated, count⟩ := exists_slot room shineId
  rw [Counted] at counted ⊢
  rw [pointed, count, updated, counted, whole]
  simp only [List.countP_append, List.countP_cons, decide_eq_true nonneg, if_true,
    Option.some.injEq]
  rcases known.entries entry (whole ▸ by simp) with rfl | moon
  · rw [if_neg (by decide)]
    refine iff_of_true ?_ rfl
    omega
  · rw [if_pos (decide_eq_true moon)]
    refine iff_of_false ?_ fun same => not_nonneg_empty (same ▸ moon)
    omega

/-- A moon that is written to an empty entry is collected with those that were. -/
theorem isShineCollected_updateShineInfo (nonneg : 0 ≤ shineId)
    (room : shines.collectedShineCount < maxCollectedShines - 1)
    (empty : shines.curCollectedShines[slot shines.collectedShineCount]? = some (-1))
    : (shines.updateShineInfo shineId).isShineCollected other = true
      ↔ other = shineId ∨ shines.isShineCollected other = true := by
  obtain ⟨front, entry, back, whole, pointed, updated, _⟩ := exists_slot room shineId
  obtain rfl := Option.some.inj (pointed.symm.trans empty)
  rw [isShineCollected_iff, isShineCollected_iff, updated, whole]
  simp only [List.mem_append, List.mem_cons]
  constructor
  · rintro ⟨moon, before | rfl | behind⟩
    · exact .inr ⟨moon, .inl before⟩
    · exact .inl rfl
    · exact .inr ⟨moon, .inr (.inr behind)⟩
  · rintro (rfl | ⟨moon, before | rfl | behind⟩)
    · exact ⟨nonneg, .inr (.inl rfl)⟩
    · exact ⟨moon, .inl before⟩
    · exact absurd moon not_nonneg_empty
    · exact ⟨moon, .inr (.inr behind)⟩

theorem isShineCollected_removeShine
    : (shines.removeShine shineId).isShineCollected other = true
      ↔ other ≠ shineId ∧ shines.isShineCollected other = true := by
  rw [isShineCollected_iff, isShineCollected_iff, curCollectedShines_removeShine, List.mem_map]
  constructor
  · rintro ⟨nonneg, entry, member, rfl⟩
    split_ifs at nonneg ⊢ with same
    · exact absurd nonneg not_nonneg_empty
    · exact ⟨same, nonneg, member⟩
  · rintro ⟨different, nonneg, member⟩
    exact ⟨nonneg, other, member, if_neg different⟩

/-- The moons that are left and the ones that are cleared are all moons there were. -/
theorem countP_cleared (nonneg : 0 ≤ shineId) (entries : List Int32)
    : entries.countP ((0 ≤ ·) ∘ fun entry => if entry = shineId then -1 else entry)
        + entries.countP (· = shineId)
      = entries.countP (0 ≤ ·) := by
  induction entries with
  | nil => rfl
  | cons entry entries ih =>
      simp only [List.countP_cons, Function.comp, decide_eq_true_eq] at ih ⊢
      by_cases same : entry = shineId
      · subst same
        simp only [if_true, not_nonneg_empty, if_false, nonneg]
        omega
      · simp only [same, if_false]
        omega

/-- Some entry is empty, as there are more of them than the count can be. -/
theorem Counted.empty_mem (counted : shines.Counted) (known : shines.Known)
    : -1 ∈ shines.curCollectedShines := by
  have bound := known.bound
  rw [Counted] at counted
  by_contra none
  have all : shines.curCollectedShines.countP (0 ≤ ·) = shines.curCollectedShines.length := by
    refine List.countP_eq_length.mpr fun entry member => decide_eq_true ?_
    rcases known.entries entry member with rfl | nonneg
    · exact absurd member none
    · exact nonneg
  rw [shines.sized] at all
  omega

/-- Removing a moon counts it off; removing the mark of an empty entry counts off the empty ones. -/
theorem Counted.removeShine_iff (counted : shines.Counted) (known : shines.Known)
    : (shines.removeShine shineId).Counted ↔ shineId ≠ -1 := by
  have some := counted.empty_mem known
  rw [Counted] at counted ⊢
  rw [collectedShineCount_removeShine, curCollectedShines_removeShine, List.countP_map, counted]
  by_cases nonneg : 0 ≤ shineId
  · have cleared := countP_cleared nonneg shines.curCollectedShines
    refine iff_of_true (by omega) ?_
    rintro rfl
    exact not_nonneg_empty nonneg
  · have same
        : shines.curCollectedShines.countP
            ((0 ≤ ·) ∘ fun entry => if entry = shineId then -1 else entry)
          = shines.curCollectedShines.countP (0 ≤ ·) := by
      refine List.countP_congr fun entry _ => ?_
      simp only [Function.comp, decide_eq_true_eq]
      split_ifs with removed
      · rw [removed]
        exact iff_of_false not_nonneg_empty nonneg
      · exact Iff.rfl
    have none : shines.curCollectedShines.countP (· = shineId) = 0
        ↔ shineId ∉ shines.curCollectedShines := by
      rw [List.countP_eq_zero]
      simp only [decide_eq_true_eq]
      exact ⟨fun absent member => absent _ member rfl,
        fun absent entry member same => absent (same ▸ member)⟩
    rw [same]
    constructor
    · rintro counted rfl
      exact none.mp (by omega) some
    · intro other
      have absent : shineId ∉ shines.curCollectedShines := fun member =>
        (known.entries shineId member).elim other nonneg
      have zero := none.mpr absent
      omega

end CollectedShines

namespace Collecting

open CollectedShines

variable {collecting next : Collecting} {call : ShineCall}

theorem losesNothing_iff
    : collecting.LosesNothing
      ↔ (∀ shineId,
          collecting.shines.isShineCollected shineId = true ↔ shineId ∈ collecting.pending)
        ∧ collecting.shines.Counted := by
  refine ⟨fun keeps => ⟨keeps.collected, keeps.count⟩, fun ⟨collected, counted⟩ => ?_⟩
  refine ⟨collected, counted, (Counted.needed counted).trans ?_⟩
  simp only [collected]
  refine ⟨?_, List.exists_mem_of_ne_nil _⟩
  rintro ⟨shineId, member⟩
  exact List.ne_nil_of_mem member

theorem known_step (known : collecting.shines.Known) (taken : collecting.step call = some next)
    : next.shines.Known := by
  cases call with
  | updateShineInfo shineId nonneg =>
      obtain rfl := Option.some.inj taken
      exact known.updateShineInfo nonneg
  | removeShine shineId =>
      obtain rfl := Option.some.inj taken
      exact known.removeShine
  | resetCollectedShines =>
      obtain rfl := Option.some.inj taken
      exact known_reset

/-- A moon that is received is not lost, and loses no other one, exactly where it lands. -/
theorem losesNothing_updateShineInfo_iff {shineId : Int32} (nonneg : 0 ≤ shineId)
    (known : collecting.shines.Known) (keeps : collecting.LosesNothing)
    : collecting.Lands (.updateShineInfo shineId nonneg)
      ↔ LosesNothing
          { shines := collecting.shines.updateShineInfo shineId
            pending := shineId :: collecting.pending } := by
  obtain ⟨collected, counted⟩ := losesNothing_iff.mp keeps
  rw [losesNothing_iff, Lands]
  by_cases room : collecting.shines.collectedShineCount < maxCollectedShines - 1
  · rw [if_pos room, counted.updateShineInfo_iff known nonneg room]
    refine ⟨fun empty => ⟨fun other => ?_, empty⟩, And.right⟩
    rw [isShineCollected_updateShineInfo nonneg room empty, collected, List.mem_cons]
  · have full : collecting.shines.updateShineInfo shineId = collecting.shines := if_neg room
    rw [if_neg room, full, collected]
    constructor
    · intro member
      refine ⟨fun other => ?_, counted⟩
      rw [collected, List.mem_cons]
      refine ⟨.inr, ?_⟩
      rintro (rfl | there)
      · exact member
      · exact there
    · rintro ⟨again, _⟩
      rw [← collected, again]
      exact List.mem_cons_self

/-- A call keeps the buffer right exactly where it lands. -/
theorem lands_iff (known : collecting.shines.Known) (keeps : collecting.LosesNothing)
    (taken : collecting.step call = some next)
    : collecting.Lands call ↔ next.LosesNothing := by
  cases call with
  | updateShineInfo shineId nonneg =>
      obtain rfl := Option.some.inj taken
      exact losesNothing_updateShineInfo_iff nonneg known keeps
  | removeShine shineId =>
      obtain rfl := Option.some.inj taken
      obtain ⟨collected, counted⟩ := losesNothing_iff.mp keeps
      rw [losesNothing_iff, counted.removeShine_iff known, Lands]
      refine ⟨fun moon => ⟨fun other => ?_, moon⟩, And.right⟩
      rw [isShineCollected_removeShine, collected, List.mem_filter, decide_eq_true_eq, and_comm]
  | resetCollectedShines =>
      obtain rfl := Option.some.inj taken
      refine iff_of_true trivial (losesNothing_iff.mpr ⟨fun other => ?_, counted_reset⟩)
      exact iff_of_false not_collected_reset List.not_mem_nil

/-- The buffer loses nothing in any state of a run exactly where every call of the run lands. -/
theorem loses_nothing_iff {calls : List ShineCall} {collecting : Collecting}
    : Run step Lands initial calls collecting
      ↔ Run step (Into step LosesNothing) initial calls collecting := by
  apply @Run.into_iff_using _ _ step Lands (fun collecting => collecting.shines.Known)
  · exact known_reset
  · exact losesNothing_iff.mpr
      ⟨fun _ => iff_of_false not_collected_reset List.not_mem_nil, counted_reset⟩
  · exact fun known _ _ taken => known_step known taken
  · exact fun known keeps taken => lands_iff known keeps taken

/-- The moon 2 is overwritten by the moon 3 where the moon 1 was removed in between. -/
theorem moon_overwritten
    : ∃ collecting,
        AnyRun step initial
          [.updateShineInfo 1 (by decide), .updateShineInfo 2 (by decide), .removeShine 1,
            .updateShineInfo 3 (by decide)]
          collecting
        ∧ 2 ∈ collecting.pending
        ∧ collecting.shines.isShineCollected 2 = false
        ∧ ¬collecting.LosesNothing := by
  obtain ⟨collecting, run, pending, lost⟩ :=
    @exists_run _ _ step initial
      [.updateShineInfo 1 (by decide), .updateShineInfo 2 (by decide), .removeShine 1,
        .updateShineInfo 3 (by decide)]
      (fun collecting =>
        2 ∈ collecting.pending ∧ collecting.shines.isShineCollected 2 = false)
      inferInstance (by decide +kernel)
  refine ⟨collecting, run, pending, lost, fun keeps => ?_⟩
  rw [(keeps.collected 2).mpr pending] at lost
  cases lost

end Collecting

end SmoOnline.Mod
