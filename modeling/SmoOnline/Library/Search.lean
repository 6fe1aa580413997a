import Mathlib.Data.List.Sort

/-! The halving search for the first place of a sorted range that is not before a key, and a check
that numbers are distinct.
-/

namespace Search

/-- The loop of `lower_bound` over the `length` places from `first` on, of which those that are
before the key come first.
-/
def lowerBoundLoop (before : Nat → Bool) : Nat → Nat → Nat → Nat
  | 0, first, _ => first
  | fuel + 1, first, length =>
      if length = 0 then first
      else
        let half := length / 2
        if before (first + half) then
          lowerBoundLoop before fuel (first + half + 1) (length - (half + 1))
        else lowerBoundLoop before fuel first half

/-- `lower_bound` over a range of this length, which is halved fewer times than it is long. -/
def lowerBound (before : Nat → Bool) (length : Nat) : Nat :=
  lowerBoundLoop before length 0 length

/-- A place parts a range: what is before the key is what stands before the place. -/
def Parts (before : Nat → Bool) (place : Nat) : Prop :=
  ∀ index, before index = true ↔ index < place

/-- The loop finds a place that lies in the range it is given, by induction on the fuel. -/
theorem lowerBoundLoop_eq {before : Nat → Bool} {place : Nat} (parts : Parts before place)
    {fuel first length : Nat} (enough : length ≤ fuel) (from_first : first ≤ place)
    (to_last : place ≤ first + length)
    : lowerBoundLoop before fuel first length = place := by
  induction fuel generalizing first length with
  | zero =>
      rw [lowerBoundLoop]
      omega
  | succ fuel ih =>
      rw [lowerBoundLoop]
      dsimp only
      split_ifs with empty half_before
      · omega
      · have half_lt := (parts _).mp half_before
        exact ih (by omega) (by omega) (by omega)
      · have half_ge := mt (parts _).mpr half_before
        exact ih (by omega) from_first (by omega)

/-- `lower_bound` finds the place that parts its range. -/
theorem lowerBound_eq {before : Nat → Bool} {place length : Nat} (parts : Parts before place)
    (inside : place ≤ length)
    : lowerBound before length = place :=
  lowerBoundLoop_eq parts le_rfl (Nat.zero_le _) (by omega)

variable {Entry Key : Type} [LinearOrder Key] (key : Entry → Key)

/-- An entry of the list is before a key. -/
def isBefore (entries : List Entry) (wanted : Key) (index : Nat) : Bool :=
  (entries[index]?).any fun entry => key entry < wanted

/-- The entry that `lower_bound` finds, if it has the key. -/
def find (entries : List Entry) (wanted : Key) : Option Entry :=
  (entries[lowerBound (isBefore key entries wanted) entries.length]?).filter
    fun entry => key entry = wanted

variable {key} {entries : List Entry} {wanted : Key}

theorem isBefore_cons_succ (entry : Entry) (index : Nat)
    : isBefore key (entry :: entries) wanted (index + 1) = isBefore key entries wanted index := rfl

theorem isBefore_of_getElem? {index : Nat} {entry : Entry} (at_index : entries[index]? = some entry)
    : isBefore key entries wanted index = decide (key entry < wanted) := by
  rw [isBefore, at_index, Option.any_some]

/-- Entries in order are parted by every key, by induction on the entries. -/
theorem exists_parts (sorted : entries.Pairwise fun left right => key left ≤ key right)
    : ∃ place, place ≤ entries.length ∧ Parts (isBefore key entries wanted) place := by
  induction entries with
  | nil => exact ⟨0, le_rfl, fun index => by simp [isBefore]⟩
  | cons entry rest ih =>
      obtain ⟨first, rest_sorted⟩ := List.pairwise_cons.mp sorted
      by_cases small : key entry < wanted
      · obtain ⟨place, inside, parts⟩ := ih rest_sorted
        refine ⟨place + 1, Nat.succ_le_succ inside, fun index => ?_⟩
        cases index with
        | zero => simp [isBefore, small]
        | succ index => rw [isBefore_cons_succ, parts index, Nat.add_lt_add_iff_right]
      · refine ⟨0, Nat.zero_le _, fun index => ?_⟩
        cases index with
        | zero => simp [isBefore, small]
        | succ index =>
            rw [isBefore_cons_succ]
            cases at_index : rest[index]? with
            | none => simp [isBefore, at_index]
            | some later =>
                have above := first later (List.mem_of_getElem? at_index)
                simp [isBefore_of_getElem? at_index, (not_lt.mp small).trans above]

/-- What is found is an entry with the key. -/
theorem mem_of_find {entry : Entry} (found : find key entries wanted = some entry)
    : entry ∈ entries ∧ key entry = wanted := by
  obtain ⟨at_place, same⟩ := Option.filter_eq_some_iff.mp found
  exact ⟨List.mem_of_getElem? at_place, of_decide_eq_true same⟩

/-- An entry with the key is found among entries in order. -/
theorem find_isSome (sorted : entries.Pairwise fun left right => key left ≤ key right)
    {entry : Entry} (member : entry ∈ entries) (same : key entry = wanted)
    : (find key entries wanted).isSome := by
  obtain ⟨place, inside, parts⟩ := @exists_parts _ _ _ key entries wanted sorted
  obtain ⟨index, at_index⟩ := List.mem_iff_getElem?.mp member
  have not_before : ¬index < place := by
    rw [← parts index, isBefore_of_getElem? at_index]
    simp [same]
  obtain ⟨index_lt, index_eq⟩ := List.getElem?_eq_some_iff.mp at_index
  have place_lt : place < entries.length := by omega
  have at_place := List.getElem?_eq_getElem place_lt
  have not_small : ¬key entries[place] < wanted := by
    have outside := mt (parts place).mp (lt_irrefl place)
    simpa [isBefore_of_getElem? at_place] using outside
  have not_large : key entries[place] ≤ wanted := by
    rcases (not_lt.mp not_before).eq_or_lt with here | later
    · subst here
      exact (congrArg key index_eq).trans same |>.le
    · have ordered := List.pairwise_iff_getElem.mp sorted place index place_lt index_lt later
      rwa [index_eq, same] at ordered
  have at_key : key entries[place] = wanted := le_antisymm not_large (not_lt.mp not_small)
  rw [find, lowerBound_eq parts inside, at_place]
  simp [at_key]

-----------------------------------------------------------------------------------------
-- Distinct numbers
-----------------------------------------------------------------------------------------

/-- Work out a number before going on with it. -/
def force {Result : Type} : Nat → (Nat → Result) → Result
  | 0, next => next 0
  | number + 1, next => next (number + 1)

@[simp] theorem force_eq {Result : Type} (number : Nat) (next : Nat → Result)
    : force number next = next number := by
  cases number <;> rfl

/-- No number is among those before it, which are the bits of `seen`. -/
def allNew : Nat → List Nat → Bool
  | _, [] => true
  | seen, number :: rest =>
      force number fun number =>
        !seen.testBit number && force (seen ||| 1 <<< number) fun seen => allNew seen rest

/-- Numbers that are all new are distinct, and none is a bit seen before, by induction on them. -/
theorem allNew_nodup {seen : Nat} {numbers : List Nat} (new : allNew seen numbers = true)
    : numbers.Nodup ∧ ∀ number ∈ numbers, seen.testBit number = false := by
  induction numbers generalizing seen with
  | nil => exact ⟨.nil, fun _ member => absurd member List.not_mem_nil⟩
  | cons number rest ih =>
      simp only [allNew, force_eq, Bool.and_eq_true, Bool.not_eq_true'] at new
      obtain ⟨unseen, rest_new⟩ := new
      obtain ⟨distinct, rest_unseen⟩ := ih rest_new
      have apart {other : Nat} (member : other ∈ rest)
          : seen.testBit other = false ∧ other ≠ number := by
        have unset := rest_unseen other member
        rw [Nat.testBit_or, Bool.or_eq_false_iff] at unset
        refine ⟨unset.1, ?_⟩
        rintro rfl
        simp [Nat.testBit_shiftLeft] at unset
      refine ⟨List.nodup_cons.mpr ⟨fun member => (apart member).2 rfl, distinct⟩, ?_⟩
      intro other member
      rcases List.mem_cons.mp member with rfl | member
      · exact unseen
      · exact (apart member).1

end Search
