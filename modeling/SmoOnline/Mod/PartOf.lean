import SmoOnline.Library.Cuts
import SmoOnline.Library.Span

/-! `isPartOf`, which looks for one text in another. A partial match moves on the index of the text,
and the letter that ends it is passed over, be it the first of a match or the terminator.
-/

namespace SmoOnline.Mod

open Span Cuts

-----------------------------------------------------------------------------------------
-- Texts
-----------------------------------------------------------------------------------------

/-- The characters of a text up to its terminator. -/
structure CText where
  chars : Bytes
  text : 0 ∉ chars

/-- The character at an index; there is none behind the terminator. -/
def charAt (word : Bytes) (index : Nat) : Option UInt8 := (word ++ [0])[index]?

theorem charAt_append (front rest : Bytes) (index : Nat)
    : charAt (front ++ rest) (front.length + index) = charAt rest index := by
  rw [charAt, List.append_assoc, List.getElem?_append_right (Nat.le_add_right _ _),
    Nat.add_sub_cancel_left, charAt]

theorem index_le_of_charAt {word : Bytes} {index : Nat} {char : UInt8}
    (there : charAt word index = some char)
    : index ≤ word.length := by
  have inside := (List.getElem?_eq_some_iff.mp there).1
  rw [List.length_append, List.length_singleton] at inside
  exact Nat.le_of_lt_succ inside

-----------------------------------------------------------------------------------------
-- The loops
-----------------------------------------------------------------------------------------

/-- What an `int` is at most; behind it `i++` is undefined. -/
def intLimit : Nat := 2 ^ 31

/-- The inner loop, and the indices that it ends at. -/
def matchLoop (w1 w2 : Bytes) (i j : Nat) : Option (Nat × Nat) :=
  match here : charAt w1 i, charAt w2 j with
  | some c1, some c2 =>
      if c1 = c2 ∧ c2 ≠ 0 then
        if i + 1 < intLimit ∧ j + 1 < intLimit then matchLoop w1 w2 (i + 1) (j + 1) else none
      else some (i, j)
  | _, _ => none
termination_by w1.length + 1 - i
decreasing_by
  have inside := index_le_of_charAt here
  omega

/-- The inner loop moves on. -/
theorem le_of_matchLoop {w1 w2 : Bytes} {i j i' j' : Nat}
    (ends : matchLoop w1 w2 i j = some (i', j'))
    : i ≤ i' := by
  fun_induction matchLoop w1 w2 i j with
  | case1 => grind
  | case2 => grind
  | case3 => grind
  | case4 => grind

/-- The outer loop. -/
def searchLoop (w1 w2 : Bytes) (i : Nat) : Option Bool :=
  match here : charAt w1 i with
  | none => none
  | some c =>
      if c = 0 then some false
      else if some c = charAt w2 0 then
        match ends : matchLoop w1 w2 i 0 with
        | none => none
        | some (i', j) =>
            if charAt w2 j = some 0 then some true
            else if i' + 1 < intLimit then searchLoop w1 w2 (i' + 1)
            else none
      else if i + 1 < intLimit then searchLoop w1 w2 (i + 1)
      else none
termination_by w1.length + 1 - i
decreasing_by
  · have inside := index_le_of_charAt here
    have moved := le_of_matchLoop ends
    omega
  · have inside := index_le_of_charAt here
    omega

/-- `isPartOf`: what it returns, if it reads nothing behind a terminator and its indices do not
overflow.
-/
def isPartOf (w1 w2 : CText) : Option Bool :=
  if w1.chars.length ≤ 0 then some false else searchLoop w1.chars w2.chars 0

-----------------------------------------------------------------------------------------
-- One iteration
-----------------------------------------------------------------------------------------

section Iterations

variable {w1 w2 : Bytes}

theorem matchLoop_eq {i j : Nat} {c1 c2 : UInt8} (first : charAt w1 i = some c1)
    (second : charAt w2 j = some c2)
    : matchLoop w1 w2 i j
      = if c1 = c2 ∧ c2 ≠ 0 then
          if i + 1 < intLimit ∧ j + 1 < intLimit then matchLoop w1 w2 (i + 1) (j + 1) else none
        else some (i, j) := by
  rw [matchLoop]
  split
  · next d1 d2 here there =>
      obtain rfl : d1 = c1 := Option.some.inj (here.symm.trans first)
      obtain rfl : d2 = c2 := Option.some.inj (there.symm.trans second)
      rfl
  · next missing => exact absurd second (missing _ _ first)

theorem searchLoop_of_none {i : Nat} (missing : charAt w1 i = none)
    : searchLoop w1 w2 i = none := by
  rw [searchLoop]
  split
  · rfl
  · next there => cases missing.symm.trans there

theorem searchLoop_eq {i : Nat} {c : UInt8} (there : charAt w1 i = some c)
    : searchLoop w1 w2 i
      = if c = 0 then some false
        else if some c = charAt w2 0 then
          (matchLoop w1 w2 i 0).bind fun ends =>
            if charAt w2 ends.2 = some 0 then some true
            else if ends.1 + 1 < intLimit then searchLoop w1 w2 (ends.1 + 1)
            else none
        else if i + 1 < intLimit then searchLoop w1 w2 (i + 1)
        else none := by
  rw [searchLoop]
  split
  · next missing => cases missing.symm.trans there
  · next d here =>
      obtain rfl : d = c := Option.some.inj (here.symm.trans there)
      split_ifs
      · rfl
      · split
        · next ends => rw [ends, Option.bind_none]
        · next ends => rw [ends, Option.bind_some]
      · rfl
      · rfl

theorem charAt_cons_zero (char : UInt8) (rest : Bytes) : charAt (char :: rest) 0 = some char := rfl

/-- Every text has a first character, its terminator at the latest. -/
theorem exists_charAt_zero (word : Bytes) : ∃ char, charAt word 0 = some char := by
  cases word with
  | nil => exact ⟨0, rfl⟩
  | cons char rest => exact ⟨char, rfl⟩

/-- The character behind a front. -/
theorem charAt_front {front rest word : Bytes} (whole : word = front ++ rest)
    : charAt word front.length = charAt rest 0 := by
  rw [whole]
  exact charAt_append front rest 0

/-- The inner loop goes along what both have in common, by induction on it. -/
theorem matchLoop_common {front1 front2 common rest1 rest2 : Bytes} (text : 0 ∉ common)
    (whole1 : w1 = front1 ++ (common ++ rest1)) (whole2 : w2 = front2 ++ (common ++ rest2))
    (shorter : front2.length ≤ front1.length) (inside : front1.length < intLimit)
    (departs : ∀ c, charAt rest1 0 = some c → charAt rest2 0 = some c → c = 0)
    : matchLoop w1 w2 front1.length front2.length
      = if front1.length + common.length < intLimit then
          some (front1.length + common.length, front2.length + common.length)
        else none := by
  induction common generalizing front1 front2 with
  | nil =>
      obtain ⟨c1, first⟩ := exists_charAt_zero rest1
      obtain ⟨c2, second⟩ := exists_charAt_zero rest2
      have stops : ¬(c1 = c2 ∧ c2 ≠ 0) := by
        rintro ⟨rfl, nonzero⟩
        exact nonzero (departs c1 first second)
      rw [matchLoop_eq ((charAt_front whole1).trans first) ((charAt_front whole2).trans second),
        if_neg stops, List.length_nil, Nat.add_zero, Nat.add_zero, if_pos inside]
  | cons char common ih =>
      have nonzero : char ≠ 0 := fun zero => text (zero ▸ List.mem_cons_self)
      rw [matchLoop_eq (charAt_front whole1) (charAt_front whole2), if_pos ⟨rfl, nonzero⟩]
      by_cases room : front1.length + 1 < intLimit
      · have next := @ih (front1 ++ [char]) (front2 ++ [char])
          (fun member => text (List.mem_cons_of_mem char member)) (by simp [whole1])
          (by simp [whole2]) (by simpa using shorter) (by simpa using room)
        have rooms : front1.length + 1 < intLimit ∧ front2.length + 1 < intLimit :=
          ⟨room, Nat.lt_of_le_of_lt (Nat.succ_le_succ shorter) room⟩
        simp only [List.length_append, List.length_singleton, Nat.add_assoc,
          Nat.add_comm 1] at next
        rw [if_pos rooms, next, List.length_cons]
      · rw [if_neg fun both => room both.1, if_neg]
        rw [List.length_cons]
        omega

/-- So it does from the beginning of the text looked for. -/
theorem matchLoop_beginning {front common rest1 rest2 : Bytes} (text : 0 ∉ common)
    (whole1 : w1 = front ++ (common ++ rest1)) (whole2 : w2 = common ++ rest2)
    (inside : front.length < intLimit)
    (departs : ∀ c, charAt rest1 0 = some c → charAt rest2 0 = some c → c = 0)
    : matchLoop w1 w2 front.length 0
      = if front.length + common.length < intLimit then
          some (front.length + common.length, common.length)
        else none := by
  have matched := @matchLoop_common w1 w2 front [] common rest1 rest2 text whole1 whole2
    (Nat.zero_le _) inside departs
  rwa [List.length_nil, Nat.zero_add] at matched

-----------------------------------------------------------------------------------------
-- The rest of the text
-----------------------------------------------------------------------------------------

variable {front left rest more : Bytes}

/-- Nothing is left. -/
theorem searchLoop_nil (whole : w1 = front ++ []) : searchLoop w1 w2 front.length = some false := by
  rw [searchLoop_eq (charAt_front whole), if_pos rfl]

/-- What is left has a beginning in common with the text looked for, and departs from it behind. -/
theorem searchLoop_common {common rest1 rest2 : Bytes} (text : 0 ∉ common) (nonempty : common ≠ [])
    (whole1 : w1 = front ++ (common ++ rest1)) (whole2 : w2 = common ++ rest2)
    (inside : front.length < intLimit)
    (departs : ∀ c, charAt rest1 0 = some c → charAt rest2 0 = some c → c = 0)
    : searchLoop w1 w2 front.length
      = if front.length + common.length < intLimit then
          if charAt rest2 0 = some 0 then some true
          else if front.length + common.length + 1 < intLimit then
            searchLoop w1 w2 (front.length + common.length + 1)
          else none
        else none := by
  have matched := matchLoop_beginning text whole1 whole2 inside departs
  have ended : charAt w2 common.length = charAt rest2 0 := charAt_front whole2
  cases common with
  | nil => exact absurd rfl nonempty
  | cons first others =>
      have nonzero : first ≠ 0 := fun zero => text (zero ▸ List.mem_cons_self)
      have same : some first = charAt w2 0 := by rw [whole2]; rfl
      rw [searchLoop_eq (charAt_front whole1), if_neg nonzero, if_pos same, matched]
      by_cases room : front.length + (first :: others).length < intLimit
      · rw [if_pos room, if_pos room, Option.bind_some, ended]
      · rw [if_neg room, if_neg room, Option.bind_none]

/-- What is left begins with the text looked for. -/
theorem searchLoop_pattern (text : 0 ∉ w2) (nonempty : w2 ≠ []) (whole : w1 = front ++ (w2 ++ rest))
    (inside : front.length < intLimit)
    : searchLoop w1 w2 front.length
      = if front.length + w2.length < intLimit then some true else none := by
  rw [searchLoop_common text nonempty whole (List.append_nil w2).symm inside
    fun c _ last => (Option.some.inj last).symm]
  rfl

/-- What is left begins with a piece, which is passed over. -/
theorem searchLoop_piece {piece : Bytes} (text1 : 0 ∉ w1) (text2 : 0 ∉ w2)
    (isPiece : IsPiece w2 piece) (whole : w1 = front ++ (piece ++ rest))
    (inside : front.length < intLimit)
    : searchLoop w1 w2 front.length
      = if front.length + piece.length < intLimit then
          searchLoop w1 w2 (front.length + piece.length)
        else none := by
  obtain ⟨begun, letter, expected, rfl, ⟨after, begins⟩, departs⟩ := isPiece
  rw [List.append_assoc, List.singleton_append] at begins whole
  rw [List.length_append, List.length_singleton, ← Nat.add_assoc]
  obtain rfl | some_begun := eq_or_ne begun []
  · have nonzero : letter ≠ 0 := by
      rintro rfl
      exact text1 (whole ▸ List.mem_append_right _ List.mem_cons_self)
    have other : some letter ≠ charAt w2 0 := by
      rw [← begins]
      exact fun same => departs (Option.some.inj same)
    rw [searchLoop_eq (charAt_front whole), if_neg nonzero, if_neg other]
    rfl
  · have text : 0 ∉ begun := fun member => text2 (begins ▸ List.mem_append_left _ member)
    have nonzero : expected ≠ 0 := by
      rintro rfl
      exact text2 (begins ▸ List.mem_append_right _ List.mem_cons_self)
    rw [searchLoop_common text some_begun whole begins.symm inside fun c one two =>
        absurd ((Option.some.inj one).trans (Option.some.inj two).symm) departs,
      charAt_cons_zero, if_neg fun zero => nonzero (Option.some.inj zero)]
    split_ifs with room further further
    · rfl
    · rfl
    · exact absurd (Nat.lt_of_succ_lt further) room
    · rfl

/-- What is left is the beginning of a match, behind which the terminator is passed over. -/
theorem searchLoop_begun (text : 0 ∉ w2) (nonempty : left ≠ []) (some_left : more ≠ [])
    (begun : w2 = left ++ more) (whole : w1 = front ++ left) (inside : front.length < intLimit)
    : searchLoop w1 w2 front.length = none := by
  have ended : charAt more 0 ≠ some 0 := by
    cases more with
    | nil => exact absurd rfl some_left
    | cons next later =>
        intro zero
        refine text (begun ▸ List.mem_append_right left ?_)
        exact Option.some.inj zero ▸ List.mem_cons_self
  have behind : charAt w1 (front.length + left.length + 1) = none := by
    rw [charAt, whole, List.getElem?_eq_none]
    simp only [List.length_append, List.length_singleton, le_refl]
  rw [searchLoop_common (fun member => text (begun ▸ List.mem_append_left more member)) nonempty
    (whole.trans (congrArg (front ++ ·) (List.append_nil left).symm)) begun inside
    fun c last _ => (Option.some.inj last).symm, if_neg ended]
  split_ifs
  · exact searchLoop_of_none behind
  · rfl
  · rfl

/-- What the search ends with, by induction on what is left of the text. -/
theorem searchLoop_iff (text1 : 0 ∉ w1) (text2 : 0 ∉ w2) (nonempty : w2 ≠ [])
    (whole : w1 = front ++ left) (inside : front.length < intLimit)
    : (searchLoop w1 w2 front.length = some true
        ↔ ∃ length, MeetsAt w2 left length ∧ front.length + length + w2.length < intLimit)
      ∧ (searchLoop w1 w2 front.length = some false
        ↔ IsCut w2 left ∧ front.length + left.length < intLimit) := by
  induction size : left.length using Nat.strong_induction_on generalizing front left with
  | _ n ih =>
      subst size
      obtain ⟨rest, rfl⟩ | ⟨piece, rest, isPiece, rfl⟩ | ⟨more, some_left, begun⟩ :=
        text_cases w2 left
      · rw [searchLoop_pattern text2 nonempty whole inside]
        have not_cut := @not_isCut_append _ w2 rest nonempty
        simp only [meetsAt_pattern_iff, not_cut, false_and, iff_false, exists_eq_left,
          Nat.add_zero]
        split_ifs with room <;> simp [room]
      · rw [searchLoop_piece text1 text2 isPiece whole inside, isCut_append_iff isPiece]
        simp only [meetsAt_append_iff isPiece, List.length_append, ← Nat.add_assoc]
        split_ifs with room
        · have shorter : rest.length < (piece ++ rest).length := by
            have moves := List.length_pos_iff.mpr isPiece.ne_nil
            rw [List.length_append]
            omega
          have later := @ih rest.length shorter (front ++ piece) rest
            (by rw [whole, List.append_assoc]) (by rwa [List.length_append]) rfl
          rw [List.length_append] at later
          refine ⟨later.1.trans ⟨?_, ?_⟩, later.2⟩
          · rintro ⟨less, meets, fits⟩
            exact ⟨_, ⟨less, meets, rfl⟩, by omega⟩
          · rintro ⟨_, ⟨less, meets, rfl⟩, fits⟩
            exact ⟨less, meets, by omega⟩
        · constructor
          · refine iff_of_false not_false ?_
            rintro ⟨_, ⟨less, meets, rfl⟩, fits⟩
            omega
          · refine iff_of_false not_false ?_
            rintro ⟨-, fits⟩
            omega
      · obtain rfl | some_text := eq_or_ne left []
        · rw [searchLoop_nil whole]
          have never_meets := @not_meetsAt_begun _ w2 [] more some_left begun
          simp only [Option.some.injEq, Bool.false_eq_true, never_meets, false_and, exists_false,
            true_iff, true_and]
          exact ⟨.nil, inside⟩
        · rw [searchLoop_begun text2 some_text some_left begun whole inside]
          have never_meets := @not_meetsAt_begun _ w2 left more some_left begun
          have not_cut := not_isCut_begun some_text begun
          simp only [reduceCtorEq, never_meets, not_cut, false_and, exists_false, true_and]

end Iterations

-----------------------------------------------------------------------------------------
-- The search
-----------------------------------------------------------------------------------------

section Search

variable {w1 w2 : CText}

theorem isPartOf_eq_searchLoop : isPartOf w1 w2 = searchLoop w1.chars w2.chars 0 := by
  rw [isPartOf]
  split_ifs with empty
  · have nothing := List.length_eq_zero_iff.mp (Nat.le_zero.mp empty)
    exact (@searchLoop_nil w1.chars w2.chars [] nothing).symm
  · rfl

/-- The search finds a text where one begins at a cut. -/
theorem isPartOf_true_iff (nonempty : w2.chars ≠ [])
    : isPartOf w1 w2 = some true
      ↔ ∃ length, MeetsAt w2.chars w1.chars length ∧ length + w2.chars.length < intLimit := by
  have ends := @searchLoop_iff _ _ [] _ w1.text w2.text nonempty rfl (by decide)
  rw [isPartOf_eq_searchLoop]
  simpa only [List.length_nil, Nat.zero_add] using ends.1

/-- It finds none where the cutting uses the text up. -/
theorem isPartOf_false_iff (nonempty : w2.chars ≠ [])
    : isPartOf w1 w2 = some false
      ↔ IsCut w2.chars w1.chars ∧ w1.chars.length < intLimit := by
  have ends := @searchLoop_iff _ _ [] _ w1.text w2.text nonempty rfl (by decide)
  rw [isPartOf_eq_searchLoop]
  simpa only [List.length_nil, Nat.zero_add] using ends.2

/-- The search comes to an end inside both texts and finds the one in the other if it is there. -/
def Finds (w1 w2 : CText) : Prop :=
  ∃ found, isPartOf w1 w2 = some found ∧ (found = true ↔ w2.chars <:+: w1.chars)

/-- It does so if the text is there at a cut, or if it is nowhere and the cutting uses the other one
up.
-/
theorem finds_iff_cut (w1 w2 : CText) (nonempty : w2.chars ≠ [])
    : Finds w1 w2
      ↔ (∃ length, MeetsAt w2.chars w1.chars length ∧ length + w2.chars.length < intLimit)
        ∨ (¬w2.chars <:+: w1.chars ∧ IsCut w2.chars w1.chars ∧ w1.chars.length < intLimit) := by
  rw [← isPartOf_true_iff nonempty, ← isPartOf_false_iff nonempty]
  constructor
  · rintro ⟨found, ended, correct⟩
    cases found with
    | false => exact .inr ⟨fun there => Bool.noConfusion (correct.mpr there), ended⟩
    | true => exact .inl ended
  · rintro (ended | ⟨nowhere, ended⟩)
    · obtain ⟨length, meets, -⟩ := (isPartOf_true_iff nonempty).mp ended
      exact ⟨true, ended, iff_of_true rfl meets.isInfix⟩
    · exact ⟨false, ended, iff_of_false Bool.false_ne_true nowhere⟩

theorem finds_ab_in_cab : Finds ⟨[99, 97, 98], by decide⟩ ⟨[97, 98], by decide⟩ := by
  refine (finds_iff_cut _ _ (List.cons_ne_nil 97 [98])).mpr (.inl ⟨1, ?_, by decide⟩)
  refine ⟨[99], [], .cons ⟨[], 99, 97, rfl, ⟨[98], rfl⟩, by decide⟩ .nil, rfl, rfl⟩

/-- `ab` is not found in `aab`, and the search for it in `a` goes past the terminator. -/
theorem not_finds_ab
    : (([97, 98] : Bytes) <:+: [97, 97, 98]
        ∧ isPartOf ⟨[97, 97, 98], by decide⟩ ⟨[97, 98], by decide⟩ = some false
        ∧ ¬Finds ⟨[97, 97, 98], by decide⟩ ⟨[97, 98], by decide⟩)
      ∧ isPartOf ⟨[97], by decide⟩ ⟨[97, 98], by decide⟩ = none
      ∧ ¬Finds ⟨[97], by decide⟩ ⟨[97, 98], by decide⟩ := by
  have there : ([97, 98] : Bytes) <:+: [97, 97, 98] := ⟨[97], [], rfl⟩
  have missed : isPartOf ⟨[97, 97, 98], by decide⟩ ⟨[97, 98], by decide⟩ = some false := by
    refine (isPartOf_false_iff (List.cons_ne_nil 97 [98])).mpr ⟨?_, by decide⟩
    have first : IsPiece ([97, 98] : Bytes) [97, 97] := ⟨[97], 97, 98, rfl, ⟨[], rfl⟩, by decide⟩
    have second : IsPiece ([97, 98] : Bytes) [98] := ⟨[], 98, 97, rfl, ⟨[98], rfl⟩, by decide⟩
    exact .cons first (.cons second .nil)
  have behind : isPartOf ⟨[97], by decide⟩ ⟨[97, 98], by decide⟩ = none := by
    rw [isPartOf_eq_searchLoop]
    exact @searchLoop_begun [97] [97, 98] [] [97] [98] (by decide) (List.cons_ne_nil 97 [])
      (List.cons_ne_nil 98 []) rfl rfl (by decide)
  refine ⟨⟨there, missed, ?_⟩, behind, ?_⟩
  · rintro ⟨found, ended, correct⟩
    obtain rfl := Option.some.inj (missed.symm.trans ended)
    exact Bool.false_ne_true (correct.mpr there)
  · rintro ⟨found, ended, -⟩
    cases behind.symm.trans ended

end Search

end SmoOnline.Mod
