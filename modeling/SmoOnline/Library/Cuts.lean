import Mathlib.Data.List.Infix

/-! Cutting a text along a pattern from the front, into pieces that begin as the pattern does and
then depart from it by one letter. There is one way to do so, and it comes to the end of the text,
to the whole pattern, or to a beginning of the pattern at the end of the text.
-/

namespace Cuts

variable {Letter : Type}

/-- A beginning of the pattern, which may be empty, and a letter that departs from it. -/
def IsPiece (pattern piece : List Letter) : Prop :=
  ∃ begun letter expected,
    piece = begun ++ [letter] ∧ begun ++ [expected] <+: pattern ∧ letter ≠ expected

/-- Nothing but pieces. -/
inductive IsCut (pattern : List Letter) : List Letter → Prop
  | nil : IsCut pattern []
  | cons {first later} (isPiece : IsPiece pattern first) (isCut : IsCut pattern later)
    : IsCut pattern (first ++ later)

/-- The pattern is met as a whole behind nothing but pieces, which are this long. -/
def MeetsAt (pattern text : List Letter) (length : Nat) : Prop :=
  ∃ front rest, IsCut pattern front ∧ text = front ++ (pattern ++ rest) ∧ front.length = length

variable {pattern piece other text rest more : List Letter}

-----------------------------------------------------------------------------------------
-- Pieces
-----------------------------------------------------------------------------------------

theorem IsPiece.ne_nil (isPiece : IsPiece pattern piece) : piece ≠ [] := by
  obtain ⟨begun, letter, expected, rfl, -, -⟩ := isPiece
  exact List.append_ne_nil_of_right_ne_nil begun (List.cons_ne_nil letter [])

/-- A piece departs from the pattern, so no text begins with both. -/
theorem IsPiece.append_ne (isPiece : IsPiece pattern piece) : piece ++ rest ≠ pattern ++ more := by
  obtain ⟨begun, letter, expected, rfl, ⟨after, rfl⟩, departs⟩ := isPiece
  intro same
  rw [List.append_assoc, List.append_assoc, List.append_assoc, List.append_cancel_left_eq] at same
  exact departs (List.cons.inj same).1

/-- A piece is no beginning of another one. -/
theorem IsPiece.eq_of_append (first : IsPiece pattern piece)
    (second : IsPiece pattern (piece ++ more))
    : more = [] := by
  by_contra some_left
  obtain ⟨begun, letter, expected, same, ⟨after, rest⟩, -⟩ := second
  have shorter : begun = piece ++ more.dropLast := by
    have dropped := congrArg List.dropLast same
    rw [List.dropLast_concat, List.dropLast_append_of_ne_nil some_left] at dropped
    exact dropped.symm
  apply @IsPiece.append_ne _ pattern piece (more.dropLast ++ [expected] ++ after) [] first
  rw [← rest, shorter]
  simp

/-- A text begins with one piece at most. -/
theorem IsPiece.unique (first : IsPiece pattern piece) (second : IsPiece pattern other)
    (same : piece ++ rest = other ++ more)
    : piece = other := by
  obtain ⟨between, rfl, -⟩ | ⟨between, rfl, -⟩ := List.append_eq_append_iff.mp same
  · rw [first.eq_of_append second, List.append_nil]
  · rw [second.eq_of_append first, List.append_nil]

/-- A text begins with the pattern or with a piece, or it is a beginning of the pattern; by
induction on the pattern.
-/
theorem text_cases [DecidableEq Letter] (pattern text : List Letter)
    : (∃ rest, text = pattern ++ rest)
      ∨ (∃ piece rest, IsPiece pattern piece ∧ text = piece ++ rest)
      ∨ ∃ more, more ≠ [] ∧ pattern = text ++ more := by
  induction pattern generalizing text with
  | nil => exact .inl ⟨text, rfl⟩
  | cons expected pattern ih =>
      cases text with
      | nil => exact .inr (.inr ⟨_, List.cons_ne_nil _ _, rfl⟩)
      | cons letter text =>
          by_cases departs : letter = expected
          · subst departs
            obtain ⟨rest, rfl⟩ | ⟨piece, rest, isPiece, rfl⟩ | ⟨more, some_left, rfl⟩ := ih text
            · exact .inl ⟨rest, rfl⟩
            · obtain ⟨begun, last, expected, rfl, ⟨after, rfl⟩, departs⟩ := isPiece
              refine .inr (.inl ⟨letter :: begun ++ [last], rest, ?_, rfl⟩)
              exact ⟨letter :: begun, last, expected, rfl, ⟨after, rfl⟩, departs⟩
            · exact .inr (.inr ⟨more, some_left, rfl⟩)
          · refine .inr (.inl ⟨[letter], text, ?_, rfl⟩)
            exact ⟨[], letter, expected, rfl, ⟨pattern, rfl⟩, departs⟩

-----------------------------------------------------------------------------------------
-- Cuts
-----------------------------------------------------------------------------------------

theorem isCut_cases (isCut : IsCut pattern text)
    : text = []
      ∨ ∃ first later, IsPiece pattern first ∧ IsCut pattern later ∧ text = first ++ later := by
  cases isCut with
  | nil => exact .inl rfl
  | cons isPiece isCut => exact .inr ⟨_, _, isPiece, isCut, rfl⟩

/-- The piece at the front of a text can be taken off it, whether the rest is a cut -/
theorem isCut_append_iff (isPiece : IsPiece pattern piece)
    : IsCut pattern (piece ++ rest) ↔ IsCut pattern rest := by
  refine ⟨fun isCut => ?_, .cons isPiece⟩
  obtain nothing | ⟨first, later, isFirst, isLater, same⟩ := isCut_cases isCut
  · exact absurd (List.append_eq_nil_iff.mp nothing).1 isPiece.ne_nil
  · obtain rfl := isPiece.unique isFirst same
    exact List.append_cancel_left same ▸ isLater

/-- or meets the pattern. -/
theorem meetsAt_append_iff (isPiece : IsPiece pattern piece) {length : Nat}
    : MeetsAt pattern (piece ++ rest) length
      ↔ ∃ less, MeetsAt pattern rest less ∧ length = piece.length + less := by
  constructor
  · rintro ⟨front, after, isCut, same, rfl⟩
    obtain rfl | ⟨first, later, isFirst, isLater, rfl⟩ := isCut_cases isCut
    · exact absurd same isPiece.append_ne
    · rw [List.append_assoc] at same
      obtain rfl := isPiece.unique isFirst same
      exact ⟨_, ⟨later, after, isLater, List.append_cancel_left same, rfl⟩, List.length_append⟩
  · rintro ⟨_, ⟨front, after, isCut, rfl, rfl⟩, rfl⟩
    exact ⟨piece ++ front, after, .cons isPiece isCut, (List.append_assoc _ _ _).symm,
      List.length_append⟩

/-- A text that begins with the pattern is no cut, and meets it at once. -/
theorem not_isCut_append (nonempty : pattern ≠ []) : ¬IsCut pattern (pattern ++ rest) := by
  intro isCut
  obtain nothing | ⟨first, later, isFirst, -, same⟩ := isCut_cases isCut
  · exact nonempty (List.append_eq_nil_iff.mp nothing).1
  · exact isFirst.append_ne same.symm

theorem meetsAt_pattern_iff {length : Nat}
    : MeetsAt pattern (pattern ++ rest) length ↔ length = 0 := by
  constructor
  · rintro ⟨front, after, isCut, same, rfl⟩
    obtain rfl | ⟨first, later, isFirst, -, rfl⟩ := isCut_cases isCut
    · rfl
    · rw [List.append_assoc] at same
      exact absurd same.symm isFirst.append_ne
  · rintro rfl
    exact ⟨[], rest, .nil, rfl, rfl⟩

/-- A text that is a beginning of the pattern is no cut unless it is empty, and never meets it. -/
theorem not_isCut_begun (nonempty : text ≠ []) (begun : pattern = text ++ more)
    : ¬IsCut pattern text := by
  intro isCut
  obtain rfl | ⟨first, later, isFirst, -, rfl⟩ := isCut_cases isCut
  · exact nonempty rfl
  · apply @IsPiece.append_ne _ pattern first (later ++ more) [] isFirst
    rw [begun, List.append_nil, List.append_assoc]

theorem not_meetsAt_begun (some_left : more ≠ []) (begun : pattern = text ++ more) {length : Nat}
    : ¬MeetsAt pattern text length := by
  rintro ⟨front, rest, -, rfl, -⟩
  have lengths := congrArg List.length begun
  have left := List.length_pos_iff.mpr some_left
  simp only [List.length_append] at lengths
  omega

/-- What is met is in the text. -/
theorem MeetsAt.isInfix {length : Nat} (meets : MeetsAt pattern text length)
    : pattern <:+: text := by
  obtain ⟨front, rest, -, rfl, -⟩ := meets
  exact ⟨front, rest, List.append_assoc _ _ _⟩

end Cuts
