import Mathlib.Data.List.Basic

/-! Ledgers of what was given to and heard from several parties. Items are put down for a party
under a kind, until the account of the party is cleared.
-/

namespace Ledger

inductive Entry (Kind Party Item : Type)
  | put (kind : Kind) (party : Party) (item : Item)
  | clear (party : Party)
  deriving DecidableEq, Repr

variable {Kind Party Item : Type}

/-- The item was put down for the party, whose account was not cleared since. -/
def Holds (entries : List (Entry Kind Party Item)) (kind : Kind) (party : Party) (item : Item)
    : Prop :=
  ∃ before after,
    entries = before ++ .put kind party item :: after ∧ .clear party ∉ after

/-- No item is delivered to a party whose account holds it in any way. -/
def OnceOnly (Delivers : Kind → Prop) (entries : List (Entry Kind Party Item)) : Prop :=
  ∀ before kind party item after,
    entries = before ++ .put kind party item :: after
    → Delivers kind
    → ∀ earlier, ¬Holds before earlier party item

variable {first later : List (Entry Kind Party Item)} {kind : Kind} {party : Party} {item : Item}

theorem not_holds_nil
    : ¬Holds ([] : List (Entry Kind Party Item)) kind party item := by
  rintro ⟨before, after, same, _⟩
  cases before <;> cases same

/-- What a ledger holds behind some more entries. -/
theorem holds_append
    : Holds (first ++ later) kind party item
      ↔ Holds later kind party item
        ∨ (Holds first kind party item ∧ .clear party ∉ later) := by
  constructor
  · rintro ⟨before, after, same, kept⟩
    rcases List.append_eq_append_iff.mp same with ⟨middle, rfl, tail⟩ | ⟨middle, rfl, tail⟩
    · exact .inl ⟨middle, after, tail, kept⟩
    · cases middle with
      | nil => exact .inl ⟨[], after, tail.symm, kept⟩
      | cons entry rest =>
          obtain ⟨rfl, rfl⟩ := List.cons.inj tail
          have both : .clear party ∉ rest ++ later := kept
          rw [List.mem_append, not_or] at both
          exact .inr ⟨⟨before, rest, rfl, both.1⟩, both.2⟩
  · rintro (⟨before, after, rfl, kept⟩ | ⟨⟨before, after, rfl, kept⟩, keptLater⟩)
    · exact ⟨first ++ before, after, (List.append_assoc _ _ _).symm, kept⟩
    · refine ⟨before, after ++ later, List.append_assoc _ _ _, ?_⟩
      rw [List.mem_append, not_or]
      exact ⟨kept, keptLater⟩

theorem Holds.append (held : Holds first kind party item) (kept : .clear party ∉ later)
    : Holds (first ++ later) kind party item :=
  holds_append.mpr (.inr ⟨held, kept⟩)

theorem holds_cons {entry : Entry Kind Party Item}
    : Holds (entry :: later) kind party item
      ↔ Holds later kind party item ∨ (entry = .put kind party item ∧ .clear party ∉ later) := by
  have single : Holds [entry] kind party item ↔ entry = .put kind party item := by
    constructor
    · rintro ⟨before, after, same, _⟩
      rcases List.append_eq_singleton_iff.mp same.symm with ⟨_, tail⟩ | ⟨_, tail⟩
      · exact (List.cons.inj tail).1.symm
      · cases tail
    · rintro rfl
      exact ⟨[], [], rfl, List.not_mem_nil⟩
  rw [← List.singleton_append, holds_append, single]

instance Holds.decidable [DecidableEq Kind] [DecidableEq Party] [DecidableEq Item]
    (kind : Kind) (party : Party) (item : Item)
    : (entries : List (Entry Kind Party Item)) → Decidable (Holds entries kind party item)
  | [] => .isFalse not_holds_nil
  | _ :: rest =>
      let _ := Holds.decidable kind party item rest
      decidable_of_iff _ holds_cons.symm

/-- An entry that is held was put down. -/
theorem Holds.mem {entries : List (Entry Kind Party Item)}
    (holds : Holds entries kind party item)
    : .put kind party item ∈ entries := by
  obtain ⟨before, after, rfl, _⟩ := holds
  exact List.mem_append_right before List.mem_cons_self

/-- Where nothing is cleared behind them, entries that were put down are held. -/
theorem holds_of_mem {entries : List (Entry Kind Party Item)}
    (put : .put kind party item ∈ entries) (kept : .clear party ∉ entries)
    : Holds entries kind party item := by
  obtain ⟨before, after, rfl⟩ := List.append_of_mem put
  refine ⟨before, after, rfl, fun cleared => kept ?_⟩
  exact List.mem_append_right before (List.mem_cons_of_mem _ cleared)

theorem onceOnly_nil {Delivers : Kind → Prop}
    : OnceOnly Delivers ([] : List (Entry Kind Party Item)) := by
  intro before kind party item after same
  cases before <;> cases same

/-- More entries keep a ledger in order when what they deliver is not held before them and
they do not put down any of it twice.
-/
theorem OnceOnly.append {Delivers : Kind → Prop} (inOrder : OnceOnly Delivers first)
    (fresh
      : ∀ kind party item,
          .put kind party item ∈ later → Delivers kind
          → ∀ earlier, ¬Holds first earlier party item)
    (apart
      : later.Pairwise fun left right =>
          ∀ earlier kind party item,
            left = .put earlier party item → right = .put kind party item → ¬Delivers kind)
    : OnceOnly Delivers (first ++ later) := by
  intro before kind party item after same delivers earlier held
  rcases List.append_eq_append_iff.mp same with ⟨middle, rfl, rfl⟩ | ⟨middle, rfl, tail⟩
  · rcases holds_append.mp held with inMiddle | ⟨inFirst, _⟩
    · have pair := (List.pairwise_append.mp apart).2.2 _ inMiddle.mem _ List.mem_cons_self
      exact pair earlier kind party item rfl rfl delivers
    · refine fresh kind party item ?_ delivers earlier inFirst
      exact List.mem_append_right middle List.mem_cons_self
  · cases middle with
    | nil =>
        rw [List.append_nil] at inOrder fresh
        have ahead : .put kind party item :: after = later := tail
        refine fresh kind party item ?_ delivers earlier held
        rw [← ahead]
        exact List.mem_cons_self
    | cons entry rest =>
        obtain ⟨rfl, rfl⟩ := List.cons.inj tail
        exact inOrder before kind party item rest rfl delivers earlier held

end Ledger
