import Mathlib.Data.List.Basic

/-! Records in memory: members that lie one behind the other, each at the next offset its alignment
allows, and what a write to one of them leaves of the others. A write may be longer than its member.
-/

namespace Layout

/-- The octets behind an address, as far as one likes. -/
abbrev Memory (Octet : Type) : Type := Nat → Octet

/-- The room a member takes, and what its offset is a multiple of. -/
structure Member where
  size : Nat
  align : Nat

variable {Octet Field : Type}

-----------------------------------------------------------------------------------------
-- Memory
-----------------------------------------------------------------------------------------

section Octets

variable (memory : Memory Octet) (offset size : Nat) (octets : List Octet)

def load : List Octet := (List.range size).map fun index => memory (offset + index)

def store : Memory Octet := fun address =>
  if offset ≤ address then (octets[address - offset]?).getD (memory address) else memory address

/-- Octets put over the first ones of others. -/
def putOver (old : List Octet) : List Octet := octets ++ old.drop octets.length

/-- Nothing is left of octets that are no more. -/
theorem putOver_of_length_le {octets old : List Octet} (covers : old.length ≤ octets.length)
    : putOver octets old = octets := by
  rw [putOver, List.drop_eq_nil_of_le covers, List.append_nil]

@[simp] theorem length_load : (load memory offset size).length = size := by simp [load]

variable {memory offset size octets}

theorem getElem?_load {index : Nat} (inside : index < size)
    : (load memory offset size)[index]? = some (memory (offset + index)) := by
  simp [load, inside]

/-- What is stored over the first octets of a range is there, and the others are left. -/
theorem load_store_self (fits : octets.length ≤ size)
    : load (store memory offset octets) offset size
      = putOver octets (load memory offset size) := by
  apply List.ext_getElem?
  intro index
  by_cases inside : index < size
  · rw [getElem?_load inside, putOver, store, if_pos (Nat.le_add_right _ _),
      Nat.add_sub_cancel_left]
    by_cases written : index < octets.length
    · rw [List.getElem?_append_left written, List.getElem?_eq_getElem written, Option.getD_some]
    · have behind := Nat.not_lt.mp written
      rw [List.getElem?_append_right behind, List.getElem?_eq_none behind, List.getElem?_drop,
        Nat.add_sub_cancel' behind, getElem?_load inside, Option.getD_none]
  · have outside := Nat.not_lt.mp inside
    rw [List.getElem?_eq_none (by simpa using outside), List.getElem?_eq_none]
    simp only [putOver, List.length_append, List.length_drop, length_load]
    omega

/-- What is stored outside a range leaves it. -/
theorem load_store_disjoint {other : Nat}
    (disjoint : other + octets.length ≤ offset ∨ offset + size ≤ other)
    : load (store memory other octets) offset size = load memory offset size := by
  apply List.map_congr_left
  intro index inside
  have bound := List.mem_range.mp inside
  unfold store
  split_ifs with behind
  · rw [List.getElem?_eq_none (by omega), Option.getD_none]
  · rfl

end Octets

-----------------------------------------------------------------------------------------
-- What stands in memory
-----------------------------------------------------------------------------------------

section Stands

variable (memory : Memory Octet) (offset : Nat) (octets : List Octet)

/-- The octets from an address on are these. -/
def Stands : Prop := load memory offset octets.length = octets

instance [DecidableEq Octet] : Decidable (Stands memory offset octets) :=
  inferInstanceAs (Decidable (load memory offset octets.length = octets))

variable {memory offset octets}

/-- What stands in memory, octet by octet. -/
theorem stands_iff
    : Stands memory offset octets
      ↔ ∀ index octet, octets[index]? = some octet → memory (offset + index) = octet := by
  constructor
  · intro stands index octet at_index
    have inside := (List.getElem?_eq_some_iff.mp at_index).1
    have loaded := @getElem?_load _ memory offset _ _ inside
    rw [stands, at_index] at loaded
    exact (Option.some.inj loaded).symm
  · intro each
    apply List.ext_getElem?
    intro index
    by_cases inside : index < octets.length
    · have at_index := List.getElem?_eq_getElem inside
      rw [getElem?_load inside, at_index, each index _ at_index]
    · have outside := Nat.not_lt.mp inside
      rw [List.getElem?_eq_none (by simpa using outside), List.getElem?_eq_none outside]

theorem stands_singleton {octet : Octet}
    : Stands memory offset [octet] ↔ memory offset = octet := by
  simp [Stands, load]

theorem stands_append {later : List Octet}
    : Stands memory offset (octets ++ later)
      ↔ Stands memory offset octets ∧ Stands memory (offset + octets.length) later := by
  simp only [stands_iff]
  constructor
  · intro each
    constructor
    · intro index octet at_index
      have inside := (List.getElem?_eq_some_iff.mp at_index).1
      exact each index octet ((List.getElem?_append_left inside).trans at_index)
    · intro index octet at_index
      rw [Nat.add_assoc]
      apply each
      rw [List.getElem?_append_right (Nat.le_add_right _ _), Nat.add_sub_cancel_left, at_index]
  · rintro ⟨first, second⟩ index octet at_index
    by_cases inside : index < octets.length
    · exact first index octet ((List.getElem?_append_left inside).symm.trans at_index)
    · have behind := Nat.not_lt.mp inside
      rw [List.getElem?_append_right behind] at at_index
      have there := second (index - octets.length) octet at_index
      rwa [Nat.add_assoc, Nat.add_sub_cancel' behind] at there

theorem store_apply (address : Nat) (inside : offset ≤ address ∧ address < offset + octets.length)
    : some (store memory offset octets address) = octets[address - offset]? := by
  rw [store, if_pos inside.1, List.getElem?_eq_getElem (by omega), Option.getD_some]

theorem store_apply_of_outside {address : Nat}
    (outside : address < offset ∨ offset + octets.length ≤ address)
    : store memory offset octets address = memory address := by
  unfold store
  split_ifs with behind
  · rw [List.getElem?_eq_none (by omega), Option.getD_none]
  · rfl

theorem stands_store_self : Stands (store memory offset octets) offset octets := by
  rw [Stands, load_store_self (Nat.le_refl _), putOver_of_length_le (by simp)]

/-- What stands apart from a write is left. -/
theorem stands_store_iff {other : Nat} {written : List Octet}
    (apart : other + written.length ≤ offset ∨ offset + octets.length ≤ other)
    : Stands (store memory other written) offset octets ↔ Stands memory offset octets := by
  rw [Stands, load_store_disjoint apart, Stands]

/-- A text with its terminator is no longer than another one, if the other has no terminator in
it.
-/
theorem length_le_of_stands {terminator : Octet} {first second : List Octet}
    (first_stands : Stands memory offset (first ++ [terminator]))
    (second_stands : Stands memory offset (second ++ [terminator]))
    (second_text : terminator ∉ second)
    : second.length ≤ first.length := by
  by_contra longer
  have inside : first.length < second.length := Nat.not_le.mp longer
  have ended := stands_singleton.mp (stands_append.mp first_stands).2
  have at_index := List.getElem?_eq_getElem inside
  have there := stands_iff.mp (stands_append.mp second_stands).1 first.length _ at_index
  rw [ended] at there
  exact second_text (there ▸ List.getElem_mem inside)

/-- Only one text without a terminator in it stands before a terminator. -/
theorem eq_of_stands {terminator : Octet} {first second : List Octet}
    (first_stands : Stands memory offset (first ++ [terminator]))
    (second_stands : Stands memory offset (second ++ [terminator]))
    (first_text : terminator ∉ first) (second_text : terminator ∉ second)
    : first = second := by
  have length : first.length = second.length :=
    Nat.le_antisymm (length_le_of_stands second_stands first_stands first_text)
      (length_le_of_stands first_stands second_stands second_text)
  have first_there := (stands_append.mp first_stands).1
  have second_there := (stands_append.mp second_stands).1
  rw [Stands, length] at first_there
  exact first_there.symm.trans second_there

end Stands

-----------------------------------------------------------------------------------------
-- Records
-----------------------------------------------------------------------------------------

/-- The next offset that an alignment allows. -/
def alignUp (offset align : Nat) : Nat := offset + (align - offset % align) % align

theorem le_alignUp (offset align : Nat) : offset ≤ alignUp offset align := Nat.le_add_right _ _

/-- The fields of a record, in order. -/
structure Record (Field : Type) where
  fields : List Field
  member : Field → Member
  complete : ∀ field, field ∈ fields

/-- Octets that are written to a field. -/
structure Write (Field Octet : Type) where
  field : Field
  octets : List Octet
  deriving DecidableEq

namespace Record

variable [DecidableEq Field]

/-- Where a field is among fields that lie from an offset on. -/
def offsetFrom (member : Field → Member) (start : Nat) : List Field → Field → Nat
  | [], _ => start
  | field :: later, which =>
      let here := alignUp start (member field).align
      if field = which then here
      else offsetFrom member (here + (member field).size) later which

theorem le_offsetFrom (member : Field → Member) (start : Nat) (fields : List Field) (which : Field)
    : start ≤ offsetFrom member start fields which := by
  induction fields generalizing start with
  | nil => exact Nat.le_refl _
  | cons field later ih =>
      have here := le_alignUp start (member field).align
      simp only [offsetFrom]
      split_ifs
      · exact here
      · exact Nat.le_trans (Nat.le_trans here (Nat.le_add_right _ _)) (ih _)

/-- Two fields do not overlap, by induction on the fields in front of them. -/
theorem offsetFrom_disjoint (member : Field → Member) (start : Nat) {fields : List Field}
    {first second : Field} (firstThere : first ∈ fields) (secondThere : second ∈ fields)
    (different : first ≠ second)
    : offsetFrom member start fields first + (member first).size
        ≤ offsetFrom member start fields second
      ∨ offsetFrom member start fields second + (member second).size
        ≤ offsetFrom member start fields first := by
  induction fields generalizing start with
  | nil => cases firstThere
  | cons field later ih =>
      simp only [offsetFrom]
      by_cases isFirst : field = first
      · subst isFirst
        left
        rw [if_pos rfl, if_neg different]
        exact le_offsetFrom member _ later second
      · by_cases isSecond : field = second
        · subst isSecond
          right
          rw [if_pos rfl, if_neg isFirst]
          exact le_offsetFrom member _ later first
        · rw [if_neg isFirst, if_neg isSecond]
          exact ih _ ((List.mem_cons.mp firstThere).resolve_left (Ne.symm isFirst))
            ((List.mem_cons.mp secondThere).resolve_left (Ne.symm isSecond))

variable (record : Record Field) (memory : Memory Octet) (field : Field)
  (write : Write Field Octet) (writes : List (Write Field Octet))

def size : Nat := (record.member field).size

def offset : Nat := offsetFrom record.member 0 record.fields field

def read : List Octet := load memory (record.offset field) (record.size field)

theorem length_read : (record.read memory field).length = record.size field := length_load _ _ _

def put : Memory Octet := store memory (record.offset write.field) write.octets

def putAll : Memory Octet := writes.foldl record.put memory

/-- The write stays in its field. -/
def Fits : Prop := write.octets.length ≤ record.size write.field

instance : Decidable (record.Fits write) :=
  inferInstanceAs (Decidable (write.octets.length ≤ record.size write.field))

/-- What the writes to a field alone make of its octets. -/
def putOwn (old : List Octet) : List Octet :=
  writes.foldl (fun old write => if write.field = field then putOver write.octets old else old)
    old

variable {record memory field write writes}

theorem disjoint {first second : Field} (different : first ≠ second)
    : record.offset first + record.size first ≤ record.offset second
      ∨ record.offset second + record.size second ≤ record.offset first :=
  offsetFrom_disjoint record.member 0 (record.complete first) (record.complete second) different

/-- A write that stays in its field changes no other one. -/
theorem read_put (fits : record.Fits write)
    : record.read (record.put memory write) field
      = if write.field = field then putOver write.octets (record.read memory field)
        else record.read memory field := by
  unfold Fits at fits
  split_ifs with same
  · subst same
    exact load_store_self fits
  · apply load_store_disjoint
    have apart := record.disjoint same
    omega

/-- Writes that stay in their fields leave each field what its own writes make of it. -/
theorem read_putAll (fit : ∀ write ∈ writes, record.Fits write)
    : record.read (record.putAll memory writes) field
      = putOwn field writes (record.read memory field) := by
  induction writes generalizing memory with
  | nil => rfl
  | cons write later ih =>
      obtain ⟨fits, laterFit⟩ := List.forall_mem_cons.mp fit
      rw [putAll, List.foldl_cons, putOwn, List.foldl_cons, ← read_put fits]
      exact ih laterFit

/-- A field is left by writes to fields that lie behind it, however far these run on. -/
theorem read_putAll_of_before
    (before : ∀ write ∈ writes,
      record.offset field + record.size field ≤ record.offset write.field)
    : record.read (record.putAll memory writes) field = record.read memory field := by
  induction writes generalizing memory with
  | nil => rfl
  | cons write later ih =>
      obtain ⟨first, rest⟩ := List.forall_mem_cons.mp before
      rw [putAll, List.foldl_cons]
      exact (ih rest).trans (load_store_disjoint (.inr first))

/-- A field that is not written is left. -/
theorem putOwn_of_not_written (unwritten : ∀ write ∈ writes, write.field ≠ field)
    (old : List Octet)
    : putOwn field writes old = old := by
  induction writes generalizing old with
  | nil => rfl
  | cons write later ih =>
      obtain ⟨other, laterOther⟩ := List.forall_mem_cons.mp unwritten
      rw [putOwn, List.foldl_cons, if_neg other]
      exact ih laterOther old

@[simp] theorem putOwn_nil (old : List Octet) : putOwn field [] old = old := rfl

theorem putOwn_cons (write : Write Field Octet) (later : List (Write Field Octet))
    (old : List Octet)
    : putOwn field (write :: later) old
      = putOwn field later (if write.field = field then putOver write.octets old else old) :=
  rfl

@[simp] theorem putOwn_append (first second : List (Write Field Octet)) (old : List Octet)
    : putOwn field (first ++ second) old = putOwn field second (putOwn field first old) :=
  List.foldl_append

/-- Of writes for one index after the other, only those for the field's own index count. -/
theorem putOwn_flatMap {Index : Type} {indices : List Index} {index : Index}
    (writesOf : Index → List (Write Field Octet)) (there : index ∈ indices)
    (once : indices.Nodup)
    (others : ∀ other, other ≠ index → ∀ write ∈ writesOf other, write.field ≠ field)
    (old : List Octet)
    : putOwn field (indices.flatMap writesOf) old = putOwn field (writesOf index) old := by
  induction indices generalizing old with
  | nil => cases there
  | cons head rest ih =>
      obtain ⟨unique, restOnce⟩ := List.nodup_cons.mp once
      rw [List.flatMap_cons, putOwn_append]
      rcases List.mem_cons.mp there with rfl | later
      · apply putOwn_of_not_written
        intro write member
        obtain ⟨other, among, written⟩ := List.mem_flatMap.mp member
        exact others other (fun same => unique (same ▸ among)) write written
      · have before := putOwn_of_not_written (others head fun same => unique (same ▸ later)) old
        rw [before]
        exact ih later restOnce old

end Record

end Layout
