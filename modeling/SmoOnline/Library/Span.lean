import Mathlib.Algebra.Group.Nat.Defs
import Mathlib.Data.List.Basic

/-! Byte spans: little-endian values, slices, and runs of bounded stores.
A store that does not fit its slice stops the run and leaves what was stored before it.
-/

namespace Span

/-- A raw octet sequence. -/
abbrev Bytes := List UInt8

-----------------------------------------------------------------------------------------
-- Little-endian numbers
-----------------------------------------------------------------------------------------

/-- The `width` low octets of a number, least significant first. -/
def leBytes : Nat → Nat → Bytes
  | 0, _ => []
  | width + 1, value => UInt8.ofNat value :: leBytes width (value / 256)

/-- The number that octets spell, least significant first. -/
def leValue : Bytes → Nat
  | [] => 0
  | octet :: rest => octet.toNat + 256 * leValue rest

@[simp] theorem length_leBytes (width value : Nat) : (leBytes width value).length = width := by
  induction width generalizing value with
  | zero => rfl
  | succ width ih => simp [leBytes, ih]

/-- Reading back a number keeps it modulo its width, by induction on the width. -/
theorem leValue_leBytes (width value : Nat)
    : leValue (leBytes width value) = value % 256 ^ width := by
  induction width generalizing value with
  | zero => simp [leBytes, leValue, Nat.mod_one]
  | succ width ih =>
      have power : 256 ^ (width + 1) = 256 * 256 ^ width := Nat.pow_succ'
      rw [leBytes, leValue, ih, UInt8.toNat_ofNat', power]
      exact Nat.mod_mul.symm

/-- A number that fits its width is read back unchanged. -/
theorem leValue_leBytes_of_lt {width value : Nat} (small : value < 256 ^ width)
    : leValue (leBytes width value) = value := by
  rw [leValue_leBytes, Nat.mod_eq_of_lt small]

/-- Octets spell a number below the power of their count. -/
theorem leValue_lt (octets : Bytes) : leValue octets < 256 ^ octets.length := by
  induction octets with
  | nil => simp [leValue]
  | cons head tail ih =>
      have small := head.toNat_lt
      simp only [leValue, List.length_cons, Nat.pow_succ']
      omega

/-- Octets are the octets of the number they spell. -/
theorem leBytes_leValue (octets : Bytes) : leBytes octets.length (leValue octets) = octets := by
  induction octets with
  | nil => rfl
  | cons head tail ih =>
      have small := head.toNat_lt
      have rest : (head.toNat + 256 * leValue tail) / 256 = leValue tail := by omega
      have first : UInt8.ofNat (head.toNat + 256 * leValue tail) = head := by
        apply UInt8.toNat_inj.mp
        simp only [UInt8.toNat_ofNat']
        omega
      simp only [List.length_cons, leValue, leBytes, rest, first, ih]

theorem leBytes_leValue_of_length {octets : Bytes} {width : Nat} (length : octets.length = width)
    : leBytes width (leValue octets) = octets := by
  subst length
  exact leBytes_leValue octets

-----------------------------------------------------------------------------------------
-- Values with a fixed layout
-----------------------------------------------------------------------------------------

/-- Values stored as a fixed number of octets, which read back as the value stored. -/
class Blittable (α : Type) where
  size : Nat
  toBytes : α → Bytes
  ofBytes : Bytes → α
  length_toBytes : ∀ value, (toBytes value).length = size
  ofBytes_toBytes : ∀ value, ofBytes (toBytes value) = value

export Blittable (toBytes ofBytes ofBytes_toBytes)

attribute [simp] Blittable.length_toBytes Blittable.ofBytes_toBytes

instance : Blittable UInt8 where
  size := 1
  toBytes value := leBytes 1 value.toNat
  ofBytes octets := UInt8.ofNat (leValue octets)
  length_toBytes value := length_leBytes 1 value.toNat
  ofBytes_toBytes value := by
    rw [leValue_leBytes_of_lt value.toNat_lt, UInt8.ofNat_toNat]

instance : Blittable UInt16 where
  size := 2
  toBytes value := leBytes 2 value.toNat
  ofBytes octets := UInt16.ofNat (leValue octets)
  length_toBytes value := length_leBytes 2 value.toNat
  ofBytes_toBytes value := by
    rw [leValue_leBytes_of_lt value.toNat_lt, UInt16.ofNat_toNat]

instance : Blittable UInt32 where
  size := 4
  toBytes value := leBytes 4 value.toNat
  ofBytes octets := UInt32.ofNat (leValue octets)
  length_toBytes value := length_leBytes 4 value.toNat
  ofBytes_toBytes value := by
    rw [leValue_leBytes_of_lt value.toNat_lt, UInt32.ofNat_toNat]

/-- A layout carried over along a map with a left inverse. -/
@[reducible] def Blittable.via {α β : Type} [Blittable α] (toLayout : β → α)
    (ofLayout : α → β) (inverse : ∀ value, ofLayout (toLayout value) = value)
    : Blittable β where
  size := Blittable.size α
  toBytes value := toBytes (toLayout value)
  ofBytes octets := ofLayout (ofBytes octets)
  length_toBytes value := Blittable.length_toBytes (toLayout value)
  ofBytes_toBytes value := by rw [ofBytes_toBytes, inverse]

instance : Blittable Int8 :=
  Blittable.via Int8.toUInt8 UInt8.toInt8 (by simp)

instance : Blittable Int16 :=
  Blittable.via Int16.toUInt16 UInt16.toInt16 (by simp)

instance : Blittable Int32 :=
  Blittable.via Int32.toUInt32 UInt32.toInt32 (by simp)

/-- A truth value is one octet, any nonzero octet being true. -/
instance : Blittable Bool :=
  Blittable.via (fun value => if value then (1 : UInt8) else 0) (fun octet => octet ≠ 0)
    (by decide)

/-- Fields one after the other. -/
instance {α β : Type} [Blittable α] [Blittable β] : Blittable (α × β) where
  size := Blittable.size α + Blittable.size β
  toBytes value := toBytes value.1 ++ toBytes value.2
  ofBytes octets :=
    (ofBytes (octets.take (Blittable.size α)), ofBytes (octets.drop (Blittable.size α)))
  length_toBytes value := by simp
  ofBytes_toBytes value := by
    rw [List.take_left' (Blittable.length_toBytes _), List.drop_left' (Blittable.length_toBytes _),
      ofBytes_toBytes, ofBytes_toBytes]

@[simp] theorem size_uint8 : Blittable.size UInt8 = 1 := rfl
@[simp] theorem size_uint16 : Blittable.size UInt16 = 2 := rfl
@[simp] theorem size_uint32 : Blittable.size UInt32 = 4 := rfl
@[simp] theorem size_int8 : Blittable.size Int8 = 1 := rfl
@[simp] theorem size_int16 : Blittable.size Int16 = 2 := rfl
@[simp] theorem size_int32 : Blittable.size Int32 = 4 := rfl
@[simp] theorem size_bool : Blittable.size Bool = 1 := rfl

/-- Layouts in which every octet counts: a value read is stored as the octets read. -/
class Exact (α : Type) [Blittable α] : Prop where
  toBytes_ofBytes
    : ∀ octets : Bytes,
        octets.length = Blittable.size α → toBytes (ofBytes octets : α) = octets

instance : Exact UInt8 where
  toBytes_ofBytes octets length := by
    have small : leValue octets < 2 ^ 8 := by simpa [length] using leValue_lt octets
    change leBytes 1 (UInt8.ofNat (leValue octets)).toNat = octets
    rw [UInt8.toNat_ofNat', Nat.mod_eq_of_lt small]
    exact leBytes_leValue_of_length length

instance : Exact UInt16 where
  toBytes_ofBytes octets length := by
    have small : leValue octets < 2 ^ 16 := by simpa [length] using leValue_lt octets
    change leBytes 2 (UInt16.ofNat (leValue octets)).toNat = octets
    rw [UInt16.toNat_ofNat', Nat.mod_eq_of_lt small]
    exact leBytes_leValue_of_length length

instance : Exact UInt32 where
  toBytes_ofBytes octets length := by
    have small : leValue octets < 2 ^ 32 := by simpa [length] using leValue_lt octets
    change leBytes 4 (UInt32.ofNat (leValue octets)).toNat = octets
    rw [UInt32.toNat_ofNat', Nat.mod_eq_of_lt small]
    exact leBytes_leValue_of_length length

/-- A layout carried over along a map with a two-sided inverse stays exact. -/
theorem Exact.via {α β : Type} [Blittable α] [Exact α] (toLayout : β → α)
    (ofLayout : α → β) (inverse : ∀ value, ofLayout (toLayout value) = value)
    (back : ∀ value, toLayout (ofLayout value) = value)
    : @Exact β (Blittable.via toLayout ofLayout inverse) := by
  let _ := Blittable.via toLayout ofLayout inverse
  refine ⟨fun octets length => ?_⟩
  change toBytes (toLayout (ofLayout (ofBytes octets))) = octets
  rw [back]
  exact Exact.toBytes_ofBytes octets length

instance : Exact Int8 := Exact.via Int8.toUInt8 UInt8.toInt8 (by simp) (by simp)
instance : Exact Int16 := Exact.via Int16.toUInt16 UInt16.toInt16 (by simp) (by simp)
instance : Exact Int32 := Exact.via Int32.toUInt32 UInt32.toInt32 (by simp) (by simp)

instance {α β : Type} [Blittable α] [Blittable β] [Exact α] [Exact β] : Exact (α × β) where
  toBytes_ofBytes octets length := by
    have total : octets.length = Blittable.size α + Blittable.size β := length
    have first := @Exact.toBytes_ofBytes α _ _ (octets.take (Blittable.size α))
      (by rw [List.length_take]; omega)
    have second := @Exact.toBytes_ofBytes β _ _ (octets.drop (Blittable.size α))
      (by rw [List.length_drop]; omega)
    change toBytes (ofBytes (octets.take (Blittable.size α)) : α)
      ++ toBytes (ofBytes (octets.drop (Blittable.size α)) : β) = octets
    rw [first, second, List.take_append_drop]

/-- Different octets of the right number are different values. -/
theorem Exact.ofBytes_injective {α : Type} [Blittable α] [Exact α] {left right : Bytes}
    (leftLength : left.length = Blittable.size α) (rightLength : right.length = Blittable.size α)
    (same : (ofBytes left : α) = ofBytes right)
    : left = right := by
  rw [← @toBytes_ofBytes α _ _ left leftLength, same, toBytes_ofBytes right rightLength]

/-- A number of values stored one after the other. -/
def readMany (α : Type) [Blittable α] : Nat → Bytes → List α
  | 0, _ => []
  | count + 1, data =>
      ofBytes (data.take (Blittable.size α))
        :: readMany α count (data.drop (Blittable.size α))

/-- Stored values are read back in order, by induction on them. -/
theorem readMany_toBytes {α : Type} [Blittable α] (values : List α)
    : readMany α values.length (values.flatMap toBytes) = values := by
  induction values with
  | nil => rfl
  | cons head tail ih =>
      rw [List.length_cons, List.flatMap_cons, readMany,
        List.take_left' (Blittable.length_toBytes head),
        List.drop_left' (Blittable.length_toBytes head), ofBytes_toBytes, ih]

@[simp] theorem length_readMany {α : Type} [Blittable α] (count : Nat) (data : Bytes)
    : (readMany α count data).length = count := by
  induction count generalizing data with
  | zero => rfl
  | succ count ih => simp [readMany, ih]

-----------------------------------------------------------------------------------------
-- Slices and reads
-----------------------------------------------------------------------------------------

/-- The octets from `start` up to `stop`. -/
def slice (data : Bytes) (start stop : Nat) : Bytes := (data.drop start).take (stop - start)

/-- The slice, when its bounds are ordered and inside the span. -/
def slice? (data : Bytes) (start stop : Nat) : Option Bytes :=
  if start ≤ stop ∧ stop ≤ data.length then some (slice data start stop) else none

/-- The value at the front of a span, when the span is long enough. -/
def read (α : Type) [Blittable α] (data : Bytes) : Option α :=
  if Blittable.size α ≤ data.length then some (ofBytes (data.take (Blittable.size α))) else none

/-- The value at the front of a slice. -/
def readAt (α : Type) [Blittable α] (data : Bytes) (start : Nat) (stop : Nat := data.length)
    : Option α :=
  (slice? data start stop).bind (read α)

/-- The octets of a span with some replaced from `start` on. -/
def overwrite (data : Bytes) (start : Nat) (octets : Bytes) : Bytes :=
  data.take start ++ octets ++ data.drop (start + octets.length)

/-- A cleared span. -/
def zeros (count : Nat) : Bytes := List.replicate count 0

/-- One statement that stores octets at the front of the slice from `start` to `stop`, or to
the end of the span.
-/
structure Store where
  start : Nat
  stop : Option Nat
  octets : Bytes
  deriving DecidableEq, Repr

/-- Store a value at the front of the slice from `start` on. -/
def Store.write {α : Type} [Blittable α] (start : Nat) (value : α) (stop : Option Nat := none)
    : Store where
  start
  stop
  octets := toBytes value

/-- Copy octets to the front of the slice from `start` on. -/
def Store.copy (start : Nat) (octets : Bytes) (stop : Option Nat := none) : Store where
  start
  stop
  octets

/-- The slice exists in a span of this length and is long enough for the octets. -/
def Store.Fits (store : Store) (length : Nat) : Prop :=
  store.start ≤ store.stop.getD length
  ∧ store.stop.getD length ≤ length
  ∧ store.octets.length ≤ store.stop.getD length - store.start

instance (store : Store) (length : Nat) : Decidable (store.Fits length) := by
  unfold Store.Fits
  infer_instance

/-- Execute stores in order up to the first that does not fit: the span afterwards, and
whether all were executed.
-/
def runStores : List Store → Bytes → Bytes × Bool
  | [], data => (data, true)
  | store :: rest, data =>
      if store.Fits data.length then runStores rest (overwrite data store.start store.octets)
      else (data, false)

-----------------------------------------------------------------------------------------
-- Slices of slices and of overwritten spans
-----------------------------------------------------------------------------------------

@[simp] theorem length_slice {data : Bytes} {start stop : Nat} (inside : stop ≤ data.length)
    : (slice data start stop).length = stop - start := by
  simp only [slice, List.length_take, List.length_drop]
  omega

theorem getElem?_slice (data : Bytes) (start stop index : Nat)
    : (slice data start stop)[index]?
      = if index < stop - start then data[start + index]? else none := by
  simp only [slice, List.getElem?_take, List.getElem?_drop]

/-- A slice with bounds in order and in the span is there. -/
theorem slice?_eq_some {data : Bytes} {start stop : Nat} (order : start ≤ stop)
    (inside : stop ≤ data.length)
    : slice? data start stop = some (slice data start stop) :=
  if_pos ⟨order, inside⟩

/-- A slice past the end of the span is refused. -/
theorem slice?_eq_none {data : Bytes} {start stop : Nat} (outside : data.length < stop)
    : slice? data start stop = none := by
  rw [slice?, if_neg]
  omega

/-- A whole span is its slice from the front to the end. -/
theorem slice_all {data : Bytes} {length : Nat} (whole : data.length = length)
    : slice data 0 length = data := by
  subst whole
  simp [slice]

/-- Slicing a slice is slicing the span at the shifted bounds. -/
theorem slice_slice (data : Bytes) (start stop first last : Nat) (inside : last ≤ stop - start)
    : slice (slice data start stop) first last = slice data (start + first) (start + last) := by
  apply List.ext_getElem?
  intro index
  simp only [getElem?_slice]
  split_ifs <;> first | omega | rfl | (congr 1; omega)

/-- A slice inside a front part of the span. -/
theorem slice_front (data : Bytes) (size first last : Nat) (inside : last ≤ size)
    : slice (slice data 0 size) first last = slice data first last := by
  simpa using slice_slice data 0 size first last inside

/-- A slice inside the first part of two appended spans. -/
theorem slice_append_left (left right : Bytes) {start stop : Nat} (inside : stop ≤ left.length)
    : slice (left ++ right) start stop = slice left start stop := by
  apply List.ext_getElem?
  intro index
  simp only [getElem?_slice]
  split_ifs with short
  · rw [List.getElem?_append_left (by omega)]
  · rfl

/-- A slice inside the second part of two appended spans. -/
theorem slice_append_right (left right : Bytes) {start : Nat} (stop : Nat)
    (inside : left.length ≤ start)
    : slice (left ++ right) start stop
      = slice right (start - left.length) (stop - left.length) := by
  apply List.ext_getElem?
  intro index
  simp only [getElem?_slice]
  split_ifs with short
  · rw [List.getElem?_append_right (by omega)]
    congr 1
    omega
  · omega
  · omega
  · rfl

/-- Two adjacent slices make one. -/
theorem slice_append_slice (data : Bytes) {start middle stop : Nat} (first : start ≤ middle)
    (last : middle ≤ stop)
    : slice data start middle ++ slice data middle stop = slice data start stop := by
  rw [slice, slice, slice]
  have split : stop - start = (middle - start) + (stop - middle) := by omega
  have front : data.drop middle = (data.drop start).drop (middle - start) := by
    rw [List.drop_drop]
    congr 1
    omega
  rw [split, List.take_add, front]

@[simp] theorem length_zeros (count : Nat) : (zeros count).length = count :=
  List.length_replicate

/-- A slice of zeros. -/
theorem slice_zeros {count start stop : Nat} (inside : stop ≤ count)
    : slice (zeros count) start stop = zeros (stop - start) := by
  rw [slice, zeros, List.drop_replicate, List.take_replicate, zeros]
  congr 1
  omega

@[simp] theorem length_overwrite {data : Bytes} {start : Nat} {octets : Bytes}
    (inside : start + octets.length ≤ data.length)
    : (overwrite data start octets).length = data.length := by
  simp only [overwrite, List.length_append, List.length_take, List.length_drop]
  omega

theorem getElem?_overwrite {data : Bytes} {start : Nat} (octets : Bytes) (index : Nat)
    (inside : start ≤ data.length)
    : (overwrite data start octets)[index]?
      = if index < start then data[index]?
        else if index < start + octets.length then octets[index - start]?
        else data[index]? := by
  rw [overwrite, List.append_assoc]
  split_ifs with before within
  · rw [List.getElem?_append_left (by simp; omega), List.getElem?_take_of_lt before]
  · rw [List.getElem?_append_right (by simp; omega), List.length_take,
      Nat.min_eq_left inside, List.getElem?_append_left (by omega)]
  · rw [List.getElem?_append_right (by simp; omega), List.length_take,
      Nat.min_eq_left inside, List.getElem?_append_right (by omega), List.getElem?_drop]
    congr 1
    omega

/-- A slice apart from the octets stored is unchanged. -/
theorem slice_overwrite_apart {data octets : Bytes} {start first last : Nat}
    (inside : start ≤ data.length) (apart : last ≤ start ∨ start + octets.length ≤ first)
    : slice (overwrite data start octets) first last = slice data first last := by
  apply List.ext_getElem?
  intro index
  simp only [getElem?_slice, getElem?_overwrite _ _ inside]
  split_ifs <;> first | omega | rfl

/-- The octets stored are read back at their place. -/
theorem slice_overwrite_same {data octets : Bytes} {start stop : Nat}
    (inside : start ≤ data.length) (exactly : stop = start + octets.length)
    : slice (overwrite data start octets) start stop = octets := by
  apply List.ext_getElem?
  intro index
  simp only [getElem?_slice, getElem?_overwrite _ _ inside]
  split_ifs with short before within
  · omega
  · congr 1
    omega
  · omega
  · rw [List.getElem?_eq_none (by omega)]

/-- A slice that starts with the octets stored goes on with what was there. -/
theorem slice_overwrite_front {data octets : Bytes} {start stop : Nat}
    (inside : start ≤ data.length) (within : start + octets.length ≤ stop)
    : slice (overwrite data start octets) start stop
      = octets ++ slice data (start + octets.length) stop := by
  rw [← slice_append_slice (overwrite data start octets) (Nat.le_add_right start octets.length)
    within, slice_overwrite_same inside rfl, slice_overwrite_apart inside (Or.inr (Nat.le_refl _))]

/-- The first octet of a slice is the one at its start. -/
theorem headD_slice (data : Bytes) (start stop : Nat)
    : (slice data start stop).headD 0 = if start < stop then data.getD start 0 else 0 := by
  rw [List.headD_eq_getD, List.getD_eq_getElem?_getD, getElem?_slice]
  split_ifs with first inside inside
  · rw [Nat.add_zero, List.getD_eq_getElem?_getD]
  · omega
  · omega
  · rfl

/-- Cleared octets behind a span are what reading past its end answers. -/
theorem getD_append_zeros (data : Bytes) (count index : Nat)
    : (data ++ zeros count).getD index 0 = data.getD index 0 := by
  rw [List.getD_eq_getElem?_getD, List.getD_eq_getElem?_getD]
  by_cases inside : index < data.length
  · rw [List.getElem?_append_left inside]
  · have outside : data.length ≤ index := Nat.le_of_not_lt inside
    rw [List.getElem?_append_right outside, List.getElem?_eq_none outside, zeros,
      List.getElem?_replicate]
    split_ifs <;> rfl

-----------------------------------------------------------------------------------------
-- Reads
-----------------------------------------------------------------------------------------

/-- A read inside the span answers the value of its octets. -/
theorem readAt_eq {α : Type} [Blittable α] {data : Bytes} {start stop : Nat}
    (room : start + Blittable.size α ≤ stop) (inside : stop ≤ data.length)
    : readAt α data start stop
      = some (ofBytes (slice data start (start + Blittable.size α))) := by
  have length : (slice data start stop).length = stop - start := length_slice inside
  rw [readAt, slice?_eq_some (by omega) inside, Option.bind_some, read, if_pos (by omega)]
  congr 2
  have front := slice_slice data start stop 0 (Blittable.size α) (by omega)
  simpa [slice] using front

/-- A read beyond its slice or its span is refused. -/
theorem readAt_eq_none {α : Type} [Blittable α] {data : Bytes} {start stop : Nat}
    (short : stop < start + Blittable.size α ∨ data.length < stop)
    : readAt α data start stop = none := by
  by_cases bounds : start ≤ stop ∧ stop ≤ data.length
  · have length : (slice data start stop).length = stop - start := length_slice bounds.2
    rw [readAt, slice?, if_pos bounds, Option.bind_some, read, if_neg (by omega)]
  · rw [readAt, slice?, if_neg bounds, Option.bind_none]

-----------------------------------------------------------------------------------------
-- Runs of stores
-----------------------------------------------------------------------------------------

@[simp] theorem runStores_nil (data : Bytes) : runStores [] data = (data, true) := rfl

/-- A store that fits is executed and the run goes on. -/
theorem runStores_cons_of_fits {store : Store} {data : Bytes} (rest : List Store)
    (fits : store.Fits data.length)
    : runStores (store :: rest) data
      = runStores rest (overwrite data store.start store.octets) :=
  if_pos fits

/-- A store that does not fit ends the run. -/
theorem runStores_cons_of_not_fits {store : Store} {data : Bytes} (rest : List Store)
    (unfit : ¬store.Fits data.length)
    : runStores (store :: rest) data = (data, false) :=
  if_neg unfit

theorem Store.Fits.start_le {store : Store} {length : Nat} (fits : store.Fits length)
    : store.start ≤ length :=
  Nat.le_trans fits.1 fits.2.1

/-- A store that fits keeps the length of the span. -/
theorem Store.Fits.length_overwrite {store : Store} {data : Bytes}
    (fits : store.Fits data.length)
    : (overwrite data store.start store.octets).length = data.length := by
  obtain ⟨order, inside, room⟩ := fits
  exact Span.length_overwrite (by omega)

/-- A run of stores keeps the length of the span, by induction on the stores. -/
@[simp] theorem length_runStores (stores : List Store) (data : Bytes)
    : (runStores stores data).1.length = data.length := by
  induction stores generalizing data with
  | nil => rfl
  | cons store rest ih =>
      by_cases fits : store.Fits data.length
      · rw [runStores_cons_of_fits rest fits, ih, fits.length_overwrite]
      · rw [runStores_cons_of_not_fits rest fits]

/-- A run completes exactly when every store fits the span, by induction on the stores. -/
theorem runStores_completes_iff (stores : List Store) (data : Bytes)
    : (runStores stores data).2 = true ↔ ∀ store ∈ stores, store.Fits data.length := by
  induction stores generalizing data with
  | nil => simp
  | cons store rest ih =>
      by_cases fits : store.Fits data.length
      · rw [runStores_cons_of_fits rest fits, ih, fits.length_overwrite]
        simp [fits]
      · rw [runStores_cons_of_not_fits rest fits]
        simp [fits]

/-- A run of stores that end at `bound` leaves everything from `bound` on unchanged, by
induction on the stores.
-/
theorem slice_runStores_beyond {stores : List Store} {bound : Nat}
    (bounded : ∀ store ∈ stores, store.start + store.octets.length ≤ bound)
    (data : Bytes) {start : Nat} (stop : Nat) (beyond : bound ≤ start)
    : slice (runStores stores data).1 start stop = slice data start stop := by
  induction stores generalizing data with
  | nil => rfl
  | cons store rest ih =>
      by_cases fits : store.Fits data.length
      · have end_ := bounded store List.mem_cons_self
        have order := fits.1
        have inside := fits.2.1
        rw [runStores_cons_of_fits rest fits,
          ih (fun later member => bounded later (List.mem_cons_of_mem store member)),
          slice_overwrite_apart (by omega) (Or.inr (by omega))]
      · rw [runStores_cons_of_not_fits rest fits]

/-- A slice that every store stays apart from is unchanged, by induction on the stores. -/
theorem slice_runStores_apart {stores : List Store} {data : Bytes} {start stop : Nat}
    (fits : ∀ store ∈ stores, store.Fits data.length)
    (apart
      : ∀ store ∈ stores,
          store.start + store.octets.length ≤ start ∨ stop ≤ store.start)
    : slice (runStores stores data).1 start stop = slice data start stop := by
  induction stores generalizing data with
  | nil => rfl
  | cons head rest ih =>
      have headFits := fits head List.mem_cons_self
      have inside : head.start ≤ data.length := headFits.start_le
      rw [runStores_cons_of_fits rest headFits, ih]
      · exact slice_overwrite_apart inside (apart head List.mem_cons_self).symm
      · intro store later
        rw [headFits.length_overwrite]
        exact fits store (List.mem_cons_of_mem head later)
      · exact fun store later => apart store (List.mem_cons_of_mem head later)

/-- Where one store lands, when every other store stays apart from its slice: its octets,
and behind them what the span held before. By induction on the stores.
-/
theorem slice_runStores {stores : List Store} {data : Bytes} {store : Store} {stop : Nat}
    (fits : ∀ other ∈ stores, other.Fits data.length) (member : store ∈ stores)
    (room : store.start + store.octets.length ≤ stop)
    (apart
      : ∀ other ∈ stores,
          other = store
          ∨ other.start + other.octets.length ≤ store.start
          ∨ stop ≤ other.start)
    : slice (runStores stores data).1 store.start stop
      = store.octets ++ slice data (store.start + store.octets.length) stop := by
  induction stores generalizing data with
  | nil => exact absurd member List.not_mem_nil
  | cons head rest ih =>
      have headFits := fits head List.mem_cons_self
      have restFits
          : ∀ other ∈ rest,
              other.Fits (overwrite data head.start head.octets).length := by
        intro other later
        rw [headFits.length_overwrite]
        exact fits other (List.mem_cons_of_mem head later)
      have restApart := fun other later => apart other (List.mem_cons_of_mem head later)
      have inside : head.start ≤ data.length := headFits.start_le
      rw [runStores_cons_of_fits rest headFits]
      by_cases again : store ∈ rest
      · rw [ih restFits again restApart]
        congr 1
        rcases apart head List.mem_cons_self with same | before | after
        · exact slice_overwrite_apart inside (Or.inr (Nat.le_of_eq (by rw [same])))
        · exact slice_overwrite_apart inside (Or.inr (by omega))
        · exact slice_overwrite_apart inside (Or.inl after)
      · obtain rfl : store = head := by simpa [again] using member
        rw [← slice_overwrite_front inside room]
        exact slice_runStores_apart restFits (fun other later =>
          (restApart other later).resolve_left (fun same => again (same ▸ later)))

/-- A value stored apart from the other stores is there afterwards. -/
theorem slice_runStores_write {α : Type} [Blittable α] {stores : List Store} {data : Bytes}
    {start stop : Nat} {value : α} (bound : Option Nat)
    (fits : ∀ other ∈ stores, other.Fits data.length)
    (member : Store.write start value bound ∈ stores)
    (exactly : start + Blittable.size α = stop)
    (apart
      : ∀ other ∈ stores,
          other = Store.write start value bound
          ∨ other.start + other.octets.length ≤ start
          ∨ stop ≤ other.start)
    : slice (runStores stores data).1 start stop = toBytes value := by
  subst stop
  have size : (Store.write start value bound).octets.length = Blittable.size α :=
    Blittable.length_toBytes value
  have landed := slice_runStores fits member
    (Nat.le_of_eq (congrArg (start + ·) size)) apart
  rw [size] at landed
  simpa [slice, Store.write] using landed

/-- Octets copied apart from the other stores are there afterwards, and behind them what the
span held before.
-/
theorem slice_runStores_copy {stores : List Store} {data octets : Bytes} {start stop : Nat}
    (bound : Option Nat) (fits : ∀ other ∈ stores, other.Fits data.length)
    (member : Store.copy start octets bound ∈ stores) (room : start + octets.length ≤ stop)
    (apart
      : ∀ other ∈ stores,
          other = Store.copy start octets bound
          ∨ other.start + other.octets.length ≤ start
          ∨ stop ≤ other.start)
    : slice (runStores stores data).1 start stop
      = octets ++ slice data (start + octets.length) stop :=
  slice_runStores fits member room apart

end Span
