import Mathlib.Data.Fintype.Card
import Mathlib.Data.Nat.Bitwise
import SmoOnline.Library.Search
import SmoOnline.Library.Span

/-! Hashed tables of names: a text is looked up by its CRC-32 among the sorted hashes of a table.
A text is the octets of its `string_view`, which for a name of a table end before its zero.
-/

namespace SmoOnline.Mod.Crc32

open Span

-----------------------------------------------------------------------------------------
-- The hash
-----------------------------------------------------------------------------------------

/-- `s_Table` -/
def s_Table : List UInt32 := [
  0x00000000, 0x77073096, 0xee0e612c, 0x990951ba, 0x076dc419, 0x706af48f, 0xe963a535,
  0x9e6495a3, 0x0edb8832, 0x79dcb8a4, 0xe0d5e91e, 0x97d2d988, 0x09b64c2b, 0x7eb17cbd,
  0xe7b82d07, 0x90bf1d91, 0x1db71064, 0x6ab020f2, 0xf3b97148, 0x84be41de, 0x1adad47d,
  0x6ddde4eb, 0xf4d4b551, 0x83d385c7, 0x136c9856, 0x646ba8c0, 0xfd62f97a, 0x8a65c9ec,
  0x14015c4f, 0x63066cd9, 0xfa0f3d63, 0x8d080df5, 0x3b6e20c8, 0x4c69105e, 0xd56041e4,
  0xa2677172, 0x3c03e4d1, 0x4b04d447, 0xd20d85fd, 0xa50ab56b, 0x35b5a8fa, 0x42b2986c,
  0xdbbbc9d6, 0xacbcf940, 0x32d86ce3, 0x45df5c75, 0xdcd60dcf, 0xabd13d59, 0x26d930ac,
  0x51de003a, 0xc8d75180, 0xbfd06116, 0x21b4f4b5, 0x56b3c423, 0xcfba9599, 0xb8bda50f,
  0x2802b89e, 0x5f058808, 0xc60cd9b2, 0xb10be924, 0x2f6f7c87, 0x58684c11, 0xc1611dab,
  0xb6662d3d, 0x76dc4190, 0x01db7106, 0x98d220bc, 0xefd5102a, 0x71b18589, 0x06b6b51f,
  0x9fbfe4a5, 0xe8b8d433, 0x7807c9a2, 0x0f00f934, 0x9609a88e, 0xe10e9818, 0x7f6a0dbb,
  0x086d3d2d, 0x91646c97, 0xe6635c01, 0x6b6b51f4, 0x1c6c6162, 0x856530d8, 0xf262004e,
  0x6c0695ed, 0x1b01a57b, 0x8208f4c1, 0xf50fc457, 0x65b0d9c6, 0x12b7e950, 0x8bbeb8ea,
  0xfcb9887c, 0x62dd1ddf, 0x15da2d49, 0x8cd37cf3, 0xfbd44c65, 0x4db26158, 0x3ab551ce,
  0xa3bc0074, 0xd4bb30e2, 0x4adfa541, 0x3dd895d7, 0xa4d1c46d, 0xd3d6f4fb, 0x4369e96a,
  0x346ed9fc, 0xad678846, 0xda60b8d0, 0x44042d73, 0x33031de5, 0xaa0a4c5f, 0xdd0d7cc9,
  0x5005713c, 0x270241aa, 0xbe0b1010, 0xc90c2086, 0x5768b525, 0x206f85b3, 0xb966d409,
  0xce61e49f, 0x5edef90e, 0x29d9c998, 0xb0d09822, 0xc7d7a8b4, 0x59b33d17, 0x2eb40d81,
  0xb7bd5c3b, 0xc0ba6cad, 0xedb88320, 0x9abfb3b6, 0x03b6e20c, 0x74b1d29a, 0xead54739,
  0x9dd277af, 0x04db2615, 0x73dc1683, 0xe3630b12, 0x94643b84, 0x0d6d6a3e, 0x7a6a5aa8,
  0xe40ecf0b, 0x9309ff9d, 0x0a00ae27, 0x7d079eb1, 0xf00f9344, 0x8708a3d2, 0x1e01f268,
  0x6906c2fe, 0xf762575d, 0x806567cb, 0x196c3671, 0x6e6b06e7, 0xfed41b76, 0x89d32be0,
  0x10da7a5a, 0x67dd4acc, 0xf9b9df6f, 0x8ebeeff9, 0x17b7be43, 0x60b08ed5, 0xd6d6a3e8,
  0xa1d1937e, 0x38d8c2c4, 0x4fdff252, 0xd1bb67f1, 0xa6bc5767, 0x3fb506dd, 0x48b2364b,
  0xd80d2bda, 0xaf0a1b4c, 0x36034af6, 0x41047a60, 0xdf60efc3, 0xa867df55, 0x316e8eef,
  0x4669be79, 0xcb61b38c, 0xbc66831a, 0x256fd2a0, 0x5268e236, 0xcc0c7795, 0xbb0b4703,
  0x220216b9, 0x5505262f, 0xc5ba3bbe, 0xb2bd0b28, 0x2bb45a92, 0x5cb36a04, 0xc2d7ffa7,
  0xb5d0cf31, 0x2cd99e8b, 0x5bdeae1d, 0x9b64c2b0, 0xec63f226, 0x756aa39c, 0x026d930a,
  0x9c0906a9, 0xeb0e363f, 0x72076785, 0x05005713, 0x95bf4a82, 0xe2b87a14, 0x7bb12bae,
  0x0cb61b38, 0x92d28e9b, 0xe5d5be0d, 0x7cdcefb7, 0x0bdbdf21, 0x86d3d2d4, 0xf1d4e242,
  0x68ddb3f8, 0x1fda836e, 0x81be16cd, 0xf6b9265b, 0x6fb077e1, 0x18b74777, 0x88085ae6,
  0xff0f6a70, 0x66063bca, 0x11010b5c, 0x8f659eff, 0xf862ae69, 0x616bffd3, 0x166ccf45,
  0xa00ae278, 0xd70dd2ee, 0x4e048354, 0x3903b3c2, 0xa7672661, 0xd06016f7, 0x4969474d,
  0x3e6e77db, 0xaed16a4a, 0xd9d65adc, 0x40df0b66, 0x37d83bf0, 0xa9bcae53, 0xdebb9ec5,
  0x47b2cf7f, 0x30b5ffe9, 0xbdbdf21c, 0xcabac28a, 0x53b39330, 0x24b4a3a6, 0xbad03605,
  0xcdd70693, 0x54de5729, 0x23d967bf, 0xb3667a2e, 0xc4614ab8, 0x5d681b02, 0x2a6f2b94,
  0xb40bbe37, 0xc30c8ea1, 0x5a05df1b, 0x2d02ef8d]

/-- One round of the loop of `HashStr`. Whether a `char` has a sign is masked away. -/
def hashOctet (crc : UInt32) (c : UInt8) : UInt32 :=
  (crc >>> 8) ^^^ s_Table.getD ((crc ^^^ c.toUInt32) &&& 0xff).toNat 0

def hashStr (str : Bytes) : UInt32 := str.foldl hashOctet 0xffffffff ^^^ 0xffffffff

-----------------------------------------------------------------------------------------
-- The table of hashes
-----------------------------------------------------------------------------------------

/-- `PairType`: a hash, and an index that is an `int` whatever the length of the table. -/
abbrev PairType := UInt32 × Int32

/-- What the constructor stores before it sorts. -/
def pairs (strings : List Bytes) : List PairType :=
  strings.zipIdx.map fun (string, i) => (hashStr string, Int32.ofNat i)

/-- `struct HashArray` of some strings: their pairs in some order by hash, as `std::sort` leaves
those of one hash in any order.
-/
structure HashArray (strings : List Bytes) where
  m_Hashes : List PairType
  perm : m_Hashes.Perm (pairs strings)
  sorted : m_Hashes.Pairwise fun left right => left.1.toNat ≤ right.1.toNat

/-- `HashArray(strings)`, with a sort that keeps the order of what is equal. -/
def HashArray.new (strings : List Bytes) : HashArray strings where
  m_Hashes := (pairs strings).insertionSort fun left right => left.1.toNat ≤ right.1.toNat
  perm := List.perm_insertionSort _ _
  sorted := List.pairwise_insertionSort _ _

/-- `FindIndex` -/
def HashArray.findIndex {strings : List Bytes} (array : HashArray strings) (str : Bytes) : Int64 :=
  match Search.find (fun pair : PairType => pair.1.toNat) array.m_Hashes (hashStr str).toNat with
  | some pair => pair.2.toInt64
  | none => -1

variable {strings : List Bytes} (array : HashArray strings) {str : Bytes}

theorem mem_pairs_iff {pair : PairType}
    : pair ∈ pairs strings
      ↔ ∃ i string, strings[i]? = some string ∧ pair = (hashStr string, Int32.ofNat i) := by
  simp only [pairs, List.mem_map, Prod.exists, List.mem_zipIdx_iff_getElem?]
  constructor
  · rintro ⟨string, i, at_index, same⟩
    exact ⟨i, string, at_index, same.symm⟩
  · rintro ⟨i, string, at_index, same⟩
    exact ⟨string, i, at_index, same.symm⟩

/-- A text that is found has the hash of a name whose index it is found at. -/
theorem findIndex_of_hash {i : Nat} {string : Bytes} (at_index : strings[i]? = some string)
    (same : hashStr str = hashStr string)
    : ∃ j other,
        strings[j]? = some other ∧ hashStr other = hashStr str
        ∧ array.findIndex str = (Int32.ofNat j).toInt64 := by
  have stored : (hashStr string, Int32.ofNat i) ∈ array.m_Hashes :=
    array.perm.mem_iff.mpr (mem_pairs_iff.mpr ⟨i, string, at_index, rfl⟩)
  have found := Search.find_isSome array.sorted stored (congrArg UInt32.toNat same.symm)
  obtain ⟨pair, found⟩ := Option.isSome_iff_exists.mp found
  obtain ⟨member, hash⟩ := Search.mem_of_find found
  obtain ⟨j, other, at_j, rfl⟩ := mem_pairs_iff.mp (array.perm.mem_iff.mp member)
  refine ⟨j, other, at_j, UInt32.toNat_inj.mp hash, ?_⟩
  rw [HashArray.findIndex, found]

/-- A text with the hash of no name is not found. -/
theorem findIndex_of_not_mem (unlisted : hashStr str ∉ strings.map hashStr)
    : array.findIndex str = -1 := by
  unfold HashArray.findIndex
  split
  · next pair found =>
      obtain ⟨member, hash⟩ := Search.mem_of_find found
      obtain ⟨j, other, at_j, rfl⟩ := mem_pairs_iff.mp (array.perm.mem_iff.mp member)
      have listed := List.mem_map_of_mem (List.mem_of_getElem? at_j) (f := hashStr)
      exact absurd (UInt32.toNat_inj.mp hash ▸ listed) unlisted
  · rfl

/-- Where the hashes are distinct a text is found at the only name that has its hash. -/
theorem findIndex_of_distinct (distinct : (strings.map hashStr).Nodup) {i : Nat} {string : Bytes}
    (at_index : strings[i]? = some string) (same : hashStr str = hashStr string)
    : array.findIndex str = (Int32.ofNat i).toInt64 := by
  obtain ⟨j, other, at_j, hash, found⟩ := findIndex_of_hash array at_index same
  have first : (strings.map hashStr)[i]? = some (hashStr string) := by simp [at_index]
  have second : (strings.map hashStr)[j]? = some (hashStr string) := by simp [at_j, hash, same]
  obtain ⟨i_lt, -⟩ := List.getElem?_eq_some_iff.mp first
  obtain rfl : i = j := (List.getElem?_inj i_lt distinct).mp (first.trans second.symm)
  exact found

/-- Distinct hashes are no more than there are values of 32 bits. -/
theorem length_le_of_distinct (distinct : (strings.map hashStr).Nodup)
    : strings.length ≤ 2 ^ 32 := by
  have values : (strings.map fun string => (hashStr string).toFin).Nodup := by
    have injective : Function.Injective UInt32.toFin := fun _ _ => UInt32.toFin_inj.mp
    simpa [Function.comp_def] using distinct.map injective
  simpa using values.length_le_card

/-- An `int` holds the lower half of the indices as they are. -/
theorem toInt64_ofNat_eq_iff {i : Nat} (bound : i < 2 ^ 32)
    : (Int32.ofNat i).toInt64 = Int64.ofNat i ↔ i < 2 ^ 31 := by
  rw [← Int64.toInt_inj, Int32.toInt_toInt64, Int32.toInt_ofNat', Int64.toInt_ofNat']
  simp only [Int.bmod, Int32.size, Int64.size]
  omega

/-- An index found at or above zero is the index that was stored. -/
theorem eq_of_toInt64_ofNat {i j : Nat} (bound : j < 2 ^ 32)
    (same : (Int32.ofNat j).toInt64.toInt = i)
    : i = j := by
  rw [Int32.toInt_toInt64, Int32.toInt_ofNat'] at same
  simp only [Int.bmod, Int32.size] at same
  omega

-----------------------------------------------------------------------------------------
-- Hashes of many texts
-----------------------------------------------------------------------------------------

/-- The words of the table, 32 bits for each. -/
def words : Nat := s_Table.foldr (fun word rest => rest <<< 32 ||| word.toNat) 0

def wordAt (i : Nat) : Nat := (words >>> (32 * i)) % 2 ^ 32

theorem wordAt_eq {i : Nat} (i_lt : i < 256) : wordAt i = (s_Table.getD i 0).toNat := by
  have every
      : (List.range 256).all (fun i => wordAt i == (s_Table.getD i 0).toNat) = true := by
    decide +kernel
  exact beq_iff_eq.mp (List.all_eq_true.mp every i (List.mem_range.mpr i_lt))

/-- The loop of `HashStr` on numbers. -/
def hashNat : Nat → Bytes → Nat
  | crc, [] => crc
  | crc, c :: rest =>
      Search.force ((crc >>> 8) ^^^ wordAt ((crc ^^^ c.toNat) % 256)) fun next => hashNat next rest

/-- The loop on numbers is the loop, by induction on the octets. -/
theorem hashNat_eq (crc : UInt32) (str : Bytes)
    : hashNat crc.toNat str = (str.foldl hashOctet crc).toNat := by
  induction str generalizing crc with
  | nil => rfl
  | cons c rest ih =>
      have masked : ((crc ^^^ c.toUInt32) &&& 0xff).toNat = (crc.toNat ^^^ c.toNat) % 256 := by
        have mask := Nat.and_two_pow_sub_one_eq_mod (crc.toNat ^^^ c.toNat) 8
        simpa [UInt32.toNat_and, UInt32.toNat_xor] using mask
      have round
          : crc.toNat >>> 8 ^^^ wordAt ((crc.toNat ^^^ c.toNat) % 256)
            = (hashOctet crc c).toNat := by
        rw [wordAt_eq (Nat.mod_lt _ (by decide)), hashOctet, UInt32.toNat_xor, masked]
        rfl
      rw [hashNat, Search.force_eq, round, ih]
      rfl

/-- Texts whose hashes differ by a modulus have distinct hashes. -/
theorem distinct_of_allNew (modulus : Nat)
    (new : Search.allNew 0 (strings.map fun str => hashNat 0xffffffff str % modulus) = true)
    : (strings.map hashStr).Nodup := by
  have distinct := (Search.allNew_nodup new).1
  have folded
      : (strings.map fun str => hashNat 0xffffffff str % modulus)
        = (strings.map hashStr).map fun hash => (hash ^^^ 0xffffffff).toNat % modulus := by
    rw [List.map_map]
    refine List.map_congr_left fun str _ => ?_
    have loop := hashNat_eq 0xffffffff str
    simp only [Function.comp_apply, hashStr, UInt32.xor_assoc, UInt32.xor_self, UInt32.xor_zero]
    rw [← loop]
    rfl
  exact List.Nodup.of_map _ (folded ▸ distinct)

-----------------------------------------------------------------------------------------
-- Texts of four octets
-----------------------------------------------------------------------------------------

/-- The place where a round looks up the table. -/
def place (crc : UInt32) (c : UInt8) : Nat := ((crc ^^^ c.toUInt32) &&& 0xff).toNat

theorem place_lt (crc : UInt32) (c : UInt8) : place crc c < 256 := by
  rw [place, UInt32.toNat_and]
  exact @Nat.and_lt_two_pow _ 255 8 (by decide)

theorem place_eq (crc : UInt32) (c : UInt8) : place crc c = crc.toNat % 256 ^^^ c.toNat := by
  have masked : place crc c = (crc.toNat ^^^ c.toNat) &&& (2 ^ 8 - 1) := by
    simp [place, UInt32.toNat_and, UInt32.toNat_xor]
  have small : c.toNat % 2 ^ 8 = c.toNat := Nat.mod_eq_of_lt c.toNat_lt
  rw [masked, Nat.and_two_pow_sub_one_eq_mod, Nat.xor_mod_two_pow, small]

/-- From one state, different octets look up different places. -/
theorem place_inj {crc : UInt32} {c d : UInt8} (same : place crc c = place crc d) : c = d := by
  rw [place_eq, place_eq] at same
  exact UInt8.toNat_inj.mp (Nat.xor_right_injective same)

/-- The first octets of the table's words are all different. -/
theorem s_Table_top
    : ((List.range 256).map fun i => (s_Table.getD i 0).toBitVec >>> 24).Nodup := by
  have new : Search.allNew 0 ((List.range 256).map fun i => wordAt i >>> 24) = true := by
    decide +kernel
  have numbers
      : ((List.range 256).map fun i => (s_Table.getD i 0).toBitVec >>> 24).map BitVec.toNat
        = (List.range 256).map fun i => wordAt i >>> 24 := by
    rw [List.map_map]
    refine List.map_congr_left fun i member => ?_
    rw [wordAt_eq (List.mem_range.mp member), Function.comp_apply, BitVec.toNat_ushiftRight,
      UInt32.toNat_toBitVec]
  have distinct := (Search.allNew_nodup new).1
  rw [← numbers] at distinct
  exact List.Nodup.of_map BitVec.toNat distinct

theorem s_Table_inj {i j : Nat} (i_lt : i < 256) (j_lt : j < 256)
    (same : (s_Table.getD i 0).toBitVec >>> 24 = (s_Table.getD j 0).toBitVec >>> 24)
    : i = j :=
  List.inj_on_of_nodup_map s_Table_top (List.mem_range.mpr i_lt) (List.mem_range.mpr j_lt) same

/-- What a round leaves, moved down by whole octets. -/
theorem hashOctet_shift (crc : UInt32) (c : UInt8) (n : Nat)
    : (hashOctet crc c).toBitVec >>> n
      = (crc.toBitVec >>> (8 + n)) ^^^ ((s_Table.getD (place crc c) 0).toBitVec >>> n) := by
  have moved : (crc >>> 8).toBitVec = crc.toBitVec >>> 8 := rfl
  rw [hashOctet, UInt32.toBitVec_xor, BitVec.ushiftRight_xor_distrib, moved, place,
    BitVec.shiftRight_add]

/-- A round tells the place that it looked up by the first octet that it leaves, and with that
what is left of the state before it.
-/
theorem hashOctet_inj {crc other : UInt32} {c d : UInt8} {n : Nat} (small : n ≤ 24)
    (same : (hashOctet crc c).toBitVec >>> n = (hashOctet other d).toBitVec >>> n)
    : place crc c = place other d ∧ crc.toBitVec >>> (8 + n) = other.toBitVec >>> (8 + n) := by
  have top (crc : UInt32) (c : UInt8)
      : (hashOctet crc c).toBitVec >>> 24
        = (s_Table.getD (place crc c) 0).toBitVec >>> 24 := by
    have gone : crc.toBitVec >>> (8 + 24) = 0#32 := BitVec.ushiftRight_eq_zero le_rfl
    rw [hashOctet_shift, gone, BitVec.zero_xor]
  have same_place : place crc c = place other d := by
    refine s_Table_inj (place_lt crc c) (place_lt other d) ?_
    have further := congrArg (fun state : BitVec 32 => state >>> (24 - n)) same
    simp only [← BitVec.shiftRight_add, Nat.add_sub_cancel' small, top] at further
    exact further
  refine ⟨same_place, ?_⟩
  rw [hashOctet_shift, hashOctet_shift, same_place] at same
  exact (BitVec.xor_left_inj _).mp same

/-- Octets are determined by as many octets of the state that they lead to, by induction on the
last of them.
-/
theorem foldl_hashOctet_inj (crc : UInt32) {xs ys : Bytes} {n : Nat}
    (xs_length : xs.length + n = 4) (ys_length : ys.length + n = 4)
    (same
      : (xs.foldl hashOctet crc).toBitVec >>> (8 * n)
        = (ys.foldl hashOctet crc).toBitVec >>> (8 * n))
    : xs = ys := by
  induction xs using List.reverseRecOn generalizing ys n with
  | nil =>
      have empty : ys.length = 0 := by
        rw [List.length_nil] at xs_length
        omega
      exact (List.eq_nil_of_length_eq_zero empty).symm
  | append_singleton xs c ih =>
      rcases List.eq_nil_or_concat' ys with rfl | ⟨ys, d, rfl⟩
      · simp only [List.length_append, List.length_singleton, List.length_nil]
          at xs_length ys_length
        omega
      · simp only [List.length_append, List.length_singleton] at xs_length ys_length
        simp only [List.foldl_append, List.foldl_cons, List.foldl_nil] at same
        obtain ⟨same_place, before⟩ := hashOctet_inj (by omega) same
        have shift : 8 + 8 * n = 8 * (n + 1) := by omega
        rw [shift] at before
        obtain rfl := @ih ys (n + 1) (by omega) (by omega) before
        rw [place_inj same_place]

/-- Texts of four octets have different hashes. -/
theorem hashStr_inj {xs ys : Bytes} (xs_length : xs.length = 4) (ys_length : ys.length = 4)
    (same : hashStr xs = hashStr ys)
    : xs = ys := by
  have state : xs.foldl hashOctet 0xffffffff = ys.foldl hashOctet 0xffffffff :=
    (UInt32.xor_left_inj _).mp same
  exact @foldl_hashOctet_inj 0xffffffff xs ys 0 xs_length ys_length (by rw [state])

/-- The text of four octets for a number, none of them zero. -/
def quad (n : Nat) : Bytes :=
  [UInt8.ofNat (n % 255 + 1), UInt8.ofNat (n / 255 % 255 + 1),
    UInt8.ofNat (n / 255 / 255 % 255 + 1), UInt8.ofNat (n / 255 / 255 / 255 % 255 + 1)]

theorem quad_inj {m n : Nat} (m_lt : m < 255 ^ 4) (n_lt : n < 255 ^ 4) (same : quad m = quad n)
    : m = n := by
  have digit {a b : Nat} (same : UInt8.ofNat (a % 255 + 1) = UInt8.ofNat (b % 255 + 1))
      : a % 255 = b % 255 := by
    have values := congrArg UInt8.toNat same
    simp only [UInt8.toNat_ofNat'] at values
    omega
  simp only [quad, List.cons.injEq, and_true] at same
  obtain ⟨first, second, third, fourth⟩ := same
  have first := digit first
  have second := digit second
  have third := digit third
  have fourth := digit fourth
  omega

/-- So many texts of four octets. -/
def quads (length : Nat) : List Bytes := (List.range length).map quad

theorem quads_distinct {length : Nat} (bound : length ≤ 255 ^ 4)
    : ((quads length).map hashStr).Nodup := by
  rw [quads, List.map_map]
  refine (List.nodup_map_iff_inj_on List.nodup_range).mpr fun m m_lt n n_lt same => ?_
  have m_lt := List.mem_range.mp m_lt
  have n_lt := List.mem_range.mp n_lt
  exact quad_inj (by omega) (by omega) (hashStr_inj rfl rfl same)

theorem quads_getElem? {length n : Nat} (inside : n < length)
    : (quads length)[n]? = some (quad n) := by
  simp [quads, inside]

-----------------------------------------------------------------------------------------
-- Lookups
-----------------------------------------------------------------------------------------

/-- The text of every index that an `int` holds is found where it is, and no text without a
listed hash is found.
-/
theorem findIndex_strings (distinct : (strings.map hashStr).Nodup)
    : (∀ i string,
        strings[i]? = some string → (array.findIndex string = Int64.ofNat i ↔ i < 2 ^ 31))
      ∧ ∀ str, hashStr str ∉ strings.map hashStr → array.findIndex str = -1 := by
  refine ⟨fun i string at_index => ?_, fun str => findIndex_of_not_mem array⟩
  have inside := (List.getElem?_eq_some_iff.mp at_index).1
  rw [findIndex_of_distinct array distinct at_index rfl]
  exact toInt64_ofNat_eq_iff (inside.trans_le (length_le_of_distinct distinct))

theorem findIndex_strings_three
    : (∀ i string,
        (quads 3)[i]? = some string
        → ((HashArray.new (quads 3)).findIndex string = Int64.ofNat i ↔ i < 2 ^ 31))
      ∧ ∀ str,
          hashStr str ∉ (quads 3).map hashStr → (HashArray.new (quads 3)).findIndex str = -1 :=
  findIndex_strings (.new (quads 3)) (quads_distinct (by decide))

/-- The last of `2^31 + 1` texts with distinct hashes, none with a zero in it, is found below
zero.
-/
theorem findIndex_quads
    : ((quads (2 ^ 31 + 1)).map hashStr).Nodup
      ∧ (quads (2 ^ 31 + 1))[2 ^ 31]? = some (quad (2 ^ 31))
      ∧ ∀ array : HashArray (quads (2 ^ 31 + 1)),
          array.findIndex (quad (2 ^ 31)) = -2147483648 := by
  have distinct : ((quads (2 ^ 31 + 1)).map hashStr).Nodup := quads_distinct (by decide)
  have last : (quads (2 ^ 31 + 1))[2 ^ 31]? = some (quad (2 ^ 31)) :=
    quads_getElem? (Nat.lt_succ_self _)
  refine ⟨distinct, last, fun array => ?_⟩
  rw [findIndex_of_distinct array distinct last rfl]
  decide

end SmoOnline.Mod.Crc32
