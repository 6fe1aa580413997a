import SmoOnline.Mod.Crc32
import SmoOnline.Mod.PlayerAnims

/-! The tables of names that are looked up by hash: those of captures and of animations. Only
hashes are compared, so what is told of a text is told of its hash.
-/

namespace SmoOnline.Mod

open Span Crc32

-----------------------------------------------------------------------------------------
-- Any table
-----------------------------------------------------------------------------------------

namespace Crc32

/-- `Type`, an `enum class` over `s16`, of which any value can be made. -/
abbrev TypeValue := Int16

/-- `Type::Unknown` -/
def unknown : TypeValue := -1

/-- `ToType(s_Hashes.FindIndex(str))`, by way of a `uint16_t`. -/
def HashArray.findType {strings : List Bytes} (s_Hashes : HashArray strings) (str : Bytes)
    : TypeValue :=
  (s_Hashes.findIndex str).toUInt64.toUInt16.toInt16

/-- `FindStr` of a table of names, which has an empty text for what is not in the table. -/
def findStrIn (s_Strs : List String) (type : TypeValue) : Bytes :=
  if 0 ≤ type.toInt then (s_Strs[type.toInt.toNat]?).elim [] PlayerAnims.octets else []

/-- The texts of a table. -/
def texts (s_Strs : List String) : List Bytes := s_Strs.map PlayerAnims.octets

variable {s_Strs : List String} (s_Hashes : HashArray (texts s_Strs)) {str : Bytes}

theorem texts_getElem? {i : Nat} {text : Bytes}
    : (texts s_Strs)[i]? = some text
      ↔ ∃ name, s_Strs[i]? = some name ∧ PlayerAnims.octets name = text := by
  simp [texts]

/-- An index below `2^15` comes through `ToType` as it is. -/
theorem toType_ofNat {i : Nat} (small : i < 2 ^ 15)
    : (Int32.ofNat i).toInt64.toUInt64.toUInt16.toInt16.toInt = i := by
  have narrowed : (UInt64.ofNat i).toUInt16 = UInt16.ofNat i := by simp
  rw [(toInt64_ofNat_eq_iff (by omega)).mpr (by omega : i < 2 ^ 31)]
  change (UInt64.ofNat i).toUInt16.toInt16.toInt = i
  rw [narrowed]
  exact Int16.toInt_ofNat_of_lt small

/-- A type is an index, where it has room for the indices of the table. -/
theorem findType_of_hash (small : s_Strs.length ≤ 2 ^ 15)
    (listed : hashStr str ∈ (texts s_Strs).map hashStr)
    : ∃ (i : Nat) (name : String),
        s_Strs[i]? = some name ∧ hashStr (PlayerAnims.octets name) = hashStr str
        ∧ (s_Hashes.findType str).toInt = i := by
  obtain ⟨text, member, same⟩ := List.mem_map.mp listed
  obtain ⟨i, at_index⟩ := List.mem_iff_getElem?.mp member
  obtain ⟨j, other, at_j, hash, found⟩ := findIndex_of_hash s_Hashes at_index same.symm
  obtain ⟨name, at_name, rfl⟩ := texts_getElem?.mp at_j
  refine ⟨j, name, at_name, hash, ?_⟩
  have inside := (List.getElem?_eq_some_iff.mp at_name).1
  rw [HashArray.findType, found]
  exact toType_ofNat (by omega)

theorem findType_of_not_mem (unlisted : hashStr str ∉ (texts s_Strs).map hashStr)
    : s_Hashes.findType str = unknown := by
  rw [HashArray.findType, findIndex_of_not_mem s_Hashes unlisted]
  rfl

/-- A text is unknown exactly if no name of the table has its hash. -/
theorem findType_eq_unknown_iff (small : s_Strs.length ≤ 2 ^ 15)
    : s_Hashes.findType str = unknown ↔ hashStr str ∉ (texts s_Strs).map hashStr := by
  refine ⟨fun same listed => ?_, findType_of_not_mem s_Hashes⟩
  obtain ⟨i, name, -, -, type⟩ := findType_of_hash s_Hashes small listed
  rw [same] at type
  exact absurd (type.symm ▸ Int.natCast_nonneg i) (by decide)

/-- What a table gives back for a text is the name that has its hash, or nothing. -/
theorem findStrIn_findType (small : s_Strs.length ≤ 2 ^ 15)
    : (∃ name ∈ s_Strs,
        hashStr (PlayerAnims.octets name) = hashStr str
        ∧ findStrIn s_Strs (s_Hashes.findType str) = PlayerAnims.octets name)
      ∨ hashStr str ∉ (texts s_Strs).map hashStr
        ∧ findStrIn s_Strs (s_Hashes.findType str) = [] := by
  by_cases listed : hashStr str ∈ (texts s_Strs).map hashStr
  · obtain ⟨i, name, at_name, hash, type⟩ := findType_of_hash s_Hashes small listed
    refine .inl ⟨name, List.mem_of_getElem? at_name, hash, ?_⟩
    simp [findStrIn, type, at_name]
  · refine .inr ⟨listed, ?_⟩
    rw [findType_of_not_mem s_Hashes listed]
    rfl

end Crc32

-----------------------------------------------------------------------------------------
-- Captures
-----------------------------------------------------------------------------------------

namespace CaptureTypes

/-- `s_Strs`, by `CaptureTypes::Type` from 0 on. -/
def s_Strs : List String := [
  "AnagramAlphabetCharacter", "Byugo", "Bubble", "Bull", "Car", "ElectricWire",
  "KillerLauncherMagnum", "KuriboPossessed", "WanwanBig", "KillerLauncher", "Koopa", "Wanwan",
  "Pukupuku", "PukupukuSnow", "Gamane", "FireBrosPossessed", "PackunFire", "Frog", "Kakku",
  "Hosui", "HammerBrosPossessed", "Megane", "KaronWing", "KuriboWing", "PackunPoison", "Radicon",
  "Tank", "Tsukkun", "TRex", "TRexSleep", "TRexPatrol", "Imomu", "SenobiGeneratePoint"]

/-- `s_Hashes` -/
def s_Hashes : HashArray (texts s_Strs) := .new (texts s_Strs)

def findType (str : Bytes) : TypeValue := s_Hashes.findType str

def findStr (type : TypeValue) : Bytes := findStrIn s_Strs type

/-- Captures have distinct hashes. -/
theorem s_Strs_distinct : ((texts s_Strs).map hashStr).Nodup :=
  distinct_of_allNew 56001 (by decide +kernel)

end CaptureTypes

/-- `isInCaptureList` of `captureSync.cpp` -/
def isInCaptureList (capture : Bytes) : Bool := CaptureTypes.findType capture ≠ unknown

-----------------------------------------------------------------------------------------
-- Animations
-----------------------------------------------------------------------------------------

namespace PlayerAnims

/-- `s_Hashes` -/
def s_Hashes : HashArray (texts s_Strs) := .new (texts s_Strs)

def findType (str : Bytes) : TypeValue := s_Hashes.findType str

/-- Animations have distinct hashes, which differ by this modulus already. -/
theorem s_Strs_distinct : ((texts s_Strs).map hashStr).Nodup :=
  distinct_of_allNew 56001 (by decide +kernel)

end PlayerAnims

-----------------------------------------------------------------------------------------
-- What is found
-----------------------------------------------------------------------------------------

/-- A name of the table has the hash of a text. -/
def SharesHash (s_Strs : List String) (str : Bytes) : Prop :=
  ∃ name ∈ s_Strs, hashStr (PlayerAnims.octets name) = hashStr str

theorem sharesHash_iff {s_Strs : List String} {str : Bytes}
    : SharesHash s_Strs str ↔ hashStr str ∈ (texts s_Strs).map hashStr := by
  simp [SharesHash, texts]

/-- What a table with distinct hashes does with a text: it knows the text by the hash of a name,
whose type it gives, and the name of that type is the text itself if the text is listed.
-/
structure KnowsByHash (s_Strs : List String) (findType : Bytes → TypeValue)
    (findStr : TypeValue → Bytes)
    : Prop where
  known : ∀ str, findType str ≠ unknown ↔ SharesHash s_Strs str
  found
    : ∀ str,
        SharesHash s_Strs str
        → ∃ name ∈ s_Strs,
            hashStr (PlayerAnims.octets name) = hashStr str
            ∧ findStr (findType str) = PlayerAnims.octets name
  nothing : ∀ str, ¬SharesHash s_Strs str → findStr (findType str) = []
  listed
    : ∀ name ∈ s_Strs,
        findStr (findType (PlayerAnims.octets name)) = PlayerAnims.octets name

/-- A hash in a table with distinct hashes is that of one text. -/
theorem eq_of_hash {strings : List Bytes} (distinct : (strings.map hashStr).Nodup)
    {first second : Bytes} (first_mem : first ∈ strings) (second_mem : second ∈ strings)
    (same : hashStr first = hashStr second)
    : first = second :=
  List.inj_on_of_nodup_map distinct first_mem second_mem same

theorem knowsByHash {s_Strs : List String} (s_Hashes : HashArray (texts s_Strs))
    (small : s_Strs.length ≤ 2 ^ 15) (distinct : ((texts s_Strs).map hashStr).Nodup)
    : KnowsByHash s_Strs s_Hashes.findType (findStrIn s_Strs) where
  known str := by rw [ne_eq, findType_eq_unknown_iff s_Hashes small, not_not, sharesHash_iff]
  found str shared := by
    rcases @findStrIn_findType s_Strs s_Hashes str small with found | ⟨unlisted, -⟩
    · exact found
    · exact absurd (sharesHash_iff.mp shared) unlisted
  nothing str unshared := by
    rcases findStrIn_findType s_Hashes small with ⟨name, member, hash, -⟩ | ⟨-, empty⟩
    · exact absurd ⟨name, member, hash⟩ unshared
    · exact empty
  listed name member := by
    have text_mem {other : String} (member : other ∈ s_Strs)
        : PlayerAnims.octets other ∈ texts s_Strs :=
      List.mem_map_of_mem member
    rcases findStrIn_findType s_Hashes small with ⟨other, other_mem, hash, found⟩ | ⟨unlisted, -⟩
    · rw [found]
      exact eq_of_hash distinct (text_mem other_mem) (text_mem member) hash
    · exact absurd (List.mem_map_of_mem (text_mem member)) unlisted

/-- A lookup tells that a text has the hash of the name found, and that it is that name only if
it is listed. So the tables of captures and animations know texts by their hashes.
-/
theorem found_by_hash
    : (∀ (strings : List Bytes) (array : HashArray strings) (str : Bytes) (i : Nat),
        (strings.map hashStr).Nodup
        → (array.findIndex str).toInt = i
        → ∃ string,
            strings[i]? = some string ∧ hashStr string = hashStr str
            ∧ (str ∈ strings → string = str))
      ∧ KnowsByHash CaptureTypes.s_Strs CaptureTypes.findType CaptureTypes.findStr
      ∧ KnowsByHash PlayerAnims.s_Strs PlayerAnims.findType PlayerAnims.findStr
      ∧ ∀ capture, isInCaptureList capture ↔ SharesHash CaptureTypes.s_Strs capture := by
  have captures : KnowsByHash CaptureTypes.s_Strs CaptureTypes.findType CaptureTypes.findStr :=
    knowsByHash CaptureTypes.s_Hashes (by decide) CaptureTypes.s_Strs_distinct
  refine ⟨?_, captures, ?_, fun capture => ?_⟩
  · intro strings array str i distinct at_i
    by_cases listed : hashStr str ∈ strings.map hashStr
    · obtain ⟨string, member, hash⟩ := List.mem_map.mp listed
      obtain ⟨j, at_j⟩ := List.mem_iff_getElem?.mp member
      rw [findIndex_of_distinct array distinct at_j hash.symm] at at_i
      have inside := (List.getElem?_eq_some_iff.mp at_j).1
      obtain rfl : i = j :=
        eq_of_toInt64_ofNat (inside.trans_le (length_le_of_distinct distinct)) at_i
      exact ⟨string, at_j, hash, fun str_mem => eq_of_hash distinct member str_mem hash⟩
    · rw [findIndex_of_not_mem array listed] at at_i
      have negative : (-1 : Int64).toInt = -1 := rfl
      omega
  · exact knowsByHash PlayerAnims.s_Hashes (by decide +kernel) PlayerAnims.s_Strs_distinct
  · rw [← captures.known capture, isInCaptureList, decide_eq_true_iff]

theorem found_by_hash_frog
    : ∃ string,
        (texts CaptureTypes.s_Strs)[17]? = some string
        ∧ hashStr string = hashStr (PlayerAnims.octets "Frog")
        ∧ (PlayerAnims.octets "Frog" ∈ texts CaptureTypes.s_Strs
            → string = PlayerAnims.octets "Frog") := by
  have listed : (texts CaptureTypes.s_Strs)[17]? = some (PlayerAnims.octets "Frog") :=
    texts_getElem?.mpr ⟨"Frog", rfl, rfl⟩
  refine found_by_hash.1 _ CaptureTypes.s_Hashes _ _ CaptureTypes.s_Strs_distinct ?_
  rw [findIndex_of_distinct CaptureTypes.s_Hashes CaptureTypes.s_Strs_distinct listed rfl]
  decide

/-- A name that is not listed is taken for the capture whose hash it has. -/
theorem unlisted_found
    : ((texts CaptureTypes.s_Strs).map hashStr).Nodup
      ∧ CaptureTypes.s_Hashes.findIndex (PlayerAnims.octets "Goombagpufby") = 28
      ∧ (texts CaptureTypes.s_Strs)[28]? = some (PlayerAnims.octets "TRex")
      ∧ PlayerAnims.octets "Goombagpufby" ∉ texts CaptureTypes.s_Strs
      ∧ isInCaptureList (PlayerAnims.octets "Goombagpufby") = true
      ∧ CaptureTypes.findStr (CaptureTypes.findType (PlayerAnims.octets "Goombagpufby"))
        = PlayerAnims.octets "TRex" := by
  have hash
      : hashStr (PlayerAnims.octets "Goombagpufby") = hashStr (PlayerAnims.octets "TRex") := by
    decide +kernel
  have listed : (texts CaptureTypes.s_Strs)[28]? = some (PlayerAnims.octets "TRex") :=
    texts_getElem?.mpr ⟨"TRex", rfl, rfl⟩
  have found : CaptureTypes.s_Hashes.findIndex (PlayerAnims.octets "Goombagpufby") = 28 :=
    findIndex_of_distinct _ CaptureTypes.s_Strs_distinct listed hash
  have type : CaptureTypes.findType (PlayerAnims.octets "Goombagpufby") = 28 := by
    rw [CaptureTypes.findType, HashArray.findType, found]
    rfl
  refine ⟨CaptureTypes.s_Strs_distinct, found, listed, by decide +kernel, ?_, ?_⟩
  · rw [isInCaptureList, type]
    rfl
  · rw [type]
    rfl

end SmoOnline.Mod
