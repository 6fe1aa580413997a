import Mathlib.Data.List.DropRight
import Mathlib.Tactic.Basic
import SmoOnline.Library.Span

/-! UTF-8 text with replacement of ill-formed input.
Encoding is the standard one; decoding walks the octets once and answers each maximal
ill-formed part with one replacement character, so it never fails and may lengthen text.
-/

namespace Utf8

open Span (Bytes)

/-- Well-formed text: a sequence of Unicode scalar values. -/
abbrev Text := List Char

/-- The character that stands for one ill-formed part. -/
def replacement : Char := Char.ofNat 0xFFFD

/-- The NUL character, which C strings end with. -/
def nul : Char := Char.ofNat 0

/-- The octets of a text, character after character. -/
def encode (text : Text) : Bytes := text.flatMap String.utf8EncodeChar

/-- Where a decoder stands between two octets: at a character boundary, or after `seen`
octets of a character that owes `owed` more, the next one within `lower` and `upper`.
-/
inductive Decoder
  | ground
  | within (seen owed lower upper code : Nat)
  deriving DecidableEq, Repr

/-- The effect of an octet read at a character boundary. -/
def lead (octet : Nat) : Text × Decoder :=
  if octet ≤ 0x7F then ([Char.ofNat octet], .ground)
  else if 0xC2 ≤ octet ∧ octet ≤ 0xDF then ([], .within 1 1 0x80 0xBF (octet - 0xC0))
  else if octet = 0xE0 then ([], .within 1 2 0xA0 0xBF 0)
  else if octet = 0xED then ([], .within 1 2 0x80 0x9F 13)
  else if 0xE1 ≤ octet ∧ octet ≤ 0xEF then ([], .within 1 2 0x80 0xBF (octet - 0xE0))
  else if octet = 0xF0 then ([], .within 1 3 0x90 0xBF 0)
  else if 0xF1 ≤ octet ∧ octet ≤ 0xF3 then ([], .within 1 3 0x80 0xBF (octet - 0xF0))
  else if octet = 0xF4 then ([], .within 1 3 0x80 0x8F 4)
  else ([replacement], .ground)

/-- One octet: the characters it completes and where the decoder stands afterwards.
An octet that cannot continue a character ends the ill-formed part before it and is read
again at the boundary.
-/
def Decoder.step : Decoder → Nat → Text × Decoder
  | .ground, octet => lead octet
  | .within seen owed lower upper code, octet =>
      if lower ≤ octet ∧ octet ≤ upper then
        if owed = 1 then ([Char.ofNat (code * 64 + (octet - 0x80))], .ground)
        else ([], .within (seen + 1) (owed - 1) 0x80 0xBF (code * 64 + (octet - 0x80)))
      else (replacement :: (lead octet).1, (lead octet).2)

/-- The text a decoder reads from the remaining octets. -/
def Decoder.run : Decoder → Bytes → Text
  | .ground, [] => []
  | .within .., [] => [replacement]
  | decoder, octet :: rest =>
      (decoder.step octet.toNat).1 ++ (decoder.step octet.toNat).2.run rest

/-- The text of an octet sequence, ill-formed parts replaced. -/
def decode (octets : Bytes) : Text := Decoder.ground.run octets

@[simp] theorem encode_nil : encode [] = [] := rfl

@[simp] theorem encode_cons (head : Char) (tail : Text)
    : encode (head :: tail) = String.utf8EncodeChar head ++ encode tail := by
  simp [encode]

@[simp] theorem encode_append (left right : Text)
    : encode (left ++ right) = encode left ++ encode right := by
  simp [encode]

@[simp] theorem decode_nil : decode [] = [] := rfl

@[simp] theorem Decoder.step_ground (octet : Nat) : Decoder.ground.step octet = lead octet := rfl

@[simp] theorem Decoder.run_cons (decoder : Decoder) (octet : UInt8) (rest : Bytes)
    : decoder.run (octet :: rest)
      = (decoder.step octet.toNat).1 ++ (decoder.step octet.toNat).2.run rest := by
  cases decoder <;> rfl

-----------------------------------------------------------------------------------------
-- Decoding undoes encoding
-----------------------------------------------------------------------------------------

/-- A scalar value is below the surrogates or between them and the last code point. -/
theorem scalar_range (char : Char)
    : char.toNat < 0xD800 ∨ 0xDFFF < char.toNat ∧ char.toNat < 0x110000 :=
  char.valid

/-- A seven-bit octet is a character of its own. -/
theorem lead_ascii {octet : Nat} (ascii : octet ≤ 0x7F)
    : lead octet = ([Char.ofNat octet], .ground) := by
  simp [lead, ascii]

/-- A two-octet lead leaves its five low bits and owes one octet. -/
theorem lead_two {octet : Nat} (low : 0xC2 ≤ octet) (high : octet ≤ 0xDF)
    : lead octet = ([], .within 1 1 0x80 0xBF (octet - 0xC0)) := by
  unfold lead
  rw [if_neg (by omega), if_pos ⟨low, high⟩]

/-- A three-octet lead owes two octets; overlong forms and surrogates narrow the window. -/
theorem lead_three {octet : Nat} (low : 0xE0 ≤ octet) (high : octet ≤ 0xEF)
    : lead octet
      = ([], .within 1 2 (if octet = 0xE0 then 0xA0 else 0x80)
          (if octet = 0xED then 0x9F else 0xBF) (octet - 0xE0)) := by
  obtain rfl | rfl | ⟨notFirst, notSurrogates⟩
      : octet = 0xE0 ∨ octet = 0xED ∨ octet ≠ 0xE0 ∧ octet ≠ 0xED := by
    omega
  · rfl
  · rfl
  · have middle : 0xE1 ≤ octet ∧ octet ≤ 0xEF := by omega
    unfold lead
    rw [if_neg (by omega), if_neg (by omega), if_neg notFirst, if_neg notSurrogates, if_pos middle,
      if_neg notFirst, if_neg notSurrogates]

/-- A four-octet lead owes three octets; the first and last planes narrow the window. -/
theorem lead_four {octet : Nat} (low : 0xF0 ≤ octet) (high : octet ≤ 0xF4)
    : lead octet
      = ([], .within 1 3 (if octet = 0xF0 then 0x90 else 0x80)
          (if octet = 0xF4 then 0x8F else 0xBF) (octet - 0xF0)) := by
  obtain rfl | rfl | ⟨notFirst, notLast⟩
      : octet = 0xF0 ∨ octet = 0xF4 ∨ octet ≠ 0xF0 ∧ octet ≠ 0xF4 := by
    omega
  · rfl
  · rfl
  · have middle : 0xF1 ≤ octet ∧ octet ≤ 0xF3 := by omega
    unfold lead
    rw [if_neg (by omega), if_neg (by omega), if_neg (by omega), if_neg (by omega),
      if_neg (by omega), if_neg notFirst, if_pos middle, if_neg notFirst, if_neg notLast]

/-- The last owed octet completes its character. -/
theorem step_last {seen lower upper code octet : Nat} (low : lower ≤ octet)
    (high : octet ≤ upper)
    : Decoder.step (.within seen 1 lower upper code) octet
      = ([Char.ofNat (code * 64 + (octet - 0x80))], .ground) := by
  simp [Decoder.step, low, high]

/-- An earlier owed octet only extends the code. -/
theorem step_more {seen owed lower upper code octet : Nat} (low : lower ≤ octet)
    (high : octet ≤ upper)
    : Decoder.step (.within seen (owed + 2) lower upper code) octet
      = ([], .within (seen + 1) (owed + 1) 0x80 0xBF (code * 64 + (octet - 0x80))) := by
  simp [Decoder.step, low, high]

/-- The octets of one character decode to that character, whatever follows them.
Witness: case analysis on the number of octets, each octet inside its decoder's window.
-/
theorem run_encodeChar (char : Char) (rest : Bytes)
    : Decoder.ground.run (String.utf8EncodeChar char ++ rest)
      = char :: Decoder.ground.run rest := by
  have range := scalar_range char
  have same : Char.ofNat char.toNat = char := Char.ofNat_toNat char
  simp only [Char.toNat] at range same
  unfold String.utf8EncodeChar
  generalize char.val.toNat = code at range same
  dsimp only
  split_ifs with one two three
  · simp only [List.cons_append, List.nil_append, Decoder.run_cons, Decoder.step_ground,
      UInt8.toNat_ofNat']
    rw [Nat.mod_eq_of_lt (by omega), lead_ascii one]
    simp only [List.cons_append, List.nil_append, same]
  · simp only [List.cons_append, List.nil_append, Decoder.run_cons, Decoder.step_ground,
      UInt8.toNat_ofNat']
    rw [lead_two (by omega) (by omega), step_last (by omega) (by omega)]
    simp only [List.cons_append, List.nil_append]
    have value
        : ((code / 64 % 32 + 192) % 2 ^ 8 - 192) * 64 + ((code % 64 + 128) % 2 ^ 8 - 128)
          = code := by omega
    rw [value, same]
  · simp only [List.cons_append, List.nil_append, Decoder.run_cons, Decoder.step_ground,
      UInt8.toNat_ofNat']
    rw [lead_three (by omega) (by omega), step_more (by split <;> omega) (by split <;> omega),
      step_last (by omega) (by omega)]
    simp only [List.nil_append, List.cons_append]
    have value
        : (((code / 4096 % 16 + 224) % 2 ^ 8 - 224) * 64
            + ((code / 64 % 64 + 128) % 2 ^ 8 - 128)) * 64
            + ((code % 64 + 128) % 2 ^ 8 - 128)
          = code := by omega
    rw [value, same]
  · simp only [List.cons_append, List.nil_append, Decoder.run_cons, Decoder.step_ground,
      UInt8.toNat_ofNat']
    rw [lead_four (by omega) (by omega), step_more (by split <;> omega) (by split <;> omega),
      step_more (by omega) (by omega), step_last (by omega) (by omega)]
    simp only [List.nil_append, List.cons_append]
    have value
        : ((((code / 262144 % 8 + 240) % 2 ^ 8 - 240) * 64
            + ((code / 4096 % 64 + 128) % 2 ^ 8 - 128)) * 64
            + ((code / 64 % 64 + 128) % 2 ^ 8 - 128)) * 64
            + ((code % 64 + 128) % 2 ^ 8 - 128)
          = code := by omega
    rw [value, same]

/-- Decoding restores an encoded text and goes on with what follows it, by induction on
the text.
-/
theorem decode_encode_append (text : Text) (rest : Bytes)
    : decode (encode text ++ rest) = text ++ decode rest := by
  induction text with
  | nil => rfl
  | cons head tail ih =>
      rw [encode_cons, List.append_assoc, decode, run_encodeChar]
      exact congrArg (head :: ·) ih

/-- Decoding undoes encoding. -/
@[simp] theorem decode_encode (text : Text) : decode (encode text) = text := by
  simpa using decode_encode_append text []

-----------------------------------------------------------------------------------------
-- Well-formed decoder positions
-----------------------------------------------------------------------------------------

/-- The positions a decoder reaches from the boundary, one constructor for each number of
octets read and owed. The bounds keep overlong forms, surrogates and codes past the last
plane out of every completion.
-/
inductive Decoder.Valid : Decoder → Prop
  | ground : Decoder.Valid .ground
  | twoLead {code : Nat} (low : 2 ≤ code) (high : code < 32)
    : Decoder.Valid (.within 1 1 0x80 0xBF code)
  | threeLead {lower upper code : Nat} (least : 0x80 ≤ lower) (most : upper ≤ 0xBF)
    (high : code < 16) (overlong : 0 < code ∨ 0xA0 ≤ lower)
    (surrogate : code ≠ 13 ∨ upper ≤ 0x9F)
    : Decoder.Valid (.within 1 2 lower upper code)
  | threeLast {code : Nat} (low : 32 ≤ code) (high : code < 1024)
    (surrogate : code < 0x360 ∨ 0x380 ≤ code)
    : Decoder.Valid (.within 2 1 0x80 0xBF code)
  | fourLead {lower upper code : Nat} (least : 0x80 ≤ lower) (most : upper ≤ 0xBF)
    (high : code ≤ 4) (overlong : 0 < code ∨ 0x90 ≤ lower) (plane : code < 4 ∨ upper ≤ 0x8F)
    : Decoder.Valid (.within 1 3 lower upper code)
  | fourNext {code : Nat} (low : 16 ≤ code) (high : code < 0x110)
    : Decoder.Valid (.within 2 2 0x80 0xBF code)
  | fourLast {code : Nat} (low : 0x400 ≤ code) (high : code < 0x4400)
    : Decoder.Valid (.within 3 1 0x80 0xBF code)

/-- An octet read at the boundary is a character, is replaced, or leaves a valid position. -/
theorem lead_cases (octet : Nat)
    : (octet ≤ 0x7F ∧ lead octet = ([Char.ofNat octet], .ground))
      ∨ ((0x7F < octet ∧ (octet < 0xC2 ∨ 0xF4 < octet)) ∧ lead octet = ([replacement], .ground))
      ∨ ((0xC2 ≤ octet ∧ octet ≤ 0xF4)
        ∧ ∃ owed lower upper code,
          lead octet = ([], .within 1 owed lower upper code)
          ∧ Decoder.Valid (.within 1 owed lower upper code)) := by
  obtain ascii | ill | two | three | four
      : octet ≤ 0x7F ∨ (0x7F < octet ∧ (octet < 0xC2 ∨ 0xF4 < octet))
        ∨ (0xC2 ≤ octet ∧ octet ≤ 0xDF) ∨ (0xE0 ≤ octet ∧ octet ≤ 0xEF)
        ∨ (0xF0 ≤ octet ∧ octet ≤ 0xF4) := by
    omega
  · exact .inl ⟨ascii, lead_ascii ascii⟩
  · refine .inr (.inl ⟨ill, ?_⟩)
    unfold lead
    rw [if_neg (by omega), if_neg (by omega), if_neg (by omega), if_neg (by omega),
      if_neg (by omega), if_neg (by omega), if_neg (by omega), if_neg (by omega)]
  · refine .inr (.inr ⟨by omega, _, _, _, _, lead_two two.1 two.2, ?_⟩)
    exact .twoLead (by omega) (by omega)
  · refine .inr (.inr ⟨by omega, _, _, _, _, lead_three three.1 three.2, ?_⟩)
    exact .threeLead (by split <;> omega) (by split <;> omega) (by omega) (by split <;> omega)
      (by split <;> omega)
  · refine .inr (.inr ⟨by omega, _, _, _, _, lead_four four.1 four.2, ?_⟩)
    exact .fourLead (by split <;> omega) (by split <;> omega) (by omega) (by split <;> omega)
      (by split <;> omega)

/-- A lead octet leaves a valid position. -/
theorem lead_valid (octet : Nat) : (lead octet).2.Valid := by
  obtain ⟨-, same⟩ | ⟨-, same⟩ | ⟨-, owed, lower, upper, code, same, valid⟩ := lead_cases octet
  · exact same ▸ .ground
  · exact same ▸ .ground
  · exact same ▸ valid

/-- Every window lies among the continuation octets. -/
theorem Decoder.Valid.window {seen owed lower upper code : Nat}
    (valid : Decoder.Valid (.within seen owed lower upper code))
    : 0x80 ≤ lower ∧ upper ≤ 0xBF := by
  cases valid <;> constructor <;> omega

/-- An octet outside the window is read at the boundary, after a replacement. -/
theorem step_outside {seen owed lower upper code octet : Nat}
    (outside : ¬(lower ≤ octet ∧ octet ≤ upper))
    : Decoder.step (.within seen owed lower upper code) octet
      = (replacement :: (lead octet).1, (lead octet).2) := by
  simp [Decoder.step, outside]

/-- Reading an octet keeps the position valid, by the bounds of each kind of position. -/
theorem Decoder.Valid.step {decoder : Decoder} (valid : decoder.Valid) (octet : Nat)
    : (decoder.step octet).2.Valid := by
  cases decoder with
  | ground => exact lead_valid octet
  | within seen owed lower upper code =>
      by_cases inside : lower ≤ octet ∧ octet ≤ upper
      · cases valid with
        | twoLead | threeLast | fourLast =>
            rw [step_last inside.1 inside.2]
            exact .ground
        | threeLead =>
            rw [step_more inside.1 inside.2]
            exact .threeLast (by omega) (by omega) (by omega)
        | fourLead =>
            rw [step_more inside.1 inside.2]
            exact .fourNext (by omega) (by omega)
        | fourNext =>
            rw [step_more inside.1 inside.2]
            exact .fourLast (by omega) (by omega)
      · rw [step_outside inside]
        exact lead_valid octet

/-- A code point in range is the code of its character. -/
theorem toNat_ofNat {code : Nat} (range : code < 0xD800 ∨ 0xDFFF < code ∧ code < 0x110000)
    : (Char.ofNat code).toNat = code := by
  rw [Char.ofNat, dif_pos range]
  rfl

/-- The number of octets of a character, by its code. -/
theorem utf8Size_eq (char : Char)
    : char.utf8Size
      = if char.toNat ≤ 0x7F then 1 else if char.toNat ≤ 0x7FF then 2
        else if char.toNat ≤ 0xFFFF then 3 else 4 := by
  rfl

/-- A completed character has the code that was read, above the seven-bit range, and its
encoding has as many octets as were read.
-/
theorem Decoder.Valid.completed {seen lower upper code octet : Nat}
    (valid : Decoder.Valid (.within seen 1 lower upper code)) (low : lower ≤ octet)
    (high : octet ≤ upper)
    : (Char.ofNat (code * 64 + (octet - 0x80))).toNat = code * 64 + (octet - 0x80)
      ∧ 0x80 ≤ code * 64 + (octet - 0x80)
      ∧ (Char.ofNat (code * 64 + (octet - 0x80))).utf8Size = seen + 1 := by
  have range
      : code * 64 + (octet - 0x80) < 0xD800
        ∨ 0xDFFF < code * 64 + (octet - 0x80) ∧ code * 64 + (octet - 0x80) < 0x110000 := by
    cases valid <;> omega
  refine ⟨toNat_ofNat range, by cases valid <;> omega, ?_⟩
  rw [utf8Size_eq, toNat_ofNat range]
  cases valid <;> split_ifs <;> omega

-----------------------------------------------------------------------------------------
-- NUL and other seven-bit octets
-----------------------------------------------------------------------------------------

/-- A seven-bit octet ends whatever stands before it and is a character of its own: the
text around it decodes independently. Witness: no window contains it.
-/
theorem Decoder.Valid.run_append_ascii {decoder : Decoder} (valid : decoder.Valid)
    (before : Bytes) (octet : UInt8) (ascii : octet.toNat ≤ 0x7F) (after : Bytes)
    : decoder.run (before ++ octet :: after)
      = decoder.run before ++ Char.ofNat octet.toNat :: decode after := by
  induction before generalizing decoder with
  | nil =>
      cases decoder with
      | ground => simp [lead_ascii ascii, Decoder.run, decode]
      | within seen owed lower upper code =>
          have outside : ¬(lower ≤ octet.toNat ∧ octet.toNat ≤ upper) := by
            have window := valid.window
            omega
          simp [step_outside outside, lead_ascii ascii, Decoder.run, decode]
  | cons head tail ih =>
      simp only [List.cons_append, Decoder.run_cons, List.append_assoc]
      rw [ih (valid.step head.toNat)]

/-- A seven-bit octet splits the decoding of the text around it. -/
theorem decode_append_ascii (before : Bytes) (octet : UInt8) (ascii : octet.toNat ≤ 0x7F)
    (after : Bytes)
    : decode (before ++ octet :: after)
      = decode before ++ Char.ofNat octet.toNat :: decode after :=
  Decoder.Valid.ground.run_append_ascii before octet ascii after

/-- A zero octet decodes to NUL between the decodings of its two sides. -/
theorem decode_append_zero (before after : Bytes)
    : decode (before ++ 0 :: after) = decode before ++ nul :: decode after :=
  decode_append_ascii before 0 (by decide) after

/-- An octet either yields a character or leaves one unfinished. -/
theorem Decoder.step_progress (decoder : Decoder) (octet : Nat)
    : (decoder.step octet).1 ≠ [] ∨ (decoder.step octet).2 ≠ .ground := by
  have boundary : (lead octet).1 ≠ [] ∨ (lead octet).2 ≠ .ground := by
    obtain ⟨-, same⟩ | ⟨-, same⟩ | ⟨-, owed, lower, upper, code, same, -⟩ := lead_cases octet
    · exact .inl (same ▸ List.cons_ne_nil _ _)
    · exact .inl (same ▸ List.cons_ne_nil _ _)
    · exact .inr (same ▸ Decoder.noConfusion)
  cases decoder with
  | ground => exact boundary
  | within =>
      simp only [Decoder.step]
      split_ifs <;> simp

/-- Some text comes out of every nonempty octet sequence, by induction on it. -/
theorem Decoder.run_ne_nil (decoder : Decoder) {octets : Bytes} (nonempty : octets ≠ [])
    : decoder.run octets ≠ [] := by
  induction octets generalizing decoder with
  | nil => exact absurd rfl nonempty
  | cons head tail ih =>
      rw [Decoder.run_cons]
      intro none
      obtain ⟨out, rest⟩ := List.append_eq_nil_iff.mp none
      cases tail with
      | cons next more => exact ih _ (by simp) rest
      | nil =>
          have progress := decoder.step_progress head.toNat
          generalize (decoder.step head.toNat).2 = next at rest progress
          cases next with
          | ground => simp [out] at progress
          | within => simp [Decoder.run] at rest

/-- The characters an octet other than zero yields are not NUL. -/
theorem Decoder.Valid.step_nul {decoder : Decoder} (valid : decoder.Valid) {octet : Nat}
    (small : octet < 256) (nonzero : octet ≠ 0)
    : nul ∉ (decoder.step octet).1 := by
  have code : nul.toNat = 0 := rfl
  have other : nul ≠ replacement := by decide
  have boundary : nul ∉ (lead octet).1 := by
    obtain ⟨ascii, same⟩ | ⟨-, same⟩ | ⟨-, owed, lower, upper, rest, same, -⟩ := lead_cases octet
    · rw [same, List.mem_singleton]
      intro zero
      have codes := congrArg Char.toNat zero
      rw [code, toNat_ofNat (by omega)] at codes
      omega
    · rw [same, List.mem_singleton]
      exact other
    · rw [same]
      exact List.not_mem_nil
  cases decoder with
  | ground => exact boundary
  | within seen owed lower upper rest =>
      by_cases inside : lower ≤ octet ∧ octet ≤ upper
      · simp only [Decoder.step, if_pos inside]
        split_ifs with last
        · subst last
          obtain ⟨value, positive, _⟩ := valid.completed inside.1 inside.2
          simp only [List.mem_singleton]
          intro same
          have codes := congrArg Char.toNat same
          omega
        · simp
      · rw [step_outside inside]
        simp [other, boundary]

/-- No NUL comes out of octets without a zero, by induction on them. -/
theorem Decoder.Valid.nul_not_mem_run {decoder : Decoder} (valid : decoder.Valid)
    {octets : Bytes} (nonzero : 0 ∉ octets)
    : nul ∉ decoder.run octets := by
  induction octets generalizing decoder with
  | nil =>
      have other : nul ≠ replacement := by decide
      cases decoder <;> simp [Decoder.run, other]
  | cons head tail ih =>
      simp only [List.mem_cons, not_or] at nonzero
      rw [Decoder.run_cons, List.mem_append, not_or]
      refine ⟨valid.step_nul head.toNat_lt ?_, ih (valid.step _) nonzero.2⟩
      intro zero
      exact nonzero.1 (UInt8.toNat_inj.mp zero.symm)

/-- No NUL comes out of octets without a zero. -/
theorem nul_not_mem_decode {octets : Bytes} (nonzero : 0 ∉ octets) : nul ∉ decode octets :=
  Decoder.Valid.ground.nul_not_mem_run nonzero

/-- Text without NUL has octets without zero. -/
theorem zero_not_mem_encode {text : Text} (clean : nul ∉ text) : 0 ∉ encode text := by
  intro zero
  obtain ⟨before, after, split⟩ := List.append_of_mem zero
  have whole := decode_encode text
  rw [split, decode_append_zero] at whole
  exact clean (whole ▸ by simp)

-----------------------------------------------------------------------------------------
-- Text up to the first NUL, and text without trailing NULs
-----------------------------------------------------------------------------------------

/-- Text before the first NUL. -/
def cString (text : Text) : Text := text.takeWhile (· ≠ nul)

/-- Text without the NULs at its end. -/
def trimNuls (text : Text) : Text := text.rdropWhile (· = nul)

/-- Octets without the zeros at their end. -/
def trimZeros (octets : Bytes) : Bytes := octets.rdropWhile (· = 0)

/-- Octets before the first zero. -/
def beforeZero (octets : Bytes) : Bytes := octets.takeWhile (· ≠ 0)

/-- Text without NUL is cut nowhere. -/
theorem cString_of_clean {text : Text} (clean : nul ∉ text) : cString text = text := by
  rw [cString, List.takeWhile_eq_self_iff]
  intro char member
  simpa using ne_of_mem_of_not_mem member clean

/-- A clean text followed by NUL is cut there. -/
theorem cString_append_nul {text : Text} (clean : nul ∉ text) (after : Text)
    : cString (text ++ nul :: after) = text := by
  rw [cString, List.takeWhile_append_of_pos, List.takeWhile_cons_of_neg (by simp),
    List.append_nil]
  intro char member
  simpa using ne_of_mem_of_not_mem member clean

/-- Nonzero octets come whole before the first zero of what follows them. -/
theorem beforeZero_append {octets : Bytes} (nonzero : 0 ∉ octets) (after : Bytes)
    : beforeZero (octets ++ after) = octets ++ beforeZero after := by
  rw [beforeZero, List.takeWhile_append_of_pos]
  · rfl
  · intro octet member
    simpa using ne_of_mem_of_not_mem member nonzero

/-- A zero keeps what follows it out of sight. -/
theorem beforeZero_append_of_mem {octets : Bytes} (zero : 0 ∈ octets) (after : Bytes)
    : beforeZero (octets ++ after) = beforeZero octets := by
  obtain ⟨front, rest, rfl, nonzero⟩ := List.eq_append_cons_of_mem zero
  rw [List.append_assoc, beforeZero_append nonzero, beforeZero_append nonzero]
  rfl

/-- Octets without zero are before any zero. -/
theorem beforeZero_of_nonzero {octets : Bytes} (nonzero : 0 ∉ octets)
    : beforeZero octets = octets := by
  simpa [beforeZero] using beforeZero_append nonzero []

/-- Cutting text at NUL is decoding the octets before the first zero. -/
theorem cString_decode (octets : Bytes)
    : cString (decode octets) = decode (beforeZero octets) := by
  by_cases zero : 0 ∈ octets
  · obtain ⟨before, after, rfl, nonzero⟩ := List.eq_append_cons_of_mem zero
    rw [decode_append_zero, cString_append_nul (nul_not_mem_decode nonzero),
      beforeZero_append nonzero]
    simp [beforeZero]
  · rw [beforeZero_of_nonzero zero, cString_of_clean (nul_not_mem_decode zero)]

/-- A clean text survives encoding, arbitrary following octets and the cut exactly when
nothing follows or a zero does. Witness: any other octet starts a further character.
-/
theorem cString_decode_encode_iff {text : Text} (clean : nul ∉ text) (rest : Bytes)
    : cString (decode (encode text ++ rest)) = text ↔ rest.headD 0 = 0 := by
  rw [cString_decode, beforeZero_append (zero_not_mem_encode clean), decode_encode_append,
    List.append_right_eq_self]
  cases rest with
  | nil => simp [beforeZero]
  | cons head tail =>
      by_cases zero : head = 0
      · simp [beforeZero, zero]
      · have more : decode (beforeZero (head :: tail)) ≠ [] :=
          Decoder.run_ne_nil _ (by simp [beforeZero, zero])
        simpa [zero] using more

/-- Repeated seven-bit octets decode one for one, by induction on their number. -/
theorem decode_append_replicate (octets : Bytes) (count : Nat) (octet : UInt8)
    (ascii : octet.toNat ≤ 0x7F)
    : decode (octets ++ List.replicate count octet)
      = decode octets ++ List.replicate count (Char.ofNat octet.toNat) := by
  induction count generalizing octets with
  | zero => simp
  | succ count ih =>
      have rest
          : decode (List.replicate count octet)
            = List.replicate count (Char.ofNat octet.toNat) := by
        simpa using ih []
      rw [List.replicate_succ, decode_append_ascii _ _ ascii, rest, List.replicate_succ]

/-- Zeros decode to NULs, one for one. -/
theorem decode_append_zeros (octets : Bytes) (count : Nat)
    : decode (octets ++ List.replicate count 0)
      = decode octets ++ List.replicate count nul :=
  decode_append_replicate octets count 0 (by decide)

/-- The text of octets that do not end in zero does not end in NUL, by induction on the
octets before the last.
-/
theorem Decoder.Valid.getLast_run_ne_nul {decoder : Decoder} (valid : decoder.Valid)
    (octets : Bytes) {last : UInt8} (nonzero : last ≠ 0)
    (some : decoder.run (octets ++ [last]) ≠ [])
    : (decoder.run (octets ++ [last])).getLast some ≠ nul := by
  induction octets generalizing decoder with
  | nil =>
      have clean : nul ∉ decoder.run [last] := valid.nul_not_mem_run (by simpa using nonzero.symm)
      exact fun same => clean (same ▸ List.getLast_mem some)
  | cons head tail ih =>
      have rest : (decoder.step head.toNat).2.run (tail ++ [last]) ≠ [] :=
        Decoder.run_ne_nil _ (by simp)
      simp only [List.cons_append, Decoder.run_cons]
      rw [List.getLast_append_of_ne_nil _ rest]
      exact ih (valid.step head.toNat) rest

/-- Trimming NULs from text is decoding the octets without their trailing zeros, by
induction from the last octet.
-/
theorem trimNuls_decode (octets : Bytes)
    : trimNuls (decode octets) = decode (trimZeros octets) := by
  induction octets using List.reverseRecOn with
  | nil => rfl
  | append_singleton front last ih =>
      by_cases zero : last = 0
      · subst last
        rw [decode_append_zero, decode_nil, trimNuls, List.rdropWhile_concat_pos _ _ _ (by simp),
          trimZeros, List.rdropWhile_concat_pos _ _ _ (by simp)]
        exact ih
      · rw [trimZeros, List.rdropWhile_concat_neg _ _ _ (by simpa using zero), trimNuls,
          List.rdropWhile_eq_self_iff]
        intro some
        rw [decide_eq_true_eq]
        exact Decoder.Valid.ground.getLast_run_ne_nul front zero some

/-- Text without NUL has none to trim. -/
theorem trimNuls_of_clean {text : Text} (clean : nul ∉ text) : trimNuls text = text := by
  rw [trimNuls, List.rdropWhile_eq_self_iff]
  intro some
  simpa using ne_of_mem_of_not_mem (List.getLast_mem some) clean

/-- NULs put behind a text are trimmed with its own, by induction on their number. -/
theorem trimNuls_append_nuls (text : Text) (count : Nat)
    : trimNuls (text ++ List.replicate count nul) = trimNuls text := by
  induction count with
  | zero => rw [List.replicate_zero, List.append_nil]
  | succ count ih =>
      rw [List.replicate_succ', ← List.append_assoc, trimNuls,
        List.rdropWhile_concat_pos _ _ _ (by simp)]
      exact ih

theorem trimNuls_trimNuls (text : Text) : trimNuls (trimNuls text) = trimNuls text :=
  List.rdropWhile_idempotent _ _

/-- Octets that have nothing but zeros from the first zero on. -/
def Padded (octets : Bytes) : Prop := ∀ octet ∈ octets.dropWhile (· ≠ 0), octet = 0

instance (octets : Bytes) : Decidable (Padded octets) := inferInstanceAs (Decidable (∀ _ ∈ _, _))

/-- Zeros are trimmed off the last part that has anything else. -/
theorem trimZeros_append (left right : Bytes)
    : trimZeros (left ++ right)
      = if trimZeros right = [] then trimZeros left else left ++ trimZeros right := by
  have empty
      : (right.reverse.dropWhile fun octet => octet = 0).isEmpty = true
        ↔ trimZeros right = [] := by
    rw [List.isEmpty_iff, trimZeros, List.rdropWhile, List.reverse_eq_nil_iff]
  rw [trimZeros, List.rdropWhile, List.reverse_append, List.dropWhile_append]
  simp only [empty]
  split_ifs
  · rfl
  · rw [List.reverse_append, List.reverse_reverse]
    rfl

/-- Trimming NULs and cutting at the first one leave the same text exactly of octets that are
padded. Witness: any other octet keeps the first zero from being trimmed.
-/
theorem trimNuls_decode_eq_iff (octets : Bytes)
    : trimNuls (decode octets) = cString (decode octets) ↔ Padded octets := by
  rw [trimNuls_decode, cString_decode]
  by_cases zero : 0 ∈ octets
  · obtain ⟨before, after, rfl, nonzero⟩ := List.eq_append_cons_of_mem zero
    have behind : (before ++ 0 :: after).dropWhile (· ≠ 0) = 0 :: after := by
      rw [List.dropWhile_append_of_pos, List.dropWhile_cons_of_neg (by simp)]
      intro octet member
      simpa using ne_of_mem_of_not_mem member nonzero
    have cut : beforeZero (before ++ 0 :: after) = before := by
      rw [beforeZero_append nonzero]
      simp [beforeZero]
    have whole : trimZeros before = before := by
      rw [trimZeros, List.rdropWhile_eq_self_iff]
      intro some
      simpa using ne_of_mem_of_not_mem (List.getLast_mem some) nonzero
    rw [cut, Padded, behind, trimZeros_append, whole]
    split_ifs with zeros
    · simpa [trimZeros, List.rdropWhile_eq_nil_iff] using zeros
    · obtain ⟨rest, split⟩ := List.rdropWhile_prefix (fun octet : UInt8 => octet = 0) (0 :: after)
      have some : ¬∀ octet ∈ 0 :: after, octet = 0 := by
        simpa [trimZeros, List.rdropWhile_eq_nil_iff] using zeros
      refine iff_of_false ?_ some
      cases kept : trimZeros (0 :: after) with
      | nil => exact absurd kept zeros
      | cons first more =>
          rw [trimZeros] at kept
          rw [kept] at split
          obtain rfl : first = 0 := (List.cons.inj split).1
          rw [decode_append_zero]
          simp
  · rw [beforeZero_of_nonzero zero, Padded, List.dropWhile_eq_nil_iff.mpr]
    · have whole : trimZeros octets = octets := by
        rw [trimZeros, List.rdropWhile_eq_self_iff]
        intro some
        simpa using ne_of_mem_of_not_mem (List.getLast_mem some) zero
      simp [whole]
    · intro octet member
      simpa using ne_of_mem_of_not_mem member zero

-----------------------------------------------------------------------------------------
-- How much replacement lengthens text
-----------------------------------------------------------------------------------------

/-- An octet that starts no character is replaced by three octets. -/
def leadGrowth (octet : Nat) : Nat :=
  if 0x80 ≤ octet ∧ octet < 0xC2 ∨ 0xF4 < octet then 2 else 0

/-- The octets a position has read of an unfinished character. -/
def Decoder.unread : Decoder → Nat
  | .ground => 0
  | .within seen .. => seen

/-- The octets that replacement adds when an octet is read: an ill-formed part of one or
two octets grows to the three of the replacement character.
-/
def Decoder.stepGrowth : Decoder → Nat → Nat
  | .ground, octet => leadGrowth octet
  | .within seen _ lower upper _, octet =>
      if lower ≤ octet ∧ octet ≤ upper then 0 else (3 - seen) + leadGrowth octet

/-- The octets that replacement adds to the remaining octets. -/
def Decoder.growth : Decoder → Bytes → Nat
  | .ground, [] => 0
  | .within seen .., [] => 3 - seen
  | decoder, octet :: rest =>
      decoder.stepGrowth octet.toNat + (decoder.step octet.toNat).2.growth rest

/-- The octets that replacement adds to an octet sequence. -/
def growth (octets : Bytes) : Nat := Decoder.ground.growth octets

/-- The replacement character has three octets. -/
theorem length_encode_replacement : (encode [replacement]).length = 3 := by decide

/-- Reading a lead octet accounts for it in the text, the position or the growth. -/
theorem lead_length {octet : Nat} (small : octet < 256)
    : (encode (lead octet).1).length + (lead octet).2.unread = 1 + leadGrowth octet := by
  unfold leadGrowth
  obtain ⟨ascii, same⟩ | ⟨ill, same⟩ | ⟨begins, owed, lower, upper, code, same, -⟩ :=
    lead_cases octet
  · rw [same, if_neg (by omega), encode_cons, encode_nil, List.append_nil,
      String.length_utf8EncodeChar, utf8Size_eq, toNat_ofNat (by omega), if_pos ascii]
    rfl
  · rw [same, if_pos (by omega), length_encode_replacement]
    rfl
  · rw [same, if_neg (by omega)]
    rfl

/-- Reading an octet accounts for it in the text, the position or the growth. -/
theorem Decoder.Valid.step_length {decoder : Decoder} (valid : decoder.Valid) {octet : Nat}
    (small : octet < 256)
    : (encode (decoder.step octet).1).length + (decoder.step octet).2.unread
      = decoder.unread + 1 + decoder.stepGrowth octet := by
  cases decoder with
  | ground => simpa [Decoder.unread, Decoder.stepGrowth] using lead_length small
  | within seen owed lower upper code =>
      have bound : seen ≤ 3 := by cases valid <;> omega
      by_cases inside : lower ≤ octet ∧ octet ≤ upper
      · simp only [Decoder.step, Decoder.stepGrowth, if_pos inside]
        split_ifs with last
        · subst last
          simp [Decoder.unread, (valid.completed inside.1 inside.2).2.2]
        · simp [Decoder.unread]
      · rw [step_outside inside]
        have text
            : (encode (replacement :: (lead octet).1)).length
              = 3 + (encode (lead octet).1).length := by
          rw [encode_cons, List.length_append, String.length_utf8EncodeChar]
          rfl
        have unread : (Decoder.within seen owed lower upper code).unread = seen := rfl
        have grown
            : Decoder.stepGrowth (.within seen owed lower upper code) octet
              = (3 - seen) + leadGrowth octet := by
          simp only [Decoder.stepGrowth, if_neg inside]
        have rest := lead_length small
        dsimp only
        omega

/-- Encoding the text of a decoder gives back the octets with their growth, by induction
on them.
-/
theorem Decoder.Valid.length_encode_run {decoder : Decoder} (valid : decoder.Valid)
    (octets : Bytes)
    : (encode (decoder.run octets)).length
      = decoder.unread + octets.length + decoder.growth octets := by
  induction octets generalizing decoder with
  | nil =>
      cases decoder with
      | ground => rfl
      | within seen =>
          have bound : seen ≤ 3 := by cases valid <;> omega
          simp only [Decoder.run, length_encode_replacement, Decoder.unread, Decoder.growth,
            List.length_nil]
          omega
  | cons head tail ih =>
      have first := valid.step_length head.toNat_lt
      have rest := ih (valid.step head.toNat)
      rw [Decoder.run_cons, encode_append, List.length_append, rest, List.length_cons]
      have grown
          : decoder.growth (head :: tail)
            = decoder.stepGrowth head.toNat + (decoder.step head.toNat).2.growth tail := by
        cases decoder <;> rfl
      omega

/-- Decoding and encoding again lengthens an octet sequence by its growth. -/
theorem length_encode_decode (octets : Bytes)
    : (encode (decode octets)).length = octets.length + growth octets := by
  simpa [Decoder.unread, decode, growth] using Decoder.Valid.ground.length_encode_run octets

end Utf8
