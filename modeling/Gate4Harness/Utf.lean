-- UTF-8 and UTF-16 as encodings of scalar values. A text is well formed in one of them when
-- it is the encoding of some list of characters. The bytes of a character are given as
-- numbers, so that a decoder that computes with numbers can be compared with them.
import Mathlib.Data.List.Basic
import Mathlib.Tactic.Common

namespace Utf

/-- The bytes of a text. -/
def encode8 (scalars : List Char) : List UInt8 := scalars.flatMap String.utf8EncodeChar

/-- One unit for a character of the basic plane, and a surrogate pair for any other. -/
def utf16EncodeChar (c : Char) : List Nat :=
  if c.toNat < 0x10000 then [c.toNat]
  else [0xD800 + (c.toNat - 0x10000) / 0x400, 0xDC00 + (c.toNat - 0x10000) % 0x400]

/-- The units of a text. -/
def encode16 (scalars : List Char) : List Nat := scalars.flatMap utf16EncodeChar

/-- The bytes of a scalar value, as numbers. -/
def bytesOf (v : Nat) : List Nat :=
  if v ≤ 0x7F then [v]
  else if v ≤ 0x7FF then [v / 0x40 + 0xC0, v % 0x40 + 0x80]
  else if v ≤ 0xFFFF then [v / 0x1000 + 0xE0, v / 0x40 % 0x40 + 0x80, v % 0x40 + 0x80]
  else [v / 0x40000 + 0xF0, v / 0x1000 % 0x40 + 0x80, v / 0x40 % 0x40 + 0x80, v % 0x40 + 0x80]

variable {c : Char} {v : Nat} {scalars : List Char}

@[simp] theorem encode8_nil : encode8 [] = [] := rfl

@[simp] theorem encode8_cons :
    encode8 (c :: scalars) = String.utf8EncodeChar c ++ encode8 scalars := rfl

@[simp] theorem encode16_nil : encode16 [] = [] := rfl

@[simp] theorem encode16_cons :
    encode16 (c :: scalars) = utf16EncodeChar c ++ encode16 scalars := rfl

theorem toNat_bounds (c : Char) : c.toNat < 0xD800 ∨ 0xDFFF < c.toNat ∧ c.toNat < 0x110000 :=
  c.valid

theorem exists_char (h : v < 0xD800 ∨ 0xDFFF < v ∧ v < 0x110000) : ∃ c : Char, c.toNat = v :=
  ⟨Char.ofNatAux v h, rfl⟩

theorem toNat_utf8EncodeChar (c : Char) :
    (String.utf8EncodeChar c).map UInt8.toNat = bytesOf c.toNat := by
  have hbounds := toNat_bounds c
  unfold String.utf8EncodeChar bytesOf
  have hval : c.val.toNat = c.toNat := rfl
  simp only [hval]
  split
  · simp only [List.map_cons, List.map_nil, UInt8.toNat_ofNat']
    congr 1
    omega
  · split
    · simp only [List.map_cons, List.map_nil, UInt8.toNat_ofNat', List.cons.injEq, and_true]
      omega
    · split
      · simp only [List.map_cons, List.map_nil, UInt8.toNat_ofNat', List.cons.injEq, and_true]
        omega
      · simp only [List.map_cons, List.map_nil, UInt8.toNat_ofNat', List.cons.injEq, and_true]
        omega

theorem bytesOf_length_le (v : Nat) : (bytesOf v).length ≤ 4 := by
  unfold bytesOf
  split_ifs <;> simp

/-- A character takes no more units than bytes. -/
theorem utf16EncodeChar_length_le (c : Char) :
    (utf16EncodeChar c).length ≤ (String.utf8EncodeChar c).length := by
  have hlength := congrArg List.length (toNat_utf8EncodeChar c)
  rw [List.length_map] at hlength
  rw [hlength]
  unfold utf16EncodeChar bytesOf
  split_ifs <;> simp
  omega

theorem utf16EncodeChar_pos (c : Char) : 0 < (utf16EncodeChar c).length := by
  unfold utf16EncodeChar
  split_ifs <;> simp

theorem encode16_length_le : (encode16 scalars).length ≤ (encode8 scalars).length := by
  induction scalars with
  | nil => exact Nat.le_refl _
  | cons c rest ih =>
    rw [encode16_cons, encode8_cons, List.length_append, List.length_append]
    exact Nat.add_le_add (utf16EncodeChar_length_le c) ih

end Utf
