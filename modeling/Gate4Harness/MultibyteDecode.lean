-- The decoder of one character against the encoding of scalar values: it yields a code point
-- and a number of bytes exactly where these bytes are the encoding of that scalar.
import Gate4Harness.Multibyte
import Gate4Harness.Utf
import Mathlib.Tactic.IntervalCases

namespace Gate4Harness.Multibyte

variable {m m' : Memory} {source sourceLength offset address v k n i j : Nat}

/-! ## Bytes of memory -/

/-- The `n` bytes from an address on. -/
def bytesAt (m : Memory) (address n : Nat) : List UInt8 :=
  (List.range n).map fun i => m (address + i)

@[simp] theorem bytesAt_length : (bytesAt m address n).length = n := by simp [bytesAt]

theorem bytesAt_add : bytesAt m address (i + j) =
    bytesAt m address i ++ bytesAt m (address + i) j := by
  unfold bytesAt
  rw [List.range_add, List.map_append, List.map_map]
  congr 1
  apply List.map_congr_left
  intro x _
  simp [Nat.add_assoc]

theorem bytesAt_congr (h : ∀ p, address ≤ p → p < address + n → m' p = m p) :
    bytesAt m' address n = bytesAt m address n := by
  unfold bytesAt
  apply List.map_congr_left
  intro x hx
  exact h _ (by omega) (by have := List.mem_range.mp hx; omega)

/-! ## The bits of a continuation byte -/

theorem continuation_bits (h : n < 256) : n &&& 0xC0 = 0x80 ↔ 0x80 ≤ n ∧ n ≤ 0xBF := by
  revert n
  decide +kernel

theorem payload_bits (n : Nat) : n &&& 0x3F = n % 0x40 :=
  Nat.and_two_pow_sub_one_eq_mod n 6

theorem shifted_bits (n : Nat) : (v <<< 6) ||| (n &&& 0x3F) = v * 0x40 + n % 0x40 := by
  rw [payload_bits, ← Nat.shiftLeft_add_eq_or_of_lt (Nat.mod_lt n (by decide)),
    Nat.shiftLeft_eq]

/-- A byte that continues a character. -/
def Tail (b : Nat) : Prop := 0x80 ≤ b ∧ b ≤ 0xBF

/-- What the code refuses of the second byte, by the first one. -/
def Refused (first second : Nat) : Prop :=
  first = 0xE0 ∧ second < 0xA0 ∨ first = 0xED ∧ second > 0x9F ∨
    first = 0xF0 ∧ second < 0x90 ∨ first = 0xF4 ∧ second > 0x8F

variable {start first left index value w : Nat}

theorem continueFrom_succ :
    continueFrom m start first (left + 1) index value = some w ↔
      Tail (m (start + index)).toNat ∧ ¬ (index = 1 ∧ Refused first (m (start + index)).toNat) ∧
      continueFrom m start first left (index + 1)
        (value * 0x40 + (m (start + index)).toNat % 0x40) = some w := by
  have hbyte : (m (start + index)).toNat < 256 := (m (start + index)).toNat_lt
  simp only [continueFrom, ne_eq, continuation_bits hbyte, shifted_bits]
  unfold Tail Refused
  split
  · rename_i hnot
    exact iff_of_false (by simp) fun h => hnot h.1
  · rename_i htail
    split
    · rename_i hrefused
      exact iff_of_false (by simp) fun h => h.2.1 hrefused
    · rename_i hgood
      exact ⟨fun h => ⟨Decidable.not_not.mp htail, hgood, h⟩, fun h => h.2.2⟩

/-! ## The case table -/

/-- The four rows of the decoder: the first byte, the continuation bytes, and the value. -/
inductive Row (f b₁ b₂ b₃ : Nat) : (v k : Nat) → Prop
  | one : f ≤ 0x7F → Row f b₁ b₂ b₃ f 1
  | two : 0xC2 ≤ f → f ≤ 0xDF → Tail b₁ → Row f b₁ b₂ b₃ (f % 0x20 * 0x40 + b₁ % 0x40) 2
  | three : 0xE0 ≤ f → f ≤ 0xEF → Tail b₁ → ¬ Refused f b₁ → Tail b₂ →
    Row f b₁ b₂ b₃ ((f % 0x10 * 0x40 + b₁ % 0x40) * 0x40 + b₂ % 0x40) 3
  | four : 0xF0 ≤ f → f ≤ 0xF4 → Tail b₁ → ¬ Refused f b₁ → Tail b₂ → Tail b₃ →
    Row f b₁ b₂ b₃ (((f % 0x08 * 0x40 + b₁ % 0x40) * 0x40 + b₂ % 0x40) * 0x40 + b₃ % 0x40) 4

/-- A value that a row yields is a scalar value, not a shorter form of one. -/
theorem Row.isScalar {f b₁ b₂ b₃ : Nat} (h : Row f b₁ b₂ b₃ v k) :
    v < 0xD800 ∨ 0xDFFF < v ∧ v < 0x110000 := by
  cases h with
  | one h => omega
  | two hlow hhigh htail => omega
  | three hlow hhigh htail hgood htail' =>
    unfold Refused Tail at *
    omega
  | four hlow hhigh htail hgood htail' htail'' =>
    unfold Refused Tail at *
    omega

/-- The rows yield the bytes of their value. -/
theorem row_iff {f b₁ b₂ b₃ : Nat} :
    Row f b₁ b₂ b₃ v k ↔ (v < 0xD800 ∨ 0xDFFF < v ∧ v < 0x110000) ∧
      k = (Utf.bytesOf v).length ∧ [f, b₁, b₂, b₃].take k = Utf.bytesOf v := by
  constructor
  · intro h
    refine ⟨h.isScalar, ?_⟩
    unfold Utf.bytesOf
    cases h with
    | one h => simp [h]
    | two hlow hhigh htail =>
      unfold Tail at htail
      rw [if_neg (by omega), if_pos (by omega)]
      simp only [List.length_cons, List.length_nil, List.take_succ_cons, List.take_zero,
        List.cons.injEq, and_true, true_and]
      omega
    | three hlow hhigh htail hgood htail' =>
      unfold Refused Tail at *
      rw [if_neg (by omega), if_neg (by omega), if_pos (by omega)]
      simp only [List.length_cons, List.length_nil, List.take_succ_cons, List.take_zero,
        List.cons.injEq, and_true, true_and]
      omega
    | four hlow hhigh htail hgood htail' htail'' =>
      unfold Refused Tail at *
      rw [if_neg (by omega), if_neg (by omega), if_neg (by omega)]
      simp only [List.length_cons, List.length_nil, List.take_succ_cons, List.take_zero,
        List.cons.injEq, and_true, true_and]
      omega
  · rintro ⟨hscalar, hlength, hbytes⟩
    unfold Utf.bytesOf at hlength hbytes
    split at hbytes
    · rename_i hle
      rw [if_pos hle] at hlength
      obtain rfl := hlength
      obtain ⟨rfl, -⟩ := List.cons.inj hbytes
      exact .one hle
    · rename_i hgt
      rw [if_neg hgt] at hlength
      split at hbytes
      · rename_i hle
        rw [if_pos hle] at hlength
        obtain rfl := hlength
        simp only [List.length_cons, List.length_nil, List.take_succ_cons, List.take_zero,
          List.cons.injEq, and_true] at hbytes
        have hvalue : v = f % 0x20 * 0x40 + b₁ % 0x40 := by omega
        rw [hvalue]
        exact .two (by omega) (by omega) ⟨by omega, by omega⟩
      · rename_i hgt'
        rw [if_neg hgt'] at hlength
        split at hbytes
        · rename_i hle
          rw [if_pos hle] at hlength
          obtain rfl := hlength
          simp only [List.length_cons, List.length_nil, List.take_succ_cons, List.take_zero,
            List.cons.injEq, and_true] at hbytes
          have hvalue : v = (f % 0x10 * 0x40 + b₁ % 0x40) * 0x40 + b₂ % 0x40 := by omega
          rw [hvalue]
          exact .three (by omega) (by omega) ⟨by omega, by omega⟩ (by unfold Refused; omega)
            ⟨by omega, by omega⟩
        · rename_i hgt''
          rw [if_neg hgt''] at hlength
          obtain rfl := hlength
          simp only [List.length_cons, List.length_nil, List.take_succ_cons, List.take_zero,
            List.cons.injEq, and_true] at hbytes
          have hvalue : v =
              ((f % 0x08 * 0x40 + b₁ % 0x40) * 0x40 + b₂ % 0x40) * 0x40 + b₃ % 0x40 := by
            omega
          rw [hvalue]
          exact .four (by omega) (by omega) ⟨by omega, by omega⟩ (by unfold Refused; omega)
            ⟨by omega, by omega⟩ ⟨by omega, by omega⟩

/-! ## The decoder -/

theorem leadOf_two (hlow : 0xC2 ≤ first) (hhigh : first ≤ 0xDF) :
    leadOf first = some (2, first % 0x20, 0x80) := by
  unfold leadOf
  rw [if_pos ⟨hlow, hhigh⟩, Nat.and_two_pow_sub_one_eq_mod first 5]

theorem leadOf_three (hlow : 0xE0 ≤ first) (hhigh : first ≤ 0xEF) :
    leadOf first = some (3, first % 0x10, 0x800) := by
  unfold leadOf
  rw [if_neg (by omega), if_pos ⟨hlow, hhigh⟩, Nat.and_two_pow_sub_one_eq_mod first 4]

theorem leadOf_four (hlow : 0xF0 ≤ first) (hhigh : first ≤ 0xF4) :
    leadOf first = some (4, first % 0x08, 0x10000) := by
  unfold leadOf
  rw [if_neg (by omega), if_neg (by omega), if_pos ⟨hlow, hhigh⟩,
    Nat.and_two_pow_sub_one_eq_mod first 3]

theorem leadOf_none (h : first < 0xC2 ∨ first > 0xF4 ∨ 0xDF < first ∧ first < 0xE0) :
    leadOf first = none := by
  unfold leadOf
  rw [if_neg (by omega), if_neg (by omega), if_neg (by omega)]

theorem leadOf_cases (first : Nat) :
    (0xC2 ≤ first ∧ first ≤ 0xDF ∧ leadOf first = some (2, first % 0x20, 0x80)) ∨
    (0xE0 ≤ first ∧ first ≤ 0xEF ∧ leadOf first = some (3, first % 0x10, 0x800)) ∨
    (0xF0 ≤ first ∧ first ≤ 0xF4 ∧ leadOf first = some (4, first % 0x08, 0x10000)) ∨
    leadOf first = none := by
  by_cases htwo : 0xC2 ≤ first ∧ first ≤ 0xDF
  · exact Or.inl ⟨htwo.1, htwo.2, leadOf_two htwo.1 htwo.2⟩
  · by_cases hthree : 0xE0 ≤ first ∧ first ≤ 0xEF
    · exact Or.inr (Or.inl ⟨hthree.1, hthree.2, leadOf_three hthree.1 hthree.2⟩)
    · by_cases hfour : 0xF0 ≤ first ∧ first ≤ 0xF4
      · exact Or.inr (Or.inr (Or.inl ⟨hfour.1, hfour.2, leadOf_four hfour.1 hfour.2⟩))
      · exact Or.inr (Or.inr (Or.inr (leadOf_none (by omega))))

theorem decodeOne_row (h : decodeOne m source sourceLength offset = some (v, k)) :
    Row (m (source + offset)).toNat (m (source + offset + 1)).toNat
      (m (source + offset + 2)).toNat (m (source + offset + 3)).toNat v k ∧
    offset + k ≤ sourceLength := by
  unfold decodeOne at h
  split at h
  · cases h
  · rename_i hinside
    dsimp only at h
    split at h
    · rename_i hascii
      cases h
      exact ⟨.one hascii, by omega⟩
    · obtain ⟨hlow, hhigh, hlead⟩ | ⟨hlow, hhigh, hlead⟩ | ⟨hlow, hhigh, hlead⟩ | hlead :=
        leadOf_cases (m (source + offset)).toNat
      · rw [hlead] at h
        dsimp only at h
        split at h
        · cases h
        · rename_i hfits
          split at h
          · cases h
          · rename_i value hcont
            obtain ⟨htail, -, hvalue⟩ := continueFrom_succ.mp hcont
            cases hvalue
            split at h
            · cases h
            · cases h
              exact ⟨.two hlow hhigh htail, by omega⟩
      · rw [hlead] at h
        dsimp only at h
        split at h
        · cases h
        · rename_i hfits
          split at h
          · cases h
          · rename_i value hcont
            obtain ⟨htail, hgood, hcont⟩ := continueFrom_succ.mp hcont
            obtain ⟨htail', -, hvalue⟩ := continueFrom_succ.mp hcont
            cases hvalue
            split at h
            · cases h
            · cases h
              exact ⟨.three hlow hhigh htail (fun hr => hgood ⟨rfl, hr⟩) htail', by omega⟩
      · rw [hlead] at h
        dsimp only at h
        split at h
        · cases h
        · rename_i hfits
          split at h
          · cases h
          · rename_i value hcont
            obtain ⟨htail, hgood, hcont⟩ := continueFrom_succ.mp hcont
            obtain ⟨htail', -, hcont⟩ := continueFrom_succ.mp hcont
            obtain ⟨htail'', -, hvalue⟩ := continueFrom_succ.mp hcont
            cases hvalue
            split at h
            · cases h
            · cases h
              exact ⟨.four hlow hhigh htail (fun hr => hgood ⟨rfl, hr⟩) htail' htail'', by omega⟩
      · rw [hlead] at h
        cases h

theorem Row.decodeOne
    (h : Row (m (source + offset)).toNat (m (source + offset + 1)).toNat
      (m (source + offset + 2)).toNat (m (source + offset + 3)).toNat v k)
    (hfits : offset + k ≤ sourceLength) :
    decodeOne m source sourceLength offset = some (v, k) := by
  have hscalar := h.isScalar
  unfold Multibyte.decodeOne
  cases h with
  | one hascii =>
    rw [if_neg (by omega)]
    dsimp only
    rw [if_pos hascii]
  | two hlow hhigh htail =>
    rw [if_neg (by omega)]
    dsimp only
    rw [if_neg (by omega), leadOf_two hlow hhigh]
    dsimp only
    rw [if_neg (by omega), continueFrom_succ.mpr ⟨htail, by unfold Refused; omega, rfl⟩]
    dsimp only
    unfold Tail at htail
    rw [if_neg (by omega)]
  | three hlow hhigh htail hgood htail' =>
    rw [if_neg (by omega)]
    dsimp only
    rw [if_neg (by omega), leadOf_three hlow hhigh]
    dsimp only
    rw [if_neg (by omega), continueFrom_succ.mpr ⟨htail, fun hr => hgood hr.2,
      continueFrom_succ.mpr ⟨htail', fun hr => absurd hr.1 (by decide), rfl⟩⟩]
    dsimp only
    unfold Refused Tail at *
    rw [if_neg (by omega)]
  | four hlow hhigh htail hgood htail' htail'' =>
    rw [if_neg (by omega)]
    dsimp only
    rw [if_neg (by omega), leadOf_four hlow hhigh]
    dsimp only
    rw [if_neg (by omega), continueFrom_succ.mpr ⟨htail, fun hr => hgood hr.2,
      continueFrom_succ.mpr ⟨htail', fun hr => absurd hr.1 (by decide),
      continueFrom_succ.mpr ⟨htail'', fun hr => absurd hr.1 (by decide), rfl⟩⟩⟩]
    dsimp only
    unfold Refused Tail at *
    rw [if_neg (by omega)]

/-- The decoder yields what one of the rows yields, within the source. -/
theorem decodeOne_eq_some_iff :
    decodeOne m source sourceLength offset = some (v, k) ↔
      Row (m (source + offset)).toNat (m (source + offset + 1)).toNat
        (m (source + offset + 2)).toNat (m (source + offset + 3)).toNat v k ∧
      offset + k ≤ sourceLength := by
  constructor
  · exact decodeOne_row
  · rintro ⟨hrow, hfits⟩
    exact hrow.decodeOne hfits

theorem bytesAt_take (hk : k ≤ 4) :
    [(m address).toNat, (m (address + 1)).toNat, (m (address + 2)).toNat,
      (m (address + 3)).toNat].take k = (bytesAt m address k).map UInt8.toNat := by
  unfold bytesAt
  interval_cases k <;> simp [List.range_succ]

/-- A code point is decoded exactly where the encoding of its character stands, whole. -/
theorem decodeOne_iff :
    decodeOne m source sourceLength offset = some (v, k) ↔
      ∃ c : Char, c.toNat = v ∧ k = (String.utf8EncodeChar c).length ∧
        offset + k ≤ sourceLength ∧ bytesAt m (source + offset) k = String.utf8EncodeChar c := by
  rw [decodeOne_eq_some_iff, row_iff]
  have hinj : Function.Injective UInt8.toNat := fun a b h => UInt8.toNat_inj.mp h
  constructor
  · rintro ⟨⟨hscalar, hlength, hbytes⟩, hfits⟩
    obtain ⟨c, rfl⟩ := Utf.exists_char hscalar
    refine ⟨c, rfl, ?_, hfits, ?_⟩
    · rw [hlength, ← Utf.toNat_utf8EncodeChar, List.length_map]
    · rw [bytesAt_take (hlength ▸ Utf.bytesOf_length_le _), ← Utf.toNat_utf8EncodeChar] at hbytes
      exact hinj.list_map hbytes
  · rintro ⟨c, rfl, hlength, hfits, hbytes⟩
    have hlength' : k = (Utf.bytesOf c.toNat).length := by
      rw [hlength, ← Utf.toNat_utf8EncodeChar, List.length_map]
    refine ⟨⟨Utf.toNat_bounds c, hlength', ?_⟩, hfits⟩
    rw [bytesAt_take (hlength' ▸ Utf.bytesOf_length_le _), hbytes, Utf.toNat_utf8EncodeChar]

end Gate4Harness.Multibyte
