-- The two passes over the source. Each walks through it character by character, so where it
-- ends the bytes are the encoding of the characters it met; the first pass counts the units
-- that the second one stores.
import Gate4Harness.MultibyteDecode

namespace Gate4Harness.Multibyte

variable {m m' : Memory} {source sourceLength offset turns required written total : Nat}
  {destination address p : Nat} {scalars : List Char} {c : Char} {units : List Nat}

/-! ## Units in memory -/

/-- The units from an address on. -/
def unitsAt (m : Memory) (address n : Nat) : List Nat :=
  (List.range n).map fun i => unitAt m (address + 2 * i)

def storeUnits (m : Memory) (address : Nat) : List Nat → Memory
  | [] => m
  | unit :: units => storeUnits (storeUnit m address unit) (address + 2) units

theorem storeUnits_append (more : List Nat) :
    storeUnits m address (units ++ more) =
      storeUnits (storeUnits m address units) (address + 2 * units.length) more := by
  induction units generalizing m address with
  | nil => rfl
  | cons unit units ih =>
    rw [List.cons_append, storeUnits, storeUnits, ih, List.length_cons]
    congr 1
    omega

theorem storeUnits_outside (h : p < address ∨ address + 2 * units.length ≤ p) :
    storeUnits m address units p = m p := by
  induction units generalizing m address with
  | nil => rfl
  | cons unit units ih =>
    rw [List.length_cons] at h
    rw [storeUnits, ih (by omega)]
    unfold storeUnit
    rw [if_neg (by omega), if_neg (by omega)]

theorem unitAt_storeUnit {unit : Nat} (h : unit < 0x10000) :
    unitAt (storeUnit m address unit) address = unit := by
  unfold unitAt storeUnit
  rw [if_pos rfl, if_neg (by omega), if_pos rfl, UInt8.toNat_ofNat', UInt8.toNat_ofNat']
  omega

/-- Units that are stored one after another read back. -/
theorem unitsAt_storeUnits (h : ∀ unit ∈ units, unit < 0x10000) :
    unitsAt (storeUnits m address units) address units.length = units := by
  induction units generalizing m address with
  | nil => rfl
  | cons unit units ih =>
    have hfirst : unitAt (storeUnits m address (unit :: units)) address = unit := by
      rw [storeUnits, unitAt, storeUnits_outside (Or.inl (by omega)),
        storeUnits_outside (Or.inl (by omega))]
      exact unitAt_storeUnit (h unit (List.mem_cons_self ..))
    have hrest : unitsAt (storeUnits (storeUnit m address unit) (address + 2) units)
        (address + 2) units.length = units :=
      ih fun u hu => h u (List.mem_cons_of_mem _ hu)
    unfold unitsAt at hrest ⊢
    rw [List.length_cons, List.range_succ_eq_map, List.map_cons, List.map_map, Nat.mul_zero,
      Nat.add_zero, hfirst]
    congr 1
    refine Eq.trans ?_ hrest
    apply List.map_congr_left
    intro i _
    rw [storeUnits]
    simp only [Function.comp, Nat.succ_eq_add_one]
    congr 1
    omega

/-! ## One character -/

theorem units_of_char : (if c.toNat > 0xFFFF then 2 else 1) = (Utf.utf16EncodeChar c).length := by
  unfold Utf.utf16EncodeChar
  by_cases h : c.toNat < 0x10000
  · rw [if_pos h, if_neg (by omega)]
    rfl
  · rw [if_neg h, if_pos (by omega)]
    rfl

theorem unit_lt {unit : Nat} (h : unit ∈ Utf.encode16 scalars) : unit < 0x10000 := by
  obtain ⟨c, -, hunit⟩ := List.mem_flatMap.mp h
  have hbounds := Utf.toNat_bounds c
  unfold Utf.utf16EncodeChar at hunit
  split at hunit
  · simp only [List.mem_singleton] at hunit
    omega
  · simp only [List.mem_cons, List.not_mem_nil, or_false] at hunit
    omega

/-- What is left of the source, from an offset on, is the encoding of a text. -/
def Left (m : Memory) (source sourceLength offset : Nat) (scalars : List Char) : Prop :=
  offset ≤ sourceLength ∧
  bytesAt m (source + offset) (sourceLength - offset) = Utf.encode8 scalars

theorem left_nil : Left m source sourceLength offset [] ↔ offset = sourceLength := by
  unfold Left
  constructor
  · rintro ⟨hle, hbytes⟩
    have hlength := congrArg List.length hbytes
    rw [bytesAt_length, Utf.encode8_nil, List.length_nil] at hlength
    omega
  · rintro rfl
    exact ⟨Nat.le_refl _, by rw [Nat.sub_self]; rfl⟩

/-- The first character of what is left is the one that is decoded. -/
theorem left_cons : Left m source sourceLength offset (c :: scalars) ↔
    decodeOne m source sourceLength offset =
      some (c.toNat, (String.utf8EncodeChar c).length) ∧
    Left m source sourceLength (offset + (String.utf8EncodeChar c).length) scalars := by
  rw [decodeOne_iff]
  unfold Left
  constructor
  · rintro ⟨hle, hbytes⟩
    have hlength := congrArg List.length hbytes
    rw [bytesAt_length, Utf.encode8_cons, List.length_append] at hlength
    have hsplit : sourceLength - offset = (String.utf8EncodeChar c).length +
        (sourceLength - (offset + (String.utf8EncodeChar c).length)) := by omega
    rw [hsplit, bytesAt_add, Utf.encode8_cons] at hbytes
    obtain ⟨hfirst, hrest⟩ := List.append_inj hbytes (by rw [bytesAt_length])
    exact ⟨⟨c, rfl, rfl, by omega, hfirst⟩, by omega, by rw [← Nat.add_assoc]; exact hrest⟩
  · rintro ⟨⟨d, hd, -, hfits, hfirst⟩, hle, hrest⟩
    refine ⟨by omega, ?_⟩
    have hsplit : sourceLength - offset = (String.utf8EncodeChar c).length +
        (sourceLength - (offset + (String.utf8EncodeChar c).length)) := by omega
    rw [← Nat.add_assoc] at hrest
    rw [hsplit, bytesAt_add, Utf.encode8_cons, hrest, hfirst, Char.toNat_inj.mp hd]

/-! ## The first pass -/

theorem char_pos (c : Char) : 0 < (String.utf8EncodeChar c).length :=
  Nat.lt_of_lt_of_le (Utf.utf16EncodeChar_pos c) (Utf.utf16EncodeChar_length_le c)

/-- A first pass that ends well has met the characters of a text. -/
theorem requiredUnits_eq_ok (hle : offset ≤ sourceLength)
    (hturns : sourceLength - offset ≤ turns)
    (h : requiredUnits m source sourceLength turns offset required = .ok total) :
    ∃ scalars, Left m source sourceLength offset scalars ∧
      total = required + (Utf.encode16 scalars).length := by
  induction turns generalizing offset required with
  | zero =>
    cases h
    exact ⟨[], left_nil.mpr (by omega), rfl⟩
  | succ turns ih =>
    unfold requiredUnits at h
    split at h
    · rename_i hend
      cases h
      exact ⟨[], left_nil.mpr hend, rfl⟩
    · split at h
      · cases h
      · rename_i codePoint consumed hdecode
        obtain ⟨c, rfl, rfl, hfits, -⟩ := decodeOne_iff.mp hdecode
        have hpos := char_pos c
        dsimp only at h
        rw [units_of_char] at h
        split at h
        · cases h
        · obtain ⟨scalars, hleft, htotal⟩ := ih hfits (by omega) h
          refine ⟨c :: scalars, left_cons.mpr ⟨hdecode, hleft⟩, ?_⟩
          rw [htotal, Utf.encode16_cons, List.length_append, Nat.add_assoc]

/-- The first pass counts the units of a text. -/
theorem requiredUnits_of_left (h : Left m source sourceLength offset scalars)
    (hturns : sourceLength - offset ≤ turns)
    (hmax : required + (Utf.encode16 scalars).length ≤ uintptrMax) :
    requiredUnits m source sourceLength turns offset required =
      .ok (required + (Utf.encode16 scalars).length) := by
  induction scalars generalizing turns offset required with
  | nil =>
    obtain rfl := left_nil.mp h
    cases turns with
    | zero => rfl
    | succ turns =>
      rw [requiredUnits, if_pos rfl]
      rfl
  | cons c scalars ih =>
    obtain ⟨hdecode, hrest⟩ := left_cons.mp h
    have hpos := char_pos c
    have hle := hrest.1
    obtain ⟨turns, rfl⟩ : ∃ t, turns = t + 1 := ⟨turns - 1, by omega⟩
    rw [Utf.encode16_cons, List.length_append] at hmax ⊢
    rw [requiredUnits, if_neg (by omega), hdecode]
    dsimp only
    rw [units_of_char, if_neg (by omega), ih hrest (by omega) (by omega), Nat.add_assoc]

/-! ## The second pass -/

/-- What is left depends on the bytes of the source only. -/
theorem Left.congr (h : Left m source sourceLength offset scalars)
    (hsame : ∀ p, source ≤ p → p < source + sourceLength → m' p = m p) :
    Left m' source sourceLength offset scalars := by
  refine ⟨h.1, ?_⟩
  rw [← h.2]
  have hle := h.1
  exact bytesAt_congr fun p hlow hhigh => hsame p (by omega) (by omega)

/-- The second pass stores the units of a text, where it does not meet the source. -/
theorem writeUnits_of_left (h : Left m source sourceLength offset scalars)
    (hturns : sourceLength - offset ≤ turns)
    (hapart : ∀ p, source ≤ p → p < source + sourceLength →
      p < destination ∨ destination + 2 * (written + (Utf.encode16 scalars).length) ≤ p) :
    writeUnits source sourceLength destination turns offset written m =
      (storeUnits m (destination + 2 * written) (Utf.encode16 scalars),
        some (written + (Utf.encode16 scalars).length)) := by
  induction scalars generalizing turns offset written m with
  | nil =>
    obtain rfl := left_nil.mp h
    cases turns with
    | zero => rfl
    | succ turns =>
      rw [writeUnits, if_pos rfl]
      rfl
  | cons c scalars ih =>
    obtain ⟨hdecode, hrest⟩ := left_cons.mp h
    have hpos := char_pos c
    have hle := hrest.1
    obtain ⟨turns, rfl⟩ : ∃ t, turns = t + 1 := ⟨turns - 1, by omega⟩
    rw [Utf.encode16_cons, List.length_append] at hapart
    have hnext : Left (storeUnits m (destination + 2 * written) (Utf.utf16EncodeChar c)) source
        sourceLength (offset + (String.utf8EncodeChar c).length) scalars :=
      hrest.congr fun p hlow hhigh => storeUnits_outside (by
        obtain hbelow | habove := hapart p hlow hhigh
        · exact Or.inl (by omega)
        · exact Or.inr (by omega))
    have hstep : writeUnits source sourceLength destination (turns + 1) offset written m =
        writeUnits source sourceLength destination turns
          (offset + (String.utf8EncodeChar c).length)
          (written + (Utf.utf16EncodeChar c).length)
          (storeUnits m (destination + 2 * written) (Utf.utf16EncodeChar c)) := by
      rw [writeUnits, if_neg (by omega), hdecode]
      dsimp only
      unfold Utf.utf16EncodeChar
      by_cases hplane : c.toNat < 0x10000
      · rw [if_pos (by omega), if_pos hplane]
        rfl
      · rw [if_neg (by omega), if_neg hplane, Nat.shiftRight_eq_div_pow,
          Nat.and_two_pow_sub_one_eq_mod _ 10]
        rfl
    rw [hstep, ih hnext (by omega) fun p hlow hhigh => by
      obtain hbelow | habove := hapart p hlow hhigh
      · exact Or.inl hbelow
      · exact Or.inr (by omega)]
    rw [Utf.encode16_cons, storeUnits_append, List.length_append, Nat.mul_add,
      Nat.add_assoc written, Nat.add_assoc destination]

end Gate4Harness.Multibyte
