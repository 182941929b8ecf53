-- The arithmetic of entries and addresses: what the masks and shifts of the code mean.
import Gate4Harness.Paging
import Mathlib.Data.Nat.Bitwise

namespace Gate4Harness.Vm

variable {p entry flags address : Nat}

/-! ## Entries -/

theorem physicalMask_eq : physicalMask = (2 ^ 40 - 1) <<< 12 := by decide

/-- The mask keeps the 40 bits from bit 12 on. -/
theorem entryAddress_eq (entry : Nat) : entryAddress entry = entry / 2 ^ 12 % 2 ^ 40 * 2 ^ 12 := by
  have : entry / 2 ^ 12 % 2 ^ 40 * 2 ^ 12 = ((entry >>> 12) % 2 ^ 40) <<< 12 := by
    rw [Nat.shiftLeft_eq, Nat.shiftRight_eq_div_pow]
  rw [this]
  apply Nat.eq_of_testBit_eq
  intro i
  rw [entryAddress, physicalMask_eq, Nat.testBit_and, Nat.testBit_shiftLeft, Nat.testBit_shiftLeft,
    Nat.testBit_mod_two_pow, Nat.testBit_shiftRight, Nat.testBit_two_pow_sub_one]
  by_cases hi : 12 ≤ i
  · have : 12 + (i - 12) = i := by omega
    simp [hi, this, Bool.and_comm]
  · simp [hi]

/-- A physical page that fits into an entry. -/
structure PhysicalPage (p : Nat) : Prop where
  nonzero : p ≠ 0
  aligned : p % pageSize = 0
  small : p < 2 ^ 52

theorem PhysicalPage.entryAddress (h : PhysicalPage p) : entryAddress p = p := by
  have := h.aligned
  have := h.small
  simp only [pageSize] at *
  rw [entryAddress_eq]
  omega

theorem entryAddress_or (p flags : Nat) :
    entryAddress (p ||| flags) = entryAddress p ||| entryAddress flags := by
  unfold Vm.entryAddress
  exact Nat.and_or_distrib_right ..

theorem and_one (n : Nat) : n &&& 1 = n % 2 := Nat.and_one_is_mod n

/-- An entry with the flag is present, and only the flags count when the page is aligned. -/
theorem isPresent_or (h : p % pageSize = 0) (hflags : flags &&& 1 = 1) :
    isPresent (p ||| flags) = true := by
  have hp : p &&& 1 = 0 := by
    rw [and_one]
    simp only [pageSize] at h
    omega
  unfold isPresent entryPresentBit
  rw [Nat.and_or_distrib_right, hp, hflags]
  rfl

theorem and_bit7 (h : p % pageSize = 0) : p &&& entryPageSizeBit = 0 := by
  have : entryPageSizeBit = 2 ^ 7 := rfl
  rw [this, Nat.and_two_pow]
  have hbit : p.testBit 7 = false := by
    rw [Nat.testBit_eq_decide_div_mod_eq]
    simp only [pageSize] at h
    simp only [decide_eq_false_iff_not]
    omega
  simp [hbit]

theorem isLarge_or (h : p % pageSize = 0) (hflags : flags &&& entryPageSizeBit = 0) :
    isLarge (p ||| flags) = false := by
  simp [isLarge, Nat.and_or_distrib_right, and_bit7 h, hflags]

theorem isPresent_zero : isPresent 0 = false := rfl

/-- The entry of a table page leads to it. -/
theorem tableEntry_facts (h : PhysicalPage p) :
    isPresent (p ||| entryPresentBit ||| entryWritableBit) = true ∧
    isLarge (p ||| entryPresentBit ||| entryWritableBit) = false ∧
    entryAddress (p ||| entryPresentBit ||| entryWritableBit) = p := by
  rw [Nat.lor_assoc]
  refine ⟨isPresent_or h.aligned (by decide), isLarge_or h.aligned (by decide), ?_⟩
  rw [entryAddress_or, h.entryAddress]
  have : Vm.entryAddress (entryPresentBit ||| entryWritableBit) = 0 := by decide
  rw [this, Nat.or_zero]

theorem pageFlags_present (nxEnabled writable executable : Bool) :
    pageFlags nxEnabled writable executable &&& 1 = 1 := by
  cases nxEnabled <;> cases writable <;> cases executable <;> decide

theorem pageFlags_address (nxEnabled writable executable : Bool) :
    entryAddress (pageFlags nxEnabled writable executable) = 0 := by
  cases nxEnabled <;> cases writable <;> cases executable <;> decide

theorem pageEntry_present (h : p % pageSize = 0) (nxEnabled writable executable : Bool) :
    isPresent (p ||| pageFlags nxEnabled writable executable) = true :=
  isPresent_or h (pageFlags_present nxEnabled writable executable)

theorem pageEntry_address (h : PhysicalPage p) (nxEnabled writable executable : Bool) :
    entryAddress (p ||| pageFlags nxEnabled writable executable) = p := by
  rw [entryAddress_or, h.entryAddress, pageFlags_address, Nat.or_zero]

/-! ## Addresses -/

theorem and_0x1FF (n : Nat) : n &&& 0x1FF = n % 512 := by
  simpa using Nat.and_two_pow_sub_one_eq_mod n 9

theorem pml4Index_eq (address : Nat) : pml4Index address = address / 2 ^ 39 % 512 := by
  rw [pml4Index, and_0x1FF, Nat.shiftRight_eq_div_pow]

theorem pdptIndex_eq (address : Nat) : pdptIndex address = address / 2 ^ 30 % 512 := by
  rw [pdptIndex, and_0x1FF, Nat.shiftRight_eq_div_pow]

theorem pdIndex_eq (address : Nat) : pdIndex address = address / 2 ^ 21 % 512 := by
  rw [pdIndex, and_0x1FF, Nat.shiftRight_eq_div_pow]

theorem ptIndex_eq (address : Nat) : ptIndex address = address / 2 ^ 12 % 512 := by
  rw [ptIndex, and_0x1FF, Nat.shiftRight_eq_div_pow]

/-- The lower half of the canonical addresses and the upper half. -/
theorem canonical48_iff (address : Nat) : canonical48 address = true ↔
    address < 2 ^ 47 ∨ 2 ^ 64 - 2 ^ 47 ≤ address ∧ address < 2 ^ 64 := by
  unfold canonical48
  rw [and_one, Nat.shiftRight_eq_div_pow, Nat.shiftRight_eq_div_pow]
  simp only [Bool.or_eq_true, Bool.and_eq_true, decide_eq_true_eq]
  omega

/-- Two canonical addresses with the same four indices are in one page. -/
theorem samePage_of_indices {u v : Nat} (hu : canonical48 u = true) (hv : canonical48 v = true)
    (h1 : pml4Index u = pml4Index v) (h2 : pdptIndex u = pdptIndex v)
    (h3 : pdIndex u = pdIndex v) (h4 : ptIndex u = ptIndex v) :
    u / pageSize = v / pageSize := by
  rw [canonical48_iff] at hu hv
  rw [pml4Index_eq, pml4Index_eq] at h1
  rw [pdptIndex_eq, pdptIndex_eq] at h2
  rw [pdIndex_eq, pdIndex_eq] at h3
  rw [ptIndex_eq, ptIndex_eq] at h4
  simp only [pageSize]
  omega

/-- All indices of an address are those of its page. -/
theorem indices_of_samePage {u v : Nat} (h : u / pageSize = v / pageSize) :
    pml4Index u = pml4Index v ∧ pdptIndex u = pdptIndex v ∧ pdIndex u = pdIndex v ∧
    ptIndex u = ptIndex v := by
  simp only [pageSize] at h
  simp only [pml4Index_eq, pdptIndex_eq, pdIndex_eq, ptIndex_eq]
  omega

end Gate4Harness.Vm
