-- What the checks of the ranges accept. The code goes from region to region; as the regions
-- are apart, a range is covered exactly when each of its bytes is in a region that grants it.
import Gate4Harness.Multibyte
import Mathlib.Data.List.Pairwise

namespace Gate4Harness.Multibyte

variable {memory : MemoryContext} {m : Memory} {call : MultibyteCall} {region : MemoryRegion}
  {writable : Bool} {statuses : RangeStatuses} {inaccessible : MultibyteStatus}
  {address length current remaining turns index base source n n' p : Nat}

/-- No two regions of the context have an address in common. -/
def RegionsApart (memory : MemoryContext) : Prop :=
  memory.Pairwise fun r r' => r.endAddress ≤ r'.base ∨ r'.endAddress ≤ r.base

def MemoryRegion.Holds (region : MemoryRegion) (p : Nat) : Prop :=
  region.base ≤ p ∧ p < region.endAddress

/-- The same of regions that may be empty. -/
def RegionsDisjoint (memory : MemoryContext) : Prop :=
  memory.Pairwise fun r r' => ∀ p, ¬ (r.Holds p ∧ r'.Holds p)

theorem RegionsApart.disjoint (h : RegionsApart memory) : RegionsDisjoint memory := by
  refine h.imp fun {r r'} hapart p ⟨⟨_, _⟩, _, _⟩ => ?_
  omega

def Grants (memory : MemoryContext) (writable : Bool) (p : Nat) : Prop :=
  ∃ region ∈ memory, region.base ≤ p ∧ p < region.endAddress ∧
    region.readable = true ∧ (writable = true → region.writable = true)

/-! ## Regions -/

theorem canonicalAddress_le (h : canonicalAddress address = true) : address ≤ uintptrMax := by
  simp only [canonicalAddress, Bool.or_eq_true, decide_eq_true_eq] at h
  rw [Nat.shiftRight_eq_div_pow] at h
  unfold uintptrMax
  omega

theorem findRegion_eq_some (h : findRegion memory p = some region) :
    region ∈ memory ∧ region.base ≤ p ∧ p < region.endAddress := by
  have hin := List.find?_some h
  simp only [Bool.and_eq_true, decide_eq_true_eq] at hin
  exact ⟨List.mem_of_find?_eq_some h, hin.1, hin.2⟩

/-- The region of an address is found wherever it stands in the context. -/
theorem findRegion_of_mem (hdisjoint : RegionsDisjoint memory) (hmem : region ∈ memory)
    (hlow : region.base ≤ p) (hhigh : p < region.endAddress) :
    findRegion memory p = some region := by
  cases hfind : findRegion memory p with
  | none =>
    have hnot := List.find?_eq_none.mp hfind region hmem
    simp only [Bool.and_eq_true, decide_eq_true_eq] at hnot
    exact absurd ⟨hlow, hhigh⟩ hnot
  | some found =>
    obtain ⟨hfound, hlow', hhigh'⟩ := findRegion_eq_some hfind
    by_cases heq : found = region
    · rw [heq]
    · have : Std.Symm fun r r' : MemoryRegion => ∀ p, ¬ (r.Holds p ∧ r'.Holds p) :=
        ⟨fun _ _ h p hp => h p hp.symm⟩
      exact absurd ⟨⟨hlow', hhigh'⟩, hlow, hhigh⟩ (hdisjoint.forall hfound hmem heq p)

theorem grants_of_turn (hmem : region ∈ memory) (hlow : region.base ≤ current)
    (hgranted : ¬ (¬ region.readable ∨ writable ∧ ¬ region.writable)) {i : Nat}
    (hhigh : current + i < region.endAddress) : Grants memory writable (current + i) := by
  simp only [not_or, Decidable.not_not, not_and] at hgranted
  exact ⟨region, hmem, by omega, hhigh, hgranted.1, hgranted.2⟩

/-- What the loop accepts is granted, also where regions overlap. -/
theorem coveredFrom_sound (hbad : inaccessible ≠ .ok) (hturns : remaining ≤ turns)
    (h : coveredFrom memory writable inaccessible turns current remaining = .ok) :
    ∀ i < remaining, Grants memory writable (current + i) := by
  induction turns generalizing current remaining with
  | zero =>
    intro i hi
    omega
  | succ turns ih =>
    intro i hi
    rw [coveredFrom, if_neg (by omega : remaining ≠ 0)] at h
    cases hfind : findRegion memory current with
    | none =>
      rw [hfind] at h
      exact absurd h hbad
    | some region =>
      obtain ⟨hmem, hlow, hhigh⟩ := findRegion_eq_some hfind
      rw [hfind] at h
      dsimp only at h
      split at h
      · exact absurd h hbad
      · rename_i hgranted
        by_cases hfirst : current + i < region.endAddress
        · exact grants_of_turn hmem hlow hgranted hfirst
        · rw [if_neg (by omega)] at h
          -- the byte is one of those that the next turn looks at
          have hlater := ih (by omega) h (i - (region.endAddress - current)) (by omega)
          rwa [show current + (region.endAddress - current) +
            (i - (region.endAddress - current)) = current + i by omega] at hlater

/-- A region that grants the current address is the one that the turn finds. -/
theorem findRegion_of_grants (hdisjoint : RegionsDisjoint memory) (h : Grants memory writable p) :
    ∃ region, findRegion memory p = some region ∧
      ¬ (¬ region.readable ∨ writable ∧ ¬ region.writable) := by
  obtain ⟨region, hmem, hlow, hhigh, hread, hwrite⟩ := h
  refine ⟨region, findRegion_of_mem hdisjoint hmem hlow hhigh, ?_⟩
  rintro (hread' | ⟨hw, hwrite'⟩)
  · exact hread' hread
  · exact hwrite' (hwrite hw)

theorem coveredFrom_eq_ok_iff (hdisjoint : RegionsDisjoint memory) (hbad : inaccessible ≠ .ok)
    (hturns : remaining ≤ turns) :
    coveredFrom memory writable inaccessible turns current remaining = .ok ↔
      ∀ i < remaining, Grants memory writable (current + i) := by
  refine ⟨coveredFrom_sound hbad hturns, ?_⟩
  induction turns generalizing current remaining with
  | zero =>
    intro _
    rfl
  | succ turns ih =>
    intro h
    rw [coveredFrom]
    split
    · rfl
    · rename_i hnonzero
      obtain ⟨region, hfind, hgranted⟩ := findRegion_of_grants hdisjoint (h 0 (by omega))
      rw [Nat.add_zero] at hfind
      obtain ⟨-, -, hhigh⟩ := findRegion_eq_some hfind
      rw [hfind]
      dsimp only
      rw [if_neg hgranted]
      split
      · rfl
      · refine ih (by omega) fun i hi => ?_
        rw [Nat.add_assoc]
        exact h _ (by omega)

/-- The loop ends, as every turn takes a byte at least from those that remain. No address
wraps, as the end of the range is an address. -/
theorem coveredLoop_eq {fuel : Nat} (hfuel : remaining < fuel) (hturns : remaining ≤ turns)
    (hbounded : current + remaining ≤ uintptrMax) :
    coveredLoop memory writable inaccessible fuel current remaining =
      some (coveredFrom memory writable inaccessible turns current remaining) := by
  induction fuel generalizing current remaining turns with
  | zero => omega
  | succ fuel ih =>
    rw [coveredLoop]
    cases turns with
    | zero =>
      rw [if_pos (by omega)]
      rfl
    | succ turns =>
      rw [coveredFrom]
      by_cases hzero : remaining = 0
      · rw [if_pos hzero, if_pos hzero]
      · rw [if_neg hzero, if_neg hzero]
        cases hfind : findRegion memory current with
        | none => rfl
        | some region =>
          obtain ⟨-, -, hhigh⟩ := findRegion_eq_some hfind
          dsimp only
          by_cases hrefused : ¬ region.readable ∨ writable ∧ ¬ region.writable
          · rw [if_pos hrefused, if_pos hrefused]
          · rw [if_neg hrefused, if_neg hrefused]
            by_cases hends : region.endAddress - current ≥ remaining
            · rw [if_pos hends, if_pos hends]
            · rw [if_neg hends, if_neg hends, Nat.mod_eq_of_lt (by omega)]
              exact ih (by omega) (by omega) (by omega)

/-- The statuses that a check reports are failures. -/
def RangeStatuses.Fail (statuses : RangeStatuses) : Prop :=
  statuses.null ≠ .ok ∧ statuses.noncanonical ≠ .ok ∧ statuses.inaccessible ≠ .ok ∧
    statuses.overflow ≠ .ok

theorem sourceStatuses_fail : sourceStatuses.Fail := by
  refine ⟨?_, ?_, ?_, ?_⟩ <;> decide

theorem destinationStatuses_fail : destinationStatuses.Fail := by
  refine ⟨?_, ?_, ?_, ?_⟩ <;> decide

/-- A range that the context covers. -/
structure Covered (memory : MemoryContext) (writable : Bool) (address length : Nat) : Prop where
  present : address ≠ 0
  canonical : canonicalAddress address = true
  bounded : address + length ≤ uintptrMax
  granted : ∀ i < length, Grants memory writable (address + i)

theorem rangeCovered_sound (hstatuses : statuses.Fail) (hlength : length ≠ 0)
    (h : rangeCovered memory address length writable statuses = .ok) :
    Covered memory writable address length := by
  obtain ⟨hnull, hcanonical, hinaccessible, hoverflow⟩ := hstatuses
  unfold rangeCovered at h
  rw [if_neg hlength] at h
  split at h
  · exact absurd h hnull
  · rename_i hpresent
    split at h
    · exact absurd h hcanonical
    · rename_i hgood
      have hle := canonicalAddress_le (Decidable.not_not.mp hgood)
      split at h
      · exact absurd h hoverflow
      · exact ⟨hpresent, Decidable.not_not.mp hgood, by omega,
          coveredFrom_sound hinaccessible (Nat.le_refl _) h⟩

theorem rangeCovered_eq_ok_iff (hdisjoint : RegionsDisjoint memory) (hstatuses : statuses.Fail)
    (hlength : length ≠ 0) :
    rangeCovered memory address length writable statuses = .ok ↔
      Covered memory writable address length := by
  refine ⟨rangeCovered_sound hstatuses hlength, fun hc => ?_⟩
  have hbounded := hc.bounded
  unfold rangeCovered
  rw [if_neg hlength, if_neg hc.present, if_neg (not_not_intro hc.canonical), if_neg (by omega)]
  exact (coveredFrom_eq_ok_iff hdisjoint hstatuses.2.2.1 (Nat.le_refl _)).mpr hc.granted

theorem rangeCoveredLoop_eq {fuel : Nat} (hfuel : length < fuel) :
    rangeCoveredLoop memory address length writable statuses fuel =
      some (rangeCovered memory address length writable statuses) := by
  unfold rangeCoveredLoop rangeCovered
  split
  · rfl
  · split
    · rfl
    · split
      · rfl
      · rename_i hgood
        have hle := canonicalAddress_le (Decidable.not_not.mp hgood)
        split
        · rfl
        · exact coveredLoop_eq hfuel (Nat.le_refl _) (by omega)

/-- Every check of a range ends, and what it accepts does not wrap and is granted. As far as the
regions are disjoint it accepts all such ranges at a canonical address other than null, and
besides them the empty ranges, which it does not look at. -/
theorem ranges_are_checked (hstatuses : statuses.Fail) (memory : MemoryContext)
    (address length : Nat) (writable : Bool) :
    (∀ fuel > length, rangeCoveredLoop memory address length writable statuses fuel =
      some (rangeCovered memory address length writable statuses)) ∧
    (rangeCovered memory address length writable statuses = .ok →
      (length = 0 ∨ address + length ≤ uintptrMax) ∧
      ∀ i < length, Grants memory writable (address + i)) ∧
    (RegionsDisjoint memory → (rangeCovered memory address length writable statuses = .ok ↔
      length = 0 ∨ Covered memory writable address length)) := by
  refine ⟨fun fuel hfuel => rangeCoveredLoop_eq hfuel, fun h => ?_, fun hdisjoint => ?_⟩
  · by_cases hlength : length = 0
    · exact ⟨Or.inl hlength, fun i hi => by omega⟩
    · have hc := rangeCovered_sound hstatuses hlength h
      exact ⟨Or.inr hc.bounded, hc.granted⟩
  · by_cases hlength : length = 0
    · rw [hlength]
      exact iff_of_true (if_pos rfl) (Or.inl rfl)
    · rw [rangeCovered_eq_ok_iff hdisjoint hstatuses hlength, or_iff_right hlength]

/-- The checks of the source and of the destination report failures. -/
theorem ranges_of_a_call_are_checked :
    (rangeCovered [⟨0x1000, 0x2000, true, false⟩, ⟨0x2000, 0x3000, true, false⟩] 0x1FF0 0x20 false
      sourceStatuses = .ok) ∧
    ∀ i < 0x20, Grants [⟨0x1000, 0x2000, true, false⟩, ⟨0x2000, 0x3000, true, false⟩] false
      (0x1FF0 + i) :=
  ⟨by decide, ((ranges_are_checked sourceStatuses_fail _ _ _ _).2.1 (by decide)).2⟩

/-- An empty range at null is accepted. -/
theorem empty_range_at_null_is_accepted :
    RegionsDisjoint [⟨0x1000, 0x2000, true, true⟩] ∧
    rangeCovered [⟨0x1000, 0x2000, true, true⟩] 0 0 false sourceStatuses = .ok ∧
    ¬ Covered [⟨0x1000, 0x2000, true, true⟩] false 0 0 :=
  ⟨List.pairwise_singleton .., rfl, fun h => h.present rfl⟩

/-! ## The source -/

/-- The bytes up to and with the first terminator from `index` on. -/
structure Terminated (memory : MemoryContext) (m : Memory) (base index n : Nat) : Prop where
  past : index < n
  terminator : m (base + (n - 1)) = 0
  first : ∀ i, index ≤ i → i < n - 1 → m (base + i) ≠ 0
  readable : ∀ i, index ≤ i → i < n → Covered memory false (base + i) 1

theorem scanNul_eq_ok_iff (hapart : RegionsApart memory) :
    scanNul memory m base turns index = .ok (n, n') ↔
      Terminated memory m base index n ∧ n ≤ index + turns ∧ n' = n - 1 := by
  induction turns generalizing index with
  | zero =>
    refine iff_of_false (by simp [scanNul]) fun h => ?_
    have := h.1.past
    omega
  | succ turns ih =>
    have hhere : Terminated memory m base index n → Covered memory false (base + index) 1 :=
      fun h => h.readable index (Nat.le_refl _) h.past
    have hcovered : rangeCovered memory (base + index) 1 false sourceStatuses = .ok ↔
        Covered memory false (base + index) 1 :=
      rangeCovered_eq_ok_iff hapart.disjoint sourceStatuses_fail Nat.one_ne_zero
    rw [scanNul]
    split
    · rename_i hover
      refine iff_of_false (by simp) fun h => ?_
      have := (hhere h.1).bounded
      omega
    · dsimp only
      split
      · rename_i hok
        have hread := hcovered.mp hok
        split
        · rename_i hzero
          constructor
          · intro h
            cases h
            exact ⟨⟨by omega, hzero, fun i _ _ => by omega, fun i hlow hhigh => by
              rw [Nat.le_antisymm (Nat.le_of_lt_succ hhigh) hlow]
              exact hread⟩, by omega, rfl⟩
          · rintro ⟨h, -, rfl⟩
            have hpast := h.past
            have hlast : n = index + 1 := by
              by_contra hne
              exact h.first index (Nat.le_refl _) (by omega) hzero
            rw [hlast]
            rfl
        · rename_i hnonzero
          rw [ih]
          constructor
          · rintro ⟨h, hle, hn'⟩
            have hpast := h.past
            refine ⟨⟨by omega, h.terminator, fun i hlow hhigh => ?_, fun i hlow hhigh => ?_⟩,
              by omega, hn'⟩
            · by_cases heq : i = index
              · rw [heq]
                exact hnonzero
              · exact h.first i (by omega) hhigh
            · by_cases heq : i = index
              · rw [heq]
                exact hread
              · exact h.readable i (by omega) hhigh
          · rintro ⟨h, hle, hn'⟩
            have hpast := h.past
            have hmore : index + 1 < n := by
              by_contra hnot
              refine hnonzero ?_
              have hterminator := h.terminator
              rwa [show n - 1 = index by omega] at hterminator
            exact ⟨⟨hmore, h.terminator, fun i hlow hhigh => h.first i (by omega) hhigh,
              fun i hlow hhigh => h.readable i (by omega) hhigh⟩, by omega, hn'⟩
      · rename_i status hstatus
        refine iff_of_false (by simp) fun h => ?_
        exact hstatus (hcovered.mpr (hhere h.1))

end Gate4Harness.Multibyte
