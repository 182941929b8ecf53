-- Which output buffers are accepted. Two of the checks want one commitment that holds the
-- whole range, and the collector asks for each page the range meets. So they disagree where
-- a range goes on from one commitment to the next, and with commitments of parts of pages.
import Gate4Harness.OutputRanges
import Gate4Harness.CommitCoverage

namespace Gate4Harness.OutputRanges

open Vm

/-! ## Ranges that a family of ranges covers -/

section Family

variable {ι : Type} (start size : ι → Nat) {base bytes : Nat}

/-- The address lies in a range of the family. -/
def Covered (start size : ι → Nat) (x : Nat) : Prop := ∃ i, start i ≤ x ∧ x < start i + size i

/-- Ranges that do not overlap cover a range with one of them, if none begins inside of it. -/
theorem one_covers_iff (happart : ∀ i j, i ≠ j → Apart (start i) (size i) (start j) (size j))
    (hsize : ∀ i, size i ≠ 0) (hbytes : bytes ≠ 0)
    (hcovered : ∀ x, base ≤ x → x < base + bytes → Covered start size x) :
    (∃ i, start i ≤ base ∧ base + bytes ≤ start i + size i) ↔
      ¬ ∃ j, base < start j ∧ start j < base + bytes := by
  constructor
  · rintro ⟨i, hstart, hstop⟩ ⟨j, hafter, hbefore⟩
    have hne : i ≠ j := by
      rintro rfl
      exact Nat.not_lt_of_le hstart hafter
    have hj := hsize j
    rcases happart i j hne with hleft | hright <;> omega
  · intro hnone
    obtain ⟨i, hstart, hlt⟩ := hcovered base (Nat.le_refl base) (by omega)
    refine ⟨i, hstart, Nat.le_of_not_lt fun hshort => ?_⟩
    -- the range of `j` begins where that of `i` ends
    obtain ⟨j, hj, hjlt⟩ := hcovered (start i + size i) (by omega) hshort
    have hne : i ≠ j := by
      rintro rfl
      omega
    refine hnone ⟨j, ?_⟩
    rcases happart i j hne with hleft | hright <;> omega

end Family

/-! ## Committed memory -/

section Arena

variable {a : Arena} {base bytes x : Nat}

def Committed (a : Arena) (x : Nat) : Prop :=
  ∃ i, (a.commitments i).live = true ∧ (a.commitments i).base ≤ x ∧
    x < (a.commitments i).base + (a.commitments i).bytes

/-- Each byte of the range lies in a live commitment. -/
def CommittedRange (a : Arena) (base bytes : Nat) : Prop :=
  ∀ x, base ≤ x → x < base + bytes → Committed a x

/-- One live commitment holds the whole range. -/
def InOneCommitment (a : Arena) (base bytes : Nat) : Prop :=
  ∃ i, (a.commitments i).live = true ∧ (a.commitments i).base ≤ base ∧
    base + bytes ≤ (a.commitments i).base + (a.commitments i).bytes

/-- A live commitment begins in the range, after its first byte. -/
def CommitmentBeginsInside (a : Arena) (base bytes : Nat) : Prop :=
  ∃ i, (a.commitments i).live = true ∧ base < (a.commitments i).base ∧
    (a.commitments i).base < base + bytes

theorem InOneCommitment.committedRange (h : InOneCommitment a base bytes) :
    CommittedRange a base bytes := by
  obtain ⟨i, hlive, hstart, hstop⟩ := h
  exact fun x hx hlt => ⟨i, hlive, hstart.trans hx, hlt.trans_le hstop⟩

theorem inOneCommitment_iff (h : ArenaInv a) (hbytes : bytes ≠ 0)
    (hcommitted : CommittedRange a base bytes) :
    InOneCommitment a base bytes ↔ ¬ CommitmentBeginsInside a base bytes := by
  have hcovered : ∀ x, base ≤ x → x < base + bytes →
      Covered (fun i : { i // (a.commitments i).live = true } => (a.commitments i.1).base)
        (fun i => (a.commitments i.1).bytes) x := by
    intro x hx hlt
    obtain ⟨i, hlive, hin⟩ := hcommitted x hx hlt
    exact ⟨⟨i, hlive⟩, hin⟩
  have hone := one_covers_iff _ _
    (fun i j hij => h.distinct i.1 j.1 (fun heq => hij (Subtype.ext heq)) i.2 j.2)
    (fun i => (h.commitments i.1 i.2).nonempty) hbytes hcovered
  unfold InOneCommitment CommitmentBeginsInside
  simpa only [Subtype.exists, exists_prop] using hone

/-- The bounds of a live commitment of a valid arena. -/
theorem commitment_inside (h : ArenaInv a) {i : CommitmentSlot}
    (hlive : (a.commitments i).live = true) :
    a.base ≤ (a.commitments i).base ∧
      (a.commitments i).base + (a.commitments i).bytes ≤ a.base + a.length := by
  have hx := h.commitments i hlive
  have hr := (h.reservations _ hx.reserved).inside
  have hin := hx.inside
  omega

/-! ## The check of each file -/

theorem recordCovers_iff {live : Bool} {recordBase recordBytes stop : Nat}
    (hbytes : recordBytes ≠ 0) (hfits : recordBase + recordBytes ≤ uint64Max) :
    recordCovers live recordBase recordBytes base stop = true ↔
      live = true ∧ recordBase ≤ base ∧ stop ≤ recordBase + recordBytes := by
  unfold recordCovers
  simp only [Bool.and_eq_true, decide_eq_true_eq, ge_iff_le]
  constructor
  · rintro ⟨⟨⟨⟨hlive, -⟩, -⟩, hstart⟩, hstop⟩
    exact ⟨hlive, hstart, hstop⟩
  · rintro ⟨hlive, hstart, hstop⟩
    exact ⟨⟨⟨⟨hlive, hbytes⟩, by omega⟩, hstart⟩, hstop⟩

theorem coveredByArena_iff (hlength : a.length ≤ uint64Max) (hvalid : validate a = true) :
    coveredByArena (some a) base (base + bytes) = true ↔ InOneCommitment a base bytes := by
  obtain ⟨hinv, hsane⟩ := (validate_iff hlength).mp hvalid
  have hfits := hsane.fits
  unfold coveredByArena InOneCommitment
  simp only [hvalid, Bool.true_and, List.any_eq_true]
  have hrecord : ∀ i, recordCovers (a.commitments i).live (a.commitments i).base
      (a.commitments i).bytes base (base + bytes) = true ↔
      (a.commitments i).live = true ∧ (a.commitments i).base ≤ base ∧
        base + bytes ≤ (a.commitments i).base + (a.commitments i).bytes := by
    intro i
    cases hlive : (a.commitments i).live with
    | false => simp [recordCovers]
    | true =>
      have hin := commitment_inside hinv hlive
      exact recordCovers_iff (hinv.commitments i hlive).nonempty (by omega)
  simp only [hrecord, List.mem_finRange, true_and]

theorem writableInCommitment_isSome_iff {c : Commitment} (hbytes : c.bytes ≠ 0)
    (hfits : c.base + c.bytes ≤ uint64Max) :
    (writableInCommitment c base bytes).isSome = true ↔
      c.live = true ∧ c.base ≤ base ∧ base + bytes ≤ c.base + c.bytes := by
  unfold writableInCommitment
  rw [rangeEnd_eq hbytes hfits]
  by_cases hlive : c.live = true
  · rw [if_neg (not_not_intro hlive)]
    by_cases hstart : base ≥ c.base
    · rw [if_pos hstart]
      dsimp only
      by_cases hstop : base + bytes ≤ c.base + c.bytes
      · rw [if_pos hstop]
        exact iff_of_true rfl ⟨hlive, hstart, hstop⟩
      · rw [if_neg hstop]
        exact iff_of_false (by simp) fun h => hstop h.2.2
    · rw [if_neg hstart]
      exact iff_of_false (by simp) fun h => hstart h.2.1
  · rw [if_pos hlive]
    exact iff_of_false (by simp) fun h => hlive h.1

/-! ## The pages of a range -/

theorem findCommitment_isSome_iff : (findCommitment a x).isSome = true ↔ Committed a x := by
  unfold findCommitment Committed
  rw [List.find?_isSome]
  simp only [List.mem_finRange, true_and, Bool.and_eq_true, decide_eq_true_eq, ge_iff_le]
  refine exists_congr fun i => ?_
  constructor
  · rintro ⟨⟨hlive, hstart⟩, hlt⟩
    exact ⟨hlive, hstart, by omega⟩
  · rintro ⟨hlive, hstart, hlt⟩
    exact ⟨⟨hlive, hstart⟩, by omega⟩

theorem pagesCommitted_iff (a : Arena) (count page : Nat)
    (hfits : page + count * pageSize ≤ uint64Max) :
    Unwind.pagesCommitted a count page = true ↔
      ∀ k, k ≤ count → Committed a (page + k * pageSize) := by
  induction count generalizing page with
  | zero =>
    rw [Unwind.pagesCommitted, findCommitment_isSome_iff]
    constructor
    · intro h k hk
      rw [Nat.le_zero.mp hk, Nat.zero_mul, Nat.add_zero]
      exact h
    · intro h
      simpa using h 0 (Nat.le_refl 0)
  | succ count ih =>
    rw [Nat.succ_mul] at hfits
    have hnext : page ≤ uint64Max - pageSize := by omega
    rw [Unwind.pagesCommitted, decide_eq_true hnext, Bool.and_true, Bool.and_eq_true,
      findCommitment_isSome_iff, ih (page + pageSize) (by omega)]
    have hshift : ∀ k, page + pageSize + k * pageSize = page + (k + 1) * pageSize := by
      intro k
      rw [Nat.succ_mul, Nat.add_assoc, Nat.add_comm pageSize]
    constructor
    · rintro ⟨hfirst, hrest⟩ k hk
      cases k with
      | zero => simpa using hfirst
      | succ k => exact hshift k ▸ hrest k (Nat.le_of_succ_le_succ hk)
    · intro h
      refine ⟨by simpa using h 0 (Nat.zero_le _), fun k hk => ?_⟩
      exact (hshift k).symm ▸ h (k + 1) (Nat.succ_le_succ hk)

/-- The first bytes of the pages that a range meets, counted from its first page. -/
theorem pages_of_range (hbytes : bytes ≠ 0) (P : Nat → Prop) :
    (∀ k, k ≤ (pageDown (base + bytes - 1) - pageDown base) / pageSize →
        P (pageDown base + k * pageSize)) ↔
      ∀ x, base ≤ x → x < base + bytes → P (pageDown x) := by
  have hpage : ∀ y, pageDown y = y / 4096 * 4096 := fun _ => rfl
  simp only [hpage, pageSize]
  constructor
  · intro h x hx hlt
    have hk := h (x / 4096 - base / 4096) (by omega)
    have heq : base / 4096 * 4096 + (x / 4096 - base / 4096) * 0x1000 = x / 4096 * 4096 := by
      omega
    rwa [heq] at hk
  · intro h k hk
    by_cases hzero : k = 0
    · subst hzero
      simpa using h base (Nat.le_refl base) (by omega)
    · -- a later page of the range begins in the range
      have hx := h (base / 4096 * 4096 + k * 0x1000) (by omega) (by omega)
      have heq : (base / 4096 * 4096 + k * 0x1000) / 4096 * 4096 =
          base / 4096 * 4096 + k * 0x1000 := by
        omega
      rwa [heq] at hx

/-- The collector asks for the arena and the first byte of each page. -/
theorem committedArenaRange_iff (hsane : a.Sane) (hbytes : bytes ≠ 0)
    (hfits : base + bytes ≤ uint64Max) :
    Unwind.committedArenaRange a base bytes = true ↔
      (a.base ≤ base ∧ base + bytes ≤ a.base + a.length) ∧
      ∀ x, base ≤ x → x < base + bytes → Committed a (pageDown x) := by
  have hcontains : a.contains base bytes = true ↔
      a.base ≤ base ∧ base + bytes ≤ a.base + a.length := by
    refine ⟨a.contains_facts, fun hin => ?_⟩
    unfold Arena.contains
    rw [hsane.valid, rangeContains_of hbytes hin hsane.fits]
    rfl
  unfold Unwind.committedArenaRange
  by_cases hin : a.contains base bytes = true
  · rw [if_neg (by simp only [hsane.valid, hin, not_true, false_or, or_false]; omega)]
    dsimp only
    have hlast : pageDown (base + bytes - 1) ≤ base + bytes - 1 := Nat.div_mul_le_self _ _
    have hcount : (pageDown (base + bytes - 1) - pageDown base) / pageSize * pageSize ≤
        pageDown (base + bytes - 1) - pageDown base := Nat.div_mul_le_self _ _
    have hfirst : pageDown base ≤ base := Nat.div_mul_le_self _ _
    rw [pagesCommitted_iff _ _ _ (by omega), pages_of_range hbytes (Committed a)]
    exact ⟨fun h => ⟨hcontains.mp hin, h⟩, fun h => h.2⟩
  · rw [if_pos (Or.inr (Or.inr (Or.inr hin)))]
    exact iff_of_false Bool.false_ne_true fun h => hin (hcontains.mpr h.1)

end Arena

/-! ## The regions of the context -/

section Context

variable {memory : MemoryContext} {a : Arena} {base bytes stop : Nat}

/-- The range has a first and a last byte, both canonical, and does not wrap. -/
structure CanonicalRange (base bytes : Nat) : Prop where
  nonempty : bytes ≠ 0
  fits : base + bytes ≤ uint64Max
  first : isCanonical base = true
  last : isCanonical (base + bytes - 1) = true

def MeetsNoRegion (memory : MemoryContext) (base bytes : Nat) : Prop :=
  ∀ region ∈ memory.regions, region.meets base (base + bytes) = false

/-- The ledger has no live entry. -/
def LedgerEmpty (memory : MemoryContext) : Prop :=
  ∀ l, memory.ledger = some l → ∀ i, (l.entries i).live = false

theorem CanonicalRange.rangeEnd_eq (h : CanonicalRange base bytes) :
    Vm.rangeEnd base bytes = some (base + bytes) :=
  Vm.rangeEnd_eq h.nonempty h.fits

theorem searchRegions_eq_none {regions : List MemoryRegion}
    (hvalid : ∀ region ∈ regions, region.base < region.endAddress ∧
      isCanonical region.base = true ∧ isCanonical (region.endAddress - 1) = true)
    (hmeets : ∀ region ∈ regions, region.meets base stop = false) :
    searchRegions base stop regions = none := by
  induction regions with
  | nil => rfl
  | cons region rest ih =>
    obtain ⟨hle, hfirst, hlast⟩ := hvalid region List.mem_cons_self
    have hrefused : ¬ (region.base ≥ region.endAddress ∨ ¬ isCanonical region.base ∨
        ¬ isCanonical (region.endAddress - 1)) := by
      simp only [hfirst, hlast, not_true, or_false, ge_iff_le, Nat.not_le]
      exact hle
    have hmissed := hmeets region List.mem_cons_self
    rw [searchRegions, if_neg hrefused, if_neg (by rw [hmissed]; exact Bool.false_ne_true)]
    exact ih (fun r hr => hvalid r (List.mem_cons_of_mem _ hr))
      fun r hr => hmeets r (List.mem_cons_of_mem _ hr)

theorem validateMemoryContext_facts (h : validateMemoryContext memory = true) :
    memory.regions.length ≤ maxMemoryRegions ∧
    ∀ region ∈ memory.regions, region.base < region.endAddress ∧
      isCanonical region.base = true ∧ isCanonical (region.endAddress - 1) = true := by
  unfold validateMemoryContext at h
  simp only [Bool.and_eq_true, decide_eq_true_eq, List.all_eq_true, Bool.not_eq_true',
    Bool.or_eq_false_iff, decide_eq_false_iff_not, Bool.not_eq_false', Nat.not_le] at h
  exact ⟨h.1, fun region hr =>
    ⟨(h.2 region hr).1.1.2, (h.2 region hr).1.2, (h.2 region hr).2⟩⟩

/-! ## What each check accepts -/

theorem rangeIsWritable_iff (hcontext : validateMemoryContext memory = true)
    (harena : memory.virtualArena = some a) (hlength : a.length ≤ uint64Max)
    (hvalid : validate a = true) (hrange : CanonicalRange base bytes)
    (hmeets : MeetsNoRegion memory base bytes) :
    (rangeIsWritable memory base bytes).isSome = true ↔ InOneCommitment a base bytes := by
  obtain ⟨hcount, hregions⟩ := validateMemoryContext_facts hcontext
  obtain ⟨hinv, hsane⟩ := (validate_iff hlength).mp hvalid
  have hfits := hsane.fits
  have hrefused : ¬ (¬ isCanonical base ∨ ¬ isCanonical (base + bytes - 1) ∨
      memory.regions.length > maxMemoryRegions) := by
    simp only [hrange.first, hrange.last, not_true, false_or, Nat.not_lt, gt_iff_lt]
    exact hcount
  have hgood : ¬ (¬ a.valid ∨ ¬ validate a) := by
    simp [hsane.valid, hvalid]
  unfold rangeIsWritable
  rw [hrange.rangeEnd_eq]
  dsimp only
  rw [if_neg hrefused, searchRegions_eq_none hregions hmeets, harena]
  dsimp only
  rw [if_neg hgood, List.findSome?_isSome_iff]
  have hrecord : ∀ i, (writableInCommitment (a.commitments i) base bytes).isSome = true ↔
      (a.commitments i).live = true ∧ (a.commitments i).base ≤ base ∧
        base + bytes ≤ (a.commitments i).base + (a.commitments i).bytes := by
    intro i
    cases hlive : (a.commitments i).live with
    | false => simp [writableInCommitment, hlive]
    | true =>
      have hin := commitment_inside hinv hlive
      rw [writableInCommitment_isSome_iff (hinv.commitments i hlive).nonempty (by omega), hlive]
  simp only [hrecord, List.mem_finRange, true_and]
  rfl

theorem rangeIsAccessible_iff (hledger : LedgerEmpty memory)
    (harena : memory.virtualArena = some a) (hlength : a.length ≤ uint64Max)
    (hvalid : validate a = true) (hrange : CanonicalRange base bytes)
    (hmeets : MeetsNoRegion memory base bytes) (requireReadable requireWritable : Bool) :
    rangeIsAccessible memory base bytes requireReadable requireWritable = true ↔
      InOneCommitment a base bytes := by
  have hend : rangeEnd base bytes = some (base + bytes) := by
    unfold rangeEnd
    rw [hrange.rangeEnd_eq]
    dsimp only
    rw [if_pos]
    have hbytes := hrange.nonempty
    omega
  have hcanonical : ¬ (¬ isCanonical base ∨ ¬ isCanonical (base + bytes - 1)) := by
    simp [hrange.first, hrange.last]
  have hnone : (memory.regions.find? fun region => region.meets base (base + bytes)) = none := by
    rw [List.find?_eq_none]
    intro region hr
    rw [hmeets region hr]
    exact Bool.false_ne_true
  have hempty : coveredByLedger memory.ledger base (base + bytes) = false := by
    unfold coveredByLedger
    split
    · rfl
    · rename_i l hl
      rw [Bool.and_eq_false_iff, List.any_eq_false]
      refine Or.inr fun i _ => ?_
      simp [recordCovers, hledger l hl i]
  unfold rangeIsAccessible
  rw [hend]
  dsimp only
  rw [if_neg hcanonical, hnone]
  dsimp only
  rw [hempty, Bool.false_or, harena, coveredByArena_iff hlength hvalid]

/-- Each check accepts the range exactly if every byte of it is committed. -/
def ChecksAgree (memory : MemoryContext) (a : Arena) (base bytes : Nat) : Prop :=
  ((rangeIsWritable memory base bytes).isSome = true ↔ CommittedRange a base bytes) ∧
  (∀ requireReadable requireWritable,
    rangeIsAccessible memory base bytes requireReadable requireWritable = true ↔
      CommittedRange a base bytes) ∧
  (Unwind.committedArenaRange a base bytes = true ↔ CommittedRange a base bytes)

/-- A range that is committed throughout does not go on from one commitment to the next, and
begins on a page whose first byte is committed too. Any other range leaves the arena, or meets
a page whose first byte is not committed. -/
def WithinRecords (a : Arena) (base bytes : Nat) : Prop :=
  (CommittedRange a base bytes →
    ¬ CommitmentBeginsInside a base bytes ∧ Committed a (pageDown base)) ∧
  (¬ CommittedRange a base bytes →
    ¬ (a.base ≤ base ∧ base + bytes ≤ a.base + a.length) ∨
    ∃ x, base ≤ x ∧ x < base + bytes ∧ ¬ Committed a (pageDown x))

theorem output_checks_agree_iff (hcontext : validateMemoryContext memory = true)
    (hledger : LedgerEmpty memory) (harena : memory.virtualArena = some a)
    (hlength : a.length ≤ uint64Max) (hvalid : validate a = true)
    (hrange : CanonicalRange base bytes) (hmeets : MeetsNoRegion memory base bytes) :
    ChecksAgree memory a base bytes ↔ WithinRecords a base bytes := by
  obtain ⟨hinv, hsane⟩ := (validate_iff hlength).mp hvalid
  have hbytes := hrange.nonempty
  unfold ChecksAgree WithinRecords
  simp only [rangeIsWritable_iff hcontext harena hlength hvalid hrange hmeets,
    rangeIsAccessible_iff hledger harena hlength hvalid hrange hmeets,
    committedArenaRange_iff hsane hbytes hrange.fits, forall_const]
  by_cases hcommitted : CommittedRange a base bytes
  · have hinside : a.base ≤ base ∧ base + bytes ≤ a.base + a.length := by
      obtain ⟨i, hi, hstart, -⟩ := hcommitted base (Nat.le_refl base) (by omega)
      obtain ⟨j, hj, -, hstop⟩ := hcommitted (base + bytes - 1) (by omega) (by omega)
      have hfirst := commitment_inside hinv hi
      have hlast := commitment_inside hinv hj
      omega
    have hpages : (∀ x, base ≤ x → x < base + bytes → Committed a (pageDown x)) ↔
        Committed a (pageDown base) := by
      refine ⟨fun h => h base (Nat.le_refl base) (by omega), fun h x hx hlt => ?_⟩
      have hdown : pageDown x ≤ x := Nat.div_mul_le_self _ _
      by_cases hbefore : base ≤ pageDown x
      · exact hcommitted _ hbefore (by omega)
      · have hsame : pageDown x = pageDown base := by
          simp only [pageDown, pageSize] at hbefore ⊢
          omega
        rw [hsame]
        exact h
    rw [inOneCommitment_iff hinv hbytes hcommitted, hpages]
    simp only [hcommitted, hinside, true_and, iff_true, forall_const, not_true, false_imp_iff,
      and_true]
    exact ⟨fun h => ⟨h.1, h.2.2⟩, fun h => ⟨h.1, h.1, h.2⟩⟩
  · have hone : ¬ InOneCommitment a base bytes := fun h => hcommitted h.committedRange
    simp only [hcommitted, hone, false_imp_iff, true_and, not_false_eq_true, forall_const,
      iff_false, not_and_or, not_forall]
    simp only [exists_prop]

end Context

/-! ## Arenas of whole pages -/

theorem committed_pageDown_iff {a : Arena} (h : OnlyPages a) (x : Nat) :
    Committed a (pageDown x) ↔ Committed a x := by
  refine exists_congr fun i => and_congr_right fun hlive => ?_
  obtain ⟨hbytes, halign, -⟩ := h.commitments i hlive
  rw [hbytes]
  simp only [pageDown, pageSize] at halign ⊢
  omega

/-- In an arena that VirtualAlloc has built, only ranges that go on from one page to the next
are in doubt. -/
theorem withinRecords_of_pages {a : Arena} (h : OnlyPages a) (base bytes : Nat)
    (hbytes : bytes ≠ 0) :
    WithinRecords a base bytes ↔
      ¬ (CommittedRange a base bytes ∧ CommitmentBeginsInside a base bytes) := by
  unfold WithinRecords
  simp only [committed_pageDown_iff h]
  constructor
  · rintro ⟨hone, -⟩ ⟨hcommitted, hinside⟩
    exact (hone hcommitted).1 hinside
  · intro hnot
    refine ⟨fun hcommitted => ⟨fun hinside => hnot ⟨hcommitted, hinside⟩, ?_⟩, fun hpartly => ?_⟩
    · exact hcommitted base (Nat.le_refl base) (by omega)
    · refine Or.inr ?_
      simpa only [CommittedRange, not_forall, exists_prop] using hpartly

/-! ## A buffer across two pages -/

/-- The arena after a VirtualAlloc of two pages. -/
def twoPages : Arena := (virtualStep poolContext freshSpace firstCall).arena

theorem twoPages_records :
    (twoPages.valid = true ∧ twoPages.length ≠ 0 ∧
      twoPages.base + twoPages.length ≤ uint64Max ∧ twoPages.generation ≠ 0) ∧
    ((twoPages.commitments 0).live = true ∧ (twoPages.commitments 0).base = 0x100000 ∧
      (twoPages.commitments 0).bytes = 0x1000) ∧
    ((twoPages.commitments 1).live = true ∧ (twoPages.commitments 1).base = 0x101000 ∧
      (twoPages.commitments 1).bytes = 0x1000) := by
  decide +kernel

theorem twoPages_facts : ArenaInv twoPages ∧ twoPages.Sane ∧ OnlyPages twoPages := by
  have hnew : FreshSpace poolContext (poolOut .data) 0x1000 0x100000 0x100000 1 true freshSpace :=
    ⟨rfl, ⟨firmwareMachine, Prod.ext (by decide +kernel) rfl⟩, freshSpace_none_out⟩
  have hpages : OneSlot 0x100000 0x100000 := ⟨by decide, by decide⟩
  have hT := pool_conforming .table .data 64 (by decide) (by decide) (by decide) (by decide)
  have hD := pool_conforming .data .table 64 (by decide) (by decide) (by decide) (by decide)
  obtain ⟨hargs, hcoherent⟩ := hnew.coherent (c := poolContext) hT hpages
  have hmatched := (hcoherent.virtualStep hargs hpages hT hD firstCall).matched
  obtain ⟨⟨hvalid, hlength, hfits, hgeneration⟩, -⟩ := twoPages_records
  exact ⟨hmatched.arena, ⟨hvalid, hlength, hfits, hgeneration⟩, hmatched.pages⟩

/-- The stack is the one region. -/
def sampleContext : MemoryContext :=
  { virtualArena := some twoPages
    regions := [⟨0x8000, 0x10000, true, true⟩] }

theorem sampleContext_meetsNoRegion {base bytes : Nat} (h : 0x10000 ≤ base) :
    MeetsNoRegion sampleContext base bytes := by
  intro region hr
  obtain rfl := List.mem_singleton.mp hr
  unfold MemoryRegion.meets
  rw [decide_eq_false (Nat.not_lt.mpr h), Bool.false_and]

theorem sampleContext_ledgerEmpty : LedgerEmpty sampleContext := by
  intro l hl
  cases hl

theorem twoPages_committed {base bytes : Nat} (hbase : 0x100000 ≤ base)
    (hstop : base + bytes ≤ 0x102000) : CommittedRange twoPages base bytes := by
  obtain ⟨-, ⟨hlive, hb, hn⟩, hlive', hb', hn'⟩ := twoPages_records
  intro x hx hlt
  by_cases hfirst : x < 0x101000
  · exact ⟨0, hlive, by omega, by omega⟩
  · exact ⟨1, hlive', by omega, by omega⟩

/-- A MEMORYSTATUSEX across the boundary of the two pages. -/
theorem a_status_across_two_pages_is_refused :
    validateMemoryContext sampleContext = true ∧ LedgerEmpty sampleContext ∧
    validate twoPages = true ∧ CanonicalRange 0x100FE0 0x40 ∧
    MeetsNoRegion sampleContext 0x100FE0 0x40 ∧ CommittedRange twoPages 0x100FE0 0x40 ∧
    rangeIsWritable sampleContext 0x100FE0 0x40 = none ∧
    rangeIsAccessible sampleContext 0x100FE0 0x40 true true = false ∧
    Unwind.committedArenaRange twoPages 0x100FE0 0x40 = true ∧
    ¬ ChecksAgree sampleContext twoPages 0x100FE0 0x40 := by
  obtain ⟨hinv, hsane, hpages⟩ := twoPages_facts
  have hvalid := hinv.validate hsane
  have hlength : twoPages.length ≤ uint64Max := by
    have hfits := hsane.fits
    omega
  have hcontext : validateMemoryContext sampleContext = true := by decide
  have hledger := sampleContext_ledgerEmpty
  have hrange : CanonicalRange 0x100FE0 0x40 := ⟨by decide, by decide, by decide, by decide⟩
  have hmeets : MeetsNoRegion sampleContext 0x100FE0 0x40 :=
    sampleContext_meetsNoRegion (by decide)
  have hcommitted : CommittedRange twoPages 0x100FE0 0x40 :=
    twoPages_committed (by decide) (by decide)
  have hone : ¬ InOneCommitment twoPages 0x100FE0 0x40 := by
    rw [inOneCommitment_iff hinv (by decide) hcommitted]
    obtain ⟨-, -, hlive, hbase, -⟩ := twoPages_records
    exact not_not_intro ⟨1, hlive, by omega, by omega⟩
  have hwritable : rangeIsWritable sampleContext 0x100FE0 0x40 = none := by
    rw [← Option.not_isSome_iff_eq_none,
      rangeIsWritable_iff hcontext rfl hlength hvalid hrange hmeets]
    exact hone
  have haccessible : rangeIsAccessible sampleContext 0x100FE0 0x40 true true = false := by
    rw [← Bool.not_eq_true,
      rangeIsAccessible_iff hledger rfl hlength hvalid hrange hmeets]
    exact hone
  have hcollector : Unwind.committedArenaRange twoPages 0x100FE0 0x40 = true := by
    refine (committedArenaRange_iff hsane (by decide) hrange.fits).mpr ⟨?_, fun x hx hlt => ?_⟩
    · obtain ⟨-, ⟨hlive, hb, -⟩, hlive', hb', hn'⟩ := twoPages_records
      have hfirst := commitment_inside hinv hlive
      have hlast := commitment_inside hinv hlive'
      omega
    · exact (committed_pageDown_iff hpages x).mpr (hcommitted x hx hlt)
  refine ⟨hcontext, hledger, hvalid, hrange, hmeets, hcommitted, hwritable, haccessible,
    hcollector, fun hagree => ?_⟩
  have hsome := hagree.1.mpr hcommitted
  rw [hwritable] at hsome
  cases hsome

/-- A MEMORYSTATUSEX in the first of the two pages. -/
theorem checks_agree_on_a_status_in_one_page :
    ChecksAgree sampleContext twoPages 0x100F00 0x40 := by
  obtain ⟨hinv, hsane, hpages⟩ := twoPages_facts
  have hlength : twoPages.length ≤ uint64Max := by
    have hfits := hsane.fits
    omega
  refine (output_checks_agree_iff (by decide) sampleContext_ledgerEmpty rfl hlength
    (hinv.validate hsane) ⟨by decide, by decide, by decide, by decide⟩
    (sampleContext_meetsNoRegion (by decide))).mpr ?_
  rw [withinRecords_of_pages hpages _ _ (by decide)]
  have hcommitted : CommittedRange twoPages 0x100F00 0x40 :=
    twoPages_committed (by decide) (by decide)
  rw [not_and, ← inOneCommitment_iff hinv (by decide) hcommitted]
  obtain ⟨-, ⟨hlive, hbase, hbytes⟩, -⟩ := twoPages_records
  exact fun _ => ⟨0, hlive, by omega, by omega⟩

end Gate4Harness.OutputRanges
