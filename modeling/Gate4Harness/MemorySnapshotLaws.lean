-- The view that a query of the current state fills in is coherent, though the code does not
-- check it: that the committed bytes are no more than the reserved ones follows from the
-- validation of the arena, reservation by reservation.
import Gate4Harness.MemorySnapshot
import Gate4Harness.PhysicalLedgerLaws

namespace Gate4Harness.Vm

open Tables

variable {a : Arena} {used whole generation : Nat}

/-! ## The percentage -/

/-- One step adds the used bytes once more, and the remainder stays below the whole. -/
theorem percentageTurn_spec {product : Nat} {acc : Nat × Nat} (hused : used < whole)
    (hproduct : product = acc.1 * whole + acc.2) (hremainder : acc.2 < whole) :
    product + used = (percentageTurn used whole acc).1 * whole +
      (percentageTurn used whole acc).2 ∧
    (percentageTurn used whole acc).2 < whole := by
  simp only [percentageTurn]
  split
  · dsimp only
    rw [Nat.succ_mul, hproduct]
    omega
  · dsimp only
    omega

/-- After some steps the quotient and the remainder are those of the product so far. -/
theorem percentage_steps (hused : used < whole) (steps : Nat) :
    steps * used = (Nat.iterate (percentageTurn used whole) steps (0, 0)).1 * whole +
      (Nat.iterate (percentageTurn used whole) steps (0, 0)).2 ∧
    (Nat.iterate (percentageTurn used whole) steps (0, 0)).2 < whole := by
  induction steps with
  | zero => exact ⟨by simp, Nat.lt_of_le_of_lt (Nat.zero_le _) hused⟩
  | succ steps ih =>
    rw [Function.iterate_succ_apply', Nat.succ_mul]
    exact percentageTurn_spec hused ih.1 ih.2

theorem percent_le (hle : used ≤ whole) (hpos : 0 < whole) : 100 * used / whole ≤ 100 := by
  rw [Nat.div_le_iff_le_mul_add_pred hpos, Nat.mul_comm whole]
  have := Nat.mul_le_mul_left 100 hle
  omega

/-- The loop computes the percentage, rounded down. -/
theorem percentage100_eq (hle : used ≤ whole) (hpos : 0 < whole) :
    percentage100 used whole = 100 * used / whole := by
  unfold percentage100
  rw [if_neg (by omega)]
  by_cases hfull : used = whole
  · rw [if_pos hfull, hfull, Nat.mul_div_cancel _ hpos]
  · rw [if_neg hfull]
    obtain ⟨hproduct, hremainder⟩ := percentage_steps (by omega : used < whole) 100
    have hquotient : 100 * used / whole =
        (Nat.iterate (percentageTurn used whole) 100 (0, 0)).1 := by
      rw [hproduct, Nat.mul_comm, Nat.mul_add_div hpos, Nat.div_eq_of_lt hremainder, Nat.add_zero]
    have hbound : 100 * used / whole ≤ 100 := percent_le hle hpos
    simp only
    rw [if_neg (by omega), hquotient]

theorem percentage100_le (hle : used ≤ whole) (hpos : 0 < whole) :
    percentage100 used whole ≤ 100 := by
  rw [percentage100_eq hle hpos]
  exact percent_le hle hpos

/-- The values of the words of a step. -/
def values (acc : BitVec 64 × BitVec 64) : Nat × Nat := (acc.1.toNat, acc.2.toNat)

/-- Neither the subtractions nor the additions of a step leave the 64 bits. -/
def TurnFits (used total : BitVec 64) (acc : BitVec 64 × BitVec 64) : Prop :=
  used ≤ total ∧
  if acc.2 ≥ total - used then total - used ≤ acc.2 ∧ acc.1.toNat + 1 < 2 ^ 64
  else acc.2.toNat + used.toNat < 2 ^ 64

section Words

variable {usedWord totalWord : BitVec 64}

theorem threshold_toNat (hused : usedWord < totalWord) :
    (totalWord - usedWord).toNat = totalWord.toNat - usedWord.toNat :=
  BitVec.toNat_sub_of_le (BitVec.le_of_lt hused)

/-- A step does not wrap, and so it is the step on the values of its words. -/
theorem percentageTurnWord_spec {acc : BitVec 64 × BitVec 64} (hused : usedWord < totalWord)
    (hquotient : acc.1.toNat < 100) :
    TurnFits usedWord totalWord acc ∧
    values (percentageTurnWord usedWord totalWord acc) =
      percentageTurn usedWord.toNat totalWord.toNat (values acc) := by
  have hthreshold := threshold_toNat hused
  have htotal := totalWord.isLt
  rw [BitVec.lt_def] at hused
  simp only [TurnFits, percentageTurnWord, percentageTurn, values, ge_iff_le]
  by_cases hle : totalWord - usedWord ≤ acc.2
  · have hle' := BitVec.le_def.mp hle
    rw [hthreshold] at hle'
    rw [if_pos hle, if_pos hle, if_pos hle']
    refine ⟨⟨BitVec.le_def.mpr (Nat.le_of_lt hused), hle, by omega⟩, ?_⟩
    have hone : (1 : BitVec 64).toNat = 1 := rfl
    rw [BitVec.toNat_add_of_lt (by rw [hone]; omega), BitVec.toNat_sub_of_le hle, hthreshold, hone]
  · have hle' := mt BitVec.le_def.mpr hle
    rw [hthreshold] at hle'
    have hsum : acc.2.toNat + usedWord.toNat < 2 ^ 64 := by omega
    rw [if_neg hle, if_neg hle, if_neg hle', BitVec.toNat_add_of_lt hsum]
    exact ⟨⟨BitVec.le_def.mpr (Nat.le_of_lt hused), hsum⟩, rfl⟩

/-- Words that stand for the numbers of the loop have room for another step. -/
theorem percentageWord_quotient_lt (hused : usedWord < totalWord) {steps : Nat} (hsteps : steps < 100)
    {acc : BitVec 64 × BitVec 64} (hacc : values acc =
      Nat.iterate (percentageTurn usedWord.toNat totalWord.toNat) steps (0, 0)) :
    acc.1.toNat < 100 := by
  rw [BitVec.lt_def] at hused
  have hproduct := (percentage_steps hused steps).1
  rw [← hacc] at hproduct
  by_contra hlarge
  -- a quotient of 100 would be more than the products so far
  have hquotient : 100 * totalWord.toNat ≤ acc.1.toNat * totalWord.toNat :=
    Nat.mul_le_mul_right _ (by omega)
  have hfewer : steps * usedWord.toNat ≤ 100 * usedWord.toNat := Nat.mul_le_mul_right _ (by omega)
  simp only [values] at hproduct
  omega

/-- The words of the loop after some steps. -/
theorem percentageWord_steps (hused : usedWord < totalWord) {steps : Nat} (hsteps : steps ≤ 100) :
    values (Nat.iterate (percentageTurnWord usedWord totalWord) steps (0, 0)) =
      Nat.iterate (percentageTurn usedWord.toNat totalWord.toNat) steps (0, 0) := by
  induction steps with
  | zero => rfl
  | succ steps ih =>
    have hquotient := percentageWord_quotient_lt hused hsteps (ih (by omega))
    rw [Function.iterate_succ_apply', Function.iterate_succ_apply', ← ih (by omega)]
    exact (percentageTurnWord_spec hused hquotient).2

theorem percentageWord_fits (hused : usedWord < totalWord) {steps : Nat} (hsteps : steps < 100) :
    TurnFits usedWord totalWord
      (Nat.iterate (percentageTurnWord usedWord totalWord) steps (0, 0)) := by
  have hquotient :=
    percentageWord_quotient_lt hused hsteps (percentageWord_steps hused (Nat.le_of_lt hsteps))
  exact (percentageTurnWord_spec hused hquotient).1

/-- On words the loop gives what it gives on their values. -/
theorem percentage100Word_toNat (hle : usedWord ≤ totalWord) (hpos : totalWord ≠ 0) :
    (percentage100Word usedWord totalWord).toNat =
      percentage100 usedWord.toNat totalWord.toNat := by
  have hpos' : totalWord.toNat ≠ 0 := fun h => hpos (BitVec.eq_of_toNat_eq h)
  have hle' := BitVec.le_def.mp hle
  have hchecks : ¬ (totalWord = 0 ∨ usedWord > totalWord) := by
    rintro (h | h)
    · exact hpos h
    · exact BitVec.not_lt.mpr hle h
  have hchecks' : ¬ (totalWord.toNat = 0 ∨ usedWord.toNat > totalWord.toNat) := by omega
  unfold percentage100Word percentage100
  rw [if_neg hchecks, if_neg hchecks']
  by_cases hfull : usedWord = totalWord
  · rw [if_pos hfull, if_pos (congrArg _ hfull)]
    rfl
  · have hfull' : usedWord.toNat ≠ totalWord.toNat := fun h => hfull (BitVec.eq_of_toNat_eq h)
    have hsteps := percentageWord_steps (BitVec.lt_of_le_ne hle hfull) (Nat.le_refl 100)
    rw [if_neg hfull, if_neg hfull', ← hsteps]
    generalize Nat.iterate (percentageTurnWord usedWord totalWord) 100 (0, 0) = acc
    have hhundred : (100 : BitVec 64).toNat = 100 := rfl
    simp only [values, gt_iff_lt, BitVec.lt_def, hhundred]
    split
    · rfl
    · rw [BitVec.toNat_setWidth, Nat.mod_eq_of_lt (by omega)]

/-- The percentage of 64-bit words is exact, rounded down, and none of the 100 steps wraps. -/
theorem percentage_is_the_exact_floor (hpos : totalWord ≠ 0) (hle : usedWord ≤ totalWord) :
    (percentage100Word usedWord totalWord).toNat = 100 * usedWord.toNat / totalWord.toNat ∧
    (usedWord ≠ totalWord → ∀ steps < 100, TurnFits usedWord totalWord
      (Nat.iterate (percentageTurnWord usedWord totalWord) steps (0, 0))) := by
  have hpos' : totalWord.toNat ≠ 0 := fun h => hpos (BitVec.eq_of_toNat_eq h)
  constructor
  · rw [percentage100Word_toNat hle hpos,
      percentage100_eq (BitVec.le_def.mp hle) (Nat.pos_of_ne_zero hpos')]
  · intro hne steps hsteps
    exact percentageWord_fits (BitVec.lt_of_le_ne hle hne) hsteps

/-- Two thirds of all 64-bit addresses, where 100 times the used bytes has no room. -/
theorem percentage_of_two_thirds :
    (percentage100Word 0xAAAAAAAAAAAAAAAA 0xFFFFFFFFFFFFFFFF).toNat = 66 :=
  (percentage_is_the_exact_floor (by decide) (by decide)).1.trans (by decide)

end Words

/-! ## The arena -/

/-- The commitments of all reservations together are all commitments. -/
theorem ArenaInv.committed_eq_sum (h : ArenaInv a) :
    a.totalCommittedBytes =
      Finset.univ.sum fun s => total (Commitment.bytesIn s) a.commitments := by
  rw [h.committedBytes]
  unfold total
  rw [Finset.sum_comm]
  apply Finset.sum_congr rfl
  intro i _
  unfold Commitment.liveBytes Commitment.bytesIn
  by_cases hi : (a.commitments i).live = true
  · rw [if_pos hi]
    simp [hi]
  · simp [hi]

theorem ArenaInv.committed_le_reserved (h : ArenaInv a) :
    a.totalCommittedBytes ≤ a.totalReservedBytes := by
  rw [h.committed_eq_sum, h.reservedBytes]
  apply Finset.sum_le_sum
  intro s _
  unfold Reservation.liveBytes
  by_cases hs : (a.reservations s).live = true
  · rw [if_pos hs, ← h.inReservation s hs]
    exact h.inReservation_le hs
  · rw [if_neg hs, Nat.le_zero, total_eq_zero_iff]
    intro i
    unfold Commitment.bytesIn
    rw [if_neg]
    rintro ⟨hi, rfl⟩
    exact hs (h.commitments i hi).reserved

/-! ## One query -/

/-- The arguments that a query accepts. -/
structure QueryAccepted (classification : MemoryClassification) (startup : MemorySnapshot)
    (generation : Nat) : Prop where
  numbered : generation ≠ 0
  newer : startup.generation ≤ generation
  classified : classification.valid = true
  counted : classification.totalRamLikeBytes ≠ 0
  coherent : memorySnapshotIsCoherent startup = true
  same : startup.totalPhysicalBytes = classification.totalRamLikeBytes

/-- What a query that succeeds found, and the view that it filled in. -/
structure Queried (classification : MemoryClassification) (startup : MemorySnapshot)
    (ledger : PhysicalLedger) (arena : Arena) (generation : Nat) (view : MemorySnapshot) :
    Prop where
  accepted : QueryAccepted classification startup generation
  validated : validate arena = true
  reserved : arena.totalReservedBytes ≤ arena.length
  available : classification.conventionalBytes - ledger.physicalBytes ≤
    classification.totalRamLikeBytes
  committed : arena.totalCommittedBytes ≤
    min (classification.conventionalBytes - ledger.physicalBytes + arena.totalCommittedBytes)
      classification.totalRamLikeBytes
  filled : view =
    { generation
      totalPhysicalBytes := classification.totalRamLikeBytes
      availablePhysicalBytes := classification.conventionalBytes - ledger.physicalBytes
      memoryLoadPercent :=
        percentage100 (classification.totalRamLikeBytes -
          (classification.conventionalBytes - ledger.physicalBytes))
          classification.totalRamLikeBytes
      commitLimitBytes :=
        min (classification.conventionalBytes - ledger.physicalBytes +
          arena.totalCommittedBytes) classification.totalRamLikeBytes
      availableCommitBytes :=
        min (classification.conventionalBytes - ledger.physicalBytes +
          arena.totalCommittedBytes) classification.totalRamLikeBytes - arena.totalCommittedBytes
      processVirtualTotalBytes := arena.length
      processVirtualAvailableBytes := arena.length - arena.totalReservedBytes
      accountedPhysicalUsageBytes := classification.totalRamLikeBytes -
        (classification.conventionalBytes - ledger.physicalBytes)
      processReservedVirtualBytes := arena.totalReservedBytes
      processCommittedVirtualBytes := arena.totalCommittedBytes
      valid := true }

theorem commitModelCreateNoPagefile_eq_ok {total available committed : Nat} {model : CommitModel}
    (h : commitModelCreateNoPagefile total available committed generation = .ok model) :
    committed ≤ min (available + committed) total ∧
    model =
      { commitLimit := min (available + committed) total, committedBytes := committed
        availableCommit := min (available + committed) total - committed, generation
        valid := true, noPagefile := true } := by
  unfold commitModelCreateNoPagefile at h
  split at h
  · cases h
  · split at h
    · cases h
    · rename_i sum hsum
      obtain rfl := addU64_eq_some hsum
      have hlimit : (if available + committed > total then total else available + committed) =
          min (available + committed) total := by
        split <;> omega
      dsimp only at h
      rw [hlimit] at h
      unfold commitModelCreate at h
      split at h
      · cases h
      · rename_i model' hmodel
        split at hmodel
        · cases hmodel
        · split at hmodel
          · cases hmodel
          · cases hmodel
            cases h
            exact ⟨by omega, rfl⟩

theorem memorySnapshotCreate_cases (snapshot : MemorySnapshot) (physical : PhysicalSnapshot)
    (commit : CommitModel) (hgen : generation ≠ 0) :
    (∃ e, e ≠ .invalidArgument ∧
      memorySnapshotCreate snapshot physical a commit generation = (some e, {})) ∨
    validate a = true ∧ a.totalReservedBytes ≤ a.length ∧
    memorySnapshotCreate snapshot physical a commit generation =
      (none,
        { generation
          totalPhysicalBytes := physical.totalRamLikeBytes
          availablePhysicalBytes := physical.availablePhysicalBytes
          memoryLoadPercent :=
            percentage100 (physical.totalRamLikeBytes - physical.availablePhysicalBytes)
              physical.totalRamLikeBytes
          commitLimitBytes := commit.commitLimit
          availableCommitBytes := commit.availableCommit
          processVirtualTotalBytes := a.length
          processVirtualAvailableBytes := a.length - a.totalReservedBytes
          accountedPhysicalUsageBytes := physical.accountedUsedBytes
          processReservedVirtualBytes := a.totalReservedBytes
          processCommittedVirtualBytes := a.totalCommittedBytes
          valid := true }) := by
  unfold memorySnapshotCreate
  rw [if_neg hgen]
  split
  · exact Or.inl ⟨_, by decide, rfl⟩
  · split
    · exact Or.inl ⟨_, by decide, rfl⟩
    · rename_i hvirtual
      simp only [not_or, Decidable.not_not, not_lt, gt_iff_lt] at hvirtual
      split
      · exact Or.inl ⟨_, by decide, rfl⟩
      · split
        · exact Or.inl ⟨_, by decide, rfl⟩
        · have havailable : arenaAvailable a = a.length - a.totalReservedBytes := by
            unfold arenaAvailable
            rw [if_neg (by simp [hvirtual.1, hvirtual.2.2.1])]
          rw [havailable]
          exact Or.inr ⟨hvirtual.2.1, hvirtual.2.2.1, rfl⟩

theorem physicalSnapshotCreate_cases (classification : MemoryClassification)
    (ledger : PhysicalLedger) (hgen : generation ≠ 0) :
    physicalSnapshotCreate classification ledger generation = .error .invalidPhysical ∨
    classification.conventionalBytes - ledger.physicalBytes ≤
      classification.totalRamLikeBytes ∧
    physicalSnapshotCreate classification ledger generation =
      .ok
        { totalRamLikeBytes := classification.totalRamLikeBytes
          availablePhysicalBytes := classification.conventionalBytes - ledger.physicalBytes
          accountedUsedBytes := classification.totalRamLikeBytes -
            (classification.conventionalBytes - ledger.physicalBytes)
          postEpochPhysicalBytes := ledger.physicalBytes
          generation, descriptorClassBytes := classification.classBytes, valid := true } := by
  unfold physicalSnapshotCreate
  rw [if_neg hgen]
  split
  · exact Or.inl rfl
  · dsimp only
    split
    · exact Or.inl rfl
    · rename_i hle
      exact Or.inr ⟨by omega, rfl⟩

/-- A query refuses its arguments and leaves the view alone, or clears the view and fails,
or fills the view in. -/
theorem queryCurrent_cases (old startup : MemorySnapshot) (classification : MemoryClassification)
    (ledger : PhysicalLedger) (arena : Arena) (generation : Nat) :
    (¬ QueryAccepted classification startup generation ∧
      queryCurrent old classification startup ledger arena generation =
        (some .invalidArgument, old)) ∨
    (∃ e, e ≠ .invalidArgument ∧
      queryCurrent old classification startup ledger arena generation = (some e, {})) ∨
    ∃ view, queryCurrent old classification startup ledger arena generation = (none, view) ∧
      Queried classification startup ledger arena generation view := by
  unfold queryCurrent
  split
  · rename_i hrefused
    refine Or.inl ⟨fun h => ?_, rfl⟩
    obtain h0 | hold | hinvalid | hcount | hcoherent | hother := hrefused
    · exact h.numbered h0
    · exact absurd h.newer (by omega)
    · exact hinvalid h.classified
    · exact h.counted hcount
    · exact hcoherent h.coherent
    · exact hother h.same
  · rename_i hargs
    simp only [not_or, Decidable.not_not, not_lt] at hargs
    obtain ⟨hgen, hnewer, hvalid, htotal, hcoherent, hsame⟩ := hargs
    right
    obtain hphysical | ⟨havailable, hphysical⟩ :=
      physicalSnapshotCreate_cases classification ledger hgen
    · rw [hphysical]
      exact Or.inl ⟨_, by decide, rfl⟩
    · rw [hphysical]
      dsimp only
      cases hcommit : commitModelCreateNoPagefile classification.totalRamLikeBytes
          (classification.conventionalBytes - ledger.physicalBytes)
          arena.totalCommittedBytes generation with
      | error e => cases e <;> exact Or.inl ⟨_, by decide, rfl⟩
      | ok model =>
        obtain ⟨hcommitted, rfl⟩ := commitModelCreateNoPagefile_eq_ok hcommit
        obtain ⟨e, he, hcreate⟩ | ⟨hvalidated, hreserved, hcreate⟩ :=
          memorySnapshotCreate_cases _ _ _ hgen
        · exact Or.inl ⟨e, he, hcreate⟩
        · exact Or.inr ⟨_, hcreate,
            { accepted := ⟨hgen, hnewer, hvalid, htotal, hcoherent, hsame⟩
              validated := hvalidated, reserved := hreserved, available := havailable
              committed := hcommitted, filled := rfl }⟩

section

variable {classification : MemoryClassification} {startup view : MemorySnapshot}
  {ledger : PhysicalLedger}

/-- What the code does not check: the arena's totals give the coherence of the view. -/
theorem Queried.isCoherent (h : Queried classification startup ledger a generation view) :
    memorySnapshotIsCoherent view = true := by
  have hbelow := (validate_arenaInv h.validated).committed_le_reserved
  have hload := percentage100_le (Nat.sub_le _ (classification.conventionalBytes -
    ledger.physicalBytes)) (Nat.pos_of_ne_zero h.accepted.counted)
  obtain rfl := h.filled
  have hcommitted := h.committed
  unfold memorySnapshotIsCoherent
  rw [if_neg]
  · simp only [decide_true, Bool.and_self]
  · simp only [not_or, Decidable.not_not, gt_iff_lt, not_lt]
    exact ⟨trivial, h.accepted.numbered, h.accepted.counted, h.available, hload, Nat.sub_le _ _,
      hcommitted, Nat.sub_le _ _, h.reserved, hbelow⟩

/-- A view serves as the startup snapshot of every later query. -/
theorem Queried.nextAccepted {generation' : Nat}
    (h : Queried classification startup ledger a generation view)
    (hle : generation ≤ generation') : QueryAccepted classification view generation' := by
  have hcoherent := h.isCoherent
  obtain rfl := h.filled
  have hgen := h.accepted.numbered
  exact
    { numbered := by omega, newer := hle, classified := h.accepted.classified
      counted := h.accepted.counted, coherent := hcoherent, same := rfl }

theorem QueryAccepted.ne_invalidArgument (h : QueryAccepted classification startup generation)
    (old : MemorySnapshot) (ledger : PhysicalLedger) (arena : Arena) :
    (queryCurrent old classification startup ledger arena generation).1 ≠
      some .invalidArgument := by
  obtain ⟨hnot, -⟩ | ⟨e, he, hquery⟩ | ⟨view, hquery, -⟩ :=
    queryCurrent_cases old startup classification ledger arena generation
  · exact absurd h hnot
  · rw [hquery]
    simpa using he
  · rw [hquery]
    simp

end

/-- The view of a query that succeeds is coherent, and serves as the startup snapshot of any
later query. A query that clears the view and fails leaves it without the mark. -/
theorem a_query_is_coherent (old startup : MemorySnapshot)
    (classification : MemoryClassification) (ledger : PhysicalLedger) (arena : Arena)
    (generation : Nat) :
    (∀ view, queryCurrent old classification startup ledger arena generation = (none, view) →
      memorySnapshotIsCoherent startup = true ∧ memorySnapshotIsCoherent view = true ∧
      view.totalPhysicalBytes = classification.totalRamLikeBytes ∧
      view.availablePhysicalBytes = classification.conventionalBytes - ledger.physicalBytes ∧
      view.commitLimitBytes =
        min (view.availablePhysicalBytes + arena.totalCommittedBytes) view.totalPhysicalBytes ∧
      arena.totalCommittedBytes ≤ view.commitLimitBytes ∧
      view.processCommittedVirtualBytes = arena.totalCommittedBytes ∧
      view.processReservedVirtualBytes = arena.totalReservedBytes ∧
      view.processVirtualAvailableBytes + view.processReservedVirtualBytes = arena.length ∧
      ∀ old' ledger' arena' generation', generation ≤ generation' →
        (queryCurrent old' classification view ledger' arena' generation').1 ≠
          some .invalidArgument) ∧
    ∀ e view, queryCurrent old classification startup ledger arena generation = (some e, view) →
      e ≠ .invalidArgument → view.valid = false := by
  obtain ⟨-, hquery⟩ | ⟨e, he, hquery⟩ | ⟨view, hquery, h⟩ :=
    queryCurrent_cases old startup classification ledger arena generation
  · rw [hquery]
    refine ⟨by rintro view ⟨⟩, ?_⟩
    rintro _ _ ⟨⟩ hne
    exact absurd rfl hne
  · rw [hquery]
    refine ⟨by rintro view ⟨⟩, ?_⟩
    rintro _ _ ⟨⟩ -
    rfl
  · rw [hquery]
    refine ⟨?_, by rintro _ _ ⟨⟩⟩
    rintro _ ⟨⟩
    have hnext : ∀ old' ledger' arena' generation', generation ≤ generation' →
        (queryCurrent old' classification view ledger' arena' generation').1 ≠
          some .invalidArgument :=
      fun old' ledger' arena' _ hle =>
        (h.nextAccepted hle).ne_invalidArgument old' ledger' arena'
    refine ⟨h.accepted.coherent, h.isCoherent, ?_⟩
    have hcommitted := h.committed
    have hreserved := h.reserved
    obtain rfl := h.filled
    exact ⟨rfl, rfl, rfl, hcommitted, rfl, rfl, by dsimp only; omega, hnext⟩

/-- A quarter of eight pages is in use, and nothing is reserved yet. -/
def sampleStartup : MemorySnapshot :=
  { generation := 1
    valid := true
    totalPhysicalBytes := 0x8000
    availablePhysicalBytes := 0x6000
    memoryLoadPercent := 25
    commitLimitBytes := 0x6000
    availableCommitBytes := 0x6000
    accountedPhysicalUsageBytes := 0x2000 }

def sampleClassification : MemoryClassification :=
  { valid := true, totalRamLikeBytes := 0x8000, conventionalBytes := 0x6000 }

theorem a_sample_query_is_coherent :
    ∃ view, queryCurrent {} sampleClassification sampleStartup (physicalLedgerInit 1)
        sampleArena 2 = (none, view) ∧ memorySnapshotIsCoherent view = true := by
  have hledger : physicalLedgerValidate (physicalLedgerInit 1) = true :=
    (physicalLedgerInit_inv (by decide)).validate
  have harena : validate sampleArena = true :=
    (arenaInit_inv _ _ _).validate ⟨by decide, by decide, by decide, by decide⟩
  have hphysical : physicalSnapshotCreate sampleClassification (physicalLedgerInit 1) 2 = .ok
      { totalRamLikeBytes := 0x8000, availablePhysicalBytes := 0x6000
        accountedUsedBytes := 0x2000, generation := 2, valid := true } := by
    unfold physicalSnapshotCreate
    rw [if_neg (by decide), if_neg (by rw [hledger]; decide)]
    rfl
  have hquery : (queryCurrent {} sampleClassification sampleStartup (physicalLedgerInit 1)
      sampleArena 2).1 = none := by
    unfold queryCurrent
    rw [if_neg (by decide +kernel), hphysical]
    have hcommit : commitModelCreateNoPagefile 0x8000 0x6000 sampleArena.totalCommittedBytes 2 =
        .ok { commitLimit := 0x6000, committedBytes := 0, availableCommit := 0x6000
              generation := 2, valid := true, noPagefile := true } := rfl
    dsimp only
    rw [hcommit]
    dsimp only
    unfold memorySnapshotCreate
    rw [harena, if_neg (by decide), if_neg (by decide), if_neg (by decide), if_neg (by decide),
      if_neg (by decide)]
  have hanswer : ∀ x : SnapshotAnswer, x.1 = none → ∃ view, x = (none, view) := by
    rintro ⟨_, view⟩ rfl
    exact ⟨view, rfl⟩
  obtain ⟨view, hview⟩ := hanswer _ hquery
  exact ⟨view, hview, ((a_query_is_coherent _ _ _ _ _ _).1 view hview).2.1⟩

end Gate4Harness.Vm
