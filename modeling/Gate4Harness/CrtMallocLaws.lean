-- The laws of the CRT heap registry. Its invariant holds after any calls of `malloc`
-- and `free`, whatever the pool answers, and it makes `registry_valid` succeed.
import Gate4Harness.CrtMalloc
import Gate4Harness.Runs
import Gate4Harness.Tables

namespace Gate4Harness.CrtMalloc

open Tables

variable {c c' : Context} {i j slot : RecordSlot} {base size : Nat}

/-! ## The invariant -/

/-- The bytes that a record stands for. -/
def Record.liveSize (x : Record) : Nat := if x.occupied = 0 then 0 else x.requestedSize

/-- What holds of each occupied record by itself. -/
structure SoundRecord (x : Record) (next : Nat) : Prop where
  occupied : x.occupied = 1
  pointer : x.pointer ≠ 0
  aligned : x.pointer % 8 = 0
  size : x.requestedSize ≠ 0
  size_le : x.requestedSize ≤ maxRequest
  backing : x.backingSize = x.requestedSize
  sequence : x.allocationSequence ≠ 0
  sequence_lt : x.allocationSequence < next
  state : x.state = recordLive
  owner : x.owner = ownerCrt
  allocationClass : x.allocationClass = classPersistentPool
  fits : x.pointer + x.requestedSize ≤ uint64Max

/-- Two ranges of bytes have no byte in common. -/
def Apart (base limit base' limit' : Nat) : Prop := limit ≤ base' ∨ limit' ≤ base

/-- The bytes of two records. -/
def RecordsApart (x y : Record) : Prop :=
  Apart x.pointer (x.pointer + x.requestedSize) y.pointer (y.pointer + y.requestedSize)

structure RegistryInv (c : Context) : Prop where
  next : c.nextAllocationSequence ≠ 0 ∧ c.nextAllocationSequence ≤ uint64Max
  records : ∀ i, (c.records i).occupied ≠ 0 → SoundRecord (c.records i) c.nextAllocationSequence
  apart : ∀ i j, i ≠ j → (c.records i).occupied ≠ 0 → (c.records j).occupied ≠ 0 →
    RecordsApart (c.records i) (c.records j) ∧
    (c.records i).allocationSequence ≠ (c.records j).allocationSequence
  count : c.liveCount = total Record.occupied c.records
  bytes : c.totalRequestedBytes = total Record.liveSize c.records
  largest : c.largestRequest = greatest Record.liveSize c.records
  releases : c.releaseRecordCount ≤ registryCapacity ∧ c.nextReleaseRecordSlot < registryCapacity
  ranges : c.protectedRangeCount ≤ maxProtectedRanges ∧
    ∀ k : Fin maxProtectedRanges, k.val < c.protectedRangeCount →
      rangeValid (c.protectedRanges k).base (c.protectedRanges k).limit = true
  guarded : ∀ i (k : Fin maxProtectedRanges), (c.records i).occupied ≠ 0 →
    k.val < c.protectedRangeCount →
    Apart (c.records i).pointer ((c.records i).pointer + (c.records i).requestedSize)
      (c.protectedRanges k).base (c.protectedRanges k).limit

/-- What the invariant reads of the context. -/
def Context.registry (c : Context) :=
  (c.records, c.nextAllocationSequence, c.liveCount, c.totalRequestedBytes, c.largestRequest,
    c.releaseRecordCount, c.nextReleaseRecordSlot, c.protectedRangeCount, c.protectedRanges)

theorem RegistryInv.congr (h : RegistryInv c) (hsame : c'.registry = c.registry) :
    RegistryInv c' := by
  simp only [Context.registry, Prod.mk.injEq] at hsame
  obtain ⟨h1, h2, h3, h4, h5, h6, h7, h8, h9⟩ := hsame
  exact ⟨by rw [h2]; exact h.next, by rw [h1, h2]; exact h.records, by rw [h1]; exact h.apart,
    by rw [h1, h3]; exact h.count, by rw [h1, h4]; exact h.bytes, by rw [h1, h5]; exact h.largest,
    by rw [h6, h7]; exact h.releases, by rw [h8, h9]; exact h.ranges,
    by rw [h1, h8, h9]; exact h.guarded⟩

/-! ## The invariant makes the registry valid -/

theorem SoundRecord.limit_eq {x : Record} {next : Nat} (h : SoundRecord x next) :
    x.limit = x.pointer + x.requestedSize := by
  have := h.fits
  unfold Record.limit add64
  simp only [uint64Max] at this
  exact Nat.mod_eq_of_lt (by omega)

theorem SoundRecord.sound {x : Record} {next : Nat} (h : SoundRecord x next) :
    recordSound x = true := by
  have hlimit : x.pointer ≤ x.limit := by
    rw [h.limit_eq]
    omega
  have hsize : x.requestedSize ≤ uint64Max := by
    have := h.fits
    omega
  simp [recordSound, h.occupied, h.pointer, h.aligned, h.size, h.size_le, h.backing, h.sequence,
    h.state, h.owner, h.allocationClass, hlimit, hsize]

theorem rangesOverlap_eq_false {a b a' b' : Nat} :
    rangesOverlap a b a' b' = false ↔ b' ≤ a ∨ b ≤ a' := by
  unfold rangesOverlap
  rw [Bool.and_eq_false_iff, decide_eq_false_iff_not, decide_eq_false_iff_not]
  omega

theorem RegistryInv.recordsApart (h : RegistryInv c) (hij : i ≠ j)
    (hi : (c.records i).occupied ≠ 0) :
    recordsApart (c.records i) (c.records j) = true := by
  unfold CrtMalloc.recordsApart
  by_cases hj : (c.records j).occupied = 0
  · simp [hj]
  · obtain ⟨hapart, hseq⟩ := h.apart i j hij hi hj
    have hsi := h.records i hi
    have hsj := h.records j hj
    have hne : (c.records j).pointer ≠ (c.records i).pointer := by
      have := hsi.size
      have := hsj.size
      unfold RecordsApart Apart at hapart
      omega
    have hfree : rangesOverlap (c.records i).pointer (c.records i).limit (c.records j).pointer
        (c.records j).limit = false := by
      rw [rangesOverlap_eq_false, hsi.limit_eq, hsj.limit_eq]
      exact hapart.symm
    simp [hne, hseq, hfree]

/-- Where the loop of `registry_valid` stands after the records in `done`. -/
structure TallyAt (c : Context) (done : List RecordSlot) (t : Tally) : Prop where
  liveCount : t.liveCount = totalOver Record.occupied c.records done
  totalRequestedBytes : t.totalRequestedBytes = totalOver Record.liveSize c.records done
  largestRequest : t.largestRequest = done.foldl (fun m i =>
    if (c.records i).liveSize > m then (c.records i).liveSize else m) 0

theorem total_liveSize_lt (h : RegistryInv c) :
    total Record.liveSize c.records ≤ registryCapacity * maxRequest := by
  apply total_le
  intro i
  unfold Record.liveSize
  split
  · exact Nat.zero_le _
  · rename_i hi
    exact (h.records i hi).size_le

theorem tallyRecord_goes_on (h : RegistryInv c) (done : List RecordSlot) (i : RecordSlot)
    (rest : List RecordSlot) (t : Tally) (hl : List.finRange registryCapacity = done ++ i :: rest)
    (ht : TallyAt c done t) :
    ∃ t', tallyRecord c (some t) i = some t' ∧ TallyAt c (done ++ [i]) t' := by
  unfold tallyRecord
  by_cases hi : (c.records i).occupied = 0
  · refine ⟨t, by simp [hi], ?_, ?_, ?_⟩
    · rw [totalOver_append, hi, Nat.add_zero]
      exact ht.liveCount
    · rw [totalOver_append, Record.liveSize, if_pos hi, Nat.add_zero]
      exact ht.totalRequestedBytes
    · rw [List.foldl_append, ← ht.largestRequest]
      simp [Record.liveSize, hi]
  · have hsound := h.records i hi
    have hlive : (c.records i).liveSize = (c.records i).requestedSize := by
      simp [Record.liveSize, hi]
    have hroom : ¬ t.totalRequestedBytes > uint64Max - (c.records i).requestedSize := by
      have h1 := totalOver_add_le Record.liveSize c.records hl
      have h2 := total_liveSize_lt h
      have h3 := ht.totalRequestedBytes
      simp only [registryCapacity, maxRequest, uint64Max] at h2 ⊢
      omega
    have hothers : (List.finRange registryCapacity).all (fun j =>
        decide (j ≤ i) || CrtMalloc.recordsApart (c.records i) (c.records j)) = true := by
      rw [List.all_eq_true]
      intro j _
      by_cases hj : j ≤ i
      · simp [hj]
      · have hne : i ≠ j := by
          rintro rfl
          exact hj (le_refl _)
        simp [h.recordsApart hne hi]
    refine ⟨{ liveCount := t.liveCount + 1
              totalRequestedBytes := t.totalRequestedBytes + (c.records i).requestedSize
              largestRequest :=
                if (c.records i).requestedSize > t.largestRequest then
                  (c.records i).requestedSize
                else t.largestRequest }, ?_, ?_, ?_, ?_⟩
    · simp only [hsound.occupied, hsound.sound, hothers, hroom]
      rfl
    · rw [totalOver_append, hsound.occupied, ← ht.liveCount]
    · rw [totalOver_append, hlive, ← ht.totalRequestedBytes]
    · rw [List.foldl_append, ← ht.largestRequest]
      simp [hlive]

theorem RegistryInv.valid (h : RegistryInv c) : registryValid c = true := by
  obtain ⟨t, hfold, ht⟩ : ∃ t,
      (List.finRange registryCapacity).foldl (tallyRecord c) (some {}) = some t ∧
      TallyAt c (List.finRange registryCapacity) t :=
    foldl_goes_on ⟨rfl, rfl, rfl⟩ (tallyRecord_goes_on h)
  have hcount : c.liveCount ≤ registryCapacity := by
    rw [h.count]
    have hone : ∀ i, (c.records i).occupied ≤ 1 := by
      intro i
      by_cases hi : (c.records i).occupied = 0
      · omega
      · rw [(h.records i hi).occupied]
    simpa using total_le hone
  have h1 : t.liveCount = c.liveCount := by rw [ht.liveCount, totalOver_all, h.count]
  have h2 : t.totalRequestedBytes = c.totalRequestedBytes := by
    rw [ht.totalRequestedBytes, totalOver_all, h.bytes]
  have h3 : t.largestRequest = c.largestRequest := by
    rw [ht.largestRequest, h.largest, ← foldl_greatest]
  unfold registryValid
  rw [if_neg h.next.1, if_neg, hfold]
  · simp [h1, h2, h3]
  · have := h.releases
    omega

/-! ## What the calls change -/

@[simp] theorem recordDiagnostic_registry (c : Context) (d : MallocDiagnostic) :
    (recordDiagnostic c d).registry = c.registry := by
  unfold recordDiagnostic
  split <;> rfl

@[simp] theorem mallocComplete_registry (c : Context) (d : MallocDiagnostic)
    (failure : MallocFailure) (result : Nat) :
    (mallocComplete c d failure result).2.registry = c.registry := by
  unfold mallocComplete
  dsimp only
  rw [recordDiagnostic_registry]
  split <;> rfl

@[simp] theorem mallocRollback_registry (c : Context) (d : MallocDiagnostic)
    (failure : MallocFailure) (status : Nat) :
    (mallocRollback c d failure status).2.registry = c.registry := by
  unfold mallocRollback
  rw [mallocComplete_registry]
  rfl

@[simp] theorem recordFreeDiagnostic_registry (c : Context) (d : FreeDiagnostic) :
    (recordFreeDiagnostic c d).registry = c.registry := by
  unfold recordFreeDiagnostic
  split <;> rfl

@[simp] theorem freeFails_registry (c : Context) (d : FreeDiagnostic) (failure : FreeFailure) :
    (freeFails c d failure).2.registry = c.registry := by
  unfold freeFails
  rw [recordFreeDiagnostic_registry]
  rfl

theorem freeUnknown_registry (c : Context) (d : FreeDiagnostic) (pointer : Nat) :
    (freeUnknown c d pointer).2.registry = c.registry := by
  unfold freeUnknown
  split
  · simp
  · split
    · simp
    · dsimp only
      rw [freeFails_registry]
      rfl

/-- What the call of `malloc` checks before it takes a block. -/
structure Takes (c : Context) (slot : RecordSlot) (base size : Nat) : Prop where
  empty : (c.records slot).occupied = 0
  pointer : base ≠ 0
  aligned : base % 8 = 0
  nonempty : size ≠ 0
  size_le : size ≤ maxRequest
  fits : base + size ≤ uint64Max
  sequence : c.nextAllocationSequence ≠ uint64Max
  guarded : ∀ k : Fin maxProtectedRanges, k.val < c.protectedRangeCount →
    Apart base (base + size) (c.protectedRanges k).base (c.protectedRanges k).limit
  apart : ∀ i, (c.records i).occupied ≠ 0 →
    rangesOverlap base (base + size) (c.records i).pointer (c.records i).limit = false

/-- A call of `malloc` fails and leaves the registry, or it takes the block. -/
inductive MallocEffect (c : Context) (size : Nat) (result : Nat) (c' : Context) : Prop
  | fails : result = 0 → c'.registry = c.registry → MallocEffect c size result c'
  | takes (slot : RecordSlot) : Takes c slot result size →
      c'.registry = (mallocInsert c slot result size).registry → MallocEffect c size result c'

theorem mallocRefuses_none (h : mallocRefuses c size = none) : size ≠ 0 ∧ size ≤ maxRequest := by
  unfold mallocRefuses at h
  split at h
  · cases h
  · split at h
    · cases h
    · split at h
      · cases h
      · split at h
        · cases h
        · split at h
          · cases h
          · omega

theorem blockRefused_none (h : blockRefused base size = none) :
    base ≠ 0 ∧ base % 8 = 0 ∧ base ≤ uint64Max - size := by
  unfold blockRefused at h
  split at h
  · cases h
  · split at h
    · cases h
    · split at h
      · cases h
      · omega

theorem blockOverlaps_none {limit : Nat} (h : blockOverlaps c base limit = none) :
    (∀ k : Fin maxProtectedRanges, k.val < c.protectedRangeCount →
      Apart base limit (c.protectedRanges k).base (c.protectedRanges k).limit) ∧
    ∀ i, (c.records i).occupied ≠ 0 →
      rangesOverlap base limit (c.records i).pointer (c.records i).limit = false := by
  unfold blockOverlaps at h
  split at h
  · cases h
  · rename_i hany
    constructor
    · intro k hk
      rw [Bool.not_eq_true, List.any_eq_false] at hany
      have := hany k (List.mem_finRange k)
      simp only [hk, decide_true, Bool.true_and, Bool.not_eq_true] at this
      exact (rangesOverlap_eq_false.mp this).symm
    · intro i hi
      rw [List.findSome?_eq_none_iff] at h
      have hturn := h i (List.mem_finRange i)
      rw [if_neg hi] at hturn
      split at hturn
      · cases hturn
      · split at hturn
        · cases hturn
        · rename_i hfree
          simpa using hfree

theorem findFreeSlot_some (h : findFreeSlot c = some slot) : (c.records slot).occupied = 0 := by
  have := List.find?_some h
  simpa using this

theorem mallocTake_effect (c : Context) (d : MallocDiagnostic) (slot : RecordSlot)
    (base size status : Nat) (hempty : (c.records slot).occupied = 0)
    (hsize : size ≠ 0 ∧ size ≤ maxRequest) (hseq : c.nextAllocationSequence ≠ uint64Max) :
    MallocEffect c size (mallocTake c d slot base size status).1
      (mallocTake c d slot base size status).2 := by
  unfold mallocTake
  split
  · exact .fails rfl (by simp)
  · rename_i hblock
    obtain ⟨hbase, haligned, hfits⟩ := blockRefused_none hblock
    dsimp only
    split
    · apply MallocEffect.fails rfl
      rw [mallocRollback_registry]
      split <;> rfl
    · rename_i hover
      split
      · exact .fails rfl (by simp)
      · split
        · exact .fails rfl (by simp)
        · obtain ⟨hguarded, hapart⟩ := blockOverlaps_none hover
          have hmax : maxRequest ≤ uint64Max := by decide
          refine .takes slot ⟨hempty, hbase, haligned, hsize.1, hsize.2, ?_, hseq, hguarded,
            hapart⟩ (by rw [mallocComplete_registry]; rfl)
          change base + size ≤ uint64Max
          omega

/-- One call of `malloc`, whatever the pool answers. -/
theorem mallocCall_effect (c : Context) (size runtime static : Nat) (pool : PoolAnswer)
    (status : Nat) :
    MallocEffect c size (mallocCall c size runtime static pool status).1
      (mallocCall c size runtime static pool status).2 := by
  unfold mallocCall
  dsimp only
  split
  · exact .fails rfl (by rw [mallocComplete_registry]; rfl)
  · exact .fails rfl (by rw [mallocComplete_registry]; rfl)
  · rename_i hargs
    split
    · exact .fails rfl (by rw [mallocComplete_registry]; rfl)
    · split
      · exact .fails rfl (by rw [mallocComplete_registry]; rfl)
      · rename_i slot hslot
        split
        · exact .fails rfl (by rw [mallocComplete_registry]; rfl)
        · rename_i hseq
          split
          · exact .fails rfl (by rw [mallocComplete_registry]; rfl)
          · have := mallocTake_effect { c with invocationCount := inc64 c.invocationCount }
              { invocationNumber := inc64 c.invocationCount, staticCallSite := static
                runtimeCallSite := runtime, requestedSize := size, liveCountBefore := c.liveCount
                registrySlot := slot.val, poolServiceAvailable := 1
                allocatePoolStatus := pool.status, returnedPointer := pool.pointer
                alignmentMod8 := pool.pointer % 8, alignmentMod16 := pool.pointer % 16 }
              slot pool.pointer size status (findFreeSlot_some hslot) (mallocRefuses_none hargs)
              hseq
            rcases this with ⟨h0, hsame⟩ | ⟨slot', htakes, hsame⟩
            · exact .fails h0 hsame
            · exact .takes slot' ⟨htakes.empty, htakes.pointer, htakes.aligned, htakes.nonempty,
                htakes.size_le, htakes.fits, htakes.sequence, htakes.guarded, htakes.apart⟩ hsame

/-- A call of `free` leaves the registry, or it releases the block of the pointer. -/
inductive FreeEffect (c : Context) (pointer : Nat) (d : FreeDiagnostic) (c' : Context) : Prop
  | keeps : d.backingReleased = 0 → c'.registry = c.registry → FreeEffect c pointer d c'
  | releases (slot : RecordSlot) : d.backingReleased = 1 → (c.records slot).occupied ≠ 0 →
      (c.records slot).pointer = pointer → c'.registry = (freeErase c slot).registry →
      FreeEffect c pointer d c'

theorem findRecord_some {pointer : Nat} (h : findRecord c pointer = some slot) :
    (c.records slot).occupied ≠ 0 ∧ (c.records slot).pointer = pointer := by
  have := List.find?_some h
  simpa using this

theorem freeUnknown_released (c : Context) (d : FreeDiagnostic) (pointer : Nat)
    (h : d.backingReleased = 0) : (freeUnknown c d pointer).1.backingReleased = 0 := by
  unfold freeUnknown
  split
  · exact h
  · split
    · exact h
    · exact h

/-- One call of `free`, whatever the pool answers. -/
theorem freeCall_effect (c : Context) (pointer runtime static status : Nat) :
    FreeEffect c pointer (freeCall c pointer runtime static status).1
      (freeCall c pointer runtime static status).2 := by
  unfold freeCall
  dsimp only
  split
  · exact .keeps rfl (by rw [recordFreeDiagnostic_registry]; rfl)
  · split
    · exact .keeps rfl (by rw [freeFails_registry]; rfl)
    · split
      · exact .keeps (freeUnknown_released _ _ _ rfl) (by rw [freeUnknown_registry]; rfl)
      · rename_i slot hslot
        obtain ⟨hoccupied, hpointer⟩ := findRecord_some hslot
        split
        · exact .keeps rfl (by rw [freeFails_registry]; rfl)
        · split
          · exact .keeps rfl (by rw [freeFails_registry]; rfl)
          · split
            · exact .keeps rfl (by rw [freeFails_registry]; rfl)
            · exact .releases slot rfl hoccupied hpointer
                (by rw [recordFreeDiagnostic_registry]; rfl)

/-! ## The calls keep the invariant -/

/-- The record that a block gets. -/
theorem Takes.soundRecord (h : Takes c slot base size) (hinv : RegistryInv c) :
    SoundRecord ((mallocInsert c slot base size).records slot)
      (c.nextAllocationSequence + 1) := by
  unfold mallocInsert
  dsimp only
  rw [Function.update_self]
  exact ⟨rfl, h.pointer, h.aligned, h.nonempty, h.size_le, rfl, hinv.next.1, Nat.lt_succ_self _,
    rfl, rfl, rfl, h.fits⟩

theorem SoundRecord.mono {x : Record} {next next' : Nat} (h : SoundRecord x next)
    (hle : next ≤ next') : SoundRecord x next' :=
  { h with sequence_lt := Nat.lt_of_lt_of_le h.sequence_lt hle }

theorem RecordsApart.symm {x y : Record} (h : RecordsApart x y) : RecordsApart y x := Or.symm h

/-- The new record against an old one. -/
theorem Takes.apart_old (h : Takes c slot base size) (hinv : RegistryInv c)
    (hi : (c.records i).occupied ≠ 0) :
    RecordsApart ((mallocInsert c slot base size).records slot) (c.records i) ∧
    ((mallocInsert c slot base size).records slot).allocationSequence ≠
      (c.records i).allocationSequence := by
  unfold mallocInsert
  dsimp only
  rw [Function.update_self]
  have hold := hinv.records i hi
  constructor
  · have hfree := h.apart i hi
    rw [rangesOverlap_eq_false, hold.limit_eq] at hfree
    exact hfree.symm
  · exact (Nat.ne_of_lt hold.sequence_lt).symm

theorem Takes.keeps (h : Takes c slot base size) (hinv : RegistryInv c) :
    RegistryInv (mallocInsert c slot base size) := by
  have hnew : ∀ i, i ≠ slot → (mallocInsert c slot base size).records i = c.records i := by
    intro i hi
    exact Function.update_of_ne hi _ _
  have hempty : (c.records slot).liveSize = 0 := by simp [Record.liveSize, h.empty]
  refine ⟨⟨Nat.succ_ne_zero _, ?_⟩, ?_, ?_, ?_, ?_, ?_, hinv.releases, hinv.ranges, ?_⟩
  · have hle := hinv.next.2
    have hne := h.sequence
    change c.nextAllocationSequence + 1 ≤ uint64Max
    omega
  · intro i hi
    by_cases his : i = slot
    · rw [his]
      exact h.soundRecord hinv
    · rw [hnew i his] at hi ⊢
      exact (hinv.records i hi).mono (Nat.le_succ _)
  · intro i j hij hi hj
    by_cases his : i = slot
    · subst his
      rw [hnew j (Ne.symm hij)] at hj ⊢
      exact h.apart_old hinv hj
    · rw [hnew i his] at hi ⊢
      by_cases hjs : j = slot
      · subst hjs
        obtain ⟨hapart, hseq⟩ := h.apart_old hinv hi
        exact ⟨hapart.symm, hseq.symm⟩
      · rw [hnew j hjs] at hj ⊢
        exact hinv.apart i j hij hi hj
  · have := total_update Record.occupied c.records slot
      ((mallocInsert c slot base size).records slot)
    rw [h.empty, ← hinv.count] at this
    simpa [mallocInsert] using this.symm
  · have := total_update Record.liveSize c.records slot
      ((mallocInsert c slot base size).records slot)
    rw [hempty, ← hinv.bytes] at this
    simpa [mallocInsert, Record.liveSize] using this.symm
  · have := greatest_update (w := Record.liveSize)
      (x := (mallocInsert c slot base size).records slot) hempty
    rw [← hinv.largest] at this
    have hsize : ((mallocInsert c slot base size).records slot).liveSize = size := by
      simp [mallocInsert, Record.liveSize]
    rw [hsize] at this
    have hrecords : Function.update c.records slot ((mallocInsert c slot base size).records slot) =
        (mallocInsert c slot base size).records := by
      simp [mallocInsert]
    rw [← hrecords, this]
    change (if size > c.largestRequest then size else c.largestRequest) = _
    split <;> omega
  · intro i k hi hk
    by_cases his : i = slot
    · subst his
      simp only [mallocInsert, Function.update_self]
      exact h.guarded k hk
    · rw [hnew i his] at hi ⊢
      exact hinv.guarded i k hi hk

theorem recomputeLargest_eq (records : RecordSlot → Record) :
    recomputeLargest records = greatest Record.liveSize records := by
  unfold recomputeLargest
  rw [← foldl_greatest]
  congr 1
  funext largest i
  by_cases hi : (records i).occupied = 0
  · simp [Record.liveSize, hi]
  · simp [Record.liveSize, hi]

theorem rememberRelease_bounds (x : Record) (slot : RecordSlot)
    (h : c.releaseRecordCount ≤ registryCapacity ∧ c.nextReleaseRecordSlot < registryCapacity) :
    (rememberRelease c x slot).releaseRecordCount ≤ registryCapacity ∧
    (rememberRelease c x slot).nextReleaseRecordSlot < registryCapacity := by
  constructor
  · unfold rememberRelease
    dsimp only
    split <;> omega
  · exact Nat.mod_lt _ (by decide)

theorem freeErase_keeps (hinv : RegistryInv c) (hslot : (c.records slot).occupied ≠ 0) :
    RegistryInv (freeErase c slot) := by
  have hsound := hinv.records slot hslot
  have hself : (freeErase c slot).records slot = {} := Function.update_self _ _ _
  have hother : ∀ i, i ≠ slot → (freeErase c slot).records i = c.records i := by
    intro i hi
    exact Function.update_of_ne hi _ _
  -- an occupied record of the new table is another one than the erased one
  have hold : ∀ i, ((freeErase c slot).records i).occupied ≠ 0 →
      (freeErase c slot).records i = c.records i := by
    intro i hi
    apply hother i
    rintro rfl
    rw [hself] at hi
    exact hi rfl
  refine ⟨hinv.next, ?_, ?_, ?_, ?_, recomputeLargest_eq _,
    rememberRelease_bounds (c.records slot) slot hinv.releases, hinv.ranges, ?_⟩
  · intro i hi
    have hri := hold i hi
    rw [hri] at hi ⊢
    exact hinv.records i hi
  · intro i j hij hi hj
    have hri := hold i hi
    have hrj := hold j hj
    rw [hri] at hi ⊢
    rw [hrj] at hj ⊢
    exact hinv.apart i j hij hi hj
  · have := total_update Record.occupied c.records slot {}
    rw [hsound.occupied, ← hinv.count] at this
    change c.liveCount - 1 = total Record.occupied (Function.update c.records slot {})
    have hzero : Record.occupied {} = 0 := rfl
    omega
  · have := total_update Record.liveSize c.records slot {}
    rw [← hinv.bytes, Record.liveSize, if_neg hslot] at this
    change c.totalRequestedBytes - (c.records slot).requestedSize =
      total Record.liveSize (Function.update c.records slot {})
    have hzero : Record.liveSize {} = 0 := rfl
    omega
  · intro i k hi hk
    have hri := hold i hi
    rw [hri] at hi ⊢
    exact hinv.guarded i k hi hk

/-! ## Runs -/

/-- A call of the program, with what the pool answers to it. -/
inductive Op
  | malloc (requestedSize runtimeCallSite staticCallSite : Nat) (pool : PoolAnswer)
      (rollbackStatus : Nat)
  | free (pointer runtimeCallSite staticCallSite status : Nat)
  deriving DecidableEq, Repr

def step (c : Context) : Op → Context
  | .malloc size runtime static pool status => (mallocCall c size runtime static pool status).2
  | .free pointer runtime static status => (freeCall c pointer runtime static status).2

/-- A context after the reset, with the ranges that it accepted. -/
inductive Configured : List ProtectedRange → Context → Prop
  | reset (bootServices bootServicesAvailable : Nat) (allocatePool freePool : Bool) :
      Configured []
        { contextReset with bootServices, bootServicesAvailable, allocatePool, freePool }
  | accepted {ranges : List ProtectedRange} {c : Context} (x : ProtectedRange) :
      Configured ranges c → (addProtectedRange c x.base x.limit x.kind).1 = 0 →
      Configured (x :: ranges) (addProtectedRange c x.base x.limit x.kind).2
  | refused {ranges : List ProtectedRange} {c : Context} (x : ProtectedRange) :
      Configured ranges c → (addProtectedRange c x.base x.limit x.kind).1 ≠ 0 →
      Configured ranges (addProtectedRange c x.base x.limit x.kind).2

/-- The pointers that `malloc` returned and `free` did not release, with their sizes. -/
def noteOutstanding (c : Context) (op : Op) (outstanding : Nat → Option Nat) : Nat → Option Nat :=
  match op with
  | .malloc size runtime static pool status =>
    let pointer := (mallocCall c size runtime static pool status).1
    if pointer = 0 then outstanding else Function.update outstanding pointer (some size)
  | .free pointer runtime static status =>
    if (freeCall c pointer runtime static status).1.backingReleased = 1 then
      Function.update outstanding pointer none
    else outstanding

/-- The range is in the table of the context. -/
def Protects (c : Context) (x : ProtectedRange) : Prop :=
  ∃ k : Fin maxProtectedRanges, k.val < c.protectedRangeCount ∧ c.protectedRanges k = x

theorem contextReset_keeps : RegistryInv contextReset := by
  have hempty : ∀ i : RecordSlot, (contextReset.records i).occupied = 0 := fun _ => rfl
  refine ⟨by decide, fun i hi => absurd (hempty i) hi, fun i j _ hi => absurd (hempty i) hi, ?_, ?_,
    ?_, by decide, ⟨by decide, ?_⟩, fun i k hi => absurd (hempty i) hi⟩
  · exact (total_eq_zero_iff.mpr hempty).symm
  · exact (total_eq_zero_iff.mpr fun _ => rfl).symm
  · exact ((Finset.sup_eq_bot_iff _ _).mpr fun _ _ => rfl).symm
  · intro k hk
    exact absurd hk (Nat.not_lt_zero _)

/-- A range is refused and changes nothing, or it goes to the end of the table. -/
theorem addProtectedRange_cases (c : Context) (base limit kind : Nat) :
    addProtectedRange c base limit kind = (-1, c) ∨
    ∃ h : c.protectedRangeCount < maxProtectedRanges, rangeValid base limit = true ∧
      addProtectedRange c base limit kind =
        (0, { c with
          protectedRanges := Function.update c.protectedRanges ⟨c.protectedRangeCount, h⟩
            { base, limit, kind }
          protectedRangeCount := c.protectedRangeCount + 1 }) := by
  unfold addProtectedRange
  by_cases hvalid : rangeValid base limit = true
  · by_cases hroom : c.protectedRangeCount < maxProtectedRanges
    · right
      exact ⟨hroom, hvalid, by simp [hvalid, hroom]⟩
    · left
      simp [hvalid, hroom]
  · left
    simp [hvalid]

/-- As long as nothing is allocated a range can come in. -/
theorem addProtectedRange_keeps (hinv : RegistryInv c) (hempty : ∀ i, (c.records i).occupied = 0)
    (base limit kind : Nat) : RegistryInv (addProtectedRange c base limit kind).2 := by
  rcases addProtectedRange_cases c base limit kind with h | ⟨hroom, hvalid, h⟩
  · rw [h]
    exact hinv
  · rw [h]
    refine ⟨hinv.next, hinv.records, hinv.apart, hinv.count, hinv.bytes, hinv.largest,
      hinv.releases, ⟨hroom, ?_⟩, fun i k hi => absurd (hempty i) hi⟩
    intro k hk
    change k.val < c.protectedRangeCount + 1 at hk
    by_cases hlast : k = ⟨c.protectedRangeCount, hroom⟩
    · subst hlast
      simpa using hvalid
    · have hne : k.val ≠ c.protectedRangeCount := fun heq => hlast (Fin.ext heq)
      dsimp only
      rw [Function.update_of_ne hlast]
      exact hinv.ranges.2 k (by omega)

theorem addProtectedRange_protects {x y : ProtectedRange} (h : Protects c y) :
    Protects (addProtectedRange c x.base x.limit x.kind).2 y := by
  rcases addProtectedRange_cases c x.base x.limit x.kind with heq | ⟨hroom, -, heq⟩
  · rw [heq]
    exact h
  · rw [heq]
    obtain ⟨k, hk, hy⟩ := h
    refine ⟨k, Nat.lt_succ_of_lt hk, ?_⟩
    dsimp only
    rw [Function.update_of_ne]
    · exact hy
    · rintro rfl
      exact absurd hk (lt_irrefl _)

theorem addProtectedRange_protects_new {x : ProtectedRange}
    (h : (addProtectedRange c x.base x.limit x.kind).1 = 0) :
    Protects (addProtectedRange c x.base x.limit x.kind).2 x := by
  rcases addProtectedRange_cases c x.base x.limit x.kind with heq | ⟨hroom, -, heq⟩
  · rw [heq] at h
    cases h
  · rw [heq]
    exact ⟨⟨c.protectedRangeCount, hroom⟩, Nat.lt_succ_self _, by simp⟩

theorem addProtectedRange_records (base limit kind : Nat) :
    (addProtectedRange c base limit kind).2.records = c.records := by
  rcases addProtectedRange_cases c base limit kind with heq | ⟨_, -, heq⟩
  · rw [heq]
  · rw [heq]

/-- What holds of a configured context. -/
theorem Configured.keeps {ranges : List ProtectedRange} (h : Configured ranges c) :
    RegistryInv c ∧ (∀ i, (c.records i).occupied = 0) ∧ ∀ x ∈ ranges, Protects c x := by
  induction h with
  | reset bootServices bootServicesAvailable allocatePool freePool =>
    exact ⟨contextReset_keeps.congr rfl, fun _ => rfl, fun x hx => absurd hx List.not_mem_nil⟩
  | @accepted ranges c x _ hadd ih =>
    obtain ⟨hinv, hempty, hranges⟩ := ih
    refine ⟨addProtectedRange_keeps hinv hempty _ _ _, ?_, ?_⟩
    · rw [addProtectedRange_records]
      exact hempty
    · intro y hy
      rcases List.mem_cons.mp hy with rfl | hy
      · exact addProtectedRange_protects_new hadd
      · exact addProtectedRange_protects (hranges y hy)
  | @refused ranges c x _ _ ih =>
    obtain ⟨hinv, hempty, hranges⟩ := ih
    refine ⟨addProtectedRange_keeps hinv hempty _ _ _, ?_, ?_⟩
    · rw [addProtectedRange_records]
      exact hempty
    · intro y hy
      exact addProtectedRange_protects (hranges y hy)

/-! ## The laws of a run -/

/-- The pointer has a record with the size. -/
def Holds (c : Context) (pointer size : Nat) : Prop :=
  ∃ i, (c.records i).occupied ≠ 0 ∧ (c.records i).pointer = pointer ∧
    (c.records i).requestedSize = size

/-- What holds all along a run, where `ranges` are protected. -/
structure RunInv (ranges : List ProtectedRange) (c : Context) (outstanding : Nat → Option Nat) :
    Prop where
  registry : RegistryInv c
  ranges : ∀ x ∈ ranges, Protects c x
  held : ∀ pointer size, outstanding pointer = some size → Holds c pointer size

theorem Protects.congr {x : ProtectedRange} (h : Protects c x)
    (hsame : c'.registry = c.registry) : Protects c' x := by
  simp only [Context.registry, Prod.mk.injEq] at hsame
  unfold Protects
  rw [hsame.2.2.2.2.2.2.2.1, hsame.2.2.2.2.2.2.2.2]
  exact h

theorem Holds.congr {pointer : Nat} (h : Holds c pointer size)
    (hsame : c'.registry = c.registry) : Holds c' pointer size := by
  simp only [Context.registry, Prod.mk.injEq] at hsame
  unfold Holds
  rw [hsame.1]
  exact h

variable {ranges : List ProtectedRange} {outstanding : Nat → Option Nat}

theorem RunInv.congr (h : RunInv ranges c outstanding) (hsame : c'.registry = c.registry) :
    RunInv ranges c' outstanding :=
  ⟨h.registry.congr hsame, fun x hx => (h.ranges x hx).congr hsame,
    fun pointer size hout => (h.held pointer size hout).congr hsame⟩

theorem RunInv.insert (h : RunInv ranges c outstanding) (htakes : Takes c slot base size) :
    RunInv ranges (mallocInsert c slot base size)
      (Function.update outstanding base (some size)) := by
  refine ⟨htakes.keeps h.registry, h.ranges, ?_⟩
  intro pointer size' hout
  by_cases hp : pointer = base
  · subst hp
    rw [Function.update_self, Option.some.injEq] at hout
    exact ⟨slot, by simp [mallocInsert], by simp [mallocInsert], by simp [mallocInsert, hout]⟩
  · rw [Function.update_of_ne hp] at hout
    obtain ⟨i, hi, hpointer, hsize⟩ := h.held pointer size' hout
    have hne : i ≠ slot := by
      rintro rfl
      exact hi htakes.empty
    have hsame : (mallocInsert c slot base size).records i = c.records i :=
      Function.update_of_ne hne _ _
    exact ⟨i, by rw [hsame]; exact hi, by rw [hsame]; exact hpointer, by rw [hsame]; exact hsize⟩

theorem RunInv.erase (h : RunInv ranges c outstanding) (hslot : (c.records slot).occupied ≠ 0) :
    RunInv ranges (freeErase c slot)
      (Function.update outstanding (c.records slot).pointer none) := by
  refine ⟨freeErase_keeps h.registry hslot, h.ranges, ?_⟩
  intro pointer size hout
  by_cases hp : pointer = (c.records slot).pointer
  · rw [hp, Function.update_self] at hout
    cases hout
  · rw [Function.update_of_ne hp] at hout
    obtain ⟨i, hi, hpointer, hsize⟩ := h.held pointer size hout
    have hne : i ≠ slot := by
      rintro rfl
      exact hp hpointer.symm
    have hsame : (freeErase c slot).records i = c.records i := Function.update_of_ne hne _ _
    exact ⟨i, by rw [hsame]; exact hi, by rw [hsame]; exact hpointer, by rw [hsame]; exact hsize⟩

theorem RunInv.step (h : RunInv ranges c outstanding) (op : Op) :
    RunInv ranges (step c op) (noteOutstanding c op outstanding) := by
  cases op with
  | malloc size runtime static pool status =>
    unfold CrtMalloc.step noteOutstanding
    rcases mallocCall_effect c size runtime static pool status with ⟨hzero, hsame⟩ |
      ⟨slot, htakes, hsame⟩
    · dsimp only
      rw [if_pos hzero]
      exact h.congr hsame
    · dsimp only
      rw [if_neg htakes.pointer]
      exact (h.insert htakes).congr hsame
  | free pointer runtime static status =>
    unfold CrtMalloc.step noteOutstanding
    rcases freeCall_effect c pointer runtime static status with ⟨hzero, hsame⟩ |
      ⟨slot, hone, hslot, hpointer, hsame⟩
    · dsimp only
      rw [hzero, if_neg (by decide)]
      exact h.congr hsame
    · subst hpointer
      dsimp only
      rw [hone, if_pos rfl]
      exact (h.erase hslot).congr hsame

/-- Any calls, any sizes and pointers, any answers of the pool. -/
abbrev Reaches (ranges : List ProtectedRange) :=
  Runs.ReachNoting (Configured ranges) step (fun _ _ => True) (fun _ _ => none) noteOutstanding

theorem Reaches.runInv (h : Reaches ranges c outstanding) : RunInv ranges c outstanding := by
  apply Runs.ReachNoting.invariant h
  · intro c hc
    obtain ⟨hinv, -, hranges⟩ := hc.keeps
    refine ⟨hinv, hranges, ?_⟩
    intro pointer size hout
    cases hout
  · intro c outstanding op _ hinv _
    exact hinv.step op

/-- What the program may rely on for a pointer that it holds. -/
structure Owns (ranges : List ProtectedRange) (c : Context) (pointer size : Nat) (i : RecordSlot) :
    Prop where
  nonnull : pointer ≠ 0
  aligned : pointer % 8 = 0
  live : (c.records i).occupied = 1 ∧ (c.records i).state = recordLive
  record : (c.records i).pointer = pointer ∧ (c.records i).requestedSize = size
  apart : ∀ j, j ≠ i → (c.records j).occupied ≠ 0 →
    Apart pointer (pointer + size) (c.records j).pointer
      ((c.records j).pointer + (c.records j).requestedSize)
  guarded : ∀ x ∈ ranges, Apart pointer (pointer + size) x.base x.limit

theorem RunInv.owns {pointer : Nat} (h : RunInv ranges c outstanding)
    (hout : outstanding pointer = some size) : ∃ i, Owns ranges c pointer size i := by
  obtain ⟨i, hi, hpointer, hsize⟩ := h.held pointer size hout
  have hsound := h.registry.records i hi
  refine ⟨i, ?_, ?_, ⟨hsound.occupied, hsound.state⟩, ⟨hpointer, hsize⟩, ?_, ?_⟩
  · rw [← hpointer]
    exact hsound.pointer
  · rw [← hpointer]
    exact hsound.aligned
  · intro j hj hlive
    rw [← hpointer, ← hsize]
    exact (h.registry.apart i j (Ne.symm hj) hi hlive).1
  · intro x hx
    obtain ⟨k, hk, rfl⟩ := h.ranges x hx
    rw [← hpointer, ← hsize]
    exact h.registry.guarded i k hi hk

/-- The registry is valid after any run, and what the program holds is its own. -/
theorem registry_is_valid_and_blocks_are_owned (h : Reaches ranges c outstanding) :
    registryValid c = true ∧
    ∀ pointer size, outstanding pointer = some size → ∃ i, Owns ranges c pointer size i :=
  ⟨h.runInv.registry.valid, fun _ _ hout => h.runInv.owns hout⟩

/-- Two ranges, and a pool that answers with blocks that overlap and a free that fails. -/
def sampleRanges : List ProtectedRange :=
  [{ base := 0x1000, limit := 0x2000, kind := 1 }, { base := 0x8000, limit := 0x9000, kind := 2 }]

def sampleStart : Context :=
  sampleRanges.foldr (fun x c => (addProtectedRange c x.base x.limit x.kind).2)
    { contextReset with
      bootServices := 1, bootServicesAvailable := 1, allocatePool := true, freePool := true }

def sampleOps : List Op :=
  [.malloc 100 0 0 ⟨0, 0x4000⟩ 0, .malloc 24 0 0 ⟨0, 0x4008⟩ 0, .malloc 24 0 0 ⟨0, 0x1ff8⟩ 0,
    .malloc 24 0 0 ⟨0, 0x5000⟩ 0, .free 0x4000 0 0 7, .free 0x5000 0 0 0,
   .malloc 8 0 0 ⟨0, 0x5000⟩ 0]

theorem sampleStart_configured : Configured sampleRanges sampleStart :=
  .accepted _ (.accepted _ (.reset 1 1 true true) (by decide +kernel)) (by decide +kernel)

theorem sample_registry_is_valid_and_blocks_are_owned :
    registryValid (Runs.run step sampleStart sampleOps) = true ∧
    (∃ i, Owns sampleRanges (Runs.run step sampleStart sampleOps) 0x4000 100 i) ∧
    ∃ i, Owns sampleRanges (Runs.run step sampleStart sampleOps) 0x5000 8 i := by
  have hrun : Reaches sampleRanges (Runs.run step sampleStart sampleOps)
      (Runs.run (Runs.noting step noteOutstanding) (sampleStart, fun _ => none) sampleOps).2 :=
    Runs.ReachNoting.run (.start ⟨sampleStart_configured, rfl⟩) sampleOps fun _ _ _ => trivial
  obtain ⟨hvalid, howns⟩ := registry_is_valid_and_blocks_are_owned hrun
  exact ⟨hvalid, howns _ _ (by decide +kernel), howns _ _ (by decide +kernel)⟩

end Gate4Harness.CrtMalloc
