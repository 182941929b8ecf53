-- The ring of the last releases of the CRT heap. It holds the last frees that succeeded, but
-- a second free of a pointer looks through it in the order of its slots, so it may find an
-- earlier release of the pointer than the last one.
import Gate4Harness.CrtMallocLaws
import Gate4Harness.Rings

namespace Gate4Harness.CrtMalloc

open Tables Rings

variable {c c' : Context} {slot : RecordSlot} {history : List ReleaseRecord} {pointer : Nat}

/-! ## What the calls change of the ring -/

/-- What remembers the releases. -/
def Context.ring (c : Context) :=
  (c.releaseRecordCount, c.nextReleaseRecordSlot, c.releaseRecords, c.successfulFreeCount)

theorem recordDiagnostic_ring (c : Context) (d : MallocDiagnostic) :
    (recordDiagnostic c d).ring = c.ring := by
  unfold recordDiagnostic
  split <;> rfl

theorem mallocComplete_ring (c : Context) (d : MallocDiagnostic) (failure : MallocFailure)
    (result : Nat) : (mallocComplete c d failure result).2.ring = c.ring := by
  unfold mallocComplete
  dsimp only
  rw [recordDiagnostic_ring]
  split <;> rfl

theorem mallocRollback_ring (c : Context) (d : MallocDiagnostic) (failure : MallocFailure)
    (status : Nat) : (mallocRollback c d failure status).2.ring = c.ring := by
  unfold mallocRollback
  rw [mallocComplete_ring]
  rfl

theorem mallocTake_ring (c : Context) (d : MallocDiagnostic) (slot : RecordSlot)
    (base size status : Nat) : (mallocTake c d slot base size status).2.ring = c.ring := by
  unfold mallocTake
  split
  · exact mallocRollback_ring ..
  · dsimp only
    split
    · rw [mallocRollback_ring]
      split <;> rfl
    split
    · exact mallocRollback_ring ..
    split
    · exact mallocRollback_ring ..
    · rw [mallocComplete_ring]
      rfl

theorem mallocCall_ring (c : Context) (size runtime static : Nat) (pool : PoolAnswer)
    (status : Nat) : (mallocCall c size runtime static pool status).2.ring = c.ring := by
  unfold mallocCall
  dsimp only
  split
  · rw [mallocComplete_ring]
    rfl
  · rw [mallocComplete_ring]
    rfl
  split
  · rw [mallocComplete_ring]
    rfl
  split
  · rw [mallocComplete_ring]
    rfl
  split
  · rw [mallocComplete_ring]
    rfl
  split
  · rw [mallocComplete_ring]
    rfl
  · rw [mallocTake_ring]
    rfl

theorem addProtectedRange_ring (c : Context) (base limit kind : Nat) :
    (addProtectedRange c base limit kind).2.ring = c.ring := by
  rcases addProtectedRange_cases c base limit kind with heq | ⟨_, -, heq⟩
  · rw [heq]
  · rw [heq]
    rfl

theorem recordFreeDiagnostic_ring (c : Context) (d : FreeDiagnostic) :
    (recordFreeDiagnostic c d).ring = c.ring := by
  unfold recordFreeDiagnostic
  split <;> rfl

theorem freeFails_ring (c : Context) (d : FreeDiagnostic) (failure : FreeFailure) :
    (freeFails c d failure).2.ring = c.ring := by
  unfold freeFails
  rw [recordFreeDiagnostic_ring]
  rfl

theorem freeUnknown_ring (c : Context) (d : FreeDiagnostic) (pointer : Nat) :
    (freeUnknown c d pointer).2.ring = c.ring := by
  unfold freeUnknown
  split
  · exact freeFails_ring ..
  · split
    · exact freeFails_ring ..
    · dsimp only
      rw [freeFails_ring]
      rfl

/-! ## The releases of a run -/

/-- The release that the diagnostic of a successful `free` tells of, as number `number`. -/
def FreeDiagnostic.release (d : FreeDiagnostic) (number : Nat) : ReleaseRecord :=
  { pointer := d.pointer, requestedSize := d.requestedSize, backingSize := d.backingSize
    allocationSequence := d.allocationSequence, releaseSequence := number % 2 ^ 64
    registrySlot := d.registrySlot, state := recordFreed }

/-- A call of `free` leaves the ring, or it releases a block and remembers it. -/
inductive RingEffect (c : Context) (d : FreeDiagnostic) (c' : Context) : Prop
  | keeps : d.backingReleased = 0 → c'.ring = c.ring → c'.registry = c.registry →
      RingEffect c d c'
  | remembers (slot : RecordSlot) : d.backingReleased = 1 → (c.records slot).occupied ≠ 0 →
      (c.records slot).pointer = d.pointer → (c.records slot).requestedSize = d.requestedSize →
      (c.records slot).backingSize = d.backingSize →
      (c.records slot).allocationSequence = d.allocationSequence → slot.val = d.registrySlot →
      c'.ring = (freeErase c slot).ring → c'.registry = (freeErase c slot).registry →
      RingEffect c d c'

theorem freeCall_ringEffect (c : Context) (pointer runtime static status : Nat) :
    RingEffect c (freeCall c pointer runtime static status).1
      (freeCall c pointer runtime static status).2 := by
  unfold freeCall
  dsimp only
  split
  · exact .keeps rfl (by rw [recordFreeDiagnostic_ring]; rfl)
      (by rw [recordFreeDiagnostic_registry]; rfl)
  split
  · exact .keeps rfl (by rw [freeFails_ring]; rfl) (by rw [freeFails_registry]; rfl)
  split
  · exact .keeps (freeUnknown_released _ _ _ rfl) (by rw [freeUnknown_ring]; rfl)
      (by rw [freeUnknown_registry]; rfl)
  rename_i slot hslot
  obtain ⟨hoccupied, hpointer⟩ := findRecord_some hslot
  split
  · exact .keeps rfl (by rw [freeFails_ring]; rfl) (by rw [freeFails_registry]; rfl)
  split
  · exact .keeps rfl (by rw [freeFails_ring]; rfl) (by rw [freeFails_registry]; rfl)
  split
  · exact .keeps rfl (by rw [freeFails_ring]; rfl) (by rw [freeFails_registry]; rfl)
  · exact .remembers slot rfl hoccupied hpointer rfl rfl rfl rfl
      (by rw [recordFreeDiagnostic_ring]; rfl) (by rw [recordFreeDiagnostic_registry]; rfl)

def noteRelease (c : Context) (op : Op) (history : List ReleaseRecord) : List ReleaseRecord :=
  match op with
  | .malloc .. => history
  | .free pointer runtime static status =>
    let d := (freeCall c pointer runtime static status).1
    if d.backingReleased = 1 then history ++ [d.release history.length] else history

/-- Any calls from a configured context, with the releases so far, the oldest first. -/
abbrev ReachesReleasing (ranges : List ProtectedRange) :=
  Runs.ReachNoting (Configured ranges) step (fun _ _ => True) (fun _ => []) noteRelease

/-- The ring holds the last releases, and each block is released once. -/
structure ReleaseInv (c : Context) (history : List ReleaseRecord) : Prop where
  ring : Rings.Holds c.releaseRecords c.releaseRecordCount history
  next : c.nextReleaseRecordSlot = history.length % registryCapacity
  frees : c.successfulFreeCount = history.length % 2 ^ 64
  freed : ∀ x ∈ history, x.state = recordFreed ∧ x.pointer ≠ 0
  sequence_lt : ∀ x ∈ history, x.allocationSequence < c.nextAllocationSequence
  notLive : ∀ x ∈ history, ∀ i, (c.records i).occupied ≠ 0 →
    (c.records i).allocationSequence ≠ x.allocationSequence
  distinct : history.Pairwise fun x y => x.allocationSequence ≠ y.allocationSequence

theorem ReleaseInv.congr (h : ReleaseInv c history) (hring : c'.ring = c.ring)
    (hregistry : c'.registry = c.registry) : ReleaseInv c' history := by
  simp only [Context.ring, Prod.mk.injEq] at hring
  simp only [Context.registry, Prod.mk.injEq] at hregistry
  obtain ⟨h1, h2, h3, h4⟩ := hring
  obtain ⟨h5, h6, -⟩ := hregistry
  exact ⟨by rw [h1, h3]; exact h.ring, by rw [h2]; exact h.next, by rw [h4]; exact h.frees,
    h.freed, by rw [h6]; exact h.sequence_lt, by rw [h5]; exact h.notLive, h.distinct⟩

/-- A new block gets a sequence that no release has. -/
theorem ReleaseInv.insert (h : ReleaseInv c history) {base size : Nat}
    (hring : c'.ring = c.ring)
    (hregistry : c'.registry = (mallocInsert c slot base size).registry) :
    ReleaseInv c' history := by
  refine ReleaseInv.congr (c := mallocInsert c slot base size) ?_ hring hregistry
  refine ⟨h.ring, h.next, h.frees, h.freed, fun x hx => ?_, fun x hx i hi => ?_, h.distinct⟩
  · exact Nat.lt_succ_of_lt (h.sequence_lt x hx)
  · by_cases his : i = slot
    · have hnew : ((mallocInsert c slot base size).records i).allocationSequence =
          c.nextAllocationSequence := by
        unfold mallocInsert
        rw [his]
        dsimp only
        rw [Function.update_self]
      rw [hnew]
      exact Nat.ne_of_gt (h.sequence_lt x hx)
    · have hold : (mallocInsert c slot base size).records i = c.records i :=
        Function.update_of_ne his _ _
      rw [hold] at hi ⊢
      exact h.notLive x hx i hi

/-- A release takes the next slot, and its sequence is in no other record. -/
theorem ReleaseInv.erase (h : ReleaseInv c history) (hinv : RegistryInv c) {d : FreeDiagnostic}
    (hslot : (c.records slot).occupied ≠ 0) (hpointer : (c.records slot).pointer = d.pointer)
    (hsize : (c.records slot).requestedSize = d.requestedSize)
    (hbacking : (c.records slot).backingSize = d.backingSize)
    (hsequence : (c.records slot).allocationSequence = d.allocationSequence)
    (hnumber : slot.val = d.registrySlot) :
    ReleaseInv (freeErase c slot) (history ++ [d.release history.length]) := by
  have hsound := hinv.records slot hslot
  have hcount := h.ring.count
  have hplace : (if ¬ c.releaseRecordCount < registryCapacity then c.nextReleaseRecordSlot
      else c.releaseRecordCount) % registryCapacity = history.length % registryCapacity := by
    by_cases hroom : c.releaseRecordCount < registryCapacity
    · have heq : c.releaseRecordCount = history.length := by omega
      rw [if_neg (not_not_intro hroom), heq]
    · rw [if_pos hroom, h.next, Nat.mod_mod]
  have hrecord : ({ pointer := (c.records slot).pointer
                    requestedSize := (c.records slot).requestedSize
                    backingSize := (c.records slot).backingSize
                    allocationSequence := (c.records slot).allocationSequence
                    releaseSequence := c.successfulFreeCount
                    registrySlot := slot.val, state := recordFreed } : ReleaseRecord) =
      d.release history.length := by
    unfold FreeDiagnostic.release
    rw [hpointer, hsize, hbacking, hsequence, hnumber, h.frees]
  have hold : ∀ i, ((freeErase c slot).records i).occupied ≠ 0 →
      i ≠ slot ∧ (freeErase c slot).records i = c.records i := by
    intro i hi
    have hne : i ≠ slot := by
      rintro rfl
      have hself : (freeErase c i).records i = {} := Function.update_self _ _ _
      rw [hself] at hi
      exact hi rfl
    exact ⟨hne, Function.update_of_ne hne _ _⟩
  have hlast : ∀ x ∈ history ++ [d.release history.length],
      x ∈ history ∨ x = d.release history.length := by
    intro x hx
    rwa [List.mem_append, List.mem_singleton] at hx
  constructor
  · have hpush := h.ring.push (d.release history.length)
    have hslots : (freeErase c slot).releaseRecords =
        Function.update c.releaseRecords (place registryCapacity history.length)
          (d.release history.length) := by
      unfold freeErase rememberRelease
      dsimp only
      rw [hrecord]
      congr 1
      exact Fin.ext hplace
    have hsame : (freeErase c slot).releaseRecordCount =
        min (c.releaseRecordCount + 1) registryCapacity := by
      unfold freeErase rememberRelease
      dsimp only
      split <;> omega
    rw [hslots, hsame]
    exact hpush
  · change ((if ¬ c.releaseRecordCount < registryCapacity then c.nextReleaseRecordSlot
      else c.releaseRecordCount) + 1) % registryCapacity = _
    rw [List.length_append, List.length_singleton, Nat.add_mod, hplace, ← Nat.add_mod]
  · change inc64 c.successfulFreeCount = _
    rw [inc64, h.frees, List.length_append, List.length_singleton]
    omega
  · intro x hx
    rcases hlast x hx with hx | rfl
    · exact h.freed x hx
    · exact ⟨rfl, fun hzero => hsound.pointer (hpointer.trans hzero)⟩
  · intro x hx
    rcases hlast x hx with hx | rfl
    · exact h.sequence_lt x hx
    · change d.allocationSequence < c.nextAllocationSequence
      rw [← hsequence]
      exact hsound.sequence_lt
  · intro x hx i hi
    obtain ⟨hne, hri⟩ := hold i hi
    rw [hri] at hi ⊢
    rcases hlast x hx with hx | rfl
    · exact h.notLive x hx i hi
    · change (c.records i).allocationSequence ≠ d.allocationSequence
      rw [← hsequence]
      exact (hinv.apart i slot hne hi hslot).2
  · rw [List.pairwise_append]
    refine ⟨h.distinct, List.pairwise_singleton _ _, fun x hx y hy => ?_⟩
    rw [List.mem_singleton.mp hy]
    change x.allocationSequence ≠ d.allocationSequence
    rw [← hsequence]
    exact (h.notLive x hx slot hslot).symm

theorem ReleaseInv.step (h : ReleaseInv c history) (hinv : RegistryInv c) (op : Op) :
    ReleaseInv (step c op) (noteRelease c op history) := by
  cases op with
  | malloc size runtime static pool status =>
    have hring := mallocCall_ring c size runtime static pool status
    cases mallocCall_effect c size runtime static pool status with
    | fails _ hsame => exact h.congr hring hsame
    | takes slot _ hsame => exact h.insert hring hsame
  | free pointer runtime static status =>
    unfold CrtMalloc.step noteRelease
    dsimp only
    cases freeCall_ringEffect c pointer runtime static status with
    | keeps hkept hring hregistry =>
      rw [if_neg (by rw [hkept]; decide)]
      exact h.congr hring hregistry
    | remembers slot hone hslot hpointer hsize hbacking hsequence hnumber hring hregistry =>
      rw [if_pos hone]
      exact (h.erase hinv hslot hpointer hsize hbacking hsequence hnumber).congr hring hregistry

theorem Configured.ring {ranges : List ProtectedRange} (h : Configured ranges c) :
    c.ring = contextReset.ring := by
  induction h with
  | reset => rfl
  | accepted x _ _ ih => rw [addProtectedRange_ring, ih]
  | refused x _ _ ih => rw [addProtectedRange_ring, ih]

theorem ReachesReleasing.inv {ranges : List ProtectedRange}
    (h : ReachesReleasing ranges c history) : RegistryInv c ∧ ReleaseInv c history := by
  refine ⟨?_, ?_⟩
  · obtain ⟨outstanding, hreach⟩ := h.reach.noting (fun _ _ => none) noteOutstanding
    exact (Reaches.runInv hreach).registry
  · apply Runs.ReachNoting.invariant h
    · intro c hc
      have hring := hc.ring
      simp only [Context.ring, Prod.mk.injEq] at hring
      obtain ⟨hcount, hnext, -, hfrees⟩ := hring
      have hnone : ∀ x : ReleaseRecord, x ∉ [] := fun _ => List.not_mem_nil
      exact ⟨hcount ▸ .nil _, hnext, hfrees, fun x hx => absurd hx (hnone x),
        fun x hx => absurd hx (hnone x), fun x hx => absurd hx (hnone x), .nil⟩
    · intro c history op hreach hinv _
      obtain ⟨outstanding, hout⟩ := hreach.noting (fun _ _ => none) noteOutstanding
      exact hinv.step (Reaches.runInv hout).registry op

/-! ## The diagnostic of a second free -/

/-- The pointer is that of no live block. -/
def NotLive (c : Context) (pointer : Nat) : Prop :=
  ∀ i, (c.records i).occupied ≠ 0 → (c.records i).pointer ≠ pointer

/-- The pointer lies inside of no live block. -/
def NotInterior (c : Context) (pointer : Nat) : Prop :=
  ∀ i, (c.records i).occupied ≠ 0 →
    ¬ ((c.records i).pointer < pointer ∧
      pointer < (c.records i).pointer + (c.records i).requestedSize)

/-- The last release of the pointer is that of number `k`. -/
def Latest (history : List ReleaseRecord) (pointer k : Nat) : Prop :=
  ∃ h : k < history.length, history[k].pointer = pointer ∧
    ∀ j, (hj : j < history.length) → k < j → history[j].pointer ≠ pointer

/-- The call of `free` is diagnosed as a double free of the release, and the diagnostic is
recorded where there is room. -/
def DiagnosedAs (c : Context) (pointer runtime static status : Nat) (x : ReleaseRecord) : Prop :=
  let answer := freeCall c pointer runtime static status
  answer.1.failure = .doubleFree ∧ answer.1.allocationSequence = x.allocationSequence ∧
  answer.1.requestedSize = x.requestedSize ∧ answer.1.registrySlot = x.registrySlot ∧
  (c.freeDiagnostics.length < freeDiagnosticCapacity →
    answer.2.freeDiagnostics = c.freeDiagnostics ++ [answer.1])

/-- What the search for a release of the pointer asks of an entry. -/
def releaseOf (pointer : Nat) (x : ReleaseRecord) : Bool :=
  decide (x.state = recordFreed) && decide (x.pointer = pointer)

theorem findReleaseRecord_eq (hpointer : pointer ≠ 0) :
    findReleaseRecord c pointer = (List.finRange registryCapacity).find? fun i =>
      decide (i.val < c.releaseRecordCount) && releaseOf pointer (c.releaseRecords i) := by
  unfold findReleaseRecord releaseOf
  rw [if_neg hpointer]
  simp only [Bool.and_assoc]

theorem findRecord_none (h : NotLive c pointer) : findRecord c pointer = none := by
  unfold findRecord
  rw [List.find?_eq_none]
  intro i _ hfound
  simp only [Bool.and_eq_true, decide_eq_true_eq] at hfound
  exact h i hfound.1 hfound.2

theorem findLiveContainingRecord_none (h : NotInterior c pointer) :
    findLiveContainingRecord c pointer = none := by
  unfold findLiveContainingRecord
  split
  · rfl
  · rw [List.find?_eq_none]
    intro i _ hfound
    simp only [Bool.and_eq_true, decide_eq_true_eq] at hfound
    exact h i hfound.1.1.1.1.1 ⟨hfound.1.2, hfound.2⟩

/-- The call is diagnosed as a double free of the release that the search finds. -/
theorem freeCall_released {i : RecordSlot} (hpointer : pointer ≠ 0)
    (hvalid : registryValid c = true) (hlive : NotLive c pointer)
    (hinterior : NotInterior c pointer) (hfind : findReleaseRecord c pointer = some i)
    (runtime static status : Nat) :
    DiagnosedAs c pointer runtime static status (c.releaseRecords i) := by
  let c1 := { c with freeInvocationCount := inc64 c.freeInvocationCount }
  have hrecord : findRecord c1 pointer = none := findRecord_none hlive
  have hcontaining : findLiveContainingRecord c1 pointer = none :=
    findLiveContainingRecord_none hinterior
  have hrelease : findReleaseRecord c1 pointer = some i := hfind
  have hvalid1 : registryValid c1 = true := hvalid
  unfold DiagnosedAs freeCall
  dsimp only
  rw [if_neg hpointer, if_neg (not_not_intro hvalid1), hrecord]
  dsimp only
  unfold freeUnknown
  rw [hcontaining, hrelease]
  refine ⟨rfl, rfl, rfl, rfl, fun hroom => ?_⟩
  change (recordFreeDiagnostic _ _).freeDiagnostics = _
  unfold recordFreeDiagnostic
  exact congrArg Context.freeDiagnostics (if_pos hroom)

theorem ReleaseInv.releaseOf_iff (h : ReleaseInv c history) {j : Nat} (hj : j < history.length) :
    releaseOf pointer history[j] = true ↔ history[j].pointer = pointer := by
  unfold releaseOf
  rw [decide_eq_true (h.freed _ (List.getElem_mem hj)).1, Bool.true_and, decide_eq_true_eq]

/-- After any run the ring holds the last releases. A second free of a pointer that is still in
it is diagnosed by the last release of the pointer exactly if no other release of the pointer
is in an earlier slot. -/
theorem double_frees_are_diagnosed_iff {ranges : List ProtectedRange}
    (h : ReachesReleasing ranges c history) :
    Rings.Holds c.releaseRecords c.releaseRecordCount history ∧
    ∀ pointer runtime static status k, (hk : Kept registryCapacity history k) →
      NotLive c pointer → NotInterior c pointer → Latest history pointer k →
      (DiagnosedAs c pointer runtime static status hk.entry ↔
        ∀ j, (hj : Kept registryCapacity history j) → hj.entry.pointer = pointer →
          k % registryCapacity ≤ j % registryCapacity) := by
  obtain ⟨hinv, hreleases⟩ := h.inv
  have hring := hreleases.ring
  refine ⟨hring, fun pointer runtime static status k hk hlive hinterior hlatest => ?_⟩
  obtain ⟨_, hpointer, _⟩ := hlatest
  have hnonzero : pointer ≠ 0 := by
    rintro rfl
    exact (hreleases.freed _ (List.getElem_mem hk.1)).2 hpointer
  have hmatch : releaseOf pointer hk.entry = true :=
    (hreleases.releaseOf_iff hk.1).mpr hpointer
  have hfirst := hring.find?_iff (releaseOf pointer) hk hmatch
  rw [← findReleaseRecord_eq hnonzero] at hfirst
  have hplaces : (∀ j, (hj : Kept registryCapacity history j) →
        releaseOf pointer hj.entry = true →
        place registryCapacity k ≤ place registryCapacity j) ↔
      ∀ j, (hj : Kept registryCapacity history j) → hj.entry.pointer = pointer →
        k % registryCapacity ≤ j % registryCapacity :=
    forall_congr' fun j => forall_congr' fun hj =>
      imp_congr (hreleases.releaseOf_iff hj.1) Iff.rfl
  rw [← hplaces, ← hfirst]
  constructor
  · intro hdiagnosed
    -- some release of the pointer is found, and by its sequence it is the last one
    have hsome : (findReleaseRecord c pointer).isSome = true := by
      rw [findReleaseRecord_eq hnonzero, List.find?_isSome]
      refine ⟨place registryCapacity k, List.mem_finRange _, ?_⟩
      rw [decide_eq_true (hring.place_lt hk), hring.eq_entry hk, hmatch]
      rfl
    obtain ⟨i, hfind⟩ := Option.isSome_iff_exists.mp hsome
    have hfound := freeCall_released hnonzero hinv.valid hlive hinterior hfind runtime static status
    have hcount : i.val < c.releaseRecordCount := by
      rw [findReleaseRecord_eq hnonzero] at hfind
      have hp := List.find?_some hfind
      rw [Bool.and_eq_true, decide_eq_true_eq] at hp
      exact hp.1
    obtain ⟨j, hj, rfl⟩ := hring.exists_kept hcount
    rw [hring.eq_entry hj] at hfound
    have hsequence : hj.entry.allocationSequence = hk.entry.allocationSequence :=
      hfound.2.1.symm.trans hdiagnosed.2.1
    have hjk : j = k := by
      have hdistinct := List.pairwise_iff_getElem.mp hreleases.distinct
      rcases Nat.lt_trichotomy j k with hlt | heq | hlt
      · exact absurd hsequence (hdistinct j k hj.1 hk.1 hlt)
      · exact heq
      · exact absurd hsequence.symm (hdistinct k j hk.1 hj.1 hlt)
    rw [hfind, hjk]
  · intro hfind
    have hfound := freeCall_released hnonzero hinv.valid hlive hinterior hfind runtime static status
    rwa [hring.eq_entry hk] at hfound

/-! ## A block that is used twice -/

/-- The pool hands out one block a second time. -/
def reusedBlock : List Op :=
  [.malloc 100 0 0 ⟨0, 0x4000⟩ 0, .free 0x4000 0 0 0, .malloc 24 0 0 ⟨0, 0x4000⟩ 0,
    .free 0x4000 0 0 0]

/-- The context after some calls, with the releases. -/
def afterCalls (ops : List Op) : Context × List ReleaseRecord :=
  Runs.run (Runs.noting step noteRelease) (sampleStart, []) ops

theorem reaches_afterCalls (ops : List Op) :
    ReachesReleasing sampleRanges (afterCalls ops).1 (afterCalls ops).2 := by
  have hrun : ReachesReleasing sampleRanges (Runs.run step sampleStart ops) (afterCalls ops).2 :=
    Runs.ReachNoting.run (.start ⟨sampleStart_configured, rfl⟩) ops fun _ _ _ => trivial
  have hfst : (afterCalls ops).1 = Runs.run step sampleStart ops := Runs.run_noting_fst _ _
  rwa [hfst]

instance (c : Context) (pointer : Nat) : Decidable (NotLive c pointer) :=
  inferInstanceAs (Decidable (∀ _, _))

instance (c : Context) (pointer : Nat) : Decidable (NotInterior c pointer) :=
  inferInstanceAs (Decidable (∀ _, _))

/-- A third free of the block tells of its first release. -/
theorem second_release_is_not_found :
    ∃ c history, afterCalls reusedBlock = (c, history) ∧
      ReachesReleasing sampleRanges c history ∧ NotLive c 0x4000 ∧ NotInterior c 0x4000 ∧
      history.map (fun x => (x.pointer, x.allocationSequence, x.requestedSize)) =
        [(0x4000, 1, 100), (0x4000, 2, 24)] ∧
      (freeCall c 0x4000 0 0 0).1.allocationSequence = 1 ∧
      ∃ h : Kept registryCapacity history 1, Latest history 0x4000 1 ∧
        ¬ DiagnosedAs c 0x4000 0 0 0 h.entry := by
  have hreach := reaches_afterCalls reusedBlock
  have hdecided : NotLive (afterCalls reusedBlock).1 0x4000 ∧
      NotInterior (afterCalls reusedBlock).1 0x4000 ∧
      (afterCalls reusedBlock).2.map
        (fun x => (x.pointer, x.allocationSequence, x.requestedSize)) =
        [(0x4000, 1, 100), (0x4000, 2, 24)] ∧
      (freeCall (afterCalls reusedBlock).1 0x4000 0 0 0).1.allocationSequence = 1 := by
    decide +kernel
  generalize afterCalls reusedBlock = p at hreach hdecided
  obtain ⟨c, history⟩ := p
  obtain ⟨hlive, hinterior, hreleases, hsequence⟩ := hdecided
  have hlength := congrArg List.length hreleases
  rw [List.length_map] at hlength
  obtain ⟨x, y, rfl⟩ := List.length_eq_two.mp hlength
  simp only [List.map_cons, List.cons.injEq, Prod.mk.injEq] at hreleases
  obtain ⟨-, ⟨hpointer, hnumber, -⟩, -⟩ := id hreleases
  have hkept : Kept registryCapacity [x, y] 1 :=
    ⟨Nat.one_lt_two, (by decide : 2 ≤ 1 + registryCapacity)⟩
  refine ⟨c, [x, y], rfl, hreach, hlive, hinterior, ?_, hsequence, hkept,
    ⟨hkept.1, hpointer, fun j hj hlt => ?_⟩, fun hdiagnosed => ?_⟩
  · simpa only [List.map_cons, List.cons.injEq, Prod.mk.injEq] using hreleases
  · change j < 2 at hj
    omega
  · have heq := hsequence.symm.trans hdiagnosed.2.1
    change 1 = y.allocationSequence at heq
    rw [hnumber] at heq
    cases heq

/-- A second free of a block that was used once. -/
theorem single_release_is_found :
    ∃ c history, ReachesReleasing sampleRanges c history ∧
      ∃ h : Kept registryCapacity history 0,
        DiagnosedAs c 0x4000 0 0 0 h.entry := by
  have hreach := reaches_afterCalls [.malloc 100 0 0 ⟨0, 0x4000⟩ 0, .free 0x4000 0 0 0]
  have hdecided : NotLive (afterCalls [.malloc 100 0 0 ⟨0, 0x4000⟩ 0, .free 0x4000 0 0 0]).1
        0x4000 ∧
      NotInterior (afterCalls [.malloc 100 0 0 ⟨0, 0x4000⟩ 0, .free 0x4000 0 0 0]).1 0x4000 ∧
      (afterCalls [.malloc 100 0 0 ⟨0, 0x4000⟩ 0, .free 0x4000 0 0 0]).2.map (·.pointer) =
        [0x4000] := by
    decide +kernel
  generalize afterCalls [.malloc 100 0 0 ⟨0, 0x4000⟩ 0, .free 0x4000 0 0 0] = p
    at hreach hdecided
  obtain ⟨c, history⟩ := p
  obtain ⟨hlive, hinterior, hreleases⟩ := hdecided
  have hlength := congrArg List.length hreleases
  rw [List.length_map] at hlength
  obtain ⟨x, rfl⟩ := List.length_eq_one_iff.mp hlength
  have hpointer : x.pointer = 0x4000 := by simpa using hreleases
  have hkept : Kept registryCapacity [x] 0 :=
    ⟨Nat.zero_lt_one, (by decide : 1 ≤ 0 + registryCapacity)⟩
  have hlatest : Latest [x] 0x4000 0 := by
    refine ⟨hkept.1, hpointer, fun j hj hlt => ?_⟩
    change j < 1 at hj
    omega
  refine ⟨c, [x], hreach, hkept, ?_⟩
  refine ((double_frees_are_diagnosed_iff hreach).2 0x4000 0 0 0 0 hkept hlive hinterior
    hlatest).mpr fun j _ _ => ?_
  rw [Nat.zero_mod]
  exact Nat.zero_le _

end Gate4Harness.CrtMalloc
