-- The CRT heap and the pool behind it. A call of `malloc` or `free` makes a few calls
-- of the pool; here the pool keeps track of its blocks, and each block that is out is
-- the block of a live record or one that the pool refused to take back.
import Gate4Harness.CrtMallocLaws

namespace Gate4Harness.CrtMalloc

variable {c : Context}

/-! ## The calls of the pool -/

inductive PoolCall
  | allocatePool (size : Nat) (answer : PoolAnswer)
  | freePool (pointer status : Nat)
  deriving DecidableEq, Repr

/-- An answer of `allocate_pool` without the error bit comes with a block. -/
def PoolAnswer.givesBlock (answer : PoolAnswer) : Bool := decide (answer.status / 2 ^ 63 = 0)

/-- The checks that `malloc` makes before it asks the pool. -/
def asksPool (c : Context) (requestedSize : Nat) : Bool :=
  decide (mallocRefuses c requestedSize = none) && c.allocatePool && c.freePool &&
  (findFreeSlot c).isSome && decide (c.nextAllocationSequence ≠ uint64Max)

/-- What `gxos_crt_malloc_call` asks of the pool. Once it has a block, `should_rollback` is set
on every way out but the one that returns the block. -/
def mallocPoolCalls (c : Context) (requestedSize runtimeCallSite staticCallSite : Nat)
    (pool : PoolAnswer) (rollbackStatus : Nat) : List PoolCall :=
  if ¬ asksPool c requestedSize then []
  else if ¬ pool.givesBlock then [.allocatePool requestedSize pool]
  else if (mallocCall c requestedSize runtimeCallSite staticCallSite pool rollbackStatus).1 = 0 then
    [.allocatePool requestedSize pool, .freePool pool.pointer rollbackStatus]
  else [.allocatePool requestedSize pool]

/-- What `gxos_crt_free_call` asks of the pool. -/
def freePoolCalls (c : Context) (pointer runtimeCallSite staticCallSite status : Nat) :
    List PoolCall :=
  if (freeCall c pointer runtimeCallSite staticCallSite status).1.backingReleaseAttempted = 1 then
    [.freePool pointer status]
  else []

def poolCalls (c : Context) : Op → List PoolCall
  | .malloc size runtime static pool status => mallocPoolCalls c size runtime static pool status
  | .free pointer runtime static status => freePoolCalls c pointer runtime static status

/-! ## The pool -/

/-- The blocks that are out, each with its size. -/
abbrev Pool := Nat → Option Nat

def Pool.apply (blocks : Pool) : PoolCall → Pool
  | .allocatePool size answer =>
    if answer.givesBlock then Function.update blocks answer.pointer (some size) else blocks
  | .freePool pointer status => if status = 0 then Function.update blocks pointer none else blocks

/-- A block that the pool gives meets no block that is out. -/
def Conforms (blocks : Pool) : PoolCall → Prop
  | .allocatePool size answer => answer.givesBlock = true →
      ∀ pointer size', blocks pointer = some size' →
        Apart answer.pointer (answer.pointer + size) pointer (pointer + size')
  | .freePool _ _ => True

/-- `free_pool` is called for a block that is out. -/
def FreesBlock (blocks : Pool) : PoolCall → Prop
  | .allocatePool _ _ => True
  | .freePool pointer _ => (blocks pointer).isSome = true

/-- The heap with its pool, and the blocks that the pool refused to take back when `malloc`
rejected them. -/
structure Heap where
  context : Context
  blocks : Pool := fun _ => none
  stranded : List Nat := []

/-- The blocks whose rollback fails in a call. -/
def strandedBy (c : Context) : Op → List Nat
  | .malloc size runtime static pool status =>
    (mallocPoolCalls c size runtime static pool status).filterMap fun
      | .freePool pointer status => if status = 0 then none else some pointer
      | .allocatePool _ _ => none
  | .free _ _ _ _ => []

def Heap.step (w : Heap) (op : Op) : Heap :=
  { context := CrtMalloc.step w.context op
    blocks := (poolCalls w.context op).foldl Pool.apply w.blocks
    stranded := strandedBy w.context op ++ w.stranded }

/-! ## What one call asks of the pool -/

theorem mallocComplete_rollbacks (c : Context) (d : MallocDiagnostic) (failure : MallocFailure)
    (result : Nat) :
    (mallocComplete c d failure result).2.poolRollbackCount = c.poolRollbackCount := by
  unfold mallocComplete recordDiagnostic
  dsimp only
  split
  · split <;> rfl
  · split <;> rfl

/-- A block is given back, and counted so, or it is returned. -/
theorem mallocTake_rollbacks (c : Context) (d : MallocDiagnostic) (slot : RecordSlot)
    (base size status : Nat) :
    ((mallocTake c d slot base size status).1 = 0 ∧
      (mallocTake c d slot base size status).2.poolRollbackCount = inc64 c.poolRollbackCount) ∨
    ((mallocTake c d slot base size status).1 = base ∧ base ≠ 0 ∧
      (mallocTake c d slot base size status).2.poolRollbackCount = c.poolRollbackCount) := by
  unfold mallocTake
  split
  · exact .inl ⟨rfl, mallocComplete_rollbacks _ _ _ _⟩
  · rename_i hblock
    dsimp only
    split
    · refine .inl ⟨rfl, (mallocComplete_rollbacks _ _ _ _).trans ?_⟩
      split <;> rfl
    · split
      · exact .inl ⟨rfl, mallocComplete_rollbacks _ _ _ _⟩
      · split
        · exact .inl ⟨rfl, mallocComplete_rollbacks _ _ _ _⟩
        · exact .inr ⟨rfl, (blockRefused_none hblock).1, mallocComplete_rollbacks _ _ _ _⟩

/-- The call does not get a block, or it gets one and either gives it back or returns it. -/
theorem mallocCall_pool (c : Context) (size runtime static : Nat) (pool : PoolAnswer)
    (status : Nat) :
    ((asksPool c size && pool.givesBlock) = false ∧
      (mallocCall c size runtime static pool status).1 = 0 ∧
      (mallocCall c size runtime static pool status).2.poolRollbackCount = c.poolRollbackCount) ∨
    ((asksPool c size && pool.givesBlock) = true ∧
      (((mallocCall c size runtime static pool status).1 = 0 ∧
        (mallocCall c size runtime static pool status).2.poolRollbackCount =
          inc64 c.poolRollbackCount) ∨
      ((mallocCall c size runtime static pool status).1 = pool.pointer ∧ pool.pointer ≠ 0 ∧
        (mallocCall c size runtime static pool status).2.poolRollbackCount =
          c.poolRollbackCount))) := by
  have hrefuses : ∀ n, mallocRefuses { c with invocationCount := n } size = mallocRefuses c size :=
    fun _ => rfl
  have hslot : ∀ n, findFreeSlot { c with invocationCount := n } = findFreeSlot c := fun _ => rfl
  unfold mallocCall asksPool
  simp only [hrefuses, hslot]
  split
  · rename_i hno
    exact .inl ⟨by simp [hno], rfl, mallocComplete_rollbacks _ _ _ _⟩
  · rename_i failure _ hno
    exact .inl ⟨by simp [hno], rfl, mallocComplete_rollbacks _ _ _ _⟩
  · rename_i hargs
    split
    · rename_i hservice
      refine .inl ⟨?_, rfl, mallocComplete_rollbacks _ _ _ _⟩
      rcases hservice with hno | hno <;> simp [hno]
    · rename_i hservice
      simp only [not_or, Decidable.not_not] at hservice
      split
      · rename_i hfull
        exact .inl ⟨by simp [hfull], rfl, mallocComplete_rollbacks _ _ _ _⟩
      · rename_i slot hfree
        split
        · rename_i hseq
          exact .inl ⟨by simp [hseq], rfl, mallocComplete_rollbacks _ _ _ _⟩
        · rename_i hseq
          split
          · rename_i herror
            have hgives : pool.givesBlock = false := decide_eq_false herror
            exact .inl ⟨by simp [hgives], rfl, mallocComplete_rollbacks _ _ _ _⟩
          · rename_i herror
            have hgives : pool.givesBlock = true := decide_eq_true (Decidable.not_not.mp herror)
            refine .inr ⟨by simp [hargs, hservice, hfree, hseq, hgives], ?_⟩
            exact mallocTake_rollbacks _ _ _ _ _ _

/-- The counter of the rollbacks goes up just when `malloc` gives a block back. -/
theorem rollbacks_are_counted (c : Context) (size runtime static : Nat) (pool : PoolAnswer)
    (status : Nat) :
    (mallocCall c size runtime static pool status).2.poolRollbackCount =
      if .freePool pool.pointer status ∈ mallocPoolCalls c size runtime static pool status then
        inc64 c.poolRollbackCount
      else c.poolRollbackCount := by
  unfold mallocPoolCalls
  rcases mallocCall_pool c size runtime static pool status with ⟨hnone, hzero, hcount⟩ |
    ⟨hblock, hkept⟩
  · rw [hcount]
    by_cases hasks : asksPool c size = true
    · have herror : pool.givesBlock = false := by simpa [hasks] using hnone
      simp [hasks, herror]
    · simp [hasks]
  · simp only [Bool.and_eq_true] at hblock
    rcases hkept with ⟨hzero, hcount⟩ | ⟨hpointer, hne, hcount⟩
    · rw [hcount]
      simp [hblock, hzero]
    · rw [hcount]
      simp [hblock, hpointer, hne]

theorem freeUnknown_attempted (c : Context) (d : FreeDiagnostic) (pointer : Nat)
    (h : d.backingReleaseAttempted = 0) :
    (freeUnknown c d pointer).1.backingReleaseAttempted = 0 := by
  unfold freeUnknown
  split
  · exact h
  · split
    · exact h
    · exact h

/-- The pool is asked to take a block back only for a live record, and the call says if the
pool took it. -/
theorem freeCall_pool (c : Context) (pointer runtime static status : Nat) :
    (freeCall c pointer runtime static status).1.backingReleased =
      (if (freeCall c pointer runtime static status).1.backingReleaseAttempted = 1 ∧ status = 0
        then 1 else 0) ∧
    ((freeCall c pointer runtime static status).1.backingReleaseAttempted = 1 →
      ∃ i, (c.records i).occupied ≠ 0 ∧ (c.records i).pointer = pointer) := by
  unfold freeCall
  dsimp only
  split
  · exact ⟨rfl, nofun⟩
  · split
    · exact ⟨rfl, nofun⟩
    · split
      · rw [freeUnknown_released _ _ _ rfl, freeUnknown_attempted _ _ _ rfl]
        exact ⟨rfl, nofun⟩
      · rename_i slot hslot
        have hfound := findRecord_some hslot
        split
        · exact ⟨rfl, nofun⟩
        · split
          · exact ⟨rfl, nofun⟩
          · split
            · rename_i hstatus
              exact ⟨by simp [freeFails, hstatus], fun _ => ⟨slot, hfound⟩⟩
            · rename_i hstatus
              rw [Decidable.not_not] at hstatus
              exact ⟨by simp [hstatus], fun _ => ⟨slot, hfound⟩⟩

/-! ## The invariant -/

structure HeapInv (w : Heap) : Prop where
  registry : RegistryInv w.context
  live : ∀ i, (w.context.records i).occupied ≠ 0 →
    w.blocks (w.context.records i).pointer = some (w.context.records i).requestedSize
  stranded : ∀ pointer ∈ w.stranded, (w.blocks pointer).isSome = true ∧
    ∀ i, (w.context.records i).occupied ≠ 0 → (w.context.records i).pointer ≠ pointer
  blocks : ∀ pointer size, w.blocks pointer = some size → size ≠ 0 ∧
    (pointer ∈ w.stranded ∨
      ∃ i, (w.context.records i).occupied ≠ 0 ∧ (w.context.records i).pointer = pointer)

variable {w : Heap} {slot : RecordSlot} {base size : Nat}

/-- A block that conforms was not out before. -/
theorem HeapInv.fresh (h : HeapInv w) {pool : PoolAnswer}
    (hconforms : Conforms w.blocks (.allocatePool size pool)) (hblock : pool.givesBlock = true)
    (hsize : size ≠ 0) : w.blocks pool.pointer = none := by
  cases hout : w.blocks pool.pointer with
  | none => rfl
  | some size' =>
    have hsize' := (h.blocks _ _ hout).1
    have hapart := hconforms hblock _ _ hout
    unfold Apart at hapart
    omega

theorem HeapInv.same_registry (h : HeapInv w) {c' : Context}
    (hsame : c'.registry = w.context.registry) : HeapInv { w with context := c' } := by
  have hrecords : c'.records = w.context.records := by
    simp only [Context.registry, Prod.mk.injEq] at hsame
    exact hsame.1
  refine ⟨h.registry.congr hsame, ?_, ?_, ?_⟩
  · rw [hrecords]
    exact h.live
  · rw [hrecords]
    exact h.stranded
  · rw [hrecords]
    exact h.blocks

/-- A block that `malloc` rejected and the pool refused to take back. -/
theorem HeapInv.strand (h : HeapInv w) (hfresh : w.blocks base = none) (hsize : size ≠ 0) :
    HeapInv { w with
      blocks := Function.update w.blocks base (some size), stranded := base :: w.stranded } := by
  have hother : ∀ i, (w.context.records i).occupied ≠ 0 →
      (w.context.records i).pointer ≠ base := by
    rintro i hi rfl
    rw [h.live i hi] at hfresh
    cases hfresh
  refine ⟨h.registry, ?_, ?_, ?_⟩
  · intro i hi
    dsimp only
    rw [Function.update_of_ne (hother i hi)]
    exact h.live i hi
  · intro pointer hin
    by_cases hp : pointer = base
    · subst hp
      exact ⟨by simp, hother⟩
    · have hold := h.stranded pointer (by simpa [hp] using hin)
      refine ⟨?_, hold.2⟩
      dsimp only
      rw [Function.update_of_ne hp]
      exact hold.1
  · intro pointer size' hout
    by_cases hp : pointer = base
    · subst hp
      simp only [Function.update_self, Option.some.injEq] at hout
      exact ⟨hout ▸ hsize, .inl List.mem_cons_self⟩
    · dsimp only at hout
      rw [Function.update_of_ne hp] at hout
      obtain ⟨hne, hown⟩ := h.blocks pointer size' hout
      exact ⟨hne, hown.imp_left (List.mem_cons_of_mem _)⟩

/-- A block that `malloc` returns. -/
theorem HeapInv.take (h : HeapInv w) (hfresh : w.blocks base = none)
    (htakes : Takes w.context slot base size) :
    HeapInv { w with
      context := mallocInsert w.context slot base size
      blocks := Function.update w.blocks base (some size) } := by
  have hkept : ∀ i, i ≠ slot →
      (mallocInsert w.context slot base size).records i = w.context.records i :=
    fun i hi => Function.update_of_ne hi _ _
  have hslot : ∀ i, (w.context.records i).occupied ≠ 0 → i ≠ slot := by
    rintro i hi rfl
    exact hi htakes.empty
  refine ⟨htakes.keeps h.registry, ?_, ?_, ?_⟩
  · intro i hi
    by_cases his : i = slot
    · subst his
      simp [mallocInsert]
    · dsimp only at hi ⊢
      rw [hkept i his] at hi ⊢
      rw [Function.update_of_ne]
      · exact h.live i hi
      · intro hp
        rw [← hp, h.live i hi] at hfresh
        cases hfresh
  · intro pointer hin
    obtain ⟨hsome, hother⟩ := h.stranded pointer hin
    have hp : pointer ≠ base := by
      rintro rfl
      rw [hfresh] at hsome
      cases hsome
    refine ⟨?_, ?_⟩
    · dsimp only
      rw [Function.update_of_ne hp]
      exact hsome
    · intro i hi
      by_cases his : i = slot
      · subst his
        simpa [mallocInsert] using hp.symm
      · dsimp only at hi ⊢
        rw [hkept i his] at hi ⊢
        exact hother i hi
  · intro pointer size' hout
    by_cases hp : pointer = base
    · subst hp
      simp only [Function.update_self, Option.some.injEq] at hout
      refine ⟨hout ▸ htakes.nonempty, .inr ⟨slot, ?_, ?_⟩⟩
      · simp [mallocInsert]
      · simp [mallocInsert]
    · dsimp only at hout
      rw [Function.update_of_ne hp] at hout
      obtain ⟨hne, hown⟩ := h.blocks pointer size' hout
      refine ⟨hne, hown.imp_right ?_⟩
      rintro ⟨i, hi, hpointer⟩
      refine ⟨i, ?_, ?_⟩
      · rw [hkept i (hslot i hi)]
        exact hi
      · rw [hkept i (hslot i hi)]
        exact hpointer

/-- A block that `free` gives back. -/
theorem HeapInv.release (h : HeapInv w) (hslot : (w.context.records slot).occupied ≠ 0) :
    HeapInv { w with
      context := freeErase w.context slot
      blocks := Function.update w.blocks (w.context.records slot).pointer none } := by
  have hkept : ∀ i, i ≠ slot → (freeErase w.context slot).records i = w.context.records i :=
    fun i hi => Function.update_of_ne hi _ _
  have hcleared : ((freeErase w.context slot).records slot).occupied = 0 := by
    simp [freeErase]
  refine ⟨freeErase_keeps h.registry hslot, ?_, ?_, ?_⟩
  · intro i hi
    have his : i ≠ slot := by
      rintro rfl
      exact hi hcleared
    dsimp only at hi ⊢
    rw [hkept i his] at hi ⊢
    rw [Function.update_of_ne]
    · exact h.live i hi
    · -- two live records are apart, so their pointers differ
      have hapart := (h.registry.apart i slot his hi hslot).1
      have hsize := (h.registry.records i hi).size
      have hsize' := (h.registry.records slot hslot).size
      unfold RecordsApart Apart at hapart
      omega
  · intro pointer hin
    obtain ⟨hsome, hother⟩ := h.stranded pointer hin
    refine ⟨?_, ?_⟩
    · dsimp only
      rw [Function.update_of_ne (hother slot hslot).symm]
      exact hsome
    · intro i hi
      have his : i ≠ slot := by
        rintro rfl
        exact hi hcleared
      dsimp only at hi ⊢
      rw [hkept i his] at hi ⊢
      exact hother i hi
  · intro pointer size' hout
    by_cases hp : pointer = (w.context.records slot).pointer
    · rw [hp] at hout
      simp at hout
    · dsimp only at hout
      rw [Function.update_of_ne hp] at hout
      obtain ⟨hne, hown⟩ := h.blocks pointer size' hout
      refine ⟨hne, hown.imp_right ?_⟩
      rintro ⟨i, hi, hpointer⟩
      have his : i ≠ slot := by
        rintro rfl
        exact hp hpointer.symm
      exact ⟨i, by rw [hkept i his]; exact hi, by rw [hkept i his]; exact hpointer⟩

/-! ## Runs -/

/-- The pool conforms in every call that the operation makes. -/
def PoolConforms (w : Heap) (op : Op) : Prop :=
  Runs.Along Pool.apply Conforms w.blocks (poolCalls w.context op)

/-- Every block that the operation gives back is out. -/
def FreesBlocks (w : Heap) (op : Op) : Prop :=
  Runs.Along Pool.apply FreesBlock w.blocks (poolCalls w.context op)

theorem asksPool_size (h : asksPool c size = true) : size ≠ 0 := by
  unfold asksPool at h
  simp only [Bool.and_eq_true, decide_eq_true_eq] at h
  exact (mallocRefuses_none h.1.1.1.1).1

theorem HeapInv.malloc (h : HeapInv w) (size runtime static : Nat) (pool : PoolAnswer)
    (status : Nat) (hconforms : PoolConforms w (.malloc size runtime static pool status)) :
    HeapInv (w.step (.malloc size runtime static pool status)) ∧
    FreesBlocks w (.malloc size runtime static pool status) := by
  have heffect := mallocCall_effect w.context size runtime static pool status
  have hcalls : poolCalls w.context (.malloc size runtime static pool status) =
      mallocPoolCalls w.context size runtime static pool status := rfl
  unfold PoolConforms at hconforms
  unfold FreesBlocks Heap.step strandedBy CrtMalloc.step
  rw [hcalls] at hconforms ⊢
  dsimp only
  rcases mallocCall_pool w.context size runtime static pool status with ⟨hnone, hzero, -⟩ |
    ⟨hblock, ⟨hzero, -⟩ | ⟨hpointer, hne, -⟩⟩
  · -- no block
    have hsame : (mallocCall w.context size runtime static pool status).2.registry =
        w.context.registry := by
      rcases heffect with ⟨-, hsame⟩ | ⟨slot, htakes, -⟩
      · exact hsame
      · exact absurd hzero htakes.pointer
    unfold mallocPoolCalls
    by_cases hasks : asksPool w.context size = true
    · have herror : pool.givesBlock = false := by simpa [hasks] using hnone
      simp only [hasks, herror, not_true_eq_false, if_false, Bool.false_eq_true, not_false_eq_true,
        if_true, List.foldl_cons, List.foldl_nil, Pool.apply, List.filterMap_cons,
        List.filterMap_nil, List.nil_append]
      exact ⟨h.same_registry hsame, trivial, trivial⟩
    · simp only [hasks]
      exact ⟨h.same_registry hsame, trivial⟩
  · -- a block that is given back
    have hsame : (mallocCall w.context size runtime static pool status).2.registry =
        w.context.registry := by
      rcases heffect with ⟨-, hsame⟩ | ⟨slot, htakes, -⟩
      · exact hsame
      · exact absurd hzero htakes.pointer
    rw [Bool.and_eq_true] at hblock
    have hcalls' : mallocPoolCalls w.context size runtime static pool status =
        [.allocatePool size pool, .freePool pool.pointer status] := by
      simp [mallocPoolCalls, hblock, hzero]
    rw [hcalls'] at hconforms ⊢
    have hsize := asksPool_size hblock.1
    have hfresh := h.fresh hconforms.1 hblock.2 hsize
    have hout : FreesBlock (Pool.apply w.blocks (.allocatePool size pool))
        (.freePool pool.pointer status) := by
      simp [FreesBlock, Pool.apply, hblock.2]
    refine ⟨?_, trivial, hout, trivial⟩
    by_cases hstatus : status = 0
    · subst hstatus
      have hblocks : Function.update (Function.update w.blocks pool.pointer (some size))
          pool.pointer none = w.blocks := by
        rw [Function.update_idem, ← hfresh, Function.update_eq_self]
      simp only [List.foldl_cons, List.foldl_nil, Pool.apply, hblock.2, if_true, hblocks,
        List.filterMap_cons, List.filterMap_nil, List.nil_append]
      exact h.same_registry hsame
    · simp only [List.foldl_cons, List.foldl_nil, Pool.apply, hblock.2, hstatus, if_true, if_false,
        List.filterMap_cons, List.filterMap_nil, List.cons_append, List.nil_append]
      exact (h.strand hfresh hsize).same_registry hsame
  · -- a block that is returned
    rw [Bool.and_eq_true] at hblock
    have hcalls' : mallocPoolCalls w.context size runtime static pool status =
        [.allocatePool size pool] := by
      simp [mallocPoolCalls, hblock, hpointer, hne]
    rw [hcalls'] at hconforms ⊢
    refine ⟨?_, trivial, trivial⟩
    have hfresh := h.fresh hconforms.1 hblock.2 (asksPool_size hblock.1)
    simp only [List.foldl_cons, List.foldl_nil, Pool.apply, hblock.2, if_true, List.filterMap_cons,
      List.filterMap_nil, List.nil_append]
    rcases heffect with ⟨hzero, -⟩ | ⟨slot, htakes, hsame⟩
    · exact absurd (hpointer.symm.trans hzero) hne
    · rw [hpointer] at htakes hsame
      exact (h.take hfresh htakes).same_registry hsame

theorem HeapInv.free (h : HeapInv w) (pointer runtime static status : Nat) :
    HeapInv (w.step (.free pointer runtime static status)) ∧
    FreesBlocks w (.free pointer runtime static status) := by
  obtain ⟨hreleased, hfound⟩ := freeCall_pool w.context pointer runtime static status
  have hcalls : poolCalls w.context (.free pointer runtime static status) =
      freePoolCalls w.context pointer runtime static status := rfl
  have heffect := freeCall_effect w.context pointer runtime static status
  unfold FreesBlocks Heap.step strandedBy CrtMalloc.step
  rw [hcalls]
  unfold freePoolCalls
  by_cases hattempt :
      (freeCall w.context pointer runtime static status).1.backingReleaseAttempted = 1
  · obtain ⟨i, hi, hpointer⟩ := hfound hattempt
    have hout : (w.blocks pointer).isSome = true := by
      rw [← hpointer, h.live i hi]
      rfl
    simp only [hattempt, if_true, List.foldl_cons, List.foldl_nil, Pool.apply, List.nil_append]
    refine ⟨?_, hout, trivial⟩
    by_cases hstatus : status = 0
    · rw [if_pos ⟨hattempt, hstatus⟩] at hreleased
      rw [if_pos hstatus]
      rcases heffect with ⟨hzero, -⟩ | ⟨slot, -, hslot, rfl, hsame⟩
      · rw [hreleased] at hzero
        cases hzero
      · exact (h.release hslot).same_registry hsame
    · rw [if_neg fun hno => hstatus hno.2] at hreleased
      rw [if_neg hstatus]
      rcases heffect with ⟨-, hsame⟩ | ⟨slot, hone, -⟩
      · exact h.same_registry hsame
      · rw [hreleased] at hone
        cases hone
  · rw [if_neg fun hno => hattempt hno.1] at hreleased
    simp only [hattempt, if_false, List.foldl_nil, List.nil_append]
    refine ⟨?_, trivial⟩
    rcases heffect with ⟨-, hsame⟩ | ⟨slot, hone, -⟩
    · exact h.same_registry hsame
    · rw [hreleased] at hone
      cases hone

theorem HeapInv.step (h : HeapInv w) {op : Op} (hconforms : PoolConforms w op) :
    HeapInv (w.step op) ∧ FreesBlocks w op := by
  cases op with
  | malloc size runtime static pool status => exact h.malloc _ _ _ _ _ hconforms
  | free pointer runtime static status => exact h.free _ _ _ _

/-- A configured context, and a pool with no block out. -/
def FreshHeap (w : Heap) : Prop :=
  ∃ ranges c, Configured ranges c ∧ w = { context := c }

theorem FreshHeap.inv (h : FreshHeap w) : HeapInv w := by
  obtain ⟨ranges, c, hc, rfl⟩ := h
  obtain ⟨hinv, hempty, -⟩ := hc.keeps
  exact ⟨hinv, fun i hi => absurd (hempty i) hi, nofun, nofun⟩

/-- The second block is in a protected range, and the pool does not take it back. -/
def samplePoolOps : List Op :=
  [.malloc 100 0 0 ⟨0, 0x4000⟩ 0, .malloc 24 0 0 ⟨0, 0x1ff8⟩ 7, .free 0x4008 0 0 0,
    .malloc 24 0 0 ⟨2 ^ 63 + 9, 0⟩ 0, .free 0x4000 0 0 0]

def sampleAfter (n : Nat) : Heap :=
  Runs.run Heap.step { context := sampleStart } (samplePoolOps.take n)

end Gate4Harness.CrtMalloc
