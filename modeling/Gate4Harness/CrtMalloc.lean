-- The CRT heap registry (crt_malloc.c): `malloc` and `free` over a firmware pool that
-- is not trusted. A null context makes every function return at once and is left
-- out, and so are the call sites that the entry stubs compute.
import Mathlib.Algebra.GroupWithZero.Nat
import Mathlib.Data.Fintype.Basic
import Mathlib.Logic.Function.Basic
import Mathlib.Tactic.Common

namespace Gate4Harness.CrtMalloc

/-! ## Limits and codes -/

def efiLoaderData : Nat := 4
def maxRequest : Nat := 0xC8000
abbrev registryCapacity : Nat := 64
abbrev maxProtectedRanges : Nat := 8
def maxDiagnostics : Nat := 256
def freeDiagnosticCapacity : Nat := 64
def noSlot : Nat := 0xFFFFFFFF
def noLiveCount : Nat := 0xFFFFFFFF

def recordLive : Nat := 1
def recordFreed : Nat := 2
def ownerCrt : Nat := 1
def classPersistentPool : Nat := 1

/-- `UINT64_MAX`, and `UINTPTR_MAX` too. -/
def uint64Max : Nat := 0xFFFFFFFFFFFFFFFF

abbrev RecordSlot := Fin registryCapacity

inductive MallocFailure
  | none
  | nullContext
  | malformedRegistry
  | invalidProtectedRange
  | zeroSize
  | notUintn
  | sizeLimit
  | bootServicesUnavailable
  | poolServiceUnavailable
  | metadataExhausted
  | poolAllocation
  | nullSuccess
  | unaligned
  | rangeOverflow
  | protectedOverlap
  | existingOverlap
  | duplicatePointer
  | sequenceExhausted
  | accountingOverflow
  deriving DecidableEq, Repr

inductive FreeFailure
  | none
  | nullContext
  | malformedRegistry
  | backingServiceUnavailable
  | backingRelease
  | interiorPointer
  | unknownPointer
  | doubleFree
  | accounting
  deriving DecidableEq, Repr

/-! ## The records -/

structure ProtectedRange where
  base : Nat := 0
  limit : Nat := 0
  kind : Nat := 0

structure Record where
  pointer : Nat := 0
  requestedSize : Nat := 0
  backingSize : Nat := 0
  allocationSequence : Nat := 0
  occupied : Nat := 0
  state : Nat := 0
  owner : Nat := 0
  allocationClass : Nat := 0

structure ReleaseRecord where
  pointer : Nat := 0
  requestedSize : Nat := 0
  backingSize : Nat := 0
  allocationSequence : Nat := 0
  releaseSequence : Nat := 0
  registrySlot : Nat := 0
  state : Nat := 0

structure MallocDiagnostic where
  invocationNumber : Nat := 0
  staticCallSite : Nat := 0
  runtimeCallSite : Nat := 0
  requestedSize : Nat := 0
  liveCountBefore : Nat := 0
  registrySlot : Nat := 0
  poolServiceAvailable : Nat := 0
  allocatePoolStatus : Nat := 0
  returnedPointer : Nat := 0
  alignmentMod8 : Nat := 0
  alignmentMod16 : Nat := 0
  allocationRangeBase : Nat := 0
  allocationRangeEnd : Nat := 0
  overlapValidation : Nat := 0
  liveCountAfter : Nat := 0
  rollbackCount : Nat := 0
  rollbackStatus : Nat := 0
  returnValue : Nat := 0
  failure : MallocFailure := .none

structure FreeDiagnostic where
  invocationNumber : Nat := 0
  staticCallSite : Nat := 0
  runtimeCallSite : Nat := 0
  pointer : Nat := 0
  liveCountBefore : Nat := 0
  liveCountAfter : Nat := 0
  registrySlot : Nat := 0
  recordStateBefore : Nat := 0
  recordStateAfter : Nat := 0
  allocationSequence : Nat := 0
  requestedSize : Nat := 0
  backingSize : Nat := 0
  owner : Nat := 0
  allocationClass : Nat := 0
  totalRequestedBytesBefore : Nat := 0
  totalRequestedBytesAfter : Nat := 0
  largestRequestBefore : Nat := 0
  largestRequestAfter : Nat := 0
  accountingGenerationBefore : Nat := 0
  accountingGenerationAfter : Nat := 0
  backingReleaseStatus : Nat := 0
  backingReleaseAttempted : Nat := 0
  backingReleased : Nat := 0
  failure : FreeFailure := .none

/-- The context. The two pool callbacks are given by whether they are set; what they
answer is an argument of the call that asks them. -/
structure Context where
  bootServices : Nat := 0
  bootServicesAvailable : Nat := 0
  allocatePool : Bool := false
  freePool : Bool := false
  protectedRangeCount : Nat := 0
  protectedRanges : Fin maxProtectedRanges → ProtectedRange := fun _ => {}
  liveCount : Nat := 0
  totalRequestedBytes : Nat := 0
  largestRequest : Nat := 0
  maxLiveAllocationCount : Nat := 0
  allocationFailureCount : Nat := 0
  metadataExhaustionCount : Nat := 0
  duplicatePointerRejectionCount : Nat := 0
  poolRollbackCount : Nat := 0
  invocationCount : Nat := 0
  nextAllocationSequence : Nat := 0
  accountingGeneration : Nat := 0
  freeInvocationCount : Nat := 0
  successfulFreeCount : Nat := 0
  nullFreeCount : Nat := 0
  invalidFreeCount : Nat := 0
  doubleFreeCount : Nat := 0
  releaseRecordCount : Nat := 0
  nextReleaseRecordSlot : Nat := 0
  diagnosticOverflowCount : Nat := 0
  freeDiagnosticOverflowCount : Nat := 0
  records : RecordSlot → Record := fun _ => {}
  releaseRecords : RecordSlot → ReleaseRecord := fun _ => {}
  /-- The first `diagnostic_count` entries of the array of diagnostics. -/
  diagnostics : List MallocDiagnostic := []
  freeDiagnostics : List FreeDiagnostic := []

/-- A 64-bit counter that goes up by one. -/
def inc64 (n : Nat) : Nat := (n + 1) % 2 ^ 64

/-- Unsigned 64-bit addition. -/
def add64 (a b : Nat) : Nat := (a + b) % 2 ^ 64

/-! ## Validation -/

def rangesOverlap (leftBase leftEnd rightBase rightEnd : Nat) : Bool :=
  decide (leftBase < rightEnd) && decide (rightBase < leftEnd)

def rangeValid (base limit : Nat) : Bool := decide (base ≠ 0) && decide (base < limit)

def contextRangesValid (c : Context) : Bool :=
  decide (c.protectedRangeCount ≤ maxProtectedRanges) &&
  (List.finRange maxProtectedRanges).all fun k =>
    decide (c.protectedRangeCount ≤ k.val) ||
      rangeValid (c.protectedRanges k).base (c.protectedRanges k).limit

/-- The end of the bytes of a record, in 64 bits. -/
def Record.limit (x : Record) : Nat := add64 x.pointer x.requestedSize

/-- The checks of one occupied record by itself. -/
def recordSound (x : Record) : Bool :=
  decide (x.pointer ≠ 0) && decide (x.requestedSize ≠ 0) &&
  decide (x.backingSize = x.requestedSize) && decide (x.requestedSize ≤ maxRequest) &&
  decide (x.requestedSize ≤ uint64Max) && decide (x.pointer % 8 = 0) &&
  decide (x.allocationSequence ≠ 0) && decide (x.occupied = 1) && decide (x.state = recordLive) &&
  decide (x.owner = ownerCrt) && decide (x.allocationClass = classPersistentPool) &&
  decide (x.pointer ≤ x.limit)

/-- The check of an occupied record against one that comes later in the table. -/
def recordsApart (x other : Record) : Bool :=
  decide (other.occupied = 0) ||
  (decide (other.pointer ≠ x.pointer) &&
    decide (x.allocationSequence ≠ other.allocationSequence) &&
    !rangesOverlap x.pointer x.limit other.pointer other.limit)

/-- What the loop of `registry_valid` counts. -/
structure Tally where
  liveCount : Nat := 0
  totalRequestedBytes : Nat := 0
  largestRequest : Nat := 0

/-- One turn of the loop: `none` is the early return. -/
def tallyRecord (c : Context) (acc : Option Tally) (i : RecordSlot) : Option Tally :=
  match acc with
  | none => none
  | some t =>
    if (c.records i).occupied > 1 then none
    else if (c.records i).occupied = 0 then some t
    else if ¬ recordSound (c.records i) then none
    else if ¬ (List.finRange registryCapacity).all (fun j =>
        decide (j ≤ i) || recordsApart (c.records i) (c.records j)) then none
    else if t.totalRequestedBytes > uint64Max - (c.records i).requestedSize then none
    else
      some
        { liveCount := t.liveCount + 1
          totalRequestedBytes := t.totalRequestedBytes + (c.records i).requestedSize
          largestRequest :=
            if (c.records i).requestedSize > t.largestRequest then (c.records i).requestedSize
            else t.largestRequest }

def registryValid (c : Context) : Bool :=
  if c.nextAllocationSequence = 0 then false
  else if c.liveCount > registryCapacity ∨ c.releaseRecordCount > registryCapacity ∨
      c.nextReleaseRecordSlot ≥ registryCapacity then false
  else
    match (List.finRange registryCapacity).foldl (tallyRecord c) (some {}) with
    | none => false
    | some t =>
      decide (t.liveCount = c.liveCount) &&
      decide (t.totalRequestedBytes = c.totalRequestedBytes) &&
      decide (t.largestRequest = c.largestRequest)

/-! ## Set up -/

/-- `gxos_crt_malloc_context_reset` -/
def contextReset : Context := { nextAllocationSequence := 1, accountingGeneration := 1 }

def addProtectedRange (c : Context) (base limit kind : Nat) : Int × Context :=
  if ¬ rangeValid base limit then (-1, c)
  else if h : c.protectedRangeCount < maxProtectedRanges then
    (0, { c with
      protectedRanges := Function.update c.protectedRanges ⟨c.protectedRangeCount, h⟩
        { base, limit, kind }
      protectedRangeCount := c.protectedRangeCount + 1 })
  else (-1, c)

/-! ## Lookup -/

def findLiveContainingRecord (c : Context) (pointer : Nat) : Option RecordSlot :=
  if pointer = 0 then none
  else
    (List.finRange registryCapacity).find? fun i =>
      let x := c.records i
      decide (x.occupied ≠ 0) && decide (x.pointer ≠ pointer) && decide (x.requestedSize ≠ 0) &&
      decide (x.pointer ≤ uint64Max - x.requestedSize) && decide (pointer > x.pointer) &&
      decide (pointer < x.pointer + x.requestedSize)

def findReleaseRecord (c : Context) (pointer : Nat) : Option RecordSlot :=
  if pointer = 0 then none
  else
    (List.finRange registryCapacity).find? fun i =>
      decide (i.val < c.releaseRecordCount) &&
      decide ((c.releaseRecords i).state = recordFreed) &&
      decide ((c.releaseRecords i).pointer = pointer)

def findFreeSlot (c : Context) : Option RecordSlot :=
  (List.finRange registryCapacity).find? fun i => decide ((c.records i).occupied = 0)

/-! ## Malloc -/

def recordDiagnostic (c : Context) (d : MallocDiagnostic) : Context :=
  if c.diagnostics.length < maxDiagnostics then { c with diagnostics := c.diagnostics ++ [d] }
  else { c with diagnosticOverflowCount := (c.diagnosticOverflowCount + 1) % 2 ^ 32 }

/-- The label `complete` of the call. -/
def mallocComplete (c : Context) (d : MallocDiagnostic) (failure : MallocFailure)
    (result : Nat) : Nat × Context :=
  let c1 :=
    if result = 0 then { c with allocationFailureCount := inc64 c.allocationFailureCount } else c
  let after := if d.liveCountAfter = 0 ∧ c1.liveCount ≠ 0 then c1.liveCount else d.liveCountAfter
  (result, recordDiagnostic c1 { d with failure, liveCountAfter := after })

/-- The label `rollback`: the block goes back to the pool, which answers `status`. -/
def mallocRollback (c : Context) (d : MallocDiagnostic) (failure : MallocFailure)
    (status : Nat) : Nat × Context :=
  mallocComplete { c with poolRollbackCount := inc64 c.poolRollbackCount }
    { d with
      rollbackCount := 1
      rollbackStatus := if c.freePool then status else d.rollbackStatus } failure 0

/-- What `allocate_pool` answers. -/
structure PoolAnswer where
  status : Nat
  pointer : Nat
  deriving DecidableEq, Repr

/-- The checks of the arguments and of the context. -/
def mallocRefuses (c : Context) (requestedSize : Nat) : Option MallocFailure :=
  if ¬ registryValid c then some .malformedRegistry
  else if ¬ contextRangesValid c then some .invalidProtectedRange
  else if requestedSize = 0 then some .zeroSize
  else if requestedSize > uint64Max then some .notUintn
  else if requestedSize > maxRequest then some .sizeLimit
  else if c.bootServices = 0 ∨ c.bootServicesAvailable = 0 then some .bootServicesUnavailable
  else none

/-- The checks of the block itself. -/
def blockRefused (base requestedSize : Nat) : Option MallocFailure :=
  if base = 0 then some .nullSuccess
  else if base % 8 ≠ 0 then some .unaligned
  else if base > uint64Max - requestedSize then some .rangeOverflow
  else none

/-- The block against the protected ranges and the live records, in the order of the loops. -/
def blockOverlaps (c : Context) (base limit : Nat) : Option MallocFailure :=
  if (List.finRange maxProtectedRanges).any (fun k => decide (k.val < c.protectedRangeCount) &&
      rangesOverlap base limit (c.protectedRanges k).base (c.protectedRanges k).limit) then
    some .protectedOverlap
  else
    (List.finRange registryCapacity).findSome? fun i =>
      if (c.records i).occupied = 0 then none
      else if (c.records i).pointer = base then some .duplicatePointer
      else if rangesOverlap base limit (c.records i).pointer (c.records i).limit then
        some .existingOverlap
      else none

/-- The new record and the sums with it. -/
def mallocInsert (c : Context) (slot : RecordSlot) (base requestedSize : Nat) : Context :=
  { c with
    records := Function.update c.records slot
      { pointer := base, requestedSize, backingSize := requestedSize,
        allocationSequence := c.nextAllocationSequence, occupied := 1, state := recordLive,
        owner := ownerCrt, allocationClass := classPersistentPool }
    nextAllocationSequence := c.nextAllocationSequence + 1
    liveCount := c.liveCount + 1
    totalRequestedBytes := c.totalRequestedBytes + requestedSize
    largestRequest := if requestedSize > c.largestRequest then requestedSize else c.largestRequest
    maxLiveAllocationCount :=
      if c.liveCount + 1 > c.maxLiveAllocationCount then c.liveCount + 1
      else c.maxLiveAllocationCount
    accountingGeneration := c.accountingGeneration + 1 }

/-- The part of the call after the pool answered with success. -/
def mallocTake (c : Context) (d : MallocDiagnostic) (slot : RecordSlot) (base requestedSize : Nat)
    (rollbackStatus : Nat) : Nat × Context :=
  match blockRefused base requestedSize with
  | some failure => mallocRollback c d failure rollbackStatus
  | none =>
    let limit := base + requestedSize
    let d1 := { d with allocationRangeBase := base, allocationRangeEnd := limit }
    match blockOverlaps c base limit with
    | some failure =>
      let c1 :=
        if failure = .duplicatePointer then
          { c with duplicatePointerRejectionCount := inc64 c.duplicatePointerRejectionCount }
        else c
      mallocRollback c1 d1 failure rollbackStatus
    | none =>
      let d2 := { d1 with overlapValidation := 1 }
      if c.totalRequestedBytes > uint64Max - requestedSize then
        mallocRollback c d2 .accountingOverflow rollbackStatus
      else if c.accountingGeneration = uint64Max then
        mallocRollback c d2 .accountingOverflow rollbackStatus
      else
        let c1 := mallocInsert c slot base requestedSize
        mallocComplete c1 { d2 with liveCountAfter := c1.liveCount, returnValue := base } .none base

/-- `gxos_crt_malloc_call`. The reply is the pointer that it returns. -/
def mallocCall (c : Context) (requestedSize runtimeCallSite staticCallSite : Nat)
    (pool : PoolAnswer) (rollbackStatus : Nat) : Nat × Context :=
  let c := { c with invocationCount := inc64 c.invocationCount }
  let d : MallocDiagnostic :=
    { invocationNumber := c.invocationCount, staticCallSite, runtimeCallSite, requestedSize,
      registrySlot := noSlot, liveCountBefore := c.liveCount }
  match mallocRefuses c requestedSize with
  | some .malformedRegistry =>
    mallocComplete c { d with liveCountBefore := noLiveCount } .malformedRegistry 0
  | some failure => mallocComplete c d failure 0
  | none =>
    if ¬ c.allocatePool ∨ ¬ c.freePool then mallocComplete c d .poolServiceUnavailable 0
    else
      let d1 := { d with poolServiceAvailable := 1 }
      match findFreeSlot c with
      | none =>
        mallocComplete { c with metadataExhaustionCount := inc64 c.metadataExhaustionCount } d1
          .metadataExhausted 0
      | some slot =>
        let d2 := { d1 with registrySlot := slot.val }
        if c.nextAllocationSequence = uint64Max then mallocComplete c d2 .sequenceExhausted 0
        else
          let d3 := { d2 with allocatePoolStatus := pool.status }
          if pool.status / 2 ^ 63 ≠ 0 then mallocComplete c d3 .poolAllocation 0
          else
            let d4 := { d3 with returnedPointer := pool.pointer
                                alignmentMod8 := pool.pointer % 8
                                alignmentMod16 := pool.pointer % 16 }
            mallocTake c d4 slot pool.pointer requestedSize rollbackStatus

/-! ## Free -/

def recordFreeDiagnostic (c : Context) (d : FreeDiagnostic) : Context :=
  if c.freeDiagnostics.length < freeDiagnosticCapacity then
    { c with freeDiagnostics := c.freeDiagnostics ++ [d] }
  else { c with freeDiagnosticOverflowCount := (c.freeDiagnosticOverflowCount + 1) % 2 ^ 32 }

def recomputeLargest (records : RecordSlot → Record) : Nat :=
  (List.finRange registryCapacity).foldl (fun largest i =>
    if (records i).occupied ≠ 0 ∧ (records i).requestedSize > largest then
      (records i).requestedSize
    else largest) 0

/-- The ring of the last releases. The count and the next slot are in range whenever the
registry is valid, and a slot is taken in the range of the array here. -/
def rememberRelease (c : Context) (x : Record) (registrySlot : RecordSlot) : Context :=
  let full := ¬ c.releaseRecordCount < registryCapacity
  let slot := if full then c.nextReleaseRecordSlot else c.releaseRecordCount
  { c with
    releaseRecordCount := if full then c.releaseRecordCount else c.releaseRecordCount + 1
    nextReleaseRecordSlot := (slot + 1) % registryCapacity
    releaseRecords := Function.update c.releaseRecords
      ⟨slot % registryCapacity, Nat.mod_lt _ (by decide)⟩
      { pointer := x.pointer, requestedSize := x.requestedSize, backingSize := x.backingSize,
        allocationSequence := x.allocationSequence, releaseSequence := c.successfulFreeCount,
        registrySlot := registrySlot.val, state := recordFreed } }

/-- The record is erased and the sums go down. -/
def freeErase (c : Context) (slot : RecordSlot) : Context :=
  let x := c.records slot
  let c1 := rememberRelease c x slot
  let records := Function.update c.records slot {}
  { c1 with
    records
    liveCount := c.liveCount - 1
    totalRequestedBytes := c.totalRequestedBytes - x.requestedSize
    largestRequest := recomputeLargest records
    accountingGeneration := c.accountingGeneration + 1
    successfulFreeCount := inc64 c.successfulFreeCount }

/-- A call of `free` that fails counts as invalid and leaves a diagnostic. -/
def freeFails (c : Context) (d : FreeDiagnostic) (failure : FreeFailure) :
    FreeDiagnostic × Context :=
  ({ d with failure },
    recordFreeDiagnostic { c with invalidFreeCount := inc64 c.invalidFreeCount } { d with failure })

/-- The diagnostic of a pointer that is in no record. -/
def freeUnknown (c : Context) (d : FreeDiagnostic) (pointer : Nat) : FreeDiagnostic × Context :=
  if (findLiveContainingRecord c pointer).isSome then freeFails c d .interiorPointer
  else
    match findReleaseRecord c pointer with
    | none => freeFails c d .unknownPointer
    | some i =>
      let x := c.releaseRecords i
      freeFails { c with doubleFreeCount := inc64 c.doubleFreeCount }
        { d with
          registrySlot := x.registrySlot, recordStateBefore := x.state
          recordStateAfter := x.state, allocationSequence := x.allocationSequence
          requestedSize := x.requestedSize, backingSize := x.backingSize } .doubleFree

def findRecord (c : Context) (pointer : Nat) : Option RecordSlot :=
  (List.finRange registryCapacity).find? fun i =>
    decide ((c.records i).occupied ≠ 0) && decide ((c.records i).pointer = pointer)

/-- `gxos_crt_free_call`, where `status` is the answer of `free_pool`. The reply is the
diagnostic of the call, which says if the block was released. -/
def freeCall (c : Context) (pointer runtimeCallSite staticCallSite status : Nat) :
    FreeDiagnostic × Context :=
  let c := { c with freeInvocationCount := inc64 c.freeInvocationCount }
  let d : FreeDiagnostic :=
    { invocationNumber := c.freeInvocationCount, staticCallSite, runtimeCallSite, pointer,
      registrySlot := noSlot, liveCountBefore := c.liveCount, liveCountAfter := c.liveCount,
      totalRequestedBytesBefore := c.totalRequestedBytes
      totalRequestedBytesAfter := c.totalRequestedBytes
      largestRequestBefore := c.largestRequest, largestRequestAfter := c.largestRequest
      accountingGenerationBefore := c.accountingGeneration
      accountingGenerationAfter := c.accountingGeneration }
  if pointer = 0 then
    (d, recordFreeDiagnostic { c with nullFreeCount := inc64 c.nullFreeCount } d)
  else if ¬ registryValid c then freeFails c d .malformedRegistry
  else
    match findRecord c pointer with
    | none => freeUnknown c d pointer
    | some slot =>
      let x := c.records slot
      let d1 := { d with
        registrySlot := slot.val, recordStateBefore := x.state, recordStateAfter := recordFreed
        allocationSequence := x.allocationSequence, requestedSize := x.requestedSize
        backingSize := x.backingSize, owner := x.owner, allocationClass := x.allocationClass }
      if ¬ c.freePool then freeFails c d1 .backingServiceUnavailable
      else if c.liveCount = 0 ∨ c.totalRequestedBytes < x.requestedSize ∨
          c.accountingGeneration = uint64Max then freeFails c d1 .accounting
      else
        let d2 := { d1 with backingReleaseAttempted := 1, backingReleaseStatus := status }
        if status ≠ 0 then freeFails c d2 .backingRelease
        else
          let c1 := freeErase c slot
          let d3 := { d2 with
            backingReleased := 1, liveCountAfter := c1.liveCount
            totalRequestedBytesAfter := c1.totalRequestedBytes
            largestRequestAfter := c1.largestRequest
            accountingGenerationAfter := c1.accountingGeneration }
          (d3, recordFreeDiagnostic c1 d3)

end Gate4Harness.CrtMalloc
