-- The accounting calls of gate4_loader.c: pool blocks, page ranges and single pages come
-- from the firmware, and each of them is booked in the physical ledger. A call goes to the
-- firmware first and books second. What the firmware answers is an argument of the call.
import Gate4Harness.PhysicalLedger
import Gate4Harness.Paging

namespace Gate4Harness.Accounting

open Vm

/-! ## The firmware -/

/-- The service that a block comes from, with the page count that goes with it. -/
inductive Form
  | pool
  | pages (count : Nat)
  deriving DecidableEq, Repr

structure Block where
  form : Form
  base : Nat
  bytes : Nat
  deriving DecidableEq, Repr

/-- The answer to a request for a block. -/
inductive Grant
  | block (base : Nat)
  | error (status : Nat)
  deriving DecidableEq, Repr

/-- The firmware takes a block back in the form in which it gave it, and nothing else. -/
def takeBack (blocks : List Block) (form : Form) (base : Nat) : Option (List Block) :=
  if blocks.any fun b => decide (b.form = form ∧ b.base = base) then
    some (blocks.filter fun b => !decide (b.form = form ∧ b.base = base))
  else none

/-! ## The state -/

/-- What the loader keeps of the audit of the page tables. -/
structure PagingAudit where
  cr3 : Nat := 0
  complete : Bool := false
  directIdentityBytes : Nat := 0
  deriving DecidableEq, Repr

structure Epoch where
  ledger : PhysicalLedger
  arena : Arena := {}
  mapGeneration : Nat
  accountingGeneration : Nat
  epochActive : Bool := true
  audit : PagingAudit := {}
  /-- The blocks that the firmware gave to these calls and did not get back. -/
  outstanding : List Block := []

/-- The status of a call, and what it writes through its out pointer, if it does. -/
structure Answer where
  status : Nat := 0
  out : Option Nat := none
  deriving DecidableEq, Repr

/-- A call gives an answer, or it reaches `fail` with this text. -/
abbrev Call := Except String (Answer × Epoch)

def efiError (code : Nat) : Nat := 2 ^ 63 + code
def efiPageSize : Nat := 4096

def Epoch.handOut (s : Epoch) (b : Block) : Epoch := { s with outstanding := b :: s.outstanding }

/-- A block goes back, and the status of the firmware is ignored. -/
def Epoch.giveBack (s : Epoch) (form : Form) (base : Nat) : Epoch :=
  { s with outstanding := (takeBack s.outstanding form base).getD s.outstanding }

/-! ## Helpers of the ledger -/

/-- `gxos_physical_ledger_find` -/
def physicalFind (l : PhysicalLedger) (base bytes : Nat) : Option PhysicalSlot :=
  if base = 0 ∨ bytes = 0 then none
  else (List.finRange physicalLedgerCapacity).find? fun i =>
    (l.entries i).live && decide ((l.entries i).base = base) &&
      decide ((l.entries i).bytes = bytes)

def memoryFindLedgerBase (l : PhysicalLedger) (base : Nat) : Option PhysicalSlot :=
  if base = 0 then none
  else (List.finRange physicalLedgerCapacity).find? fun i =>
    (l.entries i).live && decide ((l.entries i).base = base)

def memoryMakeAllocation (s : Epoch) (base bytes pages allocationClass owner virtualBytes : Nat) :
    PhysicalAllocation :=
  { base, bytes, pages, allocationClass, owner
    physicalImpactBytes := bytes
    commitImpactBytes := bytes
    virtualReservationImpactBytes := virtualBytes
    generation := s.mapGeneration }

def noteMutation (s : Epoch) : Except String Epoch :=
  if s.accountingGeneration = uint64Max then .error "memory-accounting-generation-overflow"
  else .ok { s with accountingGeneration := s.accountingGeneration + 1 }

def memoryRemoveVirtualRange (s : Epoch) (base bytes : Nat) : Except String Epoch :=
  match decommit s.arena base bytes with
  | .error _ => .error "memory-virtual-decommit"
  | .ok a =>
    match (List.finRange maxReservations).find? fun i => (a.reservations i).live &&
        decide ((a.reservations i).base = base) && decide ((a.reservations i).bytes = bytes) with
    | none => .error "memory-virtual-range-not-found"
    | some i =>
      match release a i with
      | .error _ => .error "memory-virtual-release"
      | .ok a => .ok { s with arena := a }

/-- The entry leaves the ledger, or the text is the one to fail with. -/
def removeEntry (s : Epoch) (i : PhysicalSlot) (text : String) : Except String Epoch :=
  if (physicalRemove s.ledger i).status ≠ none then .error text
  else .ok { s with ledger := (physicalRemove s.ledger i).ledger }

/-! ## The tracked calls -/

def allocationSchedulerStack : Nat := 8
def allocationSchedulerPage : Nat := 9
def allocationPersistentPool : Nat := 11
def ownerScheduler : Nat := 4
def ownerCrt : Nat := 5

/-- `hasBuffer` is whether the out pointer is not null. -/
def memoryTrackedAllocatePool (s : Epoch) (size : Nat) (hasBuffer : Bool) (grant : Grant) : Call :=
  if ¬ hasBuffer ∨ size = 0 then .ok ({ status := efiError 2 }, s)
  else
    match grant with
    | .error status => .ok ({ status }, s)
    | .block buffer =>
      let s := s.handOut ⟨.pool, buffer, size⟩
      if buffer = 0 ∨ ¬ s.epochActive then .ok ({ out := some buffer }, s)
      else
        let inserted := physicalInsert s.ledger
          (some (memoryMakeAllocation s buffer size 0 allocationPersistentPool ownerCrt 0)) true
        let s := { s with ledger := inserted.ledger }
        if inserted.status ≠ none then
          .ok ({ status := efiError 7, out := some 0 }, s.giveBack .pool buffer)
        else do
          let s ← noteMutation s
          return ({ out := some buffer }, s)

/-- `refusal` is the status of a firmware that does not take the block back. -/
def memoryTrackedFreePool (s : Epoch) (buffer refusal : Nat) : Call :=
  if buffer = 0 then .ok ({ status := efiError 2 }, s)
  else if ¬ s.epochActive then .ok ({ status := efiError 7 }, s)
  else
    match memoryFindLedgerBase s.ledger buffer with
    | none => .ok ({ status := efiError 7 }, s)
    | some i =>
      match takeBack s.outstanding .pool buffer with
      | none => .ok ({ status := refusal }, s)
      | some outstanding => do
        let allocation := s.ledger.entries i
        let s := { s with outstanding }
        let s ← if allocation.virtualReservationImpactBytes ≠ 0 then
          memoryRemoveVirtualRange s allocation.base allocation.bytes else pure s
        let s ← removeEntry s i "memory-pool-ledger-remove"
        let s ← noteMutation s
        return ({}, s)

def memoryTrackedAllocatePages (s : Epoch) (pages : Nat) (hasMemory : Bool) (grant : Grant) :
    Call :=
  if ¬ hasMemory ∨ pages = 0 ∨ pages > uint64Max / efiPageSize then
    .ok ({ status := efiError 2 }, s)
  else
    match grant with
    | .error status => .ok ({ status }, s)
    | .block memory =>
      let bytes := pages * efiPageSize
      let s := s.handOut ⟨.pages pages, memory, bytes⟩
      if memory = 0 ∨ ¬ s.epochActive then .ok ({ out := some memory }, s)
      else
        let inserted := physicalInsert s.ledger
          (some (memoryMakeAllocation s memory bytes pages
            (if pages = 4 then allocationSchedulerStack else allocationSchedulerPage)
            ownerScheduler bytes)) true
        let s := { s with ledger := inserted.ledger }
        if inserted.status ≠ none then
          .ok ({ status := efiError 7, out := some 0 }, s.giveBack (.pages pages) memory)
        else do
          let s ← noteMutation s
          return ({ out := some memory }, s)

/-- This call does not look at `g_memory_epoch_active`. -/
def memoryTrackedFreePages (s : Epoch) (memory pages refusal : Nat) : Call :=
  if pages = 0 ∨ pages > uint64Max / efiPageSize then .ok ({ status := efiError 2 }, s)
  else
    match physicalFind s.ledger memory (pages * efiPageSize) with
    | none => .ok ({ status := efiError 2 }, s)
    | some i =>
      if (s.ledger.entries i).pages ≠ pages then .ok ({ status := efiError 2 }, s)
      else
        match takeBack s.outstanding (.pages pages) memory with
        | none => .ok ({ status := refusal }, s)
        | some outstanding => do
          let s ← removeEntry { s with outstanding } i "memory-page-ledger-remove"
          let s ← noteMutation s
          return ({}, s)

/-! ## Single pages -/

/-- `GXOS_VM_UEFI_PAGE_CONTEXT`, without its pointers to the services and the ledger. -/
structure PageContext where
  allocationClass : Nat
  owner : Nat
  commitImpactBytes : Nat
  generation : Nat
  deriving DecidableEq, Repr

/-- 0 where the page has no alias. -/
def vmUefiPhysicalAlias (audit : PagingAudit) (physicalAddress : Nat) : Nat :=
  if physicalAddress % efiPageSize ≠ 0 ∨ physicalAddress > uint64Max - efiPageSize then 0
  else if audit.complete ∧ (audit.directIdentityBytes < efiPageSize ∨
      physicalAddress > audit.directIdentityBytes - efiPageSize) then 0
  else physicalAddress

/-- The tables as a query sees them, which allocates nothing. -/
def auditTables (audit : PagingAudit) : PageAllocator Unit where
  allocatePage := fun w => (none, w)
  freePage := fun _ _ w => w
  physicalAlias := vmUefiPhysicalAlias audit

/-- Under an audited root a page has to be mapped to itself. -/
def mappedToItself (audit : PagingAudit) (tables : Nat → Nat → Nat) (physical : Nat) : Bool :=
  match queryRoot (auditTables audit) tables (audit.cr3 &&& physicalMask) physical with
  | .error _ => false
  | .ok mapping => mapping.present && decide (mapping.physicalBase = physical)

/-- The status is 1 for a page and 0 for none. `hasOut` is whether both out pointers are not
null, and the tables are the memory that the query reads. -/
def vmUefiAllocatePage (s : Epoch) (context : PageContext) (hasOut : Bool)
    (tables : Nat → Nat → Nat) (grant : Grant) : Call :=
  if ¬ hasOut ∨ context.generation = 0 then .ok ({}, s)
  else
    match grant with
    | .error _ => .ok ({}, s)
    | .block physical =>
      let s := s.handOut ⟨.pages 1, physical, efiPageSize⟩
      if physical = 0 ∨ (s.audit.cr3 ≠ 0 ∧ ¬ mappedToItself s.audit tables physical) ∨
          vmUefiPhysicalAlias s.audit physical = 0 then
        .ok ({}, s.giveBack (.pages 1) physical)
      else
        let inserted := physicalInsert s.ledger
          (some
            { base := physical
              bytes := efiPageSize
              pages := 1
              allocationClass := context.allocationClass
              owner := context.owner
              physicalImpactBytes := efiPageSize
              commitImpactBytes := context.commitImpactBytes
              virtualReservationImpactBytes := 0
              generation := context.generation }) true
        let s := { s with ledger := inserted.ledger }
        if inserted.status ≠ none then .ok ({}, s.giveBack (.pages 1) physical)
        else .ok ({ status := 1, out := some physical }, s)

def vmUefiFreePage (s : Epoch) (physicalAddress : Nat) : Call :=
  match physicalFind s.ledger physicalAddress efiPageSize with
  | none => .error "vm-page-free-ledger"
  | some i =>
    match takeBack s.outstanding (.pages 1) physicalAddress with
    | none => .error "vm-page-free-firmware"
    | some outstanding => do
      let s ← removeEntry { s with outstanding } i "vm-page-free-accounting"
      return ({}, s)

/-! ## Runs -/

inductive Op
  | allocatePool (size : Nat) (hasBuffer : Bool) (grant : Grant)
  | freePool (buffer refusal : Nat)
  | allocatePages (pages : Nat) (hasMemory : Bool) (grant : Grant)
  | freePages (memory pages refusal : Nat)
  | allocatePage (context : PageContext) (hasOut : Bool) (tables : Nat → Nat → Nat)
      (grant : Grant)
  | freePage (physicalAddress : Nat)

def call (s : Epoch) : Op → Call
  | .allocatePool size hasBuffer grant => memoryTrackedAllocatePool s size hasBuffer grant
  | .freePool buffer refusal => memoryTrackedFreePool s buffer refusal
  | .allocatePages pages hasMemory grant => memoryTrackedAllocatePages s pages hasMemory grant
  | .freePages memory pages refusal => memoryTrackedFreePages s memory pages refusal
  | .allocatePage context hasOut tables grant => vmUefiAllocatePage s context hasOut tables grant
  | .freePage physicalAddress => vmUefiFreePage s physicalAddress

/-- A call that fails does not return, so that nothing comes after it. -/
def step (s : Epoch) (op : Op) : Epoch :=
  match call s op with
  | .ok (_, next) => next
  | .error _ => s

/-- The call says that it did not do what it was asked for. The last one has no answer. -/
def Op.Failed (answer : Answer) : Op → Prop
  | .allocatePage _ _ _ _ => answer.status = 0
  | .freePage _ => False
  | _ => answer.status ≠ 0

end Gate4Harness.Accounting
