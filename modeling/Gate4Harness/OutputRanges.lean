-- The checks of an output buffer: that of global_memory_status_ex.c, that of
-- platform_processor_topology.c, and that of the collector, which VirtualUnwind has. Outside
-- the regions of the image and the stack, a buffer has to be committed memory of the arena.
import Gate4Harness.ArenaValid
import Gate4Harness.PhysicalLedger
import Gate4Harness.VirtualUnwind

namespace Gate4Harness.OutputRanges

open Vm (uint64Max Arena Commitment CommitmentSlot maxCommitments PhysicalLedger)

/-! ## The memory context -/

structure MemoryRegion where
  base : Nat
  endAddress : Nat
  readable : Bool
  writable : Bool
  deriving DecidableEq, Repr

/-- What the context says of the memory. Its other fields say how much of it there is. -/
structure MemoryContext where
  ledger : Option PhysicalLedger := none
  virtualArena : Option Arena := none
  regions : List MemoryRegion := []

def maxMemoryRegions : Nat := 40

def isCanonical (address : Nat) : Bool :=
  let high := address >>> 47
  decide (high = 0) || decide (high = 0x1FFFF)

/-- `validate_memory_context` -/
def validateMemoryContext (memory : MemoryContext) : Bool :=
  decide (memory.regions.length ≤ maxMemoryRegions) &&
  memory.regions.all fun region =>
    !(decide (region.base = 0) || decide (region.endAddress ≤ region.base) ||
      !isCanonical region.base || !isCanonical (region.endAddress - 1))

def MemoryRegion.meets (region : MemoryRegion) (base stop : Nat) : Bool :=
  decide (base < region.endAddress) && decide (region.base < stop)

/-! ## GlobalMemoryStatusEx -/

/-- The loop of `range_is_writable` over the regions: `none` where it goes through. -/
def searchRegions (base stop : Nat) : List MemoryRegion → Option (Option Nat)
  | [] => none
  | region :: rest =>
    if region.base ≥ region.endAddress ∨ ¬ isCanonical region.base ∨
        ¬ isCanonical (region.endAddress - 1) then some none
    else if region.meets base stop then
      if base < region.base ∨ stop > region.endAddress ∨ ¬ region.writable then some none
      else some (some (region.endAddress - base))
    else searchRegions base stop rest

/-- The bytes from the start of the range to the end of a commitment that holds all of it. -/
def writableInCommitment (x : Commitment) (base bytes : Nat) : Option Nat :=
  if ¬ x.live then none
  else if base ≥ x.base then
    match Vm.rangeEnd x.base x.bytes with
    | none => none
    | some stop => if base + bytes ≤ stop then some (stop - base) else none
  else none

/-- `none` is a refusal, and else the answer is what is written to `writable_range_bytes`. -/
def rangeIsWritable (memory : MemoryContext) (base bytes : Nat) : Option Nat :=
  match Vm.rangeEnd base bytes with
  | none => none
  | some stop =>
    if ¬ isCanonical base ∨ ¬ isCanonical (stop - 1) ∨
        memory.regions.length > maxMemoryRegions then none
    else
      match searchRegions base stop memory.regions with
      | some verdict => verdict
      | none =>
        match memory.virtualArena with
        | none => none
        | some arena =>
          if ¬ arena.valid ∨ ¬ Vm.validate arena then none
          else
            (List.finRange maxCommitments).findSome? fun i =>
              writableInCommitment (arena.commitments i) base bytes

/-! ## GetLogicalProcessorInformation -/

/-- `range_end` of the second file wants an end that is not 0. -/
def rangeEnd (base bytes : Nat) : Option Nat :=
  match Vm.rangeEnd base bytes with
  | none => none
  | some stop => if stop ≠ 0 then some stop else none

/-- A live record whose range does not wrap holds all of the range. -/
def recordCovers (live : Bool) (recordBase recordBytes base stop : Nat) : Bool :=
  live && decide (recordBytes ≠ 0) && decide (recordBase ≤ uint64Max - recordBytes) &&
  decide (base ≥ recordBase) && decide (stop ≤ recordBase + recordBytes)

def coveredByLedger (ledger : Option PhysicalLedger) (base stop : Nat) : Bool :=
  match ledger with
  | none => false
  | some l =>
    Vm.physicalLedgerValidate l &&
    (List.finRange Vm.physicalLedgerCapacity).any fun i =>
      recordCovers (l.entries i).live (l.entries i).base (l.entries i).bytes base stop

def coveredByArena (virtualArena : Option Arena) (base stop : Nat) : Bool :=
  match virtualArena with
  | none => false
  | some arena =>
    Vm.validate arena &&
    (List.finRange maxCommitments).any fun i =>
      recordCovers (arena.commitments i).live (arena.commitments i).base
        (arena.commitments i).bytes base stop

/-- The first region that the range meets decides. -/
def rangeIsAccessible (memory : MemoryContext) (base bytes : Nat)
    (requireReadable requireWritable : Bool) : Bool :=
  match rangeEnd base bytes with
  | none => false
  | some stop =>
    if ¬ isCanonical base ∨ ¬ isCanonical (stop - 1) then false
    else
      match memory.regions.find? fun region => region.meets base stop with
      | some region =>
        !(decide (base < region.base) || decide (stop > region.endAddress) ||
          (requireReadable && !region.readable) || (requireWritable && !region.writable))
      | none =>
        coveredByLedger memory.ledger base stop || coveredByArena memory.virtualArena base stop

end Gate4Harness.OutputRanges
