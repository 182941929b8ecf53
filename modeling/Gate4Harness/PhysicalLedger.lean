-- The physical ledger of memory_accounting.c: a table of allocations with three running
-- totals. An allocation says itself by how much it counts in each of them, and one with
-- base 0 has no place in memory, so that it overlaps no other.
import Gate4Harness.ArenaInvariant
import Gate4Harness.Runs

namespace Gate4Harness.Vm

open Tables

/-! ## The table -/

abbrev physicalLedgerCapacity : Nat := 4096
def memoryPageSize : Nat := 4096
def memoryAllocationCount : Nat := 15
def memoryOwnerCount : Nat := 10

abbrev PhysicalSlot := Fin physicalLedgerCapacity

/-- `GXOS_LEDGER_STATUS`, without the status for success. -/
inductive LedgerError
  | invalidArgument
  | zeroLength
  | overflow
  | overlap
  | capacity
  | notFound
  | invalidState
  deriving DecidableEq, Repr

structure PhysicalAllocation where
  live : Bool := false
  base : Nat := 0
  bytes : Nat := 0
  pages : Nat := 0
  allocationClass : Nat := 0
  owner : Nat := 0
  physicalImpactBytes : Nat := 0
  commitImpactBytes : Nat := 0
  virtualReservationImpactBytes : Nat := 0
  generation : Nat := 0
  deriving DecidableEq, Repr

structure PhysicalLedger where
  entries : PhysicalSlot → PhysicalAllocation := fun _ => {}
  liveCount : Nat := 0
  exhausted : Bool := false
  physicalBytes : Nat := 0
  commitBytes : Nat := 0
  virtualReservationBytes : Nat := 0
  generation : Nat := 0

def physicalLedgerInit (generation : Nat) : PhysicalLedger := { generation }

/-- What a call answers. The status `none` is success, and the slot is what is written
through `slot_out`. -/
structure PhysicalAnswer where
  status : Option LedgerError := none
  slot : Option PhysicalSlot := none
  ledger : PhysicalLedger

/-! ## The calls -/

def multiplyU64 (left right : Nat) : Option Nat :=
  if left ≠ 0 ∧ right > uint64Max / left then none else some (left * right)

/-- The checks of the fields that `insert` and `validate` share. -/
def PhysicalAllocation.wellFormed (x : PhysicalAllocation) : Bool :=
  decide (x.generation ≠ 0) && decide (x.bytes ≠ 0) &&
  decide (x.allocationClass < memoryAllocationCount) && decide (x.owner < memoryOwnerCount)

/-- The range of an allocation that has a place does not overflow. -/
def PhysicalAllocation.placed (x : PhysicalAllocation) : Bool :=
  decide (x.base = 0) || (rangeEnd x.base x.bytes).isSome

/-- The bytes fit into the pages, where pages are given. -/
def PhysicalAllocation.paged (x : PhysicalAllocation) : Bool :=
  decide (x.pages = 0) ||
    match multiplyU64 x.pages memoryPageSize with
    | none => false
    | some pageBytes => decide (pageBytes ≥ x.bytes)

/-- Two allocations with a place share an address. -/
def PhysicalAllocation.overlaps (x y : PhysicalAllocation) : Bool :=
  decide (x.base ≠ 0) && decide (y.base ≠ 0) && rangesOverlap x.base x.bytes y.base y.bytes

def freePhysical? (l : PhysicalLedger) : Option PhysicalSlot :=
  (List.finRange physicalLedgerCapacity).find? fun i => !(l.entries i).live

/-- `none` stands for a null pointer, and so does `false` for the slot. -/
def physicalInsert (l : PhysicalLedger) (allocation : Option PhysicalAllocation)
    (hasSlot : Bool) : PhysicalAnswer :=
  match allocation with
  | none => { status := some .invalidArgument, ledger := l }
  | some x =>
    if ¬ hasSlot ∨ ¬ x.wellFormed then
      { status := some (if x.bytes = 0 then .zeroLength else .invalidArgument), ledger := l }
    else if ¬ x.placed ∨ ¬ x.paged then { status := some .overflow, ledger := l }
    else if (List.finRange physicalLedgerCapacity).any fun i =>
        (l.entries i).live && x.overlaps (l.entries i) then
      { status := some .overlap, ledger := l }
    else if l.liveCount ≥ physicalLedgerCapacity then
      { status := some .capacity, ledger := { l with exhausted := true } }
    else if (addU64 l.physicalBytes x.physicalImpactBytes).isNone ∨
        (addU64 l.commitBytes x.commitImpactBytes).isNone ∨
        (addU64 l.virtualReservationBytes x.virtualReservationImpactBytes).isNone then
      { status := some .overflow, ledger := l }
    else
      match freePhysical? l with
      | none => { status := some .capacity, ledger := { l with exhausted := true } }
      | some i =>
        { slot := some i
          ledger :=
            { l with
              entries := Function.update l.entries i { x with live := true }
              liveCount := l.liveCount + 1
              physicalBytes := l.physicalBytes + x.physicalImpactBytes
              commitBytes := l.commitBytes + x.commitImpactBytes
              virtualReservationBytes :=
                l.virtualReservationBytes + x.virtualReservationImpactBytes } }

def physicalRemove (l : PhysicalLedger) (slot : Nat) : PhysicalAnswer :=
  if h : slot < physicalLedgerCapacity then
    let i : PhysicalSlot := ⟨slot, h⟩
    let x := l.entries i
    if ¬ x.live ∨ l.liveCount = 0 ∨ l.physicalBytes < x.physicalImpactBytes ∨
        l.commitBytes < x.commitImpactBytes ∨
        l.virtualReservationBytes < x.virtualReservationImpactBytes then
      { status := some .invalidState, ledger := l }
    else
      { ledger :=
          { l with
            physicalBytes := l.physicalBytes - x.physicalImpactBytes
            commitBytes := l.commitBytes - x.commitImpactBytes
            virtualReservationBytes :=
              l.virtualReservationBytes - x.virtualReservationImpactBytes
            entries := Function.update l.entries i {}
            liveCount := l.liveCount - 1 } }
  else { status := some .invalidArgument, ledger := l }

/-! ## Validation -/

/-- The counts of the loop of `gxos_physical_ledger_validate`. -/
structure PhysicalTally where
  liveCount : Nat := 0
  physical : Nat := 0
  commit : Nat := 0
  virtualBytes : Nat := 0

/-- One turn of the loop: `none` is the early return. -/
def scanPhysical (l : PhysicalLedger) (acc : Option PhysicalTally) (i : PhysicalSlot) :
    Option PhysicalTally :=
  match acc with
  | none => none
  | some t =>
    let x := l.entries i
    if ¬ x.live then some t
    else if ¬ x.wellFormed ∨ ¬ x.placed then none
    else if (List.finRange physicalLedgerCapacity).any fun j =>
        decide (i < j) && (l.entries j).live && x.overlaps (l.entries j) then none
    else
      match addU64 t.physical x.physicalImpactBytes, addU64 t.commit x.commitImpactBytes,
          addU64 t.virtualBytes x.virtualReservationImpactBytes with
      | some physical, some commit, some virtualBytes =>
        some { liveCount := t.liveCount + 1, physical, commit, virtualBytes }
      | _, _, _ => none

def physicalLedgerValidate (l : PhysicalLedger) : Bool :=
  if l.generation = 0 then false
  else
    match (List.finRange physicalLedgerCapacity).foldl (scanPhysical l) (some {}) with
    | none => false
    | some t =>
      decide (t.liveCount = l.liveCount) && decide (t.physical = l.physicalBytes) &&
      decide (t.commit = l.commitBytes) && decide (t.virtualBytes = l.virtualReservationBytes)

end Gate4Harness.Vm
