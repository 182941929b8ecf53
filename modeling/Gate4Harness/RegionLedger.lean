-- The region ledger of vm_substrate.c: a table of address ranges with attributes, from
-- which `VirtualQuery` is answered. A range is registered in the first free slot and
-- gets an identity, and both its bounds and its identity are needed to take it out.
import Gate4Harness.ArenaInvariant
import Gate4Harness.Runs

namespace Gate4Harness.Vm

open Tables

/-! ## The table -/

abbrev regionLedgerCapacity : Nat := 64
def regionStateCommit : Nat := 0x1000
def regionStateReserve : Nat := 0x2000

/-- `sizeof(GXOS_VM_MEMORY_BASIC_INFORMATION)` -/
def memoryBasicInformationSize : Nat := 48

abbrev RegionSlot := Fin regionLedgerCapacity

/-- What a caller registers. -/
structure RegionAttributes where
  base : Nat := 0
  bytes : Nat := 0
  allocationBase : Nat := 0
  allocationProtect : Nat := 0
  state : Nat := 0
  protect : Nat := 0
  type : Nat := 0
  deriving DecidableEq, Repr

structure Region extends RegionAttributes where
  live : Bool := false
  allocationIdentity : Nat := 0
  deriving DecidableEq, Repr

structure RegionLedger where
  entries : RegionSlot → Region := fun _ => {}
  liveCount : Nat := 0
  exhausted : Bool := false
  nextIdentity : Nat := 0

def regionLedgerInit : RegionLedger := { nextIdentity := 1 }

/-- What a call answers. The status `none` is success, and the identity is what is written
through `allocation_identity_out`. -/
structure RegionAnswer where
  status : Option ArenaError := none
  identity : Nat := 0
  ledger : RegionLedger

/-! ## The calls -/

/-- The checks that `gxos_vm_region_register` makes of its arguments. -/
def RegionAttributes.accepted (r : RegionAttributes) : Bool :=
  decide (r.base ≠ 0) && decide (r.allocationBase ≠ 0) && decide (r.bytes ≠ 0) &&
  decide (r.base % pageSize = 0) && decide (r.bytes % pageSize = 0) &&
  decide (r.allocationBase % pageSize = 0) && (rangeEnd r.base r.bytes).isSome &&
  decide (r.allocationBase ≤ r.base) &&
  (decide (r.state = regionStateCommit) || decide (r.state = regionStateReserve)) &&
  decide (r.type ≠ 0)

/-- Why an entry keeps a new range out. -/
def regionObstacle (r : RegionAttributes) (existing : Region) : Option ArenaError :=
  if ¬ existing.live then none
  else
    match rangeEnd existing.base existing.bytes with
    | none => some .invalidState
    | some existingEnd =>
      if r.base < existingEnd ∧ existing.base < r.base + r.bytes then some .overlap else none

/-- The next identity and the counter after it. The counter wraps, and 0 is left out. -/
def takeIdentity (next : Nat) : Option Nat × Nat :=
  let next1 := (next + 1) % 2 ^ 64
  let next2 := (next1 + 1) % 2 ^ 64
  if next = 0 then
    if next1 = 0 then (none, next2) else (some next1, next2)
  else (some next, next1)

def freeRegion? (l : RegionLedger) : Option RegionSlot :=
  (List.finRange regionLedgerCapacity).find? fun i => !(l.entries i).live

def regionRegister (l : RegionLedger) (r : RegionAttributes) (hasOutput : Bool) : RegionAnswer :=
  if ¬ hasOutput ∨ ¬ r.accepted then
    { status := some (if r.base ≠ 0 ∧ r.bytes ≠ 0 ∧ r.base > uint64Max - r.bytes then .overflow
        else .invalidArgument)
      ledger := l }
  else
    match (List.finRange regionLedgerCapacity).findSome? fun i =>
        regionObstacle r (l.entries i) with
    | some e => { status := some e, ledger := l }
    | none =>
      if l.liveCount ≥ regionLedgerCapacity then
        { status := some .capacity, ledger := { l with exhausted := true } }
      else
        let next := if l.nextIdentity = 0 then 1 else l.nextIdentity
        match freeRegion? l, takeIdentity next with
        | none, _ =>
          { status := some .capacity
            ledger := { l with exhausted := true, nextIdentity := next } }
        | some _, (none, after) =>
          { status := some .overflow, ledger := { l with nextIdentity := after } }
        | some i, (some identity, after) =>
          { identity
            ledger :=
              { l with
                entries := Function.update l.entries i
                  { r with live := true, allocationIdentity := identity }
                liveCount := l.liveCount + 1
                nextIdentity := after } }

def regionUnregister (l : RegionLedger) (base bytes allocationIdentity : Nat) : RegionAnswer :=
  if base = 0 ∨ bytes = 0 ∨ allocationIdentity = 0 then
    { status := some .invalidArgument, ledger := l }
  else
    match (List.finRange regionLedgerCapacity).find? fun i => (l.entries i).live &&
        decide ((l.entries i).base = base) && decide ((l.entries i).bytes = bytes) &&
        decide ((l.entries i).allocationIdentity = allocationIdentity) with
    | none => { status := some .notFound, ledger := l }
    | some i =>
      let cleared := { l with entries := Function.update l.entries i {} }
      if l.liveCount = 0 then { status := some .invalidState, ledger := cleared }
      else { ledger := { cleared with liveCount := l.liveCount - 1 } }

/-! ## Validation and queries -/

/-- The checks of one region by itself. -/
def Region.sound (x : Region) : Bool :=
  x.toRegionAttributes.accepted && decide (x.allocationIdentity ≠ 0)

/-- One turn of the loop of `gxos_vm_region_ledger_validate`: `none` is the early return. -/
def scanRegion (l : RegionLedger) (acc : Option Nat) (i : RegionSlot) : Option Nat :=
  match acc with
  | none => none
  | some liveCount =>
    let x := l.entries i
    if ¬ x.live then some liveCount
    else if ¬ x.sound then none
    else if (List.finRange regionLedgerCapacity).any (fun j =>
        decide (i < j) && (l.entries j).live &&
        rangesOverlap x.base x.bytes (l.entries j).base (l.entries j).bytes) then none
    else some (liveCount + 1)

def regionLedgerValidate (l : RegionLedger) : Bool :=
  if l.nextIdentity = 0 ∨ l.liveCount > regionLedgerCapacity then false
  else
    match (List.finRange regionLedgerCapacity).foldl (scanRegion l) (some 0) with
    | none => false
    | some liveCount => decide (liveCount = l.liveCount)

def vmRegionContains (x : Region) (address : Nat) : Bool :=
  x.live &&
    match rangeEnd x.base x.bytes with
    | none => false
    | some regionEnd => decide (address ≥ x.base) && decide (address < regionEnd)

structure MemoryBasicInformation where
  baseAddress : Nat
  allocationBase : Nat
  allocationProtect : Nat
  regionSize : Nat
  state : Nat
  protect : Nat
  type : Nat
  deriving DecidableEq, Repr

def RegionAttributes.information (r : RegionAttributes) : MemoryBasicInformation :=
  { baseAddress := r.base, allocationBase := r.allocationBase
    allocationProtect := r.allocationProtect, regionSize := r.bytes, state := r.state
    protect := r.protect, type := r.type }

/-- What the caller's buffer of `length` bytes gets. `none` stands for the answer 0, with
the buffer as it was. -/
def regionVirtualQuery (l : RegionLedger) (address length : Nat) :
    Option MemoryBasicInformation :=
  if length < memoryBasicInformationSize then none
  else
    match (List.finRange regionLedgerCapacity).find? fun i =>
        vmRegionContains (l.entries i) address with
    | none => none
    | some i => some (l.entries i).toRegionAttributes.information

end Gate4Harness.Vm
