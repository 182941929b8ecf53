-- The memory snapshots of memory_accounting.c: a physical part, a commit model and the
-- arena make a snapshot, and a query of the current state makes the next one from the
-- retained classification. That a snapshot is coherent is only checked of the startup one.
import Gate4Harness.ArenaValid
import Gate4Harness.MemoryMap

namespace Gate4Harness.Vm

open Tables

/-! ## The commit model -/

/-- `GXOS_COMMIT_STATUS`, without the status for success. -/
inductive CommitModelError
  | invalidArgument
  | overflow
  | overcommit
  | invalidState
  deriving DecidableEq, Repr

structure CommitModel where
  commitLimit : Nat
  committedBytes : Nat
  availableCommit : Nat
  generation : Nat
  valid : Bool
  noPagefile : Bool
  deriving DecidableEq, Repr

def commitModelCreate (commitLimit committedBytes generation : Nat) :
    Except CommitModelError CommitModel :=
  if generation = 0 then .error .invalidArgument
  else if committedBytes > commitLimit then .error .overcommit
  else
    .ok { commitLimit, committedBytes, availableCommit := commitLimit - committedBytes
          generation, valid := true, noPagefile := false }

def commitModelCreateNoPagefile
    (totalPhysicalBytes availablePhysicalBytes committedBytes generation : Nat) :
    Except CommitModelError CommitModel :=
  if totalPhysicalBytes = 0 ∨ availablePhysicalBytes > totalPhysicalBytes then
    .error .invalidArgument
  else
    match addU64 availablePhysicalBytes committedBytes with
    | none => .error .overflow
    | some sum =>
      let limit := if sum > totalPhysicalBytes then totalPhysicalBytes else sum
      match commitModelCreate limit committedBytes generation with
      | .error e => .error e
      | .ok model => .ok { model with noPagefile := true }

/-! ## Snapshots -/

/-- `GXOS_SNAPSHOT_STATUS`, without the status for success. -/
inductive SnapshotError
  | invalidArgument
  | invalidPhysical
  | invalidCommit
  | invalidVirtual
  | overflow
  deriving DecidableEq, Repr

structure PhysicalSnapshot where
  valid : Bool := false
  totalRamLikeBytes : Nat := 0
  availablePhysicalBytes : Nat := 0
  accountedUsedBytes : Nat := 0
  postEpochPhysicalBytes : Nat := 0
  generation : Nat := 0
  descriptorClassBytes : MemoryClass → Nat := fun _ => 0

def physicalSnapshotCreate (classification : MemoryClassification) (ledger : PhysicalLedger)
    (generation : Nat) : Except SnapshotError PhysicalSnapshot :=
  if generation = 0 then .error .invalidArgument
  else if ¬ classification.valid ∨ ¬ physicalLedgerValidate ledger ∨
      classification.totalRamLikeBytes = 0 ∨
      ledger.physicalBytes > classification.conventionalBytes then .error .invalidPhysical
  else
    let available := classification.conventionalBytes - ledger.physicalBytes
    if available > classification.totalRamLikeBytes then .error .invalidPhysical
    else
      .ok
        { totalRamLikeBytes := classification.totalRamLikeBytes
          availablePhysicalBytes := available
          accountedUsedBytes := classification.totalRamLikeBytes - available
          postEpochPhysicalBytes := ledger.physicalBytes
          generation, descriptorClassBytes := classification.classBytes, valid := true }

/-- One step of the long multiplication by 100, on the quotient and the remainder. -/
def percentageTurn (used total : Nat) (acc : Nat × Nat) : Nat × Nat :=
  let threshold := total - used
  if acc.2 ≥ threshold then (acc.1 + 1, acc.2 - threshold) else (acc.1, acc.2 + used)

def percentage100 (used total : Nat) : Nat :=
  if total = 0 ∨ used > total then 0
  else if used = total then 100
  else
    let quotient := (Nat.iterate (percentageTurn used total) 100 (0, 0)).1
    if quotient > 100 then 100 else quotient

/-- The same step on the 64-bit words of the code, where a sum could wrap. -/
def percentageTurnWord (used total : BitVec 64) (acc : BitVec 64 × BitVec 64) :
    BitVec 64 × BitVec 64 :=
  let threshold := total - used
  if acc.2 ≥ threshold then (acc.1 + 1, acc.2 - threshold) else (acc.1, acc.2 + used)

/-- `percentage_100` on its own types. -/
def percentage100Word (used total : BitVec 64) : BitVec 32 :=
  if total = 0 ∨ used > total then 0
  else if used = total then 100
  else
    let quotient := (Nat.iterate (percentageTurnWord used total) 100 (0, 0)).1
    if quotient > 100 then 100 else quotient.setWidth 32

structure MemorySnapshot where
  generation : Nat := 0
  valid : Bool := false
  totalPhysicalBytes : Nat := 0
  availablePhysicalBytes : Nat := 0
  memoryLoadPercent : Nat := 0
  commitLimitBytes : Nat := 0
  availableCommitBytes : Nat := 0
  processVirtualTotalBytes : Nat := 0
  processVirtualAvailableBytes : Nat := 0
  accountedPhysicalUsageBytes : Nat := 0
  processReservedVirtualBytes : Nat := 0
  processCommittedVirtualBytes : Nat := 0
  deriving DecidableEq, Repr

/-- The status, and what is then in the snapshot that the caller gave. -/
abbrev SnapshotAnswer := Option SnapshotError × MemorySnapshot

/-- `gxos_vm_arena_available` -/
def arenaAvailable (arena : Arena) : Nat :=
  if ¬ arena.valid ∨ arena.totalReservedBytes > arena.length then 0
  else arena.length - arena.totalReservedBytes

def memorySnapshotCreate (snapshot : MemorySnapshot) (physical : PhysicalSnapshot)
    (virtualArena : Arena) (commit : CommitModel) (generation : Nat) : SnapshotAnswer :=
  if generation = 0 then (some .invalidArgument, snapshot)
  else if ¬ physical.valid ∨ physical.totalRamLikeBytes = 0 ∨
      physical.availablePhysicalBytes > physical.totalRamLikeBytes then
    (some .invalidPhysical, {})
  else if ¬ virtualArena.valid ∨ ¬ validate virtualArena ∨
      virtualArena.totalReservedBytes > virtualArena.length ∨
      virtualArena.totalCommittedBytes > virtualArena.length then (some .invalidVirtual, {})
  else if ¬ commit.valid ∨ commit.committedBytes > commit.commitLimit ∨
      commit.availableCommit ≠ commit.commitLimit - commit.committedBytes then
    (some .invalidCommit, {})
  else if arenaAvailable virtualArena > virtualArena.length then (some .invalidVirtual, {})
  else
    (none,
      { generation
        totalPhysicalBytes := physical.totalRamLikeBytes
        availablePhysicalBytes := physical.availablePhysicalBytes
        memoryLoadPercent :=
          percentage100 (physical.totalRamLikeBytes - physical.availablePhysicalBytes)
            physical.totalRamLikeBytes
        commitLimitBytes := commit.commitLimit
        availableCommitBytes := commit.availableCommit
        processVirtualTotalBytes := virtualArena.length
        processVirtualAvailableBytes := arenaAvailable virtualArena
        accountedPhysicalUsageBytes := physical.accountedUsedBytes
        processReservedVirtualBytes := virtualArena.totalReservedBytes
        processCommittedVirtualBytes := virtualArena.totalCommittedBytes
        valid := true })

def memorySnapshotIsCoherent (snapshot : MemorySnapshot) : Bool :=
  if ¬ snapshot.valid ∨ snapshot.generation = 0 ∨ snapshot.totalPhysicalBytes = 0 ∨
      snapshot.availablePhysicalBytes > snapshot.totalPhysicalBytes ∨
      snapshot.memoryLoadPercent > 100 ∨
      snapshot.availableCommitBytes > snapshot.commitLimitBytes ∨
      snapshot.processCommittedVirtualBytes > snapshot.commitLimitBytes ∨
      snapshot.processVirtualAvailableBytes > snapshot.processVirtualTotalBytes ∨
      snapshot.processReservedVirtualBytes > snapshot.processVirtualTotalBytes ∨
      snapshot.processCommittedVirtualBytes > snapshot.processReservedVirtualBytes then false
  else
    let used := snapshot.totalPhysicalBytes - snapshot.availablePhysicalBytes
    decide (snapshot.accountedPhysicalUsageBytes = used) &&
    decide (snapshot.availableCommitBytes =
      snapshot.commitLimitBytes - snapshot.processCommittedVirtualBytes) &&
    decide (snapshot.memoryLoadPercent = percentage100 used snapshot.totalPhysicalBytes)

/-- `gxos_memory_snapshot_query_current`. What was in the view is `view`. -/
def queryCurrent (view : MemorySnapshot) (classification : MemoryClassification)
    (startupSnapshot : MemorySnapshot) (ledger : PhysicalLedger) (virtualArena : Arena)
    (generation : Nat) : SnapshotAnswer :=
  if generation = 0 ∨ generation < startupSnapshot.generation ∨ ¬ classification.valid ∨
      classification.totalRamLikeBytes = 0 ∨ ¬ memorySnapshotIsCoherent startupSnapshot ∨
      startupSnapshot.totalPhysicalBytes ≠ classification.totalRamLikeBytes then
    (some .invalidArgument, view)
  else
    match physicalSnapshotCreate classification ledger generation with
    | .error e => (some e, {})
    | .ok physical =>
      match commitModelCreateNoPagefile physical.totalRamLikeBytes
          physical.availablePhysicalBytes virtualArena.totalCommittedBytes generation with
      | .error .overflow => (some .overflow, {})
      | .error _ => (some .invalidCommit, {})
      | .ok commit => memorySnapshotCreate {} physical virtualArena commit generation

end Gate4Harness.Vm
