-- GetLogicalProcessorInformation of platform_processor_topology.c: the check of a snapshot of
-- the topology, the records that are made of it, and the call that writes them to a buffer.
-- What the call reads and writes lies apart from the snapshot, the report and its own records.
import Gate4Harness.ByteMemory
import Gate4Harness.OutputRanges

namespace Gate4Harness.ProcessorTopology

open ByteMemory
open OutputRanges (MemoryContext isCanonical rangeEnd rangeIsAccessible validateMemoryContext)

/-! ## Snapshots -/

abbrev Mask := BitVec 64

def maxLogicalProcessors : Nat := 64
def maxRelationships : Nat := 64
def maxRecords : Nat := 256

def relationProcessorCore : BitVec 32 := 0
def relationNumaNode : BitVec 32 := 1
def relationCache : BitVec 32 := 2
def relationProcessorPackage : BitVec 32 := 3

/-- `GXOS_PROCESSOR_TOPOLOGY_STATUS` -/
inductive Status
  | ok
  | insufficientBuffer
  | invalidSnapshot
  | invalidGeneration
  | invalidLogicalProcessorCount
  | invalidActiveProcessorMask
  | duplicateLogicalProcessor
  | outOfRangeLogicalProcessor
  | invalidCoreRelationships
  | invalidNumaRelationships
  | invalidPackageRelationships
  | invalidCacheRelationships
  | relationshipCapacity
  | recordCountOverflow
  | sizeOverflow
  | nullReturnedLength
  | noncanonicalReturnedLength
  | returnedLengthRangeOverflow
  | unreadableReturnedLength
  | unwritableReturnedLength
  | nullBuffer
  | noncanonicalBuffer
  | bufferRangeOverflow
  | unwritableBuffer
  | invalidMemoryContext
  | invalidRecordStorage
  deriving DecidableEq, Repr

structure CoreRelationship where
  processorMask : Mask
  flags : BitVec 8
  deriving DecidableEq, Repr

structure NumaRelationship where
  processorMask : Mask
  nodeNumber : BitVec 32
  deriving DecidableEq, Repr

structure PackageRelationship where
  processorMask : Mask
  deriving DecidableEq, Repr

structure CacheRelationship where
  processorMask : Mask
  level : BitVec 8
  associativity : BitVec 8
  lineSize : BitVec 16
  size : BitVec 32
  type : BitVec 32
  deriving DecidableEq, Repr

/-- An array with the count of its entries in use is a list. The entries beyond the count are
not read, and neither is any entry where the count is beyond the array. -/
structure Snapshot where
  valid : Bool
  generation : Nat
  logicalProcessorNumbers : List (BitVec 8)
  activeProcessorMask : Mask
  cores : List CoreRelationship
  numaNodes : List NumaRelationship
  packages : List PackageRelationship
  caches : List CacheRelationship
  deriving DecidableEq, Repr

/-! ## Validation -/

/-- Each turn of the loop takes the lowest bit away. -/
def population (value : Mask) : Nat :=
  if hvalue : value = 0 then 0 else population (value &&& (value - 1)) + 1
termination_by value.toNat
decreasing_by
  have hpos : value.toNat ≠ 0 := fun hzero => hvalue (BitVec.eq_of_toNat_eq hzero)
  have hone : 1#64 ≤ value := by
    rw [BitVec.le_def, BitVec.toNat_ofNat]
    omega
  have hle := Nat.and_le_right (n := value.toNat) (m := (value - 1#64).toNat)
  change (value &&& (value - 1#64)).toNat < value.toNat
  rw [BitVec.toNat_and]
  rw [BitVec.toNat_sub_of_le hone, BitVec.toNat_ofNat] at hle ⊢
  omega

def maskIsValid (mask activeMask : Mask) : Bool :=
  decide (mask ≠ 0) && decide (mask &&& ~~~activeMask = 0)

/-- The loop of `validate_partition_masks`. -/
def partitionFrom (activeMask : Mask) : List Mask → (covered : Mask) → Bool
  | [], covered => decide (covered = activeMask)
  | mask :: rest, covered =>
    if ¬ maskIsValid mask activeMask ∨ covered &&& mask ≠ 0 then false
    else partitionFrom activeMask rest (covered ||| mask)

def validatePartitionMasks (masks : List Mask) (activeMask : Mask) : Bool :=
  if masks.length = 0 ∨ masks.length > maxRelationships then false
  else partitionFrom activeMask masks 0

/-- The loop over the logical processors, which answers the bits it has seen. -/
def scanProcessors (activeMask : Mask) : List (BitVec 8) → (seen : Mask) → Except Status Mask
  | [], seen => .ok seen
  | logical :: rest, seen =>
    if logical.toNat ≥ maxLogicalProcessors then .error .outOfRangeLogicalProcessor
    else
      let bit : Mask := 1 <<< logical.toNat
      if seen &&& bit ≠ 0 then .error .duplicateLogicalProcessor
      else if activeMask &&& bit = 0 then .error .invalidActiveProcessorMask
      else scanProcessors activeMask rest (seen ||| bit)

/-- The loop over the NUMA nodes compares each node number with those before it. -/
def nodeNumbersDiffer : List NumaRelationship → (before : List (BitVec 32)) → Bool
  | [], _ => true
  | node :: rest, before =>
    !before.contains node.nodeNumber && nodeNumbersDiffer rest (before ++ [node.nodeNumber])

def validateRelationships (s : Snapshot) : Status :=
  if s.cores.length = 0 ∨ s.cores.length > maxRelationships ∨
      s.numaNodes.length = 0 ∨ s.numaNodes.length > maxRelationships ∨
      s.packages.length = 0 ∨ s.packages.length > maxRelationships ∨
      s.caches.length > maxRelationships then .relationshipCapacity
  else if ¬ validatePartitionMasks (s.cores.map (·.processorMask)) s.activeProcessorMask then
    .invalidCoreRelationships
  else if ¬ nodeNumbersDiffer s.numaNodes [] then .invalidNumaRelationships
  else if ¬ validatePartitionMasks (s.numaNodes.map (·.processorMask)) s.activeProcessorMask then
    .invalidNumaRelationships
  else if ¬ validatePartitionMasks (s.packages.map (·.processorMask)) s.activeProcessorMask then
    .invalidPackageRelationships
  else if ¬ s.caches.all fun cache => maskIsValid cache.processorMask s.activeProcessorMask then
    .invalidCacheRelationships
  else .ok

/-- `gxos_processor_topology_validate` -/
def validate (s : Snapshot) : Status :=
  if ¬ s.valid then .invalidSnapshot
  else if s.generation = 0 then .invalidGeneration
  else if s.logicalProcessorNumbers.length = 0 ∨
      s.logicalProcessorNumbers.length > maxLogicalProcessors then .invalidLogicalProcessorCount
  else if s.activeProcessorMask = 0 ∨
      population s.activeProcessorMask ≠ s.logicalProcessorNumbers.length then
    .invalidActiveProcessorMask
  else
    match scanProcessors s.activeProcessorMask s.logicalProcessorNumbers 0 with
    | .error status => status
    | .ok seen =>
      if seen ≠ s.activeProcessorMask then .invalidActiveProcessorMask
      else validateRelationships s

def singleCpu (generation : Nat) : Snapshot :=
  { valid := true
    generation
    logicalProcessorNumbers := [0]
    activeProcessorMask := 1
    cores := [{ processorMask := 1, flags := 0 }]
    numaNodes := [{ processorMask := 1, nodeNumber := 0 }]
    packages := [{ processorMask := 1 }]
    caches := [] }

/-- `gxos_processor_topology_make_single_cpu` -/
def makeSingleCpu (generation : Nat) : Status × Snapshot :=
  (validate (singleCpu generation), singleCpu generation)

/-! ## Records -/

/-- The union of a record, of 16 bytes. -/
inductive RelationshipInfo
  | processorCore (flags : BitVec 8)
  | numaNode (nodeNumber : BitVec 32)
  | package
  | cache (level associativity : BitVec 8) (lineSize : BitVec 16) (size type : BitVec 32)
  deriving DecidableEq, Repr

structure LogicalProcessorInformation where
  processorMask : Mask
  relationship : BitVec 32
  relationshipInfo : RelationshipInfo
  deriving DecidableEq, Repr

def CoreRelationship.record (core : CoreRelationship) : LogicalProcessorInformation :=
  { processorMask := core.processorMask
    relationship := relationProcessorCore
    relationshipInfo := .processorCore core.flags }

def NumaRelationship.record (node : NumaRelationship) : LogicalProcessorInformation :=
  { processorMask := node.processorMask
    relationship := relationNumaNode
    relationshipInfo := .numaNode node.nodeNumber }

def PackageRelationship.record (package : PackageRelationship) : LogicalProcessorInformation :=
  { processorMask := package.processorMask
    relationship := relationProcessorPackage
    relationshipInfo := .package }

def CacheRelationship.record (cache : CacheRelationship) : LogicalProcessorInformation :=
  { processorMask := cache.processorMask
    relationship := relationCache
    relationshipInfo := .cache cache.level cache.associativity cache.lineSize cache.size cache.type }

def recordCount (s : Snapshot) : Except Status Nat :=
  if validate s ≠ .ok then .error (validate s)
  else
    let total := s.cores.length + s.numaNodes.length + s.packages.length + s.caches.length
    if total > Vm.uint32Max then .error .recordCountOverflow else .ok total

/-- The bytes of a record. -/
def recordSize : Nat := 0x20

def requiredSize (recordCount : Nat) : Option Nat :=
  if recordCount > Vm.uint64Max / recordSize then none else some (recordCount * recordSize)

def buildRecords (s : Snapshot) (recordCapacity : Nat) :
    Except Status (List LogicalProcessorInformation) :=
  match recordCount s with
  | .error status => .error status
  | .ok count =>
    if recordCapacity < count then .error .invalidRecordStorage
    else
      .ok (s.cores.map (·.record) ++ s.numaNodes.map (·.record) ++ s.packages.map (·.record) ++
        s.caches.map (·.record))

/-- The lowest `count` bytes of a value, the lowest first. -/
def bytesOf (count : Nat) {w : Nat} (value : BitVec w) : List (BitVec 8) :=
  (List.range count).map fun k => value.extractLsb' (8 * k) 8

def RelationshipInfo.bytes : RelationshipInfo → List (BitVec 8)
  | .processorCore flags => bytesOf 1 flags ++ bytesOf 15 (0#120)
  | .numaNode nodeNumber => bytesOf 4 nodeNumber ++ bytesOf 12 (0#96)
  | .package => bytesOf 16 (0#128)
  | .cache level associativity lineSize size type =>
    bytesOf 1 level ++ bytesOf 1 associativity ++ bytesOf 2 lineSize ++ bytesOf 4 size ++
      bytesOf 4 type ++ bytesOf 4 (0#32)

/-- A record in memory, with 4 bytes of padding before the union. -/
def LogicalProcessorInformation.bytes (x : LogicalProcessorInformation) : List (BitVec 8) :=
  bytesOf 8 x.processorMask ++ bytesOf 4 x.relationship ++ bytesOf 4 (0#32) ++
    x.relationshipInfo.bytes

/-! ## The call -/

structure Report where
  status : Status := .ok
  buffer : Addr := 0
  returnedLength : Addr := 0
  returnedLengthPointerCanonical : Bool := false
  returnedLengthPointerReadable : Bool := false
  returnedLengthPointerWritable : Bool := false
  inputLengthRead : Bool := false
  inputLength : Nat := 0
  bufferPointerCanonical : Bool := false
  bufferRangeValid : Bool := false
  outputWritten : Bool := false
  returnValue : Bool := false
  requiredLength : Nat := 0
  recordCount : Nat := 0
  cacheRecordCount : Nat := 0
  snapshotGeneration : Nat := 0
  deriving DecidableEq, Repr

/-- The regions that the word lies in say whether it can be read and written. -/
def noteRegions (memory : MemoryContext) (address : Nat) (report : Report) : Report :=
  memory.regions.foldl (fun report region =>
    if address ≥ region.base ∧ address + 4 ≤ region.endAddress then
      { report with
        returnedLengthPointerReadable := report.returnedLengthPointerReadable || region.readable
        returnedLengthPointerWritable := report.returnedLengthPointerWritable || region.writable }
    else report) report

/-- `none` is a null pointer to a report. -/
def validateReturnedLength (returnedLength : Addr) (memory : MemoryContext)
    (report : Option Report) : Status × Option Report :=
  let address := returnedLength.toNat
  if address = 0 then (.nullReturnedLength, report)
  else if ¬ isCanonical address then (.noncanonicalReturnedLength, report)
  else
    let report := report.map fun r => { r with returnedLengthPointerCanonical := true }
    if address > Vm.uint64Max - 4 then (.returnedLengthRangeOverflow, report)
    else if ¬ isCanonical (address + 4 - 1) then (.noncanonicalReturnedLength, report)
    else
      let report := report.map (noteRegions memory address)
      if ¬ rangeIsAccessible memory address 4 true true then
        match report with
        | some r =>
          (if r.returnedLengthPointerReadable then .unwritableReturnedLength
            else .unreadableReturnedLength, report)
        | none => (.unwritableReturnedLength, report)
      else (.ok, report)

/-- `copy_bytes` -/
def copyBytes (m : Memory) (destination : Addr) : List (BitVec 8) → Memory
  | [] => m
  | byte :: rest => copyBytes (Function.update m destination byte) (destination + 1) rest

/-- What the call answers, with the memory that it leaves. -/
structure Answer where
  status : Status
  memory : Memory
  report : Option Report

def failure (m : Memory) (report : Option Report) (status : Status) : Answer :=
  { status, memory := m, report := report.map fun r => { r with status } }

/-- The part of the call after the size is known to fit into the buffer. -/
def fillBuffer (buffer returnedLength : Addr) (s : Snapshot) (memory : MemoryContext)
    (required : Nat) (m : Memory) (report : Option Report) : Answer :=
  match buildRecords s maxRecords with
  | .error status => failure m report status
  | .ok records =>
    if ¬ isCanonical buffer.toNat then failure m report .noncanonicalBuffer
    else
      let report := report.map fun r => { r with bufferPointerCanonical := true }
      if (rangeEnd buffer.toNat required).isNone then failure m report .bufferRangeOverflow
      else if ¬ rangeIsAccessible memory buffer.toNat required false true then
        failure m report .unwritableBuffer
      else if (validateReturnedLength returnedLength memory none).1 ≠ .ok then
        failure m report .unwritableReturnedLength
      else
        { status := .ok
          memory :=
            write (copyBytes m buffer ((records.flatMap (·.bytes)).take required)) returnedLength
              (BitVec.ofNat 32 required)
          report := report.map fun r =>
            { r with status := .ok, bufferRangeValid := true, outputWritten := true
                     returnValue := true } }

/-- The part of the call after the pointer to the length is accepted. -/
def answerLength (buffer returnedLength : Addr) (s : Snapshot) (memory : MemoryContext)
    (m : Memory) (report : Option Report) : Answer :=
  let inputLength := (read m returnedLength 32).toNat
  let report := report.map fun r => { r with inputLengthRead := true, inputLength }
  match recordCount s with
  | .error status => failure m report status
  | .ok count =>
    match requiredSize count with
    | none => failure m report .sizeOverflow
    | some required =>
      if required > Vm.uint32Max then failure m report .sizeOverflow
      else
        let report := report.map fun r =>
          { r with requiredLength := required, recordCount := count
                   cacheRecordCount := s.caches.length, snapshotGeneration := s.generation }
        if buffer = 0 ∨ inputLength < required then
          { status := .insufficientBuffer
            memory := write m returnedLength (BitVec.ofNat 32 required)
            report := report.map fun r =>
              { r with status := .insufficientBuffer, returnValue := false } }
        else fillBuffer buffer returnedLength s memory required m report

/-- `gxos_get_logical_processor_information_checked`. A snapshot, a context or a report that
is not there is a null pointer. -/
def getLogicalProcessorInformation (buffer returnedLength : Addr) (snapshot : Option Snapshot)
    (context : Option MemoryContext) (reported : Bool) (m : Memory) : Answer :=
  let report : Option Report := if reported then some { buffer, returnedLength } else none
  match snapshot with
  | none => failure m report .invalidSnapshot
  | some s =>
    if validate s ≠ .ok then failure m report (validate s)
    else
      match context with
      | none => failure m report .invalidMemoryContext
      | some memory =>
        if ¬ validateMemoryContext memory then failure m report .invalidMemoryContext
        else
          let (status, report) := validateReturnedLength returnedLength memory report
          if status ≠ .ok then failure m report status
          else answerLength buffer returnedLength s memory m report

end Gate4Harness.ProcessorTopology
