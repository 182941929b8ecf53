-- The memory map of the firmware in memory_accounting.c: how it is acquired, where its
-- descriptors stand, and how it is summed up by class. What the firmware answers to its
-- calls is given by the number of the call, so every behaviour of it is some such list of
-- answers. The pool blocks that are out are kept here, the code does not keep them.
import Gate4Harness.ByteMemory
import Gate4Harness.PhysicalLedger

namespace Gate4Harness.Vm

/-! ## The firmware -/

def efiSuccess : Nat := 0
def efiBufferTooSmall : Nat := 0x8000000000000005

/-- What one call of `get_memory_map` returns, and what it leaves in its out parameters. -/
structure MapAnswer where
  status : Nat
  mapBytes : Nat
  mapKey : Nat
  descriptorSize : Nat
  descriptorVersion : Nat
  deriving DecidableEq, Repr

structure PoolAnswer where
  status : Nat
  buffer : Nat
  deriving DecidableEq, Repr

/-- The answers to the calls of each service, in the order of the calls. -/
structure BootServices where
  getMemoryMap : Nat → MapAnswer
  allocatePool : Nat → PoolAnswer
  freePool : Nat → Nat

/-- How many calls were made, and the blocks that are out, with their sizes. -/
structure BootCalls where
  queries : Nat := 0
  allocations : Nat := 0
  frees : Nat := 0
  outstanding : List (Nat × Nat) := []
  deriving DecidableEq, Repr

section Calls

variable (firmware : BootServices) (calls : BootCalls)

def BootCalls.getMemoryMap : MapAnswer × BootCalls :=
  (firmware.getMemoryMap calls.queries, { calls with queries := calls.queries + 1 })

/-- The block of a call that succeeds. One that fails hands out none. -/
def BootCalls.allocatePool (bytes : Nat) : Option Nat × BootCalls :=
  let answer := firmware.allocatePool calls.allocations
  if answer.status ≠ efiSuccess ∨ answer.buffer = 0 then
    (none, { calls with allocations := calls.allocations + 1 })
  else
    (some answer.buffer, { calls with
      allocations := calls.allocations + 1
      outstanding := (answer.buffer, bytes) :: calls.outstanding })

def BootCalls.freePool (buffer : Nat) : Nat × BootCalls :=
  let status := firmware.freePool calls.frees
  (status, { calls with
    frees := calls.frees + 1
    outstanding :=
      if status = efiSuccess then calls.outstanding.eraseP fun b => decide (b.1 = buffer)
      else calls.outstanding })

end Calls

/-! ## The map -/

def mapMaxBytes : Nat := 128 * 1024
def mapMaxDescriptors : Nat := 2048
def mapGrowthSlackDescriptors : Nat := 8
def mapMaxRetries : Nat := 4
/-- The size of `EFI_MEMORY_DESCRIPTOR`. -/
def efiDescriptorBytes : Nat := 40

/-- `GXOS_MEMORY_MAP_STATUS`, without the status for success. -/
inductive MapError
  | invalidArgument
  | firmwareQuery
  | allocation
  | capacity
  | malformed
  | overflow
  | retryExhausted
  deriving DecidableEq, Repr

structure UefiMemoryMap where
  backing : Nat := 0
  backingBytes : Nat := 0
  mapBytes : Nat := 0
  descriptorSize : Nat := 0
  descriptorVersion : Nat := 0
  mapKey : Nat := 0
  descriptorCount : Nat := 0
  generation : Nat := 0
  valid : Bool := false
  deriving DecidableEq, Repr

def mapGrowthSize (mapBytes descriptorSize : Nat) : Option Nat :=
  if descriptorSize < efiDescriptorBytes ∨ descriptorSize > mapMaxBytes then none
  else
    match multiplyU64 descriptorSize mapGrowthSlackDescriptors with
    | none => none
    | some slack =>
      match addU64 mapBytes slack with
      | none => none
      | some required => if required > mapMaxBytes then none else some required

/-- `gxos_uefi_memory_map_parse`: the number of descriptors. -/
def mapParse (memoryMap mapBytes descriptorSize : Nat) : Option Nat :=
  if descriptorSize < efiDescriptorBytes ∨ descriptorSize > mapMaxBytes ∨
      mapBytes > mapMaxBytes then none
  else if mapBytes = 0 then some 0
  else if memoryMap = 0 ∨ mapBytes % descriptorSize ≠ 0 then none
  else
    let count := mapBytes / descriptorSize
    if count = 0 ∨ count > mapMaxDescriptors ∨ count > uint32Max then none else some count

/-- What `acquire` returns and fills in, and the calls that it made. -/
structure Acquired where
  status : Option MapError := none
  map : UefiMemoryMap := {}
  calls : BootCalls
  deriving DecidableEq, Repr

/-- A descriptor size that the firmware left at 0 is that of the known descriptor. -/
def descriptorSizeOr (descriptorSize : Nat) : Nat :=
  if descriptorSize = 0 then efiDescriptorBytes else descriptorSize

/-- Give the block back, whatever the firmware says to it. -/
def releaseBacking (firmware : BootServices) (calls : BootCalls) (backing : Option Nat) :
    BootCalls :=
  match backing with
  | none => calls
  | some buffer => (calls.freePool firmware buffer).2

/-- The block of the turn before goes back, and a failure of that ends the call. -/
def freeBacking (firmware : BootServices) (calls : BootCalls) (backing : Option Nat) :
    Bool × BootCalls :=
  match backing with
  | none => (true, calls)
  | some buffer =>
    let (status, calls1) := calls.freePool firmware buffer
    (decide (status = efiSuccess), calls1)

/-- The loop of `acquire` with so many turns left. `backing` is the block of the turn
before. -/
def acquireFrom (firmware : BootServices) : Nat → BootCalls → Option Nat → Nat → Nat → Acquired
  | 0, calls, backing, _, _ =>
    { status := some .retryExhausted, calls := releaseBacking firmware calls backing }
  | turns + 1, calls, backing, mapBytes, descriptorSize =>
    match mapGrowthSize mapBytes descriptorSize with
    | none => { status := some .overflow, calls }
    | some required =>
      match freeBacking firmware calls backing with
      | (false, calls1) => { status := some .allocation, calls := calls1 }
      | (true, calls1) =>
        match calls1.allocatePool firmware required with
        | (none, calls2) => { status := some .allocation, calls := calls2 }
        | (some buffer, calls2) =>
          let (answer, calls3) := calls2.getMemoryMap firmware
          if answer.status = efiBufferTooSmall then
            if answer.mapBytes ≤ required then
              { status := some .retryExhausted, calls := releaseBacking firmware calls3 buffer }
            else
              acquireFrom firmware turns calls3 buffer answer.mapBytes
                (descriptorSizeOr answer.descriptorSize)
          else if answer.status ≠ efiSuccess then
            { status := some .firmwareQuery, calls := releaseBacking firmware calls3 buffer }
          else
            let count :=
              if answer.mapBytes > required then none
              else mapParse buffer answer.mapBytes answer.descriptorSize
            match count with
            | none => { status := some .malformed, calls := releaseBacking firmware calls3 buffer }
            | some descriptorCount =>
              { map :=
                  { backing := buffer, backingBytes := required, mapBytes := answer.mapBytes
                    descriptorSize := answer.descriptorSize
                    descriptorVersion := answer.descriptorVersion, mapKey := answer.mapKey
                    descriptorCount, generation := 1, valid := true }
                calls := calls3 }

/-- `gxos_uefi_memory_map_acquire` -/
def acquire (firmware : BootServices) : Acquired :=
  let (answer, calls) := ({} : BootCalls).getMemoryMap firmware
  if answer.status ≠ efiBufferTooSmall ∧ answer.status ≠ efiSuccess then
    { status := some .firmwareQuery, calls }
  else if answer.status = efiSuccess ∧ answer.mapBytes = 0 then
    { map :=
        { descriptorSize := descriptorSizeOr answer.descriptorSize
          descriptorVersion := answer.descriptorVersion, mapKey := answer.mapKey
          generation := 1, valid := true }
      calls }
  else if answer.mapBytes = 0 then { status := some .malformed, calls }
  else
    acquireFrom firmware mapMaxRetries calls none answer.mapBytes
      (descriptorSizeOr answer.descriptorSize)

/-- `gxos_uefi_memory_map_descriptor`: where a descriptor stands. -/
def mapDescriptor (map : UefiMemoryMap) (index : Nat) : Option Nat :=
  if ¬ map.valid ∨ map.backing = 0 ∨ index ≥ map.descriptorCount then none
  else
    match multiplyU64 index map.descriptorSize with
    | none => none
    | some offset =>
      if offset > map.mapBytes ∨ efiDescriptorBytes > map.mapBytes - offset ∨
          offset > map.backingBytes ∨ efiDescriptorBytes > map.backingBytes - offset then none
      else some (map.backing + offset)

/-! ## Classes of memory -/

inductive MemoryClass
  | conventional
  | loaderCode
  | loaderData
  | bootServicesCode
  | bootServicesData
  | runtimeServicesCode
  | runtimeServicesData
  | acpiReclaim
  | acpiNvs
  | reserved
  | unusable
  | mmio
  | mmioPortSpace
  | persistent
  | palCode
  | unknown
  deriving DecidableEq, Repr

def memoryClassForEfiType : Nat → MemoryClass
  | 7 => .conventional
  | 1 => .loaderCode
  | 2 => .loaderData
  | 3 => .bootServicesCode
  | 4 => .bootServicesData
  | 5 => .runtimeServicesCode
  | 6 => .runtimeServicesData
  | 9 => .acpiReclaim
  | 10 => .acpiNvs
  | 0 => .reserved
  | 8 => .unusable
  | 11 => .mmio
  | 12 => .mmioPortSpace
  | 14 => .persistent
  | 13 => .palCode
  | _ => .unknown

def memoryClassIsRamLike : MemoryClass → Bool
  | .conventional | .loaderCode | .loaderData | .bootServicesCode | .bootServicesData
  | .runtimeServicesCode | .runtimeServicesData | .acpiReclaim | .acpiNvs | .persistent
  | .palCode => true
  | .reserved | .unusable | .mmio | .mmioPortSpace | .unknown => false

/-- The fields of an `EFI_MEMORY_DESCRIPTOR` that are read. -/
structure EfiMemoryDescriptor where
  type : Nat
  physicalStart : Nat
  numberOfPages : Nat
  deriving DecidableEq, Repr

def readDescriptor (memory : ByteMemory.Memory) (pointer : Nat) : EfiMemoryDescriptor :=
  let p := BitVec.ofNat 64 pointer
  { type := (ByteMemory.read memory p 32).toNat
    physicalStart := (ByteMemory.read memory (ByteMemory.up p 8) 64).toNat
    numberOfPages := (ByteMemory.read memory (ByteMemory.up p 24) 64).toNat }

/-- `GXOS_MEMORY_CLASSIFICATION_STATUS`, without the status for success. -/
inductive ClassificationError
  | invalidArgument
  | malformed
  | overflow
  deriving DecidableEq, Repr

structure MemoryClassification where
  valid : Bool := false
  descriptorCount : Nat := 0
  classBytes : MemoryClass → Nat := fun _ => 0
  classPages : MemoryClass → Nat := fun _ => 0
  totalRamLikeBytes : Nat := 0
  conventionalBytes : Nat := 0

/-- The size and the end of the range of a descriptor, if they fit into 64 bits. -/
def describedRange (d : EfiMemoryDescriptor) : Option (Nat × Nat) :=
  match multiplyU64 d.numberOfPages memoryPageSize with
  | none => none
  | some bytes =>
    match addU64 d.physicalStart bytes with
    | none => none
    | some rangeEnd => some (bytes, rangeEnd)

/-- A prior descriptor stands in the way of the range up to `rangeEnd`. -/
def priorConflicts (map : UefiMemoryMap) (memory : ByteMemory.Memory)
    (physicalStart rangeEnd prior : Nat) : Bool :=
  match mapDescriptor map prior with
  | none => true
  | some pointer =>
    let previous := readDescriptor memory pointer
    if previous.numberOfPages = 0 then true
    else
      match describedRange previous with
      | none => true
      | some (_, previousEnd) =>
        decide (physicalStart < previousEnd) && decide (previous.physicalStart < rangeEnd)

/-- Add up one range. Each sum that would overflow ends the call. -/
def addToClass (c : MemoryClassification) (memoryClass : MemoryClass) (bytes pages : Nat) :
    Except ClassificationError MemoryClassification :=
  match addU64 (c.classBytes memoryClass) bytes, addU64 (c.classPages memoryClass) pages,
      if memoryClass = .conventional then addU64 c.conventionalBytes bytes
      else some c.conventionalBytes,
      if memoryClassIsRamLike memoryClass then addU64 c.totalRamLikeBytes bytes
      else some c.totalRamLikeBytes with
  | some classBytes, some classPages, some conventionalBytes, some totalRamLikeBytes =>
    .ok { c with
      classBytes := Function.update c.classBytes memoryClass classBytes
      classPages := Function.update c.classPages memoryClass classPages
      conventionalBytes, totalRamLikeBytes }
  | _, _, _, _ => .error .overflow

/-- One turn of the loop over the descriptors. -/
def classifyOne (map : UefiMemoryMap) (memory : ByteMemory.Memory) (c : MemoryClassification)
    (index : Nat) : Except ClassificationError MemoryClassification :=
  match mapDescriptor map index with
  | none => .error .malformed
  | some pointer =>
    let descriptor := readDescriptor memory pointer
    if descriptor.numberOfPages = 0 then .error .malformed
    else
      match describedRange descriptor with
      | none => .error .overflow
      | some (bytes, rangeEnd) =>
        if (List.range index).any (priorConflicts map memory descriptor.physicalStart rangeEnd) then
          .error .malformed
        else addToClass c (memoryClassForEfiType descriptor.type) bytes descriptor.numberOfPages

/-- `gxos_uefi_memory_map_classify` -/
def classify (map : UefiMemoryMap) (memory : ByteMemory.Memory) :
    Except ClassificationError MemoryClassification :=
  if ¬ map.valid then .error .invalidArgument
  else
    match (List.range map.descriptorCount).foldlM (classifyOne map memory) {} with
    | .error e => .error e
    | .ok c => .ok { c with descriptorCount := map.descriptorCount, valid := true }

end Gate4Harness.Vm
