-- The on-exit tables of the CRT (crt_onexit.c): the encoding of pointers, the set up
-- of the context, and the registration of a callback. A null context or report only
-- skips work and is left out. The cookie is the value that it has during the calls.
import Mathlib.Algebra.GroupWithZero.Nat
import Mathlib.Logic.Function.Basic
import Mathlib.Tactic.Common

namespace Gate4Harness.CrtOnexit

abbrev Word := BitVec 64

def uintptrMax : Word := 0xFFFFFFFFFFFFFFFF#64
def maxMemoryRegions : Nat := 32
def maxInitializedTables : Nat := 4
def initialStorageBytes : Word := 0x100#64
def initialStorageSlots : Nat := 32
/-- `sizeof` of a table, which holds three pointers. -/
def tableBytes : Word := 24#64
def uint32Max : Nat := 0xFFFFFFFF

inductive Status
  | ok
  | invalidContext
  | nullTable
  | noncanonicalTable
  | unreadableTable
  | unwritableTable
  | tableNotInitialized
  | noncanonicalCallback
  | nonexecutableCallback
  | noncanonicalStorage
  | unalignedStorage
  | storageRangeInvalid
  | invalidTableState
  | storageFull
  | growthRequired
  | allocationFailed
  | capacityOverflow
  | pointerOverflow
  | encodingUnavailable
  deriving DecidableEq, Repr

structure MemoryRegion where
  base : Word
  limit : Word
  readable : Nat
  executable : Nat
  writable : Nat
  deriving DecidableEq, Repr

/-- The context. The two arrays are as long as their counts say, and the callbacks of the
allocator are given by whether they are set. -/
structure Context where
  imageBase : Word := 0
  imageEnd : Word := 0
  encodedNull : Word := 0
  relocationsApplied : Nat := 0
  initializedTables : List Word := []
  regions : List MemoryRegion := []
  allocate : Bool := false
  free : Bool := false
  deriving DecidableEq, Repr

structure State where
  /-- What `gxos_crt_onexit_get_encoded_null` returns. -/
  cookie : Word
  context : Context := {}
  contextValid : Bool := false
  /-- The pointers in memory, by their addresses. -/
  memory : Word → Word
  /-- The blocks that went back to the allocator. -/
  released : List Word := []

/-- The report of a registration, as it is after it is cleared. -/
structure Report where
  status : Status := .invalidContext
  table : Word := 0
  callback : Word := 0
  tableFirstRaw : Word := 0
  tableLastRaw : Word := 0
  tableEndRaw : Word := 0
  first : Word := 0
  last : Word := 0
  limit : Word := 0
  tableRegionBase : Word := 0
  tableRegionEnd : Word := 0
  tableRegionReadable : Nat := 0
  tableRegionWritable : Nat := 0
  storageRegionBase : Word := 0
  storageRegionEnd : Word := 0
  storageRegionReadable : Nat := 0
  storageRegionWritable : Nat := 0
  callbackRegionBase : Word := 0
  callbackRegionEnd : Word := 0
  callbackRegionExecutable : Nat := 0
  usedCount : Nat := 0
  capacity : Nat := 0
  remainingCapacity : Nat := 0
  entryIndex : Nat := uint32Max
  encodedCallback : Word := 0
  storedValue : Word := 0
  pointerEncoded : Bool := false
  initializedTableMatch : Nat := 0
  initializedTableIndex : Nat := uint32Max
  growthRequired : Nat := 0
  allocationAttempted : Nat := 0
  callbackExecuted : Nat := 0
  tableFirstRawAfter : Word := 0
  tableLastRawAfter : Word := 0
  tableEndRawAfter : Word := 0
  firstAfter : Word := 0
  lastAfter : Word := 0
  endAfter : Word := 0
  usedAfter : Nat := 0
  capacityAfter : Nat := 0
  remainingAfter : Nat := 0
  allocationAddress : Word := 0
  allocationSize : Word := 0
  decodedSlot0 : Word := 0
  slotCount : Nat := 0
  unusedSlotsAllNull : Nat := 0
  initialEmptyState : Nat := 0
  allocationSucceeded : Nat := 0
  allocationDisjointFromContext : Nat := 0
  deriving DecidableEq, Repr

/-! ## Addresses and ranges -/

def isCanonical (address : Word) : Bool :=
  decide (address ≤ 0x00007FFFFFFFFFFF#64) || decide (address ≥ 0xFFFF800000000000#64)

def isRange (base limit : Word) : Bool :=
  decide (base ≠ 0) && decide (limit > base) && isCanonical base && isCanonical limit

def rangeContains (region : MemoryRegion) (base limit : Word) : Bool :=
  decide (region.base ≠ 0) && decide (region.limit > region.base) &&
  decide (base ≥ region.base) && decide (limit ≥ base) && decide (limit ≤ region.limit)

def rangesOverlap (base limit otherBase otherLimit : Word) : Bool :=
  decide (base < otherLimit) && decide (otherBase < limit)

def findRange (c : Context) (base limit : Word) (requireReadable requireWritable : Bool) :
    Option MemoryRegion :=
  c.regions.find? fun region =>
    (!requireReadable || decide (region.readable ≠ 0)) &&
    (!requireWritable || decide (region.writable ≠ 0)) && rangeContains region base limit

def findAddress (c : Context) (address : Word) (requireExecutable : Bool) : Option MemoryRegion :=
  if address = 0 then none
  else
    c.regions.find? fun region =>
      decide (address ≥ region.base) && decide (address < region.limit) &&
      decide (region.readable ≠ 0) && (!requireExecutable || decide (region.executable ≠ 0))

/-! ## The encoding of pointers -/

def rotateRight (value : Word) (shift : Nat) : Word :=
  if shift = 0 then value else (value >>> shift) ||| (value <<< (64 - shift))

def encodePointer (cookie pointer : Word) : Word :=
  if cookie = 0 then 0
  else rotateRight pointer ((64 - cookie.toNat % 64) % 64) ^^^ cookie

def decodePointer (cookie pointer : Word) : Word :=
  if cookie = 0 then 0 else rotateRight (pointer ^^^ cookie) (cookie.toNat % 64)

def encodedPointerMatches (cookie encoded decoded : Word) : Bool :=
  decide (encoded ≠ 0) && decide (decodePointer cookie encoded = decoded)

/-! ## Set up -/

/-- `gxos_crt_onexit_configure`. The code copies a part of a context that it refuses, but
nothing reads it while it is not valid. -/
def configure (s : State) (c : Context) : Int × State :=
  let s := { s with contextValid := false }
  if c.relocationsApplied = 0 ∨ ¬ isRange c.imageBase c.imageEnd ∨ c.encodedNull = 0 ∨
      c.regions.length = 0 ∨ c.regions.length > maxMemoryRegions ∨
      c.initializedTables.length > maxInitializedTables then (-2, s)
  else if ¬ c.regions.all (fun region => isRange region.base region.limit &&
      decide (c.imageBase ≤ region.base) && decide (region.limit ≤ c.imageEnd) &&
      decide (region.readable ≠ 0)) then (-3, s)
  else if c.allocate ≠ c.free then (-5, s)
  else if ¬ c.initializedTables.all isCanonical then (-4, s)
  else (0, { s with context := c, contextValid := true })

/-- The three fields of a table. -/
def tableFirst (s : State) (table : Word) : Word := s.memory table
def tableLast (s : State) (table : Word) : Word := s.memory (table + 8)
def tableEnd (s : State) (table : Word) : Word := s.memory (table + 16)

def writeTable (s : State) (table first last limit : Word) : State :=
  { s with
    memory :=
      Function.update (Function.update (Function.update s.memory table first) (table + 8) last)
        (table + 16) limit }

def initializeOnexitTable (s : State) (table : Word) : Int × State :=
  if table = 0 then (-1, s)
  else if tableFirst s table ≠ tableEnd s table then (0, s)
  else if s.cookie = 0 then (-1, s)
  else (0, writeTable s table s.cookie s.cookie s.cookie)

/-! ## Registration -/

def fail (s : State) (r : Report) (status : Status) : Report × State := ({ r with status }, s)

/-- `gxos_crt_onexit_release_allocation` -/
def releaseAllocation (s : State) (block : Word) (r : Report) (status : Status) :
    Report × State :=
  fail (if block ≠ 0 ∧ s.context.free then { s with released := block :: s.released } else s) r
    status

def reportTableAfter (s : State) (r : Report) (table : Word) : Report :=
  { r with
    tableFirstRawAfter := tableFirst s table
    tableLastRawAfter := tableLast s table
    tableEndRawAfter := tableEnd s table
    firstAfter := decodePointer s.cookie (tableFirst s table)
    lastAfter := decodePointer s.cookie (tableLast s table)
    endAfter := decodePointer s.cookie (tableEnd s table) }

def slotAddress (base : Word) (index : Nat) : Word := base + BitVec.ofNat 64 (8 * index)

/-- All slots of a new block hold the encoded null, and then the first one the callback. -/
def fillSlots (s : State) (block encodedCallback : Word) : State :=
  let memory := (List.range initialStorageSlots).foldl
    (fun memory index => Function.update memory (slotAddress block index) s.cookie) s.memory
  { s with memory := Function.update memory block encodedCallback }

/-- The check of the block that the allocator gave. -/
def blockRefused (c : Context) (block : Word) : Option Status :=
  if block = 0 then some .allocationFailed
  else if ¬ block.toNat % 8 = 0 then some .unalignedStorage
  else if ¬ isCanonical block then some .noncanonicalStorage
  else if block > uintptrMax - initialStorageBytes then some .pointerOverflow
  else if ¬ isRange block (block + initialStorageBytes) then some .storageRangeInvalid
  else if c.regions.any (fun region =>
      rangesOverlap block (block + initialStorageBytes) region.base region.limit) then
    some .storageRangeInvalid
  else none

/-- The first registration gets a block and fills it. -/
def registerFirst (s : State) (r : Report) (table callback block : Word) : Report × State :=
  let r := { r with initialEmptyState := 1, growthRequired := 1 }
  if ¬ s.context.allocate ∨ ¬ s.context.free then fail s r .allocationFailed
  else
    let r := { r with
      allocationAttempted := 1, allocationAddress := block, allocationSize := initialStorageBytes }
    match blockRefused s.context block with
    | some status => releaseAllocation s block r status
    | none =>
      let limit := block + initialStorageBytes
      let r := { r with
        storageRegionBase := block, storageRegionEnd := limit, storageRegionReadable := 1
        storageRegionWritable := 1 }
      let encodedCallback := encodePointer s.cookie callback
      let encodedFirst := encodePointer s.cookie block
      let encodedLast := encodePointer s.cookie (block + 8)
      let encodedEnd := encodePointer s.cookie limit
      if ¬ encodedPointerMatches s.cookie encodedCallback callback ∨
          ¬ encodedPointerMatches s.cookie encodedFirst block ∨
          ¬ encodedPointerMatches s.cookie encodedLast (block + 8) ∨
          ¬ encodedPointerMatches s.cookie encodedEnd limit then
        releaseAllocation s block r .encodingUnavailable
      else
        let s := fillSlots s block encodedCallback
        let unusedSlotsAllNull := (List.range' 1 (initialStorageSlots - 1)).all fun index =>
          encodedPointerMatches s.cookie (s.memory (slotAddress block index)) 0
        if ¬ encodedPointerMatches s.cookie (s.memory block) callback ∨ ¬ unusedSlotsAllNull then
          releaseAllocation s block r .invalidTableState
        else
          let s := writeTable s table encodedFirst encodedLast encodedEnd
          ({ reportTableAfter s r table with
              usedAfter := 1, capacityAfter := initialStorageSlots
              remainingAfter := initialStorageSlots - 1, allocationSucceeded := 1
              slotCount := initialStorageSlots
              decodedSlot0 := decodePointer s.cookie (s.memory block), unusedSlotsAllNull := 1
              encodedCallback, storedValue := encodedCallback
              pointerEncoded := decide (encodedCallback ≠ callback), entryIndex := 0
              allocationDisjointFromContext := 1, status := .ok }, s)

/-- A later registration takes the next slot of the storage. -/
def registerNext (s : State) (r : Report) (table callback first last limit : Word)
    (used capacity : Nat) : Report × State :=
  if last = limit then fail s { r with growthRequired := 1 } .growthRequired
  else if last = 0 ∨ limit = 0 ∨ last > uintptrMax - 8 then fail s r .pointerOverflow
  else if last + 8 > limit ∨ (last - first).toNat / 8 > uint32Max then fail s r .capacityOverflow
  else
    let newLast := last + 8
    let encodedCallback := encodePointer s.cookie callback
    if encodedCallback = 0 then fail s r .encodingUnavailable
    else
      let encodedFirst := encodePointer s.cookie first
      let encodedLast := encodePointer s.cookie newLast
      let encodedEnd := encodePointer s.cookie limit
      if ¬ encodedPointerMatches s.cookie encodedCallback callback ∨
          ¬ encodedPointerMatches s.cookie encodedFirst first ∨
          ¬ encodedPointerMatches s.cookie encodedLast newLast ∨
          ¬ encodedPointerMatches s.cookie encodedEnd limit then
        fail s r .encodingUnavailable
      else
        let s1 := writeTable { s with memory := Function.update s.memory last encodedCallback }
          table encodedFirst encodedLast encodedEnd
        let r := { r with
          entryIndex := used, encodedCallback, storedValue := encodedCallback
          pointerEncoded := decide (encodedCallback ≠ callback), last := newLast }
        if decodePointer s.cookie (tableLast s1 table) ≠ newLast ∨
            decodePointer s.cookie (tableFirst s1 table) ≠ first ∨
            decodePointer s.cookie (tableEnd s1 table) ≠ limit ∨
            s1.memory last ≠ encodedCallback then
          let s2 := writeTable { s1 with memory := Function.update s1.memory last (s.memory last) }
            table (tableFirst s table) (tableLast s table) (tableEnd s table)
          fail s2 (reportTableAfter s2 { r with last } table) .invalidTableState
        else
          ({ reportTableAfter s1 r table with
              usedAfter := used + 1, capacityAfter := capacity
              remainingAfter := capacity - used - 1, status := .ok }, s1)

/-- The check of the storage that a table already has. -/
def storageRefused (c : Context) (first last limit : Word) : Option Status :=
  if ¬ isCanonical first ∨ ¬ isCanonical last ∨ ¬ isCanonical limit then
    some .noncanonicalStorage
  else if first.toNat % 8 ≠ 0 ∨ last.toNat % 8 ≠ 0 ∨ limit.toNat % 8 ≠ 0 then
    some .unalignedStorage
  else if first > last ∨ last > limit ∨ (limit - first).toNat > uint32Max * 8 ∨
      (limit - first).toNat % 8 ≠ 0 then some .invalidTableState
  else if findRange c first limit true true = none then some .storageRangeInvalid
  else none

/-- The decoded state of the table decides between the two ways to register. -/
def registerStorage (s : State) (r : Report) (table callback block first last limit : Word) :
    Report × State :=
  if (first = 0 ∨ last = 0 ∨ limit = 0) ∧ ¬ (first = 0 ∧ last = 0 ∧ limit = 0) then
    fail s r .invalidTableState
  else if first = 0 then registerFirst s r table callback block
  else
    match storageRefused s.context first last limit with
    | some status => fail s r status
    | none =>
      let used := (last - first).toNat / 8
      let capacity := (limit - first).toNat / 8
      let r :=
        match findRange s.context first limit true true with
        | none => r
        | some region => { r with
          storageRegionBase := region.base, storageRegionEnd := region.limit
          storageRegionReadable := region.readable, storageRegionWritable := region.writable }
      let r := { r with usedCount := used, capacity, remainingCapacity := capacity - used }
      registerNext s r table callback first last limit used capacity

/-- The check of the callback. -/
def registerCallback (s : State) (r : Report) (table callback block first last limit : Word) :
    Report × State :=
  if callback = 0 then registerStorage s r table callback block first last limit
  else if ¬ isCanonical callback then fail s r .noncanonicalCallback
  else
    match findAddress s.context callback true with
    | none => fail s r .nonexecutableCallback
    | some region =>
      registerStorage s
        { r with
          callbackRegionBase := region.base, callbackRegionEnd := region.limit
          callbackRegionExecutable := region.executable } table callback block first last limit

/-- The table is read and decoded. -/
def registerDecoded (s : State) (r : Report) (table callback block : Word) : Report × State :=
  let first := decodePointer s.cookie (tableFirst s table)
  let last := decodePointer s.cookie (tableLast s table)
  let limit := decodePointer s.cookie (tableEnd s table)
  let r := reportTableAfter s
    { r with
      tableFirstRaw := tableFirst s table, tableLastRaw := tableLast s table
      tableEndRaw := tableEnd s table, first, last, limit } table
  if ¬ encodedPointerMatches s.cookie s.cookie 0 then fail s r .encodingUnavailable
  else registerCallback s r table callback block first last limit

/-- The table must be one of those that are known, when there are any. -/
def registerKnown (s : State) (r : Report) (table callback block : Word) : Report × State :=
  match s.context.initializedTables.findIdx? (fun known => decide (known = table)) with
  | some index =>
    registerDecoded s { r with initializedTableMatch := 1, initializedTableIndex := index } table
      callback block
  | none =>
    if s.context.initializedTables.length ≠ 0 then fail s r .tableNotInitialized
    else registerDecoded s r table callback block

/-- `gxos_crt_onexit_register_checked`, where `block` is what the allocator answers if it is
asked. -/
def registerChecked (s : State) (table callback block : Word) : Report × State :=
  let r : Report := { table, callback }
  if ¬ s.contextValid ∨ s.cookie = 0 then fail s r .invalidContext
  else if table = 0 then fail s r .nullTable
  else if ¬ isCanonical table then fail s r .noncanonicalTable
  else if table > uintptrMax - tableBytes then fail s r .pointerOverflow
  else
    match findRange s.context table (table + tableBytes) true false with
    | none => fail s r .unreadableTable
    | some region =>
      let r := { r with
        tableRegionBase := region.base, tableRegionEnd := region.limit
        tableRegionReadable := region.readable, tableRegionWritable := region.writable }
      if region.writable = 0 then fail s r .unwritableTable
      else registerKnown s r table callback block

end Gate4Harness.CrtOnexit
