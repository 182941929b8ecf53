-- The page tables of vm_substrate.c: four levels of tables in memory, made on demand under
-- a root that copies the firmware's. The allocator of table pages is a parameter over a
-- world that it may change. A pointer to a table is its alias, and 0 is the null pointer.
-- The flush of the TLB does not touch the tables and is left out.
import Gate4Harness.Arena

namespace Gate4Harness.Vm

/-! ## Entries -/

def entryPresentBit : Nat := 1
def entryWritableBit : Nat := 1 <<< 1
def entryPageSizeBit : Nat := 1 <<< 7
def entryNoExecuteBit : Nat := 1 <<< 63
def physicalMask : Nat := 0x000FFFFFFFFFF000
def maxOwnedTablePages : Nat := 64

/-- `GXOS_VM_PAGING_STATUS`, without the status for success. -/
inductive PagingError
  | invalidArgument
  | noncanonical
  | alignment
  | outsideArena
  | notPresent
  | conflict
  | largePage
  | arenaConflict
  | allocation
  | invalidTable
  | overflow
  | capacity
  deriving DecidableEq, Repr

def isPresent (entry : Nat) : Bool := decide (entry &&& entryPresentBit ≠ 0)

def isLarge (entry : Nat) : Bool := decide (entry &&& entryPageSizeBit ≠ 0)

def entryAddress (entry : Nat) : Nat := entry &&& physicalMask

/-! ## Addresses -/

def canonical48 (address : Nat) : Bool :=
  let upper := address >>> 48
  let bit47 := (address >>> 47) &&& 1
  (decide (bit47 = 0) && decide (upper = 0)) || (decide (bit47 ≠ 0) && decide (upper = 0xFFFF))

def pml4Index (address : Nat) : Nat := (address >>> 39) &&& 0x1FF
def pdptIndex (address : Nat) : Nat := (address >>> 30) &&& 0x1FF
def pdIndex (address : Nat) : Nat := (address >>> 21) &&& 0x1FF
def ptIndex (address : Nat) : Nat := (address >>> 12) &&& 0x1FF

/-! ## The state -/

/-- An allocator of pages. It gives a physical page with its alias, or fails. -/
structure PageAllocator (W : Type) where
  allocatePage : W → Option (Nat × Nat) × W
  freePage : Nat → Nat → W → W
  physicalAlias : Nat → Nat

structure Paging where
  rootPhysical : Nat := 0
  rootAlias : Nat := 0
  arenaBase : Nat := 0
  arenaLength : Nat := 0
  arenaPml4Index : Nat := 0
  nxEnabled : Bool := false
  /-- Physical page and alias, the root first. -/
  ownedTablePages : List (Nat × Nat) := []
  deriving DecidableEq, Repr

/-- The paging object with the memory that its tables are in. -/
structure Machine (W : Type) where
  paging : Paging := {}
  /-- The entries of a table, by its alias and the index. -/
  memory : Nat → Nat → Nat
  world : W
  /-- The tables that entries were written to, latest first. The code does not keep it. -/
  written : List Nat := []

variable {W : Type}

/-- `table[index] = entry` -/
def Machine.store (m : Machine W) (table index entry : Nat) : Machine W :=
  { m with
    memory := Function.update m.memory table (Function.update (m.memory table) index entry)
    written := table :: m.written }

/-- All entries of a table page become 0. -/
def Machine.zeroTable (m : Machine W) (table : Nat) : Machine W :=
  { m with
    memory := Function.update m.memory table fun _ => 0
    written := table :: m.written }

/-- `arena_contains_page`, where the last subtraction is in 64 bits. -/
def arenaContainsPage (paging : Paging) (virtualPage : Nat) : Bool :=
  match rangeEnd paging.arenaBase paging.arenaLength with
  | none => false
  | some arenaEnd =>
    decide (paging.arenaLength ≠ 0) && decide (virtualPage % pageSize = 0) &&
    decide (virtualPage ≥ paging.arenaBase) &&
    decide (virtualPage ≤ (arenaEnd + 2 ^ 64 - pageSize) % 2 ^ 64)

section Tables

variable (allocator : PageAllocator W)

def tableAlias (physical : Nat) : Except PagingError Nat :=
  if allocator.physicalAlias physical = 0 then .error .invalidTable
  else .ok (allocator.physicalAlias physical)

/-! ## Queries -/

structure Mapping where
  physicalBase : Nat
  pageSize : Nat
  entryFlags : Nat
  level : Nat
  present : Bool
  deriving DecidableEq, Repr

/-- What an entry for a large page says of an address. -/
def largeMapping (entry virtualAddress size level : Nat) : Mapping :=
  { physicalBase := entryAddress entry / size * size + virtualAddress % size
    pageSize := size, entryFlags := entry, level, present := true }

/-- `gxos_vm_paging_query_root` -/
def queryRoot (memory : Nat → Nat → Nat) (rootPhysical virtualAddress : Nat) :
    Except PagingError Mapping :=
  if rootPhysical = 0 then .error .invalidArgument
  else if ¬ canonical48 virtualAddress then .error .noncanonical
  else do
    let pml4 ← tableAlias allocator (entryAddress rootPhysical)
    let entry := memory pml4 (pml4Index virtualAddress)
    if ¬ isPresent entry then throw .notPresent
    let pdpt ← tableAlias allocator (entryAddress entry)
    let entry := memory pdpt (pdptIndex virtualAddress)
    if ¬ isPresent entry then throw .notPresent
    if isLarge entry then return largeMapping entry virtualAddress 0x40000000 3
    let pd ← tableAlias allocator (entryAddress entry)
    let entry := memory pd (pdIndex virtualAddress)
    if ¬ isPresent entry then throw .notPresent
    if isLarge entry then return largeMapping entry virtualAddress 0x200000 2
    let pt ← tableAlias allocator (entryAddress entry)
    let entry := memory pt (ptIndex virtualAddress)
    if ¬ isPresent entry then throw .notPresent
    return {
      physicalBase := entryAddress entry + virtualAddress % pageSize
      pageSize := Vm.pageSize, entryFlags := entry, level := 1, present := true }

/-- `gxos_vm_paging_query` -/
def query (m : Machine W) (virtualAddress : Nat) : Except PagingError Mapping :=
  queryRoot allocator m.memory m.paging.rootPhysical virtualAddress

/-! ## Set up -/

/-- `gxos_vm_paging_create` -/
def create (m : Machine W) (currentCr3 arenaBase arenaLength : Nat) (nxEnabled : Bool) :
    Except PagingError Unit × Machine W :=
  if currentCr3 = 0 ∨ arenaLength = 0 ∨ ¬ canonical48 arenaBase then (.error .invalidArgument, m)
  else
    match rangeEnd arenaBase arenaLength with
    | none => (.error .invalidArgument, m)
    | some arenaEnd =>
      if pml4Index arenaBase ≠ pml4Index (arenaEnd - 1) then (.error .invalidArgument, m)
      else
        let m := { m with paging := {} }
        match tableAlias allocator (currentCr3 &&& physicalMask) with
        | .error _ => (.error .invalidTable, m)
        | .ok currentRoot =>
          match allocator.allocatePage m.world with
          | (none, world) => (.error .allocation, { m with world })
          | (some (rootPhysical, rootAlias), world) =>
            if rootPhysical = 0 ∨ rootAlias = 0 then
              (.error .allocation,
                { m with world := allocator.freePage rootPhysical rootAlias world })
            else
              let m1 := { m with world }.zeroTable rootAlias
              let m2 := { m1 with
                memory := Function.update m1.memory rootAlias (m1.memory currentRoot) }
              if isPresent (m2.memory rootAlias (pml4Index arenaBase)) then
                (.error .arenaConflict,
                  { m2 with world := allocator.freePage rootPhysical rootAlias m2.world })
              else
                (.ok (), { m2 with
                  paging :=
                    { rootPhysical, rootAlias, arenaBase, arenaLength
                      arenaPml4Index := pml4Index arenaBase, nxEnabled
                      ownedTablePages := [(rootPhysical, rootAlias)] } })

/-! ## Mapping -/

/-- `allocate_table`: the child of an entry, made if it is not there. -/
def allocateTable (m : Machine W) (parent index : Nat) : Except PagingError Nat × Machine W :=
  let entry := m.memory parent index
  if isPresent entry then
    if isLarge entry then (.error .largePage, m)
    else (tableAlias allocator (entryAddress entry), m)
  else if m.paging.ownedTablePages.length ≥ maxOwnedTablePages then (.error .capacity, m)
  else
    match allocator.allocatePage m.world with
    | (none, world) => (.error .allocation, { m with world })
    | (some (physical, page), world) =>
      if physical = 0 ∨ page = 0 then
        (.error .allocation, { m with world := allocator.freePage physical page world })
      else
        let m1 := ({ m with world }.zeroTable page).store parent index
          (physical ||| entryPresentBit ||| entryWritableBit)
        let owned := m1.paging.ownedTablePages
        match tableAlias allocator physical with
        | .ok child =>
          (.ok child, { m1 with
            paging := { m1.paging with ownedTablePages := owned ++ [(physical, page)] } })
        | .error e =>
          let m2 := m1.store parent index 0
          (.error e, { m2 with world := allocator.freePage physical page m2.world })

/-- Calls of `allocate_table` in a row, from table to table. The first that fails ends it. -/
def allocateTables (m : Machine W) (table : Nat) : List Nat → Except PagingError Nat × Machine W
  | [] => (.ok table, m)
  | index :: rest =>
    match allocateTable allocator m table index with
    | (.error e, m1) => (.error e, m1)
    | (.ok child, m1) => allocateTables m1 child rest

/-- The flags of the entry of a page. -/
def pageFlags (nxEnabled writable executable : Bool) : Nat :=
  let flags := entryPresentBit ||| (if writable then entryWritableBit else 0)
  if ¬ executable ∧ nxEnabled then flags ||| entryNoExecuteBit else flags

/-- `gxos_vm_paging_map_page` -/
def mapPage (m : Machine W) (virtualPage physicalPage : Nat) (writable executable : Bool) :
    Except PagingError Unit × Machine W :=
  if physicalPage = 0 ∨ ¬ canonical48 virtualPage then
    (.error (if ¬ canonical48 virtualPage then .noncanonical else .invalidArgument), m)
  else if virtualPage % pageSize ≠ 0 ∨ physicalPage % pageSize ≠ 0 then (.error .alignment, m)
  else if ¬ arenaContainsPage m.paging virtualPage then (.error .outsideArena, m)
  else if m.paging.rootAlias = 0 then (.error .invalidTable, m)
  else
    match allocateTables allocator m m.paging.rootAlias
        [pml4Index virtualPage, pdptIndex virtualPage, pdIndex virtualPage] with
    | (.error e, m1) => (.error e, m1)
    | (.ok pt, m1) =>
      if isPresent (m1.memory pt (ptIndex virtualPage)) then (.error .conflict, m1)
      else
        (.ok (), m1.store pt (ptIndex virtualPage)
          (physicalPage ||| pageFlags m1.paging.nxEnabled writable executable))

/-- The table that an entry of the tables leads to, for a page that shall go away. -/
def followTable (m : Machine W) (table index : Nat) (checkLarge : Bool) :
    Except PagingError Nat :=
  let entry := m.memory table index
  if ¬ isPresent entry then .error .notPresent
  else if checkLarge ∧ isLarge entry then .error .largePage
  else tableAlias allocator (entryAddress entry)

/-- `gxos_vm_paging_unmap_page`, with the physical page that it gives back. -/
def unmapPage (m : Machine W) (virtualPage : Nat) : Except PagingError Nat × Machine W :=
  if ¬ canonical48 virtualPage then (.error .noncanonical, m)
  else if virtualPage % pageSize ≠ 0 then (.error .alignment, m)
  else if ¬ arenaContainsPage m.paging virtualPage then (.error .outsideArena, m)
  else if m.paging.rootAlias = 0 then (.error .invalidTable, m)
  else
    let pageTable := do
      let pdpt ← followTable allocator m m.paging.rootAlias (pml4Index virtualPage) false
      let pd ← followTable allocator m pdpt (pdptIndex virtualPage) true
      followTable allocator m pd (pdIndex virtualPage) true
    match pageTable with
    | .error e => (.error e, m)
    | .ok pt =>
      let entry := m.memory pt (ptIndex virtualPage)
      if ¬ isPresent entry then (.error .notPresent, m)
      else (.ok (entryAddress entry), m.store pt (ptIndex virtualPage) 0)

/-- The loop that takes the pages below `index` away again, last first. -/
def unmapBack (m : Machine W) (virtualStart : Nat) : Nat → Machine W
  | 0 => m
  | index + 1 =>
    unmapBack (unmapPage allocator m (virtualStart + index * pageSize)).2 virtualStart index

/-- The loop of `map_range` from an index on. -/
def mapFrom (m : Machine W) (virtualStart physicalStart : Nat) (writable executable : Bool)
    (index : Nat) : Nat → Except PagingError Unit × Machine W
  | 0 => (.ok (), m)
  | left + 1 =>
    match mapPage allocator m (virtualStart + index * pageSize) (physicalStart + index * pageSize)
        writable executable with
    | (.error e, m1) => (.error e, unmapBack allocator m1 virtualStart index)
    | (.ok _, m1) =>
      mapFrom m1 virtualStart physicalStart writable executable (index + 1) left

/-- `gxos_vm_paging_map_range` -/
def mapRange (m : Machine W) (virtualStart physicalStart pageCount : Nat)
    (writable executable : Bool) : Except PagingError Unit × Machine W :=
  if pageCount = 0 ∨ pageCount > maxCommitments ∨ virtualStart % pageSize ≠ 0 ∨
      physicalStart % pageSize ≠ 0 ∨ pageCount > (uint64Max - virtualStart) / pageSize ∨
      pageCount > (uint64Max - physicalStart) / pageSize then (.error .invalidArgument, m)
  else mapFrom allocator m virtualStart physicalStart writable executable 0 pageCount

end Tables

end Gate4Harness.Vm
