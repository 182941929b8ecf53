-- The table pages of vm_substrate.c, for an allocator and an alias function that may do
-- anything: each call of them may fail, and may change what the next one answers. Any
-- number of paging objects share the allocator. The calls are those of the page tables,
-- and a log keeps what the allocator of table pages handed out and got back.
import Gate4Harness.Keeping
import Gate4Harness.VirtualMemory

namespace Gate4Harness.TableOwnership

open Vm Program

/-! ## The state -/

/-- The callbacks of the table allocator over a world that each of them may change. -/
structure TableService (W : Type) where
  allocatePage : W → Option (Nat × Nat) × W
  freePage : Nat → Nat → W → W
  physicalAlias : Nat → W → Nat × W

/-- The callbacks of the allocator of data pages that the calls use. -/
structure DataService (W : Type) where
  allocatePage : W → Option (Nat × Nat) × W
  freePage : Nat → Nat → W → W

/-- What happened to a page of the table allocator, with its physical address and its alias. -/
inductive PageEvent
  | obtained (page : Nat × Nat)
  | freed (page : Nat × Nat)
  deriving DecidableEq, Repr

structure TableState (W : Type) where
  objects : Nat → Paging := fun _ => {}
  memory : Nat → Nat → Nat
  arena : Arena := {}
  world : W
  /-- Latest first. The code does not keep it. -/
  log : List PageEvent := []

abbrev TableProgram (W : Type) (ε α : Type) := Program (TableState W) ε α

variable {W ε : Type}

/-! ## Memory and callbacks -/

def readEntry (table index : Nat) : TableProgram W ε Nat := do
  let s ← get
  return s.memory table index

def store (table index entry : Nat) : TableProgram W ε Unit :=
  modify fun s => { s with
    memory := Function.update s.memory table (Function.update (s.memory table) index entry) }

def zeroPage (page : Nat) : TableProgram W ε Unit :=
  modify fun s => { s with memory := Function.update s.memory page fun _ => 0 }

def copyPage (source target : Nat) : TableProgram W ε Unit :=
  modify fun s => { s with memory := Function.update s.memory target (s.memory source) }

def setObject (o : Nat) (paging : Paging) : TableProgram W ε Unit :=
  modify fun s => { s with objects := Function.update s.objects o paging }

def setArena (arena : Arena) : TableProgram W ε Unit := modify fun s => { s with arena }

section Callbacks

variable (t : TableService W) (d : DataService W)

def allocateTablePage : TableProgram W ε (Option (Nat × Nat)) := do
  let s ← get
  modify fun s => { s with
    world := (t.allocatePage s.world).2
    log := ((t.allocatePage s.world).1.map PageEvent.obtained).toList ++ s.log }
  return (t.allocatePage s.world).1

def freeTablePage (physical page : Nat) : TableProgram W ε Unit :=
  modify fun s => { s with
    world := t.freePage physical page s.world
    log := .freed (physical, page) :: s.log }

def allocateDataPage : TableProgram W ε (Option (Nat × Nat)) := do
  let s ← get
  modify fun s => { s with world := (d.allocatePage s.world).2 }
  return (d.allocatePage s.world).1

def freeDataPage (physical page : Nat) : TableProgram W ε Unit :=
  modify fun s => { s with world := d.freePage physical page s.world }

/-- `table_alias` -/
def tableAlias (physical : Nat) : TableProgram W PagingError Nat := do
  let s ← get
  modify fun s => { s with world := (t.physicalAlias physical s.world).2 }
  if (t.physicalAlias physical s.world).1 = 0 then throw .invalidTable
  else return (t.physicalAlias physical s.world).1

/-! ## The life of a paging object -/

/-- `gxos_vm_paging_create` -/
def create (o currentCr3 arenaBase arenaLength : Nat) (nxEnabled : Bool) :
    TableProgram W PagingError Unit :=
  match rangeEnd arenaBase arenaLength with
  | none => throw .invalidArgument
  | some arenaEnd =>
    if currentCr3 = 0 ∨ ¬ canonical48 arenaBase ∨
        pml4Index arenaBase ≠ pml4Index (arenaEnd - 1) then throw .invalidArgument
    else do
      setObject o {}
      let currentRoot ← tableAlias t (currentCr3 &&& physicalMask)
      match ← allocateTablePage t with
      | none => throw .allocation
      | some (rootPhysical, rootAlias) =>
        if rootPhysical = 0 ∨ rootAlias = 0 then do
          freeTablePage t rootPhysical rootAlias
          throw .allocation
        else do
          zeroPage rootAlias
          copyPage currentRoot rootAlias
          let entry ← readEntry rootAlias (pml4Index arenaBase)
          if isPresent entry then do
            freeTablePage t rootPhysical rootAlias
            throw .arenaConflict
          else
            setObject o
              { rootPhysical, rootAlias, arenaBase, arenaLength
                arenaPml4Index := pml4Index arenaBase, nxEnabled
                ownedTablePages := [(rootPhysical, rootAlias)] }

def freeTablePages : List (Nat × Nat) → TableProgram W ε Unit
  | [] => pure ⟨⟩
  | (physical, page) :: rest => do
    freeTablePage t physical page
    freeTablePages rest

/-- `gxos_vm_paging_destroy` of an object that is not active. The last page goes first. -/
def destroy (o : Nat) : TableProgram W PagingError Unit := do
  let s ← get
  if (s.objects o).rootPhysical = 0 then throw .invalidArgument
  else do
    freeTablePages t (s.objects o).ownedTablePages.reverse
    setObject o {}

/-! ## Mapping -/

/-- What `allocate_table` does when the alias of its new page fails. -/
def withdrawTable (o parent index physical page : Nat) (e : PagingError) :
    TableProgram W PagingError Nat := do
  store parent index 0
  let s ← get
  setObject o { s.objects o with ownedTablePages := (s.objects o).ownedTablePages.dropLast }
  freeTablePage t physical page
  throw e

/-- `allocate_table` -/
def allocateTable (o parent index : Nat) : TableProgram W PagingError Nat := do
  let entry ← readEntry parent index
  let s ← get
  if isPresent entry then
    if isLarge entry then throw .largePage else tableAlias t (entryAddress entry)
  else if (s.objects o).ownedTablePages.length ≥ maxOwnedTablePages then throw .capacity
  else
    match ← allocateTablePage t with
    | none => throw .allocation
    | some (physical, page) =>
      if physical = 0 ∨ page = 0 then do
        freeTablePage t physical page
        throw .allocation
      else do
        zeroPage page
        store parent index (physical ||| entryPresentBit ||| entryWritableBit)
        setObject o { s.objects o with
          ownedTablePages := (s.objects o).ownedTablePages ++ [(physical, page)] }
        match ← (tableAlias t physical).attempt with
        | .ok child => return child
        | .error e => withdrawTable t o parent index physical page e

def allocateTables (o table : Nat) : List Nat → TableProgram W PagingError Nat
  | [] => return table
  | index :: rest => do
    let child ← allocateTable t o table index
    allocateTables o child rest

/-- `gxos_vm_paging_map_page` -/
def mapPage (o virtualPage physicalPage : Nat) (writable executable : Bool) :
    TableProgram W PagingError Unit := do
  let s ← get
  let paging := s.objects o
  if physicalPage = 0 ∨ ¬ canonical48 virtualPage then
    throw (if ¬ canonical48 virtualPage then .noncanonical else .invalidArgument)
  else if virtualPage % pageSize ≠ 0 ∨ physicalPage % pageSize ≠ 0 then throw .alignment
  else if ¬ arenaContainsPage paging virtualPage then throw .outsideArena
  else if paging.rootAlias = 0 then throw .invalidTable
  else do
    let pt ← allocateTables t o paging.rootAlias
      [pml4Index virtualPage, pdptIndex virtualPage, pdIndex virtualPage]
    let entry ← readEntry pt (ptIndex virtualPage)
    if isPresent entry then throw .conflict
    else
      store pt (ptIndex virtualPage)
        (physicalPage ||| pageFlags paging.nxEnabled writable executable)

/-- The table that an entry leads to. -/
def followTable (table index : Nat) (checkLarge : Bool) : TableProgram W PagingError Nat := do
  let entry ← readEntry table index
  if ¬ isPresent entry then throw .notPresent
  else if checkLarge ∧ isLarge entry then throw .largePage
  else tableAlias t (entryAddress entry)

/-- `gxos_vm_paging_unmap_page` -/
def unmapPage (o virtualPage : Nat) : TableProgram W PagingError Nat := do
  let s ← get
  let paging := s.objects o
  if ¬ canonical48 virtualPage then throw .noncanonical
  else if virtualPage % pageSize ≠ 0 then throw .alignment
  else if ¬ arenaContainsPage paging virtualPage then throw .outsideArena
  else if paging.rootAlias = 0 then throw .invalidTable
  else do
    let pdpt ← followTable t paging.rootAlias (pml4Index virtualPage) false
    let pd ← followTable t pdpt (pdptIndex virtualPage) true
    let pt ← followTable t pd (pdIndex virtualPage) true
    let entry ← readEntry pt (ptIndex virtualPage)
    if ¬ isPresent entry then throw .notPresent
    else do
      store pt (ptIndex virtualPage) 0
      return entryAddress entry

/-- The loop that takes the pages below `index` away again, last first. -/
def unmapBack (o virtualStart : Nat) : Nat → TableProgram W PagingError Unit
  | 0 => pure ⟨⟩
  | index + 1 => do
    let _ ← (unmapPage t o (virtualStart + index * pageSize)).attempt
    unmapBack o virtualStart index

/-- The loop of `map_range` from an index on. -/
def mapFrom (o virtualStart physicalStart : Nat) (writable executable : Bool) (index : Nat) :
    Nat → TableProgram W PagingError Unit
  | 0 => pure ⟨⟩
  | left + 1 => do
    match ← (mapPage t o (virtualStart + index * pageSize) (physicalStart + index * pageSize)
        writable executable).attempt with
    | .error e => do
      unmapBack t o virtualStart index
      throw e
    | .ok _ => mapFrom o virtualStart physicalStart writable executable (index + 1) left

/-- `gxos_vm_paging_map_range` -/
def mapRange (o virtualStart physicalStart pageCount : Nat) (writable executable : Bool) :
    TableProgram W PagingError Unit :=
  if pageCount = 0 ∨ pageCount > maxCommitments ∨ virtualStart % pageSize ≠ 0 ∨
      physicalStart % pageSize ≠ 0 ∨ pageCount > (uint64Max - virtualStart) / pageSize ∨
      pageCount > (uint64Max - physicalStart) / pageSize then throw .invalidArgument
  else mapFrom t o virtualStart physicalStart writable executable 0 pageCount

/-! ## Queries -/

/-- The entry of an address in a table, if it is present. -/
def presentEntry (table index : Nat) : TableProgram W PagingError Nat := do
  let entry ← readEntry table index
  if ¬ isPresent entry then throw .notPresent else return entry

/-- `gxos_vm_paging_query` -/
def query (o virtualAddress : Nat) : TableProgram W PagingError Mapping := do
  let s ← get
  let rootPhysical := (s.objects o).rootPhysical
  if rootPhysical = 0 then throw .invalidArgument
  else if ¬ canonical48 virtualAddress then throw .noncanonical
  else do
    let pml4 ← tableAlias t (entryAddress rootPhysical)
    let entry ← presentEntry pml4 (pml4Index virtualAddress)
    let pdpt ← tableAlias t (entryAddress entry)
    let entry ← presentEntry pdpt (pdptIndex virtualAddress)
    if isLarge entry then return largeMapping entry virtualAddress 0x40000000 3
    else do
      let pd ← tableAlias t (entryAddress entry)
      let entry ← presentEntry pd (pdIndex virtualAddress)
      if isLarge entry then return largeMapping entry virtualAddress 0x200000 2
      else do
        let pt ← tableAlias t (entryAddress entry)
        let entry ← presentEntry pt (ptIndex virtualAddress)
        return {
          physicalBase := entryAddress entry + virtualAddress % pageSize
          pageSize := Vm.pageSize, entryFlags := entry, level := 1, present := true }

/-! ## Commit a range -/

/-- A page goes away again: out of the tables, out of the arena, and back to the allocator. -/
def dropPage (o : Nat) (x : CreatedPage) : TableProgram W CommitError Unit := do
  let _ ← (unmapPage t o x.virtualPage).attempt
  let s ← get
  setArena ((decommitPage s.arena x.virtualPage).toOption.getD s.arena)
  freeDataPage d x.physicalPage x.page

def rollBack (o : Nat) : List CreatedPage → TableProgram W CommitError Unit
  | [] => pure ⟨⟩
  | x :: rest => do
    dropPage t d o x
    rollBack o rest

/-- A commitment that is there fits to the page tables. -/
def commitmentMapped (o : Nat) (x : Commitment) (virtualPage : Nat) :
    TableProgram W CommitError Bool :=
  if x.base ≠ virtualPage ∨ x.physicalBase = 0 then return false
  else do
    match ← (query t o virtualPage).attempt with
    | .error _ => return false
    | .ok mapping =>
      return decide (mapping.pageSize = pageSize ∧ mapping.physicalBase = x.physicalBase)

/-- The page of a turn that needs one: allocated, mapped and booked. -/
def commitNewPage (o generation : Nat) (writable executable : Bool) (virtualPage : Nat) :
    TableProgram W CommitError CreatedPage := do
  match ← allocateDataPage d with
  | none => throw .allocation
  | some (physicalPage, page) =>
    if physicalPage = 0 ∧ page = 0 then throw .allocation
    else if physicalPage = 0 ∨ page = 0 then do
      freeDataPage d physicalPage page
      throw .allocation
    else do
      zeroPage page
      match ← (mapPage t o virtualPage physicalPage writable executable).attempt with
      | .error _ => do
        freeDataPage d physicalPage page
        throw .allocation
      | .ok _ => do
        let s ← get
        match commitPage s.arena virtualPage physicalPage generation with
        | .error _ => do
          let _ ← (unmapPage t o virtualPage).attempt
          freeDataPage d physicalPage page
          throw .allocation
        | .ok arena => do
          setArena arena
          return { virtualPage, physicalPage, page }

/-- One turn of the loop of `gxos_vm_commit_range`. -/
def commitTurn (o generation : Nat) (writable executable : Bool) (virtualPage : Nat) :
    TableProgram W CommitError (Option CreatedPage) := do
  let s ← get
  match findCommitment s.arena virtualPage with
  | some i => do
    let mapped ← commitmentMapped t o (s.arena.commitments i) virtualPage
    if mapped then return none else throw .inconsistent
  | none => do
    let x ← commitNewPage t d o generation writable executable virtualPage
    return some x

/-- The loop from a page on, with the new pages, last first. -/
def commitFrom (o generation : Nat) (writable executable : Bool) (created : List CreatedPage)
    (virtualPage : Nat) : Nat → TableProgram W CommitError Nat
  | 0 => return created.length
  | left + 1 => do
    match ← (commitTurn t d o generation writable executable virtualPage).attempt with
    | .error e => do
      rollBack t d o created
      throw e
    | .ok none =>
      commitFrom o generation writable executable created (virtualPage + pageSize) left
    | .ok (some x) =>
      commitFrom o generation writable executable (x :: created) (virtualPage + pageSize) left

/-- `gxos_vm_commit_range`: the pages that it works on, if its checks pass. -/
def commitPages (a : Arena) (generation slot requestedStart requestedBytes : Nat) :
    Except CommitError (Nat × Nat) :=
  if generation = 0 ∨ requestedBytes = 0 then .error .invalidArgument
  else if h : slot < maxReservations then
    let reservation := a.reservations ⟨slot, h⟩
    match rangeEnd requestedStart requestedBytes with
    | none => .error .overflow
    | some requestedEnd =>
      match roundUpPage requestedEnd with
      | none => .error .overflow
      | some endPage =>
        let startPage := pageDown requestedStart
        if ¬ reservation.live then .error .overflow
        else if endPage ≤ startPage ∨ (rangeEnd startPage (endPage - startPage)).isNone then
          .error .outsideReservation
        else
          match rangeEnd reservation.base reservation.bytes with
          | none => .error .outsideReservation
          | some reservationEnd =>
            let pageCount := (endPage - startPage) / pageSize
            if startPage < reservation.base ∨ endPage > reservationEnd then
              .error .outsideReservation
            else if pageCount = 0 ∨ pageCount > maxCommitments then .error .capacity
            else .ok (startPage, pageCount)
  else .error .invalidArgument

/-- `gxos_vm_commit_range` on the arena of the state. -/
def commitRange (o generation slot requestedStart requestedBytes : Nat)
    (writable executable : Bool) : TableProgram W CommitError Nat := do
  let s ← get
  match commitPages s.arena generation slot requestedStart requestedBytes with
  | .error e => throw e
  | .ok (startPage, pageCount) =>
    commitFrom t d o generation writable executable [] startPage pageCount

end Callbacks

end Gate4Harness.TableOwnership
