-- The virtual memory of a payload: an arena, its page tables and the data pages behind it.
-- `commitRange` is the one of vm_substrate.c, the calls after it are those of
-- virtual_memory.c. The checks for null pointers are left out.
import Gate4Harness.Paging

namespace Gate4Harness.Vm

/-! ## The state -/

/-- What a caller hands in and no call changes. -/
structure Context (W : Type) where
  tableAllocator : PageAllocator W
  dataAllocator : PageAllocator W
  generation : Nat

structure Space (W : Type) where
  arena : Arena
  machine : Machine W
  lastError : Nat := 0

/-- `GXOS_VM_COMMIT_OPERATION_STATUS`, without the status for success. -/
inductive CommitError
  | invalidArgument
  | overflow
  | outsideReservation
  | allocation
  | mapping
  | bookkeeping
  | inconsistent
  | capacity
  deriving DecidableEq, Repr

/-- An entry of `g_vm_created_pages`. -/
structure CreatedPage where
  virtualPage : Nat
  physicalPage : Nat
  page : Nat
  deriving DecidableEq, Repr

variable {W : Type}

def Space.withWorld (s : Space W) (world : W) : Space W :=
  { s with machine := { s.machine with world } }

/-- A data page is filled with zeros. It is none of the tables. -/
def Machine.zeroData (m : Machine W) (page : Nat) : Machine W :=
  { m with memory := Function.update m.memory page fun _ => 0 }

section Calls

variable (c : Context W)

def Space.freeData (s : Space W) (physicalPage page : Nat) : Space W :=
  s.withWorld (c.dataAllocator.freePage physicalPage page s.machine.world)

/-- `gxos_vm_paging_unmap_page` where the answer is not looked at. -/
def Space.unmap (s : Space W) (virtualPage : Nat) : Space W :=
  { s with machine := (unmapPage c.tableAllocator s.machine virtualPage).2 }

/-- `gxos_vm_arena_decommit_page` where the answer is not looked at. -/
def Space.decommit (s : Space W) (virtualPage : Nat) : Space W :=
  match decommitPage s.arena virtualPage with
  | .ok arena => { s with arena }
  | .error _ => s

/-- A page goes away: out of the tables, out of the arena, and back to the allocator. -/
def Space.dropPage (s : Space W) (virtualPage physicalPage page : Nat) : Space W :=
  ((s.unmap c virtualPage).decommit virtualPage).freeData c physicalPage page

/-! ## Commit a range -/

/-- A commitment that is there fits to the page tables. -/
def commitmentMapped (s : Space W) (x : Commitment) (virtualPage : Nat) : Bool :=
  decide (x.base = virtualPage) && decide (x.physicalBase ≠ 0) &&
    match query c.tableAllocator s.machine virtualPage with
    | .ok mapping => decide (mapping.pageSize = pageSize) &&
        decide (mapping.physicalBase = x.physicalBase)
    | .error _ => false

/-- One turn of the loop of `gxos_vm_commit_range`, with the page that it made if one was
missing. When it fails it has already taken its own page back. -/
def commitTurn (writable executable : Bool) (s : Space W) (virtualPage : Nat) :
    Except CommitError (Option CreatedPage) × Space W :=
  match findCommitment s.arena virtualPage with
  | some i =>
    if commitmentMapped c s (s.arena.commitments i) virtualPage then (.ok none, s)
    else (.error .inconsistent, s)
  | none =>
    match c.dataAllocator.allocatePage s.machine.world with
    | (none, world) => (.error .allocation, s.withWorld world)
    | (some (physicalPage, page), world) =>
      let s1 := s.withWorld world
      if physicalPage = 0 ∨ page = 0 then
        (.error .allocation,
          if physicalPage ≠ 0 ∨ page ≠ 0 then s1.freeData c physicalPage page else s1)
      else
        match mapPage c.tableAllocator (s1.machine.zeroData page) virtualPage physicalPage
            writable executable with
        | (.error _, m) =>
          (.error .allocation, ({ s1 with machine := m }).freeData c physicalPage page)
        | (.ok _, m) =>
          let s2 := { s1 with machine := m }
          match commitPage s2.arena virtualPage physicalPage c.generation with
          | .error _ => (.error .allocation, (s2.unmap c virtualPage).freeData c physicalPage page)
          | .ok arena => (.ok (some { virtualPage, physicalPage, page }), { s2 with arena })

/-- The loop that takes the new pages back, last first. -/
def rollBack (s : Space W) : List CreatedPage → Space W
  | [] => s
  | x :: rest => rollBack (s.dropPage c x.virtualPage x.physicalPage x.page) rest

/-- The loop of `gxos_vm_commit_range` from a page on. The new pages are listed last first. -/
def commitFrom (writable executable : Bool) (s : Space W) (created : List CreatedPage)
    (virtualPage : Nat) : Nat → Except CommitError Nat × Space W
  | 0 => (.ok created.length, s)
  | left + 1 =>
    match commitTurn c writable executable s virtualPage with
    | (.error e, s1) => (.error e, rollBack c s1 created)
    | (.ok none, s1) => commitFrom writable executable s1 created (virtualPage + pageSize) left
    | (.ok (some x), s1) =>
      commitFrom writable executable s1 (x :: created) (virtualPage + pageSize) left

def roundUpPage (value : Nat) : Option Nat :=
  if value > uint64Max - (pageSize - 1) then none else some (pageDown (value + pageSize - 1))

/-- `gxos_vm_commit_range`, with the count of new pages. -/
def commitRange (s : Space W) (slot requestedStart requestedBytes : Nat)
    (writable executable : Bool) : Except CommitError Nat × Space W :=
  if c.generation = 0 ∨ requestedBytes = 0 then (.error .invalidArgument, s)
  else if h : slot < maxReservations then
    let reservation := s.arena.reservations ⟨slot, h⟩
    match rangeEnd requestedStart requestedBytes with
    | none => (.error .overflow, s)
    | some requestedEnd =>
      match roundUpPage requestedEnd with
      | none => (.error .overflow, s)
      | some endPage =>
        let startPage := pageDown requestedStart
        if ¬ reservation.live then (.error .overflow, s)
        else if endPage ≤ startPage ∨ (rangeEnd startPage (endPage - startPage)).isNone then
          (.error .outsideReservation, s)
        else
          match rangeEnd reservation.base reservation.bytes with
          | none => (.error .outsideReservation, s)
          | some reservationEnd =>
            let pageCount := (endPage - startPage) / pageSize
            if startPage < reservation.base ∨ endPage > reservationEnd then
              (.error .outsideReservation, s)
            else if pageCount = 0 ∨ pageCount > maxCommitments then (.error .capacity, s)
            else commitFrom c writable executable s [] startPage pageCount
  else (.error .invalidArgument, s)

end Calls

/-! ## The calls of the payload -/

def memCommit : Nat := 0x00001000
def memReserve : Nat := 0x00002000
def memDecommit : Nat := 0x00004000
def memRelease : Nat := 0x00008000
def memReset : Nat := 0x00080000
def memTopDown : Nat := 0x00100000
def memWriteWatch : Nat := 0x00200000
def memPhysical : Nat := 0x00400000
def memLargePages : Nat := 0x20000000
def pageReadwrite : Nat := 0x00000004

def errorInvalidParameter : Nat := 87
def errorNotEnoughMemory : Nat := 8
def errorNotSupported : Nat := 50

/-- `GXOS_MEMORY_ALLOCATION_VM_DATA` and `GXOS_MEMORY_OWNER_NATIVEAOT` -/
def vmDataKind : Nat := 13
def nativeaotOwner : Nat := 1

/-- `GXOS_VM_PUBLIC_STATUS`, without the status for success. -/
inductive PublicError
  | invalidArgument
  | unsupported
  | capacity
  | allocation
  | mapping
  | inconsistent
  deriving DecidableEq, Repr

structure PublicResult where
  requestedBytes : Nat := 0
  roundedBytes : Nat := 0
  effectiveBase : Nat := 0
  reservationBase : Nat := 0
  reservationSlot : Nat := 0
  newPageCount : Nat := 0
  existingPageCount : Nat := 0
  reserved : Bool := false
  committed : Bool := false
  deriving DecidableEq, Repr

/-- What a call gives back: its status, the result record, and the address of the pages or 0. -/
structure PublicReply where
  status : Except PublicError Unit
  result : PublicResult := {}
  address : Nat := 0

/-- A call that fails with a status and an error code. -/
def Space.fail (s : Space W) (failure : PublicError × Nat) (result : PublicResult) :
    PublicReply × Space W :=
  ({ status := .error failure.1, result }, { s with lastError := failure.2 })

def invalidArgument : PublicError × Nat := (.invalidArgument, errorInvalidParameter)
def unsupported : PublicError × Nat := (.unsupported, errorNotSupported)
def capacityFailure : PublicError × Nat := (.capacity, errorNotEnoughMemory)
def allocationFailure : PublicError × Nat := (.allocation, errorNotEnoughMemory)
def mappingFailure : PublicError × Nat := (.mapping, errorNotEnoughMemory)
def inconsistent : PublicError × Nat := (.inconsistent, errorInvalidParameter)

def mapReserveStatus : ArenaError → PublicError × Nat
  | .overflow => invalidArgument
  | .capacity | .outsideArena => capacityFailure
  | _ => invalidArgument

def mapCommitStatus : CommitError → PublicError × Nat
  | .overflow => invalidArgument
  | .outsideReservation => invalidArgument
  | .capacity | .allocation => allocationFailure
  | .mapping => mappingFailure
  | .inconsistent | .bookkeeping | .invalidArgument => inconsistent

def canonicalAddress (address : Nat) : Bool :=
  if (address >>> 47) &&& 1 ≠ 0 then decide (address >>> 48 = 0xFFFF)
  else decide (address >>> 48 = 0)

/-- `range_end` of virtual_memory.c, which takes empty ranges too. -/
def publicRangeEnd (base bytes : Nat) : Option Nat := addU64 base bytes

def publicRangeContains (outerBase outerBytes innerBase innerBytes : Nat) : Bool :=
  match publicRangeEnd outerBase outerBytes, publicRangeEnd innerBase innerBytes with
  | some outerEnd, some innerEnd => decide (innerBase ≥ outerBase) && decide (innerEnd ≤ outerEnd)
  | _, _ => false

/-- `none` where `page_round` gives up. -/
def pageRound (value : Nat) : Option Nat :=
  if value = 0 ∨ value > uint64Max - (pageSize - 1) then none
  else if pageDown (value + pageSize - 1) = 0 then none
  else some (pageDown (value + pageSize - 1))

/-- The loop of `count_existing_pages`, where the greatest count stands for a failure. -/
def countExistingFrom (a : Arena) (page count : Nat) : Nat → Nat
  | 0 => count
  | left + 1 =>
    match findCommitment a page with
    | some i =>
      if (a.commitments i).base ≠ page ∨ (a.commitments i).bytes ≠ pageSize ∨
          count = uint32Max then uint32Max
      else countExistingFrom a (page + pageSize) (count + 1) left
    | none => countExistingFrom a (page + pageSize) count left

def countExistingPages (a : Arena) (start stop : Nat) : Nat :=
  countExistingFrom a start 0 ((stop - start + pageSize - 1) / pageSize)

section PublicCalls

variable (c : Context W)

def validContext (s : Space W) : Bool := decide (c.generation ≠ 0) && s.arena.valid

/-- The range of pages that `commit_range` of virtual_memory.c works on, if its checks pass. -/
def publicRange (s : Space W) (slot : ReservationSlot) (requestedStart requestedBytes : Nat) :
    Option (Nat × Nat) := do
  let requestedEnd ← publicRangeEnd requestedStart requestedBytes
  let stop ← pageRound requestedEnd
  if requestedStart = 0 then none
  else
    let startPage := pageDown requestedStart
    if stop ≤ startPage then none
    else
      let stop ← publicRangeEnd startPage (stop - startPage)
      let reservation := s.arena.reservations slot
      if s.arena.contains startPage (stop - startPage) ∧ reservation.live ∧
          publicRangeContains reservation.base reservation.bytes startPage (stop - startPage) then
        some (startPage, stop)
      else none

/-- `commit_range` of virtual_memory.c -/
def publicCommitRange (s : Space W) (slot : ReservationSlot) (requestedStart requestedBytes : Nat)
    (result : PublicResult) : PublicReply × Space W :=
  match publicRange s slot requestedStart requestedBytes with
  | none => s.fail invalidArgument result
  | some (startPage, stop) =>
    let existingCount := countExistingPages s.arena startPage stop
    if existingCount = uint32Max then s.fail invalidArgument result
    else
      match commitRange c s slot requestedStart requestedBytes true false with
      | (.error e, s1) => s1.fail (mapCommitStatus e) result
      | (.ok newCount, s1) =>
        ({ status := .ok ()
           result := { result with
             roundedBytes := stop - startPage
             effectiveBase := startPage
             reservationBase := (s1.arena.reservations slot).base
             reservationSlot := slot
             newPageCount := newCount
             existingPageCount := existingCount
             committed := true } }, s1)

/-- One turn of the loop that empties a reservation after a failure. -/
def cleanCommitment (slot : ReservationSlot) (s : Space W) (i : CommitmentSlot) : Space W :=
  let x := s.arena.commitments i
  if x.live ∧ x.reservationSlot = slot then
    s.dropPage c x.base x.physicalBase (c.dataAllocator.physicalAlias x.physicalBase)
  else s

/-- Both calls end with the release of a reservation, and its failure is an inconsistency. -/
def releaseWith (s : Space W) (slot : ReservationSlot) (reply : PublicReply)
    (result : PublicResult) : PublicReply × Space W :=
  match release s.arena slot with
  | .error _ => s.fail inconsistent result
  | .ok arena => (reply, { s with arena })

/-- What `virtual_alloc` does with a new reservation that could not be committed. -/
def abandonReservation (s : Space W) (slot : ReservationSlot) (error : PublicError)
    (result : PublicResult) : PublicReply × Space W :=
  releaseWith ((List.finRange maxCommitments).foldl (cleanCommitment c slot) s) slot
    { status := .error error, result } result

/-- `gxos_vm_public_virtual_alloc` -/
def virtualAlloc (s : Space W) (address size allocationType protection : Nat) :
    PublicReply × Space W :=
  if ¬ validContext c s ∨ size = 0 then s.fail invalidArgument {}
  else
    let result : PublicResult := { requestedBytes := size }
    if protection ≠ pageReadwrite then s.fail invalidArgument result
    else if allocationType &&& memWriteWatch ≠ 0 ∨ allocationType &&& memReset ≠ 0 ∨
        allocationType &&& memLargePages ≠ 0 ∨ allocationType &&& memPhysical ≠ 0 ∨
        allocationType &&& memTopDown ≠ 0 then s.fail unsupported result
    else if allocationType &&& (uint32Max - (memReserve ||| memCommit)) ≠ 0 then
      s.fail invalidArgument result
    else if (pageRound size).isNone then s.fail invalidArgument result
    else if allocationType = memReserve ∧ address = 0 then
      match reserveAny s.arena size vmDataKind nativeaotOwner c.generation with
      | .error e => s.fail (mapReserveStatus e) result
      | .ok (base, slot, arena) =>
        ({ status := .ok ()
           result := { result with
             roundedBytes := (arena.reservations slot).bytes
             effectiveBase := base
             reservationBase := base
             reservationSlot := slot
             reserved := true }
           address := base }, { s with arena })
    else if allocationType = memReserve ||| memCommit ∧ address = 0 then
      match reserveAny s.arena size vmDataKind nativeaotOwner c.generation with
      | .error e => s.fail (mapReserveStatus e) result
      | .ok (base, slot, arena) =>
        let localResult : PublicResult := { requestedBytes := size, reserved := true }
        match publicCommitRange c { s with arena } slot base size localResult with
        | ({ status := .ok _, result := localResult, .. }, s1) =>
          ({ status := .ok (), result := localResult, address := base }, s1)
        | ({ status := .error e, .. }, s1) => abandonReservation c s1 slot e result
    else if allocationType ≠ memCommit ∨ address = 0 ∨ ¬ canonicalAddress address then
      s.fail invalidArgument result
    else
      match findReservation s.arena address with
      | none => s.fail invalidArgument result
      | some slot =>
        match publicCommitRange c s slot address size result with
        | ({ status := .ok _, result, .. }, s1) =>
          ({ status := .ok (), result, address := result.effectiveBase }, s1)
        | reply => reply

/-- One turn of the first loop of `virtual_free`, which only looks. It counts the pages and
their bytes. -/
def checkCommitment (s : Space W) (slot : ReservationSlot) (acc : Nat × Nat)
    (i : CommitmentSlot) : Except (PublicError × Nat) (Nat × Nat) :=
  let x := s.arena.commitments i
  if ¬ x.live ∨ x.reservationSlot ≠ slot then .ok acc
  else if x.base = 0 ∨ x.bytes ≠ pageSize ∨ x.physicalBase = 0 then .error inconsistent
  else
    match query c.tableAllocator s.machine x.base with
    | .error _ => .error inconsistent
    | .ok mapping =>
      if ¬ mapping.present ∨ mapping.pageSize ≠ pageSize ∨
          mapping.physicalBase ≠ x.physicalBase then .error inconsistent
      else if c.dataAllocator.physicalAlias x.physicalBase = 0 then .error inconsistent
      else if acc.2 > uint64Max - x.bytes then .error invalidArgument
      else .ok (acc.1 + 1, acc.2 + x.bytes)

/-- The second loop of `virtual_free`, which gives the pages back. `false` is its early return. -/
def releaseCommitments (slot : ReservationSlot) (s : Space W) :
    List CommitmentSlot → Bool × Space W
  | [] => (true, s)
  | i :: rest =>
    let x := s.arena.commitments i
    if ¬ x.live ∨ x.reservationSlot ≠ slot then releaseCommitments slot s rest
    else if c.dataAllocator.physicalAlias x.physicalBase = 0 then (false, s)
    else
      match unmapPage c.tableAllocator s.machine x.base with
      | (.error _, machine) => (false, { s with machine })
      | (.ok unmapped, machine) =>
        if unmapped ≠ x.physicalBase then (false, { s with machine })
        else
          match decommitPage s.arena x.base with
          | .error _ => (false, { s with machine })
          | .ok arena =>
            releaseCommitments slot
              (({ s with machine, arena }).freeData c x.physicalBase
                (c.dataAllocator.physicalAlias x.physicalBase)) rest

/-- The first loop of `virtual_free`. -/
def checkCommitments (s : Space W) (slot : ReservationSlot) :
    Except (PublicError × Nat) (Nat × Nat) :=
  (List.finRange maxCommitments).foldlM (checkCommitment c s slot) (0, 0)

/-- The reply of `virtual_free` when all went well, with the count of pages and their bytes. -/
def freeReply (slot : ReservationSlot) (address : Nat) (committed : Nat × Nat) : PublicReply where
  status := .ok ()
  result :=
    { effectiveBase := address
      reservationBase := address
      reservationSlot := slot
      existingPageCount := committed.1
      roundedBytes := committed.2
      reserved := true
      committed := decide (committed.1 ≠ 0) }

/-- What `virtual_free` does with a reservation after its first loop. -/
def releaseReservation (s : Space W) (slot : ReservationSlot) (address : Nat)
    (committed : Nat × Nat) : PublicReply × Space W :=
  match releaseCommitments c slot s (List.finRange maxCommitments) with
  | (false, s1) => s1.fail inconsistent {}
  | (true, s1) => releaseWith s1 slot (freeReply slot address committed) {}

/-- `gxos_vm_public_virtual_free`. The address of its reply is not used. -/
def virtualFree (s : Space W) (address size freeType : Nat) : PublicReply × Space W :=
  if ¬ validContext c s ∨ address = 0 ∨ size ≠ 0 ∨ ¬ canonicalAddress address then
    s.fail invalidArgument {}
  else if freeType = memDecommit ∨ freeType &&& memDecommit ≠ 0 then s.fail unsupported {}
  else if freeType ≠ memRelease then s.fail invalidArgument {}
  else
    match findReservation s.arena address with
    | none => s.fail invalidArgument {}
    | some slot =>
      if (s.arena.reservations slot).base ≠ address then s.fail invalidArgument {}
      else
        match checkCommitments c s slot with
        | .error e => s.fail e {}
        | .ok committed => releaseReservation c s slot address committed

end PublicCalls

end Gate4Harness.Vm
