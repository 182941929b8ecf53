-- The registration of a callback again (crt_onexit.c), over the bytes of memory. The table
-- may be at any address, the slots and the cookie may share bytes with it, and the cookie is
-- read anew each time. What the report says is in `CrtOnexit` and left out here.
import Gate4Harness.ByteMemory
import Gate4Harness.CrtOnexit

namespace Gate4Harness.OnexitMemory

open ByteMemory hiding Word
open CrtOnexit

structure Machine where
  /-- Where the cookie is in memory, or null. -/
  encodedNullAddress : Word := 0
  /-- The cookie when it has no address. -/
  encodedNull : Word := 0
  context : Context := {}
  contextValid : Bool := false
  memory : Memory
  /-- What the allocator answered, the last answer first. -/
  obtained : List Word := []
  /-- The blocks that went back to the allocator. -/
  released : List Word := []

/-! ## Memory -/

def getEncodedNull (s : Machine) : Word :=
  if s.encodedNullAddress ≠ 0 then read s.memory s.encodedNullAddress 64 else s.encodedNull

def encode (s : Machine) (pointer : Word) : Word :=
  encodePointer (getEncodedNull s) pointer

def decode (s : Machine) (pointer : Word) : Word :=
  decodePointer (getEncodedNull s) pointer

def pointerMatches (s : Machine) (encoded decoded : Word) : Bool :=
  encodedPointerMatches (getEncodedNull s) encoded decoded

def load (s : Machine) (address : Word) : Word := read s.memory address 64

def store (s : Machine) (address value : Word) : Machine :=
  { s with memory := write s.memory address value }

/-- The three fields of a table. -/
def tableFirst (s : Machine) (table : Word) : Word := load s table
def tableLast (s : Machine) (table : Word) : Word := load s (table + 8)
def tableEnd (s : Machine) (table : Word) : Word := load s (table + 16)

def storeTable (s : Machine) (table first last limit : Word) : Machine :=
  store (store (store s table first) (table + 8) last) (table + 16) limit

/-- Each slot gets the cookie as it is at that moment. -/
def fillSlots (s : Machine) (block : Word) : Machine :=
  (List.range initialStorageSlots).foldl
    (fun s index => store s (slotAddress block index) (getEncodedNull s)) s

/-! ## Registration -/

def releaseAllocation (s : Machine) (block : Word) (status : Status) :
    Status × Machine :=
  (status, if block ≠ 0 ∧ s.context.free then { s with released := block :: s.released } else s)

/-- A block that passed its checks is filled, and then the table gets it. -/
def fillBlock (s : Machine) (table callback block : Word) : Status × Machine :=
  let limit := block + initialStorageBytes
  let encodedCallback := encode s callback
  let encodedFirst := encode s block
  let encodedLast := encode s (block + 8)
  let encodedEnd := encode s limit
  if ¬ pointerMatches s encodedCallback callback ∨ ¬ pointerMatches s encodedFirst block ∨
      ¬ pointerMatches s encodedLast (block + 8) ∨ ¬ pointerMatches s encodedEnd limit then
    releaseAllocation s block .encodingUnavailable
  else
    let s := store (fillSlots s block) block encodedCallback
    let unusedSlotsAllNull := (List.range' 1 (initialStorageSlots - 1)).all fun index =>
      pointerMatches s (load s (slotAddress block index)) 0
    if ¬ pointerMatches s (load s block) callback ∨ ¬ unusedSlotsAllNull then
      releaseAllocation s block .invalidTableState
    else (.ok, storeTable s table encodedFirst encodedLast encodedEnd)

/-- The first registration asks the allocator, which answers with `block`. -/
def registerFirst (s : Machine) (table callback block : Word) : Status × Machine :=
  if ¬ s.context.allocate ∨ ¬ s.context.free then (.allocationFailed, s)
  else
    let s := { s with obtained := block :: s.obtained }
    match blockRefused s.context block with
    | some status => releaseAllocation s block status
    | none => fillBlock s table callback block

/-- A later registration writes the slot and the table, reads all four words back, and
restores them when one of them is not what it should be. -/
def storeSlot (s : Machine) (table first last limit : Word)
    (encodedCallback encodedFirst encodedLast encodedEnd : Word) : Status × Machine :=
  let s1 := storeTable (store s last encodedCallback) table encodedFirst encodedLast encodedEnd
  if decode s1 (tableLast s1 table) ≠ last + 8 ∨ decode s1 (tableFirst s1 table) ≠ first ∨
      decode s1 (tableEnd s1 table) ≠ limit ∨ load s1 last ≠ encodedCallback then
    (.invalidTableState,
      storeTable (store s1 last (load s last)) table (tableFirst s table) (tableLast s table)
        (tableEnd s table))
  else (.ok, s1)

def registerNext (s : Machine) (table callback first last limit : Word) :
    Status × Machine :=
  if last = limit then (.growthRequired, s)
  else if last = 0 ∨ limit = 0 ∨ last > uintptrMax - 8 then (.pointerOverflow, s)
  else if last + 8 > limit ∨ (last - first).toNat / 8 > uint32Max then (.capacityOverflow, s)
  else
    let encodedCallback := encode s callback
    if encodedCallback = 0 then (.encodingUnavailable, s)
    else
      let encodedFirst := encode s first
      let encodedLast := encode s (last + 8)
      let encodedEnd := encode s limit
      if ¬ pointerMatches s encodedCallback callback ∨ ¬ pointerMatches s encodedFirst first ∨
          ¬ pointerMatches s encodedLast (last + 8) ∨ ¬ pointerMatches s encodedEnd limit then
        (.encodingUnavailable, s)
      else storeSlot s table first last limit encodedCallback encodedFirst encodedLast encodedEnd

/-- The decoded state of the table decides between the two ways to register. -/
def registerStorage (s : Machine) (table callback block first last limit : Word) :
    Status × Machine :=
  if (first = 0 ∨ last = 0 ∨ limit = 0) ∧ ¬ (first = 0 ∧ last = 0 ∧ limit = 0) then
    (.invalidTableState, s)
  else if first = 0 then registerFirst s table callback block
  else
    match storageRefused s.context first last limit with
    | some status => (status, s)
    | none => registerNext s table callback first last limit

/-- The check of the callback. -/
def registerCallback (s : Machine) (table callback block first last limit : Word) :
    Status × Machine :=
  if callback = 0 then registerStorage s table callback block first last limit
  else if ¬ isCanonical callback then (.noncanonicalCallback, s)
  else if findAddress s.context callback true = none then (.nonexecutableCallback, s)
  else registerStorage s table callback block first last limit

/-- The table must be one of those that are known, when there are any. It is read and
decoded. -/
def registerKnown (s : Machine) (table callback block : Word) : Status × Machine :=
  if s.context.initializedTables.length ≠ 0 ∧ table ∉ s.context.initializedTables then
    (.tableNotInitialized, s)
  else
    let first := decode s (tableFirst s table)
    let last := decode s (tableLast s table)
    let limit := decode s (tableEnd s table)
    if ¬ pointerMatches s (getEncodedNull s) 0 then (.encodingUnavailable, s)
    else registerCallback s table callback block first last limit

/-- `gxos_crt_onexit_register_checked`, where `block` is what the allocator answers if it is
asked. -/
def registerChecked (s : Machine) (table callback block : Word) : Status × Machine :=
  if ¬ s.contextValid ∨ getEncodedNull s = 0 then (.invalidContext, s)
  else if table = 0 then (.nullTable, s)
  else if ¬ isCanonical table then (.noncanonicalTable, s)
  else if table > uintptrMax - tableBytes then (.pointerOverflow, s)
  else
    match findRange s.context table (table + tableBytes) true false with
    | none => (.unreadableTable, s)
    | some region =>
      if region.writable = 0 then (.unwritableTable, s)
      else registerKnown s table callback block

end Gate4Harness.OnexitMemory
