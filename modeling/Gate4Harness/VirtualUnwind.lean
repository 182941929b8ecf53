-- The unwinder of gate4_loader.c, which the collector of the payload calls. It reads the
-- unwind data of the loaded image and changes the context in place, and where it gives up it
-- leaves the context as it is by then. The context lies apart from all that it reads.
import Gate4Harness.UnwindData
import Gate4Harness.Arena

namespace Gate4Harness.Unwind

open ByteMemory Amd64 UnwindData
open Vm (uint64Max uint32Max)
open scoped Vm

/-! ## What may be read -/

/-- The memory and what the loader knows of it. -/
structure World where
  managedImageBase : Nat
  managedImageSize : Nat
  stackLower : Nat
  stackUpper : Nat
  virtualArena : Vm.Arena := {}
  /-- The base and limit of the stack of each live thread of the scheduler. -/
  threadStacks : List (Nat × Nat) := []
  memory : Memory

def efiPageSize : Nat := 4096

def canonicalAddress (address : Nat) : Bool :=
  let upper := address / 2 ^ 48
  let sign := address / 2 ^ 47 % 2
  (decide (sign = 0) && decide (upper = 0)) || (decide (sign ≠ 0) && decide (upper = 0xFFFF))

def rangeWithin (address bytes lower upper : Nat) : Bool :=
  if bytes = 0 ∨ lower ≥ upper ∨ address < lower ∨ address > upper ∨
      address > uint64Max - bytes then false
  else
    decide (address + bytes ≤ upper) && canonicalAddress address &&
      canonicalAddress (address + bytes - 1)

/-- The page and the `count` pages after it are committed. -/
def pagesCommitted (arena : Vm.Arena) : Nat → Nat → Bool
  | 0, page => (Vm.findCommitment arena page).isSome
  | count + 1, page =>
    (Vm.findCommitment arena page).isSome && decide (page ≤ uint64Max - Vm.pageSize) &&
      pagesCommitted arena count (page + Vm.pageSize)

def committedArenaRange (arena : Vm.Arena) (address bytes : Nat) : Bool :=
  if ¬ arena.valid ∨ bytes = 0 ∨ address > uint64Max - bytes ∨ ¬ arena.contains address bytes then
    false
  else
    let page := Vm.pageDown address
    let lastPage := Vm.pageDown (address + bytes - 1)
    pagesCommitted arena ((lastPage - page) / Vm.pageSize) page

def readableRange (w : World) (address bytes : Nat) : Bool :=
  if w.managedImageBase = 0 ∨ w.managedImageSize = 0 ∨
      w.managedImageBase > uint64Max - w.managedImageSize then false
  else
    rangeWithin address bytes w.managedImageBase (w.managedImageBase + w.managedImageSize) ||
    rangeWithin address bytes w.stackLower w.stackUpper ||
    (decide (w.stackLower ≥ efiPageSize) &&
      rangeWithin address bytes (w.stackLower - efiPageSize) w.stackUpper) ||
    committedArenaRange w.virtualArena address bytes ||
    w.threadStacks.any fun stack => rangeWithin address bytes stack.1 stack.2

def addU64 (left : BitVec 64) (right : Nat) : Option (BitVec 64) :=
  if left.toNat > uint64Max - right then none else some (up left right)

/-- The word at the stack pointer, and the stack pointer above it. -/
def readStackU64 (w : World) (stackPointer : BitVec 64) : Option (BitVec 64 × BitVec 64) :=
  if ¬ readableRange w stackPointer.toNat 8 then none
  else (addU64 stackPointer 8).map fun next => (read w.memory stackPointer 64, next)

/-! ## One code -/

def unwindRegister (number : Nat) : Option Reg := registers[number]?

/-- The slots that a code takes up. -/
def slotCount (operation info : Nat) : Option Nat :=
  if operation = 1 then
    if info = 0 then some 2 else if info = 1 then some 3 else none
  else if operation = 4 ∨ operation = 8 then some 2
  else if operation = 5 ∨ operation = 9 then some 3
  else if operation = 0 ∨ operation = 2 ∨ operation = 3 ∨ operation = 10 then some 1
  else none

def operand (rest : List Slot) (i : Nat) : Nat := (rest[i]?.map Slot.value).getD 0

def operand16 (rest : List Slot) : Nat := operand rest 0

/-- The four bytes already have the second operand as their upper half. -/
def operand32 (rest : List Slot) : Nat :=
  (operand rest 0 + 65536 * operand rest 1) ||| (operand rest 1 <<< 16)

/-- What the loop does not change. -/
structure Loop where
  prologueOffset : Nat
  frameBase : BitVec 64
  frameRegister : Nat
  frameOffset : Nat

/-- A step gives the context, or it fails and leaves one. -/
abbrev Step := Except Context Context

def addToRsp (c : Context) (bytes : Nat) : Step :=
  match addU64 (c.gpr .rsp) bytes with
  | none => .error c
  | some rsp => .ok (c.setGpr .rsp rsp)

def pushNonvol (w : World) (info : Nat) (c : Context) : Step :=
  match unwindRegister info with
  | none => .error c
  | some r =>
    match readStackU64 w (c.gpr .rsp) with
    | none => .error c
    | some (value, next) => .ok ((c.setGpr .rsp next).setGpr r value)

def setFpreg (f : Loop) (c : Context) : Step :=
  match unwindRegister f.frameRegister with
  | none => .error c
  | some r =>
    let value := f.frameOffset * 16
    if (c.gpr r).toNat < value then .error c
    else .ok (c.setGpr .rsp (c.gpr r - BitVec.ofNat 64 value))

def saveNonvol (w : World) (f : Loop) (info value : Nat) (c : Context) : Step :=
  match unwindRegister info with
  | none => .error c
  | some r =>
    if value > (uint64Max - f.frameBase.toNat) / 8 then .error c
    else
      let address := up f.frameBase (value * 8)
      if ¬ readableRange w address.toNat 8 then .error c
      else .ok (c.setGpr r (read w.memory address 64))

def saveNonvolFar (w : World) (f : Loop) (info value : Nat) (c : Context) : Step :=
  match unwindRegister info with
  | none => .error c
  | some r =>
    match addU64 f.frameBase value with
    | none => .error c
    | some address =>
      if ¬ readableRange w address.toNat 8 then .error c
      else .ok (c.setGpr r (read w.memory address 64))

/-- The switch over the operations. Those of the vector registers do nothing. -/
def undoCode (w : World) (f : Loop) (operation info : Nat) (rest : List Slot) (c : Context) :
    Step :=
  match operation with
  | 0 => pushNonvol w info c
  | 1 =>
    if info = 0 then addToRsp c (operand16 rest * 8)
    else if info = 1 then addToRsp c (operand32 rest)
    else .ok c
  | 2 => addToRsp c (info * 8 + 8)
  | 3 => setFpreg f c
  | 4 => saveNonvol w f info (operand16 rest) c
  | 5 => saveNonvolFar w f info (operand32 rest) c
  | 10 => addToRsp c (if info = 0 then 40 else 48)
  | _ => .ok c

/-- The loop over the codes. The number is how many slots are still operands of the last code. -/
def undoCodes (w : World) (f : Loop) : List Slot → Nat → Context → Step
  | [], _, c => .ok c
  | _ :: rest, operands + 1, c => undoCodes w f rest operands c
  | code :: rest, 0, c =>
    match slotCount code.operation code.info with
    | none => .error c
    | some slots =>
      if slots > rest.length + 1 then .error c
      else if code.low > f.prologueOffset then undoCodes w f rest (slots - 1) c
      else
        match undoCode w f code.operation code.info rest c with
        | .error c => .error c
        | .ok c => undoCodes w f rest (slots - 1) c

/-! ## The call -/

structure Arguments where
  imageBase : Nat
  controlPc : Nat
  /-- Where the RUNTIME_FUNCTION is, and what it says. -/
  functionEntry : Nat
  function : RuntimeFunction
  contextRecord : Nat

/-- What the call writes to. A pointer that is null stands as `none`. -/
structure Target where
  context : Context
  handlerData : Option (BitVec 64)
  establisherFrame : Option (BitVec 64)

structure Diagnostics where
  calls : BitVec 32 := 0
  failures : BitVec 32 := 0
  lastContext : Nat := 0
  lastContextRsp : BitVec 64 := 0
  lastContextRip : BitVec 64 := 0
  lastControlPc : Nat := 0

def sizeofRuntimeFunction : Nat := 12
def sizeofContext : Nat := 256

/-- The checks of the arguments up to where the context is first looked at. They give the
offset in the function and the data of the function. -/
def unwindInfo (w : World) (a : Arguments) : Option (Nat × Addr) :=
  if a.imageBase = 0 ∨ a.imageBase ≠ w.managedImageBase ∨ a.functionEntry = 0 ∨
      a.contextRecord = 0 ∨ ¬ readableRange w a.functionEntry sizeofRuntimeFunction ∨
      ¬ readableRange w a.contextRecord sizeofContext ∨ a.controlPc < a.imageBase ∨
      w.managedImageSize = 0 ∨ a.controlPc - a.imageBase > uint32Max then none
  else
    let controlRva := a.controlPc - a.imageBase
    let f := a.function
    if f.beginAddress ≥ f.endAddress ∨ f.endAddress > w.managedImageSize ∨
        controlRva < f.beginAddress ∨ controlRva ≥ f.endAddress ∨ f.unwindData < 0x1000 then none
    else
      let unwindRva := f.unwindData / 4 * 4
      if w.managedImageSize < 4 ∨ unwindRva > w.managedImageSize - 4 then none
      else
        let info := up (BitVec.ofNat 64 a.imageBase) unwindRva
        if 2 * byteAt w.memory info 2 > w.managedImageSize - unwindRva - 4 then none
        else some (controlRva - f.beginAddress, info)

/-- The failure exit, with the context that the loop left. -/
def unwindFailure (c : Context) (t : Target) (d : Diagnostics) : Target × Diagnostics :=
  ({ t with context := c }, { d with failures := d.failures + 1 })

/-- `platform_rtl_virtual_unwind`, which returns 0 in any case. -/
def platformRtlVirtualUnwind (w : World) (a : Arguments) (t : Target) (d : Diagnostics) :
    Target × Diagnostics :=
  let d := { d with
    calls := d.calls + 1, lastContext := a.contextRecord, lastContextRsp := 0
    lastContextRip := 0, lastControlPc := a.controlPc }
  match unwindInfo w a with
  | none => unwindFailure t.context t d
  | some (prologueOffset, info) =>
    let d := { d with
      lastContextRsp := t.context.gpr .rsp, lastContextRip := t.context.rip }
    let frameBefore := t.context.gpr .rsp
    let f : Loop :=
      { prologueOffset, frameBase := frameBefore
        frameRegister := byteAt w.memory info 3 % 16
        frameOffset := byteAt w.memory info 3 / 16 }
    match undoCodes w f (slotsAt w.memory (up info 4) (byteAt w.memory info 2)) 0 t.context with
    | .error c => unwindFailure c t d
    | .ok c =>
      match readStackU64 w (c.gpr .rsp) with
      | none => unwindFailure c t d
      | some (value, next) =>
        ({ context := { c.setGpr .rsp next with rip := value }
           establisherFrame := t.establisherFrame.map fun _ => frameBefore
           handlerData := t.handlerData.map fun _ => 0 }, d)

end Gate4Harness.Unwind
