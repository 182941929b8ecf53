-- The unwind data of Windows x64: how an UNWIND_INFO is laid out in memory, and the
-- procedure that takes the registers of a function's caller from it. The procedure is the
-- documented one for an address outside of an epilogue.
import Gate4Harness.Amd64

namespace UnwindData

open ByteMemory Amd64

/-! ## The format -/

/-- Two bytes of the code array: a code, or an operand of one. -/
structure Slot where
  low : Nat
  high : Nat
  deriving DecidableEq, Repr

namespace Slot

def operation (s : Slot) : Nat := s.high % 16
def info (s : Slot) : Nat := s.high / 16
def value (s : Slot) : Nat := s.low + 256 * s.high

end Slot

/-- The registers in the order of their numbers. -/
def registers : List Reg :=
  [.rax, .rcx, .rdx, .rbx, .rsp, .rbp, .rsi, .rdi, .r8, .r9, .r10, .r11, .r12, .r13, .r14, .r15]

inductive Code
  | pushNonvol (r : Reg)
  | alloc (bytes : Nat)
  | setFpreg
  | saveNonvol (r : Reg) (offset : Nat)
  | saveXmm
  | pushMachframe (errorCode : Bool)
  deriving DecidableEq, Repr

/-- A code with the offset in the function at which its instruction ends. -/
structure Entry where
  offset : Nat
  code : Code
  deriving DecidableEq, Repr

/-- The first code of an array and the slots after it. Offsets of saves count in eights, but
for the far ones. -/
def decodeOne : List Slot → Option (Code × List Slot)
  | [] => none
  | s :: rest =>
    match s.operation, rest with
    | 0, rest => registers[s.info]?.map fun r => (.pushNonvol r, rest)
    | 1, x :: rest =>
      match s.info, rest with
      | 0, rest => some (.alloc (8 * x.value), rest)
      | 1, y :: rest => some (.alloc (x.value + 65536 * y.value), rest)
      | _, _ => none
    | 2, rest => some (.alloc (8 * s.info + 8), rest)
    | 3, rest => some (.setFpreg, rest)
    | 4, x :: rest => registers[s.info]?.map fun r => (.saveNonvol r (8 * x.value), rest)
    | 5, x :: y :: rest =>
      registers[s.info]?.map fun r => (.saveNonvol r (x.value + 65536 * y.value), rest)
    | 8, _ :: rest => some (.saveXmm, rest)
    | 9, _ :: _ :: rest => some (.saveXmm, rest)
    | 10, rest => some (.pushMachframe (s.info ≠ 0), rest)
    | _, _ => none

/-- The codes of an array. Each takes a slot at least, so that as many turns as there are slots
are enough. -/
def decode : Nat → List Slot → Option (List Entry)
  | _, [] => some []
  | 0, _ :: _ => none
  | turns + 1, s :: rest =>
    match decodeOne (s :: rest) with
    | none => none
    | some (code, rest) => (decode turns rest).map ({ offset := s.low, code } :: ·)

/-- The codes up to the first place where the array is not well formed. -/
def wellFormed : Nat → List Slot → List Entry
  | turns + 1, s :: rest =>
    match decodeOne (s :: rest) with
    | none => []
    | some (code, rest) => { offset := s.low, code } :: wellFormed turns rest
  | _, _ => []

def entries (slots : List Slot) : Option (List Entry) := decode slots.length slots

structure RuntimeFunction where
  beginAddress : Nat
  endAddress : Nat
  unwindData : Nat
  deriving DecidableEq, Repr

/-- The fields of an UNWIND_INFO. -/
structure Info where
  version : Nat
  flags : Nat
  sizeOfProlog : Nat
  frameRegister : Nat
  frameOffset : Nat
  slots : List Slot
  /-- What follows the code array where the flags say that there is a chain. -/
  next : RuntimeFunction
  deriving DecidableEq, Repr

def byteAt (m : Memory) (a : Addr) (k : Nat) : Nat := (m (up a k)).toNat

def wordAt (m : Memory) (a : Addr) (k : Nat) : Nat := (read m (up a k) 32).toNat

def slotsAt (m : Memory) (a : Addr) (count : Nat) : List Slot :=
  (List.range count).map fun i => ⟨byteAt m a (2 * i), byteAt m a (2 * i + 1)⟩

/-- The array has an even number of slots, one of which may not be in use. -/
def infoAt (m : Memory) (a : Addr) : Info :=
  let count := byteAt m a 2
  let next := 4 + 2 * (count + count % 2)
  { version := byteAt m a 0 % 8
    flags := byteAt m a 0 / 8
    sizeOfProlog := byteAt m a 1
    frameRegister := byteAt m a 3 % 16
    frameOffset := byteAt m a 3 / 16
    slots := slotsAt m (up a 4) count
    next := ⟨wordAt m a next, wordAt m a (next + 4), wordAt m a (next + 8)⟩ }

def Info.chained (info : Info) : Bool := decide (info.flags / 4 % 2 = 1)

/-- The register that the function uses as its frame pointer, and how far above the frame it
points. Number 0 stands for none. -/
def Info.frame (info : Info) : Option (Reg × Nat) :=
  if info.frameRegister = 0 then none
  else registers[info.frameRegister]?.map fun r => (r, 16 * info.frameOffset)

/-! ## The procedure -/

/-- The registers that unwinding follows. -/
structure Context where
  gpr : Reg → BitVec 64
  rip : BitVec 64

def Context.setGpr (c : Context) (r : Reg) (v : BitVec 64) : Context :=
  { c with gpr := Function.update c.gpr r v }

/-- What takes the effect of a code back. Saved registers are found from the base of the frame.
A code that sets the frame pointer needs a function that has one. -/
def undo (m : Memory) (frame : Option (Reg × Nat)) (base : BitVec 64) (c : Context) :
    Code → Option Context
  | .pushNonvol r =>
    let rsp := c.gpr .rsp
    some ((c.setGpr .rsp (up rsp 8)).setGpr r (read m rsp 64))
  | .alloc bytes => some (c.setGpr .rsp (up (c.gpr .rsp) bytes))
  | .setFpreg => frame.map fun e => c.setGpr .rsp (c.gpr e.1 - BitVec.ofNat 64 e.2)
  | .saveNonvol r offset => some (c.setGpr r (read m (up base offset) 64))
  | .saveXmm => some c
  -- RIP, CS, the flags, RSP and SS, over an error code if there is one
  | .pushMachframe errorCode =>
    let rsp := up (c.gpr .rsp) (if errorCode then 8 else 0)
    some { c.setGpr .rsp (read m (up rsp 24) 64) with rip := read m rsp 64 }

def undoAll (m : Memory) (frame : Option (Reg × Nat)) (base : BitVec 64) (c : Context)
    (codes : List Code) : Option Context :=
  codes.foldlM (undo m frame base) c

/-- The codes whose instructions have ended. -/
def reached (offset : Nat) (l : List Entry) : List Code :=
  (l.filter fun e => e.offset ≤ offset).map Entry.code

def isMachframe : Code → Bool
  | .pushMachframe _ => true
  | _ => false

/-- The frame pointer is set up: the prologue is over, or the code that sets it has ended. -/
def Info.established (info : Info) (offset : Nat) (l : List Entry) : Bool :=
  decide (info.sizeOfProlog ≤ offset) || info.chained ||
    (reached offset l).any fun code => decide (code = .setFpreg)

/-- Where the offsets of saved registers count from. -/
def Info.base (info : Info) (offset : Nat) (l : List Entry) (c : Context) : BitVec 64 :=
  match info.frame with
  | none => c.gpr .rsp
  | some (r, bytes) =>
    if info.established offset l then c.gpr r - BitVec.ofNat 64 bytes else c.gpr .rsp

/-- The codes of the functions that a chain of unwind data goes on to. All of them have ended.
The answer says besides if the last stack was that of a machine frame. -/
def undoChain (m : Memory) (imageBase base : BitVec 64) :
    Nat → RuntimeFunction → Context → Option (Context × Bool)
  | 0, _, _ => none
  | depth + 1, f, c => do
    let info := infoAt m (up imageBase f.unwindData)
    if info.version ≠ 1 ∨ f.unwindData % 4 ≠ 0 then none
    else
      let l ← entries info.slots
      let codes := l.map Entry.code
      let c' ← undoAll m info.frame base c codes
      if info.chained then
        let (c', framed) ← undoChain m imageBase base depth info.next c'
        return (c', framed || codes.any isMachframe)
      else return (c', codes.any isMachframe)

/-- The context of the caller with the frame of the function. There is none where the data is
not as documented: a version other than 1, an unknown code, a place that is not aligned. -/
def unwind (m : Memory) (imageBase : BitVec 64) (depth : Nat) (f : RuntimeFunction)
    (offset : Nat) (c : Context) : Option (Context × BitVec 64) := do
  let info := infoAt m (up imageBase f.unwindData)
  if info.version ≠ 1 ∨ f.unwindData % 4 ≠ 0 then none
  else
    let l ← entries info.slots
    let base := info.base offset l c
    let c' ← undoAll m info.frame base c (reached offset l)
    let framed := (reached offset l).any isMachframe
    let (c', framed) ← if info.chained then do
        let (c', framed') ← undoChain m imageBase base depth info.next c'
        pure (c', framed || framed')
      else pure (c', framed)
    if framed then return (c', base)
    else
      let rsp := c'.gpr .rsp
      return ({ c'.setGpr .rsp (up rsp 8) with rip := read m rsp 64 }, base)

end UnwindData
