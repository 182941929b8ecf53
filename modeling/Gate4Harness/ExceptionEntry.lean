-- The entry of a fault: the stubs of the vectors, gxos_fault_common and the way back to the
-- interrupted code (exception_entry.S). A branch of the assembly is a branch here, and the code
-- between two branches is a list of instructions. The dispatcher, which is written in C, is a
-- parameter.
import Gate4Harness.Amd64

open ByteMemory Amd64 Amd64.State

namespace Gate4Harness.ExceptionEntry

/-! ## The machine -/

/-- `dispatchActive` is the variable `gxos_exception_dispatch_active`, which no stack overlaps. -/
structure Machine where
  cpu : State
  cs : BitVec 16
  ss : BitVec 16
  cr2 : BitVec 64
  dispatchActive : BitVec 32

namespace Machine

def exec (m : Machine) (code : List Instr) : Machine := { m with cpu := Amd64.exec code m.cpu }

def setGpr (m : Machine) (r : Reg) (v : BitVec 64) : Machine := { m with cpu := m.cpu.setGpr r v }

/-- `pushq $value`. -/
def pushImm (m : Machine) (value : Nat) : Machine :=
  { m with cpu := m.cpu.push (BitVec.ofNat 64 value) }

/-- `movq $value, offset(base)`. -/
def storeImm (m : Machine) (value offset : Nat) (base : Reg) : Machine :=
  let a := m.cpu.address offset base
  { m with cpu := m.cpu.setMemory (write m.cpu.memory a (BitVec.ofNat 64 value)) }

/-- `orq $value, offset(base)`. -/
def orImm (m : Machine) (value offset : Nat) (base : Reg) : Machine :=
  let a := m.cpu.address offset base
  let result := read m.cpu.memory a 64 ||| BitVec.ofNat 64 value
  { m with cpu := m.cpu.setMemory (write m.cpu.memory a result) }

/-- `movw %ss, dst`, which keeps the upper bits of the register. -/
def movwSs (m : Machine) (dst : Reg) : Machine :=
  m.setGpr dst ((m.cpu.gpr dst &&& ~~~0xFFFF#64) ||| m.ss.setWidth 64)

/-- `iretq`. -/
def iretq (m : Machine) : Machine :=
  let rsp := m.cpu.gpr .rsp
  let word (k : Nat) : BitVec 64 := read m.cpu.memory (up rsp (8 * k)) 64
  { m with
    cpu := { m.cpu.setGpr .rsp (word 3) with rip := word 0, rflags := word 2 }
    cs := (word 1).setWidth 16
    ss := (word 4).setWidth 16 }

end Machine

/-! ## The fault -/

/-- The processor has an error code for these vectors. -/
def errorVectors : List Nat := [8, 10, 11, 12, 13, 14, 17, 21, 29, 30]

/-- `code` counts only for the vectors that have an error code. -/
structure Fault where
  vector : Fin 32
  code : BitVec 64

/-- The error code that the handler is to see. -/
def Fault.errorCode (f : Fault) : BitVec 64 := if f.vector.val ∈ errorVectors then f.code else 0

def Canonical (a : Addr) : Prop := a.toNat < 2 ^ 47 ∨ 2 ^ 64 - 2 ^ 47 ≤ a.toNat

instance (a : Addr) : Decidable (Canonical a) := inferInstanceAs (Decidable (_ ∨ _))

/-- The words that the processor pushes, in this order. -/
def Fault.words (f : Fault) (m : Machine) : List (BitVec 64) :=
  [m.ss.setWidth 64, m.cpu.gpr .rsp, m.cpu.rflags, m.cs.setWidth 64, m.cpu.rip] ++
    if f.vector.val ∈ errorVectors then [f.code] else []

/-- The processor aligns the stack, pushes these words and clears VM, RF, NT, IF and TF. It
cannot do so at addresses that are not canonical. -/
def deliver (f : Fault) (m : Machine) : Option Machine :=
  let top := m.cpu.gpr .rsp &&& ~~~15#64
  if ∀ k < (f.words m).length, Canonical (top - BitVec.ofNat 64 (8 * (k + 1))) then
    let cpu := (f.words m).foldl push (m.cpu.setGpr .rsp top)
    some { m with cpu := { cpu with rflags := cpu.rflags &&& ~~~0x34300#64 } }
  else none

/-! ## The trap frame -/

def trapFrameSize : Nat := 224
def trapVector : Nat := 0
def trapError : Nat := 8
def trapFlags : Nat := 16
def trapRip : Nat := 152
def trapCs : Nat := 160
def trapRflags : Nat := 168
def trapSs : Nat := 184
def trapCr2 : Nat := 192
def trapRaw : Nat := 200
def entryCpuError : Nat := 1
def entrySyntheticError : Nat := 2
def entryCpuStack : Nat := 4
def entryDerivedRsp : Nat := 8

/-- `GXOS_TRAP_RAX` and its siblings. -/
def trapGpr : Reg → Nat
  | .rax => 32
  | .rbx => 40
  | .rcx => 48
  | .rdx => 56
  | .rsi => 64
  | .rdi => 72
  | .rbp => 80
  | .r8 => 88
  | .r9 => 96
  | .r10 => 104
  | .r11 => 112
  | .r12 => 120
  | .r13 => 128
  | .r14 => 136
  | .r15 => 144
  | .rsp => 176

/-- `GXOS_X64_TRAP_FRAME` without its reserved words. -/
structure TrapFrame where
  vector : BitVec 64
  errorCode : BitVec 64
  entryFlags : BitVec 64
  gpr : Reg → BitVec 64
  rip : BitVec 64
  cs : BitVec 64
  rflags : BitVec 64
  ss : BitVec 64
  cr2 : BitVec 64
  rawFrame : BitVec 64

/-- The trap frame at an address. -/
def trapFrameAt (memory : Memory) (a : Addr) : TrapFrame where
  vector := read memory (up a trapVector) 64
  errorCode := read memory (up a trapError) 64
  entryFlags := read memory (up a trapFlags) 64
  gpr r := read memory (up a (trapGpr r)) 64
  rip := read memory (up a trapRip) 64
  cs := read memory (up a trapCs) 64
  rflags := read memory (up a trapRflags) 64
  ss := read memory (up a trapSs) 64
  cr2 := read memory (up a trapCr2) 64
  rawFrame := read memory (up a trapRaw) 64

/-! ## The entry -/

/-- The vectors of `GXOS_FAULT_WITH_ERROR`. -/
def faultWithError : List Nat := [8, 10, 11, 12, 13, 14, 17, 21, 29, 30]

/-- `gxos_fault_with_error_n` or `gxos_fault_no_error_n`. -/
def stub (vector : Fin 32) (m : Machine) : Machine :=
  if vector.val ∈ faultWithError then m.pushImm vector else (m.pushImm 0).pushImm vector

/-- R10 points at the saved registers then, and R11 at the vector. -/
def saveRegisters : List Instr :=
  pushAll [.r15, .r14, .r13, .r12, .r11, .r10, .r9, .r8, .rbp, .rdi, .rsi, .rdx, .rcx, .rbx,
    .rax] ++
  [.movq .rsp .r11, .subq trapFrameSize .rsp, .leaq trapFrameSize .rsp .r10, .leaq 120 .r10 .r11]

/-- The words that follow the vector, the error code and the address of the raw frame. -/
def frameCopies : List (Reg × Nat × Nat) :=
  [(.r10, 0, trapGpr .rax), (.r10, 8, trapGpr .rbx), (.r10, 16, trapGpr .rcx),
    (.r10, 24, trapGpr .rdx), (.r10, 32, trapGpr .rsi), (.r10, 40, trapGpr .rdi),
    (.r10, 48, trapGpr .rbp), (.r10, 56, trapGpr .r8), (.r10, 64, trapGpr .r9),
    (.r10, 72, trapGpr .r10), (.r10, 80, trapGpr .r11), (.r10, 88, trapGpr .r12),
    (.r10, 96, trapGpr .r13), (.r10, 104, trapGpr .r14), (.r10, 112, trapGpr .r15),
    (.r11, 16, trapRip), (.r11, 24, trapCs), (.r11, 32, trapRflags)]

def copyToFrame : List Instr :=
  copyAll [(.r11, 0, trapVector), (.r11, 8, trapError)] ++ [.store .r11 trapRaw .rsp] ++
  copyAll frameCopies

def noteCr2 (m : Machine) : Machine :=
  (m.setGpr .rax m.cr2).exec [.store .rax trapCr2 .rsp]

/-- The comparisons of the vector before `.Lerror_source_ready`. -/
def noteErrorSource (m : Machine) : Machine :=
  let m := m.exec [.load trapVector .rsp .rax]
  if m.cpu.gpr .rax ∈ [8#64, 10#64, 11#64, 12#64, 13#64, 14#64, 17#64, 21#64, 29#64, 30#64] then
    m.storeImm entryCpuError trapFlags .rsp
  else m.storeImm entrySyntheticError trapFlags .rsp

/-- `.Lderived_stack_frame`. -/
def derivedStackFrame (m : Machine) : Machine :=
  (m.exec [.leaq 40 .r11 .rax, .store .rax (trapGpr .rsp) .rsp]).storeImm entryDerivedRsp
    trapFlags .rsp

/-- `.Lcpu_stack_frame`. -/
def cpuStackFrame (m : Machine) : Machine :=
  (m.exec [.load 40 .r11 .rax, .store .rax (trapGpr .rsp) .rsp,
    .load 48 .r11 .rax, .store .rax trapSs .rsp]).orImm entryCpuStack trapFlags .rsp

/-- The comparisons of the pair above the CPU frame: is it RSP and SS? -/
def testStackPair (m : Machine) : Machine :=
  if (m.cpu.gpr .rcx).setWidth 16 ≠ (m.cpu.gpr .rdx).setWidth 16 then derivedStackFrame m
  else
    let m := m.exec [.movq .rax .rcx, .shrq 48 .rcx]
    if m.cpu.gpr .rcx = 0#64 then cpuStackFrame m
    else if m.cpu.gpr .rcx ≠ 0xFFFF#64 then derivedStackFrame m
    else cpuStackFrame m

def loadStackPair (m : Machine) : Machine :=
  ((m.exec [.load 40 .r11 .rax, .load 48 .r11 .rcx]).setGpr .rdx 0).movwSs .rdx

def noteSs (m : Machine) : Machine :=
  ((m.setGpr .rax 0).movwSs .rax).exec [.store .rax trapSs .rsp, .load trapCs .rsp .rax]

/-- From `.Lerror_source_ready` to `.Lframe_ready`. -/
def noteStack (m : Machine) : Machine :=
  let m := noteSs m
  if m.cpu.gpr .rax &&& 3#64 ≠ 0 then cpuStackFrame m else testStackPair (loadStackPair m)

/-- `gxos_fault_common` up to `.Lframe_ready`. -/
def buildFrame (m : Machine) : Machine :=
  noteStack (noteErrorSource (noteCr2 ((m.exec saveRegisters).exec copyToFrame)))

/-- The call of `gxos_exception_dispatch`, which returns to `site`. -/
def callDispatch (site : Addr) (m : Machine) : Machine :=
  let m := { m with dispatchActive := 1 }.exec [.cld, .movq .rsp .r10]
  let m := m.setGpr .rsp (m.cpu.gpr .rsp &&& ~~~15#64)
  let m := m.exec [.subq 64 .rsp, .store .r10 48 .rsp, .movq .r10 .rcx]
  { m with cpu := m.cpu.push site }

/-- The state in which the dispatcher is entered, if the fault comes that far. -/
def dispatchEntry (site : Addr) (f : Fault) (m : Machine) : Option Machine :=
  match deliver f m with
  | none => none
  | some m =>
    let m := buildFrame (stub f.vector m)
    -- A nested fault is terminal.
    if m.dispatchActive ≠ 0 then none else some (callDispatch site m)

/-! ## The way back -/

/-- The dispatcher has returned `GXOS_EXCEPTION_CONTINUE_EXECUTION`. -/
def continues (m : Machine) : Prop := m.cpu.low .rax = 0xFFFFFFFF#32

instance (m : Machine) : Decidable (continues m) := inferInstanceAs (Decidable (_ = _))

def writeBack (m : Machine) : Machine :=
  let m := m.exec [.load trapRaw .r10 .rax, .load trapRip .r10 .r11, .store .r11 16 .rax,
    .load trapRflags .r10 .r11, .store .r11 32 .rax, .load trapFlags .r10 .r11]
  if m.cpu.gpr .r11 &&& BitVec.ofNat 64 entryCpuStack ≠ 0 then
    m.exec [.load (trapGpr .rsp) .r10 .r11, .store .r11 40 .rax, .load trapSs .r10 .r11,
      .store .r11 48 .rax]
  else m

/-- The registers that the entry restores, RSP and R10 apart. -/
def restoredGprs : List Reg :=
  [.rbx, .rcx, .rdx, .rsi, .rdi, .rbp, .r8, .r9, .r12, .r13, .r14, .r15, .rax, .r11]

/-- From `.Lno_cpu_rsp` to `iretq`. -/
def restoreRegisters (m : Machine) : Machine :=
  (m.exec ([.store .rax 48 .rsp] ++ loadAll .r10 (restoredGprs.map fun r => (r, trapGpr r)) ++
    [.load (trapGpr .r10) .r10 .r10, .load 48 .rsp .rsp, .addq 16 .rsp])).iretq

/-- What becomes of a fault. -/
inductive Ending
  | undelivered
  /-- `gxos_exception_nested_terminal` or `gxos_exception_fatal_dispatch`, which do not return. -/
  | terminal
  | resumed (m : Machine)

/-- The code behind the call of the dispatcher. -/
def afterDispatch (m : Machine) : Ending :=
  let m := m.exec [.load 48 .rsp .r10]
  if continues m then .resumed (restoreRegisters (writeBack m)) else .terminal

def handleFault (site : Addr) (dispatch : Machine → Machine) (f : Fault) (m : Machine) : Ending :=
  match deliver f m with
  | none => .undelivered
  | some _ =>
    match dispatchEntry site f m with
    | none => .terminal
    | some entry => afterDispatch (dispatch entry)

end Gate4Harness.ExceptionEntry
