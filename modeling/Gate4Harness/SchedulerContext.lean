-- The stack switch of the scheduler (src/Gate4Harness/scheduler_context.S) and the wrappers
-- that wait: what they save, the known values that they put in the registers, the C functions
-- that they call, and what they restore.
import Gate4Harness.Amd64

open ByteMemory Amd64

namespace Gate4Harness.SchedulerContext

/-! ## The context switch -/

/-- Where a `GXOS_SCHEDULER_CONTEXT` keeps the general registers. -/
def contextGprs : List (Reg × Nat) :=
  [(.rbx, 0), (.rbp, 8), (.rsi, 16), (.rdi, 24), (.r12, 32), (.r13, 40), (.r14, 48), (.r15, 56)]

def contextXmms : List (Xmm × Nat) :=
  [(6, 104), (7, 120), (8, 136), (9, 152), (10, 168), (11, 184), (12, 200), (13, 216),
    (14, 232), (15, 248)]

/-- `IA32_KERNEL_GS_BASE`. -/
def gsBase : BitVec 32 := 0xC0000101#32

/-- The flags that are saved, without IF and DF. -/
def flagsMask : BitVec 64 := 0xFFFFFFFFFFFFF9FF#64

/-- The start of the switch, up to where it hands out the old context. -/
def saveContext : List Instr :=
  [.subq 320 .rsp, .store .rcx 0 .rsp, .store .rdx 8 .rsp, .leaq 16 .rsp .rax] ++
  storeAll .rax contextGprs ++
  [.leaq 328 .rsp .r10, .store .r10 64 .rax, .load 320 .rsp .r10, .store .r10 72 .rax,
    .pushfq, .popq .r10, .movabsq flagsMask .r11, .andq .r11 .r10, .store .r10 80 .rax,
    .stmxcsr 88 .rax, .fnstcw 92 .rax,
    .movlImm gsBase .rcx, .rdmsr, .shlq 32 .rdx, .orq .rdx .rax,
    .leaq 16 .rsp .r11, .store .rax 96 .r11] ++
  storeXmms .r11 contextXmms ++
  [.load 0 .rsp .r10, .store .r11 0 .r10]

/-- The new context, and its return address, stack pointer and flags put aside. -/
def chooseContext : List Instr :=
  [.load 8 .rsp .r11,
    .load 72 .r11 .r10, .store .r10 288 .rsp,
    .load 64 .r11 .r10, .store .r10 296 .rsp,
    .load 80 .r11 .r10, .store .r10 304 .rsp]

def loadContext : List Instr :=
  loadAll .r11 contextGprs ++ loadXmms .r11 contextXmms ++ [.ldmxcsr 88 .r11, .fldcw 92 .r11]

/-- The end of the switch: the GS base, the flags, the stack and the jump. -/
def enterContext : List Instr :=
  [.load 96 .r11 .r10, .movl .r10 .rax, .shrq 32 .r10, .movl .r10 .rdx,
    .movlImm gsBase .rcx, .wrmsr,
    .load 304 .rsp .rax, .pushq .rax, .popfq, .cld,
    .load 288 .rsp .rax, .load 296 .rsp .r10, .movq .r10 .rsp, .jmp .rax]

/-- `gxos_scheduler_context_switch`. -/
def contextSwitch : List Instr := saveContext ++ chooseContext ++ loadContext ++ enterContext

/-! ## Snapshots and sentinels -/

def snapshotXmms : List (Xmm × Nat) :=
  [(6, 64), (7, 80), (8, 96), (9, 112), (10, 128), (11, 144), (12, 160), (13, 176), (14, 192),
    (15, 208)]

def captureRegisters : List Instr :=
  [.movq .rcx .r11] ++
  -- The first eight words of a snapshot and of a context are the same registers.
  storeAll .r11 contextGprs ++
  storeXmms .r11 snapshotXmms ++
  [.stmxcsr 224 .r11, .fnstcw 228 .r11, .store .rsp 232 .r11,
    .pushfq, .popq .r10, .store .r10 240 .r11,
    .movlImm gsBase .rcx, .rdmsr, .shlq 32 .rdx, .orq .rdx .rax, .store .rax 248 .r11, .ret]

/-- The registers that hold sentinels, in the order of their numbers. -/
def sentinelGprs : List Reg := [.rbx, .rbp, .rsi, .rdi, .r12, .r13, .r14, .r15]

/-- Two quadwords of `.rdata` as they are loaded, the first one lowest. -/
def quads (low high : BitVec 64) : BitVec 128 := high ++ low

/-- `gxos_main_xmm6` to `gxos_main_xmm15`. -/
def mainXmms : List (Xmm × BitVec 128) :=
  [(6, quads 0x4D4D4D4D00000006 0x0606060606060606),
    (7, quads 0x4D4D4D4D00000007 0x0707070707070707),
    (8, quads 0x4D4D4D4D00000008 0x0808080808080808),
    (9, quads 0x4D4D4D4D00000009 0x0909090909090909),
    (10, quads 0x4D4D4D4D0000000A 0x0A0A0A0A0A0A0A0A),
    (11, quads 0x4D4D4D4D0000000B 0x0B0B0B0B0B0B0B0B),
    (12, quads 0x4D4D4D4D0000000C 0x0C0C0C0C0C0C0C0C),
    (13, quads 0x4D4D4D4D0000000D 0x0D0D0D0D0D0D0D0D),
    (14, quads 0x4D4D4D4D0000000E 0x0E0E0E0E0E0E0E0E),
    (15, quads 0x4D4D4D4D0000000F 0x0F0F0F0F0F0F0F0F)]

/-- `gxos_worker_xmm6` to `gxos_worker_xmm15`. -/
def workerXmms : List (Xmm × BitVec 128) :=
  [(6, quads 0x5757575700000006 0x1616161616161616),
    (7, quads 0x5757575700000007 0x1717171717171717),
    (8, quads 0x5757575700000008 0x1818181818181818),
    (9, quads 0x5757575700000009 0x1919191919191919),
    (10, quads 0x575757570000000A 0x1A1A1A1A1A1A1A1A),
    (11, quads 0x575757570000000B 0x1B1B1B1B1B1B1B1B),
    (12, quads 0x575757570000000C 0x1C1C1C1C1C1C1C1C),
    (13, quads 0x575757570000000D 0x1D1D1D1D1D1D1D1D),
    (14, quads 0x575757570000000E 0x1E1E1E1E1E1E1E1E),
    (15, quads 0x575757570000000F 0x1F1F1F1F1F1F1F1F)]

/-- Eight general registers take the numbers after `first`, the vector registers and the
control words take constants. -/
def setSentinels (first : BitVec 64) (xmms : List (Xmm × BitVec 128)) (mxcsr : BitVec 32)
    (fpuControl : BitVec 16) : List Instr :=
  sentinelGprs.mapIdx (fun i r => .movabsq (first + BitVec.ofNat 64 (i + 1)) r) ++
  xmms.map (fun e => .constXmm e.2 e.1) ++ [.constMxcsr mxcsr, .constFpu fpuControl, .ret]

def setMainSentinels : List Instr :=
  setSentinels 0x4D4D000000000000 mainXmms 0x00001F80 0x037F

def setWorkerSentinels : List Instr :=
  setSentinels 0x5757000000000000 workerXmms 0x00003F80 0x077F

/-! ## The frame of a wrapper -/

def frameGprs : List (Reg × Nat) :=
  [(.rbx, 120), (.rbp, 128), (.rsi, 136), (.rdi, 144), (.r12, 152), (.r13, 160), (.r14, 168),
    (.r15, 176)]

def frameXmms : List (Xmm × Nat) :=
  [(6, 200), (7, 216), (8, 232), (9, 248), (10, 264), (11, 280), (12, 296), (13, 312),
    (14, 328), (15, 344)]

/-- The opening of a wrapper, the same in all three but for the arguments that it keeps. -/
def openFrame (arguments : List (Reg × Nat)) : List Instr :=
  [.subq 456 .rsp] ++ storeAll .rsp arguments ++ storeAll .rsp frameGprs ++
  [.pushfq, .popq .r10, .movabsq flagsMask .r11, .andq .r11 .r10, .store .r10 184 .rsp,
    .stmxcsr 192 .rsp, .fnstcw 196 .rsp] ++
  storeXmms .rsp frameXmms

/-- What a wrapper restores, the same in all three. -/
def restoreFrame : List Instr :=
  loadAll .rsp frameGprs ++
  [.ldmxcsr 192 .rsp, .fldcw 196 .rsp, .load 184 .rsp .rax, .pushq .rax, .popfq, .cld]

def closeFrame : List Instr := [.addq 456 .rsp, .ret]

/-! ## The wrappers -/

inductive Wrapper where
  | mainBlock | workerWait | mainDispatch
  deriving DecidableEq, Repr

/-- The code around the wrappers. `elsewhere` is the rest of the machine while a thread is
switched out: it is given the state in which the thread enters the switch and the one in
which control leaves it, and ends where control enters the switch to come back. -/
structure Environment where
  prepareWait : State → State
  finishWait : State → State
  prepareYield : State → State
  pendingPlan : State → State
  elsewhere : State → State → State
  /-- The address after the call with that number. -/
  site : Wrapper → Nat → Addr

/-- The switch away and the switch back. -/
def switchAndBack (env : Environment) (s : State) : State :=
  exec contextSwitch (env.elsewhere s (exec contextSwitch s))

/-- A call comes back when control is at the address that it pushed. -/
def call (site : Addr) (callee : State → State) (s : State) : Option State :=
  let t := callee (s.push site)
  if t.rip = site then some t else none

/-- The arguments that `gxos_scheduler_main_block` and `gxos_scheduler_worker_wait` keep. -/
def waitArguments : List (Reg × Nat) := [(.rcx, 40), (.rdx, 48), (.r8, 56)]

def dispatchArguments : List (Reg × Nat) := [(.rcx, 40)]

def loadPlan : List Instr := [.load 64 .rsp .rcx, .load 72 .rsp .rdx]

/-- `gxos_scheduler_main_block` up to the answer of `gxos_scheduler_prepare_wait`. -/
def mainBlockAsks (env : Environment) (s : State) : Option State := do
  let s ← call (env.site .mainBlock 0) (exec setMainSentinels) (exec (openFrame waitArguments) s)
  call (env.site .mainBlock 1) env.prepareWait (exec [.load 40 .rsp .rcx, .leaq 64 .rsp .rdx] s)

/-- `gxos_scheduler_main_block_after_switch`. -/
def mainBlockAfterSwitch (env : Environment) (s : State) : Option State := do
  let s ← call (env.site .mainBlock 3) env.finishWait (exec [.load 40 .rsp .rcx] s)
  let s ← call (env.site .mainBlock 4) (exec captureRegisters)
    (exec [.movl .rax .r10, .load 56 .rsp .rcx, .storel .r10 0 .rcx, .load 48 .rsp .rcx] s)
  some (exec (restoreFrame ++ closeFrame) s)

/-- The rest of `gxos_scheduler_main_block`. `none` stands for the trap of
`gxos_scheduler_switch_failure`. -/
def mainBlockAnswered (env : Environment) (s : State) : Option State :=
  if (s.low .rax).slt 0 then none
  else if s.low .rax ≠ 0 then mainBlockAfterSwitch env s
  else (call (env.site .mainBlock 2) (switchAndBack env) (exec loadPlan s)).bind
    (mainBlockAfterSwitch env)

/-- `gxos_scheduler_worker_wait` up to the answer of `gxos_scheduler_prepare_wait`. -/
def workerWaitAsks (env : Environment) (s : State) : Option State :=
  call (env.site .workerWait 0) env.prepareWait
    (exec (openFrame waitArguments ++ [.load 40 .rsp .rcx, .leaq 64 .rsp .rdx]) s)

/-- `gxos_scheduler_worker_wait_finish_immediate`. -/
def workerWaitFinishImmediate (env : Environment) (s : State) : Option State := do
  let s ← call (env.site .workerWait 4) env.finishWait (exec [.load 40 .rsp .rcx] s)
  some (exec ([.movl .rax .r10, .load 56 .rsp .rcx, .storel .r10 0 .rcx] ++ closeFrame) s)

/-- A wait that blocks: only then there are sentinels in the registers of a worker. -/
def workerWaitBlocked (env : Environment) (s : State) : Option State := do
  let s ← call (env.site .workerWait 1) (exec setWorkerSentinels) s
  let s ← call (env.site .workerWait 2) (switchAndBack env) (exec loadPlan s)
  let s ← call (env.site .workerWait 3) (exec captureRegisters) (exec [.load 48 .rsp .rcx] s)
  workerWaitFinishImmediate env (exec restoreFrame s)

/-- The rest of `gxos_scheduler_worker_wait`. -/
def workerWaitAnswered (env : Environment) (s : State) : Option State :=
  if (s.low .rax).slt 0 then none
  else if s.low .rax ≠ 0 then workerWaitFinishImmediate env s
  else workerWaitBlocked env s

/-- `gxos_scheduler_main_dispatch` up to the answer of `gxos_scheduler_prepare_yield`, whose
argument is still the snapshot that the wrapper was called with. -/
def mainDispatchAsks (env : Environment) (s : State) : Option State := do
  let s ← call (env.site .mainDispatch 0) (exec setMainSentinels)
    (exec (openFrame dispatchArguments) s)
  call (env.site .mainDispatch 1) env.prepareYield (exec [.leaq 64 .rsp .rdx] s)

/-- `gxos_scheduler_main_dispatch_capture`. -/
def mainDispatchCapture (env : Environment) (s : State) : Option State := do
  let s ← call (env.site .mainDispatch 4) (exec captureRegisters) (exec [.load 40 .rsp .rcx] s)
  some (exec (restoreFrame ++ closeFrame) s)

/-- A dispatch that goes to another thread, on the plan that the scheduler keeps. -/
def mainDispatchSwitch (env : Environment) (s : State) : Option State := do
  let s ← call (env.site .mainDispatch 2) env.pendingPlan s
  let s ← call (env.site .mainDispatch 3) (switchAndBack env)
    (exec [.load 0 .rax .rcx, .load 8 .rax .rdx] s)
  mainDispatchCapture env s

/-- The rest of `gxos_scheduler_main_dispatch`. -/
def mainDispatchAnswered (env : Environment) (s : State) : Option State :=
  if s.low .rax = 0 then mainDispatchCapture env s else mainDispatchSwitch env s

def Wrapper.asks (env : Environment) : Wrapper → State → Option State
  | .mainBlock => mainBlockAsks env
  | .workerWait => workerWaitAsks env
  | .mainDispatch => mainDispatchAsks env

def Wrapper.answered (env : Environment) : Wrapper → State → Option State
  | .mainBlock => mainBlockAnswered env
  | .workerWait => workerWaitAnswered env
  | .mainDispatch => mainDispatchAnswered env

/-- A run of a wrapper from its first instruction to its return. -/
def Wrapper.run (w : Wrapper) (env : Environment) (s : State) : Option State :=
  (w.asks env s).bind (w.answered env)

end Gate4Harness.SchedulerContext
