-- The records of the cooperative scheduler (scheduler_foundation.h): thread
-- control blocks, events, wait records, object records and the scheduler that
-- holds their tables. A pointer into a table is the index of its entry, and a
-- null pointer is `none`. `zero_bytes` on a record gives the record of all
-- defaults.
import Mathlib.Algebra.GroupWithZero.Nat
import Mathlib.Logic.Function.Basic
import Mathlib.Tactic.Common

namespace Gate4Harness.Scheduler

/-! ## Limits and codes -/

abbrev maxThreads : Nat := 6
abbrev maxEvents : Nat := 12
abbrev maxObjects : Nat := 16
abbrev maxWaiters : Nat := maxThreads
abbrev maxWaitRecords : Nat := maxThreads

scoped instance neZero_maxThreads : NeZero maxThreads := ⟨by decide⟩
scoped instance neZero_maxEvents : NeZero maxEvents := ⟨by decide⟩
scoped instance neZero_maxObjects : NeZero maxObjects := ⟨by decide⟩

def flsSlots : Nat := 64
def pageSize : Nat := 4096
def stackSize : Nat := 16384
def stackPages : Nat := stackSize / pageSize
def canaryBytes : Nat := 16
def tlsOffset : Nat := 0x100
def handleMagic : Nat := 0xA7

def waitObject0 : Nat := 0x00000000
def waitTimeout : Nat := 0x00000102
def waitFailed : Nat := 0xFFFFFFFF
def infinite : Nat := 0xFFFFFFFF
def uint32Max : Nat := 0xFFFFFFFF
def uint64Max : Nat := 0xFFFFFFFFFFFFFFFF

abbrev ThreadSlot := Fin maxThreads
abbrev EventSlot := Fin maxEvents
abbrev ObjectSlot := Fin maxObjects
abbrev RecordSlot := Fin maxWaitRecords

inductive ThreadState
  | free
  | createdSuspended
  | runnable
  | running
  | blocked
  | terminated
  deriving DecidableEq, Repr

inductive ObjectType
  | free
  | thread
  | event
  | memoryResourceNotification
  | standardStream
  deriving DecidableEq, Repr

/-- The type byte of an object in its handle. -/
def ObjectType.code : ObjectType → Nat
  | .free => 0
  | .thread => 1
  | .event => 2
  | .memoryResourceNotification => 3
  | .standardStream => 4

inductive WaitResult
  | failure
  | blocked
  | signaled
  | timedOut
  deriving DecidableEq, Repr

/-! ## The records -/

/-- The saved registers of a thread that never ran. The vector registers are left
out: creation clears them and no C function reads them. -/
structure Context where
  rbx : Nat := 0
  rbp : Nat := 0
  rsi : Nat := 0
  rdi : Nat := 0
  r12 : Nat := 0
  r13 : Nat := 0
  r14 : Nat := 0
  r15 : Nat := 0
  rsp : Nat := 0
  rip : Nat := 0
  rflags : Nat := 0
  mxcsr : Nat := 0
  x87Control : Nat := 0
  gsBase : Nat := 0

/-- Where a `saved_context` pointer points: at the context record inside the TCB, or
at a frame that the context switch left on the stack of the thread. -/
inductive ContextPtr
  | initial (thread : ThreadSlot)
  | frame (address : Nat)
  deriving DecidableEq, Repr

/-- `old_context` is the address of the `saved_context` field of a thread. -/
structure SwitchPlan where
  oldContext : Option ThreadSlot := none
  newContext : Option ContextPtr := none
  deriving DecidableEq, Repr

inductive Target
  | thread (slot : ThreadSlot)
  | event (slot : EventSlot)
  | notification
  | stream
  deriving DecidableEq, Repr

structure Object where
  live : Bool := false
  type : ObjectType := .free
  closeState : Bool := false
  generation : Nat := 0
  slot : ObjectSlot := 0
  publicHandleRefs : Nat := 0
  internalRefs : Nat := 0
  target : Option Target := none

/-- `GXOS_SCHEDULER_WAITABLE`, which is also the event record. -/
structure Waitable where
  live : Bool := false
  manualReset : Bool := false
  signaled : Bool := false
  generation : Nat := 0
  objectSlot : ObjectSlot := 0
  waiterCount : Nat := 0
  waiters : Nat → Option RecordSlot := fun _ => none

structure WaitRecord where
  valid : Bool := false
  active : Bool := false
  completed : Bool := false
  waiterLinked : Bool := false
  pinHeld : Bool := false
  isEventWait : Bool := false
  timeoutArmed : Bool := false
  generation : Nat := 0
  waitingIdentity : Nat := 0
  waitingThreadSlot : Nat := 0
  waitingThreadGeneration : Nat := 0
  objectSlot : ObjectSlot := 0
  objectGeneration : Nat := 0
  waiterIndex : Nat := 0
  completionResult : Nat := 0
  deadlineMs : Nat := 0
  thread : Option ThreadSlot := none
  object : Option ObjectSlot := none
  waitable : Option EventSlot := none

/-- The memory resource notification. There is one slot for it. -/
structure Notification where
  live : Bool := false
  closeState : Bool := false
  generation : Nat := 0
  objectSlot : ObjectSlot := 0
  registrySlot : Nat := 0
  notificationType : Nat := 0
  waitable : Waitable := {}

structure StandardStream where
  live : Bool := false
  roleMask : Nat := 0
  backend : Nat := 0
  capabilities : Nat := 0
  generation : Nat := 0
  objectSlot : ObjectSlot := 0
  handle : Nat := 0

/-- A thread control block. The COM fields belong to another module and are left out. -/
structure Tcb where
  live : Bool := false
  isBootThread : Bool := false
  environmentOwned : Bool := false
  identity : Nat := 0
  generation : Nat := 0
  objectSlot : ObjectSlot := 0
  state : ThreadState := .free
  runnableQueued : Bool := false
  suspendCount : Nat := 0
  relativePriority : Int := 0
  publicHandleRefs : Nat := 0
  executionRefs : Nat := 0
  executionCount : Nat := 0
  deferredReclaim : Bool := false
  context : Context := {}
  savedContext : Option ContextPtr := none
  entry : Nat := 0
  entryArgument : Nat := 0
  returnValue : Nat := 0
  stackBase : Nat := 0
  stackLimit : Nat := 0
  initialRsp : Nat := 0
  stackPagesMemory : Nat := 0
  stackCanaryMemory : Nat := 0
  stackVmIdentity : Nat := 0
  tebBase : Nat := 0
  gsBase : Nat := 0
  tlsVectorBase : Nat := 0
  tlsBlockBase : Nat := 0
  flsValues : Nat → Nat := fun _ => 0
  flsAllocated : Nat → Nat := fun _ => 0
  lastError : Nat := 0
  blockedObject : Nat := 0
  blockedResult : WaitResult := .blocked
  waitRecord : Option RecordSlot := none
  lowCanary : Nat → Nat := fun _ => 0
  highCanary : Nat → Nat := fun _ => 0

/-! ## The scheduler and the machine around it -/

/-- A call of a page callback that had an effect: pages handed out, or pages given back. -/
inductive PageCall
  | obtained (base pages : Nat)
  | returned (base pages : Nat)
  deriving DecidableEq, Repr

/-- What the program cannot change in the scheduler record but the functions read: the
callbacks that are configured, and the values kept from the boot. -/
structure Config where
  registerStackVm : Bool := false
  unregisterStackVm : Bool := false
  nowMs : Bool := false
  savedBootGsBase : Nat := 0
  savedBootFlags : Nat := 0
  bootStackLower : Nat := 0
  bootStackUpper : Nat := 0
  /-- The address of `gxos_scheduler_start_worker`. -/
  startWorker : Nat := 0
  /-- The address of `gxos_scheduler_invalid_thread_return`. -/
  invalidThreadReturn : Nat := 0

/-- The registers and the memory outside the scheduler record, and the calls of the
page callbacks, oldest first. -/
structure Machine where
  gsBase : Nat := 0
  flags : Nat := 0
  memory : Nat → Nat := fun _ => 0
  pageCalls : List PageCall := []

structure State where
  /-- `g_scheduler` points at this scheduler. -/
  installed : Bool := false
  active : Bool := false
  config : Config := {}
  threads : ThreadSlot → Tcb := fun _ => {}
  waitRecords : RecordSlot → WaitRecord := fun _ => {}
  events : EventSlot → Waitable := fun _ => {}
  notification : Notification := {}
  standardStream : StandardStream := {}
  standardInputHandle : Nat := 0
  standardOutputHandle : Nat := 0
  standardErrorHandle : Nat := 0
  objects : ObjectSlot → Object := fun _ => {}
  runnableQueue : Nat → Option ThreadSlot := fun _ => none
  runnableCount : Nat := 0
  current : Option ThreadSlot := none
  bootThread : Option ThreadSlot := none
  nextIdentity : Nat := 0
  nextWaitGeneration : Nat := 0
  activeWaitCount : Nat := 0
  pendingWaitTimeoutArmed : Bool := false
  pendingWaitDeadlineMs : Nat := 0
  pendingPlan : SwitchPlan := {}
  machine : Machine := {}
  /-- How often `enqueue_runnable` refused a thread because the queue was full. The C
  code has no such field. -/
  queueRefusals : Nat := 0

/-- An argument of type `GXOS_SCHEDULER *`. -/
inductive SchedulerPtr
  | null
  | this
  | other
  deriving DecidableEq, Repr

/-- `scheduler != 0 && scheduler == g_scheduler` -/
def State.accepts (s : State) (p : SchedulerPtr) : Bool := decide (p = .this) && s.installed

/-! ## Changes to one entry of a table -/

@[simps] def State.modThread (s : State) (t : ThreadSlot) (f : Tcb → Tcb) : State :=
  { s with threads := Function.update s.threads t (f (s.threads t)) }

@[simps] def State.modRecord (s : State) (r : RecordSlot) (f : WaitRecord → WaitRecord) : State :=
  { s with waitRecords := Function.update s.waitRecords r (f (s.waitRecords r)) }

@[simps] def State.modEvent (s : State) (e : EventSlot) (f : Waitable → Waitable) : State :=
  { s with events := Function.update s.events e (f (s.events e)) }

@[simps] def State.modObject (s : State) (o : ObjectSlot) (f : Object → Object) : State :=
  { s with objects := Function.update s.objects o (f (s.objects o)) }

@[simps] def State.modMachine (s : State) (f : Machine → Machine) : State :=
  { s with machine := f s.machine }

theorem State.modEvent_self (s : State) (e : EventSlot) {f : Waitable → Waitable}
    (h : f (s.events e) = s.events e) : s.modEvent e f = s := by
  unfold State.modEvent
  rw [h, Function.update_eq_self]

/-! ## Memory -/

def zeroBytes (memory : Nat → Nat) (base count : Nat) : Nat → Nat :=
  fun a => if base ≤ a ∧ a < base + count then 0 else memory a

def writeByte (memory : Nat → Nat) (address value : Nat) : Nat → Nat :=
  fun a => if a = address then value else memory a

/-- The eight bytes of a 64-bit store, low byte first. -/
def write64 (memory : Nat → Nat) (address value : Nat) : Nat → Nat :=
  fun a => if address ≤ a ∧ a < address + 8 then value / 256 ^ (a - address) % 256 else memory a

def read64 (memory : Nat → Nat) (address : Nat) : Nat :=
  (List.range 8).foldr (fun i v => memory (address + i) + 256 * v) 0

/-! Unsigned 64-bit arithmetic. -/

def add64 (a b : Nat) : Nat := (a + b) % 2 ^ 64

def sub64 (a b : Nat) : Nat := (a + (2 ^ 64 - b % 2 ^ 64)) % 2 ^ 64

end Gate4Harness.Scheduler
