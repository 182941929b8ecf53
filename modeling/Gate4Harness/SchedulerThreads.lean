-- The life of a thread in scheduler_foundation.c: its pages and environment, its
-- creation with every failure exit, the check of its context, its resume and
-- its reclaim. A callback of the loader is answered by an argument: the answers
-- of one call are its inputs.
import Gate4Harness.SchedulerTables

namespace Gate4Harness.Scheduler

/-! ## Pages -/

/-- What `allocate_pages` answers: a status and the address that it stored. -/
structure PageAnswer where
  status : Nat
  memory : Nat
  deriving DecidableEq, Repr

/-- The code takes an answer with a status other than 0 or a null address as a failure. -/
def PageAnswer.granted (a : PageAnswer) : Bool := decide (a.status = 0) && decide (a.memory ≠ 0)

def pageAllocate (s : State) (a : PageAnswer) : Nat × State :=
  if a.granted then
    (a.memory, s.modMachine fun m =>
      { m with
        memory := zeroBytes m.memory a.memory pageSize
        pageCalls := m.pageCalls ++ [.obtained a.memory 1] })
  else (0, s)

def pageFree (s : State) (memory : Nat) : State :=
  if memory ≠ 0 then
    s.modMachine fun m => { m with pageCalls := m.pageCalls ++ [.returned memory 1] }
  else s

def setCanaries (s : State) (t : ThreadSlot) : State :=
  let low := fun index => (0xC1 + index) % 256
  let high := fun index => (0xD7 + index) % 256
  let s1 := s.modThread t fun thread => { thread with lowCanary := low, highCanary := high }
  let canary := (s.threads t).stackCanaryMemory
  let top := sub64 (s.threads t).stackLimit canaryBytes
  s1.modMachine fun m =>
    { m with
      memory := (List.range canaryBytes).foldl
        (fun mem index => writeByte (writeByte mem (canary + index) (low index))
          (top + index) (high index)) m.memory }

def checkCanaries (s : State) (t : ThreadSlot) : Bool :=
  let thread := s.threads t
  if ¬ thread.live ∨ thread.stackBase = 0 ∨ thread.stackCanaryMemory = 0 ∨
      thread.stackLimit ≤ add64 thread.stackBase canaryBytes then false
  else
    (List.range canaryBytes).all fun index =>
      decide (s.machine.memory (thread.stackCanaryMemory + index) = thread.lowCanary index) &&
      decide (s.machine.memory (sub64 thread.stackLimit canaryBytes + index) =
        thread.highCanary index)

/-! ## The thread environment -/

/-- The answers for the GS area, the TLS vector, the TLS block and the TEB, in the order
of the calls. -/
structure EnvironmentAnswers where
  gsArea : PageAnswer
  vector : PageAnswer
  block : PageAnswer
  teb : PageAnswer

/-- The pages of the four answers. All four calls are made, also after a failure. -/
def environmentPages (s : State) (a : EnvironmentAnswers) : (Nat × Nat × Nat × Nat) × State :=
  let (gsArea, s1) := pageAllocate s a.gsArea
  let (vector, s2) := pageAllocate s1 a.vector
  let (block, s3) := pageAllocate s2 a.block
  let (teb, s4) := pageAllocate s3 a.teb
  ((gsArea, vector, block, teb), s4)

def freeEnvironmentPages (s : State) (gsArea vector block teb : Nat) : State :=
  pageFree (pageFree (pageFree (pageFree s gsArea) vector) block) teb

def writeEnvironment (s : State) (t : ThreadSlot) (gsArea vector block teb : Nat) : State :=
  let thread := s.threads t
  let upper := if thread.isBootThread then s.config.bootStackUpper else thread.stackLimit
  let lower := if thread.isBootThread then s.config.bootStackLower else thread.stackBase
  s.modMachine fun m =>
    let m1 := write64 m.memory vector block
    let m2 := write64 m1 (gsArea + 0x30) teb
    let m3 := write64 m2 (gsArea + 0x58) vector
    let m4 := write64 m3 (teb + 0x08) upper
    let m5 := write64 m4 (teb + 0x10) lower
    let m6 := write64 m5 (teb + 0x100) thread.identity
    { m with memory := zeroBytes m6 block pageSize }

def allocateThreadEnvironment (s : State) (t : ThreadSlot) (a : EnvironmentAnswers) :
    Bool × State :=
  if ¬ s.installed then (false, s)
  else
    let ((gsArea, vector, block, teb), s1) := environmentPages s a
    if gsArea = 0 ∨ vector = 0 ∨ block = 0 ∨ teb = 0 then
      (false, freeEnvironmentPages s1 gsArea vector block teb)
    else
      let s2 := s1.modThread t fun thread =>
        { thread with gsBase := gsArea, tlsVectorBase := vector, tlsBlockBase := block,
                      tebBase := teb }
      (true, (writeEnvironment s2 t gsArea vector block teb).modThread t fun thread =>
        { thread with environmentOwned := true })

def freeThreadEnvironment (s : State) (t : ThreadSlot) : State :=
  if ¬ s.installed then s
  else
    let thread := s.threads t
    let s1 :=
      if thread.environmentOwned then
        freeEnvironmentPages s thread.gsBase thread.tlsVectorBase thread.tlsBlockBase thread.tebBase
      else s
    s1.modThread t fun thread =>
      { thread with gsBase := 0, tlsVectorBase := 0, tlsBlockBase := 0, tebBase := 0,
                    environmentOwned := false }

/-! ## Creation -/

/-- The answers of the callbacks to one creation. `stackVm` is the identity that
`register_stack_vm` stored, or `none` when it returned 0. -/
structure CreateAnswers where
  stack : PageAnswer
  canary : PageAnswer
  environment : EnvironmentAnswers
  stackVm : Option Nat

structure CreateReply where
  ok : Bool := false
  handle : Nat := 0
  thread : Option ThreadSlot := none
  deriving DecidableEq, Repr

def workerSentinel (index : Nat) : Nat := 0x5757000000000000 + index

/-- The four failure exits after the object was taken end in the same way. -/
def abandonThread (s : State) (t : ThreadSlot) (o : ObjectSlot) : State :=
  let s1 := releaseObjectRecord s o
  { s1 with nextIdentity := (s1.nextIdentity + (2 ^ 32 - 1)) % 2 ^ 32 }.modThread t fun _ => {}

/-- The initial context of a worker. -/
def initialContext (s : State) (t : ThreadSlot) : Context :=
  let thread := s.threads t
  { rbx := workerSentinel 1, rbp := workerSentinel 2, rsi := workerSentinel 3,
    rdi := workerSentinel 4, r12 := thread.entry, r13 := thread.entryArgument,
    r14 := workerSentinel 7, r15 := workerSentinel 8, rsp := thread.initialRsp,
    rip := s.config.startWorker, rflags := 0x2, mxcsr := 0x3F80, x87Control := 0x077F,
    gsBase := thread.gsBase }

/-- The last part of a creation: the return slot and the context of the new thread. -/
def finishCreation (s : State) (t : ThreadSlot) (stackVmIdentity : Nat) : State :=
  let stackTop := sub64 (s.threads t).stackLimit canaryBytes / 16 * 16
  let s1 := s.modThread t fun thread =>
    { thread with stackVmIdentity, initialRsp := sub64 stackTop 8 }
  let s2 := s1.modMachine fun m =>
    { m with memory := write64 m.memory (sub64 stackTop 8) s.config.invalidThreadReturn }
  let s3 := s2.modThread t fun thread => { thread with context := initialContext s2 t }
  s3.modThread t fun thread => { thread with savedContext := some (.initial t) }

/-- The part of a creation after the stack and the canary page were obtained. -/
def equipThread (s : State) (t : ThreadSlot) (o : ObjectSlot) (handle stackMemory canary : Nat)
    (a : CreateAnswers) : CreateReply × State :=
  let (furnished, s1) := allocateThreadEnvironment s t a.environment
  if ¬ furnished then
    ({}, abandonThread (pageFree (pageFree s1 canary) stackMemory) t o)
  else
    match a.stackVm with
    | some (identity + 1) =>
      ({ ok := true, handle, thread := some t }, finishCreation s1 t (identity + 1))
    | _ =>
      let s2 := freeThreadEnvironment s1 t
      ({}, abandonThread (pageFree (pageFree s2 canary) stackMemory) t o)

/-- The part of a creation after the stack was obtained. -/
def furnishThread (s : State) (t : ThreadSlot) (o : ObjectSlot) (handle stackMemory : Nat)
    (a : CreateAnswers) : CreateReply × State :=
  let (canary, s1) := pageAllocate s a.canary
  let s2 := s1.modThread t fun thread => { thread with stackCanaryMemory := canary }
  if canary = 0 then ({}, abandonThread (pageFree s2 stackMemory) t o)
  else equipThread (setCanaries s2 t) t o handle stackMemory canary a

/-- A TCB as a creation first fills it in. -/
def newThread (entry argument : Nat) : Tcb :=
  { live := true, state := .createdSuspended, suspendCount := 1, publicHandleRefs := 1,
    executionRefs := 1, entry, entryArgument := argument }

/-- The thread gets the next identity, and the slot and generation of its object. -/
def identifyThread (s : State) (t : ThreadSlot) (o : ObjectSlot) : State :=
  { s.modThread t fun thread =>
      { thread with identity := s.nextIdentity, generation := (s.objects o).generation,
                    objectSlot := o } with
    nextIdentity := (s.nextIdentity + 1) % 2 ^ 32 }

/-- The four pages of the stack, cleared. -/
def takeStack (s : State) (t : ThreadSlot) (stackMemory : Nat) : State :=
  (s.modMachine fun m =>
    { m with
      memory := zeroBytes m.memory stackMemory stackSize
      pageCalls := m.pageCalls ++ [.obtained stackMemory stackPages] }).modThread t
    fun thread =>
      { thread with stackPagesMemory := stackMemory, stackBase := stackMemory,
                    stackLimit := add64 stackMemory stackSize }

def createSuspendedThread (s : State) (scheduler : SchedulerPtr) (entry argument : Nat)
    (handleOut threadOut : Bool) (a : CreateAnswers) : CreateReply × State :=
  if ¬ s.accepts scheduler ∨ entry = 0 ∨ ¬ handleOut ∨ ¬ threadOut ∨
      ¬ s.config.registerStackVm ∨ ¬ s.config.unregisterStackVm then ({}, s)
  else
    match freeThread? s with
    | none => ({}, s)
    | some t =>
      match allocateObject (s.modThread t fun _ => newThread entry argument) .thread
          (.thread t) with
      | (none, s1) => ({}, s1.modThread t fun _ => {})
      | (some (o, handle), s1) =>
        let s2 := identifyThread s1 t o
        if ¬ a.stack.granted then ({}, abandonThread s2 t o)
        else furnishThread (takeStack s2 t a.stack.memory) t o handle a.stack.memory a

/-! ## Resume -/

def canonicalNonzeroPointer (value : Nat) : Bool :=
  decide (value ≥ 0x10000) && (decide (value >>> 48 = 0) || decide (value >>> 48 = 0xFFFF))

def alignedPagePointer (value : Nat) : Bool :=
  canonicalNonzeroPointer value && decide (value % pageSize = 0)

def validateThreadContext (s : State) (t : ThreadSlot) : Bool :=
  let thread := s.threads t
  let memory := s.machine.memory
  thread.live && !thread.isBootThread && decide (thread.executionRefs ≠ 0) &&
  decide (thread.savedContext = some (.initial t)) && decide (thread.entry ≠ 0) &&
  canonicalNonzeroPointer thread.entry && decide (thread.stackPagesMemory ≠ 0) &&
  decide (thread.stackCanaryMemory ≠ 0) && alignedPagePointer thread.stackBase &&
  decide (thread.stackLimit = add64 thread.stackBase stackSize) &&
  decide (thread.initialRsp ≥ add64 thread.stackBase canaryBytes) &&
  decide (thread.initialRsp < sub64 thread.stackLimit canaryBytes) &&
  decide (thread.initialRsp % 16 = 8) &&
  decide (thread.context.rsp = thread.initialRsp) &&
  decide (thread.context.rip = s.config.startWorker) &&
  decide (thread.context.r12 = thread.entry) &&
  decide (thread.context.r13 = thread.entryArgument) &&
  decide (thread.context.rbx = workerSentinel 1) &&
  decide (thread.context.rbp = workerSentinel 2) &&
  decide (thread.context.rsi = workerSentinel 3) &&
  decide (thread.context.rdi = workerSentinel 4) &&
  decide (thread.context.r14 = workerSentinel 7) &&
  decide (thread.context.r15 = workerSentinel 8) &&
  decide (thread.context.rflags / 2 % 2 ≠ 0) && decide (thread.context.mxcsr / 2 ^ 16 = 0) &&
  decide (thread.context.gsBase = thread.gsBase) && thread.environmentOwned &&
  alignedPagePointer thread.gsBase && alignedPagePointer thread.tebBase &&
  alignedPagePointer thread.tlsVectorBase && alignedPagePointer thread.tlsBlockBase &&
  checkCanaries s t &&
  decide (read64 memory (thread.gsBase + 0x30) = thread.tebBase) &&
  decide (read64 memory (thread.gsBase + 0x58) = thread.tlsVectorBase) &&
  decide (read64 memory thread.tlsVectorBase = thread.tlsBlockBase) &&
  decide (read64 memory (thread.tebBase + 0x08) = thread.stackLimit) &&
  decide (read64 memory (thread.tebBase + 0x10) = thread.stackBase) &&
  decide (read64 memory (thread.tebBase + 0x100) = thread.identity) &&
  (List.range flsSlots).all fun index => decide (thread.flsAllocated index ≤ 1)

/-- The reply of a resume: the return value, and what was stored in
`previous_suspend_count`. -/
structure ResumeReply where
  ok : Bool := false
  previousSuspendCount : Option Nat := none
  deriving DecidableEq, Repr

def resumeThread (s : State) (handle : Nat) : ResumeReply × State :=
  match lookupObject s handle .thread with
  | none => ({}, s)
  | some o =>
    if (s.objects o).publicHandleRefs = 0 ∨ (s.objects o).internalRefs = 0 then ({}, s)
    else
      match targetThread s o with
      | none => ({}, s)
      | some t =>
        let thread := s.threads t
        if ¬ thread.live ∨ thread.executionRefs = 0 ∨ thread.deferredReclaim ∨
            thread.objectSlot ≠ (s.objects o).slot ∨
            thread.generation ≠ (s.objects o).generation ∨
            thread.state = .free ∨ thread.state = .terminated then ({}, s)
        else if thread.suspendCount = 0 then
          if thread.state = .runnable ∧ ¬ thread.runnableQueued then ({}, s)
          else ({ ok := true, previousSuspendCount := some 0 }, s)
        else if thread.state ≠ .createdSuspended ∨ thread.suspendCount ≠ 1 ∨
            ¬ validateThreadContext s t then ({}, s)
        else
          let s1 := s.modThread t fun thread =>
            { thread with suspendCount := 0, state := .runnable }
          let (queued, s2) := enqueueRunnable s1 t
          if queued then ({ ok := true, previousSuspendCount := some 1 }, s2)
          else
            ({ ok := false, previousSuspendCount := some 0 },
              s2.modThread t fun thread =>
                { thread with state := .createdSuspended, suspendCount := 1 })

/-! ## Reclaim -/

/-- The guards of `maybe_reclaim_thread` up to the call of `unregister_stack_vm`. -/
def reclaimable (s : State) (t : ThreadSlot) : Bool :=
  let thread := s.threads t
  let object := s.objects thread.objectSlot
  thread.live && decide (s.current ≠ some t) && decide (thread.state = .terminated) &&
  decide (thread.executionRefs = 0) && decide (thread.publicHandleRefs = 0) &&
  !thread.runnableQueued && checkCanaries s t && object.live && decide (object.type = .thread)

/-- The part of `maybe_reclaim_thread` that cannot fail. -/
def reclaimThread (s : State) (t : ThreadSlot) : State :=
  let thread := s.threads t
  let s1 := s.modObject thread.objectSlot fun object => { object with internalRefs := 0 }
  let s2 := (pageFree s1 thread.stackPagesMemory).modThread t fun thread =>
    { thread with stackPagesMemory := 0 }
  let s3 := (pageFree s2 thread.stackCanaryMemory).modThread t fun thread =>
    { thread with stackCanaryMemory := 0 }
  let s4 := releaseObjectRecord (freeThreadEnvironment s3 t) thread.objectSlot
  s4.modThread t fun _ => {}

/-- `unregistered` is the answer of `unregister_stack_vm`. -/
def maybeReclaimThread (s : State) (t : ThreadSlot) (unregistered : Bool) : State :=
  if ¬ reclaimable s t then s
  else if (s.threads t).stackPagesMemory ≠ 0 then
    if (s.threads t).stackVmIdentity = 0 ∨ ¬ s.config.unregisterStackVm ∨ ¬ unregistered then s
    else reclaimThread (s.modThread t fun thread => { thread with stackVmIdentity := 0 }) t
  else reclaimThread s t

def tryReclaimThread (s : State) (t : Option ThreadSlot) (unregistered : Bool) : Bool × State :=
  match t with
  | none => (false, s)
  | some t =>
    if ¬ (s.threads t).live ∨ (s.threads t).executionRefs ≠ 0 ∨ (s.threads t).state = .blocked ∨
        (s.threads t).state ≠ .terminated then (false, s)
    else
      let s1 := maybeReclaimThread s t unregistered
      (! (s1.threads t).live, s1)

/-- The guard of `gxos_scheduler_discard_created_thread`. -/
def discardable (s : State) (t : ThreadSlot) : Bool :=
  (s.threads t).live &&
  (decide ((s.threads t).state = .createdSuspended) || decide ((s.threads t).state = .runnable)) &&
  decide ((s.threads t).publicHandleRefs = 0)

def discardCreatedThread (s : State) (t : Option ThreadSlot) (unregistered : Bool) :
    Bool × State :=
  match t with
  | none => (false, s)
  | some t =>
    if ¬ discardable s t then (false, s)
    else
      let (removed, s1) := if (s.threads t).runnableQueued then removeRunnable s t else (true, s)
      if ¬ removed then (false, s1)
      else
        let s2 := s1.modThread t fun thread =>
          { thread with state := .terminated, executionRefs := 0 }
        let s3 := maybeReclaimThread s2 t unregistered
        (! (s3.threads t).live, s3)

/-- `unregistered` gives the answer of `unregister_stack_vm` for each thread. -/
def collect (s : State) (scheduler : SchedulerPtr) (unregistered : ThreadSlot → Bool) :
    Bool × State :=
  if ¬ s.accepts scheduler then (false, s)
  else
    (true, (List.finRange maxThreads).foldl (fun s t => maybeReclaimThread s t (unregistered t)) s)

end Gate4Harness.Scheduler
