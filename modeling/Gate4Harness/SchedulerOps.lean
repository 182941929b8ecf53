-- The public operations of scheduler_foundation.c and the wait contract of
-- event_api.c, and the runs that they make. A run starts at a successful
-- `gxos_scheduler_initialize` and then calls any operation with any arguments.
import Gate4Harness.Runs
import Gate4Harness.SchedulerThreads

namespace Gate4Harness.Scheduler

/-! ## Initialize -/

/-- What an initialization finds: the arguments that are not null, the registers, the
memory and the answers of `allocate_pages`. -/
structure BootInput where
  schedulerGiven : Bool := true
  allocatePagesGiven : Bool := true
  freePagesGiven : Bool := true
  gsBase : Nat := 0
  flags : Nat := 0
  rsp : Nat := 0
  memory : Nat → Nat := fun _ => 0
  startWorker : Nat := 0
  invalidThreadReturn : Nat := 0
  pages : EnvironmentAnswers

/-- The scheduler record after `zero_bytes` and the first assignments, with the boot
thread in slot 0. -/
def bootState (i : BootInput) : State :=
  let lower := i.rsp / pageSize * pageSize
  { installed := true
    config :=
      { savedBootGsBase := i.gsBase, savedBootFlags := i.flags, bootStackLower := lower,
        bootStackUpper := add64 lower 0x100000, startWorker := i.startWorker,
        invalidThreadReturn := i.invalidThreadReturn }
    nextIdentity := 2
    nextWaitGeneration := 1
    machine := { gsBase := i.gsBase, flags := i.flags, memory := i.memory }
    threads := Function.update (fun _ => {}) 0
      { live := true, isBootThread := true, identity := 1, generation := 1, state := .running,
        executionRefs := 1 } }

def initializeScheduler (i : BootInput) : Bool × State :=
  if ¬ i.schedulerGiven ∨ ¬ i.allocatePagesGiven ∨ ¬ i.freePagesGiven then (false, {})
  else
    match allocateObject (bootState i) .thread (.thread 0) with
    | (none, s1) => (false, { freeThreadEnvironment s1 0 with installed := false })
    | (some (o, _), s1) =>
      let (furnished, s2) := allocateThreadEnvironment s1 0 i.pages
      if ¬ furnished then
        (false, { freeThreadEnvironment (releaseObjectRecord s2 o) 0 with installed := false })
      else
        let s3 := s2.modObject o fun object => { object with publicHandleRefs := 0 }
        let s4 := s3.modThread 0 fun boot =>
          { boot with objectSlot := o, publicHandleRefs := 0,
                      context := { boot.context with gsBase := boot.gsBase },
                      savedContext := some (.initial 0) }
        (true, { s4 with current := some 0, bootThread := some 0, active := true }.modMachine
          fun m => { m with gsBase := (s4.threads 0).gsBase })

/-! ## Configuration -/

def configureStackVm (s : State) (scheduler : SchedulerPtr) (registerGiven unregisterGiven : Bool) :
    Bool × State :=
  if ¬ s.accepts scheduler ∨ ¬ s.active ∨ s.current ≠ s.bootThread ∨ ¬ registerGiven ∨
      ¬ unregisterGiven then (false, s)
  else if (List.finRange maxThreads).any (fun t => decide (t ≠ 0) && (s.threads t).live) then
    (false, s)
  else
    (true, { s with config :=
      { s.config with registerStackVm := true, unregisterStackVm := true } })

def configureClock (s : State) (scheduler : SchedulerPtr) (clockGiven : Bool) : Bool × State :=
  if ¬ s.accepts scheduler ∨ ¬ s.active ∨ s.current ≠ s.bootThread ∨ ¬ clockGiven then (false, s)
  else (true, { s with config := { s.config with nowMs := true } })

structure BootEnvironment where
  gsBase : Nat
  tebBase : Nat
  tlsVectorBase : Nat
  tlsBlockBase : Nat
  stackLower : Nat
  stackUpper : Nat

def adoptBootEnvironment (s : State) (scheduler : SchedulerPtr) (b : BootEnvironment) :
    Bool × State :=
  if ¬ s.accepts scheduler ∨ ¬ s.active ∨ s.current ≠ s.bootThread ∨ b.gsBase = 0 ∨
      b.tebBase = 0 ∨ b.tlsVectorBase = 0 ∨ b.tlsBlockBase = 0 ∨ b.stackUpper ≤ b.stackLower then
    (false, s)
  else
    match s.bootThread with
    | none => (false, s)
    | some boot =>
      let s1 := (freeThreadEnvironment s boot).modThread boot fun thread =>
        { thread with gsBase := b.gsBase, tebBase := b.tebBase, tlsVectorBase := b.tlsVectorBase,
                      tlsBlockBase := b.tlsBlockBase, environmentOwned := false }
      let s2 := { s1 with config :=
        { s1.config with bootStackLower := b.stackLower, bootStackUpper := b.stackUpper } }
      let s3 := s2.modMachine fun m =>
        let m1 := write64 m.memory (b.gsBase + 0x30) b.tebBase
        let m2 := write64 m1 (b.gsBase + 0x58) b.tlsVectorBase
        let m3 := write64 m2 (b.tebBase + 0x08) b.stackUpper
        { m with memory := write64 m3 (b.tebBase + 0x10) b.stackLower, gsBase := b.gsBase }
      (true, s3.modThread boot fun thread =>
        { thread with context := { thread.context with gsBase := b.gsBase },
                      savedContext := some (.initial boot) })

/-! ## Creation of events, notifications and streams -/

def freeEvent? (s : State) : Option EventSlot :=
  (List.finRange maxEvents).find? (fun e => ! (s.events e).live)

/-- The reply is the handle, or `none` for the return value 0. -/
def createEvent (s : State) (scheduler : SchedulerPtr) (manualReset initialSignaled : Nat)
    (handleOut : Bool) : Option Nat × State :=
  if ¬ s.accepts scheduler ∨ ¬ handleOut then (none, s)
  else
    match freeEvent? s with
    | none => (none, s)
    | some e =>
      match allocateObject (s.modEvent e fun _ => {}) .event (.event e) with
      | (none, s1) => (none, s1.modEvent e fun _ => {})
      | (some (o, handle), s1) =>
        (some handle, s1.modEvent e fun event =>
          { event with
            live := true
            manualReset := decide (manualReset ≠ 0)
            signaled := decide (initialSignaled ≠ 0)
            generation := (s1.objects o).generation
            objectSlot := o })

def createMemoryResourceNotification (s : State) (scheduler : SchedulerPtr)
    (notificationType : Nat) (handleOut : Bool) : Option Nat × State :=
  if ¬ s.accepts scheduler ∨ ¬ s.active ∨ ¬ handleOut ∨ notificationType ≠ 0 then (none, s)
  else if s.notification.live then (none, s)
  else
    match allocateObject s .memoryResourceNotification .notification with
    | (none, s1) => (none, s1)
    | (some (o, handle), s1) =>
      let generation := (s1.objects o).generation
      (some handle, { s1 with notification :=
        { live := true, generation, objectSlot := o, registrySlot := 0, notificationType,
          waitable := { live := true, manualReset := true, generation, objectSlot := o } } })

def roleOutput : Nat := 0x02
def roleError : Nat := 0x04

def installHandles (s : State) (roleMask handle : Nat) : State :=
  { s with
    standardOutputHandle :=
      if roleMask &&& roleOutput ≠ 0 then handle else s.standardOutputHandle
    standardErrorHandle :=
      if roleMask &&& roleError ≠ 0 then handle else s.standardErrorHandle }

def installStandardStream (s : State) (scheduler : SchedulerPtr)
    (roleMask backend capabilities : Nat) : Bool × State :=
  if ¬ s.accepts scheduler ∨ ¬ s.active ∨ roleMask = 0 ∨
      roleMask &&& (0xFF - (roleOutput ||| roleError)) ≠ 0 ∨ backend = 0 ∨ capabilities = 0 then
    (false, s)
  else if s.standardStream.live then
    if s.standardStream.backend ≠ backend ∨ s.standardStream.capabilities ≠ capabilities then
      (false, s)
    else
      let roles := s.standardStream.roleMask ||| roleMask
      (true, installHandles
        { s with standardStream := { s.standardStream with roleMask := roles } }
        roles s.standardStream.handle)
  else
    match allocateObject { s with standardStream := {} } .standardStream .stream with
    | (none, s1) => (false, s1)
    | (some (o, handle), s1) =>
      (true, installHandles
        { s1 with standardStream :=
          { live := true, roleMask, backend, capabilities,
            generation := (s1.objects o).generation, objectSlot := o, handle } }
        roleMask handle)

/-! ## Handles -/

/-- The type byte of a handle, when it is one of the four types. -/
def handleType (handle : Nat) : Option ObjectType :=
  match (handle >>> 48) % 2 ^ 8 with
  | 1 => some .thread
  | 2 => some .event
  | 3 => some .memoryResourceNotification
  | 4 => some .standardStream
  | _ => none

def objectFromHandle (s : State) (handle : Nat) : Option ObjectSlot :=
  match handleType handle with
  | none => none
  | some type => lookupObject s handle type

def closeHandle (s : State) (handle : Nat) (unregistered : Bool) : Bool × State :=
  match handleType handle with
  | some .thread =>
    match lookupObject s handle .thread with
    | none => (false, s)
    | some o =>
      if (s.objects o).publicHandleRefs = 0 then (false, s)
      else
        let s1 := s.modObject o fun object =>
          { object with publicHandleRefs := object.publicHandleRefs - 1, closeState := true }
        match targetThread s1 o with
        | none => (true, s1)
        | some t =>
          let s2 :=
            if (s1.threads t).publicHandleRefs ≠ 0 then
              s1.modThread t fun thread =>
                { thread with publicHandleRefs := thread.publicHandleRefs - 1 }
            else s1
          (true, maybeReclaimThread s2 t unregistered)
  | some .event =>
    match lookupObject s handle .event with
    | none => (false, s)
    | some o =>
      if (s.objects o).publicHandleRefs = 0 then (false, s)
      else
        (true, s.modObject o fun object =>
          { object with publicHandleRefs := object.publicHandleRefs - 1, closeState := true })
  | _ => (false, s)

/-- The event behind a handle, open or closed, as `signal_event` and `reset_event` find it. -/
def eventFromHandle (s : State) (handle : Nat) : Option EventSlot :=
  match lookupObject s handle .event with
  | none => none
  | some o => targetEvent s o

/-! ## Signal, reset and timeouts -/

/-- The loop `while (event->waiter_count != 0) wake_waiter(event, 0)`. Each turn takes
one waiter out, so as many turns as waiters are enough. -/
def wakeAll (e : EventSlot) : Nat → State → State
  | 0, s => s
  | turns + 1, s => if (s.events e).waiterCount = 0 then s else wakeAll e turns (wakeWaiter s e 0)

def signalEvent (s : State) (handle : Nat) : Bool × State :=
  match eventFromHandle s handle with
  | none => (false, s)
  | some e =>
    if ¬ (s.events e).live then (false, s)
    else if (s.events e).manualReset then
      let s1 := s.modEvent e fun event => { event with signaled := true }
      (true, wakeAll e (s1.events e).waiterCount s1)
    else if (s.events e).waiterCount ≠ 0 then
      (true, wakeWaiter (s.modEvent e fun event => { event with signaled := false }) e 0)
    else (true, s.modEvent e fun event => { event with signaled := true })

def resetEvent (s : State) (handle : Nat) : Bool × State :=
  match eventFromHandle s handle with
  | none => (false, s)
  | some e =>
    if ¬ (s.events e).live then (false, s)
    else (true, s.modEvent e fun event => { event with signaled := false })

def armWaitTimeout (s : State) (deadlineMs : Nat) : Bool × State :=
  match s.current with
  | none => (false, s)
  | some c =>
    if ¬ s.installed ∨ ¬ s.active ∨ (s.threads c).state ≠ .running ∨
        (s.threads c).waitRecord ≠ none then (false, s)
    else (true, { s with pendingWaitTimeoutArmed := true, pendingWaitDeadlineMs := deadlineMs })

/-- The condition that `service_timeouts` asks of a record. -/
def expired (s : State) (nowMs : Nat) (r : RecordSlot) : Bool :=
  (s.waitRecords r).valid && (s.waitRecords r).active && (s.waitRecords r).timeoutArmed &&
  !(s.waitRecords r).completed && decide ((s.waitRecords r).deadlineMs ≤ nowMs)

/-- One turn of the loop of `service_timeouts`. -/
def serviceRecord (nowMs : Nat) (acc : Nat × State) (r : RecordSlot) : Nat × State :=
  if expired acc.2 nowMs r then (acc.1 + 1, timeoutWaiter acc.2 r) else acc

def serviceTimeouts (s : State) (nowMs : Nat) : Nat × State :=
  if ¬ s.installed ∨ ¬ s.active then (0, s)
  else (List.finRange maxWaitRecords).foldl (serviceRecord nowMs) (0, s)

/-- `clock` is the answer of `now_ms`, or `none` when it returned 0. -/
def pollTimeouts (s : State) (clock : Option Nat) : Nat × State :=
  match clock with
  | none => (0, s)
  | some nowMs =>
    if ¬ s.installed ∨ ¬ s.active ∨ ¬ s.config.nowMs then (0, s) else serviceTimeouts s nowMs

/-! ## Waits -/

structure WaitReply where
  result : WaitResult := .failure
  plan : Option SwitchPlan := none
  record : Option RecordSlot := none
  deriving DecidableEq, Repr

/-- A wait that ends at once clears an auto-reset event. -/
def tokenTaken (s : State) (e : EventSlot) : State :=
  if (s.events e).manualReset then s
  else s.modEvent e fun event => { event with signaled := false }

/-- `waitable_from_handle` for a handle that is no open event: a closed event, or the
notification, that is signaled ends the wait at once. -/
def legacyWait (s : State) (c : ThreadSlot) (handle : Nat) : WaitReply × State :=
  let taken := fun (s : State) =>
    ({ result := .signaled },
      s.modThread c fun thread => { thread with blockedResult := .signaled })
  match objectFromHandle s handle with
  | none => ({}, s)
  | some o =>
    match (s.objects o).type, (s.objects o).target with
    | .event, some (.event e) =>
      if (s.events e).live ∧ (s.events e).signaled then taken (tokenTaken s e) else ({}, s)
    | .memoryResourceNotification, some .notification =>
      if s.notification.waitable.live ∧ s.notification.waitable.signaled then
        taken (if s.notification.waitable.manualReset then s
          else { s with notification := { s.notification with
            waitable := { s.notification.waitable with signaled := false } } })
      else ({}, s)
    | _, _ => ({}, s)

/-- The wait record of the current thread, filled in before it joins the waiters. -/
def fillRecord (s : State) (c : ThreadSlot) (o : ObjectSlot) (e : EventSlot) (r : RecordSlot)
    (timeoutArmed : Bool) (deadlineMs : Nat) : State :=
  s.modRecord r fun record =>
    { record with
      isEventWait := true
      waitingIdentity := (s.threads c).identity
      waitingThreadSlot := c.val
      waitingThreadGeneration := (s.threads c).generation
      objectSlot := (s.objects o).slot
      objectGeneration := (s.objects o).generation
      thread := some c
      object := some o
      waitable := some e
      pinHeld := true
      completionResult := waitFailed
      timeoutArmed
      deadlineMs }

/-- The state in which the current thread is blocked on its record. -/
def blockThread (s : State) (c : ThreadSlot) (r : RecordSlot) (handle : Nat) : State :=
  { s.modRecord r fun record => { record with active := true } with
    activeWaitCount := s.activeWaitCount + 1 }.modThread c fun thread =>
      { thread with waitRecord := some r, blockedObject := handle, blockedResult := .failure,
                    state := .blocked }

/-- The undo when no other thread can run. -/
def unblockThread (s : State) (c : ThreadSlot) (e : EventSlot) (r : RecordSlot) : State :=
  let s1 := s.modThread c fun thread =>
    { thread with state := .running, waitRecord := none, blockedObject := 0,
                  blockedResult := .failure }
  releaseWaitRecord (removeWaiter s1 e (s1.waitRecords r).waiterIndex) r

/-- A wait on an open event that is not signaled. -/
def registerWait (s : State) (c : ThreadSlot) (o : ObjectSlot) (e : EventSlot) (handle : Nat)
    (timeoutArmed : Bool) (deadlineMs : Nat) : WaitReply × State :=
  match pinObject s o with
  | (false, s1) => ({}, s1)
  | (true, s1) =>
    match allocateWaitRecord s1 with
    | (none, s2) =>
      ({}, s2.modObject o fun object => { object with internalRefs := object.internalRefs - 1 })
    | (some r, s2) =>
      let s3 := fillRecord s2 c o e r timeoutArmed deadlineMs
      let (added, s4) := if (s3.events e).signaled then (false, s3) else addWaiter s3 e r
      if ¬ added then
        let s5 := if (s4.waitRecords r).waiterLinked then
          removeWaiter s4 e (s4.waitRecords r).waiterIndex else s4
        let s6 := releaseWaitRecord s5 r
        if (s6.events e).signaled then
          ({ result := .signaled },
            s6.modThread c fun thread => { thread with blockedResult := .signaled })
        else ({}, s6)
      else
        let s5 := blockThread s4 c r handle
        match pickNextRunnable s5 c with
        | none => ({}, unblockThread s5 c e r)
        | some next =>
          let (plan, s6) := chooseNext s5 next
          ({ result := .blocked, plan := some plan, record := some r }, s6)

/-- The armed timeout is taken, whatever the wait then does. -/
def timeoutTaken (s : State) : State :=
  { s with pendingWaitTimeoutArmed := false, pendingWaitDeadlineMs := 0 }

def prepareWaitRecord (s : State) (handle : Nat) (planOut : Bool) : WaitReply × State :=
  if ¬ s.installed ∨ ¬ planOut ∨ ¬ s.active then ({}, s)
  else
    let timeoutArmed := s.pendingWaitTimeoutArmed
    let deadlineMs := s.pendingWaitDeadlineMs
    let s1 := timeoutTaken s
    match s1.current with
    | none => ({}, s1)
    | some c =>
      if (s1.threads c).state ≠ .running ∨ (s1.threads c).waitRecord ≠ none then ({}, s1)
      else
        match validateOpenEventHandle s1 handle with
        | none => legacyWait s1 c handle
        | some (o, e) =>
          if (s1.events e).signaled then
            ({ result := .signaled },
              (tokenTaken s1 e).modThread c fun thread =>
                { thread with blockedResult := .signaled })
          else registerWait s1 c o e handle timeoutArmed deadlineMs

/-- The check of `finish_wait` on the record of the current thread. -/
def finishAccepts (s : State) (c : ThreadSlot) (r : RecordSlot) (handle : Nat) : Bool :=
  let record := s.waitRecords r
  record.valid && record.active && record.completed && decide (record.thread = some c) &&
  (decide ((s.threads c).blockedResult ≠ .signaled) ||
    decide (record.completionResult = waitObject0)) &&
  (decide ((s.threads c).blockedResult ≠ .timedOut) ||
    decide (record.completionResult = waitTimeout)) &&
  (decide (handle = 0) ||
    decide (decodeEventIdentity handle = some (record.objectSlot, record.objectGeneration)))

def finishWait (s : State) (handle : Nat) : WaitResult × State :=
  if ¬ s.installed then (.failure, s)
  else
    match s.current with
    | none => (.failure, s)
    | some c =>
      let waitResult := (s.threads c).blockedResult
      if waitResult ≠ .signaled ∧ waitResult ≠ .timedOut then (.failure, s)
      else
        match (s.threads c).waitRecord with
        | none =>
          (waitResult, s.modThread c fun thread =>
            { thread with blockedObject := 0, blockedResult := .failure })
        | some r =>
          if ¬ finishAccepts s c r handle then (.failure, s)
          else
            (waitResult, releaseWaitRecord (s.modThread c fun thread =>
              { thread with waitRecord := none, blockedObject := 0, blockedResult := .failure }) r)

/-! ## Yield and terminate -/

structure SwitchReply where
  ok : Bool := false
  plan : Option SwitchPlan := none
  deriving DecidableEq, Repr

def prepareYield (s : State) (planOut : Bool) : SwitchReply × State :=
  if ¬ s.installed ∨ ¬ planOut then ({}, s)
  else
    match s.current with
    | none => ({}, s)
    | some c =>
      if (s.threads c).state ≠ .running then ({}, s)
      else
        let s1 := s.modThread c fun thread => { thread with state := .runnable }
        let (queued, s2) := enqueueRunnable s1 c
        if ¬ queued then ({}, s2.modThread c fun thread => { thread with state := .running })
        else
          match pickNextRunnable s2 c with
          | none =>
            ({}, (removeRunnable s2 c).2.modThread c fun thread =>
              { thread with state := .running })
          | some next =>
            let (plan, s3) := chooseNext s2 next
            ({ ok := true, plan := some plan }, { s3 with pendingPlan := plan })

/-- The guard of `prepare_terminate`. -/
def terminatesCurrent (s : State) (planOut : Bool) (c : ThreadSlot) : Bool :=
  s.installed && planOut && decide (s.current = some c) &&
  decide ((s.threads c).state = .running) && !(s.threads c).isBootThread

/-- The TCB of a thread that has ended. -/
def endedThread (returnValue : Nat) (thread : Tcb) : Tcb :=
  { thread with returnValue, state := .terminated, deferredReclaim := true, executionRefs := 0 }

def prepareTerminate (s : State) (returnValue : Nat) (planOut : Bool) : SwitchReply × State :=
  match s.current with
  | none => ({}, s)
  | some c =>
    if ¬ terminatesCurrent s planOut c then ({}, s)
    else
      let s1 := s.modThread c (endedThread returnValue)
      match pickNextRunnable s1 c with
      | none => ({}, s1)
      | some next =>
        let (plan, s2) := chooseNext s1 next
        ({ ok := true, plan := some plan }, s2)

/-- `gxos_scheduler_context_switch` stores the address of the frame that it saved
through `plan->old_context`. -/
def contextSwitch (s : State) (plan : SwitchPlan) (frame : Nat) : State :=
  match plan.oldContext with
  | none => s
  | some old => s.modThread old fun thread => { thread with savedContext := some (.frame frame) }

/-! ## Destruction -/

def tryDestroyEvent (s : State) (handle : Nat) : Bool × State :=
  match lookupObject s handle .event with
  | none => (false, s)
  | some o =>
    match targetEvent s o with
    | none => (false, s)
    | some e =>
      if (s.events e).waiterCount ≠ 0 ∨ (s.objects o).publicHandleRefs ≠ 0 ∨
          (s.objects o).internalRefs > 1 then (false, s)
      else (true, releaseObjectRecord (s.modEvent e fun event => { event with live := false }) o)

def tryDestroyMemoryResourceNotification (s : State) (handle : Nat) : Bool × State :=
  match lookupObject s handle .memoryResourceNotification with
  | none => (false, s)
  | some o =>
    if (s.objects o).target ≠ some .notification ∨ s.notification.waitable.waiterCount ≠ 0 ∨
        (s.objects o).publicHandleRefs ≠ 0 then (false, s)
    else
      (true, releaseObjectRecord
        { s with notification := { s.notification with closeState := true, live := false } } o)

/-- The standard stream has a live object of its own, as `teardown` asks. -/
def streamObjectGood (s : State) : Bool :=
  let object := s.objects s.standardStream.objectSlot
  object.live && decide (object.type = .standardStream) &&
  decide (object.generation = s.standardStream.generation) && decide (object.publicHandleRefs ≠ 0)

def releaseStream (s : State) : State :=
  if s.standardStream.live then
    { releaseObjectRecord s s.standardStream.objectSlot with
      standardStream := {}, standardInputHandle := 0, standardOutputHandle := 0,
      standardErrorHandle := 0 }
  else s

/-- No event, no notification and no thread but the boot thread is live. -/
def onlyBootLive (s : State) : Bool :=
  (List.finRange maxEvents).all (fun e => ! (s.events e).live) && !s.notification.live &&
  (List.finRange maxThreads).all (fun t => decide (t = 0) || ! (s.threads t).live)

def teardown (s : State) (scheduler : SchedulerPtr) (unregistered : ThreadSlot → Bool) :
    Bool × State :=
  if ¬ s.accepts scheduler ∨ ¬ s.active ∨ s.current ≠ s.bootThread then (false, s)
  else
    match s.bootThread with
    | none => (false, s)
    | some boot =>
      if (s.threads boot).state ≠ .running then (false, s)
      else
        let s1 := (collect s scheduler unregistered).2
        if ¬ onlyBootLive s1 then (false, s1)
        else if s1.standardStream.live ∧ ¬ streamObjectGood s1 then (false, s1)
        else
          let bootObject := (s1.threads boot).objectSlot
          let s2 := freeThreadEnvironment (releaseStream s1) boot
          let s3 := (releaseObjectRecord s2 bootObject).modThread boot fun _ => {}
          (true, { s3 with current := none, bootThread := none, active := false,
                           installed := false }.modMachine fun m =>
            { m with gsBase := s3.config.savedBootGsBase, flags := s3.config.savedBootFlags })

/-! ## Per-thread values -/

def noteWorkerStarted (s : State) : State :=
  match s.current with
  | none => s
  | some c =>
    if s.installed ∧ ¬ (s.threads c).isBootThread ∧ (s.threads c).live then
      s.modThread c fun thread =>
        { thread with executionCount := (thread.executionCount + 1) % 2 ^ 64 }
    else s

def setFls (s : State) (slot value : Nat) : State :=
  match s.current with
  | none => s
  | some c =>
    if s.installed ∧ slot < flsSlots then
      s.modThread c fun thread =>
        { thread with flsAllocated := Function.update thread.flsAllocated slot 1
                      flsValues := Function.update thread.flsValues slot value }
    else s

def setLastError (s : State) (value : Nat) : State :=
  match s.current with
  | none => s
  | some c =>
    if s.installed then s.modThread c fun thread => { thread with lastError := value } else s

/-! ## The event contracts -/

def errorInvalidHandle : Nat := 6
def errorNotEnoughMemory : Nat := 8
def errorInvalidParameter : Nat := 87

def openEvent (s : State) (handle : Nat) : Option EventSlot :=
  match objectFromHandle s handle with
  | none => none
  | some o =>
    if (s.objects o).type ≠ .event ∨ (s.objects o).publicHandleRefs = 0 ∨
        (s.objects o).closeState ∨ (s.objects o).internalRefs = 0 then none
    else
      match targetEvent s o with
      | none => none
      | some e =>
        if ¬ (s.events e).live ∨ (s.events e).objectSlot ≠ (s.objects o).slot ∨
            (s.events e).generation ≠ (s.objects o).generation then none
        else some e

/-- How a call of `wait_one` leaves the C code: with a return value, with a switch to
another thread (the call goes on at `finish_wait` when the thread runs again), or in
the `ud2` of the assembly. -/
inductive WaitOneOutcome
  | returned (code : Nat)
  | switched (record : Option RecordSlot)
  | trapped
  deriving DecidableEq, Repr

def waitFailure (s : State) (error : Nat) : WaitOneOutcome × State :=
  (.returned waitFailed, setLastError s error)

/-- `gxos_scheduler_block_current`: the assembly calls `prepare_wait`, and for an answer
other than a failure or a switch it calls `finish_wait` at once. -/
def blockCurrent (s : State) (handle : Nat) : WaitOneOutcome × State :=
  match prepareWaitRecord s handle true with
  | ({ result := .failure, .. }, s1) => (.trapped, s1)
  | ({ result := .blocked, record, .. }, s1) => (.switched record, s1)
  | (_, s1) =>
    match finishWait s1 handle with
    | (.signaled, s2) => (.returned waitObject0, s2)
    | (.timedOut, s2) => (.returned waitTimeout, s2)
    | (_, s2) => waitFailure s2 errorNotEnoughMemory

/-- `now + milliseconds`, at most the largest 64-bit value. -/
def deadlineOf (now milliseconds : Nat) : Nat :=
  if now > uint64Max - milliseconds then uint64Max else now + milliseconds

/-- `contextGiven` says that the context and its scheduler are not null. `clock` and
`pollClock` are the answers of `now_ms` to `wait_one` and to its `poll_timeouts`. -/
def waitOne (s : State) (contextGiven : Bool) (handle milliseconds alertable : Nat)
    (clock pollClock : Option Nat) : WaitOneOutcome × State :=
  if ¬ contextGiven ∨ ¬ s.active then waitFailure s errorInvalidParameter
  else if alertable ≠ 0 then waitFailure s errorInvalidParameter
  else
    match objectFromHandle s handle with
    | none => waitFailure s errorInvalidHandle
    | some o =>
      if (s.objects o).publicHandleRefs = 0 ∨ (s.objects o).closeState ∨
          (s.objects o).internalRefs = 0 then waitFailure s errorInvalidHandle
      else if (s.objects o).type ≠ .event then waitFailure s errorInvalidParameter
      else
        match openEvent s handle with
        | none => waitFailure s errorInvalidHandle
        | some e =>
          if (s.events e).signaled then (.returned waitObject0, tokenTaken s e)
          else if milliseconds = 0 then (.returned waitTimeout, s)
          else if milliseconds = infinite then blockCurrent s handle
          else
            match clock with
            | none => waitFailure s errorInvalidParameter
            | some now =>
              if ¬ s.config.nowMs then waitFailure s errorInvalidParameter
              else
                match armWaitTimeout (pollTimeouts s pollClock).2 (deadlineOf now milliseconds) with
                | (false, s1) => waitFailure s1 errorInvalidParameter
                | (true, s1) => blockCurrent s1 handle

/-- `gxos_set_event_contract` and `gxos_reset_event_contract` make the same checks around
the scheduler call. -/
def eventContract (call : State → Nat → Bool × State) (s : State) (contextGiven : Bool)
    (handle : Nat) : Bool × State :=
  if ¬ contextGiven ∨ ¬ s.active ∨ openEvent s handle = none then
    (false, setLastError s errorInvalidHandle)
  else
    match call s handle with
    | (false, s1) => (false, setLastError s1 errorInvalidHandle)
    | (true, s1) => (true, s1)

def setEventContract : State → Bool → Nat → Bool × State := eventContract signalEvent

def resetEventContract : State → Bool → Nat → Bool × State := eventContract resetEvent

/-! ## Runs -/

/-- A call of an operation with its arguments and the answers of the callbacks that it
makes. `store` is what the threads themselves do to memory between two calls. -/
inductive Op
  | configureStackVm (scheduler : SchedulerPtr) (registerGiven unregisterGiven : Bool)
  | configureClock (scheduler : SchedulerPtr) (clockGiven : Bool)
  | adoptBootEnvironment (scheduler : SchedulerPtr) (environment : BootEnvironment)
  | createEvent (scheduler : SchedulerPtr) (manualReset initialSignaled : Nat) (handleOut : Bool)
  | createMemoryResourceNotification (scheduler : SchedulerPtr) (notificationType : Nat)
      (handleOut : Bool)
  | installStandardStream (scheduler : SchedulerPtr) (roleMask backend capabilities : Nat)
  | createSuspendedThread (scheduler : SchedulerPtr) (entry argument : Nat)
      (handleOut threadOut : Bool) (answers : CreateAnswers)
  | resumeThread (handle : Nat)
  | closeHandle (handle : Nat) (unregistered : Bool)
  | signalEvent (handle : Nat)
  | resetEvent (handle : Nat)
  | armWaitTimeout (deadlineMs : Nat)
  | serviceTimeouts (nowMs : Nat)
  | pollTimeouts (clock : Option Nat)
  | prepareWaitRecord (handle : Nat) (planOut : Bool)
  | finishWait (handle : Nat)
  | prepareYield (planOut : Bool)
  | prepareTerminate (returnValue : Nat) (planOut : Bool)
  | contextSwitch (plan : SwitchPlan) (frame : Nat)
  | tryDestroyEvent (handle : Nat)
  | tryDestroyMemoryResourceNotification (handle : Nat)
  | tryReclaimThread (thread : Option ThreadSlot) (unregistered : Bool)
  | discardCreatedThread (thread : Option ThreadSlot) (unregistered : Bool)
  | collect (scheduler : SchedulerPtr) (unregistered : ThreadSlot → Bool)
  | teardown (scheduler : SchedulerPtr) (unregistered : ThreadSlot → Bool)
  | noteWorkerStarted
  | setFls (slot value : Nat)
  | setLastError (value : Nat)
  | waitOne (contextGiven : Bool) (handle milliseconds alertable : Nat)
      (clock pollClock : Option Nat)
  | setEventContract (contextGiven : Bool) (handle : Nat)
  | resetEventContract (contextGiven : Bool) (handle : Nat)
  | store (memory : Nat → Nat)

def step (s : State) : Op → State
  | .configureStackVm p a b => (configureStackVm s p a b).2
  | .configureClock p a => (configureClock s p a).2
  | .adoptBootEnvironment p b => (adoptBootEnvironment s p b).2
  | .createEvent p m i h => (createEvent s p m i h).2
  | .createMemoryResourceNotification p n h => (createMemoryResourceNotification s p n h).2
  | .installStandardStream p r b c => (installStandardStream s p r b c).2
  | .createSuspendedThread p e a h t w => (createSuspendedThread s p e a h t w).2
  | .resumeThread h => (resumeThread s h).2
  | .closeHandle h u => (closeHandle s h u).2
  | .signalEvent h => (signalEvent s h).2
  | .resetEvent h => (resetEvent s h).2
  | .armWaitTimeout d => (armWaitTimeout s d).2
  | .serviceTimeouts n => (serviceTimeouts s n).2
  | .pollTimeouts c => (pollTimeouts s c).2
  | .prepareWaitRecord h p => (prepareWaitRecord s h p).2
  | .finishWait h => (finishWait s h).2
  | .prepareYield p => (prepareYield s p).2
  | .prepareTerminate v p => (prepareTerminate s v p).2
  | .contextSwitch p f => contextSwitch s p f
  | .tryDestroyEvent h => (tryDestroyEvent s h).2
  | .tryDestroyMemoryResourceNotification h => (tryDestroyMemoryResourceNotification s h).2
  | .tryReclaimThread t u => (tryReclaimThread s t u).2
  | .discardCreatedThread t u => (discardCreatedThread s t u).2
  | .collect p u => (collect s p u).2
  | .teardown p u => (teardown s p u).2
  | .noteWorkerStarted => noteWorkerStarted s
  | .setFls i v => setFls s i v
  | .setLastError v => setLastError s v
  | .waitOne c h m a k l => (waitOne s c h m a k l).2
  | .setEventContract c h => (setEventContract s c h).2
  | .resetEventContract c h => (resetEventContract s c h).2
  | .store memory => s.modMachine fun m => { m with memory }

/-- The states in which a run can start. -/
def Started (s : State) : Prop := ∃ i, initializeScheduler i = (true, s)

/-- The states that a run reaches when each of its steps meets the condition `ok`. -/
def ReachableBy (ok : State → Op → Prop) : State → Prop := Runs.Reach Started step ok

/-- The states that any sequence of operations with any arguments reaches. -/
def Reachable : State → Prop := ReachableBy fun _ _ => True

end Gate4Harness.Scheduler
