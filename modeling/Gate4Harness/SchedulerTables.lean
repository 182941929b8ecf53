-- The tables of the scheduler: handles and object records, the runnable queue,
-- the waiter lists of the events and the wait records. These are the static
-- functions of scheduler_foundation.c, in their order there. Each one is a
-- function of the scheduler state that returns the new state.
import Gate4Harness.SlotList
import Gate4Harness.SchedulerState

namespace Gate4Harness.Scheduler

open SlotList

/-! ## Handles and objects -/

def makeHandle (type : ObjectType) (slot : ObjectSlot) (generation : Nat) : Nat :=
  (handleMagic <<< 56) ||| (type.code <<< 48) ||| (generation <<< 16) ||| (slot.val + 1)

/-- The slot and the generation that a handle of the expected type names. The casts to
`uint8_t` and `uint16_t` drop the higher bits. -/
def decodeHandle (handle : Nat) (expectedType : ObjectType) : Option (ObjectSlot × Nat) :=
  let magic := (handle >>> 56) % 2 ^ 8
  let type := (handle >>> 48) % 2 ^ 8
  let decodedSlot := handle % 2 ^ 16
  let decodedGeneration := (handle >>> 16) % 2 ^ 16
  if magic ≠ handleMagic ∨ type ≠ expectedType.code ∨ decodedGeneration = 0 then none
  else if h : decodedSlot = 0 ∨ decodedSlot > maxObjects then none
  else some (⟨decodedSlot - 1, by omega⟩, decodedGeneration)

def lookupObject (s : State) (handle : Nat) (expectedType : ObjectType) : Option ObjectSlot :=
  if ¬ s.installed then none
  else
    match decodeHandle handle expectedType with
    | none => none
    | some (slot, generation) =>
      if ¬ (s.objects slot).live ∨ (s.objects slot).type ≠ expectedType ∨
          (s.objects slot).generation ≠ generation then none
      else some slot

/-- The generation of the next object in a slot: one more in 16 bits, and never 0. -/
def nextGeneration (generation : Nat) : Nat :=
  if (generation + 1) % 2 ^ 16 = 0 then 1 else (generation + 1) % 2 ^ 16

def freeObject? (s : State) : Option ObjectSlot :=
  (List.finRange maxObjects).find? (fun o => ! (s.objects o).live)

theorem freeObject?_live {s : State} {o : ObjectSlot} (h : freeObject? s = some o) :
    (s.objects o).live = false := by
  have := List.find?_some h
  simpa using this

def allocateObject (s : State) (type : ObjectType) (target : Target) :
    Option (ObjectSlot × Nat) × State :=
  if ¬ s.installed then (none, s)
  else
    match freeObject? s with
    | none => (none, s)
    | some o =>
      let generation := nextGeneration (s.objects o).generation
      (some (o, makeHandle type o generation),
        s.modObject o fun _ =>
          { live := true, type, generation, slot := o, publicHandleRefs := 1, internalRefs := 1,
            target := some target })

def releaseObjectRecord (s : State) (o : ObjectSlot) : State :=
  s.modObject o fun object => { generation := object.generation }

/-- `(GXOS_SCHEDULER_TCB *)object->target` -/
def targetThread (s : State) (o : ObjectSlot) : Option ThreadSlot :=
  match (s.objects o).target with
  | some (.thread t) => some t
  | _ => none

/-- `(GXOS_SCHEDULER_EVENT *)object->target` -/
def targetEvent (s : State) (o : ObjectSlot) : Option EventSlot :=
  match (s.objects o).target with
  | some (.event e) => some e
  | _ => none

/-! ## The runnable queue -/

def freeThread? (s : State) : Option ThreadSlot :=
  (List.finRange maxThreads).find? (fun t => ! (s.threads t).live)

def enqueueRunnable (s : State) (t : ThreadSlot) : Bool × State :=
  if ¬ s.installed ∨ ¬ (s.threads t).live ∨ (s.threads t).state ≠ .runnable then (false, s)
  else if (s.threads t).runnableQueued then (true, s)
  else if s.runnableCount ≥ maxThreads then
    (false, { s with queueRefusals := s.queueRefusals + 1 })
  else
    (true,
      { s with
        runnableQueue := Function.update s.runnableQueue s.runnableCount (some t)
        runnableCount := s.runnableCount + 1 }.modThread t
        fun thread => { thread with runnableQueued := true })

def removeRunnable (s : State) (t : ThreadSlot) : Bool × State :=
  if ¬ s.installed ∨ ¬ (s.threads t).runnableQueued then (false, s)
  else
    match findFrom s.runnableQueue t 0 s.runnableCount with
    | some index =>
      let tail := s.runnableCount - 1
      (true,
        { s with
          runnableQueue :=
            Function.update (shiftDown s.runnableQueue index (tail - index)) tail none
          runnableCount := tail }.modThread t
          fun thread => { thread with runnableQueued := false })
    | none => (false, s.modThread t fun thread => { thread with runnableQueued := false })

/-- A live thread that is runnable and queued, as `pick_next_runnable` asks. -/
def eligible (s : State) (t : ThreadSlot) : Bool :=
  (s.threads t).live && decide ((s.threads t).state = .runnable) && (s.threads t).runnableQueued

/-- `(current_index + offset) % GXOS_SCHEDULER_MAX_THREADS` -/
def slotAfter (current : ThreadSlot) (offset : Nat) : ThreadSlot :=
  ⟨(current.val + offset) % maxThreads, Nat.mod_lt _ (by decide)⟩

/-- The slots in the order of the scan: `offset` runs from 1 to the number of threads,
so the last slot that the scan looks at is the slot of `current` itself. -/
def scanOrder (current : ThreadSlot) : List ThreadSlot :=
  (List.range' 1 maxThreads).map (slotAfter current)

def pickNextRunnable (s : State) (current : ThreadSlot) : Option ThreadSlot :=
  (scanOrder current).find? (eligible s)

/-- The plan names the `saved_context` field of the old thread and the context that the
new thread saved. -/
def chooseNext (s : State) (next : ThreadSlot) : SwitchPlan × State :=
  let old := s.current
  let s1 := (removeRunnable s next).2
  let s2 := s1.modThread next fun thread => { thread with state := .running }
  ({ oldContext := old, newContext := (s2.threads next).savedContext },
    { s2 with current := some next })

/-! ## Waiter lists -/

/-- The duplicate scan of `add_waiter`: the record is in the list, or a record of the
same thread is. -/
def hasWaiter (s : State) (e : EventSlot) (r : RecordSlot) : Bool :=
  (List.range (s.events e).waiterCount).any fun index =>
    match (s.events e).waiters index with
    | none => false
    | some other => decide (other = r) ||
        decide ((s.waitRecords other).thread = (s.waitRecords r).thread)

def addWaiter (s : State) (e : EventSlot) (r : RecordSlot) : Bool × State :=
  if (s.events e).waiterCount ≥ maxWaiters ∨ (s.waitRecords r).waiterLinked then (false, s)
  else if hasWaiter s e r then (false, s)
  else
    let index := (s.events e).waiterCount
    (true,
      (s.modRecord r fun record =>
        { record with waiterIndex := index, waiterLinked := true }).modEvent
        e fun event =>
          { event with
            waiters := Function.update event.waiters index (some r)
            waiterCount := index + 1 })

/-- The last waiter moves into the hole, and its back index follows. -/
def removeWaiter (s : State) (e : EventSlot) (index : Nat) : State :=
  if index ≥ (s.events e).waiterCount then s
  else
    let record := (s.events e).waiters index
    let tail := (s.events e).waiterCount - 1
    let moved := (s.events e).waiters tail
    let s1 :=
      match moved with
      | some m => s.modRecord m fun record => { record with waiterIndex := index }
      | none => s
    let s2 := s1.modEvent e fun event =>
      { event with
        waiters := Function.update (Function.update event.waiters index moved) tail none
        waiterCount := tail }
    match record with
    | some r => s2.modRecord r fun record =>
        { record with waiterLinked := false, waiterIndex := uint32Max }
    | none => s2

def completeWaiter (s : State) (e : EventSlot) (index : Nat) (completionResult : Nat)
    (waitResult : WaitResult) : State :=
  if index ≥ (s.events e).waiterCount then s
  else
    match (s.events e).waiters index with
    | none => removeWaiter s e index
    | some r =>
      match (s.waitRecords r).thread with
      | none => removeWaiter s e index
      | some t =>
        if ¬ (s.waitRecords r).valid ∨ ¬ (s.waitRecords r).active ∨
            ¬ (s.waitRecords r).waiterLinked then removeWaiter s e index
        else
          let s1 := removeWaiter s e index
          let s2 := s1.modRecord r fun record => { record with completed := true, completionResult }
          let s3 := s2.modThread t fun thread =>
            { thread with blockedObject := 0, blockedResult := waitResult, state := .runnable }
          let (queued, s4) := enqueueRunnable s3 t
          if queued then s4 else s4.modThread t fun thread => { thread with state := .blocked }

def wakeWaiter (s : State) (e : EventSlot) (index : Nat) : State :=
  completeWaiter s e index waitObject0 .signaled

def timeoutWaiter (s : State) (r : RecordSlot) : State :=
  match (s.waitRecords r).waitable with
  | none => s
  | some e =>
    if ¬ (s.waitRecords r).waiterLinked then s
    else completeWaiter s e (s.waitRecords r).waiterIndex waitTimeout .timedOut

/-! ## Wait records -/

def freeWaitRecord? (s : State) : Option RecordSlot :=
  if ¬ s.installed then none
  else (List.finRange maxWaitRecords).find? (fun r => ! (s.waitRecords r).valid)

/-- The generation of the next wait record and the counter after it. The counter has
32 bits, and a record never gets generation 0. -/
def takeWaitGeneration (next : Nat) : Nat × Nat :=
  let after := (next + 1) % 2 ^ 32
  if next ≠ 0 then (next, after)
  else
    let again := (after + 1) % 2 ^ 32
    if after ≠ 0 then (after, again) else (1, again)

def allocateWaitRecord (s : State) : Option RecordSlot × State :=
  match freeWaitRecord? s with
  | none => (none, s)
  | some r =>
    let (generation, next) := takeWaitGeneration s.nextWaitGeneration
    (some r,
      { s with nextWaitGeneration := next }.modRecord r fun _ =>
        { valid := true, generation, waiterIndex := uint32Max })

def pinObject (s : State) (o : ObjectSlot) : Bool × State :=
  if ¬ (s.objects o).live ∨ (s.objects o).internalRefs = 0 then (false, s)
  else (true, s.modObject o fun object => { object with internalRefs := object.internalRefs + 1 })

def unpinWaitRecord (s : State) (r : RecordSlot) : State :=
  if ¬ (s.waitRecords r).pinHeld then s
  else
    let s1 :=
      match (s.waitRecords r).object with
      | some o =>
        if (s.objects o).internalRefs ≠ 0 then
          s.modObject o fun object => { object with internalRefs := object.internalRefs - 1 }
        else s
      | none => s
    s1.modRecord r fun record => { record with pinHeld := false }

def releaseWaitRecord (s : State) (r : RecordSlot) : State :=
  if ¬ (s.waitRecords r).valid then s
  else
    let s1 :=
      if (s.waitRecords r).active ∧ s.installed ∧ s.activeWaitCount ≠ 0 then
        { s with activeWaitCount := s.activeWaitCount - 1 }
      else s
    let s2 := s1.modRecord r fun record => { record with active := false }
    (unpinWaitRecord s2 r).modRecord r fun _ => {}

/-! ## Open event handles -/

def decodeEventIdentity (handle : Nat) : Option (ObjectSlot × Nat) :=
  decodeHandle handle .event

/-- The object and the event behind a handle that is still open. -/
def validateOpenEventHandle (s : State) (handle : Nat) : Option (ObjectSlot × EventSlot) :=
  match decodeEventIdentity handle with
  | none => none
  | some (slot, generation) =>
    if ¬ (s.objects slot).live ∨ (s.objects slot).type ≠ .event ∨
        (s.objects slot).generation ≠ generation ∨ (s.objects slot).closeState ∨
        (s.objects slot).publicHandleRefs = 0 ∨ (s.objects slot).internalRefs = 0 then none
    else
      match targetEvent s slot with
      | none => none
      | some e =>
        if ¬ (s.events e).live ∨ (s.events e).objectSlot ≠ slot ∨
            (s.events e).generation ≠ generation then none
        else some (slot, e)

end Gate4Harness.Scheduler
