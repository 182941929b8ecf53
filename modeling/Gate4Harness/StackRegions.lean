-- The scheduler with the region ledger of the loader behind its stack callbacks. A creation
-- registers the stack of the new thread, a reclaim takes it out again, and `VirtualQuery` is
-- answered from the same ledger.
import Gate4Harness.SchedulerAtomicity
import Gate4Harness.RegionLedgerLaws

namespace Gate4Harness.StackRegions

open Scheduler (State Op Tcb ThreadSlot CreateCall SchedulerPtr maybeReclaimThread reclaimable
  memoryRegisterSchedulerStack stackSize maxThreads sub64 add64)
open Vm (RegionLedger RegionAttributes RegionSlot Region RegionInv regionUnregister
  regionVirtualQuery)
open scoped Scheduler

/-! ## The wiring -/

structure World where
  scheduler : State := {}
  regions : RegionLedger := {}

/-- `memory_unregister_scheduler_stack` -/
def memoryUnregisterSchedulerStack (l : RegionLedger) (base bytes identity : Nat) :
    Bool × RegionLedger :=
  let answer := regionUnregister l base bytes identity
  (decide (answer.status = none), answer.ledger)

/-- The length that both callbacks get: `stack_limit - stack_base`. -/
def stackBytes (base limit : Nat) : Nat := sub64 limit base

/-- A creation that gets as far as the callback hands it the new stack. -/
def create (w : World) (c : CreateCall) : World :=
  match c.slots w.scheduler with
  | none => { w with scheduler := (c.run w.scheduler).2 }
  | some _ =>
    let stack := c.answers.stack.memory
    let (stackVm, regions) := memoryRegisterSchedulerStack w.regions stack
      (stackBytes stack (add64 stack stackSize))
    { scheduler := (CreateCall.run w.scheduler { c with answers := { c.answers with stackVm } }).2
      regions }

/-- `maybe_reclaim_thread` gets as far as the call of `unregister_stack_vm`. -/
def unregisters (s : State) (t : ThreadSlot) : Bool :=
  reclaimable s t && decide ((s.threads t).stackPagesMemory ≠ 0) &&
  decide ((s.threads t).stackVmIdentity ≠ 0) && s.config.unregisterStackVm

/-- What the callback answers for the stack of a thread. -/
def unregisterStack (w : World) (s : State) (t : ThreadSlot) : Bool × RegionLedger :=
  memoryUnregisterSchedulerStack w.regions (s.threads t).stackBase
    (stackBytes (s.threads t).stackBase (s.threads t).stackLimit) (s.threads t).stackVmIdentity

/-- A call that may reclaim the thread `t`, as a function of what the callback answers. A refusal
leaves the state in which the callback was asked. -/
def answered (w : World) (t : ThreadSlot) (call : Bool → State) : Bool × World :=
  let s := call false
  if unregisters s t then
    let (ok, regions) := unregisterStack w s t
    (ok, { scheduler := call ok, regions })
  else (false, { w with scheduler := s })

/-- The loop of `gxos_scheduler_collect`, with the answer for each thread. -/
def collectIn : List ThreadSlot → World → (ThreadSlot → Bool) × World
  | [], w => (fun _ => false, w)
  | t :: rest, w =>
    let (ok, w1) := answered w t (maybeReclaimThread w.scheduler t)
    let (answers, w2) := collectIn rest w1
    (Function.update answers t ok, w2)

def collectAll (w : World) : (ThreadSlot → Bool) × World := collectIn (List.finRange maxThreads) w

/-- The guards of `gxos_scheduler_teardown` before it collects. -/
def tearsDown (s : State) (p : SchedulerPtr) : Bool :=
  s.accepts p && s.active && decide (s.current = s.bootThread) &&
  match s.bootThread with
  | none => false
  | some boot => decide ((s.threads boot).state = .running)

/-- The thread that a call hands to `maybe_reclaim_thread`, if its guards let it get there. -/
def reclaimedBy (s : State) : Op → Option ThreadSlot
  | .closeHandle handle _ =>
    match Scheduler.handleType handle with
    | some .thread =>
      match Scheduler.lookupObject s handle .thread with
      | none => none
      | some o => if (s.objects o).publicHandleRefs = 0 then none else Scheduler.targetThread s o
    | _ => none
  | .tryReclaimThread t _ => t
  | .discardCreatedThread (some t) _ => if Scheduler.discardable s t then some t else none
  | _ => none

/-- The operation with this answer of `unregister_stack_vm`. -/
def withAnswer (op : Op) (ok : Bool) : Op :=
  match op with
  | .closeHandle handle _ => .closeHandle handle ok
  | .tryReclaimThread t _ => .tryReclaimThread t ok
  | .discardCreatedThread t _ => .discardCreatedThread t ok
  | op => op

/-- A call that can get to one `maybe_reclaim_thread`, or to none. -/
def reclaimStep (w : World) (op : Op) : World :=
  match reclaimedBy w.scheduler op with
  | some t => (answered w t fun ok => Scheduler.step w.scheduler (withAnswer op ok)).2
  | none => { w with scheduler := Scheduler.step w.scheduler (withAnswer op false) }

/-- The calls as the scheduler makes them with these callbacks. The answers of the two stack
callbacks that an operation carries are not read. -/
def step (w : World) (op : Op) : World :=
  match op with
  | .createSuspendedThread p e a h t answers => create w ⟨p, e, a, h, t, answers⟩
  | .collect p _ => if w.scheduler.accepts p then (collectAll w).2 else w
  | .teardown p _ =>
    if tearsDown w.scheduler p then
      { scheduler := (Scheduler.teardown w.scheduler p (collectAll w).1).2
        regions := (collectAll w).2.regions }
    else w
  | op => reclaimStep w op

/-- The region that `memory_register_scheduler_stack` registers, and the loader for its own
stack. -/
def stackRegion (base bytes : Nat) : RegionAttributes :=
  { base, bytes, allocationBase := base, allocationProtect := 0x04,
    state := Vm.regionStateCommit, protect := 0x04, type := 0x20000 }

/-- The scheduler starts after the loader registered the stack that it runs on itself. -/
def Booted (lower upper : Nat) (w : World) : Prop :=
  Scheduler.Started w.scheduler ∧ lower < upper ∧
  (Vm.regionRegister Vm.regionLedgerInit (stackRegion lower (upper - lower)) true).status =
    none ∧
  w.regions =
    (Vm.regionRegister Vm.regionLedgerInit (stackRegion lower (upper - lower)) true).ledger

/-- The worlds that any sequence of calls reaches. -/
def Reached (lower upper : Nat) : World → Prop :=
  Runs.Reach (Booted lower upper) step fun w op => Scheduler.SavesLive w.scheduler op

end Gate4Harness.StackRegions
