-- The scheduler with the accounting of the loader behind its page callbacks. A stack is
-- obtained as one block of four pages and given back as one page, which the ledger does not
-- know. So no stack ever goes back, and the ledger has room for only so many of them.
import Gate4Harness.FirmwareLedgerLaws
import Gate4Harness.SchedulerLaws
import Gate4Harness.SchedulerPages

namespace Gate4Harness.StackLedger

open Accounting (Epoch Block Form EpochInv)
open Scheduler (State PageCall ThreadSlot Tcb stackPages stackSize)
open scoped Scheduler

/-! ## The wiring -/

structure World where
  scheduler : State := {}
  epoch : Epoch

/-- `memory_tracked_allocate_pages` and `memory_tracked_free_pages`, as the scheduler calls them.
It takes no notice of the status of the second. -/
def accountingOp : PageCall → Accounting.Op
  | .obtained base pages => .allocatePages pages true (.block base)
  | .returned base pages => .freePages base pages (Accounting.efiError 2)

def serve (s : Epoch) (c : PageCall) : Epoch := Accounting.step s (accountingOp c)

/-- The call returns with this answer. -/
def Answers (result : Accounting.Call) (answer : Accounting.Answer) : Prop :=
  match result with
  | .ok (given, _) => given = answer
  | .error _ => False

/-- The firmware conforms, the counter of the mutations has room, and pages that the scheduler
obtained are those that it was answered. -/
def ServedCall (s : Epoch) (c : PageCall) : Prop :=
  Accounting.Conforms s (accountingOp c) ∧ s.accountingGeneration < Vm.uint64Max ∧
  match c with
  | .obtained base _ =>
    Answers (Accounting.call s (accountingOp c)) { status := 0, out := some base }
  | .returned _ _ => True

/-- The page calls that a step made. -/
def newCalls (s s' : State) : List PageCall :=
  s'.machine.pageCalls.drop s.machine.pageCalls.length

/-- The scheduler is started or does anything, or another part of the loader uses the ledger. -/
inductive Event
  | boot (input : Scheduler.BootInput)
  | scheduler (op : Scheduler.Op)
  | accounting (op : Accounting.Op)

/-- A boot that fails ends the program, and leaves the world as it is. -/
def step (w : World) : Event → World
  | .boot input =>
    match Scheduler.initializeScheduler input with
    | (true, scheduler) =>
      { scheduler, epoch := Runs.run serve w.epoch (newCalls w.scheduler scheduler) }
    | (false, _) => w
  | .scheduler op =>
    { scheduler := Scheduler.step w.scheduler op
      epoch := Runs.run serve w.epoch (newCalls w.scheduler (Scheduler.step w.scheduler op)) }
  | .accounting op => { w with epoch := Accounting.step w.epoch op }

/-- Only the scheduler calls `memory_tracked_free_pages`. -/
def freesPages : Accounting.Op → Bool
  | .freePages _ _ _ => true
  | _ => false

/-- There is one boot, and the firmware serves every call. -/
def InOrder (w : World) : Event → Prop
  | .boot input =>
    w.scheduler.machine.pageCalls = [] ∧
    Runs.Along serve ServedCall w.epoch
      (newCalls w.scheduler (Scheduler.initializeScheduler input).2)
  | .scheduler op =>
    w.scheduler.installed = true ∧
    Runs.Along serve ServedCall w.epoch (newCalls w.scheduler (Scheduler.step w.scheduler op))
  | .accounting op =>
    Accounting.Conforms w.epoch op ∧ w.epoch.accountingGeneration < Vm.uint64Max ∧
    freesPages op = false

/-- Before the boot. -/
def Fresh (w : World) : Prop := w.scheduler = {} ∧ Accounting.Begins w.epoch

/-- The number of the creations that succeeded. -/
def noteCreation (w : World) (e : Event) (creations : Nat) : Nat :=
  match e with
  | .scheduler (.createSuspendedThread p entry a h t answers) =>
    if (Scheduler.createSuspendedThread w.scheduler p entry a h t answers).1.ok then creations + 1
    else creations
  | _ => creations

def Run : World → Nat → Prop :=
  Runs.ReachNoting Fresh step InOrder (fun _ => 0) noteCreation

/-- The stack of a call that obtained one. -/
def stack? : PageCall → Option Nat
  | .obtained base pages => if pages = stackPages then some base else none
  | .returned _ _ => none

/-- The stacks that the scheduler obtained over its whole run. -/
def stacksObtained (s : State) : List Nat := s.machine.pageCalls.filterMap stack?

def stackBlock (base : Nat) : Block := ⟨.pages stackPages, base, stackSize⟩

/-! ## The page calls of a step -/

/-- Whatever is given back is given back as one page. -/
def OnePage : PageCall → Prop
  | .obtained _ _ => True
  | .returned _ pages => pages = 1

/-- The page calls go on from those of `s`. -/
def Logs (s s' : State) : Prop :=
  ∃ calls, s'.machine.pageCalls = s.machine.pageCalls ++ calls ∧ ∀ c ∈ calls, OnePage c

variable {s s' s'' : State} {t : ThreadSlot} {o : Scheduler.ObjectSlot}

theorem Logs.of_eq (h : s'.machine.pageCalls = s.machine.pageCalls) : Logs s s' :=
  ⟨[], by rw [h, List.append_nil], List.forall_mem_nil _⟩

theorem Logs.refl (s : State) : Logs s s := .of_eq rfl

theorem Logs.trans (h : Logs s s') (h' : Logs s' s'') : Logs s s'' := by
  obtain ⟨calls, heq, hone⟩ := h
  obtain ⟨calls', heq', hone'⟩ := h'
  exact ⟨calls ++ calls', by rw [heq', heq, List.append_assoc],
    List.forall_mem_append.mpr ⟨hone, hone'⟩⟩

/-- Nothing is called between two states with the same calls. -/
theorem Logs.congr (h : Logs s s') (heq : s''.machine.pageCalls = s'.machine.pageCalls) :
    Logs s s'' := h.trans (.of_eq heq)

theorem pageAllocate_logs (s : State) (a : Scheduler.PageAnswer) :
    Logs s (Scheduler.pageAllocate s a).2 := by
  unfold Scheduler.pageAllocate
  split
  · exact ⟨[.obtained a.memory 1], rfl, List.forall_mem_singleton.mpr trivial⟩
  · exact .refl s

theorem pageFree_logs (s : State) (memory : Nat) : Logs s (Scheduler.pageFree s memory) := by
  unfold Scheduler.pageFree
  split
  · exact ⟨[.returned memory 1], rfl, List.forall_mem_singleton.mpr rfl⟩
  · exact .refl s

theorem environmentPages_logs (s : State) (a : Scheduler.EnvironmentAnswers) :
    Logs s (Scheduler.environmentPages s a).2 :=
  (((pageAllocate_logs s _).trans (pageAllocate_logs _ _)).trans (pageAllocate_logs _ _)).trans
    (pageAllocate_logs _ _)

theorem freeEnvironmentPages_logs (s : State) (gsArea vector block teb : Nat) :
    Logs s (Scheduler.freeEnvironmentPages s gsArea vector block teb) :=
  (((pageFree_logs s _).trans (pageFree_logs _ _)).trans (pageFree_logs _ _)).trans
    (pageFree_logs _ _)

theorem allocateThreadEnvironment_logs (s : State) (t : ThreadSlot)
    (a : Scheduler.EnvironmentAnswers) :
    Logs s (Scheduler.allocateThreadEnvironment s t a).2 := by
  have hpages := environmentPages_logs s a
  unfold Scheduler.allocateThreadEnvironment
  split
  · exact .refl s
  · generalize Scheduler.environmentPages s a = q at hpages ⊢
    obtain ⟨⟨gsArea, vector, block, teb⟩, s1⟩ := q
    dsimp only at hpages ⊢
    split
    · exact hpages.trans (freeEnvironmentPages_logs _ _ _ _ _)
    · exact hpages.congr rfl

theorem freeThreadEnvironment_logs (s : State) (t : ThreadSlot) :
    Logs s (Scheduler.freeThreadEnvironment s t) := by
  unfold Scheduler.freeThreadEnvironment
  split
  · exact .refl s
  · dsimp only
    split
    · exact (freeEnvironmentPages_logs s _ _ _ _).congr rfl
    · exact .of_eq rfl

theorem abandonThread_logs (s : State) (t : ThreadSlot) (o : Scheduler.ObjectSlot) :
    Logs s (Scheduler.abandonThread s t o) := .of_eq rfl

/-- The two frees of a creation that fails late. -/
theorem withdraw_logs (s : State) (t : ThreadSlot) (o : Scheduler.ObjectSlot)
    (canary stackMemory : Nat) : Logs s (Scheduler.abandonThread
      (Scheduler.pageFree (Scheduler.pageFree s canary) stackMemory) t o) :=
  ((pageFree_logs s canary).trans (pageFree_logs _ stackMemory)).trans (abandonThread_logs _ t o)

theorem finishCreation_logs (s : State) (t : ThreadSlot) (stackVmIdentity : Nat) :
    Logs s (Scheduler.finishCreation s t stackVmIdentity) :=
  .of_eq (Scheduler.finishCreation_calls s t stackVmIdentity)

theorem equipThread_logs (s : State) (t : ThreadSlot) (o : Scheduler.ObjectSlot)
    (handle stackMemory canary : Nat) (a : Scheduler.CreateAnswers) :
    Logs s (Scheduler.equipThread s t o handle stackMemory canary a).2 := by
  have henv := allocateThreadEnvironment_logs s t a.environment
  unfold Scheduler.equipThread
  generalize Scheduler.allocateThreadEnvironment s t a.environment = q at henv ⊢
  obtain ⟨furnished, s1⟩ := q
  dsimp only at henv ⊢
  split
  · exact henv.trans (withdraw_logs s1 t o canary stackMemory)
  · split
    · exact henv.trans (finishCreation_logs s1 t _)
    · exact (henv.trans (freeThreadEnvironment_logs s1 t)).trans
        (withdraw_logs _ t o canary stackMemory)

theorem furnishThread_logs (s : State) (t : ThreadSlot) (o : Scheduler.ObjectSlot)
    (handle stackMemory : Nat) (a : Scheduler.CreateAnswers) :
    Logs s (Scheduler.furnishThread s t o handle stackMemory a).2 := by
  have hcanary := pageAllocate_logs s a.canary
  unfold Scheduler.furnishThread
  generalize Scheduler.pageAllocate s a.canary = q at hcanary ⊢
  obtain ⟨canary, s1⟩ := q
  dsimp only at hcanary ⊢
  have hcleared : Logs s (s1.modThread t fun thread =>
    { thread with stackCanaryMemory := canary }) := hcanary.congr rfl
  generalize s1.modThread t (fun thread => { thread with stackCanaryMemory := canary }) = s2
    at hcleared ⊢
  split
  · exact (hcleared.trans (pageFree_logs s2 stackMemory)).trans (abandonThread_logs _ t o)
  · have hset : Logs s2 (Scheduler.setCanaries s2 t) := .of_eq rfl
    exact (hcleared.trans hset).trans (equipThread_logs _ t o handle stackMemory canary a)

/-- A creation asks for one stack, and a creation that succeeds got it. -/
theorem createSuspendedThread_logs (s : State) (p : Scheduler.SchedulerPtr)
    (entry argument : Nat) (handleOut threadOut : Bool) (a : Scheduler.CreateAnswers) :
    Logs s (Scheduler.createSuspendedThread s p entry argument handleOut threadOut a).2 ∧
    ((Scheduler.createSuspendedThread s p entry argument handleOut threadOut a).1.ok = true →
      (stacksObtained s).length <
        (stacksObtained (Scheduler.createSuspendedThread s p entry argument handleOut
          threadOut a).2).length) := by
  unfold Scheduler.createSuspendedThread
  split
  · exact ⟨.refl s, nofun⟩
  · cases hf : Scheduler.freeThread? s with
    | none => exact ⟨.refl s, nofun⟩
    | some t =>
      dsimp only
      have hobject : ∀ x, Logs s
          (Scheduler.allocateObject (s.modThread t fun _ => Scheduler.newThread entry argument)
            .thread x).2 ∧
          stacksObtained (Scheduler.allocateObject
            (s.modThread t fun _ => Scheduler.newThread entry argument) .thread x).2 =
          stacksObtained s := by
        intro x
        rcases Scheduler.allocateObject_cases
          (s.modThread t fun _ => Scheduler.newThread entry argument) .thread x with
          heq | ⟨o, generation, -, -, -, heq⟩ <;> rw [heq] <;> exact ⟨.of_eq rfl, rfl⟩
      obtain ⟨hlogs, hstacks⟩ := hobject (.thread t)
      generalize Scheduler.allocateObject (s.modThread t fun _ =>
        Scheduler.newThread entry argument) .thread (.thread t) = q at hlogs hstacks ⊢
      obtain ⟨taken, s1⟩ := q
      dsimp only at hlogs hstacks
      cases taken with
      | none => exact ⟨hlogs.congr rfl, nofun⟩
      | some pair =>
        obtain ⟨o, handle⟩ := pair
        dsimp only
        split
        · exact ⟨hlogs.congr rfl, nofun⟩
        · have htake : Logs s1 (Scheduler.takeStack (Scheduler.identifyThread s1 t o) t
              a.stack.memory) :=
            ⟨[.obtained a.stack.memory stackPages], rfl, List.forall_mem_singleton.mpr trivial⟩
          have htaken : stacksObtained (Scheduler.takeStack (Scheduler.identifyThread s1 t o) t
              a.stack.memory) = stacksObtained s1 ++ [a.stack.memory] := by
            unfold stacksObtained
            change List.filterMap stack? (s1.machine.pageCalls ++ _) = _
            rw [List.filterMap_append]
            simp [stack?]
          generalize Scheduler.takeStack (Scheduler.identifyThread s1 t o) t a.stack.memory = s2
            at htake htaken ⊢
          have hfurnish := furnishThread_logs s2 t o handle a.stack.memory a
          refine ⟨(hlogs.trans htake).trans hfurnish, fun _ => ?_⟩
          obtain ⟨calls, heq, _⟩ := hfurnish
          have hmore : (stacksObtained s2).length ≤ (stacksObtained
              (Scheduler.furnishThread s2 t o handle a.stack.memory a).2).length := by
            unfold stacksObtained
            rw [heq, List.filterMap_append, List.length_append]
            exact Nat.le_add_right _ _
          rw [htaken, hstacks, List.length_append] at hmore
          exact hmore

theorem reclaimThread_logs (s : State) (t : ThreadSlot) :
    Logs s (Scheduler.reclaimThread s t) := by
  unfold Scheduler.reclaimThread
  dsimp only
  generalize (s.threads t).objectSlot = o
  generalize (s.threads t).stackPagesMemory = stack
  generalize (s.threads t).stackCanaryMemory = canary
  have hobject : Logs s (s.modObject o fun object => { object with internalRefs := 0 }) :=
    .of_eq rfl
  generalize s.modObject o (fun object => { object with internalRefs := 0 }) = s1 at hobject ⊢
  have hstack := pageFree_logs s1 stack
  generalize Scheduler.pageFree s1 stack = s2 at hstack ⊢
  have hgone : Logs s2 (s2.modThread t fun thread => { thread with stackPagesMemory := 0 }) :=
    .of_eq rfl
  generalize s2.modThread t (fun thread => { thread with stackPagesMemory := 0 }) = s3
    at hgone ⊢
  have hcanary := pageFree_logs s3 canary
  generalize Scheduler.pageFree s3 canary = s4 at hcanary ⊢
  have hgone' : Logs s4 (s4.modThread t fun thread => { thread with stackCanaryMemory := 0 }) :=
    .of_eq rfl
  generalize s4.modThread t (fun thread => { thread with stackCanaryMemory := 0 }) = s5
    at hgone' ⊢
  have hmost := ((hobject.trans hstack).trans hgone).trans (hcanary.trans hgone')
  exact (hmost.trans (freeThreadEnvironment_logs s5 t)).congr rfl

theorem maybeReclaimThread_logs (s : State) (t : ThreadSlot) (unregistered : Bool) :
    Logs s (Scheduler.maybeReclaimThread s t unregistered) := by
  unfold Scheduler.maybeReclaimThread
  split
  · exact .refl s
  · split
    · split
      · exact .refl s
      · have hsame : Logs s (s.modThread t fun thread => { thread with stackVmIdentity := 0 }) :=
          .of_eq rfl
        exact hsame.trans (reclaimThread_logs _ t)
    · exact reclaimThread_logs s t

theorem collect_logs (s : State) (p : Scheduler.SchedulerPtr)
    (unregistered : ThreadSlot → Bool) : Logs s (Scheduler.collect s p unregistered).2 := by
  apply Scheduler.collect_induction (P := Logs s) unregistered _ (.refl s) p
  intro s1 t hlogs
  exact hlogs.trans (maybeReclaimThread_logs s1 t _)

theorem teardown_logs (hinv : Scheduler.Inv s) (p : Scheduler.SchedulerPtr)
    (unregistered : ThreadSlot → Bool) : Logs s (Scheduler.teardown s p unregistered).2 := by
  have hcollect := collect_logs s p unregistered
  rcases Scheduler.teardown_cases hinv p unregistered with heq | heq | ⟨_, _, _, heq⟩ <;> rw [heq]
  · exact .refl s
  · exact hcollect
  · have hstream : ∀ s1 : State, Logs s1 (Scheduler.releaseStream s1) := by
      intro s1
      unfold Scheduler.releaseStream
      split <;> exact .of_eq rfl
    exact ((hcollect.trans (hstream _)).trans (freeThreadEnvironment_logs _ 0)).congr rfl

theorem adoptBootEnvironment_logs (s : State) (p : Scheduler.SchedulerPtr)
    (b : Scheduler.BootEnvironment) :
    Logs s (Scheduler.adoptBootEnvironment s p b).2 := by
  unfold Scheduler.adoptBootEnvironment
  split
  · exact .refl s
  · cases s.bootThread with
    | none => exact .refl s
    | some boot => exact (freeThreadEnvironment_logs s boot).congr rfl

theorem initializeScheduler_logs {i : Scheduler.BootInput}
    (h : Scheduler.initializeScheduler i = (true, s)) :
    ∀ c ∈ s.machine.pageCalls, OnePage c := by
  unfold Scheduler.initializeScheduler at h
  split at h
  · cases h
  · rw [Scheduler.allocateObject_boot] at h
    dsimp only at h
    have henv := allocateThreadEnvironment_logs ((Scheduler.bootState i).modObject 0 fun _ =>
      Scheduler.newObject .thread 0 1 (.thread 0)) 0 i.pages
    generalize Scheduler.allocateThreadEnvironment _ 0 i.pages = q at h henv
    obtain ⟨ok, s2⟩ := q
    obtain ⟨calls, heq, hone⟩ := henv
    dsimp only at h heq
    split at h
    · cases h
    · cases h
      intro c hc
      apply hone
      change c ∈ s2.machine.pageCalls at hc
      rw [heq] at hc
      exact hc

/-- Each step goes on with the page calls, and gives back nothing but single pages. -/
theorem step_logs (hinv : Scheduler.Inv s) (op : Scheduler.Op) :
    Logs s (Scheduler.step s op) := by
  cases hfls : Scheduler.setsFls op with
  | true =>
    cases op with
    | setFls slot value =>
      change Logs s (Scheduler.setFls s slot value)
      unfold Scheduler.setFls
      split
      · exact .refl s
      · split
        · exact .of_eq rfl
        · exact .refl s
    | _ => cases hfls
  | false =>
    cases htouch : Scheduler.touchesPages op with
    | false => exact .of_eq (Scheduler.step_rescheduled s htouch hfls).calls
    | true =>
      cases op with
      | adoptBootEnvironment p b => exact adoptBootEnvironment_logs s p b
      | createSuspendedThread p e a b d w => exact (createSuspendedThread_logs s p e a b d w).1
      | closeHandle handle w =>
        change Logs s (Scheduler.closeHandle s handle w).2
        rcases Scheduler.closeHandle_cases hinv.objects handle w with
          heq | ⟨o, e, _, heq⟩ | ⟨o, t, _, _, heq⟩ <;> rw [heq]
        · exact .refl s
        · exact .of_eq rfl
        · exact (Logs.of_eq (Scheduler.closedThread_rescheduled s o t).calls).trans
            (maybeReclaimThread_logs _ t w)
      | contextSwitch p f =>
        change Logs s (Scheduler.contextSwitch s p f)
        unfold Scheduler.contextSwitch
        split
        · exact .refl s
        · exact .of_eq rfl
      | tryReclaimThread t w =>
        change Logs s (Scheduler.tryReclaimThread s t w).2
        unfold Scheduler.tryReclaimThread
        cases t with
        | none => exact .refl s
        | some t =>
          dsimp only
          split
          · exact .refl s
          · exact maybeReclaimThread_logs s t w
      | discardCreatedThread t w =>
        change Logs s (Scheduler.discardCreatedThread s t w).2
        rcases Scheduler.discardCreatedThread_cases hinv.toCore t w with
          heq | ⟨v, _, hd, heq⟩ <;> rw [heq]
        · exact .refl s
        · exact (Logs.of_eq (Scheduler.withdrawn_rescheduled hinv.toCore hd).calls).trans
            (maybeReclaimThread_logs _ v w)
      | collect p w => exact collect_logs s p w
      | teardown p w => exact teardown_logs hinv p w
      | _ => cases htouch

/-! ## The stacks stay in the ledger -/

variable {e : Epoch} {b : Block} {blocks rest : List Block} {form : Form} {base : Nat}

/-- A block that is not asked for stays out. -/
theorem takeBack_others (h : Accounting.takeBack blocks form base = some rest) (hb : b ∈ blocks)
    (hne : ¬ (b.form = form ∧ b.base = base)) : b ∈ rest := by
  rw [(Accounting.takeBack_some h).2, List.mem_filter]
  exact ⟨hb, by simp [hne]⟩

theorem giveBack_others (hb : b ∈ e.outstanding) (hne : ¬ (b.form = form ∧ b.base = base)) :
    b ∈ (e.giveBack form base).outstanding := by
  unfold Epoch.giveBack
  dsimp only
  cases h : Accounting.takeBack e.outstanding form base with
  | none => exact hb
  | some rest => exact takeBack_others h hb hne

theorem noteMutation_outstanding {next : Epoch} (h : Accounting.noteMutation e = .ok next) :
    next.outstanding = e.outstanding := by
  unfold Accounting.noteMutation at h
  split at h
  · cases h
  · cases h
    rfl

theorem removeEntry_outstanding {i : Vm.PhysicalSlot} {text : String} {next : Epoch}
    (h : Accounting.removeEntry e i text = .ok next) : next.outstanding = e.outstanding := by
  unfold Accounting.removeEntry at h
  split at h
  · cases h
  · cases h
    rfl

/-- What a call leaves outstanding, if it returns. -/
def Leaves (b : Block) (result : Accounting.Call) : Prop :=
  ∀ answer next, result = .ok (answer, next) → b ∈ next.outstanding

theorem Leaves.ok {answer : Accounting.Answer} (h : b ∈ e.outstanding) :
    Leaves b (.ok (answer, e)) := by
  intro _ _ heq
  cases heq
  exact h

theorem Leaves.error (text : String) : Leaves b (.error text) := by
  intro _ _ heq
  cases heq

/-- The end of a call that books a mutation. -/
theorem Leaves.noted {answer : Accounting.Answer} (h : b ∈ e.outstanding) :
    Leaves b (do let s ← Accounting.noteMutation e; return (answer, s)) := by
  cases hnoted : Accounting.noteMutation e with
  | error text => exact .error text
  | ok next =>
    refine .ok (e := next) ?_
    rw [noteMutation_outstanding hnoted]
    exact h

/-- The end of a call that takes an entry out. -/
theorem Leaves.removed {answer : Accounting.Answer} {i : Vm.PhysicalSlot} {text : String}
    (h : b ∈ e.outstanding) :
    Leaves b (do
      let s ← Accounting.removeEntry e i text
      let s ← Accounting.noteMutation s
      return (answer, s)) := by
  cases hremoved : Accounting.removeEntry e i text with
  | error text => exact .error text
  | ok next =>
    apply Leaves.noted (e := next)
    rw [removeEntry_outstanding hremoved]
    exact h

theorem stackSize_ne_zero : stackSize ≠ 0 := by decide

theorem memoryRemoveVirtualRange_outstanding {bytes : Nat} {next : Epoch}
    (h : Accounting.memoryRemoveVirtualRange e base bytes = .ok next) :
    next.outstanding = e.outstanding := by
  unfold Accounting.memoryRemoveVirtualRange at h
  split at h
  · cases h
  · split at h
    · cases h
    · split at h
      · cases h
      · cases h
        rfl

/-- No call but a free of four pages takes a stack back. -/
theorem call_leaves_stack (hb : stackBlock base ∈ e.outstanding)
    {op : Accounting.Op} (hok : Accounting.Conforms e op)
    (hop : ∀ memory refusal, op ≠ .freePages memory stackPages refusal) :
    Leaves (stackBlock base) (Accounting.call e op) := by
  have hne : ∀ {form : Form} {memory : Nat}, form ≠ .pages stackPages →
      ¬ ((stackBlock base).form = form ∧ (stackBlock base).base = memory) :=
    fun hform heq => hform heq.1.symm
  -- a block that is new does not lie on the stack
  have hfresh : ∀ {memory bytes : Nat}, bytes ≠ 0 →
      (Accounting.Grant.block memory).Conforms e.outstanding bytes → base ≠ memory := by
    intro memory bytes hbytes hgrant
    have hapart := hgrant.2 _ hb
    exact (Accounting.apart_base_ne hapart hbytes stackSize_ne_zero).symm
  have hhanded : ∀ c, stackBlock base ∈ (e.handOut c).outstanding :=
    fun c => List.mem_cons_of_mem c hb
  cases op with
  | allocatePool size hasBuffer grant =>
    change Leaves _ (Accounting.memoryTrackedAllocatePool e size hasBuffer grant)
    unfold Accounting.memoryTrackedAllocatePool
    split
    · exact .ok hb
    · cases grant with
      | error status => exact .ok hb
      | block buffer =>
        dsimp only
        split
        · exact .ok (hhanded _)
        · split
          · exact .ok (giveBack_others (hhanded _) (hne nofun))
          · exact .noted (hhanded _)
  | freePool buffer refusal =>
    change Leaves _ (Accounting.memoryTrackedFreePool e buffer refusal)
    unfold Accounting.memoryTrackedFreePool
    split
    · exact .ok hb
    · split
      · exact .ok hb
      · split
        · exact .ok hb
        · split
          · exact .ok hb
          · rename_i rest hrest
            have hin := takeBack_others hrest hb (hne nofun)
            dsimp only
            split
            · cases hrange : Accounting.memoryRemoveVirtualRange { e with outstanding := rest }
                _ _ with
              | error text => exact .error text
              | ok next =>
                apply Leaves.removed (e := next)
                rw [memoryRemoveVirtualRange_outstanding hrange]
                exact hin
            · exact .removed (e := { e with outstanding := rest }) hin
  | allocatePages pages hasMemory grant =>
    change Leaves _ (Accounting.memoryTrackedAllocatePages e pages hasMemory grant)
    unfold Accounting.memoryTrackedAllocatePages
    split
    · exact .ok hb
    · rename_i hargs
      simp only [not_or] at hargs
      cases grant with
      | error status => exact .ok hb
      | block memory =>
        have hother := hfresh (Nat.mul_ne_zero hargs.2.1 (by decide)) hok
        dsimp only
        split
        · exact .ok (hhanded _)
        · generalize Vm.physicalInsert _ _ _ = inserted
          split
          · exact .ok (giveBack_others (hhanded _) fun heq => hother heq.2)
          · exact .noted (hhanded _)
  | freePages memory pages refusal =>
    change Leaves _ (Accounting.memoryTrackedFreePages e memory pages refusal)
    unfold Accounting.memoryTrackedFreePages
    split
    · exact .ok hb
    · split
      · exact .ok hb
      · split
        · exact .ok hb
        · split
          · exact .ok hb
          · rename_i rest hrest
            apply Leaves.removed (e := { e with outstanding := rest })
            apply takeBack_others hrest hb
            apply hne
            intro heq
            cases heq
            exact hop memory refusal rfl
  | allocatePage context hasOut tables grant =>
    change Leaves _ (Accounting.vmUefiAllocatePage e context hasOut tables grant)
    unfold Accounting.vmUefiAllocatePage
    split
    · exact .ok hb
    · cases grant with
      | error status => exact .ok hb
      | block physical =>
        dsimp only
        split
        · exact .ok (giveBack_others (hhanded _) (hne nofun))
        · split
          · exact .ok (giveBack_others (hhanded _) (hne nofun))
          · exact .ok (hhanded _)
  | freePage physicalAddress =>
    change Leaves _ (Accounting.vmUefiFreePage e physicalAddress)
    unfold Accounting.vmUefiFreePage
    split
    · exact .error _
    · split
      · exact .error _
      · rename_i rest hrest
        have hin := takeBack_others hrest hb (hne nofun)
        cases hremoved : Accounting.removeEntry { e with outstanding := rest } _
          "vm-page-free-accounting" with
        | error text => exact .error text
        | ok next =>
          refine .ok (e := next) ?_
          rw [removeEntry_outstanding hremoved]
          exact hin

theorem step_leaves_stack (hb : stackBlock base ∈ e.outstanding)
    {op : Accounting.Op} (hok : Accounting.Conforms e op)
    (hop : ∀ memory refusal, op ≠ .freePages memory stackPages refusal) :
    stackBlock base ∈ (Accounting.step e op).outstanding := by
  have hleaves := call_leaves_stack hb hok hop
  unfold Accounting.step
  cases hcall : Accounting.call e op with
  | error text => exact hb
  | ok result =>
    obtain ⟨answer, next⟩ := result
    exact hleaves answer next hcall

/-! ## A served call -/

/-- Pages that were answered are out. -/
theorem allocatePages_outstanding {next : Epoch} {pages : Nat} (he : EpochInv e) (hbase : base ≠ 0)
    (hcall : Accounting.memoryTrackedAllocatePages e pages true (.block base) =
      .ok ({ status := 0, out := some base }, next)) :
    ⟨.pages pages, base, pages * Accounting.efiPageSize⟩ ∈ next.outstanding := by
  unfold Accounting.memoryTrackedAllocatePages at hcall
  split at hcall
  · cases hcall
  · dsimp only at hcall
    rw [if_neg (by simp [hbase, Epoch.handOut, he.active])] at hcall
    generalize Vm.physicalInsert _ _ _ = inserted at hcall
    split at hcall
    · cases hcall
    · generalize hs : ({ e.handOut ⟨.pages pages, base, pages * Accounting.efiPageSize⟩ with
        ledger := inserted.ledger } : Epoch) = s1 at hcall
      cases hnoted : Accounting.noteMutation s1 with
      | error text =>
        rw [hnoted] at hcall
        cases hcall
      | ok s2 =>
        rw [hnoted] at hcall
        cases hcall
        rw [noteMutation_outstanding hnoted, ← hs]
        exact List.mem_cons_self

theorem Answers.returns {result : Accounting.Call} {answer : Accounting.Answer}
    (h : Answers result answer) : ∃ next, result = .ok (answer, next) := by
  unfold Answers at h
  split at h
  · rename_i next
    exact ⟨next, by rw [h]⟩
  · exact h.elim

theorem serve_keeps {c : PageCall} (he : EpochInv e) (hc : ServedCall e c) (hone : OnePage c) :
    EpochInv (serve e c) ∧
    (∀ base, stackBlock base ∈ e.outstanding → stackBlock base ∈ (serve e c).outstanding) ∧
    ∀ base, stack? c = some base →
      stackBlock base ∉ e.outstanding ∧ stackBlock base ∈ (serve e c).outstanding := by
  obtain ⟨hok, hgen, hanswer⟩ := hc
  refine ⟨(Accounting.step_keeps he hgen hok).1, fun base hb => ?_, fun base hstack => ?_⟩
  · apply step_leaves_stack hb hok
    intro memory refusal heq
    cases c with
    | obtained base pages => cases heq
    | returned base pages =>
      have hpages : pages = 1 := hone
      cases heq
      cases hpages
  · cases c with
    | returned base' pages => cases hstack
    | obtained base' pages =>
      simp only [stack?, Option.ite_none_right_eq_some, Option.some.injEq] at hstack
      obtain ⟨rfl, rfl⟩ := hstack
      obtain ⟨hbase, hapart⟩ := hok
      obtain ⟨next, hcall⟩ := hanswer.returns
      refine ⟨fun hb => ?_, ?_⟩
      · have hself := Accounting.apart_base_ne (hapart _ hb) stackSize_ne_zero stackSize_ne_zero
        exact hself rfl
      · have hout := allocatePages_outstanding he hbase hcall
        unfold serve Accounting.step
        rw [hcall]
        exact hout

/-- The stacks so far, and those of the calls, are all out. -/
theorem run_serves {calls : List PageCall} (he : EpochInv e)
    (hserved : Runs.Along serve ServedCall e calls) (hone : ∀ c ∈ calls, OnePage c)
    {bases : List Nat} (hnodup : bases.Nodup)
    (hout : ∀ base ∈ bases, stackBlock base ∈ e.outstanding) :
    EpochInv (Runs.run serve e calls) ∧ (bases ++ calls.filterMap stack?).Nodup ∧
    ∀ base ∈ bases ++ calls.filterMap stack?,
      stackBlock base ∈ (Runs.run serve e calls).outstanding := by
  induction calls generalizing e bases with
  | nil =>
    rw [List.filterMap_nil, List.append_nil]
    exact ⟨he, hnodup, hout⟩
  | cons c rest ih =>
    obtain ⟨hinv, hkept, hnew⟩ := serve_keeps he hserved.1 (hone c List.mem_cons_self)
    have hrest := fun c hc => hone c (List.mem_cons_of_mem _ hc)
    cases hstack : stack? c with
    | none =>
      rw [List.filterMap_cons_none hstack]
      exact ih hinv hserved.2 hrest hnodup fun base hb => hkept base (hout base hb)
    | some base =>
      obtain ⟨hfresh, hthere⟩ := hnew base hstack
      rw [List.filterMap_cons_some hstack]
      have hmore := ih hinv hserved.2 hrest
        (List.nodup_append.mpr ⟨hnodup, List.nodup_singleton base, ?_⟩) ?_
      · rw [List.append_assoc] at hmore
        exact hmore
      · intro a ha b hb heq
        rw [List.mem_singleton] at hb
        rw [heq, hb] at ha
        exact hfresh (hout base ha)
      · intro a ha
        rcases List.mem_append.mp ha with ha | ha
        · exact hkept a (hout a ha)
        · rw [List.mem_singleton.mp ha]
          exact hthere

/-! ## Runs -/

structure StacksOut (w : World) (creations : Nat) : Prop where
  inv : w.scheduler.installed = true → Scheduler.Inv w.scheduler
  epoch : EpochInv w.epoch
  nodup : (stacksObtained w.scheduler).Nodup
  out : ∀ base ∈ stacksObtained w.scheduler, stackBlock base ∈ w.epoch.outstanding
  creations : creations ≤ (stacksObtained w.scheduler).length

theorem newCalls_eq {calls : List PageCall}
    (h : s'.machine.pageCalls = s.machine.pageCalls ++ calls) : newCalls s s' = calls := by
  unfold newCalls
  rw [h, List.drop_left]

/-- A step of the scheduler, with its page calls served. -/
theorem StacksOut.served {w : World} {n m : Nat} (h : StacksOut w n) (hlogs : Logs w.scheduler s')
    (hinv : s'.installed = true → Scheduler.Inv s')
    (hserved : Runs.Along serve ServedCall w.epoch (newCalls w.scheduler s'))
    (hcount : m ≤ (stacksObtained s').length) :
    StacksOut { scheduler := s', epoch := Runs.run serve w.epoch (newCalls w.scheduler s') } m := by
  obtain ⟨calls, heq, hone⟩ := hlogs
  rw [newCalls_eq heq] at hserved ⊢
  have hstacks : stacksObtained s' = stacksObtained w.scheduler ++ calls.filterMap stack? := by
    unfold stacksObtained
    rw [heq, List.filterMap_append]
  obtain ⟨hepoch, hnodup, hout⟩ := run_serves h.epoch hserved hone h.nodup h.out
  rw [← hstacks] at hnodup hout
  exact ⟨hinv, hepoch, hnodup, hout, hcount⟩

theorem fresh_stacksOut {w : World} (h : Fresh w) : StacksOut w 0 := by
  obtain ⟨hscheduler, hbegins⟩ := h
  refine ⟨fun hi => ?_, hbegins.inv, ?_, fun base hb => ?_, Nat.zero_le _⟩
  · rw [hscheduler] at hi
    cases hi
  · rw [hscheduler]
    exact List.nodup_nil
  · rw [hscheduler] at hb
    cases hb

theorem step_stacksOut {w : World} {n : Nat} (h : StacksOut w n) {event : Event}
    (hok : InOrder w event) : StacksOut (step w event) (noteCreation w event n) := by
  cases event with
  | boot input =>
    obtain ⟨hempty, hserved⟩ := hok
    cases hb : Scheduler.initializeScheduler input with
    | mk ok s =>
      cases ok with
      | false =>
        simp only [step, hb]
        exact h
      | true =>
        rw [hb] at hserved
        simp only [step, hb]
        have hnone : stacksObtained w.scheduler = [] := by
          unfold stacksObtained
          rw [hempty]
          rfl
        have hcount : n ≤ (stacksObtained s).length := by
          have hzero := h.creations
          rw [hnone] at hzero
          exact hzero.trans (Nat.zero_le _)
        refine h.served ⟨s.machine.pageCalls, ?_, initializeScheduler_logs hb⟩
          (fun _ => Scheduler.started_inv ⟨input, hb⟩) hserved hcount
        rw [hempty, List.nil_append]
  | scheduler op =>
    obtain ⟨hi, hserved⟩ := hok
    have hinv := h.inv hi
    have hlogs := step_logs hinv op
    have hmore : (stacksObtained w.scheduler).length ≤
        (stacksObtained (Scheduler.step w.scheduler op)).length := by
      obtain ⟨calls, heq, _⟩ := hlogs
      unfold stacksObtained
      rw [heq, List.filterMap_append, List.length_append]
      exact Nat.le_add_right _ _
    refine h.served hlogs (fun _ => Scheduler.step_inv hinv op) hserved ?_
    cases op with
    | createSuspendedThread p entry a handleOut threadOut answers =>
      unfold noteCreation
      dsimp only
      split
      · rename_i hcreated
        have hone := (createSuspendedThread_logs w.scheduler p entry a handleOut threadOut
          answers).2 hcreated
        exact Nat.succ_le_of_lt (Nat.lt_of_le_of_lt h.creations hone)
      · exact h.creations.trans hmore
    | _ => exact h.creations.trans hmore
  | accounting op =>
    obtain ⟨hconforms, hgen, hothers⟩ := hok
    refine ⟨h.inv, (Accounting.step_keeps h.epoch hgen hconforms).1, h.nodup, fun base hb => ?_,
      h.creations⟩
    apply step_leaves_stack (h.out base hb) hconforms
    rintro memory refusal rfl
    cases hothers

theorem run_stacksOut {w : World} {n : Nat} (h : Run w n) : StacksOut w n :=
  h.invariant (fun _ => fresh_stacksOut) fun _ _ _ _ hout hok => step_stacksOut hout hok

/-- Every stack that a run obtained is still out at its end, also when its thread is long gone,
and it still has its entry in the ledger. So a run creates at most 4096 threads. -/
theorem no_stack_goes_back {w : World} {creations : Nat} (h : Run w creations) :
    (stacksObtained w.scheduler).Nodup ∧
    (∀ base ∈ stacksObtained w.scheduler, stackBlock base ∈ w.epoch.outstanding ∧
      ∃ i, (w.epoch.ledger.entries i).live = true ∧ (w.epoch.ledger.entries i).base = base ∧
        (w.epoch.ledger.entries i).bytes = stackSize) ∧
    (stacksObtained w.scheduler).length ≤ Vm.physicalLedgerCapacity ∧
    creations ≤ Vm.physicalLedgerCapacity := by
  have hstacks := run_stacksOut h
  have hentries : ∀ base ∈ stacksObtained w.scheduler, ∃ i,
      (w.epoch.ledger.entries i).live = true ∧ (w.epoch.ledger.entries i).base = base ∧
        (w.epoch.ledger.entries i).bytes = stackSize := by
    intro base hb
    obtain ⟨i, hi, hbooks⟩ := hstacks.epoch.booked _ (hstacks.out base hb)
    exact ⟨i, hi, hbooks.base, hbooks.bytes⟩
  have hlength : (stacksObtained w.scheduler).length ≤ Vm.physicalLedgerCapacity := by
    rw [← List.toFinset_card_of_nodup hstacks.nodup]
    have hsubset : (stacksObtained w.scheduler).toFinset ⊆
        Finset.univ.image fun i => (w.epoch.ledger.entries i).base := by
      intro base hb
      obtain ⟨i, _, hbase, _⟩ := hentries base (List.mem_toFinset.mp hb)
      exact Finset.mem_image.mpr ⟨i, Finset.mem_univ i, hbase⟩
    have hcard := (Finset.card_le_card hsubset).trans Finset.card_image_le
    rw [Finset.card_univ, Fintype.card_fin] at hcard
    exact hcard
  exact ⟨hstacks.nodup, fun base hb => ⟨hstacks.out base hb, hentries base hb⟩, hlength,
    hstacks.creations.trans hlength⟩

instance (result : Accounting.Call) (answer : Accounting.Answer) :
    Decidable (Answers result answer) :=
  match result with
  | .ok (given, _) => inferInstanceAs (Decidable (given = answer))
  | .error _ => inferInstanceAs (Decidable False)

instance (s : Epoch) (c : PageCall) : Decidable (ServedCall s c) :=
  match c with
  | .obtained _ _ => inferInstanceAs (Decidable (_ ∧ _ ∧ Answers _ _))
  | .returned _ _ => inferInstanceAs (Decidable (_ ∧ _ ∧ True))

instance (w : World) (event : Event) : Decidable (InOrder w event) :=
  match event with
  | .boot _ | .scheduler _ => inferInstanceAs (Decidable (_ ∧ Runs.Along _ _ _ _))
  | .accounting _ => inferInstanceAs (Decidable (_ ∧ _ ∧ _))

/-- A creation that gets a stack and no canary page. -/
def sampleEvents : List Event :=
  [.boot Scheduler.sampleBoot, .scheduler (.configureStackVm .this true true),
    .scheduler (.createSuspendedThread .this 0x700000 0 true true
      { Scheduler.sampleAnswers 0x200000 with canary := { status := 9, memory := 0 } })]

def sampleWorld : World := { epoch := Accounting.sampleEpoch }

def sampleNoted : World × Nat :=
  Runs.run (Runs.noting step noteCreation) (sampleWorld, 0) sampleEvents

theorem sampleEvents_run : Run (Runs.run step sampleWorld sampleEvents) sampleNoted.2 := by
  have hbegins : Accounting.Begins Accounting.sampleEpoch :=
    ⟨⟨1, by decide, rfl⟩, by decide, rfl, rfl⟩
  have hstart : Run sampleWorld 0 := .start ⟨⟨rfl, hbegins⟩, rfl⟩
  exact hstart.run_along sampleEvents (by decide +kernel)

/-- The thread was not created, and its stack is lost. -/
theorem the_stack_of_a_failed_creation_stays_out :
    stacksObtained (Runs.run step sampleWorld sampleEvents).scheduler = [0x200000] ∧
    stackBlock 0x200000 ∈ (Runs.run step sampleWorld sampleEvents).epoch.outstanding ∧
    sampleNoted.2 ≤ Vm.physicalLedgerCapacity := by
  obtain ⟨_, hout, _, hcreations⟩ := no_stack_goes_back sampleEvents_run
  have hstacks : stacksObtained (Runs.run step sampleWorld sampleEvents).scheduler =
      [0x200000] := by
    decide +kernel
  exact ⟨hstacks, (hout 0x200000 (by rw [hstacks]; exact List.mem_singleton_self _)).1,
    hcreations⟩

end Gate4Harness.StackLedger
