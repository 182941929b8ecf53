-- What a thread keeps for itself: its pages, the context that it saved and its local
-- storage. Only a creation, a reclaim, a context switch, the adoption of a boot
-- environment and the teardown change more of it than how it is scheduled.
import Mathlib.Algebra.BigOperators.Group.Finset.Basic
import Gate4Harness.SchedulerConservation

namespace Gate4Harness.Scheduler

variable {s s' s'' : State} {t c next : ThreadSlot} {e : EventSlot} {r : RecordSlot}

/-! ## The frame -/

/-- The block of pages at an address. A null pointer stands for no block. -/
def block (address : Nat) : Multiset Nat := if address = 0 then 0 else {address}

@[simp]
theorem block_zero : block 0 = 0 := rfl

/-- The blocks of the environment, if the thread owns it. -/
def Tcb.environmentBlocks (x : Tcb) : Multiset Nat :=
  if x.environmentOwned then
    block x.gsBase + block x.tlsVectorBase + block x.tlsBlockBase + block x.tebBase
  else 0

def Tcb.stackBlocks (x : Tcb) : Multiset Nat :=
  block x.stackPagesMemory + block x.stackCanaryMemory

/-- The blocks of pages that the scheduler frees with a thread. -/
def Tcb.blocks (x : Tcb) : Multiset Nat := x.stackBlocks + x.environmentBlocks

/-- What a thread keeps across the calls of others. -/
def Tcb.keepView (x : Tcb) : Bool × Option ContextPtr × Multiset Nat × Multiset Nat :=
  (x.live, x.savedContext, x.stackBlocks, x.environmentBlocks)

/-- No page was taken or given back, and each thread keeps its pages and its context. -/
structure Kept (s s' : State) : Prop where
  calls : s'.machine.pageCalls = s.machine.pageCalls
  threads : ∀ t, (s'.threads t).keepView = (s.threads t).keepView

theorem Kept.refl (s : State) : Kept s s := ⟨rfl, fun _ => rfl⟩

/-- A thread without what the scheduler writes about its run and its waits. -/
def Tcb.standing (x : Tcb) : Tcb :=
  { x with state := .free, runnableQueued := false, suspendCount := 0, publicHandleRefs := 0,
           executionRefs := 0, executionCount := 0, deferredReclaim := false, returnValue := 0,
           lastError := 0, blockedObject := 0, blockedResult := .blocked, waitRecord := none }

/-- No page was taken or given back, and the threads differ only in how they are scheduled. -/
structure Rescheduled (s s' : State) : Prop where
  calls : s'.machine.pageCalls = s.machine.pageCalls
  threads : ∀ t, (s'.threads t).standing = (s.threads t).standing

theorem Rescheduled.kept (h : Rescheduled s s') : Kept s s' :=
  ⟨h.calls, fun t => by
    have hview := congrArg Tcb.keepView (h.threads t)
    exact hview⟩

theorem Rescheduled.refl (s : State) : Rescheduled s s := ⟨rfl, fun _ => rfl⟩

theorem Rescheduled.trans (h : Rescheduled s s') (h' : Rescheduled s' s'') : Rescheduled s s'' :=
  ⟨h'.calls.trans h.calls, fun t => (h'.threads t).trans (h.threads t)⟩

theorem Rescheduled.thenThread (h : Rescheduled s s') (t : ThreadSlot) {f : Tcb → Tcb}
    (hf : ∀ x, (f x).standing = x.standing) : Rescheduled s (s'.modThread t f) :=
  ⟨h.calls, fun u => (view_modThread Tcb.standing s' t (hf _) u).trans (h.threads u)⟩

theorem Rescheduled.thenRecord (h : Rescheduled s s') (r : RecordSlot)
    (f : WaitRecord → WaitRecord) : Rescheduled s (s'.modRecord r f) := ⟨h.calls, h.threads⟩

theorem Rescheduled.thenEvent (h : Rescheduled s s') (e : EventSlot) (f : Waitable → Waitable) :
    Rescheduled s (s'.modEvent e f) := ⟨h.calls, h.threads⟩

theorem Rescheduled.thenObject (h : Rescheduled s s') (o : ObjectSlot) (f : Object → Object) :
    Rescheduled s (s'.modObject o f) := ⟨h.calls, h.threads⟩

/-! ## The queue -/

theorem enqueueRunnable_rescheduled (s : State) (t : ThreadSlot) :
    Rescheduled s (enqueueRunnable s t).2 := by
  unfold enqueueRunnable
  split
  · exact Rescheduled.refl s
  · split
    · exact Rescheduled.refl s
    · split
      · exact ⟨rfl, fun _ => rfl⟩
      · dsimp only
        refine Rescheduled.thenThread ?_ t fun _ => rfl
        exact ⟨rfl, fun _ => rfl⟩

theorem removeRunnable_rescheduled (s : State) (t : ThreadSlot) :
    Rescheduled s (removeRunnable s t).2 := by
  unfold removeRunnable
  split
  · exact Rescheduled.refl s
  · split
    · dsimp only
      refine Rescheduled.thenThread ?_ t fun _ => rfl
      exact ⟨rfl, fun _ => rfl⟩
    · dsimp only
      refine Rescheduled.thenThread ?_ t fun _ => rfl
      exact ⟨rfl, fun _ => rfl⟩

theorem chooseNext_rescheduled (s : State) (next : ThreadSlot) :
    Rescheduled s (chooseNext s next).2 := by
  have h := (removeRunnable_rescheduled s next).thenThread next
    (f := fun thread => { thread with state := .running }) fun _ => rfl
  exact ⟨h.calls, h.threads⟩

/-! ## The waits -/

theorem addWaiter_rescheduled (s : State) (e : EventSlot) (r : RecordSlot) :
    Rescheduled s (addWaiter s e r).2 := by
  unfold addWaiter
  split
  · exact Rescheduled.refl s
  · split
    · exact Rescheduled.refl s
    · exact ⟨rfl, fun _ => rfl⟩

/-- The last waiter moves into the hole. -/
theorem movedWaiter_rescheduled (s : State) (index : Nat) (moved : Option RecordSlot) :
    Rescheduled s (match moved with
      | some m => s.modRecord m fun record => { record with waiterIndex := index }
      | none => s) := by
  cases moved with
  | none => exact Rescheduled.refl s
  | some m => exact (Rescheduled.refl s).thenRecord m _

theorem removeWaiter_rescheduled (s : State) (e : EventSlot) (index : Nat) :
    Rescheduled s (removeWaiter s e index) := by
  unfold removeWaiter
  split
  · exact Rescheduled.refl s
  · have hrest := (movedWaiter_rescheduled s index
        ((s.events e).waiters ((s.events e).waiterCount - 1))).thenEvent e
      (fun event =>
        { event with
          waiters := Function.update (Function.update event.waiters index
            ((s.events e).waiters ((s.events e).waiterCount - 1)))
            ((s.events e).waiterCount - 1) none
          waiterCount := (s.events e).waiterCount - 1 })
    simp only
    split
    · exact hrest.thenRecord _ _
    · exact hrest

theorem completeWaiter_rescheduled (s : State) (e : EventSlot) (index completionResult : Nat)
    (waitResult : WaitResult) :
    Rescheduled s (completeWaiter s e index completionResult waitResult) := by
  have hremove := removeWaiter_rescheduled s e index
  unfold completeWaiter
  split
  · exact Rescheduled.refl s
  · split
    · exact hremove
    · split
      · exact hremove
      · rename_i r _ _ t _
        split
        · exact hremove
        · have hready := (hremove.thenRecord r
            fun record => { record with completed := true, completionResult }).thenThread t
            (f := fun thread =>
              { thread with blockedObject := 0, blockedResult := waitResult, state := .runnable })
            fun _ => rfl
          have hqueued := hready.trans (enqueueRunnable_rescheduled _ t)
          simp only
          split
          · exact hqueued
          · exact hqueued.thenThread t fun _ => rfl

theorem wakeAll_rescheduled (s : State) (e : EventSlot) (turns : Nat) :
    Rescheduled s (wakeAll e turns s) := by
  induction turns generalizing s with
  | zero => exact Rescheduled.refl s
  | succ turns ih =>
    unfold wakeAll
    split
    · exact Rescheduled.refl s
    · exact (completeWaiter_rescheduled s e 0 waitObject0 .signaled).trans (ih _)

theorem signalEvent_rescheduled (s : State) (handle : Nat) :
    Rescheduled s (signalEvent s handle).2 := by
  unfold signalEvent
  split
  · exact Rescheduled.refl s
  · rename_i e _
    split
    · exact Rescheduled.refl s
    · split
      · exact ((Rescheduled.refl s).thenEvent e _).trans (wakeAll_rescheduled _ e _)
      · split
        · exact ((Rescheduled.refl s).thenEvent e _).trans (completeWaiter_rescheduled _ e 0 _ _)
        · exact ⟨rfl, fun _ => rfl⟩

theorem resetEvent_rescheduled (s : State) (handle : Nat) :
    Rescheduled s (resetEvent s handle).2 := by
  unfold resetEvent
  split
  · exact Rescheduled.refl s
  · split
    · exact Rescheduled.refl s
    · exact ⟨rfl, fun _ => rfl⟩

theorem timeoutWaiter_rescheduled (s : State) (r : RecordSlot) :
    Rescheduled s (timeoutWaiter s r) := by
  unfold timeoutWaiter
  split
  · exact Rescheduled.refl s
  · split
    · exact Rescheduled.refl s
    · exact completeWaiter_rescheduled s _ _ _ _

theorem serviceRecords_rescheduled (now k : Nat) (s : State) (l : List RecordSlot) :
    Rescheduled s (l.foldl (serviceRecord now) (k, s)).2 := by
  induction l generalizing k s with
  | nil => exact Rescheduled.refl s
  | cons r rest ih =>
    rw [List.foldl_cons]
    unfold serviceRecord
    split
    · exact (timeoutWaiter_rescheduled s r).trans (ih _ _)
    · exact ih _ _

theorem serviceTimeouts_rescheduled (s : State) (now : Nat) :
    Rescheduled s (serviceTimeouts s now).2 := by
  unfold serviceTimeouts
  split
  · exact Rescheduled.refl s
  · exact serviceRecords_rescheduled now 0 s _

theorem pollTimeouts_rescheduled (s : State) (clock : Option Nat) :
    Rescheduled s (pollTimeouts s clock).2 := by
  unfold pollTimeouts
  split
  · exact Rescheduled.refl s
  · split
    · exact Rescheduled.refl s
    · exact serviceTimeouts_rescheduled s _

theorem tokenTaken_rescheduled (s : State) (e : EventSlot) : Rescheduled s (tokenTaken s e) := by
  unfold tokenTaken
  split
  · exact Rescheduled.refl s
  · exact (Rescheduled.refl s).thenEvent e _

theorem unpinWaitRecord_rescheduled (s : State) (r : RecordSlot) :
    Rescheduled s (unpinWaitRecord s r) := by
  unfold unpinWaitRecord
  split
  · exact Rescheduled.refl s
  · simp only
    split
    · split
      · exact ((Rescheduled.refl s).thenObject _ _).thenRecord r _
      · exact (Rescheduled.refl s).thenRecord r _
    · exact (Rescheduled.refl s).thenRecord r _

theorem releaseWaitRecord_rescheduled (s : State) (r : RecordSlot) :
    Rescheduled s (releaseWaitRecord s r) := by
  unfold releaseWaitRecord
  split
  · exact Rescheduled.refl s
  · have hcount : Rescheduled s
        (if (s.waitRecords r).active ∧ s.installed ∧ s.activeWaitCount ≠ 0 then
        { s with activeWaitCount := s.activeWaitCount - 1 } else s) := by
      split <;> exact ⟨rfl, fun _ => rfl⟩
    exact ((hcount.thenRecord r _).trans (unpinWaitRecord_rescheduled _ r)).thenRecord r _

theorem unblockThread_rescheduled (s : State) (c : ThreadSlot) (e : EventSlot) (r : RecordSlot) :
    Rescheduled s (unblockThread s c e r) := by
  have h := (Rescheduled.refl s).thenThread c (f := fun thread =>
    { thread with state := .running, waitRecord := none, blockedObject := 0,
                  blockedResult := .failure }) fun _ => rfl
  exact (h.trans (removeWaiter_rescheduled _ e _)).trans (releaseWaitRecord_rescheduled _ r)

theorem pinObject_rescheduled (s : State) (o : ObjectSlot) : Rescheduled s (pinObject s o).2 := by
  unfold pinObject
  split <;> exact ⟨rfl, fun _ => rfl⟩

theorem allocateWaitRecord_rescheduled (s : State) : Rescheduled s (allocateWaitRecord s).2 := by
  unfold allocateWaitRecord
  split <;> exact ⟨rfl, fun _ => rfl⟩

theorem blockThread_rescheduled (s : State) (c : ThreadSlot) (r : RecordSlot) (handle : Nat) :
    Rescheduled s (blockThread s c r handle) := by
  unfold blockThread
  refine Rescheduled.thenThread ?_ c fun _ => rfl
  exact ⟨rfl, fun _ => rfl⟩

theorem registerWait_rescheduled (s : State) (c : ThreadSlot) (o : ObjectSlot) (e : EventSlot)
    (handle : Nat) (timeoutArmed : Bool) (deadlineMs : Nat) :
    Rescheduled s (registerWait s c o e handle timeoutArmed deadlineMs).2 := by
  have hpin := pinObject_rescheduled s o
  unfold registerWait
  split
  · rename_i s1 h1
    rw [h1] at hpin
    exact hpin
  · rename_i s1 h1
    rw [h1] at hpin
    have halloc := allocateWaitRecord_rescheduled s1
    split
    · rename_i s2 h2
      rw [h2] at halloc
      dsimp only
      exact (hpin.trans halloc).thenObject o _
    · rename_i r s2 h2
      rw [h2] at halloc
      have hfill : Rescheduled s (fillRecord s2 c o e r timeoutArmed deadlineMs) :=
        (hpin.trans halloc).thenRecord r _
      dsimp only
      generalize fillRecord s2 c o e r timeoutArmed deadlineMs = s3 at hfill ⊢
      have hadd : Rescheduled s
          (if (s3.events e).signaled then (false, s3) else addWaiter s3 e r).2 := by
        split
        · exact hfill
        · exact hfill.trans (addWaiter_rescheduled s3 e r)
      generalize (if (s3.events e).signaled then (false, s3) else addWaiter s3 e r) = p at hadd ⊢
      obtain ⟨added, s4⟩ := p
      change Rescheduled s s4 at hadd
      split
      · have hundo : Rescheduled s (releaseWaitRecord (if (s4.waitRecords r).waiterLinked then
            removeWaiter s4 e (s4.waitRecords r).waiterIndex else s4) r) := by
          refine Rescheduled.trans ?_ (releaseWaitRecord_rescheduled _ r)
          split
          · exact hadd.trans (removeWaiter_rescheduled s4 e _)
          · exact hadd
        dsimp only
        generalize releaseWaitRecord (if (s4.waitRecords r).waiterLinked then
          removeWaiter s4 e (s4.waitRecords r).waiterIndex else s4) r = s6 at hundo ⊢
        split
        · dsimp only
          exact hundo.thenThread c fun _ => rfl
        · exact hundo
      · have hblock := hadd.trans (blockThread_rescheduled s4 c r handle)
        split
        · exact hblock.trans (unblockThread_rescheduled _ c e r)
        · exact hblock.trans (chooseNext_rescheduled _ _)

theorem legacyWait_rescheduled (s : State) (c : ThreadSlot) (handle : Nat) :
    Rescheduled s (legacyWait s c handle).2 := by
  unfold legacyWait
  split
  · exact Rescheduled.refl s
  · split
    · split
      · dsimp only
        exact (tokenTaken_rescheduled s _).thenThread c fun _ => rfl
      · exact Rescheduled.refl s
    · split
      · dsimp only
        refine Rescheduled.thenThread ?_ c fun _ => rfl
        split <;> exact ⟨rfl, fun _ => rfl⟩
      · exact Rescheduled.refl s
    · exact Rescheduled.refl s

theorem prepareWaitRecord_rescheduled (s : State) (handle : Nat) (planOut : Bool) :
    Rescheduled s (prepareWaitRecord s handle planOut).2 := by
  have htaken : Rescheduled s (timeoutTaken s) := ⟨rfl, fun _ => rfl⟩
  unfold prepareWaitRecord
  split
  · exact Rescheduled.refl s
  · dsimp only
    split
    · exact htaken
    · rename_i c _
      split
      · exact htaken
      · split
        · exact htaken.trans (legacyWait_rescheduled _ c handle)
        · split
          · dsimp only
            exact (htaken.trans (tokenTaken_rescheduled _ _)).thenThread c fun _ => rfl
          · exact htaken.trans (registerWait_rescheduled _ c _ _ handle _ _)

theorem finishWait_rescheduled (s : State) (handle : Nat) :
    Rescheduled s (finishWait s handle).2 := by
  unfold finishWait
  split
  · exact Rescheduled.refl s
  · split
    · exact Rescheduled.refl s
    · rename_i c _
      dsimp only
      split
      · exact Rescheduled.refl s
      · split
        · dsimp only
          exact (Rescheduled.refl s).thenThread c fun _ => rfl
        · split
          · exact Rescheduled.refl s
          · refine Rescheduled.trans ?_ (releaseWaitRecord_rescheduled _ _)
            exact (Rescheduled.refl s).thenThread c fun _ => rfl

/-! ## The other operations -/

theorem setLastError_rescheduled (s : State) (value : Nat) :
    Rescheduled s (setLastError s value) := by
  unfold setLastError
  split
  · exact Rescheduled.refl s
  · split
    · exact (Rescheduled.refl s).thenThread _ fun _ => rfl
    · exact Rescheduled.refl s

theorem armWaitTimeout_rescheduled (s : State) (deadlineMs : Nat) :
    Rescheduled s (armWaitTimeout s deadlineMs).2 := by
  unfold armWaitTimeout
  split
  · exact Rescheduled.refl s
  · split <;> exact ⟨rfl, fun _ => rfl⟩

theorem resumeThread_rescheduled (s : State) (handle : Nat) :
    Rescheduled s (resumeThread s handle).2 := by
  unfold resumeThread
  split
  · exact Rescheduled.refl s
  · split
    · exact Rescheduled.refl s
    · split
      · exact Rescheduled.refl s
      · rename_i t _
        dsimp only
        split
        · exact Rescheduled.refl s
        · split
          · split <;> exact Rescheduled.refl s
          · split
            · exact Rescheduled.refl s
            · have hready := (Rescheduled.refl s).thenThread t
                (f := fun thread => { thread with suspendCount := 0, state := .runnable })
                fun _ => rfl
              have hqueued := hready.trans (enqueueRunnable_rescheduled _ t)
              split
              · exact hqueued
              · dsimp only
                exact hqueued.thenThread t fun _ => rfl

theorem prepareYield_rescheduled (s : State) (planOut : Bool) :
    Rescheduled s (prepareYield s planOut).2 := by
  unfold prepareYield
  split
  · exact Rescheduled.refl s
  · split
    · exact Rescheduled.refl s
    · rename_i c _
      split
      · exact Rescheduled.refl s
      · have hready := (Rescheduled.refl s).thenThread c
          (f := fun thread => { thread with state := .runnable }) fun _ => rfl
        have hqueued := hready.trans (enqueueRunnable_rescheduled _ c)
        dsimp only
        split
        · dsimp only
          exact hqueued.thenThread c fun _ => rfl
        · split
          · dsimp only
            exact (hqueued.trans (removeRunnable_rescheduled _ c)).thenThread c fun _ => rfl
          · rename_i next _
            have hnext := hqueued.trans (chooseNext_rescheduled _ next)
            exact ⟨hnext.calls, hnext.threads⟩

theorem prepareTerminate_rescheduled (s : State) (returnValue : Nat) (planOut : Bool) :
    Rescheduled s (prepareTerminate s returnValue planOut).2 := by
  unfold prepareTerminate
  split
  · exact Rescheduled.refl s
  · rename_i c _
    split
    · exact Rescheduled.refl s
    · have hended : Rescheduled s (s.modThread c (endedThread returnValue)) :=
        (Rescheduled.refl s).thenThread c fun _ => rfl
      dsimp only
      split
      · exact hended
      · exact hended.trans (chooseNext_rescheduled _ _)

theorem createEvent_rescheduled (s : State) (scheduler : SchedulerPtr) (m i : Nat)
    (handleOut : Bool) :
    Rescheduled s (createEvent s scheduler m i handleOut).2 := by
  unfold createEvent
  split
  · exact Rescheduled.refl s
  · split
    · exact Rescheduled.refl s
    · rename_i e _
      rcases allocateObject_cases (s.modEvent e fun _ => {}) .event (.event e) with
        heq | ⟨o, g, _, _, _, heq⟩ <;> rw [heq] <;> exact ⟨rfl, fun _ => rfl⟩

theorem createMemoryResourceNotification_rescheduled (s : State) (scheduler : SchedulerPtr)
    (n : Nat) (handleOut : Bool) :
    Rescheduled s (createMemoryResourceNotification s scheduler n handleOut).2 := by
  unfold createMemoryResourceNotification
  split
  · exact Rescheduled.refl s
  · split
    · exact Rescheduled.refl s
    · rcases allocateObject_cases s .memoryResourceNotification .notification with
        heq | ⟨o, g, _, _, _, heq⟩ <;> rw [heq] <;> exact ⟨rfl, fun _ => rfl⟩

theorem installStandardStream_rescheduled (s : State) (scheduler : SchedulerPtr)
    (roles backend caps : Nat) :
    Rescheduled s (installStandardStream s scheduler roles backend caps).2 := by
  unfold installStandardStream
  split
  · exact Rescheduled.refl s
  · split
    · split <;> exact ⟨rfl, fun _ => rfl⟩
    · rcases allocateObject_cases { s with standardStream := {} } .standardStream .stream with
        heq | ⟨o, g, _, _, _, heq⟩ <;> rw [heq] <;> exact ⟨rfl, fun _ => rfl⟩

theorem closedThread_rescheduled (s : State) (o : ObjectSlot) (t : ThreadSlot) :
    Rescheduled s (closedThread s o t) :=
  Rescheduled.thenThread ((Rescheduled.refl s).thenObject o _) t fun _ => rfl

theorem withdrawn_rescheduled (h : Core s) (hd : discardable s t = true) :
    Rescheduled s (withdrawn s t) := by
  obtain ⟨q, n, hw, _⟩ := withdrawn_spec h hd
  rw [hw]
  refine Rescheduled.thenThread ?_ t fun _ => rfl
  exact ⟨rfl, fun _ => rfl⟩

/-- The operations that can change the pages or the saved context of a thread. -/
def touchesPages : Op → Bool
  | .adoptBootEnvironment .. | .createSuspendedThread .. | .closeHandle .. | .contextSwitch ..
  | .tryReclaimThread .. | .discardCreatedThread .. | .collect .. | .teardown .. => true
  | _ => false

/-- The operation writes to the local storage of its caller. -/
def setsFls : Op → Bool
  | .setFls .. => true
  | _ => false

theorem step_rescheduled (s : State) {op : Op} (hop : touchesPages op = false)
    (hfls : setsFls op = false) : Rescheduled s (step s op) := by
  have herror : ∀ s1 error, Rescheduled s s1 → Rescheduled s (setLastError s1 error) :=
    fun s1 error h1 => h1.trans (setLastError_rescheduled s1 error)
  cases op with
  | configureStackVm p a b =>
    change Rescheduled s (configureStackVm s p a b).2
    unfold configureStackVm
    split
    · exact Rescheduled.refl s
    · split <;> exact ⟨rfl, fun _ => rfl⟩
  | configureClock p a =>
    change Rescheduled s (configureClock s p a).2
    unfold configureClock
    split <;> exact ⟨rfl, fun _ => rfl⟩
  | createEvent p m i a => exact createEvent_rescheduled s p m i a
  | createMemoryResourceNotification p n a =>
    exact createMemoryResourceNotification_rescheduled s p n a
  | installStandardStream p r b k => exact installStandardStream_rescheduled s p r b k
  | resumeThread handle => exact resumeThread_rescheduled s handle
  | signalEvent handle => exact signalEvent_rescheduled s handle
  | resetEvent handle => exact resetEvent_rescheduled s handle
  | armWaitTimeout d => exact armWaitTimeout_rescheduled s d
  | serviceTimeouts now => exact serviceTimeouts_rescheduled s now
  | pollTimeouts k => exact pollTimeouts_rescheduled s k
  | prepareWaitRecord handle p => exact prepareWaitRecord_rescheduled s handle p
  | finishWait handle => exact finishWait_rescheduled s handle
  | prepareYield p => exact prepareYield_rescheduled s p
  | prepareTerminate v p => exact prepareTerminate_rescheduled s v p
  | tryDestroyEvent handle =>
    change Rescheduled s (tryDestroyEvent s handle).2
    rcases tryDestroyEvent_cases s handle with heq | ⟨o, e, _, _, _, _, heq⟩ <;> rw [heq] <;>
      exact ⟨rfl, fun _ => rfl⟩
  | tryDestroyMemoryResourceNotification handle =>
    change Rescheduled s (tryDestroyMemoryResourceNotification s handle).2
    unfold tryDestroyMemoryResourceNotification
    split
    · exact Rescheduled.refl s
    · split <;> exact ⟨rfl, fun _ => rfl⟩
  | noteWorkerStarted =>
    change Rescheduled s (noteWorkerStarted s)
    unfold noteWorkerStarted
    split
    · exact Rescheduled.refl s
    · split
      · exact (Rescheduled.refl s).thenThread _ fun _ => rfl
      · exact Rescheduled.refl s
  | setFls i v => cases hfls
  | setLastError v => exact setLastError_rescheduled s v
  | waitOne a handle m b k l =>
    refine waitOne_rule (P := Rescheduled s) (Rescheduled.refl s) (tokenTaken_rescheduled s)
      (pollTimeouts_rescheduled s l) ?_ ?_ ?_ herror
    · intro s1 deadline h1
      exact h1.trans (armWaitTimeout_rescheduled s1 deadline)
    · intro s1 h1
      exact h1.trans (prepareWaitRecord_rescheduled s1 handle true)
    · intro s1 h1
      exact h1.trans (finishWait_rescheduled s1 handle)
  | setEventContract a handle =>
    exact eventContract_rule (P := Rescheduled s) (Rescheduled.refl s)
      (signalEvent_rescheduled s handle) herror
  | resetEventContract a handle =>
    exact eventContract_rule (P := Rescheduled s) (Rescheduled.refl s)
      (resetEvent_rescheduled s handle) herror
  | store memory => exact ⟨rfl, fun _ => rfl⟩
  | adoptBootEnvironment p b => cases hop
  | createSuspendedThread p e a b d w => cases hop
  | closeHandle handle u => cases hop
  | contextSwitch p f => cases hop
  | tryReclaimThread t u => cases hop
  | discardCreatedThread t u => cases hop
  | collect p u => cases hop
  | teardown p u => cases hop

theorem setFls_kept (s : State) (slot value : Nat) : Kept s (setFls s slot value) := by
  unfold setFls
  split
  · exact Kept.refl s
  · split
    · exact ⟨rfl, fun t => view_modThread Tcb.keepView s _ rfl t⟩
    · exact Kept.refl s

theorem step_kept (s : State) {op : Op} (hop : touchesPages op = false) : Kept s (step s op) := by
  cases hfls : setsFls op with
  | false => exact (step_rescheduled s hop hfls).kept
  | true =>
    cases op with
    | setFls slot value => exact setFls_kept s slot value
    | _ => cases hfls

end Gate4Harness.Scheduler
